import TcpShift.Bridge
import TcpShift.Lib.History

set_option autoImplicit false

/- What the history of a connection has to look like, and the invariant by which the
loops of the bridge keep it so: the public bytes not yet written are those of the pbuf
chain, and the backend bytes not yet handed to lwIP are those still unread. -/
namespace TcpShift.Bridge

def Interaction.received : Interaction → List UInt8
  | .publicReceived bytes => bytes
  | _ => []

def Interaction.written : Interaction → List UInt8
  | .backendWrote bytes => bytes
  | _ => []

def Interaction.accepted : Interaction → List UInt8
  | .publicAccepted bytes => bytes
  | _ => []

def Interaction.credited : Interaction → Nat
  | .tcpRecved length => length
  | _ => 0

/-- The bytes lwIP has delivered from the public side. -/
def received (history : List Interaction) : List UInt8 := history.flatMap Interaction.received

/-- The bytes written to the backend. -/
def written (history : List Interaction) : List UInt8 := history.flatMap Interaction.written

/-- The bytes `tcp_write` has accepted for the public side. -/
def accepted (history : List Interaction) : List UInt8 := history.flatMap Interaction.accepted

/-- The total passed to `tcp_recved`. -/
def credited (history : List Interaction) : Nat := (history.map Interaction.credited).sum

section Concat

variable (history : List Interaction) (interaction : Interaction)

@[simp] theorem received_concat :
    received (history ++ [interaction]) = received history ++ interaction.received := by
  simp [received]

@[simp] theorem written_concat :
    written (history ++ [interaction]) = written history ++ interaction.written := by
  simp [written]

@[simp] theorem accepted_concat :
    accepted (history ++ [interaction]) = accepted history ++ interaction.accepted := by
  simp [accepted]

@[simp] theorem credited_concat :
    credited (history ++ [interaction]) = credited history + interaction.credited := by
  simp [credited]

end Concat

/-- No byte is lost, repeated or moved on its way through the bridge. -/
def InOrder (stream : List UInt8) (history : List Interaction) : Prop :=
  written history <+: received history ∧ accepted history <+: stream

/-- The public stream has ended and all of it is written to the backend. -/
def PublicCarried (history : List Interaction) : Prop :=
  .publicEnded ∈ history ∧ written history = received history

/-- The backend stream has ended and all of it is accepted by `tcp_write`. -/
def BackendCarried (stream : List UInt8) (history : List Interaction) : Prop :=
  .backendEnded ∈ history ∧ accepted history = stream

/-- The public connection was reset, by either side. -/
def Broken (history : List Interaction) : Prop :=
  .publicAborted ∈ history ∨ .publicErrored ∈ history

/-- The calls that put a FIN on the public connection. -/
def SendsFin (interaction : Interaction) : Prop :=
  interaction = .publicShutdown ∨ interaction = .publicClosed

structure Orderly (stream : List UInt8) (history : List Interaction) : Prop where
  inOrder : History.Always (InOrder stream) history
  backendHalfClose : History.OnlyAfter (· = .backendShutdown) PublicCarried history
  publicHalfClose : History.OnlyAfter SendsFin (BackendCarried stream) history
  release : History.OnlyAfter (· = .backendClosed)
    (fun before => Broken before ∨ PublicCarried before ∧ BackendCarried stream before) history

/-- What an interaction needs of the history before it. -/
def Admits (stream : List UInt8) (history : List Interaction) : Interaction → Prop
  | .backendWrote bytes => written history ++ bytes <+: received history
  | .publicAccepted bytes => accepted history ++ bytes <+: stream
  | .backendShutdown => PublicCarried history
  | .publicShutdown => BackendCarried stream history
  | .publicClosed => BackendCarried stream history
  | .backendClosed => Broken history ∨ PublicCarried history ∧ BackendCarried stream history
  | _ => True

theorem inOrder_concat {stream : List UInt8} {history : List Interaction}
    {interaction : Interaction} (before : InOrder stream history)
    (admits : Admits stream history interaction) :
    InOrder stream (history ++ [interaction]) := by
  unfold InOrder
  rw [written_concat, received_concat, accepted_concat]
  constructor
  · cases interaction with
    | backendWrote bytes =>
        simp only [Interaction.written, Interaction.received, List.append_nil]
        exact admits
    | publicReceived bytes =>
        simp only [Interaction.written, Interaction.received, List.append_nil]
        exact before.1.trans (List.prefix_append _ _)
    | _ =>
        simp only [Interaction.written, Interaction.received, List.append_nil]
        exact before.1
  · cases interaction with
    | publicAccepted bytes => exact admits
    | _ =>
        simp only [Interaction.accepted, List.append_nil]
        exact before.2

theorem Orderly.concat {stream : List UInt8} {history : List Interaction}
    {interaction : Interaction} (orderly : Orderly stream history)
    (admits : Admits stream history interaction) :
    Orderly stream (history ++ [interaction]) := by
  constructor
  · exact orderly.inOrder.concat (inOrder_concat orderly.inOrder.now admits)
  · apply orderly.backendHalfClose.concat
    intro marked
    rwa [marked] at admits
  · apply orderly.publicHalfClose.concat
    intro marked
    rcases marked with shut | closed
    · rwa [shut] at admits
    · rwa [closed] at admits
  · apply orderly.release.concat
    intro marked
    rwa [marked] at admits

theorem orderly_nil (stream : List UInt8) : Orderly stream [] := by
  constructor
  · apply History.always_nil
    exact ⟨List.prefix_rfl, List.nil_prefix⟩
  · exact History.onlyAfter_nil _ _
  · exact History.onlyAfter_nil _ _
  · exact History.onlyAfter_nil _ _

/-- What the history of a connection shows between two callbacks. -/
structure Relays (wire : Wire) : Prop where
  orderly : Orderly wire.backendStream wire.history
  credited : credited wire.history = (written wire.history).length

/-- The public bytes that wait for the backend. -/
def Flow.pending (flow : Flow) : List UInt8 := flow.publicRx.flatten

/-- The way to the backend; `others` counts the bytes pending on other connections. -/
structure Upstream (others : Nat) (frame : Frame) : Prop where
  relays : Relays frame.wire
  held : received frame.wire.history = written frame.wire.history ++ frame.flow.pending
  window : frame.wire.rcvWnd + frame.flow.pending.length = tcpWnd
  counted : frame.bridge.pendingPublicBytes = others + frame.flow.pending.length
  attached : frame.flow.pcb = true
  publicEnd : frame.flow.publicEof = true → .publicEnded ∈ frame.wire.history

/-- The way to the public side, with the next `left` unread bytes already accepted. -/
structure Ahead (left : Nat) (frame : Frame) : Prop where
  read : frame.wire.backendStream =
    accepted frame.wire.history ++ frame.wire.backendUnread.drop left
  enough : left ≤ frame.wire.backendUnread.length
  unended : frame.flow.backendEof = false

structure Downstream (frame : Frame) : Prop where
  read : frame.wire.backendStream = accepted frame.wire.history ++ frame.wire.backendUnread
  backendEnd : frame.flow.backendEof = true →
    .backendEnded ∈ frame.wire.history ∧ frame.wire.backendUnread = []

theorem ahead_zero_iff {frame : Frame} (unended : frame.flow.backendEof = false) :
    Ahead 0 frame ↔ Downstream frame := by
  constructor
  · intro ahead
    constructor
    · simpa using ahead.read
    · simp [unended]
  · intro down
    constructor
    · simpa using down.read
    · exact Nat.zero_le _
    · exact unended

theorem Upstream.small {others : Nat} {frame : Frame} (up : Upstream others frame) :
    frame.flow.pending.length < 2 ^ 16 := by
  have window := up.window
  simp only [tcpWnd] at window
  omega

/-- Only these interactions change what the way to the backend counts. -/
def Interaction.movesUpstream : Interaction → Bool
  | .publicReceived _ => true
  | .backendWrote _ => true
  | .tcpRecved _ => true
  | _ => false

theorem Interaction.silent_of_aside {interaction : Interaction}
    (aside : interaction.movesUpstream = false) :
    interaction.received = [] ∧ interaction.written = [] ∧ interaction.credited = 0 := by
  cases interaction with
  | publicReceived bytes => cases aside
  | backendWrote bytes => cases aside
  | tcpRecved length => cases aside
  | _ => exact ⟨rfl, rfl, rfl⟩

theorem Relays.log {wire : Wire} (relays : Relays wire) (interaction : Interaction)
    (noWritten : interaction.written = []) (noCredit : interaction.credited = 0)
    (admits : Admits wire.backendStream wire.history interaction) :
    Relays (wire.log interaction) := by
  refine ⟨relays.orderly.concat admits, ?_⟩
  simp only [Wire.log, credited_concat, written_concat, noCredit, noWritten, List.append_nil,
    Nat.add_zero]
  exact relays.credited

theorem Upstream.log {others : Nat} {frame : Frame} (up : Upstream others frame)
    (interaction : Interaction) (aside : interaction.movesUpstream = false)
    (admits : Admits frame.wire.backendStream frame.wire.history interaction) :
    Upstream others (frame.log interaction) := by
  obtain ⟨noReceived, noWritten, noCredit⟩ := Interaction.silent_of_aside aside
  refine ⟨up.relays.log interaction noWritten noCredit admits, ?_, up.window, up.counted,
    up.attached, ?_⟩
  · simp only [Frame.log, Wire.log, received_concat, written_concat, noReceived, noWritten,
      List.append_nil]
    exact up.held
  · intro ended
    exact List.mem_append_left _ (up.publicEnd ended)

theorem Downstream.log {frame : Frame} (down : Downstream frame) (interaction : Interaction)
    (aside : interaction.accepted = []) : Downstream (frame.log interaction) := by
  constructor
  · simp only [Frame.log, Wire.log, accepted_concat, aside, List.append_nil]
    exact down.read
  · intro ended
    obtain ⟨seen, empty⟩ := down.backendEnd ended
    exact ⟨List.mem_append_left _ seen, empty⟩

/-- Counters and flags that no stream depends on may change freely. -/
theorem Upstream.of_same {others : Nat} {frame after : Frame} (up : Upstream others frame)
    (wire : after.wire = frame.wire) (rx : after.flow.publicRx = frame.flow.publicRx)
    (pending : after.bridge.pendingPublicBytes = frame.bridge.pendingPublicBytes)
    (pcb : after.flow.pcb = frame.flow.pcb) (eof : after.flow.publicEof = frame.flow.publicEof) :
    Upstream others after := by
  have samePending : after.flow.pending = frame.flow.pending := by
    rw [Flow.pending, rx, Flow.pending]
  constructor
  · rw [wire]
    exact up.relays
  · rw [wire, samePending]
    exact up.held
  · rw [wire, samePending]
    exact up.window
  · rw [pending, samePending]
    exact up.counted
  · rw [pcb]
    exact up.attached
  · rw [wire, eof]
    exact up.publicEnd

theorem Downstream.of_same {frame after : Frame} (down : Downstream frame)
    (wire : after.wire = frame.wire) (eof : after.flow.backendEof = frame.flow.backendEof) :
    Downstream after := by
  constructor
  · rw [wire]
    exact down.read
  · rw [wire, eof]
    exact down.backendEnd

/-- A failing function may stop anywhere on the way to the public side. -/
def Reply.Sound (others : Nat) : Reply → Prop
  | .ok frame => Upstream others frame ∧ Downstream frame
  | .failed frame => Upstream others frame

theorem pbufFreeHeader_flatten (chain : List Pbuf) (count : Nat) :
    (pbufFreeHeader chain count).flatten = chain.flatten.drop count := by
  induction chain generalizing count with
  | nil => simp [pbufFreeHeader]
  | cons payload rest ih =>
      simp only [pbufFreeHeader]
      split
      · rename_i none
        simp [none]
      · split
        · rename_i covered
          rw [ih, List.flatten_cons, List.drop_append, List.drop_of_length_le covered,
            List.nil_append]
        · rename_i short
          rw [List.flatten_cons, List.flatten_cons, List.drop_append_of_le_length (by omega)]

theorem gatherIov_isPrefix (room : Nat) (chain : List Pbuf) :
    (gatherIov room chain).flatten <+: chain.flatten := by
  induction chain generalizing room with
  | nil => simp [gatherIov]
  | cons payload rest ih =>
      cases room with
      | zero => exact List.nil_prefix
      | succ room =>
          simp only [gatherIov]
          split
          · rename_i empty
            rw [List.flatten_cons, List.length_eq_zero_iff.mp empty, List.nil_append]
            exact ih (room + 1)
          · rw [List.flatten_cons, List.flatten_cons]
            exact (List.prefix_append_right_inj payload).mpr (ih room)

/-- The vector is only empty when no pbuf of the chain holds payload. -/
theorem flatten_eq_nil_of_gatherIov {room : Nat} {chain : List Pbuf}
    (empty : gatherIov (room + 1) chain = []) : chain.flatten = [] := by
  induction chain with
  | nil => rfl
  | cons payload rest ih =>
      simp only [gatherIov] at empty
      split at empty
      · rename_i noPayload
        rw [List.flatten_cons, List.length_eq_zero_iff.mp noPayload, ih empty, List.nil_append]
      · cases empty

theorem totLen_eq {others : Nat} {frame : Frame} (up : Upstream others frame) :
    totLen frame.flow.publicRx = frame.flow.pending.length :=
  Nat.mod_eq_of_lt up.small

theorem discountPending_counted {others count : Nat} {bridge : Counters} (left : Nat)
    (counted : bridge.pendingPublicBytes = others + (count + left)) :
    (discountPending count bridge).pendingPublicBytes = others + left := by
  simp only [discountPending, counted]
  split <;> omega

/-- Releasing a chain without payload changes nothing that is carried. -/
theorem Upstream.release_empty {others : Nat} {frame : Frame} (up : Upstream others frame)
    (empty : frame.flow.pending = []) : Upstream others (releasePendingPublic frame) := by
  unfold releasePendingPublic
  split
  · exact up
  · have counted := up.counted
    rw [empty, List.length_nil] at counted
    have none : totLen frame.flow.publicRx = 0 := by
      rw [totLen_eq up, empty, List.length_nil]
    have window := up.window
    have held := up.held
    rw [empty] at window held
    refine ⟨up.relays, held, window, ?_, up.attached, up.publicEnd⟩
    rw [none]
    exact discountPending_counted 0 counted

theorem Upstream.wrote {others : Nat} {frame : Frame} {bytes : List UInt8}
    (up : Upstream others frame) (carried : bytes <+: frame.flow.pending) :
    Upstream others (wroteToBackend bytes frame) := by
  obtain ⟨rest, split⟩ := carried
  have total : frame.flow.pending.length = bytes.length + rest.length := by
    rw [← split, List.length_append]
  have exactCount : u16 bytes.length = bytes.length := by
    have small := up.small
    exact Nat.mod_eq_of_lt (by omega)
  have left : (wroteToBackend bytes frame).flow.pending = rest := by
    change (pbufFreeHeader frame.flow.publicRx (u16 bytes.length)).flatten = rest
    rw [pbufFreeHeader_flatten, exactCount]
    change frame.flow.pending.drop bytes.length = rest
    rw [← split, List.drop_left]
  have admits : Admits frame.wire.backendStream frame.wire.history (.backendWrote bytes) := by
    change written _ ++ bytes <+: received _
    rw [up.held, ← split, ← List.append_assoc]
    exact List.prefix_append _ _
  have window := up.window
  have counted := up.counted
  rw [total] at window counted
  refine ⟨⟨(up.relays.orderly.concat admits).concat trivial, ?_⟩, ?_, ?_, ?_, up.attached, ?_⟩
  · simp only [wroteToBackend, tcpRecved, Wire.log, credited_concat, written_concat,
      Interaction.credited, Interaction.written, List.append_nil, List.length_append,
      Nat.add_zero, exactCount, up.relays.credited]
  · rw [left]
    simp only [wroteToBackend, tcpRecved, Wire.log, received_concat, written_concat,
      Interaction.received, Interaction.written, List.append_nil]
    rw [up.held, ← split, List.append_assoc]
  · rw [left]
    simp only [wroteToBackend, tcpRecved, Wire.log, exactCount]
    omega
  · rw [left]
    exact discountPending_counted rest.length counted
  · intro ended
    exact List.mem_append_left _ (List.mem_append_left _ (up.publicEnd ended))

theorem Downstream.wrote {frame : Frame} (down : Downstream frame) (bytes : List UInt8) :
    Downstream (wroteToBackend bytes frame) := by
  have logged : Downstream ((frame.log (.backendWrote bytes)).log
      (.tcpRecved (u16 bytes.length))) := by
    apply Downstream.log _ _ rfl
    exact down.log _ rfl
  exact ⟨logged.read, logged.backendEnd⟩

@[simp] theorem releasePendingPublic_wire (frame : Frame) :
    (releasePendingPublic frame).wire = frame.wire := by
  unfold releasePendingPublic
  split <;> rfl

@[simp] theorem releasePendingPublic_backendEof (frame : Frame) :
    (releasePendingPublic frame).flow.backendEof = frame.flow.backendEof := by
  unfold releasePendingPublic
  split <;> rfl

/-- One pass of the flush loop takes one answer: the cases are those of the loop. -/
theorem flushPublicToBackend_sound {others : Nat} {answers : List (Call WritevAnswer)}
    {frame : Frame} {reply : Reply} (up : Upstream others frame) (down : Downstream frame)
    (flushed : flushPublicToBackend answers frame = some reply) : reply.Sound others := by
  fun_induction flushPublicToBackend answers frame with
  | case1 answers frame idle =>
      cases flushed
      exact ⟨up, down⟩
  | case2 answers frame busy iov empty =>
      cases flushed
      constructor
      · apply up.release_empty
        exact flatten_eq_nil_of_gatherIov (List.isEmpty_iff.mp empty)
      · exact down.of_same (releasePendingPublic_wire frame)
          (releasePendingPublic_backendEof frame)
  | case3 frame busy iov gathered => cases flushed
  | case4 frame busy iov gathered rest ih => exact ih up down flushed
  | case5 frame busy iov gathered rest =>
      cases flushed
      exact up
  | case6 frame busy iov gathered rest =>
      cases flushed
      exact ⟨up.of_same rfl rfl rfl rfl rfl, down.of_same rfl rfl⟩
  | case7 frame busy iov gathered count rest tooMany => cases flushed
  | case8 frame busy iov gathered rest allowed =>
      cases flushed
      exact up
  | case9 frame busy iov gathered count rest allowed some ih =>
      have carried : iov.flatten.take count <+: frame.flow.pending :=
        (List.take_prefix _ _).trans (gatherIov_isPrefix _ _)
      exact ih (up.wrote carried) (down.wrote _) flushed

theorem recvCan_pos {wire : Wire} {wanted count : Nat} (can : wire.recvCan wanted count = true)
    (some : count ≠ 0) : count ≤ wanted ∧ count ≤ wire.backendUnread.length := by
  simp only [Wire.recvCan, some, if_false, decide_eq_true_eq] at can
  exact can

theorem Ahead.consume {left count : Nat} {frame : Frame} (ahead : Ahead left frame)
    (inside : count ≤ left) :
    Ahead (left - count) { frame with wire := frame.wire.consume count } := by
  have enough := ahead.enough
  constructor
  · simp only [Wire.consume, Wire.log, accepted_concat, Interaction.accepted, List.append_nil,
      List.drop_drop]
    rw [Nat.add_sub_cancel' inside]
    exact ahead.read
  · simp only [Wire.consume, Wire.log, List.length_drop]
    omega
  · exact ahead.unended

theorem Upstream.consume {others : Nat} {frame : Frame} (up : Upstream others frame)
    (count : Nat) : Upstream others { frame with wire := frame.wire.consume count } := by
  have logged := up.log (.backendConsumed (frame.wire.backendUnread.take count)) rfl trivial
  exact ⟨⟨logged.relays.orderly, logged.relays.credited⟩, logged.held, logged.window,
    logged.counted, logged.attached, logged.publicEnd⟩

/-- Between the passes of the pump loop the two sides of the way back agree. -/
def Reply.Level (others : Nat) : Reply → Prop
  | .ok frame => Upstream others frame ∧ Ahead 0 frame
  | .failed frame => Upstream others frame

/-- The loop consumes exactly the bytes that `tcp_write` has accepted. -/
theorem consumeBackend_level {others length consumed : Nat}
    {answers : List (Call RecvAnswer)} {frame : Frame} {reply : Reply}
    (up : Upstream others frame) (ahead : Ahead (length - consumed) frame)
    (done : consumeBackend length answers consumed frame = some reply) :
    reply.Level others := by
  fun_induction consumeBackend length answers consumed frame with
  | case1 answers consumed frame finished =>
      cases done
      rw [Nat.sub_eq_zero_of_le finished] at ahead
      exact ⟨up, ahead⟩
  | case2 consumed frame wanting => cases done
  | case3 consumed frame wanting rest ih => exact ih up ahead done
  | case4 consumed frame wanting rest =>
      cases done
      exact up
  | case5 consumed frame wanting rest =>
      cases done
      exact up
  | case6 consumed frame wanting result rest impossible => cases done
  | case7 consumed frame wanting rest can =>
      cases done
      exact up
  | case8 consumed frame wanting result rest can some ih =>
      have bounds := recvCan_pos (by simpa using can) some
      apply ih (up.consume result) _ done
      rw [← Nat.sub_sub]
      exact ahead.consume bounds.1

def Pass.Sound (others : Nat) : Pass → Prop
  | .again frame => Upstream others frame ∧ Ahead 0 frame
  | .stop frame => Upstream others frame ∧ Downstream frame
  | .failed frame => Upstream others frame

theorem markBackendReadBlocked_sound {others : Nat} {frame : Frame}
    (up : Upstream others frame) (down : Downstream frame) :
    Upstream others (markBackendReadBlocked frame) ∧
      Downstream (markBackendReadBlocked frame) := by
  unfold markBackendReadBlocked
  split
  · exact ⟨up, down⟩
  · exact ⟨up.of_same rfl rfl rfl rfl rfl, down.of_same rfl rfl⟩

theorem consumeWritten_sound {others available : Nat} {answers : List (Call RecvAnswer)}
    {frame : Frame} {pass : Pass} (up : Upstream others frame) (ahead : Ahead available frame)
    (done : consumeWritten available answers frame = some pass) : pass.Sound others := by
  unfold consumeWritten at done
  split at done
  · cases done
  · rename_i after failed
    cases done
    exact consumeBackend_level up (by rwa [Nat.sub_zero]) failed
  · rename_i after consumed
    cases done
    obtain ⟨upAfter, level⟩ := consumeBackend_level up (by rwa [Nat.sub_zero]) consumed
    exact ⟨upAfter.of_same rfl rfl rfl rfl rfl, ⟨level.read, level.enough, level.unended⟩⟩

theorem Ahead.accept {available : Nat} {frame : Frame} (level : Ahead 0 frame)
    (peeked : available ≤ frame.wire.backendUnread.length) :
    Ahead available
      (frame.log (.publicAccepted (frame.wire.backendUnread.take available))) := by
  constructor
  · simp only [Frame.log, Wire.log, accepted_concat, Interaction.accepted, List.append_assoc,
      List.take_append_drop]
    exact level.read
  · exact peeked
  · exact level.unended

/-- The peek returns what is about to be consumed, so that what `tcp_write` accepts goes
on where the accepted bytes ended. -/
theorem writePeeked_sound {others available : Nat} {answers : PumpAnswers} {frame : Frame}
    {pass : Pass} (up : Upstream others frame) (level : Ahead 0 frame)
    (small : available < 2 ^ 16) (peeked : available ≤ frame.wire.backendUnread.length)
    (done : writePeeked available answers frame = some pass) : pass.Sound others := by
  have whole : (frame.wire.backendUnread.take available).take (u16 available) =
      frame.wire.backendUnread.take available := by
    rw [u16, Nat.mod_eq_of_lt small, List.take_take, Nat.min_self]
  simp only [writePeeked, whole] at done
  split at done
  · cases done
    exact markBackendReadBlocked_sound up ((ahead_zero_iff level.unended).mp level)
  · apply consumeWritten_sound _ (level.accept peeked) done
    apply up.log _ rfl
    change accepted _ ++ _ <+: frame.wire.backendStream
    rw [level.read, List.drop_zero]
    exact (List.prefix_append_right_inj _).mpr (List.take_prefix _ _)
  · cases done
    exact up

theorem peekLength_le (sndbuf : Nat) : peekLength sndbuf ≤ 4096 := by
  unfold peekLength backendReadChunk
  split <;> omega

theorem pumpPass_sound {others : Nat} {answers : PumpAnswers} {frame : Frame} {pass : Pass}
    (up : Upstream others frame) (level : Ahead 0 frame)
    (done : pumpPass answers frame = some pass) : pass.Sound others := by
  have down : Downstream frame := (ahead_zero_iff level.unended).mp level
  unfold pumpPass at done
  simp only at done
  split at done
  · cases done
    exact markBackendReadBlocked_sound up down
  · split at done
    · cases done
    · cases done
      exact up
    · cases done
      exact ⟨up.log _ rfl trivial, down.log _ rfl⟩
    · rename_i available peeked
      split at done
      · cases done
      · rename_i can
        split at done
        · rename_i ended
          cases done
          have upEnded := up.log .backendEnded rfl trivial
          have downEnded := down.log .backendEnded rfl
          constructor
          · exact upEnded.of_same rfl rfl rfl rfl rfl
          · refine ⟨downEnded.read, ?_⟩
            intro _
            constructor
            · exact List.mem_append_right _ List.mem_cons_self
            · change frame.wire.backendUnread = []
              simpa [Wire.recvCan, ended] using can
        · rename_i some
          have bounds := recvCan_pos (by simpa using can) some
          have short := peekLength_le (tcpSndbuf answers.sndBuf)
          exact writePeeked_sound up level (by omega) bounds.2 done

theorem pumpLoop_sound {others budget : Nat} {answers : List PumpAnswers} {frame : Frame}
    {reply : Reply} (up : Upstream others frame) (level : Ahead 0 frame)
    (done : pumpLoop budget answers frame = some reply) : reply.Sound others := by
  induction budget generalizing answers frame with
  | zero =>
      cases done
      exact ⟨up, (ahead_zero_iff level.unended).mp level⟩
  | succ budget ih =>
      cases answers with
      | nil => cases done
      | cons answer rest =>
          simp only [pumpLoop] at done
          split at done
          · cases done
          · rename_i after failed
            cases done
            exact pumpPass_sound up level failed
          · rename_i after stopped
            cases done
            exact pumpPass_sound up level stopped
          · rename_i after passed
            obtain ⟨upAfter, levelAfter⟩ := pumpPass_sound up level passed
            exact ih upAfter levelAfter done

theorem pumpBackendToPublic_sound {others : Nat} {answers : List PumpAnswers} {frame : Frame}
    {reply : Reply} (up : Upstream others frame) (down : Downstream frame)
    (done : pumpBackendToPublic answers frame = some reply) : reply.Sound others := by
  unfold pumpBackendToPublic at done
  split at done
  · cases done
    exact ⟨up, down⟩
  · rename_i reading
    have unended : frame.flow.backendEof = false := by
      simp only [Bool.or_eq_true, not_or, Bool.not_eq_true] at reading
      exact reading.1.2
    exact pumpLoop_sound up ((ahead_zero_iff unended).mpr down) done

end TcpShift.Bridge
