import TcpShift.EcnEndpoint

set_option autoImplicit false

/- Congestion notification over whole runs of one end: what its history says it must
echo, owes and may answer, and that its state and every packet agree with that. -/
namespace TcpShift

namespace Ecn

@[simp] theorem foldl_note {σ : Type} (step : σ → Note → σ) (state : σ) (holds : Bool)
    (what : Note) :
    (note holds what).foldl step state = if holds then step state what else state := by
  cases holds <;> rfl

@[simp] theorem any_note (test : Note → Bool) (holds : Bool) (what : Note) :
    (note holds what).any test = (holds && test what) := by
  cases holds <;> simp [note]

theorem count_note (holds : Bool) (what other : Note) :
    (note holds what).count other = (holds && what = other).toNat := by
  cases holds with
  | false => rfl
  | true => by_cases same : what = other <;> simp [note, same]

theorem mem_note {holds : Bool} {what other : Note} (inside : other ∈ note holds what) :
    holds = true ∧ other = what := by
  cases holds <;> simp_all [note]

/-- `seqno + TCP_TCPLEN`. -/
def Packet.ends (packet : Packet) : Seq :=
  packet.seqno + BitVec.ofNat 32 (tcplen packet.len packet.flags)

def echoNote (echo : Bool) : Note → Bool
  | .cwrArrived => false
  | .marked => true
  | _ => echo

/-- A mark came in after the last CWR. -/
def echoes (history : List Note) : Bool := history.foldl echoNote false

def owesNote (owed : Bool) : Note → Bool
  | .armed _ => true
  | .sent packet _ => if packet.flags.cwr then false else owed
  | _ => owed

/-- A reason to reduce, or the handshake, came after the last CWR that left. -/
def owes (owed : Bool) (history : List Note) : Bool := history.foldl owesNote owed

theorem owes_append (owed : Bool) (first second : List Note) :
    owes owed (first ++ second) = owes (owes owed first) second :=
  List.foldl_append

/-- How far the last response to an echoed mark has got. -/
inductive Window where
  | never
  /-- No CWR left since. -/
  | owing
  /-- CWR left in a segment that ends there. -/
  | sent (ends : Seq)
  /-- The last segment with CWR was acknowledged. -/
  | closed
deriving DecidableEq, Repr

def Window.note : Window → Note → Window
  | .owing, .sent packet _ => if packet.flags.cwr then .sent packet.ends else .owing
  | .sent ends, .sent packet _ => if packet.flags.cwr then .sent packet.ends else .sent ends
  | .closed, .sent packet _ => if packet.flags.cwr then .sent packet.ends else .closed
  | .sent ends, .acknowledged ackno => if ackno.afterEq ends then .closed else .sent ends
  | _, .armed .echo => .owing
  | window, _ => window

def windowOf (history : List Note) : Window := history.foldl Window.note .never

/-- Nothing of the last response is under way. A segment that ends at position zero of the
sequence space leaves no trace in the state. -/
def Window.answered : Window → Bool
  | .never => true
  | .owing => false
  | .sent ends => ends = 0
  | .closed => true

/-- An echoed mark is answered only when the previous answer was acknowledged. -/
def Answerable (before : List Note) (event : Note) : Prop :=
  event = .armed .echo → (windowOf before).answered = true

theorem answerable_of_ne {event : Note} (other : event ≠ .armed .echo) (before : List Note) :
    Answerable before event :=
  fun same => absurd same other

def attempts (pos : Nat) : Note → Bool
  | .sent _ (some there) => there = pos
  | .refused there => there = pos
  | _ => false

/-- A segment at this position was handed out before. -/
def attempted (before : List Note) : Option Nat → Bool
  | some pos => before.any (attempts pos)
  | none => false

/-- What the header of every packet says: the echo of what was marked, ECT(0) on the first
attempt at new data and nowhere else, and CWR exactly there when it is owed. -/
def WellMarked (negotiated owed : Bool) (before : List Note) : Note → Prop
  | .sent packet pos =>
      packet.flags.ece =
          (negotiated && (echoes before && (packet.flags.ack && !packet.flags.rst))) ∧
        inputEcn packet.tos =
          (if negotiated && (packet.len ≠ 0 && !attempted before pos) then ipEcnEct0 else 0) ∧
        packet.flags.cwr = (inputEcn packet.tos = ipEcnEct0 && owes owed before)
  | _ => True

/-- The state agrees with how far the last response has got. -/
def Window.Holds (pcb : Pcb) : Window → Prop
  | .never => True
  | .owing => pcb.tfEcnCwr = true
  | .sent ends => pcb.tfEcnCwr = true ∨ pcb.ecnRecover = ends
  | .closed => True

@[simp] theorem Window.note_marked (window : Window) : window.note .marked = window := by
  cases window <;> rfl

@[simp] theorem Window.note_cwrArrived (window : Window) : window.note .cwrArrived = window := by
  cases window <;> rfl

@[simp] theorem Window.note_gateEntered (window : Window) : window.note .gateEntered = window := by
  cases window <;> rfl

@[simp] theorem Window.note_gateReleased (window : Window) :
    window.note .gateReleased = window := by
  cases window <;> rfl

@[simp] theorem Window.note_refused (window : Window) (pos : Nat) :
    window.note (.refused pos) = window := by
  cases window <;> rfl

@[simp] theorem Window.note_echo (window : Window) : window.note (.armed .echo) = .owing := by
  cases window <;> rfl

theorem Window.note_armed (window : Window) {cause : Cause} (other : cause ≠ .echo) :
    window.note (.armed cause) = window := by
  cases window <;> cases cause <;> first | rfl | contradiction

/-- A packet without CWR. -/
theorem Window.note_plain (window : Window) {packet : Packet} (plain : packet.flags.cwr = false)
    (pos : Option Nat) : window.note (.sent packet pos) = window := by
  cases window <;> simp [Window.note, plain]

theorem Window.holds_of_owing {window : Window} {pcb : Pcb} (owes : pcb.tfEcnCwr = true) :
    window.Holds pcb := by
  cases window with
  | never => trivial
  | owing => exact owes
  | sent ends => exact .inl owes
  | closed => trivial

/-- An acknowledgement moves the two views of an open response together. -/
theorem Window.Holds.acknowledged {window : Window} {pcb after : Pcb} {flags : TcpFlags}
    {ackno : Seq} (holds : window.Holds pcb) (owes : after.tfEcnCwr = pcb.tfEcnCwr)
    (recover : after.ecnRecover = recoverAfter pcb flags ackno) :
    (if flags.ack then window.note (.acknowledged ackno) else window).Holds after := by
  cases window with
  | never => cases flags.ack <;> trivial
  | closed => cases flags.ack <;> trivial
  | owing =>
      cases flags.ack <;> exact owes.trans holds
  | sent ends =>
      by_cases covered : flags.ack = true ∧ ackno.afterEq ends = true
      · rw [if_pos covered.1, Window.note, if_pos covered.2]
        trivial
      · have stays : (if flags.ack then (Window.sent ends).note (.acknowledged ackno)
            else .sent ends) = .sent ends := by
          split
          · next ack => rw [Window.note, if_neg (fun reached => covered ⟨ack, reached⟩)]
          · rfl
        rw [stays]
        rcases holds with owed | here
        · exact .inl (owes.trans owed)
        · refine .inr ?_
          rw [recover, recoverAfter, here, if_neg (fun closes => covered closes.2)]

/-- When the state lets an echoed mark be answered, the last answer is done. -/
theorem Window.Holds.answered {window : Window} {pcb : Pcb} {flags : TcpFlags} {ackno : Seq}
    (holds : window.Holds pcb) (owed : pcb.tfEcnCwr = false)
    (done : recoverAfter pcb flags ackno = 0) :
    (window.note (.acknowledged ackno)).answered = true := by
  cases window with
  | never => rfl
  | closed => rfl
  | owing =>
      have owes : pcb.tfEcnCwr = true := holds
      rw [owed] at owes
      cases owes
  | sent ends =>
      have here : pcb.ecnRecover = ends := by
        rcases holds with owes | here
        · rw [owed] at owes
          cases owes
        · exact here
      by_cases reached : ackno.afterEq ends = true
      · rw [Window.note, if_pos reached]
        rfl
      · rw [Window.note, if_neg reached]
        rw [recoverAfter, here, if_neg (fun closes => reached closes.2.2)] at done
        rw [Window.answered, done, decide_eq_true rfl]

namespace Endpoint

structure Tracked (negotiated owed : Bool) (endpoint : Endpoint) : Prop where
  fixed : endpoint.pcb.tfEcn = negotiated
  echo : endpoint.pcb.tfEcnEce = (negotiated && echoes endpoint.history)
  owes : negotiated = true → endpoint.pcb.tfEcnCwr = owes owed endpoint.history
  window : negotiated = true → (windowOf endpoint.history).Holds endpoint.pcb
  answerable : History.Each Answerable endpoint.history

/-- The queued segments and what the history says of them. -/
structure Queued (endpoint : Endpoint) : Prop where
  plain : ∀ placed ∈ endpoint.segments, placed.segment.Plain endpoint.pcb.tfEcn
  acks : ∀ placed ∈ endpoint.segments, placed.segment.flags.ack = true
  numbered : ∀ placed ∈ endpoint.segments, placed.segment.seqno = BitVec.ofNat 32 placed.pos
  nonempty : ∀ placed ∈ endpoint.segments, 0 < placed.tcplen
  below : ∀ placed ∈ endpoint.segments, placed.pos + placed.tcplen ≤ endpoint.queued
  ordered : endpoint.segments.Pairwise
    (fun first second => first.pos + first.tcplen ≤ second.pos)
  tried : ∀ placed ∈ endpoint.segments,
    placed.segment.prepended = endpoint.history.any (attempts placed.pos)
  ahead : ∀ pos, endpoint.queued ≤ pos → endpoint.history.any (attempts pos) = false

section Steps

variable {endpoint next : Endpoint}

theorem transmit_cases {index : Nat} {probe : Bool} {sent : Sent}
    (stepped : endpoint.transmit index probe sent = some next) :
    ∃ placed, endpoint.segments[index]? = some placed ∧
      (probe || !outputHeld endpoint.pcb placed.segment) = true ∧
      next = { endpoint with
        pcb := (outputSegment endpoint.pcb placed.segment sent).1
        segments := endpoint.segments.set index
          ⟨(outputSegment endpoint.pcb placed.segment sent).2.1, placed.pos⟩
        history := endpoint.history ++ transmitNotes endpoint.pcb placed sent } := by
  simp only [transmit, Option.bind_eq_bind, Option.bind_eq_some_iff] at stepped
  obtain ⟨placed, found, stepped⟩ := stepped
  split at stepped
  · contradiction
  · next free =>
    refine ⟨placed, found, ?_, (Option.some.inj stepped).symm⟩
    rwa [Bool.and_eq_true, not_and_or, Bool.not_eq_true', Bool.not_eq_false,
      Bool.not_eq_true, ← Bool.not_eq_true', ← Bool.or_eq_true] at free

theorem transmitNotes_attempts {pcb : Pcb} {placed : Placed}
    (plain : placed.segment.Plain pcb.tfEcn) (sent : Sent) (pos : Nat) :
    (transmitNotes pcb placed sent).any (attempts pos) =
      (sent ≠ .busy && placed.pos = pos) := by
  rw [transmitNotes, outputSegment_packet plain]
  cases sent <;> simp [attempts]

theorem outputSegment_tfEcn {pcb : Pcb} {segment : Segment} (plain : segment.Plain pcb.tfEcn)
    (sent : Sent) : (outputSegment pcb segment sent).1.tfEcn = pcb.tfEcn := by
  rw [outputSegment_pcb plain]
  split
  · rfl
  · split <;> rfl

/-- The steps that leave the queue alone. -/
theorem Queued.frame (queued : Queued endpoint) (segments : next.segments = endpoint.segments)
    (queuedSame : next.queued = endpoint.queued) (fixed : next.pcb.tfEcn = endpoint.pcb.tfEcn)
    (attemptsSame : ∀ pos,
      next.history.any (attempts pos) = endpoint.history.any (attempts pos)) :
    Queued next := by
  obtain ⟨plain, acks, numbered, nonempty, below, ordered, tried, ahead⟩ := queued
  constructor <;> simp only [segments, queuedSame, fixed, attemptsSame] <;> assumption

theorem queued_queue (queued : Queued endpoint) {len : Nat} {fin : Bool}
    (something : len ≠ 0 ∨ fin) : Queued (endpoint.queue len fin) := by
  have longer : endpoint.queued < endpoint.queued + tcplen len { fin := fin, ack := true } := by
    rcases something with long | fins
    · have : 0 < len := Nat.pos_of_ne_zero long
      simp only [tcplen]
      omega
    · simp [tcplen, fins]
  constructor
  · intro placed inside
    rcases List.mem_append.mp inside with old | new
    · exact queued.plain placed old
    · rw [List.mem_singleton.mp new]
      exact ⟨rfl, rfl, fun _ => rfl, fun _ => ⟨rfl, rfl⟩⟩
  · intro placed inside
    rcases List.mem_append.mp inside with old | new
    · exact queued.acks placed old
    · rw [List.mem_singleton.mp new]
  · intro placed inside
    rcases List.mem_append.mp inside with old | new
    · exact queued.numbered placed old
    · rw [List.mem_singleton.mp new]
  · intro placed inside
    rcases List.mem_append.mp inside with old | new
    · exact queued.nonempty placed old
    · rw [List.mem_singleton.mp new]
      exact Nat.pos_of_lt_add_right longer
  · intro placed inside
    rcases List.mem_append.mp inside with old | new
    · exact Nat.le_trans (queued.below placed old) (Nat.le_of_lt longer)
    · rw [List.mem_singleton.mp new]
      exact Nat.le_refl _
  · refine List.pairwise_append.mpr ⟨queued.ordered, List.pairwise_singleton _ _, ?_⟩
    intro first old second new
    rw [List.mem_singleton.mp new]
    exact queued.below first old
  · intro placed inside
    rcases List.mem_append.mp inside with old | new
    · exact queued.tried placed old
    · rw [List.mem_singleton.mp new]
      exact (queued.ahead endpoint.queued (Nat.le_refl _)).symm
  · intro pos beyond
    exact queued.ahead pos (Nat.le_trans (Nat.le_of_lt longer) beyond)

theorem set_same {α : Type} {values : List α} {index : Nat} {value : α}
    (there : values[index]? = some value) : values.set index value = values := by
  obtain ⟨inside, same⟩ := List.getElem?_eq_some_iff.mp there
  rw [← same]
  exact List.set_getElem_self inside

/-- Positions tell the queued segments apart. -/
theorem Queued.same_pos (queued : Queued endpoint) {index other : Nat} {placed second : Placed}
    (found : endpoint.segments[index]? = some placed)
    (there : endpoint.segments[other]? = some second) (same : placed.pos = second.pos) :
    index = other := by
  obtain ⟨inside, at_index⟩ := List.getElem?_eq_some_iff.mp found
  obtain ⟨insideOther, at_other⟩ := List.getElem?_eq_some_iff.mp there
  have ordered := List.pairwise_iff_getElem.mp queued.ordered
  have first := queued.nonempty placed (List.mem_of_getElem? found)
  have last := queued.nonempty second (List.mem_of_getElem? there)
  rcases Nat.lt_trichotomy index other with earlier | equal | later
  · have := ordered index other inside insideOther earlier
    rw [at_index, at_other] at this
    omega
  · exact equal
  · have := ordered other index insideOther inside later
    rw [at_index, at_other] at this
    omega

theorem queued_transmit (queued : Queued endpoint) {index : Nat} {probe : Bool} {sent : Sent}
    (stepped : endpoint.transmit index probe sent = some next) : Queued next := by
  obtain ⟨placed, found, -, rfl⟩ := transmit_cases stepped
  have member := List.mem_of_getElem? found
  have plain := queued.plain placed member
  have fixed := outputSegment_tfEcn plain sent
  obtain ⟨seqno, len, fin, acks, prepended, still⟩ := outputSegment_segment plain sent
  obtain ⟨inside, at_index⟩ := List.getElem?_eq_some_iff.mp found
  have longSame : (⟨(outputSegment endpoint.pcb placed.segment sent).2.1, placed.pos⟩ :
      Placed).tcplen = placed.tcplen := by
    simp only [Placed.tcplen, tcplen, len, fin, plain.noSyn, still.noSyn]
  constructor
  · intro other changed
    rw [fixed]
    rcases List.mem_or_eq_of_mem_set changed with old | new
    · exact queued.plain other old
    · rw [new]
      exact still
  · intro other changed
    rcases List.mem_or_eq_of_mem_set changed with old | new
    · exact queued.acks other old
    · rw [new]
      exact acks.trans (queued.acks placed member)
  · intro other changed
    rcases List.mem_or_eq_of_mem_set changed with old | new
    · exact queued.numbered other old
    · rw [new]
      exact seqno.trans (queued.numbered placed member)
  · intro other changed
    rcases List.mem_or_eq_of_mem_set changed with old | new
    · exact queued.nonempty other old
    · rw [new, longSame]
      exact queued.nonempty placed member
  · intro other changed
    rcases List.mem_or_eq_of_mem_set changed with old | new
    · exact queued.below other old
    · rw [new, longSame]
      exact queued.below placed member
  · -- The places are those of before.
    have places : (endpoint.segments.set index
        ⟨(outputSegment endpoint.pcb placed.segment sent).2.1, placed.pos⟩).map
          (fun other => (other.pos, other.tcplen)) =
        endpoint.segments.map (fun other => (other.pos, other.tcplen)) := by
      have here : (endpoint.segments.map (fun other => (other.pos, other.tcplen)))[index]? =
          some (placed.pos, placed.tcplen) := by
        rw [List.getElem?_map, found, Option.map_some]
      rw [List.map_set, longSame]
      exact set_same here
    have ordered : (endpoint.segments.map (fun other => (other.pos, other.tcplen))).Pairwise
        (fun first second => first.1 + first.2 ≤ second.1) :=
      List.pairwise_map.mpr queued.ordered
    rw [← places] at ordered
    exact List.pairwise_map.mp ordered
  · intro other changed
    obtain ⟨place, there⟩ := List.mem_iff_getElem?.mp changed
    rw [List.any_append, transmitNotes_attempts plain]
    by_cases same : index = place
    · rw [← same, List.getElem?_set_self inside] at there
      obtain rfl := Option.some.inj there
      rw [prepended, queued.tried placed member]
      simp
    · rw [List.getElem?_set_ne same] at there
      have unlike : placed.pos ≠ other.pos := by
        intro alike
        exact same (queued.same_pos found there alike)
      rw [queued.tried other (List.mem_of_getElem? there)]
      simp [unlike]
  · intro pos beyond
    have below := queued.below placed member
    have long := queued.nonempty placed member
    have apart : placed.pos ≠ pos :=
      Nat.ne_of_lt (Nat.lt_of_lt_of_le (Nat.lt_of_lt_of_le (Nat.lt_add_of_pos_right long) below)
        beyond)
    rw [List.any_append, queued.ahead pos beyond, transmitNotes_attempts plain]
    simp [apart]

@[simp] theorem inWindow_ackTimer (pcb : Pcb) (unackedLeft : Bool) (seqno : Seq) :
    inWindow (ackTimer pcb unackedLeft) seqno = inWindow pcb seqno := by
  unfold ackTimer
  split <;> rfl

theorem processFlags_window (pcb : Pcb) (flags : TcpFlags) (ackno : Seq)
    (hook : Option Policy) :
    (processFlags pcb flags ackno hook).1.rcvNxt = pcb.rcvNxt ∧
      (processFlags pcb flags ackno hook).1.rcvWnd = pcb.rcvWnd := by
  unfold processFlags respond closeResponse clearEcho reduce fallback
  cases hook <;> dsimp only <;> repeat' split
  all_goals exact ⟨rfl, rfl⟩

theorem inWindow_timed (pcb : Pcb) (arrival : Arrival) (seqno : Seq) :
    inWindow (timed pcb arrival) seqno = inWindow pcb seqno := by
  obtain ⟨next, window⟩ := processFlags_window pcb arrival.packet.flags arrival.packet.ackno
    arrival.hook
  unfold timed processed
  cases arrival.acked with
  | none => simp only [inWindow, next, window]
  | some unackedLeft =>
      simp only [inWindow_ackTimer]
      simp only [inWindow, next, window]

theorem timed_signals (pcb : Pcb) (arrival : Arrival) :
    (timed pcb arrival).tfEcn = (processed pcb arrival).1.tfEcn ∧
      (timed pcb arrival).tfEcnEce = (processed pcb arrival).1.tfEcnEce ∧
      (timed pcb arrival).tfEcnCwr = (processed pcb arrival).1.tfEcnCwr ∧
      (timed pcb arrival).ecnRecover = (processed pcb arrival).1.ecnRecover ∧
      (timed pcb arrival).ecnRtoWait = (processed pcb arrival).1.ecnRtoWait := by
  unfold timed
  cases arrival.acked with
  | none => exact ⟨rfl, rfl, rfl, rfl, rfl⟩
  | some unackedLeft =>
      unfold ackTimer
      dsimp only
      split <;> exact ⟨rfl, rfl, rfl, rfl, rfl⟩

/-- The flags of the segment, and the echo its mark starts. -/
theorem arrived_signals (pcb : Pcb) (arrival : Arrival) :
    (arrived pcb arrival).tfEcn = (processed pcb arrival).1.tfEcn ∧
      (arrived pcb arrival).tfEcnEce =
        ((processed pcb arrival).1.tfEcnEce ||
          ((processed pcb arrival).1.tfEcn && marks pcb arrival)) ∧
      (arrived pcb arrival).tfEcnCwr = (processed pcb arrival).1.tfEcnCwr ∧
      (arrived pcb arrival).ecnRecover = (processed pcb arrival).1.ecnRecover ∧
      (arrived pcb arrival).ecnRtoWait = (processed pcb arrival).1.ecnRtoWait := by
  obtain ⟨negotiated, echo, owes, recover, wait⟩ := timed_signals pcb arrival
  unfold arrived marks
  cases arrival.data with
  | none => simp [negotiated, echo, owes, recover, wait]
  | some trim => simp [acceptData_eq, inWindow_timed, negotiated, echo, owes, recover, wait]

theorem processFlags_tfEcn (pcb : Pcb) (flags : TcpFlags) (ackno : Seq)
    (hook : Option Policy) : (processFlags pcb flags ackno hook).1.tfEcn = pcb.tfEcn := by
  cases negotiated : pcb.tfEcn with
  | false => rw [processFlags_of_not negotiated, negotiated]
  | true => exact (processFlags_cases negotiated flags ackno hook).1.negotiated.trans negotiated

theorem receiveNotes_attempts (pcb : Pcb) (arrival : Arrival) (pos : Nat) :
    (receiveNotes pcb arrival).any (attempts pos) = false := by
  simp [receiveNotes, attempts]

theorem oweCwr_tfEcn (pcb : Pcb) : (oweCwr pcb).tfEcn = pcb.tfEcn := by
  unfold oweCwr
  split <;> rfl

theorem rtoExpired_tfEcn (pcb : Pcb) (unackedLeft prepared : Bool) (hook : Option Policy) :
    (rtoExpired pcb unackedLeft prepared hook).1.tfEcn = pcb.tfEcn := by
  unfold rtoExpired
  split
  · rfl
  · split
    · cases hook <;> exact oweCwr_tfEcn _
    · rfl

theorem queued_step (queued : Queued endpoint) {event : Event}
    (stepped : endpoint.step event = some next) : Queued next := by
  cases event with
  | queue len fin =>
      simp only [step, Option.ite_none_right_eq_some, Option.some.injEq] at stepped
      obtain ⟨something, rfl⟩ := stepped
      exact queued_queue queued something
  | transmit index probe sent => exact queued_transmit queued stepped
  | control seqno fin ack rst =>
      obtain rfl := Option.some.inj stepped
      refine queued.frame rfl rfl rfl ?_
      intro pos
      simp [control, attempts]
  | receive arrival =>
      obtain rfl := Option.some.inj stepped
      cases looked : arrival.packet.flags.syn || arrival.packet.flags.rst with
      | true =>
          rw [receive, if_pos looked]
          exact queued
      | false =>
          rw [receive, looked, if_neg Bool.false_ne_true]
          refine queued.frame rfl rfl ?_ ?_
          · exact (arrived_signals endpoint.pcb arrival).1.trans (processFlags_tfEcn _ _ _ _)
          · intro pos
            rw [List.any_append, receiveNotes_attempts, Bool.or_false]
  | expire unackedLeft prepared hook =>
      obtain rfl := Option.some.inj stepped
      refine queued.frame rfl rfl (rtoExpired_tfEcn _ _ _ _) ?_
      intro pos
      simp [expire, attempts]
  | fastRetransmit reduced =>
      obtain rfl := Option.some.inj stepped
      refine queued.frame rfl rfl (oweCwr_tfEcn _) ?_
      intro pos
      simp [fastRetransmit, attempts]
  | native elsewhere =>
      obtain rfl := Option.some.inj stepped
      exact queued.frame rfl rfl rfl (fun _ => rfl)

section Tracking

variable {negotiated owed : Bool}

theorem echoes_receive (history : List Note) (pcb : Pcb) (arrival : Arrival) :
    echoes (history ++ receiveNotes pcb arrival) =
      ((echoes history && !arrival.packet.flags.cwr) || marks pcb arrival) := by
  simp only [echoes, receiveNotes, List.foldl_append, foldl_note, echoNote, ite_self]
  cases arrival.packet.flags.cwr <;> cases marks pcb arrival <;> simp

theorem owes_receive (history : List Note) (pcb : Pcb) (arrival : Arrival) :
    Ecn.owes owed (history ++ receiveNotes pcb arrival) =
      ((processed pcb arrival).2.1 || Ecn.owes owed history) := by
  simp only [Ecn.owes, receiveNotes, List.foldl_append, foldl_note, owesNote, ite_self]
  cases (processed pcb arrival).2.1 <;> simp

theorem windowOf_receive (history : List Note) (pcb : Pcb) (arrival : Arrival) :
    windowOf (history ++ receiveNotes pcb arrival) =
      if (processed pcb arrival).2.1 then .owing
      else if arrival.packet.flags.ack then
        (windowOf history).note (.acknowledged arrival.packet.ackno)
      else windowOf history := by
  simp [windowOf, receiveNotes, List.foldl_append]

theorem tracked_receive (tracked : Tracked negotiated owed endpoint) (arrival : Arrival) :
    Tracked negotiated owed (endpoint.receive arrival) := by
  cases looked : arrival.packet.flags.syn || arrival.packet.flags.rst with
  | true =>
      rw [receive, if_pos looked]
      exact tracked
  | false =>
      rw [receive, looked, if_neg Bool.false_ne_true]
      obtain ⟨fixed, echo, owes', recover, -⟩ := arrived_signals endpoint.pcb arrival
      have same : (processed endpoint.pcb arrival).1.tfEcn = negotiated :=
        (processFlags_tfEcn _ _ _ _).trans tracked.fixed
      cases negotiated with
      | false =>
          have quiet : processed endpoint.pcb arrival = (endpoint.pcb, false, false) :=
            processFlags_of_not tracked.fixed _ _ _
          refine ⟨fixed.trans same, ?_, nofun, nofun, ?_⟩
          · rw [Bool.false_and, echo, same, quiet, tracked.echo]
            rfl
          apply tracked.answerable.append
          intro event inside before
          apply answerable_of_ne
          intro echoed
          simp [receiveNotes, quiet, note, echoed] at inside
      | true =>
          obtain ⟨noted, outcome⟩ := processFlags_cases tracked.fixed arrival.packet.flags
            arrival.packet.ackno arrival.hook
          change Noted endpoint.pcb (processed endpoint.pcb arrival).1 _ at noted
          change ((processed endpoint.pcb arrival).2 = (false, false) ∧
              Unanswered _ (processed endpoint.pcb arrival).1 _ _) ∨
            ((processed endpoint.pcb arrival).2.1 = true ∧
              Responded _ (processed endpoint.pcb arrival).1 _ _ _) at outcome
          have window := tracked.window rfl
          refine ⟨fixed.trans same, ?_, ?_, ?_, ?_⟩
          · rw [echoes_receive, echo, same, noted.echo, tracked.echo]
            simp only [Bool.true_and]
          · intro _
            rw [owes_receive, owes']
            rcases outcome with ⟨silent, rest⟩ | ⟨responded, answer⟩
            · rw [silent, rest.owes, tracked.owes rfl, Bool.false_or]
            · rw [responded, answer.owes, Bool.true_or]
          · intro _
            rw [windowOf_receive]
            rcases outcome with ⟨silent, rest⟩ | ⟨responded, answer⟩
            · rw [silent, if_neg Bool.false_ne_true]
              exact window.acknowledged (owes'.trans rest.owes) (recover.trans rest.recover)
            · rw [responded, if_pos rfl]
              exact owes'.trans answer.owes
          · -- Only the response itself has to be answered for.
            have before : History.Each Answerable
                ((endpoint.history ++ note arrival.packet.flags.cwr .cwrArrived) ++
                  note arrival.packet.flags.ack (.acknowledged arrival.packet.ackno)) := by
              refine (tracked.answerable.append ?_).append ?_ <;>
                · intro event inside
                  exact answerable_of_ne (by rw [(mem_note inside).2]; exact nofun)
            have answered : History.Each Answerable
                (((endpoint.history ++ note arrival.packet.flags.cwr .cwrArrived) ++
                  note arrival.packet.flags.ack (.acknowledged arrival.packet.ackno)) ++
                    note (processed endpoint.pcb arrival).2.1 (.armed .echo)) := by
              rcases outcome with ⟨silent, -⟩ | ⟨responded, answer⟩
              · rw [silent]
                simpa [note] using before
              · rw [responded]
                apply before.concat
                intro _
                have done := window.answered answer.owedNothing answer.answered
                simpa [windowOf, List.foldl_append, answer.ack] using done
            rw [receiveNotes, ← List.append_assoc, ← List.append_assoc, ← List.append_assoc]
            apply answered.append
            intro event inside
            rcases List.mem_append.mp inside with entered | marked
            · exact answerable_of_ne (by rw [(mem_note entered).2]; exact nofun)
            · exact answerable_of_ne (by rw [(mem_note marked).2]; exact nofun)

/-- The packet a segment makes, were it taken now. -/
def packetOf (pcb : Pcb) (segment : Segment) : Packet where
  seqno := segment.seqno
  ackno := pcb.rcvNxt
  len := segment.len
  flags := { segment.flags with
    ece := pcb.tfEcn && (pcb.tfEcnEce && segment.flags.ack)
    cwr := firstData pcb segment && pcb.tfEcnCwr }
  tos := if firstData pcb segment then (pcb.tos &&& ~~~ipEcnMask) ||| ipEcnEct0
    else pcb.tos &&& ~~~ipEcnMask

theorem transmitNotes_eq {pcb : Pcb} {placed : Placed} (plain : placed.segment.Plain pcb.tfEcn)
    (sent : Sent) :
    transmitNotes pcb placed sent =
      note (sent ≠ .busy && rearms pcb placed.segment) (.armed .lostCwr) ++
        (note (sent = .refused) (.refused placed.pos) ++
          note (sent = .accepted) (.sent (packetOf pcb placed.segment) (some placed.pos))) := by
  rw [transmitNotes, outputSegment_packet plain]
  cases sent <;> rfl

theorem rearms_firstData {pcb : Pcb} {segment : Segment} (again : rearms pcb segment = true) :
    firstData pcb segment = false := by
  simp only [rearms, Bool.and_eq_true] at again
  simp [firstData, again.2.1]

theorem echoes_transmit {pcb : Pcb} {placed : Placed} (plain : placed.segment.Plain pcb.tfEcn)
    (history : List Note) (sent : Sent) :
    echoes (history ++ transmitNotes pcb placed sent) = echoes history := by
  simp [echoes, transmitNotes_eq plain, List.foldl_append, echoNote]

theorem owes_transmit {pcb : Pcb} {placed : Placed} (plain : placed.segment.Plain pcb.tfEcn)
    (history : List Note) (sent : Sent) (same : pcb.tfEcnCwr = Ecn.owes owed history) :
    Ecn.owes owed (history ++ transmitNotes pcb placed sent) =
      (outputSegment pcb placed.segment sent).1.tfEcnCwr := by
  rw [transmitNotes_eq plain, outputSegment_pcb plain, Ecn.owes]
  simp only [List.foldl_append, foldl_note, owesNote]
  rw [← Ecn.owes, ← same]
  cases sent with
  | busy => simp
  | refused => cases rearms pcb placed.segment <;> simp
  | accepted =>
      cases again : rearms pcb placed.segment with
      | true => simp [packetOf, rearms_firstData again]
      | false =>
          cases first : firstData pcb placed.segment <;> cases owing : pcb.tfEcnCwr <;>
            simp [packetOf, first, owing]

theorem window_transmit {pcb : Pcb} {placed : Placed} (plain : placed.segment.Plain pcb.tfEcn)
    {history : List Note} (sent : Sent) (holds : (windowOf history).Holds pcb) :
    (windowOf (history ++ transmitNotes pcb placed sent)).Holds
      (outputSegment pcb placed.segment sent).1 := by
  have moved : windowOf (history ++ transmitNotes pcb placed sent) =
      if sent = .accepted then
        (windowOf history).note (.sent (packetOf pcb placed.segment) (some placed.pos))
      else windowOf history := by
    rw [transmitNotes_eq plain]
    simp [windowOf, List.foldl_append, Window.note_armed]
  rw [moved, outputSegment_pcb plain]
  by_cases again : sent ≠ .busy ∧ rearms pcb placed.segment = true
  · rw [if_pos again]
    exact Window.holds_of_owing rfl
  · rw [if_neg again]
    by_cases answers : sent = .accepted ∧ firstData pcb placed.segment = true ∧
        pcb.tfEcnCwr = true
    · rw [if_pos answers, if_pos answers.1]
      cases windowOf history <;>
        simp [Window.note, packetOf, answers.2.1, answers.2.2, Window.Holds, Packet.ends, tcplen]
    · rw [if_neg answers]
      split
      · next taken =>
        have plainPacket : (packetOf pcb placed.segment).flags.cwr = false := by
          rw [Bool.eq_false_iff]
          intro carries
          simp only [packetOf, Bool.and_eq_true] at carries
          exact answers ⟨taken, carries⟩
        rw [Window.note_plain _ plainPacket]
        exact holds
      · exact holds

theorem tracked_transmit (tracked : Tracked negotiated owed endpoint)
    (queued : Queued endpoint) {index : Nat} {probe : Bool} {sent : Sent}
    (stepped : endpoint.transmit index probe sent = some next) :
    Tracked negotiated owed next := by
  obtain ⟨placed, found, -, rfl⟩ := transmit_cases stepped
  have plain := queued.plain placed (List.mem_of_getElem? found)
  refine ⟨(outputSegment_tfEcn plain sent).trans tracked.fixed, ?_, ?_, ?_, ?_⟩
  · rw [echoes_transmit plain, ← tracked.echo, outputSegment_pcb plain]
    split
    · rfl
    · split <;> rfl
  · intro agreed
    exact (owes_transmit plain _ sent (tracked.owes agreed)).symm
  · intro agreed
    exact window_transmit plain sent (tracked.window agreed)
  · apply tracked.answerable.append
    intro event inside before
    apply answerable_of_ne
    rw [transmitNotes_eq plain] at inside
    rcases List.mem_append.mp inside with again | rest
    · rw [(mem_note again).2]
      exact nofun
    · rcases List.mem_append.mp rest with refused | taken
      · rw [(mem_note refused).2]
        exact nofun
      · rw [(mem_note taken).2]
        exact nofun

/-- A reason to reduce other than an echo, and the end of the gate. -/
theorem Tracked.arm (tracked : Tracked negotiated owed endpoint) {after : Pcb} {cause : Cause}
    (other : cause ≠ .echo) (released arms : Bool) (fixed : after.tfEcn = endpoint.pcb.tfEcn)
    (echo : after.tfEcnEce = endpoint.pcb.tfEcnEce)
    (owes : negotiated = true → after.tfEcnCwr = (arms || endpoint.pcb.tfEcnCwr))
    (recover : after.ecnRecover = endpoint.pcb.ecnRecover) :
    Tracked negotiated owed { endpoint with
      pcb := after
      history := endpoint.history ++ (note released .gateReleased ++ note arms (.armed cause)) } := by
  refine ⟨fixed.trans tracked.fixed, ?_, ?_, ?_, ?_⟩
  · rw [echo, tracked.echo]
    simp [echoes, echoNote]
  · intro agreed
    rw [owes agreed, tracked.owes agreed]
    simp only [Ecn.owes, List.foldl_append, foldl_note, owesNote, ite_self]
    cases arms <;> simp
  · intro agreed
    have moved : windowOf (endpoint.history ++
        (note released .gateReleased ++ note arms (.armed cause))) =
          windowOf endpoint.history := by
      simp [windowOf, List.foldl_append, Window.note_armed _ other]
    rw [moved]
    cases armed : arms with
    | true => exact Window.holds_of_owing (by rw [owes agreed, armed, Bool.true_or])
    | false =>
        have holds := tracked.window agreed
        rw [armed, Bool.false_or] at owes
        cases window : windowOf endpoint.history with
        | never => trivial
        | closed => trivial
        | owing =>
            rw [window] at holds
            exact (owes agreed).trans holds
        | sent ends =>
            rw [window] at holds
            rcases holds with owing | here
            · exact .inl ((owes agreed).trans owing)
            · exact .inr (recover.trans here)
  · apply tracked.answerable.append
    intro event inside before
    apply answerable_of_ne
    rcases List.mem_append.mp inside with out | armed
    · rw [(mem_note out).2]
      exact nofun
    · rw [(mem_note armed).2]
      intro same
      exact other (Note.armed.inj same)

theorem oweCwr_signals (pcb : Pcb) :
    (oweCwr pcb).tfEcnEce = pcb.tfEcnEce ∧ (oweCwr pcb).ecnRecover = pcb.ecnRecover ∧
      (oweCwr pcb).ecnRtoWait = pcb.ecnRtoWait ∧
      (oweCwr pcb).tfEcnCwr = (pcb.tfEcn || pcb.tfEcnCwr) := by
  unfold oweCwr
  cases pcb.tfEcn <;> simp

theorem rtoExpired_signals (pcb : Pcb) (unackedLeft prepared : Bool) (hook : Option Policy) :
    (rtoExpired pcb unackedLeft prepared hook).1.tfEcnEce = pcb.tfEcnEce ∧
      (rtoExpired pcb unackedLeft prepared hook).1.ecnRecover = pcb.ecnRecover ∧
      (rtoExpired pcb unackedLeft prepared hook).2 = pcb.ecnRtoWait ∧
      (rtoExpired pcb unackedLeft prepared hook).1.ecnRtoWait = false ∧
      (rtoExpired pcb unackedLeft prepared hook).1.tfEcnCwr =
        ((!pcb.ecnRtoWait && (prepared && pcb.tfEcn)) || pcb.tfEcnCwr) := by
  unfold rtoExpired
  cases waits : pcb.ecnRtoWait with
  | true => simp
  | false =>
      cases prepared with
      | false => simp [waits]
      | true => cases hook <;> simp [oweCwr_signals, timeoutFallback, waits]

theorem tracked_step (tracked : Tracked negotiated owed endpoint) (queued : Queued endpoint)
    {event : Event} (stepped : endpoint.step event = some next) :
    Tracked negotiated owed next := by
  obtain ⟨fixed, echo, owes', window, answerable⟩ := tracked
  cases event with
  | queue len fin =>
      simp only [step, Option.ite_none_right_eq_some, Option.some.injEq] at stepped
      obtain ⟨-, rfl⟩ := stepped
      exact ⟨fixed, echo, owes', window, answerable⟩
  | transmit index probe sent =>
      exact tracked_transmit ⟨fixed, echo, owes', window, answerable⟩ queued stepped
  | control seqno fin ack rst =>
      obtain rfl := Option.some.inj stepped
      have plain : (outputControl endpoint.pcb seqno
          { fin := fin, ack := ack, rst := rst }).flags.cwr = false := by
        unfold outputControl
        dsimp only
        split <;> rfl
      refine ⟨fixed, ?_, ?_, ?_, ?_⟩
      · simpa [control, echoes, echoNote] using echo
      · intro agreed
        simpa [control, Ecn.owes, owesNote, plain] using owes' agreed
      · intro agreed
        simpa [control, windowOf, Window.note_plain _ plain] using window agreed
      · apply answerable.concat
        apply answerable_of_ne
        exact nofun
  | receive arrival =>
      obtain rfl := Option.some.inj stepped
      exact tracked_receive ⟨fixed, echo, owes', window, answerable⟩ arrival
  | expire unackedLeft prepared hook =>
      obtain rfl := Option.some.inj stepped
      obtain ⟨echoSame, recoverSame, released, -, owesNow⟩ :=
        rtoExpired_signals endpoint.pcb unackedLeft prepared hook
      have other : Cause.timeout ≠ .echo := nofun
      refine Tracked.arm ⟨fixed, echo, owes', window, answerable⟩ other _ _
        (rtoExpired_tfEcn _ _ _ _) echoSame ?_ recoverSame
      intro _
      rw [owesNow, released, Bool.and_assoc]
  | fastRetransmit reduced =>
      obtain rfl := Option.some.inj stepped
      obtain ⟨echoSame, recoverSame, -, owesNow⟩ := oweCwr_signals
        { endpoint.pcb with cwnd := reduced.cwnd, ssthresh := reduced.ssthresh }
      have other : Cause.fastRetransmit ≠ .echo := nofun
      have after := Tracked.arm ⟨fixed, echo, owes', window, answerable⟩ other false
        endpoint.pcb.tfEcn (oweCwr_tfEcn { endpoint.pcb with
          cwnd := reduced.cwnd, ssthresh := reduced.ssthresh })
        echoSame (fun _ => owesNow) recoverSame
      exact after
  | native elsewhere =>
      obtain rfl := Option.some.inj stepped
      refine ⟨fixed, echo, owes', ?_, answerable⟩
      intro agreed
      have holds := window agreed
      change (windowOf endpoint.history).Holds _
      cases here : windowOf endpoint.history <;> rw [here] at holds <;> exact holds

end Tracking

end Steps

section Packets

variable {endpoint next : Endpoint} {negotiated owed : Bool}

theorem wellMarked_of_ne {event : Note} (other : ∀ packet pos, event ≠ .sent packet pos)
    (before : List Note) : WellMarked negotiated owed before event := by
  cases event with
  | sent packet pos => exact absurd rfl (other packet pos)
  | _ => trivial

theorem wellMarked_control (tracked : Tracked negotiated owed endpoint) (seqno : Seq)
    (fin ack rst : Bool) :
    WellMarked negotiated owed endpoint.history
      (.sent (outputControl endpoint.pcb seqno { fin := fin, ack := ack, rst := rst }) none) := by
  have codepoint : inputEcn (outputControl endpoint.pcb seqno
      { fin := fin, ack := ack, rst := rst }).tos = 0 := notEct_of_rest _
  have apart : (0 : BitVec 8) ≠ ipEcnEct0 := by decide
  refine ⟨?_, ?_, ?_⟩
  · cases agreed : negotiated with
    | false =>
        have plain := tracked.fixed.trans agreed
        simp [outputControl, plain]
    | true =>
        have shares := tracked.fixed.trans agreed
        have echoed := tracked.echo
        rw [agreed, Bool.true_and] at echoed
        rw [← echoed]
        cases echo : endpoint.pcb.tfEcnEce <;> cases ack <;> cases rst <;>
          simp [outputControl, shares, echo]
  · rw [codepoint]
    simp [outputControl]
  · rw [codepoint, decide_eq_false apart, Bool.false_and]
    unfold outputControl
    dsimp only
    split <;> rfl

theorem wellMarked_taken (tracked : Tracked negotiated owed endpoint)
    (queued : Queued endpoint) {placed : Placed} (inside : placed ∈ endpoint.segments) :
    WellMarked negotiated owed
      (endpoint.history ++ note (rearms endpoint.pcb placed.segment) (.armed .lostCwr))
      (.sent (packetOf endpoint.pcb placed.segment) (some placed.pos)) := by
  have plain := queued.plain placed inside
  have acks := queued.acks placed inside
  have tried := queued.tried placed inside
  have apart : (0 : BitVec 8) ≠ ipEcnEct0 := by decide
  have codepoint : inputEcn (packetOf endpoint.pcb placed.segment).tos =
      if firstData endpoint.pcb placed.segment then ipEcnEct0 else 0 := by
    unfold packetOf
    dsimp only
    split
    · exact ect0_of_firstData _
    · exact notEct_of_rest _
  refine ⟨?_, ?_, ?_⟩
  · have echoSame : echoes (endpoint.history ++
        note (rearms endpoint.pcb placed.segment) (.armed .lostCwr)) =
          echoes endpoint.history := by
      simp [echoes, echoNote]
    rw [echoSame]
    cases agreed : negotiated with
    | false => simp [packetOf, tracked.fixed.trans agreed]
    | true =>
        have echoed := tracked.echo
        rw [agreed, Bool.true_and] at echoed
        simp [packetOf, tracked.fixed.trans agreed, ← echoed, acks, plain.noRst]
  · rw [codepoint, firstData, tried, tracked.fixed]
    simp [packetOf, attempted, attempts, Bool.and_comm]
  · rw [codepoint]
    cases first : firstData endpoint.pcb placed.segment with
    | false =>
        have plainCwr : (packetOf endpoint.pcb placed.segment).flags.cwr = false := by
          simp [packetOf, first]
        rw [plainCwr, if_neg Bool.false_ne_true, decide_eq_false apart, Bool.false_and]
    | true =>
        have agreed : negotiated = true := by
          rw [← tracked.fixed]
          simp only [firstData, Bool.and_eq_true] at first
          exact first.1
        have once : rearms endpoint.pcb placed.segment = false := by
          rw [Bool.eq_false_iff]
          intro again
          rw [rearms_firstData again] at first
          cases first
        simp [packetOf, first, once, note, ← tracked.owes agreed]

theorem wellMarked_step (tracked : Tracked negotiated owed endpoint)
    (queued : Queued endpoint)
    (marked : History.Each (WellMarked negotiated owed) endpoint.history) {event : Event}
    (stepped : endpoint.step event = some next) :
    History.Each (WellMarked negotiated owed) next.history := by
  cases event with
  | queue len fin =>
      simp only [step, Option.ite_none_right_eq_some, Option.some.injEq] at stepped
      obtain ⟨-, rfl⟩ := stepped
      exact marked
  | transmit index probe sent =>
      obtain ⟨placed, found, -, rfl⟩ := transmit_cases stepped
      have inside := List.mem_of_getElem? found
      dsimp only
      rw [transmitNotes_eq (queued.plain placed inside), ← List.append_assoc, ← List.append_assoc]
      have armed : History.Each (WellMarked negotiated owed) (endpoint.history ++
          note (sent ≠ .busy && rearms endpoint.pcb placed.segment) (.armed .lostCwr)) := by
        apply marked.append
        intro event inside
        exact wellMarked_of_ne (by rw [(mem_note inside).2]; exact nofun)
      cases sent with
      | busy => simpa [note] using armed
      | refused =>
          have free : WellMarked negotiated owed (endpoint.history ++
              note (Sent.refused ≠ .busy && rearms endpoint.pcb placed.segment) (.armed .lostCwr))
              (.refused placed.pos) := trivial
          simpa [note] using armed.concat free
      | accepted =>
          have taken := wellMarked_taken tracked queued inside
          simpa [note] using armed.concat (by simpa using taken)
  | control seqno fin ack rst =>
      obtain rfl := Option.some.inj stepped
      exact marked.concat (wellMarked_control tracked seqno fin ack rst)
  | receive arrival =>
      obtain rfl := Option.some.inj stepped
      unfold receive
      split
      · exact marked
      · apply marked.append
        intro event inside
        apply wellMarked_of_ne
        intro packet pos same
        rw [same] at inside
        simp [receiveNotes, note] at inside
  | expire unackedLeft prepared hook =>
      obtain rfl := Option.some.inj stepped
      apply marked.append
      intro event inside
      apply wellMarked_of_ne
      intro packet pos same
      rw [same] at inside
      simp [note] at inside
  | fastRetransmit reduced =>
      obtain rfl := Option.some.inj stepped
      apply marked.append
      intro event inside
      exact wellMarked_of_ne (by rw [(mem_note inside).2]; exact nofun)
  | native elsewhere =>
      obtain rfl := Option.some.inj stepped
      exact marked

end Packets

theorem tracked_start (pcb : Pcb) (queued : Nat) :
    Tracked pcb.tfEcn pcb.tfEcnCwr (start pcb queued) :=
  ⟨rfl, (Bool.and_false _).symm, fun _ => rfl, fun _ => trivial, History.each_nil _⟩

theorem queued_start (pcb : Pcb) (queued : Nat) : Queued (start pcb queued) :=
  ⟨nofun, nofun, nofun, nofun, nofun, List.Pairwise.nil, nofun, fun _ _ => rfl⟩

/-- What every step keeps. -/
structure Sound (negotiated owed : Bool) (endpoint : Endpoint) : Prop where
  tracked : Tracked negotiated owed endpoint
  queued : Queued endpoint
  marked : History.Each (WellMarked negotiated owed) endpoint.history

theorem sound_step {negotiated owed : Bool} {endpoint next : Endpoint}
    (sound : Sound negotiated owed endpoint) {event : Event}
    (stepped : endpoint.step event = some next) : Sound negotiated owed next :=
  ⟨tracked_step sound.tracked sound.queued stepped, queued_step sound.queued stepped,
    wellMarked_step sound.tracked sound.queued sound.marked stepped⟩

theorem sound_start (pcb : Pcb) (queued : Nat) :
    Sound pcb.tfEcn pcb.tfEcnCwr (start pcb queued) :=
  ⟨tracked_start pcb queued, queued_start pcb queued, History.each_nil _⟩

theorem sound_run {pcb : Pcb} {queued : Nat} {events : List Event} {final : Endpoint}
    (ran : Run.run step (start pcb queued) events = some final) :
    Sound pcb.tfEcn pcb.tfEcnCwr final := by
  refine Run.run_invariant ?_ (sound_start pcb queued) ran
  intro endpoint event next sound stepped
  exact sound_step sound stepped

theorem echoed_mark_answered_once {pcb : Pcb} {queued : Nat} {events : List Event}
    {final : Endpoint} (ran : Run.run step (start pcb queued) events = some final) :
    History.Each Answerable final.history :=
  (sound_run ran).tracked.answerable

/-- A connection that negotiated, at one segment. -/
def sample : Pcb where
  tfEcn := true
  cwnd := 3000
  ssthresh := 65535
  sndWnd := 65535
  mss := 1000
  rcvNxt := 500
  rcvWnd := 4000

/-- An echo, the answer to it with its first segment lost, and the next echo. -/
def sampleEvents : List Event :=
  let echo : Packet := ⟨500, 100, 0, { ack := true, ece := true }, 0⟩
  let late : Packet := ⟨500, 2100, 0, { ack := true, ece := true }, 0⟩
  let marked : Packet := ⟨500, 100, 300, { ack := true }, 3⟩
  [.queue 1000 false, .queue 1000 false, .receive ⟨echo, none, none, none, 500⟩,
    .transmit 0 false .refused, .transmit 0 false .accepted, .transmit 1 false .accepted,
    .receive ⟨marked, none, none, some 0, 800⟩, .control 2100 false true false,
    .receive ⟨late, some ⟨1000, 2000⟩, some false, none, 800⟩]

theorem echoed_mark_answered_once_sample :
    ∃ final, Run.run step (start sample 100) sampleEvents = some final ∧
      final.history.count (.armed .echo) = 2 ∧ History.Each Answerable final.history := by
  obtain ⟨final, ran⟩ := Option.isSome_iff_exists.mp
    (show (Run.run step (start sample 100) sampleEvents).isSome by decide +kernel)
  refine ⟨final, ran, ?_, echoed_mark_answered_once ran⟩
  have counted : (Run.run step (start sample 100) sampleEvents).map
      (fun last => last.history.count (.armed .echo)) = some 2 := by decide +kernel
  rw [ran] at counted
  exact Option.some.inj counted

theorem armed_of_owes {notes : List Note} (owing : Ecn.owes false notes = true) :
    ∃ cause, .armed cause ∈ notes := by
  induction notes using List.reverseRecOn with
  | nil => cases owing
  | append_singleton rest last ih =>
      rw [owes_append] at owing
      cases last with
      | armed cause => exact ⟨cause, List.mem_append_right _ (List.mem_singleton_self _)⟩
      | sent packet pos =>
          cases carries : packet.flags.cwr with
          | true => simp [Ecn.owes, owesNote, carries] at owing
          | false =>
              obtain ⟨cause, inside⟩ := ih (by simpa [Ecn.owes, owesNote, carries] using owing)
              exact ⟨cause, List.mem_append_left _ inside⟩
      | _ =>
          obtain ⟨cause, inside⟩ := ih owing
          exact ⟨cause, List.mem_append_left _ inside⟩

/-- New data that left with ECT(0) took CWR with it if it was owed: whatever CWR leaves
later was armed in between. -/
theorem armed_between {negotiated owed : Bool} {first middle last : List Note}
    {packet answer : Packet} {pos answerPos : Option Nat}
    (marked : History.Each (WellMarked negotiated owed)
      ((first ++ [.sent packet pos]) ++ middle ++ .sent answer answerPos :: last))
    (ect : inputEcn packet.tos = ipEcnEct0) (cwr : answer.flags.cwr = true) :
    ∃ cause, .armed cause ∈ middle := by
  have spent : Ecn.owes owed (first ++ [.sent packet pos]) = false := by
    have here := (marked first (.sent packet pos) (middle ++ .sent answer answerPos :: last)
      (by simp)).2.2
    rw [ect, decide_eq_true rfl, Bool.true_and] at here
    rw [owes_append]
    change owesNote (Ecn.owes owed first) (.sent packet pos) = false
    rw [owesNote, here]
    cases Ecn.owes owed first <;> rfl
  have there := (marked _ _ _ rfl).2.2
  rw [cwr, owes_append, spent] at there
  have owing := there.symm
  rw [Bool.and_eq_true] at owing
  exact armed_of_owes owing.2

end Endpoint

end Ecn

end TcpShift
