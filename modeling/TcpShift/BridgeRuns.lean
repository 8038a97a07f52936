import TcpShift.BridgeStreams
import TcpShift.Lib.Run

set_option autoImplicit false

/- Runs of the bridge over any number of connections: lwIP and the event loop make the
callbacks in any order, and lwIP and the kernel answer every call as they like. -/
namespace TcpShift.Bridge

def Connection.pending (connection : Connection) : Nat :=
  match connection.flow with
  | none => 0
  | some flow => flow.pending.length

/-- What holds of a connection between two callbacks, whatever the others have pending. -/
structure Connection.Carries (connection : Connection) : Prop where
  relays : Relays connection.wire
  live : ∀ flow, connection.flow = some flow → ∀ others bridge,
    bridge.pendingPublicBytes = others + flow.pending.length →
      Upstream others ⟨bridge, flow, connection.wire⟩ ∧
        Downstream ⟨bridge, flow, connection.wire⟩

/-- A connection is carried, and the bridge counts its pending bytes. -/
def Accounts (others : Nat) (bridge : Counters) (connection : Connection) : Prop :=
  connection.Carries ∧ bridge.pendingPublicBytes = others + connection.pending

theorem accounts_of_streams {others : Nat} {frame : Frame} (up : Upstream others frame)
    (down : Downstream frame) :
    Accounts others frame.bridge ⟨some frame.flow, frame.wire⟩ := by
  refine ⟨⟨up.relays, ?_⟩, up.counted⟩
  intro flow same others bridge counted
  cases same
  exact ⟨⟨up.relays, up.held, up.window, counted, up.attached, up.publicEnd⟩,
    ⟨down.read, down.backendEnd⟩⟩

@[simp] theorem unlinkFlow_pending (bridge : Counters) :
    (unlinkFlow bridge).pendingPublicBytes = bridge.pendingPublicBytes := by
  unfold unlinkFlow
  split <;> rfl

theorem releasePendingPublic_counted {others : Nat} (frame : Frame)
    (counted : frame.bridge.pendingPublicBytes = others + frame.flow.pending.length)
    (small : frame.flow.pending.length < 2 ^ 16) :
    (releasePendingPublic frame).bridge.pendingPublicBytes = others := by
  unfold releasePendingPublic
  split
  · rename_i none
    rw [counted, Flow.pending, none]
    rfl
  · apply discountPending_counted 0
    rw [counted, totLen, u16, Nat.add_zero]
    congr 1
    exact (Nat.mod_eq_of_lt small).symm

/-- A flow is released after a reset, or with both streams carried to their ends. -/
theorem flowRelease_accounts {others : Nat} (frame : Frame) (relays : Relays frame.wire)
    (counted : frame.bridge.pendingPublicBytes = others + frame.flow.pending.length)
    (small : frame.flow.pending.length < 2 ^ 16)
    (admits : Admits frame.wire.backendStream frame.wire.history .backendClosed) :
    Accounts others (flowRelease frame).1 (flowRelease frame).2 := by
  constructor
  · constructor
    · simp only [flowRelease, releasePendingPublic_wire]
      exact relays.log .backendClosed rfl rfl admits
    · intro flow absent
      cases absent
  · simp only [flowRelease, unlinkFlow_pending, Connection.pending, Nat.add_zero]
    exact releasePendingPublic_counted (frame.log .backendClosed) counted small

theorem flowAbort_accounts {others : Nat} (frame : Frame) (relays : Relays frame.wire)
    (counted : frame.bridge.pendingPublicBytes = others + frame.flow.pending.length)
    (small : frame.flow.pending.length < 2 ^ 16) (attached : frame.flow.pcb = true) :
    Accounts others (flowAbort frame).1 (flowAbort frame).2 := by
  have aborted := relays.log .publicAborted rfl rfl trivial
  simp only [flowAbort, attached, if_true]
  apply flowRelease_accounts (frame.log .publicAborted).detach aborted counted small
  apply Or.inl
  apply Or.inl
  exact List.mem_append_right _ List.mem_cons_self

theorem Upstream.publicCarried {others : Nat} {frame : Frame} (up : Upstream others frame)
    (ended : frame.flow.publicEof = true) (drained : frame.flow.publicRx = []) :
    PublicCarried frame.wire.history := by
  refine ⟨up.publicEnd ended, ?_⟩
  have held := up.held
  rw [Flow.pending, drained, List.flatten_nil, List.append_nil] at held
  exact held.symm

theorem Downstream.backendCarried {frame : Frame} (down : Downstream frame)
    (ended : frame.flow.backendEof = true) :
    BackendCarried frame.wire.backendStream frame.wire.history := by
  obtain ⟨seen, empty⟩ := down.backendEnd ended
  refine ⟨seen, ?_⟩
  have read := down.read
  rw [empty, List.append_nil] at read
  exact read.symm

theorem shutdownBackendWrite_sound {others : Nat} {frame : Frame} (answer : ShutdownAnswer)
    (up : Upstream others frame) (down : Downstream frame) :
    (shutdownBackendWrite answer frame).Sound others := by
  unfold shutdownBackendWrite
  split
  · exact ⟨up, down⟩
  · rename_i due
    simp only [Bool.or_eq_true, not_or, Bool.not_eq_true, Bool.not_eq_false',
      List.isEmpty_iff] at due
    have upCalled := up.log .backendShutdown rfl (up.publicCarried due.1.1.1 due.1.1.2)
    simp only
    split
    · exact upCalled
    · have downCalled := down.log .backendShutdown rfl
      exact ⟨upCalled.of_same rfl rfl rfl rfl rfl, downCalled.of_same rfl rfl⟩

theorem shutdownPublicWrite_sound {others : Nat} {frame : Frame} (answer : Err)
    (up : Upstream others frame) (down : Downstream frame) :
    (shutdownPublicWrite answer frame).Sound others := by
  unfold shutdownPublicWrite
  split
  · exact ⟨up, down⟩
  · rename_i due
    simp only [Bool.or_eq_true, not_or, Bool.not_eq_true, Bool.not_eq_false'] at due
    have upCalled := up.log .publicShutdown rfl (down.backendCarried due.1.1)
    have downCalled := down.log .publicShutdown rfl
    simp only
    split
    · exact ⟨upCalled, downCalled⟩
    · split
      · exact upCalled
      · exact ⟨upCalled.of_same rfl rfl rfl rfl rfl, downCalled.of_same rfl rfl⟩

def Progress.Sound (others : Nat) : Progress → Prop
  | .alive frame => Upstream others frame ∧ Downstream frame
  | .released bridge connection => Accounts others bridge connection
  | .failed frame => Upstream others frame

theorem closeIfDone_sound {others : Nat} {frame : Frame} (tcpClose : Err)
    (up : Upstream others frame) (down : Downstream frame) :
    (closeIfDone tcpClose frame).Sound others := by
  unfold closeIfDone
  split
  · exact ⟨up, down⟩
  · rename_i due
    simp only [Bool.or_eq_true, not_or, Bool.not_eq_true, Bool.not_eq_false',
      List.isEmpty_iff] at due
    have backendCarried := down.backendCarried due.1.1.1.1.2
    have upCalled := up.log .publicClosed rfl backendCarried
    have downCalled := down.log .publicClosed rfl
    simp only
    split
    · exact ⟨upCalled, downCalled⟩
    · apply flowRelease_accounts (frame.log .publicClosed).detach upCalled.relays
        upCalled.counted upCalled.small
      apply Or.inr
      exact ⟨upCalled.publicCarried due.1.1.1.1.1 due.1.1.1.2,
        downCalled.backendCarried due.1.1.1.1.2⟩

theorem finishIfDone_sound {others : Nat} {frame : Frame} (answers : ProgressAnswers)
    (up : Upstream others frame) (down : Downstream frame) :
    (finishIfDone answers frame).Sound others := by
  have first := shutdownBackendWrite_sound answers.shutdown up down
  unfold finishIfDone
  split
  · rename_i after failed
    rw [failed] at first
    exact first
  · rename_i half shut
    rw [shut] at first
    have second := shutdownPublicWrite_sound answers.tcpShutdown first.1 first.2
    split
    · rename_i after failed
      rw [failed] at second
      exact second
    · rename_i both shutBoth
      rw [shutBoth] at second
      exact closeIfDone_sound answers.tcpClose second.1 second.2

theorem watchProgress_sound {others : Nat} {progress : Progress} (epollCtl : Bool)
    (sound : progress.Sound others) : (watchProgress epollCtl progress).Sound others := by
  cases progress with
  | alive frame =>
      obtain ⟨up, down⟩ := sound
      simp only [watchProgress, syncBackendWatch]
      split
      · rename_i watched synced
        split at synced
        · cases synced
          exact ⟨up, down⟩
        · split at synced
          · cases synced
            exact ⟨up.of_same rfl rfl rfl rfl rfl, down.of_same rfl rfl⟩
          · cases synced
      · rename_i after failed
        split at failed
        · cases failed
        · split at failed
          · cases failed
          · cases failed
            exact up
  | released bridge connection => exact sound
  | failed frame => exact sound

theorem progress_sound {others : Nat} {answers : ProgressAnswers} {frame : Frame}
    {result : Progress} (up : Upstream others frame) (down : Downstream frame)
    (done : progress answers frame = some result) : result.Sound others := by
  unfold progress at done
  split at done
  · cases done
  · rename_i after failed
    cases done
    exact flushPublicToBackend_sound up down failed
  · rename_i flushed flush
    obtain ⟨upFlushed, downFlushed⟩ := flushPublicToBackend_sound up down flush
    split at done
    · cases done
    · rename_i after failed
      cases done
      exact pumpBackendToPublic_sound upFlushed downFlushed failed
    · rename_i pumped pump
      obtain ⟨upPumped, downPumped⟩ := pumpBackendToPublic_sound upFlushed downFlushed pump
      cases done
      apply watchProgress_sound
      exact finishIfDone_sound answers upPumped downPumped

theorem conclude_accounts {others : Nat} (result : Progress) (sound : result.Sound others) :
    Accounts others (conclude result).bridge (conclude result).connection := by
  cases result with
  | alive frame => exact accounts_of_streams sound.1 sound.2
  | released bridge connection => exact sound
  | failed frame =>
      exact flowAbort_accounts _ sound.relays sound.counted sound.small sound.attached

theorem progress_accounts {others : Nat} {answers : ProgressAnswers} {frame : Frame}
    {returned : Returned} (up : Upstream others frame) (down : Downstream frame)
    (done : (progress answers frame).map conclude = some returned) :
    Accounts others returned.bridge returned.connection := by
  obtain ⟨result, progressed, concluded⟩ := Option.map_eq_some_iff.mp done
  rw [← concluded]
  exact conclude_accounts result (progress_sound up down progressed)

/-- lwIP takes payload off the receive window before it hands it over. -/
def Wire.receive (chain : List Pbuf) (wire : Wire) : Wire :=
  { wire with rcvWnd := wire.rcvWnd - chain.flatten.length }.log
    (.publicReceived chain.flatten)

/-- lwIP delivers the public stream in order, within the receive window it has
announced, and nothing after the end of the stream. -/
def deliver (p : Option (List Pbuf)) (wire : Wire) : Option Wire :=
  if .publicEnded ∈ wire.history then none
  else
    match p with
    | none => some (wire.log .publicEnded)
    | some chain =>
        if chain = [] ∨ wire.rcvWnd < chain.flatten.length then none
        else some (wire.receive chain)

/-- The callbacks of a live flow. -/
inductive FlowEvent where
  | publicRecv (p : Option (List Pbuf)) (err : Err) (answers : ProgressAnswers)
  | publicSent (answers : ProgressAnswers)
  | publicPoll (answers : ProgressAnswers)
  | publicError
  | backendReady (events : EpollEvents) (socketError : Bool) (answers : ProgressAnswers)

def flowStep (frame : Frame) : FlowEvent → Option Returned
  | .publicRecv p err answers =>
      (deliver p frame.wire).bind (fun wire => publicRecv p err answers { frame with wire := wire })
  | .publicSent answers => publicSent answers frame
  | .publicPoll answers => publicPoll answers frame
  | .publicError =>
      let (bridge, connection) := publicError (frame.log .publicErrored)
      some ⟨.ok, bridge, connection⟩
  | .backendReady events socketError answers => backendReady events socketError answers frame

structure State where
  bridge : Counters
  connections : List Connection
deriving DecidableEq

/-- How the system calls of the accept callback end. -/
inductive AcceptAnswer where
  | noMemory
  | setupFailed
  | connected
  | inProgress
deriving DecidableEq

inductive Event where
  | accept (answer : AcceptAnswer) (epollCtl : Bool) (backendStream : List UInt8)
  | callback (index : Nat) (event : FlowEvent)
  | stop

def freshFlow (connected : Bool) : Flow where
  pcb := true
  backendWatch := none
  publicRx := []
  backendConnecting := !connected
  backendConnected := connected
  backendEof := false
  publicEof := false
  backendWriteShutdown := false
  publicWriteShutdown := false
  backendReadBlocked := false

def freshWire (backendStream : List UInt8) : Wire where
  rcvWnd := tcpWnd
  backendStream := backendStream
  backendUnread := backendStream
  history := []

/-- The flow is linked and its backend socket watched. -/
def openFlow (connected epollCtl : Bool) (backendStream : List UInt8) (bridge : Counters) :
    Counters × Connection :=
  let active := bridge.activeFlows + 1
  let linked := { bridge with
    backendConnects := if connected then bridge.backendConnects + 1 else bridge.backendConnects
    activeFlows := active
    peakActiveFlows :=
      if active > bridge.peakActiveFlows then active else bridge.peakActiveFlows }
  let flow := freshFlow connected
  if epollCtl then
    (linked, ⟨some { flow with backendWatch := backendEvents flow }, freshWire backendStream⟩)
  else
    flowAbort ⟨{ linked with backendFailures := linked.backendFailures + 1 }, flow,
      freshWire backendStream⟩

def accept (answer : AcceptAnswer) (epollCtl : Bool) (backendStream : List UInt8)
    (state : State) : State :=
  let bridge := { state.bridge with accepts := state.bridge.accepts + 1 }
  match answer with
  | .noMemory => { state with bridge := bridge }
  | .setupFailed =>
      { state with bridge := { bridge with backendFailures := bridge.backendFailures + 1 } }
  | .connected =>
      let (linked, connection) := openFlow true epollCtl backendStream bridge
      ⟨linked, state.connections ++ [connection]⟩
  | .inProgress =>
      let (linked, connection) := openFlow false epollCtl backendStream bridge
      ⟨linked, state.connections ++ [connection]⟩

def stopConnection (bridge : Counters) (connection : Connection) : Counters × Connection :=
  match connection.flow with
  | none => (bridge, connection)
  | some flow => flowAbort ⟨bridge, flow, connection.wire⟩

def stopFlows : Counters → List Connection → Counters × List Connection
  | bridge, [] => (bridge, [])
  | bridge, connection :: rest =>
      let (after, stopped) := stopConnection bridge connection
      let (last, others) := stopFlows after rest
      (last, stopped :: others)

def step (state : State) : Event → Option State
  | .accept answer epollCtl backendStream =>
      if state.bridge.listener then some (accept answer epollCtl backendStream state) else none
  | .callback index event => do
      let connection ← state.connections[index]?
      let flow ← connection.flow
      let returned ← flowStep ⟨state.bridge, flow, connection.wire⟩ event
      some ⟨returned.bridge, state.connections.set index returned.connection⟩
  | .stop =>
      let (bridge, connections) := stopFlows { state.bridge with listener := false }
        state.connections
      some ⟨bridge, connections⟩

/-- The bridge right after `tcp_shift_bridge_start`. -/
def start : State where
  bridge := {
    listener := true
    accepts := 0
    backendConnects := 0
    publicToBackendBytes := 0
    backendToPublicBytes := 0
    activeFlows := 0
    peakActiveFlows := 0
    pendingPublicBytes := 0
    peakPendingPublicBytes := 0
    backendWriteBlockedEvents := 0
    backendReadBlockedEvents := 0
    backendFailures := 0
    publicErrors := 0 }
  connections := []

theorem Upstream.deliver_chain {others : Nat} {frame : Frame} {chain : List Pbuf}
    (up : Upstream others frame) (fits : chain.flatten.length ≤ frame.wire.rcvWnd) :
    Upstream others
      { bridge := trackPublicRx chain frame.bridge
        flow := { frame.flow with publicRx := frame.flow.publicRx ++ chain }
        wire := frame.wire.receive chain } := by
  have window := up.window
  have counted := up.counted
  have small : totLen chain = chain.flatten.length := by
    simp only [tcpWnd] at window
    exact Nat.mod_eq_of_lt (by omega)
  refine ⟨⟨up.relays.orderly.concat trivial, ?_⟩, ?_, ?_, ?_, up.attached, ?_⟩
  · simp only [Wire.receive, Wire.log, credited_concat, written_concat, Interaction.credited,
      Interaction.written, List.append_nil, Nat.add_zero]
    exact up.relays.credited
  · simp only [Wire.receive, Wire.log, received_concat, written_concat, Interaction.received,
      Interaction.written, List.append_nil, Flow.pending, List.flatten_append]
    rw [up.held, Flow.pending, List.append_assoc]
  · simp only [Wire.receive, Wire.log, Flow.pending, List.flatten_append,
      List.length_append] at window ⊢
    omega
  · simp only [trackPublicRx, Flow.pending, List.flatten_append, List.length_append, small]
      at counted ⊢
    omega
  · intro ended
    exact List.mem_append_left _ (up.publicEnd ended)

theorem Upstream.deliver_end {others : Nat} {frame : Frame} (up : Upstream others frame) :
    Upstream others
      { bridge := frame.bridge
        flow := { frame.flow with publicEof := true }
        wire := frame.wire.log .publicEnded } := by
  have logged := up.log .publicEnded rfl trivial
  refine ⟨logged.relays, logged.held, logged.window, logged.counted, logged.attached, ?_⟩
  intro _
  exact List.mem_append_right _ List.mem_cons_self

theorem publicRecv_chain_accounts {others : Nat} {frame : Frame} {chain : List Pbuf}
    {err : Err} {answers : ProgressAnswers} {returned : Returned}
    (up : Upstream others frame) (down : Downstream frame)
    (fits : chain.flatten.length ≤ frame.wire.rcvWnd)
    (done : publicRecv (some chain) err answers
      { frame with wire := frame.wire.receive chain } = some returned) :
    Accounts others returned.bridge returned.connection := by
  unfold publicRecv at done
  split at done
  · cases done
    have received := up.relays.log (.publicReceived chain.flatten) rfl rfl trivial
    exact flowAbort_accounts _ ⟨received.orderly, received.credited⟩ up.counted up.small
      up.attached
  · have logged := down.log (.publicReceived chain.flatten) rfl
    exact progress_accounts (up.deliver_chain fits) ⟨logged.read, logged.backendEnd⟩ done

theorem publicRecv_end_accounts {others : Nat} {frame : Frame} {err : Err}
    {answers : ProgressAnswers} {returned : Returned} (up : Upstream others frame)
    (down : Downstream frame)
    (done : publicRecv none err answers { frame with wire := frame.wire.log .publicEnded } =
      some returned) :
    Accounts others returned.bridge returned.connection := by
  unfold publicRecv at done
  split at done
  · cases done
    have ended := up.log .publicEnded rfl trivial
    exact flowAbort_accounts _ ended.relays ended.counted ended.small ended.attached
  · have logged := down.log .publicEnded rfl
    exact progress_accounts up.deliver_end ⟨logged.read, logged.backendEnd⟩ done

theorem publicError_accounts {others : Nat} {frame : Frame} (up : Upstream others frame) :
    Accounts others (publicError (frame.log .publicErrored)).1
      (publicError (frame.log .publicErrored)).2 := by
  have errored := up.log .publicErrored rfl trivial
  apply flowRelease_accounts
  · exact errored.relays
  · exact errored.counted
  · exact errored.small
  · apply Or.inl
    apply Or.inr
    exact List.mem_append_right _ List.mem_cons_self

theorem resumeBackendReads_accounts {others : Nat} {frame : Frame}
    {answers : ProgressAnswers} {returned : Returned} (up : Upstream others frame)
    (down : Downstream frame) (done : resumeBackendReads answers frame = some returned) :
    Accounts others returned.bridge returned.connection := by
  unfold resumeBackendReads at done
  apply progress_accounts _ _ done
  · exact up.of_same rfl rfl rfl rfl rfl
  · exact down.of_same rfl rfl

theorem backendReady_accounts {others : Nat} {frame : Frame} {events : EpollEvents}
    {socketError : Bool} {answers : ProgressAnswers} {returned : Returned}
    (up : Upstream others frame) (down : Downstream frame)
    (done : backendReady events socketError answers frame = some returned) :
    Accounts others returned.bridge returned.connection := by
  unfold backendReady at done
  split at done
  · cases done
    exact conclude_accounts (.failed frame) up
  · have ready : Upstream others
          (if frame.flow.backendConnecting then completeBackendConnect frame else frame) ∧
        Downstream
          (if frame.flow.backendConnecting then completeBackendConnect frame else frame) := by
      split
      · exact ⟨up.of_same rfl rfl rfl rfl rfl, down.of_same rfl rfl⟩
      · exact ⟨up, down⟩
    simp only at done
    split at done
    · exact progress_accounts ready.1 ready.2 done
    · cases done
      exact accounts_of_streams ready.1 ready.2

theorem flowStep_accounts {others : Nat} {frame : Frame} {event : FlowEvent}
    {returned : Returned} (up : Upstream others frame) (down : Downstream frame)
    (stepped : flowStep frame event = some returned) :
    Accounts others returned.bridge returned.connection := by
  cases event with
  | publicRecv p err answers =>
      obtain ⟨wire, delivered, done⟩ := Option.bind_eq_some_iff.mp stepped
      unfold deliver at delivered
      split at delivered
      · cases delivered
      · split at delivered
        · cases delivered
          exact publicRecv_end_accounts up down done
        · split at delivered
          · cases delivered
          · rename_i fits
            cases delivered
            exact publicRecv_chain_accounts up down (by omega) done
  | publicSent answers => exact resumeBackendReads_accounts up down stepped
  | publicPoll answers => exact resumeBackendReads_accounts up down stepped
  | publicError =>
      cases stepped
      exact publicError_accounts up
  | backendReady events socketError answers => exact backendReady_accounts up down stepped

/-- Every connection is carried, and the bridge counts what is pending on all of them. -/
structure Sound (state : State) : Prop where
  carries : ∀ connection ∈ state.connections, connection.Carries
  counted : state.bridge.pendingPublicBytes = (state.connections.map Connection.pending).sum

/-- The pending bytes of one connection beside those of the others. -/
theorem pending_sum_set {connections : List Connection} {index : Nat} {connection : Connection}
    (present : connections[index]? = some connection) :
    ∃ others, (connections.map Connection.pending).sum = others + connection.pending ∧
      ∀ after : Connection,
        ((connections.set index after).map Connection.pending).sum = others + after.pending := by
  induction connections generalizing index with
  | nil => cases present
  | cons first rest ih =>
      cases index with
      | zero =>
          simp only [List.getElem?_cons_zero, Option.some.injEq] at present
          refine ⟨(rest.map Connection.pending).sum, ?_, ?_⟩
          · rw [List.map_cons, List.sum_cons, present, Nat.add_comm]
          · intro after
            rw [List.set_cons_zero, List.map_cons, List.sum_cons, Nat.add_comm]
      | succ index =>
          obtain ⟨others, total, replaced⟩ := ih (by simpa using present)
          refine ⟨first.pending + others, ?_, ?_⟩
          · rw [List.map_cons, List.sum_cons, total, Nat.add_assoc]
          · intro after
            rw [List.set_cons_succ, List.map_cons, List.sum_cons, replaced after, Nat.add_assoc]

theorem fresh_upstream {others : Nat} {bridge : Counters} (connected : Bool)
    (watch : Option EpollEvents) (backendStream : List UInt8)
    (counted : bridge.pendingPublicBytes = others) :
    Upstream others ⟨bridge, { freshFlow connected with backendWatch := watch },
      freshWire backendStream⟩ := by
  refine ⟨⟨orderly_nil backendStream, rfl⟩, rfl, rfl, counted, rfl, ?_⟩
  intro ended
  cases ended

theorem openFlow_accounts (connected epollCtl : Bool) (backendStream : List UInt8)
    (bridge : Counters) :
    Accounts bridge.pendingPublicBytes (openFlow connected epollCtl backendStream bridge).1
      (openFlow connected epollCtl backendStream bridge).2 := by
  simp only [openFlow]
  split
  · apply accounts_of_streams (fresh_upstream connected _ backendStream rfl)
    constructor
    · rfl
    · intro ended
      cases ended
  · have up := fresh_upstream connected none backendStream
      (rfl : bridge.pendingPublicBytes = bridge.pendingPublicBytes)
    exact flowAbort_accounts _ up.relays up.counted up.small up.attached

theorem Sound.append {state : State} {bridge : Counters} {connection : Connection}
    (sound : Sound state)
    (accounts : Accounts state.bridge.pendingPublicBytes bridge connection) :
    Sound ⟨bridge, state.connections ++ [connection]⟩ := by
  constructor
  · intro member present
    rcases List.mem_append.mp present with old | new
    · exact sound.carries member old
    · rw [List.mem_singleton.mp new]
      exact accounts.1
  · simp only [List.map_append, List.sum_append, List.map_cons, List.map_nil, List.sum_cons,
      List.sum_nil, Nat.add_zero]
    rw [accounts.2, sound.counted]

theorem accept_sound {state : State} (answer : AcceptAnswer) (epollCtl : Bool)
    (backendStream : List UInt8) (sound : Sound state) :
    Sound (accept answer epollCtl backendStream state) := by
  cases answer with
  | noMemory => exact ⟨sound.carries, sound.counted⟩
  | setupFailed => exact ⟨sound.carries, sound.counted⟩
  | connected => exact sound.append (openFlow_accounts true epollCtl backendStream _)
  | inProgress => exact sound.append (openFlow_accounts false epollCtl backendStream _)

theorem stopConnection_accounts {others : Nat} {bridge : Counters} {connection : Connection}
    (accounts : Accounts others bridge connection) :
    Accounts others (stopConnection bridge connection).1
      (stopConnection bridge connection).2 := by
  unfold stopConnection
  split
  · exact accounts
  · rename_i flow live
    obtain ⟨carries, counted⟩ := accounts
    simp only [Connection.pending, live] at counted
    obtain ⟨up, _⟩ := carries.live flow live others bridge counted
    exact flowAbort_accounts _ up.relays up.counted up.small up.attached

theorem stopFlows_accounts (others : Nat) (bridge : Counters) {connections : List Connection}
    (carries : ∀ connection ∈ connections, connection.Carries)
    (counted : bridge.pendingPublicBytes =
      others + (connections.map Connection.pending).sum) :
    (∀ connection ∈ (stopFlows bridge connections).2, connection.Carries) ∧
      (stopFlows bridge connections).1.pendingPublicBytes =
        others + ((stopFlows bridge connections).2.map Connection.pending).sum := by
  induction connections generalizing bridge others with
  | nil => exact ⟨carries, counted⟩
  | cons connection rest ih =>
      obtain ⟨firstCarries, restCarries⟩ := List.forall_mem_cons.mp carries
      rw [List.map_cons, List.sum_cons] at counted
      have stopped : Accounts (others + (rest.map Connection.pending).sum)
          (stopConnection bridge connection).1 (stopConnection bridge connection).2 :=
        stopConnection_accounts ⟨firstCarries, by omega⟩
      -- The rest is stopped beside what the first connection leaves pending.
      obtain ⟨tailCarries, tailCounted⟩ :=
        ih (others + (stopConnection bridge connection).2.pending)
          (stopConnection bridge connection).1 restCarries (by rw [stopped.2]; omega)
      constructor
      · exact List.forall_mem_cons.mpr ⟨stopped.1, tailCarries⟩
      · simp only [stopFlows, List.map_cons, List.sum_cons]
        omega

theorem step_sound {state next : State} {event : Event} (sound : Sound state)
    (stepped : step state event = some next) : Sound next := by
  cases event with
  | accept answer epollCtl backendStream =>
      simp only [step] at stepped
      split at stepped
      · cases stepped
        exact accept_sound answer epollCtl backendStream sound
      · cases stepped
  | callback index event =>
      simp only [step, Option.bind_eq_bind, Option.bind_eq_some_iff] at stepped
      obtain ⟨connection, present, flow, live, returned, done, same⟩ := stepped
      cases same
      obtain ⟨others, total, replaced⟩ := pending_sum_set present
      have counted := sound.counted
      rw [total, Connection.pending, live] at counted
      have member := List.mem_of_getElem? present
      obtain ⟨up, down⟩ := (sound.carries connection member).live flow live others _ counted
      obtain ⟨carries, afterCounted⟩ := flowStep_accounts up down done
      constructor
      · intro other present
        rcases List.mem_or_eq_of_mem_set present with old | new
        · exact sound.carries other old
        · rw [new]
          exact carries
      · rw [replaced, afterCounted]
  | stop =>
      cases stepped
      obtain ⟨carries, counted⟩ := stopFlows_accounts 0 { state.bridge with listener := false }
        sound.carries (by rw [Nat.zero_add]; exact sound.counted)
      rw [Nat.zero_add] at counted
      exact ⟨carries, counted⟩

theorem run_sound {events : List Event} {final : State}
    (ran : Run.run step start events = some final) : Sound final := by
  refine Run.run_invariant ?_ ?_ ran
  · intro state event next sound stepped
    exact step_sound sound stepped
  · constructor
    · intro connection absent
      cases absent
    · rfl

/-- The bridge counts exactly the public bytes that wait for a backend. -/
theorem pendingPublicBytes_exact {events : List Event} {final : State}
    (ran : Run.run step start events = some final) :
    final.bridge.pendingPublicBytes = (final.connections.map Connection.pending).sum :=
  (run_sound ran).counted

/-- However lwIP, the kernel and the event loop interleave, on every connection the bytes
reach the other side in order, the receive window is opened by what was written, and each
direction is shut down only behind all of its bytes. -/
theorem relays_every_stream {events : List Event} {final : State}
    (ran : Run.run step start events = some final) :
    ∀ connection ∈ final.connections, Relays connection.wire := by
  intro connection present
  exact ((run_sound ran).carries connection present).relays

/-- Answers that touch neither stream. -/
def quiet : ProgressAnswers where
  writev := []
  pump := [⟨0, [], .ok, []⟩]
  shutdown := .done
  tcpShutdown := .ok
  tcpClose := .ok
  epollCtl := true

/-- Data before the backend is connected, a `writev` that ends inside a pbuf, a full lwIP
send queue, a consuming read in two parts, then the end of either stream. -/
def chunkedRun : List Event := [
  .accept .inProgress true [10, 11, 12],
  .callback 0 (.publicRecv (some [[1, 2], [], [3]]) .ok quiet),
  .callback 0 (.backendReady ⟨false, true, false, false, false⟩ false { quiet with
    writev := [.returned (.count 1), .returned .again]
    pump := [⟨100, [.returned (.count 2)], .mem, []⟩] }),
  .callback 0 (.publicSent { quiet with
    writev := [.interrupted, .returned (.count 2)]
    pump := [⟨2, [.returned (.count 2)], .ok, [.returned (.count 1), .returned (.count 1)]⟩,
      ⟨0, [], .ok, []⟩] }),
  .callback 0 (.publicRecv none .ok { quiet with
    pump := [⟨100, [.returned .again], .ok, []⟩] }),
  .callback 0 (.publicPoll { quiet with
    pump := [⟨100, [.returned (.count 1)], .ok, [.returned (.count 1)]⟩,
      ⟨100, [.returned (.count 0)], .ok, []⟩] })]

def chunkedHistory : List Interaction := [
  .publicReceived [1, 2, 3], .backendWrote [1], .tcpRecved 1, .backendWrote [2, 3],
  .tcpRecved 2, .publicAccepted [10, 11], .backendConsumed [10], .backendConsumed [11],
  .publicEnded, .markedAppLimited, .backendShutdown, .publicAccepted [12],
  .backendConsumed [12], .backendEnded, .publicShutdown, .publicClosed, .backendClosed]

theorem relays_every_stream_chunkedRun : ∃ final, Run.run step start chunkedRun = some final ∧
    (∀ connection ∈ final.connections, Relays connection.wire) ∧
    final.connections.map (fun connection => connection.wire.history) = [chunkedHistory] := by
  obtain ⟨final, ran⟩ : ∃ final, Run.run step start chunkedRun = some final :=
    Option.isSome_iff_exists.mp (by decide +kernel)
  have histories : (Run.run step start chunkedRun).map (fun state =>
      state.connections.map (fun connection => connection.wire.history)) =
        some [chunkedHistory] := by
    decide +kernel
  rw [ran, Option.map_some, Option.some.injEq] at histories
  exact ⟨final, ran, relays_every_stream ran, histories⟩

end TcpShift.Bridge
