import TcpShift.Lib.Run
import TcpShift.TcpMemoryAccounting

set_option autoImplicit false

/- The wrappers the bridge is compiled against: `tcp_write` charges the flow and
`tcp_sent` interposes the callback that discharges it. -/
namespace TcpShift.TcpMemory

open Word

/-- The extension argument hung on a control block. -/
structure MemoryExt where
  flow : MemoryFlow := {}
  appSent : Bool := false
  pendingExpandNum : Nat := 0
  pendingExpandDen : Nat := 0
deriving DecidableEq, Repr

/-- What lwIP's `sent` slot holds. -/
inductive SentCallback where
  | none
  | app
  | dispatch
deriving DecidableEq, Repr

/-- lwIP's answer to a write, and the wrapper's. -/
inductive WriteResult where
  | ok
  | mem
  | refused
deriving DecidableEq, Repr

/-- One control block and the process state its wrappers use. `memoryReady` is what
the one-time initialisation of the process manager came to. -/
structure Connection where
  memoryReady : Bool
  manager : MemoryManager
  pcb : TcpPcb
  ext : Option MemoryExt
  sent : SentCallback
deriving DecidableEq, Repr

namespace Connection

def flowLive (conn : Connection) : Bool := (conn.ext.map (fun ext => ext.flow.live)).getD false

def queuedBytes (conn : Connection) : Nat := (conn.ext.map (fun ext => ext.flow.queuedBytes)).getD 0

/-- `flow_init` on an allocated extension, consuming the pending expansion hint. -/
def attach (conn : Connection) (ext : MemoryExt) : Bool × Connection :=
  match flowInit conn.manager conn.pcb with
  | none => (false, { conn with ext := some ext })
  | some (manager, flow, pcb) =>
      let attached : MemoryExt := { ext with pendingExpandNum := 0, pendingExpandDen := 0 }
      if ext.pendingExpandNum = 0 then
        (true, { conn with manager := manager, pcb := pcb, ext := some { attached with flow := flow } })
      else
        match flowSetSndbufExpand flow ext.pendingExpandNum ext.pendingExpandDen with
        | some expanded =>
            (true, { conn with
              manager := manager, pcb := pcb, ext := some { attached with flow := expanded } })
        | none =>
            let (released, dead) := flowRelease manager flow
            (false, { conn with
              manager := released, pcb := pcb, ext := some { ext with flow := dead } })

/-- The extension with a live flow, allocated and initialised on demand. -/
def ensure (conn : Connection) (calloc : Bool) : Bool × Connection :=
  if conn.flowLive then (true, conn)
  else if conn.memoryReady = false then (false, conn)
  else
    match conn.ext with
    | some ext => conn.attach ext
    | none => if calloc then conn.attach {} else (false, conn)

/-- The callback that discharges acknowledged bytes before the application sees them. -/
def sentDispatch (conn : Connection) (len : Nat) : Connection :=
  match conn.ext with
  | none => conn
  | some ext =>
      let (manager, flow) := flowNoteAcked conn.manager ext.flow len
      { conn with manager := manager, ext := some { ext with flow := flow } }

/-- The charged write, after `ensure` has produced the extension. -/
def writeCharged (conn : Connection) (ext : MemoryExt) (len : Nat) (tcpWrite : WriteResult) :
    WriteResult × Connection :=
  match flowMaybeGrow conn.manager ext.flow conn.pcb ext.flow.sndbufExpandNum
      ext.flow.sndbufExpandDen with
  | (growth, manager, flow, pcb) =>
      let grown := { conn with manager := manager, pcb := pcb, ext := some { ext with flow := flow } }
      if growth = .invalid then (.mem, grown)
      else
        match flowCanWrite manager flow pcb len with
        | (false, checked) => (.mem, { grown with manager := checked })
        | (true, checked) =>
            if tcpWrite = .ok then
              let (charged, written) := flowNoteWrite checked flow len
              (.ok, { grown with
                manager := charged
                pcb := lwipWrote pcb len
                ext := some { ext with flow := written } })
            else (tcpWrite, { grown with manager := checked })

def write (conn : Connection) (len : Nat) (calloc : Bool) (tcpWrite : WriteResult) :
    WriteResult × Connection :=
  match conn.ensure calloc with
  | (false, next) => (.mem, next)
  | (true, next) =>
      match next.ext with
      | none => (.mem, next)
      | some ext => next.writeCharged ext len tcpWrite

/-- Registration of the application's callback; `callback = false` is a null pointer. -/
def setSent (conn : Connection) (callback calloc : Bool) : Connection :=
  if callback = false then
    { conn with ext := conn.ext.map (fun ext => { ext with appSent := false }), sent := .none }
  else
    let (found, next) := if conn.ext.isSome then (true, conn) else conn.ensure calloc
    if found then
      { next with ext := next.ext.map (fun ext => { ext with appSent := true }), sent := .dispatch }
    else { next with sent := .app }

def setSndbufExpand (conn : Connection) (expandNum expandDen : Nat) (calloc : Bool) : Connection :=
  if expandNum = 0 ∨ expandDen = 0 then conn
  else if conn.flowLive then
    { conn with ext := conn.ext.map (fun ext =>
        { ext with flow := (flowSetSndbufExpand ext.flow expandNum expandDen).getD ext.flow }) }
  else
    match conn.ext with
    | some ext =>
        { conn with ext := some { ext with
            pendingExpandNum := expandNum, pendingExpandDen := expandDen } }
    | none =>
        if calloc then
          { conn with ext := some { pendingExpandNum := expandNum, pendingExpandDen := expandDen } }
        else conn

end Connection

/-- A connection and what its user and lwIP have done so far: the bytes written
through the wrapper and those of them reported as acknowledged. -/
structure Tracked where
  conn : Connection
  written : Nat := 0
  reported : Nat := 0
deriving DecidableEq, Repr

inductive WrapperEvent where
  | register (callback calloc : Bool)
  | write (len : Nat) (calloc : Bool) (tcpWrite : WriteResult)
  | expand (expandNum expandDen : Nat) (calloc : Bool)
  | acked (len : Nat)
  | lwip (pcb : TcpPcb)
  | otherFlows (manager : MemoryManager)
deriving DecidableEq, Repr

/-- lwIP returns the bytes to `snd_buf` and calls whatever the slot holds. -/
def reportAcked (conn : Connection) (len : Nat) : Connection :=
  let returned := { conn with pcb := lwipAcked conn.pcb len }
  if conn.sent = .dispatch then returned.sentDispatch len else returned

def wrapperStep (tracked : Tracked) : WrapperEvent → Option Tracked
  | .register callback calloc =>
      some { tracked with conn := tracked.conn.setSent callback calloc }
  | .write len calloc tcpWrite =>
      if len ≤ u16Max then
        let (result, conn) := tracked.conn.write len calloc tcpWrite
        some { tracked with
          conn := conn
          written := if result = .ok then tracked.written + len else tracked.written }
      else none
  | .expand expandNum expandDen calloc =>
      some { tracked with conn := tracked.conn.setSndbufExpand expandNum expandDen calloc }
  | .acked len =>
      -- lwIP reports a byte once, after it was written
      if 0 < len ∧ len ≤ u16Max ∧ tracked.reported + len ≤ tracked.written then
        some { tracked with
          conn := reportAcked tracked.conn len
          reported := tracked.reported + len }
      else none
  | .lwip pcb =>
      if tracked.conn.flowLive = false ∨ pcb.sndBuf = tracked.conn.pcb.sndBuf then
        some { tracked with conn := { tracked.conn with pcb := pcb } }
      else none
  | .otherFlows manager =>
      -- the other flows move the total, but never below what this flow has queued
      if manager.config = tracked.conn.manager.config ∧
          tracked.conn.queuedBytes ≤ manager.stats.chargedBytes then
        some { tracked with conn := { tracked.conn with manager := manager } }
      else none

/-- What is charged is exactly what was written and not yet acknowledged. -/
def Discharged (tracked : Tracked) : Prop :=
  tracked.conn.queuedBytes + tracked.reported = tracked.written

section Wrappers

/-- The call moves no bytes in or out of the flow. -/
structure Quiet (conn next : Connection) : Prop where
  queued : next.queuedBytes = conn.queuedBytes
  charged : next.manager.stats.chargedBytes = conn.manager.stats.chargedBytes
  kept : conn.ext.isSome = true → next.ext.isSome = true
  live : conn.flowLive = true → next.flowLive = true

theorem Quiet.refl (conn : Connection) : Quiet conn conn := ⟨rfl, rfl, id, id⟩

theorem Quiet.trans {first second third : Connection} (left : Quiet first second)
    (right : Quiet second third) : Quiet first third :=
  ⟨right.queued.trans left.queued, right.charged.trans left.charged,
    fun present => right.kept (left.kept present), fun live => right.live (left.live live)⟩

theorem attach_quiet {conn : Connection} (ext : MemoryExt) (dead : conn.flowLive = false)
    (unqueued : conn.queuedBytes = 0) (empty : ext.flow.queuedBytes = 0) :
    Quiet conn (conn.attach ext).2 ∧ (conn.attach ext).2.sent = conn.sent ∧
      ((conn.attach ext).1 = true → (conn.attach ext).2.flowLive = true) := by
  unfold Connection.attach
  cases started : flowInit conn.manager conn.pcb with
  | none =>
      refine ⟨⟨?_, rfl, fun _ => rfl, fun live => ?_⟩, rfl, fun found => by contradiction⟩
      · rw [unqueued]
        exact empty
      · rw [dead] at live
        contradiction
  | some result =>
      obtain ⟨manager, flow, pcb⟩ := result
      have fresh : manager.stats.chargedBytes = conn.manager.stats.chargedBytes ∧
          flow.queuedBytes = 0 ∧ flow.live = true := by
        unfold flowInit at started
        split at started
        · cases started
          exact ⟨rfl, rfl, rfl⟩
        · contradiction
      obtain ⟨charged, queued, live⟩ := fresh
      simp only
      split
      · refine ⟨⟨queued.trans unqueued.symm, charged, fun _ => rfl, fun _ => live⟩, rfl,
          fun _ => live⟩
      · unfold flowSetSndbufExpand
        split
        · rename_i expanded same
          split at same
          · contradiction
          · rw [← Option.some.inj same]
            exact ⟨⟨queued.trans unqueued.symm, charged, fun _ => rfl, fun _ => live⟩, rfl,
              fun _ => live⟩
        · have total : (flowRelease manager flow).1.stats.chargedBytes =
              conn.manager.stats.chargedBytes := by
            simp [flowRelease, live, queued, clampUnderflow, updatePressure_frame, charged]
          have gone : (flowRelease manager flow).2.queuedBytes = 0 := by
            simp [flowRelease, live]
          refine ⟨⟨gone.trans unqueued.symm, total, fun _ => rfl, fun was => ?_⟩, rfl,
            fun found => by contradiction⟩
          rw [dead] at was
          contradiction

theorem ensure_quiet {conn : Connection} (calloc : Bool)
    (idle : conn.flowLive = false → conn.queuedBytes = 0) :
    Quiet conn (conn.ensure calloc).2 ∧ (conn.ensure calloc).2.sent = conn.sent ∧
      ((conn.ensure calloc).1 = true → (conn.ensure calloc).2.flowLive = true) := by
  unfold Connection.ensure
  split
  · rename_i live
    exact ⟨.refl conn, rfl, fun _ => live⟩
  · rename_i notLive
    have dead : conn.flowLive = false := by simpa using notLive
    have unqueued := idle dead
    split
    · exact ⟨.refl conn, rfl, fun found => by contradiction⟩
    · split
      · rename_i ext present
        refine attach_quiet ext dead unqueued ?_
        simpa [Connection.queuedBytes, present] using unqueued
      · split
        · exact attach_quiet {} dead unqueued rfl
        · exact ⟨.refl conn, rfl, fun found => by contradiction⟩

theorem flowLive_iff {conn : Connection} :
    conn.flowLive = true ↔ ∃ ext, conn.ext = some ext ∧ ext.flow.live = true := by
  unfold Connection.flowLive
  cases conn.ext with
  | none => simp
  | some ext => simp

theorem flowMaybeGrow_frame (manager : MemoryManager) (flow : MemoryFlow) (pcb : TcpPcb)
    (expandNum expandDen : Nat) :
    let result := flowMaybeGrow manager flow pcb expandNum expandDen
    result.2.1.stats.chargedBytes = manager.stats.chargedBytes ∧
      result.2.1.config = manager.config ∧
      result.2.2.1.queuedBytes = flow.queuedBytes ∧ result.2.2.1.live = flow.live := by
  unfold flowMaybeGrow
  simp only
  split_ifs <;> exact ⟨rfl, rfl, rfl, rfl⟩

/-- An accepted write charges its length, any other outcome charges nothing. -/
theorem writeCharged_spec {conn : Connection} {ext : MemoryExt} (len : Nat)
    (tcpWrite : WriteResult) (present : conn.ext = some ext) (live : ext.flow.live = true)
    (part : ext.flow.queuedBytes ≤ conn.manager.stats.chargedBytes) :
    let result := conn.writeCharged ext len tcpWrite
    result.2.sent = conn.sent ∧ result.2.flowLive = true ∧ result.2.ext.isSome = true ∧
      ((result.1 = .ok ∧ result.2.queuedBytes = conn.queuedBytes + len ∧
          result.2.manager.stats.chargedBytes = conn.manager.stats.chargedBytes + len) ∨
        (result.1 ≠ .ok ∧ Quiet conn result.2)) := by
  obtain ⟨sameCharge, sameConfig, sameQueued, sameLive⟩ := flowMaybeGrow_frame conn.manager
    ext.flow conn.pcb ext.flow.sndbufExpandNum ext.flow.sndbufExpandDen
  unfold Connection.writeCharged
  generalize flowMaybeGrow conn.manager ext.flow conn.pcb ext.flow.sndbufExpandNum
    ext.flow.sndbufExpandDen = result at sameCharge sameConfig sameQueued sameLive ⊢
  obtain ⟨growth, manager, flow, pcb⟩ := result
  simp only at sameCharge sameConfig sameQueued sameLive ⊢
  have flowLive : flow.live = true := sameLive.trans live
  have queued : conn.queuedBytes = flow.queuedBytes := by
    simp [Connection.queuedBytes, present, sameQueued]
  have quiet : ∀ checked : MemoryManager,
      checked.stats.chargedBytes = conn.manager.stats.chargedBytes →
      Quiet conn { conn with
        manager := checked, pcb := pcb, ext := some { ext with flow := flow } } := by
    intro checked charged
    exact ⟨queued.symm, charged, fun _ => rfl, fun _ => flowLive⟩
  split
  · exact ⟨rfl, flowLive, rfl, .inr ⟨by simp, quiet manager sameCharge⟩⟩
  · obtain ⟨checkedConfig, checkedCharge, _, _⟩ := flowCanWrite_frame manager flow pcb len
    have admits : (flowCanWrite manager flow pcb len).1 = true → len ≠ 0 →
        len ≤ pcb.sndBuf ∧ manager.stats.chargedBytes + len ≤ manager.config.mem.highBytes :=
      fun admitted some_bytes => (flowCanWrite_admits admitted some_bytes).2
    generalize flowCanWrite manager flow pcb len = result at checkedConfig checkedCharge admits ⊢
    obtain ⟨admitted, checked⟩ := result
    simp only at checkedConfig checkedCharge admits ⊢
    cases admitted with
    | false =>
        exact ⟨rfl, flowLive, rfl,
          .inr ⟨by simp, quiet checked (checkedCharge.trans sameCharge)⟩⟩
    | true =>
        simp only
        split
        · unfold flowNoteWrite
          by_cases nothing : len = 0
          · rw [if_pos (.inr nothing), nothing]
            exact ⟨rfl, flowLive, rfl, .inl ⟨rfl, queued.symm, checkedCharge.trans sameCharge⟩⟩
          · obtain ⟨_, room⟩ := admits rfl nothing
            have high := manager.config.mem.inU64.2.2
            have total : add64 checked.stats.chargedBytes len =
                conn.manager.stats.chargedBytes + len := by
              rw [checkedCharge, sameCharge]
              exact add64_of_lt (by omega)
            have own : add64 flow.queuedBytes len = flow.queuedBytes + len :=
              add64_of_lt (by omega)
            rw [if_neg (by simp [flowLive, nothing])]
            refine ⟨rfl, flowLive, rfl, .inl ⟨rfl, ?_, ?_⟩⟩
            · rw [queued]
              exact own
            · rw [(updatePressure_frame _).2.1]
              exact total
        · rename_i refused
          exact ⟨rfl, flowLive, rfl,
            .inr ⟨refused, quiet checked (checkedCharge.trans sameCharge)⟩⟩

theorem sentDispatch_spec {conn : Connection} {ext : MemoryExt} {len : Nat}
    (present : conn.ext = some ext) (live : ext.flow.live = true) (positive : 0 < len)
    (inside : len ≤ ext.flow.queuedBytes)
    (part : ext.flow.queuedBytes ≤ conn.manager.stats.chargedBytes) :
    (conn.sentDispatch len).queuedBytes + len = conn.queuedBytes ∧
      (conn.sentDispatch len).manager.stats.chargedBytes + len =
        conn.manager.stats.chargedBytes ∧
      (conn.sentDispatch len).flowLive = true ∧ (conn.sentDispatch len).sent = conn.sent := by
  unfold Connection.sentDispatch
  simp only [present, Connection.queuedBytes, Connection.flowLive, Option.map_some,
    Option.getD_some]
  unfold flowNoteAcked
  rw [if_neg (by simp [live]; omega)]
  simp only [clampUnderflow_of_le inside,
    clampUnderflow_of_le (show len ≤ conn.manager.stats.chargedBytes by omega),
    updatePressure_frame]
  exact ⟨by omega, by omega, live, trivial⟩

end Wrappers

/-- What holds of every run, whether or not its bytes are discharged. -/
structure Sound (tracked : Tracked) : Prop where
  part : tracked.conn.queuedBytes ≤ tracked.conn.manager.stats.chargedBytes
  idle : tracked.conn.flowLive = false → tracked.written = 0 ∧ tracked.conn.queuedBytes = 0
  behind : tracked.reported ≤ tracked.written
  owed : tracked.written ≤ tracked.conn.queuedBytes + tracked.reported
  present : tracked.conn.sent = .dispatch → tracked.conn.ext.isSome = true

theorem Sound.of_quiet {tracked : Tracked} {next : Connection} (sound : Sound tracked)
    (quiet : Quiet tracked.conn next)
    (present : next.sent = .dispatch → next.ext.isSome = true) :
    Sound { tracked with conn := next } where
  part := by
    simp only [quiet.queued, quiet.charged]
    exact sound.part
  idle := by
    intro dead
    simp only [quiet.queued]
    apply sound.idle
    cases was : tracked.conn.flowLive with
    | false => rfl
    | true =>
        rw [quiet.live was] at dead
        contradiction
  behind := sound.behind
  owed := by
    simp only [quiet.queued]
    exact sound.owed
  present := present

theorem Discharged.of_quiet {tracked : Tracked} {next : Connection}
    (quiet : Quiet tracked.conn next) :
    Discharged { tracked with conn := next } ↔ Discharged tracked := by
  simp only [Discharged, quiet.queued]

theorem setSent_quiet {conn : Connection} (callback calloc : Bool)
    (idle : conn.flowLive = false → conn.queuedBytes = 0) :
    Quiet conn (conn.setSent callback calloc) ∧
      ((conn.setSent callback calloc).sent = .dispatch →
        (conn.setSent callback calloc).ext.isSome = true) := by
  have marked : ∀ (next : Connection) (app : Bool) (slot : SentCallback),
      Quiet next { next with
        ext := next.ext.map (fun ext => { ext with appSent := app }), sent := slot } := by
    intro next app slot
    refine ⟨?_, rfl, ?_, ?_⟩ <;>
      simp only [Connection.queuedBytes, Connection.flowLive] <;> cases next.ext <;> simp
  unfold Connection.setSent
  split
  · exact ⟨marked conn false .none, fun impossible => by contradiction⟩
  · by_cases present : conn.ext.isSome = true
    · rw [if_pos present]
      refine ⟨marked conn true .dispatch, fun _ => ?_⟩
      simpa using present
    · rw [if_neg present]
      obtain ⟨quiet, _, live⟩ := ensure_quiet calloc idle
      generalize conn.ensure calloc = result at quiet live ⊢
      obtain ⟨found, next⟩ := result
      simp only at quiet live ⊢
      split
      · rename_i yes
        refine ⟨quiet.trans (marked next true .dispatch), fun _ => ?_⟩
        obtain ⟨ext, some_ext, _⟩ := flowLive_iff.mp (live yes)
        simp [some_ext]
      · refine ⟨⟨quiet.queued, quiet.charged, quiet.kept, quiet.live⟩, ?_⟩
        intro impossible
        contradiction

theorem setSndbufExpand_quiet {conn : Connection} (expandNum expandDen : Nat) (calloc : Bool)
    (idle : conn.flowLive = false → conn.queuedBytes = 0) :
    Quiet conn (conn.setSndbufExpand expandNum expandDen calloc) ∧
      (conn.setSndbufExpand expandNum expandDen calloc).sent = conn.sent := by
  have same : ∀ flow : MemoryFlow,
      ((flowSetSndbufExpand flow expandNum expandDen).getD flow).queuedBytes = flow.queuedBytes ∧
        ((flowSetSndbufExpand flow expandNum expandDen).getD flow).live = flow.live := by
    intro flow
    unfold flowSetSndbufExpand
    split <;> exact ⟨rfl, rfl⟩
  unfold Connection.setSndbufExpand
  split
  · exact ⟨.refl conn, rfl⟩
  · split
    · refine ⟨⟨?_, rfl, ?_, ?_⟩, rfl⟩ <;>
        simp only [Connection.queuedBytes, Connection.flowLive] <;> cases conn.ext <;>
        simp [same]
    · rename_i notLive
      have dead : conn.flowLive = false := by simpa using notLive
      have unqueued := idle dead
      split
      · rename_i ext present
        refine ⟨⟨?_, rfl, fun _ => rfl, ?_⟩, rfl⟩
        · simp [Connection.queuedBytes, present]
        · intro live
          rw [dead] at live
          contradiction
      · rename_i absent
        split
        · refine ⟨⟨?_, rfl, fun _ => rfl, ?_⟩, rfl⟩
          · rw [unqueued]
            rfl
          · intro live
            rw [dead] at live
            contradiction
        · exact ⟨.refl conn, rfl⟩

theorem write_spec {tracked : Tracked} (sound : Sound tracked) (len : Nat) (calloc : Bool)
    (tcpWrite : WriteResult) :
    let result := tracked.conn.write len calloc tcpWrite
    (result.2.sent = .dispatch → result.2.ext.isSome = true) ∧
      ((result.1 = .ok ∧ result.2.flowLive = true ∧
          result.2.queuedBytes = tracked.conn.queuedBytes + len ∧
          result.2.manager.stats.chargedBytes =
            tracked.conn.manager.stats.chargedBytes + len) ∨
        (result.1 ≠ .ok ∧ Quiet tracked.conn result.2)) := by
  obtain ⟨quiet, slot, live⟩ := ensure_quiet calloc (fun dead => (sound.idle dead).2)
  unfold Connection.write
  generalize tracked.conn.ensure calloc = result at quiet slot live ⊢
  obtain ⟨found, next⟩ := result
  simp only at quiet slot live ⊢
  cases found with
  | false =>
      refine ⟨?_, .inr ⟨by simp, quiet⟩⟩
      intro dispatches
      exact quiet.kept (sound.present (slot.symm.trans dispatches))
  | true =>
      obtain ⟨ext, present, extLive⟩ := flowLive_iff.mp (live rfl)
      simp only [present]
      have part : ext.flow.queuedBytes ≤ next.manager.stats.chargedBytes := by
        have queued : next.queuedBytes = ext.flow.queuedBytes := by
          simp [Connection.queuedBytes, present]
        rw [← queued, quiet.queued, quiet.charged]
        exact sound.part
      obtain ⟨_, flowLive, kept, outcome⟩ :=
        writeCharged_spec len tcpWrite present extLive part
      refine ⟨fun _ => kept, ?_⟩
      rcases outcome with ⟨ok, queued, charged⟩ | ⟨refused, still⟩
      · refine .inl ⟨ok, flowLive, ?_, ?_⟩
        · rw [queued, quiet.queued]
        · rw [charged, quiet.charged]
      · exact .inr ⟨refused, quiet.trans still⟩

/-- Everything one step can do: nothing to the flow, a charge, a report, or a move of
the total by the other flows. -/
theorem wrapperStep_cases {tracked next : Tracked} {event : WrapperEvent} (sound : Sound tracked)
    (stepped : wrapperStep tracked event = some next) :
    ((∀ len, event ≠ .acked len) ∧ ∃ conn, next = { tracked with conn := conn } ∧
      Quiet tracked.conn conn ∧ (conn.sent = .dispatch → conn.ext.isSome = true)) ∨
    ((∀ len, event ≠ .acked len) ∧ ∃ len conn,
      next = { tracked with conn := conn, written := tracked.written + len } ∧
      conn.flowLive = true ∧ conn.queuedBytes = tracked.conn.queuedBytes + len ∧
      conn.manager.stats.chargedBytes = tracked.conn.manager.stats.chargedBytes + len ∧
      (conn.sent = .dispatch → conn.ext.isSome = true)) ∨
    (∃ len, event = .acked len ∧ 0 < len ∧ tracked.reported + len ≤ tracked.written ∧
      next = { tracked with
        conn := reportAcked tracked.conn len, reported := tracked.reported + len }) ∨
    (∃ manager, event = .otherFlows manager ∧
      next = { tracked with conn := { tracked.conn with manager := manager } } ∧
      tracked.conn.queuedBytes ≤ manager.stats.chargedBytes) := by
  have idle : tracked.conn.flowLive = false → tracked.conn.queuedBytes = 0 :=
    fun dead => (sound.idle dead).2
  cases event with
  | register callback calloc =>
      obtain ⟨quiet, present⟩ := setSent_quiet callback calloc idle
      exact .inl ⟨by simp, _, (Option.some.inj stepped).symm, quiet, present⟩
  | write len calloc tcpWrite =>
      obtain ⟨present, ⟨ok, live, queued, charged⟩ | ⟨refused, quiet⟩⟩ :=
        write_spec sound len calloc tcpWrite
      · simp only [wrapperStep, ok, ↓reduceIte] at stepped
        split at stepped
        · exact .inr (.inl ⟨by simp, len, _, (Option.some.inj stepped).symm, live, queued,
            charged, present⟩)
        · contradiction
      · simp only [wrapperStep, refused, ↓reduceIte] at stepped
        split at stepped
        · exact .inl ⟨by simp, _, (Option.some.inj stepped).symm, quiet, present⟩
        · contradiction
  | expand expandNum expandDen calloc =>
      obtain ⟨quiet, slot⟩ := setSndbufExpand_quiet expandNum expandDen calloc idle
      refine .inl ⟨by simp, _, (Option.some.inj stepped).symm, quiet, fun dispatches => ?_⟩
      exact quiet.kept (sound.present (slot.symm.trans dispatches))
  | acked len =>
      simp only [wrapperStep] at stepped
      split at stepped
      · rename_i reports
        exact .inr (.inr (.inl ⟨len, rfl, reports.1, reports.2.2, (Option.some.inj stepped).symm⟩))
      · contradiction
  | lwip pcb =>
      simp only [wrapperStep] at stepped
      split at stepped
      · exact .inl ⟨by simp, _, (Option.some.inj stepped).symm, ⟨rfl, rfl, id, id⟩,
          sound.present⟩
      · contradiction
  | otherFlows manager =>
      simp only [wrapperStep] at stepped
      split at stepped
      · rename_i allowed
        exact .inr (.inr (.inr ⟨manager, rfl, (Option.some.inj stepped).symm, allowed.2⟩))
      · contradiction

/-- A report reaches the flow exactly when the dispatcher is in the slot. -/
theorem reportAcked_spec {tracked : Tracked} (sound : Sound tracked) {len : Nat}
    (positive : 0 < len) (written : tracked.reported + len ≤ tracked.written) :
    (reportAcked tracked.conn len).flowLive = true ∧
      (reportAcked tracked.conn len).ext.isSome = true ∧
      (reportAcked tracked.conn len).queuedBytes ≤
        (reportAcked tracked.conn len).manager.stats.chargedBytes ∧
      (reportAcked tracked.conn len).queuedBytes +
        (if tracked.conn.sent = .dispatch then len else 0) = tracked.conn.queuedBytes := by
  have live : tracked.conn.flowLive = true := by
    cases was : tracked.conn.flowLive with
    | true => rfl
    | false =>
        have := (sound.idle was).1
        omega
  obtain ⟨ext, present, extLive⟩ := flowLive_iff.mp live
  have part := sound.part
  have owed := sound.owed
  have own : tracked.conn.queuedBytes = ext.flow.queuedBytes := by
    simp [Connection.queuedBytes, present]
  unfold reportAcked
  by_cases slot : tracked.conn.sent = .dispatch
  · simp only [slot, ↓reduceIte]
    have returned : ({ tracked.conn with
        pcb := lwipAcked tracked.conn.pcb len, sent := .dispatch } : Connection).ext = some ext :=
      present
    obtain ⟨queued, charged, stays, _⟩ := sentDispatch_spec returned extLive positive
      (by omega) (by rw [← own]; exact part)
    obtain ⟨nextExt, nextPresent, _⟩ := flowLive_iff.mp stays
    refine ⟨stays, by simp [nextPresent], ?_, queued⟩
    simp only [Connection.queuedBytes] at queued charged part ⊢
    omega
  · simp only [slot, ↓reduceIte]
    exact ⟨live, by simp [present], part, rfl⟩

theorem wrapperStep_sound (tracked : Tracked) (event : WrapperEvent) (next : Tracked)
    (sound : Sound tracked) (stepped : wrapperStep tracked event = some next) : Sound next := by
  rcases wrapperStep_cases sound stepped with
    ⟨_, conn, rfl, quiet, present⟩ | ⟨_, len, conn, rfl, live, queued, charged, present⟩ |
    ⟨len, rfl, positive, written, rfl⟩ | ⟨manager, rfl, rfl, part⟩
  · exact sound.of_quiet quiet present
  · have part := sound.part
    have behind := sound.behind
    have owed := sound.owed
    refine ⟨?_, ?_, ?_, ?_, present⟩
    · simp only [queued, charged]
      omega
    · intro dead
      rw [show conn.flowLive = false from dead] at live
      contradiction
    · simp only
      omega
    · simp only [queued]
      omega
  · obtain ⟨live, kept, part, balance⟩ := reportAcked_spec sound positive written
    have owed := sound.owed
    refine ⟨part, ?_, written, ?_, fun _ => kept⟩
    · intro dead
      rw [show (reportAcked tracked.conn len).flowLive = false from dead] at live
      contradiction
    · simp only
      split at balance <;> omega
  · exact ⟨part, sound.idle, sound.behind, sound.owed, sound.present⟩

/-- A step keeps the charge exact if and only if a report it makes is dispatched. -/
theorem wrapperStep_discharged {tracked next : Tracked} {event : WrapperEvent}
    (sound : Sound tracked) (exact_before : Discharged tracked)
    (stepped : wrapperStep tracked event = some next) :
    Discharged next ↔ ∀ len, event = .acked len → tracked.conn.sent = .dispatch := by
  rcases wrapperStep_cases sound stepped with
    ⟨other, conn, rfl, quiet, _⟩ | ⟨other, len, conn, rfl, _, queued, _, _⟩ |
    ⟨len, rfl, positive, written, rfl⟩ | ⟨manager, rfl, rfl, _⟩
  · rw [Discharged.of_quiet quiet]
    exact iff_of_true exact_before (fun len same => absurd same (other len))
  · refine iff_of_true ?_ (fun len same => absurd same (other len))
    unfold Discharged at exact_before ⊢
    simp only [queued]
    omega
  · obtain ⟨_, _, _, balance⟩ := reportAcked_spec sound positive written
    unfold Discharged at exact_before ⊢
    simp only
    constructor
    · intro exact_after other same
      by_contra slot
      rw [if_neg slot] at balance
      omega
    · intro dispatched
      rw [if_pos (dispatched len rfl)] at balance
      omega
  · exact iff_of_true exact_before (fun len same => by contradiction)

/-- A control block before any wrapper was called on it. -/
def freshConnection (memoryReady : Bool) (manager : MemoryManager) (pcb : TcpPcb) : Tracked :=
  { conn := { memoryReady := memoryReady, manager := manager, pcb := pcb, ext := none, sent := .none } }

theorem freshConnection_sound (memoryReady : Bool) (manager : MemoryManager) (pcb : TcpPcb) :
    Sound (freshConnection memoryReady manager pcb) :=
  ⟨Nat.zero_le _, fun _ => ⟨rfl, rfl⟩, Nat.le_refl _, Nat.le_refl _, fun slot => by contradiction⟩

/-- The charge is exact in every state of a run if and only if every report of
acknowledged bytes in it finds the accounting dispatcher in lwIP's `sent` slot. -/
theorem charge_exact_iff_dispatched (memoryReady : Bool) (manager : MemoryManager) (pcb : TcpPcb)
    (events : List WrapperEvent) :
    Run.Along Discharged wrapperStep (freshConnection memoryReady manager pcb) events ↔
      Run.Meets (fun tracked event => ∀ len, event = .acked len → tracked.conn.sent = .dispatch)
        wrapperStep (freshConnection memoryReady manager pcb) events := by
  have start := freshConnection_sound memoryReady manager pcb
  constructor
  · refine Run.meets_of_along wrapperStep_sound ?_ start
    intro tracked event next sound exact_before stepped exact_after
    exact (wrapperStep_discharged sound exact_before stepped).mp exact_after
  · refine Run.along_of_meets (fun tracked => Sound tracked ∧ Discharged tracked)
      (fun _ both => both.2) ?_ ⟨start, rfl⟩
    intro tracked event next both allowed stepped
    exact ⟨wrapperStep_sound tracked event next both.1 stepped,
      (wrapperStep_discharged both.1 both.2 stepped).mpr allowed⟩

/-- Registration at accept time, with the handshake still queued, falls back to the
raw callback; the first write then charges a flow that nothing discharges. -/
theorem charge_leaks_after_accept_registration :
    ∃ final, Run.run wrapperStep
        (freshConnection true
          ⟨⟨⟨4096, 32768, 65536, by decide⟩, ⟨100000, 200000, 300000, by decide⟩, 0⟩, {}, false⟩
          ⟨14600, 32768, 1, false, true⟩)
        [.register true true, .lwip ⟨14600, 32768, 0, false, false⟩,
          .write 1000 true .ok, .acked 1000] = some final ∧
      final.reported = final.written ∧ final.conn.queuedBytes = 1000 ∧ ¬Discharged final := by
  have ran : (Run.run wrapperStep
      (freshConnection true
        ⟨⟨⟨4096, 32768, 65536, by decide⟩, ⟨100000, 200000, 300000, by decide⟩, 0⟩, {}, false⟩
        ⟨14600, 32768, 1, false, true⟩)
      [.register true true, .lwip ⟨14600, 32768, 0, false, false⟩,
        .write 1000 true .ok, .acked 1000]).map
      (fun final => (final.written, final.reported, final.conn.queuedBytes)) =
        some (1000, 1000, 1000) := by decide +kernel
  obtain ⟨final, same, values⟩ := Option.map_eq_some_iff.mp ran
  simp only [Prod.mk.injEq] at values
  obtain ⟨written, reported, queued⟩ := values
  refine ⟨final, same, reported.trans written.symm, queued, ?_⟩
  unfold Discharged
  omega

end TcpShift.TcpMemory
