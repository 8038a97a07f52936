import Mathlib.Algebra.BigOperators.Group.Finset.Piecewise
import Mathlib.Algebra.Order.BigOperators.Group.Finset
import TcpShift.Lib.Run
import TcpShift.TcpMemory

set_option autoImplicit false

/- All flows of the process against the one global total. -/
namespace TcpShift.TcpMemory

open Finset Word

section Sums

variable {ι : Type} [Fintype ι] [DecidableEq ι]

/-- Replacing one term exchanges its value in the sum. -/
theorem sum_update_exchange (f : ι → Nat) (index : ι) (value : Nat) :
    ∑ other, Function.update f index value other + f index = ∑ other, f other + value := by
  have others := Finset.add_sum_erase univ f (mem_univ index)
  have changed := Finset.sum_update_of_mem (mem_univ index) f value
  rw [Finset.sdiff_singleton_eq_erase] at changed
  omega

end Sums

/-- The hysteresis of the pressure flag, for a configuration with a real gap. -/
def PressureOk (manager : MemoryManager) : Prop :=
  manager.config.mem.lowBytes < manager.config.mem.pressureBytes →
    (manager.pressureActive = false →
        manager.stats.chargedBytes < manager.config.mem.pressureBytes) ∧
      (manager.pressureActive = true →
        manager.config.mem.lowBytes < manager.stats.chargedBytes)

/-- The flag changes only when the total crosses the threshold for that change. -/
def CrossesThreshold (before after : MemoryManager) : Prop :=
  before.config.mem.lowBytes < before.config.mem.pressureBytes →
    (before.pressureActive = false → after.pressureActive = true →
        before.stats.chargedBytes < before.config.mem.pressureBytes ∧
          before.config.mem.pressureBytes ≤ after.stats.chargedBytes) ∧
      (before.pressureActive = true → after.pressureActive = false →
        before.config.mem.lowBytes < before.stats.chargedBytes ∧
          after.stats.chargedBytes ≤ before.config.mem.lowBytes)

structure FlowOk (config : MemoryConfig) (flow : MemoryFlow) (pcb : TcpPcb) : Prop where
  initial : config.wmem.initialBytes ≤ flow.capacityBytes
  max : flow.capacityBytes ≤ config.wmem.maxBytes
  window : pcb.sndBuf + flow.queuedBytes = flow.capacityBytes

theorem updatePressure_frame (manager : MemoryManager) :
    (updatePressure manager).config = manager.config ∧
      (updatePressure manager).stats.chargedBytes = manager.stats.chargedBytes ∧
      (updatePressure manager).stats.accountingUnderflows =
        manager.stats.accountingUnderflows := by
  unfold updatePressure
  split
  · exact ⟨rfl, rfl, rfl⟩
  · split <;> exact ⟨rfl, rfl, rfl⟩

/-- Refreshing the flag after the total moved restores the hysteresis. -/
theorem updatePressure_ok {before changed : MemoryManager} (ok : PressureOk before)
    (config : changed.config = before.config)
    (flag : changed.pressureActive = before.pressureActive) :
    PressureOk (updatePressure changed) ∧ CrossesThreshold before (updatePressure changed) := by
  obtain ⟨sameConfig, sameCharge, _⟩ := updatePressure_frame changed
  unfold PressureOk CrossesThreshold
  rw [sameConfig, sameCharge, config]
  unfold PressureOk at ok
  unfold updatePressure
  rw [config, flag]
  split_ifs with enters leaves <;>
    refine ⟨fun gap => ⟨fun cleared => ?_, fun raised => ?_⟩,
      fun gap => ⟨fun was now => ⟨?_, ?_⟩, fun was now => ⟨?_, ?_⟩⟩⟩ <;>
    have held := ok gap <;> simp_all <;> omega

/-- What an operation on one flow does to that flow and to the global state. -/
structure Settled (before after : MemoryManager) (flow next : MemoryFlow) (pcb : TcpPcb) : Prop
    where
  config : after.config = before.config
  charge : after.stats.chargedBytes + flow.queuedBytes =
    before.stats.chargedBytes + next.queuedBytes
  underflows : after.stats.accountingUnderflows = before.stats.accountingUnderflows
  bounded : after.stats.chargedBytes ≤ before.config.mem.highBytes
  window : next.live = true → FlowOk before.config next pcb
  idle : next.live = false → next.queuedBytes = 0
  pressure : PressureOk after
  crosses : CrossesThreshold before after
  growth : flow.live = true → flow.capacityBytes < next.capacityBytes →
    before.pressureActive = false

/-- What is known of a flow and the global state before an operation on it. -/
structure Ready (manager : MemoryManager) (flow : MemoryFlow) (pcb : TcpPcb) : Prop where
  sized : manager.config.wmem.initialBytes ≤ manager.config.wmem.maxBytes
  bounded : manager.stats.chargedBytes ≤ manager.config.mem.highBytes
  part : flow.queuedBytes ≤ manager.stats.chargedBytes
  window : flow.live = true → FlowOk manager.config flow pcb
  idle : flow.live = false → flow.queuedBytes = 0
  pressure : PressureOk manager

theorem CrossesThreshold.of_same {before after : MemoryManager}
    (same : after.pressureActive = before.pressureActive) : CrossesThreshold before after := by
  intro gap
  refine ⟨fun was now => ?_, fun was now => ?_⟩
  · rw [same, was] at now
    contradiction
  · rw [same, was] at now
    contradiction

/-- An operation that leaves the total and the flag alone. -/
theorem Settled.of_frame {before after : MemoryManager} {flow next : MemoryFlow}
    {pcb nextPcb : TcpPcb} (ready : Ready before flow pcb) (config : after.config = before.config)
    (charged : after.stats.chargedBytes = before.stats.chargedBytes)
    (underflows : after.stats.accountingUnderflows = before.stats.accountingUnderflows)
    (flag : after.pressureActive = before.pressureActive)
    (queued : next.queuedBytes = flow.queuedBytes)
    (window : next.live = true → FlowOk before.config next nextPcb)
    (idle : next.live = false → next.queuedBytes = 0)
    (growth : flow.live = true → flow.capacityBytes < next.capacityBytes →
      before.pressureActive = false) :
    Settled before after flow next nextPcb where
  config := config
  charge := by rw [charged, queued]
  underflows := underflows
  bounded := by
    rw [charged]
    exact ready.bounded
  window := window
  idle := idle
  pressure := by
    have ok := ready.pressure
    unfold PressureOk at ok ⊢
    rw [config, charged, flag]
    exact ok
  crosses := .of_same flag
  growth := growth

theorem Settled.refl {manager : MemoryManager} {flow : MemoryFlow} {pcb : TcpPcb}
    (ready : Ready manager flow pcb) : Settled manager manager flow flow pcb :=
  .of_frame ready rfl rfl rfl rfl rfl ready.window ready.idle
    (fun _ grew => absurd grew (Nat.lt_irrefl _))

theorem flowInit_settled {manager after : MemoryManager} {flow next : MemoryFlow}
    {pcb nextPcb : TcpPcb} (ready : Ready manager flow pcb) (unused : flow.live = false)
    (done : flowInit manager pcb = some (after, next, nextPcb)) :
    Settled manager after flow next nextPcb := by
  unfold flowInit at done
  split at done
  · cases done
    refine .of_frame ready rfl rfl rfl rfl (ready.idle unused).symm ?_ ?_ ?_
    · intro _
      exact ⟨Nat.le_refl _, ready.sized, Nat.add_zero _⟩
    · intro dead
      contradiction
    · intro live
      rw [unused] at live
      contradiction
  · contradiction

theorem growTarget_range (manager : MemoryManager) (pcb : TcpPcb) (expandNum expandDen : Nat)
    (sized : manager.config.wmem.initialBytes ≤ manager.config.wmem.maxBytes) :
    manager.config.wmem.initialBytes ≤ growTarget manager pcb expandNum expandDen ∧
      growTarget manager pcb expandNum expandDen ≤ manager.config.wmem.maxBytes := by
  unfold growTarget
  simp only
  split_ifs <;> omega

theorem flowMaybeGrow_settled {manager : MemoryManager} {flow : MemoryFlow} {pcb : TcpPcb}
    (ready : Ready manager flow pcb) (expandNum expandDen : Nat) :
    let result := flowMaybeGrow manager flow pcb expandNum expandDen
    Settled manager result.2.1 flow result.2.2.1 result.2.2.2 := by
  unfold flowMaybeGrow
  simp only
  split
  · exact .refl ready
  · rename_i valid
    obtain ⟨low, high⟩ := growTarget_range manager pcb expandNum expandDen ready.sized
    split
    · exact .refl ready
    · rename_i larger
      split
      · exact .of_frame ready rfl rfl rfl rfl rfl ready.window ready.idle
          (fun _ grew => absurd grew (Nat.lt_irrefl _))
      · rename_i relaxed
        split
        · exact .refl ready
        · have live : flow.live = true := by simpa using fun dead => valid (.inl dead)
          have window := (ready.window live).window
          refine .of_frame ready rfl rfl rfl rfl rfl ?_ ready.idle ?_
          · intro _
            refine ⟨low, high, ?_⟩
            simp only
            omega
          · intro _ _
            simpa using relaxed

theorem clampUnderflow_of_le {amount bound underflows : Nat} (inside : amount ≤ bound) :
    clampUnderflow amount bound underflows = (amount, underflows) :=
  if_neg (by omega)

/-- An operation that moves the total and then refreshes the flag. -/
theorem Settled.of_charge {before changed : MemoryManager} {flow next : MemoryFlow}
    {pcb nextPcb : TcpPcb} (ready : Ready before flow pcb)
    (config : changed.config = before.config)
    (flag : changed.pressureActive = before.pressureActive)
    (charge : changed.stats.chargedBytes + flow.queuedBytes =
      before.stats.chargedBytes + next.queuedBytes)
    (underflows : changed.stats.accountingUnderflows = before.stats.accountingUnderflows)
    (bounded : changed.stats.chargedBytes ≤ before.config.mem.highBytes)
    (window : next.live = true → FlowOk before.config next nextPcb)
    (idle : next.live = false → next.queuedBytes = 0)
    (capacity : next.capacityBytes ≤ flow.capacityBytes) :
    Settled before (updatePressure changed) flow next nextPcb := by
  obtain ⟨sameConfig, sameCharge, sameUnderflows⟩ := updatePressure_frame changed
  obtain ⟨pressure, crosses⟩ := updatePressure_ok ready.pressure config flag
  exact
    { config := sameConfig.trans config
      charge := by rw [sameCharge, charge]
      underflows := sameUnderflows.trans underflows
      bounded := by rw [sameCharge]; exact bounded
      window := window
      idle := idle
      pressure := pressure
      crosses := crosses
      growth := fun _ grew => absurd grew (by omega) }

theorem flowCanWrite_frame (manager : MemoryManager) (flow : MemoryFlow) (pcb : TcpPcb)
    (bytes : Nat) :
    (flowCanWrite manager flow pcb bytes).2.config = manager.config ∧
      (flowCanWrite manager flow pcb bytes).2.stats.chargedBytes = manager.stats.chargedBytes ∧
      (flowCanWrite manager flow pcb bytes).2.stats.accountingUnderflows =
        manager.stats.accountingUnderflows ∧
      (flowCanWrite manager flow pcb bytes).2.pressureActive = manager.pressureActive := by
  unfold flowCanWrite
  split_ifs <;> exact ⟨rfl, rfl, rfl, rfl⟩

theorem flowCanWrite_admits {manager : MemoryManager} {flow : MemoryFlow} {pcb : TcpPcb}
    {bytes : Nat} (admitted : (flowCanWrite manager flow pcb bytes).1 = true)
    (some_bytes : bytes ≠ 0) :
    flow.live = true ∧ bytes ≤ pcb.sndBuf ∧
      manager.stats.chargedBytes + bytes ≤ manager.config.mem.highBytes := by
  unfold flowCanWrite at admitted
  split_ifs at admitted with dead large high
  refine ⟨by simpa using dead, by omega, by omega⟩

/-- lwIP takes `bytes` out of `snd_buf` when it accepts a write. -/
def lwipWrote (pcb : TcpPcb) (bytes : Nat) : TcpPcb := { pcb with sndBuf := pcb.sndBuf - bytes }

/-- lwIP returns acknowledged bytes to `snd_buf`. -/
def lwipAcked (pcb : TcpPcb) (bytes : Nat) : TcpPcb := { pcb with sndBuf := pcb.sndBuf + bytes }

theorem flowNoteWrite_settled {manager : MemoryManager} {flow : MemoryFlow} {pcb : TcpPcb}
    {bytes : Nat} (ready : Ready manager flow pcb)
    (admitted : (flowCanWrite manager flow pcb bytes).1 = true) :
    let written := flowNoteWrite (flowCanWrite manager flow pcb bytes).2 flow bytes
    Settled manager written.1 flow written.2 (lwipWrote pcb bytes) := by
  obtain ⟨config, charged, underflows, flag⟩ := flowCanWrite_frame manager flow pcb bytes
  generalize (flowCanWrite manager flow pcb bytes).2 = checked at config charged underflows flag ⊢
  unfold flowNoteWrite
  by_cases nothing : bytes = 0
  · rw [if_pos (.inr nothing), nothing]
    exact .of_frame ready config charged underflows flag rfl ready.window ready.idle
      (fun _ grew => absurd grew (Nat.lt_irrefl _))
  · obtain ⟨live, inside, room⟩ := flowCanWrite_admits admitted nothing
    have window := ready.window live
    have balance := window.window
    have high := manager.config.mem.inU64.2.2
    have part := ready.part
    have total : add64 checked.stats.chargedBytes bytes = manager.stats.chargedBytes + bytes := by
      rw [charged]
      exact add64_of_lt (by omega)
    have own : add64 flow.queuedBytes bytes = flow.queuedBytes + bytes := add64_of_lt (by omega)
    rw [if_neg (by simp [live, nothing])]
    refine .of_charge ready config flag ?_ underflows ?_ ?_ ?_ (Nat.le_refl _)
    · simp only [total, own]
      omega
    · simp only [total]
      omega
    · intro _
      refine ⟨window.initial, window.max, ?_⟩
      simp only [own, lwipWrote]
      omega
    · intro dead
      rw [show flow.live = false from dead] at live
      contradiction

theorem flowNoteAcked_settled {manager : MemoryManager} {flow : MemoryFlow} {pcb : TcpPcb}
    {bytes : Nat} (ready : Ready manager flow pcb) (inside : bytes ≤ flow.queuedBytes) :
    let acked := flowNoteAcked manager flow bytes
    Settled manager acked.1 flow acked.2 (lwipAcked pcb bytes) := by
  unfold flowNoteAcked
  have part := ready.part
  have bounded := ready.bounded
  by_cases skip : flow.live = false ∨ bytes = 0
  · rw [if_pos skip]
    have nothing : bytes = 0 := by
      rcases skip with dead | nothing
      · have := ready.idle dead
        omega
      · exact nothing
    rw [nothing]
    exact .refl ready
  · rw [if_neg skip]
    have live : flow.live = true := by simpa using fun dead => skip (.inl dead)
    have window := ready.window live
    have balance := window.window
    simp only [clampUnderflow_of_le inside,
      clampUnderflow_of_le (show bytes ≤ manager.stats.chargedBytes by omega)]
    refine .of_charge ready rfl rfl ?_ rfl ?_ ?_ ?_ (Nat.le_refl _)
    · simp only
      omega
    · simp only
      omega
    · intro _
      refine ⟨window.initial, window.max, ?_⟩
      simp only [lwipAcked]
      omega
    · intro dead
      rw [show flow.live = false from dead] at live
      contradiction

theorem flowRelease_settled {manager : MemoryManager} {flow : MemoryFlow} {pcb : TcpPcb}
    (ready : Ready manager flow pcb) :
    let released := flowRelease manager flow
    Settled manager released.1 flow released.2 pcb := by
  unfold flowRelease
  have part := ready.part
  have bounded := ready.bounded
  by_cases dead : flow.live = false
  · rw [if_pos dead]
    exact .refl ready
  · rw [if_neg dead]
    simp only [clampUnderflow_of_le part]
    refine .of_charge ready rfl rfl ?_ rfl ?_ ?_ ?_ (Nat.zero_le _)
    · simp only
      omega
    · simp only
      omega
    · intro live
      contradiction
    · intro _
      rfl

section System

variable {ι : Type}

structure Memory (ι : Type) where
  manager : MemoryManager
  flows : ι → MemoryFlow
  pcbs : ι → TcpPcb

/-- One operation on one flow. `write` is a `can_write` followed, when it admits the
bytes and lwIP accepts them, by `note_write`; `lwip` is everything else lwIP does. -/
inductive MemoryEvent (ι : Type) where
  | init (flow : ι)
  | grow (flow : ι) (expandNum expandDen : Nat)
  | write (flow : ι) (bytes : Nat) (accepted : Bool)
  | acked (flow : ι) (bytes : Nat)
  | release (flow : ι)
  | lwip (flow : ι) (pcb : TcpPcb)

structure Accounted [Fintype ι] (config : MemoryConfig) (memory : Memory ι) : Prop where
  configured : memory.manager.config = config
  charged : memory.manager.stats.chargedBytes = ∑ index, (memory.flows index).queuedBytes
  bounded : memory.manager.stats.chargedBytes ≤ config.mem.highBytes
  underflows : memory.manager.stats.accountingUnderflows = 0
  window : ∀ index, (memory.flows index).live = true →
    FlowOk config (memory.flows index) (memory.pcbs index)
  idle : ∀ index, (memory.flows index).live = false → (memory.flows index).queuedBytes = 0
  pressure : PressureOk memory.manager
  sized : config.wmem.initialBytes ≤ config.wmem.maxBytes

theorem Accounted.ready [Fintype ι] {config : MemoryConfig} {memory : Memory ι}
    (accounted : Accounted config memory) (index : ι) :
    Ready memory.manager (memory.flows index) (memory.pcbs index) where
  sized := by rw [accounted.configured]; exact accounted.sized
  bounded := by rw [accounted.configured]; exact accounted.bounded
  part := by
    rw [accounted.charged]
    exact Finset.single_le_sum (fun other _ => Nat.zero_le ((memory.flows other).queuedBytes))
      (mem_univ index)
  window := by rw [accounted.configured]; exact accounted.window index
  idle := accounted.idle index
  pressure := accounted.pressure

theorem managerInit_accounted [Fintype ι] {config : MemoryConfig} {manager : MemoryManager}
    (opened : managerInit config = some manager) (pcbs : ι → TcpPcb) :
    Accounted config { manager := manager, flows := fun _ => {}, pcbs := pcbs } := by
  unfold managerInit at opened
  split at opened
  · contradiction
  · rename_i valid
    rw [← Option.some.inj opened]
    refine ⟨rfl, by simp, Nat.zero_le _, rfl, ?_, fun _ _ => rfl, ?_, by omega⟩
    · intro index live
      contradiction
    · intro gap
      refine ⟨fun _ => ?_, fun raised => ?_⟩
      · exact Nat.lt_of_le_of_lt (Nat.zero_le _) gap
      · contradiction

variable [DecidableEq ι]

def Memory.set (memory : Memory ι) (index : ι) (manager : MemoryManager) (flow : MemoryFlow)
    (pcb : TcpPcb) : Memory ι :=
  { manager := manager
    flows := Function.update memory.flows index flow
    pcbs := Function.update memory.pcbs index pcb }

def memoryStep (memory : Memory ι) : MemoryEvent ι → Option (Memory ι)
  | .init index =>
      -- a flow is initialised only while its manager pointer is null
      if (memory.flows index).live then none
      else
        match flowInit memory.manager (memory.pcbs index) with
        | none => some memory
        | some (manager, flow, pcb) => some (memory.set index manager flow pcb)
  | .grow index expandNum expandDen =>
      let (_, manager, flow, pcb) := flowMaybeGrow memory.manager (memory.flows index)
        (memory.pcbs index) expandNum expandDen
      some (memory.set index manager flow pcb)
  | .write index bytes accepted =>
      let (admitted, manager) :=
        flowCanWrite memory.manager (memory.flows index) (memory.pcbs index) bytes
      if admitted && accepted then
        let (written, flow) := flowNoteWrite manager (memory.flows index) bytes
        some (memory.set index written flow (lwipWrote (memory.pcbs index) bytes))
      else some { memory with manager := manager }
  | .acked index bytes =>
      if bytes ≤ (memory.flows index).queuedBytes then
        let (manager, flow) := flowNoteAcked memory.manager (memory.flows index) bytes
        some (memory.set index manager flow (lwipAcked (memory.pcbs index) bytes))
      else none
  | .release index =>
      let (manager, flow) := flowRelease memory.manager (memory.flows index)
      some (memory.set index manager flow (memory.pcbs index))
  | .lwip index pcb =>
      -- lwIP moves `snd_buf` of a live flow only by written and acknowledged bytes
      if (memory.flows index).live = false ∨ pcb.sndBuf = (memory.pcbs index).sndBuf then
        some (memory.set index memory.manager (memory.flows index) pcb)
      else none

/-- A settled operation on one flow keeps the accounts of all flows. -/
theorem Accounted.set [Fintype ι] {config : MemoryConfig} {memory : Memory ι}
    (accounted : Accounted config memory) (index : ι) {manager : MemoryManager}
    {flow : MemoryFlow} {pcb : TcpPcb}
    (settled : Settled memory.manager manager (memory.flows index) flow pcb) :
    Accounted config (memory.set index manager flow pcb) := by
  have charge := settled.charge
  have exchange := sum_update_exchange (fun other => (memory.flows other).queuedBytes) index
    flow.queuedBytes
  have applied : ∀ other, (Function.update memory.flows index flow other).queuedBytes =
      Function.update (fun other => (memory.flows other).queuedBytes) index flow.queuedBytes
        other := fun other => Function.apply_update (fun _ => MemoryFlow.queuedBytes) _ _ _ _
  refine ⟨settled.config.trans accounted.configured, ?_, ?_, settled.underflows.trans
    accounted.underflows, ?_, ?_, settled.pressure, accounted.sized⟩
  · simp only [Memory.set, applied]
    have := accounted.charged
    omega
  · have := settled.bounded
    rwa [accounted.configured] at this
  · intro other
    by_cases same : other = index
    · subst same
      simp only [Memory.set, Function.update_self]
      rw [← accounted.configured]
      exact settled.window
    · simp only [Memory.set, Function.update_of_ne same]
      exact accounted.window other
  · intro other
    by_cases same : other = index
    · subst same
      simp only [Memory.set, Function.update_self]
      exact settled.idle
    · simp only [Memory.set, Function.update_of_ne same]
      exact accounted.idle other

/-- Every step is a settled operation on one flow. -/
theorem memoryStep_cases [Fintype ι] {config : MemoryConfig} {memory next : Memory ι}
    {event : MemoryEvent ι} (accounted : Accounted config memory)
    (stepped : memoryStep memory event = some next) :
    ∃ index manager flow pcb, next = memory.set index manager flow pcb ∧
      Settled memory.manager manager (memory.flows index) flow pcb := by
  have unchanged : ∀ index, memory =
      memory.set index memory.manager (memory.flows index) (memory.pcbs index) := by
    intro index
    simp [Memory.set]
  cases event with
  | init index =>
      simp only [memoryStep] at stepped
      split at stepped
      · contradiction
      · rename_i unused
        split at stepped
        · rw [← Option.some.inj stepped]
          exact ⟨index, _, _, _, unchanged index, .refl (accounted.ready index)⟩
        · rename_i manager flow pcb done
          rw [← Option.some.inj stepped]
          exact ⟨index, _, _, _, rfl,
            flowInit_settled (accounted.ready index) (by simpa using unused) done⟩
  | grow index expandNum expandDen =>
      rw [← Option.some.inj stepped]
      exact ⟨index, _, _, _, rfl,
        flowMaybeGrow_settled (accounted.ready index) expandNum expandDen⟩
  | write index bytes accepted =>
      have ready := accounted.ready index
      simp only [memoryStep] at stepped
      split at stepped
      · rename_i both
        simp only [Bool.and_eq_true] at both
        rw [← Option.some.inj stepped]
        exact ⟨index, _, _, _, rfl, flowNoteWrite_settled ready both.1⟩
      · rw [← Option.some.inj stepped]
        obtain ⟨sameConfig, sameCharge, sameUnderflows, flag⟩ := flowCanWrite_frame
          memory.manager (memory.flows index) (memory.pcbs index) bytes
        refine ⟨index, (flowCanWrite memory.manager (memory.flows index) (memory.pcbs index)
          bytes).2, memory.flows index, memory.pcbs index, by simp [Memory.set], ?_⟩
        exact .of_frame ready sameConfig sameCharge sameUnderflows flag rfl ready.window
          ready.idle (fun _ grew => absurd grew (Nat.lt_irrefl _))
  | acked index bytes =>
      simp only [memoryStep] at stepped
      split at stepped
      · rename_i inside
        rw [← Option.some.inj stepped]
        exact ⟨index, _, _, _, rfl, flowNoteAcked_settled (accounted.ready index) inside⟩
      · contradiction
  | release index =>
      rw [← Option.some.inj stepped]
      exact ⟨index, _, _, _, rfl, flowRelease_settled (accounted.ready index)⟩
  | lwip index pcb =>
      have ready := accounted.ready index
      simp only [memoryStep] at stepped
      split at stepped
      · rename_i free
        rw [← Option.some.inj stepped]
        refine ⟨index, _, _, _, rfl, .of_frame ready rfl rfl rfl rfl rfl ?_ ready.idle
          (fun _ grew => absurd grew (Nat.lt_irrefl _))⟩
        intro live
        have window := ready.window live
        rcases free with dead | same
        · rw [dead] at live
          contradiction
        · exact ⟨window.initial, window.max, by rw [same]; exact window.window⟩
      · contradiction

theorem memoryStep_accounted [Fintype ι] {config : MemoryConfig} (memory : Memory ι)
    (event : MemoryEvent ι) (next : Memory ι) (accounted : Accounted config memory)
    (stepped : memoryStep memory event = some next) : Accounted config next := by
  obtain ⟨index, manager, flow, pcb, rfl, settled⟩ := memoryStep_cases accounted stepped
  exact accounted.set index settled

/-- The memory beside what its users have done: the flows they have open, and for each of
them the bytes written and not yet acknowledged. -/
structure Usage (ι : Type) where
  memory : Memory ι
  opened : ι → Bool := fun _ => false
  owed : ι → Nat := fun _ => 0

namespace Usage

/-- A flow is open from an `init` on an empty send queue to its `release`. -/
def openedAfter (usage : Usage ι) : MemoryEvent ι → ι → Bool
  | .init index =>
      if queueEmpty (usage.memory.pcbs index) then Function.update usage.opened index true
      else usage.opened
  | .release index => Function.update usage.opened index false
  | _ => usage.opened

/-- The bytes of the writes that were admitted and that lwIP accepted, less what was
acknowledged since. -/
def owedAfter (usage : Usage ι) : MemoryEvent ι → ι → Nat
  | .write index bytes accepted =>
      if usage.opened index &&
          (flowCanWrite usage.memory.manager (usage.memory.flows index) (usage.memory.pcbs index)
            bytes).1 && accepted then
        Function.update usage.owed index (usage.owed index + bytes)
      else usage.owed
  | .acked index bytes => Function.update usage.owed index (usage.owed index - bytes)
  | .release index => Function.update usage.owed index 0
  | _ => usage.owed

def step (usage : Usage ι) (event : MemoryEvent ι) : Option (Usage ι) :=
  (memoryStep usage.memory event).map fun memory =>
    { memory := memory, opened := usage.openedAfter event, owed := usage.owedAfter event }

/-- The queued bytes of the flows that are open. -/
def liveQueued [Fintype ι] (usage : Usage ι) : Nat :=
  ∑ index ∈ univ.filter (fun index => usage.opened index),
    (usage.memory.flows index).queuedBytes

/-- The records of the flows are what their users have done. -/
structure Tracked [Fintype ι] (config : MemoryConfig) (usage : Usage ι) : Prop where
  accounted : Accounted config usage.memory
  live : ∀ index, (usage.memory.flows index).live = usage.opened index
  queued : ∀ index, (usage.memory.flows index).queuedBytes = usage.owed index

end Usage

theorem flowMaybeGrow_record (manager : MemoryManager) (flow : MemoryFlow) (pcb : TcpPcb)
    (expandNum expandDen : Nat) :
    (flowMaybeGrow manager flow pcb expandNum expandDen).2.2.1.live = flow.live ∧
      (flowMaybeGrow manager flow pcb expandNum expandDen).2.2.1.queuedBytes =
        flow.queuedBytes := by
  unfold flowMaybeGrow
  simp only
  split_ifs <;> exact ⟨rfl, rfl⟩

/-- Only a flow that was opened is let write. -/
theorem flowCanWrite_live {manager : MemoryManager} {flow : MemoryFlow} {pcb : TcpPcb}
    {bytes : Nat} (admitted : (flowCanWrite manager flow pcb bytes).1 = true) :
    flow.live = true := by
  by_contra dead
  rw [flowCanWrite, if_pos (Bool.eq_false_of_not_eq_true dead)] at admitted
  exact Bool.noConfusion admitted

theorem flowNoteWrite_record {manager : MemoryManager} {flow : MemoryFlow} {pcb : TcpPcb}
    {bytes : Nat} (ready : Ready manager flow pcb)
    (admitted : (flowCanWrite manager flow pcb bytes).1 = true) :
    let written := flowNoteWrite (flowCanWrite manager flow pcb bytes).2 flow bytes
    written.2.live = flow.live ∧ written.2.queuedBytes = flow.queuedBytes + bytes := by
  unfold flowNoteWrite
  by_cases nothing : bytes = 0
  · rw [if_pos (.inr nothing), nothing]
    exact ⟨rfl, rfl⟩
  · obtain ⟨live, _, room⟩ := flowCanWrite_admits admitted nothing
    have high := manager.config.mem.inU64.2.2
    have part := ready.part
    rw [if_neg (by simp [live, nothing])]
    exact ⟨rfl, add64_of_lt (by omega)⟩

theorem flowNoteAcked_record {manager : MemoryManager} {flow : MemoryFlow} {pcb : TcpPcb}
    {bytes : Nat} (ready : Ready manager flow pcb) (inside : bytes ≤ flow.queuedBytes) :
    (flowNoteAcked manager flow bytes).2.live = flow.live ∧
      (flowNoteAcked manager flow bytes).2.queuedBytes = flow.queuedBytes - bytes := by
  have part := ready.part
  unfold flowNoteAcked
  by_cases skip : flow.live = false ∨ bytes = 0
  · rw [if_pos skip]
    have nothing : bytes = 0 := by
      rcases skip with dead | nothing
      · have idle := ready.idle dead
        omega
      · exact nothing
    exact ⟨rfl, nothing ▸ rfl⟩
  · rw [if_neg skip]
    have own : ∀ underflows, clampUnderflow bytes flow.queuedBytes underflows =
        (bytes, underflows) := fun _ => clampUnderflow_of_le inside
    have total : ∀ underflows, clampUnderflow bytes manager.stats.chargedBytes underflows =
        (bytes, underflows) := fun _ => clampUnderflow_of_le (by omega)
    dsimp only
    rw [own, total]
    exact ⟨rfl, rfl⟩

theorem flowRelease_record {manager : MemoryManager} {flow : MemoryFlow} {pcb : TcpPcb}
    (ready : Ready manager flow pcb) :
    (flowRelease manager flow).2.live = false ∧ (flowRelease manager flow).2.queuedBytes = 0 := by
  unfold flowRelease
  by_cases dead : flow.live = false
  · rw [if_pos dead]
    exact ⟨dead, ready.idle dead⟩
  · rw [if_neg dead]
    exact ⟨rfl, rfl⟩

namespace Usage

/-- A step that rewrites one record keeps the others. -/
theorem Tracked.set [Fintype ι] {config : MemoryConfig} {usage : Usage ι}
    (tracked : Tracked config usage) (index : ι) {manager : MemoryManager} {flow : MemoryFlow}
    {pcb : TcpPcb} {opened : Bool} {owed : Nat}
    (accounted : Accounted config (usage.memory.set index manager flow pcb))
    (live : flow.live = opened) (queued : flow.queuedBytes = owed) :
    Tracked config
      { memory := usage.memory.set index manager flow pcb
        opened := Function.update usage.opened index opened
        owed := Function.update usage.owed index owed } := by
  refine ⟨accounted, fun other => ?_, fun other => ?_⟩
  · by_cases same : other = index
    · subst same
      simp only [Memory.set, Function.update_self]
      exact live
    · simp only [Memory.set, Function.update_of_ne same]
      exact tracked.live other
  · by_cases same : other = index
    · subst same
      simp only [Memory.set, Function.update_self]
      exact queued
    · simp only [Memory.set, Function.update_of_ne same]
      exact tracked.queued other

omit [DecidableEq ι] in
/-- A step that rewrites no record. -/
theorem Tracked.same [Fintype ι] {config : MemoryConfig} {usage : Usage ι}
    (tracked : Tracked config usage) {memory : Memory ι} (accounted : Accounted config memory)
    (flows : ∀ index, (memory.flows index).live = (usage.memory.flows index).live ∧
      (memory.flows index).queuedBytes = (usage.memory.flows index).queuedBytes) :
    Tracked config { usage with memory := memory } :=
  ⟨accounted, fun index => (flows index).1.trans (tracked.live index),
    fun index => (flows index).2.trans (tracked.queued index)⟩

/-- A record rewritten with the same entries. -/
theorem set_same (memory : Memory ι) (index : ι) {manager : MemoryManager} {flow : MemoryFlow}
    {pcb : TcpPcb} (live : flow.live = (memory.flows index).live)
    (queued : flow.queuedBytes = (memory.flows index).queuedBytes) (other : ι) :
    ((memory.set index manager flow pcb).flows other).live = (memory.flows other).live ∧
      ((memory.set index manager flow pcb).flows other).queuedBytes =
        (memory.flows other).queuedBytes := by
  by_cases same : other = index
  · subst same
    simp only [Memory.set, Function.update_self]
    exact ⟨live, queued⟩
  · rw [show (memory.set index manager flow pcb).flows other = memory.flows other from
      Function.update_of_ne same _ _]
    exact ⟨rfl, rfl⟩

theorem step_tracked [Fintype ι] {config : MemoryConfig} (usage : Usage ι)
    (event : MemoryEvent ι) (next : Usage ι) (tracked : Tracked config usage)
    (stepped : step usage event = some next) : Tracked config next := by
  obtain ⟨memory, moved, rfl⟩ := Option.map_eq_some_iff.mp stepped
  have accounted := memoryStep_accounted usage.memory event memory tracked.accounted moved
  cases event with
  | init index =>
      simp only [memoryStep] at moved
      split at moved
      · contradiction
      · rename_i unused
        unfold flowInit at moved
        by_cases empty : queueEmpty (usage.memory.pcbs index) = true
        · rw [if_pos empty] at moved
          simp only [Option.some.injEq] at moved
          subst moved
          have idle := tracked.accounted.idle index (by simpa using unused)
          have owes : usage.owed = Function.update usage.owed index (usage.owed index) :=
            (Function.update_eq_self index usage.owed).symm
          simp only [openedAfter, owedAfter, if_pos empty]
          rw [owes]
          exact tracked.set index accounted rfl (idle.symm.trans (tracked.queued index))
        · rw [if_neg empty] at moved
          simp only [Option.some.injEq] at moved
          subst moved
          simp only [openedAfter, owedAfter, if_neg empty]
          exact tracked
  | grow index expandNum expandDen =>
      simp only [memoryStep, Option.some.injEq] at moved
      subst moved
      obtain ⟨live, queued⟩ := flowMaybeGrow_record usage.memory.manager
        (usage.memory.flows index) (usage.memory.pcbs index) expandNum expandDen
      exact tracked.same accounted (set_same usage.memory index live queued)
  | write index bytes accepted =>
      have ready := tracked.accounted.ready index
      simp only [memoryStep] at moved
      split at moved
      · rename_i both
        have admitted := (Bool.and_eq_true _ _ ▸ both).1
        simp only [Option.some.injEq] at moved
        subst moved
        obtain ⟨live, queued⟩ := flowNoteWrite_record ready admitted
        have isOpen : usage.opened index = true :=
          (tracked.live index).symm.trans (flowCanWrite_live admitted)
        have opens : usage.opened = Function.update usage.opened index (usage.opened index) :=
          (Function.update_eq_self index usage.opened).symm
        simp only [openedAfter, owedAfter, isOpen, Bool.true_and, if_pos both]
        rw [opens]
        exact tracked.set index accounted (live.trans (tracked.live index))
          (queued.trans (congrArg (· + bytes) (tracked.queued index)))
      · rename_i refused
        simp only [Option.some.injEq] at moved
        subst moved
        have kept : ¬(usage.opened index && (flowCanWrite usage.memory.manager
            (usage.memory.flows index) (usage.memory.pcbs index) bytes).1 && accepted) = true := by
          rw [Bool.and_assoc, Bool.and_eq_true]
          exact fun both => refused both.2
        simp only [openedAfter, owedAfter, if_neg kept]
        exact tracked.same accounted fun _ => ⟨rfl, rfl⟩
  | acked index bytes =>
      simp only [memoryStep] at moved
      split at moved
      · rename_i inside
        simp only [Option.some.injEq] at moved
        subst moved
        obtain ⟨live, queued⟩ := flowNoteAcked_record (tracked.accounted.ready index) inside
        have opens : usage.opened = Function.update usage.opened index (usage.opened index) :=
          (Function.update_eq_self index usage.opened).symm
        simp only [openedAfter, owedAfter]
        rw [opens]
        exact tracked.set index accounted (live.trans (tracked.live index))
          (queued.trans (congrArg (· - bytes) (tracked.queued index)))
      · contradiction
  | release index =>
      simp only [memoryStep, Option.some.injEq] at moved
      subst moved
      obtain ⟨live, queued⟩ := flowRelease_record (tracked.accounted.ready index)
      exact tracked.set index accounted live queued
  | lwip index pcb =>
      simp only [memoryStep] at moved
      split at moved
      · simp only [Option.some.injEq] at moved
        subst moved
        exact tracked.same accounted (set_same usage.memory index rfl rfl)
      · contradiction

omit [DecidableEq ι] in
theorem Tracked.liveQueued_eq [Fintype ι] {config : MemoryConfig} {usage : Usage ι}
    (tracked : Tracked config usage) :
    usage.memory.manager.stats.chargedBytes = liveQueued usage := by
  rw [tracked.accounted.charged, liveQueued, Finset.sum_filter]
  apply Finset.sum_congr rfl
  intro index _
  cases opened : usage.opened index with
  | true => rfl
  | false =>
      have dead := (tracked.live index).trans opened
      simp [tracked.accounted.idle index dead]

end Usage

/-- Every interleaving of the operations of any number of flows keeps the global total
equal to what the flows that were opened and not released have queued, which is what they
wrote and have not seen acknowledged, within the configured bounds. -/
theorem global_accounting [Fintype ι] (config : MemoryConfig) (manager : MemoryManager)
    (opened : managerInit config = some manager) (pcbs : ι → TcpPcb)
    (events : List (MemoryEvent ι)) (final : Usage ι)
    (ran : Run.run Usage.step
      { memory := { manager := manager, flows := fun _ => {}, pcbs := pcbs } } events =
        some final) :
    final.memory.manager.stats.chargedBytes = final.liveQueued ∧
      (∀ index, (final.memory.flows index).live = final.opened index ∧
        (final.memory.flows index).queuedBytes = final.owed index) ∧
      final.memory.manager.stats.chargedBytes ≤ config.mem.highBytes ∧
      final.memory.manager.stats.accountingUnderflows = 0 ∧
      (∀ index, final.opened index = true →
        config.wmem.initialBytes ≤ (final.memory.flows index).capacityBytes ∧
          (final.memory.flows index).capacityBytes ≤ config.wmem.maxBytes ∧
          (final.memory.pcbs index).sndBuf + (final.memory.flows index).queuedBytes =
            (final.memory.flows index).capacityBytes) ∧
      (config.mem.lowBytes < config.mem.pressureBytes →
        (final.memory.manager.pressureActive = false →
            final.memory.manager.stats.chargedBytes < config.mem.pressureBytes) ∧
          (final.memory.manager.pressureActive = true →
            config.mem.lowBytes < final.memory.manager.stats.chargedBytes)) ∧
      (∀ event next, Usage.step final event = some next →
        (config.mem.lowBytes < config.mem.pressureBytes →
          (final.memory.manager.pressureActive = false →
            next.memory.manager.pressureActive = true →
              final.memory.manager.stats.chargedBytes < config.mem.pressureBytes ∧
                config.mem.pressureBytes ≤ next.memory.manager.stats.chargedBytes) ∧
            (final.memory.manager.pressureActive = true →
              next.memory.manager.pressureActive = false →
                config.mem.lowBytes < final.memory.manager.stats.chargedBytes ∧
                  next.memory.manager.stats.chargedBytes ≤ config.mem.lowBytes)) ∧
          ∀ index, final.opened index = true →
            (final.memory.flows index).capacityBytes < (next.memory.flows index).capacityBytes →
              final.memory.manager.pressureActive = false) := by
  have tracked : Usage.Tracked config final :=
    Run.run_invariant Usage.step_tracked
      ⟨managerInit_accounted opened pcbs, fun _ => rfl, fun _ => rfl⟩ ran
  have accounted := tracked.accounted
  refine ⟨tracked.liveQueued_eq, fun index => ⟨tracked.live index, tracked.queued index⟩,
    accounted.bounded, accounted.underflows, ?_, ?_, ?_⟩
  · intro index live
    have window := accounted.window index ((tracked.live index).trans live)
    exact ⟨window.initial, window.max, window.window⟩
  · have pressure := accounted.pressure
    rwa [PressureOk, accounted.configured] at pressure
  · intro event next stepped
    obtain ⟨memory, moved, rfl⟩ := Option.map_eq_some_iff.mp stepped
    obtain ⟨index, manager, flow, pcb, rfl, settled⟩ := memoryStep_cases accounted moved
    have crosses := settled.crosses
    rw [CrossesThreshold, accounted.configured] at crosses
    refine ⟨crosses, ?_⟩
    intro other live grew
    by_cases same : other = index
    · subst same
      simp only [Memory.set, Function.update_self] at grew
      exact settled.growth ((tracked.live other).trans live) grew
    · simp only [Memory.set, Function.update_of_ne same] at grew
      exact absurd grew (Nat.lt_irrefl _)

/-- Two flows write; one is acknowledged in part, the other is released with all it wrote. -/
def twoFlows : List (MemoryEvent Bool) :=
  [.init true, .init false, .write true 1500 true, .write false 1000 true, .acked true 500,
    .release false]

theorem global_accounting_two_flows :
    ∃ manager final,
      managerInit ⟨⟨4096, 32768, 65536, by decide⟩, ⟨1000, 2000, 3000, by decide⟩, 0⟩ =
        some manager ∧
      Run.run Usage.step
        { memory := { manager := manager, flows := fun _ => {}
                      pcbs := fun _ => ⟨1460, 0, 0, false, false⟩ } } twoFlows = some final ∧
      final.memory.manager.stats.chargedBytes = final.liveQueued ∧
      final.opened true = true ∧ final.opened false = false ∧
      (final.memory.flows true).queuedBytes = 1000 ∧
      (final.memory.flows false).live = false := by
  obtain ⟨manager, opened⟩ : ∃ manager,
      managerInit ⟨⟨4096, 32768, 65536, by decide⟩, ⟨1000, 2000, 3000, by decide⟩, 0⟩ =
        some manager := ⟨_, rfl⟩
  have ends : (Run.run Usage.step
      { memory := { manager := manager, flows := fun _ => {}
                    pcbs := fun _ => ⟨1460, 0, 0, false, false⟩ } } twoFlows).map
        (fun final => (final.opened true, final.opened false, final.owed true)) =
      some (true, false, 1000) := by
    cases opened
    decide
  obtain ⟨final, ran, facts⟩ := Option.map_eq_some_iff.mp ends
  simp only [Prod.mk.injEq] at facts
  obtain ⟨balance, records, -⟩ := global_accounting _ manager opened _ _ final ran
  exact ⟨manager, final, opened, ran, balance, facts.1, facts.2.1,
    (records true).2.trans facts.2.2, (records false).1.trans facts.2.1⟩

end System

end TcpShift.TcpMemory
