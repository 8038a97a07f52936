import TcpShift.Lib.Word

set_option autoImplicit false

/- Send-memory accounting: one manager with the global budget and one flow record
for each connection that writes through it. -/
namespace TcpShift

open Word

@[ext]
structure WmemPolicy where
  minBytes : Nat
  initialBytes : Nat
  maxBytes : Nat
  inU32 : minBytes < 2 ^ 32 ∧ initialBytes < 2 ^ 32 ∧ maxBytes < 2 ^ 32 := by decide
deriving Repr

instance : DecidableEq WmemPolicy := fun _ _ => decidable_of_iff _ WmemPolicy.ext_iff.symm

structure MemPolicy where
  lowBytes : Nat
  pressureBytes : Nat
  highBytes : Nat
  inU64 : lowBytes < 2 ^ 64 ∧ pressureBytes < 2 ^ 64 ∧ highBytes < 2 ^ 64 := by decide
deriving DecidableEq, Repr

structure MemoryConfig where
  wmem : WmemPolicy
  mem : MemPolicy
  effectiveMemoryBytes : Nat
deriving DecidableEq, Repr

structure MemoryStats where
  flowInits : Nat := 0
  flowReleases : Nat := 0
  writeEvents : Nat := 0
  writeBytes : Nat := 0
  ackEvents : Nat := 0
  ackBytes : Nat := 0
  chargedBytes : Nat := 0
  peakChargedBytes : Nat := 0
  pressureEnters : Nat := 0
  pressureExits : Nat := 0
  highBlocks : Nat := 0
  growthEvents : Nat := 0
  growthBytes : Nat := 0
  growthSuppressed : Nat := 0
  accountingUnderflows : Nat := 0
deriving DecidableEq, Repr

structure MemoryManager where
  config : MemoryConfig
  stats : MemoryStats
  pressureActive : Bool
deriving DecidableEq, Repr

/-- `live` says that the manager pointer is set. -/
structure MemoryFlow where
  live : Bool := false
  capacityBytes : Nat := 0
  sndbufExpandNum : Nat := 0
  sndbufExpandDen : Nat := 0
  queuedBytes : Nat := 0
deriving DecidableEq, Repr

/-- What the accounting reads and writes of an lwIP control block; `unsent` and
`unacked` say whether the queues hold a segment. -/
structure TcpPcb where
  cwnd : Nat
  sndBuf : Nat
  sndQueuelen : Nat
  unsent : Bool
  unacked : Bool
deriving DecidableEq, Repr

namespace TcpMemory

def sndbufExpandNumDefault : Nat := 2
def sndbufExpandDenDefault : Nat := 1

def managerInit (config : MemoryConfig) : Option MemoryManager :=
  if config.wmem.minBytes = 0 ∨ config.wmem.minBytes > config.wmem.initialBytes ∨
      config.wmem.initialBytes > config.wmem.maxBytes ∨
      config.mem.lowBytes > config.mem.pressureBytes ∨
      config.mem.pressureBytes > config.mem.highBytes ∨ config.mem.highBytes = 0 then none
  else some { config := config, stats := {}, pressureActive := false }

def updatePressure (manager : MemoryManager) : MemoryManager :=
  if manager.pressureActive = false ∧
      manager.stats.chargedBytes ≥ manager.config.mem.pressureBytes then
    { manager with
      pressureActive := true
      stats := { manager.stats with pressureEnters := add64 manager.stats.pressureEnters 1 } }
  else if manager.pressureActive = true ∧
      manager.stats.chargedBytes ≤ manager.config.mem.lowBytes then
    { manager with
      pressureActive := false
      stats := { manager.stats with pressureExits := add64 manager.stats.pressureExits 1 } }
  else manager

def queueEmpty (pcb : TcpPcb) : Bool :=
  pcb.sndQueuelen = 0 ∧ pcb.unsent = false ∧ pcb.unacked = false

/-- The flow starts with the initial capacity, all of it free in `snd_buf`. -/
def flowInit (manager : MemoryManager) (pcb : TcpPcb) :
    Option (MemoryManager × MemoryFlow × TcpPcb) :=
  if queueEmpty pcb then
    some ({ manager with
            stats := { manager.stats with flowInits := add64 manager.stats.flowInits 1 } },
      { live := true
        capacityBytes := manager.config.wmem.initialBytes
        sndbufExpandNum := sndbufExpandNumDefault
        sndbufExpandDen := sndbufExpandDenDefault
        queuedBytes := 0 },
      { pcb with sndBuf := manager.config.wmem.initialBytes })
  else none

def flowSetSndbufExpand (flow : MemoryFlow) (expandNum expandDen : Nat) : Option MemoryFlow :=
  if flow.live = false ∨ expandNum = 0 ∨ expandDen = 0 then none
  else some { flow with sndbufExpandNum := expandNum, sndbufExpandDen := expandDen }

/-- The capacity the congestion window asks for, within the configured range. -/
def growTarget (manager : MemoryManager) (pcb : TcpPcb) (expandNum expandDen : Nat) : Nat :=
  let hint := satMul64 pcb.cwnd expandNum / expandDen
  let raised := if hint < manager.config.wmem.initialBytes
    then manager.config.wmem.initialBytes else hint
  if raised > manager.config.wmem.maxBytes then manager.config.wmem.maxBytes else raised

/-- The return values -1, 0 and 1 of `flow_maybe_grow`. -/
inductive Growth where
  | invalid
  | unchanged
  | grown
deriving DecidableEq, Repr

def flowMaybeGrow (manager : MemoryManager) (flow : MemoryFlow) (pcb : TcpPcb)
    (expandNum expandDen : Nat) : Growth × MemoryManager × MemoryFlow × TcpPcb :=
  if flow.live = false ∨ expandNum = 0 ∨ expandDen = 0 then (.invalid, manager, flow, pcb)
  else
    let target := growTarget manager pcb expandNum expandDen
    if target ≤ flow.capacityBytes then (.unchanged, manager, flow, pcb)
    else if manager.pressureActive then
      (.unchanged,
        { manager with
          stats := { manager.stats with
            growthSuppressed := add64 manager.stats.growthSuppressed 1 } }, flow, pcb)
    else
      let delta := target - flow.capacityBytes
      if pcb.sndBuf + delta > u32Max then (.invalid, manager, flow, pcb)
      else
        (.grown,
          { manager with
            stats := { manager.stats with
              growthEvents := add64 manager.stats.growthEvents 1
              growthBytes := add64 manager.stats.growthBytes delta } },
          { flow with capacityBytes := target },
          { pcb with sndBuf := pcb.sndBuf + delta })

/-- The manager comes back because a refusal at the high-water mark is counted. -/
def flowCanWrite (manager : MemoryManager) (flow : MemoryFlow) (pcb : TcpPcb) (bytes : Nat) :
    Bool × MemoryManager :=
  if flow.live = false then (false, manager)
  else if bytes = 0 then (true, manager)
  else if bytes > pcb.sndBuf then (false, manager)
  else if manager.stats.chargedBytes > manager.config.mem.highBytes ∨
      bytes > manager.config.mem.highBytes - manager.stats.chargedBytes then
    (false, { manager with
      stats := { manager.stats with highBlocks := add64 manager.stats.highBlocks 1 } })
  else (true, manager)

def flowNoteWrite (manager : MemoryManager) (flow : MemoryFlow) (bytes : Nat) :
    MemoryManager × MemoryFlow :=
  if flow.live = false ∨ bytes = 0 then (manager, flow)
  else
    let charged := add64 manager.stats.chargedBytes bytes
    (updatePressure { manager with
      stats := { manager.stats with
        chargedBytes := charged
        writeEvents := add64 manager.stats.writeEvents 1
        writeBytes := add64 manager.stats.writeBytes bytes
        peakChargedBytes := if charged > manager.stats.peakChargedBytes then charged
          else manager.stats.peakChargedBytes } },
      { flow with queuedBytes := add64 flow.queuedBytes bytes })

/-- Clamp `amount` to `bound`, counting the clamp. -/
def clampUnderflow (amount bound underflows : Nat) : Nat × Nat :=
  if amount > bound then (bound, add64 underflows 1) else (amount, underflows)

def flowNoteAcked (manager : MemoryManager) (flow : MemoryFlow) (bytes : Nat) :
    MemoryManager × MemoryFlow :=
  if flow.live = false ∨ bytes = 0 then (manager, flow)
  else
    let byFlow := clampUnderflow bytes flow.queuedBytes manager.stats.accountingUnderflows
    let byTotal := clampUnderflow byFlow.1 manager.stats.chargedBytes byFlow.2
    (updatePressure { manager with
      stats := { manager.stats with
        accountingUnderflows := byTotal.2
        chargedBytes := manager.stats.chargedBytes - byTotal.1
        ackEvents := add64 manager.stats.ackEvents 1
        ackBytes := add64 manager.stats.ackBytes byTotal.1 } },
      { flow with queuedBytes := flow.queuedBytes - byTotal.1 })

def flowRelease (manager : MemoryManager) (flow : MemoryFlow) : MemoryManager × MemoryFlow :=
  if flow.live = false then (manager, flow)
  else
    let byTotal := clampUnderflow flow.queuedBytes manager.stats.chargedBytes
      manager.stats.accountingUnderflows
    (updatePressure { manager with
      stats := { manager.stats with
        accountingUnderflows := byTotal.2
        chargedBytes := manager.stats.chargedBytes - byTotal.1
        flowReleases := add64 manager.stats.flowReleases 1 } }, {})

end TcpMemory

end TcpShift
