import TcpShift.Pacer

set_option autoImplicit false

/- The flow registry of the adapters and the pacing of their segments: a slot and a generation
name a flow to the shared scheduler, the send gate asks it for a wakeup and its releases come
back by that name. `timerfd_settime` succeeds; the allocator may not. -/
namespace TcpShift

open Word

/-- The pacing clock of one flow. -/
structure FlowPacer where
  rateBytesPerSec : Nat := 0
  nextSendNs : Nat := 0
  maxCatchUpBytes : Nat := 0
deriving DecidableEq, Repr

namespace FlowPacer

/-- The time `bytes` take at the rate, rounded up. -/
def spacingNs (bytes rateBytesPerSec : Nat) : Nat :=
  if bytes = 0 ∨ rateBytesPerSec = 0 then 0
  else
    let numerator := bytes * nsecPerSec
    let spacing := numerator / rateBytesPerSec +
      if numerator % rateBytesPerSec ≠ 0 then 1 else 0
    if spacing = 0 then 1 else spacing

def setRate (flow : FlowPacer) (rateBytesPerSec : Nat) : FlowPacer :=
  { flow with
    rateBytesPerSec := rateBytesPerSec
    nextSendNs := if rateBytesPerSec = 0 then 0 else flow.nextSendNs }

/-- Zero allows the segment now. -/
def deadline (flow : FlowPacer) (nowNs : Nat) : Nat :=
  if flow.rateBytesPerSec = 0 ∨ flow.nextSendNs = 0 ∨ flow.nextSendNs ≤ nowNs then 0
  else flow.nextSendNs

/-- `none` is the refusal of an empty segment or of a clock that stands at zero. -/
def noteTx (flow : FlowPacer) (nowNs bytes : Nat) : Option FlowPacer :=
  if nowNs = 0 ∨ bytes = 0 then none
  else if flow.rateBytesPerSec = 0 then some { flow with nextSendNs := 0 }
  else
    let catchUpNs := spacingNs flow.maxCatchUpBytes flow.rateBytesPerSec
    let floorNs := if catchUpNs < nowNs then nowNs - catchUpNs else 0
    let baseNs :=
      if flow.nextSendNs = 0 then nowNs
      else if flow.nextSendNs < nowNs ∧ flow.nextSendNs < floorNs then floorNs
      else flow.nextSendNs
    some { flow with nextSendNs := satAdd64 baseNs (spacingNs bytes flow.rateBytesPerSec) }

end FlowPacer

/-- The pacing part of an adapter; `attached` is its connection. -/
structure PacedAdapter where
  attached : Bool := false
  bound : Bool := false
  pacingFlowId : Nat := 0
  pacingGeneration : Nat := 0
  pacingRateBytesPerSec : Nat := 0
  pacingNextSendNs : Nat := 0
  pacingScheduled : Bool := false
deriving DecidableEq, Repr

/-- The flow pacer the adapter's scalars stand for, without credit for the past. -/
def PacedAdapter.flow (adapter : PacedAdapter) : FlowPacer :=
  { ({} : FlowPacer).setRate adapter.pacingRateBytesPerSec with
    nextSendNs := adapter.pacingNextSendNs }

/-- The adapter without a slot. -/
def PacedAdapter.unregistered (adapter : PacedAdapter) : PacedAdapter :=
  { adapter with pacingScheduled := false, pacingFlowId := 0, pacingGeneration := 0 }

/-- A pointer to an adapter is its place in the list of adapters. -/
structure RegistryEntry where
  adapter : Option Nat := none
  generation : Nat := 0
deriving DecidableEq, Repr

structure PacingStats where
  pacingSchedulerErrors : Nat := 0
  pacingDeferrals : Nat := 0
  pacingResumeEvents : Nat := 0
  pacingStaleReleases : Nat := 0
deriving DecidableEq, Repr

/-- The service, the adapters it points to and the scheduler behind its operations. -/
structure PacingService where
  configured : Bool := false
  entries : List RegistryEntry := []
  active : Nat := 0
  adapters : List PacedAdapter := []
  pacer : Pacer
  stats : PacingStats := {}
deriving DecidableEq, Repr

/-- One segment offered to the gate: its size, what the recovery credit says, the clock at the
gate and at the transmission, and whether the scheduler gets its memory. -/
structure SendAttempt where
  payloadBytes : Nat
  prrBlocked : Bool := false
  gateNs : Nat
  txNs : Nat
  realloc : Bool := true
deriving DecidableEq, Repr

inductive SendGate where
  | allow
  | prrBlock
  | defer
deriving DecidableEq, Repr

namespace PacingService

def initialRegistry : Nat := 32

/-- `sizeof(struct tcp_shift_pacing_registry_entry)`. -/
def entrySize : Nat := 16

def env (realloc : Bool) : PacerEnv := { realloc := realloc, settime := true }

/-- Writes an adapter back. -/
def put (service : PacingService) (handle : Nat) (adapter : PacedAdapter) : PacingService :=
  { service with adapters := service.adapters.set handle adapter }

def noteError (service : PacingService) : PacingService :=
  { service with
    stats := { service.stats with
      pacingSchedulerErrors := service.stats.pacingSchedulerErrors + 1 } }

def noteStale (service : PacingService) : PacingService :=
  { service with
    stats := { service.stats with
      pacingStaleReleases := service.stats.pacingStaleReleases + 1 } }

def pacingCancel (service : PacingService) (handle : Nat) : PacingService :=
  match service.adapters[handle]? with
  | none => service
  | some adapter =>
      if adapter.pacingScheduled = false then service
      else
        let cleared := { adapter with pacingScheduled := false }
        if service.configured = false ∨ adapter.pacingFlowId = 0 then
          service.noteError.put handle cleared
        else
          match service.pacer.cancel adapter.pacingFlowId adapter.pacingGeneration (env true) with
          | (.ok _, pacer) => { service with pacer := pacer }.put handle cleared
          | (.error _, pacer) => { service with pacer := pacer }.noteError.put handle cleared

/-- `none` is the refusal of the size or of the allocator. -/
def registryGrow (service : PacingService) (realloc : Bool) : Option PacingService :=
  let capacity := service.entries.length
  if capacity ≠ 0 ∧ capacity > Pacer.sizeMax / 2 then none
  else
    let nextCapacity := if capacity = 0 then initialRegistry else capacity * 2
    if nextCapacity > Pacer.sizeMax / entrySize ∨ realloc = false then none
    else
      some { service with
        entries := service.entries ++ List.replicate (nextCapacity - capacity) {} }

/-- The next generation of a slot; zero is no generation. -/
def nextGeneration (generation : Nat) : Nat :=
  if add32 generation 1 = 0 then 1 else add32 generation 1

def freeEntry (entries : List RegistryEntry) : Option Nat :=
  entries.findIdx? (fun entry => entry.adapter.isNone)

/-- The adapter takes the free entry. -/
def claim (service : PacingService) (handle index : Nat) : PacingService :=
  match service.entries[index]?, service.adapters[handle]? with
  | some entry, some adapter =>
      let generation := nextGeneration entry.generation
      { service with
        entries := service.entries.set index ⟨some handle, generation⟩
        adapters := service.adapters.set handle { adapter with
          pacingFlowId := index + 1
          pacingGeneration := generation }
        active := service.active + 1 }
  | _, _ => service

/-- A table that has just grown has a free entry, so the search is made at most twice. -/
def pacingRegister (service : PacingService) (handle : Nat) (realloc : Bool) :
    Option PacingService :=
  if service.configured = false then some service
  else
    match freeEntry service.entries with
    | some index => some (claim service handle index)
    | none =>
        (registryGrow service realloc).bind (fun grown =>
          (freeEntry grown.entries).map (fun index => claim grown handle index))

/-- The entry is given back when it still names the adapter. -/
def vacate (service : PacingService) (handle : Nat) (adapter : PacedAdapter) : PacingService :=
  let index := adapter.pacingFlowId - 1
  if service.entries[index]? = some ⟨some handle, adapter.pacingGeneration⟩ then
    { service with
      entries := service.entries.set index ⟨none, adapter.pacingGeneration⟩
      active := service.active - 1 }
  else service

def pacingUnregister (service : PacingService) (handle : Nat) : PacingService :=
  match service.adapters[handle]? with
  | none => service
  | some adapter =>
      if adapter.pacingFlowId = 0 then service
      else
        ((pacingCancel service handle).vacate handle adapter).put handle adapter.unregistered

/-- The operations given are the ones in use, if any are. -/
def configurePacer (service : PacingService) : PacingService :=
  if service.configured ∨ service.active ≠ 0 then service else { service with configured := true }

def clearPacer (service : PacingService) : PacingService :=
  if service.active ≠ 0 then service else { service with configured := false }

/-- A connection gets an adapter, a new one or one whose connection is gone; a refusal leaves
it without a connection. -/
def adapterBind (service : PacingService) (handle : Nat) (realloc : Bool) : PacingService :=
  let fresh : PacedAdapter := { attached := true }
  let cleared := if handle = service.adapters.length
    then { service with adapters := service.adapters ++ [fresh] }
    else service.put handle fresh
  match pacingRegister cleared handle realloc with
  | none => cleared.put handle {}
  | some registered =>
      match registered.adapters[handle]? with
      | none => registered
      | some adapter => registered.put handle { adapter with bound := true }

/-- Unbinding, and the destruction of the connection. -/
def adapterUnbind (service : PacingService) (handle : Nat) : PacingService :=
  let unregistered := pacingUnregister service handle
  match unregistered.adapters[handle]? with
  | none => unregistered
  | some adapter => unregistered.put handle { adapter with bound := false, attached := false }

/-- A policy without a rate takes the wakeup back. -/
def applyPolicy (service : PacingService) (handle pacingRateBytesPerSec : Nat) : PacingService :=
  match service.adapters[handle]? with
  | none => service
  | some adapter =>
      let stopping := pacingRateBytesPerSec = 0 ∧ adapter.pacingRateBytesPerSec ≠ 0
      let stopped := if stopping then pacingCancel service handle else service
      stopped.put handle { adapter with
        pacingScheduled := if stopping then false else adapter.pacingScheduled
        pacingNextSendNs := if stopping then 0 else adapter.pacingNextSendNs
        pacingRateBytesPerSec := pacingRateBytesPerSec }

def disableOnError (service : PacingService) (handle : Nat) : PacingService :=
  match service.adapters[handle]? with
  | none => service
  | some adapter =>
      (pacingCancel service handle).put handle { adapter with
        pacingScheduled := false
        pacingRateBytesPerSec := 0
        pacingNextSendNs := 0
        bound := false }

/-- The other writers of the rate: a controller that takes over, and the recovery refresh. -/
def setRate (service : PacingService) (handle pacingRateBytesPerSec pacingNextSendNs : Nat) :
    PacingService :=
  match service.adapters[handle]? with
  | none => service
  | some adapter =>
      service.put handle { adapter with
        pacingRateBytesPerSec := pacingRateBytesPerSec
        pacingNextSendNs := pacingNextSendNs }

/-- The gate of one segment. Without a wakeup to wait for, the flow is no longer paced. -/
def sendEligible (service : PacingService) (handle : Nat) (attempt : SendAttempt) :
    SendGate × PacingService :=
  match service.adapters[handle]? with
  | none => (.allow, service)
  | some adapter =>
      let deadlineNs := adapter.flow.deadline attempt.gateNs
      let unpaced := { adapter with pacingRateBytesPerSec := 0, pacingNextSendNs := 0 }
      let deferred : PacingService := { service with
        stats := { service.stats with pacingDeferrals := service.stats.pacingDeferrals + 1 } }
      if adapter.bound = false ∨ attempt.payloadBytes = 0 then (.allow, service)
      else if attempt.prrBlocked then (.prrBlock, service)
      else if adapter.pacingRateBytesPerSec = 0 ∨ attempt.gateNs = 0 ∨ deadlineNs = 0 then
        (.allow, service)
      else if service.configured = false ∨ adapter.pacingFlowId = 0 then
        (.allow, service.noteError.put handle unpaced)
      else if adapter.pacingScheduled then (.defer, deferred)
      else
        match service.pacer.schedule
            ⟨deadlineNs, adapter.pacingFlowId, adapter.pacingGeneration, attempt.payloadBytes⟩
            (env attempt.realloc) with
        | (.error _, pacer) =>
            (.allow, { service with pacer := pacer }.noteError.put handle unpaced)
        | (.ok _, pacer) =>
            (.defer, { deferred with pacer := pacer }.put handle
              { adapter with pacingScheduled := true })

/-- The clock of the flow after a transmission. -/
def noteTx (service : PacingService) (handle : Nat) (payloadBytes nowNs : Nat) : PacingService :=
  match service.adapters[handle]? with
  | none => service
  | some adapter =>
      if payloadBytes = 0 ∨ adapter.pacingRateBytesPerSec = 0 ∨ nowNs = 0 then service
      else
        match adapter.flow.noteTx nowNs payloadBytes with
        | none =>
            service.noteError.put handle { adapter with
              pacingRateBytesPerSec := 0
              pacingNextSendNs := 0 }
        | some flow => service.put handle { adapter with pacingNextSendNs := flow.nextSendNs }

/-- The segments the transport offers until the gate refuses one; the last answer. -/
def tcpOutput (service : PacingService) (handle : Nat) :
    List SendAttempt → SendGate × PacingService
  | [] => (.allow, service)
  | attempt :: rest =>
      match sendEligible service handle attempt with
      | (.allow, passed) =>
          tcpOutput (noteTx passed handle attempt.payloadBytes attempt.txNs) handle rest
      | refused => refused

/-- A release of the scheduler; `attempts` is what the transport then offers. -/
def resumePaced (service : PacingService) (flowId generation : Nat)
    (attempts : List SendAttempt) : SendGate × PacingService :=
  if flowId = 0 then (.allow, service.noteStale)
  else
    match service.entries[flowId - 1]? with
    | none => (.allow, service.noteStale)
    | some entry =>
        match entry.adapter with
        | none => (.allow, service.noteStale)
        | some handle =>
            if entry.generation ≠ generation then (.allow, service.noteStale)
            else
              match service.adapters[handle]? with
              | none => (.allow, service)
              | some adapter =>
                  let cleared := service.put handle { adapter with pacingScheduled := false }
                  if adapter.bound = false ∨ adapter.attached = false then
                    (.allow, cleared.noteStale)
                  else
                    tcpOutput { cleared with
                      stats := { cleared.stats with
                        pacingResumeEvents := cleared.stats.pacingResumeEvents + 1 } } handle
                      attempts

/-- One turn of the drain loop: the event that is due leaves the queue and is delivered. -/
def releaseDue (service : PacingService) (nowNs : Nat) (attempts : List SendAttempt) :
    SendGate × PacingService :=
  match service.pacer.popDue nowNs (env true) with
  | (.ok (some event), pacer) =>
      resumePaced { service with pacer := pacer } event.flowId event.generation attempts
  | (_, pacer) => (.allow, { service with pacer := pacer })

end PacingService

end TcpShift
