import TcpShift.Lib.Compaction
import TcpShift.Lib.MinHeap
import TcpShift.Lib.Word

set_option autoImplicit false

/- The pacing scheduler: a bounded min-heap of eligibility events over one
timerfd. A `Pacer` is an open scheduler, so the null and closed-descriptor
guards of the entry points have no counterpart. -/
namespace TcpShift

open Word

def nsecPerSec : Nat := 1000000000

structure PacerEvent where
  deadlineNs : Nat
  flowId : Nat
  generation : Nat
  bytes : Nat
deriving DecidableEq, Repr

structure PacerStats where
  timerfdCreates : Nat := 0
  timerArms : Nat := 0
  timerRearms : Nat := 0
  timerDisarms : Nat := 0
  timerExpirations : Nat := 0
  scheduledEvents : Nat := 0
  releasedEvents : Nat := 0
  cancelledEvents : Nat := 0
  releasedBytes : Nat := 0
  lastRequestedDeadlineNs : Nat := 0
  lastActualReleaseNs : Nat := 0
  lastLatenessNs : Nat := 0
  maxLatenessNs : Nat := 0
  heapCurrent : Nat := 0
  heapPeak : Nat := 0
  heapCapacity : Nat := 0
deriving DecidableEq, Repr

/-- The kernel object behind `timer_fd`: the value last programmed, the deadline
still pending and the deadline of an expiration nobody has read. -/
structure Timerfd where
  programmed : Nat := 0
  armed : Option Nat := none
  expired : Option Nat := none
deriving DecidableEq, Repr

/-- `it_value`, split into seconds and nanoseconds. -/
structure Timespec where
  sec : Nat
  nsec : Nat
deriving DecidableEq, Repr

def timespecOf (deadlineNs : Nat) : Timespec :=
  { sec := deadlineNs / nsecPerSec, nsec := deadlineNs % nsecPerSec }

def Timespec.toNs (spec : Timespec) : Nat := spec.sec * nsecPerSec + spec.nsec

@[simp] theorem timespecOf_toNs (deadlineNs : Nat) :
    (timespecOf deadlineNs).toNs = deadlineNs := by
  simp only [timespecOf, Timespec.toNs, nsecPerSec]
  omega

/-- A successful `timerfd_settime`: it replaces the deadline and discards unread
expirations, and a zero value disarms. -/
def Timerfd.settime (spec : Timespec) : Timerfd :=
  { programmed := spec.toNs
    armed := if spec.toNs = 0 then none else some spec.toNs
    expired := none }

/-- The pending deadline fires. -/
def Timerfd.expire (timer : Timerfd) : Timerfd :=
  match timer.armed with
  | none => timer
  | some deadline => { timer with armed := none, expired := some deadline }

/-- A nonblocking read consumes the expiration of a one-shot timer. -/
def Timerfd.read (timer : Timerfd) : Option Nat × Timerfd :=
  match timer.expired with
  | none => (none, timer)
  | some _ => (some 1, { timer with expired := none })

structure Pacer where
  timer : Timerfd
  heap : Array PacerEvent
  heapCap : Nat
  heapMax : Nat
  armedDeadlineNs : Nat
  stats : PacerStats
deriving DecidableEq, Repr

/-- Why an entry point returned -1. -/
inductive PacerError where
  | einval
  | enospc
  | enomem
  | timer
deriving DecidableEq, Repr

/-- What the C library and the kernel answer during one call. -/
structure PacerEnv where
  realloc : Bool
  settime : Bool
deriving DecidableEq, Repr

namespace Pacer

def initialCapacity : Nat := 8

/-- `sizeof(struct tcp_shift_pacer_event)`. -/
def eventSize : Nat := 24

def sizeMax : Nat := 2 ^ 64 - 1

def eventLess (a b : PacerEvent) : Bool :=
  if a.deadlineNs ≠ b.deadlineNs then a.deadlineNs < b.deadlineNs
  else if a.flowId ≠ b.flowId then a.flowId < b.flowId
  else if a.generation ≠ b.generation then a.generation < b.generation
  else a.bytes < b.bytes

def siftUp (heap : Array PacerEvent) (index : Nat) : Array PacerEvent :=
  MinHeap.siftUp eventLess heap index

def siftDown (heap : Array PacerEvent) (index : Nat) : Array PacerEvent :=
  MinHeap.siftDown eventLess heap index

def heapify (heap : Array PacerEvent) : Array PacerEvent := MinHeap.heapify eventLess heap

/-- The doubled allocation, clamped to the configured bound. -/
def nextCap (pacer : Pacer) : Nat :=
  let doubled := if pacer.heapCap = 0 then initialCapacity else mul64 pacer.heapCap 2
  if doubled < pacer.heapCap ∨ doubled > pacer.heapMax then pacer.heapMax else doubled

def reserve (pacer : Pacer) (env : PacerEnv) : Except PacerError Pacer :=
  if pacer.heap.size < pacer.heapCap then .ok pacer
  else if pacer.heap.size ≥ pacer.heapMax then .error .enospc
  else if nextCap pacer > sizeMax / eventSize then .error .enomem
  else if env.realloc then
    .ok { pacer with
      heapCap := nextCap pacer
      stats := { pacer.stats with heapCapacity := nextCap pacer } }
  else .error .enomem

/-- The heap root, if any. -/
def root (pacer : Pacer) : Option PacerEvent := pacer.heap[0]?

/-- Program the kernel timer for the heap root; `false` is a failed system call,
which leaves everything as it was. -/
def syncTimer (pacer : Pacer) (env : PacerEnv) : Bool × Pacer :=
  match root pacer with
  | none =>
      if pacer.armedDeadlineNs = 0 then (true, pacer)
      else if env.settime then
        (true, { pacer with
          timer := Timerfd.settime { sec := 0, nsec := 0 }
          armedDeadlineNs := 0
          stats := { pacer.stats with timerDisarms := add64 pacer.stats.timerDisarms 1 } })
      else (false, pacer)
  | some event =>
      if event.deadlineNs = pacer.armedDeadlineNs then (true, pacer)
      else if env.settime then
        (true, { pacer with
          timer := Timerfd.settime (timespecOf event.deadlineNs)
          armedDeadlineNs := event.deadlineNs
          stats :=
            if pacer.armedDeadlineNs = 0 then
              { pacer.stats with timerArms := add64 pacer.stats.timerArms 1 }
            else { pacer.stats with timerRearms := add64 pacer.stats.timerRearms 1 } })
      else (false, pacer)

def init (maxEvents : Nat) (timerfdCreate : Bool) : Except PacerError Pacer :=
  if maxEvents = 0 ∨ maxEvents > sizeMax / eventSize then .error .einval
  else if timerfdCreate then
    .ok { timer := {}, heap := #[], heapCap := 0, heapMax := maxEvents, armedDeadlineNs := 0
          stats := { timerfdCreates := 1 } }
  else .error .timer

/-- The event is in the heap and counted, before the timer is synchronised. -/
def insert (pacer : Pacer) (event : PacerEvent) : Pacer :=
  let heap := siftUp (pacer.heap.push event) pacer.heap.size
  { pacer with
    heap := heap
    stats := { pacer.stats with
      scheduledEvents := add64 pacer.stats.scheduledEvents 1
      heapCurrent := heap.size
      heapPeak := if heap.size > pacer.stats.heapPeak then heap.size
        else pacer.stats.heapPeak } }

/-- Take the first event equal to `event` out again: the last leaf replaces it. -/
def rollback (pacer : Pacer) (event : PacerEvent) : Pacer :=
  match pacer.heap.findIdx? (fun queued => queued = event), pacer.heap.back? with
  | some index, some leaf =>
      let heap := heapify (pacer.heap.setIfInBounds index leaf).pop
      { pacer with
        heap := heap
        stats := { pacer.stats with
          heapCurrent := heap.size
          scheduledEvents := sub64 pacer.stats.scheduledEvents 1 } }
  | _, _ => pacer

def schedule (pacer : Pacer) (event : PacerEvent) (env : PacerEnv) : Except PacerError Unit × Pacer :=
  if event.deadlineNs = 0 then (.error .einval, pacer)
  else
    match reserve pacer env with
    | .error reason => (.error reason, pacer)
    | .ok reserved =>
        match syncTimer (insert reserved event) env with
        | (true, synced) => (.ok (), synced)
        | (false, unsynced) => (.error .timer, rollback unsynced event)

/-- The events one cancel call is about. -/
def ofFlow (flowId generation : Nat) (event : PacerEvent) : Bool :=
  event.flowId = flowId ∧ event.generation = generation

def keptEvents (pacer : Pacer) (flowId generation : Nat) : Array PacerEvent :=
  Compaction.compact (ofFlow flowId generation) pacer.heap

/-- The compaction counts every event it skips. -/
def removedCount (pacer : Pacer) (flowId generation : Nat) : Nat :=
  pacer.heap.size - (keptEvents pacer flowId generation).size

/-- The events are gone and counted, before the timer is synchronised. -/
def removeFlow (pacer : Pacer) (flowId generation : Nat) : Pacer :=
  let heap := heapify (keptEvents pacer flowId generation)
  { pacer with
    heap := heap
    stats := { pacer.stats with
      cancelledEvents :=
        add64 pacer.stats.cancelledEvents (removedCount pacer flowId generation)
      heapCurrent := heap.size } }

/-- The result is the number of removed events. -/
def cancel (pacer : Pacer) (flowId generation : Nat) (env : PacerEnv) :
    Except PacerError Nat × Pacer :=
  if removedCount pacer flowId generation = 0 then (.ok 0, pacer)
  else
    match syncTimer (removeFlow pacer flowId generation) env with
    | (true, synced) => (.ok (removedCount pacer flowId generation), synced)
    | (false, unsynced) => (.error .timer, unsynced)

def peek (pacer : Pacer) : Option PacerEvent := root pacer

/-- The heap without its root: the last leaf moves up and sinks. -/
def removeRoot (heap : Array PacerEvent) : Array PacerEvent :=
  match heap.back? with
  | none => heap
  | some leaf =>
      if heap.pop.size = 0 then heap.pop else siftDown (heap.pop.setIfInBounds 0 leaf) 0

def noteReleased (stats : PacerStats) (event : PacerEvent) (nowNs heapLen : Nat) : PacerStats :=
  let lateness := if nowNs > event.deadlineNs then nowNs - event.deadlineNs else 0
  { stats with
    releasedEvents := add64 stats.releasedEvents 1
    releasedBytes := add64 stats.releasedBytes event.bytes
    lastRequestedDeadlineNs := event.deadlineNs
    lastActualReleaseNs := nowNs
    lastLatenessNs := lateness
    maxLatenessNs := if lateness > stats.maxLatenessNs then lateness else stats.maxLatenessNs
    heapCurrent := heapLen }

/-- The root has left and is counted, before the timer is synchronised. -/
def release (pacer : Pacer) (event : PacerEvent) (nowNs : Nat) : Pacer :=
  let heap := removeRoot pacer.heap
  { pacer with heap := heap, stats := noteReleased pacer.stats event nowNs heap.size }

/-- `none` reports that nothing is due. -/
def popDue (pacer : Pacer) (nowNs : Nat) (env : PacerEnv) :
    Except PacerError (Option PacerEvent) × Pacer :=
  match root pacer with
  | none => (.ok none, pacer)
  | some event =>
      if event.deadlineNs > nowNs then (.ok none, pacer)
      else
        match syncTimer (release pacer event nowNs) env with
        | (true, synced) => (.ok (some event), synced)
        | (false, unsynced) => (.error .timer, unsynced)

/-- `none` is the empty read of a nonblocking descriptor. -/
def consumeTimer (pacer : Pacer) : Option Nat × Pacer :=
  match pacer.timer.read with
  | (none, _) => (none, pacer)
  | (some value, timer) =>
      (some value, { pacer with
        timer := timer
        stats := { pacer.stats with
          timerExpirations := add64 pacer.stats.timerExpirations value } })

end Pacer

end TcpShift
