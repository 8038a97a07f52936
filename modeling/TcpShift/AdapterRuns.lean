import TcpShift.Lib.Run
import TcpShift.ControllerErrors

set_option autoImplicit false

/- Runs of the adapter: whatever the transport delivers, the controller stays bound as
long as CUBIC has an RTT when congestion avoidance needs one. -/
namespace TcpShift

open Word

/-- What the transport can deliver to the hooks of one connection. -/
inductive AdapterEvent where
  | segmentTx (clock : Nat) (allocated : Bool) (sent : Delivery.Transmission)
  | segmentAcked (segment payloadBytes : Nat)
  | ack (clock : Nat) (pcb : Pcb) (ackedBytes : Nat)
  | ackObserve (clock : Nat) (pcb : Pcb) (ackedBytes : Nat)
  | sack (clock : Nat) (ranges : List Delivery.SackRange)
  | prr (clock cwnd : Nat)
  | loss (pcb : Pcb) (lostBytes : Nat)
  | ecn (pcb : Pcb)
  | timeout (pcb : Pcb)
  | appLimited (pcb : Pcb) (unsentEmpty : Bool) (sndbuf : Nat)
  | repace (clock rate nextSendNs : Nat) (scheduled : Bool)
deriving DecidableEq, Repr

namespace CcAdapter

/-- The readings of the clock are nonzero and never fall. -/
def clockReads (adapter : CcAdapter) (clock : Nat) : Bool :=
  clock ≠ 0 ∧ adapter.delivery.lastClockReadNs ≤ clock

/-- One event at a fixed segment size; `none` is an event the transport cannot deliver. -/
def step (windowScaling : Bool) (mss : Nat) (adapter : CcAdapter) :
    AdapterEvent → Option CcAdapter
  | .segmentTx clock allocated sent =>
      if adapter.clockReads clock then
        some { adapter with
          delivery := Delivery.onSegmentTx allocated adapter.delivery clock sent }
      else none
  | .segmentAcked segment payloadBytes =>
      some { adapter with
        delivery := Delivery.onSegmentAcked adapter.delivery segment payloadBytes }
  | .ack clock pcb ackedBytes =>
      if adapter.clockReads clock ∧ pcb.mss = mss ∧ ackedBytes ≠ 0 then
        some (onAck windowScaling adapter clock pcb ackedBytes)
      else none
  | .ackObserve clock pcb ackedBytes =>
      if adapter.clockReads clock ∧ pcb.mss = mss ∧ ackedBytes ≠ 0 then
        some (onAckObserve adapter clock pcb ackedBytes)
      else none
  | .sack clock ranges =>
      if adapter.clockReads clock then some (onSack adapter clock ranges) else none
  | .prr clock cwnd =>
      if adapter.clockReads clock ∧ 0 < cwnd ∧ cwnd ≤ cwndLimit windowScaling then
        some (prrWindow adapter clock cwnd)
      else none
  | .loss pcb lostBytes =>
      if pcb.mss = mss ∧ lostBytes ≠ 0 then some (onLoss windowScaling adapter pcb lostBytes)
      else none
  | .ecn pcb => if pcb.mss = mss then some (onEcn windowScaling adapter pcb) else none
  | .timeout pcb => if pcb.mss = mss then some (onTimeout windowScaling adapter pcb) else none
  | .appLimited pcb unsentEmpty sndbuf =>
      if pcb.mss = mss then some (markAppLimited adapter pcb unsentEmpty sndbuf) else none
  | .repace clock rate nextSendNs scheduled =>
      if adapter.clockReads clock then some (repace adapter clock rate nextSendNs scheduled)
      else none

/-- A CUBIC ACK finds an RTT, old or just sampled, or does not need one: it is application
limited or still in slow start. -/
def RttAvailable (adapter : CcAdapter) : AdapterEvent → Prop
  | .ack clock pcb _ =>
      match adapter.controller with
      | .reno _ => True
      | .cubic model =>
          let sample := (Delivery.buildRateSample pcb.lastack adapter.delivery clock).2.1
          adapter.srtt.smoothedRttNs ≠ 0 ∨ (sample.rttValid = true ∧ sample.rttNs ≠ 0) ∨
            sample.appLimited = true ∨ Cubic.hystartIsSlowStart model = true
  | _ => True

/-- What holds of every bound adapter. -/
structure Live (init : CcInit) (transport : Transport) (adapter : CcAdapter) : Prop where
  bound : adapter.bound = true
  controller : ∃ policy, Bound.ControllerSound init transport policy adapter.controller
  ordered : adapter.controller.lastAckTime ≤ adapter.delivery.lastClockReadNs
  sampled : adapter.srtt.samples ≠ 0 → adapter.srtt.smoothedRttNs ≠ 0

end CcAdapter

theorem srttUpdate_some {srtt : Srtt} {sampleRttNs : Nat} (positive : sampleRttNs ≠ 0)
    (sampled : srtt.samples ≠ 0 → srtt.smoothedRttNs ≠ 0) :
    ∃ updated, srttUpdate srtt sampleRttNs = some updated ∧ updated.smoothedRttNs ≠ 0 := by
  unfold srttUpdate
  rw [if_neg positive]
  refine ⟨_, rfl, ?_⟩
  simp only
  split
  · exact positive
  · rename_i started
    have before := sampled started
    split_ifs <;> omega

namespace TransportPacing

theorem scalePercent_ne_zero {value percent : Nat} (positive : value ≠ 0)
    (scaled : percent ≠ 0) : scalePercent value percent ≠ 0 := by
  unfold scalePercent
  rw [if_neg (by omega)]
  simp only
  split <;> omega

theorem baseRate_ne_zero {windowBytes : Nat} (smoothedRttNs : Nat) (positive : windowBytes ≠ 0)
    (range : windowBytes < 2 ^ 32) : baseRate windowBytes smoothedRttNs ≠ 0 := by
  unfold baseRate
  split
  · simp only
    split <;> omega
  · rw [mul64_of_lt (by omega)]
    omega

/-- A nonempty window has a nonzero rate. -/
theorem windowRate_ne_zero (transport : Transport) {policy : Policy} (smoothedRttNs : Nat)
    (positive : policy.cwndBytes ≠ 0) (range : policy.cwndBytes < 2 ^ 32) :
    windowRate transport policy smoothedRttNs ≠ 0 := by
  have flight := transport.inU32.2.1
  unfold windowRate
  simp only
  generalize window : (if transport.inflightBytes > policy.cwndBytes
    then transport.inflightBytes else policy.cwndBytes) = windowBytes
  have bounds : windowBytes ≠ 0 ∧ windowBytes < 2 ^ 32 := by
    rw [← window]
    split <;> omega
  rw [if_neg bounds.1]
  apply scalePercent_ne_zero (baseRate_ne_zero smoothedRttNs bounds.1 bounds.2)
  unfold ssPercent caPercent
  split <;> omega

end TransportPacing

namespace CcAdapter

variable {init : CcInit} {transport : Transport} {adapter : CcAdapter}

theorem setCubicPacing_lastAckTime (controller : LossController) (active : Bool) :
    (controller.setCubicPacing active).lastAckTime = controller.lastAckTime := by
  cases controller <;> rfl

/-- The fallback rate keeps the windows of an admissible policy. -/
theorem applyWindowFallback_paces {policy : Policy} (smoothedRttNs : Nat)
    (admissible : Admissible init transport policy) (positive : 0 < transport.mssBytes)
    (fitting : transport.mssBytes ≤ transport.cwndLimitBytes) :
    (TransportPacing.applyWindowFallback transport smoothedRttNs policy).pacingRateBytesPerSec ≠ 0
      ∧ Admissible init transport
        (TransportPacing.applyWindowFallback transport smoothedRttNs policy) := by
  have lower := admissible.lower
  have upper := admissible.upper
  have range := transport.inU32.2.2.2
  unfold effectiveMinimum at lower
  unfold TransportPacing.applyWindowFallback
  split
  · rename_i owned
    exact ⟨owned, admissible⟩
  · have rate := TransportPacing.windowRate_ne_zero transport smoothedRttNs
      (by omega : policy.cwndBytes ≠ 0) (by omega)
    exact ⟨rate, { admissible with }⟩

theorem applyTransportPacing_some {policy : Policy} (adapter : CcAdapter)
    (controller : LossController) (admissible : Admissible init transport policy)
    (positive : 0 < transport.mssBytes)
    (fitting : transport.mssBytes ≤ transport.cwndLimitBytes) :
    ∃ paced active, applyTransportPacing adapter controller transport policy =
        (some paced, controller.setCubicPacing active) ∧
      Admissible init transport paced := by
  obtain ⟨rate, paced⟩ := applyWindowFallback_paces adapter.srtt.smoothedRttNs admissible
    positive fitting
  unfold applyTransportPacing
  split
  · exact ⟨policy, false, rfl, admissible⟩
  · simp only
    rw [if_neg rate]
    exact ⟨_, true, rfl, paced⟩

/-- The controller as it is left by a handled event, paced or not. -/
theorem callController_some {event : CcEvent} {published : Policy} {next : LossController}
    (handled : adapter.controller.handle event = (some published, next))
    (admissible : Admissible init event.transport published)
    (accepted : event.accepted = true) :
    ∃ policy last, callController adapter event = (some policy, last) ∧
      Admissible init event.transport policy ∧
      (last = next ∨ ∃ active, last = next.setCubicPacing active) := by
  obtain ⟨positive, fitting⟩ := CcEvent.accepted_valid accepted
  unfold callController
  rw [handled]
  simp only
  split
  · obtain ⟨paced, active, applied, inside⟩ :=
      applyTransportPacing_some adapter next admissible positive fitting
    exact ⟨paced, _, applied, inside, .inr ⟨active, rfl⟩⟩
  · exact ⟨published, next, rfl, admissible, .inl rfl⟩

/-- An event the controller refuses unbinds it; any other keeps the adapter live. -/
theorem deliver_spec (event : CcEvent) (live : Live init transport adapter)
    (segment : event.transport.mssBytes = transport.mssBytes)
    (limit : event.transport.cwndLimitBytes = transport.cwndLimitBytes)
    (accepted : event.accepted = true)
    (timely : event.Timely adapter.controller.lastAckTime adapter.delivery.lastClockReadNs) :
    (adapter.controller.Refuses event ∧ (deliver adapter event).bound = false) ∨
      (¬adapter.controller.Refuses event ∧ Live init transport (deliver adapter event)) := by
  obtain ⟨policy, sound⟩ := live.controller
  have here := LossController.sound_resized segment limit sound
  rcases LossController.answers here accepted timely with
    ⟨refuses, failed⟩ | ⟨handles, published, next, handled, ordered⟩
  · left
    refine ⟨refuses, ?_⟩
    unfold deliver callController
    cases result : adapter.controller.handle event with
    | mk outcome next =>
        rw [result] at failed
        simp only at failed
        rw [failed]
        rfl
  · right
    refine ⟨handles, ?_⟩
    obtain ⟨_, admissible, nextSound⟩ := here.handled rfl handled
    obtain ⟨final, last, called, inside, same⟩ :=
      callController_some handled admissible accepted
    have lastSound : Bound.ControllerSound init event.transport published last := by
      rcases same with rfl | ⟨active, rfl⟩
      · exact nextSound
      · exact (nextSound.switched active).1
    have lastOrdered : last.lastAckTime ≤ adapter.delivery.lastClockReadNs := by
      rcases same with rfl | ⟨active, rfl⟩
      · exact ordered
      · rw [setCubicPacing_lastAckTime]
        exact ordered
    obtain ⟨written, applied⟩ := Option.ne_none_iff_exists'.mp
      (inside.applied (CcEvent.accepted_valid accepted).1 adapter.published)
    unfold deliver
    rw [called]
    simp only
    rw [applied]
    exact
      { bound := live.bound
        controller :=
          ⟨published, LossController.sound_resized segment.symm limit.symm lastSound⟩
        ordered := lastOrdered
        sampled := live.sampled }

/-- Congestion signals are never refused. -/
theorem deliver_signal (event : CcEvent) (live : Live init transport adapter)
    (segment : event.transport.mssBytes = transport.mssBytes)
    (limit : event.transport.cwndLimitBytes = transport.cwndLimitBytes)
    (accepted : event.accepted = true) (signal : ∀ transport ack, event ≠ .ack transport ack) :
    Live init transport (deliver adapter event) := by
  have timely : event.Timely adapter.controller.lastAckTime adapter.delivery.lastClockReadNs := by
    cases event with
    | ack transport ack => exact absurd rfl (signal transport ack)
    | loss => exact live.ordered
    | ecn => exact live.ordered
    | timeout => exact live.ordered
  rcases deliver_spec event live segment limit accepted timely with ⟨refuses, _⟩ | ⟨_, stays⟩
  · exact absurd refuses (LossController.not_refuses_signal _ signal)
  · exact stays

theorem finalizeRateSample_clock (delivery : Delivery) (pass : Delivery.Pass) (clock : Nat) :
    (Delivery.finalizeRateSample delivery pass clock).2.lastClockReadNs =
      delivery.lastClockReadNs := by
  unfold Delivery.finalizeRateSample
  simp only
  split
  · rfl
  · split <;> rfl

theorem buildSample_clock (target : Entry → Nat) (delivery : Delivery) (clock : Nat) :
    (Delivery.buildSample target delivery clock).2.2.lastClockReadNs = clock := by
  unfold Delivery.buildSample
  simp only
  split
  · rfl
  · exact finalizeRateSample_clock _ _ _

/-- What the sampling of an ACK hands to the controller and leaves in the adapter. -/
structure Prepared (init : CcInit) (transport : Transport) (adapter : CcAdapter)
    (clock lastack ackedBytes : Nat) (ack : Ack) (prepared : CcAdapter) : Prop where
  live : Live init transport prepared
  controller : prepared.controller = adapter.controller
  reading : prepared.delivery.lastClockReadNs = clock
  acked : ack.ackedBytes = ackedBytes
  time : ack.ackTimeNs = clock
  rate : ack.rate = (Delivery.buildRateSample lastack adapter.delivery clock).2.1
  unsampled : ack.smoothedRttNs = 0 ↔ adapter.srtt.smoothedRttNs = 0 ∧
    ¬(ack.rate.rttValid = true ∧ ack.rate.rttNs ≠ 0)

theorem prepareAck_prepared {clock ackedBytes : Nat} (live : Live init transport adapter)
    (reads : adapter.clockReads clock = true) (acked : ackedBytes ≠ 0) (lastack : Nat) :
    ∃ ack prepared, prepareAck adapter clock lastack ackedBytes = (some ack, prepared) ∧
      Prepared init transport adapter clock lastack ackedBytes ack prepared := by
  have reading : (Delivery.buildRateSample lastack adapter.delivery clock).2.2.lastClockReadNs =
      clock := buildSample_clock _ adapter.delivery clock
  have ordered : adapter.controller.lastAckTime ≤ clock :=
    Nat.le_trans live.ordered (of_decide_eq_true reads).2
  have skipped : ¬(adapter.bound = false ∨ ackedBytes = 0) := by
    rw [live.bound]
    simpa using acked
  unfold prepareAck
  rw [if_neg skipped]
  cases built : Delivery.buildRateSample lastack adapter.delivery clock with
  | mk newlyDelivered rest =>
      obtain ⟨sample, delivery⟩ := rest
      rw [built] at reading
      simp only at reading ⊢
      split
      · rename_i timed
        obtain ⟨updated, updates, positive⟩ := srttUpdate_some timed.2 live.sampled
        rw [updates]
        refine ⟨_, _, rfl, ?_⟩
        exact
          { live :=
              { bound := live.bound
                controller := live.controller
                ordered := ordered.trans reading.ge
                sampled := fun _ => positive }
            controller := rfl
            reading := reading
            acked := rfl
            time := reading
            rate := by rw [built]
            unsampled := iff_of_false positive (fun untimed => untimed.2 timed) }
      · rename_i untimed
        refine ⟨_, _, rfl, ?_⟩
        exact
          { live :=
              { bound := live.bound
                controller := live.controller
                ordered := ordered.trans reading.ge
                sampled := live.sampled }
            controller := rfl
            reading := reading
            acked := rfl
            time := reading
            rate := by rw [built]
            unsampled := ⟨fun zero => ⟨zero, untimed⟩, And.left⟩ }

theorem accepted_of_sizes {windowScaling : Bool} {pcb : Pcb}
    (segment : pcb.mss = transport.mssBytes)
    (limit : cwndLimit windowScaling = transport.cwndLimitBytes)
    (positive : 0 < transport.mssBytes)
    (fitting : transport.mssBytes ≤ transport.cwndLimitBytes) :
    validTransport (transportFromPcb windowScaling pcb) = true := by
  rw [validTransport_iff]
  change 0 < pcb.mss ∧ pcb.mss ≤ cwndLimit windowScaling
  omega

section Steps

variable {windowScaling : Bool} {pcb : Pcb} (segment : pcb.mss = transport.mssBytes)
  (limit : cwndLimit windowScaling = transport.cwndLimitBytes) (positive : 0 < transport.mssBytes)
  (fitting : transport.mssBytes ≤ transport.cwndLimitBytes) (live : Live init transport adapter)

include segment limit positive fitting live

/-- The ACK hook unbinds the controller exactly when no RTT is available. -/
theorem onAck_spec {clock ackedBytes : Nat} (reads : adapter.clockReads clock = true)
    (acked : ackedBytes ≠ 0) :
    (¬RttAvailable adapter (.ack clock pcb ackedBytes) ∧
        (onAck windowScaling adapter clock pcb ackedBytes).bound = false) ∨
      (RttAvailable adapter (.ack clock pcb ackedBytes) ∧
        Live init transport (onAck windowScaling adapter clock pcb ackedBytes)) := by
  obtain ⟨ack, prepared, done, facts⟩ := prepareAck_prepared live reads acked pcb.lastack
  have valid := accepted_of_sizes segment limit positive fitting
  have accepted : (CcEvent.ack (transportFromPcb windowScaling pcb) ack).accepted = true := by
    rw [CcEvent.accepted, facts.acked]
    exact decide_eq_true ⟨valid, acked⟩
  have ordered := facts.live.ordered
  have timely : (CcEvent.ack (transportFromPcb windowScaling pcb) ack).Timely
      prepared.controller.lastAckTime prepared.delivery.lastClockReadNs := by
    refine ⟨?_, ?_, ordered⟩
    · rw [facts.time, facts.reading]
    · rw [facts.reading]
      exact (of_decide_eq_true reads).1
  have refusal : prepared.controller.Refuses (.ack (transportFromPcb windowScaling pcb) ack) ↔
      ¬RttAvailable adapter (.ack clock pcb ackedBytes) := by
    rw [facts.controller]
    unfold RttAvailable
    cases adapter.controller with
    | reno state => simp [LossController.Refuses]
    | cubic model =>
        simp only [LossController.Refuses, facts.unsampled, facts.rate, ne_eq]
        grind
  unfold onAck
  rw [done]
  rcases deliver_spec (.ack (transportFromPcb windowScaling pcb) ack) facts.live segment limit
    accepted timely with
    ⟨refuses, unbound⟩ | ⟨handles, stays⟩
  · exact .inl ⟨refusal.mp refuses, unbound⟩
  · exact .inr ⟨not_not.mp (fun missing => handles (refusal.mpr missing)), stays⟩

theorem onLoss_live {lostBytes : Nat} (lost : lostBytes ≠ 0) :
    Live init transport (onLoss windowScaling adapter pcb lostBytes) := by
  have valid := accepted_of_sizes segment limit positive fitting
  unfold onLoss
  rw [if_neg (by rw [live.bound]; simpa using lost)]
  exact deliver_signal _ live segment limit (decide_eq_true ⟨valid, lost⟩) (by simp)

theorem onEcn_live : Live init transport (onEcn windowScaling adapter pcb) := by
  have valid := accepted_of_sizes segment limit positive fitting
  unfold onEcn
  rw [if_neg (by simp [live.bound])]
  exact deliver_signal _ live segment limit valid (by simp)

theorem onTimeout_live : Live init transport (onTimeout windowScaling adapter pcb) := by
  have valid := accepted_of_sizes segment limit positive fitting
  unfold onTimeout
  rw [if_neg (by simp [live.bound])]
  exact deliver_signal _ live segment limit valid (by simp)

end Steps

theorem onSegmentTx_clock (allocated : Bool) (delivery : Delivery) {clock : Nat}
    (sent : Delivery.Transmission) (ordered : delivery.lastClockReadNs ≤ clock) :
    delivery.lastClockReadNs ≤
      (Delivery.onSegmentTx allocated delivery clock sent).lastClockReadNs := by
  have started : (Delivery.startFlight (Delivery.nowNs delivery clock) sent.startOfFlight
      clock).lastClockReadNs = clock := by
    unfold Delivery.startFlight
    split <;> rfl
  unfold Delivery.onSegmentTx
  split
  · exact Nat.le_refl _
  · split
    · exact ordered
    · simp only
      generalize Delivery.startFlight (Delivery.nowNs delivery clock) sent.startOfFlight
        clock = flight at started ⊢
      rw [← started] at ordered
      split
      · exact ordered
      · split <;> exact ordered

theorem markAppLimited_live {pcb : Pcb} {unsentEmpty : Bool} {sndbuf : Nat}
    (live : Live init transport adapter) :
    Live init transport (markAppLimited adapter pcb unsentEmpty sndbuf) := by
  unfold markAppLimited
  simp only
  split_ifs <;> first | exact live | exact { live with }

theorem onSack_live {clock : Nat} (ranges : List Delivery.SackRange)
    (live : Live init transport adapter) (reads : adapter.clockReads clock = true) :
    Live init transport (onSack adapter clock ranges) := by
  have reading : (Delivery.buildSackRateSample ranges adapter.delivery clock).2.2.lastClockReadNs =
      clock := buildSample_clock _ adapter.delivery clock
  have ordered : adapter.controller.lastAckTime ≤ clock :=
    Nat.le_trans live.ordered (of_decide_eq_true reads).2
  unfold onSack
  split
  · exact live
  · cases built : Delivery.buildSackRateSample ranges adapter.delivery clock with
    | mk newlyDelivered rest =>
        obtain ⟨sample, delivery⟩ := rest
        rw [built] at reading
        rw [← reading] at ordered
        simp only
        split
        · rename_i timed
          obtain ⟨updated, updates, positive⟩ := srttUpdate_some timed.2.2 live.sampled
          rw [updates]
          exact { live with ordered := ordered, sampled := fun _ => positive }
        · exact { live with ordered := ordered }

theorem prrWindow_live {clock : Nat} (cwnd : Nat) (live : Live init transport adapter)
    (reads : adapter.clockReads clock = true) :
    Live init transport (prrWindow adapter clock cwnd) :=
  { live with ordered := Nat.le_trans live.ordered (of_decide_eq_true reads).2 }

theorem repace_live {clock rate nextSendNs : Nat} {scheduled : Bool}
    (live : Live init transport adapter) (reads : adapter.clockReads clock = true) :
    Live init transport (repace adapter clock rate nextSendNs scheduled) := by
  have ordered : adapter.controller.lastAckTime ≤ clock :=
    Nat.le_trans live.ordered (of_decide_eq_true reads).2
  obtain ⟨policy, sound⟩ := live.controller
  unfold repace
  constructor
  · exact live.bound
  · refine ⟨policy, ?_⟩
    simp only
    split
    · exact (sound.switched false).1
    · exact sound
  · simp only
    split
    · rw [setCubicPacing_lastAckTime]
      exact ordered
    · exact ordered
  · exact live.sampled

/-- One event of the transport keeps a live adapter live or, without an RTT, unbinds it. -/
theorem step_spec {windowScaling : Bool} {next : CcAdapter} {event : AdapterEvent}
    (limit : cwndLimit windowScaling = transport.cwndLimitBytes)
    (positive : 0 < transport.mssBytes)
    (fitting : transport.mssBytes ≤ transport.cwndLimitBytes)
    (live : Live init transport adapter)
    (stepped : step windowScaling transport.mssBytes adapter event = some next) :
    (¬RttAvailable adapter event ∧ next.bound = false) ∨
      (RttAvailable adapter event ∧ Live init transport next) := by
  cases event with
  | segmentTx clock allocated sent =>
      simp only [step, Option.ite_none_right_eq_some, Option.some.injEq] at stepped
      obtain ⟨reads, rfl⟩ := stepped
      have later := onSegmentTx_clock allocated adapter.delivery sent (of_decide_eq_true reads).2
      exact .inr ⟨trivial, { live with ordered := Nat.le_trans live.ordered later }⟩
  | segmentAcked segment payloadBytes =>
      simp only [step, Option.some.injEq] at stepped
      subst stepped
      refine .inr ⟨trivial, { live with ordered := ?_ }⟩
      simp only [Delivery.onSegmentAcked]
      split <;> exact live.ordered
  | ack clock pcb ackedBytes =>
      simp only [step, Option.ite_none_right_eq_some, Option.some.injEq] at stepped
      obtain ⟨⟨reads, segment, acked⟩, rfl⟩ := stepped
      exact onAck_spec segment limit positive fitting live reads acked
  | ackObserve clock pcb ackedBytes =>
      simp only [step, Option.ite_none_right_eq_some, Option.some.injEq] at stepped
      obtain ⟨⟨reads, _, acked⟩, rfl⟩ := stepped
      obtain ⟨ack, prepared, done, facts⟩ := prepareAck_prepared live reads acked pcb.lastack
      refine .inr ⟨trivial, ?_⟩
      unfold onAckObserve
      rw [done]
      exact facts.live
  | sack clock ranges =>
      simp only [step, Option.ite_none_right_eq_some, Option.some.injEq] at stepped
      obtain ⟨reads, rfl⟩ := stepped
      exact .inr ⟨trivial, onSack_live ranges live reads⟩
  | prr clock cwnd =>
      simp only [step, Option.ite_none_right_eq_some, Option.some.injEq] at stepped
      obtain ⟨⟨reads, _⟩, rfl⟩ := stepped
      exact .inr ⟨trivial, prrWindow_live cwnd live reads⟩
  | loss pcb lostBytes =>
      simp only [step, Option.ite_none_right_eq_some, Option.some.injEq] at stepped
      obtain ⟨⟨segment, lost⟩, rfl⟩ := stepped
      exact .inr ⟨trivial, onLoss_live segment limit positive fitting live lost⟩
  | ecn pcb =>
      simp only [step, Option.ite_none_right_eq_some, Option.some.injEq] at stepped
      obtain ⟨segment, rfl⟩ := stepped
      exact .inr ⟨trivial, onEcn_live segment limit positive fitting live⟩
  | timeout pcb =>
      simp only [step, Option.ite_none_right_eq_some, Option.some.injEq] at stepped
      obtain ⟨segment, rfl⟩ := stepped
      exact .inr ⟨trivial, onTimeout_live segment limit positive fitting live⟩
  | appLimited pcb unsentEmpty sndbuf =>
      simp only [step, Option.ite_none_right_eq_some, Option.some.injEq] at stepped
      obtain ⟨_, rfl⟩ := stepped
      exact .inr ⟨trivial, markAppLimited_live live⟩
  | repace clock rate nextSendNs scheduled =>
      simp only [step, Option.ite_none_right_eq_some, Option.some.injEq] at stepped
      obtain ⟨reads, rfl⟩ := stepped
      exact .inr ⟨trivial, repace_live live reads⟩

theorem ccInit_lastAckTime {algorithm : LossAlgorithm} {controller : LossController}
    {policy : Policy}
    (done : LossController.ccInit algorithm transport init = some (controller, policy)) :
    controller.lastAckTime = 0 := by
  cases algorithm with
  | reno =>
      obtain ⟨_, _, same⟩ := Option.map_eq_some_iff.mp done
      rw [← (Prod.mk.inj same).1]
      rfl
  | cubic =>
      obtain ⟨⟨model, published⟩, initialised, same⟩ := Option.map_eq_some_iff.mp done
      rw [← (Prod.mk.inj same).1]
      unfold CcOps.ccInit at initialised
      split at initialised
      · obtain ⟨⟨first, initial⟩, created, last⟩ := Option.map_eq_some_iff.mp initialised
        unfold Cubic.modelInit at created
        split at created
        · contradiction
        · split at created
          · rename_i printed
            have fresh := Cubic.publish_lastAckTime printed
            rw [Option.some.injEq, Prod.mk.injEq] at created
            rw [created.1] at fresh
            rw [← (Prod.mk.inj last).1]
            exact fresh
          · contradiction
      · contradiction

/-- A bound connection starts live. -/
theorem bind_live {algorithm : LossAlgorithm} {registered : Bool} {clock : Nat}
    (started : bind algorithm registered transport init clock = some adapter) :
    0 < transport.mssBytes ∧ transport.mssBytes ≤ transport.cwndLimitBytes ∧
      Live init transport adapter := by
  unfold bind at started
  split at started
  · contradiction
  · rename_i controller policy initialised
    have begun : Bound.start algorithm transport init = some ⟨controller, policy, transport⟩ := by
      unfold Bound.start
      rw [initialised]
      rfl
    have sound := (Bound.start_sound begun).1
    have fresh := ccInit_lastAckTime initialised
    simp only at started
    obtain ⟨paced, active, applied, _⟩ :=
      applyTransportPacing_some _ controller sound.admissible sound.positive sound.fitting
    rw [applied] at started
    rw [← Option.some.inj started]
    refine ⟨sound.positive, sound.fitting, ?_⟩
    constructor
    · rfl
    · exact ⟨policy, (sound.controller.switched active).1⟩
    · rw [setCubicPacing_lastAckTime, fresh]
      exact Nat.zero_le _
    · intro sampled
      exact absurd rfl sampled

/-- Over every run of the transport's events the controller stays bound exactly when each
CUBIC ACK finds an RTT or does not need one. -/
theorem controller_stays_bound_iff (windowScaling registered : Bool) (algorithm : LossAlgorithm)
    (pcb : Pcb) (init : CcInit) (clock : Nat) (adapter : CcAdapter) (events : List AdapterEvent)
    (started : bind algorithm registered (transportFromPcb windowScaling pcb) init clock =
      some adapter) :
    Run.Along (fun state => state.bound = true) (step windowScaling pcb.mss) adapter events ↔
      Run.Meets RttAvailable (step windowScaling pcb.mss) adapter events := by
  obtain ⟨positive, fitting, live⟩ := bind_live started
  apply Run.along_iff_meets (Live init (transportFromPcb windowScaling pcb))
    (fun _ alive => alive.bound) _ live
  intro state event next alive stepped
  rcases step_spec rfl positive fitting alive stepped with ⟨missing, unbound⟩ | stays
  · exact .inl ⟨missing, by simp [unbound]⟩
  · exact .inr stays

/-- A connection at accept whose peer's window holds two segments. -/
def acceptedPcb : Pcb where
  mss := 1000
  sndNxt := 1000
  lastack := 1000
  sndWnd := 2000

def acceptedInit : CcInit where
  initialCwndBytes := 10000
  initialSsthreshBytes := 65535
  minCwndBytes := 1000

/-- The first two segments are lost and recovered by a timeout. -/
def recoveredByTimeout : List AdapterEvent :=
  [.segmentTx 100 true ⟨1, 1000, 1000, 0, true⟩,
    .segmentTx 101 true ⟨2, 2000, 1000, 1000, false⟩,
    .timeout ⟨1000, 3000, 1000, 2000, by decide⟩,
    .segmentTx 1000 true ⟨1, 1000, 1000, 0, true⟩,
    .ack 1100 ⟨1000, 3000, 2000, 2000, by decide⟩ 1000,
    .segmentAcked 1 1000,
    .segmentTx 1101 true ⟨2, 2000, 1000, 1000, false⟩,
    .ack 1200 ⟨1000, 3000, 3000, 2000, by decide⟩ 1000]

theorem controller_stays_bound_iff_recoveredByTimeout :
    ∃ adapter, bind .cubic true
        (transportFromPcb false acceptedPcb) acceptedInit 50 = some adapter ∧
      (Run.Along (fun state => state.bound = true) (step false 1000) adapter
          recoveredByTimeout ↔
        Run.Meets RttAvailable (step false 1000) adapter recoveredByTimeout) := by
  obtain ⟨adapter, started⟩ : ∃ adapter, bind .cubic true
      (transportFromPcb false acceptedPcb) acceptedInit 50 = some adapter :=
    Option.isSome_iff_exists.mp (by decide +kernel)
  exact ⟨adapter, started, controller_stays_bound_iff false true .cubic _ _ 50 adapter
    recoveredByTimeout started⟩

/-- Every segment sampled so far was retransmitted, so there is no RTT when the window
comes back to the threshold, and the ACK detaches CUBIC. -/
theorem controller_unbound_before_first_rtt :
    ∃ adapter, bind .cubic true
        (transportFromPcb false acceptedPcb) acceptedInit 50 = some adapter ∧
      ¬Run.Along (fun state => state.bound = true) (step false 1000) adapter
        recoveredByTimeout := by
  obtain ⟨final, ran⟩ : ∃ final, (bind .cubic true
      (transportFromPcb false acceptedPcb) acceptedInit 50).bind
        (fun adapter => (Run.run (step false 1000) adapter recoveredByTimeout).filter
          (fun last => last.bound = false)) = some final :=
    Option.isSome_iff_exists.mp (by decide +kernel)
  obtain ⟨adapter, started, continued⟩ := Option.bind_eq_some_iff.mp ran
  obtain ⟨reached, unbound⟩ := Option.filter_eq_some_iff.mp continued
  refine ⟨adapter, started, ?_⟩
  intro along
  have bound := along.final reached
  simp [bound] at unbound

end CcAdapter

end TcpShift
