import TcpShift.PacingWrapper

set_option autoImplicit false

/- A flow stays paced through every hook that runs under the wrapper. The loss of a tail-loss
probe can reach the controller from outside of it, and then the raw policy stops the pacing. -/
namespace TcpShift

open Word

/-- The call wrote the windows that the raw controller computes from the same state. -/
def ControllerCall.Exact (call : ControllerCall) : Prop :=
  ∃ policy next published, call.controller.handle call.event = (some policy, next) ∧
    call.published = some published ∧ published.cwnd = policy.cwndBytes ∧
    published.ssthresh = policy.ssthreshBytes

theorem ControllerCall.succeeds_iff {call : ControllerCall} :
    call.succeeds = true ↔ ∃ policy next, call.controller.handle call.event = (some policy, next) ∧
      policy.representable call.event.transport.cwndLimitBytes = true := by
  unfold ControllerCall.succeeds
  cases handled : call.controller.handle call.event with
  | mk answer next =>
      cases answer with
      | none => simp
      | some policy => simp

namespace SelectedAdapter

/-- Registered, with a rate, and all calls exact. -/
structure Pacing (algorithm : LossAlgorithm) (adapter : SelectedAdapter) : Prop where
  bound : adapter.bound = true
  registered : adapter.registered = true
  controller : adapter.controller.algorithm = algorithm
  rate : adapter.published.pacingRateBytesPerSec ≠ 0
  calls : ∀ call ∈ adapter.calls, call.Exact

/-- What holds between the hooks: the raw table and its state are in place. -/
structure Paced (algorithm : LossAlgorithm) (adapter : SelectedAdapter) : Prop
    extends Pacing algorithm adapter where
  ops : adapter.ops = .raw algorithm
  state : adapter.state = .builtin

/-- A pending release and the clock of the pacer are left alone. -/
structure SameClock (before after : SelectedAdapter) : Prop where
  pending : after.published.pacingScheduled = before.published.pacingScheduled
  clock : after.published.pacingNextSendNs = before.published.pacingNextSendNs

theorem SameClock.refl (adapter : SelectedAdapter) : SameClock adapter adapter := ⟨rfl, rfl⟩

theorem SameClock.trans {first second third : SelectedAdapter} (one : SameClock first second)
    (two : SameClock second third) : SameClock first third :=
  ⟨two.pending.trans one.pending, two.clock.trans one.clock⟩

def Succeeded (adapter : SelectedAdapter) : Prop := ∀ call ∈ adapter.calls, call.succeeds = true

section Calls

theorem handle_algorithm (controller : LossController) (event : CcEvent) :
    (controller.handle event).2.algorithm = controller.algorithm := by
  cases controller <;> rfl

theorem setCubicPacing_algorithm (controller : LossController) (active : Bool) :
    (controller.setCubicPacing active).algorithm = controller.algorithm := by
  cases controller <;> rfl

theorem handle_refused {controller : LossController} {event : CcEvent}
    (refused : event.accepted = false) : controller.handle event = (none, controller) := by
  cases controller with
  | reno state => simp [LossController.handle, CcOps.handle, refused]
  | cubic model => simp [LossController.handle, CcOps.handle, refused]

theorem accepted_of_handle {controller next : LossController} {event : CcEvent} {policy : Policy}
    (handled : controller.handle event = (some policy, next)) : event.accepted = true := by
  apply Bool.eq_true_of_not_eq_false
  intro refused
  rw [handle_refused refused] at handled
  cases handled

theorem applyPolicy_representable {limit : Nat} {policy : Policy} (published : Published)
    (representable : policy.representable limit = true) :
    ∃ written, applyPolicy limit published policy = some written ∧
      written.cwnd = policy.cwndBytes ∧ written.ssthresh = policy.ssthreshBytes ∧
      written.pacingRateBytesPerSec = policy.pacingRateBytesPerSec ∧
      (policy.pacingRateBytesPerSec ≠ 0 →
        written.pacingScheduled = published.pacingScheduled ∧
          written.pacingNextSendNs = published.pacingNextSendNs) := by
  simp only [Policy.representable, decide_eq_true_eq] at representable
  unfold applyPolicy
  rw [if_neg (by omega)]
  refine ⟨_, rfl, rfl, rfl, rfl, ?_⟩
  intro paced
  simp [paced]

/-- The wrapper always finds a rate for a window the transport can represent. -/
theorem applyTransportPacing_representable (adapter : CcAdapter) (controller : LossController)
    {transport : Transport} {policy : Policy} (registered : adapter.registered = true)
    (representable : policy.representable transport.cwndLimitBytes = true) :
    ∃ paced active, CcAdapter.applyTransportPacing adapter controller transport policy =
        (some paced, controller.setCubicPacing active) ∧
      paced.cwndBytes = policy.cwndBytes ∧ paced.ssthreshBytes = policy.ssthreshBytes ∧
      paced.pacingRateBytesPerSec ≠ 0 := by
  have range := transport.inU32.2.2.2
  simp only [Policy.representable, decide_eq_true_eq] at representable
  have windows : ∃ paced, TransportPacing.applyWindowFallback transport
        adapter.srtt.smoothedRttNs policy = paced ∧ paced.cwndBytes = policy.cwndBytes ∧
      paced.ssthreshBytes = policy.ssthreshBytes ∧ paced.pacingRateBytesPerSec ≠ 0 := by
    unfold TransportPacing.applyWindowFallback
    split
    · exact ⟨policy, rfl, rfl, rfl, ‹_›⟩
    · exact ⟨_, rfl, rfl, rfl, TransportPacing.windowRate_ne_zero transport _
        representable.1 (by omega)⟩
  obtain ⟨paced, same, cwnd, ssthresh, rate⟩ := windows
  unfold CcAdapter.applyTransportPacing
  rw [registered, if_neg Bool.noConfusion]
  simp only [same]
  rw [if_neg rate]
  exact ⟨paced, true, rfl, cwnd, ssthresh, rate⟩

variable {algorithm : LossAlgorithm} {adapter : SelectedAdapter}

theorem rawCall_eq (controller : algorithm = adapter.controller.algorithm) (event : CcEvent) :
    rawCall algorithm adapter.controller event = adapter.controller.handle event :=
  if_pos controller.symm

/-- A hook records its call and keeps the pointers of the controller object. -/
theorem deliver_frame (adapter : SelectedAdapter) (event : CcEvent) :
    (deliver adapter event).2.ops = adapter.ops ∧
      (deliver adapter event).2.state = adapter.state ∧
      ∃ published, (deliver adapter event).2.calls =
        ⟨adapter.controller, event, published⟩ :: adapter.calls := by
  unfold deliver
  simp only
  split
  · exact ⟨rfl, rfl, none, rfl⟩
  · exact ⟨rfl, rfl, _, rfl⟩

/-- Under the wrapper a call that the raw controller answers is published with a rate. -/
theorem deliver_paced {event : CcEvent} (ops : adapter.ops = .paced algorithm)
    (state : adapter.state = .adapter) (pacing : Pacing algorithm adapter)
    (succeeded : Succeeded (deliver adapter event).2) :
    (deliver adapter event).1 = true ∧ Pacing algorithm (deliver adapter event).2 ∧
      SameClock adapter (deliver adapter event).2 := by
  obtain ⟨_, _, recorded, calls⟩ := deliver_frame adapter event
  have first := succeeded ⟨adapter.controller, event, recorded⟩ (by rw [calls]; simp)
  obtain ⟨policy, next, handled, representable⟩ := ControllerCall.succeeds_iff.mp first
  obtain ⟨paced, active, applied, cwnd, ssthresh, rate⟩ :=
    applyTransportPacing_representable adapter.toCcAdapter next pacing.registered
      representable
  have fits : paced.representable event.transport.cwndLimitBytes = true := by
    unfold Policy.representable at representable ⊢
    rw [cwnd, ssthresh]
    exact representable
  obtain ⟨written, writes, writtenCwnd, writtenSsthresh, writtenRate, untouched⟩ :=
    applyPolicy_representable adapter.published fits
  have called : ccCall adapter event = (some paced, next.setCubicPacing active) := by
    unfold ccCall
    rw [if_neg (by simp [accepted_of_handle handled]), ops, state]
    simp only [pacedCall]
    rw [rawCall_eq pacing.controller.symm, handled]
    exact applied
  have done : deliver adapter event = (true,
      { adapter with
        toCcAdapter := { adapter.toCcAdapter with
          controller := next.setCubicPacing active, published := written }
        calls := ⟨adapter.controller, event, some written⟩ :: adapter.calls }) := by
    unfold deliver
    rw [called]
    simp only [Option.bind_some, writes]
  rw [done]
  have same : next.algorithm = adapter.controller.algorithm := by
    rw [← handle_algorithm adapter.controller event, handled]
  refine ⟨rfl, ⟨pacing.bound, pacing.registered, ?_, ?_, ?_⟩,
    (untouched rate).1, (untouched rate).2⟩
  · rw [setCubicPacing_algorithm, same]
    exact pacing.controller
  · rw [writtenRate]
    exact rate
  · refine List.forall_mem_cons.mpr ⟨⟨policy, next, written, handled, rfl, ?_, ?_⟩, pacing.calls⟩
    · rw [writtenCwnd, cwnd]
    · rw [writtenSsthresh, ssthresh]

end Calls

/-- What a hook under the wrapper does: it keeps the two pointers, only adds calls, and while
these succeed it keeps the flow paced and the pacer's clock alone. -/
structure Kept (algorithm : LossAlgorithm) (before after : SelectedAdapter) : Prop where
  ops : after.ops = before.ops
  state : after.state = before.state
  calls : before.calls <:+ after.calls
  paced : Pacing algorithm before → Succeeded after →
    Pacing algorithm after ∧ SameClock before after

/-- The adapter with another ledger, smoothed RTT and probe. -/
def resampled (adapter : SelectedAdapter) (delivery : Delivery) (srtt : Srtt) (rack : RackTlp) :
    SelectedAdapter :=
  { adapter with
    toCcAdapter := { adapter.toCcAdapter with delivery := delivery, srtt := srtt }
    rack := rack }

namespace Kept

variable {algorithm : LossAlgorithm} {first second third : SelectedAdapter}

theorem sampled (adapter : SelectedAdapter) (delivery : Delivery) (srtt : Srtt) (rack : RackTlp) :
    Kept algorithm adapter (adapter.resampled delivery srtt rack) :=
  ⟨rfl, rfl, List.suffix_refl _, fun pacing _ =>
    ⟨⟨pacing.bound, pacing.registered, pacing.controller, pacing.rate, pacing.calls⟩, rfl, rfl⟩⟩

theorem refl (adapter : SelectedAdapter) : Kept algorithm adapter adapter :=
  sampled adapter adapter.delivery adapter.srtt adapter.rack

theorem trans (one : Kept algorithm first second) (two : Kept algorithm second third) :
    Kept algorithm first third := by
  refine ⟨two.ops.trans one.ops, two.state.trans one.state, one.calls.trans two.calls, ?_⟩
  intro pacing succeeded
  have earlier : Succeeded second := fun call member => succeeded call (two.calls.subset member)
  obtain ⟨middle, sameFirst⟩ := one.paced pacing earlier
  obtain ⟨last, sameLast⟩ := two.paced middle succeeded
  exact ⟨last, sameFirst.trans sameLast⟩

end Kept

section Hooks

variable {algorithm : LossAlgorithm} {adapter : SelectedAdapter}

/-- The wrapper's table and the wrapper's state pointer. -/
structure Swapped (algorithm : LossAlgorithm) (adapter : SelectedAdapter) : Prop where
  ops : adapter.ops = .paced algorithm
  state : adapter.state = .adapter

theorem deliver_kept (swapped : Swapped algorithm adapter) (event : CcEvent) :
    Kept algorithm adapter (deliver adapter event).2 := by
  obtain ⟨ops, state, recorded, calls⟩ := deliver_frame adapter event
  refine ⟨ops, state, ?_, ?_⟩
  · rw [calls]
    exact List.suffix_cons _ _
  · intro pacing succeeded
    exact (deliver_paced swapped.ops swapped.state pacing succeeded).2

theorem srttUpdate_ne_none (srtt : Srtt) {sampleRttNs : Nat} (positive : sampleRttNs ≠ 0) :
    ∃ updated, srttUpdate srtt sampleRttNs = some updated := by
  unfold srttUpdate
  rw [if_neg positive]
  exact ⟨_, rfl⟩

/-- The sample of an ACK writes the ledger and the smoothed RTT only. -/
theorem prepareAck_sampled (cc : CcAdapter) (clock lastack ackedBytes : Nat) :
    ∃ delivery srtt, (CcAdapter.prepareAck cc clock lastack ackedBytes).2 =
      { cc with delivery := delivery, srtt := srtt } := by
  unfold CcAdapter.prepareAck
  split
  · exact ⟨cc.delivery, cc.srtt, rfl⟩
  · simp only
    split
    · rename_i timed
      obtain ⟨updated, updates⟩ := srttUpdate_ne_none cc.srtt timed.2
      rw [updates]
      exact ⟨_, _, rfl⟩
    · exact ⟨_, cc.srtt, rfl⟩

theorem prepareAck_eq_none (cc : CcAdapter) (clock lastack ackedBytes : Nat) :
    (CcAdapter.prepareAck cc clock lastack ackedBytes).1 = none ↔
      cc.bound = false ∨ ackedBytes = 0 := by
  unfold CcAdapter.prepareAck
  split
  · exact iff_of_true rfl ‹_›
  · refine iff_of_false ?_ ‹_›
    simp only
    split
    · rename_i timed
      obtain ⟨updated, updates⟩ := srttUpdate_ne_none cc.srtt timed.2
      rw [updates]
      exact Option.some_ne_none _
    · exact Option.some_ne_none _

theorem onSack_sampled (cc : CcAdapter) (clock : Nat) (ranges : List Delivery.SackRange) :
    ∃ delivery srtt, CcAdapter.onSack cc clock ranges =
      { cc with delivery := delivery, srtt := srtt } := by
  unfold CcAdapter.onSack
  split
  · exact ⟨cc.delivery, cc.srtt, rfl⟩
  · simp only
    split
    · rename_i timed
      obtain ⟨updated, updates⟩ := srttUpdate_ne_none cc.srtt timed.2.2
      rw [updates]
      exact ⟨_, _, rfl⟩
    · exact ⟨_, cc.srtt, rfl⟩

theorem markAppLimited_sampled (cc : CcAdapter) (pcb : Pcb) (unsentEmpty : Bool)
    (sndbuf : Nat) :
    ∃ delivery, CcAdapter.markAppLimited cc pcb unsentEmpty sndbuf =
      { cc with delivery := delivery } := by
  unfold CcAdapter.markAppLimited
  generalize (if cc.published.cwnd < pcb.sndWnd then cc.published.cwnd else pcb.sndWnd) = window
  simp only
  split
  · exact ⟨cc.delivery, rfl⟩
  · split
    · exact ⟨cc.delivery, rfl⟩
    · exact ⟨_, rfl⟩

/-- A loss hook behind its check of the arguments. -/
theorem signal_kept {refused : Prop} [Decidable refused] (swapped : Swapped algorithm adapter)
    (rack : RackTlp) (event : CcEvent) :
    Kept algorithm adapter
      (if refused then (false, adapter) else deliver { adapter with rack := rack } event).2 := by
  split
  · exact Kept.refl adapter
  · have probe : Kept algorithm adapter { adapter with rack := rack } :=
      Kept.sampled adapter adapter.delivery adapter.srtt rack
    have inside : Swapped algorithm { adapter with rack := rack } :=
      ⟨swapped.ops, swapped.state⟩
    exact probe.trans (deliver_kept inside event)

/-- The loss that a probe reports from inside a wrapped hook is a wrapped call. -/
theorem hookTlpLoss_paced {windowScaling : Bool} {pcb : Pcb} (swapped : Swapped algorithm adapter)
    (segment : pcb.mss ≠ 0) (pacing : Pacing algorithm adapter)
    (succeeded : Succeeded (hookTlpLoss windowScaling adapter pcb pcb.mss).2) :
    (hookTlpLoss windowScaling adapter pcb pcb.mss).1 = true := by
  unfold hookTlpLoss pacingOnTlpLoss onTlpLoss at succeeded ⊢
  rw [if_neg segment, if_neg (by simp [pacing.bound, segment])] at succeeded ⊢
  exact (deliver_paced swapped.ops swapped.state pacing succeeded).1

theorem hookTlpLoss_kept {windowScaling : Bool} {pcb : Pcb} (swapped : Swapped algorithm adapter)
    (lostBytes : Nat) :
    Kept algorithm adapter (hookTlpLoss windowScaling adapter pcb lostBytes).2 := by
  unfold hookTlpLoss pacingOnTlpLoss onTlpLoss
  split
  · exact Kept.refl adapter
  · exact signal_kept swapped adapter.rack _

/-- A retransmitted probe is out and the ACK is past its end. -/
def pastProbe (rack : RackTlp) (ackSeq : Seq) : Bool :=
  rack.tlpEndSeq ≠ 0 ∧ rack.tlpIsRetrans = true ∧ ackSeq.after rack.tlpEndSeq = true

/-- A time sample taken before does not change the answer. -/
theorem processAck_repairs_iff (rack : RackTlp) (ackSeq : Seq) (timed : Prop) [Decidable timed] :
    ((if timed then rack.noteRttSample else rack).processAck ackSeq false false).1 =
      .lossRepaired ↔ pastProbe rack ackSeq = true := by
  have same : ((if timed then rack.noteRttSample else rack).processAck ackSeq false false).1 =
      (rack.processAck ackSeq false false).1 := by
    split
    · unfold RackTlp.processAck
      simp only [apply_ite Prod.fst]
      rfl
    · rfl
  have reaches : ackSeq.after rack.tlpEndSeq = true → ackSeq.afterEq rack.tlpEndSeq = true :=
    fun after => decide_eq_true (Int.le_of_lt (of_decide_eq_true after))
  rw [same]
  unfold RackTlp.processAck pastProbe
  grind

/-- What the sample of an ACK can come to: there is nothing to take, or it is taken, and then
an ACK past a probe also reports a loss. -/
theorem prepareAck_cases (windowScaling : Bool) (adapter : SelectedAdapter) (clock : Nat)
    (pcb : Pcb) (ackedBytes : Nat) :
    ∃ delivery srtt rack,
      ((adapter.bound = false ∨ ackedBytes = 0) ∧
        prepareAck windowScaling adapter clock pcb ackedBytes =
          (none, adapter.resampled delivery srtt rack)) ∨
      (¬(adapter.bound = false ∨ ackedBytes = 0) ∧
        pastProbe adapter.rack (BitVec.ofNat 32 pcb.lastack) = false ∧
        ∃ ack, prepareAck windowScaling adapter clock pcb ackedBytes =
          (some ack, adapter.resampled delivery srtt rack)) ∨
      (¬(adapter.bound = false ∨ ackedBytes = 0) ∧
        pastProbe adapter.rack (BitVec.ofNat 32 pcb.lastack) = true ∧
        ∃ handled repaired, hookTlpLoss windowScaling (adapter.resampled delivery srtt rack) pcb
            pcb.mss = (handled, repaired) ∧
          (handled = true → ∃ ack, prepareAck windowScaling adapter clock pcb ackedBytes =
            (some ack, repaired)) ∧
          (handled = false → prepareAck windowScaling adapter clock pcb ackedBytes =
            (none, disableOnError repaired))) := by
  obtain ⟨delivery, srtt, sample⟩ :=
    prepareAck_sampled adapter.toCcAdapter clock pcb.lastack ackedBytes
  have refused := prepareAck_eq_none adapter.toCcAdapter clock pcb.lastack ackedBytes
  unfold prepareAck
  cases prepared : CcAdapter.prepareAck adapter.toCcAdapter clock pcb.lastack ackedBytes with
  | mk answer cc =>
      rw [prepared] at sample refused
      simp only at sample refused
      rw [sample]
      cases answer with
      | none => exact ⟨delivery, srtt, adapter.rack, .inl ⟨refused.mp rfl, rfl⟩⟩
      | some ack =>
          have taken : ¬(adapter.bound = false ∨ ackedBytes = 0) :=
            fun none => nomatch refused.mpr none
          have repairs := processAck_repairs_iff adapter.rack (BitVec.ofNat 32 pcb.lastack)
            (ack.rate.rttValid ∧ ack.rate.rttNs ≠ 0)
          simp only
          generalize (if ack.rate.rttValid ∧ ack.rate.rttNs ≠ 0 then adapter.rack.noteRttSample
            else adapter.rack).processAck (BitVec.ofNat 32 pcb.lastack) false false = answered
            at repairs
          refine ⟨delivery, srtt, answered.2, .inr ?_⟩
          by_cases past : pastProbe adapter.rack (BitVec.ofNat 32 pcb.lastack) = true
          · rw [if_pos (repairs.mpr past)]
            unfold resampled
            generalize hookTlpLoss windowScaling _ pcb pcb.mss = lost
            obtain ⟨handled, repaired⟩ := lost
            refine .inr ⟨taken, past, handled, repaired, rfl, ?_, ?_⟩
            · rintro rfl
              exact ⟨ack, rfl⟩
            · rintro rfl
              rfl
          · rw [if_neg (fun answer => past (repairs.mp answer))]
            exact .inl ⟨taken, Bool.eq_false_iff.mpr past, ack, rfl⟩

theorem prepareAck_kept {windowScaling : Bool} {clock ackedBytes : Nat} {pcb : Pcb}
    (swapped : Swapped algorithm adapter) (segment : pcb.mss ≠ 0) :
    Kept algorithm adapter (prepareAck windowScaling adapter clock pcb ackedBytes).2 := by
  obtain ⟨delivery, srtt, rack, ⟨_, none⟩ | ⟨_, _, _, taken⟩ | ⟨_, _, handled, repaired, lost,
    reported, failed⟩⟩ := prepareAck_cases windowScaling adapter clock pcb ackedBytes
  · rw [none]
    exact Kept.sampled adapter delivery srtt rack
  · rw [taken]
    exact Kept.sampled adapter delivery srtt rack
  · have acked := @Kept.sampled algorithm adapter delivery srtt rack
    have inside : Swapped algorithm (adapter.resampled delivery srtt rack) :=
      ⟨swapped.ops, swapped.state⟩
    have kept := @hookTlpLoss_kept _ _ windowScaling pcb inside pcb.mss
    have handles := @hookTlpLoss_paced _ _ windowScaling pcb inside segment
    rw [lost] at kept handles
    cases handled with
    | true =>
        obtain ⟨_, prepared⟩ := reported rfl
        rw [prepared]
        exact acked.trans kept
    | false =>
        -- A failed report unbinds the flow, but a call that succeeds is handled.
        rw [failed rfl]
        refine ⟨kept.ops.trans acked.ops, kept.state.trans acked.state,
          acked.calls.trans kept.calls, ?_⟩
        intro pacing succeeded
        have earlier := (acked.paced pacing
          (fun call member => succeeded call (kept.calls.subset member))).1
        exact absurd (handles earlier succeeded) Bool.noConfusion

theorem onAck_kept {windowScaling : Bool} {clock ackedBytes : Nat} {pcb : Pcb}
    (swapped : Swapped algorithm adapter) (segment : pcb.mss ≠ 0) :
    Kept algorithm adapter (onAck windowScaling adapter clock pcb ackedBytes).2 := by
  have kept := @prepareAck_kept _ _ windowScaling clock ackedBytes pcb swapped segment
  unfold onAck
  cases prepared : prepareAck windowScaling adapter clock pcb ackedBytes with
  | mk answer next =>
      rw [prepared] at kept
      cases answer with
      | none => exact kept
      | some ack =>
          have inside : Swapped algorithm next :=
            ⟨kept.ops.trans swapped.ops, kept.state.trans swapped.state⟩
          exact kept.trans (deliver_kept inside _)

/-- Behind a wrapped hook the raw table and its state are back. -/
theorem callPaced_kept {hook : SelectedAdapter → Bool × SelectedAdapter}
    (ops : adapter.ops = .raw algorithm)
    (kept : ∀ swapped, Swapped algorithm swapped → Kept algorithm swapped (hook swapped).2) :
    Kept algorithm adapter (callPaced hook adapter).2 := by
  have inside := kept { adapter with ops := .paced algorithm, state := .adapter } ⟨rfl, rfl⟩
  unfold callPaced
  rw [ops]
  refine ⟨ops.symm, rfl, inside.calls, ?_⟩
  intro pacing succeeded
  obtain ⟨after, same⟩ := inside.paced
    ⟨pacing.bound, pacing.registered, pacing.controller, pacing.rate, pacing.calls⟩ succeeded
  exact ⟨⟨after.bound, after.registered, after.controller, after.rate, after.calls⟩,
    same.pending, same.clock⟩

end Hooks

section Refinement

variable {algorithm : LossAlgorithm} {adapter : SelectedAdapter}

/-- Through the wrapper's table the controller is called as by the adapter that has the pacing
built in. -/
theorem ccCall_refines (swapped : Swapped algorithm adapter) (registered : adapter.registered = true)
    (controller : adapter.controller.algorithm = algorithm) (event : CcEvent) :
    ccCall adapter event = CcAdapter.callController adapter.toCcAdapter event := by
  unfold ccCall CcAdapter.callController
  by_cases refused : event.accepted = false
  · rw [if_pos refused, handle_refused refused]
  · rw [if_neg refused, swapped.ops, swapped.state]
    simp only [pacedCall, rawCall_eq controller.symm]
    cases adapter.controller.handle event with
    | mk answer next =>
        cases answer with
        | none => rfl
        | some policy => simp only [registered, ↓reduceIte]

theorem deliver_refines (swapped : Swapped algorithm adapter) (registered : adapter.registered = true)
    (controller : adapter.controller.algorithm = algorithm) (event : CcEvent) :
    (deliver adapter event).2.toCcAdapter = CcAdapter.deliver adapter.toCcAdapter event := by
  unfold deliver CcAdapter.deliver
  rw [ccCall_refines swapped registered controller]
  cases CcAdapter.callController adapter.toCcAdapter event with
  | mk answer next =>
      cases answer with
      | none => rfl
      | some policy =>
          simp only [Option.bind_some]
          split
          · rename_i refused
            rw [refused]
            rfl
          · rename_i published applied
            rw [applied]

theorem signal_refines {refused : Prop} [Decidable refused] (swapped : Swapped algorithm adapter)
    (registered : adapter.registered = true) (controller : adapter.controller.algorithm = algorithm)
    (rack : RackTlp) (event : CcEvent) :
    (if refused then (false, adapter)
      else deliver { adapter with rack := rack } event).2.toCcAdapter =
      if refused then adapter.toCcAdapter else CcAdapter.deliver adapter.toCcAdapter event := by
  split
  · rfl
  · have inside : Swapped algorithm { adapter with rack := rack } := ⟨swapped.ops, swapped.state⟩
    exact deliver_refines inside registered controller event

theorem onAck_refines {windowScaling : Bool} {clock ackedBytes : Nat} {pcb : Pcb}
    (swapped : Swapped algorithm adapter) (registered : adapter.registered = true)
    (controller : adapter.controller.algorithm = algorithm)
    (behind : pastProbe adapter.rack (BitVec.ofNat 32 pcb.lastack) = false) :
    (onAck windowScaling adapter clock pcb ackedBytes).2.toCcAdapter =
      CcAdapter.onAck windowScaling adapter.toCcAdapter clock pcb ackedBytes := by
  obtain ⟨delivery, srtt, sample⟩ :=
    prepareAck_sampled adapter.toCcAdapter clock pcb.lastack ackedBytes
  unfold onAck CcAdapter.onAck prepareAck
  cases prepared : CcAdapter.prepareAck adapter.toCcAdapter clock pcb.lastack ackedBytes with
  | mk answer cc =>
      rw [prepared] at sample
      simp only at sample
      rw [sample]
      cases answer with
      | none => rfl
      | some ack =>
          have repairs := processAck_repairs_iff adapter.rack (BitVec.ofNat 32 pcb.lastack)
            (ack.rate.rttValid ∧ ack.rate.rttNs ≠ 0)
          simp only
          generalize (if ack.rate.rttValid ∧ ack.rate.rttNs ≠ 0 then adapter.rack.noteRttSample
            else adapter.rack).processAck (BitVec.ofNat 32 pcb.lastack) false false = answered
            at repairs
          have quiet : answered.1 ≠ .lossRepaired := by
            intro repaired
            simp [repairs.mp repaired] at behind
          rw [if_neg quiet]
          have inside : Swapped algorithm (adapter.resampled delivery srtt answered.2) :=
            ⟨swapped.ops, swapped.state⟩
          exact deliver_refines inside registered controller _

/-- On a registered flow the hooks under the wrapper do what the adapter does that has the pacing
built in, as long as no probe reports a loss in between. -/
theorem call_refines (windowScaling : Bool) (paced : Paced algorithm adapter) (clock : Nat)
    (pcb : Pcb) (bytes : Nat) :
    (pastProbe adapter.rack (BitVec.ofNat 32 pcb.lastack) = false →
      (call windowScaling adapter (.ack clock pcb bytes)).2.toCcAdapter =
        CcAdapter.onAck windowScaling adapter.toCcAdapter clock pcb bytes) ∧
    (call windowScaling adapter (.loss pcb bytes)).2.toCcAdapter =
      CcAdapter.onLoss windowScaling adapter.toCcAdapter pcb bytes ∧
    (call windowScaling adapter (.ecn pcb)).2.toCcAdapter =
      CcAdapter.onEcn windowScaling adapter.toCcAdapter pcb ∧
    (call windowScaling adapter (.timeout pcb)).2.toCcAdapter =
      CcAdapter.onTimeout windowScaling adapter.toCcAdapter pcb := by
  have inside : Swapped algorithm { adapter with ops := .paced algorithm, state := .adapter } :=
    ⟨rfl, rfl⟩
  have wrapped : ∀ hook : SelectedAdapter → Bool × SelectedAdapter,
      (callPaced hook adapter).2.toCcAdapter =
        (hook { adapter with ops := .paced algorithm, state := .adapter }).2.toCcAdapter := by
    intro hook
    unfold callPaced
    rw [paced.ops]
  refine ⟨?_, ?_, ?_, ?_⟩
  · intro behind
    exact (wrapped _).trans (onAck_refines inside paced.registered paced.controller behind)
  · exact (wrapped _).trans (signal_refines inside paced.registered paced.controller _ _)
  · exact (wrapped _).trans (signal_refines inside paced.registered paced.controller _ _)
  · exact (wrapped _).trans (signal_refines inside paced.registered paced.controller _ _)

end Refinement

section Unwrapped

variable {algorithm : LossAlgorithm} {adapter : SelectedAdapter}

/-- Reno and CUBIC publish no rate of their own with a loss. -/
theorem handle_loss_rate {controller next : LossController} {transport : Transport} {loss : Loss}
    {policy : Policy} (handled : controller.handle (.loss transport loss) = (some policy, next)) :
    policy.pacingRateBytesPerSec = 0 := by
  have accepted := accepted_of_handle handled
  cases controller with
  | reno state =>
      have called : (Reno.onLoss state transport loss).1 = some policy := by
        rw [LossController.handle_reno accepted rfl] at handled
        exact (Prod.mk.inj handled).1
      rw [← Option.some.inj called]
  | cubic model =>
      have called : (Cubic.controllerOnLoss model transport loss).1 = some policy := by
        rw [LossController.handle_cubic accepted rfl] at handled
        exact (Prod.mk.inj handled).1
      unfold Cubic.controllerOnLoss Cubic.modelOnLoss at called
      split at called
      · cases called
      · split at called
        · cases called
        · rw [← Option.some.inj called]

/-- A loss called through the raw table leaves the flow without a rate, whatever comes of it. -/
theorem deliver_raw_loss (ops : adapter.ops = .raw algorithm) (transport : Transport)
    (loss : Loss) :
    (deliver adapter (.loss transport loss)).2.published.pacingRateBytesPerSec = 0 := by
  unfold deliver
  simp only
  split
  · rfl
  · rename_i published applied
    obtain ⟨policy, answered, writes⟩ := Option.bind_eq_some_iff.mp applied
    have raw : (adapter.controller.handle (.loss transport loss)).1 = some policy := by
      unfold ccCall at answered
      split at answered
      · cases answered
      · rw [ops] at answered
        cases pointer : adapter.state with
        | adapter =>
            rw [pointer] at answered
            cases answered
        | builtin =>
            rw [pointer] at answered
            simp only [rawCall] at answered
            split at answered
            · exact answered
            · cases answered
    have unpaced : policy.pacingRateBytesPerSec = 0 := handle_loss_rate (Prod.ext raw rfl)
    unfold applyPolicy at writes
    split at writes
    · cases writes
    · cases writes
      exact unpaced

theorem hookTlpLoss_raw (windowScaling : Bool) (pcb : Pcb) {lostBytes : Nat}
    (ops : adapter.ops = .raw algorithm) (bound : adapter.bound = true) (lost : lostBytes ≠ 0) :
    (hookTlpLoss windowScaling adapter pcb lostBytes).2.published.pacingRateBytesPerSec = 0 := by
  unfold hookTlpLoss pacingOnTlpLoss onTlpLoss
  rw [if_neg lost, if_neg (by simp [bound, lost])]
  exact deliver_raw_loss ops _ _

/-- An observed ACK reports a loss through the raw table, or only takes its sample. -/
theorem onAckObserve_cases {windowScaling : Bool} {clock ackedBytes : Nat} {pcb : Pcb}
    (ops : adapter.ops = .raw algorithm) (bound : adapter.bound = true) (segment : pcb.mss ≠ 0) :
    (ackedBytes ≠ 0 ∧ pastProbe adapter.rack (BitVec.ofNat 32 pcb.lastack) = true ∧
        (onAckObserve windowScaling adapter clock pcb
          ackedBytes).2.published.pacingRateBytesPerSec = 0) ∨
      ((ackedBytes = 0 ∨ pastProbe adapter.rack (BitVec.ofNat 32 pcb.lastack) = false) ∧
        Kept algorithm adapter
          (onAckObserve windowScaling adapter clock pcb ackedBytes).2) := by
  unfold onAckObserve
  obtain ⟨delivery, srtt, rack, ⟨refused, none⟩ | ⟨_, behind, _, taken⟩ | ⟨acked, past, handled,
    repaired, lost, reported, failed⟩⟩ :=
      prepareAck_cases windowScaling adapter clock pcb ackedBytes
  · rw [none]
    exact .inr ⟨.inl (refused.resolve_left (by simp [bound])),
      Kept.sampled adapter delivery srtt rack⟩
  · rw [taken]
    exact .inr ⟨.inr behind, Kept.sampled adapter delivery srtt rack⟩
  · refine .inl ⟨fun zero => acked (.inr zero), past, ?_⟩
    have unpaced : (hookTlpLoss windowScaling (adapter.resampled delivery srtt rack) pcb
        pcb.mss).2.published.pacingRateBytesPerSec = 0 :=
      hookTlpLoss_raw windowScaling pcb ops bound segment
    rw [lost] at unpaced
    cases handled with
    | true =>
        obtain ⟨_, prepared⟩ := reported rfl
        rw [prepared]
        exact unpaced
    | false =>
        rw [failed rfl]
        rfl

end Unwrapped

/-- The hook runs under the wrapper, or does not reach the controller. -/
def Hook.wrapped (adapter : SelectedAdapter) : Hook → Bool
  | .tlpLoss _ lostBytes => lostBytes = 0
  | .ackObserve _ pcb ackedBytes =>
      ackedBytes = 0 ∨ pastProbe adapter.rack (BitVec.ofNat 32 pcb.lastack) = false
  | _ => true

/-- No loss that a tail-loss probe found reaches the controller outside of a wrapped hook. -/
def Wrapped (adapter : SelectedAdapter) : Event → Prop
  | .hook hook => hook.wrapped adapter = true
  | _ => True

instance (adapter : SelectedAdapter) : (event : Event) → Decidable (Wrapped adapter event)
  | .hook hook => inferInstanceAs (Decidable (hook.wrapped adapter = true))
  | .segmentTx .. | .segmentAcked .. | .probe .. | .tlpDupack .. | .prr .. | .appLimited ..
  | .gate .. => .isTrue trivial

/-- A hook leaves the pacer's clock alone. The gate is what moves it. -/
def Untouched (windowScaling : Bool) (adapter : SelectedAdapter) : Event → Prop
  | .hook hook => ∀ next, step windowScaling adapter (.hook hook) = some next →
      SameClock adapter next
  | _ => True

section Steps

variable {algorithm : LossAlgorithm} {adapter : SelectedAdapter} {windowScaling : Bool}

/-- A hook keeps what it should or, outside of the wrapper, stops the pacing. -/
theorem call_cases {hook : Hook} (paced : Paced algorithm adapter)
    (possible : hook.possible adapter = true) :
    (hook.wrapped adapter = false ∧
        (call windowScaling adapter hook).2.published.pacingRateBytesPerSec = 0) ∨
      (hook.wrapped adapter = true ∧ Kept algorithm adapter (call windowScaling adapter hook).2) := by
  cases hook with
  | ack clock pcb ackedBytes =>
      have segment : pcb.mss ≠ 0 := (of_decide_eq_true possible).2
      exact .inr ⟨rfl, callPaced_kept paced.ops (fun _ swapped => onAck_kept swapped segment)⟩
  | ackObserve clock pcb ackedBytes =>
      have segment : pcb.mss ≠ 0 := (of_decide_eq_true possible).2
      rcases onAckObserve_cases paced.ops paced.bound segment with
        ⟨acked, past, stopped⟩ | ⟨wrapped, kept⟩
      · exact .inl ⟨decide_eq_false (by simp [acked, past]), stopped⟩
      · exact .inr ⟨decide_eq_true wrapped, kept⟩
  | sack clock ackSeq ranges =>
      refine .inr ⟨rfl, ?_⟩
      change Kept _ _ (onSack adapter clock ackSeq ranges).2
      obtain ⟨delivery, srtt, credited⟩ := onSack_sampled adapter.toCcAdapter clock ranges
      unfold onSack
      split
      · exact Kept.refl adapter
      · simp only [credited]
        exact Kept.sampled adapter delivery srtt _
  | loss pcb lostBytes =>
      exact .inr ⟨rfl, callPaced_kept paced.ops (fun _ swapped => signal_kept swapped _ _)⟩
  | rackRetransLoss pcb lostBytes =>
      exact .inr ⟨rfl, callPaced_kept paced.ops (fun _ swapped => signal_kept swapped _ _)⟩
  | tlpLoss pcb lostBytes =>
      by_cases lost : lostBytes = 0
      · refine .inr ⟨decide_eq_true lost, ?_⟩
        change Kept _ _ (hookTlpLoss windowScaling adapter pcb lostBytes).2
        unfold hookTlpLoss
        rw [if_pos lost]
        exact Kept.refl adapter
      · exact .inl ⟨decide_eq_false lost,
          hookTlpLoss_raw windowScaling pcb paced.ops paced.bound lost⟩
  | ecn pcb =>
      exact .inr ⟨rfl, callPaced_kept paced.ops (fun _ swapped => signal_kept swapped _ _)⟩
  | timeout pcb =>
      exact .inr ⟨rfl, callPaced_kept paced.ops (fun _ swapped => signal_kept swapped _ _)⟩
  | recoveryExit ackSeq =>
      refine .inr ⟨rfl, ?_⟩
      change Kept _ _ (onRecoveryExit adapter ackSeq).2
      unfold onRecoveryExit
      split
      · exact Kept.refl adapter
      · exact Kept.sampled adapter adapter.delivery adapter.srtt _

theorem Paced.of_kept {next : SelectedAdapter} (paced : Paced algorithm adapter)
    (kept : Kept algorithm adapter next) (succeeded : Succeeded next) :
    Paced algorithm next ∧ SameClock adapter next := by
  obtain ⟨pacing, same⟩ := kept.paced paced.toPacing succeeded
  exact ⟨⟨pacing, kept.ops.trans paced.ops, kept.state.trans paced.state⟩, same⟩

theorem step_eq_some {event : Event} {next : SelectedAdapter} :
    step windowScaling adapter event = some next ↔
      advance windowScaling adapter event = some next ∧ Succeeded next := by
  unfold step Succeeded
  rw [Option.filter_eq_some_iff, List.all_eq_true]

/-- A hook that the wrapper misses stops the pacing, and every other one keeps the flow paced
and leaves the clock alone. -/
theorem hook_spec {hook : Hook} {next : SelectedAdapter} (paced : Paced algorithm adapter)
    (stepped : step windowScaling adapter (.hook hook) = some next) :
    (hook.wrapped adapter = false ∧ ¬Paced algorithm next) ∨
      (hook.wrapped adapter = true ∧ Paced algorithm next ∧ SameClock adapter next) := by
  obtain ⟨advanced, succeeded⟩ := step_eq_some.mp stepped
  simp only [advance, Option.ite_none_right_eq_some, Option.some.injEq] at advanced
  obtain ⟨possible, rfl⟩ := advanced
  rcases call_cases paced possible with ⟨missed, stopped⟩ | ⟨wrapped, kept⟩
  · exact .inl ⟨missed, fun after => after.rate stopped⟩
  · exact .inr ⟨wrapped, paced.of_kept kept succeeded⟩

/-- What runs between the hooks writes the windows, the ledger or the clock, never the rate. -/
theorem advance_paced {event : Event} {next : SelectedAdapter} (paced : Paced algorithm adapter)
    (between : ∀ hook, event ≠ .hook hook)
    (stepped : step windowScaling adapter event = some next) : Paced algorithm next := by
  obtain ⟨advanced, succeeded⟩ := step_eq_some.mp stepped
  have sampled := fun delivery srtt rack succeeded =>
    (paced.of_kept (Kept.sampled adapter delivery srtt rack) succeeded).1
  cases event with
  | hook hook => exact absurd rfl (between hook)
  | segmentTx clock allocated sent =>
      simp only [advance, Option.ite_none_right_eq_some, Option.some.injEq] at advanced
      obtain ⟨_, rfl⟩ := advanced
      exact sampled _ _ _ succeeded
  | segmentAcked segment payloadBytes =>
      simp only [advance, Option.some.injEq] at advanced
      subst advanced
      exact sampled _ _ _ succeeded
  | probe inRecovery sent =>
      simp only [advance, Option.some.injEq] at advanced
      subst advanced
      exact sampled _ _ _ succeeded
  | tlpDupack lastack =>
      simp only [advance, Option.some.injEq] at advanced
      subst advanced
      exact sampled _ _ _ succeeded
  | prr clock cwnd =>
      simp only [advance, Option.ite_none_right_eq_some, Option.some.injEq] at advanced
      obtain ⟨_, rfl⟩ := advanced
      exact ⟨⟨paced.bound, paced.registered, paced.controller, paced.rate, paced.calls⟩,
        paced.ops, paced.state⟩
  | appLimited pcb unsentEmpty sndbuf =>
      simp only [advance, Option.some.injEq] at advanced
      subst advanced
      obtain ⟨delivery, marks⟩ :=
        markAppLimited_sampled adapter.toCcAdapter pcb unsentEmpty sndbuf
      rw [marks] at succeeded ⊢
      exact sampled delivery adapter.srtt adapter.rack succeeded
  | gate clock nextSendNs scheduled =>
      simp only [advance, Option.ite_none_right_eq_some, Option.some.injEq] at advanced
      obtain ⟨_, rfl⟩ := advanced
      have controller : (CcAdapter.repace adapter.toCcAdapter clock
          adapter.published.pacingRateBytesPerSec nextSendNs scheduled).controller =
            adapter.controller := if_neg paced.rate
      refine ⟨⟨paced.bound, paced.registered, ?_, paced.rate, paced.calls⟩, paced.ops,
        paced.state⟩
      rw [controller]
      exact paced.controller

theorem step_spec {event : Event} {next : SelectedAdapter} (paced : Paced algorithm adapter)
    (stepped : step windowScaling adapter event = some next) :
    (¬Wrapped adapter event ∧ ¬Paced algorithm next) ∨
      (Wrapped adapter event ∧ Untouched windowScaling adapter event ∧
        Paced algorithm next) := by
  by_cases between : ∀ hook, event ≠ .hook hook
  · have after := advance_paced paced between stepped
    cases event with
    | hook hook => exact absurd rfl (between hook)
    | _ => exact .inr ⟨trivial, trivial, after⟩
  · push Not at between
    obtain ⟨hook, rfl⟩ := between
    rcases hook_spec paced stepped with ⟨missed, stopped⟩ | ⟨wrapped, after, same⟩
    · exact .inl ⟨Bool.eq_false_iff.mp missed, stopped⟩
    · refine .inr ⟨wrapped, ?_, after⟩
      intro other steps
      rw [stepped] at steps
      rw [← Option.some.inj steps]
      exact same

theorem ccInit_algorithm {transport : Transport} {init : CcInit} {controller : LossController}
    {policy : Policy}
    (done : LossController.ccInit algorithm transport init = some (controller, policy)) :
    controller.algorithm = algorithm := by
  cases algorithm with
  | reno =>
      obtain ⟨_, _, same⟩ := Option.map_eq_some_iff.mp done
      rw [← (Prod.mk.inj same).1]
      rfl
  | cubic =>
      obtain ⟨_, _, same⟩ := Option.map_eq_some_iff.mp done
      rw [← (Prod.mk.inj same).1]
      rfl

/-- A registered flow has its first rate from the start. -/
theorem bind_paced {transport : Transport} {init : CcInit} {clock : Nat}
    (started : bind algorithm transport init clock = some adapter) : Paced algorithm adapter := by
  obtain ⟨cc, bound, rfl⟩ := Option.map_eq_some_iff.mp started
  unfold CcAdapter.bind at bound
  split at bound
  · cases bound
  · rename_i controller policy initialised
    have same := ccInit_algorithm initialised
    simp only at bound
    split at bound
    · cases bound
    · rename_i paced switched applied
      unfold CcAdapter.applyTransportPacing at applied
      rw [if_neg Bool.noConfusion] at applied
      simp only at applied
      split at applied
      · cases applied
      · rename_i rate
        cases applied
        cases bound
        refine ⟨⟨rfl, rfl, ?_, rate, ?_⟩, rfl, rfl⟩
        · rw [setCubicPacing_algorithm]
          exact same
        · intro call member
          cases member

/-- Over every run on which the raw controller succeeds, a registered Reno or CUBIC flow keeps
its rate, the pacer's clock, the windows of the raw controller and the raw table exactly when
every loss of a tail-loss probe is reported under the wrapper. -/
theorem paced_iff_wrapped (windowScaling : Bool) (algorithm : LossAlgorithm)
    (transport : Transport) (init : CcInit) (clock : Nat) (adapter : SelectedAdapter)
    (events : List Event) (started : bind algorithm transport init clock = some adapter) :
    (Run.Along (Paced algorithm) (step windowScaling) adapter events ∧
        Run.Meets (Untouched windowScaling) (step windowScaling) adapter events) ↔
      Run.Meets Wrapped (step windowScaling) adapter events := by
  have start := bind_paced started
  have exact : Run.Along (Paced algorithm) (step windowScaling) adapter events ↔
      Run.Meets Wrapped (step windowScaling) adapter events := by
    apply Run.along_iff_meets (Paced algorithm) (fun _ paced => paced) _ start
    intro state event next paced stepped
    rcases step_spec paced stepped with missed | ⟨wrapped, _, after⟩
    · exact .inl missed
    · exact .inr ⟨wrapped, after⟩
  rw [← exact]
  refine ⟨fun both => both.1, fun along => ⟨along, ?_⟩⟩
  apply Run.meets_of_along (fun _ _ _ _ _ => trivial) _ (trivial : True) along
  intro state event next _ paced stepped after
  rcases step_spec paced stepped with ⟨_, stopped⟩ | ⟨_, untouched, _⟩
  · exact absurd after stopped
  · exact untouched

end Steps

/-- Behind the first RTT the second segment is sent again as a probe, a third one follows, and
a release is pending when the peer signals congestion. -/
def probedTail : List Event :=
  [.segmentTx 100 true ⟨1, 1000, 1000, 0, true⟩,
    .hook (.ack 1100 ⟨1000, 2000, 2000, 20000, by decide⟩ 1000),
    .segmentAcked 1 1000,
    .segmentTx 1200 true ⟨2, 2000, 1000, 0, true⟩,
    .segmentTx 3000 true ⟨2, 2000, 1000, 1000, false⟩,
    .probe false (some ⟨2000, 3000, true⟩),
    .segmentTx 3001 true ⟨3, 3000, 1000, 1000, false⟩,
    .gate 3002 5000 true,
    .hook (.ecn ⟨1000, 4000, 2000, 20000, by decide⟩)]

theorem paced_iff_wrapped_probedTail :
    ∃ adapter, bind .cubic (transportFromPcb false CcAdapter.acceptedPcb)
        CcAdapter.acceptedInit 50 = some adapter ∧
      Run.Along (Paced .cubic) (step false) adapter probedTail ∧
      Run.Meets (Untouched false) (step false) adapter probedTail := by
  obtain ⟨adapter, started, meets⟩ : ∃ adapter,
      bind .cubic (transportFromPcb false CcAdapter.acceptedPcb) CcAdapter.acceptedInit 50 =
        some adapter ∧ Run.Meets Wrapped (step false) adapter probedTail := by
    obtain ⟨adapter, ran⟩ : ∃ adapter, (bind .cubic (transportFromPcb false
        CcAdapter.acceptedPcb) CcAdapter.acceptedInit 50).filter
          (fun adapter => Run.Meets Wrapped (step false) adapter probedTail) = some adapter :=
      Option.isSome_iff_exists.mp (by decide +kernel)
    obtain ⟨started, meets⟩ := Option.filter_eq_some_iff.mp ran
    exact ⟨adapter, started, of_decide_eq_true meets⟩
  exact ⟨adapter, started,
    (paced_iff_wrapped false .cubic _ _ 50 adapter probedTail started).mpr meets⟩

/-- The ACK of the signal is past the end of the probe, and only observed. The loss goes to
CUBIC past the wrapper: the rate is gone, and with it the pending release and the clock. -/
def observedPastProbe : Event :=
  .hook (.ackObserve 4000 ⟨1000, 4000, 4000, 20000, by decide⟩ 2000)

theorem observed_probe_loss_stops_pacing :
    ∃ adapter before after,
      bind .cubic (transportFromPcb false CcAdapter.acceptedPcb) CcAdapter.acceptedInit 50 =
        some adapter ∧
      Run.run (step false) adapter probedTail = some before ∧
      before.published.pacingRateBytesPerSec ≠ 0 ∧ before.published.pacingScheduled = true ∧
      before.published.pacingNextSendNs = 5000 ∧
      step false before observedPastProbe = some after ∧
      after.published.pacingRateBytesPerSec = 0 ∧ after.published.pacingScheduled = false ∧
      after.published.pacingNextSendNs = 0 ∧
      ¬(Run.Along (Paced .cubic) (step false) adapter (probedTail ++ [observedPastProbe]) ∧
        Run.Meets (Untouched false) (step false) adapter
          (probedTail ++ [observedPastProbe])) := by
  obtain ⟨after, ran⟩ : ∃ after, (bind .cubic (transportFromPcb false CcAdapter.acceptedPcb)
      CcAdapter.acceptedInit 50).bind (fun adapter =>
        ((Run.run (step false) adapter probedTail).filter (fun before =>
          before.published.pacingRateBytesPerSec ≠ 0 ∧ before.published.pacingScheduled = true ∧
            before.published.pacingNextSendNs = 5000)).bind (fun before =>
        (step false before observedPastProbe).filter (fun after =>
          after.published.pacingRateBytesPerSec = 0 ∧ after.published.pacingScheduled = false ∧
            after.published.pacingNextSendNs = 0))) = some after :=
    Option.isSome_iff_exists.mp (by decide +kernel)
  obtain ⟨adapter, started, continued⟩ := Option.bind_eq_some_iff.mp ran
  obtain ⟨before, reached, last⟩ := Option.bind_eq_some_iff.mp continued
  obtain ⟨reaches, pacing⟩ := Option.filter_eq_some_iff.mp reached
  obtain ⟨stepped, stopped⟩ := Option.filter_eq_some_iff.mp last
  obtain ⟨rate, pending, clock⟩ := of_decide_eq_true pacing
  obtain ⟨noRate, cancelled, reset⟩ := of_decide_eq_true stopped
  refine ⟨adapter, before, after, started, reaches, rate, pending, clock, stepped, noRate,
    cancelled, reset, ?_⟩
  intro ⟨along, _⟩
  have whole : Run.run (step false) adapter (probedTail ++ [observedPastProbe]) =
      some after := by
    rw [Run.run_append reaches, Run.run_cons stepped, Run.run_nil]
  exact (along.final whole).rate noRate

end SelectedAdapter

end TcpShift
