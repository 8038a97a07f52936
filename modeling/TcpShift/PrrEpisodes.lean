import TcpShift.Lib.Run
import TcpShift.Prr

set_option autoImplicit false

/- Recovery episodes of the adapter under proportional rate reduction: the credit each ACK
leaves, the gate that spends it, and what the counters keep over a whole episode. -/
namespace TcpShift

open Word

/-- The adapter's part of an episode: the core, the credit its latest delivering ACK left,
and the window that ACK published. -/
structure PrrEpisode where
  prr : Prr := Prr.reset
  sendCreditBytes : Nat := 0
  cwnd : Nat := 0
deriving DecidableEq, Repr

inductive PrrEvent where
  | ack (ack : PrrAck)
  | send (payloadBytes : Nat)
deriving DecidableEq, Repr

namespace PrrEpisode

/-- `none` is the return value -1. An ACK that delivers nothing leaves the credit alone. -/
def applyAck (cwndLimit : Nat) (episode : PrrEpisode) (ack : PrrAck) : Option PrrEpisode :=
  if episode.prr.active = false ∨ ack.deliveredData = 0 then some episode
  else
    match episode.prr.onAck ack with
    | none => none
    | some (result, prr) =>
        if result.cwnd = 0 ∨ result.cwnd > cwndLimit then none
        else some ⟨prr, result.sndcnt, result.cwnd⟩

/-- The start of an episode: the ACK that revealed the loss is its first. The flight size is
the one noted before that ACK. -/
def begin (cwndLimit : Nat) (episode : PrrEpisode) (capable : Bool) (recoverFs ssthresh : Nat)
    (inU32 : recoverFs < 2 ^ 32 ∧ ssthresh < 2 ^ 32) (trigger : PrrAck) : PrrEpisode :=
  if capable = false ∨ trigger.deliveredData = 0 then episode
  else
    match Prr.init recoverFs ssthresh inU32 with
    | none => episode
    | some prr =>
        match applyAck cwndLimit ⟨prr, 0, episode.cwnd⟩ trigger with
        | none => { cwnd := episode.cwnd }
        | some started => started

/-- The gate before the pacer's: a segment goes out whole or not at all. -/
def sendEligible (episode : PrrEpisode) (payloadBytes : Nat) : Bool :=
  payloadBytes = 0 ∨ episode.prr.active = false ∨ payloadBytes ≤ episode.sendCreditBytes

def onSegmentTx (episode : PrrEpisode) (payloadBytes : Nat) : PrrEpisode :=
  if episode.prr.active = false then episode
  else if payloadBytes > episode.sendCreditBytes then { episode with sendCreditBytes := 0 }
  else
    match episode.prr.onSend payloadBytes with
    | none => { episode with sendCreditBytes := 0 }
    | some prr =>
        { episode with
          prr := prr
          sendCreditBytes := episode.sendCreditBytes - payloadBytes }

/-- With window scaling the window limit is the largest 32-bit word. -/
def step (episode : PrrEpisode) : PrrEvent → Option PrrEpisode
  | .ack ack => applyAck u32Max episode ack
  | .send payloadBytes =>
      if payloadBytes ≠ 0 ∧ episode.sendEligible payloadBytes then
        some (episode.onSegmentTx payloadBytes)
      else none

/-- An episode under way with the given flight size and target. -/
structure Running (recoverFs ssthresh : Nat) (episode : PrrEpisode) : Prop where
  active : episode.prr.active = true
  flight : episode.prr.recoverFs = recoverFs
  target : episode.prr.ssthresh = ssthresh
  sized : 0 < recoverFs ∧ 0 < ssthresh

theorem running_start (cwnd : Nat) {recoverFs ssthresh : Nat} {prr : Prr}
    {inU32 : recoverFs < 2 ^ 32 ∧ ssthresh < 2 ^ 32}
    (started : Prr.init recoverFs ssthresh inU32 = some prr) :
    Running recoverFs ssthresh ⟨prr, 0, cwnd⟩ ∧ prr.prrOut = 0 ∧ prr.prrDelivered = 0 := by
  unfold Prr.init at started
  split at started
  · contradiction
  · rw [← Option.some.inj started]
    exact ⟨⟨rfl, rfl, rfl, by omega⟩, rfl, rfl⟩

section Steps

variable {recoverFs ssthresh : Nat} {episode next : PrrEpisode}

/-- A delivering ACK of a running episode always succeeds. -/
theorem ack_delivering (running : Running recoverFs ssthresh episode) {ack : PrrAck}
    (segment : ack.smss ≠ 0) (delivers : ack.deliveredData ≠ 0) :
    ∃ cwnd, cwnd ≠ 0 ∧ cwnd = Prr.addSat32 ack.inflight (Prr.credit episode.prr ack) ∧
      step episode (.ack ack) =
        some ⟨episode.prr.deliver ack, Prr.credit episode.prr ack, cwnd⟩ := by
  have sized : 0 < episode.prr.recoverFs ∧ 0 < episode.prr.ssthresh := by
    rw [running.flight, running.target]
    exact running.sized
  have word := ack.inU32.2.1
  have published : Prr.addSat32 ack.inflight (Prr.credit episode.prr ack) ≠ 0 ∧
      Prr.addSat32 ack.inflight (Prr.credit episode.prr ack) ≤ u32Max := by
    have lower : ack.inflight = 0 → Prr.credit episode.prr ack ≠ 0 := by
      intro empty
      have granted := Prr.amount_bounded delivers
        (show ack.inflight ≤ episode.prr.ssthresh by omega)
      unfold Prr.credit Prr.clamp32 Prr.forceFirst u32Max
      split_ifs <;> omega
    unfold Prr.addSat32 u32Max
    split <;> omega
  refine ⟨_, published.1, rfl, ?_⟩
  change applyAck u32Max episode ack = _
  unfold applyAck
  rw [if_neg (by simp [running.active, delivers]),
    Prr.onAck_delivering running.active sized segment delivers]
  simp only
  rw [if_neg (by omega)]

theorem ack_running (running : Running recoverFs ssthresh episode) {ack : PrrAck}
    (stepped : step episode (.ack ack) = some next) :
    Running recoverFs ssthresh next ∧
      ((ack.deliveredData = 0 ∧ next = episode) ∨
        (ack.smss ≠ 0 ∧ ack.deliveredData ≠ 0 ∧ next.prr = episode.prr.deliver ack ∧
          next.sendCreditBytes = Prr.credit episode.prr ack)) := by
  by_cases delivers : ack.deliveredData = 0
  · change applyAck u32Max episode ack = some next at stepped
    unfold applyAck at stepped
    rw [if_pos (.inr delivers)] at stepped
    rw [← Option.some.inj stepped]
    exact ⟨running, .inl ⟨delivers, rfl⟩⟩
  · have segment : ack.smss ≠ 0 := by
      intro zero
      change applyAck u32Max episode ack = some next at stepped
      unfold applyAck Prr.onAck at stepped
      rw [if_neg (by simp [running.active, delivers]), if_pos (by simp [zero])] at stepped
      contradiction
    obtain ⟨cwnd, _, _, taken⟩ := ack_delivering running segment delivers
    rw [← Option.some.inj (taken.symm.trans stepped)]
    exact ⟨⟨running.active, running.flight, running.target, running.sized⟩,
      .inr ⟨segment, delivers, rfl, rfl⟩⟩

theorem send_running (running : Running recoverFs ssthresh episode) {payloadBytes : Nat}
    (stepped : step episode (.send payloadBytes) = some next) :
    Running recoverFs ssthresh next ∧ payloadBytes ≠ 0 ∧
      payloadBytes ≤ episode.sendCreditBytes ∧
      next.prr.prrOut = satAdd64 episode.prr.prrOut payloadBytes ∧
      next.prr.prrDelivered = episode.prr.prrDelivered ∧
      next.sendCreditBytes = episode.sendCreditBytes - payloadBytes := by
  simp only [step] at stepped
  split at stepped
  · rename_i admitted
    have eligible : payloadBytes ≤ episode.sendCreditBytes := by
      simpa [sendEligible, running.active, admitted.1] using admitted.2
    have sent : episode.onSegmentTx payloadBytes = next := Option.some.inj stepped
    unfold onSegmentTx Prr.onSend at sent
    rw [if_neg (by simp [running.active]), if_neg (by omega),
      if_neg (by simp [running.active, admitted.1])] at sent
    rw [← sent]
    exact ⟨⟨running.active, running.flight, running.target, running.sized⟩, admitted.1, eligible,
      rfl, rfl, rfl⟩
  · contradiction

theorem step_running {event : PrrEvent} (running : Running recoverFs ssthresh episode)
    (stepped : step episode event = some next) : Running recoverFs ssthresh next := by
  cases event with
  | ack ack => exact (ack_running running stepped).1
  | send payloadBytes => exact (send_running running stepped).1

/-- What was sent and what may still be sent stay within the allowance. -/
structure Spent (recoverFs ssthresh : Nat) (episode : PrrEpisode) : Prop where
  running : Running recoverFs ssthresh episode
  within : episode.prr.prrOut + episode.sendCreditBytes ≤ min episode.prr.allowance u64Max

theorem ack_spent {ack : PrrAck} (above : ssthresh < ack.inflight)
    (spent : Spent recoverFs ssthresh episode) (stepped : step episode (.ack ack) = some next) :
    Spent recoverFs ssthresh next := by
  have acked := ack_running spent.running stepped
  refine ⟨acked.1, ?_⟩
  rcases acked.2 with ⟨_, same⟩ | ⟨_, delivers, counted, granted⟩
  · rw [same]
    exact spent.within
  · have sized : 0 < episode.prr.recoverFs ∧ 0 < episode.prr.ssthresh := by
      rw [spent.running.flight, spent.running.target]
      exact spent.running.sized
    have grown := Prr.allowance_mono sized delivers
    have topped := Prr.credit_proportional sized delivers
      (by rw [spent.running.target]; exact above)
    have within := spent.within
    rw [granted, counted, topped]
    change episode.prr.prrOut + _ ≤ _
    omega

theorem send_spent {payloadBytes : Nat} (spent : Spent recoverFs ssthresh episode)
    (stepped : step episode (.send payloadBytes) = some next) :
    Spent recoverFs ssthresh next := by
  obtain ⟨running, _, eligible, out, delivered, left⟩ := send_running spent.running stepped
  have same : next.prr.allowance = episode.prr.allowance := by
    unfold Prr.allowance
    rw [delivered, running.target, running.flight, spent.running.target, spent.running.flight]
  have within := spent.within
  refine ⟨running, ?_⟩
  rw [same, out, left, satAdd64_eq _ _ (by omega)]
  omega

/-- An episode whose ACKs all find the flight above the target never outspends it. -/
theorem run_spent {events : List PrrEvent}
    (above : ∀ ack, .ack ack ∈ events → ssthresh < ack.inflight)
    (spent : Spent recoverFs ssthresh episode) (ran : Run.run step episode events = some next) :
    Spent recoverFs ssthresh next := by
  induction events generalizing episode with
  | nil =>
      rw [← Option.some.inj ran]
      exact spent
  | cons event rest ih =>
      obtain ⟨reached, stepped, tail⟩ := Run.run_cons_eq_some.mp ran
      have later : ∀ ack, .ack ack ∈ rest → ssthresh < ack.inflight :=
        fun ack member => above ack (List.mem_cons_of_mem _ member)
      apply ih later _ tail
      cases event with
      | ack ack => exact ack_spent (above ack List.mem_cons_self) spent stepped
      | send payloadBytes => exact send_spent spent stepped

end Steps

/-- Over every episode: each delivering ACK tops the sent bytes up to the allowance or, at or
below the target, stays within it but for the forced segment; a silent ACK grants nothing;
and while every ACK is proportional the sent bytes never exceed the allowance. -/
theorem reduction_bound_over_episode (recoverFs ssthresh cwnd : Nat)
    (inU32 : recoverFs < 2 ^ 32 ∧ ssthresh < 2 ^ 32) (prr : Prr) (events : List PrrEvent)
    (episode : PrrEpisode) (started : Prr.init recoverFs ssthresh inU32 = some prr)
    (ran : Run.run step ⟨prr, 0, cwnd⟩ events = some episode) :
    (∀ value multiplier divisor, 0 < multiplier ∧ multiplier < 2 ^ 32 →
        0 < divisor ∧ divisor < 2 ^ 32 →
        Prr.divRoundUpProduct value multiplier divisor =
          min ((value * multiplier) ⌈/⌉ divisor) u64Max) ∧
      (∀ ack : PrrAck, ack.smss ≠ 0 → ack.deliveredData ≠ 0 →
        ∃ next, step episode (.ack ack) = some next ∧ next.cwnd ≠ 0 ∧
          next.prr.prrOut = episode.prr.prrOut ∧
          (ssthresh < ack.inflight → next.prr.prrOut + next.sendCreditBytes =
            min (max next.prr.prrOut
                (min ((next.prr.prrDelivered * ssthresh) ⌈/⌉ recoverFs) u64Max))
              (next.prr.prrOut + u32Max)) ∧
          (ack.inflight ≤ ssthresh → ack.inflight + next.sendCreditBytes ≤ ssthresh ∨
            (next.prr.prrOut = 0 ∧ ack.inflight = ssthresh ∧
              next.sendCreditBytes = ack.smss))) ∧
      (∀ ack : PrrAck, ack.smss ≠ 0 → ack.deliveredData = 0 →
        episode.prr.onAck ack = some (⟨0, ack.inflight⟩, episode.prr) ∧
          step episode (.ack ack) = some episode) ∧
      ((∀ ack, .ack ack ∈ events → ssthresh < ack.inflight) →
        episode.prr.prrOut ≤ (episode.prr.prrDelivered * ssthresh) ⌈/⌉ recoverFs ∧
          (episode.prr.prrDelivered ≤ recoverFs → episode.prr.prrOut ≤ ssthresh)) := by
  obtain ⟨start, out, _⟩ := running_start cwnd started
  have running : Running recoverFs ssthresh episode :=
    Run.run_invariant (fun _ _ _ held stepped => step_running held stepped) start ran
  have sized : 0 < episode.prr.recoverFs ∧ 0 < episode.prr.ssthresh := by
    rw [running.flight, running.target]
    exact running.sized
  refine ⟨fun _ _ _ => Prr.divRoundUpProduct_eq, ?_, ?_, ?_⟩
  · intro ack segment delivers
    obtain ⟨window, nonzero, _, stepped⟩ := ack_delivering running segment delivers
    refine ⟨_, stepped, nonzero, rfl, ?_, ?_⟩
    · intro above
      have topped := Prr.credit_proportional sized delivers
        (by rw [running.target]; exact above)
      have allowed : (episode.prr.deliver ack).allowance =
          ((episode.prr.deliver ack).prrDelivered * ssthresh) ⌈/⌉ recoverFs := by
        change (_ * episode.prr.ssthresh) ⌈/⌉ episode.prr.recoverFs = _
        rw [running.flight, running.target]
      rw [allowed] at topped
      change episode.prr.prrOut + Prr.credit episode.prr ack =
        min (max episode.prr.prrOut _) (episode.prr.prrOut + u32Max)
      simp only
      omega
    · intro below
      have bounded := Prr.credit_bounded delivers
        (show ack.inflight ≤ episode.prr.ssthresh by rw [running.target]; exact below)
      rwa [running.target] at bounded
  · intro ack segment silent
    refine ⟨Prr.onAck_silent running.active sized segment silent, ?_⟩
    exact if_pos (.inr silent)
  · intro above
    have opening : Spent recoverFs ssthresh ⟨prr, 0, cwnd⟩ := ⟨start, by simp only [out]; omega⟩
    have within := (run_spent above opening ran).within
    have allowed : episode.prr.allowance =
        (episode.prr.prrDelivered * ssthresh) ⌈/⌉ recoverFs := by
      unfold Prr.allowance
      rw [running.flight, running.target]
    constructor
    · omega
    · intro partly
      have bounded := Prr.allowance_le sized (by rw [running.flight]; exact partly)
      rw [running.target] at bounded
      omega

/-- An episode that halves a flight of ten segments. -/
def halving : Option Prr := Prr.init 10000 5000 (by decide)

/-- Two segments delivered, one sent between them. -/
def halvedFlight : List PrrEvent :=
  [.ack ⟨1000, 9000, 1000, false, by decide⟩, .ack ⟨1000, 8000, 1000, false, by decide⟩,
    .send 1000]

theorem reduction_bound_over_episode_halvedFlight :
    ∃ prr episode, halving = some prr ∧ Run.run step ⟨prr, 0, 0⟩ halvedFlight = some episode ∧
      episode.prr.prrOut ≤ 5000 := by
  obtain ⟨prr, started⟩ : ∃ prr, halving = some prr := Option.isSome_iff_exists.mp (by decide)
  obtain ⟨episode, ran⟩ : ∃ episode, halving.bind (fun prr =>
      (Run.run step ⟨prr, 0, 0⟩ halvedFlight).filter
        (fun last => last.prr.prrDelivered ≤ 10000)) = some episode :=
    Option.isSome_iff_exists.mp (by decide +kernel)
  rw [started, Option.bind_some, Option.filter_eq_some_iff] at ran
  have bounded := reduction_bound_over_episode 10000 5000 0 (by decide) prr halvedFlight episode
    started ran.1
  refine ⟨prr, episode, started, ran.1, (bounded.2.2.2 ?_).2 (of_decide_eq_true ran.2)⟩
  intro ack member
  simp only [halvedFlight, List.mem_cons, PrrEvent.ack.injEq, reduceCtorEq, List.not_mem_nil,
    or_false] at member
  rcases member with rfl | rfl <;> decide

/-- A silent ACK takes the unspent credit out of the account, and a second flight's worth of
deliveries takes the sent bytes beyond the target. -/
theorem reduction_bound_needs_delivery :
    (∃ prr episode, halving = some prr ∧
      Run.run step ⟨prr, 0, 0⟩ [.ack ⟨1000, 9000, 1000, false, by decide⟩] = some episode ∧
      (episode.prr.onAck ⟨0, 9000, 1000, false, by decide⟩).map (fun acked =>
        acked.2.prrOut + acked.1.sndcnt) = some 0 ∧
      max episode.prr.prrOut ((episode.prr.prrDelivered * 5000) ⌈/⌉ 10000) = 500) ∧
      ∃ prr episode, halving = some prr ∧
        Run.run step ⟨prr, 0, 0⟩ [.ack ⟨20000, 9000, 1000, false, by decide⟩, .send 10000] =
          some episode ∧ episode.prr.prrOut = 10000 := by
  refine ⟨⟨_, _, rfl, rfl, ?_, ?_⟩, ⟨_, _, rfl, rfl, ?_⟩⟩ <;> decide

/-- The ACK that revealed the loss is the first of the run. -/
theorem begin_eq_step {recoverFs ssthresh : Nat} {inU32 : recoverFs < 2 ^ 32 ∧ ssthresh < 2 ^ 32}
    {prr : Prr} {before next : PrrEpisode} {trigger : PrrAck}
    (started : Prr.init recoverFs ssthresh inU32 = some prr)
    (delivers : trigger.deliveredData ≠ 0)
    (stepped : step ⟨prr, 0, before.cwnd⟩ (.ack trigger) = some next) :
    begin u32Max before true recoverFs ssthresh inU32 trigger = next := by
  change applyAck u32Max ⟨prr, 0, before.cwnd⟩ trigger = some next at stepped
  unfold begin
  rw [if_neg (by simp [delivers]), started]
  simp only [stepped]

/-- As long as nothing was sent, a delivering ACK leaves a credit, and one of a full segment
exactly when the formula grants nothing, so that the segment is forced, or that much. -/
theorem first_retransmit_admitted_iff (recoverFs ssthresh cwnd : Nat)
    (inU32 : recoverFs < 2 ^ 32 ∧ ssthresh < 2 ^ 32) (prr : Prr) (events : List PrrEvent)
    (episode : PrrEpisode) (started : Prr.init recoverFs ssthresh inU32 = some prr)
    (ran : Run.run step ⟨prr, 0, cwnd⟩ events = some episode) (unsent : episode.prr.prrOut = 0)
    (ack : PrrAck) (segment : ack.smss ≠ 0) (delivers : ack.deliveredData ≠ 0) :
    ∃ next, step episode (.ack ack) = some next ∧ next.sendCreditBytes ≠ 0 ∧
      (events = [] → ∀ before : PrrEpisode, before.cwnd = cwnd →
        begin u32Max before true recoverFs ssthresh inU32 ack = next) ∧
      (∀ payloadBytes, payloadBytes ≠ 0 →
        (next.sendEligible payloadBytes = true ↔ payloadBytes ≤ next.sendCreditBytes)) ∧
      (next.sendEligible ack.smss = true ↔
        (ssthresh < ack.inflight ∧
            recoverFs * (ack.smss - 1) < next.prr.prrDelivered * ssthresh) ∨
          ack.inflight = ssthresh ∨
          (ack.smss ≤ ssthresh - ack.inflight ∧
            (ack.safeAck = true ∨ ack.smss ≤ next.prr.prrDelivered))) := by
  have running : Running recoverFs ssthresh episode :=
    Run.run_invariant (fun _ _ _ held stepped => step_running held stepped)
      (running_start cwnd started).1 ran
  have sized : 0 < episode.prr.recoverFs ∧ 0 < episode.prr.ssthresh := by
    rw [running.flight, running.target]
    exact running.sized
  obtain ⟨window, _, _, stepped⟩ := ack_delivering running segment delivers
  refine ⟨_, stepped, ?_⟩
  have gate : ∀ payloadBytes, payloadBytes ≠ 0 →
      (sendEligible ⟨episode.prr.deliver ack, Prr.credit episode.prr ack, window⟩ payloadBytes =
          true ↔
        payloadBytes ≤ Prr.credit episode.prr ack) := by
    intro payloadBytes carries
    have active : (episode.prr.deliver ack).active = true := running.active
    simp [sendEligible, active, carries]
  have granted := Prr.smss_le_credit_iff sized segment delivers unsent
  rw [running.flight, running.target] at granted
  refine ⟨Prr.credit_ne_zero segment unsent, ?_, gate, (gate ack.smss segment).trans granted⟩
  intro first before sameWindow
  apply begin_eq_step started delivers
  rw [first, Run.run_nil] at ran
  rw [sameWindow, Option.some.inj ran]
  exact stepped

theorem first_retransmit_admitted_iff_halving :
    ∃ prr next, halving = some prr ∧
      step ⟨prr, 0, 0⟩ (.ack ⟨2000, 9000, 1000, false, by decide⟩) = some next ∧
      next.sendEligible 1000 = true := by
  let prr : Prr := { recoverFs := 10000, ssthresh := 5000, active := true }
  obtain ⟨next, stepped, _, _, _, admits⟩ := first_retransmit_admitted_iff 10000 5000 0 (by decide)
    prr [] ⟨prr, 0, 0⟩ rfl rfl rfl ⟨2000, 9000, 1000, false, by decide⟩ (by decide) (by decide)
  refine ⟨prr, next, rfl, stepped, admits.mpr (.inl ⟨by decide, ?_⟩)⟩
  have reached : step ⟨prr, 0, 0⟩ (.ack ⟨2000, 9000, 1000, false, by decide⟩) = some
      ⟨prr.deliver ⟨2000, 9000, 1000, false, by decide⟩, 1000, 10000⟩ := by decide
  rw [Option.some.inj (stepped.symm.trans reached)]
  decide

/-- The share of one delivered segment is half a segment, so the gate keeps the whole one
back. -/
theorem first_retransmit_kept_back :
    ∃ prr next, halving = some prr ∧
      step ⟨prr, 0, 0⟩ (.ack ⟨1000, 9000, 1000, false, by decide⟩) = some next ∧
      next.prr.prrOut = 0 ∧ next.sendCreditBytes = 500 ∧ next.sendEligible 1000 = false := by
  refine ⟨_, _, rfl, rfl, ?_, ?_, ?_⟩ <;> decide

end PrrEpisode

end TcpShift
