import TcpShift.Lib.Run
import TcpShift.BbrForecast

set_option autoImplicit false

/- Runs of the BBR controller: no call fails as long as the rates delivered over the last
ten rounds are large enough for what each ACK asks of them. -/
namespace TcpShift.BbrSession

open Bbr

/-- The best rate of the last ten rounds is as large as an ACK needs. -/
def BandwidthSuffices (session : BbrSession) : BbrEvent → Prop
  | .ack _ ack =>
      neededBandwidth session.controller ack ≤ bestBandwidth session.controller.model ack.rate
  | _ => True

instance (session : BbrSession) (event : BbrEvent) :
    Decidable (BandwidthSuffices session event) :=
  match event with
  | .ack _ ack => inferInstanceAs (Decidable
      (neededBandwidth session.controller ack ≤ bestBandwidth session.controller.model ack.rate))
  | .noteLoss _ => .isTrue trivial
  | .recoveryEnter _ _ _ => .isTrue trivial
  | .recoveryNoteLoss _ _ => .isTrue trivial
  | .recoveryExit _ => .isTrue trivial
  | .timeout _ _ => .isTrue trivial

/-- An ACK fails exactly when the bandwidth does not suffice. -/
theorem ack_spec {transport : Transport} {session : BbrSession} {ack : Ack}
    (positive : 0 < transport.mssBytes)
    (fitting : transport.mssBytes ≤ transport.cwndLimitBytes)
    (live : Live transport.mssBytes transport.cwndLimitBytes session)
    (acked : ack.ackedBytes ≠ 0) (timed : ack.ackTimeNs ≠ 0)
    (ordered : session.controller.model.lastUpdateNs ≤ ack.ackTimeNs) :
    (¬BandwidthSuffices session (.ack transport ack) ∧
        ¬Paced (session.call (.ack transport ack))) ∨
      (BandwidthSuffices session (.ack transport ack) ∧
        Live transport.mssBytes transport.cwndLimitBytes
          (session.call (.ack transport ack))) := by
  obtain ⟨reached, reaches, inside⟩ := reach_ok positive fitting ordered live.sound
  obtain ⟨bandwidth, needs⟩ := reach_needs timed live.sound.estimated reaches
  have called : controllerOnAck session.controller transport ack =
      commit reached.state transport ack reached.cwnd reached.budget := by
    unfold controllerOnAck
    rw [if_neg (by simp [stateRefused_false positive fitting live, acked, timed])]
    simp only [reaches, bind, Except.bind]
  unfold call BandwidthSuffices
  simp only [called]
  rw [← bandwidth, ← needs]
  rcases commit_spec positive fitting ack inside with
    ⟨short, failed, fails⟩ | ⟨enough, policy, next, publishes, paced, sound⟩
  · left
    refine ⟨short, ?_⟩
    rw [fails]
    rintro ⟨policy, published, _⟩
    simp [settle] at published
  · right
    refine ⟨enough, ?_⟩
    rw [publishes]
    exact { sound := sound, paced := ⟨policy, rfl, paced⟩ }

/-- One call keeps the session live or, for want of bandwidth, fails. -/
theorem step_spec {mss limit : Nat} {session next : BbrSession} {event : BbrEvent}
    (positive : 0 < mss) (fitting : mss ≤ limit) (live : Live mss limit session)
    (stepped : step mss limit session event = some next) :
    (¬BandwidthSuffices session event ∧ ¬Paced next) ∨
      (BandwidthSuffices session event ∧ Live mss limit next) := by
  unfold step at stepped
  split at stepped
  · rename_i allowed
    rw [← Option.some.inj stepped]
    have admits := allowed.2
    cases event with
    | ack transport ack =>
        obtain ⟨rfl, rfl, acked, timed, ordered, _⟩ := of_decide_eq_true admits
        exact ack_spec positive fitting live acked timed ordered
    | noteLoss lostBytes =>
        exact .inr ⟨trivial, noteLoss_live live (of_decide_eq_true admits)⟩
    | recoveryEnter transport ackedBytes lostBytes =>
        obtain ⟨rfl, rfl, lost, outside⟩ := of_decide_eq_true admits
        exact .inr ⟨trivial, recoveryEnter_live positive fitting live ackedBytes lost outside⟩
    | recoveryNoteLoss transport lostBytes =>
        obtain ⟨rfl, rfl, lost, inside⟩ := of_decide_eq_true admits
        exact .inr ⟨trivial, recoveryNoteLoss_live positive fitting live lost inside⟩
    | recoveryExit transport =>
        obtain ⟨rfl, rfl, inside⟩ := of_decide_eq_true admits
        exact .inr ⟨trivial, recoveryExit_live positive fitting live inside⟩
    | timeout transport postLossInflightBytes =>
        obtain ⟨rfl, rfl⟩ := of_decide_eq_true admits
        exact .inr ⟨trivial, timeout_live positive fitting live postLossInflightBytes⟩
  · contradiction

/-- Over every run of the binding's calls, each call succeeds and publishes a nonzero rate
exactly when every ACK finds the bandwidth it needs. -/
theorem calls_succeed_iff (transport : Transport) (init : CcInit) (cycleSeed : Nat)
    (session : BbrSession) (events : List BbrEvent)
    (initial : transport.mssBytes ≤ init.initialCwndBytes)
    (started : start transport init cycleSeed = some session) :
    Run.Along Paced (step transport.mssBytes transport.cwndLimitBytes) session events ↔
      Run.Meets BandwidthSuffices (step transport.mssBytes transport.cwndLimitBytes) session
        events := by
  obtain ⟨positive, fitting, live⟩ := start_live initial started
  exact Run.along_iff_meets (Live transport.mssBytes transport.cwndLimitBytes)
    (fun _ alive => alive.paced)
    (fun _ _ _ alive stepped => step_spec positive fitting alive stepped) live

/-- One segment every 500 seconds at the given rate, delivered by a retransmission. -/
def slowAck (rate count : Nat) : BbrEvent :=
  .ack ⟨1000, 2000, 60000, 65535, by decide⟩
    { ackedBytes := 1000
      ackTimeNs := 500000000000 * (count + 1)
      smoothedRttNs := 0
      rate :=
        { deliveryRateBytesPerSec := rate
          intervalNs := 500000000000
          priorDeliveredBytes := 1000 * count
          deliveredTotalBytes := 1000 * (count + 1)
          deliveredBytes := 1000
          priorInflightBytes := 2000
          valid := true
          retransmitted := true } }

def slowAcks (rate : Nat) : List BbrEvent := (List.range 4).map (slowAck rate)

/-- Three bytes per second suffice for the drain at the end of three rounds. -/
theorem calls_succeed_iff_slowAcks :
    let transport : Transport := ⟨1000, 0, 60000, 65535, by decide⟩
    let init : CcInit := ⟨10000, 65535, 1000⟩
    ∃ session last, start transport init 0 = some session ∧
      Run.run (step 1000 65535) session (slowAcks 3) = some last ∧
      last.controller.model.mode = .drain ∧
      Run.Along Paced (step 1000 65535) session (slowAcks 3) := by
  intro transport init
  obtain ⟨⟨session, last⟩, found⟩ : ∃ found, (start transport init 0).bind (fun session =>
      ((Run.run (step 1000 65535) session (slowAcks 3)).filter (fun last =>
        last.controller.model.mode = .drain ∧
          Run.Meets BandwidthSuffices (step 1000 65535) session (slowAcks 3))).map
        (fun last => (session, last))) = some found :=
    Option.isSome_iff_exists.mp (by decide +kernel)
  obtain ⟨begun, started, continued⟩ := Option.bind_eq_some_iff.mp found
  obtain ⟨final, filtered, same⟩ := Option.map_eq_some_iff.mp continued
  obtain ⟨rfl, rfl⟩ := Prod.mk.inj same
  obtain ⟨ran, holds⟩ := Option.filter_eq_some_iff.mp filtered
  obtain ⟨drain, meets⟩ := of_decide_eq_true holds
  exact ⟨begun, final, started, ran, drain,
    (calls_succeed_iff transport init 0 begun (slowAcks 3) (by decide) started).mpr meets⟩

/-- Three rounds at two bytes per second fill the pipe, and the drain gain of that
bandwidth rounds to zero: the fourth ACK fails. -/
theorem slowAcks_fail :
    let transport : Transport := ⟨1000, 0, 60000, 65535, by decide⟩
    let init : CcInit := ⟨10000, 65535, 1000⟩
    ∃ session, start transport init 0 = some session ∧
      ¬Run.Along Paced (step 1000 65535) session (slowAcks 2) := by
  intro transport init
  obtain ⟨final, ran⟩ : ∃ final, (start transport init 0).bind (fun session =>
      (Run.run (step 1000 65535) session (slowAcks 2)).filter
        (fun last => last.published = none)) = some final :=
    Option.isSome_iff_exists.mp (by decide +kernel)
  obtain ⟨session, started, continued⟩ := Option.bind_eq_some_iff.mp ran
  obtain ⟨reached, failed⟩ := Option.filter_eq_some_iff.mp continued
  refine ⟨session, started, ?_⟩
  intro along
  obtain ⟨policy, published, _⟩ := along.final reached
  simp [published] at failed

end TcpShift.BbrSession
