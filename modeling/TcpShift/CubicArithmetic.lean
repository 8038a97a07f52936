import TcpShift.CubicBounds

set_option autoImplicit false

/- The exact values of the products and shifts of each handler, along the branches
it takes. Where the source guards a window product by saturation the product is
listed even so: the guard is never needed. -/
namespace TcpShift.Cubic

open Word

def NoWrap (values : List Nat) : Prop := ∀ value ∈ values, value < 2 ^ 64

@[simp] theorem noWrap_nil : NoWrap [] := by
  intro value member
  contradiction

@[simp] theorem noWrap_cons (value : Nat) (rest : List Nat) :
    NoWrap (value :: rest) ↔ value < 2 ^ 64 ∧ NoWrap rest := List.forall_mem_cons

@[simp] theorem noWrap_append (left right : List Nat) :
    NoWrap (left ++ right) ↔ NoWrap left ∧ NoWrap right := List.forall_mem_append

def syncProducts (model : CubicModel) (mssBytes : Nat) : List Nat :=
  if model.mssBytes = mssBytes then []
  else
    [model.cwndQ16 * model.mssBytes, model.ssthreshQ16 * model.mssBytes,
      model.wMaxQ16 * model.mssBytes, model.wEstQ16 * model.mssBytes,
      model.cwndPriorQ16 * model.mssBytes, model.cwndEpochQ16 * model.mssBytes,
      model.lastTargetQ16 * model.mssBytes]

def normalizeProducts (model : CubicModel) (transport : Transport) : List Nat :=
  [effectiveMinBytes model transport * 2 ^ qShift, transport.cwndLimitBytes * 2 ^ qShift]

def publishProducts (model : CubicModel) (transport : Transport) : List Nat :=
  let normal := normalize model transport
  normalizeProducts model transport ++
    [normal.cwndQ16 * transport.mssBytes, normal.ssthreshQ16 * transport.mssBytes,
      effectiveMinBytes normal transport * 2 ^ qShift]

def timeProducts (timeNs : Nat) : List Nat :=
  let seconds := timeNs / nsecPerSec
  let remainder := timeNs % nsecPerSec
  [seconds * 2 ^ timeQShift, remainder * 2 ^ timeQShift,
    seconds * 2 ^ timeQShift + remainder * 2 ^ timeQShift / nsecPerSec]

def cubeLeqProducts (value limit : Nat) : List Nat :=
  if value = 0 ∨ value > limit / value then [] else [value * value]

def cuberootProducts (value low high : Nat) : List Nat :=
  if low < high then
    let middle := low + (high - low + 1) / 2
    cubeLeqProducts middle value ++
      (if cubeLeq middle value then cuberootProducts value middle high
        else cuberootProducts value low (middle - 1))
  else []
termination_by high - low

def cubeSatProducts (value : Nat) : List Nat :=
  if value = 0 ∨ value > u64Max / value then []
  else if value > u64Max / (value * value) then [value * value]
  else [value * value, value * value * value]

def windowProducts (model : CubicModel) (timeQ10 : Nat) : List Nat :=
  if timeQ10 ≥ model.kQ10 then cubeSatProducts (timeQ10 - model.kQ10)
  else cubeSatProducts (model.kQ10 - timeQ10)

/-- The radicand of `K` and the search for its root, when an epoch starts below its plateau. -/
def epochProducts (model : CubicModel) : List Nat :=
  if model.epochActive ∨ model.afterTimeout ∨ model.hasWMax = false ∨
      model.wMaxQ16 ≤ model.cwndQ16 then []
  else
    (model.wMaxQ16 - model.cwndQ16) * scale ::
      cuberootProducts ((model.wMaxQ16 - model.cwndQ16) * scale) 0 u32Max

def estimateProducts (model : CubicModel) (transport : Transport) (ackedBytes nowNs : Nat) :
    List Nat :=
  let started := inEpoch model nowNs
  let cwndBytes := bytesFromQ16 started.cwndQ16 transport.mssBytes transport.cwndLimitBytes
  epochProducts model ++
    [started.cwndQ16 * transport.mssBytes, ackedBytes * 2 ^ qShift,
      ratioQ16 ackedBytes cwndBytes * renoAlphaNum]

def avoidedProducts (estimated : CubicModel) (transport : Transport)
    (nowNs smoothedRttNs : Nat) : List Nat :=
  let elapsed := timeQ10 (sub64 nowNs estimated.epochStartNs)
  let target := targetQ16 estimated elapsed smoothedRttNs (limitQ16 transport)
  timeProducts (sub64 nowNs estimated.epochStartNs) ++ windowProducts estimated elapsed ++
    (if windowQ16 estimated elapsed < estimated.wEstQ16 then []
      else timeProducts smoothedRttNs ++
        windowProducts estimated (satAdd64 elapsed (nonzeroTimeQ10 smoothedRttNs)) ++
        [(target - estimated.cwndQ16) * 2 ^ qShift])

def slowStartProducts (model : CubicModel) (transport : Transport) (ackedBytes : Nat) :
    List Nat :=
  [model.cwndQ16 * transport.mssBytes,
      slowStartBytes model transport ackedBytes * 2 ^ qShift] ++
    publishProducts (slowStartGrown model transport ackedBytes) transport

def avoidanceProducts (model : CubicModel) (transport : Transport)
    (ackedBytes nowNs smoothedRttNs : Nat) : List Nat :=
  let estimated := estimate model transport ackedBytes nowNs
  estimateProducts model transport ackedBytes nowNs ++
    avoidedProducts estimated transport nowNs smoothedRttNs ++
    publishProducts (avoided estimated transport nowNs smoothedRttNs) transport

def ackedProducts (synced : CubicModel) (transport : Transport) (ack : Ack)
    (nowNs smoothedRttNs : Nat) : List Nat :=
  let normal := normalize synced transport
  let counted := countAppLimited normal ack
  normalizeProducts synced transport ++
    (if ack.rate.appLimited = false ∧ normal.ssthreshQ16 ≤ normal.cwndQ16 ∧ smoothedRttNs = 0 then
      []
    else if ack.rate.appLimited ∧ normal.ssthreshQ16 ≤ normal.cwndQ16 then
      publishProducts (finishHystartpp (pauseEpoch counted nowNs)) transport
    else
      let resumed := resumeEpoch counted nowNs
      if resumed.cwndQ16 < resumed.ssthreshQ16 then
        slowStartProducts resumed transport ack.ackedBytes
      else avoidanceProducts resumed transport ack.ackedBytes nowNs smoothedRttNs)

def betaProducts (transport : Transport) (floorSegments : Nat) : List Nat :=
  [transport.inflightBytes * betaNum, transport.mssBytes * floorSegments]

def reduceProducts (synced : CubicModel) (transport : Transport) (floorSegments : Nat) :
    List Nat :=
  let normal := normalize synced transport
  let reducedBytes := max (betaFlightBytes transport floorSegments)
    (effectiveMinBytes normal transport)
  normalizeProducts synced transport ++ [normal.cwndQ16 * fastConvergenceNum] ++
    betaProducts transport floorSegments ++ [reducedBytes * 2 ^ qShift] ++
    publishProducts (reduce synced transport floorSegments) transport

def collapseProducts (synced : CubicModel) (transport : Transport) : List Nat :=
  let normal := normalize synced transport
  normalizeProducts synced transport ++ betaProducts transport 2 ++
    [betaFlightBytes transport 2 * 2 ^ qShift,
      effectiveMinBytes normal transport * 2 ^ qShift] ++
    publishProducts (collapse synced transport) transport

def initProducts (transport : Transport) (init : CcInit) : List Nat :=
  [init.initialCwndBytes * 2 ^ qShift, init.initialSsthreshBytes * 2 ^ qShift] ++
    publishProducts (initialModel transport init) transport

/-- The products of a handler that first brings the model to the segment size. -/
def syncedProducts (model : CubicModel) (transport : Transport)
    (rest : CubicModel → List Nat) : List Nat :=
  match syncMss model transport.mssBytes with
  | none => []
  | some synced => syncProducts model transport.mssBytes ++ rest synced

def eventProducts (model : CubicModel) : CcEvent → List Nat
  | .ack transport ack =>
      match hystartOnAck model transport ack ack.ackTimeNs with
      | none => []
      | some observed =>
          syncedProducts observed transport (fun synced =>
            ackedProducts synced transport (growthAck observed transport ack) ack.ackTimeNs
              ack.smoothedRttNs)
  | .loss transport _ => syncedProducts model transport (reduceProducts · transport 2)
  | .ecn transport => syncedProducts model transport (reduceProducts · transport 1)
  | .timeout transport => syncedProducts model transport (collapseProducts · transport)

theorem syncProducts_noWrap {limit mss : Nat} {model : CubicModel} (small : limit < 2 ^ 32)
    (fits : Fits limit mss model) (newMss : Nat) : NoWrap (syncProducts model newMss) := by
  have inside : ∀ value, Within limit mss value → value * model.mssBytes < 2 ^ 64 := by
    intro value within
    unfold Within at within
    rw [fits.segment]
    omega
  unfold syncProducts
  split
  · exact noWrap_nil
  · simp only [noWrap_cons, noWrap_nil, and_true]
    exact ⟨inside _ fits.cwnd, inside _ fits.ssthresh, inside _ fits.wMax, inside _ fits.wEst,
      inside _ fits.cwndPrior, inside _ fits.cwndEpoch, inside _ fits.lastTarget⟩

section Products

variable {model : CubicModel} {transport : Transport}

theorem shifted_lt {bytes : Nat} (inside : bytes ≤ transport.cwndLimitBytes) :
    bytes * 2 ^ qShift < 2 ^ 64 := by
  have range := transport.inU32.2.2.2
  unfold qShift
  omega

theorem Within.product_lt {value : Nat}
    (within : Within transport.cwndLimitBytes transport.mssBytes value) :
    value * transport.mssBytes < 2 ^ 64 := by
  have range := transport.inU32.2.2.2
  unfold Within at within
  omega

theorem normalizeProducts_noWrap (model : CubicModel) (transport : Transport) :
    NoWrap (normalizeProducts model transport) := by
  simp only [normalizeProducts, noWrap_cons, noWrap_nil, and_true]
  exact ⟨shifted_lt (effectiveMinBytes_le model transport), shifted_lt (Nat.le_refl _)⟩

theorem publishProducts_noWrap
    (others : Others transport.cwndLimitBytes transport.mssBytes model) :
    NoWrap (publishProducts model transport) := by
  have normal := normalize_fits others
  simp only [publishProducts, noWrap_append, noWrap_cons, noWrap_nil, and_true]
  exact ⟨normalizeProducts_noWrap model transport, normal.cwnd.product_lt,
    normal.ssthresh.product_lt, shifted_lt (effectiveMinBytes_le _ transport)⟩

theorem timeProducts_noWrap {timeNs : Nat} (range : timeNs < 2 ^ 64) :
    NoWrap (timeProducts timeNs) := by
  simp only [timeProducts, nsecPerSec, timeQShift, noWrap_cons, noWrap_nil, and_true]
  omega

theorem square_le {value bound : Nat} (guarded : ¬value > bound / value) (positive : 0 < value) :
    value * value ≤ bound :=
  (Nat.le_div_iff_mul_le positive).mp (Nat.not_lt.mp guarded)

theorem cubeLeqProducts_noWrap (value : Nat) {limit : Nat} (range : limit < 2 ^ 64) :
    NoWrap (cubeLeqProducts value limit) := by
  unfold cubeLeqProducts
  split
  · exact noWrap_nil
  · rename_i guarded
    push Not at guarded
    have square := square_le (Nat.not_lt.mpr guarded.2) (Nat.pos_of_ne_zero guarded.1)
    simp only [noWrap_cons, noWrap_nil, and_true]
    omega

theorem cuberootProducts_noWrap {value : Nat} (range : value < 2 ^ 64) (low high : Nat) :
    NoWrap (cuberootProducts value low high) := by
  fun_induction cuberootProducts value low high with
  | case1 low high search middle upper lower =>
      simp only [noWrap_append]
      refine ⟨cubeLeqProducts_noWrap _ range, ?_⟩
      split
      · exact upper
      · exact lower
  | case2 low high done => exact noWrap_nil

theorem cubeSatProducts_noWrap (value : Nat) : NoWrap (cubeSatProducts value) := by
  unfold cubeSatProducts
  split
  · exact noWrap_nil
  · rename_i guarded
    push Not at guarded
    have positive := Nat.pos_of_ne_zero guarded.1
    have square := square_le (Nat.not_lt.mpr guarded.2) positive
    unfold u64Max at square
    split
    · simp only [noWrap_cons, noWrap_nil, and_true]
      omega
    · rename_i cubed
      have cube := (Nat.le_div_iff_mul_le (Nat.mul_pos positive positive)).mp
        (Nat.not_lt.mp cubed)
      rw [Nat.mul_comm] at cube
      unfold u64Max at cube
      simp only [noWrap_cons, noWrap_nil, and_true]
      omega

theorem windowProducts_noWrap (model : CubicModel) (timeQ10 : Nat) :
    NoWrap (windowProducts model timeQ10) := by
  unfold windowProducts
  split
  · exact cubeSatProducts_noWrap _
  · exact cubeSatProducts_noWrap _

theorem epochProducts_noWrap (fits : Fits transport.cwndLimitBytes transport.mssBytes model) :
    NoWrap (epochProducts model) := by
  have range := transport.inU32.2.2.2
  have plateau := fits.wMax.value_le fits.positive
  have radicand : (model.wMaxQ16 - model.cwndQ16) * scale < 2 ^ 64 := by
    unfold scale
    omega
  unfold epochProducts
  split
  · exact noWrap_nil
  · exact (noWrap_cons _ _).mpr ⟨radicand, cuberootProducts_noWrap radicand 0 u32Max⟩

theorem estimateProducts_noWrap {ackedBytes : Nat} (nowNs : Nat) (acked : ackedBytes < 2 ^ 32)
    (fits : Fits transport.cwndLimitBytes transport.mssBytes model) :
    NoWrap (estimateProducts model transport ackedBytes nowNs) := by
  have ratio : ∀ cwndBytes, ratioQ16 ackedBytes cwndBytes ≤ ackedBytes * 65536 := by
    intro cwndBytes
    unfold ratioQ16
    split
    · omega
    · rw [shl64_of_lt (by unfold qShift; omega)]
      exact Nat.div_le_self _ _
  have alpha := ratio (bytesFromQ16 (inEpoch model nowNs).cwndQ16 transport.mssBytes
    transport.cwndLimitBytes)
  simp only [estimateProducts, noWrap_append, noWrap_cons, noWrap_nil, and_true]
  refine ⟨epochProducts_noWrap fits, (inEpoch_fits nowNs fits).cwnd.product_lt, ?_, ?_⟩
  · unfold qShift
    omega
  · unfold renoAlphaNum
    omega

theorem avoidedProducts_noWrap (nowNs : Nat) {smoothedRttNs : Nat}
    (rtt : smoothedRttNs < 2 ^ 64)
    (fits : Fits transport.cwndLimitBytes transport.mssBytes model) :
    NoWrap (avoidedProducts model transport nowNs smoothedRttNs) := by
  have range := transport.inU32.2.2.2
  have limit := (limitQ16_within transport fits.positive).value_le fits.positive
  have elapsed : sub64 nowNs model.epochStartNs < 2 ^ 64 := Nat.mod_lt _ (by decide)
  have target := (targetQ16_range (timeQ10 (sub64 nowNs model.epochStartNs)) smoothedRttNs
    fits).2.1
  simp only [avoidedProducts, noWrap_append]
  refine ⟨⟨timeProducts_noWrap elapsed, windowProducts_noWrap model _⟩, ?_⟩
  split
  · exact noWrap_nil
  · simp only [noWrap_append, noWrap_cons, noWrap_nil, and_true]
    refine ⟨⟨timeProducts_noWrap rtt, windowProducts_noWrap model _⟩, ?_⟩
    unfold qShift
    omega

theorem slowStartProducts_noWrap (ackedBytes : Nat)
    (fits : Fits transport.cwndLimitBytes transport.mssBytes model) :
    NoWrap (slowStartProducts model transport ackedBytes) := by
  simp only [slowStartProducts, noWrap_append, noWrap_cons, noWrap_nil, and_true]
  exact ⟨⟨fits.cwnd.product_lt, shifted_lt (slowStartBytes_le ackedBytes)⟩,
    publishProducts_noWrap (slowStartGrown_fits ackedBytes fits).toOthers⟩

theorem avoidanceProducts_noWrap {ackedBytes : Nat} (nowNs : Nat) {smoothedRttNs : Nat}
    (acked : ackedBytes < 2 ^ 32) (rtt : smoothedRttNs < 2 ^ 64)
    (fits : Fits transport.cwndLimitBytes transport.mssBytes model) :
    NoWrap (avoidanceProducts model transport ackedBytes nowNs smoothedRttNs) := by
  have estimated := estimate_fits ackedBytes nowNs fits
  simp only [avoidanceProducts, noWrap_append]
  exact ⟨⟨estimateProducts_noWrap nowNs acked fits, avoidedProducts_noWrap nowNs rtt estimated⟩,
    publishProducts_noWrap (avoided_others nowNs smoothedRttNs estimated)⟩

theorem ackedProducts_noWrap {ack : Ack} (nowNs : Nat) {smoothedRttNs : Nat}
    (acked : ack.ackedBytes < 2 ^ 32) (rtt : smoothedRttNs < 2 ^ 64)
    (fits : Fits transport.cwndLimitBytes transport.mssBytes model) :
    NoWrap (ackedProducts model transport ack nowNs smoothedRttNs) := by
  have counted := countAppLimited_fits ack (normalize_fits fits.toOthers)
  simp only [ackedProducts, noWrap_append]
  refine ⟨normalizeProducts_noWrap model transport, ?_⟩
  split
  · exact noWrap_nil
  · split
    · exact publishProducts_noWrap (finishHystartpp_fits (pauseEpoch_fits nowNs counted)).toOthers
    · have resumed := resumeEpoch_fits nowNs counted
      split
      · exact slowStartProducts_noWrap _ resumed
      · exact avoidanceProducts_noWrap nowNs acked rtt resumed

theorem betaProducts_noWrap (transport : Transport) {floorSegments : Nat}
    (few : floorSegments ≤ 2) : NoWrap (betaProducts transport floorSegments) := by
  have mss := transport.inU32.1
  have flight := transport.inU32.2.1
  have floor := Nat.mul_le_mul_left transport.mssBytes few
  simp only [betaProducts, betaNum, noWrap_cons, noWrap_nil, and_true]
  omega

theorem reduceProducts_noWrap {floorSegments : Nat} (few : floorSegments ≤ 2)
    (fits : Fits transport.cwndLimitBytes transport.mssBytes model) :
    NoWrap (reduceProducts model transport floorSegments) := by
  have range := transport.inU32.2.2.2
  have normal := normalize_fits fits.toOthers
  have window := normal.cwnd.value_le fits.positive
  have fast : (normalize model transport).cwndQ16 * fastConvergenceNum < 2 ^ 64 := by
    unfold fastConvergenceNum
    omega
  simp only [reduceProducts, noWrap_append, noWrap_cons, noWrap_nil, and_true]
  exact ⟨⟨⟨⟨normalizeProducts_noWrap model transport, fast⟩, betaProducts_noWrap transport few⟩,
    shifted_lt (Nat.max_le.mpr
      ⟨betaFlightBytes_le transport floorSegments, effectiveMinBytes_le _ transport⟩)⟩,
    publishProducts_noWrap (reduce_fits floorSegments fits).toOthers⟩

theorem collapseProducts_noWrap
    (fits : Fits transport.cwndLimitBytes transport.mssBytes model) :
    NoWrap (collapseProducts model transport) := by
  simp only [collapseProducts, noWrap_append, noWrap_cons, noWrap_nil, and_true]
  exact ⟨⟨⟨normalizeProducts_noWrap model transport, betaProducts_noWrap transport (by omega)⟩,
    shifted_lt (betaFlightBytes_le transport 2), shifted_lt (effectiveMinBytes_le _ transport)⟩,
    publishProducts_noWrap (collapse_fits fits).toOthers⟩

theorem syncedProducts_noWrap {mss : Nat} {rest : CubicModel → List Nat}
    (fits : Fits transport.cwndLimitBytes mss model)
    (inner : ∀ synced, Fits transport.cwndLimitBytes transport.mssBytes synced →
      NoWrap (rest synced)) :
    NoWrap (syncedProducts model transport rest) := by
  unfold syncedProducts
  cases done : syncMss model transport.mssBytes with
  | none => exact noWrap_nil
  | some synced =>
      simp only [noWrap_append]
      exact ⟨syncProducts_noWrap transport.inU32.2.2.2 fits _,
        inner synced (syncMss_fits transport.inU32.2.2.2 fits done).1⟩

end Products

end TcpShift.Cubic
