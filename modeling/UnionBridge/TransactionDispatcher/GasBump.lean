import Mathlib.Order.Iterate
import UnionBridge.Lib.Word64

/-!
# Gas limits of transactions (`transaction-dispatcher/src/contracts/common.rs`)

A transaction that ran out of gas is sent again with more. The limit is computed with saturating
products, each followed by a division, so a saturated product comes back as a hundredth of the
largest word. The bumps keep below this ceiling, and there a bump never lowers the limit.
-/

namespace UnionBridge.TransactionDispatcher

open Word64

def baseGasHeadroomPercent : UInt64 := 120

def perAttemptBumpPercent : UInt64 := 110

def maxGasLimit : UInt64 := 5000000

def ethRpcInvalidParams : Int := -32602

/-- The error of the transport: `ErrorPayload` without data. -/
structure TransportError where
  code : Int
  message : String
deriving DecidableEq, Repr

/-- `gas.saturating_mul(percent).saturating_div(100)`. -/
def percentOf (percent gas : UInt64) : UInt64 := saturatingMul gas percent / 100

def bumpedGas (estimated : UInt64) (attempt : UInt8) : UInt64 :=
  let base := percentOf baseGasHeadroomPercent estimated
  let bumped := (percentOf perAttemptBumpPercent)^[attempt.toNat] base
  -- never go below estimated
  max bumped estimated

def calculateGasLimitWithCap (estimatedGas : UInt64) (attempt : UInt8) :
    Except TransportError UInt64 :=
  let gasLimit := bumpedGas estimatedGas attempt
  if gasLimit > maxGasLimit then
    .error ⟨ethRpcInvalidParams, s!"Maximum gas limit exceeded: {gasLimit} > {maxGasLimit}"⟩
  else .ok gasLimit

/-! ## One bump -/

/-- `percentOf` in natural numbers. -/
def saturatedPercent (percent gas : Nat) : Nat := min (gas * percent) (2 ^ 64 - 1) / 100

theorem toNat_percentOf (percent gas : UInt64) :
    (percentOf percent gas).toNat = saturatedPercent percent.toNat gas.toNat := by
  rw [percentOf, UInt64.toNat_div, toNat_saturatingMul]
  rfl

/-- What a saturated product comes back as. -/
def ceiling : Nat := (2 ^ 64 - 1) / 100

variable {percent gas : Nat}

theorem saturatedPercent_le_ceiling : saturatedPercent percent gas ≤ ceiling :=
  Nat.div_le_div_right (Nat.min_le_right _ _)

theorem saturatedPercent_mono : Monotone (saturatedPercent percent) := by
  intro gas gas' h
  exact Nat.div_le_div_right (min_le_min (Nat.mul_le_mul_right _ h) le_rfl)

theorem le_saturatedPercent (hpercent : 100 ≤ percent) (h : gas ≤ ceiling) :
    gas ≤ saturatedPercent percent gas := by
  have hgrows : gas * 100 ≤ gas * percent := Nat.mul_le_mul_left _ hpercent
  have hfits : gas * 100 ≤ 2 ^ 64 - 1 := (Nat.le_div_iff_mul_le (by decide)).mp h
  exact (Nat.le_div_iff_mul_le (by decide)).mpr (le_min hgrows hfits)

theorem saturatedPercent_exact (h : saturatedPercent percent gas < ceiling) :
    gas * percent < 2 ^ 64 ∧ saturatedPercent percent gas = gas * percent / 100 := by
  unfold saturatedPercent at h ⊢
  have hfits : gas * percent < 2 ^ 64 := by
    by_contra hover
    rw [min_eq_right (by omega)] at h
    exact lt_irrefl _ h
  exact ⟨hfits, by rw [min_eq_left (by omega)]⟩

/-! ## All bumps of a limit -/

/-- The limit after a number of bumps. -/
def bumps (estimated n : Nat) : Nat := (saturatedPercent 110)^[n] (saturatedPercent 120 estimated)

theorem toNat_bumpedGas (estimated : UInt64) (attempt : UInt8) :
    (bumpedGas estimated attempt).toNat
      = max (bumps estimated.toNat attempt.toNat) estimated.toNat := by
  have hbump : Function.Semiconj UInt64.toNat (percentOf perAttemptBumpPercent)
      (saturatedPercent 110) := toNat_percentOf _
  rw [bumpedGas, toNat_max, hbump.iterate_right attempt.toNat, toNat_percentOf]
  rfl

theorem bumps_succ (estimated n : Nat) :
    bumps estimated (n + 1) = saturatedPercent 110 (bumps estimated n) :=
  Function.iterate_succ_apply' _ _ _

theorem bumps_le_ceiling (estimated n : Nat) : bumps estimated n ≤ ceiling := by
  cases n with
  | zero => exact saturatedPercent_le_ceiling
  | succ n =>
    rw [bumps_succ]
    exact saturatedPercent_le_ceiling

theorem bumps_mono (estimated : Nat) : Monotone (bumps estimated) := by
  refine monotone_nat_of_le_succ fun n => ?_
  rw [bumps_succ]
  exact le_saturatedPercent (by decide) (bumps_le_ceiling estimated n)

theorem bumps_mono_estimated (n : Nat) : Monotone fun estimated => bumps estimated n :=
  (saturatedPercent_mono.iterate n).comp saturatedPercent_mono

/-- The value that the bumps stand for. -/
def compounded (estimated : Nat) : Nat → Nat
  | 0 => estimated * 120 / 100
  | n + 1 => compounded estimated n * 110 / 100

theorem bumps_exact {estimated n : Nat} (h : bumps estimated n < ceiling) :
    bumps estimated n = compounded estimated n ∧ estimated * 120 < 2 ^ 64
      ∧ ∀ i < n, compounded estimated i * 110 < 2 ^ 64 := by
  induction n with
  | zero =>
    obtain ⟨hfits, hexact⟩ := saturatedPercent_exact h
    exact ⟨hexact, hfits, fun i hi => absurd hi (Nat.not_lt_zero i)⟩
  | succ n ih =>
    obtain ⟨hvalue, hbase, hbefore⟩ := ih (lt_of_le_of_lt (bumps_mono estimated n.le_succ) h)
    rw [bumps_succ] at h ⊢
    obtain ⟨hfits, hexact⟩ := saturatedPercent_exact h
    rw [hvalue] at hfits hexact
    refine ⟨hvalue ▸ hexact, hbase, fun i hi => ?_⟩
    rcases Nat.lt_succ_iff_lt_or_eq.mp hi with hi | rfl
    · exact hbefore i hi
    · exact hfits

/-- **The gas limit** is at least the estimate and grows with the estimate and the attempts, also
where products saturate; and a limit under the cap is the exact compounded value. -/
theorem gasLimit_grows_and_exact :
    (∀ estimated attempt, estimated ≤ bumpedGas estimated attempt)
    ∧ (∀ estimated estimated' attempt attempt', estimated ≤ estimated' → attempt ≤ attempt' →
      bumpedGas estimated attempt ≤ bumpedGas estimated' attempt')
    ∧ ∀ estimated attempt gasLimit, calculateGasLimitWithCap estimated attempt = .ok gasLimit →
      gasLimit.toNat = max (compounded estimated.toNat attempt.toNat) estimated.toNat
      ∧ estimated.toNat * 120 < 2 ^ 64
      ∧ ∀ i < attempt.toNat, compounded estimated.toNat i * 110 < 2 ^ 64 := by
  refine ⟨fun estimated attempt => ?_,
    fun estimated estimated' attempt attempt' hestimated hattempt => ?_,
    fun estimated attempt gasLimit h => ?_⟩
  · rw [UInt64.le_iff_toNat_le, toNat_bumpedGas]
    exact le_max_right _ _
  · rw [UInt64.le_iff_toNat_le, toNat_bumpedGas, toNat_bumpedGas]
    have hbumps : bumps estimated.toNat attempt.toNat ≤ bumps estimated'.toNat attempt'.toNat :=
      (bumps_mono _ hattempt).trans (bumps_mono_estimated _ hestimated)
    exact max_le_max hbumps hestimated
  · simp only [calculateGasLimitWithCap] at h
    split at h
    · cases h
    next hcap =>
    cases h
    rw [gt_iff_lt, UInt64.lt_iff_toNat_lt, toNat_bumpedGas, not_lt] at hcap
    have hlow : bumps estimated.toNat attempt.toNat < ceiling :=
      ((le_max_left _ _).trans hcap).trans_lt (by decide)
    obtain ⟨hvalue, hfits⟩ := bumps_exact hlow
    exact ⟨by rw [toNat_bumpedGas, hvalue], hfits⟩

theorem gasLimit_grows_and_exact_sample :
    (159720 : UInt64).toNat = max (compounded 100000 3) 100000 :=
  (gasLimit_grows_and_exact.2.2 100000 3 159720 (by decide +kernel)).1

end UnionBridge.TransactionDispatcher
