import Mathlib.Tactic.Linarith
import Mathlib.Tactic.Ring
import UnionBridge.Lib.Outcome
import UnionBridge.Lib.Word256
import UnionBridge.Lib.Word64

/-!
# The funding of a member (`op-funding/src/lib.rs`)

What a member needs to take part in a stream: Bitcoin for the outputs it funds, and RBTC for its
deposit and the gas of its later transactions. The Bitcoin amounts are 64-bit words and overflow is
an error. The reserve for gas grows with the number of slots a member can expect to serve, a bound
with a square root that is found by bisection.
-/

namespace UnionBridge.OpFunding

open Word64

/-! ## Words of 128 bits -/

abbrev U128 := BitVec 128

namespace U128

def max : U128 := BitVec.allOnes 128

def checkedAdd (a b : U128) : Option U128 :=
  if a.toNat + b.toNat < 2 ^ 128 then some (a + b) else none

def checkedSub (a b : U128) : Option U128 := if b ≤ a then some (a - b) else none

def checkedMul (a b : U128) : Option U128 :=
  if a.toNat * b.toNat < 2 ^ 128 then some (a * b) else none

def saturatingAdd (a b : U128) : U128 := if a.toNat + b.toNat < 2 ^ 128 then a + b else max

def saturatingMul (a b : U128) : U128 := if a.toNat * b.toNat < 2 ^ 128 then a * b else max

def divCeil (a b : U128) : U128 := BitVec.ofNat 128 ((a.toNat + b.toNat - 1) / b.toNat)

theorem exists_checkedAdd {a b : U128} (h : a.toNat + b.toNat < 2 ^ 128) :
    ∃ c, checkedAdd a b = some c ∧ c.toNat = a.toNat + b.toNat :=
  ⟨a + b, if_pos h, by rw [BitVec.toNat_add, Nat.mod_eq_of_lt h]⟩

theorem exists_checkedSub {a b : U128} (h : b.toNat ≤ a.toNat) :
    ∃ c, checkedSub a b = some c ∧ c.toNat = a.toNat - b.toNat :=
  ⟨a - b, if_pos h, BitVec.toNat_sub_of_le h⟩

theorem exists_checkedMul {a b : U128} (h : a.toNat * b.toNat < 2 ^ 128) :
    ∃ c, checkedMul a b = some c ∧ c.toNat = a.toNat * b.toNat :=
  ⟨a * b, if_pos h, by rw [BitVec.toNat_mul, Nat.mod_eq_of_lt h]⟩

theorem toNat_saturatingAdd (a b : U128) :
    (saturatingAdd a b).toNat = min (a.toNat + b.toNat) (2 ^ 128 - 1) :=
  toNat_capped (BitVec.toNat_add a b)

theorem toNat_saturatingMul (a b : U128) :
    (saturatingMul a b).toNat = min (a.toNat * b.toNat) (2 ^ 128 - 1) :=
  toNat_capped (BitVec.toNat_mul a b)

end U128

/-! ## Bitcoin -/

def streamDenominations : List UInt64 := [100000, 1000000, 10000000, 100000000, 1000000000]
def fundingAmountPerSlot : UInt64 := 12000
def disputeChannelFundingPerMember : UInt64 := 50000
def dustValue : UInt64 := 540
def speedupValue : UInt64 := 540
def regtestSpeedupFundsValue : UInt64 := 1000000
def nonRegtestSpeedupFundsValue : UInt64 := 30000
def exampleProtocolFundingSafetyBuffer : UInt64 := 5000
def exampleTotalFundingSafetyBuffer : UInt64 := 10000
def operatorFundingMarginNumerator : UInt64 := 25
def operatorFundingMarginDenominator : UInt64 := 100
def regtestFeeRate : UInt64 := 10
def nonRegtestFeeRate : UInt64 := 1

structure StreamFundingProfile where
  denomination : UInt64
  protocolFunding : UInt64
  speedUpUtxo : UInt64
  advanceFunds : UInt64
  operatorFundAmount : UInt64
deriving DecidableEq

inductive FundingProfileError where
  | unknownStreamId (streamId : UInt64)
  | arithmeticOverflow
deriving DecidableEq

def FundingProfileError.text : FundingProfileError → String
  | unknownStreamId streamId => "invalid stream id " ++ toString streamId ++ " (expected 0-4)"
  | arithmeticOverflow => "funding profile arithmetic overflow"

def streamDenomination (streamId : UInt64) : Option UInt64 := streamDenominations[streamId.toNat]?

def calculateAdvanceFundsValue (streamDenomination : UInt64) : Option UInt64 := do
  checkedDiv (← checkedMul streamDenomination 12) 10

def estimateFee (inputQuantity outputQuantity feeRate : UInt64) : Option UInt64 := do
  let withInputs ← checkedAdd 46 (← checkedMul inputQuantity 68)
  let withOutputs ← checkedAdd withInputs (← checkedMul outputQuantity 34)
  checkedMul withOutputs feeRate

def feeRate (isRegtest : Bool) : UInt64 := if isRegtest then regtestFeeRate else nonRegtestFeeRate

def operatorFundingValue (slotsPerPackage : UInt64) (isRegtest : Bool) : Option UInt64 := do
  let value ← checkedAdd (← checkedMul fundingAmountPerSlot slotsPerPackage) speedupValue
  checkedAdd value (← estimateFee 1 (← checkedAdd slotsPerPackage 2) (feeRate isRegtest))

def watchtowerFundingValue (committeeMemberCount : UInt64) (isRegtest : Bool) : Option UInt64 := do
  let value ← checkedAdd (← checkedMul disputeChannelFundingPerMember committeeMemberCount)
    speedupValue
  checkedAdd value (← estimateFee 1 (← checkedAdd committeeMemberCount 2) (feeRate isRegtest))

def fundingWtDisablerDirectoryValue (proverCount : UInt64) (isRegtest : Bool) : Option UInt64 := do
  let outputQuantity ← checkedMul proverCount 2
  let value ← checkedAdd (← checkedMul (← checkedMul dustValue proverCount) 2) speedupValue
  checkedAdd value (← estimateFee 2 outputQuantity (feeRate isRegtest))

def fundingOpDisablerDirectoryValue (slotsPerPackage : UInt64) (isRegtest : Bool) :
    Option UInt64 := do
  let value ← checkedAdd (← checkedMul dustValue slotsPerPackage) speedupValue
  checkedAdd value (← estimateFee 2 (← checkedAdd slotsPerPackage 1) (feeRate isRegtest))

def speedupFundsValue (isRegtest : Bool) : UInt64 :=
  if isRegtest then regtestSpeedupFundsValue else nonRegtestSpeedupFundsValue

def operatorFundingMargin (denomination : UInt64) : Option UInt64 := do
  checkedDiv (← checkedMul denomination operatorFundingMarginNumerator)
    operatorFundingMarginDenominator

/-- `value.ok_or(FundingProfileError::ArithmeticOverflow)`. -/
def orOverflow (value : Option UInt64) : Except FundingProfileError UInt64 :=
  match value with
  | some value => .ok value
  | none => .error .arithmeticOverflow

def deriveStreamFundingProfile (streamId : UInt64) (isRegtest : Bool)
    (slotsPerPackage committeeMemberCount proverCount : UInt64) :
    Except FundingProfileError StreamFundingProfile := do
  let denomination ← match streamDenomination streamId with
    | some denomination => .ok denomination
    | none => .error (.unknownStreamId streamId)
  let speedUpUtxo := speedupFundsValue isRegtest
  let advanceFunds ← orOverflow (calculateAdvanceFundsValue denomination)
  let operatorFunding ← orOverflow (operatorFundingValue slotsPerPackage isRegtest)
  let opDisablerFunding ← orOverflow (fundingOpDisablerDirectoryValue slotsPerPackage isRegtest)
  let watchtowerFunding ← orOverflow (watchtowerFundingValue committeeMemberCount isRegtest)
  let wtDisablerFunding ← orOverflow (fundingWtDisablerDirectoryValue proverCount isRegtest)
  let protocolFunding ← orOverflow do
    let value ← checkedAdd operatorFunding opDisablerFunding
    let value ← checkedAdd value watchtowerFunding
    let value ← checkedAdd value wtDisablerFunding
    checkedAdd value exampleProtocolFundingSafetyBuffer
  let operatorFundAmount ← orOverflow do
    let value ← checkedAdd speedUpUtxo advanceFunds
    let value ← checkedAdd value operatorFunding
    let value ← checkedAdd value opDisablerFunding
    let value ← checkedAdd value watchtowerFunding
    let value ← checkedAdd value wtDisablerFunding
    let value ← checkedAdd value exampleTotalFundingSafetyBuffer
    checkedAdd value (← operatorFundingMargin denomination)
  pure { denomination, protocolFunding, speedUpUtxo, advanceFunds, operatorFundAmount }

/-! ### The amounts of a profile

A checked computation that only adds and multiplies has no intermediate result above its last one, so
it fails exactly when the last one is not a word. -/

section Computes

variable {value : Option UInt64} {k n : Nat} {α : Type} {P : α → Prop}

/-- The computation returns the number if it is a word, and nothing otherwise. -/
def Computes (value : Option UInt64) (n : Nat) : Prop := ∀ v, value = some v ↔ v.toNat = n

theorem computes_add (a b : UInt64) : Computes (checkedAdd a b) (a.toNat + b.toNat) :=
  fun _ => checkedAdd_eq_some

theorem computes_mul (a b : UInt64) : Computes (checkedMul a b) (a.toNat * b.toNat) :=
  fun _ => checkedMul_eq_some

theorem Computes.exists_eq (h : Computes value n) (hn : n < 2 ^ 64) :
    ∃ v, value = some v ∧ v.toNat = n := by
  have hword : (UInt64.ofNat n).toNat = n := UInt64.toNat_ofNat_of_lt' hn
  exact ⟨_, (h _).mpr hword, hword⟩

theorem Computes.bind {f : UInt64 → Option UInt64} (h : Computes value k) (hle : k ≤ n)
    (hf : ∀ v, v.toNat = k → Computes (f v) n) : Computes (value >>= f) n := by
  intro w
  rw [Option.bind_eq_bind, Option.bind_eq_some_iff]
  constructor
  · rintro ⟨v, hv, hw⟩
    exact (hf v ((h v).mp hv) w).mp hw
  · intro hw
    obtain ⟨v, hv, hk⟩ := h.exists_eq (lt_of_le_of_lt hle (hw ▸ w.toNat_lt))
    exact ⟨v, hv, (hf v hk w).mpr hw⟩

/-- The function returns what it should if the number is a word, and reports the overflow
otherwise. -/
def Derives (result : Except FundingProfileError α) (n : Nat) (P : α → Prop) : Prop :=
  if n < 2 ^ 64 then ∃ a, result = .ok a ∧ P a else result = .error .arithmeticOverflow

theorem Derives.bind {f : UInt64 → Except FundingProfileError α} (h : Computes value k)
    (hle : k ≤ n) (hf : ∀ v, v.toNat = k → Derives (f v) n P) :
    Derives (orOverflow value >>= f) n P := by
  by_cases hk : k < 2 ^ 64
  · obtain ⟨v, rfl, hv⟩ := h.exists_eq hk
    exact hf v hv
  · rw [Derives, if_neg (by omega)]
    cases value with
    | none => rfl
    | some v => exact absurd ((h v).mp rfl ▸ v.toNat_lt) hk

end Computes

def exactFee (inputs outputs rate : Nat) : Nat := (46 + inputs * 68 + outputs * 34) * rate

/-- What the protocols of a committee need, over natural numbers. -/
def exactWork (slots members provers rate : Nat) : Nat :=
  (12000 * slots + 540 + exactFee 1 (slots + 2) rate)
    + (540 * slots + 540 + exactFee 2 (slots + 1) rate)
    + (50000 * members + 540 + exactFee 1 (members + 2) rate)
    + (540 * provers * 2 + 540 + exactFee 2 (provers * 2) rate)

section Exact

variable (slots members provers : UInt64) (isRegtest : Bool)

theorem computes_estimateFee (inputs outputs : UInt64) :
    Computes (estimateFee inputs outputs (feeRate isRegtest))
      (exactFee inputs.toNat outputs.toNat (feeRate isRegtest).toNat) := by
  have hrate : 1 ≤ (feeRate isRegtest).toNat := by cases isRegtest <;> decide
  have hle : 46 + inputs.toNat * 68 + outputs.toNat * 34
      ≤ exactFee inputs.toNat outputs.toNat (feeRate isRegtest).toNat :=
    Nat.le_mul_of_pos_right _ hrate
  refine (computes_mul inputs 68).bind ?_ fun a ha => (computes_add 46 a).bind ?_ fun b hb =>
    (computes_mul outputs 34).bind ?_ fun c hc => (computes_add b c).bind ?_ fun d hd => ?_
  all_goals simp only [UInt64.reduceToNat] at *
  · omega
  · omega
  · omega
  · omega
  · intro v
    rw [checkedMul_eq_some, hd, hb, ha, hc, exactFee]

/-- The amounts for slots and for members: a multiple of the count, a fixed part, and the fee of a
transaction with an output for each. -/
theorem computes_mulAddFee (factor count fixed extra inputs : UInt64) (hfactor : 1 ≤ factor.toNat)
    (hextra : extra.toNat ≤ fixed.toNat) :
    Computes (do
        let value ← checkedAdd (← checkedMul factor count) fixed
        checkedAdd value (← estimateFee inputs (← checkedAdd count extra) (feeRate isRegtest)))
      (factor.toNat * count.toNat + fixed.toNat
        + exactFee inputs.toNat (count.toNat + extra.toNat) (feeRate isRegtest).toNat) := by
  have hle : count.toNat ≤ factor.toNat * count.toNat := Nat.le_mul_of_pos_left _ hfactor
  refine (computes_mul factor count).bind (by omega) fun a ha =>
    (computes_add a fixed).bind (by omega) fun b hb =>
    (computes_add count extra).bind (by omega) fun c hc =>
    (computes_estimateFee isRegtest inputs c).bind (by rw [hc]; omega) fun d hd v => ?_
  rw [checkedAdd_eq_some, hd, hb, ha, hc]

theorem computes_operatorFundingValue : Computes (operatorFundingValue slots isRegtest)
    (12000 * slots.toNat + 540 + exactFee 1 (slots.toNat + 2) (feeRate isRegtest).toNat) :=
  computes_mulAddFee isRegtest fundingAmountPerSlot slots speedupValue 2 1 (by decide) (by decide)

theorem computes_fundingOpDisablerDirectoryValue :
    Computes (fundingOpDisablerDirectoryValue slots isRegtest)
      (540 * slots.toNat + 540 + exactFee 2 (slots.toNat + 1) (feeRate isRegtest).toNat) :=
  computes_mulAddFee isRegtest dustValue slots speedupValue 1 2 (by decide) (by decide)

theorem computes_watchtowerFundingValue : Computes (watchtowerFundingValue members isRegtest)
    (50000 * members.toNat + 540 + exactFee 1 (members.toNat + 2) (feeRate isRegtest).toNat) :=
  computes_mulAddFee isRegtest disputeChannelFundingPerMember members speedupValue 2 1 (by decide)
    (by decide)

theorem computes_fundingWtDisablerDirectoryValue :
    Computes (fundingWtDisablerDirectoryValue provers isRegtest)
      (540 * provers.toNat * 2 + 540 + exactFee 2 (provers.toNat * 2) (feeRate isRegtest).toNat) := by
  refine (computes_mul provers 2).bind ?_ fun outputs houtputs =>
    (computes_mul dustValue provers).bind ?_ fun a ha => (computes_mul a 2).bind ?_ fun b hb =>
    (computes_add b speedupValue).bind ?_ fun c hc =>
    (computes_estimateFee isRegtest 2 outputs).bind ?_ fun d hd v => ?_
  all_goals simp only [dustValue, speedupValue, UInt64.reduceToNat] at *
  · omega
  · omega
  · omega
  · omega
  · rw [houtputs]
    omega
  · rw [checkedAdd_eq_some, hd, hc, hb, ha, houtputs]

end Exact

/-- How the amounts of a profile hang together: `work` is what the protocols of the committee need. -/
structure StreamFundingProfile.IsDerived (profile : StreamFundingProfile) (work : Nat) : Prop where
  denomination : profile.denomination ∈ streamDenominations
  advanceFunds : profile.advanceFunds.toNat = profile.denomination.toNat * 12 / 10
  protocolFunding : profile.protocolFunding.toNat = work + 5000
  operatorFundAmount : profile.operatorFundAmount.toNat = profile.speedUpUtxo.toNat
    + profile.advanceFunds.toNat + work + 10000 + profile.denomination.toNat * 25 / 100

theorem computes_fraction {d a b : UInt64} (hfits : d.toNat * a.toNat < 2 ^ 64) (hb : b ≠ 0) :
    Computes (do checkedDiv (← checkedMul d a) b) (d.toNat * a.toNat / b.toNat) := by
  obtain ⟨v, hv, hnat⟩ := (computes_mul d a).exists_eq hfits
  intro w
  rw [hv, Option.bind_eq_bind, Option.bind_some, checkedDiv, if_neg hb, Option.some_inj,
    ← UInt64.toNat_inj, UInt64.toNat_div, hnat, eq_comm]

theorem computes_fractions {d : UInt64} (hd : d ∈ streamDenominations) :
    Computes (calculateAdvanceFundsValue d) (d.toNat * 12 / 10)
      ∧ Computes (operatorFundingMargin d) (d.toNat * 25 / 100) := by
  have hle : d.toNat ≤ 1000000000 := by
    simp only [streamDenominations, List.mem_cons, List.not_mem_nil, or_false] at hd
    rcases hd with rfl | rfl | rfl | rfl | rfl <;> decide
  exact ⟨computes_fraction (a := 12) (b := 10) (show d.toNat * 12 < 2 ^ 64 by omega) (by decide),
    computes_fraction (a := 25) (b := 100) (show d.toNat * 25 < 2 ^ 64 by omega) (by decide)⟩

theorem derives_deriveStreamFundingProfile {streamId d : UInt64}
    (hstream : streamDenomination streamId = some d) (slots members provers : UInt64)
    (isRegtest : Bool) {work : Nat}
    (hwork : exactWork slots.toNat members.toNat provers.toNat (feeRate isRegtest).toNat = work) :
    Derives (deriveStreamFundingProfile streamId isRegtest slots members provers)
      ((speedupFundsValue isRegtest).toNat + d.toNat * 12 / 10 + work + 10000
        + d.toNat * 25 / 100)
      fun profile => profile.denomination = d
        ∧ profile.speedUpUtxo = speedupFundsValue isRegtest ∧ profile.IsDerived work := by
  have hmem : d ∈ streamDenominations := List.mem_of_getElem? hstream
  obtain ⟨hadvance, hmargin⟩ := computes_fractions hmem
  have hprotocolBuffer : exampleProtocolFundingSafetyBuffer.toNat = 5000 := rfl
  have htotalBuffer : exampleTotalFundingSafetyBuffer.toNat = 10000 := rfl
  unfold exactWork at hwork
  unfold deriveStreamFundingProfile
  rw [hstream]
  show Derives (orOverflow (calculateAdvanceFundsValue d) >>= _) _ _
  refine Derives.bind hadvance (by omega) fun advance hadv => ?_
  refine Derives.bind (computes_operatorFundingValue slots isRegtest) (by omega) fun a ha => ?_
  refine Derives.bind (computes_fundingOpDisablerDirectoryValue slots isRegtest) (by omega)
    fun b hb => ?_
  refine Derives.bind (computes_watchtowerFundingValue members isRegtest) (by omega) fun c hc => ?_
  refine Derives.bind (computes_fundingWtDisablerDirectoryValue provers isRegtest) (by omega)
    fun e he => ?_
  refine Derives.bind (k := work + 5000) ?_ (by omega) fun protocolFunding hprotocol => ?_
  · refine (computes_add a b).bind (by omega) fun v hv => (computes_add v c).bind (by omega)
      fun v hv => (computes_add v e).bind (by omega) fun v hv w => ?_
    rw [checkedAdd_eq_some]
    omega
  refine Derives.bind ?_ le_rfl fun amount hamount => ?_
  · refine (computes_add _ _).bind (by omega) fun v hv => (computes_add v a).bind (by omega)
      fun v hv => (computes_add v b).bind (by omega) fun v hv => (computes_add v c).bind (by omega)
      fun v hv => (computes_add v e).bind (by omega) fun v hv => (computes_add v _).bind (by omega)
      fun v hv => hmargin.bind (by omega) fun margin hmargin w => ?_
    rw [checkedAdd_eq_some]
    omega
  rw [Derives, if_pos (hamount ▸ amount.toNat_lt)]
  exact ⟨_, rfl, rfl, rfl, hmem, hadv, hprotocol, hadv.symm ▸ hamount⟩

theorem deriveStreamFundingProfile_isDerived {streamId slots members provers : UInt64}
    {isRegtest : Bool} {profile : StreamFundingProfile}
    (h : deriveStreamFundingProfile streamId isRegtest slots members provers = .ok profile) :
    ∃ work, profile.IsDerived work := by
  cases hstream : streamDenomination streamId with
  | none =>
    unfold deriveStreamFundingProfile at h
    rw [hstream] at h
    cases h
  | some d =>
    have hderives := derives_deriveStreamFundingProfile hstream slots members provers isRegtest rfl
    unfold Derives at hderives
    rw [h] at hderives
    split at hderives
    · obtain ⟨_, hok, -, -, hderived⟩ := hderives
      cases hok
      exact ⟨_, hderived⟩
    · cases hderives

/-- **Overflow is reported exactly when the operator's amount is not a word.** Otherwise every amount
is exact, and the operator's covers the others with the margin: its buffer is the larger one. -/
theorem profile_amounts_exact (streamId denomination slots members provers : UInt64)
    (isRegtest : Bool) (hstream : streamDenomination streamId = some denomination) :
    let speedUp := if isRegtest then 1000000 else 30000
    let work := exactWork slots.toNat members.toNat provers.toNat (if isRegtest then 10 else 1)
    let advance := denomination.toNat * 12 / 10
    let margin := denomination.toNat * 25 / 100
    let amount := speedUp + advance + work + 10000 + margin
    let result := deriveStreamFundingProfile streamId isRegtest slots members provers
    (result = .error .arithmeticOverflow ↔ 2 ^ 64 - 1 < amount)
      ∧ (amount ≤ 2 ^ 64 - 1 → ∃ profile, result = .ok profile
        ∧ profile.denomination = denomination ∧ profile.speedUpUtxo.toNat = speedUp
        ∧ profile.advanceFunds.toNat = advance ∧ profile.protocolFunding.toNat = work + 5000
        ∧ profile.operatorFundAmount.toNat = amount
        ∧ profile.speedUpUtxo.toNat + profile.advanceFunds.toNat + profile.protocolFunding.toNat
          + margin ≤ profile.operatorFundAmount.toNat) := by
  intro speedUp work advance margin amount result
  have hrate : (feeRate isRegtest).toNat = if isRegtest then 10 else 1 := by cases isRegtest <;> rfl
  have hspeedUp : (speedupFundsValue isRegtest).toNat = speedUp := by cases isRegtest <;> rfl
  have hderives := derives_deriveStreamFundingProfile hstream slots members provers isRegtest
    (show _ = work by rw [hrate])
  rw [Derives, hspeedUp] at hderives
  split at hderives
  · next hfits =>
    obtain ⟨profile, hok, rfl, hspeed, hderived⟩ := hderives
    rw [← hspeed] at hspeedUp
    have hamount : profile.operatorFundAmount.toNat = amount := by
      rw [hderived.operatorFundAmount, hspeedUp, hderived.advanceFunds]
    refine ⟨iff_of_false (fun herror => ?_) (by omega), fun _ => ⟨profile, hok, rfl, hspeedUp,
      hderived.advanceFunds, hderived.protocolFunding, hamount, ?_⟩⟩
    · cases hok.symm.trans herror
    · have htotal := hderived.operatorFundAmount
      have hprotocol := hderived.protocolFunding
      show _ + profile.denomination.toNat * 25 / 100 ≤ _
      omega
  · next hfits => exact ⟨iff_of_true hderives (by omega), fun hle => absurd hle (by omega)⟩

/-- The smallest stream with one slot, one member and one prover. -/
theorem profile_amounts_exact_smallest :
    ∃ profile, deriveStreamFundingProfile 0 false 1 1 1 = .ok profile
      ∧ profile.operatorFundAmount.toNat = 251712 := by
  obtain ⟨_, hfits⟩ := profile_amounts_exact 0 100000 1 1 1 false rfl
  obtain ⟨profile, hok, -, -, -, -, hamount, -⟩ := hfits (by decide +kernel)
  exact ⟨profile, hok, hamount⟩

/-! ## Square roots -/

/-- The middle is below the upper bound, so the sum does not saturate. -/
theorem toNat_mid {low high : U128} (h : low.toNat < high.toNat) :
    (U128.saturatingAdd low ((high - low) / 2)).toNat
      = low.toNat + (high.toNat - low.toNat) / 2 := by
  have hmax := high.isLt
  have hdiv : ((high - low) / 2).toNat = (high.toNat - low.toNat) / 2 := by
    rw [BitVec.toNat_udiv, BitVec.toNat_sub_of_le (BitVec.le_of_lt h)]
    rfl
  rw [U128.toNat_saturatingAdd, hdiv]
  omega

theorem toNat_saturatingAdd_one {mid : U128} (high : U128) (h : mid.toNat < high.toNat) :
    (U128.saturatingAdd mid 1).toNat = mid.toNat + 1 := by
  have hmax := high.isLt
  rw [U128.toNat_saturatingAdd, show (1 : U128).toNat = 1 from rfl]
  omega

def ceilSqrtLoop (value low high : U128) : U128 :=
  if low < high then
    let mid := U128.saturatingAdd low ((high - low) / 2)
    let square := U128.saturatingMul mid mid
    if square < value then ceilSqrtLoop value (U128.saturatingAdd mid 1) high
    else ceilSqrtLoop value low mid
  else low
termination_by high.toNat - low.toNat
decreasing_by
  all_goals
    have hlt : low.toNat < high.toNat := by assumption
    have hmid := toNat_mid hlt
  · rw [toNat_saturatingAdd_one high (by omega), hmid]
    omega
  · omega

def ceilSqrt (value : U128) : U128 := if value ≤ 1 then value else ceilSqrtLoop value 1 value

/-- The least number whose square is at least `value`. -/
structure IsCeilSqrt (value root : Nat) : Prop where
  above : value ≤ root * root
  below : ∀ smaller, smaller < root → smaller * smaller < value

/-- Before each pass the root lies between the bounds. -/
theorem isCeilSqrt_ceilSqrtLoop (value low high : U128) (hle : low.toNat ≤ high.toNat)
    (habove : value.toNat ≤ high.toNat * high.toNat)
    (hbelow : ∀ smaller, smaller < low.toNat → smaller * smaller < value.toNat) :
    IsCeilSqrt value.toNat (ceilSqrtLoop value low high).toNat := by
  have hmax := value.isLt
  induction low, high using ceilSqrtLoop.induct value with
  | case1 low high hlt mid square hsquare ih =>
    have hlow : low.toNat < high.toNat := hlt
    have hmid : mid.toNat = _ := toNat_mid hlow
    rw [ceilSqrtLoop, if_pos hlt]
    dsimp only
    rw [if_pos hsquare]
    rw [BitVec.lt_def, U128.toNat_saturatingMul] at hsquare
    have hnext : (U128.saturatingAdd mid 1).toNat = mid.toNat + 1 :=
      toNat_saturatingAdd_one high (by omega)
    refine ih (by omega) habove fun smaller hsmaller => ?_
    have hmul : smaller * smaller ≤ mid.toNat * mid.toNat :=
      Nat.mul_self_le_mul_self (by omega)
    omega
  | case2 low high hlt mid square hsquare ih =>
    have hlow : low.toNat < high.toNat := hlt
    have hmid : mid.toNat = _ := toNat_mid hlow
    rw [ceilSqrtLoop, if_pos hlt]
    dsimp only
    rw [if_neg hsquare]
    rw [BitVec.lt_def, U128.toNat_saturatingMul] at hsquare
    exact ih (by omega) (by omega) hbelow
  | case3 low high hge =>
    have hge : high.toNat ≤ low.toNat := by rwa [BitVec.lt_def, Nat.not_lt] at hge
    rw [ceilSqrtLoop, if_neg (by rwa [BitVec.lt_def, Nat.not_lt])]
    have heq : low.toNat = high.toNat := by omega
    exact ⟨heq ▸ habove, hbelow⟩

theorem isCeilSqrt_ceilSqrt (value : U128) : IsCeilSqrt value.toNat (ceilSqrt value).toNat := by
  unfold ceilSqrt
  split
  · next hle =>
    have hle : value.toNat ≤ 1 := hle
    refine ⟨Nat.le_mul_self _, fun smaller hsmaller => ?_⟩
    have hzero : smaller = 0 := by omega
    subst hzero
    omega
  · next hgt =>
    have hgt : 1 < value.toNat := by rwa [BitVec.le_def, Nat.not_le] at hgt
    refine isCeilSqrt_ceilSqrtLoop value 1 value (by simpa using hgt.le) ?_ ?_
    · exact Nat.le_mul_self _
    · intro smaller hsmaller
      have hzero : smaller = 0 := by simpa using hsmaller
      subst hzero
      omega

example : ceilSqrt 10 = 4 := by decide +kernel

/-! ## Rootstock -/

def rskGasBufferPercent : U256 := 20
def memberRskSetupReserveWei : U256 := 10000000000000000
def memberRskReservePerSlotWei : U256 := 3000000000000000
def slotBudgetZScoreNumerator : U128 := 233
def slotBudgetZScoreDenominator : U128 := 100

def checkedBudgetedSlotCount (slotsPerPackage committeeMemberCount : UInt64) : Option UInt64 := do
  let slots : U128 := BitVec.ofNat 128 slotsPerPackage.toNat
  let members : U128 := BitVec.ofNat 128 (max committeeMemberCount.toNat 1)
  if slots = 0 then return 0
  let sqrtTerm := ceilSqrt (← U128.checkedMul slots (← U128.checkedSub members 1))
  let numerator ← U128.checkedAdd (← U128.checkedMul slots slotBudgetZScoreDenominator)
    (← U128.checkedMul slotBudgetZScoreNumerator sqrtTerm)
  let denominator ← U128.checkedMul slotBudgetZScoreDenominator members
  let budget := (U128.divCeil numerator denominator).toNat
  if budget < 2 ^ 64 then some (UInt64.ofNat budget) else none

def budgetedSlotCount (slotsPerPackage committeeMemberCount : UInt64) : Outcome UInt64 :=
  match checkedBudgetedSlotCount slotsPerPackage committeeMemberCount with
  | some count => .ok count
  | none => .error (.panic "slot budget arithmetic does not overflow")

def requiredMemberRskBalance (minDeposit : U256) (slotsPerPackage committeeMemberCount : UInt64) :
    Outcome U256 := do
  let percentageBuffer := U256.saturatingMul minDeposit rskGasBufferPercent / 100
  let slotBudget ← budgetedSlotCount slotsPerPackage committeeMemberCount
  let probabilisticReserve := U256.saturatingAdd memberRskSetupReserveWei
    (U256.saturatingMul memberRskReservePerSlotWei (BitVec.ofNat 256 slotBudget.toNat))
  let buffer := if percentageBuffer < probabilisticReserve then probabilisticReserve
    else percentageBuffer
  pure (U256.saturatingAdd minDeposit buffer)

/-! ### The budget fits -/

theorem toNat_slots {n : Nat} (h : n ≤ 2 ^ 64) : (BitVec.ofNat 128 n : U128).toNat = n := by
  rw [BitVec.toNat_ofNat, Nat.mod_eq_of_lt (by omega)]

theorem IsCeilSqrt.mono {v v' r r' : Nat} (h : IsCeilSqrt v r) (h' : IsCeilSqrt v' r') (hle : v ≤ v') :
    r ≤ r' := by
  by_contra hlt
  have hbelow := h.below r' (by omega)
  have habove := h'.above
  omega

/-- With at most `2 ^ 64` slots the root is small against the number of members. -/
theorem IsCeilSqrt.root_le {n m root : Nat} (h : IsCeilSqrt (n * (m - 1)) root) (hn : n < 2 ^ 64) :
    root ≤ 2 ^ 32 * m := by
  by_contra hgt
  have hsmaller := h.below (2 ^ 32 * m) (by omega)
  have hbound : n * (m - 1) ≤ 2 ^ 64 * (m * m) :=
    Nat.mul_le_mul hn.le ((Nat.sub_le m 1).trans (Nat.le_mul_self m))
  have hsquare : 2 ^ 32 * m * (2 ^ 32 * m) = 2 ^ 64 * (m * m) := by ring
  omega

theorem budget_lt {n m root : Nat} (hn : n < 2 ^ 64) (hm : 1 ≤ m)
    (hroot : IsCeilSqrt (n * (m - 1)) root) :
    (n * 100 + 233 * root + 100 * m - 1) / (100 * m) < 2 ^ 64 := by
  have hle := hroot.root_le hn
  rw [Nat.div_lt_iff_lt_mul (by omega)]
  by_cases hone : m = 1
  · -- a member alone serves every slot, and nothing is added
    subst hone
    have hzero : root ≤ 0 := hroot.mono ⟨le_rfl, nofun⟩ (by omega)
    omega
  · omega

/-- **The budget never overflows**, and it is exact. -/
theorem budgetedSlotCount_eq (slotsPerPackage committeeMemberCount : UInt64) {n m root : Nat}
    (hn : slotsPerPackage.toNat = n) (hm : max committeeMemberCount.toNat 1 = m)
    (hroot : (ceilSqrt (BitVec.ofNat 128 (n * (m - 1)))).toNat = root) :
    IsCeilSqrt (n * (m - 1)) root
      ∧ ∃ count, budgetedSlotCount slotsPerPackage committeeMemberCount = .ok count
        ∧ count.toNat = (n * 100 + 233 * root + 100 * m - 1) / (100 * m) := by
  have hnlt : n < 2 ^ 64 := hn ▸ slotsPerPackage.toNat_lt
  have hmle : m ≤ 2 ^ 64 := by have := committeeMemberCount.toNat_lt; omega
  have hpos : 1 ≤ m := by omega
  have hslots := toNat_slots hnlt.le
  have hmembers := toNat_slots hmle
  unfold budgetedSlotCount checkedBudgetedSlotCount
  rw [hn, hm]
  generalize (BitVec.ofNat 128 n : U128) = slots at hslots ⊢
  generalize (BitVec.ofNat 128 m : U128) = members at hmembers ⊢
  obtain ⟨others, hothers, hothersNat⟩ := U128.exists_checkedSub (a := members) (b := 1)
    (hmembers.symm ▸ hpos)
  rw [hmembers, show (1 : U128).toNat = 1 from rfl] at hothersNat
  have hproduct : n * (m - 1) < 2 ^ 128 :=
    (Nat.mul_lt_mul'' hnlt (show m - 1 < 2 ^ 64 by omega)).trans_eq (by norm_num)
  obtain ⟨product, hmul, hmulNat⟩ := U128.exists_checkedMul (a := slots) (b := others)
    (by rwa [hslots, hothersNat])
  rw [hslots, hothersNat] at hmulNat
  obtain rfl : BitVec.ofNat 128 (n * (m - 1)) = product :=
    BitVec.eq_of_toNat_eq (by rw [hmulNat, BitVec.toNat_ofNat, Nat.mod_eq_of_lt hproduct])
  have hsqrt : IsCeilSqrt (n * (m - 1)) root := by
    have h := isCeilSqrt_ceilSqrt (BitVec.ofNat 128 (n * (m - 1)))
    rwa [hmulNat, hroot] at h
  have hrootLe := hsqrt.root_le hnlt
  have hlt := budget_lt hnlt hpos hsqrt
  refine ⟨hsqrt, ?_⟩
  obtain ⟨scaled, hscaled, hscaledNat⟩ := U128.exists_checkedMul (a := slots)
    (b := slotBudgetZScoreDenominator) (by simp [slotBudgetZScoreDenominator]; omega)
  obtain ⟨spread, hspread, hspreadNat⟩ := U128.exists_checkedMul (a := slotBudgetZScoreNumerator)
    (b := ceilSqrt (BitVec.ofNat 128 (n * (m - 1)))) (by simp [slotBudgetZScoreNumerator]; omega)
  rw [hslots, show slotBudgetZScoreDenominator.toNat = 100 from rfl] at hscaledNat
  rw [hroot, show slotBudgetZScoreNumerator.toNat = 233 from rfl] at hspreadNat
  obtain ⟨numerator, hnumerator, hnumeratorNat⟩ := U128.exists_checkedAdd (a := scaled) (b := spread)
    (by omega)
  obtain ⟨denominator, hdenominator, hdenominatorNat⟩ := U128.exists_checkedMul
    (a := slotBudgetZScoreDenominator) (b := members) (by simp [slotBudgetZScoreDenominator]; omega)
  rw [hmembers, show slotBudgetZScoreDenominator.toNat = 100 from rfl] at hdenominatorNat
  have hbudget : (U128.divCeil numerator denominator).toNat
      = (n * 100 + 233 * root + 100 * m - 1) / (100 * m) := by
    rw [U128.divCeil, hnumeratorNat, hscaledNat, hspreadNat, hdenominatorNat,
      toNat_slots hlt.le]
  by_cases hzero : slots = 0
  · subst hzero
    obtain rfl : 0 = n := hslots
    have hzero : root ≤ 0 := hsqrt.mono ⟨le_rfl, nofun⟩ (by omega)
    refine ⟨0, by simp, (Nat.div_eq_of_lt ?_).symm⟩
    omega
  · refine ⟨UInt64.ofNat (U128.divCeil numerator denominator).toNat, ?_, ?_⟩
    · simp only [if_neg hzero, hothers, hmul, hscaled, hspread, hnumerator, hdenominator,
        Option.bind_eq_bind, Option.bind_some, hbudget, if_pos hlt]
    · rw [hbudget, UInt64.toNat_ofNat_of_lt' hlt]

/-- **The slot budget.** The square root is exact, and so is the budget for every number of slots and
members; it covers an equal share of the slots and does not fall when the slots grow. -/
theorem slot_budget_exact (v : U128) (n n' m : UInt64) :
    let members := max m.toNat 1
    let root := (ceilSqrt (BitVec.ofNat 128 (n.toNat * (members - 1)))).toNat
    IsCeilSqrt v.toNat (ceilSqrt v).toNat
      ∧ ∃ count, budgetedSlotCount n m = .ok count
        ∧ count.toNat = (n.toNat * 100 + 233 * root + 100 * members - 1) / (100 * members)
        ∧ (n.toNat + members - 1) / members ≤ count.toNat
        ∧ (n ≤ n' → ∃ count', budgetedSlotCount n' m = .ok count' ∧ count ≤ count') := by
  intro members root
  obtain ⟨hroot, count, hcount, hcountNat⟩ := budgetedSlotCount_eq n m rfl rfl rfl
  refine ⟨isCeilSqrt_ceilSqrt v, count, hcount, hcountNat, ?_, fun hle => ?_⟩
  · rw [hcountNat, Nat.le_div_iff_mul_le (by omega)]
    have hshare := Nat.div_mul_le_self (n.toNat + members - 1) members
    generalize (n.toNat + members - 1) / members = share at hshare ⊢
    have hscale : share * (100 * members) = 100 * (share * members) := by ring
    show share * (100 * members) ≤ _
    omega
  · obtain ⟨hroot', count', hcount', hcountNat'⟩ := budgetedSlotCount_eq n' m rfl rfl rfl
    have hrootLe := hroot.mono hroot' (Nat.mul_le_mul_right _ hle)
    refine ⟨count', hcount', ?_⟩
    rw [UInt64.le_iff_toNat_le, hcountNat, hcountNat']
    refine Nat.div_le_div_right ?_
    have hslots : n.toNat ≤ n'.toNat := hle
    omega

/-- Ten slots among three members: the budget is 8 and stays below that of eleven slots. -/
theorem slot_budget_exact_ten : ∃ count, budgetedSlotCount 10 3 = .ok count
    ∧ ∃ count', budgetedSlotCount 11 3 = .ok count' ∧ count ≤ count' := by
  obtain ⟨_, count, hcount, -, -, hmono⟩ := slot_budget_exact 0 10 11 3
  exact ⟨count, hcount, hmono (by decide)⟩

/-! ### Balances -/

def requiredRskBalance (minDeposit : U256) : U256 :=
  let percentageBuffer := U256.saturatingMul minDeposit rskGasBufferPercent / 100
  U256.saturatingAdd minDeposit percentageBuffer

/-- **Where the cap of the product shows.** Both balances are the deposit with its buffer, capped, unless
the product with the percentage is capped and the sum is not. -/
theorem balances_exact_iff (d : U256) (n m : UInt64) :
    ∃ count balance, budgetedSlotCount n m = .ok count
      ∧ requiredMemberRskBalance d n m = .ok balance
      ∧ ((requiredRskBalance d).toNat = min (2 ^ 256 - 1) (d.toNat + d.toNat * 20 / 100)
          ∧ balance.toNat = min (2 ^ 256 - 1) (d.toNat + max (d.toNat * 20 / 100)
            (10000000000000000 + 3000000000000000 * count.toNat))
        ↔ d.toNat * 20 / 100 ≤ (2 ^ 256 - 1) / 100
          ∨ 2 ^ 256 - 1 ≤ d.toNat + (2 ^ 256 - 1) / 100) := by
  obtain ⟨_, count, hcount, -⟩ := budgetedSlotCount_eq n m rfl rfl rfl
  have hlt := count.toNat_lt
  have hd := d.isLt
  have hpercentage : (U256.saturatingMul d rskGasBufferPercent / 100).toNat
      = min (d.toNat * 20) (2 ^ 256 - 1) / 100 := by
    rw [BitVec.toNat_udiv, U256.toNat_saturatingMul]
    rfl
  -- the reserve is far below the cap
  have hreserve : (U256.saturatingAdd memberRskSetupReserveWei
      (U256.saturatingMul memberRskReservePerSlotWei (BitVec.ofNat 256 count.toNat))).toNat
      = 10000000000000000 + 3000000000000000 * count.toNat := by
    rw [U256.toNat_saturatingAdd, U256.toNat_saturatingMul, BitVec.toNat_ofNat,
      Nat.mod_eq_of_lt (by omega), show memberRskSetupReserveWei.toNat = 10000000000000000 from rfl,
      show memberRskReservePerSlotWei.toNat = 3000000000000000 from rfl]
    omega
  refine ⟨count, _, hcount, by unfold requiredMemberRskBalance; rw [hcount]; rfl, ?_⟩
  rw [requiredRskBalance, U256.toNat_saturatingAdd, U256.toNat_saturatingAdd, hpercentage]
  simp only [BitVec.lt_def, apply_ite BitVec.toNat, hpercentage, hreserve]
  generalize count.toNat = c at hlt ⊢
  generalize d.toNat = e at hd ⊢
  split <;> omega

/-- Half of the range: the balance is less than the deposit with its buffer, and less than the cap. -/
theorem half_range_balance_too_small :
    (requiredRskBalance (.ofNat 256 (2 ^ 255))).toNat
      < min (2 ^ 256 - 1) (2 ^ 255 + 2 ^ 255 * 20 / 100) := by
  decide +kernel

end UnionBridge.OpFunding
