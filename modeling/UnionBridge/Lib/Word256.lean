import UnionBridge.Lib.BigEndian

/-!
# Fixed-size words

`U256` is the 256-bit unsigned integer with the checked and saturating operations of
`primitive_types`, `FixedBytes n` a byte array of `n` bytes and `H256` the 32-byte hash. `RVec`
is a heap vector: its length is bounded by the allocator, so a length always fits a machine word.

The operation lemmas read every checked result back as an equation between natural numbers.
-/

namespace UnionBridge

/-- A byte string of unknown length. -/
abbrev Bytes := List UInt8

/-- `[u8; n]`. -/
abbrev FixedBytes (n : Nat) := { bs : Bytes // bs.length = n }

/-- A 32-byte hash. -/
abbrev H256 := FixedBytes 32

/-- `Vec<α>`: no allocation is longer than `isize::MAX` bytes. -/
abbrev RVec (α : Type) := { xs : List α // xs.length < 2 ^ 63 }

theorem RVec.nil_bound {α : Type} : ([] : List α).length < 2 ^ 63 := Nat.two_pow_pos 63

/-- The result of a saturating operation. -/
theorem toNat_capped {w n : Nat} {c : BitVec w} (h : c.toNat = n % 2 ^ w) :
    (if n < 2 ^ w then c else BitVec.allOnes w).toNat = min n (2 ^ w - 1) := by
  split
  · next hlt =>
    rw [h, Nat.mod_eq_of_lt hlt]
    omega
  · rw [BitVec.toNat_allOnes]
    omega

/-- A 256-bit unsigned integer. -/
abbrev U256 := BitVec 256

/-- A hash function with 32-byte digests. -/
abbrev Digest := Bytes → H256

namespace U256

/-- `U256::MAX`. -/
def max : U256 := BitVec.allOnes 256

def checkedAdd (a b : U256) : Option U256 :=
  if a.toNat + b.toNat < 2 ^ 256 then some (a + b) else none

def checkedMul (a b : U256) : Option U256 :=
  if a.toNat * b.toNat < 2 ^ 256 then some (a * b) else none

def checkedDiv (a b : U256) : Option U256 :=
  if b = 0 then none else some (a / b)

def saturatingAdd (a b : U256) : U256 :=
  if a.toNat + b.toNat < 2 ^ 256 then a + b else max

def saturatingMul (a b : U256) : U256 :=
  if a.toNat * b.toNat < 2 ^ 256 then a * b else max

def saturatingSub (a b : U256) : U256 :=
  if b.toNat ≤ a.toNat then a - b else 0

/-- The 32 big-endian bytes of a word. -/
def toBigEndian (v : U256) : Bytes := toBE 32 v.toNat

/-- The word of a big-endian byte string. -/
def fromBigEndian (bs : Bytes) : U256 := BitVec.ofNat 256 (beNat bs)

theorem toBigEndian_fromBigEndian {bytes : Bytes} (h : bytes.length = 32) :
    toBigEndian (fromBigEndian bytes) = bytes := by
  have hlt : beNat bytes < 2 ^ 256 := (h ▸ beNat_lt bytes : beNat bytes < 256 ^ 32)
  rw [toBigEndian, fromBigEndian, BitVec.toNat_ofNat, Nat.mod_eq_of_lt hlt, ← h, toBE_beNat]

/-- The bytes of the words that a buffer is cut into are the buffer. -/
theorem flatMap_toBigEndian_ofFn (n : Nat) {buf : Bytes} (h : buf.length = 32 * n) :
    (List.ofFn fun i : Fin n => fromBigEndian ((buf.drop (32 * i)).take 32)).flatMap
      toBigEndian = buf := by
  induction n generalizing buf with
  | zero => exact (List.length_eq_zero_iff.mp h).symm
  | succ n ih =>
    have hrest : (buf.drop 32).length = 32 * n := by rw [List.length_drop]; omega
    have hfirst : (buf.take 32).length = 32 := by rw [List.length_take]; omega
    rw [List.ofFn_succ, List.flatMap_cons]
    simp only [Fin.val_zero, Nat.mul_zero, List.drop_zero, Fin.val_succ, Nat.mul_succ,
      Nat.add_comm _ 32, ← List.drop_drop]
    rw [ih hrest, toBigEndian_fromBigEndian hfirst, List.take_append_drop]

theorem toNat_max : max.toNat = 2 ^ 256 - 1 := by
  rw [max, BitVec.toNat_allOnes]

theorem toNat_injective : Function.Injective (BitVec.toNat : U256 → Nat) :=
  fun _ _ h => BitVec.eq_of_toNat_eq h

/-- Below a word every natural number is a word. -/
theorem exists_toNat_eq_of_le (a : U256) {n : Nat} (h : n ≤ a.toNat) : ∃ b : U256, b.toNat = n := by
  have ha := a.isLt
  refine ⟨BitVec.ofNat 256 n, ?_⟩
  rw [BitVec.toNat_ofNat, Nat.mod_eq_of_lt (by omega)]

theorem checkedAdd_eq_some {a b c : U256} :
    checkedAdd a b = some c ↔ c.toNat = a.toNat + b.toNat := by
  have hc := c.isLt
  unfold checkedAdd
  split
  · next h =>
    rw [Option.some.injEq, ← toNat_injective.eq_iff, BitVec.toNat_add, Nat.mod_eq_of_lt h]
    exact eq_comm
  · next h =>
    constructor
    · intro hcontra; cases hcontra
    · intro hsum; omega

theorem exists_checkedMul_eq_some {a b : U256} :
    (∃ c, checkedMul a b = some c) ↔ a.toNat * b.toNat < 2 ^ 256 := by
  unfold checkedMul
  split
  · next h => exact ⟨fun _ => h, fun _ => ⟨_, rfl⟩⟩
  · next h => exact ⟨fun ⟨_, hc⟩ => (nomatch hc), fun hlt => absurd hlt h⟩

theorem checkedDiv_eq_some {a b c : U256} :
    checkedDiv a b = some c ↔ b.toNat ≠ 0 ∧ c.toNat = a.toNat / b.toNat := by
  unfold checkedDiv
  split
  · next h => simp [h]
  · next h =>
    have hb : b.toNat ≠ 0 := fun h0 => h (toNat_injective (by simpa using h0))
    rw [Option.some.injEq, ← toNat_injective.eq_iff, BitVec.toNat_udiv]
    exact ⟨fun heq => ⟨hb, heq.symm⟩, fun heq => heq.2.symm⟩

theorem toNat_saturatingAdd (a b : U256) :
    (saturatingAdd a b).toNat = min (a.toNat + b.toNat) (2 ^ 256 - 1) :=
  toNat_capped (BitVec.toNat_add a b)

theorem toNat_saturatingMul (a b : U256) :
    (saturatingMul a b).toNat = min (a.toNat * b.toNat) (2 ^ 256 - 1) :=
  toNat_capped (BitVec.toNat_mul a b)

/-- Saturation does not show in a comparison from above: every word is below the cap. -/
theorem le_saturatingAdd {a b c : U256} :
    c ≤ saturatingAdd a b ↔ c.toNat ≤ a.toNat + b.toNat := by
  have hc := c.isLt
  rw [BitVec.le_def, toNat_saturatingAdd]
  omega

theorem saturatingSub_le {a b c : U256} :
    saturatingSub a b ≤ c ↔ a.toNat ≤ c.toNat + b.toNat := by
  unfold saturatingSub
  split
  · next h =>
    rw [BitVec.le_def, BitVec.toNat_sub_of_le (BitVec.le_def.mpr h)]
    omega
  · next h =>
    rw [BitVec.le_def]
    simp only [BitVec.toNat_zero, BitVec.ofNat_eq_ofNat]
    omega

end U256

end UnionBridge
