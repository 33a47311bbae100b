import Mathlib.Data.List.Induction
import Mathlib.Data.Nat.Size
import Mathlib.Tactic.Ring

/-!
# Big-endian byte strings

Natural numbers as big-endian byte strings: the fixed-width form (`toBE w n`, the low `w`
bytes of `n`), the value of a byte string (`beNat`) and the form without leading zeroes
(`trimZeros`). The value is a left inverse of both forms, which is what every injectivity
argument over an encoded integer uses; its bit length is that of the first byte and eight for each
later byte.
-/

namespace UnionBridge

variable (bs : List UInt8)

/-- The value of a big-endian byte string. -/
def beNat : Nat :=
  bs.foldl (fun acc b => acc * 256 + b.toNat) 0

/-- The low `w` bytes of `n`, most significant byte first. -/
def toBE : Nat → Nat → List UInt8
  | 0, _ => []
  | w + 1, n => toBE w (n / 256) ++ [UInt8.ofNat (n % 256)]

/-- Drop the leading zero bytes. -/
def trimZeros : List UInt8 :=
  bs.dropWhile (· == 0)

@[simp] theorem beNat_nil : beNat [] = 0 := rfl

@[simp] theorem beNat_append_singleton (b : UInt8) :
    beNat (bs ++ [b]) = beNat bs * 256 + b.toNat := by
  simp [beNat]

/-- The first byte carries the highest power of 256. -/
theorem beNat_cons (b : UInt8) (bs : List UInt8) :
    beNat (b :: bs) = b.toNat * 256 ^ bs.length + beNat bs := by
  induction bs using List.reverseRecOn with
  | nil => simp [beNat]
  | append_singleton bs c ih =>
    rw [← List.cons_append, beNat_append_singleton, beNat_append_singleton, ih,
      List.length_append, List.length_singleton, pow_succ]
    ring

theorem beNat_lt : beNat bs < 256 ^ bs.length := by
  induction bs using List.reverseRecOn with
  | nil => simp
  | append_singleton bs b ih =>
    have hb := b.toNat_lt
    rw [beNat_append_singleton, List.length_append, List.length_singleton, pow_succ]
    omega

@[simp] theorem length_toBE (w n : Nat) : (toBE w n).length = w := by
  induction w generalizing n with
  | zero => rfl
  | succ w ih => simp [toBE, ih]

/-- The fixed-width form keeps the value modulo `256 ^ w`. -/
theorem beNat_toBE_mod (w n : Nat) : beNat (toBE w n) = n % 256 ^ w := by
  induction w generalizing n with
  | zero => simp [toBE, Nat.mod_one]
  | succ w ih =>
    have hbyte : (UInt8.ofNat (n % 256)).toNat = n % 256 := by simp
    rw [toBE, beNat_append_singleton, ih, hbyte, pow_succ', Nat.mod_mul]
    ring

/-- On the values that fit, `beNat` inverts `toBE`. -/
theorem beNat_toBE {w n : Nat} (h : n < 256 ^ w) : beNat (toBE w n) = n := by
  rw [beNat_toBE_mod, Nat.mod_eq_of_lt h]

/-- On byte strings of a known length, `toBE` inverts `beNat`. -/
theorem toBE_beNat : toBE bs.length (beNat bs) = bs := by
  induction bs using List.reverseRecOn with
  | nil => rfl
  | append_singleton bs b ih =>
    have hb := b.toNat_lt
    have hdiv : (beNat bs * 256 + b.toNat) / 256 = beNat bs := by omega
    have hmod : (beNat bs * 256 + b.toNat) % 256 = b.toNat := by omega
    rw [List.length_append, List.length_singleton, toBE, beNat_append_singleton, hdiv, hmod, ih,
      UInt8.ofNat_toNat]

theorem toBE_inj {w n m : Nat} (hn : n < 256 ^ w) (hm : m < 256 ^ w)
    (h : toBE w n = toBE w m) : n = m := by
  rw [← beNat_toBE hn, ← beNat_toBE hm, h]

/-- The bit length of a string is that of its first byte, and eight for each later byte. -/
theorem size_beNat_cons {b : UInt8} {bs : List UInt8} (hb : b ≠ 0) :
    (beNat (b :: bs)).size = b.toNat.size + 8 * bs.length := by
  have hlt := beNat_lt bs
  have hpos : b.toNat.size ≠ 0 := fun h => hb (UInt8.toNat_inj.mp (Nat.size_eq_zero.mp h))
  have hlow : 2 ^ (b.toNat.size - 1) ≤ b.toNat := Nat.lt_size.mp (by omega)
  rw [show (256 : Nat) = 2 ^ 8 from rfl, ← pow_mul] at hlt
  rw [beNat_cons, show (256 : Nat) = 2 ^ 8 from rfl, ← pow_mul]
  generalize 8 * bs.length = k at hlt ⊢
  apply Nat.le_antisymm
  · apply Nat.size_le.mpr
    calc b.toNat * 2 ^ k + beNat bs
        < (b.toNat + 1) * 2 ^ k := by rw [Nat.succ_mul]; omega
      _ ≤ 2 ^ b.toNat.size * 2 ^ k := Nat.mul_le_mul_right _ (Nat.lt_size_self b.toNat)
      _ = 2 ^ (b.toNat.size + k) := (pow_add ..).symm
  · have hstrict : b.toNat.size - 1 + k < (b.toNat * 2 ^ k + beNat bs).size := by
      apply Nat.lt_size.mpr
      calc 2 ^ (b.toNat.size - 1 + k)
          = 2 ^ (b.toNat.size - 1) * 2 ^ k := pow_add ..
        _ ≤ b.toNat * 2 ^ k := Nat.mul_le_mul_right _ hlow
        _ ≤ b.toNat * 2 ^ k + beNat bs := Nat.le_add_right ..
    omega

/-- Leading zeroes do not change the value. -/
@[simp] theorem beNat_trimZeros : beNat (trimZeros bs) = beNat bs := by
  induction bs with
  | nil => rfl
  | cons b bs ih =>
    by_cases hb : b = 0
    · subst hb
      rw [trimZeros, List.dropWhile_cons_of_pos (by simp)]
      rw [show beNat (0 :: bs) = beNat bs from by simp [beNat_cons]]
      exact ih
    · rw [trimZeros, List.dropWhile_cons_of_neg (by simpa using hb)]

theorem length_trimZeros_le : (trimZeros bs).length ≤ bs.length :=
  (List.dropWhile_suffix _).length_le

/-- Trimming keeps a value that fits: the trimmed form is injective on `n < 256 ^ w`. -/
theorem trimZeros_toBE_inj {w n m : Nat} (hn : n < 256 ^ w) (hm : m < 256 ^ w)
    (h : trimZeros (toBE w n) = trimZeros (toBE w m)) : n = m := by
  have hval := congrArg beNat h
  rwa [beNat_trimZeros, beNat_trimZeros, beNat_toBE hn, beNat_toBE hm] at hval

/-- The trimmed form never starts with a zero byte. -/
theorem head_trimZeros_ne_zero {bs rest : List UInt8} {b : UInt8}
    (h : trimZeros bs = b :: rest) : b ≠ 0 := by
  have hne : bs.dropWhile (· == 0) ≠ [] := by
    rw [show bs.dropWhile (· == 0) = b :: rest from h]; simp
  have hhead := List.head_dropWhile_not (· == (0 : UInt8)) hne
  simp only [show bs.dropWhile (· == 0) = b :: rest from h, List.head_cons] at hhead
  simpa using hhead

end UnionBridge
