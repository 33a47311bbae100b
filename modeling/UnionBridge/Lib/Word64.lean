import Mathlib.Data.List.Basic
import Mathlib.Algebra.Group.Nat.Defs
import Mathlib.Order.MinMax

/-!
# 64-bit words

The checked and saturating operations of `u64`. The lemmas read a checked result back as an equation
between natural numbers, in which nothing wraps.
-/

namespace UnionBridge.Word64

def checkedAdd (a b : UInt64) : Option UInt64 :=
  if a.toNat + b.toNat < 2 ^ 64 then some (a + b) else none

def checkedSub (a b : UInt64) : Option UInt64 := if b ≤ a then some (a - b) else none

def checkedMul (a b : UInt64) : Option UInt64 :=
  if a.toNat * b.toNat < 2 ^ 64 then some (a * b) else none

def checkedDiv (a b : UInt64) : Option UInt64 := if b = 0 then none else some (a / b)

def saturatingSub (a b : UInt64) : UInt64 := if b ≤ a then a - b else 0

def saturatingMul (a b : UInt64) : UInt64 := (checkedMul a b).getD (.ofNat (2 ^ 64 - 1))

theorem checkedAdd_eq_some {a b c : UInt64} :
    checkedAdd a b = some c ↔ c.toNat = a.toNat + b.toNat := by
  have hc := c.toNat_lt
  unfold checkedAdd
  split
  · next h =>
    rw [Option.some_inj, ← UInt64.toNat_inj, UInt64.toNat_add, Nat.mod_eq_of_lt h, eq_comm]
  · next h => exact ⟨nofun, fun heq => absurd (heq ▸ hc) h⟩

theorem checkedMul_eq_some {a b c : UInt64} :
    checkedMul a b = some c ↔ c.toNat = a.toNat * b.toNat := by
  have hc := c.toNat_lt
  unfold checkedMul
  split
  · next h =>
    rw [Option.some_inj, ← UInt64.toNat_inj, UInt64.toNat_mul, Nat.mod_eq_of_lt h, eq_comm]
  · next h => exact ⟨nofun, fun heq => absurd (heq ▸ hc) h⟩

theorem toNat_saturatingMul (a b : UInt64) :
    (saturatingMul a b).toNat = min (a.toNat * b.toNat) (2 ^ 64 - 1) := by
  unfold saturatingMul checkedMul
  split
  · next h =>
    rw [Option.getD_some, UInt64.toNat_mul, Nat.mod_eq_of_lt h]
    exact (min_eq_left (by omega)).symm
  · next h =>
    rw [min_eq_right (by omega)]
    rfl

theorem toNat_max (a b : UInt64) : (max a b).toNat = max a.toNat b.toNat := by
  show (if a ≤ b then b else a).toNat = _
  split
  · next h => exact (max_eq_right h).symm
  · next h => exact (max_eq_left (not_le.mp h).le).symm

end UnionBridge.Word64
