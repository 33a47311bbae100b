import Mathlib.Data.Nat.Basic

/-!
# Ranges of a partial sequence whose neighbours are related

A partial sequence `f : Nat → Option α` is linked from `lo` to `hi` when it is defined at every
index of the range and consecutive values are related. Ranges are glued at a common index, and a
range only depends on the values in it.
-/

namespace UnionBridge

variable {α : Type} {R : α → α → Prop} {f g : Nat → Option α} {lo mid hi n : Nat}

/-- The values at `n` and `n + 1` exist and are related. -/
def LinkedAt (R : α → α → Prop) (f : Nat → Option α) (n : Nat) : Prop :=
  ∃ a b, f n = some a ∧ f (n + 1) = some b ∧ R a b

def Linked (R : α → α → Prop) (f : Nat → Option α) (lo hi : Nat) : Prop :=
  ∀ n, lo ≤ n → n < hi → LinkedAt R f n

namespace Linked

theorem refl (lo : Nat) : Linked R f lo lo :=
  fun _ hlo hhi => absurd hhi (Nat.not_lt.mpr hlo)

theorem mono (h : Linked R f lo hi) {hi' : Nat} (hle : hi' ≤ hi) : Linked R f lo hi' :=
  fun n hlo hhi => h n hlo (Nat.lt_of_lt_of_le hhi hle)

theorem trans (hlow : Linked R f lo mid) (hhigh : Linked R f mid hi) : Linked R f lo hi := by
  intro n hlo hhi
  by_cases hmid : n < mid
  · exact hlow n hlo hmid
  · exact hhigh n (Nat.le_of_not_lt hmid) hhi

/-- A range is extended downwards by one link. -/
theorem cons (hlink : LinkedAt R f lo) (h : Linked R f (lo + 1) hi) : Linked R f lo hi := by
  intro n hlo hhi
  by_cases hn : n = lo
  · rw [hn]
    exact hlink
  · exact h n (by omega) hhi

theorem congr (h : Linked R f lo hi) (hfg : ∀ n, lo ≤ n → n ≤ hi → g n = f n) :
    Linked R g lo hi := by
  intro n hlo hhi
  obtain ⟨a, b, ha, hb, hab⟩ := h n hlo hhi
  refine ⟨a, b, ?_, ?_, hab⟩
  · rw [hfg n hlo (by omega)]
    exact ha
  · rw [hfg (n + 1) (by omega) (by omega)]
    exact hb

end Linked

end UnionBridge
