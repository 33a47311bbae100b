import Mathlib.Data.List.Basic
import Mathlib.Data.List.Chain

/-!
# Ordered maps of values that carry their key

A map from natural numbers to values that know their own key, kept as the list of the values in
ascending order of the keys. The order is a field, so the last value is the one with the largest key
and cutting the map at a key is a filter.
-/

namespace UnionBridge

structure KeyedMap (α : Type) (key : α → Nat) where
  values : List α
  sorted : values.Pairwise fun a b => key a < key b

namespace KeyedMap

variable {α : Type} {key : α → Nat}

def empty : KeyedMap α key := ⟨[], .nil⟩

def get (m : KeyedMap α key) (n : Nat) : Option α := m.values.find? fun a => key a = n

/-- The value with the largest key. -/
def last (m : KeyedMap α key) : Option α := m.values.getLast?

/-- The values with keys below `n`. -/
def below (m : KeyedMap α key) (n : Nat) : KeyedMap α key :=
  ⟨m.values.filter fun a => key a < n, m.sorted.filter _⟩

/-- The values with keys from `n` on. -/
def atLeast (m : KeyedMap α key) (n : Nat) : KeyedMap α key :=
  ⟨m.values.filter fun a => n ≤ key a, m.sorted.filter _⟩

/-- Add a value, in place of the one with the same key if there is one. -/
def insert (m : KeyedMap α key) (a : α) : KeyedMap α key where
  values := (m.below (key a)).values ++ a :: (m.atLeast (key a + 1)).values
  sorted := by
    refine List.pairwise_append.mpr ⟨(m.below _).sorted,
      List.pairwise_cons.mpr ⟨?_, (m.atLeast _).sorted⟩, ?_⟩
    · intro b hb
      have := List.mem_filter.mp hb
      simp only [decide_eq_true_eq] at this
      omega
    · intro b hb c hc
      have hlow := (List.mem_filter.mp hb).2
      simp only [decide_eq_true_eq] at hlow
      rcases List.mem_cons.mp hc with rfl | hc
      · exact hlow
      · have hhigh := (List.mem_filter.mp hc).2
        simp only [decide_eq_true_eq] at hhigh
        omega

variable {m : KeyedMap α key} {a : α} {n : Nat}

@[simp] theorem mem_below : a ∈ (m.below n).values ↔ a ∈ m.values ∧ key a < n := by
  simp [below]

theorem get_eq_some (h : m.get n = some a) : a ∈ m.values ∧ key a = n :=
  ⟨List.mem_of_find?_eq_some h, by simpa using List.find?_some h⟩

/-- The last value has the largest key. -/
theorem key_le_of_last {a b : α} (hlast : m.last = some a) (hb : b ∈ m.values) : key b ≤ key a := by
  obtain ⟨init, hinit⟩ := List.getLast?_eq_some_iff.mp hlast
  have hsorted := m.sorted
  rw [hinit] at hb hsorted
  rcases List.mem_append.mp hb with hb | hb
  · exact le_of_lt ((List.pairwise_append.mp hsorted).2.2 b hb a (List.mem_singleton_self a))
  · rw [List.mem_singleton.mp hb]

theorem mem_of_last (hlast : m.last = some a) : a ∈ m.values :=
  List.mem_of_getLast? hlast

theorem exists_last (ha : a ∈ m.values) : ∃ b, m.last = some b := by
  cases hlast : m.values.getLast? with
  | none => rw [List.getLast?_eq_none_iff.mp hlast] at ha; cases ha
  | some b => exact ⟨b, hlast⟩

/-- A bound on the largest key is a bound on all. -/
theorem lt_of_last (h : ∀ b, m.last = some b → key b < n) (ha : a ∈ m.values) : key a < n := by
  obtain ⟨b, hb⟩ := exists_last ha
  exact lt_of_le_of_lt (key_le_of_last hb ha) (h b hb)

theorem below_eq_self (h : ∀ b, m.last = some b → key b < n) : (m.below n).values = m.values :=
  List.filter_eq_self.mpr fun a ha => by simpa using lt_of_last h ha

@[simp] theorem mem_atLeast : a ∈ (m.atLeast n).values ↔ a ∈ m.values ∧ n ≤ key a := by
  simp [atLeast]

/-- A value is found under its key. -/
theorem get_of_mem (ha : a ∈ m.values) : m.get (key a) = some a := by
  obtain ⟨left, right, hvalues⟩ := List.append_of_mem ha
  have hsorted := m.sorted
  rw [hvalues] at hsorted
  refine List.find?_eq_some_iff_append.mpr ⟨by simp, left, right, hvalues, ?_⟩
  intro b hb
  have := (List.pairwise_append.mp hsorted).2.2 b hb a List.mem_cons_self
  simp only [decide_eq_false_iff_not, Bool.not_eq_true', ne_eq]
  omega

/-- A key cuts the map in two. -/
theorem below_append_atLeast (m : KeyedMap α key) (n : Nat) :
    (m.below n).values ++ (m.atLeast n).values = m.values := by
  have cut : ∀ l : List α, l.Pairwise (fun a b => key a < key b) →
      l.filter (fun a => key a < n) ++ l.filter (fun a => n ≤ key a) = l := by
    intro l hsorted
    induction hsorted with
    | nil => rfl
    | @cons a l ha _ ih =>
      by_cases h : key a < n
      · rw [List.filter_cons_of_pos (by simpa using h), List.filter_cons_of_neg (by simp; omega),
          List.cons_append, ih]
      · -- from here on every key is at least `n`
        have hlow : l.filter (fun b => key b < n) = [] := by
          refine List.filter_eq_nil_iff.mpr fun b hb => ?_
          have := ha b hb
          simp only [decide_eq_true_eq]
          omega
        rw [hlow, List.nil_append] at ih
        rw [List.filter_cons_of_neg (by simpa using h), List.filter_cons_of_pos (by simp; omega),
          hlow, List.nil_append, ih]
  exact cut m.values m.sorted

/-- The values from a key on: the one under the key, if there is one, and those above. -/
theorem atLeast_eq_get_append (m : KeyedMap α key) (n : Nat) :
    (m.atLeast n).values = (m.get n).toList ++ (m.atLeast (n + 1)).values := by
  have hcut := below_append_atLeast (m.atLeast n) (n + 1)
  have habove : ((m.atLeast n).atLeast (n + 1)).values = (m.atLeast (n + 1)).values := by
    show (m.values.filter _).filter _ = m.values.filter _
    rw [List.filter_filter]
    refine List.filter_congr fun a _ => ?_
    simp only [← Bool.decide_and, decide_eq_decide]
    omega
  have hkey : ∀ a ∈ ((m.atLeast n).below (n + 1)).values, a ∈ m.values ∧ key a = n := by
    intro a ha
    have hbelow := mem_below.mp ha
    have hleast := mem_atLeast.mp hbelow.1
    exact ⟨hleast.1, by omega⟩
  have hat : ((m.atLeast n).below (n + 1)).values = (m.get n).toList := by
    cases hget : m.get n with
    | none =>
      refine List.eq_nil_iff_forall_not_mem.mpr fun a ha => ?_
      have hfound := get_of_mem (hkey a ha).1
      rw [(hkey a ha).2, hget] at hfound
      cases hfound
    | some a =>
      have ha : a ∈ ((m.atLeast n).below (n + 1)).values := by
        have := get_eq_some hget
        exact mem_below.mpr ⟨mem_atLeast.mpr ⟨this.1, by omega⟩, by omega⟩
      have hsorted := ((m.atLeast n).below (n + 1)).sorted
      -- two values would have the same key
      match hvalues : ((m.atLeast n).below (n + 1)).values with
      | [] => rw [hvalues] at ha; cases ha
      | [x] => rw [hvalues] at ha; rw [List.mem_singleton.mp ha]; rfl
      | x :: y :: rest =>
        rw [hvalues] at hsorted hkey
        have hlt := List.rel_of_pairwise_cons hsorted (List.mem_cons_self (a := y))
        have hx := (hkey x (by simp)).2
        have hy := (hkey y (by simp)).2
        omega
  rw [← hcut, habove, hat]

/-- A value above all others is added at the end. -/
theorem values_insert_of_last
    (h : ∀ b, m.last = some b → key b < key a) : (m.insert a).values = m.values ++ [a] := by
  have habove : (m.atLeast (key a + 1)).values = [] := by
    refine List.filter_eq_nil_iff.mpr fun b hb => ?_
    have := lt_of_last h hb
    simp only [decide_eq_true_eq]
    omega
  show (m.below (key a)).values ++ a :: (m.atLeast (key a + 1)).values = _
  rw [below_eq_self h, habove]

/-- Adding a value and dropping everything above it. -/
theorem values_below_insert (m : KeyedMap α key) (a : α) :
    ((m.insert a).below (key a + 1)).values = (m.below (key a)).values ++ [a] := by
  have hbelow : ((m.below (key a)).values).filter (fun b => key b < key a + 1)
      = (m.below (key a)).values := by
    refine List.filter_eq_self.mpr fun b hb => ?_
    have := (mem_below.mp hb).2
    simp only [decide_eq_true_eq]
    omega
  have habove : ((m.atLeast (key a + 1)).values).filter (fun b => key b < key a + 1) = [] := by
    refine List.filter_eq_nil_iff.mpr fun b hb => ?_
    have := (List.mem_filter.mp hb).2
    simp only [decide_eq_true_eq] at this ⊢
    omega
  show ((m.insert a).values.filter _) = _
  simp only [insert, List.filter_append, List.filter_cons, hbelow, habove, Nat.lt_succ_self,
    decide_true, if_true]

/-- Adding a value leaves what is above it. -/
theorem atLeast_insert (m : KeyedMap α key) (a : α) :
    ((m.insert a).atLeast (key a + 1)).values = (m.atLeast (key a + 1)).values := by
  have hbelow : ((m.below (key a)).values).filter (fun b => key a + 1 ≤ key b) = [] := by
    refine List.filter_eq_nil_iff.mpr fun b hb => ?_
    have := (mem_below.mp hb).2
    simp only [decide_eq_true_eq]
    omega
  have habove : ((m.atLeast (key a + 1)).values).filter (fun b => key a + 1 ≤ key b)
      = (m.atLeast (key a + 1)).values :=
    List.filter_eq_self.mpr fun b hb => by simpa using (mem_atLeast.mp hb).2
  show ((m.insert a).values.filter _) = _
  simp only [insert, List.filter_append, List.filter_cons, hbelow, habove, Nat.not_succ_le_self,
    decide_false, Bool.false_eq_true, if_false, List.nil_append]

end KeyedMap

end UnionBridge
