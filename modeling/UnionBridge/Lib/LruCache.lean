import Mathlib.Data.List.Nodup

/-!
# Caches that forget the least recently used entry

A cache of fixed capacity, as the list of its entries with the most recently used one first. A hit and
an insertion both move their entry to the front; what does not fit any more falls off the end.

What a cache can do to a store in front of which it stands is little: every entry that it holds was put
there, so whatever is true of all insertions is true of all entries (`Holds`).
-/

namespace UnionBridge

structure LruCache (κ ν : Type) where
  capacity : Nat
  entries : List (κ × ν)
  positive : 0 < capacity
  nodup : (entries.map Prod.fst).Nodup
  bounded : entries.length ≤ capacity

namespace LruCache

variable {κ ν : Type}

def new (capacity : Nat) (positive : 0 < capacity) : LruCache κ ν :=
  ⟨capacity, [], positive, List.nodup_nil, Nat.zero_le _⟩

variable [DecidableEq κ]

variable (cache : LruCache κ ν) (k : κ)

/-- The entries of the other keys. -/
def others : List (κ × ν) := cache.entries.filter fun e => e.1 ≠ k

theorem others_sublist : ((cache.others k).take (cache.capacity - 1)).Sublist cache.entries :=
  (List.take_sublist _ _).trans List.filter_sublist

/-- The entry goes to the front, in the place of an older one with its key. -/
def touch (v : ν) (cache : LruCache κ ν) : LruCache κ ν where
  capacity := cache.capacity
  entries := (k, v) :: (cache.others k).take (cache.capacity - 1)
  positive := cache.positive
  nodup := by
    refine List.nodup_cons.mpr ⟨fun hmem => ?_, ((cache.others_sublist k).map _).nodup cache.nodup⟩
    obtain ⟨e, he, heq⟩ := List.mem_map.mp hmem
    have hne := (List.mem_filter.mp (List.mem_of_mem_take he)).2
    exact absurd heq (by simpa using hne)
  bounded := by
    have hpos := cache.positive
    rw [List.length_cons, List.length_take]
    omega

def lookup : Option ν :=
  (cache.entries.find? fun e => e.1 = k).map Prod.snd

/-- A hit makes its entry the most recent one. -/
def get (cache : LruCache κ ν) : Option ν × LruCache κ ν :=
  match cache.lookup k with
  | none => (none, cache)
  | some v => (some v, cache.touch k v)

/-- The result is the value that was replaced. -/
def put (v : ν) (cache : LruCache κ ν) : Option ν × LruCache κ ν :=
  (cache.lookup k, cache.touch k v)

/-- Every entry satisfies `P`. -/
def Holds (P : κ → ν → Prop) : Prop := ∀ e ∈ cache.entries, P e.1 e.2

section Holds

variable {cache : LruCache κ ν} {P P' : κ → ν → Prop} {k : κ} {v : ν}

omit [DecidableEq κ] in
theorem holds_new {capacity : Nat} {positive : 0 < capacity} :
    (new capacity positive : LruCache κ ν).Holds P := by
  intro e he
  cases he

omit [DecidableEq κ] in
theorem Holds.mono (h : cache.Holds P) (hP : ∀ k v, P k v → P' k v) : cache.Holds P' :=
  fun e he => hP _ _ (h e he)

/-- Touching replaces the entry of its key, and may drop others. -/
theorem Holds.touch (h : cache.Holds P) (hv : P' k v)
    (hothers : ∀ k' v', k' ≠ k → P k' v' → P' k' v') : (cache.touch k v).Holds P' := by
  intro e he
  rcases List.mem_cons.mp he with rfl | hmem
  · exact hv
  · have hne : e.1 ≠ k := by simpa using (List.mem_filter.mp (List.mem_of_mem_take hmem)).2
    exact hothers _ _ hne (h e ((cache.others_sublist k).subset hmem))

theorem Holds.of_lookup (h : cache.Holds P) (hlookup : cache.lookup k = some v) : P k v := by
  obtain ⟨e, he, rfl⟩ := Option.map_eq_some_iff.mp hlookup
  have hkey : e.1 = k := by simpa using List.find?_some he
  exact hkey ▸ h e (List.mem_of_find?_eq_some he)

/-- What a cache returns satisfies `P`, and so does what it holds afterwards. -/
theorem Holds.get (h : cache.Holds P) :
    (∀ v, (cache.get k).1 = some v → P k v) ∧ (cache.get k).2.Holds P := by
  unfold LruCache.get
  cases hlookup : cache.lookup k with
  | none => exact ⟨(fun _ heq => nomatch heq), h⟩
  | some v =>
    refine ⟨fun v' heq => ?_, h.touch (h.of_lookup hlookup) fun _ _ _ hP => hP⟩
    cases heq
    exact h.of_lookup hlookup

end Holds

end LruCache

end UnionBridge
