import Mathlib.Data.List.AList
import Mathlib.Data.List.Sort

/-!
# Hash tables

A table is an association list without repeated keys. The order in which a hash table yields its
entries is not specified, so an iteration takes it as an argument: `inOrder rank` lists the entries
by rising rank. Every order of finitely many keys is the order of some rank, and a rank orders the
entries of a part of the table as it orders them in the whole.
-/

namespace UnionBridge

abbrev Table (κ ν : Type) := AList fun _ : κ => ν

namespace Table

variable {κ ν ν' : Type}

def isEmpty (t : Table κ ν) : Bool := t.entries.isEmpty

/-- The entries, in the order of an iteration. -/
def inOrder (rank : κ → Nat) (t : Table κ ν) : List (κ × ν) :=
  (t.entries.map fun e => (e.1, e.2)).insertionSort fun a b => rank a.1 ≤ rank b.1

/-- Keep the entries for which `keep` holds. -/
def retain (keep : κ → ν → Bool) (t : Table κ ν) : Table κ ν where
  entries := t.entries.filter fun e => keep e.1 e.2
  nodupKeys := t.nodupKeys.sublist List.filter_sublist

/-- Change every value. -/
def mapValues (f : ν → ν') (t : Table κ ν) : Table κ ν' where
  entries := t.entries.map fun e => ⟨e.1, f e.2⟩
  nodupKeys := by
    have hkeys : (t.entries.map fun e => (⟨e.1, f e.2⟩ : Sigma fun _ : κ => ν')).keys
        = t.entries.keys := by
      simp [List.keys]
    rw [List.NodupKeys, hkeys]
    exact t.nodupKeys

/-- `entry(k).or_insert(v)`. -/
def insertNew [DecidableEq κ] (k : κ) (v : ν) (t : Table κ ν) : Table κ ν :=
  if (t.lookup k).isSome then t else t.insert k v

/-- The table that a list of entries is collected into. -/
def ofList [DecidableEq κ] (l : List (κ × ν)) : Table κ ν :=
  l.foldl (fun t e => t.insert e.1 e.2) ∅

/-- The same values under keys of their own. -/
def rekey [DecidableEq κ] (key : ν → κ) (t : Table κ ν) : Table κ ν :=
  t.entries.foldl (fun t e => t.insert (key e.2) e.2) ∅

theorem nodup_inOrder {t : Table κ ν} {rank : κ → Nat} : ((t.inOrder rank).map (·.1)).Nodup := by
  have hperm : ((t.inOrder rank).map (·.1)).Perm (t.entries.map fun e => e.1) := by
    have hsort := (List.perm_insertionSort (fun a b : κ × ν => rank a.1 ≤ rank b.1)
      (t.entries.map fun e => (e.1, e.2))).map (·.1)
    rwa [List.map_map] at hsort
  exact hperm.nodup_iff.mpr t.nodupKeys

theorem nodup_filter_inOrder {t : Table κ ν} {rank : κ → Nat} {p : κ × ν → Bool} :
    (((t.inOrder rank).filter p).map (·.1)).Nodup :=
  nodup_inOrder.sublist (List.filter_sublist.map _)

section Lookup

variable [DecidableEq κ] {t : Table κ ν} {k : κ} {v : ν}

theorem mem_inOrder {rank : κ → Nat} : (k, v) ∈ t.inOrder rank ↔ t.lookup k = some v := by
  have hmem : (k, v) ∈ t.entries.map (fun e => (e.1, e.2)) ↔ (⟨k, v⟩ : Sigma fun _ : κ => ν)
      ∈ t.entries := by
    refine ⟨fun h => ?_, fun h => List.mem_map.mpr ⟨_, h, rfl⟩⟩
    obtain ⟨e, he, heq⟩ := List.mem_map.mp h
    cases heq
    exact he
  rw [inOrder, List.mem_insertionSort, hmem]
  exact AList.mem_lookup_iff.symm

/-- What a search finds is an entry of the table. -/
theorem find_inOrder {rank : κ → Nat} {p : κ → ν → Bool} {Q : Option (κ × ν) → Prop}
    (hnone : (∀ k v, t.lookup k = some v → p k v = false) → Q none)
    (hsome : ∀ k v, t.lookup k = some v → p k v = true → Q (some (k, v))) :
    Q ((t.inOrder rank).find? fun entry => p entry.1 entry.2) := by
  cases hfind : (t.inOrder rank).find? fun entry => p entry.1 entry.2 with
  | none =>
    refine hnone fun k v hlookup => ?_
    simpa using List.find?_eq_none.mp hfind (k, v) (mem_inOrder.mpr hlookup)
  | some entry =>
    exact hsome entry.1 entry.2 (mem_inOrder.mp (List.mem_of_find?_eq_some hfind))
      (List.find?_some (p := fun entry : κ × ν => p entry.1 entry.2) hfind)

theorem mem_filter_inOrder {rank : κ → Nat} {p : κ × ν → Bool} :
    k ∈ ((t.inOrder rank).filter p).map (·.1) ↔ ∃ v, t.lookup k = some v ∧ p (k, v) = true := by
  simp only [List.mem_map, List.mem_filter]
  constructor
  · rintro ⟨⟨_, v⟩, ⟨hmem, hp⟩, rfl⟩
    exact ⟨v, mem_inOrder.mp hmem, hp⟩
  · rintro ⟨v, hlookup, hp⟩
    exact ⟨(k, v), ⟨mem_inOrder.mpr hlookup, hp⟩, rfl⟩

theorem lookup_retain {keep : κ → ν → Bool} :
    (t.retain keep).lookup k = (t.lookup k).filter (keep k) := by
  refine Option.ext fun v => ?_
  rw [Option.filter_eq_some_iff]
  have hleft : (t.retain keep).lookup k = some v ↔ (⟨k, v⟩ : Sigma fun _ : κ => ν) ∈ t.entries
      ∧ keep k v = true := by
    refine (AList.mem_lookup_iff (s := t.retain keep)).trans ?_
    exact List.mem_filter
  rw [hleft]
  exact and_congr_left' AList.mem_lookup_iff.symm

theorem lookup_mapValues {f : ν → ν'} : (t.mapValues f).lookup k = (t.lookup k).map f := by
  refine Option.ext fun v => ?_
  rw [Option.map_eq_some_iff]
  refine (AList.mem_lookup_iff (s := t.mapValues f)).trans ?_
  constructor
  · intro h
    obtain ⟨e, he, heq⟩ := List.mem_map.mp h
    cases heq
    exact ⟨e.2, AList.mem_lookup_iff.mpr he, rfl⟩
  · rintro ⟨v, hv, rfl⟩
    exact List.mem_map.mpr ⟨⟨k, v⟩, AList.mem_lookup_iff.mp hv, rfl⟩

theorem lookup_insert_eq_some {k' : κ} {v' : ν} :
    (t.insert k v).lookup k' = some v' ↔ k' = k ∧ v' = v ∨ k' ≠ k ∧ t.lookup k' = some v' := by
  by_cases hk : k' = k
  · subst hk
    simp [eq_comm]
  · simp [AList.lookup_insert_ne hk, hk]

theorem lookup_erase_eq_some {k' : κ} {v' : ν} :
    (t.erase k).lookup k' = some v' ↔ k' ≠ k ∧ t.lookup k' = some v' := by
  by_cases hk : k' = k
  · subst hk
    simp
  · simp [AList.lookup_erase_ne hk, hk]

theorem lookup_foldl_erase (keys : List κ) (t : Table κ ν) :
    (keys.foldl (fun t k => t.erase k) t).lookup k = if k ∈ keys then none else t.lookup k := by
  induction keys generalizing t with
  | nil => rfl
  | cons k' keys ih =>
    rw [List.foldl_cons, ih]
    by_cases hk : k = k'
    · subst hk
      simp
    · simp [AList.lookup_erase_ne hk, hk]

/-- A list with one value for each key is the graph of its table. -/
theorem lookup_ofList {l : List (κ × ν)} (h : ∀ {k v v'}, (k, v) ∈ l → (k, v') ∈ l → v = v') :
    (ofList l).lookup k = some v ↔ (k, v) ∈ l := by
  have hfold : ∀ (l : List (κ × ν)) (start : Table κ ν),
      (∀ {v v'}, (k, v) ∈ l → (k, v') ∈ l → v = v') →
      ((l.foldl (fun t e => t.insert e.1 e.2) start).lookup k = some v
        ↔ (k, v) ∈ l ∨ (∀ v', (k, v') ∉ l) ∧ start.lookup k = some v) := by
    intro l
    induction l with
    | nil => exact fun start _ => by simp
    | cons e l ih =>
      intro start hone
      rw [List.foldl_cons, ih _ fun hv hv' => hone (List.mem_cons_of_mem _ hv)
        (List.mem_cons_of_mem _ hv'), lookup_insert_eq_some]
      grind
  simpa [ofList] using hfold l ∅ h

/-- A value of the new table has the key it stands under. -/
theorem lookup_rekey {key : ν → κ} (h : (t.rekey key).lookup k = some v) :
    key v = k ∧ ∃ k', t.lookup k' = some v := by
  have hfold : ∀ (entries : List (Sigma fun _ : κ => ν)) (start : Table κ ν),
      (entries.foldl (fun t e => t.insert (key e.2) e.2) start).lookup k = some v →
      start.lookup k = some v ∨ key v = k ∧ ∃ e ∈ entries, e.2 = v := by
    intro entries
    induction entries with
    | nil => exact fun _ h => .inl h
    | cons e entries ih =>
      intro start h
      rcases ih _ h with h | ⟨hkey, e', he', hv⟩
      · by_cases hk : k = key e.2
        · subst hk
          rw [AList.lookup_insert] at h
          cases h
          exact .inr ⟨rfl, e, List.mem_cons_self, rfl⟩
        · rw [AList.lookup_insert_ne hk] at h
          exact .inl h
      · exact .inr ⟨hkey, e', List.mem_cons_of_mem _ he', hv⟩
  rcases hfold _ _ h with h | ⟨hkey, e, he, rfl⟩
  · cases h
  · exact ⟨hkey, e.1, AList.mem_lookup_iff.mpr he⟩

/-- When each value has the key it stands under, nothing is lost. -/
theorem lookup_rekey_of_keyed {key : ν → κ} (hkeyed : ∀ k v, t.lookup k = some v → key v = k) :
    (t.rekey key).lookup k = t.lookup k := by
  have hfold : ∀ (entries : List (Sigma fun _ : κ => ν)) (start : Table κ ν),
      ((start.lookup k).isSome = true ∨ ∃ e ∈ entries, key e.2 = k) →
      ((entries.foldl (fun t e => t.insert (key e.2) e.2) start).lookup k).isSome = true := by
    intro entries
    induction entries with
    | nil => exact fun start h => h.resolve_right fun ⟨_, he, _⟩ => nomatch he
    | cons e entries ih =>
      intro start h
      refine ih (start.insert (key e.2) e.2) ?_
      by_cases hk : k = key e.2
      · left
        rw [← hk, AList.lookup_insert]
        rfl
      · rw [AList.lookup_insert_ne hk]
        refine h.imp_right fun ⟨e', he', hkey⟩ => ?_
        rcases List.mem_cons.mp he' with rfl | he'
        · exact absurd hkey.symm hk
        · exact ⟨e', he', hkey⟩
  -- a value of the new table stands under its key in the old one
  have hsound : ∀ v, (t.rekey key).lookup k = some v → t.lookup k = some v := by
    intro v hv
    obtain ⟨hkey, k', hk'⟩ := lookup_rekey hv
    rwa [← hkey, hkeyed k' v hk']
  cases hlookup : t.lookup k with
  | none =>
    cases hnew : (t.rekey key).lookup k with
    | none => rfl
    | some v => exact absurd ((hsound v hnew).symm.trans hlookup) nofun
  | some v =>
    have hsome : ((t.rekey key).lookup k).isSome = true := by
      refine hfold t.entries ∅ (.inr ⟨⟨k, v⟩, ?_, hkeyed k v hlookup⟩)
      exact AList.mem_lookup_iff.mp hlookup
    obtain ⟨v', hv'⟩ := Option.isSome_iff_exists.mp hsome
    exact hv'.trans ((hsound v' hv').symm.trans hlookup)

end Lookup

end Table

end UnionBridge
