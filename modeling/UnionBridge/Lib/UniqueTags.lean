import Mathlib.Logic.Basic

/-!
# Tags that at most one value holds

Values stand under keys, and the records of some of them outlive the values. A value may hold a tag.
If every tag in a record is also the tag of the value under the same key, then no two records have
the same tag either, and the values can be rebuilt from them.
-/

namespace UnionBridge

variable {κ ν τ : Type}

/-- No two values hold the same tag, and the tags of the records are those of their values. -/
structure UniqueTags (tag : ν → Option τ) (values records : κ → Option ν) : Prop where
  apart : ∀ {k k' : κ} {v v' : ν} {t : τ}, values k = some v → values k' = some v' →
    tag v = some t → tag v' = some t → k = k'
  known : ∀ {k : κ} {r : ν} {t : τ}, records k = some r → tag r = some t →
    ∃ v, values k = some v ∧ tag v = some t

namespace UniqueTags

variable {tag : ν → Option τ} {values records values' records' : κ → Option ν}
  (h : UniqueTags tag values records)
include h

/-- A value is put in the place of another, or on a free one. Its tag is its own, and its record has
no other. -/
theorem put {k : κ} {v : ν} (hvalue : values' k = some v)
    (hvalues : ∀ k', k' ≠ k → values' k' = values k')
    (hrecords : ∀ k', k' ≠ k → records' k' = records k')
    (hfree : ∀ t, tag v = some t → ∀ k' v', values k' = some v' → tag v' = some t → k' = k)
    (hrecord : ∀ r t, records' k = some r → tag r = some t → tag v = some t) :
    UniqueTags tag values' records' where
  apart := by
    intro k₁ k₂ v₁ v₂ t h₁ h₂ ht₁ ht₂
    by_cases hk₁ : k₁ = k <;> by_cases hk₂ : k₂ = k
    · rw [hk₁, hk₂]
    · rw [hk₁, hvalue] at h₁
      cases h₁
      rw [hvalues k₂ hk₂] at h₂
      exact absurd (hfree t ht₁ k₂ v₂ h₂ ht₂) hk₂
    · rw [hk₂, hvalue] at h₂
      cases h₂
      rw [hvalues k₁ hk₁] at h₁
      exact absurd (hfree t ht₂ k₁ v₁ h₁ ht₁) hk₁
    · rw [hvalues k₁ hk₁] at h₁
      rw [hvalues k₂ hk₂] at h₂
      exact h.apart h₁ h₂ ht₁ ht₂
  known := by
    intro k' r t hr ht
    by_cases hk : k' = k
    · subst hk
      exact ⟨v, hvalue, hrecord r t hr ht⟩
    · rw [hrecords k' hk] at hr
      rw [hvalues k' hk]
      exact h.known hr ht

/-- A value changes and keeps its tag. -/
theorem change {k : κ} {v v' : ν} (hold : values k = some v)
    (hvalue : values' k = some v') (htag : tag v' = tag v)
    (hvalues : ∀ k', k' ≠ k → values' k' = values k')
    (hrecords : ∀ k', k' ≠ k → records' k' = records k')
    (hrecord : ∀ r, records' k = some r → records k = some r ∨ tag r = tag v) :
    UniqueTags tag values' records' := by
  refine h.put hvalue hvalues hrecords (fun t ht k' v'' hv'' ht'' => ?_) fun r t hr ht => ?_
  · exact h.apart hv'' hold ht'' (htag ▸ ht)
  · rw [htag]
    rcases hrecord r hr with hr | hsame
    · obtain ⟨v'', hv'', ht''⟩ := h.known hr ht
      cases hold.symm.trans hv''
      exact ht''
    · exact hsame ▸ ht

/-- Values leave together with their records. -/
theorem drop (hvalues : ∀ k v, values' k = some v → values k = some v)
    (hrecords : ∀ k r, records' k = some r → records k = some r ∧ values' k = values k) :
    UniqueTags tag values' records' where
  apart h₁ h₂ := h.apart (hvalues _ _ h₁) (hvalues _ _ h₂)
  known := by
    intro k r t hr ht
    obtain ⟨hr, hsame⟩ := hrecords k r hr
    rw [hsame]
    exact h.known hr ht

/-- Only records without a tag have changed. -/
theorem recorded (hrecords : ∀ k r, records' k = some r → records k = some r ∨ tag r = none) :
    UniqueTags tag values records' where
  apart := h.apart
  known := by
    intro k r t hr ht
    rcases hrecords k r hr with hr | hnone
    · exact h.known hr ht
    · cases hnone.symm.trans ht

/-- The values are rebuilt from the records. -/
theorem load : UniqueTags tag records records where
  apart := by
    intro k k' v v' t hv hv' ht ht'
    obtain ⟨u, hu, htu⟩ := h.known hv ht
    obtain ⟨u', hu', htu'⟩ := h.known hv' ht'
    exact h.apart hu hu' htu htu'
  known hr ht := ⟨_, hr, ht⟩

end UniqueTags

end UnionBridge
