import Mathlib.Data.List.Basic
import Mathlib.Logic.Relation
import Mathlib.Order.Defs.Unbundled

/-!
# Programs that fail and keep their state

Code that changes its state and leaves early with an error is an `EStateM` program: the changes
made before the error stay. `wp m Q E s` says what holds after `m` started in `s`: `Q` of the value
and the state when it returns, `E` of the error and the state when it fails. A program is executed
symbolically by rewriting with the `wp` lemmas; a call is replaced by what is known of it with
`wp_mono`, and a loop by its invariant with `wp_forM`.

`Within R m` is the special case in which only the states count: however `m` ends, its last state
is related to its first one. With a reflexive and transitive `R` the rules need no assertions.
-/

namespace UnionBridge.Effect

variable {ε σ τ α β : Type}

/-- What holds after `m`: `Q` when it returns, `E` when it fails. -/
def wp (m : EStateM ε σ α) (Q : α → σ → Prop) (E : ε → σ → Prop) (s : σ) : Prop :=
  match m s with
  | .ok a s' => Q a s'
  | .error e s' => E e s'

/-- The state in which `m` ends. -/
def after (m : EStateM ε σ α) (s : σ) : σ :=
  match m s with
  | .ok _ s' => s'
  | .error _ s' => s'

/-- `m` ends with an error. -/
def fails (m : EStateM ε σ α) (s : σ) : Bool :=
  match m s with
  | .ok _ _ => false
  | .error _ _ => true

/-- `if !c { return Err(e) }`. -/
def ensure (c : Prop) [Decidable c] (e : ε) : EStateM ε σ Unit :=
  if c then pure () else throw e

/-- `opt.ok_or(e)?`. -/
def okOr (o : Option α) (e : ε) : EStateM ε σ α :=
  match o with
  | some a => pure a
  | none => throw e

/-- `match m { Ok(a) => .., Err(e) => .. }`, for the errors that can be caught. -/
def attempt (caught : ε → Bool) (m : EStateM ε σ α) : EStateM ε σ (Except ε α) := fun s =>
  match m s with
  | .ok a s' => .ok (.ok a) s'
  | .error e s' => if caught e then .ok (.error e) s' else .error e s'

/-- Run a program of a part of the state. -/
def zoom (get : σ → τ) (put : τ → σ → σ) (m : EStateM ε τ α) : EStateM ε σ α := fun s =>
  match m (get s) with
  | .ok a t => .ok a (put t s)
  | .error e t => .error e (put t s)

section Rules

variable {Q : α → σ → Prop} {E : ε → σ → Prop} {s : σ}

@[simp] theorem wp_pure (a : α) : wp (pure a) Q E s ↔ Q a s := Iff.rfl

@[simp] theorem wp_throw (e : ε) : wp (throw e : EStateM ε σ α) Q E s ↔ E e s := Iff.rfl

variable {m : EStateM ε σ α} {f : β → EStateM ε σ α} {Q' : α → σ → Prop} {E' : ε → σ → Prop}
  {e : ε}

@[simp] theorem wp_bind {m : EStateM ε σ β} :
    wp (m >>= f) Q E s ↔ wp m (fun b s => wp (f b) Q E s) E s := by
  show (match EStateM.bind m f s with | .ok a s' => Q a s' | .error e s' => E e s')
    ↔ wp m (fun b s => wp (f b) Q E s) E s
  unfold EStateM.bind wp
  cases m s with
  | ok b s' => exact Iff.rfl
  | error e s' => exact Iff.rfl

@[simp] theorem wp_map {f : β → α} {m : EStateM ε σ β} :
    wp (f <$> m) Q E s ↔ wp m (fun b s => Q (f b) s) E s := by
  show (match EStateM.map f m s with | .ok a s' => Q a s' | .error e s' => E e s') ↔ _
  unfold EStateM.map wp
  cases m s with
  | ok b s' => exact Iff.rfl
  | error e s' => exact Iff.rfl

@[simp] theorem wp_get {Q : σ → σ → Prop} : wp (get : EStateM ε σ σ) Q E s ↔ Q s s := Iff.rfl

@[simp] theorem wp_modify {Q : PUnit → σ → Prop} (f : σ → σ) :
    wp (modify f : EStateM ε σ PUnit) Q E s ↔ Q ⟨⟩ (f s) := Iff.rfl

@[simp] theorem wp_modifyGet (f : σ → α × σ) :
    wp (modifyGet f : EStateM ε σ α) Q E s ↔ Q (f s).1 (f s).2 := by
  show (match EStateM.modifyGet f s with | .ok a s' => Q a s' | .error e s' => E e s') ↔ _
  unfold EStateM.modifyGet
  cases f s with
  | mk a s' => exact Iff.rfl

@[simp] theorem wp_ite {c : Prop} [Decidable c] {m n : EStateM ε σ α} :
    wp (if c then m else n) Q E s ↔ if c then wp m Q E s else wp n Q E s := by
  by_cases h : c
  · simp only [h, if_true]
  · simp only [h, if_false]

@[simp] theorem wp_ensure {Q : Unit → σ → Prop} {c : Prop} [Decidable c] :
    wp (ensure c e) Q E s ↔ if c then Q () s else E e s := by
  rw [ensure, wp_ite, wp_pure, wp_throw]

@[simp] theorem wp_attempt {Q : Except ε α → σ → Prop} {caught : ε → Bool} :
    wp (attempt caught m) Q E s
      ↔ wp m (fun a s => Q (.ok a) s) (fun e s => if caught e then Q (.error e) s else E e s) s := by
  unfold wp attempt
  cases m s with
  | ok a s' => exact Iff.rfl
  | error e s' =>
    cases h : caught e with
    | true => simp [h]
    | false => simp [h]

@[simp] theorem wp_zoom {get : σ → τ} {put : τ → σ → σ} {m : EStateM ε τ α} :
    wp (zoom get put m) Q E s
      ↔ wp m (fun a t => Q a (put t s)) (fun e t => E e (put t s)) (get s) := by
  unfold wp zoom
  cases m (get s) with
  | ok a t => exact Iff.rfl
  | error e t => exact Iff.rfl

theorem wp_okOr {o : Option α} :
    wp (okOr o e) Q E s ↔ (∀ a, o = some a → Q a s) ∧ (o = none → E e s) := by
  cases o with
  | none => simp [okOr]
  | some a => simp [okOr]

/-- **Consequence.** -/
theorem wp_mono (h : wp m Q' E' s) (hQ : ∀ a s, Q' a s → Q a s) (hE : ∀ e s, E' e s → E e s) :
    wp m Q E s := by
  unfold wp at h ⊢
  cases hm : m s with
  | ok a s' => rw [hm] at h; exact hQ a s' h
  | error e s' => rw [hm] at h; exact hE e s' h

/-- More is known of the value; an error is as before. -/
theorem wp_imp (h : wp m Q' E s) (hQ : ∀ a s, Q' a s → Q a s) : wp m Q E s :=
  wp_mono h hQ fun _ _ he => he

/-- What holds however `m` ends may be weakened once for both ends. -/
theorem wp_always {P P' : σ → Prop} (h : wp m (fun _ => P') (fun _ => P') s)
    (hP : ∀ t, P' t → P t) : wp m (fun _ => P) (fun _ => P) s :=
  wp_mono h (fun _ => hP) fun _ => hP

/-- What holds however `m` ends holds of its last state. -/
theorem after_of_wp {P : σ → Prop} (h : wp m (fun _ => P) (fun _ => P) s) : P (after m s) := by
  unfold wp at h
  unfold after
  cases hm : m s with
  | ok a s' => rw [hm] at h; exact h
  | error e s' => rw [hm] at h; exact h

theorem exists_of_fails (h : fails m s = true) : ∃ e, m s = .error e (after m s) := by
  unfold fails at h
  unfold after
  cases hm : m s with
  | ok a s' => simp [hm] at h
  | error e s' => exact ⟨e, rfl⟩

theorem exists_of_not_fails (h : fails m s = false) : ∃ a, m s = .ok a (after m s) := by
  unfold fails at h
  unfold after
  cases hm : m s with
  | ok a s' => exact ⟨a, rfl⟩
  | error e s' => simp [hm] at h

theorem wp_of_not_fails (h : fails m s = false) (hm : wp m Q E' s) : wp m Q E s := by
  obtain ⟨a, ha⟩ := exists_of_not_fails h
  unfold wp at hm ⊢
  rw [ha] at hm ⊢
  exact hm

theorem wp_of_fails (h : fails m s = true) (hm : wp m Q' E s) : wp m Q E s := by
  obtain ⟨e, he⟩ := exists_of_fails h
  unfold wp at hm ⊢
  rw [he] at hm ⊢
  exact hm

theorem after_bind {m : EStateM ε σ β} {b : β} {t : σ}
    (h : m s = .ok b t) : after (m >>= f) s = after (f b) t := by
  unfold after
  rw [show (m >>= f) s = f b t from by simp [bind, EStateM.bind, h]]

theorem after_bind_error {m : EStateM ε σ β} {t : σ}
    (h : m s = .error e t) : after (m >>= f) s = t := by
  unfold after
  rw [show (m >>= f) s = .error e t from by simp [bind, EStateM.bind, h]]

theorem wp_and (h : wp m Q E s) (h' : wp m Q' E' s) :
    wp m (fun a s => Q a s ∧ Q' a s) (fun e s => E e s ∧ E' e s) s := by
  unfold wp at h h' ⊢
  cases hm : m s with
  | ok a s' => rw [hm] at h h'; exact ⟨h, h'⟩
  | error e s' => rw [hm] at h h'; exact ⟨h, h'⟩

theorem wp_trivial : wp m (fun _ _ => True) (fun _ _ => True) s := by
  unfold wp
  cases m s with
  | ok a s' => trivial
  | error e s' => trivial

/-- Two continuations can be exchanged when they agree on what the first program returns. -/
theorem bind_apply_congr {m : EStateM ε σ β} {f g : β → EStateM ε σ α}
    (h : wp m (fun b t => f b t = g b t) (fun _ _ => True) s) : (m >>= f) s = (m >>= g) s := by
  show EStateM.bind m f s = EStateM.bind m g s
  unfold EStateM.bind
  unfold wp at h
  cases hm : m s with
  | ok b t => rw [hm] at h; exact h
  | error e t => rfl

/-- **A loop.** `I rest` holds before each pass, with the elements that are still to come. -/
theorem wp_forM {f : β → EStateM ε σ PUnit} (I : List β → σ → Prop)
    (hstep : ∀ b rest s, I (b :: rest) s → wp (f b) (fun _ s => I rest s) E s) {xs : List β}
    (h : I xs s) : wp (xs.forM f) (fun _ s => I [] s) E s := by
  induction xs generalizing s with
  | nil => exact h
  | cons b xs ih =>
    show wp (f b >>= fun _ => xs.forM f) _ E s
    rw [wp_bind]
    exact wp_imp (hstep b xs s h) fun _ _ hs => ih hs

/-- **A loop that collects results.** `I done results` holds before each pass. -/
theorem wp_mapM (I : List β → List α → σ → Prop) {xs : List β}
    (hstep : ∀ done results b s, b ∈ xs → I done results s →
      wp (f b) (fun a s => I (done ++ [b]) (results ++ [a]) s) E s)
    (h : I [] [] s) : wp (xs.mapM f) (fun results s => I xs results s) E s := by
  -- The induction is on what is left of the list, with what was done before it.
  have hrest : ∀ rest done results s, (∀ b ∈ rest, b ∈ xs) → I done results s →
      wp (rest.mapM f) (fun as s => I (done ++ rest) (results ++ as) s) E s := by
    intro rest
    induction rest with
    | nil =>
      intro done results s _ hs
      simpa using hs
    | cons b rest ih =>
      intro done results s hmem hs
      rw [List.mapM_cons, wp_bind]
      refine wp_imp (hstep done results b s (hmem b List.mem_cons_self) hs) ?_
      intro a t ht
      rw [wp_bind]
      refine wp_imp (ih _ _ t (fun c hc => hmem c (List.mem_cons_of_mem _ hc)) ht) ?_
      intro as u hu
      simpa using hu
  simpa using hrest xs [] [] s (fun _ hb => hb) h

end Rules

/-- A loop whose passes only return values, in any monad. -/
theorem mapM_eq_pure {m : Type → Type} [Monad m] [LawfulMonad m] {f : β → m α}
    {g : β → α} {xs : List β} (h : ∀ b ∈ xs, f b = pure (g b)) : xs.mapM f = pure (xs.map g) := by
  induction xs with
  | nil => rfl
  | cons b xs ih =>
    rw [List.mapM_cons, h b List.mem_cons_self, ih fun c hc => h c (List.mem_cons_of_mem _ hc)]
    simp

/-! ## Programs that stay within a relation -/

/-- However `m` ends, its last state is related to its first one. -/
def Within (R : σ → σ → Prop) (m : EStateM ε σ α) : Prop := ∀ s, R s (after m s)

section Within

variable {R : σ → σ → Prop}

theorem within_iff_wp {m : EStateM ε σ α} :
    Within R m ↔ ∀ s, wp m (fun _ t => R s t) (fun _ t => R s t) s := by
  unfold Within after wp
  refine forall_congr' fun s => ?_
  cases m s with
  | ok a t => exact Iff.rfl
  | error e t => exact Iff.rfl

theorem within_modify {f : σ → σ} (h : ∀ s, R s (f s)) :
    Within R (modify f : EStateM ε σ PUnit) := h

/-- Catching an error changes no state. -/
protected theorem Within.attempt {caught : ε → Bool} {m : EStateM ε σ α} (hm : Within R m) :
    Within R (attempt caught m) := by
  rw [within_iff_wp] at hm ⊢
  intro s
  rw [wp_attempt]
  apply wp_mono (hm s) (fun _ _ h => h)
  intro e t h
  split
  · exact h
  · exact h

protected theorem Within.ite {c : Prop} [Decidable c] {m n : EStateM ε σ α} (hm : Within R m)
    (hn : Within R n) : Within R (if c then m else n) := by
  split
  · exact hm
  · exact hn

variable [IsPreorder σ R] {m : EStateM ε σ β} {f : β → EStateM ε σ α}

protected theorem Within.pure (a : α) : Within R (pure a : EStateM ε σ α) := refl_of R

protected theorem Within.throw (e : ε) : Within R (throw e : EStateM ε σ α) := refl_of R

protected theorem Within.get : Within R (get : EStateM ε σ σ) := refl_of R

protected theorem Within.bind (hm : Within R m) (hf : ∀ b, Within R (f b)) : Within R (m >>= f) := by
  rw [within_iff_wp] at hm ⊢
  intro s
  rw [wp_bind]
  apply wp_mono (hm s)
  · intro b t hst
    exact wp_always (within_iff_wp.mp (hf b) t) fun _ h => trans_of R hst h
  · intro e t hst
    exact hst

theorem within_okOr (o : Option α) (e : ε) : Within R (okOr o e : EStateM ε σ α) := by
  cases o with
  | none => exact .throw e
  | some a => exact .pure a

theorem within_ensure {c : Prop} [Decidable c] (e : ε) : Within R (ensure c e : EStateM ε σ Unit) :=
  .ite (.pure ()) (.throw e)

/-- `let b = o.ok_or(e)?; ..`. -/
protected theorem Within.okOr {o : Option β} {e : ε} (h : ∀ b, Within R (f b)) :
    Within R (okOr o e >>= f) := (within_okOr o e).bind h

/-- `if !c { return Err(e) } ..`. -/
protected theorem Within.ensure {c : Prop} [Decidable c] {e : ε} {f : Unit → EStateM ε σ α}
    (h : ∀ u, Within R (f u)) : Within R (ensure c e >>= f) := (within_ensure e).bind h

protected theorem Within.mapM {f : β → EStateM ε σ α} (h : ∀ b, Within R (f b)) (xs : List β) :
    Within R (xs.mapM f) := by
  induction xs with
  | nil => exact .pure []
  | cons x xs ih =>
    rw [List.mapM_cons]
    exact (h x).bind fun _ => ih.bind fun _ => .pure _

protected theorem Within.forM {f : β → EStateM ε σ PUnit} (h : ∀ b, Within R (f b)) (xs : List β) :
    Within R (xs.forM f) := by
  induction xs with
  | nil => exact .pure PUnit.unit
  | cons x xs ih => exact (h x).bind fun _ => ih

end Within

/-! ### Following a program by instance search

How a program is put together decides that it stays within a relation, up to the operations that the
relation is about. An instance for each of these and one for each named program do the rest. -/

/-- `Within R m`, found by instance search. -/
class Stays (R : σ → σ → Prop) (m : EStateM ε σ α) : Prop where
  within : Within R m

section Stays

/-- A side condition that computing both sides decides. -/
instance factEqSelf {a : α} : Fact (a = a) := ⟨rfl⟩

variable {R : σ → σ → Prop} {c : Prop} [Decidable c]

instance {m n : EStateM ε σ α} [hm : Stays R m] [hn : Stays R n] : Stays R (if c then m else n) :=
  ⟨.ite hm.within hn.within⟩

instance {m : c → EStateM ε σ α} {n : ¬ c → EStateM ε σ α} [hm : ∀ h, Stays R (m h)]
    [hn : ∀ h, Stays R (n h)] : Stays R (dite c m n) := by
  split
  · exact hm _
  · exact hn _

variable [IsPreorder σ R] {m : EStateM ε σ β} {f : β → EStateM ε σ α}

instance (a : α) : Stays R (pure a : EStateM ε σ α) := ⟨.pure a⟩

instance (e : ε) : Stays R (throw e : EStateM ε σ α) := ⟨.throw e⟩

instance : Stays R (get : EStateM ε σ σ) := ⟨.get⟩

instance [hm : Stays R m] [hf : ∀ b, Stays R (f b)] : Stays R (m >>= f) :=
  ⟨hm.within.bind fun b => (hf b).within⟩

instance [hm : Stays R m] (g : β → α) : Stays R (g <$> m) :=
  ⟨within_iff_wp.mpr fun s => wp_map.mpr (within_iff_wp.mp hm.within s)⟩

instance (o : Option α) (e : ε) : Stays R (okOr o e : EStateM ε σ α) := ⟨within_okOr o e⟩

instance (e : ε) : Stays R (ensure c e : EStateM ε σ Unit) := ⟨within_ensure e⟩

instance [hf : ∀ b, Stays R (f b)] (xs : List β) : Stays R (xs.mapM f) :=
  ⟨.mapM (fun b => (hf b).within) xs⟩

instance {f : β → EStateM ε σ PUnit} [hf : ∀ b, Stays R (f b)] (xs : List β) :
    Stays R (xs.forM f) :=
  ⟨.forM (fun b => (hf b).within) xs⟩

end Stays

/-! ## Invariants -/

/-- However `m` ends, `I` still holds if it held before. -/
def Keeps (I : σ → Prop) (m : EStateM ε σ α) : Prop :=
  ∀ s, I s → wp m (fun _ => I) (fun _ => I) s

section Keeps

variable {I : σ → Prop}

theorem keeps_pure (a : α) : Keeps I (pure a : EStateM ε σ α) := fun _ h => h

theorem keeps_throw (e : ε) : Keeps I (throw e : EStateM ε σ α) := fun _ h => h

theorem keeps_modify {f : σ → σ} (h : ∀ s, I s → I (f s)) :
    Keeps I (modify f : EStateM ε σ PUnit) := h

theorem keeps_bind {m : EStateM ε σ β} {f : β → EStateM ε σ α} (hm : Keeps I m)
    (hf : ∀ b, Keeps I (f b)) : Keeps I (m >>= f) := by
  intro s hs
  rw [wp_bind]
  exact wp_imp (hm s hs) fun b t ht => hf b t ht

theorem keeps_and {J : σ → Prop} {m : EStateM ε σ α} (hI : Keeps I m) (hJ : Keeps J m) :
    Keeps (fun s => I s ∧ J s) m :=
  fun s hs => wp_and (hI s hs.1) (hJ s hs.2)

/-- A family of invariants, of which some hold. -/
theorem keeps_forall {ι : Type} {P : ι → Prop} {J : ι → σ → Prop} {m : EStateM ε σ α}
    (h : ∀ i, Keeps (J i) m) : Keeps (fun s => ∀ i, P i → J i s) m := by
  intro s hs
  unfold wp
  cases hm : m s with
  | ok a t =>
    intro i hi
    have hafter := h i s (hs i hi)
    unfold wp at hafter
    rwa [hm] at hafter
  | error e t =>
    intro i hi
    have hafter := h i s (hs i hi)
    unfold wp at hafter
    rwa [hm] at hafter

theorem keeps_attempt {caught : ε → Bool} {m : EStateM ε σ α} (hm : Keeps I m) :
    Keeps I (attempt caught m) := by
  intro s hs
  rw [wp_attempt]
  apply wp_mono (hm s hs) fun _ _ h => h
  intro e t h
  split
  · exact h
  · exact h

theorem keeps_forM {f : β → EStateM ε σ PUnit} (h : ∀ b, Keeps I (f b)) (xs : List β) :
    Keeps I (xs.forM f) :=
  fun _ hs => wp_forM (fun _ => I) (fun b _ s => h b s) hs

end Keeps

/-! ## From one assertion to another -/

/-- However `m` ends, `I` holds if `J` held before. -/
def Leads (J I : σ → Prop) (m : EStateM ε σ α) : Prop :=
  ∀ s, J s → wp m (fun _ => I) (fun _ => I) s

section Leads

variable {I J : σ → Prop} (hweaker : ∀ s, J s → I s)

include hweaker

theorem leads_of_keeps {m : EStateM ε σ α} (h : Keeps J m) : Leads J I m :=
  fun s hs => wp_always (h s hs) hweaker

/-- The first program keeps what the second one starts from. -/
theorem leads_bind {m : EStateM ε σ β} {f : β → EStateM ε σ α} (hm : Keeps J m)
    (hf : ∀ b, Leads J I (f b)) : Leads J I (m >>= f) := by
  intro s hs
  rw [wp_bind]
  exact wp_mono (hm s hs) (fun b t ht => hf b t ht) fun _ => hweaker

end Leads

end UnionBridge.Effect
