import Mathlib.Algebra.Order.Group.Nat
import Mathlib.Data.List.Basic
import Mathlib.Algebra.GroupWithZero.Nat

/-!
# Outcomes of fallible code

A call either returns a value, returns an error, or panics. An indexing expression that leaves
its slice panics, `?` passes an error on, and both stop the computation, so the two kinds of
failure share the error side of one `Except`. `NoPanic` is the claim that a call never takes
the panicking one.

`foldlM_ok_iff` is the rule for a loop that checks every element and adds up a quantity: the
loop returns exactly when every check passes, and then the result is the sum. `foldlM_noPanic`
is its companion for panics.
-/

namespace UnionBridge

/-- How a call fails: with an error it returns, or with a panic. -/
inductive Failure where
  | err (msg : String)
  | panic (msg : String)
deriving DecidableEq, Repr

/-- A returned value or a failure. -/
abbrev Outcome := Except Failure

namespace Outcome

variable {α β : Type}

/-- `Err(msg)`. -/
def fail (msg : String) : Outcome α := .error (.err msg)

/-- `opt.ok_or(msg)`. -/
def okOr (msg : String) : Option α → Outcome α
  | some a => .ok a
  | none => fail msg

/-- `xs[i]`: panics when `i` is out of bounds. -/
def index (xs : List α) (i : Nat) : Outcome α :=
  match xs[i]? with
  | some a => .ok a
  | none => .error (.panic "index out of bounds")

/-- The call does not panic. -/
def NoPanic (x : Outcome α) : Prop :=
  ∀ msg, x ≠ .error (.panic msg)

/-! ## Inversion -/

variable {x : Outcome α} {msg : String} {c : Prop} {a : α}

theorem bind_eq_ok {ε : Type} {x : Except ε α} {f : α → Except ε β} {r : β} :
    (x >>= f) = .ok r ↔ ∃ a, x = .ok a ∧ f a = .ok r := by
  cases x with
  | error e => simp [bind, Except.bind]
  | ok a => simp [bind, Except.bind]

theorem exists_of_isOk {ε : Type} {x : Except ε α} (h : x.isOk = true) : ∃ a, x = .ok a := by
  cases x with
  | error e => cases h
  | ok a => exact ⟨a, rfl⟩

@[simp] theorem pure_eq_ok (a : α) : (pure a : Outcome α) = .ok a := rfl

@[simp] theorem fail_ne_ok (msg : String) (a : α) : (fail msg : Outcome α) ≠ .ok a := by
  simp [fail]

@[simp] theorem okOr_eq_ok {o : Option α} : okOr msg o = .ok a ↔ o = some a := by
  cases o with
  | none => simp [okOr]
  | some b => simp [okOr]

@[simp] theorem index_eq_ok {xs : List α} {i : Nat} : index xs i = .ok a ↔ xs[i]? = some a := by
  unfold index
  cases xs[i]? with
  | none => simp
  | some b => simp

/-- `if c { return Err(msg) }` followed by the rest. -/
theorem guard_eq_ok [Decidable c] : (if c then fail msg else x) = .ok a ↔ ¬ c ∧ x = .ok a := by
  by_cases h : c
  · simp [h]
  · simp [h]

/-- `if c { Ok(()) } else { Err(msg) }`. -/
theorem ensure_eq_ok [Decidable c] {u : Unit} : (if c then .ok () else fail msg) = .ok u ↔ c := by
  by_cases h : c
  · simp [h]
  · simp [h]

/-! ## Panics -/

theorem noPanic_ok (a : α) : NoPanic (.ok a : Outcome α) := by
  intro msg h; cases h

theorem noPanic_fail (msg : String) : NoPanic (fail msg : Outcome α) := by
  intro msg' h; simp [fail] at h

theorem noPanic_okOr (msg : String) (o : Option α) : NoPanic (okOr msg o) := by
  cases o with
  | none => exact noPanic_fail msg
  | some a => exact noPanic_ok a

theorem noPanic_bind {f : α → Outcome β} (hx : NoPanic x)
    (hf : ∀ a, x = .ok a → NoPanic (f a)) : NoPanic (x >>= f) := by
  cases x with
  | error e =>
    intro msg h
    exact hx msg (by simpa [bind, Except.bind] using h)
  | ok a => exact hf a rfl

theorem noPanic_guard [Decidable c] (hx : NoPanic x) : NoPanic (if c then fail msg else x) := by
  by_cases h : c
  · simpa [h] using noPanic_fail msg
  · simpa [h] using hx

theorem noPanic_ensure [Decidable c] (msg : String) : NoPanic (if c then .ok () else fail msg) := by
  by_cases h : c
  · simpa [h] using noPanic_ok ()
  · simpa [h] using noPanic_fail msg

/-- An index in bounds does not panic. -/
theorem noPanic_index {xs : List α} {i : Nat} (h : i < xs.length) : NoPanic (index xs i) := by
  rw [index, List.getElem?_eq_getElem h]
  exact noPanic_ok _

/-! ## Loops -/

/-- **An accumulating loop.** When one pass over `a` returns exactly if `P a` holds, and then
has added `w a` to the measured accumulator, the whole loop returns exactly if `P` holds of every
element, and then the sum of all `w a` has been added. The measure is injective, and every value
below a measure is a measure: a smaller partial sum always has an accumulator, so a total that
fits leaves no partial sum that does not. -/
theorem foldlM_ok_iff {f : β → α → Outcome β} {measure : β → Nat} {P : α → Prop} {w : α → Nat}
    (hinj : Function.Injective measure) (hdown : ∀ b n, n ≤ measure b → ∃ b', measure b' = n)
    {l : List α}
    (hf : ∀ a ∈ l, ∀ b b', f b a = .ok b' ↔ P a ∧ measure b' = measure b + w a) (b r : β) :
    l.foldlM f b = .ok r ↔ (∀ a ∈ l, P a) ∧ measure r = measure b + (l.map w).sum := by
  induction l generalizing b with
  | nil =>
    simp only [List.foldlM_nil, pure_eq_ok, Except.ok.injEq, List.not_mem_nil, false_implies,
      implies_true, true_and, List.map_nil, List.sum_nil, add_zero]
    exact ⟨fun h => by rw [h], fun h => (hinj h).symm⟩
  | cons a l ih =>
    have hf' : ∀ a ∈ l, ∀ b b', f b a = .ok b' ↔ P a ∧ measure b' = measure b + w a :=
      fun c hc => hf c (List.mem_cons_of_mem _ hc)
    simp only [List.foldlM_cons, bind_eq_ok, List.forall_mem_cons, List.map_cons, List.sum_cons]
    constructor
    · rintro ⟨b', hstep, hrest⟩
      obtain ⟨hP, hb'⟩ := (hf a List.mem_cons_self b b').mp hstep
      obtain ⟨hall, hr⟩ := (ih hf' b').mp hrest
      exact ⟨⟨hP, hall⟩, by rw [hr, hb', Nat.add_assoc]⟩
    · rintro ⟨⟨hP, hall⟩, hr⟩
      -- the partial sum after `a` fits because the total does
      obtain ⟨b', hb'⟩ := hdown r (measure b + w a) (by omega)
      refine ⟨b', (hf a List.mem_cons_self b b').mpr ⟨hP, hb'⟩, (ih hf' b').mpr ⟨hall, ?_⟩⟩
      rw [hr, hb', Nat.add_assoc]

/-- A loop whose passes do not panic does not panic. -/
theorem foldlM_noPanic {f : β → α → Outcome β} {l : List α}
    (hf : ∀ a ∈ l, ∀ b, NoPanic (f b a)) (b : β) : NoPanic (l.foldlM f b) := by
  induction l generalizing b with
  | nil => exact noPanic_ok b
  | cons a l ih =>
    rw [List.foldlM_cons]
    refine noPanic_bind (hf a List.mem_cons_self b) fun b' _ => ?_
    exact ih (fun c hc => hf c (List.mem_cons_of_mem _ hc)) b'

end Outcome

end UnionBridge
