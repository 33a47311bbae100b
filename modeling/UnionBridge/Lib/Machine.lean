import Mathlib.Data.List.Basic

/-!
# Machines and their runs

A deterministic machine that consumes inputs. The environment chooses the inputs, so what can be
assumed of it is a condition on the input in the state it arrives in (`Allowed`). A property that
holds at the start and that every allowed step keeps holds in every state an allowed run reaches.
-/

namespace UnionBridge.Machine

variable {σ ι : Type}

/-- The state after a run. -/
def run (step : σ → ι → σ) (s : σ) (inputs : List ι) : σ := inputs.foldl step s

/-- Every input of the run satisfies the condition in the state in which it arrives. -/
def Allowed (step : σ → ι → σ) (cond : σ → ι → Prop) : σ → List ι → Prop
  | _, [] => True
  | s, i :: inputs => cond s i ∧ Allowed step cond (step s i) inputs

instance decidableAllowed {step : σ → ι → σ} {cond : σ → ι → Prop} [∀ s i, Decidable (cond s i)] :
    ∀ s inputs, Decidable (Allowed step cond s inputs)
  | _, [] => isTrue trivial
  | s, i :: inputs =>
    have : Decidable (Allowed step cond (step s i) inputs) := decidableAllowed (step s i) inputs
    inferInstanceAs (Decidable (cond s i ∧ Allowed step cond (step s i) inputs))

variable {step : σ → ι → σ} {cond : σ → ι → Prop} {inputs : List ι} {s : σ}

theorem allowed_of_always (h : ∀ i ∈ inputs, ∀ s, cond s i) : Allowed step cond s inputs := by
  induction inputs generalizing s with
  | nil => trivial
  | cons i inputs ih =>
    exact ⟨h i List.mem_cons_self s, ih fun j hj => h j (List.mem_cons_of_mem _ hj)⟩

theorem allowed_of_forall {cond : ι → Prop}
    (h : ∀ i ∈ inputs, cond i) : Allowed step (fun _ => cond) s inputs :=
  allowed_of_always fun i hi _ => h i hi

theorem allowed_append {inputs later : List ι}
    (h : Allowed step cond s inputs) (hlater : Allowed step cond (run step s inputs) later) :
    Allowed step cond s (inputs ++ later) := by
  induction inputs generalizing s with
  | nil => exact hlater
  | cons i inputs ih => exact ⟨h.1, ih h.2 hlater⟩

/-- **The invariant rule.** -/
theorem run_invariant (Inv : σ → Prop)
    (hstep : ∀ s i, Inv s → cond s i → Inv (step s i)) (hinit : Inv s)
    (hallowed : Allowed step cond s inputs) : Inv (run step s inputs) := by
  induction inputs generalizing s with
  | nil => exact hinit
  | cons i inputs ih => exact ih (hstep s i hinit hallowed.1) hallowed.2

/-- The same when nothing is asked of the inputs. -/
theorem run_keeps (Inv : σ → Prop) (hstep : ∀ s i, Inv s → Inv (step s i))
    (hinit : Inv s) (inputs : List ι) : Inv (run step s inputs) :=
  run_invariant Inv (fun s i hs (_ : True) => hstep s i hs) hinit
    (allowed_of_forall fun _ _ => trivial)

end UnionBridge.Machine
