import Mathlib.Data.List.Induction

/-!
# Logs of a stack

A stack is a list with its top at the end. A log lists what was put on it and what was taken off;
replaying a log fails when an entry takes off a value that is not on top. What is replayed is a
function of the start and the log, so a reader of the log needs no more than the start to know the
stack.
-/

namespace UnionBridge

inductive StackOp (α : Type) where
  | push (a : α)
  | pop (a : α)

namespace StackOp

variable {α : Type} [DecidableEq α]

def replay : List α → List (StackOp α) → Option (List α)
  | stack, [] => some stack
  | stack, .push a :: log => replay (stack ++ [a]) log
  | stack, .pop a :: log => if stack.getLast? = some a then replay stack.dropLast log else none

theorem replay_append (stack : List α) (log log' : List (StackOp α)) :
    replay stack (log ++ log') = (replay stack log).bind fun s => replay s log' := by
  induction log generalizing stack with
  | nil => rfl
  | cons op log ih =>
    cases op with
    | push a => exact ih (stack ++ [a])
    | pop a =>
      simp only [List.cons_append, replay]
      split
      · exact ih stack.dropLast
      · rfl

/-- Taking off the upper part of a stack from the top down leaves the lower part. -/
theorem replay_pops (base top : List α) :
    replay (base ++ top) (top.reverse.map .pop) = some base := by
  induction top using List.reverseRecOn with
  | nil => simp [replay]
  | append_singleton top a ih =>
    rw [List.reverse_append, List.reverse_singleton, List.singleton_append, List.map_cons,
      ← List.append_assoc]
    simp only [replay, List.getLast?_concat, List.dropLast_concat, if_true]
    exact ih

/-- Replacing the upper part of a stack by one value. -/
theorem replay_replace (base top : List α) (a : α) :
    replay (base ++ top) (top.reverse.map .pop ++ [.push a]) = some (base ++ [a]) := by
  rw [replay_append, replay_pops]
  rfl

end StackOp

end UnionBridge
