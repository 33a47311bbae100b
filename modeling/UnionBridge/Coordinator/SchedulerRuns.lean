import UnionBridge.Lib.Machine
import UnionBridge.Coordinator.Schedulers

/-!
# Runs of the schedulers (`coordinator/src/types.rs`)

What an id is still scheduled for after calls that neither schedule it again nor cancel it: among
these only the checks change its entry. From the entry follows what the next check returns.
-/

namespace UnionBridge.Coordinator

/-- A call of a scheduler: `α` is what an id is scheduled with, `τ` what a check is given. -/
inductive SchedulerCall (κ α τ : Type) where
  | schedule (id : κ) (delay : α)
  | cancel (id : κ)
  | clear
  | check (now : τ)

namespace SchedulerCall

variable {κ α τ : Type}

/-- The call neither schedules the id again nor cancels it. -/
def Spares (id : κ) : SchedulerCall κ α τ → Prop
  | .schedule other _ => other ≠ id
  | .cancel other => other ≠ id
  | .clear => False
  | .check _ => True

/-- What the checks of a run are given. -/
def checks (calls : List (SchedulerCall κ α τ)) : List τ :=
  calls.filterMap fun
    | .check now => some now
    | _ => none

/-- What one call does to the entry of an id that it spares. -/
structure Ages {σ ε : Type} (step : σ → SchedulerCall κ α τ → σ) (id : κ) (entry : σ → Option ε)
    (age : Option ε → τ → Option ε) : Prop where
  schedule : ∀ s other delay, other ≠ id → entry (step s (.schedule other delay)) = entry s
  cancel : ∀ s other, other ≠ id → entry (step s (.cancel other)) = entry s
  check : ∀ s now, entry (step s (.check now)) = age (entry s) now

theorem Ages.run {σ ε : Type} {step : σ → SchedulerCall κ α τ → σ} {id : κ} {entry : σ → Option ε}
    {age : Option ε → τ → Option ε} (h : Ages step id entry age)
    {calls : List (SchedulerCall κ α τ)} (hcalls : ∀ call ∈ calls, call.Spares id) (s : σ) :
    entry (Machine.run step s calls) = (checks calls).foldl age (entry s) := by
  induction calls generalizing s with
  | nil => rfl
  | cons call calls ih =>
    have hspared : call.Spares id := hcalls call List.mem_cons_self
    refine (ih (fun later hlater => hcalls later (List.mem_cons_of_mem _ hlater)) _).trans ?_
    cases call with
    | schedule other delay => rw [h.schedule s other delay hspared]; rfl
    | cancel other => rw [h.cancel s other hspared]; rfl
    | clear => exact hspared.elim
    | check now => rw [h.check s now]; rfl

end SchedulerCall

open SchedulerCall

variable {κ : Type} [DecidableEq κ] {id : κ}

/-! ### Ticks -/

namespace TickScheduler

abbrev Call (κ : Type) := SchedulerCall κ UInt32 (κ → Nat)

def step (s : TickScheduler κ) : Call κ → TickScheduler κ
  | .schedule id delayTicks => s.schedule id delayTicks
  | .cancel id => s.cancel id
  | .clear => s.clear
  | .check rank => (s.tick rank).2

def countDown (ticks : Option Nat) (_ : κ → Nat) : Option Nat :=
  (ticks.map (· - 1)).filter (· ≠ 0)

theorem ages_pending : Ages step id (fun s : TickScheduler κ => s.pending.lookup id) countDown where
  schedule := fun _ _ _ hother => AList.lookup_insert_ne (Ne.symm hother)
  cancel := fun _ _ hother => AList.lookup_erase_ne (Ne.symm hother)
  check := fun s rank => by simp only [step, tick, Table.lookup_retain, Table.lookup_mapValues]; rfl

omit [DecidableEq κ] in
theorem foldl_countDown (checks : List (κ → Nat)) (ticks : Nat) : checks.foldl countDown (some ticks)
    = if checks.length < max ticks 1 then some (ticks - checks.length) else none := by
  induction checks generalizing ticks with
  | nil => simp
  | cons rank checks ih =>
    rw [List.foldl_cons]
    by_cases hdue : ticks ≤ 1
    · have hnone : countDown (some ticks) rank = none := by
        simp [countDown, Option.filter]
        omega
      rw [hnone, List.foldl_fixed' fun _ => rfl, if_neg (by simp; omega)]
    · have hleft : countDown (some ticks) rank = some (ticks - 1) := by
        simp [countDown, Option.filter]
        omega
      rw [hleft, ih]
      simp only [List.length_cons]
      split <;> split <;> first | omega | rfl | (congr 1; omega)

/-- An id whose delay is the given one is due at the next tick if the delay has run down. -/
theorem mem_tick_iff {s : TickScheduler κ} {checks : List (κ → Nat)} {delay : Nat} {rank : κ → Nat}
    (h : s.pending.lookup id = checks.foldl countDown (some delay)) :
    id ∈ (s.tick rank).1 ↔ checks.length + 1 = max delay 1 := by
  rw [mem_tick, h, foldl_countDown]
  split
  · simp
    omega
  · simp
    omega

end TickScheduler

/-! ### Retries -/

namespace RetryTracker

abbrev Call (κ : Type) := SchedulerCall κ (Nat × UInt32) (κ → Nat)

def step (r : RetryTracker κ) : Call κ → RetryTracker κ
  | .schedule id (attempt, delayTicks) => r.schedule id attempt delayTicks
  | .cancel id => r.cancel id
  | .clear => r.clear
  | .check rank => (r.tick rank).2

theorem ages_pending : Ages step id (fun r : RetryTracker κ => r.scheduler.pending.lookup id)
    TickScheduler.countDown where
  schedule := fun r other delay => TickScheduler.ages_pending.schedule r.scheduler other delay.2
  cancel := fun r => TickScheduler.ages_pending.cancel r.scheduler
  check := fun r => TickScheduler.ages_pending.check r.scheduler

theorem Sync.step {r : RetryTracker κ} (h : r.Sync) (call : Call κ) : (r.step call).Sync := by
  cases call with
  | schedule id delay => exact h.schedule id delay.1 delay.2
  | cancel id => exact h.cancel id
  | clear => exact sync_new
  | check rank => exact h.tick rank

theorem attempt_of_spared {r : RetryTracker κ} {attempt : Nat} {calls : List (Call κ)}
    (hcalls : ∀ call ∈ calls, call.Spares id)
    (h : ∀ kept, r.attempts.lookup id = some kept → kept = attempt) :
    ∀ kept, (Machine.run step r calls).attempts.lookup id = some kept → kept = attempt := by
  refine Machine.run_invariant
    (fun r : RetryTracker κ => ∀ kept, r.attempts.lookup id = some kept → kept = attempt)
    (fun r call hr hspared kept hkept => ?_) h (Machine.allowed_of_forall hcalls)
  cases call with
  | schedule other delay => exact hr kept ((AList.lookup_insert_ne (Ne.symm hspared)).symm.trans hkept)
  | cancel other => exact hr kept ((AList.lookup_erase_ne (Ne.symm hspared)).symm.trans hkept)
  | clear => exact hspared.elim
  | check rank =>
    have hattempts : (r.tick rank).2.attempts.lookup id
        = if id ∈ (r.scheduler.tick rank).1 then none else r.attempts.lookup id :=
      Table.lookup_foldl_erase _ _
    rw [step, hattempts] at hkept
    split at hkept
    · cases hkept
    · exact hr kept hkept

end RetryTracker

/-! ### Block time -/

namespace TimeBasedScheduler

abbrev Call (κ : Type) := SchedulerCall κ (UInt64 × UInt64) ((κ → Nat) × UInt64)

def step (s : TimeBasedScheduler κ) : Call κ → TimeBasedScheduler κ
  | .schedule id (currentTimestamp, timeoutSeconds) => s.schedule id currentTimestamp timeoutSeconds
  | .cancel id => s.cancel id
  | .clear => s.clear
  | .check (rank, currentTimestamp) => (s.checkExpired rank currentTimestamp).2

def expire (expiration : Option UInt64) (now : (κ → Nat) × UInt64) : Option UInt64 :=
  expiration.filter fun expiration => ¬ expiration ≤ now.2

theorem ages_pending :
    Ages step id (fun s : TimeBasedScheduler κ => s.pending.lookup id) expire where
  schedule := fun _ _ _ hother => AList.lookup_insert_ne (Ne.symm hother)
  cancel := fun _ _ hother => AList.lookup_erase_ne (Ne.symm hother)
  check := fun _ _ => Table.lookup_retain

omit [DecidableEq κ] in
theorem foldl_expire (checks : List ((κ → Nat) × UInt64)) (expiration : UInt64) :
    checks.foldl expire (some expiration)
      = if ∀ now ∈ checks, ¬ expiration ≤ now.2 then some expiration else none := by
  induction checks with
  | nil => simp
  | cons now checks ih =>
    by_cases hdue : expiration ≤ now.2
    · have hnone : expire (some expiration) now = none := by simp [expire, Option.filter, hdue]
      rw [List.foldl_cons, hnone, List.foldl_fixed' fun _ => rfl]
      simp [hdue]
    · have hkept : expire (some expiration) now = some expiration := by
        simp [expire, Option.filter, hdue]
      rw [List.foldl_cons, hkept, ih]
      simp only [List.forall_mem_cons, hdue, not_false_eq_true, true_and]

end TimeBasedScheduler

/-- **An id that is scheduled and then spared is returned exactly once.** After the calls `later`,
the next check returns it if it is the one at which the id is due, and no other check does. -/
theorem scheduled_returned_once (id : κ) :
    (∀ (s : TickScheduler κ) (delay : UInt32) (later : List (TickScheduler.Call κ)) (rank : κ → Nat),
      (∀ call ∈ later, call.Spares id) →
      ((Machine.run TickScheduler.step (s.schedule id delay) later).tick rank).1.count id
        = if (checks later).length + 1 = max delay.toNat 1 then 1 else 0)
    ∧ (∀ calls : List (RetryTracker.Call κ),
      let r := Machine.run RetryTracker.step .new calls
      (r.scheduler.isScheduled id = true ↔ (r.attempts.lookup id).isSome = true)
      ∧ ∀ (attempt : Nat) (delay : UInt32) (later : List (RetryTracker.Call κ)) (rank : κ → Nat),
        (∀ call ∈ later, call.Spares id) →
        let matured := ((Machine.run RetryTracker.step (r.schedule id attempt delay) later).tick rank).1
        (matured.map (·.1)).count id = (if (checks later).length + 1 = max delay.toNat 1 then 1 else 0)
        ∧ ∀ returned, (id, returned) ∈ matured → returned = attempt)
    ∧ ∀ (s : TimeBasedScheduler κ) (current timeout : UInt64)
      (later : List (TimeBasedScheduler.Call κ)) (rank : κ → Nat) (now : UInt64),
      (∀ call ∈ later, call.Spares id) → current.toNat + timeout.toNat < 2 ^ 64 →
      ((Machine.run TimeBasedScheduler.step (s.schedule id current timeout) later).checkExpired rank
        now).1.count id
        = if current.toNat + timeout.toNat ≤ now.toNat
            ∧ ∀ check ∈ checks later, check.2.toNat < current.toNat + timeout.toNat then 1 else 0 := by
  refine ⟨fun s delay later rank hlater => ?_, fun calls => ?_,
    fun s current timeout later rank now hlater hfits => ?_⟩
  · have hpending := TickScheduler.ages_pending.run hlater (s.schedule id delay)
    rw [TickScheduler.schedule, AList.lookup_insert] at hpending
    rw [TickScheduler.nodup_tick.count]
    exact if_congr (TickScheduler.mem_tick_iff hpending) rfl rfl
  · have hsync : (Machine.run RetryTracker.step .new calls).Sync :=
      Machine.run_keeps RetryTracker.Sync (fun r call h => h.step call) RetryTracker.sync_new calls
    generalize Machine.run RetryTracker.step .new calls = r at hsync ⊢
    refine ⟨hsync id, fun attempt delay later rank hlater => ?_⟩
    have hpending := RetryTracker.ages_pending.run hlater (r.schedule id attempt delay)
    rw [RetryTracker.schedule, TickScheduler.schedule, AList.lookup_insert] at hpending
    have hlast := Machine.run_keeps RetryTracker.Sync (fun r call h => h.step call)
      (hsync.schedule id attempt delay) later
    refine ⟨RetryTracker.nodup_tick.count.trans (if_congr
      (hlast.mem_tick.trans (TickScheduler.mem_tick_iff hpending)) rfl rfl),
      fun returned hreturned => ?_⟩
    obtain ⟨_, -, hattempt⟩ := List.mem_filterMap.mp hreturned
    obtain ⟨kept, hkept, heq⟩ := Option.map_eq_some_iff.mp hattempt
    cases heq
    refine RetryTracker.attempt_of_spared hlater (fun first hfirst => ?_) _ hkept
    rw [RetryTracker.schedule, AList.lookup_insert] at hfirst
    exact (Option.some.inj hfirst).symm
  · have hpending := TimeBasedScheduler.ages_pending.run hlater (s.schedule id current timeout)
    rw [TimeBasedScheduler.schedule, AList.lookup_insert, TimeBasedScheduler.foldl_expire] at hpending
    have hsum : (current + timeout).toNat = current.toNat + timeout.toNat := by
      rw [UInt64.toNat_add, Nat.mod_eq_of_lt hfits]
    refine Table.nodup_filter_inOrder.count.trans (if_congr ?_ rfl rfl)
    refine TimeBasedScheduler.mem_checkExpired.trans ?_
    rw [TimeBasedScheduler.schedule, hpending]
    simp only [UInt64.le_iff_toNat_le, hsum, not_le]
    split
    · next hwaits =>
      rw [and_iff_left hwaits]
      simp [hsum]
    · next hreturned =>
      simp only [reduceCtorEq, false_and, exists_false, false_iff]
      exact fun h => hreturned h.2

theorem scheduled_returned_once_sample :
    ((Machine.run TickScheduler.step (TickScheduler.new.schedule 7 2)
      [.schedule 8 1, .check fun id => id]).tick fun id => id).1.count 7 = 1 := by
  refine (scheduled_returned_once 7).1 .new 2 [.schedule 8 1, .check fun id => id] _ ?_
  simp [Spares]

end UnionBridge.Coordinator
