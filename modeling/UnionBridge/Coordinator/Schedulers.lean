import UnionBridge.Lib.Table
import Mathlib.Algebra.Group.Nat.Defs

/-!
# Schedulers of the processors (`coordinator/src/types.rs`)

Delays count blocks (`TickScheduler`, `RetryTracker`) or seconds of block time
(`TimeBasedScheduler`). What is due leaves the scheduler before anything is done about it. The
source yields it in the order of a hash table, here in the order of `rank`.
-/

namespace UnionBridge.Coordinator

structure TickScheduler (κ : Type) where
  pending : Table κ Nat

namespace TickScheduler

variable {κ : Type}

def new : TickScheduler κ := ⟨∅⟩

def isEmpty (s : TickScheduler κ) : Bool := s.pending.isEmpty

def clear (_ : TickScheduler κ) : TickScheduler κ := ⟨∅⟩

variable [DecidableEq κ]

def schedule (s : TickScheduler κ) (id : κ) (delayTicks : UInt32) : TickScheduler κ :=
  ⟨s.pending.insert id delayTicks.toNat⟩

def cancel (s : TickScheduler κ) (id : κ) : TickScheduler κ := ⟨s.pending.erase id⟩

def isScheduled (s : TickScheduler κ) (id : κ) : Bool := (s.pending.lookup id).isSome

def scheduleNew (s : TickScheduler κ) (id : κ) (delayTicks : UInt32) : TickScheduler κ :=
  if s.isScheduled id then s else s.schedule id delayTicks

/-- Count down and take out what has reached zero. -/
def tick (rank : κ → Nat) (s : TickScheduler κ) : List κ × TickScheduler κ :=
  let pending := s.pending.mapValues (· - 1)
  let ready := (pending.inOrder rank).filter fun entry => entry.2 = 0
  (ready.map (·.1), ⟨pending.retain fun _ ticks => ticks ≠ 0⟩)

variable {s : TickScheduler κ} {id other : κ}

@[simp] theorem isScheduled_schedule {delay : UInt32} :
    (s.schedule id delay).isScheduled other = true ↔ other = id ∨ s.isScheduled other = true := by
  unfold isScheduled schedule
  by_cases h : other = id
  · subst h
    simp
  · simp [AList.lookup_insert_ne h, h]

@[simp] theorem isScheduled_cancel :
    (s.cancel id).isScheduled other = true ↔ other ≠ id ∧ s.isScheduled other = true := by
  unfold isScheduled cancel
  by_cases h : other = id
  · subst h
    simp
  · simp [AList.lookup_erase_ne h, h]

theorem mem_tick {rank : κ → Nat} :
    id ∈ (s.tick rank).1 ↔ ∃ ticks, s.pending.lookup id = some ticks ∧ ticks ≤ 1 := by
  have hready : id ∈ (s.tick rank).1 ↔ ∃ n, (s.pending.mapValues (· - 1)).lookup id = some n
      ∧ n = 0 := by
    simp only [tick, Table.mem_filter_inOrder, decide_eq_true_eq]
  rw [hready, Table.lookup_mapValues]
  cases s.pending.lookup id with
  | none => simp
  | some ticks =>
    simp
    omega

omit [DecidableEq κ] in
theorem nodup_tick {rank : κ → Nat} : (s.tick rank).1.Nodup := Table.nodup_filter_inOrder

theorem isScheduled_tick {rank : κ → Nat} :
    (s.tick rank).2.isScheduled id = true ↔ s.isScheduled id = true ∧ id ∉ (s.tick rank).1 := by
  rw [mem_tick]
  simp only [isScheduled, tick, Table.lookup_retain, Table.lookup_mapValues]
  cases s.pending.lookup id with
  | none => simp
  | some ticks =>
    simp [Option.filter]
    omega

end TickScheduler

/-- A scheduler with an attempt counter for each key. Attempts are 16-bit and saturate. -/
structure RetryTracker (κ : Type) where
  attempts : Table κ Nat
  scheduler : TickScheduler κ

def saturatingSucc (attempt : Nat) : Nat := min (attempt + 1) (2 ^ 15 - 1)

namespace RetryTracker

variable {κ : Type}

def new : RetryTracker κ := ⟨∅, .new⟩

def isEmpty (r : RetryTracker κ) : Bool := r.scheduler.isEmpty

def clear (r : RetryTracker κ) : RetryTracker κ := ⟨∅, r.scheduler.clear⟩

variable [DecidableEq κ]

def schedule (r : RetryTracker κ) (id : κ) (attempt : Nat) (delayTicks : UInt32) : RetryTracker κ :=
  ⟨r.attempts.insert id attempt, r.scheduler.schedule id delayTicks⟩

/-- What is due, with its attempts; a key without attempts is dropped. -/
def tick (rank : κ → Nat) (r : RetryTracker κ) : List (κ × Nat) × RetryTracker κ :=
  let (ready, scheduler) := r.scheduler.tick rank
  (ready.filterMap fun id => (r.attempts.lookup id).map fun attempt => (id, attempt),
    ⟨ready.foldl (fun attempts id => attempts.erase id) r.attempts, scheduler⟩)

def currentAttempt (r : RetryTracker κ) (id : κ) : Nat := (r.attempts.lookup id).getD 0

def cancel (r : RetryTracker κ) (id : κ) : RetryTracker κ :=
  ⟨r.attempts.erase id, r.scheduler.cancel id⟩

variable {r : RetryTracker κ} {rank : κ → Nat} {id : κ}

theorem mem_of_mem_tick {attempts : Nat} (h : (id, attempts) ∈ (r.tick rank).1) :
    id ∈ (r.scheduler.tick rank).1 := by
  obtain ⟨id', hid', hattempts⟩ := List.mem_filterMap.mp h
  obtain ⟨attempts', -, heq⟩ := Option.map_eq_some_iff.mp hattempts
  cases heq
  exact hid'

theorem isScheduled_of_tick (h : (r.tick rank).2.scheduler.isScheduled id = true) :
    r.scheduler.isScheduled id = true :=
  (TickScheduler.isScheduled_tick.mp (show (r.scheduler.tick rank).2.isScheduled id = true from h)).1

theorem nodup_tick : ((r.tick rank).1.map (·.1)).Nodup := by
  have hsublist : ∀ ids : List κ, ((ids.filterMap fun id => (r.attempts.lookup id).map fun attempt =>
      (id, attempt)).map (·.1)).Sublist ids := by
    intro ids
    induction ids with
    | nil => exact .slnil
    | cons id ids ih =>
      rw [List.filterMap_cons]
      cases r.attempts.lookup id with
      | none => exact ih.cons id
      | some attempts => exact ih.cons_cons id
  exact TickScheduler.nodup_tick.sublist (hsublist _)

/-! ### Attempts and delays -/

/-- What is scheduled has an attempt counter, and nothing else has one. -/
def Sync (r : RetryTracker κ) : Prop :=
  ∀ id, r.scheduler.isScheduled id = true ↔ (r.attempts.lookup id).isSome = true

theorem sync_new : (new : RetryTracker κ).Sync := fun _ => Iff.rfl

theorem Sync.schedule (h : r.Sync) (id : κ) (attempt : Nat) (delay : UInt32) :
    (r.schedule id attempt delay).Sync := by
  intro other
  rw [RetryTracker.schedule, TickScheduler.isScheduled_schedule, h other]
  by_cases hother : other = id
  · subst hother
    simp
  · simp [AList.lookup_insert_ne hother, hother]

theorem Sync.cancel (h : r.Sync) (id : κ) : (r.cancel id).Sync := by
  intro other
  rw [RetryTracker.cancel, TickScheduler.isScheduled_cancel, h other]
  by_cases hother : other = id
  · subst hother
    simp
  · simp [AList.lookup_erase_ne hother, hother]

theorem Sync.tick (h : r.Sync) (rank : κ → Nat) : (r.tick rank).2.Sync := by
  intro id
  have hattempts : (r.tick rank).2.attempts.lookup id
      = if id ∈ (r.scheduler.tick rank).1 then none else r.attempts.lookup id :=
    Table.lookup_foldl_erase _ _
  have hscheduled : (r.tick rank).2.scheduler.isScheduled id = true
      ↔ r.scheduler.isScheduled id = true ∧ id ∉ (r.scheduler.tick rank).1 :=
    TickScheduler.isScheduled_tick
  rw [hattempts, hscheduled, h id]
  split
  · next hready => simp [hready]
  · next hready => simp [hready]

theorem Sync.mem_tick (h : r.Sync) :
    id ∈ (r.tick rank).1.map (·.1) ↔ id ∈ (r.scheduler.tick rank).1 := by
  refine ⟨fun hid => ?_, fun hready => ?_⟩
  · obtain ⟨⟨_, attempt⟩, hmem, rfl⟩ := List.mem_map.mp hid
    exact mem_of_mem_tick hmem
  · obtain ⟨ticks, hticks, -⟩ := TickScheduler.mem_tick.mp hready
    have hscheduled : r.scheduler.isScheduled id = true := by
      rw [TickScheduler.isScheduled, hticks, Option.isSome_some]
    obtain ⟨attempt, hattempt⟩ := Option.isSome_iff_exists.mp ((h id).mp hscheduled)
    refine List.mem_map.mpr ⟨(id, attempt), List.mem_filterMap.mpr ⟨id, hready, ?_⟩, rfl⟩
    rw [hattempt]
    rfl

end RetryTracker

/-- Expiration times in seconds of block time, which are 64-bit. -/
structure TimeBasedScheduler (κ : Type) where
  pending : Table κ UInt64

namespace TimeBasedScheduler

variable {κ : Type}

def new : TimeBasedScheduler κ := ⟨∅⟩

def isEmpty (s : TimeBasedScheduler κ) : Bool := s.pending.isEmpty

def clear (_ : TimeBasedScheduler κ) : TimeBasedScheduler κ := ⟨∅⟩

variable [DecidableEq κ]

def schedule (s : TimeBasedScheduler κ) (id : κ) (currentTimestamp timeoutSeconds : UInt64) :
    TimeBasedScheduler κ :=
  ⟨s.pending.insert id (currentTimestamp + timeoutSeconds)⟩

def cancel (s : TimeBasedScheduler κ) (id : κ) : TimeBasedScheduler κ := ⟨s.pending.erase id⟩

def isScheduled (s : TimeBasedScheduler κ) (id : κ) : Bool := (s.pending.lookup id).isSome

def checkExpired (rank : κ → Nat) (s : TimeBasedScheduler κ) (currentTimestamp : UInt64) :
    List κ × TimeBasedScheduler κ :=
  let expired := (s.pending.inOrder rank).filter fun entry => entry.2 ≤ currentTimestamp
  (expired.map (·.1), ⟨s.pending.retain fun _ expiration => ¬ expiration ≤ currentTimestamp⟩)

theorem mem_checkExpired {rank : κ → Nat} {s : TimeBasedScheduler κ} {now : UInt64} {id : κ} :
    id ∈ (s.checkExpired rank now).1
      ↔ ∃ expiration, s.pending.lookup id = some expiration ∧ expiration ≤ now := by
  simp only [checkExpired, Table.mem_filter_inOrder, decide_eq_true_eq]

end TimeBasedScheduler

end UnionBridge.Coordinator
