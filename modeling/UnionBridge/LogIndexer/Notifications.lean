import UnionBridge.LogIndexer.Indexer

/-!
# Which stored logs are sent to the notifier

A log of the subscription is saved, becomes the checkpoint and is then sent. A log of a recovery is saved
and never sent. So every log that was ever saved has been sent, or is about to be, as long as a recovery
finds only logs that were sent before and a saved log is not lost on its way to the channel.
-/

namespace UnionBridge.LogIndexer

def Phase.unsent : Phase → Option RskLog
  | .setCheckpoint log => some log
  | .notify log => some log
  | _ => none

namespace Indexer

variable {cfg : Config} {s : Indexer}

/-- Every log that was saved has been sent or is about to be. -/
def Notified (s : Indexer) : Prop := ∀ log ∈ s.persisted, log ∈ s.sent ∨ s.phase.unsent = some log

/-- The step saves a log without sending it, or keeps a saved log from being sent, only if the log was
sent before. -/
def NoneUnsent (s : Indexer) : Input → Prop
  | .tick =>
    match s.phase with
    | .saveLogs (log :: _) _ _ _ _ => log ∈ s.sent
    | _ => True
  | .kill | .fail => ∀ log ∈ s.phase.unsent, log ∈ s.sent
  | .sendFails =>
    match s.phase with
    | .notify log => log ∈ s.sent
    | _ => True
  | _ => True

instance : ∀ (s : Indexer) (input : Input), Decidable (s.NoneUnsent input) := by
  intro s input
  unfold NoneUnsent
  split
  · split <;> infer_instance
  · infer_instance
  · infer_instance
  · split <;> infer_instance
  · infer_instance

theorem Notified.sent (h : s.Notified) (hphase : s.phase.unsent = none) :
    ∀ log ∈ s.persisted, log ∈ s.sent := by
  intro log hlog
  rcases h log hlog with hsent | hunsent
  · exact hsent
  · rw [hphase] at hunsent
    nomatch hunsent

theorem Notified.drop (h : s.Notified) (hunsent : ∀ log ∈ s.phase.unsent, log ∈ s.sent) :
    ∀ log ∈ s.persisted, log ∈ s.sent := fun log hlog =>
  (h log hlog).elim id fun hlog => hunsent log hlog

theorem Notified.stop (h : s.Notified) (hunsent : ∀ log ∈ s.phase.unsent, log ∈ s.sent) :
    s.stop.Notified := fun log hlog => .inl (h.drop hunsent log hlog)

/-- A step that touches neither what was saved nor what was sent, while nothing is about to be sent. -/
theorem Notified.idle {s' : Indexer} (h : s.Notified) (hphase : s.phase.unsent = none)
    (hpersisted : s'.persisted = s.persisted) (hsent : s'.sent = s.sent) : s'.Notified := by
  intro log hlog
  rw [hpersisted] at hlog
  rw [hsent]
  exact .inl (h.sent hphase log hlog)

theorem Notified.tick (hnotifier : cfg.notifier = true) (h : s.Notified) (hcond : s.NoneUnsent .tick) :
    (s.tick cfg).Notified := by
  cases hphase : s.phase with
  | stopped => simpa only [Indexer.tick, hphase] using h
  | awaitItem => simpa only [Indexer.tick, hphase] using h
  | recover | checkBest | subscribe | fetch | begin | listen =>
    -- nothing is saved and nothing is sent
    simp only [Indexer.tick, hphase]
    refine h.idle (by rw [hphase]; rfl) ?_ ?_ <;> repeat' first | split | rfl
  | saveLogs rest logs last finish attempt =>
    have hall := h.sent (by rw [hphase]; rfl)
    cases rest with
    | nil =>
      simp only [Indexer.tick, hphase]
      exact h.idle (by rw [hphase]; rfl) rfl rfl
    | cons log rest =>
      simp only [NoneUnsent, hphase] at hcond
      simp only [Indexer.tick, hphase]
      intro other hother
      rcases List.mem_cons.mp hother with rfl | hother
      · exact .inl hcond
      · exact .inl (hall other hother)
  | saveLog log =>
    have hall := h.sent (by rw [hphase]; rfl)
    simp only [Indexer.tick, hphase]
    intro other hother
    rcases List.mem_cons.mp hother with rfl | hother
    · exact .inr rfl
    · exact .inl (hall other hother)
  | setCheckpoint log =>
    simp only [Indexer.tick, hphase]
    intro other hother
    have hold := h other hother
    rw [hphase] at hold
    exact hold
  | notify log =>
    simp only [Indexer.tick, hphase, hnotifier, if_true]
    intro other hother
    have hold := h other hother
    rw [hphase] at hold
    rcases hold with hsent | hunsent
    · exact .inl (List.mem_cons_of_mem log hsent)
    · exact .inl (Option.some.inj hunsent ▸ List.mem_cons_self)

theorem Notified.onItem {item : Indexer} (h : s.Notified) (hpersisted : item.persisted = s.persisted)
    (hsent : item.sent = s.sent) : (s.onItem item).Notified := by
  unfold Indexer.onItem
  split
  · next hphase => exact h.idle (by rw [hphase]; rfl) hpersisted hsent
  · exact h

theorem Notified.step (hnotifier : cfg.notifier = true) (input : Input) (h : s.Notified)
    (hcond : s.NoneUnsent input) : (s.step cfg input).Notified := by
  cases input with
  | start =>
    simp only [Indexer.step]
    split
    · next hphase => exact h.idle (by rw [hphase]; rfl) rfl rfl
    · exact h
  | kill => exact h.stop hcond
  | fail => exact h.stop hcond
  | requestShutdown => exact h
  | tick => exact h.tick hnotifier hcond
  | sendFails =>
    simp only [Indexer.step]
    split
    · next log hphase =>
      simp only [NoneUnsent, hphase] at hcond
      have hunsent : ∀ other ∈ s.phase.unsent, other ∈ s.sent := by
        rw [hphase]
        rintro other ⟨⟩
        exact hcond
      exact fun other hother => .inl (h.drop hunsent other hother)
    · exact h
  | next =>
    refine h.onItem ?_ ?_ <;> unfold Indexer.next <;> split <;> rfl
  | reorg fork logs best =>
    simp only [Indexer.step, Indexer.reorg]
    split <;> exact h
  | _ => exact h.onItem rfl rfl

/-- In every run of an indexer with a notifier, in which a recovery saves only logs that were sent before
and no saved log is lost before it is sent, every log that was saved has been sent or is about to be. -/
theorem persisted_logs_notified (cfg : Config) (hnotifier : cfg.notifier = true) (chain : ProviderChain)
    (inputs : List Input) (hallowed : Machine.Allowed (step cfg) NoneUnsent (init chain) inputs) :
    (Machine.run (step cfg) (init chain) inputs).Notified :=
  Machine.run_invariant Notified (fun _ input h hcond => h.step hnotifier input hcond)
    (fun _ h => absurd h List.not_mem_nil) hallowed

/-- A log arrives over the subscription and is sent; after a restart the recovery finds it again. -/
def sampleNotified : List Input :=
  [.reorg 8 [] 10, .start] ++ List.replicate 8 .tick ++ [.reorg 10 [sampleLog 11] 11, .next]
    ++ List.replicate 3 .tick ++ [.kill, .start] ++ List.replicate 4 .tick

theorem sampleNotified_notified :
    Machine.Allowed (step sampleConfig) NoneUnsent (init sampleChain) sampleNotified
    ∧ (Machine.run (step sampleConfig) (init sampleChain) sampleNotified).persisted
      = [sampleLog 11, sampleLog 11]
    ∧ (Machine.run (step sampleConfig) (init sampleChain) sampleNotified).Notified := by
  have hallowed : Machine.Allowed (step sampleConfig) NoneUnsent (init sampleChain) sampleNotified := by
    decide
  exact ⟨hallowed, by decide, persisted_logs_notified sampleConfig rfl sampleChain sampleNotified hallowed⟩

/-- The first process recovers a log and waits for the next one. The recovered log is stored, it is not
sent, and the subscription does not yield it. -/
theorem recovered_log_not_notified :
    let s := Machine.run (step sampleConfig) (init sampleChain) (.start :: List.replicate 9 .tick)
    s.phase = .awaitItem ∧ s.pending = [] ∧ s.persisted = [sampleLog 9] ∧ s.sent = [] ∧ ¬ s.Notified := by
  refine ⟨by decide, by decide, by decide, by decide, fun h => ?_⟩
  rcases h (sampleLog 9) (by decide) with hsent | hunsent
  · exact absurd hsent (by decide)
  · exact absurd hunsent (by decide)

end Indexer

end UnionBridge.LogIndexer
