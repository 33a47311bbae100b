import UnionBridge.LogIndexer.Indexer

/-!
# The checkpoint and the logs that are not stored

The next recovery starts at the finality depth below the checkpoint, so a log of the chain that is not in
the store is found again only if the checkpoint is not further above it than that. A subscription that
loses a log breaks this, since the next log moves the checkpoint on; and so does a reorganisation during
a recovery that puts a log into a block which the recovery has passed, since nothing reads that block
again. Without the two, and with no reorganisation deeper than the finality depth, it holds in every run.

The argument looks at what is still to be saved. While a subscription is open, saving everything that is
queued would store every log of the chain, and no log in the queue is further below the checkpoint, or
below a log in front of it, than the finality depth.
-/

namespace UnionBridge.LogIndexer

/-! ## Saving several logs -/

namespace LogStore

variable {store other : LogStore} {log : RskLog} {logs later : List RskLog}

def saveLogs (store : LogStore) (logs : List RskLog) : LogStore := logs.foldl saveLog store

theorem saveLogs_append : store.saveLogs (logs ++ later) = (store.saveLogs logs).saveLogs later :=
  List.foldl_append

theorem Has.mem_or_of_saveLogs (h : (store.saveLogs logs).Has log) : log ∈ logs ∨ store.Has log := by
  induction logs generalizing store with
  | nil => exact .inr h
  | cons saved logs ih =>
    rcases ih h with hmem | hhas
    · exact .inl (List.mem_cons_of_mem saved hmem)
    · rcases has_saveLog.mp hhas with rfl | ⟨-, hold⟩
      · exact .inl List.mem_cons_self
      · exact .inr hold

theorem Has.saveLogs (h : store.Has log) (hne : ∀ saved ∈ logs, log.id ≠ saved.id) :
    (store.saveLogs logs).Has log := by
  induction logs generalizing store with
  | nil => exact h
  | cons saved logs ih =>
    have hfirst : (store.saveLog saved).Has log :=
      has_saveLog.mpr (.inr ⟨hne saved List.mem_cons_self, h⟩)
    exact ih hfirst fun next hnext => hne next (List.mem_cons_of_mem saved hnext)

theorem has_saveLogs_of_mem (hnodup : (logs.map RskLog.id).Nodup) (hlog : log ∈ logs) :
    (store.saveLogs logs).Has log := by
  induction logs generalizing store with
  | nil => nomatch hlog
  | cons saved logs ih =>
    obtain ⟨hfresh, hnodup⟩ := List.nodup_cons.mp hnodup
    rcases List.mem_cons.mp hlog with rfl | hlog
    · -- nothing later has the same id
      show ((store.saveLog log).saveLogs logs).Has log
      refine Has.saveLogs (has_saveLog.mpr (.inl rfl)) fun next hnext heq => ?_
      exact hfresh (heq ▸ List.mem_map_of_mem hnext)
    · exact ih hnodup hlog

/-- What is stored after saving the same logs in a store that had it only if the other one has. -/
theorem Has.saveLogs_mono (himp : store.Has log → other.Has log) (h : (store.saveLogs logs).Has log) :
    (other.saveLogs logs).Has log := by
  induction logs generalizing store other with
  | nil => exact himp h
  | cons saved logs ih =>
    refine ih (fun hsaved => ?_) h
    rw [has_saveLog] at hsaved ⊢
    exact hsaved.imp id fun hold => ⟨hold.1, himp hold.2⟩

theorem Has.of_saveLogs_append (hlog : log ∉ logs) (h : (store.saveLogs (logs ++ later)).Has log) :
    (store.saveLogs later).Has log := by
  rw [saveLogs_append] at h
  exact Has.saveLogs_mono (fun hhas => hhas.mem_or_of_saveLogs.resolve_left hlog) h

end LogStore

namespace Indexer

variable {cfg : Config} {s : Indexer}

/-! ## The invariant -/

/-- The log belongs in the store: it is on the chain, of a managed contract and not below the initial
block. -/
def Relevant (cfg : Config) (s : Indexer) (log : RskLog) : Prop :=
  log ∈ s.chain.logs ∧ s.accepts cfg log

/-- Every log that belongs in the store is there, or the next recovery fetches it. -/
def Retained (cfg : Config) (s : Indexer) : Prop :=
  ∀ log, Relevant cfg s log → s.store.Has log ∨ s.recoverFrom cfg ≤ log.block

/-- The checkpoint is above a block by the finality depth at most. -/
def Near (cfg : Config) (s : Indexer) (block : Nat) : Prop :=
  ∀ log ∈ s.store.syncCheckpoint, log.block ≤ block + cfg.syncFinalityDepth

/-- The blocks below are read: what is not stored is not below, and the checkpoint is near it. -/
def Scanned (cfg : Config) (s : Indexer) (block : Nat) : Prop :=
  ∀ log, Relevant cfg s log → s.store.Has log ∨ block ≤ log.block ∧ Near cfg s log.block

/-- What the indexer is about to save of the subscription. -/
def unsaved (cfg : Config) (s : Indexer) : List RskLog :=
  match s.phase with
  | .saveLog log => log :: s.pending.filter fun log => s.accepts cfg log
  | _ => s.pending.filter fun log => s.accepts cfg log

def upcoming (s : Indexer) : List RskLog :=
  match s.phase with
  | .saveLog log => log :: s.pending
  | .setCheckpoint log => log :: s.pending
  | _ => s.pending

/-- With an open subscription. -/
structure Queued (cfg : Config) (s : Indexer) : Prop where
  saves : ∀ log, Relevant cfg s log → (s.store.saveLogs (s.unsaved cfg)).Has log
  near : ∀ log ∈ s.upcoming, Near cfg s log.block
  ordered : s.upcoming.Pairwise fun a b => a.block ≤ b.block + cfg.syncFinalityDepth
  le_top : ∀ log ∈ s.upcoming, log.block ≤ s.top

/-- In the middle of `save_logs_and_checkpoint`. -/
structure Saving (cfg : Config) (s : Indexer) (rest logs : List RskLog) (last : Nat) : Prop where
  saves : ∀ log, Relevant cfg s log →
    (s.store.saveLogs rest).Has log ∨ last < log.block ∧ Near cfg s log.block
  nodup : (rest.map RskLog.id).Nodup
  le_last : ∀ log ∈ logs, log.block ≤ last
  le_top : ∀ log ∈ logs, log.block ≤ s.top

/-- What holds at each point of the program. After a shutdown has been requested during a recovery the
subscription is opened too soon, but then nothing is read from it. -/
def AtPhase (cfg : Config) (s : Indexer) : Prop :=
  match s.phase with
  | .stopped | .recover => Retained cfg s
  | .begin => Retained cfg s ∧ (cfg.startFrom = .best → Near cfg s s.initialBlockNumber)
  | .fetch start finish _ => Near cfg s finish ∧ Scanned cfg s start
  | .saveLogs rest logs last finish _ =>
    Near cfg s finish ∧ last ≤ finish ∧ Retained cfg s ∧ Saving cfg s rest logs last
  | .checkBest last finish _ => Near cfg s finish ∧ Scanned cfg s (last + 1)
  | .subscribe block =>
    Retained cfg s ∧ (s.shutdownFlag = false → Near cfg s block ∧ Scanned cfg s block)
  | .listen => Retained cfg s ∧ (s.shutdownFlag = false → Queued cfg s)
  | .awaitItem | .saveLog _ | .setCheckpoint _ | .notify _ => Queued cfg s

structure Safe (cfg : Config) (s : Indexer) : Prop where
  best_le : s.chain.best ≤ s.top
  top_le : s.top ≤ s.chain.best + cfg.syncFinalityDepth
  checkpoint_le : ∀ log ∈ s.store.syncCheckpoint, log.block ≤ s.top
  initial_le : cfg.startFrom = .hash → s.initialBlockNumber ≤ cfg.initialBlock
  atPhase : AtPhase cfg s

/-! ## The checkpoint is retained -/

theorem recoverFrom_le {block : Nat} (hinitial : s.initialBlockNumber ≤ block) (hnear : Near cfg s block) :
    s.recoverFrom cfg ≤ block := by
  unfold Near at hnear
  unfold recoverFrom
  cases hcheckpoint : s.store.syncCheckpoint with
  | none => exact (Nat.sub_le _ _).trans hinitial
  | some log =>
    have := hnear log hcheckpoint
    simp only
    omega

theorem near_of_recoverFrom_le {block : Nat} (h : s.recoverFrom cfg ≤ block) : Near cfg s block := by
  intro log hlog
  unfold recoverFrom at h
  rw [Option.mem_def.mp hlog] at h
  simp only at h
  omega

theorem Near.mono {block higher : Nat} (h : Near cfg s block) (hle : block ≤ higher) : Near cfg s higher :=
  fun log hlog => (h log hlog).trans (Nat.add_le_add_right hle _)

theorem Scanned.retained {block : Nat} (h : Scanned cfg s block) : Retained cfg s := fun log hlog =>
  (h log hlog).imp id fun hlater => recoverFrom_le hlog.2.1 hlater.2

theorem Scanned.mono {block lower : Nat} (h : Scanned cfg s block) (hle : lower ≤ block) :
    Scanned cfg s lower := fun log hlog =>
  (h log hlog).imp id fun hlater => ⟨hle.trans hlater.1, hlater.2⟩

theorem Retained.scanned (h : Retained cfg s) : Scanned cfg s (s.recoverFrom cfg) := fun log hlog =>
  (h log hlog).imp id fun hfrom => ⟨hfrom, near_of_recoverFrom_le hfrom⟩

theorem mem_upcoming_of_mem_unsaved {log : RskLog} (h : log ∈ s.unsaved cfg) : log ∈ s.upcoming := by
  unfold unsaved at h
  unfold upcoming
  cases hphase : s.phase <;> simp only [hphase, List.mem_cons, List.mem_filter] at h ⊢ <;> tauto

theorem Queued.retained (h : Queued cfg s) : Retained cfg s := by
  intro log hlog
  rcases (h.saves log hlog).mem_or_of_saveLogs with hunsaved | hhas
  · exact .inr (recoverFrom_le hlog.2.1 (h.near log (mem_upcoming_of_mem_unsaved hunsaved)))
  · exact .inl hhas

theorem Safe.retained (h : Safe cfg s) : Retained cfg s := by
  have hat := h.atPhase
  unfold AtPhase at hat
  split at hat
  · exact hat
  · exact hat
  · exact hat.1
  · exact hat.2.retained
  · exact hat.2.2.1
  · exact hat.2.retained
  · exact hat.1
  · exact hat.1
  all_goals exact hat.retained

/-! ## The steps of a recovery -/

theorem Safe.stop (h : Safe cfg s) : Safe cfg s.stop :=
  ⟨h.best_le, h.top_le, h.checkpoint_le, h.initial_le, h.retained⟩

/-- An operation that changes neither the provider, the checkpoint nor the initial block. -/
theorem Safe.of_atPhase {s' : Indexer} (h : Safe cfg s)
    (hsame : (s'.chain, s'.top, s'.store.syncCheckpoint, s'.initialBlockNumber)
      = (s.chain, s.top, s.store.syncCheckpoint, s.initialBlockNumber)) (hat : AtPhase cfg s') :
    Safe cfg s' := by
  simp only [Prod.mk.injEq] at hsame
  obtain ⟨hchain, htop, hcheckpoint, hinitial⟩ := hsame
  refine ⟨?_, ?_, ?_, ?_, hat⟩
  · rw [hchain, htop]
    exact h.best_le
  · rw [hchain, htop]
    exact h.top_le
  · rw [hcheckpoint, htop]
    exact h.checkpoint_le
  · rw [hinitial]
    exact h.initial_le

theorem Safe.near_best (h : Safe cfg s) : Near cfg s s.chain.best := fun log hlog =>
  (h.checkpoint_le log hlog).trans h.top_le

theorem Scanned.saving {start last : Nat} (h : Scanned cfg s start) (hbest : s.chain.best ≤ s.top) :
    Saving cfg s (s.chain.getLogs start last cfg.managedContracts)
      (s.chain.getLogs start last cfg.managedContracts) last where
  saves log hlog := by
    by_cases hmem : log ∈ s.chain.getLogs start last cfg.managedContracts
    · exact .inl (LogStore.has_saveLogs_of_mem
        (s.chain.nodup.sublist (List.filter_sublist.map _)) hmem)
    · rcases h log hlog with hhas | ⟨hstart, hnear⟩
      · -- the ids of a chain are distinct, so the batch does not replace the log
        refine .inl (hhas.saveLogs fun other hother hid => hmem ?_)
        rw [ProviderChain.eq_of_id hlog.1 (ProviderChain.mem_getLogs.mp hother).1 hid]
        exact hother
      · refine .inr ⟨?_, hnear⟩
        by_contra hlast
        exact hmem (ProviderChain.mem_getLogs.mpr ⟨hlog.1, hstart, by omega, hlog.2.2⟩)
  nodup := s.chain.nodup.sublist (List.filter_sublist.map _)
  le_last log hlog := (ProviderChain.mem_getLogs.mp hlog).2.2.1
  le_top log hlog := (s.chain.le_best log (ProviderChain.mem_getLogs.mp hlog).1).trans hbest

/-- A log of the batch is saved. If it replaces a log that belongs in the store, which a
reorganisation has put on the chain meanwhile, that log is near the checkpoint. -/
theorem Saving.retained_saveLog {log : RskLog} {rest logs : List RskLog} {last : Nat}
    (h : Saving cfg s (log :: rest) logs last) (hretained : Retained cfg s) {other : RskLog}
    (hother : Relevant cfg s other) : (s.store.saveLog log).Has other ∨ s.recoverFrom cfg ≤ other.block := by
  by_cases heq : other = log
  · exact .inl (LogStore.has_saveLog.mpr (.inl heq))
  by_cases hid : other.id = log.id
  · refine .inr ?_
    rcases h.saves other hother with hhas | hlater
    · obtain ⟨hfresh, -⟩ := List.nodup_cons.mp h.nodup
      have hsaved : other ∈ rest ∨ (s.store.saveLog log).Has other := LogStore.Has.mem_or_of_saveLogs hhas
      rcases hsaved with hrest | hsaved
      · exact absurd (hid ▸ List.mem_map_of_mem hrest) hfresh
      · rcases LogStore.has_saveLog.mp hsaved with hlog | ⟨hne, -⟩
        · exact absurd hlog heq
        · exact absurd hid hne
    · exact recoverFrom_le hother.2.1 hlater.2
  · exact (hretained other hother).imp (fun hhas => LogStore.has_saveLog.mpr (.inr ⟨hid, hhas⟩)) id

theorem Safe.tick_saveLogs {rest logs : List RskLog} {last finish attempt : Nat} (h : Safe cfg s)
    (hphase : s.phase = .saveLogs rest logs last finish attempt) : Safe cfg (s.tick cfg) := by
  have hat := h.atPhase
  simp only [AtPhase, hphase] at hat
  obtain ⟨hfinish, hlast, hretained, hsaving⟩ := hat
  simp only [tick, hphase]
  cases rest with
  | cons log rest =>
    simp only
    refine h.of_atPhase rfl ⟨hfinish, hlast, fun other => hsaving.retained_saveLog hretained, ?_⟩
    exact ⟨hsaving.saves, (List.nodup_cons.mp hsaving.nodup).2, hsaving.le_last, hsaving.le_top⟩
  | nil =>
    simp only
    cases hgetLast : logs.getLast? with
    | none =>
      refine h.of_atPhase rfl ⟨hfinish, fun log hlog => ?_⟩
      exact hsaving.saves log hlog
    | some lastLog =>
      have hle := hsaving.le_last lastLog (List.mem_of_getLast? hgetLast)
      refine ⟨h.best_le, h.top_le, ?_, h.initial_le, ?_, fun log hlog => ?_⟩
      · rintro log ⟨⟩
        exact hsaving.le_top lastLog (List.mem_of_getLast? hgetLast)
      · rintro log ⟨⟩
        omega
      · refine (hsaving.saves log hlog).imp id fun hlater => ⟨hlater.1, ?_⟩
        rintro checkpoint ⟨⟩
        have := hlater.1
        omega

theorem Safe.tick_checkBest {last finish attempt : Nat} (h : Safe cfg s)
    (hphase : s.phase = .checkBest last finish attempt) : Safe cfg (s.tick cfg) := by
  have hat := h.atPhase
  simp only [AtPhase, hphase] at hat
  obtain ⟨hfinish, hscanned⟩ := hat
  have hnext : Scanned cfg s ((last + 1) % 2 ^ 64) := hscanned.mono (Nat.mod_le _ _)
  simp only [tick, hphase]
  split
  · next hnew => exact h.of_atPhase rfl ⟨hfinish.mono hnew.2.le, hnext⟩
  · exact h.of_atPhase rfl ⟨hfinish, hnext⟩

theorem Safe.tick_fetch {start finish attempt : Nat} (h : Safe cfg s)
    (hphase : s.phase = .fetch start finish attempt) : Safe cfg (s.tick cfg) := by
  have hat := h.atPhase
  simp only [AtPhase, hphase] at hat
  obtain ⟨hfinish, hscanned⟩ := hat
  simp only [tick, hphase]
  split
  · split
    · exact h.stop
    · have hsaving : Saving cfg s _ _ (batchEnd cfg start finish) := hscanned.saving h.best_le
      exact h.of_atPhase rfl ⟨hfinish, batchEnd_le, hscanned.retained,
        hsaving.saves, hsaving.nodup, hsaving.le_last, hsaving.le_top⟩
  · next hend =>
    refine h.of_atPhase rfl ⟨hscanned.retained, fun hrunning => ⟨hfinish, hscanned.mono ?_⟩⟩
    by_contra hlt
    exact hend ⟨hrunning, by omega⟩

/-! ## The steps of a subscription -/

/-- The subscription starts with the logs of the chain from a block on, below which all is stored. -/
theorem Scanned.queued {block : Nat} (h : Scanned cfg s block) (hnear : Near cfg s block)
    (hbest : s.chain.best ≤ s.top) : Queued cfg
      { s with pending := s.chain.logs.filter fun log => block ≤ log.block, phase := .listen } where
  saves log hlog := by
    rw [unsaved]
    by_cases hmem : log ∈ (s.chain.logs.filter fun log => block ≤ log.block).filter
        fun log => s.accepts cfg log
    · exact LogStore.has_saveLogs_of_mem
        (s.chain.nodup.sublist ((List.filter_sublist.trans List.filter_sublist).map _)) hmem
    · have hhas : s.store.Has log := by
        refine (h log hlog).resolve_right fun hlater => hmem ?_
        simp only [List.mem_filter, decide_eq_true_eq]
        exact ⟨⟨hlog.1, hlater.1⟩, hlog.2⟩
      refine hhas.saveLogs fun other hother hid => hmem ?_
      have hchain : other ∈ s.chain.logs := List.mem_of_mem_filter (List.mem_of_mem_filter hother)
      rw [ProviderChain.eq_of_id hlog.1 hchain hid]
      exact hother
  near log hlog := by
    have hle : block ≤ log.block := by simpa using (List.mem_filter.mp hlog).2
    exact hnear.mono hle
  ordered := (s.chain.sorted.filter _).imp fun hle => hle.trans (Nat.le_add_right _ _)
  le_top log hlog := (s.chain.le_best log (List.mem_of_mem_filter hlog)).trans hbest

/-- A step that saves nothing: what would be stored in the end is the same, and no log joins the queue. -/
theorem Queued.of_sublist {s' : Indexer} (h : Queued cfg s) (hstore : s'.store = s.store)
    (hchain : s'.chain = s.chain) (hinitial : s'.initialBlockNumber = s.initialBlockNumber)
    (htop : s'.top = s.top) (hupcoming : s'.upcoming.Sublist s.upcoming)
    (hsaves : ∀ log, Relevant cfg s log → (s.store.saveLogs (s.unsaved cfg)).Has log →
      (s.store.saveLogs (s'.unsaved cfg)).Has log) : Queued cfg s' where
  saves log hlog := by
    have hold : Relevant cfg s log := by
      unfold Relevant accepts at hlog ⊢
      rwa [← hchain, ← hinitial]
    rw [hstore]
    exact hsaves log hold (h.saves log hold)
  near log hlog := by
    unfold Near
    rw [hstore]
    exact h.near log (hupcoming.mem hlog)
  ordered := h.ordered.sublist hupcoming
  le_top log hlog := by
    rw [htop]
    exact h.le_top log (hupcoming.mem hlog)

theorem Queued.of_idle {phase : Phase} (h : Queued cfg s)
    (hunsaved : s.unsaved cfg = ({ s with phase := phase } : Indexer).unsaved cfg)
    (hupcoming : s.upcoming = ({ s with phase := phase } : Indexer).upcoming) :
    Queued cfg { s with phase := phase } := by
  refine h.of_sublist rfl rfl rfl rfl (by rw [hupcoming]) fun log _ hhas => ?_
  rw [← hunsaved]
  exact hhas

theorem Queued.next (h : Queued cfg s) (hphase : s.phase = .awaitItem) : Queued cfg (s.next cfg) := by
  unfold Indexer.next
  split
  · exact h
  · next log pending hpending =>
    by_cases haccepts : s.accepts cfg log
    · simp only [if_pos haccepts]
      refine h.of_sublist rfl rfl rfl rfl ?_ fun other _ hhas => ?_
      · simp only [upcoming, hphase, hpending]
        exact .refl _
      · simp only [unsaved, hphase, hpending, List.filter_cons, haccepts, decide_true, if_true] at hhas
        exact hhas
    · simp only [if_neg haccepts]
      refine h.of_sublist rfl rfl rfl rfl ?_ fun other _ hhas => ?_
      · simp only [upcoming, hphase, hpending]
        exact List.sublist_cons_self log pending
      · simp only [unsaved, hphase, hpending, List.filter_cons, haccepts, decide_false,
          Bool.false_eq_true, if_false] at hhas
        exact hhas

theorem Queued.skip {n : Nat} (h : Queued cfg s) (hphase : s.phase = .awaitItem)
    (hlost : ∀ log ∈ s.pending.take n, s.accepts cfg log → log ∉ s.chain.logs) : Queued cfg (s.skip n) := by
  refine h.of_sublist rfl rfl rfl rfl ?_ fun log hlog hhas => ?_
  · simp only [upcoming, hphase, Indexer.skip]
    exact List.drop_sublist n s.pending
  · simp only [unsaved, hphase] at hhas
    rw [← List.take_append_drop n s.pending, List.filter_append] at hhas
    refine LogStore.Has.of_saveLogs_append (fun hmem => ?_) hhas
    obtain ⟨htaken, -⟩ := List.mem_filter.mp hmem
    exact hlost log htaken hlog.2 hlog.1

theorem Queued.tick_saveLog {log : RskLog} (h : Queued cfg s) (hphase : s.phase = .saveLog log) :
    Queued cfg (s.tick cfg) := by
  have hsaves := h.saves
  have hnear := h.near
  have hordered := h.ordered
  have hle := h.le_top
  simp only [unsaved, upcoming, hphase] at hsaves hnear hordered hle
  simp only [Indexer.tick, hphase]
  exact ⟨hsaves, hnear, hordered, hle⟩

theorem Safe.tick_setCheckpoint {log : RskLog} (h : Safe cfg s) (hphase : s.phase = .setCheckpoint log) :
    Safe cfg (s.tick cfg) := by
  have hqueued := h.atPhase
  simp only [AtPhase, hphase] at hqueued
  obtain ⟨hsaves, hnear, hordered, hle⟩ := hqueued
  simp only [unsaved, upcoming, hphase] at hsaves hnear hordered hle
  obtain ⟨hfirst, hordered⟩ := List.pairwise_cons.mp hordered
  simp only [tick, hphase]
  refine ⟨h.best_le, h.top_le, ?_, h.initial_le, fun other hother => ?_, fun other hother => ?_,
    hordered, fun other hother => hle other (List.mem_cons_of_mem log hother)⟩
  · rintro checkpoint ⟨⟩
    exact hle log List.mem_cons_self
  · have hsame : s.store.Has other → (s.store.setSyncCheckpoint log).Has other := id
    exact LogStore.Has.saveLogs_mono hsame (hsaves other hother)
  · rintro checkpoint ⟨⟩
    exact hfirst other hother

theorem Queued.listen {log : RskLog} (h : Queued cfg s) (hphase : s.phase = .notify log) :
    Queued cfg { s with phase := .listen } :=
  h.of_idle (by simp only [unsaved, hphase]; rfl) (by simp only [upcoming, hphase])

theorem Safe.tick (h : Safe cfg s) : Safe cfg (s.tick cfg) := by
  have hat := h.atPhase
  cases hphase : s.phase <;> simp only [AtPhase, hphase] at hat
  case fetch => exact h.tick_fetch hphase
  case saveLogs => exact h.tick_saveLogs hphase
  case checkBest => exact h.tick_checkBest hphase
  case setCheckpoint => exact h.tick_setCheckpoint hphase
  case saveLog log =>
    have hqueued := hat.tick_saveLog hphase
    simp only [Indexer.tick, hphase] at hqueued ⊢
    exact h.of_atPhase rfl hqueued
  all_goals simp only [Indexer.tick, hphase]
  case stopped | awaitItem => exact h
  case begin =>
    split
    · exact h.stop
    · split
      · next hbest =>
        refine h.of_atPhase rfl ⟨hat.1, fun _ => ⟨hat.2 hbest, fun log hlog => ?_⟩⟩
        exact .inr ⟨hlog.2.1, (hat.2 hbest).mono hlog.2.1⟩
      · exact h.of_atPhase rfl hat.1
  case recover => exact h.of_atPhase rfl ⟨h.near_best, hat.scanned⟩
  case subscribe block =>
    refine h.of_atPhase rfl ⟨hat.1, fun hrunning => ?_⟩
    exact (hat.2 hrunning).2.queued (hat.2 hrunning).1 h.best_le
  case listen =>
    split
    · exact h.stop
    · next hrunning =>
      have hqueued := hat.2 (Bool.eq_false_iff.mpr hrunning)
      exact h.of_atPhase rfl
        (hqueued.of_idle (by simp only [unsaved, hphase]; rfl) (by simp only [upcoming, hphase]))
  case notify log =>
    have hqueued := hat.listen hphase
    refine h.of_atPhase rfl ⟨hat.retained, fun _ => ?_⟩
    exact ⟨hqueued.saves, hqueued.near, hqueued.ordered, hqueued.le_top⟩

/-! ## Reorganisations -/

/-- The block that a recovery reads next; what comes below it is not read again. -/
def position (s : Indexer) : Nat :=
  match s.phase with
  | .fetch start _ _ => start
  | .saveLogs _ _ last _ _ => last + 1
  | .checkBest last _ _ => last + 1
  | .subscribe block => block
  | _ => 0

section Reorg

variable {fork best : Nat} {logs : List RskLog}

/-- The logs of the new blocks are above the fork, and the checkpoint is near the fork. -/
theorem Safe.near_fork (h : Safe cfg s) (hdepth : s.top ≤ fork + cfg.syncFinalityDepth) : Near cfg s fork :=
  fun log hlog => (h.checkpoint_le log hlog).trans hdepth

section Follows

variable (hfollow : s.chain.CanFollow fork logs best)

include hfollow

theorem reorg_eq : s.reorg fork logs best = { s with
    chain := s.chain.reorg fork logs best hfollow
    top := max s.top best
    pending := if s.isSubscribed then s.pending ++ (s.chain.dropped fork).map RskLog.remove ++ logs
      else s.pending } :=
  dif_pos hfollow

theorem relevant_or_mem_of_reorg {log : RskLog}
    (hlog : log ∈ (s.chain.reorg fork logs best hfollow).logs) (haccepts : s.accepts cfg log) :
    Relevant cfg s log ∧ log.block ≤ fork ∨ log ∈ logs ∧ fork < log.block := by
  rcases List.mem_append.mp hlog with hkept | hnew
  · obtain ⟨hchain, hfork⟩ := List.mem_filter.mp hkept
    exact .inl ⟨⟨hchain, haccepts⟩, by simpa using hfork⟩
  · exact .inr ⟨hnew, (hfollow.2.2.1 log hnew).1⟩

/-- What the subscription reports of a reorganisation leaves the logs alone that stay on the chain. -/
theorem id_ne_of_mem_reported {log reported : RskLog}
    (hlog : log ∈ s.chain.logs) (hfork : log.block ≤ fork)
    (hreported : reported ∈ (s.chain.dropped fork).map RskLog.remove ++ logs) : log.id ≠ reported.id := by
  intro hid
  rcases List.mem_append.mp hreported with hdropped | hnew
  · obtain ⟨original, horiginal, rfl⟩ := List.mem_map.mp hdropped
    obtain ⟨hchain, habove⟩ := List.mem_filter.mp horiginal
    have habove : fork < original.block := by simpa using habove
    have heq : log = original := ProviderChain.eq_of_id hlog hchain hid
    subst heq
    omega
  · have hkept : log ∈ s.chain.kept fork := List.mem_filter.mpr ⟨hlog, by simpa using hfork⟩
    have hnodup := hfollow.2.2.2.2
    rw [List.map_append, List.nodup_append] at hnodup
    exact hnodup.2.2 _ (List.mem_map_of_mem hkept) _ (List.mem_map_of_mem hnew) hid

theorem mem_reported_block {reported : RskLog}
    (hreported : reported ∈ (s.chain.dropped fork).map RskLog.remove ++ logs) :
    fork < reported.block ∧ reported.block ≤ max s.chain.best best := by
  rcases List.mem_append.mp hreported with hdropped | hnew
  · obtain ⟨original, horiginal, rfl⟩ := List.mem_map.mp hdropped
    obtain ⟨hchain, habove⟩ := List.mem_filter.mp horiginal
    exact ⟨by simpa using habove, (s.chain.le_best original hchain).trans (le_max_left _ _)⟩
  · obtain ⟨habove, hbest, -⟩ := hfollow.2.2.1 reported hnew
    exact ⟨habove, hbest.trans (le_max_right _ _)⟩

theorem ordered_reported {depth : Nat} (hdepth : s.chain.best ≤ fork + depth) :
    ((s.chain.dropped fork).map RskLog.remove ++ logs).Pairwise fun a b => a.block ≤ b.block + depth := by
  have hsorted : (s.chain.dropped fork).Pairwise fun a b => a.block ≤ b.block := s.chain.sorted.filter _
  refine List.pairwise_append.mpr ⟨?_, ?_, fun a ha b hb => ?_⟩
  · exact List.pairwise_map.mpr (hsorted.imp fun hle => hle.trans (Nat.le_add_right _ _))
  · exact hfollow.2.2.2.1.imp fun hle => hle.trans (Nat.le_add_right _ _)
  · -- a removed log is not above the old best block
    obtain ⟨original, horiginal, rfl⟩ := List.mem_map.mp ha
    have hle := s.chain.le_best original (List.mem_of_mem_filter horiginal)
    have hlt := (hfollow.2.2.1 b hb).1
    rw [RskLog.block_remove]
    omega

theorem unsaved_reorg (hsubscribed : s.isSubscribed = true) :
    (s.reorg fork logs best).unsaved cfg = s.unsaved cfg
      ++ ((s.chain.dropped fork).map RskLog.remove ++ logs).filter fun log => s.accepts cfg log := by
  rw [reorg_eq hfollow, hsubscribed, if_pos rfl, List.append_assoc]
  unfold unsaved
  cases hphase : s.phase <;> simp only [List.filter_append, List.cons_append] <;> rfl

theorem upcoming_reorg (hsubscribed : s.isSubscribed = true) :
    (s.reorg fork logs best).upcoming
      = s.upcoming ++ ((s.chain.dropped fork).map RskLog.remove ++ logs) := by
  rw [reorg_eq hfollow, hsubscribed, if_pos rfl, List.append_assoc]
  unfold upcoming
  cases hphase : s.phase <;> simp only [List.cons_append]

end Follows

theorem Queued.reorg (h : Queued cfg s) (hsafe : Safe cfg s) (hsubscribed : s.isSubscribed = true)
    (hfollow : s.chain.CanFollow fork logs best) (hdepth : s.top ≤ fork + cfg.syncFinalityDepth) :
    Queued cfg (s.reorg fork logs best) := by
  have hstore : (s.reorg fork logs best).store = s.store := by rw [reorg_eq hfollow]
  have htop : (s.reorg fork logs best).top = max s.top best := by rw [reorg_eq hfollow]
  have hbest := hsafe.best_le
  refine ⟨fun log hlog => ?_, fun log hlog => ?_, ?_, fun log hlog => ?_⟩
  · rw [reorg_eq hfollow] at hlog
    rw [hstore, unsaved_reorg hfollow hsubscribed]
    rcases relevant_or_mem_of_reorg hfollow hlog.1 hlog.2 with ⟨hold, hfork⟩ | ⟨hnew, -⟩
    · rw [LogStore.saveLogs_append]
      refine (h.saves log hold).saveLogs fun reported hreported => ?_
      exact id_ne_of_mem_reported hfollow hold.1 hfork (List.mem_of_mem_filter hreported)
    · -- the new logs are the last ones that are saved
      rw [List.filter_append, ← List.append_assoc, LogStore.saveLogs_append]
      have hnodup := hfollow.2.2.2.2
      rw [List.map_append, List.nodup_append] at hnodup
      refine LogStore.has_saveLogs_of_mem (hnodup.2.1.sublist (List.filter_sublist.map _)) ?_
      exact List.mem_filter.mpr ⟨hnew, decide_eq_true hlog.2⟩
  · unfold Near
    rw [hstore]
    rw [upcoming_reorg hfollow hsubscribed] at hlog
    rcases List.mem_append.mp hlog with hold | hreported
    · exact h.near log hold
    · exact (hsafe.near_fork hdepth).mono (mem_reported_block hfollow hreported).1.le
  · rw [upcoming_reorg hfollow hsubscribed]
    refine List.pairwise_append.mpr ⟨h.ordered, ordered_reported hfollow (hbest.trans hdepth), ?_⟩
    intro a ha b hb
    have hle := h.le_top a ha
    have hlt := (mem_reported_block hfollow hb).1
    omega
  · rw [htop]
    rw [upcoming_reorg hfollow hsubscribed] at hlog
    rcases List.mem_append.mp hlog with hold | hreported
    · exact (h.le_top log hold).trans (le_max_left _ _)
    · have hle := (mem_reported_block hfollow hreported).2
      omega

/-- What a reorganisation leaves, and what belongs in the store afterwards: what did before, and logs that
come no earlier than the recovery reads, near the checkpoint. -/
structure Reorganised (cfg : Config) (s s' : Indexer) : Prop where
  store : s'.store = s.store
  initial : s'.initialBlockNumber = s.initialBlockNumber
  phase : s'.phase = s.phase
  flag : s'.shutdownFlag = s.shutdownFlag
  top_le : s.top ≤ s'.top
  relevant : ∀ log, Relevant cfg s' log →
    Relevant cfg s log ∨ s.position ≤ log.block ∧ Near cfg s log.block
  queued : s.isSubscribed = true → Queued cfg s → Queued cfg s'

theorem Safe.reorganised (h : Safe cfg s) (hfollow : s.chain.CanFollow fork logs best)
    (hdepth : s.top ≤ fork + cfg.syncFinalityDepth)
    (hposition : ∀ log ∈ logs, s.accepts cfg log → s.position ≤ log.block) :
    Reorganised cfg s (s.reorg fork logs best) where
  store := by rw [reorg_eq hfollow]
  initial := by rw [reorg_eq hfollow]
  phase := by rw [reorg_eq hfollow]
  flag := by rw [reorg_eq hfollow]
  top_le := by
    rw [reorg_eq hfollow]
    exact le_max_left _ _
  relevant log hlog := by
    rw [reorg_eq hfollow] at hlog
    rcases relevant_or_mem_of_reorg hfollow hlog.1 hlog.2 with ⟨hold, -⟩ | ⟨hnew, hfork⟩
    · exact .inl hold
    · exact .inr ⟨hposition log hnew hlog.2, (h.near_fork hdepth).mono hfork.le⟩
  queued hsubscribed hqueued := hqueued.reorg h hsubscribed hfollow hdepth

end Reorg

namespace Reorganised

variable {s' : Indexer} {block : Nat}

theorem near (h : Reorganised cfg s s') (hnear : Near cfg s block) : Near cfg s' block := by
  unfold Near
  rw [h.store]
  exact hnear

theorem retained (h : Reorganised cfg s s') (hretained : Retained cfg s) : Retained cfg s' := by
  intro log hlog
  have hinitial : s.initialBlockNumber ≤ log.block := h.initial ▸ hlog.2.1
  have hfrom : s'.recoverFrom cfg = s.recoverFrom cfg := by
    unfold recoverFrom
    rw [h.store, h.initial]
  rw [h.store, hfrom]
  rcases h.relevant log hlog with hold | ⟨-, hnear⟩
  · exact hretained log hold
  · exact .inr (recoverFrom_le hinitial hnear)

theorem scanned (h : Reorganised cfg s s') (hscanned : Scanned cfg s block) (hle : block ≤ s.position) :
    Scanned cfg s' block := by
  intro log hlog
  rw [h.store]
  rcases h.relevant log hlog with hold | ⟨hposition, hnear⟩
  · exact (hscanned log hold).imp id fun hlater => ⟨hlater.1, h.near hlater.2⟩
  · exact .inr ⟨hle.trans hposition, h.near hnear⟩

theorem saving {rest logs : List RskLog} {last : Nat} (h : Reorganised cfg s s')
    (hsaving : Saving cfg s rest logs last) (hle : last < s.position) : Saving cfg s' rest logs last where
  saves log hlog := by
    rw [h.store]
    rcases h.relevant log hlog with hold | ⟨hposition, hnear⟩
    · exact (hsaving.saves log hold).imp id fun hlater => ⟨hlater.1, h.near hlater.2⟩
    · exact .inr ⟨hle.trans_le hposition, h.near hnear⟩
  nodup := hsaving.nodup
  le_last := hsaving.le_last
  le_top log hlog := (hsaving.le_top log hlog).trans h.top_le

theorem atPhase (h : Reorganised cfg s s') (hat : AtPhase cfg s) : AtPhase cfg s' := by
  unfold AtPhase at hat ⊢
  rw [h.phase, h.flag, h.initial]
  cases hphase : s.phase <;> simp only [hphase] at hat ⊢
  case stopped | recover => exact h.retained hat
  case begin => exact ⟨h.retained hat.1, fun hbest => h.near (hat.2 hbest)⟩
  case fetch start finish attempt =>
    exact ⟨h.near hat.1, h.scanned hat.2 (by simp only [position, hphase]; rfl)⟩
  case saveLogs rest logs last finish attempt =>
    obtain ⟨hfinish, hlast, hretained, hsaving⟩ := hat
    have hposition : last < s.position := by
      simp only [position, hphase]
      exact Nat.lt_succ_self last
    exact ⟨h.near hfinish, hlast, h.retained hretained, h.saving hsaving hposition⟩
  case checkBest last finish attempt =>
    exact ⟨h.near hat.1, h.scanned hat.2 (by simp only [position, hphase]; rfl)⟩
  case subscribe start =>
    refine ⟨h.retained hat.1, fun hrunning => ?_⟩
    obtain ⟨hnear, hscanned⟩ := hat.2 hrunning
    exact ⟨h.near hnear, h.scanned hscanned (by simp only [position, hphase]; rfl)⟩
  case listen =>
    exact ⟨h.retained hat.1, fun hrunning => h.queued (by simp only [isSubscribed, hphase]) (hat.2 hrunning)⟩
  all_goals exact h.queued (by simp only [isSubscribed, hphase]) hat

end Reorganised

theorem Safe.reorg {fork best : Nat} {logs : List RskLog} (h : Safe cfg s)
    (hdepth : s.top ≤ fork + cfg.syncFinalityDepth)
    (hposition : ∀ log ∈ logs, s.accepts cfg log → s.position ≤ log.block) :
    Safe cfg (s.reorg fork logs best) := by
  by_cases hfollow : s.chain.CanFollow fork logs best
  · have hreorganised := h.reorganised hfollow hdepth hposition
    have hforks := hfollow.2.1
    have hat := hreorganised.atPhase h.atPhase
    rw [reorg_eq hfollow] at hat ⊢
    refine ⟨le_max_right _ _, ?_, fun log hlog => ?_, h.initial_le, hat⟩
    · simp only [ProviderChain.reorg]
      omega
    · exact (h.checkpoint_le log hlog).trans (le_max_left _ _)
  · unfold Indexer.reorg
    rw [dif_neg hfollow]
    exact h

/-! ## Every run -/

/-- The subscription loses no log that belongs in the store. A reorganisation is not deeper than the
finality depth below the highest block that there was, and it puts no such log into a block that a
running recovery has passed. -/
def LosesNothing (cfg : Config) (s : Indexer) : Input → Prop
  | .transient => s.phase = .awaitItem →
    ∀ log ∈ s.pending.take 1, s.accepts cfg log → log ∉ s.chain.logs
  | .lagged skipped => s.phase = .awaitItem →
    ∀ log ∈ s.pending.take skipped, s.accepts cfg log → log ∉ s.chain.logs
  | .reorg fork logs _ => s.top ≤ fork + cfg.syncFinalityDepth
    ∧ ∀ log ∈ logs, s.accepts cfg log → s.position ≤ log.block
  | _ => True

instance (cfg : Config) : ∀ (s : Indexer) (input : Input), Decidable (LosesNothing cfg s input) := by
  intro s input
  unfold LosesNothing
  split <;> infer_instance

theorem Safe.start (h : Safe cfg s) : Safe cfg (s.start cfg) := by
  have hnear := h.near_best
  refine ⟨h.best_le, h.top_le, h.checkpoint_le, fun hhash => ?_, fun log hlog => ?_, fun hbest => ?_⟩
  · simp only [Indexer.start, hhash, le_refl]
  · cases hfrom : cfg.startFrom with
    | best =>
      -- the new initial block is the best one
      have hinitial : s.chain.best ≤ log.block := by
        have := hlog.2.1
        simpa only [Indexer.start, hfrom] using this
      exact .inr (recoverFrom_le hlog.2.1 (hnear.mono hinitial))
    | hash =>
      have hinitial : cfg.initialBlock ≤ log.block := by
        have := hlog.2.1
        simpa only [Indexer.start, hfrom] using this
      have hold : Relevant cfg s log := ⟨hlog.1, (h.initial_le hfrom).trans hinitial, hlog.2.2⟩
      rcases h.retained log hold with hhas | hle
      · exact .inl hhas
      · have hnear : Near cfg s log.block := near_of_recoverFrom_le hle
        exact .inr (recoverFrom_le hlog.2.1 hnear)
  · simp only [Indexer.start, hbest]
    exact hnear

theorem Safe.onItem {item : Indexer} (h : Safe cfg s) (hitem : s.phase = .awaitItem → Safe cfg item) :
    Safe cfg (s.onItem item) := by
  unfold Indexer.onItem
  split
  · next hphase => exact hitem hphase
  · exact h

theorem Safe.skip {n : Nat} (h : Safe cfg s)
    (hlost : s.phase = .awaitItem → ∀ log ∈ s.pending.take n, s.accepts cfg log → log ∉ s.chain.logs) :
    Safe cfg (s.onItem (s.skip n)) := by
  refine h.onItem fun hphase => ?_
  have hqueued := h.atPhase
  simp only [AtPhase, hphase] at hqueued
  have hskip : Queued cfg (s.skip n) := hqueued.skip hphase (hlost hphase)
  exact h.of_atPhase rfl ⟨hskip.retained, fun _ => hskip⟩

theorem Safe.next (h : Safe cfg s) : Safe cfg (s.onItem (s.next cfg)) := by
  refine h.onItem fun hphase => ?_
  have hqueued := h.atPhase
  simp only [AtPhase, hphase] at hqueued
  have hnext := hqueued.next hphase
  unfold Indexer.next at hnext ⊢
  split at hnext
  · exact h
  · next log pending hpending =>
    by_cases haccepts : s.accepts cfg log
    · simp only [if_pos haccepts] at hnext ⊢
      exact h.of_atPhase rfl hnext
    · simp only [if_neg haccepts] at hnext ⊢
      exact h.of_atPhase rfl ⟨hnext.retained, fun _ => hnext⟩

theorem Safe.requestShutdown (h : Safe cfg s) : Safe cfg { s with shutdownFlag := true } := by
  have hat := h.atPhase
  refine h.of_atPhase rfl ?_
  have hqueued : Queued cfg s → Queued cfg { s with shutdownFlag := true } := fun hq =>
    ⟨hq.saves, hq.near, hq.ordered, hq.le_top⟩
  unfold AtPhase at hat ⊢
  cases hphase : s.phase <;> simp only [hphase] at hat hqueued ⊢
  case saveLogs =>
    obtain ⟨hfinish, hlast, hretained, hsaving⟩ := hat
    exact ⟨hfinish, hlast, hretained, hsaving.saves, hsaving.nodup, hsaving.le_last, hsaving.le_top⟩
  case subscribe | listen => exact ⟨hat.1, nofun⟩
  case awaitItem | saveLog | setCheckpoint | notify => exact hqueued hat
  all_goals exact hat

theorem Safe.step (input : Input) (h : Safe cfg s) (hcond : LosesNothing cfg s input) :
    Safe cfg (s.step cfg input) := by
  cases input with
  | start =>
    simp only [Indexer.step]
    split
    · exact h.start
    · exact h
  | kill => exact h.stop
  | fail => exact h.stop
  | requestShutdown => exact h.requestShutdown
  | tick => exact h.tick
  | sendFails =>
    simp only [Indexer.step]
    split
    · next log hphase =>
      have hqueued := h.atPhase
      simp only [AtPhase, hphase] at hqueued
      exact h.of_atPhase rfl ⟨hqueued.retained, fun _ => hqueued.listen hphase⟩
    · exact h
  | next => exact h.next
  | transient => exact h.skip hcond
  | lagged skipped => exact h.skip hcond
  | closedConnection => exact h.onItem fun _ => h.stop
  | unexpected => exact h.onItem fun _ => h.stop
  | reorg fork logs best => exact h.reorg hcond.1 hcond.2

theorem safe_init (chain : ProviderChain) : Safe cfg (init chain) where
  best_le := le_refl _
  top_le := Nat.le_add_right _ _
  checkpoint_le := nofun
  initial_le _ := Nat.zero_le _
  atPhase _ hlog := .inr (recoverFrom_le hlog.2.1 nofun)

/-- The indexer waits for the next log when blocks up to the twentieth appear. -/
def sampleGrowth : List Input :=
  [.start] ++ List.replicate 9 .tick ++ [.reorg 10 [sampleLog 11, sampleLog 20] 20]

/-- The logs arrive; the process is killed when the first of them is stored and starts again. -/
def sampleInterrupted : List Input :=
  sampleGrowth ++ [.next, .tick, .tick, .tick, .tick, .next, .kill, .start, .tick, .tick]

end Indexer

end UnionBridge.LogIndexer
