import UnionBridge.LogIndexer.Indexer

/-!
# What a recovery leaves in the store

On a chain that does not change, `recover_logs` fetches every block from its start to the best block and
saves what it gets. It saves and never deletes: the logs that were in the store before stay there unless
the new chain has a log with the same id. So after a recovery the valid logs of the recovered blocks are
those of the provider exactly when every valid log that the store had there is replaced.
-/

namespace UnionBridge.LogIndexer

namespace Indexer

variable {cfg : Config} {s₀ s : Indexer}

/-- The logs of the provider that a recovery is for. -/
def wanted (cfg : Config) (s₀ : Indexer) : List RskLog :=
  s₀.chain.getLogs (s₀.recoverFrom cfg) s₀.chain.best cfg.managedContracts

/-- The block numbers of the recovery are far from the largest word. -/
def NoWrap (cfg : Config) (s₀ : Indexer) : Prop := s₀.chain.best + cfg.syncBatchSize + 1 < 2 ^ 64

/-- The wanted logs below a block are stored, except for some. -/
def Covered (cfg : Config) (s₀ s : Indexer) (block : Nat) (missing : List RskLog) : Prop :=
  ∀ log ∈ wanted cfg s₀, log.block < block → s.store.Has log ∨ log ∈ missing

/-- How far the recovery is. The logs from `next` on are still to be fetched, and `missing` is fetched
but not saved. -/
structure Progress (cfg : Config) (s₀ s : Indexer) (next : Nat) (missing : List RskLog) : Prop where
  covered : Covered cfg s₀ s next missing
  /-- What is about to be saved is on the chain; it is wanted if no block number wraps. -/
  fetched : ∀ log ∈ missing, log ∈ s₀.chain.logs ∧ log.block ≤ s₀.chain.best
    ∧ log.info.address ∈ cfg.managedContracts
  inRange : NoWrap cfg s₀ → s₀.recoverFrom cfg ≤ next ∧ ∀ log ∈ missing, log ∈ wanted cfg s₀

/-- Where a recovery that nothing disturbs can be. -/
def OnTrack (cfg : Config) (s₀ s : Indexer) : Prop :=
  match s.phase with
  | .recover => s.store = s₀.store ∧ s.initialBlockNumber = s₀.initialBlockNumber
  | .fetch start finish _ => finish = s₀.chain.best ∧ Progress cfg s₀ s start []
  | .saveLogs rest _ last finish _ =>
    finish = s₀.chain.best ∧ last ≤ finish ∧ Progress cfg s₀ s (last + 1) rest
  | .checkBest last finish _ =>
    finish = s₀.chain.best ∧ last ≤ finish ∧ Progress cfg s₀ s (last + 1) []
  | .subscribe finish => finish = s₀.chain.best ∧ Covered cfg s₀ s (finish + 1) []
  | .stopped | .listen | .awaitItem => True
  | _ => False

/-- What holds all along the recovery: every log in the store was there before or is on the chain, and
without wrapping only logs whose ids are wanted were replaced. -/
structure Recovering (cfg : Config) (s₀ s : Indexer) : Prop where
  chain : s.chain = s₀.chain
  running : s.shutdownFlag = false
  origin : ∀ log, s.store.Has log → s₀.store.Has log ∨ log ∈ s₀.chain.logs
    ∧ log.block ≤ s₀.chain.best ∧ log.info.address ∈ cfg.managedContracts
  kept : NoWrap cfg s₀ → ∀ log, s₀.store.Has log → log.id ∉ (wanted cfg s₀).map RskLog.id →
    s.store.Has log
  onTrack : OnTrack cfg s₀ s

/-! ## One operation of the recovery -/

variable {log : RskLog} {rest logs : List RskLog} {start last finish attempt next : Nat}

theorem mem_wanted : log ∈ wanted cfg s₀ ↔ log ∈ s₀.chain.logs ∧ s₀.recoverFrom cfg ≤ log.block
    ∧ log.block ≤ s₀.chain.best ∧ log.info.address ∈ cfg.managedContracts :=
  ProviderChain.mem_getLogs

theorem le_batchEnd (hstart : start ≤ finish) (h : start + cfg.syncBatchSize < 2 ^ 64) :
    start ≤ batchEnd cfg start finish := by
  unfold batchEnd
  rw [Nat.mod_eq_of_lt h]
  split <;> omega

theorem Covered.of_logs {s' : Indexer} (h : Covered cfg s₀ s next rest)
    (hlogs : s'.store.logs = s.store.logs) : Covered cfg s₀ s' next rest := by
  unfold Covered LogStore.Has
  rw [hlogs]
  exact h

theorem Progress.of_logs {s' : Indexer} (h : Progress cfg s₀ s next rest)
    (hlogs : s'.store.logs = s.store.logs) : Progress cfg s₀ s' next rest :=
  ⟨h.covered.of_logs hlogs, h.fetched, h.inRange⟩

theorem Progress.fetch (h : Progress cfg s₀ s start []) (hstart : start ≤ s₀.chain.best) :
    Progress cfg s₀ s (batchEnd cfg start s₀.chain.best + 1)
      (s₀.chain.getLogs start (batchEnd cfg start s₀.chain.best) cfg.managedContracts) where
  covered log hlog hblock := by
    -- below the batch the log is stored already, otherwise the batch has it
    by_cases hbelow : log.block < start
    · exact .inl ((h.covered log hlog hbelow).resolve_right List.not_mem_nil)
    · obtain ⟨hchain, -, -, haddress⟩ := mem_wanted.mp hlog
      exact .inr (ProviderChain.mem_getLogs.mpr ⟨hchain, by omega, by omega, haddress⟩)
  fetched log hlog := by
    obtain ⟨hchain, -, hblock, haddress⟩ := ProviderChain.mem_getLogs.mp hlog
    exact ⟨hchain, hblock.trans batchEnd_le, haddress⟩
  inRange hwrap := by
    obtain ⟨hfrom, -⟩ := h.inRange hwrap
    have hle : start ≤ batchEnd cfg start s₀.chain.best := by
      unfold NoWrap at hwrap
      exact le_batchEnd hstart (by omega)
    refine ⟨by omega, fun log hlog => ?_⟩
    obtain ⟨hchain, hfirst, hblock, haddress⟩ := ProviderChain.mem_getLogs.mp hlog
    exact mem_wanted.mpr ⟨hchain, hfrom.trans hfirst, hblock.trans batchEnd_le, haddress⟩

/-- A fetched log is saved. It replaces no other log of the chain, whose ids are distinct. -/
theorem Progress.save {s' : Indexer} (h : Progress cfg s₀ s next (log :: rest))
    (hstore : s'.store = s.store.saveLog log) : Progress cfg s₀ s' next rest where
  covered other hother hblock := by
    rw [hstore, LogStore.has_saveLog]
    by_cases heq : other = log
    · exact .inl (.inl heq)
    · have hid : other.id ≠ log.id := fun hid => heq
        (ProviderChain.eq_of_id (mem_wanted.mp hother).1 (h.fetched log List.mem_cons_self).1 hid)
      rcases h.covered other hother hblock with hhas | hmem
      · exact .inl (.inr ⟨hid, hhas⟩)
      · exact .inr ((List.mem_cons.mp hmem).resolve_left heq)
  fetched other hother := h.fetched other (List.mem_cons_of_mem log hother)
  inRange hwrap :=
    ⟨(h.inRange hwrap).1, fun other hother => (h.inRange hwrap).2 other (List.mem_cons_of_mem log hother)⟩

/-- The next block in 64-bit words. -/
theorem Progress.wrap (h : Progress cfg s₀ s (last + 1) []) (hlast : last ≤ s₀.chain.best) :
    Progress cfg s₀ s ((last + 1) % 2 ^ 64) [] where
  covered log hlog hblock := h.covered log hlog (hblock.trans_le (Nat.mod_le _ _))
  fetched := h.fetched
  inRange hwrap := by
    have hlt : last + 1 < 2 ^ 64 := by
      unfold NoWrap at hwrap
      omega
    rw [Nat.mod_eq_of_lt hlt]
    exact h.inRange hwrap

theorem Recovering.of_logs {s' : Indexer} (h : Recovering cfg s₀ s) (hchain : s'.chain = s.chain)
    (hrunning : s'.shutdownFlag = s.shutdownFlag) (hlogs : s'.store.logs = s.store.logs)
    (honTrack : OnTrack cfg s₀ s') : Recovering cfg s₀ s' := by
  have hhas : ∀ log, s'.store.Has log ↔ s.store.Has log := by
    intro log
    unfold LogStore.Has
    rw [hlogs]
  exact {
    chain := hchain.trans h.chain
    running := hrunning.trans h.running
    origin := fun log hlog => h.origin log ((hhas log).mp hlog)
    kept := fun hwrap log hlog hid => (hhas log).mpr (h.kept hwrap log hlog hid)
    onTrack := honTrack }

theorem Recovering.save (h : Recovering cfg s₀ s)
    (hphase : s.phase = .saveLogs (log :: rest) logs last finish attempt) :
    Recovering cfg s₀ (s.tick cfg) := by
  have htrack := h.onTrack
  simp only [OnTrack, hphase] at htrack
  obtain ⟨hfinish, hlast, hprogress⟩ := htrack
  have htick : s.tick cfg = { s with
      store := s.store.saveLog log
      persisted := log :: s.persisted
      phase := .saveLogs rest logs last finish attempt } := by
    simp only [tick, hphase]
  rw [htick]
  refine ⟨h.chain, h.running, fun other hother => ?_, fun hwrap other hother hid => ?_,
    hfinish, hlast, hprogress.save rfl⟩
  · rcases LogStore.has_saveLog.mp hother with rfl | ⟨-, hold⟩
    · exact .inr (hprogress.fetched other List.mem_cons_self)
    · exact h.origin other hold
  · -- the saved log is wanted, so its id is not the one of the other log
    have hwanted := (hprogress.inRange hwrap).2 log List.mem_cons_self
    have hne : other.id ≠ log.id := fun heq => hid (heq ▸ List.mem_map_of_mem hwanted)
    exact LogStore.has_saveLog.mpr (.inr ⟨hne, h.kept hwrap other hother hid⟩)

theorem Recovering.tick (h : Recovering cfg s₀ s) : Recovering cfg s₀ (s.tick cfg) := by
  have htrack := h.onTrack
  cases hphase : s.phase with
  | stopped => simpa only [Indexer.tick, hphase] using h
  | awaitItem => simpa only [Indexer.tick, hphase] using h
  | listen =>
    simp only [Indexer.tick, hphase, h.running, Bool.false_eq_true, if_false]
    exact h.of_logs rfl h.running.symm rfl trivial
  | recover =>
    simp only [OnTrack, hphase] at htrack
    obtain ⟨hstore, hinitial⟩ := htrack
    have hfrom : s.recoverFrom cfg = s₀.recoverFrom cfg := by
      unfold recoverFrom
      rw [hstore, hinitial]
    simp only [Indexer.tick, hphase]
    refine h.of_logs rfl rfl rfl ⟨by rw [h.chain], fun log hlog hblock => ?_, (by rintro _ ⟨⟩), fun _ => ?_⟩
    · have := (mem_wanted.mp hlog).2.1
      omega
    · exact ⟨hfrom.ge, by rintro _ ⟨⟩⟩
  | fetch start finish attempt =>
    simp only [OnTrack, hphase] at htrack
    obtain ⟨rfl, hprogress⟩ := htrack
    simp only [Indexer.tick, hphase, h.running, true_and]
    split
    · next hstart =>
      split
      · exact h.of_logs rfl rfl rfl trivial
      · refine h.of_logs rfl h.running.symm rfl ⟨rfl, batchEnd_le, ?_⟩
        rw [h.chain]
        exact (hprogress.fetch hstart).of_logs rfl
    · next hend =>
      refine h.of_logs rfl h.running.symm rfl ⟨rfl, fun log hlog hblock => ?_⟩
      exact hprogress.covered log hlog (by omega)
  | saveLogs rest logs last finish attempt =>
    cases rest with
    | cons log rest => exact h.save hphase
    | nil =>
      simp only [OnTrack, hphase] at htrack
      obtain ⟨hfinish, hlast, hprogress⟩ := htrack
      simp only [Indexer.tick, hphase]
      cases logs.getLast? with
      | none => exact h.of_logs rfl rfl rfl ⟨hfinish, hlast, hprogress.of_logs rfl⟩
      | some lastLog => exact h.of_logs rfl rfl rfl ⟨hfinish, hlast, hprogress.of_logs rfl⟩
  | checkBest last finish attempt =>
    simp only [OnTrack, hphase] at htrack
    obtain ⟨rfl, hlast, hprogress⟩ := htrack
    -- the best block is the one that the recovery began with
    have hbest : ¬ (last = s₀.chain.best ∧ s₀.chain.best < s.chain.best) := by
      rw [h.chain]
      omega
    simp only [Indexer.tick, hphase, if_neg hbest]
    exact h.of_logs rfl rfl rfl ⟨rfl, (hprogress.wrap hlast).of_logs rfl⟩
  | subscribe lastBlockNumber =>
    simp only [Indexer.tick, hphase]
    exact h.of_logs rfl rfl rfl trivial
  | _ => simp only [OnTrack, hphase] at htrack

theorem Recovering.ticks (h : Recovering cfg s₀ s) (n : Nat) : Recovering cfg s₀ ((Indexer.tick cfg)^[n] s) := by
  induction n with
  | zero => exact h
  | succ n ih =>
    rw [Function.iterate_succ_apply']
    exact ih.tick

theorem recovering_self (hphase : s₀.phase = .recover) (hrunning : s₀.shutdownFlag = false) :
    Recovering cfg s₀ s₀ := by
  refine ⟨rfl, hrunning, fun _ => .inl, fun _ _ h _ => h, ?_⟩
  simp only [OnTrack, hphase, and_self]

/-! ## The recovery returns -/

theorem exists_ticks_checkBest (hphase : s.phase = .saveLogs rest logs last finish attempt) :
    ∃ n, ((tick cfg)^[n] s).phase = .checkBest last finish attempt := by
  induction rest generalizing s with
  | nil => exact ⟨1, by simp only [Function.iterate_one, tick, hphase]⟩
  | cons log rest ih =>
    have htick : (s.tick cfg).phase = .saveLogs rest logs last finish attempt := by
      simp only [tick, hphase]
    obtain ⟨n, hn⟩ := ih htick
    exact ⟨n + 1, hn⟩

theorem tick_checkBest (hphase : s.phase = .checkBest last finish attempt) (hbest : s.chain.best ≤ finish) :
    (s.tick cfg).phase = .fetch ((last + 1) % 2 ^ 64) finish attempt := by
  simp only [tick, hphase, if_neg (fun h : last = finish ∧ finish < s.chain.best => by omega)]

theorem Recovering.exists_ticks_fetch (h : Recovering cfg s₀ s) (hwrap : NoWrap cfg s₀)
    (hphase : s.phase = .fetch start s₀.chain.best attempt) (hstart : start ≤ s₀.chain.best)
    (hattempt : attempt ≤ maxAttempts) :
    ∃ n higher, start < higher ∧ ((Indexer.tick cfg)^[n] s).phase = .fetch higher s₀.chain.best attempt := by
  unfold NoWrap at hwrap
  have hle : start ≤ batchEnd cfg start s₀.chain.best := le_batchEnd hstart (by omega)
  have hend : batchEnd cfg start s₀.chain.best ≤ s₀.chain.best := batchEnd_le
  have hfetch : (s.tick cfg).phase = .saveLogs
      (s.chain.getLogs start (batchEnd cfg start s₀.chain.best) cfg.managedContracts)
      (s.chain.getLogs start (batchEnd cfg start s₀.chain.best) cfg.managedContracts)
      (batchEnd cfg start s₀.chain.best) s₀.chain.best attempt := by
    simp only [Indexer.tick, hphase, h.running, hstart, and_self, if_true, if_neg (Nat.not_lt.mpr hattempt)]
  obtain ⟨n, hn⟩ := exists_ticks_checkBest hfetch
  have hbest : ((Indexer.tick cfg)^[n] (s.tick cfg)).chain.best ≤ s₀.chain.best := by
    rw [(h.tick.ticks n).chain]
  refine ⟨n + 2, batchEnd cfg start s₀.chain.best + 1, by omega, ?_⟩
  rw [Function.iterate_succ_apply', Function.iterate_succ_apply, tick_checkBest hn hbest,
    Nat.mod_eq_of_lt (by omega)]

theorem Recovering.exists_ticks_subscribe (h : Recovering cfg s₀ s) (hwrap : NoWrap cfg s₀)
    (hphase : s.phase = .fetch start s₀.chain.best attempt) (hattempt : attempt ≤ maxAttempts) :
    ∃ n, ((Indexer.tick cfg)^[n] s).phase = .subscribe s₀.chain.best := by
  -- by the number of blocks that are left
  induction hleft : s₀.chain.best + 1 - start using Nat.strong_induction_on generalizing s start with
  | _ left ih =>
    by_cases hstart : start ≤ s₀.chain.best
    · obtain ⟨n, higher, hlt, hn⟩ := h.exists_ticks_fetch hwrap hphase hstart hattempt
      obtain ⟨m, hm⟩ := ih (s₀.chain.best + 1 - higher) (by omega) (h.ticks n) hn rfl
      exact ⟨m + n, by rw [Function.iterate_add_apply, hm]⟩
    · exact ⟨1, by simp only [Function.iterate_one, Indexer.tick, hphase, h.running, hstart, and_false, if_false]⟩

theorem exists_ticks_recovered (hphase : s₀.phase = .recover) (hrunning : s₀.shutdownFlag = false)
    (hwrap : NoWrap cfg s₀) : ∃ n, ((tick cfg)^[n] s₀).phase = .subscribe s₀.chain.best := by
  have htick : (s₀.tick cfg).phase = .fetch (s₀.recoverFrom cfg) s₀.chain.best 1 := by
    simp only [tick, hphase]
  obtain ⟨n, hn⟩ := (recovering_self hphase hrunning).tick.exists_ticks_subscribe hwrap htick (by decide)
  exact ⟨n + 1, hn⟩

/-! ## What is stored afterwards -/

/-- The log is stored as valid in a block that the recovery from `s₀` covers. -/
def StoredValid (cfg : Config) (s₀ s : Indexer) (log : RskLog) : Prop :=
  s.store.Has log ∧ log.info.removed = false ∧ s₀.recoverFrom cfg ≤ log.block ∧ log.block ≤ s₀.chain.best

/-- Every log that is stored as valid in the covered blocks is on the chain there under its id. -/
def Superseded (cfg : Config) (s₀ : Indexer) : Prop :=
  ∀ log, StoredValid cfg s₀ s₀ log → log.id ∈ (wanted cfg s₀).map RskLog.id

theorem Recovering.storedValid_iff (h : Recovering cfg s₀ s) (hphase : s.phase = .subscribe finish)
    (hold : Superseded cfg s₀) (log : RskLog) : StoredValid cfg s₀ s log ↔ log ∈ wanted cfg s₀ := by
  have htrack := h.onTrack
  simp only [OnTrack, hphase] at htrack
  obtain ⟨rfl, hcovered⟩ := htrack
  have hstored : ∀ other ∈ wanted cfg s₀, s.store.Has other := fun other hother =>
    (hcovered other hother (Nat.lt_succ_of_le (mem_wanted.mp hother).2.2.1)).resolve_right List.not_mem_nil
  constructor
  · rintro ⟨hhas, hvalid, hfrom, hbest⟩
    rcases h.origin log hhas with hbefore | ⟨hchain, -, haddress⟩
    · -- the log of the chain with this id is stored, and it is the only one
      obtain ⟨other, hother, hid⟩ := List.mem_map.mp (hold log ⟨hbefore, hvalid, hfrom, hbest⟩)
      rw [hhas.eq_of_id (hstored other hother) hid.symm]
      exact hother
    · exact mem_wanted.mpr ⟨hchain, hfrom, hbest, haddress⟩
  · intro hlog
    obtain ⟨hchain, hfrom, hbest, -⟩ := mem_wanted.mp hlog
    exact ⟨hstored log hlog, s₀.chain.valid log hchain, hfrom, hbest⟩

theorem Recovering.superseded (h : Recovering cfg s₀ s) (hwrap : NoWrap cfg s₀)
    (hexact : ∀ log, StoredValid cfg s₀ s log ↔ log ∈ wanted cfg s₀) : Superseded cfg s₀ := by
  intro log hlog
  by_contra hid
  have hhas := h.kept hwrap log hlog.1 hid
  exact hid (List.mem_map_of_mem ((hexact log).mp ⟨hhas, hlog.2⟩))

/-- After a recovery without a shutdown, on a chain that does not change, the logs stored as valid in the
covered blocks are those of the provider if every such log of the old store is superseded; and only then,
unless block numbers wrap. -/
theorem recovered_logs_exact_iff (cfg : Config) (s₀ : Indexer) (hphase : s₀.phase = .recover)
    (hrunning : s₀.shutdownFlag = false) :
    (NoWrap cfg s₀ → ∃ n, ((tick cfg)^[n] s₀).phase = .subscribe s₀.chain.best)
    ∧ ∀ n finish, ((tick cfg)^[n] s₀).phase = .subscribe finish →
      (Superseded cfg s₀ → ∀ log, StoredValid cfg s₀ ((tick cfg)^[n] s₀) log ↔ log ∈ wanted cfg s₀)
      ∧ (NoWrap cfg s₀ →
        (∀ log, StoredValid cfg s₀ ((tick cfg)^[n] s₀) log ↔ log ∈ wanted cfg s₀) → Superseded cfg s₀) := by
  refine ⟨exists_ticks_recovered hphase hrunning, fun n finish hn => ?_⟩
  have h : Recovering cfg s₀ ((tick cfg)^[n] s₀) := (recovering_self hphase hrunning).ticks n
  exact ⟨h.storedValid_iff hn, h.superseded⟩

/-- A first process recovers the log of the sample and is killed; the next one starts. -/
def sampleRestart (between : List Input) : Indexer :=
  Machine.run (step sampleConfig) (init sampleChain)
    ([.start, .tick, .tick, .tick, .tick, .tick, .kill] ++ between ++ [.start, .tick])

theorem superseded_sampleRestart : Superseded sampleConfig (sampleRestart []) := by
  rintro log ⟨hhas, -⟩
  have hlog : ((LogStore.empty.saveLog (sampleLog 9)).setSyncCheckpoint (sampleLog 9)).Has log := hhas
  rw [LogStore.has_setSyncCheckpoint, LogStore.has_saveLog] at hlog
  rcases hlog with rfl | ⟨-, hempty⟩
  · decide
  · exact absurd hempty LogStore.not_has_empty

theorem sampleRestart_recovers_exactly :
    (sampleRestart []).phase = .recover ∧ (sampleRestart []).shutdownFlag = false
    ∧ ∃ n, ((tick sampleConfig)^[n] (sampleRestart [])).phase = .subscribe 10
      ∧ ∀ log, StoredValid sampleConfig (sampleRestart []) ((tick sampleConfig)^[n] (sampleRestart [])) log
        ↔ log ∈ wanted sampleConfig (sampleRestart []) := by
  obtain ⟨hreturns, hexact⟩ := recovered_logs_exact_iff sampleConfig (sampleRestart []) (by decide) (by decide)
  obtain ⟨n, hn⟩ := hreturns (by unfold NoWrap; decide)
  exact ⟨by decide, by decide, n, hn, (hexact n 10 hn).1 superseded_sampleRestart⟩

/-- The last two blocks are reorganised between the processes, and the log with them. The recovery leaves
it in the store as valid. -/
theorem reorganised_log_survives_recovery :
    (sampleRestart [.reorg 8 [] 10]).phase = .recover
    ∧ (sampleRestart [.reorg 8 [] 10]).shutdownFlag = false
    ∧ ((tick sampleConfig)^[5] (sampleRestart [.reorg 8 [] 10])).phase = .subscribe 10
    ∧ StoredValid sampleConfig (sampleRestart [.reorg 8 [] 10])
      ((tick sampleConfig)^[5] (sampleRestart [.reorg 8 [] 10])) (sampleLog 9)
    ∧ sampleLog 9 ∉ wanted sampleConfig (sampleRestart [.reorg 8 [] 10]) :=
  ⟨by decide, by decide, by decide, ⟨by decide, by decide, by decide, by decide⟩, by decide⟩

end Indexer

end UnionBridge.LogIndexer
