import UnionBridge.BlockIndexer.StoredChain
import UnionBridge.Lib.Machine

/-!
# The canonical chain over the runs of the indexer

Between two syncs the canonical blocks from the initial block up to the best one are linked by their
parent hashes (`LinkedToBest`). A sync that is cut short by a shutdown leaves a checkpoint, and then
the chain is linked up to the block below it (`LinkedToCheckpoint`), which is where the next process
resumes. `PhaseSound` says what is linked at each point of the program.
-/

namespace UnionBridge.BlockIndexer

open Chain

namespace Indexer

/-- The chain between two syncs. -/
def Settled (store : BlockStore) (initial : BlockHash) (shutdown : Bool) : Prop :=
  store.LinkedToCheckpoint initial ∧ (shutdown = false → store.LinkedToBest initial)

/-- The store a process can be started on: it is new, or a chain is in it. -/
def Restartable (store : BlockStore) (initial : BlockHash) : Prop :=
  (store.best = none ∧ store.backSyncCheckpoint = none) ∨ store.LinkedToCheckpoint initial

variable {initial : BlockHash} {answer : Outcome (Option RskBlock)} {caller : SaveCaller}
  {store : BlockStore} {frame : SyncFrame} {block : RskBlock}

theorem Restartable.congr {store store' : BlockStore}
    (h : Restartable store initial) (hcanonical : store'.canonical = store.canonical)
    (hbest : store'.best = store.best)
    (hcheckpoint : store'.backSyncCheckpoint = store.backSyncCheckpoint) :
    Restartable store' initial := by
  rcases h with ⟨hnone, hnone'⟩ | hlinked
  · exact .inl ⟨hbest.trans hnone, hcheckpoint.trans hnone'⟩
  · exact .inr (hlinked.congr hbest hcheckpoint fun _ _ n _ => congrFun hcanonical n)

def NextBest (cfg : IndexerConfig) (store : BlockStore) (initial : BlockHash) (block : RskBlock) :
    SaveCaller → Prop
  | .initDb => store.best = none ∧ store.backSyncCheckpoint = none ∧ block.hash = initial
  | .startFromBest => cfg.startFrom = .best ∧ block.hash = initial
  | .listen => store.LinkedToBest initial ∧ ∃ best, store.best = some best ∧ IsParent best block

/-- What holds of the store at each point of the program. -/
def PhaseSound (T : BlockTree) (cfg : IndexerConfig) (store : BlockStore) (initial : BlockHash)
    (shutdown : Bool) : Phase → Prop
  | .stopped => cfg.startFrom = .hash → Restartable store initial
  | .resolveInitial => cfg.startFrom = .hash → Restartable store initial
  | .initialBlock => cfg.startFrom = .hash → Restartable store initial
  | .saveBest block caller => block ∈ T.blocks ∧ NextBest cfg store initial block caller
  | .setBest block caller =>
    block ∈ T.blocks ∧ NextBest cfg store initial block caller
      ∧ store.canonical block.number = some block
  | .checkpointParent checkpoint =>
    store.LinkedToCheckpoint initial ∧ store.backSyncCheckpoint = some checkpoint
  | .fullSync _ => Settled store initial shutdown
  | .syncBlock frame => ∃ ini, ini.hash = initial ∧ Looking T store ini frame
  | .syncCheck frame => ∃ ini, ini.hash = initial ∧ Passed T store ini frame
  | .syncNext frame => ∃ ini, ini.hash = initial ∧ Passed T store ini frame
  | .syncNextBest _ => False
  | .syncComplete frame => ∃ ini, ini.hash = initial ∧ Connected T store ini frame
  | .syncNotify _ _ => store.LinkedToBest initial
  | .subscribe => Settled store initial shutdown
  | .listen => Settled store initial shutdown
  | .awaitItem => store.LinkedToBest initial
  | .extend block =>
    block ∈ T.blocks ∧ store.LinkedToBest initial ∧ ∃ best, store.best = some best ∧ IsParent best block
  | .catchUp => store.LinkedToBest initial

/-- The part of the invariant that does not depend on the point of the program. -/
structure Base (T : BlockTree) (cfg : IndexerConfig) (s : Indexer) : Prop where
  initial_eq : cfg.startFrom = .hash → s.initialBlockHash = cfg.initialBlockHash
  stored : s.store.StoredIn T
  returned : s.returned ≠ none → Settled s.store s.initialBlockHash s.shutdownFlag

structure Sound (T : BlockTree) (cfg : IndexerConfig) (s : Indexer) : Prop extends Base T cfg s where
  phase : PhaseSound T cfg s.store s.initialBlockHash s.shutdownFlag s.phase

/-- The provider's chain contains the initial block: no other block of it is that low. -/
def Serves (T : BlockTree) (s : Indexer) (block : RskBlock) : Prop :=
  block ∈ T.blocks
    ∧ ∀ ini ∈ T.blocks, ini.hash = s.initialBlockHash → block.number ≤ ini.number → block = ini

/-- The process may end here: the sync has replaced nothing up to the best block, or it has
connected at the best block. -/
def Interruptible (cfg : IndexerConfig) (s : Indexer) : Prop :=
  cfg.startFrom = .hash →
    match s.phase with
    | .syncBlock frame => frame.Untouched
    | .syncCheck frame => frame.Untouched
    | .syncNext frame => frame.Untouched
    | .syncComplete frame => frame.newBlock.hash = frame.storeBestBlock.hash
    | _ => True

/-- The steps of a steady run. The provider serves blocks of the tree, those of one sync along one
chain that contains the initial block, and still knows the parent of a checkpoint that is not above
the best block; and no provider error and no kill ends a sync that has replaced blocks. -/
def Steady (T : BlockTree) (cfg : IndexerConfig) (s : Indexer) : Input → Prop
  | .kill => s.Interruptible cfg
  | .blockByHash answer =>
    match s.phase, answer with
    | .resolveInitial, .ok (some block) => block.hash = cfg.initialBlockHash
    | .initialBlock, .ok (some block) => block ∈ T.blocks ∧ block.hash = s.initialBlockHash
    | .checkpointParent checkpoint, .ok (some parent) =>
      s.Serves T parent ∧ checkpoint.parentHash = parent.hash
    | .checkpointParent checkpoint, .ok none =>
      ∀ best, s.store.best = some best → best.number < checkpoint.number
    | _, _ => True
  | .bestBlock answer =>
    match s.phase, answer with
    | .fullSync _, .ok block => s.Serves T block
    | .catchUp, .ok block => s.Serves T block
    | _, _ => True
  | .blockByNumber answer =>
    match s.phase, answer with
    | .syncNext frame, .ok (some block) =>
      s.Serves T block ∧ frame.newBlock.parentHash = block.hash
    | .syncNext _, .ok none => False
    | .syncNext _, .error _ => s.Interruptible cfg
    | _, _ => True
  | .uncles answer =>
    match s.phase with
    | .syncBlock frame => uncleFails frame.newBlock answer = true → s.Interruptible cfg
    | _ => True
  | .item (.block block) => block ∈ T.blocks
  | _ => True

variable {T : BlockTree} {cfg : IndexerConfig} {s : Indexer}

theorem Settled.of_linkedToBest {shutdown : Bool}
    (h : store.LinkedToBest initial) : Settled store initial shutdown :=
  ⟨h.toCheckpoint, fun _ => h⟩

/-! ## Moving between the points -/

namespace Base

variable (h : Base T cfg s)

include h

theorem goto {phase : Phase}
    (hphase : PhaseSound T cfg s.store s.initialBlockHash s.shutdownFlag phase) :
    Sound T cfg { s with phase := phase } :=
  ⟨⟨h.initial_eq, h.stored, h.returned⟩, hphase⟩

theorem stop (hstore : cfg.startFrom = .hash → Restartable s.store s.initialBlockHash) :
    Sound T cfg s.stop :=
  h.goto hstore

variable (hsettled : Settled s.store s.initialBlockHash s.shutdownFlag)

include hsettled

theorem fullSyncRound (round : Nat) : Sound T cfg (s.fullSyncRound round) := by
  unfold Indexer.fullSyncRound
  split
  · exact h.goto hsettled
  · exact h.stop fun _ => .inr hsettled.1

theorem returnSync (exit : SyncExit) (caller : SyncCaller) :
    Sound T cfg (s.returnSync exit caller) := by
  have hreturned : Base T cfg { s with returned := some (.backwardSync exit) } :=
    ⟨h.initial_eq, h.stored, fun _ => hsettled⟩
  cases caller with
  | resume => exact hreturned.fullSyncRound hsettled 1
  | fullSync round => exact hreturned.fullSyncRound hsettled (round + 1)
  | listen => exact hreturned.goto hsettled

omit hsettled in
theorem backwardSync {start : RskBlock} (hstart : s.Serves T start)
    (hcheckpoint : s.store.LinkedToCheckpoint s.initialBlockHash)
    (hlinked : s.shutdownFlag = false →
      ∃ ini best, ini.hash = s.initialBlockHash ∧ s.store.LinkedUpTo ini best start.number)
    (caller : SyncCaller) : Sound T cfg (s.backwardSync start caller) := by
  unfold Indexer.backwardSync
  split
  · next hshutdown =>
    refine h.returnSync ⟨hcheckpoint, fun hrunning => ?_⟩ _ _
    rw [hshutdown] at hrunning
    cases hrunning
  · next hrunning =>
    obtain ⟨ini, best, hini, hupTo⟩ := hlinked (by simpa using hrunning)
    rw [hupTo.best_eq]
    refine h.goto ⟨ini, hini, hstart.1, hstart.1, hupTo, fun _ => ?_, .inl rfl, ?_⟩
    · rw [hini]
      exact hcheckpoint
    · exact hstart.2 ini (h.stored.canonical _ _ hupTo.initial).1 hini

theorem backwardSync_of_settled {start : RskBlock} (hstart : s.Serves T start)
    (caller : SyncCaller) : Sound T cfg (s.backwardSync start caller) := by
  refine h.backwardSync hstart hsettled.1 (fun hrunning => ?_) caller
  obtain ⟨ini, best, hini, hupTo⟩ := hsettled.2 hrunning
  exact ⟨ini, best, hini, hupTo.mono (Nat.min_le_left _ _)⟩

omit hsettled in
theorem startupBackwardSync (hlinked : s.store.LinkedToCheckpoint s.initialBlockHash) :
    Sound T cfg s.startupBackwardSync := by
  unfold Indexer.startupBackwardSync
  split
  · -- without a checkpoint no sync was interrupted
    next hnone =>
    have hbest : s.store.LinkedToBest s.initialBlockHash := by
      unfold BlockStore.LinkedToCheckpoint at hlinked
      rw [hnone] at hlinked
      exact hlinked
    exact h.fullSyncRound (.of_linkedToBest hbest) 1
  · next checkpoint hsome => exact h.goto ⟨hlinked, hsome⟩

end Base

theorem NextBest.saveAsCanonical (h : NextBest cfg store initial block caller) :
    NextBest cfg (store.saveAsCanonical block) initial block caller := by
  cases caller with
  | initDb => exact h
  | startFromBest => exact h
  | listen =>
    obtain ⟨hlinked, best, hbest, hparent⟩ := h
    refine ⟨hlinked.congr rfl fun best' hbest' n hn => ?_, best, hbest, hparent⟩
    rw [hbest] at hbest'
    cases hbest'
    have hnumber := hparent.1
    rw [canonical_saveAsCanonical, if_neg (by omega)]

theorem NextBest.setBestBlock (h : NextBest cfg store initial block caller)
    (hblock : store.canonical block.number = some block) :
    (store.setBestBlock block).LinkedToBest initial := by
  -- a first block is a chain of its own
  have hfirst : (store.setBestBlock block).LinkedUpTo block block block.number :=
    ⟨rfl, Nat.le_refl _, hblock, (Linked.refl _).mono (Nat.min_le_left _ _), fun _ => hblock⟩
  cases caller with
  | initDb => exact ⟨block, block, h.2.2, hfirst⟩
  | startFromBest => exact ⟨block, block, h.2, hfirst⟩
  | listen =>
    obtain ⟨⟨ini, best', hini, hupTo⟩, best, hbest, hparent⟩ := h
    have hsame : best' = best := Option.some.inj (hupTo.best_eq.symm.trans hbest)
    rw [hsame] at hupTo
    exact ⟨ini, block, hini, hupTo.extend hparent hblock⟩

namespace Sound

variable (h : Sound T cfg s)

include h

theorem here {phase : Phase} (hphase : s.phase = phase) :
    PhaseSound T cfg s.store s.initialBlockHash s.shutdownFlag phase :=
  hphase ▸ h.phase

theorem restartable (hend : s.Interruptible cfg)
    (hhash : cfg.startFrom = .hash) : Restartable s.store s.initialBlockHash := by
  have hend := hend hhash
  cases hp : s.phase with
  | stopped => exact h.here hp hhash
  | resolveInitial => exact h.here hp hhash
  | initialBlock => exact h.here hp hhash
  | saveBest block caller =>
    have hphase := h.here hp
    cases caller with
    | initDb => exact .inl ⟨hphase.2.1, hphase.2.2.1⟩
    | startFromBest =>
      -- only `start_from = "best"` gets here
      have hbest := hphase.2.1
      rw [hhash] at hbest
      cases hbest
    | listen => exact .inr hphase.2.1.toCheckpoint
  | setBest block caller =>
    have hphase := h.here hp
    cases caller with
    | initDb => exact .inl ⟨hphase.2.1.1, hphase.2.1.2.1⟩
    | startFromBest =>
      have hbest := hphase.2.1.1
      rw [hhash] at hbest
      cases hbest
    | listen => exact .inr hphase.2.1.1.toCheckpoint
  | syncBlock frame =>
    -- in a sync the chain up to the best block is still the old one
    obtain ⟨ini, hini, hlooking⟩ := h.here hp
    rw [hp] at hend
    exact .inr (hini ▸ hlooking.untouched hend)
  | syncCheck frame =>
    obtain ⟨ini, hini, hpassed⟩ := h.here hp
    rw [hp] at hend
    exact .inr (hini ▸ hpassed.untouched hend)
  | syncNext frame =>
    obtain ⟨ini, hini, hpassed⟩ := h.here hp
    rw [hp] at hend
    exact .inr (hini ▸ hpassed.untouched hend)
  | syncNextBest frame => exact (h.here hp).elim
  | syncComplete frame =>
    obtain ⟨ini, hini, hconnected⟩ := h.here hp
    rw [hp] at hend
    exact .inr (hini ▸ (hconnected.same hend).toCheckpoint)
  | syncNotify rest caller => exact .inr (h.here hp).toCheckpoint
  | awaitItem => exact .inr (h.here hp).toCheckpoint
  | extend block => exact .inr (h.here hp).2.1.toCheckpoint
  | catchUp => exact .inr (h.here hp).toCheckpoint
  | _ => exact .inr (h.here hp).1

theorem stop_of_interruptible (hend : s.Interruptible cfg) : Sound T cfg s.stop :=
  h.toBase.stop (h.restartable hend)

/-! ## One lemma for each kind of answer -/

theorem onBlockByNumber (hsteady : s.Steady T cfg (.blockByNumber answer)) :
    Sound T cfg (s.onBlockByNumber answer) := by
  unfold Indexer.onBlockByNumber
  split
  · next frame block hphase =>
    simp only [Steady, hphase] at hsteady
    obtain ⟨ini, hini, hpassed⟩ := h.here hphase
    have hroot := hsteady.1.2 ini (h.stored.canonical _ _ hpassed.below.initial).1 hini
    exact h.goto ⟨ini, hini, hpassed.next hsteady.1.1 hsteady.2 hroot⟩
  · next hphase =>
    simp only [Steady, hphase] at hsteady
  · next hphase =>
    simp only [Steady, hphase] at hsteady
    exact h.stop_of_interruptible hsteady
  · exact h

theorem onSubscribed (answer : Outcome Unit) : Sound T cfg (s.onSubscribed answer) := by
  unfold Indexer.onSubscribed
  split
  · next hphase =>
    have hstate := h.here hphase
    have hstop := h.toBase.stop fun _ => .inr hstate.1
    split
    · exact hstop
    · split
      · exact h.goto hstate
      · exact hstop
  · exact h

theorem onNewBlock (hphase : s.phase = .awaitItem) {newBlock : RskBlock}
    (hblock : newBlock ∈ T.blocks) : Sound T cfg (s.onNewBlock newBlock) := by
  have hlinked : s.store.LinkedToBest s.initialBlockHash := h.here hphase
  unfold Indexer.onNewBlock
  split
  · exact h.stop fun _ => .inr hlinked.toCheckpoint
  · next best hbest =>
    simp only
    split
    · next hchild =>
      have hnumber := T.number_parent (h.stored.best _ hbest) hblock hchild
      exact h.goto ⟨hblock, hlinked, best, hbest, hnumber, hchild⟩
    · split
      · exact h.goto hlinked
      · have hsaved : (s.store.saveBlock newBlock).LinkedToBest s.initialBlockHash :=
          hlinked.congr rfl fun _ _ _ _ => rfl
        exact ⟨⟨h.initial_eq, h.stored.congr rfl rfl rfl, fun _ => .of_linkedToBest hsaved⟩,
          .of_linkedToBest hsaved⟩

theorem onItem {item : SubscriptionItem}
    (hsteady : s.Steady T cfg (.item item)) : Sound T cfg (s.onItem item) := by
  unfold Indexer.onItem
  split
  · next hphase => exact h.onNewBlock hphase hsteady
  · next hphase =>
    exact ⟨⟨h.initial_eq, h.stored, fun _ => .of_linkedToBest (h.here hphase)⟩,
      .of_linkedToBest (h.here hphase)⟩
  · next hphase =>
    exact ⟨⟨h.initial_eq, h.stored, fun _ => .of_linkedToBest (h.here hphase)⟩,
      .of_linkedToBest (h.here hphase)⟩
  · next hphase =>
    have hstate := h.here hphase
    have hrestart : cfg.startFrom = .hash → Restartable s.store s.initialBlockHash :=
      fun _ => .inr hstate.toCheckpoint
    split
    · exact ⟨⟨h.initial_eq, h.stored, fun _ => .of_linkedToBest hstate⟩, hrestart⟩
    · exact h.stop hrestart
  · next hphase => exact h.stop fun _ => .inr (h.here hphase).toCheckpoint
  · exact h

/-- The loop never passes the initial block: it connects there. -/
theorem not_at_initial (hphase : s.phase = .syncCheck frame) :
    ¬ (s.initialBlockHash = frame.newBlock.hash ∨ frame.newBlock.number = 0) := by
  obtain ⟨ini, hini, hpassed⟩ := h.here hphase
  have hlt := hpassed.initial_lt
  rintro (hhash | hzero)
  · have hsame := h.stored.initial_eq hpassed.below hpassed.new_mem (hini.trans hhash)
    rw [hsame] at hlt
    exact absurd hlt (Nat.lt_irrefl _)
  · omega

variable (hreturned : s.returned = none)

include hreturned

theorem onStart : Sound T cfg s.onStart := by
  unfold Indexer.onStart
  split
  · next hphase =>
    exact ⟨⟨h.initial_eq, h.stored, fun hr => absurd hreturned hr⟩, h.here hphase⟩
  · exact h

theorem onBlockByHash (hsteady : s.Steady T cfg (.blockByHash answer)) :
    Sound T cfg (s.onBlockByHash cfg answer) := by
  unfold Indexer.onBlockByHash
  split
  · next hphase =>
    split
    · next block hhash =>
      simp only [Steady, hphase] at hsteady
      refine ⟨⟨fun _ => hsteady, h.stored, fun hr => absurd hreturned hr⟩, fun _ => ?_⟩
      -- the configured block is the one the store was built on
      show Restartable s.store block.hash
      rw [hsteady, ← h.initial_eq hhash]
      exact h.here hphase hhash
    · exact h.stop (h.here hphase)
    · exact h
  · next block hphase =>
    simp only [Steady, hphase] at hsteady
    split
    · next hbest => exact h.goto ⟨hsteady.1, hbest, hsteady.2⟩
    · next hhash =>
      split
      · -- a new store
        next hnone =>
        rcases h.here hphase hhash with ⟨_, hcheckpoint⟩ | hlinked
        · exact h.goto ⟨hsteady.1, hnone, hcheckpoint, hsteady.2⟩
        · exact absurd hnone hlinked.best_ne_none
      · next hsome =>
        rcases h.here hphase hhash with ⟨hnone, _⟩ | hlinked
        · rw [hnone] at hsome
          cases hsome
        · exact h.startupBackwardSync hlinked
  · next hphase _ => exact h.stop (h.here hphase)
  · next checkpoint parent hphase =>
    simp only [Steady, hphase] at hsteady
    obtain ⟨hlinked, hcheckpoint⟩ := h.here hphase
    -- the sync resumes at the block below the checkpoint, as far as the chain is linked
    have hnumber :=
      T.number_parent hsteady.1.1 (h.stored.checkpoint _ hcheckpoint) hsteady.2
    refine h.backwardSync hsteady.1 hlinked (fun _ => ?_) _
    obtain ⟨ini, best, hini, hupTo⟩ := hlinked.linkedUpTo hcheckpoint
    exact ⟨ini, best, hini, hupTo.mono (by omega)⟩
  · next checkpoint hphase =>
    -- the checkpoint is given up: nothing below the best block was replaced
    simp only [Steady, hphase] at hsteady
    obtain ⟨hlinked, hcheckpoint⟩ := h.here hphase
    obtain ⟨ini, best, hini, hupTo⟩ := hlinked.linkedUpTo hcheckpoint
    have habove := hsteady best hupTo.best_eq
    exact h.fullSyncRound (.of_linkedToBest ⟨ini, best, hini, hupTo.mono (by omega)⟩) 1
  · next hphase => exact h.stop fun _ => .inr (h.here hphase).1
  · exact h

theorem onBestBlock {answer : Outcome RskBlock} (hsteady : s.Steady T cfg (.bestBlock answer)) :
    Sound T cfg (s.onBestBlock cfg answer) := by
  unfold Indexer.onBestBlock
  split
  · next hphase =>
    -- with `start_from = "best"` nothing is required of the store yet
    split
    · next block hbest =>
      have hnot : ¬ cfg.startFrom = .hash := by
        rw [hbest]
        exact IndexerStartFrom.noConfusion
      exact ⟨⟨fun hhash => absurd hhash hnot, h.stored, fun hr => absurd hreturned hr⟩,
        fun hhash => absurd hhash hnot⟩
    · exact h.stop (h.here hphase)
    · exact h
  · next hphase =>
    simp only [Steady, hphase] at hsteady
    have hstate := h.here hphase
    split
    · exact h.fullSyncRound hstate _
    · split
      · exact h.goto hstate
      · split
        · exact h.goto hstate
        · exact h.backwardSync_of_settled hstate hsteady _
  · next hphase => exact h.stop fun _ => .inr (h.here hphase).1
  · next hphase => exact (h.here hphase).elim
  · next hphase => exact (h.here hphase).elim
  · next hphase =>
    simp only [Steady, hphase] at hsteady
    exact h.backwardSync_of_settled (.of_linkedToBest (h.here hphase)) hsteady _
  · next hphase => exact h.stop fun _ => .inr (h.here hphase).toCheckpoint
  · exact h

theorem onUncles {answer : Nat → Outcome (Option RskBlock)} (hsteady : s.Steady T cfg (.uncles answer)) :
    Sound T cfg (s.onUncles answer) := by
  unfold Indexer.onUncles
  split
  · next frame hphase =>
    simp only [Steady, hphase] at hsteady
    split
    · next hmust =>
      obtain ⟨hcanonical, hbest, hcheckpoint⟩ :=
        processUncleBlocks_fst s.store frame.newBlock answer
      split
      · next store e hresult =>
        rw [hresult] at hcanonical hbest hcheckpoint
        have hfails := uncleFails_of_error hresult
        have hbase : Base T cfg { s with store := store } :=
          ⟨h.initial_eq, h.stored.congr hcanonical hbest hcheckpoint,
            fun hr => absurd hreturned hr⟩
        refine hbase.stop fun hhash => ?_
        exact (h.restartable (hsteady hfails) hhash).congr hcanonical hbest hcheckpoint
      · next store uncles hresult =>
        rw [hresult] at hcanonical hbest hcheckpoint
        obtain ⟨ini, hini, hlooking⟩ := h.here hphase
        have hstored := h.stored.congr hcanonical hbest hcheckpoint
        refine ⟨⟨h.initial_eq, hstored.saveAsCanonical hlooking.new_mem,
          fun hr => absurd hreturned hr⟩, ini, hini, ?_⟩
        exact hlooking.save hmust hcanonical hbest hcheckpoint uncles
    · exact h
  · next block hphase =>
    obtain ⟨hblock, hlinked, best, hbestEq, hparent⟩ := h.here hphase
    obtain ⟨hcanonical, hbest, hcheckpoint⟩ := processUncleBlocks_fst s.store block answer
    split
    · next store e hresult =>
      rw [hresult] at hcanonical hbest hcheckpoint
      have hbase : Base T cfg { s with store := store } :=
        ⟨h.initial_eq, h.stored.congr hcanonical hbest hcheckpoint, fun hr => absurd hreturned hr⟩
      have hlinked : store.LinkedToBest s.initialBlockHash :=
        hlinked.congr hbest fun _ _ n _ => congrFun hcanonical n
      exact hbase.stop fun _ => .inr hlinked.toCheckpoint
    · next store uncles hresult =>
      rw [hresult] at hcanonical hbest hcheckpoint
      have hlinked : store.LinkedToBest s.initialBlockHash :=
        hlinked.congr hbest fun _ _ n _ => congrFun hcanonical n
      refine ⟨⟨h.initial_eq, h.stored.congr hcanonical hbest hcheckpoint,
        fun hr => absurd hreturned hr⟩, hblock, hlinked, best, ?_, hparent⟩
      exact hbest.trans hbestEq
  · exact h

theorem onSyncCheck (hphase : s.phase = .syncCheck frame) : Sound T cfg (s.onSyncCheck frame) := by
  obtain ⟨ini, hini, hpassed⟩ := h.here hphase
  unfold Indexer.onSyncCheck
  split
  · -- the new block is canonical, so what is linked ends right below it
    next hshutdown =>
    have hstored : (s.store.setBackSyncCheckpoint frame.newBlock).StoredIn T := by
      refine ⟨h.stored.canonical, h.stored.best, fun b hb => ?_⟩
      cases hb
      exact hpassed.new_mem
    have hbase : Base T cfg { s with store := s.store.setBackSyncCheckpoint frame.newBlock } :=
      ⟨h.initial_eq, hstored, fun hr => absurd hreturned hr⟩
    refine hbase.returnSync ⟨hini ▸ hpassed.checkpoint, fun hrunning => ?_⟩ _ _
    rw [hshutdown] at hrunning
    cases hrunning
  · rw [if_neg (h.not_at_initial hphase)]
    exact h.goto ⟨ini, hini, hpassed⟩

theorem onKnownBlock (hphase : s.phase = .syncBlock frame) (hknown : ¬ mustStore s.store frame.newBlock = true) :
    Sound T cfg (s.onKnownBlock frame) := by
  obtain ⟨ini, hini, hlooking⟩ := h.here hphase
  unfold Indexer.onKnownBlock
  split
  · next hle =>
    have hstored : s.store.resetBackSyncCheckpoint.StoredIn T :=
      ⟨h.stored.canonical, h.stored.best, fun b hb => by cases hb⟩
    exact ⟨⟨h.initial_eq, hstored, fun hr => absurd hreturned hr⟩, ini, hini,
      hlooking.connect h.stored hknown hle⟩
  · next habove => exact h.goto ⟨ini, hini, hlooking.skip h.stored hknown habove⟩

theorem onSetBest (hphase : s.phase = .setBest block caller) : Sound T cfg (s.onSetBest block caller) := by
  obtain ⟨hblock, hnext, hcanonical⟩ := h.here hphase
  have hlinked := hnext.setBestBlock hcanonical
  have hstored : (s.store.setBestBlock block).StoredIn T := by
    refine ⟨h.stored.canonical, fun b hb => ?_, h.stored.checkpoint⟩
    cases hb
    exact hblock
  have hbase : Base T cfg { s with store := s.store.setBestBlock block } :=
    ⟨h.initial_eq, hstored, fun hr => absurd hreturned hr⟩
  cases caller with
  | initDb => exact hbase.startupBackwardSync hlinked.toCheckpoint
  | startFromBest => exact hbase.goto (.of_linkedToBest hlinked)
  | listen =>
    exact ⟨⟨h.initial_eq, hstored, fun _ => .of_linkedToBest hlinked⟩, .of_linkedToBest hlinked⟩

theorem onTick : Sound T cfg s.onTick := by
  unfold Indexer.onTick
  split
  · next block caller hphase =>
    obtain ⟨hblock, hnext⟩ := h.here hphase
    refine ⟨⟨h.initial_eq, h.stored.saveAsCanonical hblock, fun hr => absurd hreturned hr⟩,
      hblock, hnext.saveAsCanonical, ?_⟩
    rw [canonical_saveAsCanonical, if_pos rfl]
  · next hphase => exact h.onSetBest hreturned hphase
  · next frame hphase =>
    split
    · exact h
    · next hknown => exact h.onKnownBlock hreturned hphase hknown
  · next hphase => exact h.onSyncCheck hreturned hphase
  · next frame hphase =>
    obtain ⟨ini, hini, hconnected⟩ := h.here hphase
    have hstored : (s.store.setBestBlock frame.startingBlock).StoredIn T := by
      refine ⟨h.stored.canonical, fun b hb => ?_, h.stored.checkpoint⟩
      cases hb
      exact hconnected.start_mem
    exact ⟨⟨h.initial_eq, hstored, fun hr => absurd hreturned hr⟩,
      ini, frame.startingBlock, hini, hconnected.linked⟩
  · next hphase => exact h.returnSync (.of_linkedToBest (h.here hphase)) _ _
  · next hphase =>
    have hstate := h.here hphase
    exact ⟨⟨h.initial_eq, h.stored, fun hr => absurd hreturned hr⟩, hstate⟩
  · next hphase =>
    have hstate := h.here hphase
    split
    · exact h.stop fun _ => .inr hstate.1
    · next hrunning => exact h.goto (hstate.2 (by simpa using hrunning))
  · exact h

theorem requestShutdown : Sound T cfg { s with shutdownFlag := true } := by
  refine ⟨⟨h.initial_eq, h.stored, fun hr => absurd hreturned hr⟩, ?_⟩
  have hsettled : Settled s.store s.initialBlockHash s.shutdownFlag →
      Settled s.store s.initialBlockHash true := fun hs => ⟨hs.1, fun hfalse => by cases hfalse⟩
  cases hphase : s.phase with
  | fullSync round => exact hsettled (h.here hphase)
  | subscribe => exact hsettled (h.here hphase)
  | listen => exact hsettled (h.here hphase)
  | _ => exact h.here hphase

end Sound

theorem Sound.step (h : Sound T cfg s) {input : Input} (hsteady : s.Steady T cfg input) :
    Sound T cfg (step cfg s input) := by
  have h : Sound T cfg { s with returned := none } :=
    ⟨⟨h.initial_eq, h.stored, fun hr => absurd rfl hr⟩, h.phase⟩
  cases input with
  | start => exact h.onStart rfl
  | kill => exact h.stop_of_interruptible hsteady
  | requestShutdown => exact h.requestShutdown rfl
  | blockByHash answer => exact h.onBlockByHash rfl hsteady
  | bestBlock answer => exact h.onBestBlock rfl hsteady
  | blockByNumber answer => exact h.onBlockByNumber hsteady
  | uncles answer => exact h.onUncles rfl hsteady
  | subscribed answer => exact h.onSubscribed answer
  | item item => exact h.onItem hsteady
  | tick => exact h.onTick rfl

theorem sound_init (T : BlockTree) (cfg : IndexerConfig) : Sound T cfg (.init cfg) where
  initial_eq := fun _ => rfl
  stored := BlockStore.storedIn_empty T
  returned := fun hr => absurd rfl hr
  phase := fun _ => .inl ⟨rfl, rfl⟩

end Indexer

def smallBlocks : List RskBlock :=
  [block5, block6, block7, block8, fork6, fork7, fork8]

def smallTree : BlockTree where
  blocks := { b | b ∈ smallBlocks }
  hash_inj := by
    have h : ∀ a ∈ smallBlocks, ∀ b ∈ smallBlocks, a.hash = b.hash → a = b := by decide
    exact fun {a b} ha hb => h a ha b hb
  number_parent := by
    have h : ∀ p ∈ smallBlocks, ∀ b ∈ smallBlocks,
        b.parentHash = p.hash → p.number + 1 = b.number := by decide
    exact fun {p b} hp hb => h p hp b hb

theorem serves_smallTree {s : Indexer} (hs : s.initialBlockHash = block5.hash) {b : RskBlock}
    (hb : b ∈ smallTree.blocks) : s.Serves smallTree b := by
  have h : ∀ ini ∈ smallBlocks, ini.hash = block5.hash →
      ∀ b ∈ smallBlocks, b.number ≤ ini.number → b = ini := by decide
  exact ⟨hb, fun ini hini hhash => h ini hini (hhash.trans hs) b hb⟩

theorem not_uncleFails {b : RskBlock} (hb : b.uncles = [])
    (answer : Nat → Outcome (Option RskBlock)) : ¬ uncleFails b answer = true := by
  rw [uncleFails, hb]
  exact Bool.false_ne_true

/-- The indexer meets the fork, and a shutdown is requested when it has replaced block 7. -/
def shutdownDuringReorg : List Input :=
  syncToBlock7 ++ [.item (.block fork8), .bestBlock (.ok fork8), .uncles fun _ => .ok none, .tick,
    .blockByNumber (.ok fork7), .uncles fun _ => .ok none, .requestShutdown, .tick]

/-- The next process resumes at the parent of the checkpoint. -/
def resumedReorg : List Input :=
  shutdownDuringReorg ++ [.tick, .start, .blockByHash (.ok block5), .blockByHash (.ok block5), .blockByHash (.ok fork6),
    .uncles fun _ => .ok none, .tick, .blockByNumber (.ok block5), .tick, .tick, .tick, .tick]

end UnionBridge.BlockIndexer
