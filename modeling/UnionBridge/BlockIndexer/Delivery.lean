import UnionBridge.BlockIndexer.Indexer
import UnionBridge.Lib.Machine

/-!
# Delivery of the indexed blocks

`backward_sync` makes its blocks canonical one by one on the way down and keeps them in memory; they
are sent when it connects. A block that is canonical is not sent again, so a sync that ends any
other way loses what it holds. The invariant is that a canonical block was sent or is held by the
sync that stored it (`Announced`), and a run keeps it as long as no sync is interrupted while it
holds blocks.
-/

namespace UnionBridge.BlockIndexer

open Chain

/-- The blocks that are canonical and wait to be sent. -/
def undelivered : Phase → List RskBlockAndUncles
  | .syncBlock frame => frame.blocksToNotify
  | .syncCheck frame => frame.blocksToNotify
  | .syncNext frame => frame.blocksToNotify
  | .syncNextBest frame => frame.blocksToNotify
  | .syncComplete frame => frame.blocksToNotify
  | .syncNotify rest _ => rest
  | _ => []

/-- The block that `save_as_best_block` is saving. -/
def saving : Phase → Option RskBlock
  | .saveBest block _ => some block
  | .setBest block _ => some block
  | _ => none

namespace Indexer

def Announced (s : Indexer) (block : RskBlock) : Prop :=
  ∃ m ∈ s.sent ++ undelivered s.phase, m.block = block

/-- The input ends a backward sync other than by connecting it, or the process. -/
def interrupts (s : Indexer) (input : Input) : Bool :=
  match input, s.phase with
  | .kill, _ => true
  -- the checkpoint is set, or the initial block is reached
  | .tick, .syncCheck frame =>
    s.shutdownFlag || s.initialBlockHash = frame.newBlock.hash || frame.newBlock.number = 0
  | .blockByNumber (.error _), .syncNext _ => true
  | .bestBlock (.error _), .syncNextBest _ => true
  | .uncles answer, .syncBlock frame =>
    mustStore s.store frame.newBlock && uncleFails frame.newBlock answer
  | _, _ => false

/-- The provider returns the block that has the requested hash. -/
def initialBlockServed (initial : BlockHash) (s : Indexer) (input : Input) : Bool :=
  match input, s.phase with
  | .blockByHash (.ok (some block)), .resolveInitial => block.hash = initial
  | .blockByHash (.ok (some block)), .initialBlock => block.hash = initial
  | _, _ => true

def NothingLost (initial : BlockHash) (s : Indexer) (input : Input) : Prop :=
  s.initialBlockServed initial input = true ∧ (s.interrupts input = true → undelivered s.phase = [])

instance (initial : BlockHash) (s : Indexer) (input : Input) :
    Decidable (s.NothingLost initial input) :=
  inferInstanceAs (Decidable (_ ∧ (_ → _)))

/-- Every canonical block but the initial one was sent or is about to be. -/
structure Delivered (initial : BlockHash) (s : Indexer) : Prop where
  initial_eq : s.initialBlockHash = initial
  canonical : ∀ n block, s.store.canonical n = some block → block.hash = initial ∨ s.Announced block
  being_saved : ∀ block, saving s.phase = some block → block.hash = initial ∨ s.Announced block

variable {initial : BlockHash} {s s' : Indexer}

/-! ## Steps that store nothing -/

theorem Announced.mono {block : RskBlock} (h : s.Announced block) (hsent : s'.sent = s.sent)
    (hphase : undelivered s.phase ⊆ undelivered s'.phase) : s'.Announced block := by
  obtain ⟨m, hm, hblock⟩ := h
  refine ⟨m, ?_, hblock⟩
  rw [hsent]
  rcases List.mem_append.mp hm with hm | hm
  · exact List.mem_append_left _ hm
  · exact List.mem_append_right _ (hphase hm)

namespace Delivered

variable (h : Delivered initial s)

include h

theorem move (hinitial : s'.initialBlockHash = initial)
    (hcanonical : s'.store.canonical = s.store.canonical) (hsent : s'.sent = s.sent)
    (hphase : undelivered s.phase ⊆ undelivered s'.phase) (hsaving : saving s'.phase = none) :
    Delivered initial s' := by
  refine ⟨hinitial, fun n block hblock => ?_, fun block hblock => ?_⟩
  · rw [hcanonical] at hblock
    exact (h.canonical n block hblock).imp_right fun ha => ha.mono hsent hphase
  · rw [hsaving] at hblock
    cases hblock

/-! From a point that holds nothing, the control point moves to one that saves nothing. -/

section Leave

variable (hheld : undelivered s.phase = [])

include hheld

theorem leave {phase : Phase}
    (hsaving : saving phase = none) (r : Option Returned) :
    Delivered initial { s with phase := phase, returned := r } := by
  refine h.move h.initial_eq rfl rfl ?_ hsaving
  rw [hheld]
  exact List.nil_subset _

theorem stop : Delivered initial s.stop :=
  h.leave hheld rfl s.returned

theorem fullSyncRound (round : Nat) : Delivered initial (s.fullSyncRound round) := by
  unfold Indexer.fullSyncRound
  split
  · exact h.leave hheld rfl s.returned
  · exact h.stop hheld

theorem returnSync (exit : SyncExit) (caller : SyncCaller) :
    Delivered initial (s.returnSync exit caller) := by
  have hreturned : Delivered initial { s with returned := some (.backwardSync exit) } :=
    ⟨h.initial_eq, h.canonical, h.being_saved⟩
  cases caller with
  | resume => exact hreturned.fullSyncRound hheld 1
  | fullSync round => exact hreturned.fullSyncRound hheld (round + 1)
  | listen => exact h.leave hheld rfl _

theorem backwardSync (startingBlock : RskBlock) (caller : SyncCaller) :
    Delivered initial (s.backwardSync startingBlock caller) := by
  unfold Indexer.backwardSync
  split
  · exact h.returnSync hheld _ _
  · split
    · exact h.stop hheld
    · exact h.leave hheld rfl s.returned

theorem startupBackwardSync : Delivered initial s.startupBackwardSync := by
  unfold Indexer.startupBackwardSync
  split
  · exact h.fullSyncRound hheld 1
  · exact h.leave hheld rfl s.returned

theorem onNewBlock (newBlock : RskBlock) : Delivered initial (s.onNewBlock newBlock) := by
  unfold Indexer.onNewBlock
  split
  · exact h.stop hheld
  · simp only
    split
    · exact h.leave hheld rfl s.returned
    · split
      · exact h.leave hheld rfl s.returned
      · refine h.move h.initial_eq rfl rfl ?_ rfl
        rw [hheld]
        exact List.nil_subset _

end Leave

/-! ## One lemma for each kind of answer -/

theorem onStart : Delivered initial s.onStart := by
  unfold Indexer.onStart
  split
  · next hphase =>
    refine h.move h.initial_eq rfl rfl ?_ rfl
    rw [hphase]
    exact List.nil_subset _
  · exact h

theorem onBlockByHash {answer : Outcome (Option RskBlock)}
    (hserved : s.initialBlockServed initial (.blockByHash answer) = true) :
    Delivered initial (s.onBlockByHash ⟨.hash, initial⟩ answer) := by
  unfold Indexer.onBlockByHash
  split
  · next hphase =>
    have hheld : undelivered s.phase = [] := by rw [hphase]; rfl
    split
    · next block _ =>
      simp only [initialBlockServed, hphase, decide_eq_true_eq] at hserved
      refine h.move hserved rfl rfl ?_ rfl
      rw [hheld]
      exact List.nil_subset _
    · exact h.stop hheld
    · next hbest => cases hbest
  · next block hphase =>
    have hheld : undelivered s.phase = [] := by rw [hphase]; rfl
    simp only [initialBlockServed, hphase, decide_eq_true_eq] at hserved
    simp only
    split
    · refine ⟨h.initial_eq, fun n b hb => ?_, fun b hb => ?_⟩
      · exact (h.canonical n b hb).imp_right fun ha => ha.mono rfl (by rw [hheld]; exact List.nil_subset _)
      · -- the initial block is never sent
        cases hb
        exact .inl hserved
    · exact h.startupBackwardSync hheld
  · next hphase _ => exact h.stop (by rw [hphase]; rfl)
  · next hphase => exact h.backwardSync (by rw [hphase]; rfl) _ _
  · next hphase => exact h.fullSyncRound (by rw [hphase]; rfl) _
  · next hphase => exact h.stop (by rw [hphase]; rfl)
  · exact h

theorem onBestBlock {answer : Outcome RskBlock}
    (hheld : s.interrupts (.bestBlock answer) = true → undelivered s.phase = []) :
    Delivered initial (s.onBestBlock ⟨.hash, initial⟩ answer) := by
  unfold Indexer.onBestBlock
  split
  · exact h
  · next hphase =>
    have hnone : undelivered s.phase = [] := by rw [hphase]; rfl
    split
    · exact h.fullSyncRound hnone _
    · split
      · exact h.leave hnone rfl s.returned
      · split
        · exact h.leave hnone rfl s.returned
        · exact h.backwardSync hnone _ _
  · next hphase => exact h.stop (by rw [hphase]; rfl)
  · next hphase =>
    refine h.move h.initial_eq rfl rfl ?_ rfl
    rw [hphase]
    exact List.Subset.refl _
  · -- the error drops what the sync holds
    next hphase => exact h.stop (hheld (by simp only [interrupts, hphase]))
  · next hphase => exact h.backwardSync (by rw [hphase]; rfl) _ _
  · next hphase => exact h.stop (by rw [hphase]; rfl)
  · exact h

theorem onBlockByNumber {answer : Outcome (Option RskBlock)}
    (hheld : s.interrupts (.blockByNumber answer) = true → undelivered s.phase = []) :
    Delivered initial (s.onBlockByNumber answer) := by
  unfold Indexer.onBlockByNumber
  split
  · next hphase =>
    refine h.move h.initial_eq rfl rfl ?_ rfl
    rw [hphase]
    exact List.Subset.refl _
  · next hphase =>
    refine h.move h.initial_eq rfl rfl ?_ rfl
    rw [hphase]
    exact List.Subset.refl _
  · next hphase => exact h.stop (hheld (by simp only [interrupts, hphase]))
  · exact h

theorem onSubscribed (answer : Outcome Unit) : Delivered initial (s.onSubscribed answer) := by
  unfold Indexer.onSubscribed
  split
  · next hphase =>
    have hnone : undelivered s.phase = [] := by rw [hphase]; rfl
    split
    · exact h.stop hnone
    · split
      · exact h.leave hnone rfl s.returned
      · exact h.stop hnone
  · exact h

theorem onUncles {answer : Nat → Outcome (Option RskBlock)}
    (hheld : s.interrupts (.uncles answer) = true → undelivered s.phase = []) :
    Delivered initial (s.onUncles answer) := by
  unfold Indexer.onUncles
  split
  · next frame hphase =>
    split
    · next hmust =>
      have hframe := (processUncleBlocks_fst s.store frame.newBlock answer).1
      split
      · -- an uncle could not be fetched: the sync ends and drops what it holds
        next store e hresult =>
        rw [hresult] at hframe
        have hfails := uncleFails_of_error hresult
        refine h.move h.initial_eq hframe rfl ?_ rfl
        rw [hheld (by simp only [interrupts, hphase, hmust, hfails, Bool.and_self])]
        exact List.nil_subset _
      · next store uncles hresult =>
        rw [hresult] at hframe
        have hmono : ∀ {block : RskBlock}, s.Announced block → Announced
            { s with
              store := store.saveAsCanonical frame.newBlock
              phase := .syncCheck { frame with
                blocksToNotify := frame.blocksToNotify ++ [⟨frame.newBlock, uncles⟩] } } block := by
          intro block hblock
          refine hblock.mono rfl ?_
          rw [hphase]
          exact List.subset_append_left _ _
        refine ⟨h.initial_eq, fun n block hblock => ?_, fun block hblock => by cases hblock⟩
        rw [canonical_saveAsCanonical] at hblock
        split at hblock
        · cases hblock
          right
          exact ⟨⟨frame.newBlock, uncles⟩, by simp [undelivered], rfl⟩
        · change store.canonical n = some block at hblock
          rw [hframe] at hblock
          exact (h.canonical n block hblock).imp_right hmono
    · exact h
  · next block hphase =>
    have hframe := (processUncleBlocks_fst s.store block answer).1
    split
    · next store e hresult =>
      rw [hresult] at hframe
      refine h.move h.initial_eq hframe rfl ?_ rfl
      rw [hphase]
      exact List.nil_subset _
    · -- a block that extends the best one is sent before it is saved
      next store uncles hresult =>
      rw [hresult] at hframe
      refine ⟨h.initial_eq, fun n b hb => ?_, fun b hb => ?_⟩
      · change store.canonical n = some b at hb
        rw [hframe] at hb
        rcases h.canonical n b hb with hinitial | ⟨m, hm, hmb⟩
        · exact .inl hinitial
        · rw [hphase] at hm
          refine .inr ⟨m, ?_, hmb⟩
          simp only [undelivered, List.append_nil] at hm ⊢
          exact List.mem_append_left _ hm
      · cases hb
        right
        exact ⟨⟨block, uncles⟩, by simp, rfl⟩
  · exact h

theorem onItem (item : SubscriptionItem) : Delivered initial (s.onItem item) := by
  unfold Indexer.onItem
  split
  · next hphase => exact h.onNewBlock (by rw [hphase]; rfl) _
  · next hphase => exact h.leave (by rw [hphase]; rfl) rfl _
  · next hphase => exact h.leave (by rw [hphase]; rfl) rfl _
  · next hphase =>
    have hnone : undelivered s.phase = [] := by rw [hphase]; rfl
    split
    · exact h.leave hnone rfl _
    · exact h.stop hnone
  · next hphase => exact h.stop (by rw [hphase]; rfl)
  · exact h

theorem onSyncCheck {frame : SyncFrame} (hphase : s.phase = .syncCheck frame)
    (hheld : s.interrupts .tick = true → undelivered s.phase = []) :
    Delivered initial (s.onSyncCheck frame) := by
  simp only [interrupts, hphase, Bool.or_eq_true, decide_eq_true_eq] at hheld
  unfold Indexer.onSyncCheck
  split
  · next hshutdown =>
    have hnone : undelivered s.phase = [] := by rw [hphase]; exact hheld (.inl (.inl hshutdown))
    have hcheckpoint :
        Delivered initial { s with store := s.store.setBackSyncCheckpoint frame.newBlock } :=
      ⟨h.initial_eq, h.canonical, h.being_saved⟩
    exact hcheckpoint.returnSync hnone _ _
  · split
    · next hinitial =>
      have hnone : undelivered s.phase = [] := by
        rw [hphase]
        rcases hinitial with hhash | hzero
        · exact hheld (.inl (.inr hhash))
        · exact hheld (.inr hzero)
      exact h.returnSync hnone _ _
    · refine h.move h.initial_eq rfl rfl ?_ rfl
      rw [hphase]
      exact List.Subset.refl _

theorem onSetBest {block : RskBlock} {caller : SaveCaller}
    (hphase : s.phase = .setBest block caller) : Delivered initial (s.onSetBest block caller) := by
  have hnone : undelivered s.phase = [] := by rw [hphase]; rfl
  have hbest : Delivered initial { s with store := s.store.setBestBlock block } :=
    ⟨h.initial_eq, h.canonical, h.being_saved⟩
  cases caller with
  | initDb => exact hbest.startupBackwardSync hnone
  | startFromBest => exact hbest.leave hnone rfl s.returned
  | listen => exact hbest.leave hnone rfl _

theorem onTick
    (hheld : s.interrupts .tick = true → undelivered s.phase = []) : Delivered initial s.onTick := by
  unfold Indexer.onTick
  split
  · -- the block that is saved was sent before, or is the initial one
    next block caller hphase =>
    have hsaved := h.being_saved block (by rw [hphase]; rfl)
    have hmono : ∀ {b : RskBlock}, s.Announced b → Announced
        { s with
          store := s.store.saveAsCanonical block, phase := .setBest block caller } b := by
      intro b hb
      refine hb.mono rfl ?_
      rw [hphase]
      exact List.nil_subset _
    refine ⟨h.initial_eq, fun n b hb => ?_, fun b hb => ?_⟩
    · rw [canonical_saveAsCanonical] at hb
      split at hb
      · cases hb
        exact hsaved.imp_right hmono
      · exact (h.canonical n b hb).imp_right hmono
    · cases hb
      exact hsaved.imp_right hmono
  · next hphase => exact h.onSetBest hphase
  · next frame hphase =>
    split
    · exact h
    · unfold Indexer.onKnownBlock
      split <;>
      · refine h.move h.initial_eq rfl rfl ?_ rfl
        rw [hphase]
        exact List.Subset.refl _
  · next hphase => exact h.onSyncCheck hphase hheld
  · -- the sync connects: what it holds is sent from now on, in reverse
    next frame hphase =>
    refine h.move h.initial_eq rfl rfl ?_ rfl
    rw [hphase]
    exact fun m hm => List.mem_reverse.mpr hm
  · next hphase => exact h.returnSync (by rw [hphase]; rfl) _ _
  · -- the block moves from the held ones to the sent ones
    next m rest caller hphase =>
    refine ⟨h.initial_eq, fun n b hb => ?_, fun b hb => by cases hb⟩
    refine (h.canonical n b hb).imp_right fun ⟨m', hm', hb'⟩ => ⟨m', ?_, hb'⟩
    rw [hphase] at hm'
    simp only [undelivered, List.append_assoc, List.singleton_append] at hm' ⊢
    exact hm'
  · next hphase =>
    have hnone : undelivered s.phase = [] := by rw [hphase]; rfl
    split
    · exact h.stop hnone
    · exact h.leave hnone rfl s.returned
  · exact h

end Delivered

theorem Delivered.step (h : Delivered initial s) {input : Input}
    (hinput : s.NothingLost initial input) :
    Delivered initial (step ⟨.hash, initial⟩ s input) := by
  obtain ⟨hserved, hheld⟩ := hinput
  have h : Delivered initial { s with returned := none } := ⟨h.initial_eq, h.canonical, h.being_saved⟩
  cases input with
  | start => exact h.onStart
  | kill => exact h.stop (hheld rfl)
  | requestShutdown => exact ⟨h.initial_eq, h.canonical, h.being_saved⟩
  | blockByHash answer => exact h.onBlockByHash hserved
  | bestBlock answer => exact h.onBestBlock hheld
  | blockByNumber answer => exact h.onBlockByNumber hheld
  | uncles answer => exact h.onUncles hheld
  | subscribed answer => exact h.onSubscribed answer
  | item item => exact h.onItem item
  | tick => exact h.onTick hheld

theorem delivered_init (initial : BlockHash) : Delivered initial (.init ⟨.hash, initial⟩) where
  initial_eq := rfl
  canonical := by
    intro n block hblock
    cases hblock
  being_saved := by
    intro block hblock
    cases hblock

end Indexer

/-- **At-least-once delivery** in a run that loses nothing: when the startup sync of a process is
complete, every canonical block but the initial one was sent to the channel. -/
theorem canonical_delivered (initial : BlockHash) (inputs : List Input)
    (hinputs : Machine.Allowed (step ⟨.hash, initial⟩) (Indexer.NothingLost initial)
      (.init ⟨.hash, initial⟩) inputs) :
    let s := Machine.run (step ⟨.hash, initial⟩) (.init ⟨.hash, initial⟩) inputs
    s.phase = .subscribe → ∀ n block, s.store.canonical n = some block → block.hash ≠ initial →
      ∃ m ∈ s.sent, m.block = block := by
  intro s hphase n block hblock hinitial
  have hdelivered : s.Delivered initial :=
    Machine.run_invariant (Indexer.Delivered initial) (fun _ _ h hinput => h.step hinput)
      (Indexer.delivered_init initial) hinputs
  rcases hdelivered.canonical n block hblock with hhash | ⟨m, hm, hblock⟩
  · exact absurd hhash hinitial
  · rw [hphase] at hm
    exact ⟨m, by simpa [undelivered] using hm, hblock⟩

/-- A process that is killed before its first sync, and a second one that syncs. -/
def killedBeforeSync : List Input :=
  [.start, .blockByHash (.ok block5), .blockByHash (.ok block5), .tick, .tick, .kill,
    .start, .blockByHash (.ok block5), .blockByHash (.ok block5), .bestBlock (.ok block7),
    .uncles fun _ => .ok none, .tick, .blockByNumber (.ok block6),
    .uncles fun _ => .ok none, .tick, .blockByNumber (.ok block5), .tick, .tick,
    .tick, .tick, .tick, .bestBlock (.ok block7)]

theorem canonical_delivered_killedBeforeSync :
    let s := Machine.run (step ⟨.hash, 0xa5⟩) (.init ⟨.hash, 0xa5⟩) killedBeforeSync
    s.phase = .subscribe ∧ s.store.best = some block7 ∧ s.store.canonical 7 = some block7
      ∧ ∃ m ∈ s.sent, m.block = block7 := by
  refine ⟨by decide, by decide, by decide, ?_⟩
  exact canonical_delivered 0xa5 killedBeforeSync
    (by unfold killedBeforeSync; simp only [Machine.Allowed]; decide) (by decide) 7 block7 (by decide) (by decide)

/-- Shutdown is requested when the sync has stored block 7; the next process resumes below it. -/
def shutdownDuringSync : List Input :=
  [.start, .blockByHash (.ok block5), .blockByHash (.ok block5), .tick, .tick, .bestBlock (.ok block7),
    .uncles fun _ => .ok none, .requestShutdown, .tick, .bestBlock (.ok block7),
    .subscribed (.ok ()),
    .start, .blockByHash (.ok block5), .blockByHash (.ok block5), .blockByHash (.ok block6),
    .uncles fun _ => .ok none, .tick, .blockByNumber (.ok block5), .tick, .tick, .tick, .tick,
    .bestBlock (.ok block7), .tick, .tick, .blockByNumber (.ok block6), .tick, .tick, .tick,
    .bestBlock (.ok block7)]

/-- Block 7 is the best block and was never sent: the resumed sync sends block 6, and the full sync
skips block 7 as known. -/
theorem block_lost_by_checkpoint :
    let s := Machine.run (step ⟨.hash, 0xa5⟩) (.init ⟨.hash, 0xa5⟩) shutdownDuringSync
    s.phase = .subscribe ∧ s.store.best = some block7 ∧ s.store.canonical 7 = some block7
      ∧ s.sent = [⟨block6, []⟩] := by
  decide

end UnionBridge.BlockIndexer
