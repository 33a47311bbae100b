import UnionBridge.BlockIndexer.CanonicalChain
import UnionBridge.Coordinator.BlockchainTracker

/-!
# The indexer feeding the view

The coordinator feeds its `BlockchainView` with the blocks that the indexer sends. The view wants a
gap-free replay: a block must follow the one below it. `backward_sync` sends the blocks it stores and
skips those it finds stored already, which is a gap when such a block lies above the best one: it is
left over from a longer chain that was abandoned.

In a run without such blocks the view mirrors the canonical chain above the initial block. While a
sync is under way it is behind (`Behind`): it holds the old chain, and the blocks to be sent continue
it from the point where the sync connects.
-/

namespace UnionBridge.Pipeline

open Chain BlockIndexer Coordinator Outcome

variable {ι : Type}

def feedView (ι : Type) (blocks : List RskBlockAndUncles) : Outcome (BlockchainView ι) :=
  blocks.foldlM (fun view block => do
    let (view, _) ← view.update block
    pure view) .new

theorem feedView_append {blocks : List RskBlockAndUncles} {block : RskBlockAndUncles}
    {view view' : BlockchainView ι} {sent : List Notification}
    (hfed : feedView ι blocks = .ok view) (hupdate : view.update block = .ok (view', sent)) :
    feedView ι (blocks ++ [block]) = .ok view' := by
  unfold feedView at hfed ⊢
  rw [List.foldlM_append, hfed]
  show (do let (view, _) ← view.update block; pure view) >>= pure = .ok view'
  rw [hupdate]
  rfl

/-- The view holds a chain above the height `ini` up to `hi`, which below `low` is the canonical one;
the pending blocks are the canonical ones from `low` on, and not those of the view. -/
structure Behind (view : BlockchainView ι) (canonical : Nat → Option RskBlock) (ini hi low : Nat)
    (pending : List RskBlockAndUncles) : Prop where
  range : ∀ e ∈ view.blocks.values, ini < e.number ∧ e.number ≤ hi
  full : ∀ n, ini < n → n ≤ hi → ∃ e ∈ view.blocks.values, e.number = n
  same : ∀ e ∈ view.blocks.values, e.number < low → canonical e.number = some e.block
  fresh : ∀ m ∈ pending, ∀ e ∈ view.blocks.values, e.number = m.number → e.hash ≠ m.hash
  stored : ∀ m ∈ pending, canonical m.number = some m.block
  numbers : pending.map RskBlockAndUncles.number = List.range' low pending.length
  small : ∀ m ∈ pending, m.number ≤ hi → m.number + 1 < 2 ^ 64

namespace Behind

variable {view : BlockchainView ι} {canonical canonical' : Nat → Option RskBlock}
  {ini hi low : Nat} {pending rest : List RskBlockAndUncles} {m : RskBlockAndUncles}

theorem low_le_number (h : Behind view canonical ini hi low pending) (hm : m ∈ pending) :
    low ≤ m.number := by
  have hmem : m.number ∈ pending.map RskBlockAndUncles.number := List.mem_map_of_mem hm
  rw [h.numbers] at hmem
  exact (List.mem_range'_1.mp hmem).1

theorem number_head (h : Behind view canonical ini hi low (m :: rest)) : m.number = low := by
  have hnumbers := h.numbers
  rw [List.map_cons, List.length_cons, List.range'_succ] at hnumbers
  exact (List.cons.inj hnumbers).1

theorem send (h : Behind view canonical ini hi low (m :: rest)) (hhi : low ≤ hi + 1)
    (hini : ini < low) (hlink : ini < low - 1 → LinkedAt IsChild canonical (low - 1)) :
    ∃ view' sent, view.update m = .ok (view', sent)
      ∧ Behind view' canonical ini low (low + 1) rest := by
  have hm := h.number_head
  have hknown : view.isKnown m = false := by
    unfold BlockchainView.isKnown
    split
    · rfl
    · next e he =>
      obtain ⟨he, hnumber⟩ := KeyedMap.get_eq_some he
      simpa using h.fresh m List.mem_cons_self e he hnumber
  have hparent : ∀ p, (view.blocks.below m.number).last = some p → IsParent p.block m.block := by
    intro p hp
    obtain ⟨hpView, hpLow⟩ := KeyedMap.mem_below.mp (KeyedMap.mem_of_last hp)
    have hpRange := h.range p hpView
    rw [hm] at hp hpLow
    -- the view is full, so the last block below is the one right below
    obtain ⟨e, he, heNumber⟩ := h.full (low - 1) (by omega) (by omega)
    have hle := KeyedMap.key_le_of_last hp (KeyedMap.mem_below.mpr ⟨he, by omega⟩)
    have hpNumber : p.number = low - 1 := by omega
    obtain ⟨a, b, ha, hb, hab⟩ := hlink (by omega)
    rw [show low - 1 + 1 = low by omega] at hb
    have hpa := h.same p hpView hpLow
    have hmb := h.stored m List.mem_cons_self
    rw [hpNumber, ha] at hpa
    rw [hm, hb] at hmb
    cases hpa
    cases hmb
    have hsucc : p.number + 1 = m.number := by omega
    exact ⟨hsucc, hab⟩
  have hsmall : ∀ tip, view.getTip = some tip → m.number ≤ tip.number → m.number + 1 < 2 ^ 64 := by
    intro tip htip hle
    have htip := (h.range tip (KeyedMap.mem_of_last htip)).2
    exact h.small m List.mem_cons_self (by omega)
  obtain ⟨view', sent, hupdate, hvalues⟩ := BlockchainView.update_of_parent hknown hparent hsmall
  -- nothing from its height on is left of the old chain
  have hmem : ∀ e ∈ view'.blocks.values, e = m ∨ e ∈ view.blocks.values ∧ e.number < low := by
    intro e he
    rw [hvalues, hm] at he
    rcases List.mem_append.mp he with he | he
    · exact .inr (KeyedMap.mem_below.mp he)
    · exact .inl (List.mem_singleton.mp he)
  have hnumbers := h.numbers
  rw [List.map_cons, List.length_cons, List.range'_succ] at hnumbers
  have hrest := (List.cons.inj hnumbers).2
  have habove : ∀ m' ∈ rest, low + 1 ≤ m'.number := by
    intro m' hm'
    have hmem' : m'.number ∈ rest.map RskBlockAndUncles.number := List.mem_map_of_mem hm'
    rw [hrest] at hmem'
    exact (List.mem_range'_1.mp hmem').1
  refine ⟨view', sent, hupdate, ?_, ?_, ?_, ?_, ?_, hrest, ?_⟩
  · intro e he
    rcases hmem e he with rfl | ⟨he, hlt⟩
    · omega
    · have := h.range e he
      omega
  · intro n hn hle
    by_cases hnlow : n = low
    · exact ⟨m, by rw [hvalues]; simp, by omega⟩
    · obtain ⟨e, he, hen⟩ := h.full n hn (by omega)
      refine ⟨e, ?_, hen⟩
      rw [hvalues]
      exact List.mem_append_left _ (KeyedMap.mem_below.mpr ⟨he, by omega⟩)
  · intro e he _
    rcases hmem e he with rfl | ⟨he, hlt⟩
    · exact h.stored _ List.mem_cons_self
    · exact h.same e he hlt
  · intro m' hm' e he heNumber
    have hlow' := habove m' hm'
    rcases hmem e he with rfl | ⟨he, hlt⟩ <;> omega
  · exact fun m' hm' => h.stored m' (List.mem_cons_of_mem _ hm')
  · intro m' hm' hle
    have hlow' := habove m' hm'
    omega

theorem lower (h : Behind view canonical ini hi (hi + 1) []) (low : Nat) :
    Behind view canonical ini hi low [] where
  range := h.range
  full := h.full
  same := fun e he _ => h.same e he (Nat.lt_succ_of_le (h.range e he).2)
  fresh := fun _ hm => by cases hm
  stored := fun _ hm => by cases hm
  numbers := rfl
  small := fun _ hm => by cases hm

theorem push {x : RskBlock} (h : Behind view canonical ini hi (x.number + 1) pending)
    (hother : x.number ≤ hi → ∀ b, canonical x.number = some b → b.hash ≠ x.hash)
    (hsmall : x.number ≤ hi → x.number + 1 < 2 ^ 64)
    (hcanonical : ∀ n, canonical' n = if n = x.number then some x else canonical n)
    (uncles : List RskBlock) :
    Behind view canonical' ini hi x.number (⟨x, uncles⟩ :: pending) where
  range := h.range
  full := h.full
  same := by
    intro e he hlt
    rw [hcanonical, if_neg (Nat.ne_of_lt hlt)]
    exact h.same e he (Nat.lt_succ_of_lt hlt)
  fresh := by
    intro m hm e he hnumber
    rcases List.mem_cons.mp hm with rfl | hm
    · -- the view has the old canonical block there
      have hnumber : e.number = x.number := hnumber
      have hhi := (h.range e he).2
      have hold := h.same e he (by omega)
      rw [hnumber] at hold
      exact hother (by omega) e.block hold
    · exact h.fresh m hm e he hnumber
  stored := by
    intro m hm
    rcases List.mem_cons.mp hm with rfl | hm
    · exact (hcanonical _).trans (if_pos rfl)
    · have hlow := h.low_le_number hm
      rw [hcanonical, if_neg (by omega)]
      exact h.stored m hm
  numbers := by
    rw [List.map_cons, List.length_cons, List.range'_succ, h.numbers]
    rfl
  small := by
    intro m hm hle
    rcases List.mem_cons.mp hm with rfl | hm
    · exact hsmall hle
    · exact h.small m hm hle

end Behind

/-! ## The view at each point of the indexer -/

/-- The view is the canonical chain above the initial block, up to the best block. -/
def Mirrors (T : BlockTree) (view : BlockchainView ι) (store : BlockStore) (initial : BlockHash) :
    Prop :=
  ∃ ini best, ini ∈ T.blocks ∧ ini.hash = initial ∧ store.best = some best
    ∧ Behind view store.canonical ini.number best.number (best.number + 1) []

/-- During a sync: the blocks to notify, in ascending order, are pending from the height `low`. -/
structure Catching (view : BlockchainView ι) (store : BlockStore) (ini : RskBlock)
    (frame : SyncFrame) (low : Nat) : Prop where
  behind : Behind view store.canonical ini.number frame.storeBestBlock.number low
    frame.blocksToNotify.reverse
  length : low + frame.blocksToNotify.length = frame.startingBlock.number + 1

/-- The block is a canonical one that was left behind above the best block. -/
def leftBehind (store : BlockStore) (block : RskBlock) : Bool :=
  decide (store.canonical block.number = some block)
    && store.best.any fun best => best.number < block.number

/-- The block is a canonical one below the best block. -/
def belowBest (store : BlockStore) (block : RskBlock) : Bool :=
  decide (store.canonical block.number = some block)
    && store.best.any fun best => block.number < best.number

/-- What a block must be for a sync to start at it or to go on with it. -/
structure Visitable (store : BlockStore) (block : RskBlock) : Prop where
  notLeftBehind : leftBehind store block = false
  small : block.number + 1 < 2 ^ 64

theorem Visitable.number_le {store : BlockStore} {block best : RskBlock}
    (h : Visitable store block) (hbest : store.best = some best)
    (hblock : store.canonical block.number = some block) : block.number ≤ best.number := by
  have hleft := h.notLeftBehind
  rw [leftBehind, decide_eq_true hblock, hbest] at hleft
  simpa using hleft

theorem le_number_of_belowBest {store : BlockStore} {block best : RskBlock}
    (h : belowBest store block = false) (hbest : store.best = some best)
    (hblock : store.canonical block.number = some block) : best.number ≤ block.number := by
  rw [belowBest, decide_eq_true hblock, hbest] at h
  simpa using h

/-- What the view holds at each point of the program. -/
def PhaseView (T : BlockTree) (view : BlockchainView ι) (store : BlockStore) (initial : BlockHash) :
    Phase → Prop
  | .stopped => store.best = none → view.blocks.values = []
  | .resolveInitial => store.best = none ∧ view.blocks.values = []
  | .initialBlock => store.best = none ∧ view.blocks.values = []
  | .saveBest block .listen =>
    ∃ ini ∈ T.blocks, ini.hash = initial ∧ Behind view (store.saveAsCanonical block).canonical
      ini.number block.number (block.number + 1) []
  | .saveBest _ _ => view.blocks.values = []
  | .setBest block .listen =>
    ∃ ini ∈ T.blocks, ini.hash = initial
      ∧ Behind view store.canonical ini.number block.number (block.number + 1) []
  | .setBest _ _ => view.blocks.values = []
  | .checkpointParent _ => False
  | .syncBlock frame =>
    Visitable store frame.newBlock
      ∧ (frame.blocksToNotify = [] → belowBest store frame.newBlock = false)
      ∧ ∃ ini ∈ T.blocks, ini.hash = initial
        ∧ Catching view store ini frame (frame.newBlock.number + 1)
  | .syncCheck frame =>
    frame.blocksToNotify ≠ []
      ∧ ∃ ini ∈ T.blocks, ini.hash = initial ∧ Catching view store ini frame frame.newBlock.number
  | .syncNext frame =>
    frame.blocksToNotify ≠ []
      ∧ ∃ ini ∈ T.blocks, ini.hash = initial ∧ Catching view store ini frame frame.newBlock.number
  | .syncNextBest _ => False
  | .syncComplete frame =>
    frame.newBlock.number ≤ frame.storeBestBlock.number
      ∧ (frame.blocksToNotify = [] → frame.storeBestBlock.number ≤ frame.newBlock.number)
      ∧ ∃ ini ∈ T.blocks, ini.hash = initial ∧ ini.number ≤ frame.newBlock.number
        ∧ Catching view store ini frame (frame.newBlock.number + 1)
  | .syncNotify rest _ =>
    ∃ ini best hi low, ini ∈ T.blocks ∧ ini.hash = initial ∧ store.best = some best
      ∧ Behind view store.canonical ini.number hi low rest ∧ ini.number < low ∧ low ≤ hi + 1
      ∧ low + rest.length = best.number + 1 ∧ (rest = [] → hi = best.number)
  | _ => Mirrors T view store initial

structure Follows (T : BlockTree) (s : Indexer) (view : BlockchainView ι) : Prop where
  running : s.shutdownFlag = false
  fed : feedView ι s.sent = .ok view
  phase : PhaseView T view s.store s.initialBlockHash s.phase
  returned : s.returned ≠ none → Mirrors T view s.store s.initialBlockHash

/-- The steps of a run whose blocks can be replayed: it is steady, there is one process without a
shutdown, and no sync visits a block that was left behind or starts below the best block. -/
def Replayable (T : BlockTree) (cfg : IndexerConfig) (s : Indexer) (input : Input) : Prop :=
  s.Steady T cfg input ∧
    match input with
    | .start => s.store.best = none
    | .kill => False
    | .requestShutdown => False
    | .bestBlock (.ok block) =>
      match s.phase with
      | .fullSync _ => Visitable s.store block ∧ belowBest s.store block = false
      | .catchUp => Visitable s.store block ∧ belowBest s.store block = false
      | _ => True
    | .blockByNumber (.ok (some block)) =>
      match s.phase with
      | .syncNext _ => Visitable s.store block
      | _ => True
    | _ => True

section Steps

variable {T : BlockTree} {cfg : IndexerConfig} {s : Indexer} {view : BlockchainView ι}

theorem Mirrors.best_ne_none {store : BlockStore} {initial : BlockHash}
    (h : Mirrors T view store initial) : store.best ≠ none := by
  obtain ⟨_, _, _, _, hbest, _⟩ := h
  rw [hbest]
  exact Option.some_ne_none _

theorem Mirrors.congr {store store' : BlockStore} {initial : BlockHash}
    (h : Mirrors T view store initial) (hcanonical : store'.canonical = store.canonical)
    (hbest : store'.best = store.best) : Mirrors T view store' initial := by
  unfold Mirrors at h ⊢
  rw [hcanonical, hbest]
  exact h

namespace Follows

variable (h : Follows T s view)

include h

theorem not_shutdown : ¬ s.shutdownFlag = true := by
  rw [h.running]
  exact Bool.false_ne_true

theorem here {phase : Phase} (hphase : s.phase = phase) :
    PhaseView T view s.store s.initialBlockHash phase :=
  hphase ▸ h.phase

theorem goto {phase : Phase} (hphase : PhaseView T view s.store s.initialBlockHash phase) :
    Follows T { s with phase := phase } view :=
  ⟨h.running, h.fed, hphase, h.returned⟩

theorem stop (hbest : s.store.best = none → view.blocks.values = []) : Follows T s.stop view :=
  h.goto hbest

section Mirrored

variable (hview : Mirrors T view s.store s.initialBlockHash)

include hview

theorem stop_of_mirrors : Follows T s.stop view :=
  h.stop fun hnone => absurd hnone hview.best_ne_none

theorem fullSyncRound (round : Nat) : Follows T (s.fullSyncRound round) view := by
  unfold Indexer.fullSyncRound
  split
  · exact h.goto hview
  · exact h.stop_of_mirrors hview

theorem returnSync (exit : SyncExit) (caller : SyncCaller) :
    Follows T (s.returnSync exit caller) view := by
  have hreturned : Follows T { s with returned := some (.backwardSync exit) } view :=
    ⟨h.running, h.fed, h.phase, fun _ => hview⟩
  cases caller with
  | resume => exact hreturned.fullSyncRound hview 1
  | fullSync round => exact hreturned.fullSyncRound hview (round + 1)
  | listen => exact hreturned.goto hview

theorem backwardSync {start : RskBlock} (hstart : Visitable s.store start ∧ belowBest s.store start = false)
    (caller : SyncCaller) : Follows T (s.backwardSync start caller) view := by
  unfold Indexer.backwardSync
  rw [if_neg h.not_shutdown]
  obtain ⟨ini, best, hmem, hini, hbest, hbehind⟩ := hview
  rw [hbest]
  exact h.goto ⟨hstart.1, fun _ => hstart.2, ini, hmem, hini, hbehind.lower _, rfl⟩

theorem onNewBlock (newBlock : RskBlock) : Follows T (s.onNewBlock newBlock) view := by
  unfold Indexer.onNewBlock
  split
  · exact h.stop_of_mirrors hview
  · simp only
    split
    · exact h.goto hview
    · split
      · exact h.goto hview
      · have hsaved : Mirrors T view (s.store.saveBlock newBlock) s.initialBlockHash :=
          hview.congr rfl rfl
        exact ⟨h.running, h.fed, hsaved, fun _ => hsaved⟩

end Mirrored

theorem onSubscribed (answer : Outcome Unit) : Follows T (s.onSubscribed answer) view := by
  unfold Indexer.onSubscribed
  split
  · next hphase =>
    have hview : Mirrors T view s.store s.initialBlockHash := h.here hphase
    have hstop := h.stop_of_mirrors hview
    split
    · exact hstop
    · split
      · exact h.goto hview
      · exact hstop
  · exact h

theorem onItem (item : SubscriptionItem) : Follows T (s.onItem item) view := by
  unfold Indexer.onItem
  split
  · next hphase => exact h.onNewBlock (h.here hphase) _
  · next hphase =>
    have hstate := h.here hphase
    exact ⟨h.running, h.fed, hstate, fun _ => hstate⟩
  · next hphase =>
    have hstate := h.here hphase
    exact ⟨h.running, h.fed, hstate, fun _ => hstate⟩
  · next hphase =>
    rw [if_neg h.not_shutdown]
    exact h.stop_of_mirrors (h.here hphase)
  · next hphase => exact h.stop_of_mirrors (h.here hphase)
  · exact h

variable (hreturned : s.returned = none)

include hreturned

theorem onStart (hnew : s.store.best = none) : Follows T s.onStart view := by
  unfold Indexer.onStart
  split
  · next hphase =>
    exact ⟨rfl, h.fed, ⟨hnew, h.here hphase hnew⟩, fun hr => absurd hreturned hr⟩
  · exact h

theorem onBlockByHash (answer : Outcome (Option RskBlock)) : Follows T (s.onBlockByHash cfg answer) view := by
  unfold Indexer.onBlockByHash
  split
  · next hphase =>
    have hstate := h.here hphase
    split
    · exact ⟨h.running, h.fed, hstate, fun hr => absurd hreturned hr⟩
    · exact h.stop fun _ => hstate.2
    · exact h
  · next block hphase =>
    obtain ⟨hnone, hempty⟩ := h.here hphase
    split
    · exact h.goto hempty
    · rw [hnone]
      exact h.goto hempty
  · next hphase _ => exact h.stop fun _ => (h.here hphase).2
  · next hphase => exact (h.here hphase).elim
  · next hphase => exact (h.here hphase).elim
  · next hphase => exact (h.here hphase).elim
  · exact h

theorem onBestBlock {answer : Outcome RskBlock} (hreplay : Replayable T cfg s (.bestBlock answer)) :
    Follows T (s.onBestBlock cfg answer) view := by
  unfold Indexer.onBestBlock
  split
  · next hphase =>
    have hstate := h.here hphase
    split
    · exact ⟨h.running, h.fed, hstate, fun hr => absurd hreturned hr⟩
    · exact h.stop fun _ => hstate.2
    · exact h
  · next hphase =>
    have hvisit := hreplay.2
    simp only [hphase] at hvisit
    have hview : Mirrors T view s.store s.initialBlockHash := h.here hphase
    split
    · exact h.fullSyncRound hview _
    · split
      · exact h.goto hview
      · split
        · exact h.goto hview
        · exact h.backwardSync hview hvisit _
  · next hphase => exact h.stop_of_mirrors (h.here hphase)
  · next hphase => exact (h.here hphase).elim
  · next hphase => exact (h.here hphase).elim
  · next hphase =>
    have hvisit := hreplay.2
    simp only [hphase] at hvisit
    exact h.backwardSync (h.here hphase) hvisit _
  · next hphase => exact h.stop_of_mirrors (h.here hphase)
  · exact h

variable (hsound : s.Sound T cfg)

include hsound

omit hreturned in
theorem onBlockByNumber {answer : Outcome (Option RskBlock)} (hreplay : Replayable T cfg s (.blockByNumber answer)) :
    Follows T (s.onBlockByNumber answer) view := by
  unfold Indexer.onBlockByNumber
  split
  · next frame block hphase =>
    obtain ⟨hsteady, hvisit⟩ := hreplay
    simp only [hphase] at hvisit
    simp only [Indexer.Steady, hphase] at hsteady
    obtain ⟨hsome, ini, hmem, hini, hcatching⟩ := h.here hphase
    obtain ⟨_, _, hpassed⟩ := hsound.here hphase
    have hnumber := T.number_parent hsteady.1.1 hpassed.new_mem hsteady.2
    -- the pending blocks start one above the parent
    refine h.goto ⟨hvisit, fun hnone => absurd hnone hsome, ini, hmem, hini, ?_⟩
    show Catching view s.store ini { frame with newBlock := block } (block.number + 1)
    rw [hnumber]
    exact ⟨hcatching.behind, hcatching.length⟩
  · next hphase =>
    have hsteady := hreplay.1
    simp only [Indexer.Steady, hphase] at hsteady
  · next frame e hphase =>
    obtain ⟨_, _, hpassed⟩ := hsound.here hphase
    refine h.stop fun hnone => ?_
    rw [hpassed.below.best_eq] at hnone
    cases hnone
  · exact h

omit hreturned in
theorem onSyncCheck {frame : SyncFrame}
    (hphase : s.phase = .syncCheck frame) : Follows T (s.onSyncCheck frame) view := by
  have hstate := h.here hphase
  unfold Indexer.onSyncCheck
  rw [if_neg h.not_shutdown, if_neg (hsound.not_at_initial hphase)]
  exact h.goto hstate

theorem extend {block : RskBlock} (hphase : s.phase = .extend block) {store : BlockStore}
    (hcanonical : store.canonical = s.store.canonical) (uncles : List RskBlock) :
    ∃ view' : BlockchainView ι, Follows T { s with
      store := store, sent := s.sent ++ [⟨block, uncles⟩]
      phase := .saveBest block .listen } view' := by
  obtain ⟨ini, best, hmem, hini, hbest, hbehind⟩ := h.here hphase
  obtain ⟨_, ⟨ini', best', hini', hupTo⟩, best'', hbest'', hparent⟩ := hsound.here hphase
  obtain rfl : best' = best := Option.some.inj (hupTo.best_eq.symm.trans hbest)
  obtain rfl : best'' = best' := Option.some.inj (hbest''.symm.trans hbest)
  obtain rfl := hsound.stored.initial_eq hupTo hmem (hini'.trans hini.symm)
  have hnumber : best''.number + 1 = block.number := hparent.1
  have hinitial := hupTo.initial_le
  -- the view already holds the best block, so only the new one is pending
  have hpush : Behind view (store.saveAsCanonical block).canonical ini'.number best''.number
      block.number [⟨block, uncles⟩] := by
    refine (hbehind.lower (block.number + 1)).push (by omega) (by omega) (fun n => ?_) uncles
    rw [canonical_saveAsCanonical, hcanonical]
  have hlink : LinkedAt IsChild (store.saveAsCanonical block).canonical (block.number - 1) := by
    rw [show block.number - 1 = best''.number by omega]
    refine ⟨best'', block, ?_, ?_, hparent.2⟩
    · rw [canonical_saveAsCanonical, if_neg (by omega), hcanonical]
      exact hupTo.top (Nat.le_refl _)
    · rw [hnumber, canonical_saveAsCanonical, if_pos rfl]
  obtain ⟨view', sent, hupdate, hbehind'⟩ := hpush.send (by omega) (by omega) fun _ => hlink
  exact ⟨view', h.running, feedView_append h.fed hupdate, ⟨ini', hmem, hini, hbehind'⟩,
    fun hr => absurd hreturned hr⟩

theorem onUncles (answer : Nat → Outcome (Option RskBlock)) :
    ∃ view' : BlockchainView ι, Follows T (s.onUncles answer) view' := by
  unfold Indexer.onUncles
  split
  · next frame hphase =>
    obtain ⟨hvisit, _, ini, hmem, hini, hcatching⟩ := h.here hphase
    obtain ⟨_, _, hlooking⟩ := hsound.here hphase
    split
    · next hmust =>
      obtain ⟨hcanonical, hbest, _⟩ := processUncleBlocks_fst s.store frame.newBlock answer
      split
      · next store e hresult =>
        rw [hresult] at hbest
        refine ⟨view, h.running, h.fed, fun hnone => ?_, fun hr => absurd hreturned hr⟩
        have hnone := hbest.symm.trans hnone
        rw [hlooking.below.best_eq] at hnone
        cases hnone
      · next store uncles hresult =>
        rw [hresult] at hcanonical
        have hother : ∀ b, s.store.canonical frame.newBlock.number = some b →
            b.hash ≠ frame.newBlock.hash := by
          intro b hb
          rw [Indexer.mustStore, hb] at hmust
          simpa using hmust
        have hsaved : ∀ n, (store.saveAsCanonical frame.newBlock).canonical n
            = if n = frame.newBlock.number then some frame.newBlock else s.store.canonical n := by
          intro n
          rw [canonical_saveAsCanonical, ← hcanonical]
        have hpush := hcatching.behind.push (fun _ => hother) (fun _ => hvisit.small) hsaved uncles
        refine ⟨view, h.running, h.fed, ⟨by simp, ini, hmem, hini, ?_, ?_⟩,
          fun hr => absurd hreturned hr⟩
        · rw [List.reverse_append]
          exact hpush
        · have hlength := hcatching.length
          simp only [List.length_append, List.length_singleton]
          omega
    · exact ⟨view, h⟩
  · next block hphase =>
    obtain ⟨hcanonical, hbest, _⟩ := processUncleBlocks_fst s.store block answer
    split
    · next store e hresult =>
      rw [hresult] at hbest
      refine ⟨view, h.running, h.fed, fun hnone => ?_, fun hr => absurd hreturned hr⟩
      exact absurd (hbest.symm.trans hnone) (Mirrors.best_ne_none (h.here hphase))
    · next store uncles hresult =>
      rw [hresult] at hcanonical
      exact h.extend hreturned hsound hphase hcanonical uncles
  · exact ⟨view, h⟩

theorem onKnownBlock {frame : SyncFrame} (hphase : s.phase = .syncBlock frame)
    (hknown : ¬ Indexer.mustStore s.store frame.newBlock = true) :
    Follows T (s.onKnownBlock frame) view := by
  obtain ⟨hvisit, hstart, ini, hmem, hini, hcatching⟩ := h.here hphase
  obtain ⟨ini', hini', hlooking⟩ := hsound.here hphase
  obtain rfl := hsound.stored.initial_eq hlooking.below hmem (hini'.trans hini.symm)
  have hnew := hsound.stored.canonical_of_known hlooking.new_mem hknown
  have hle := hvisit.number_le hlooking.below.best_eq hnew
  have hinitial := hlooking.initial_le
  unfold Indexer.onKnownBlock
  rw [if_pos hle]
  refine ⟨h.running, h.fed, ⟨hle, fun hnone => ?_, ini', hmem, hini, hinitial, ?_⟩,
    fun hr => absurd hreturned hr⟩
  · exact le_number_of_belowBest (hstart hnone) hlooking.below.best_eq hnew
  · exact ⟨hcatching.behind, hcatching.length⟩

theorem onSetBest {block : RskBlock} {caller : SaveCaller} (hphase : s.phase = .setBest block caller) :
    Follows T (s.onSetBest block caller) view := by
  have hstate := h.here hphase
  obtain ⟨hblock, hnext, _⟩ := hsound.here hphase
  -- before the first sync the view is empty
  have hfirst : view.blocks.values = [] → block.hash = s.initialBlockHash →
      Mirrors T view (s.store.setBestBlock block) s.initialBlockHash := by
    intro hempty hhash
    refine ⟨block, block, hblock, hhash, rfl, ?_, ?_, ?_, ?_, ?_, rfl, ?_⟩
    · rw [hempty]
      exact fun e he => by cases he
    · exact fun n hn hle => by omega
    · rw [hempty]
      exact fun e he => by cases he
    · exact fun m hm => by cases hm
    · exact fun m hm => by cases hm
    · exact fun m hm => by cases hm
  cases caller with
  | initDb =>
    have hview := hfirst hstate hnext.2.2
    have hbest : Follows T { s with
        store := s.store.setBestBlock block, phase := .fullSync 1 } view :=
      ⟨h.running, h.fed, hview, fun hr => absurd hreturned hr⟩
    show Follows T (Indexer.startupBackwardSync { s with store := s.store.setBestBlock block }) view
    have hnone : (s.store.setBestBlock block).backSyncCheckpoint = none := hnext.2.1
    unfold Indexer.startupBackwardSync
    rw [hnone]
    exact hbest
  | startFromBest =>
    exact ⟨h.running, h.fed, hfirst hstate hnext.2, fun hr => absurd hreturned hr⟩
  | listen =>
    obtain ⟨ini, hmem, hini, hbehind⟩ := hstate
    have hview : Mirrors T view (s.store.setBestBlock block) s.initialBlockHash :=
      ⟨ini, block, hmem, hini, rfl, hbehind⟩
    exact ⟨h.running, h.fed, hview, fun _ => hview⟩

theorem notify {m : RskBlockAndUncles} {rest : List RskBlockAndUncles} {caller : SyncCaller}
    (hphase : s.phase = .syncNotify (m :: rest) caller) :
    ∃ view' : BlockchainView ι, Follows T { s with
      sent := s.sent ++ [m], phase := .syncNotify rest caller } view' := by
  obtain ⟨ini, best, hi, low, hmem, hini, hbest, hbehind, hinitial, hlow, hlength, _⟩ := h.here hphase
  obtain ⟨ini', best', hini', hupTo⟩ := hsound.here hphase
  obtain rfl : best' = best := Option.some.inj (hupTo.best_eq.symm.trans hbest)
  obtain rfl := hsound.stored.initial_eq hupTo hmem (hini'.trans hini.symm)
  rw [List.length_cons] at hlength
  -- the pending block stands on the canonical chain, which is linked
  have hlink : LinkedAt IsChild s.store.canonical (low - 1) :=
    hupTo.linked (low - 1) (by omega) (by omega)
  obtain ⟨view', sent, hupdate, hbehind'⟩ := hbehind.send hlow hinitial fun _ => hlink
  refine ⟨view', h.running, feedView_append h.fed hupdate, ?_, fun hr => absurd hreturned hr⟩
  refine ⟨ini', best', low, low + 1, hmem, hini, hbest, hbehind', by omega, by omega, by omega, ?_⟩
  rintro rfl
  rw [List.length_nil] at hlength
  omega

theorem onTick : ∃ view' : BlockchainView ι, Follows T s.onTick view' := by
  unfold Indexer.onTick
  split
  · next block caller hphase =>
    have hstate := h.here hphase
    refine ⟨view, h.running, h.fed, ?_, fun hr => absurd hreturned hr⟩
    cases caller <;> exact hstate
  · next hphase => exact ⟨view, h.onSetBest hreturned hsound hphase⟩
  · next frame hphase =>
    split
    · exact ⟨view, h⟩
    · next hknown => exact ⟨view, h.onKnownBlock hreturned hsound hphase hknown⟩
  · next hphase => exact ⟨view, h.onSyncCheck hsound hphase⟩
  · next frame hphase =>
    obtain ⟨hle, hstart, ini, hmem, hini, hinitial, hcatching⟩ := h.here hphase
    have hlength := hcatching.length
    refine ⟨view, h.running, h.fed, ⟨ini, frame.startingBlock, frame.storeBestBlock.number,
      frame.newBlock.number + 1, hmem, hini, rfl, hcatching.behind, by omega, by omega, ?_, ?_⟩,
      fun hr => absurd hreturned hr⟩
    · rw [List.length_reverse]
      exact hlength
    · -- nothing was stored: the sync started at the best block
      intro hnone
      have hnone : frame.blocksToNotify = [] := List.reverse_eq_nil_iff.mp hnone
      have hge := hstart hnone
      rw [hnone, List.length_nil] at hlength
      omega
  · next hphase =>
    obtain ⟨ini, best, hi, low, hmem, hini, hbest, hbehind, _, _, hlength, hdone⟩ := h.here hphase
    rw [List.length_nil] at hlength
    obtain rfl : hi = best.number := hdone rfl
    obtain rfl : low = best.number + 1 := by omega
    exact ⟨view, h.returnSync ⟨ini, best, hmem, hini, hbest, hbehind⟩ _ _⟩
  · next hphase => exact h.notify hreturned hsound hphase
  · next hphase =>
    have hstate := h.here hphase
    rw [if_neg h.not_shutdown]
    exact ⟨view, h.goto hstate⟩
  · exact ⟨view, h⟩

omit hreturned in
theorem step {input : Input} (hreplay : Replayable T cfg s input) :
    ∃ view' : BlockchainView ι, Follows T (step cfg s input) view' := by
  have hsound : Indexer.Sound T cfg { s with returned := none } :=
    ⟨⟨hsound.initial_eq, hsound.stored, fun hr => absurd rfl hr⟩, hsound.phase⟩
  have h : Follows T { s with returned := none } view :=
    ⟨h.running, h.fed, h.phase, fun hr => absurd rfl hr⟩
  have hreplay : Replayable T cfg { s with returned := none } input := hreplay
  cases input with
  | start => exact ⟨view, h.onStart rfl hreplay.2⟩
  | kill => exact hreplay.2.elim
  | requestShutdown => exact hreplay.2.elim
  | blockByHash answer => exact ⟨view, h.onBlockByHash rfl answer⟩
  | bestBlock answer => exact ⟨view, h.onBestBlock rfl hreplay⟩
  | blockByNumber answer => exact ⟨view, h.onBlockByNumber hsound hreplay⟩
  | uncles answer => exact h.onUncles rfl hsound answer
  | subscribed answer => exact ⟨view, h.onSubscribed answer⟩
  | item item => exact ⟨view, h.onItem item⟩
  | tick => exact h.onTick rfl hsound

end Follows

/-- The tip of the view is the best block; before the first sync both are at the initial block. -/
theorem Mirrors.tip (hview : Mirrors T view s.store s.initialBlockHash)
    (hlinked : s.store.LinkedToBest s.initialBlockHash) (hstored : s.store.StoredIn T) :
    ∃ best, s.store.best = some best
      ∧ (view.getTip.map (·.block) = some best
        ∨ view.getTip = none ∧ best.hash = s.initialBlockHash) := by
  obtain ⟨ini, best, hmem, hini, hbest, hbehind⟩ := hview
  obtain ⟨ini', best', hini', hupTo⟩ := hlinked
  obtain rfl : best' = best := Option.some.inj (hupTo.best_eq.symm.trans hbest)
  obtain rfl := hstored.initial_eq hupTo hmem (hini'.trans hini.symm)
  have htop := hupTo.top (Nat.le_refl _)
  refine ⟨best', hbest, ?_⟩
  cases htip : view.getTip with
  | none =>
    -- a view without a tip holds no block, so the best block is the initial one
    right
    refine ⟨rfl, ?_⟩
    have hnone : ¬ ini'.number < best'.number := by
      intro hlt
      obtain ⟨e, he, _⟩ := hbehind.full best'.number hlt (Nat.le_refl _)
      obtain ⟨tip, hsome⟩ := KeyedMap.exists_last he
      cases htip.symm.trans hsome
    have hnumber : ini'.number = best'.number := Nat.le_antisymm hupTo.initial_le (by omega)
    have hsame := hupTo.initial
    rw [hnumber, htop] at hsame
    cases hsame
    exact hini
  | some tip =>
    left
    have htipMem := KeyedMap.mem_of_last htip
    obtain ⟨hlt, hle⟩ := hbehind.range tip htipMem
    obtain ⟨e, he, henumber⟩ := hbehind.full best'.number (by omega) (Nat.le_refl _)
    have hge := KeyedMap.key_le_of_last htip he
    have hnumber : tip.number = best'.number := by omega
    have hblock := hbehind.same tip htipMem (by omega)
    rw [hnumber, htop] at hblock
    exact congrArg some (Option.some.inj hblock).symm

end Steps

/-- **The view follows the indexer** in a run whose blocks can be replayed: it accepts every block it
is fed, and whenever `backward_sync` or an iteration of `listen_blocks` returns, its tip is the
indexer's best block. Before the first block is sent the view is empty and the best block is the
initial one. -/
theorem view_follows_indexer (ι : Type) (T : BlockTree) (cfg : IndexerConfig) (inputs : List Input)
    (hinputs : Machine.Allowed (step cfg) (Replayable T cfg) (.init cfg) inputs) :
    let s := Machine.run (step cfg) (.init cfg) inputs
    ∃ view : BlockchainView ι, feedView ι s.sent = .ok view
      ∧ (s.returned ≠ none → ∃ best, s.store.best = some best
        ∧ (view.getTip.map (·.block) = some best
          ∨ view.getTip = none ∧ best.hash = s.initialBlockHash)) := by
  intro s
  have hinit : Follows T (.init cfg) (.new : BlockchainView ι) :=
    ⟨rfl, rfl, fun _ => rfl, fun hr => absurd rfl hr⟩
  obtain ⟨hsound, view, hview⟩ :=
    Machine.run_invariant (fun s => s.Sound T cfg ∧ ∃ view : BlockchainView ι, Follows T s view)
      (fun s input h hreplay => by
        obtain ⟨hsound, view, hview⟩ := h
        exact ⟨hsound.step hreplay.1, hview.step hsound hreplay⟩)
      ⟨Indexer.sound_init T cfg, .new, hinit⟩ hinputs
  refine ⟨view, hview.fed, fun hreturned => ?_⟩
  exact (hview.returned hreturned).tip ((hsound.returned hreturned).2 hview.running) hsound.stored

/-- The indexer moves from block 7 to the fork. -/
def reorgToFork : List Input :=
  syncToBlock7 ++ [.item (.block fork8), .bestBlock (.ok fork8), .uncles fun _ => .ok none, .tick,
    .blockByNumber (.ok fork7), .uncles fun _ => .ok none, .tick,
    .blockByNumber (.ok fork6), .uncles fun _ => .ok none, .tick,
    .blockByNumber (.ok block5), .tick, .tick, .tick, .tick, .tick, .tick]

theorem view_follows_indexer_reorgToFork :
    let s := Machine.run (step ⟨.hash, 0xa5⟩) (.init ⟨.hash, 0xa5⟩) reorgToFork
    s.returned = some (.backwardSync .connected) ∧ s.store.best = some fork8
      ∧ ∃ view : BlockchainView Unit, feedView Unit s.sent = .ok view
        ∧ view.getTip.map (·.block) = some fork8 := by
  refine ⟨by decide, by decide, ?_⟩
  have hreplay : Machine.Allowed (step ⟨.hash, 0xa5⟩) (Replayable smallTree ⟨.hash, 0xa5⟩)
      (.init ⟨.hash, 0xa5⟩) reorgToFork := by
    have hserves : ∀ {s : Indexer} (b : RskBlock), s.initialBlockHash = block5.hash →
        b ∈ smallBlocks → s.Serves smallTree b := fun b hs hb => serves_smallTree hs hb
    have huncles : ∀ {P : Prop} {b : RskBlock} {answer : Nat → Outcome (Option RskBlock)},
        b.uncles = [] → uncleFails b answer = true → P :=
      fun hb hfails => absurd hfails (not_uncleFails hb _)
    have hmem : ∀ b ∈ smallBlocks, b ∈ smallTree.blocks := fun b hb => hb
    have htick : True ∧ True := ⟨trivial, trivial⟩
    exact ⟨⟨trivial, rfl⟩, ⟨rfl, trivial⟩, ⟨⟨hmem _ (by decide), rfl⟩, trivial⟩, htick, htick,
      ⟨hserves block7 rfl (by decide), ⟨by decide, by decide⟩, by decide⟩,
      ⟨huncles rfl, trivial⟩, htick,
      ⟨⟨hserves block6 rfl (by decide), rfl⟩, ⟨by decide, by decide⟩⟩,
      ⟨huncles rfl, trivial⟩, htick,
      ⟨⟨hserves block5 rfl (by decide), rfl⟩, ⟨by decide, by decide⟩⟩,
      htick, htick, htick, htick, htick,
      ⟨hserves block7 rfl (by decide), ⟨by decide, by decide⟩, by decide⟩, htick, htick,
      ⟨hmem _ (by decide), trivial⟩,
      ⟨hserves fork8 rfl (by decide), ⟨by decide, by decide⟩, by decide⟩,
      ⟨huncles rfl, trivial⟩, htick,
      ⟨⟨hserves fork7 rfl (by decide), rfl⟩, ⟨by decide, by decide⟩⟩,
      ⟨huncles rfl, trivial⟩, htick,
      ⟨⟨hserves fork6 rfl (by decide), rfl⟩, ⟨by decide, by decide⟩⟩,
      ⟨huncles rfl, trivial⟩, htick,
      ⟨⟨hserves block5 rfl (by decide), rfl⟩, ⟨by decide, by decide⟩⟩,
      htick, htick, htick, htick, htick, htick, trivial⟩
  obtain ⟨view, hfed, hreturned⟩ :=
    view_follows_indexer Unit smallTree ⟨.hash, 0xa5⟩ reorgToFork hreplay
  obtain ⟨best, hbest, htip⟩ := hreturned (by decide)
  have hfork : best = fork8 := by
    have hbest' : (Machine.run (step ⟨.hash, 0xa5⟩) (.init ⟨.hash, 0xa5⟩) reorgToFork).store.best
        = some fork8 := by decide
    exact Option.some.inj (hbest.symm.trans hbest')
  rw [hfork] at htip
  rcases htip with htip | ⟨_, hinitial⟩
  · exact ⟨view, hfed, htip⟩
  · exact absurd hinitial (by decide)

/-- The indexer moves from block 7 to the heavier block 6 of the fork, and returns to the first chain
when that has grown to block 8. -/
def returnToFirstChain : List Input :=
  syncToBlock7 ++ [.item (.block fork6), .bestBlock (.ok fork6), .uncles fun _ => .ok none, .tick,
    .blockByNumber (.ok block5), .tick, .tick, .tick, .tick, .tick,
    .item (.block block8), .bestBlock (.ok block8), .uncles fun _ => .ok none, .tick,
    .blockByNumber (.ok block7), .tick, .tick,
    .blockByNumber (.ok block6), .uncles fun _ => .ok none, .tick,
    .blockByNumber (.ok block5), .tick, .tick, .tick, .tick, .tick]

/-- Block 7 was left behind above the fork: it is skipped, and the view panics at block 8. -/
theorem view_panics_on_return :
    let s := Machine.run (step ⟨.hash, 0xa5⟩) (.init ⟨.hash, 0xa5⟩) returnToFirstChain
    s.returned = some (.backwardSync .connected) ∧ s.store.best = some block8
      ∧ s.sent.map (·.block) = [block6, block7, fork6, block6, block8]
      ∧ feedView Unit s.sent = .error (.panic "Non-consecutive block or parent hash mismatch") := by
  refine ⟨by decide, by decide, by decide, rfl⟩

end UnionBridge.Pipeline
