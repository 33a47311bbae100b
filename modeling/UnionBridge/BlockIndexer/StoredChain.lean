import UnionBridge.BlockIndexer.Indexer
import UnionBridge.Lib.LinkedRange

/-!
# The chain in the store and the loop of `backward_sync`

The provider serves blocks of a block tree. `backward_sync` rewrites the canonical blocks from the
top down, so in the middle of it two pieces are linked by parent hashes: the new blocks above the one
it looks at (`Joined`) and the old ones below it (`LinkedUpTo`). They are glued where it connects.
-/

namespace UnionBridge.BlockIndexer

open Chain

/-- The blocks that the provider can serve: hashes identify them, and a parent is one block lower. -/
structure BlockTree where
  blocks : Set RskBlock
  hash_inj : ∀ {a b : RskBlock}, a ∈ blocks → b ∈ blocks → a.hash = b.hash → a = b
  number_parent : ∀ {p b : RskBlock}, p ∈ blocks → b ∈ blocks → b.parentHash = p.hash →
    p.number + 1 = b.number

def IsChild (p b : RskBlock) : Prop := b.parentHash = p.hash

namespace BlockStore

/-- The canonical blocks from `ini` to the height `k`, or to the best block if that is lower, are
present and linked. -/
structure LinkedUpTo (store : BlockStore) (ini best : RskBlock) (k : Nat) : Prop where
  best_eq : store.best = some best
  initial_le : ini.number ≤ best.number
  initial : store.canonical ini.number = some ini
  linked : Linked IsChild store.canonical ini.number (min best.number k)
  top : best.number ≤ k → store.canonical best.number = some best

/-- The canonical blocks from the one with the hash `initial` up to the best block are present and
linked. -/
def LinkedToBest (store : BlockStore) (initial : BlockHash) : Prop :=
  ∃ ini best, ini.hash = initial ∧ store.LinkedUpTo ini best best.number

/-- If there is a checkpoint, the same up to the block below it. -/
def LinkedToCheckpoint (store : BlockStore) (initial : BlockHash) : Prop :=
  match store.backSyncCheckpoint with
  | none => store.LinkedToBest initial
  | some checkpoint =>
    ∃ ini best, ini.hash = initial ∧ store.LinkedUpTo ini best (checkpoint.number - 1)

/-- The new blocks of a sync, from `x` up to its starting block `t`, are canonical and linked. -/
structure Joined (store : BlockStore) (x t : RskBlock) : Prop where
  low : store.canonical x.number = some x
  high : store.canonical t.number = some t
  le : x.number ≤ t.number
  linked : Linked IsChild store.canonical x.number t.number

/-- `x` is the starting block `t`, or the parent of the lowest new block. -/
def Reaches (store : BlockStore) (x t : RskBlock) : Prop :=
  x = t ∨ ∃ y, IsParent x y ∧ store.Joined y t

variable {store store' : BlockStore} {initial : BlockHash} {ini best x y t : RskBlock} {k k' : Nat}

theorem LinkedUpTo.mono (h : store.LinkedUpTo ini best k) (hk : min best.number k' ≤ k) :
    store.LinkedUpTo ini best k' where
  best_eq := h.best_eq
  initial_le := h.initial_le
  initial := h.initial
  linked := h.linked.mono (by omega)
  top := fun hle => h.top (by omega)

theorem LinkedUpTo.congr (h : store.LinkedUpTo ini best k) (hbest : store'.best = store.best)
    (hcanonical : ∀ n, n ≤ best.number → n ≤ k ∨ n = ini.number →
      store'.canonical n = store.canonical n) : store'.LinkedUpTo ini best k where
  best_eq := hbest.trans h.best_eq
  initial_le := h.initial_le
  initial := by
    rw [hcanonical _ h.initial_le (.inr rfl)]
    exact h.initial
  linked := h.linked.congr fun n _ hn => hcanonical n (by omega) (.inl (by omega))
  top := by
    intro hle
    rw [hcanonical _ (Nat.le_refl _) (.inl hle)]
    exact h.top hle

theorem LinkedToBest.toCheckpoint (h : store.LinkedToBest initial) :
    store.LinkedToCheckpoint initial := by
  unfold LinkedToCheckpoint
  split
  · exact h
  · obtain ⟨ini, best, hini, hlinked⟩ := h
    exact ⟨ini, best, hini, hlinked.mono (Nat.min_le_left _ _)⟩

theorem LinkedToCheckpoint.linkedUpTo (h : store.LinkedToCheckpoint initial) {checkpoint : RskBlock}
    (hcheckpoint : store.backSyncCheckpoint = some checkpoint) :
    ∃ ini best, ini.hash = initial ∧ store.LinkedUpTo ini best (checkpoint.number - 1) := by
  unfold LinkedToCheckpoint at h
  rw [hcheckpoint] at h
  exact h

theorem LinkedToCheckpoint.best_ne_none (h : store.LinkedToCheckpoint initial) :
    store.best ≠ none := by
  unfold LinkedToCheckpoint at h
  intro hnone
  split at h
  · obtain ⟨_, _, _, hlinked⟩ := h
    cases hnone.symm.trans hlinked.best_eq
  · obtain ⟨_, _, _, hlinked⟩ := h
    cases hnone.symm.trans hlinked.best_eq

theorem LinkedToBest.congr (h : store.LinkedToBest initial) (hbest : store'.best = store.best)
    (hcanonical : ∀ best, store.best = some best → ∀ n, n ≤ best.number →
      store'.canonical n = store.canonical n) : store'.LinkedToBest initial := by
  obtain ⟨ini, best, hini, hlinked⟩ := h
  exact ⟨ini, best, hini, hlinked.congr hbest fun n hn _ => hcanonical best hlinked.best_eq n hn⟩

theorem LinkedToCheckpoint.congr (h : store.LinkedToCheckpoint initial)
    (hbest : store'.best = store.best)
    (hcheckpoint : store'.backSyncCheckpoint = store.backSyncCheckpoint)
    (hcanonical : ∀ best, store.best = some best → ∀ n, n ≤ best.number →
      store'.canonical n = store.canonical n) : store'.LinkedToCheckpoint initial := by
  unfold LinkedToCheckpoint at h ⊢
  rw [hcheckpoint]
  split at h
  · exact h.congr hbest hcanonical
  · obtain ⟨ini, best, hini, hlinked⟩ := h
    exact ⟨ini, best, hini, hlinked.congr hbest fun n hn _ => hcanonical best hlinked.best_eq n hn⟩

theorem Reaches.joined (h : store.Reaches x t) (hx : store'.canonical x.number = some x)
    (habove : ∀ n, x.number < n → store'.canonical n = store.canonical n) : store'.Joined x t := by
  rcases h with rfl | ⟨y, hparent, hy⟩
  · exact ⟨hx, hx, Nat.le_refl _, Linked.refl _⟩
  · have hnumber : x.number + 1 = y.number := hparent.1
    have hle := hy.le
    have hlow : store'.canonical (x.number + 1) = some y := by
      rw [habove _ (by omega), hnumber]
      exact hy.low
    have hhigh : store'.canonical t.number = some t := by
      rw [habove _ (by omega)]
      exact hy.high
    refine ⟨hx, hhigh, by omega, Linked.cons ⟨x, y, hx, hlow, hparent.2⟩ ?_⟩
    rw [hnumber]
    exact hy.linked.congr fun n hn _ => habove n (by omega)

/-- **Connecting**: the old blocks up to `x` and the new ones from `x` on are one chain. -/
theorem LinkedUpTo.connect (hold : store.LinkedUpTo ini best x.number) (hnew : store.Joined x t)
    (hx : x.number ≤ best.number) (hini : ini.number ≤ x.number) :
    (store.setBestBlock t).LinkedUpTo ini t t.number where
  best_eq := rfl
  initial_le := Nat.le_trans hini hnew.le
  initial := hold.initial
  linked := by
    have hlow : Linked IsChild store.canonical ini.number x.number := hold.linked.mono (by omega)
    exact (hlow.trans hnew.linked).mono (Nat.min_le_left _ _)
  top := fun _ => hnew.high

theorem LinkedUpTo.extend (h : store.LinkedUpTo ini best best.number) (hchild : IsParent best y)
    (hy : store.canonical y.number = some y) :
    (store.setBestBlock y).LinkedUpTo ini y y.number := by
  have hnumber : best.number + 1 = y.number := hchild.1
  have htop := h.top (Nat.le_refl _)
  have hjoined : store.Joined best y := by
    refine ⟨htop, hy, by omega, Linked.cons ⟨best, y, htop, ?_, hchild.2⟩ ?_⟩
    · rw [hnumber]
      exact hy
    · rw [hnumber]
      exact Linked.refl _
  exact h.connect hjoined (Nat.le_refl _) h.initial_le

/-- Every stored block is one of the tree, and a canonical one stands at its height. -/
structure StoredIn (T : BlockTree) (store : BlockStore) : Prop where
  canonical : ∀ n b, store.canonical n = some b → b ∈ T.blocks ∧ b.number = n
  best : ∀ b, store.best = some b → b ∈ T.blocks
  checkpoint : ∀ b, store.backSyncCheckpoint = some b → b ∈ T.blocks

theorem storedIn_empty (T : BlockTree) : StoredIn T empty where
  canonical := by
    intro n b hb
    cases hb
  best := by
    intro b hb
    cases hb
  checkpoint := by
    intro b hb
    cases hb

theorem StoredIn.congr {T : BlockTree} (h : StoredIn T store)
    (hcanonical : store'.canonical = store.canonical) (hbest : store'.best = store.best)
    (hcheckpoint : store'.backSyncCheckpoint = store.backSyncCheckpoint) : StoredIn T store' where
  canonical := by
    rw [hcanonical]
    exact h.canonical
  best := by
    rw [hbest]
    exact h.best
  checkpoint := by
    rw [hcheckpoint]
    exact h.checkpoint

theorem StoredIn.initial_eq {T : BlockTree} (h : StoredIn T store)
    (hlinked : store.LinkedUpTo ini best k) (hx : x ∈ T.blocks) (hhash : ini.hash = x.hash) :
    ini = x :=
  T.hash_inj (h.canonical _ _ hlinked.initial).1 hx hhash

theorem StoredIn.saveAsCanonical {T : BlockTree} (h : StoredIn T store) (hx : x ∈ T.blocks) :
    StoredIn T (store.saveAsCanonical x) where
  canonical := by
    intro n b hb
    rw [canonical_saveAsCanonical] at hb
    split at hb
    · next hn =>
      cases hb
      exact ⟨hx, hn.symm⟩
    · exact h.canonical n b hb
  best := h.best
  checkpoint := h.checkpoint

theorem StoredIn.canonical_of_known {T : BlockTree} (h : StoredIn T store) (hx : x ∈ T.blocks)
    (hknown : ¬ Indexer.mustStore store x = true) : store.canonical x.number = some x := by
  unfold Indexer.mustStore at hknown
  split at hknown
  · exact absurd rfl hknown
  · next b hb =>
    have hhash : b.hash = x.hash := by simpa using hknown
    rw [hb, T.hash_inj (h.canonical _ b hb).1 hx hhash]

end BlockStore

/-! ## The loop of `backward_sync` -/

/-- The sync has replaced no block up to the best one. -/
def SyncFrame.Untouched (frame : SyncFrame) : Prop :=
  ∀ m ∈ frame.blocksToNotify, frame.storeBestBlock.number < m.number

/-- Before the loop looks at its new block: the old chain below and the new chain above it. -/
structure Looking (T : BlockTree) (store : BlockStore) (ini : RskBlock) (frame : SyncFrame) :
    Prop where
  new_mem : frame.newBlock ∈ T.blocks
  start_mem : frame.startingBlock ∈ T.blocks
  below : store.LinkedUpTo ini frame.storeBestBlock frame.newBlock.number
  untouched : frame.Untouched → store.LinkedToCheckpoint ini.hash
  above : store.Reaches frame.newBlock frame.startingBlock
  root : frame.newBlock.number ≤ ini.number → frame.newBlock = ini

/-- After it: the new chain has grown by the new block. -/
structure Passed (T : BlockTree) (store : BlockStore) (ini : RskBlock) (frame : SyncFrame) :
    Prop where
  new_mem : frame.newBlock ∈ T.blocks
  start_mem : frame.startingBlock ∈ T.blocks
  below : store.LinkedUpTo ini frame.storeBestBlock (frame.newBlock.number - 1)
  untouched : frame.Untouched → store.LinkedToCheckpoint ini.hash
  above : store.Joined frame.newBlock frame.startingBlock
  initial_lt : ini.number < frame.newBlock.number

/-- The two chains are one. -/
structure Connected (T : BlockTree) (store : BlockStore) (ini : RskBlock) (frame : SyncFrame) :
    Prop where
  start_mem : frame.startingBlock ∈ T.blocks
  linked : (store.setBestBlock frame.startingBlock).LinkedUpTo ini frame.startingBlock
    frame.startingBlock.number
  same : frame.newBlock.hash = frame.storeBestBlock.hash → store.LinkedToBest ini.hash

section Loop

variable {T : BlockTree} {store store' : BlockStore} {ini : RskBlock} {frame : SyncFrame}

theorem Looking.initial_le (h : Looking T store ini frame) : ini.number ≤ frame.newBlock.number := by
  by_contra hlt
  have hroot := h.root (by omega)
  rw [hroot] at hlt
  exact hlt (Nat.le_refl _)

theorem Looking.save (h : Looking T store ini frame) (hmust : Indexer.mustStore store frame.newBlock)
    (hcanonical : store'.canonical = store.canonical) (hbest : store'.best = store.best)
    (hcheckpoint : store'.backSyncCheckpoint = store.backSyncCheckpoint) (uncles : List RskBlock) :
    Passed T (store'.saveAsCanonical frame.newBlock) ini { frame with
      blocksToNotify := frame.blocksToNotify ++ [⟨frame.newBlock, uncles⟩] } := by
  -- the initial block is canonical, so the new block is another one and lies above it
  have hlt : ini.number < frame.newBlock.number := by
    by_contra hle
    have hroot := h.root (Nat.le_of_not_lt hle)
    rw [Indexer.mustStore, hroot, h.below.initial] at hmust
    simp at hmust
  have hother : ∀ n, n ≠ frame.newBlock.number →
      (store'.saveAsCanonical frame.newBlock).canonical n = store.canonical n := by
    intro n hn
    rw [canonical_saveAsCanonical, if_neg hn, hcanonical]
  have hbelow : store.LinkedUpTo ini frame.storeBestBlock (frame.newBlock.number - 1) :=
    h.below.mono (by omega)
  have hnew : (store'.saveAsCanonical frame.newBlock).canonical frame.newBlock.number
      = some frame.newBlock := by
    rw [canonical_saveAsCanonical, if_pos rfl]
  refine ⟨h.new_mem, h.start_mem, ?_, ?_, ?_, hlt⟩
  -- one height changes: it is above the old piece and below the new one
  · exact hbelow.congr hbest fun n _ hn => hother n (by omega)
  · intro huntouched
    have hframe : frame.Untouched := fun m hm => huntouched m (List.mem_append_left _ hm)
    have habove : frame.storeBestBlock.number < frame.newBlock.number :=
      huntouched ⟨frame.newBlock, uncles⟩ (by simp)
    refine (h.untouched hframe).congr hbest hcheckpoint fun best hbest n hn => ?_
    rw [h.below.best_eq] at hbest
    cases hbest
    exact hother n (by omega)
  · exact h.above.joined hnew fun n hn => hother n (by omega)

theorem Looking.skip (h : Looking T store ini frame) (hstored : store.StoredIn T)
    (hknown : ¬ Indexer.mustStore store frame.newBlock = true)
    (habove : ¬ frame.newBlock.number ≤ frame.storeBestBlock.number) : Passed T store ini frame := by
  have hnew := hstored.canonical_of_known h.new_mem hknown
  have hini := h.below.initial_le
  refine ⟨h.new_mem, h.start_mem, h.below.mono (by omega), h.untouched, ?_, by omega⟩
  exact h.above.joined hnew fun _ _ => rfl

theorem Looking.connect (h : Looking T store ini frame) (hstored : store.StoredIn T)
    (hknown : ¬ Indexer.mustStore store frame.newBlock = true)
    (hle : frame.newBlock.number ≤ frame.storeBestBlock.number) :
    Connected T store.resetBackSyncCheckpoint ini frame := by
  have hnew := hstored.canonical_of_known h.new_mem hknown
  have hini := h.initial_le
  have hjoined : store.Joined frame.newBlock frame.startingBlock := h.above.joined hnew fun _ _ => rfl
  refine ⟨h.start_mem, (h.below.connect hjoined hle hini).congr rfl fun _ _ _ => rfl, fun hhash => ?_⟩
  -- connecting at the best block, the old chain is linked up to it
  have hbest := hstored.best _ h.below.best_eq
  have hsame : frame.newBlock = frame.storeBestBlock := T.hash_inj h.new_mem hbest hhash
  have hupTo := h.below
  rw [hsame] at hupTo
  exact ⟨ini, frame.storeBestBlock, rfl, hupTo.congr rfl fun _ _ _ => rfl⟩

theorem Passed.next (h : Passed T store ini frame) {block : RskBlock} (hblock : block ∈ T.blocks)
    (hchild : frame.newBlock.parentHash = block.hash)
    (hroot : block.number ≤ ini.number → block = ini) :
    Looking T store ini { frame with newBlock := block } := by
  have hnumber := T.number_parent hblock h.new_mem hchild
  refine ⟨hblock, h.start_mem, ?_, h.untouched, .inr ⟨_, ⟨hnumber, hchild⟩, h.above⟩, hroot⟩
  exact h.below.mono (by simp only; omega)

theorem Passed.checkpoint (h : Passed T store ini frame) :
    (store.setBackSyncCheckpoint frame.newBlock).LinkedToCheckpoint ini.hash :=
  ⟨ini, frame.storeBestBlock, rfl, h.below.congr rfl fun _ _ _ => rfl⟩

end Loop

end UnionBridge.BlockIndexer
