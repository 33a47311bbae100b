import UnionBridge.Common.Block
import UnionBridge.Lib.KeyedMap
import UnionBridge.Lib.Outcome

/-!
# The view of the chain and confirmations (`coordinator/src/blockchain_tracker.rs`)

`BlockchainView` keeps the blocks a processor was fed, one per height, and tells its observers
about every block it adds or removes. `update` returns the messages it sends, in order; an observer
is the cell of a `BlockConfirmations` and only remembers the number of the block it heard of last.

The view panics when the block it is fed does not follow the block below it.
-/

namespace UnionBridge.Coordinator

open Chain Outcome

structure BlockConfirmations where
  init : Nat
  last : Nat
  required : UInt32
deriving DecidableEq

namespace BlockConfirmations

def new (init : Nat) (reqConfirmations : UInt32) : BlockConfirmations :=
  { init := init, last := init, required := reqConfirmations }

/-- Block numbers are 64-bit, and so is the count. -/
def accum (c : BlockConfirmations) : Nat :=
  if c.last < c.init then 0 else (c.last - c.init + 1) % 2 ^ 64

def isConfirmed (c : BlockConfirmations) : Bool := c.accum ≥ c.required.toNat

end BlockConfirmations

inductive Notification where
  | added (block : RskBlockAndUncles)
  | removed (block : RskBlockAndUncles)

/-- `on_block_added` and `on_block_removed` do the same. -/
def BlockConfirmations.notify (c : BlockConfirmations) : Notification → BlockConfirmations
  | .added block => { c with last := block.number }
  | .removed block => { c with last := block.number }

abbrev ViewBlocks := KeyedMap RskBlockAndUncles RskBlockAndUncles.number

structure BlockchainView (ι : Type) where
  blocks : ViewBlocks
  observers : List ι

namespace BlockchainView

variable {ι : Type}

def new : BlockchainView ι := { blocks := .empty, observers := [] }

def getTip (view : BlockchainView ι) : Option RskBlockAndUncles := view.blocks.last

def clear (_ : BlockchainView ι) : BlockchainView ι := new

def removeObserver [DecidableEq ι] (view : BlockchainView ι) (id : ι) : BlockchainView ι :=
  { view with observers := view.observers.filter (· ≠ id) }

def addObserver [DecidableEq ι] (view : BlockchainView ι) (id : ι) : Outcome (BlockchainView ι) :=
  if id ∈ view.observers then
    .error (.panic "Observer already exists in BlockchainView, halting to avoid duplicates")
  else
    .ok { view with observers := id :: view.observers }

def validateConsecutiveBlock (newTip prevTip : RskBlock) : Outcome Unit :=
  if newTip.number = prevTip.number + 1 ∧ newTip.parentHash = prevTip.hash then
    .ok ()
  else
    .error (.panic "Non-consecutive block or parent hash mismatch")

/-- The block below the new tip, if the view has one, must be its parent. -/
def validateAgainst (parent : Option RskBlockAndUncles) (newTip : RskBlockAndUncles) :
    Outcome Unit :=
  match parent with
  | none => .ok ()
  | some p => validateConsecutiveBlock newTip.block p.block

/-- The blocks above the new tip are removed from the top down, then the replaced block. -/
def rollbackTo (view : BlockchainView ι) (newTip : RskBlockAndUncles) :
    Outcome (BlockchainView ι × List Notification) := do
  let tipParentOpt := (view.blocks.below newTip.number).last
  validateAgainst tipParentOpt newTip
  let replacedBlockOpt := view.blocks.get newTip.number
  let blocks := view.blocks.insert newTip
  if ¬ newTip.number + 1 < 2 ^ 64 then
    .error (.panic "block number overflow while rolling back BlockchainView")
  else
    let nextHeight := newTip.number + 1
    let blocksToRemove := blocks.atLeast nextHeight
    pure ({ view with blocks := blocks.below nextHeight },
      blocksToRemove.values.reverse.map .removed ++ replacedBlockOpt.toList.map .removed
        ++ [.added newTip])

def isKnown (view : BlockchainView ι) (newBlock : RskBlockAndUncles) : Bool :=
  match view.blocks.get newBlock.number with
  | none => false
  | some stored => stored.hash = newBlock.hash

def update (view : BlockchainView ι) (newBlock : RskBlockAndUncles) :
    Outcome (BlockchainView ι × List Notification) :=
  let prevTip := view.getTip
  if view.isKnown newBlock then
    .ok (view, [])
  else if prevTip.any fun tip => newBlock.number ≤ tip.number then
    view.rollbackTo newBlock
  else do
    let blocks := view.blocks.insert newBlock
    validateAgainst prevTip newBlock
    pure ({ view with blocks := blocks }, [.added newBlock])

/-! ## What an update does -/

variable {view view' : BlockchainView ι} {sent : List Notification} {b : RskBlockAndUncles}

/-- The two ways in which an update changes the blocks: the new block follows the tip, or it
replaces everything from its height on. -/
theorem update_cases (h : view.update b = .ok (view', sent)) :
    (view.isKnown b = true ∧ view' = view ∧ sent = [])
      ∨ (view.isKnown b = false ∧ view'.observers = view.observers
        ∧ view'.blocks.values = view.blocks.values ++ [b] ∧ sent = [.added b])
      ∨ (view.isKnown b = false ∧ view'.observers = view.observers
        ∧ view'.blocks.values = (view.blocks.below b.number).values ++ [b]
        ∧ ∃ removed : List RskBlockAndUncles, sent = removed.map .removed ++ [.added b]) := by
  simp only [update] at h
  split at h
  · next hknown =>
    cases h
    exact .inl ⟨hknown, rfl, rfl⟩
  next hknown =>
  have hknown : view.isKnown b = false := by simpa using hknown
  split at h
  · -- at or below the tip
    unfold rollbackTo at h
    obtain ⟨_, _, h⟩ := bind_eq_ok.mp h
    simp only at h
    split at h
    · cases h
    · cases h
      refine .inr (.inr ⟨hknown, rfl, KeyedMap.values_below_insert view.blocks b, ?_⟩)
      exact ⟨_ ++ _, by rw [List.map_append]⟩
  · next habove =>
    obtain ⟨_, _, h⟩ := bind_eq_ok.mp h
    cases h
    refine .inr (.inl ⟨hknown, rfl, KeyedMap.values_insert_of_last fun tip htip => ?_, rfl⟩)
    rw [getTip, htip] at habove
    simpa using habove

theorem mem_of_update {b x : RskBlockAndUncles} (h : view.update b = .ok (view', sent))
    (hx : x ∈ view'.blocks.values) : x = b ∨ x ∈ view.blocks.values := by
  rcases update_cases h with ⟨_, rfl, _⟩ | ⟨_, _, hvalues, _⟩ | ⟨_, _, hvalues, _⟩
  · exact .inr hx
  · rw [hvalues] at hx
    rcases List.mem_append.mp hx with hx | hx
    · exact .inr hx
    · exact .inl (List.mem_singleton.mp hx)
  · rw [hvalues] at hx
    rcases List.mem_append.mp hx with hx | hx
    · exact .inr (KeyedMap.mem_below.mp hx).1
    · exact .inl (List.mem_singleton.mp hx)

/-- A new block takes the place of everything from its height on: the observers hear of the blocks
above it from the top down, of the one it replaces, and of the new block last. -/
theorem update_replaces (hknown : view.isKnown b = false) (h : view.update b = .ok (view', sent)) :
    view'.blocks.values = (view.blocks.below b.number).values ++ [b]
      ∧ sent = (view.blocks.atLeast b.number).values.reverse.map .removed ++ [.added b]
      ∧ ∀ p, (view.blocks.below b.number).last = some p → IsParent p.block b.block := by
  have hvalid : ∀ {parent : Option RskBlockAndUncles} {u : Unit},
      validateAgainst parent b = .ok u → ∀ p, parent = some p → IsParent p.block b.block := by
    rintro _ _ hok p rfl
    simp only [validateAgainst, validateConsecutiveBlock] at hok
    split at hok
    · next hparent => exact ⟨hparent.1.symm, hparent.2⟩
    · cases hok
  simp only [update, hknown, Bool.false_eq_true, if_false] at h
  split at h
  · -- at or below the tip
    unfold rollbackTo at h
    obtain ⟨_, hcheck, h⟩ := bind_eq_ok.mp h
    simp only at h
    split at h
    · cases h
    · cases h
      refine ⟨KeyedMap.values_below_insert view.blocks b, ?_, hvalid hcheck⟩
      have habove : ((view.blocks.insert b).atLeast (b.number + 1)).values
          = (view.blocks.atLeast (b.number + 1)).values := KeyedMap.atLeast_insert view.blocks b
      rw [habove, KeyedMap.atLeast_eq_get_append view.blocks b.number, List.reverse_append,
        List.map_append]
      cases view.blocks.get b.number with
      | none => simp
      | some replaced => simp
  · next habove =>
    obtain ⟨_, hcheck, h⟩ := bind_eq_ok.mp h
    cases h
    have htip : ∀ tip, view.blocks.last = some tip → tip.number < b.number := by
      intro tip htip
      rw [getTip, htip] at habove
      simpa using habove
    have hbelow := KeyedMap.below_eq_self htip
    have hleast : (view.blocks.atLeast b.number).values = [] := by
      refine List.eq_nil_iff_forall_not_mem.mpr fun x hx => ?_
      obtain ⟨hmem, hle⟩ := KeyedMap.mem_atLeast.mp hx
      exact absurd (KeyedMap.lt_of_last htip hmem) (by omega)
    refine ⟨?_, ?_, ?_⟩
    · rw [hbelow]
      exact KeyedMap.values_insert_of_last htip
    · rw [hleast]
      rfl
    · rw [KeyedMap.last, hbelow]
      exact hvalid hcheck

/-- A new block that follows the block below it is accepted. It stands on what was below it. -/
theorem update_of_parent {view : BlockchainView ι} (hknown : view.isKnown b = false)
    (hparent : ∀ p, (view.blocks.below b.number).last = some p → IsParent p.block b.block)
    (hnumber : ∀ tip, view.getTip = some tip → b.number ≤ tip.number → b.number + 1 < 2 ^ 64) :
    ∃ view' sent, view.update b = .ok (view', sent)
      ∧ view'.blocks.values = (view.blocks.below b.number).values ++ [b] := by
  have hvalid : validateAgainst (view.blocks.below b.number).last b = .ok () := by
    cases hlast : (view.blocks.below b.number).last with
    | none => rfl
    | some p =>
      obtain ⟨hsucc, hhash⟩ := hparent p hlast
      exact if_pos ⟨hsucc.symm, hhash⟩
  simp only [update, hknown, Bool.false_eq_true, if_false]
  split
  · -- at or below the tip: everything from its height on is removed
    next hbelow =>
    have hnumber : b.number + 1 < 2 ^ 64 := by
      cases htip : view.getTip with
      | none => rw [htip] at hbelow; cases hbelow
      | some tip =>
        rw [htip] at hbelow
        exact hnumber tip htip (by simpa using hbelow)
    simp only [rollbackTo, hvalid, hnumber, not_true_eq_false, if_false]
    exact ⟨_, _, rfl, KeyedMap.values_below_insert view.blocks b⟩
  · next habove =>
    have htip : ∀ tip, view.blocks.last = some tip → tip.number < b.number := by
      intro tip htip
      rw [getTip, htip] at habove
      simpa using habove
    have hbelow := KeyedMap.below_eq_self htip
    have hvalid : validateAgainst view.getTip b = .ok () := by
      rw [getTip, KeyedMap.last, ← hbelow]
      exact hvalid
    rw [hvalid, hbelow]
    exact ⟨_, _, rfl, KeyedMap.values_insert_of_last htip⟩

end BlockchainView

end UnionBridge.Coordinator
