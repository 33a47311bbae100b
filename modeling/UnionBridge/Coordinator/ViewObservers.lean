import UnionBridge.Coordinator.BlockchainTracker
import UnionBridge.Lib.StackLog
import Mathlib.Tactic.Linarith
import Mathlib.Data.UInt

/-!
# The observers of a view (`coordinator/src/blockchain_tracker.rs`)

A `BlockchainView` in use: blocks are fed to it, observers come and go, and it may be cleared. The
state keeps, next to the view, what each observer on it has: the cell of its confirmations, and for
the record the blocks of the view when it was registered, the messages it has heard since, and how
many updates had not been ignored by then.

The blocks always form one linked segment. An observer that replays its messages on the blocks it
was registered with has the blocks of the view, and the number in its cell is the height of the tip.
-/

namespace UnionBridge.Coordinator

open Chain Outcome

structure Registered (ι : Type) where
  id : ι
  confirmations : BlockConfirmations
  base : List RskBlockAndUncles
  heard : List Notification
  since : Nat

/-- `updates` counts the updates that were not ignored. -/
structure ObservedView (ι : Type) where
  view : BlockchainView ι
  registered : List (Registered ι)
  updates : Nat

inductive ViewOp (ι : Type) where
  | update (block : RskBlockAndUncles)
  | clear
  | addObserver (id : ι) (confirmations : BlockConfirmations)
  | removeObserver (id : ι)

variable {ι : Type}

def Registered.notify (r : Registered ι) (sent : List Notification) : Registered ι :=
  { r with
    confirmations := sent.foldl BlockConfirmations.notify r.confirmations
    heard := r.heard ++ sent }

namespace ObservedView

def new : ObservedView ι := { view := .new, registered := [], updates := 0 }

def step [DecidableEq ι] (s : ObservedView ι) : ViewOp ι → Outcome (ObservedView ι)
  | .update block => do
    let (view, sent) ← s.view.update block
    pure { view := view
           registered := s.registered.map (·.notify sent)
           updates := if s.view.isKnown block then s.updates else s.updates + 1 }
  | .clear => pure { s with view := s.view.clear, registered := [] }
  | .addObserver id confirmations => do
    let view ← s.view.addObserver id
    let observer : Registered ι :=
      { id := id, confirmations := confirmations, base := s.view.blocks.values, heard := []
        since := s.updates }
    pure { s with view := view, registered := observer :: s.registered }
  | .removeObserver id =>
    pure { s with
      view := s.view.removeObserver id
      registered := s.registered.filter (·.id ≠ id) }

/-- A sequence of operations; it stops at the first panic. -/
def run [DecidableEq ι] (ops : List (ViewOp ι)) : Outcome (ObservedView ι) := ops.foldlM step new

end ObservedView

/-! ## Messages as a log of a stack -/

/-- A block added is put on the blocks, a block removed is taken off. -/
def Notification.toStackOp : Notification → StackOp RskBlockAndUncles
  | .added block => .push block
  | .removed block => .pop block

/-- After one removed block the next removed one, if it follows at once, is lower. -/
def Notification.Descends : Notification → Notification → Prop
  | .removed a, .removed b => b.number < a.number
  | _, _ => True

/-- Each batch of messages ends with the block that was added. -/
def EndsAdded (heard : List Notification) : Prop :=
  heard = [] ∨ ∃ earlier b, heard = earlier ++ [.added b]

theorem isChain_append_sent {heard : List Notification} {removed : List RskBlockAndUncles}
    {b : RskBlockAndUncles} (hheard : heard.IsChain Notification.Descends)
    (hends : EndsAdded heard)
    (hremoved : removed.IsChain fun x y => y.number < x.number) :
    (heard ++ (removed.map Notification.removed ++ [Notification.added b])).IsChain
      Notification.Descends := by
  have hsent : (removed.map Notification.removed ++ [Notification.added b]).IsChain
      Notification.Descends := by
    refine List.isChain_append.mpr ⟨(List.isChain_map _).mpr hremoved, .singleton _, ?_⟩
    intro x _ y hy
    cases List.mem_singleton.mp (List.mem_of_mem_head? hy)
    cases x <;> trivial
  refine List.isChain_append.mpr ⟨hheard, hsent, ?_⟩
  intro x hx y _
  rcases hends with rfl | ⟨earlier, c, rfl⟩
  · cases hx
  · rw [List.getLast?_concat] at hx
    cases hx
    cases y <;> trivial

theorem foldl_notify_last (c : BlockConfirmations) (messages : List Notification)
    (b : RskBlockAndUncles) :
    ((messages ++ [Notification.added b]).foldl BlockConfirmations.notify c).last = b.number := by
  rw [List.foldl_append]
  rfl

/-! ## The invariant -/

namespace ObservedView

structure ObserverSound (s : ObservedView ι) (r : Registered ι) : Prop where
  /-- Replaying what it heard gives the blocks of the view. -/
  replayed : StackOp.replay r.base (r.heard.map Notification.toStackOp)
    = some s.view.blocks.values
  descends : r.heard.IsChain Notification.Descends
  endsAdded : EndsAdded r.heard
  /-- After an update its cell holds the height of the tip. -/
  atTip : r.since < s.updates →
    ∃ tip, s.view.getTip = some tip ∧ r.confirmations.last = tip.number

structure Sound (s : ObservedView ι) : Prop where
  linked : s.view.blocks.values.IsChain fun a b => IsParent a.block b.block
  observers : ∀ r ∈ s.registered, s.ObserverSound r

theorem sound_new : (new : ObservedView ι).Sound where
  linked := .nil
  observers := by
    intro r hr
    cases hr

variable {s s' : ObservedView ι} {b : RskBlockAndUncles}

theorem ObserverSound.congr {r : Registered ι} (h : s.ObserverSound r)
    (hblocks : s'.view.blocks = s.view.blocks) (hupdates : s'.updates = s.updates) :
    s'.ObserverSound r where
  replayed := by rw [hblocks]; exact h.replayed
  descends := h.descends
  endsAdded := h.endsAdded
  atTip := by
    intro hsince
    rw [hupdates] at hsince
    obtain ⟨tip, htip, hlast⟩ := h.atTip hsince
    exact ⟨tip, by rw [BlockchainView.getTip, hblocks]; exact htip, hlast⟩

theorem atLeast_reverse_descends (blocks : ViewBlocks) (n : Nat) :
    (blocks.atLeast n).values.reverse.IsChain fun x y => y.number < x.number := by
  have hsorted := (blocks.atLeast n).sorted
  exact (List.pairwise_reverse.mpr hsorted).isChain

theorem linked_replace {blocks : ViewBlocks}
    (hlinked : blocks.values.IsChain fun a b => IsParent a.block b.block)
    (hparent : ∀ p, (blocks.below b.number).last = some p → IsParent p.block b.block) :
    ((blocks.below b.number).values ++ [b]).IsChain fun a b => IsParent a.block b.block := by
  refine List.isChain_append.mpr ⟨?_, .singleton _, ?_⟩
  · -- what is kept is the lower part of the segment
    have hcut := KeyedMap.below_append_atLeast blocks b.number
    rw [← hcut] at hlinked
    exact (List.isChain_append.mp hlinked).1
  · intro p hp c hc
    cases List.mem_singleton.mp (List.mem_of_mem_head? hc)
    exact hparent p hp

theorem ObserverSound.update {s : ObservedView ι} {r : Registered ι} (h : s.ObserverSound r)
    {view : BlockchainView ι} {sent : List Notification}
    (hvalues : view.blocks.values = (s.view.blocks.below b.number).values ++ [b])
    (hsent : sent = (s.view.blocks.atLeast b.number).values.reverse.map .removed ++ [.added b])
    (others : List (Registered ι)) :
    ObserverSound { view := view, registered := others, updates := s.updates + 1 }
      (r.notify sent) where
  replayed := by
    show StackOp.replay r.base ((r.heard ++ sent).map Notification.toStackOp)
      = some view.blocks.values
    have hcut := KeyedMap.below_append_atLeast s.view.blocks b.number
    have hops : sent.map Notification.toStackOp
        = (s.view.blocks.atLeast b.number).values.reverse.map .pop ++ [.push b] := by
      rw [hsent, List.map_append, List.map_map]
      rfl
    rw [List.map_append, StackOp.replay_append, h.replayed, hops, hvalues]
    show StackOp.replay s.view.blocks.values _ = _
    rw [← hcut]
    exact StackOp.replay_replace _ _ b
  descends := by
    show (r.heard ++ sent).IsChain _
    rw [hsent]
    exact isChain_append_sent h.descends h.endsAdded (atLeast_reverse_descends _ _)
  endsAdded := by
    refine .inr ⟨r.heard ++ (s.view.blocks.atLeast b.number).values.reverse.map .removed, b, ?_⟩
    rw [List.append_assoc, ← hsent]
    rfl
  atTip := by
    intro _
    refine ⟨b, ?_, ?_⟩
    · show view.blocks.values.getLast? = some b
      rw [hvalues, List.getLast?_concat]
    · show (sent.foldl BlockConfirmations.notify r.confirmations).last = b.number
      rw [hsent]
      exact foldl_notify_last _ _ b

theorem step_update_of_known [DecidableEq ι] (s : ObservedView ι)
    (hknown : s.view.isKnown b = true) : s.step (.update b) = .ok s := by
  have hupdate : s.view.update b = .ok (s.view, []) := by
    simp only [BlockchainView.update, hknown, if_true]
  have hnotify : s.registered.map (·.notify []) = s.registered := by
    refine List.map_id'' (fun r => ?_) s.registered
    show { r with confirmations := r.confirmations, heard := r.heard ++ [] } = r
    rw [List.append_nil]
  simp only [step, hupdate, hknown, if_true]
  show Except.ok { s with registered := s.registered.map (·.notify []) } = Except.ok s
  rw [hnotify]

theorem isKnown_of_mem {view : BlockchainView ι} {b b' : RskBlockAndUncles}
    (hb : b ∈ view.blocks.values) (hnumber : b'.number = b.number) (hhash : b'.hash = b.hash) :
    view.isKnown b' = true := by
  have hget : view.blocks.get b'.number = some b := by
    rw [hnumber]
    exact KeyedMap.get_of_mem hb
  simp only [BlockchainView.isKnown, hget, hhash, decide_true]

theorem Sound.addObserver [DecidableEq ι] (h : s.Sound) {id : ι}
    {confirmations : BlockConfirmations}
    (hstep : s.step (.addObserver id confirmations) = .ok s') : s'.Sound := by
  obtain ⟨view, hview, hs'⟩ := bind_eq_ok.mp hstep
  cases hs'
  have hblocks : view.blocks = s.view.blocks := by
    unfold BlockchainView.addObserver at hview
    split at hview
    · cases hview
    · cases hview
      rfl
  refine ⟨by rw [hblocks]; exact h.linked, fun r hr => ?_⟩
  rcases List.mem_cons.mp hr with rfl | hr
  · -- the new observer has heard nothing yet
    exact ⟨by rw [hblocks]; rfl, .nil, .inl rfl, fun hsince => absurd hsince (Nat.lt_irrefl _)⟩
  · exact (h.observers r hr).congr hblocks rfl

/-- **One operation** keeps the view linked and its observers in step. -/
theorem Sound.step [DecidableEq ι] (h : s.Sound) {op : ViewOp ι}
    (hstep : s.step op = .ok s') : s'.Sound := by
  cases op with
  | update b =>
    by_cases hknown : s.view.isKnown b = true
    · rw [step_update_of_known s hknown] at hstep
      cases hstep
      exact h
    · have hknown : s.view.isKnown b = false := by simpa using hknown
      obtain ⟨⟨view, sent⟩, hupdate, hs'⟩ := bind_eq_ok.mp hstep
      obtain ⟨hvalues, hsent, hparent⟩ := BlockchainView.update_replaces hknown hupdate
      simp only [hknown, Bool.false_eq_true, if_false] at hs'
      cases hs'
      refine ⟨?_, fun r hr => ?_⟩
      · show view.blocks.values.IsChain _
        rw [hvalues]
        exact linked_replace h.linked hparent
      · obtain ⟨old, hold, rfl⟩ := List.mem_map.mp hr
        exact (h.observers old hold).update hvalues hsent _
  | clear =>
    cases hstep
    exact ⟨.nil, fun r hr => by cases hr⟩
  | addObserver id confirmations => exact h.addObserver hstep
  | removeObserver id =>
    cases hstep
    exact ⟨h.linked, fun r hr => (h.observers r (List.mem_filter.mp hr).1).congr rfl rfl⟩

theorem Sound.foldlM [DecidableEq ι] (h : s.Sound)
    {ops : List (ViewOp ι)} (hrun : ops.foldlM ObservedView.step s = .ok s') : s'.Sound := by
  induction ops generalizing s with
  | nil =>
    cases hrun
    exact h
  | cons op ops ih =>
    rw [List.foldlM_cons] at hrun
    obtain ⟨next, hnext, hrun⟩ := bind_eq_ok.mp hrun
    exact ih (h.step hnext) hrun

end ObservedView

/-- The count of a cell at the height of the tip, as a 64-bit number: it is right unless it is
`2 ^ 64`, the count of an observer that starts at block 0 when the tip has the last number. -/
theorem accum_eq_iff {c : BlockConfirmations} {tip : RskBlockAndUncles}
    (hlast : c.last = tip.number) :
    ((c.accum : ℤ) = max 0 ((tip.number : ℤ) - c.init + 1)
      ↔ ¬ (c.init = 0 ∧ tip.number = 2 ^ 64 - 1)) := by
  have hlt : tip.number < 2 ^ 64 := tip.block.number_lt
  unfold BlockConfirmations.accum
  rw [hlast]
  split
  · next h => exact ⟨fun _ hcorner => by omega, fun _ => by push_cast; omega⟩
  · next h =>
    by_cases hcorner : c.init = 0 ∧ tip.number = 2 ^ 64 - 1
    · obtain ⟨hinit, htip⟩ := hcorner
      rw [hinit, htip]
      exact ⟨fun hwrong => absurd hwrong (by decide), fun hnot => absurd ⟨rfl, rfl⟩ hnot⟩
    · rw [Nat.mod_eq_of_lt (by omega)]
      exact ⟨fun _ => hcorner, fun _ => by omega⟩

/-- **The view and its observers** after any operations that did not panic. The blocks form a
linked segment. A block that is stored already changes nothing. What an observer heard, replayed on
the blocks it was registered with, gives the blocks of the view, and blocks are removed from the top
down. An observer registered before the last update that was not ignored counts the blocks from its
start to the tip, and does so exactly as long as the count is below `2 ^ 64`. -/
theorem observers_follow_view [DecidableEq ι] (ops : List (ViewOp ι)) (s : ObservedView ι)
    (hrun : ObservedView.run ops = .ok s) :
    (s.view.blocks.values.IsChain fun a b => IsParent a.block b.block)
      ∧ (∀ b ∈ s.view.blocks.values, ∀ b', b'.number = b.number → b'.hash = b.hash →
          s.step (.update b') = .ok s)
      ∧ (∀ r ∈ s.registered,
          StackOp.replay r.base (r.heard.map Notification.toStackOp) = some s.view.blocks.values
            ∧ r.heard.IsChain Notification.Descends)
      ∧ ∀ r ∈ s.registered, r.since < s.updates → ∃ tip, s.view.getTip = some tip
          ∧ ((r.confirmations.accum : ℤ) = max 0 ((tip.number : ℤ) - r.confirmations.init + 1)
            ↔ ¬ (r.confirmations.init = 0 ∧ tip.number = 2 ^ 64 - 1)) := by
  have hsound : s.Sound := ObservedView.sound_new.foldlM hrun
  refine ⟨hsound.linked, fun b hb b' hnumber hhash => ?_, fun r hr => ?_, fun r hr hsince => ?_⟩
  · exact s.step_update_of_known (ObservedView.isKnown_of_mem hb hnumber hhash)
  · exact ⟨(hsound.observers r hr).replayed, (hsound.observers r hr).descends⟩
  · obtain ⟨tip, htip, hlast⟩ := (hsound.observers r hr).atTip hsince
    exact ⟨tip, htip, accum_eq_iff hlast⟩

/-- A chain of three blocks with an observer on it, reorganised from the second block on. -/
def reorgOps : List (ViewOp Nat) :=
  [.update ⟨.plain 10 0xa10 0x9 0, []⟩, .addObserver 1 (.new 11 2),
    .update ⟨.plain 11 0xa11 0xa10 0, []⟩, .update ⟨.plain 12 0xa12 0xa11 0, []⟩,
    .update ⟨.plain 11 0xb11 0xa10 0, []⟩]

/-- The observer hears of blocks 11 and 12, of their removal and of the new block 11, and counts
one block. -/
theorem observers_follow_view_reorgOps :
    ∃ s, ObservedView.run reorgOps = .ok s ∧ s.updates = 4
      ∧ s.registered.map (fun r => (r.heard.length, r.confirmations.accum)) = [(5, 1)]
      ∧ ∀ r ∈ s.registered, r.since < s.updates → ∃ tip, s.view.getTip = some tip
          ∧ ((r.confirmations.accum : ℤ) = max 0 ((tip.number : ℤ) - r.confirmations.init + 1)
            ↔ ¬ (r.confirmations.init = 0 ∧ tip.number = 2 ^ 64 - 1)) := by
  refine ⟨_, rfl, rfl, rfl, ?_⟩
  exact (observers_follow_view reorgOps _ rfl).2.2.2

/-- The observer of block 0 counts no block at all when the tip has the last number. -/
theorem accum_zero_at_last_number :
    ∃ s : ObservedView Nat,
      ObservedView.run [.addObserver 1 (.new 0 2), .update ⟨.plain (2 ^ 64 - 1) 0xa1 0xa0 0, []⟩]
        = .ok s
      ∧ ∃ r ∈ s.registered, ∃ tip, r.since < s.updates ∧ s.view.getTip = some tip
        ∧ r.confirmations.accum = 0
        ∧ max 0 ((tip.number : ℤ) - r.confirmations.init + 1) = 2 ^ 64 := by
  exact ⟨_, rfl, _, List.mem_singleton.mpr rfl, _, by decide, rfl, by decide +kernel,
    by decide +kernel⟩

end UnionBridge.Coordinator
