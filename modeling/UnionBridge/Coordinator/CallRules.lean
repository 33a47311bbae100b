import UnionBridge.Coordinator.EventConfirmations

/-!
# What a call of a processor keeps

An invariant `I` of the core survives a call when it survives the handlers that the call runs on the
core: what surrounds them, the waiting events and the snapshot of the processor, does not touch the
core. What is stored of the core satisfies `T`.
-/

namespace UnionBridge.Coordinator

open Chain Contracts Effect

variable {κ α : Type}

/-- The invariant of the core, in the state of the processor. -/
def Carried (I : World κ → Prop) (T : κ → Prop) (w : World (Gated κ)) : Prop :=
  I ⟨w.own.core, w.log⟩ ∧ ∀ saved, w.own.saved = some saved → T saved.1

section Carried

variable {I : World κ → Prop} {T : κ → Prop}

theorem keeps_carried_liftCore {m : Program κ α} (hm : Keeps I m) :
    Keeps (Carried I T) (liftCore m) := by
  intro w hw
  rw [wp_liftCore]
  exact wp_always (hm _ hw.1) fun _ ht => ⟨ht, hw.2⟩

theorem keeps_carried_stopConfirmingEvent (id : EventId) :
    Keeps (Carried I T) (stopConfirmingEvent id) := by
  intro w hw
  rw [stopConfirmingEvent, wp_modifyGet]
  exact hw

theorem keeps_carried_orFailure (result : Outcome α) : Keeps (Carried I T) (orFailure result) := by
  unfold orFailure
  split
  · exact keeps_pure _
  · exact keeps_throw _
  · exact keeps_throw _

theorem keeps_carried_processBlockConfirmations {env : CallEnv}
    {handle : RskPegManagerEvents → Program κ Unit} {cleanup : Program κ Unit}
    (hhandle : ∀ event, Keeps I (handle event)) (hcleanup : Keeps I cleanup)
    (block : RskBlockAndUncles) :
    Keeps (Carried I T) (processBlockConfirmations env handle cleanup block) := by
  have hevent : ∀ key, Keeps (Carried I T) (confirmEvent handle key) := by
    intro key
    refine keeps_bind (keeps_carried_stopConfirmingEvent key) fun event => ?_
    split
    · exact keeps_pure ()
    · exact keeps_carried_liftCore (hhandle _)
  refine keeps_bind (fun _ hw => hw) fun w => ?_
  split
  · exact keeps_pure ()
  · refine keeps_bind (keeps_carried_orFailure _) fun confirming => ?_
    refine keeps_bind (keeps_modify fun _ hw => hw) fun _ => ?_
    exact keeps_bind (keeps_forM hevent _) fun _ => keeps_carried_liftCore hcleanup

theorem keeps_carried_persistProcessorState {env : CallEnv}
    (hcalled : ∀ {w : World κ} (entry : LogEntry), I w → I ⟨w.own, entry :: w.log⟩)
    (hstored : ∀ {w : World κ}, I w → T w.own) (key : StoreKey) :
    Keeps (Carried I T) (persistProcessorState env key) := by
  intro w hw
  simp only [persistProcessorState, wp_bind, wp_perform, wp_orText, wp_modify]
  refine ⟨fun _ _ => ⟨hcalled _ hw.1, ?_⟩, fun _ _ => ⟨hcalled _ hw.1, hw.2⟩⟩
  rintro saved hsaved
  cases hsaved
  exact hstored hw.1

theorem keeps_carried_trackEvent (requiredConfirmations : UInt32) (info : EventInfo)
    (event : RskPegManagerEvents) :
    Keeps (Carried I T) (trackEvent requiredConfirmations info event) := by
  unfold trackEvent
  split
  · exact keeps_bind (keeps_carried_stopConfirmingEvent _) fun _ => keeps_pure ()
  · refine keeps_bind (fun _ hw => hw) fun w => ?_
    refine keeps_bind (fun w' hw => ?_) fun confirming => keeps_modify fun _ hw => hw
    rw [wp_withContext]
    exact keeps_carried_orFailure _ w' hw

end Carried

/-! ## Pending events -/

namespace Confirming

def Pends (c : Confirming) (event : RskPegManagerEvents) : Prop :=
  ∃ key pending, c.eventsConfirming.lookup key = some pending ∧ pending.data = event

def Confirms (c : Confirming) (block : RskBlockAndUncles) (event : RskPegManagerEvents) : Prop :=
  ∃ c' key pending, c.update block = .ok c' ∧ c'.eventsConfirming.lookup key = some pending
    ∧ pending.confirmations.isConfirmed = true ∧ pending.data = event

theorem pends_notifyObservers {c : Confirming} {view : BlockchainView EventId}
    {sent : List Notification} {event : RskPegManagerEvents} (h : c.Pends event) :
    (c.notifyObservers view sent).Pends event := by
  obtain ⟨key, pending, hlookup, rfl⟩ := h
  have hmem := List.mem_map_of_mem (f := fun e : Sigma fun _ : EventId => PendingEvent =>
    (⟨e.1, if e.1 ∈ view.observers then
      { e.2 with confirmations := sent.foldl BlockConfirmations.notify e.2.confirmations }
      else e.2⟩ : Sigma fun _ : EventId => PendingEvent)) (AList.mem_lookup_iff.mp hlookup)
  refine ⟨key, _, AList.mem_lookup_iff.mpr hmem, ?_⟩
  split <;> rfl

theorem pends_update {c c' : Confirming} {block : RskBlockAndUncles} {event : RskPegManagerEvents}
    (hupdate : c.update block = .ok c') (h : c.Pends event) : c'.Pends event := by
  unfold update at hupdate
  cases hview : c.blockchainView.update block with
  | error e =>
    rw [hview] at hupdate
    cases hupdate
  | ok result =>
    rw [hview] at hupdate
    cases hupdate
    exact pends_notifyObservers h

theorem mem_confirmedKeys {c : Confirming} {rank : EventId → Nat} {key : EventId} :
    key ∈ c.confirmedKeys rank ↔ ∃ pending, c.eventsConfirming.lookup key = some pending
      ∧ pending.confirmations.isConfirmed = true :=
  Table.mem_filter_inOrder

theorem stopConfirmingEvent_lookup (c : Confirming) (id key : EventId) :
    (c.stopConfirmingEvent id).1 = c.eventsConfirming.lookup id
      ∧ (c.stopConfirmingEvent id).2.eventsConfirming.lookup key
        = if key = id then none else c.eventsConfirming.lookup key := by
  unfold stopConfirmingEvent
  by_cases hkey : key = id
  · subst hkey
    cases hlookup : c.eventsConfirming.lookup key with
    | none => exact ⟨rfl, by rw [if_pos rfl]; exact hlookup⟩
    | some event => exact ⟨rfl, by rw [if_pos rfl]; exact AList.lookup_erase _ _⟩
  · rw [if_neg hkey]
    cases c.eventsConfirming.lookup id with
    | none => exact ⟨rfl, rfl⟩
    | some event => exact ⟨rfl, AList.lookup_erase_ne hkey⟩

/-- The cell that was there before is taken out first, so the view never refuses the new one. -/
theorem startConfirming_eq (c : Confirming) (id : EventId) (blockNumber : Nat)
    (requiredConfirmations : UInt32) (event : RskPegManagerEvents) :
    ∃ view, c.startConfirming id blockNumber requiredConfirmations event
      = .ok ⟨view, c.eventsConfirming.insert id
        ⟨event, .new blockNumber requiredConfirmations⟩⟩ := by
  have hfree : id ∉ (c.blockchainView.removeObserver id).observers := by
    rw [BlockchainView.removeObserver, List.mem_filter]
    simp
  unfold startConfirming BlockchainView.addObserver
  rw [if_neg hfree]
  exact ⟨_, rfl⟩

end Confirming

section Pending

theorem trackEvent_pends {requiredConfirmations : UInt32} {info : EventInfo}
    {event : RskPegManagerEvents} (hremoved : info.removed = false) {w : World (Gated κ)} :
    wp (trackEvent requiredConfirmations info event) (fun _ w' => w'.own.confirming.Pends event)
      (fun _ _ => False) w := by
  obtain ⟨view, hstart⟩ := w.own.confirming.startConfirming_eq info.id info.blockNumber
    requiredConfirmations event
  simp only [trackEvent, hremoved, Bool.false_eq_true, if_false, wp_bind, wp_get, wp_withContext,
    hstart, orFailure, wp_pure, wp_modify]
  exact ⟨info.id, _, AList.lookup_insert _, rfl⟩

/-- Every event that `c` had pending still pends, or was handled; the handler notes that in `Seen`. -/
def Accounted (Seen : RskPegManagerEvents → World κ → Prop) (c : Confirming)
    (w : World (Gated κ)) : Prop :=
  ∀ event, c.Pends event → w.own.confirming.Pends event ∨ Seen event ⟨w.own.core, w.log⟩

variable {env : CallEnv} {I : World κ → Prop} {Seen : RskPegManagerEvents → World κ → Prop}
  {handle : RskPegManagerEvents → Program κ Unit} {cleanup : Program κ Unit}
  {block : RskBlockAndUncles} {w : World (Gated κ)}
  (hseen : ∀ other event, Keeps (Seen other) (handle event))
  (hnotes : ∀ event w, wp (handle event) (fun _ => Seen event) (fun _ => Seen event) w)

include hseen hnotes

/-- One pass of the loop. The event leaves the table before its handler runs. -/
theorem wp_confirmEvent {c : Confirming} {key : EventId} (hI : I ⟨w.own.core, w.log⟩)
    (haccounted : Accounted Seen c w)
    (hhandle : ∀ pending, w.own.confirming.eventsConfirming.lookup key = some pending →
      Keeps I (handle pending.data)) :
    let After : World (Gated κ) → Prop := fun w' =>
      (I ⟨w'.own.core, w'.log⟩ ∧ Accounted Seen c w')
        ∧ ∀ other pending, w'.own.confirming.eventsConfirming.lookup other = some pending →
          w.own.confirming.eventsConfirming.lookup other = some pending
    wp (confirmEvent handle key) (fun _ => After) (fun _ => After) w := by
  intro After
  obtain ⟨confirming, hstop, hother⟩ : ∃ confirming, w.own.confirming.stopConfirmingEvent key
        = (w.own.confirming.eventsConfirming.lookup key, confirming)
      ∧ ∀ other, confirming.eventsConfirming.lookup other
        = if other = key then none else w.own.confirming.eventsConfirming.lookup other :=
    ⟨_, Prod.ext (w.own.confirming.stopConfirmingEvent_lookup key key).1 rfl,
      fun other => (w.own.confirming.stopConfirmingEvent_lookup key other).2⟩
  have hleft : ∀ other pending, confirming.eventsConfirming.lookup other = some pending →
      w.own.confirming.eventsConfirming.lookup other = some pending := by
    intro other pending hlookup
    rw [hother] at hlookup
    split at hlookup
    · cases hlookup
    · exact hlookup
  -- an event under another key pends as before
  have hstays : ∀ other pending, other ≠ key →
      w.own.confirming.eventsConfirming.lookup other = some pending →
      confirming.Pends pending.data := fun other pending hne hlookup =>
    ⟨other, pending, (hother other).trans ((if_neg hne).trans hlookup), rfl⟩
  simp only [confirmEvent, stopConfirmingEvent, wp_bind, wp_modifyGet, hstop]
  cases hlookup : w.own.confirming.eventsConfirming.lookup key with
  | none =>
    refine ⟨⟨hI, fun event hp => (haccounted event hp).imp_left ?_⟩, hleft⟩
    rintro ⟨other, pending, hpending, rfl⟩
    exact hstays other pending (fun heq => by cases (heq ▸ hlookup).symm.trans hpending) hpending
  | some pending =>
    have hafter : ∀ t : World κ, (I t ∧ Seen pending.data t)
        ∧ (∀ other, Seen other ⟨w.own.core, w.log⟩ → Seen other t) →
        After ⟨{ w.own with confirming := confirming, core := t.own }, t.log⟩ := by
      rintro t ⟨⟨ht, hself⟩, hothers⟩
      refine ⟨⟨ht, fun event hp => ?_⟩, hleft⟩
      rcases haccounted event hp with ⟨other, pending', hpending, rfl⟩ | hs
      · by_cases heq : other = key
        · subst heq
          cases hlookup.symm.trans hpending
          exact .inr hself
        · exact .inl (hstays other pending' heq hpending)
      · exact .inr (hothers event hs)
    rw [wp_liftCore]
    have hall := wp_and (wp_and (hhandle pending hlookup _ hI) (hnotes pending.data _))
      (keeps_forall (fun other => hseen other pending.data)
        (P := fun event => Seen event ⟨w.own.core, w.log⟩) _ fun _ hs => hs)
    exact wp_always hall hafter

/-- **No pending event is lost.** Whatever fails, an event that pends before the confirmations of a
block pends after them, or it had its confirmations and was handed to its handler. -/
theorem wp_processBlockConfirmations (hI : I ⟨w.own.core, w.log⟩)
    (hhandle : ∀ event, w.own.confirming.Confirms block event → Keeps I (handle event))
    (hcleanup : Keeps I cleanup) (hseenCleanup : ∀ other, Keeps (Seen other) cleanup) :
    let After : World (Gated κ) → Prop := fun w' =>
      I ⟨w'.own.core, w'.log⟩ ∧ Accounted Seen w.own.confirming w'
    wp (processBlockConfirmations env handle cleanup block) (fun _ => After) (fun _ => After) w := by
  intro After
  have hidle : After w := ⟨hI, fun _ hpends => .inl hpends⟩
  simp only [processBlockConfirmations, wp_bind, wp_get, wp_ite, wp_pure]
  split
  · exact hidle
  cases hupdate : w.own.confirming.update block with
  | error e =>
    cases e with
    | err message => exact hidle
    | panic message => exact hidle
  | ok confirming =>
    simp only [orFailure, wp_pure, wp_modify]
    -- what pends in the loop is what the update left, and nothing else is confirmed
    let J : List EventId → World (Gated κ) → Prop := fun rest w' => After w'
      ∧ (∀ key pending, w'.own.confirming.eventsConfirming.lookup key = some pending →
        confirming.eventsConfirming.lookup key = some pending)
      ∧ ∀ key ∈ rest, key ∈ confirming.confirmedKeys (env.rank w.log .eventsConfirming)
    have hloop : wp ((confirming.confirmedKeys (env.rank w.log .eventsConfirming)).forM
        (confirmEvent handle)) (fun _ => J []) (fun _ => After)
        ⟨{ w.own with confirming := confirming }, w.log⟩ := by
      refine wp_forM J ?_ ⟨⟨hI, fun _ hpends => .inl (Confirming.pends_update hupdate hpends)⟩,
        fun _ _ h => h, fun _ h => h⟩
      rintro key rest w₁ ⟨⟨hI₁, haccounted⟩, hleft, hrest⟩
      have hhandle₁ : ∀ pending, w₁.own.confirming.eventsConfirming.lookup key = some pending →
          Keeps I (handle pending.data) := by
        intro pending hlookup
        obtain ⟨pending', hpending', hconfirmed⟩ :=
          Confirming.mem_confirmedKeys.mp (hrest key List.mem_cons_self)
        cases hpending'.symm.trans (hleft key pending hlookup)
        exact hhandle _ ⟨confirming, key, pending, hupdate, hpending', hconfirmed, rfl⟩
      apply wp_mono (wp_confirmEvent hseen hnotes hI₁ haccounted hhandle₁)
      · rintro _ w₂ ⟨hafter, hsub⟩
        exact ⟨hafter, fun other pending hlookup => hleft other pending (hsub other pending hlookup),
          fun other h => hrest other (List.mem_cons_of_mem _ h)⟩
      · exact fun _ w₂ h => h.1
    apply wp_imp hloop
    rintro _ w₁ ⟨⟨hI₁, haccounted⟩, -⟩
    rw [wp_liftCore]
    have hall := wp_and (hcleanup _ hI₁) (keeps_forall hseenCleanup
      (P := fun event => Seen event ⟨w₁.own.core, w₁.log⟩) _ fun _ hs => hs)
    exact wp_always hall
      fun _ ht => ⟨ht.1, fun event hp => (haccounted event hp).imp_right (ht.2 event)⟩

end Pending

/-- An invariant of the core survives the confirmations of a block when the handlers of the events
that have their confirmations with it keep it. -/
theorem wp_carried_processBlockConfirmations {env : CallEnv} {I : World κ → Prop} {T : κ → Prop}
    {handle : RskPegManagerEvents → Program κ Unit} {cleanup : Program κ Unit}
    {block : RskBlockAndUncles} {w : World (Gated κ)} (hw : Carried I T w)
    (hhandle : ∀ event, w.own.confirming.Confirms block event → Keeps I (handle event))
    (hcleanup : Keeps I cleanup) :
    wp (processBlockConfirmations env handle cleanup block) (fun _ => Carried I T)
      (fun _ => Carried I T) w := by
  have htrivial : ∀ {β : Type} (m : Program κ β), Keeps (fun _ => True) m :=
    fun _ _ _ => wp_trivial
  have hkept : wp (processBlockConfirmations env handle cleanup block)
      (fun _ w' => I ⟨w'.own.core, w'.log⟩ ∧ Accounted (fun _ _ => True) w.own.confirming w')
      (fun _ w' => I ⟨w'.own.core, w'.log⟩ ∧ Accounted (fun _ _ => True) w.own.confirming w') w :=
    wp_processBlockConfirmations (fun _ _ => htrivial _) (fun _ _ => wp_trivial) hw.1 hhandle
      hcleanup fun _ => htrivial _
  have hsaved : wp (processBlockConfirmations env handle cleanup block)
      (fun _ => Carried (fun _ => True) T) (fun _ => Carried (fun _ => True) T) w :=
    keeps_carried_processBlockConfirmations (fun event => htrivial (handle event))
      (htrivial cleanup) block w ⟨trivial, hw.2⟩
  exact wp_mono (wp_and hkept hsaved) (fun _ _ h => ⟨h.1.1, h.2.2⟩) fun _ _ h => ⟨h.1.1, h.2.2⟩

end UnionBridge.Coordinator
