import UnionBridge.CommitteeSetup.Transitions
import UnionBridge.Coordinator.Store

/-!
# The committees of the node when its application is completed

With the event of a pending committee the node makes the committee one of its own and only then builds
the data of the committee, which asks the contracts for the keys of every member. An error there leaves
the committee in `my_committees`: the loop of the coordinator logs the error and saves the context.
-/

namespace UnionBridge.CommitteeSetup

open Contracts Bitvmx Effect CoordinatorStore

def SameCommittees (w w' : World Flow) : Prop :=
  w'.own.globalContext.myCommittees = w.own.globalContext.myCommittees

instance : AllowsCalls SameCommittees where
  refl _ := rfl
  trans _ _ _ h h' := h'.trans h
  call _ _ := rfl

/-- The event is about a new committee with this node among its members, and the request that it
answers is at hand. -/
def Joins (config : Config) (data : StepData) (w : World Flow) : Prop :=
  ∃ event input, data = .pendingCommittee event ∧ w.ctx.userInput = some input
    ∧ w.own.globalContext.imMember event.inner.committeeId = false
    ∧ (event.inner.committee.members.val.any fun member => member.memberAddress = config.myAddress)
      = true

section Programs

variable {config : Config} {env : Env} {data : StepData} {w : World Flow}

theorem sameCommittees_buildCommitteeData : Within SameCommittees (buildCommitteeData config env) :=
  .bind Stays.within fun _ => .okOr fun _ => .bind Stays.within fun _ _ => rfl

theorem sameCommittees_depositCommunicationData :
    Within SameCommittees (depositCommunicationData config env) := by
  have hstays : Stays SameCommittees (depositCommunicationData config env) := by
    unfold depositCommunicationData
    infer_instance
  exact hstays.within

theorem sameCommittees_startStep {next : Steps}
    (hnext : next = .depositP2PDataAuthoritativeCheckpoint ∨ next = .done) :
    Within SameCommittees (startStep config env next) := by
  have hpersist : Within SameCommittees (persistState env) :=
    .bind .get fun _ => .bind Stays.within fun _ => .bind Stays.within fun _ _ => rfl
  refine .bind (fun _ => rfl) fun _ => .bind ?_ fun _ => hpersist
  rcases hnext with rfl | rfl
  · exact sameCommittees_depositCommunicationData
  · exact .bind .get fun _ => .bind Stays.within fun _ => Stays.within

/-- However the step ends, the committees are the same exactly if the node does not join. -/
theorem completeStep_committees (hstep : w.own.state.step = .applyToStream) :
    SameCommittees w (after (completeStep config env data) w) ↔ ¬ Joins config data w := by
  refine after_of_wp (P := fun w' => SameCommittees w w' ↔ ¬ Joins config data w) ?_
  have hkept : ∀ {w' : World Flow}, ¬ Joins config data w → SameCommittees w w' →
      (SameCommittees w w' ↔ ¬ Joins config data w) := fun hjoins hsame => iff_of_true hsame hjoins
  simp only [completeStep, wp_bind, wp_get, hstep, closeStep, StepData.intoCommitteePending, expected,
    wp_okOr]
  refine ⟨fun event hevent => ?_, fun hnone => hkept ?_ rfl⟩
  · simp only [imSelectedToNewCommittee, getGlobal, wp_bind, wp_get, wp_pure, wp_ensure]
    obtain rfl : data = .pendingCommittee event := by
      cases data with
      | pendingCommittee => exact congrArg _ (Option.some.inj hevent)
      | _ => cases hevent
    have hjoins : Joins config (.pendingCommittee event) w → w.ctx.userInput ≠ none
        ∧ w.own.globalContext.imMember event.inner.committeeId = false
        ∧ (event.inner.committee.members.val.any fun member =>
          member.memberAddress = config.myAddress) = true := by
      rintro ⟨_, input, ⟨⟩, hinput, hrest⟩
      exact ⟨by rw [hinput]; exact Option.some_ne_none _, hrest⟩
    split
    · next hnew =>
      rw [wp_ite]
      split
      · next hselected =>
        simp only [updateMyCommittees, modifyCtx, modifyGlobal, getCtx, FlowContext.getUserInput, wp_bind,
          wp_modify, wp_get, wp_pure, wp_okOr]
        refine ⟨fun input hinput => ?_, fun hnone => hkept (fun h => (hjoins h).1 hnone) rfl⟩
        have hadded : ∀ {w' : World Flow}, w'.own.globalContext.myCommittees
            = w.own.globalContext.myCommittees.insert event.inner.committeeId input.role →
            (SameCommittees w w' ↔ ¬ Joins config (.pendingCommittee event) w) := by
          intro w' hadded
          refine iff_of_false (fun hsame => ?_) fun hnot => hnot ⟨event, input, rfl, hinput, hnew, hselected⟩
          rw [GlobalContext.imMember, hsame.symm.trans hadded, AList.lookup_insert] at hnew
          cases hnew
        -- nothing that comes after takes the committee out again
        refine wp_mono (within_iff_wp.mp sameCommittees_buildCommitteeData _) (fun _ w₁ h₁ => ?_)
          fun _ _ h₁ => hadded h₁
        exact wp_always (within_iff_wp.mp (sameCommittees_startStep (.inl rfl)) w₁) fun _ h₂ =>
          hadded (h₂.trans h₁)
      · next hother =>
        exact wp_always (within_iff_wp.mp (sameCommittees_startStep (.inr rfl)) w) fun _ =>
          hkept fun h => hother (hjoins h).2.2
    · next hmember => exact hkept (fun h => hmember (hjoins h).2.1) rfl
  · rintro ⟨event, _, rfl, -⟩
    cases hnone

end Programs

/-! ## What is persisted -/

def persistedCommittees {J : Type} (uuids : UuidText) (serde : Serde J PersistentGlobalContext)
    (rank : CommitteeId → Nat) (db : Table String J) :
    Except String (Option (Table CommitteeId ParticipantRole)) :=
  (loadContext uuids serde rank db).map (·.map (·.myCommittees))

theorem persistedCommittees_saveContext {J : Type} {uuids : UuidText}
    {serde : Serde J PersistentGlobalContext} {rank : CommitteeId → Nat} {db : Table String J}
    {context : GlobalContext} : persistedCommittees uuids serde rank (saveContext uuids serde context db)
      = .ok (some (.ofList (context.myCommittees.inOrder rank))) := by
  unfold persistedCommittees loadContext CoordinatorStore.get saveContext
  rw [AList.lookup_insert]
  simp only [serde.fromText_toText]
  rfl

/-- **A failed application leaves the committees alone exactly if the node does not join one**, in
memory and in the store, to which the loop of the coordinator saves the context after each message,
whether the processors fail or not. -/
theorem failed_application_keeps_committees {J : Type} (uuids : UuidText)
    (serde : Serde J PersistentGlobalContext) (rank : CommitteeId → Nat) (db : Table String J)
    (config : Config) (env : Env) (data : StepData) (w : World Flow)
    (hstep : w.own.state.step = .applyToStream) :
    let w' := after (completeStep config env data) w
    let saved := saveContext uuids serde w.own.globalContext db
    fails (completeStep config env data) w = true →
    (SameCommittees w w'
        ∧ persistedCommittees uuids serde rank (saveContext uuids serde w'.own.globalContext saved)
          = persistedCommittees uuids serde rank saved
      ↔ ¬ Joins config data w) := by
  intro w' saved _
  refine (and_iff_left_of_imp fun hsame => ?_).trans (completeStep_committees hstep)
  rw [persistedCommittees_saveContext, persistedCommittees_saveContext, hsame]

/-! A committee of this node alone. -/

/-- The ids in unary. -/
def unaryUuids : UuidText where
  display id := String.ofList (List.replicate id.toNat 'i')
  parseStr text := .ok (BitVec.ofNat 128 text.length)
  parseStr_display id := by simp

def plainContext : Serde PersistentGlobalContext PersistentGlobalContext := ⟨id, .ok, fun _ => rfl⟩

theorem single_bound {α : Type} (a : α) : [a].length < 2 ^ 63 := Nat.one_lt_two_pow (by decide)

def pendingEvent : NewCommitteePendingEvent :=
  ⟨⟨5, ⟨⟨[⟨1, 0⟩], single_bound _⟩, 0, []⟩⟩, 0, 0, false, 0⟩

/-- A flow that has applied, on a node with these committees. -/
def applied (committees : Table CommitteeId ParticipantRole) : World Flow :=
  ⟨⟨⟨⟨1⟩, .applyToStream, { FlowContext.default with userInput := some ⟨0, .prover, 0, 0, 0⟩ }⟩,
    ⟨committees, ⟨none, none, none⟩⟩, none⟩, []⟩

/-- The contracts do not return the keys of a member. -/
def keysRefused : Env where
  answer _ c := match c with
    | .getMemberPublicKeys _ => .error (.noRevertError "timeout")
    | c => c.accepted

/-- An event about a committee that the node is in already. -/
theorem repeated_event_keeps_committees :
    let w := applied ((∅ : Table CommitteeId ParticipantRole).insert 5 .prover)
    let program := completeStep (.sample 1) keysRefused (.pendingCommittee pendingEvent)
    fails program w = true ∧ SameCommittees w (after program w) := by
  intro w program
  refine ⟨by decide, ((failed_application_keeps_committees unaryUuids plainContext (fun _ => 0) ∅ _ _ _
    w rfl (by decide)).mpr ?_).1⟩
  rintro ⟨_, _, ⟨⟩, -, hnew, -⟩
  cases hnew

/-- The keys cannot be read: the step fails, the node is a member, in memory and after a restart. -/
theorem failed_application_joins :
    let w := applied ∅
    let program := completeStep (.sample 1) keysRefused (.pendingCommittee pendingEvent)
    let w' := after program w
    fails program w = true
      ∧ w.own.globalContext.imMember 5 = false ∧ w'.own.globalContext.imMember 5 = true
      ∧ persistedCommittees unaryUuids plainContext (fun _ => 0)
        (saveContext unaryUuids plainContext w'.own.globalContext
          (saveContext unaryUuids plainContext w.own.globalContext ∅))
        = .ok (some ((∅ : Table CommitteeId ParticipantRole).insert 5 .prover)) :=
  ⟨by decide, rfl, by decide, rfl⟩

end UnionBridge.CommitteeSetup
