import UnionBridge.CommitteeSetup.Flow

/-!
# Programs that only call

Most of what a flow does between two changes of its context is a question to the outside or a message
to `BitVMX`. Such a program stays within every relation that allows calls without funds
(`AllowsCalls`); instance search follows the way it is put together.
-/

namespace UnionBridge.CommitteeSetup

open Contracts Bitvmx Effect OpFunding

def FlowError.isFatal : FlowError → Bool
  | fatal _ => true
  | _ => false

/-- Calls were made, all of them allowed, and nothing else changed. -/
structure CallStep {σ : Type} (allowed : Call → Prop) (w w' : World σ) : Prop where
  own : w'.own = w.own
  log : ∃ new : Log, w'.log = new ++ w.log ∧ ∀ entry ∈ new, allowed entry.1

/-- The program makes allowed calls, leaves the state alone, and fails only with a fatal error. -/
def Asks {σ α : Type} (allowed : Call → Prop) (m : Program σ α) : Prop :=
  ∀ w, wp m (fun _ w' => CallStep allowed w w')
    (fun e w' => e.isFatal = true ∧ CallStep allowed w w') w

/-- A call that names no dispute key: not the funding, the application, nor an output of mine. -/
def Call.isPlain : Call → Bool
  | .applyToStream _ => false
  | .send (.sendFunds _ _ _) => false
  | .send (.setFundingUtxo _) => false
  | .send (.setVar _ _ (.utxo _)) => false
  | _ => true

def Plain (c : Call) : Prop := c.isPlain = true

/-- The batch of a call that sends funds. -/
@[reducible] def Call.batch : Call → Option (List Destination)
  | .send (.sendFunds _ batch _) => some batch
  | _ => none

/-- A relation to which a call keeps that sends no funds. -/
class AllowsCalls (R : World Flow → World Flow → Prop) : Prop extends IsPreorder (World Flow) R where
  call {w : World Flow} {c : Call} (hquiet : c.batch = none) (answer : c.Answer) :
    R w { w with log := ⟨c, answer⟩ :: w.log }

section Programs

variable {R : World Flow → World Flow → Prop} {α : Type} {config : Config} {env : Env}
  {message : IncomingBitVMXApiMessages} {m : Program Flow α}

instance [h : Stays R m] (f : FlowError → FlowError) : Stays R (mapError f m) :=
  ⟨within_iff_wp.mpr fun w => wp_mapError.mpr (within_iff_wp.mp h.within w)⟩

instance [Stays R m] (text : String) : Stays R (withContext text m) := by
  unfold withContext; infer_instance

variable [hallows : AllowsCalls R]

-- the instances of a long program nest
set_option synthInstance.maxSize 100000

theorem within_perform {c : Call} {read : c.Answer → α} (h : c.batch = none) :
    Within R (perform env c read) :=
  within_iff_wp.mpr fun _ => wp_perform.mpr (hallows.call h _)

instance {c : Call} {read : c.Answer → α} [h : Fact (c.batch = none)] :
    Stays R (perform env c read) :=
  ⟨within_perform h.out⟩

instance : Stays R (newUuid env) := by unfold newUuid; infer_instance

instance [Fact ((Call.send message).batch = none)] : Stays R (trySendBitvmxMsg env message) := by
  unfold trySendBitvmxMsg; infer_instance

instance (r : Except String α) : Stays R (orText r) := by unfold orText; split <;> infer_instance

instance (r : Except DomainErrors α) : Stays R (orDomain r) := by
  unfold orDomain; split <;> infer_instance

instance [Fact ((Call.send message).batch = none)] : Stays R (sendBitvmxMsg env message) := by
  unfold sendBitvmxMsg; infer_instance

instance : Stays R getCtx := by unfold getCtx; infer_instance

instance : Stays R getGlobal := by unfold getGlobal; infer_instance

instance (repeated : DomainErrors → Bool) (result : Except DomainErrors Unit) :
    Stays R (orRetriable repeated result) := by
  unfold orRetriable
  split
  · infer_instance
  · split
    · infer_instance
    · split <;> infer_instance

instance (kind : String) (value : Option α) : Stays R (expected kind value) := by
  unfold expected; infer_instance

/-! ## What a flow reads of its context -/

namespace FlowContext

variable (ctx : FlowContext) (g : GlobalContext)

instance : Stays R ctx.getUserInput := by unfold getUserInput; infer_instance

instance : Stays R ctx.getStreamId := by unfold getStreamId; infer_instance

instance : Stays R ctx.getCommitteeData := by unfold getCommitteeData; infer_instance

instance : Stays R ctx.getMyCommInfo := by unfold getMyCommInfo; infer_instance

instance : Stays R ctx.getAggregatedTakeKey := by unfold getAggregatedTakeKey; infer_instance

instance : Stays R ctx.getAggregatedDisputeKey := by unfold getAggregatedDisputeKey; infer_instance

instance : Stays R ctx.getMyCommunicationData := by unfold getMyCommunicationData; infer_instance

instance (shared : Option SignedPublicKey) (own : Option PubKeyReq)
    (missingRequest missingKey : String) :
    Stays R (getMyKey shared own missingRequest missingKey) := by
  unfold getMyKey; split <;> infer_instance

instance : Stays R (ctx.getMyTakeKey g) := by unfold getMyTakeKey; infer_instance

instance : Stays R (ctx.getMyDisputeKey g) := by unfold getMyDisputeKey; infer_instance

instance : Stays R (ctx.getMyCommKey g) := by unfold getMyCommKey; infer_instance

instance : Stays R (ctx.getMyProtocolUtxos config.libs g) := by
  unfold getMyProtocolUtxos; infer_instance

end FlowContext

/-! ## The questions of the steps -/

instance (address : Address) : Stays R (getMemberPublicKeysFromContracts env address) := by
  have hresult : ∀ result : Except DomainErrors (List String), Stays R (match result with
      | .ok keys => pure keys
      | .error e => throw (.fatal ("Failed to get member public keys: " ++ e.text))
      : Program Flow (List String)) := by
    intro result
    split <;> infer_instance
  unfold getMemberPublicKeysFromContracts
  infer_instance

instance (keyStr keyType : String) (address : Address) :
    Stays R (parseMemberKey config keyStr keyType address) := by
  unfold parseMemberKey; infer_instance

instance (committee : Committee) (member : CommitteeMember × Nat) :
    Stays R (buildMemberOfCommittee config env committee member) := by
  dsimp only [buildMemberOfCommittee, buildMemberFundingUtxo]; infer_instance

instance (committee : Committee) : Stays R (buildMembersOfCommittee config env committee) := by
  unfold buildMembersOfCommittee; infer_instance

instance (member : MemberOfCommittee) : Stays R (memberPubkeyHash config env member) := by
  unfold memberPubkeyHash; infer_instance

instance (data : CommunicationData) : Stays R (memberAddressText config data) := by
  unfold memberAddressText; infer_instance

instance (myAddress : SocketAddr) (member : MemberOfCommittee) :
    Stays R (memberCommunicationData config myAddress member) := by
  unfold memberCommunicationData; infer_instance

instance (libs : Libs) (members : (CommitteeMember × CommitteeMember) × Nat) :
    Stays R (validateMember libs members) := by
  unfold validateMember; infer_instance

/-! ## The programs of the committee -/

variable {data : CommitteeData}

namespace DisputeCoreSetup

instance (p2pAddresses : List CommsAddress) (member : MemberOfCommittee) :
    Stays R (setupMember config env data p2pAddresses member) := by
  dsimp only [setupMember]; infer_instance

end DisputeCoreSetup

namespace DisputeChannelSetup

instance (i : Nat) : Stays R (getDisputeCorePidForIndex config data i) := by
  unfold getDisputeCorePidForIndex; infer_instance

instance (pid : Uuid) (i : Nat) : Stays R (requestAndCreateSetupRequest env pid i) := by
  unfold requestAndCreateSetupRequest requestDisputeCoreVariables; infer_instance

instance (myIndex : Nat) (prover : Bool) (member : MemberOfCommittee) :
    Stays R (requestPartner config env data myIndex prover member) := by
  dsimp only [requestPartner]; infer_instance

instance (i : SetupOneInput) : Stays R (setupOne config env data i) := by
  dsimp only [setupOne, setUnionVerifierInputs, setProgramInput]; infer_instance

instance (xs : List (Option α)) (i : Nat) (contextMsg : String) :
    Stays R (getForIndex xs i contextMsg) := by
  unfold getForIndex; infer_instance

instance (ready : Ready) (me : Me) (partner : MemberOfCommittee × Nat) :
    Stays R (setupPartner config env data ready me partner) := by
  dsimp only [setupPartner, operatorChannel, setupChannelAsOperator, watchtowerChannel,
    setupChannelAsWatchtower]
  infer_instance

instance (myIndex : Nat) (ready : Ready) :
    Stays R (completeSetup config env data myIndex ready) := by
  dsimp only [completeSetup]; infer_instance

end DisputeChannelSetup

instance (committeeId : Uuid) (addresses : List CommsAddress) :
    Stays R (FullPenalizationSetup.setup config env committeeId addresses) := by
  dsimp only [FullPenalizationSetup.setup]; infer_instance

end Programs

end UnionBridge.CommitteeSetup
