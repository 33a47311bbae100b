import UnionBridge.CommitteeSetup.Types

/-!
# The programs of a committee (`dispute_core_setup.rs`, `dispute_channel_setup.rs`,
`full_penalization_setup.rs` and `setup_pairwise_keys` of `setup_committee_flow.rs`)

Each member asks its own `BitVMX` for the programs it takes part in: a dispute core for every member,
a key for every pair with a prover in it, and a dispute channel for every prover and every other
member. The members do not talk to each other about ids and participants. Each one derives them from
the committee data, from its own point of view.
-/

namespace UnionBridge.CommitteeSetup

open Contracts Bitvmx Effect

variable {σ : Type}

/-! ## Dispute core -/

namespace DisputeCoreSetup

structure AggregatedKeys where
  take : PublicKey
  dispute : PublicKey

/-- The messages for the dispute core of one member. -/
def setupMember (config : Config) (env : Env) (data : CommitteeData)
    (p2pAddresses : List CommsAddress) (member : MemberOfCommittee) : Program σ Uuid := do
  let protocolId := (data.getDisputeCorePidForKey config.libs member.takeKey).value
  withContext "Failed to send SetVar(DisputeCoreData) to BitVMX" <| sendBitvmxMsg env <|
    .setVar protocolId DisputeCoreData.name
      (.disputeCoreData ⟨data.committeeUuid, member.committeeIdx, member.fundingUtxo⟩)
  withContext "Failed to send Setup(DisputeCoreData) to BitVMX" <| sendBitvmxMsg env <|
    .setup protocolId programTypeDisputeCore p2pAddresses noLeaderIdx
  pure protocolId

def bitvmxSlotsPerPackage (config : Config) : Program σ UInt32 := do
  let slots ← orText config.slotsPerPackage
  if slots.toNat < 2 ^ 32 then pure (UInt32.ofNat slots.toNat)
  else throw (.fatal "SLOTS_PER_PACKAGE must fit in u32 for BitVMX")

def setup (config : Config) (env : Env) (data : CommitteeData) (p2pAddresses : List CommsAddress)
    (aggregatedKeys : AggregatedKeys) (mySpeedupFundingUtxo : Utxo) (streamDenomination : UInt64)
    (advanceFundsUtxo : PartialUtxo) : Program σ (List Uuid) := do
  let packetSize ← bitvmxSlotsPerPackage config
  let committee : BitvmxCommittee :=
    { members := data.members.val.map fun m => ⟨m.role, m.takeKey, m.disputeKey⟩
      takeAggregatedKey := aggregatedKeys.take
      disputeAggregatedKey := aggregatedKeys.dispute
      packetSize
      streamDenomination
      peginConfirmations := config.btcConfirmations
      pegoutConfirmations := config.btcConfirmations
      rejectPeginConfirmations := config.btcConfirmations }
  withContext "Failed to send SetVar(ADVANCE_FUNDS_INPUT) to BitVMX" <| sendBitvmxMsg env <|
    .setVar data.committeeUuid advanceFundsInput (.utxo advanceFundsUtxo)
  withContext "Failed to send SetFundingUtxo to BitVMX" <| sendBitvmxMsg env <|
    .setFundingUtxo mySpeedupFundingUtxo
  withContext "Failed to send SetVar(Committee) to BitVMX" <| sendBitvmxMsg env <|
    .setVar data.committeeUuid BitvmxCommittee.name (.committee committee)
  data.members.val.mapM (setupMember config env data p2pAddresses)

end DisputeCoreSetup

/-! ## Keys of pairs -/

/-- A request for the key of a pair: `participants` are the two members, the lower index first. -/
structure PairwiseKeyReq where
  aggregationId : Uuid
  myIndex : Nat
  partnerIndex : Nat
  participants : List Address
  aggregatedKey : Option PublicKey
deriving DecidableEq

/-- The name of the variable with the key of a pair. -/
def getDisputePairKeyName (idxA idxB : Nat) : String :=
  let (minI, maxI) := if idxA ≤ idxB then (idxA, idxB) else (idxB, idxA)
  "PAIRWISE_DISPUTE_KEY_" ++ toString minI ++ "_" ++ toString maxI

/-- One pass of the loop in `setup_pairwise_keys`; no request for myself and for two verifiers. -/
def setupPairwiseKey (config : Config) (env : Env) (data : CommitteeData)
    (communicationData : List CommsAddress) (myIndex : Nat) (myRole : ParticipantRole) :
    MemberOfCommittee × Nat → Program σ (Option PairwiseKeyReq)
  | (partner, partnerIndex) => do
    if partnerIndex = myIndex then return none
    if myRole ≠ .prover ∧ partner.role ≠ .prover then return none
    let (idxFirst, idxSecond) :=
      if myIndex < partnerIndex then (myIndex, partnerIndex) else (partnerIndex, myIndex)
    let participants := if myIndex < partnerIndex then [config.myAddress, partner.address]
      else [partner.address, config.myAddress]
    let aggregationId := (pairwiseAggregatedKeyProtocolId config.libs.toLibs data.committeeUuid
      (.ofNat myIndex) (.ofNat partnerIndex)).value
    let first ← index communicationData idxFirst
    let second ← index communicationData idxSecond
    trySendBitvmxMsg env (.setupKey aggregationId [first, second] none noLeaderIdx)
    return some ⟨aggregationId, myIndex, partnerIndex, participants, none⟩

def setupPairwiseKeys (config : Config) (env : Env) (data : CommitteeData)
    (communicationData : List CommsAddress) : Program σ (List PairwiseKeyReq) := do
  let myIndex ← okOr (data.memberIndex config.myAddress)
    (.fatal "My address not found in committee members")
  let me ← index data.members.val myIndex
  let requests ← data.members.val.zipIdx.mapM
    (setupPairwiseKey config env data communicationData myIndex me.role)
  pure requests.reduceOption

/-! ## Dispute channels -/

namespace DisputeChannelSetup

def drpTimelockBlocks : UInt16 := 15
def unionDrpAutoDispatchInput : UInt8 := 2
def unionDrpTimelockMultiplier : UInt16 := 4
def unionDrpJournalSizeWords : UInt32 := 76 / 4
def unionDrpElfIdHex : String := "589837bb0123b9d5854e0807a8b3ed2b15a848c19e2287ac585a31ec93d711b5"
def unionDrpOperatorId : Bytes := List.replicate 36 1
def unionDrpFlags : Bytes := [1, 0, 1, 0]

variable (config : Config) (env : Env)

def requestDisputeCoreVariables (disputeCorePid : Uuid) : Program σ Unit := do
  sendBitvmxMsg env (.getVar disputeCorePid opCosignUtxos)
  sendBitvmxMsg env (.getVar disputeCorePid wtInitChallengeUtxos)

variable (data : CommitteeData) (myIndex : Nat)

def getDisputeCorePidForIndex (memberIndex : Nat) : Program σ Uuid := do
  let member ← okOr (data.members.val[memberIndex]?)
    (.fatal ("Member index " ++ toString memberIndex ++ " out of bounds"))
  pure (data.getDisputeCorePidForKey config.libs member.takeKey).value

def requestAndCreateSetupRequest (disputeCorePid : Uuid) (memberIndex : Nat) :
    Program σ DisputeChannelSetupRequest := do
  requestDisputeCoreVariables env disputeCorePid
  pure ⟨disputeCorePid, memberIndex, none, none⟩

/-- One pass over the other members: two verifiers have no channel. -/
def requestPartner (prover : Bool) (member : MemberOfCommittee) :
    Program σ (Option DisputeChannelSetupRequest) := do
  let partnerIndex := member.committeeIdx
  if partnerIndex = myIndex then return none
  if ¬ prover ∧ member.role ≠ .prover then return none
  let disputeCorePid ← getDisputeCorePidForIndex config data partnerIndex
  some <$> requestAndCreateSetupRequest env disputeCorePid partnerIndex

/-- Ask for the variables of my dispute core first, then for those of the partners. -/
def requestDisputeCoreVar : Program σ (List DisputeChannelSetupRequest) := do
  let myMember ← okOr (data.members.val[myIndex]?)
    (.fatal "my_index is out of bounds for members array")
  let prover := myMember.role = .prover
  let myDisputeCorePid ← getDisputeCorePidForIndex config data myIndex
  let myRequest ← requestAndCreateSetupRequest env myDisputeCorePid myIndex
  let requests ← data.members.val.mapM (requestPartner config env data myIndex prover)
  pure (myRequest :: requests.reduceOption)

/-- An entry of a list of optional values. -/
def getForIndex {α : Type} (xs : List (Option α)) (i : Nat) (contextMsg : String) : Program σ α := do
  let item ← okOr (xs[i]?) (.fatal contextMsg)
  okOr item (.fatal (contextMsg ++ ": value is None"))

/-- One channel, from the point of view of neither member. -/
structure SetupOneInput where
  opIndex : Nat
  wtIndex : Nat
  operator : CommsAddress
  watchtower : CommsAddress
  pairKey : PublicKey
  wtStopper : PartialUtxo
  opStopper : PartialUtxo
  opCosign : PartialUtxo
  wtTakekey : PublicKey

section SetupOne

variable (config : Config) (data : CommitteeData) (i : SetupOneInput)

def SetupOneInput.drpId : Uuid :=
  (disputeChannelProtocolId config.libs.toLibs data.committeeUuid (.ofNat i.opIndex)
    (.ofNat i.wtIndex)).value

def SetupOneInput.disputeCorePid : Uuid :=
  (data.getDisputeCorePidForKey config.libs i.wtTakekey).value

def SetupOneInput.participants : List CommsAddress := [i.operator, i.watchtower]

def SetupOneInput.disputeConfiguration : DisputeConfiguration where
  id := i.drpId config data
  operatorsAggregatedPub := i.pairKey
  protocolConnection := (i.opCosign, 1)
  proverActions := [(i.opStopper, [1])]
  verifierActions := [(i.wtStopper, [1])]
  timelockBlocks := drpTimelockBlocks * unionDrpTimelockMultiplier
  programDefinition := config.drpProgramDefinition
  notifyProtocol := [("dispute_core", i.disputeCorePid config data)]
  autoDispatchInput := some unionDrpAutoDispatchInput

end SetupOne

def setProgramInput (drpId : Uuid) (inputIndex : Nat) (inputData : Bytes) : Program σ Unit :=
  sendBitvmxMsg env (.setVar drpId ("program_input_" ++ toString inputIndex) (.input inputData))

def setUnionVerifierInputs (drpId : Uuid) : Program σ Unit := do
  setProgramInput env drpId 0 (toBE 4 unionDrpJournalSizeWords.toNat).reverse
  let elfId ← okOr (Hex.decode unionDrpElfIdHex) (.fatal "Invalid union verifier ELF id hex")
  setProgramInput env drpId 1 elfId
  setProgramInput env drpId 3 unionDrpOperatorId
  setProgramInput env drpId 6 unionDrpFlags

def setupOne (i : SetupOneInput) : Program σ Uuid := do
  let drpId := i.drpId config data
  setUnionVerifierInputs env drpId
  sendBitvmxMsg env (.setVar drpId DisputeConfiguration.name
    (.disputeConfiguration (i.disputeConfiguration config data)))
  sendBitvmxMsg env (.setup drpId programTypeDrp i.participants noLeaderIdx)
  pure drpId

/-- What a member has ready when it completes the setup of its channels. -/
structure Ready where
  p2pAddresses : List CommsAddress
  /-- By the JSON text of the partner's address. -/
  pairwiseKeys : Table String PublicKey
  disputeCoreData : List DisputeChannelSetupRequest

def setupChannelAsOperator
    (disputeCoreData : List DisputeChannelSetupRequest) (myIndex partnerIndex : Nat)
    (myAddress partnerAddress : CommsAddress) (pairKey : PublicKey)
    (partnerMember : MemberOfCommittee) : Program σ Uuid := do
  let partnerCoreData ← okOr (disputeCoreData.find? fun req => req.memberIndex = partnerIndex)
    (.fatal ("Missing DisputeCore data for partner at index " ++ toString partnerIndex))
  let partnerClaimGateStoppers ← okOr partnerCoreData.wtInitChallengeUtxos
    (.fatal ("Missing WT_INIT_CHALLENGE_UTXOS for partner at index " ++ toString partnerIndex))
  let partnerOpCosignUtxos ← okOr partnerCoreData.opCosignUtxos
    (.fatal ("Missing OP_COSIGN_UTXOS for partner at index " ++ toString partnerIndex))
  let partnerStoppers ← getForIndex partnerClaimGateStoppers myIndex
    ("Missing partner stoppers for my index " ++ toString myIndex ++ " in partner data")
  let partnerCosign ← getForIndex partnerOpCosignUtxos myIndex
    ("Missing partner cosign for my index " ++ toString myIndex ++ " in partner data")
  setupOne config env data
    { opIndex := myIndex, wtIndex := partnerIndex, operator := myAddress
      watchtower := partnerAddress, pairKey, wtStopper := partnerStoppers.wtStopper
      opStopper := partnerStoppers.opStopper, opCosign := partnerCosign
      wtTakekey := partnerMember.takeKey }

def setupChannelAsWatchtower (myOpCosignUtxos : List (Option PartialUtxo))
    (myClaimGateStoppers : List (Option WtInitChallengeUtxos)) (myIndex partnerIndex : Nat)
    (myAddress partnerAddress : CommsAddress) (pairKey wtTakekey : PublicKey) : Program σ Uuid := do
  let myStoppers ← getForIndex myClaimGateStoppers partnerIndex
    ("Missing my stoppers for partner index " ++ toString partnerIndex ++ " in my data")
  let myCosign ← getForIndex myOpCosignUtxos partnerIndex
    ("Missing my cosign for partner index " ++ toString partnerIndex ++ " in my data")
  setupOne config env data
    { opIndex := partnerIndex, wtIndex := myIndex, operator := partnerAddress
      watchtower := myAddress, pairKey, wtStopper := myStoppers.wtStopper
      opStopper := myStoppers.opStopper, opCosign := myCosign, wtTakekey }

/-- What a member knows of itself while it goes through its partners. -/
structure Me where
  myIndex : Nat
  member : MemberOfCommittee
  address : CommsAddress
  opCosignUtxos : List (Option PartialUtxo)
  claimGateStoppers : List (Option WtInitChallengeUtxos)

/-- If I am a prover, the channel with a partner in which I am the operator. -/
def operatorChannel (ready : Ready) (me : Me)
    (partnerMember : MemberOfCommittee) (partnerIndex : Nat) (partnerAddress : CommsAddress)
    (pairKey : PublicKey) : Program σ (List Uuid) :=
  if me.member.role = .prover then
    (fun id => [id]) <$> setupChannelAsOperator config env data ready.disputeCoreData me.myIndex
      partnerIndex me.address partnerAddress pairKey partnerMember
  else pure []

/-- If the partner is a prover, the channel in which I am its watchtower. -/
def watchtowerChannel (me : Me)
    (partnerMember : MemberOfCommittee) (partnerIndex : Nat) (partnerAddress : CommsAddress)
    (pairKey : PublicKey) : Program σ (List Uuid) :=
  if partnerMember.role = .prover then
    (fun id => [id]) <$> setupChannelAsWatchtower config env data me.opCosignUtxos
      me.claimGateStoppers me.myIndex partnerIndex me.address partnerAddress pairKey
      me.member.takeKey
  else pure []

/-- One pass of the loop in `complete_setup`: the channels with one partner. -/
def setupPartner (ready : Ready) (me : Me) : MemberOfCommittee × Nat → Program σ (List Uuid)
  | (partnerMember, partnerIndex) => do
    if partnerIndex = me.myIndex then return []
    if me.member.role ≠ .prover ∧ partnerMember.role ≠ .prover then return []
    let partnerAddress ← okOr (ready.p2pAddresses[partnerIndex]?)
      (.fatal ("partner_index " ++ toString partnerIndex ++ " is out of bounds for p2p_addresses array"))
    let pairKey ← okOr (ready.pairwiseKeys.lookup (config.libs.commsAddressJson partnerAddress))
      (.fatal ("Pairwise key missing for partner address at index " ++ toString partnerIndex))
    let asOperator ← operatorChannel config env data ready me partnerMember partnerIndex
      partnerAddress pairKey
    let asWatchtower ← watchtowerChannel config env data me partnerMember partnerIndex
      partnerAddress pairKey
    return asOperator ++ asWatchtower

def completeSetup (ready : Ready) : Program σ (List Uuid) := do
  let member ← okOr (data.members.val[myIndex]?)
    (.fatal "my_index is out of bounds for members array")
  let address ← okOr (ready.p2pAddresses[myIndex]?)
    (.fatal "my_index is out of bounds for p2p_addresses array")
  let myCoreData ← okOr (ready.disputeCoreData.find? fun req => req.memberIndex = myIndex)
    (.fatal "Missing DisputeCore data for my index")
  let opCosignUtxos ← okOr myCoreData.opCosignUtxos
    (.fatal "Missing OP_COSIGN_UTXOS for my index")
  let claimGateStoppers ← okOr myCoreData.wtInitChallengeUtxos
    (.fatal "Missing WT_INIT_CHALLENGE_UTXOS for my index")
  let me : Me := ⟨myIndex, member, address, opCosignUtxos, claimGateStoppers⟩
  let protocolIds ← data.members.val.zipIdx.mapM (setupPartner config env data ready me)
  pure protocolIds.flatten

end DisputeChannelSetup

/-! ## Full penalization -/

namespace FullPenalizationSetup

def setup (config : Config) (env : Env) (committeeId : Uuid) (addresses : List CommsAddress) :
    Program σ Uuid := do
  let protocolId := (fullPenalizationProtocolId config.libs.toLibs committeeId).value
  withContext "Failed to send SetVar(FullPenalizationData) to BitVMX" <| sendBitvmxMsg env <|
    .setVar protocolId fullPenalizationDataName (.fullPenalizationData committeeId)
  withContext "Failed to send Setup(FullPenalization) to BitVMX" <| sendBitvmxMsg env <|
    .setup protocolId programTypeFullPenalization addresses 0
  pure protocolId

end FullPenalizationSetup

end UnionBridge.CommitteeSetup
