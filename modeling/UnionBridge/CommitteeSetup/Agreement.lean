import Mathlib.Data.List.ReduceOption
import UnionBridge.CommitteeSetup.Programs

/-!
# Agreement of the members

The two members of a pair run the setup for themselves, each with its own loop over the members and
with the two indices in its own order. What each of them asks its `BitVMX` for is written down here
as a function of the committee and the two indices; on the shared part the two sides then agree by
the symmetry of these functions.
-/

namespace UnionBridge.CommitteeSetup

open Contracts Bitvmx Effect

variable {σ : Type}

@[simp] theorem sent_send (log : Log) (message : IncomingBitVMXApiMessages) (answer) :
    sent ((⟨.send message, answer⟩ : LogEntry) :: log) = sent log ++ [message] := by
  simp [sent, LogEntry.message?]

/-! ## Keys of pairs -/

variable (libs : Libs) (data : CommitteeData)

def IsProver (i : Nat) : Prop :=
  ∃ member, data.members.val[i]? = some member ∧ member.role = .prover

/-- Two members need a key if one of them is a prover. -/
def Paired (i p : Nat) : Prop :=
  i ≠ p ∧ (IsProver data i ∨ IsProver data p)

theorem isProver_iff {data : CommitteeData} {i : Nat} {member : MemberOfCommittee}
    (h : data.members.val[i]? = some member) : IsProver data i ↔ member.role = .prover := by
  simp [IsProver, h]

def pairId (i p : Nat) : Uuid :=
  (pairwiseAggregatedKeyProtocolId libs.toLibs data.committeeUuid (.ofNat i) (.ofNat p)).value

/-- The addresses at two positions, the lower one first. -/
def orderedPair {α : Type} (xs : List α) (i p : Nat) : List α :=
  (xs[min i p]?).toList ++ (xs[max i p]?).toList

/-- The request of member `i` for the key with member `p`. -/
def pairRequest (i p : Nat) : PairwiseKeyReq where
  aggregationId := pairId libs data i p
  myIndex := i
  partnerIndex := p
  participants := orderedPair (data.members.val.map (·.address)) i p
  aggregatedKey := none

def pairMessage (communicationData : List CommsAddress) (i p : Nat) : IncomingBitVMXApiMessages :=
  .setupKey (pairId libs data i p) (orderedPair communicationData i p) none noLeaderIdx

theorem pairId_comm (i p : Nat) : pairId libs data i p = pairId libs data p i := by
  unfold pairId pairwiseAggregatedKeyProtocolId
  rw [IdRequest.sortedPair_comm]

theorem orderedPair_comm {α : Type} (xs : List α) (i p : Nat) :
    orderedPair xs i p = orderedPair xs p i := by
  unfold orderedPair
  rw [min_comm, max_comm]

theorem pairMessage_comm (communicationData : List CommsAddress) (i p : Nat) :
    pairMessage libs data communicationData i p = pairMessage libs data communicationData p i := by
  unfold pairMessage
  rw [pairId_comm, orderedPair_comm]

theorem getDisputePairKeyName_comm (i p : Nat) :
    getDisputePairKeyName i p = getDisputePairKeyName p i := by
  unfold getDisputePairKeyName
  rcases Nat.lt_trichotomy i p with h | h | h
  · rw [if_pos h.le, if_neg (by omega)]
  · rw [h]
  · rw [if_neg (by omega), if_pos h.le]

theorem orderedPair_of_lt {α : Type} {xs : List α} {i p : Nat} {a b : α} (ha : xs[i]? = some a)
    (hb : xs[p]? = some b) (h : i < p) : orderedPair xs i p = [a, b] := by
  unfold orderedPair
  rw [min_eq_left h.le, max_eq_right h.le, ha, hb]
  rfl

section Pairs

variable {config : Config} {env : Env} {data : CommitteeData} {communicationData : List CommsAddress}

theorem setupPairwiseKey_requests {i p : Nat} {me partner : MemberOfCommittee} {mine theirs : CommsAddress}
    (hme : data.members.val[i]? = some me) (haddress : me.address = config.myAddress)
    (hpartner : data.members.val[p]? = some partner) (hmine : communicationData[i]? = some mine)
    (htheirs : communicationData[p]? = some theirs) (w : World σ) :
    wp (setupPairwiseKey config env data communicationData i me.role (partner, p))
      (fun request w' =>
        Paired data i p ∧ request = some (pairRequest config.libs data i p)
            ∧ sent w'.log = sent w.log ++ [pairMessage config.libs data communicationData i p]
          ∨ ¬ Paired data i p ∧ request = none ∧ w' = w)
      (fun _ _ => False) w := by
  have hrole : IsProver data i ∨ IsProver data p ↔ me.role = .prover ∨ partner.role = .prover :=
    or_congr (isProver_iff hme) (isProver_iff hpartner)
  unfold setupPairwiseKey
  dsimp only
  by_cases hself : p = i
  · rw [if_pos hself]
    exact .inr ⟨fun h => h.1 hself.symm, rfl, rfl⟩
  by_cases hverifiers : me.role ≠ .prover ∧ partner.role ≠ .prover
  · rw [if_neg hself, if_pos hverifiers]
    refine .inr ⟨fun h => ?_, rfl, rfl⟩
    rcases hrole.mp h.2 with h | h
    · exact hverifiers.1 h
    · exact hverifiers.2 h
  have hpaired : Paired data i p := by
    refine ⟨fun h => hself h.symm, hrole.mpr ?_⟩
    by_contra hnone
    exact hverifiers ⟨fun h => hnone (.inl h), fun h => hnone (.inr h)⟩
  have haddresses : ∀ {k : Nat} {member : MemberOfCommittee}, data.members.val[k]? = some member →
      (data.members.val.map (·.address))[k]? = some member.address := fun h => by
    rw [List.getElem?_map, h]
    rfl
  rw [if_neg hself, if_neg hverifiers]
  -- The two members in order: once I come first, once the partner.
  rcases Nat.lt_or_gt_of_ne (Ne.symm hself) with hlt | hlt
  · have hpair := orderedPair_of_lt (haddresses hme) (haddresses hpartner) hlt
    have hcomms := orderedPair_of_lt hmine htheirs hlt
    simp only [hlt, if_true, index, hmine, htheirs, okOr, trySendBitvmxMsg, pure_bind, wp_bind,
      wp_perform, wp_pure, sent_send]
    refine .inl ⟨hpaired, ?_, ?_⟩
    · simp only [pairRequest, pairId, hpair, haddress]
    · simp only [pairMessage, pairId, hcomms]
  · have hpair := orderedPair_of_lt (haddresses hpartner) (haddresses hme) hlt
    have hcomms := orderedPair_of_lt htheirs hmine hlt
    simp only [Nat.not_lt.mpr hlt.le, if_false, index, hmine, htheirs, okOr, trySendBitvmxMsg,
      pure_bind, wp_bind, wp_perform, wp_pure, sent_send]
    refine .inl ⟨hpaired, ?_, ?_⟩
    · simp only [pairRequest, pairId, orderedPair_comm _ i p, hpair, haddress]
    · simp only [pairMessage, pairId, orderedPair_comm _ i p, hcomms]

theorem memberIndex_some {address : Address} {i : Nat} (h : data.memberIndex address = some i) :
    ∃ me, data.members.val[i]? = some me ∧ me.address = address := by
  obtain ⟨hlt, haddress, -⟩ := List.findIdx?_eq_some_iff_getElem.mp h
  exact ⟨_, List.getElem?_eq_getElem hlt, of_decide_eq_true haddress⟩

/-- **The requests of a member.** They are those for the pairs it belongs to, and each one was
sent. -/
theorem setupPairwiseKeys_requests {i : Nat} (hi : data.memberIndex config.myAddress = some i)
    (hlength : communicationData.length = data.members.val.length) (w : World σ) :
    wp (setupPairwiseKeys config env data communicationData)
      (fun requests w' =>
        (∀ r ∈ requests, ∃ p, Paired data i p ∧ r = pairRequest config.libs data i p)
        ∧ ∀ p < data.members.val.length, Paired data i p →
            pairRequest config.libs data i p ∈ requests
            ∧ pairMessage config.libs data communicationData i p ∈ sent w'.log)
      (fun _ _ => False) w := by
  obtain ⟨me, hme, haddress⟩ := memberIndex_some hi
  have hcomm : ∀ {k : Nat} {member : MemberOfCommittee}, data.members.val[k]? = some member →
      ∃ address, communicationData[k]? = some address := fun {k _} h => by
    have hk : k < communicationData.length := by
      rw [hlength]
      exact (List.getElem?_eq_some_iff.mp h).1
    exact ⟨_, List.getElem?_eq_getElem hk⟩
  obtain ⟨mine, hmine⟩ := hcomm hme
  simp only [setupPairwiseKeys, hi, okOr, index, hme, pure_bind, wp_bind, wp_pure]
  refine wp_imp (wp_mapM (fun done results w' =>
      (∀ r, some r ∈ results → ∃ p, Paired data i p ∧ r = pairRequest config.libs data i p)
      ∧ ∀ b ∈ done, Paired data i b.2 → some (pairRequest config.libs data i b.2) ∈ results
          ∧ pairMessage config.libs data communicationData i b.2 ∈ sent w'.log) ?_
    ⟨fun _ h => (List.not_mem_nil h).elim, fun _ h => (List.not_mem_nil h).elim⟩) ?_
  · rintro done results ⟨partner, p⟩ t hmem ⟨honly, hall⟩
    have hpartner := List.mem_zipIdx_iff_getElem?.mp hmem
    obtain ⟨theirs, htheirs⟩ := hcomm hpartner
    refine wp_imp (setupPairwiseKey_requests hme haddress hpartner hmine htheirs t) ?_
    rintro request u (⟨hpaired, rfl, hsent⟩ | ⟨hpaired, rfl, rfl⟩)
    · refine ⟨fun r hr => ?_, fun b hb hb' => ?_⟩
      · rcases List.mem_append.mp hr with hr | hr
        · exact honly r hr
        · exact ⟨p, hpaired, by simpa using hr⟩
      · rw [hsent]
        rcases List.mem_append.mp hb with hb | hb
        · exact ⟨List.mem_append_left _ (hall b hb hb').1, List.mem_append_left _ (hall b hb hb').2⟩
        · rw [List.mem_singleton.mp hb]
          exact ⟨by simp, by simp⟩
    · refine ⟨fun r hr => ?_, fun b hb hb' => ?_⟩
      · rcases List.mem_append.mp hr with hr | hr
        · exact honly r hr
        · simp at hr
      · rcases List.mem_append.mp hb with hb | hb
        · exact ⟨List.mem_append_left _ (hall b hb hb').1, (hall b hb hb').2⟩
        · rw [List.mem_singleton.mp hb] at hb'
          exact (hpaired hb').elim
  · rintro results w' ⟨honly, hall⟩
    refine ⟨fun r hr => honly r (List.reduceOption_mem_iff.mp hr), fun p hp hpaired => ?_⟩
    have hmem : (data.members.val[p], p) ∈ data.members.val.zipIdx :=
      List.mem_zipIdx_iff_getElem?.mpr (List.getElem?_eq_getElem hp)
    exact ⟨List.reduceOption_mem_iff.mpr (hall _ hmem hpaired).1, (hall _ hmem hpaired).2⟩

end Pairs

/-! ## Dispute channels -/

/-- `m` sends these messages if it returns, and it returns if the broker takes every message. -/
def Sends {α : Type} (env : Env) (m : Program σ α) (value : α → Prop)
    (messages : List IncomingBitVMXApiMessages) : Prop :=
  ∀ w, wp m (fun a w' => value a ∧ sent w'.log = sent w.log ++ messages)
    (fun _ _ => ¬ env.Delivers) w

section Sends

variable {α β : Type} {env : Env}

theorem sends_pure {a : α} {value : α → Prop} (h : value a) :
    Sends env (pure a : Program σ α) value [] :=
  fun w => ⟨h, (List.append_nil (sent w.log)).symm⟩

theorem sends_bind {m : Program σ β} {f : β → Program σ α} {value : β → Prop} {value' : α → Prop}
    {messages messages' : List IncomingBitVMXApiMessages} (hm : Sends env m value messages)
    (hf : ∀ b, value b → Sends env (f b) value' messages') :
    Sends env (m >>= f) value' (messages ++ messages') := by
  intro w
  rw [wp_bind]
  refine wp_imp (hm w) ?_
  rintro b t ⟨hb, ht⟩
  refine wp_imp (hf b hb t) ?_
  rintro a u ⟨ha, hu⟩
  exact ⟨ha, by rw [hu, ht, List.append_assoc]⟩

theorem sends_message (message : IncomingBitVMXApiMessages) :
    Sends env (sendBitvmxMsg env message : Program σ Unit) (fun _ => True) [message] := by
  intro w
  unfold sendBitvmxMsg withContext
  rw [wp_bind, wp_perform, wp_mapError, wp_orText]
  refine ⟨fun _ _ => ⟨trivial, sent_send _ _ _⟩, fun e he hdelivers => ?_⟩
  rw [id, hdelivers] at he
  cases he

end Sends

namespace DisputeChannelSetup

def channelMessages (config : Config) (data : CommitteeData) (s : SetupOneInput) :
    List IncomingBitVMXApiMessages :=
  let drpId := s.drpId config data
  let input (inputIndex : Nat) (inputData : Bytes) : IncomingBitVMXApiMessages :=
    .setVar drpId ("program_input_" ++ toString inputIndex) (.input inputData)
  [input 0 (toBE 4 unionDrpJournalSizeWords.toNat).reverse,
    input 1 ((Hex.decode unionDrpElfIdHex).getD []), input 3 unionDrpOperatorId,
    input 6 unionDrpFlags,
    .setVar drpId DisputeConfiguration.name (.disputeConfiguration (s.disputeConfiguration config data)),
    .setup drpId programTypeDrp s.participants noLeaderIdx]

variable {config : Config} {env : Env} {data : CommitteeData}

theorem setupOne_sends (s : SetupOneInput) :
    Sends env (setupOne config env data s : Program σ Uuid) (· = s.drpId config data)
      (channelMessages config data s) := by
  have helf : Hex.decode unionDrpElfIdHex = some ((Hex.decode unionDrpElfIdHex).getD []) := by
    decide +kernel
  have hok : (okOr (Hex.decode unionDrpElfIdHex) (.fatal "Invalid union verifier ELF id hex")
      : Program σ Bytes) = pure ((Hex.decode unionDrpElfIdHex).getD []) := by
    rw [helf]
    rfl
  have hinputs : Sends env (setUnionVerifierInputs env (s.drpId config data) : Program σ Unit)
      (fun _ => True) _ :=
    sends_bind (sends_message _) fun _ _ => by
      rw [hok, pure_bind]
      exact sends_bind (sends_message _) fun _ _ =>
        sends_bind (sends_message _) fun _ _ => sends_message _
  exact sends_bind hinputs fun _ _ => sends_bind (sends_message _) fun _ _ =>
    sends_bind (sends_message _) fun _ _ => sends_pure rfl

/-- The addresses and the key in the setup of a channel are those of its two members. -/
structure Channel (data : CommitteeData) (p2pAddresses : List CommsAddress) (s : SetupOneInput) :
    Prop where
  operator : p2pAddresses[s.opIndex]? = some s.operator
  watchtower : p2pAddresses[s.wtIndex]? = some s.watchtower
  takeKey : ∃ member, data.members.val[s.wtIndex]? = some member ∧ member.takeKey = s.wtTakekey

/-- There is a channel from every prover to every other member. -/
def HasChannel (data : CommitteeData) (op wt : Nat) : Prop :=
  op ≠ wt ∧ IsProver data op ∧ wt < data.members.val.length

/-- The ids and messages of a setup of exactly the `wanted` channels. -/
def SetsUp (config : Config) (data : CommitteeData) (p2pAddresses : List CommsAddress)
    (wanted : Nat → Nat → Prop) (ids : List Uuid) (messages : List IncomingBitVMXApiMessages) :
    Prop :=
  ∃ setups : List SetupOneInput, ids = setups.map (·.drpId config data)
    ∧ messages = setups.flatMap (channelMessages config data)
    ∧ (∀ s ∈ setups, Channel data p2pAddresses s ∧ wanted s.opIndex s.wtIndex)
    ∧ ∀ op wt, wanted op wt → ∃ s ∈ setups, s.opIndex = op ∧ s.wtIndex = wt

section SetsUp

variable {p2pAddresses : List CommsAddress} {wanted wanted' : Nat → Nat → Prop}

theorem SetsUp.none (h : ∀ op wt, ¬ wanted op wt) : SetsUp config data p2pAddresses wanted [] [] :=
  ⟨[], rfl, rfl, fun _ hs => (List.not_mem_nil hs).elim, fun op wt hw => (h op wt hw).elim⟩

theorem SetsUp.one {s : SetupOneInput} (hs : Channel data p2pAddresses s)
    (h : ∀ op wt, wanted op wt ↔ s.opIndex = op ∧ s.wtIndex = wt) :
    SetsUp config data p2pAddresses wanted [s.drpId config data] (channelMessages config data s) := by
  refine ⟨[s], rfl, (List.flatMap_singleton _ _).symm, fun t ht => ?_, fun op wt hw => ?_⟩
  · rw [List.mem_singleton.mp ht]
    exact ⟨hs, (h _ _).mpr ⟨rfl, rfl⟩⟩
  · exact ⟨s, List.mem_singleton_self s, (h op wt).mp hw⟩

theorem SetsUp.append {ids ids' : List Uuid} {messages messages' : List IncomingBitVMXApiMessages}
    {both : Nat → Nat → Prop} (h : SetsUp config data p2pAddresses wanted ids messages)
    (h' : SetsUp config data p2pAddresses wanted' ids' messages')
    (hboth : ∀ op wt, both op wt ↔ wanted op wt ∨ wanted' op wt) :
    SetsUp config data p2pAddresses both (ids ++ ids') (messages ++ messages') := by
  obtain ⟨setups, rfl, rfl, honly, hall⟩ := h
  obtain ⟨setups', rfl, rfl, honly', hall'⟩ := h'
  refine ⟨setups ++ setups', by simp, by simp, fun s hs => ?_, fun op wt hw => ?_⟩
  · rcases List.mem_append.mp hs with hs | hs
    · exact ⟨(honly s hs).1, (hboth _ _).mpr (.inl (honly s hs).2)⟩
    · exact ⟨(honly' s hs).1, (hboth _ _).mpr (.inr (honly' s hs).2)⟩
  · rcases (hboth op wt).mp hw with hw | hw
    · obtain ⟨s, hs, heq⟩ := hall op wt hw
      exact ⟨s, List.mem_append_left _ hs, heq⟩
    · obtain ⟨s, hs, heq⟩ := hall' op wt hw
      exact ⟨s, List.mem_append_right _ hs, heq⟩

end SetsUp

/-! ### What a member needs for its channels -/

def HasEntry (q : Nat) (cosigns : List (Option PartialUtxo))
    (stoppers : List (Option WtInitChallengeUtxos)) : Prop :=
  (∃ cosign, cosigns[q]? = some (some cosign)) ∧ ∃ stopper, stoppers[q]? = some (some stopper)

/-- Both variables of the dispute core of member `k` have arrived. -/
def HasVariables (disputeCoreData : List DisputeChannelSetupRequest) (k : Nat)
    (P : List (Option PartialUtxo) → List (Option WtInitChallengeUtxos) → Prop) : Prop :=
  ∃ request cosigns stoppers, disputeCoreData.find? (fun req => req.memberIndex = k) = some request
    ∧ request.opCosignUtxos = some cosigns ∧ request.wtInitChallengeUtxos = some stoppers
    ∧ P cosigns stoppers

/-- Everything that member `i` needs for its channels has arrived. -/
structure Complete (config : Config) (data : CommitteeData) (ready : Ready) (i : Nat) : Prop where
  addresses : ready.p2pAddresses.length = data.members.val.length
  keys : ∀ p address, Paired data i p → ready.p2pAddresses[p]? = some address →
    ∃ key, ready.pairwiseKeys.lookup (config.libs.commsAddressJson address) = some key
  mine : HasVariables ready.disputeCoreData i fun cosigns stoppers =>
    ∀ p, HasChannel data p i → HasEntry p cosigns stoppers
  partners : ∀ p, HasChannel data i p → HasVariables ready.disputeCoreData p (HasEntry i)

theorem wp_getForIndex {α : Type} {xs : List (Option α)} {q : Nat} {text : String}
    {Q : α → World σ → Prop} {E : FlowError → World σ → Prop} {w : World σ}
    (hQ : ∀ a, xs[q]? = some (some a) → Q a w)
    (hE : (¬ ∃ a, xs[q]? = some (some a)) → ∀ e, E e w) : wp (getForIndex xs q text) Q E w := by
  unfold getForIndex
  rw [wp_bind, wp_okOr]
  refine ⟨fun item hitem => wp_okOr.mpr ⟨fun a ha => hQ a (by rw [hitem, ha]), fun hnone => ?_⟩,
    fun hnone => ?_⟩
  · exact hE (fun ⟨a, ha⟩ => by rw [hitem, hnone] at ha; cases ha) _
  · exact hE (fun ⟨a, ha⟩ => by rw [hnone] at ha; cases ha) _

section Channels

variable {ready : Ready} {p2pAddresses : List CommsAddress} {i p : Nat} {mine theirs : CommsAddress}
  {key : PublicKey} {me partner : MemberOfCommittee}

/-- What setting up the channel from `op` to `wt` leaves behind. -/
def SetsUpOne (config : Config) (data : CommitteeData) (p2pAddresses : List CommsAddress)
    (op wt : Nat) (w : World σ) (id : Uuid) (w' : World σ) : Prop :=
  ∃ s : SetupOneInput, Channel data p2pAddresses s ∧ s.opIndex = op ∧ s.wtIndex = wt
    ∧ id = s.drpId config data ∧ sent w'.log = sent w.log ++ channelMessages config data s

theorem setupChannelAsOperator_sets (hmine : p2pAddresses[i]? = some mine)
    (htheirs : p2pAddresses[p]? = some theirs) (hpartner : data.members.val[p]? = some partner)
    (w : World σ) :
    wp (setupChannelAsOperator config env data ready.disputeCoreData i p mine theirs key partner)
      (SetsUpOne config data p2pAddresses i p w)
      (fun _ _ => ¬ (env.Delivers ∧ HasVariables ready.disputeCoreData p (HasEntry i))) w := by
  unfold setupChannelAsOperator
  rw [wp_bind, wp_okOr]
  refine ⟨fun request hrequest => ?_, fun hnone => ?_⟩
  swap
  · rintro ⟨-, request, _, _, hrequest, -⟩
    rw [hnone] at hrequest
    cases hrequest
  rw [wp_bind, wp_okOr]
  refine ⟨fun stoppers hstoppers => ?_, fun hnone => ?_⟩
  swap
  · rintro ⟨-, request', _, _, hrequest', -, hstoppers, -⟩
    rw [hrequest] at hrequest'
    cases hrequest'
    rw [hnone] at hstoppers
    cases hstoppers
  rw [wp_bind, wp_okOr]
  refine ⟨fun cosigns hcosigns => ?_, fun hnone => ?_⟩
  swap
  · rintro ⟨-, request', _, _, hrequest', hcosigns, -⟩
    rw [hrequest] at hrequest'
    cases hrequest'
    rw [hnone] at hcosigns
    cases hcosigns
  -- The lists of the partner are known now; only their entries for me can be missing.
  have hentry : HasVariables ready.disputeCoreData p (HasEntry i) → HasEntry i cosigns stoppers := by
    rintro ⟨request', cosigns', stoppers', hrequest', hcosigns', hstoppers', h⟩
    rw [hrequest] at hrequest'
    cases hrequest'
    rw [hcosigns] at hcosigns'
    rw [hstoppers] at hstoppers'
    cases hcosigns'
    cases hstoppers'
    exact h
  rw [wp_bind]
  refine wp_getForIndex (fun stopper _ => ?_) fun hnone _ h => hnone (hentry h.2).2
  rw [wp_bind]
  refine wp_getForIndex (fun cosign _ => ?_) fun hnone _ h => hnone (hentry h.2).1
  refine wp_mono (setupOne_sends _ w) ?_ fun _ _ he h => he h.1
  rintro id w' ⟨rfl, hsent⟩
  exact ⟨_, ⟨hmine, htheirs, partner, hpartner, rfl⟩, rfl, rfl, rfl, hsent⟩

theorem setupChannelAsWatchtower_sets {cosigns : List (Option PartialUtxo)}
    {stoppers : List (Option WtInitChallengeUtxos)} (hmine : p2pAddresses[i]? = some mine)
    (htheirs : p2pAddresses[p]? = some theirs) (hme : data.members.val[i]? = some me)
    (w : World σ) :
    wp (setupChannelAsWatchtower config env data cosigns stoppers i p mine theirs key me.takeKey)
      (SetsUpOne config data p2pAddresses p i w)
      (fun _ _ => ¬ (env.Delivers ∧ HasEntry p cosigns stoppers)) w := by
  unfold setupChannelAsWatchtower
  rw [wp_bind]
  refine wp_getForIndex (fun stopper _ => ?_) fun hnone _ h => hnone h.2.2
  rw [wp_bind]
  refine wp_getForIndex (fun cosign _ => ?_) fun hnone _ h => hnone h.2.1
  refine wp_mono (setupOne_sends _ w) ?_ fun _ _ he h => he h.1
  rintro id w' ⟨rfl, hsent⟩
  exact ⟨_, ⟨htheirs, hmine, me, hme, rfl⟩, rfl, rfl, rfl, hsent⟩

/-- Exactly the `wanted` channels are set up between `w` and `w'`. -/
def SetsUpFrom (config : Config) (data : CommitteeData) (p2pAddresses : List CommsAddress)
    (wanted : Nat → Nat → Prop) (w : World σ) (ids : List Uuid) (w' : World σ) : Prop :=
  ∃ messages, sent w'.log = sent w.log ++ messages
    ∧ SetsUp config data p2pAddresses wanted ids messages

theorem SetsUpOne.setsUpFrom {op wt : Nat} {w w' : World σ} {id : Uuid}
    (h : SetsUpOne config data p2pAddresses op wt w id w') (hchannel : HasChannel data op wt) :
    SetsUpFrom config data p2pAddresses (fun op' wt' => HasChannel data op' wt' ∧ op' = op ∧ wt' = wt)
      w [id] w' := by
  obtain ⟨s, hs, rfl, rfl, rfl, hsent⟩ := h
  refine ⟨_, hsent, .one hs fun op wt => ⟨?_, ?_⟩⟩
  · rintro ⟨-, rfl, rfl⟩
    exact ⟨rfl, rfl⟩
  · rintro ⟨rfl, rfl⟩
    exact ⟨hchannel, rfl, rfl⟩

theorem SetsUpFrom.none {wanted : Nat → Nat → Prop} (h : ∀ op wt, ¬ wanted op wt) (w : World σ) :
    SetsUpFrom config data p2pAddresses wanted w [] w :=
  ⟨[], (List.append_nil _).symm, .none h⟩

theorem SetsUpFrom.trans {wanted wanted' both : Nat → Nat → Prop} {w t u : World σ}
    {ids ids' : List Uuid} (h : SetsUpFrom config data p2pAddresses wanted w ids t)
    (h' : SetsUpFrom config data p2pAddresses wanted' t ids' u)
    (hboth : ∀ op wt, both op wt ↔ wanted op wt ∨ wanted' op wt) :
    SetsUpFrom config data p2pAddresses both w (ids ++ ids') u := by
  obtain ⟨messages, ht, hsets⟩ := h
  obtain ⟨messages', hu, hsets'⟩ := h'
  exact ⟨messages ++ messages', by rw [hu, ht, List.append_assoc], hsets.append hsets' hboth⟩

section Partner

variable {me : Me} (hme : data.members.val[me.myIndex]? = some me.member)
  (hmine : ready.p2pAddresses[me.myIndex]? = some me.address)
  (hpartner : data.members.val[p]? = some partner)
include hme hmine hpartner

theorem operatorChannel_sets (htheirs : ready.p2pAddresses[p]? = some theirs)
    (hne : me.myIndex ≠ p) (w : World σ) :
    wp (operatorChannel config env data ready me partner p theirs key)
      (SetsUpFrom config data ready.p2pAddresses
        (fun op wt => HasChannel data op wt ∧ op = me.myIndex ∧ wt = p) w)
      (fun _ _ => ¬ (env.Delivers ∧ Complete config data ready me.myIndex)) w := by
  unfold operatorChannel
  by_cases hprover : me.member.role = .prover
  · have hchannel : HasChannel data me.myIndex p :=
      ⟨hne, (isProver_iff hme).mpr hprover, (List.getElem?_eq_some_iff.mp hpartner).1⟩
    rw [if_pos hprover, wp_map]
    exact wp_mono (setupChannelAsOperator_sets hmine htheirs hpartner w)
      (fun _ _ h => h.setsUpFrom hchannel) fun _ _ he h => he ⟨h.1, h.2.partners p hchannel⟩
  · rw [if_neg hprover]
    refine .none (fun op wt h => hprover ?_) w
    rw [← isProver_iff hme, ← h.2.1]
    exact h.1.2.1

theorem watchtowerChannel_sets (htheirs : ready.p2pAddresses[p]? = some theirs)
    (hne : p ≠ me.myIndex)
    (hentries : Complete config data ready me.myIndex → ∀ q, HasChannel data q me.myIndex →
      HasEntry q me.opCosignUtxos me.claimGateStoppers) (w : World σ) :
    wp (watchtowerChannel config env data me partner p theirs key)
      (SetsUpFrom config data ready.p2pAddresses
        (fun op wt => HasChannel data op wt ∧ op = p ∧ wt = me.myIndex) w)
      (fun _ _ => ¬ (env.Delivers ∧ Complete config data ready me.myIndex)) w := by
  unfold watchtowerChannel
  by_cases hprover : partner.role = .prover
  · have hchannel : HasChannel data p me.myIndex :=
      ⟨hne, (isProver_iff hpartner).mpr hprover, (List.getElem?_eq_some_iff.mp hme).1⟩
    rw [if_pos hprover, wp_map]
    exact wp_mono (setupChannelAsWatchtower_sets hmine htheirs hme w)
      (fun _ _ h => h.setsUpFrom hchannel) fun _ _ he h => he ⟨h.1, hentries h.2 p hchannel⟩
  · rw [if_neg hprover]
    refine .none (fun op wt h => hprover ?_) w
    rw [← isProver_iff hpartner, ← h.2.1]
    exact h.1.2.1

theorem setupPartner_sets
    (hentries : Complete config data ready me.myIndex → ∀ q, HasChannel data q me.myIndex →
      HasEntry q me.opCosignUtxos me.claimGateStoppers) (w : World σ) :
    wp (setupPartner config env data ready me (partner, p))
      (SetsUpFrom config data ready.p2pAddresses (fun op wt => HasChannel data op wt
        ∧ (op = me.myIndex ∧ wt = p ∨ op = p ∧ wt = me.myIndex)) w)
      (fun _ _ => ¬ (env.Delivers ∧ Complete config data ready me.myIndex)) w := by
  have hp : p < data.members.val.length := (List.getElem?_eq_some_iff.mp hpartner).1
  unfold setupPartner
  dsimp only
  by_cases hself : p = me.myIndex
  · rw [if_pos hself]
    refine .none ?_ w
    rintro op wt ⟨⟨hne, -⟩, ⟨rfl, rfl⟩ | ⟨rfl, rfl⟩⟩
    · exact hne hself.symm
    · exact hne hself
  by_cases hverifiers : me.member.role ≠ .prover ∧ partner.role ≠ .prover
  · rw [if_neg hself, if_pos hverifiers]
    refine .none ?_ w
    rintro op wt ⟨⟨-, hprover, -⟩, ⟨rfl, rfl⟩ | ⟨rfl, rfl⟩⟩
    · exact hverifiers.1 ((isProver_iff hme).mp hprover)
    · exact hverifiers.2 ((isProver_iff hpartner).mp hprover)
  have hpaired : Paired data me.myIndex p := by
    refine ⟨Ne.symm hself, ?_⟩
    by_contra hnone
    exact hverifiers ⟨fun h => hnone (.inl ((isProver_iff hme).mpr h)),
      fun h => hnone (.inr ((isProver_iff hpartner).mpr h))⟩
  rw [if_neg hself, if_neg hverifiers, wp_bind, wp_okOr]
  refine ⟨fun theirs htheirs => ?_, fun hnone h => ?_⟩
  swap
  · rw [List.getElem?_eq_none_iff, h.2.addresses] at hnone
    omega
  rw [wp_bind, wp_okOr]
  refine ⟨fun key hkey => ?_, fun hnone h => ?_⟩
  swap
  · obtain ⟨key, hkey⟩ := h.2.keys p theirs hpaired htheirs
    rw [hnone] at hkey
    cases hkey
  rw [wp_bind]
  refine wp_imp (operatorChannel_sets hme hmine hpartner htheirs (Ne.symm hself) w) ?_
  intro ids t ht
  rw [wp_bind]
  refine wp_imp (watchtowerChannel_sets hme hmine hpartner htheirs hself hentries t) ?_
  intro ids' u hu
  exact ht.trans hu fun op wt => and_or_left

end Partner

/-- **The channels of a member.** If `complete_setup` returns, it has set up the channels of the
member and no others; it returns if everything has arrived and the broker takes every message. -/
theorem completeSetup_sets (w : World σ) :
    wp (completeSetup config env data i ready)
      (SetsUpFrom config data ready.p2pAddresses
        (fun op wt => HasChannel data op wt ∧ (op = i ∨ wt = i)) w)
      (fun _ _ => ¬ (env.Delivers ∧ Complete config data ready i ∧ i < data.members.val.length)) w := by
  unfold completeSetup
  rw [wp_bind, wp_okOr]
  refine ⟨fun member hmember => ?_, fun hnone h => ?_⟩
  swap
  · rw [List.getElem?_eq_none_iff] at hnone
    omega
  rw [wp_bind, wp_okOr]
  refine ⟨fun address haddress => ?_, fun hnone h => ?_⟩
  swap
  · rw [List.getElem?_eq_none_iff, h.2.1.addresses] at hnone
    omega
  rw [wp_bind, wp_okOr]
  refine ⟨fun request hrequest => ?_, fun hnone h => ?_⟩
  swap
  · obtain ⟨request, _, _, hrequest, -⟩ := h.2.1.mine
    rw [hnone] at hrequest
    cases hrequest
  rw [wp_bind, wp_okOr]
  refine ⟨fun cosigns hcosigns => ?_, fun hnone h => ?_⟩
  swap
  · obtain ⟨request', _, _, hrequest', hcosigns, -⟩ := h.2.1.mine
    rw [hrequest] at hrequest'
    cases hrequest'
    rw [hnone] at hcosigns
    cases hcosigns
  rw [wp_bind, wp_okOr]
  refine ⟨fun stoppers hstoppers => ?_, fun hnone h => ?_⟩
  swap
  · obtain ⟨request', _, _, hrequest', -, hstoppers, -⟩ := h.2.1.mine
    rw [hrequest] at hrequest'
    cases hrequest'
    rw [hnone] at hstoppers
    cases hstoppers
  have hentries : Complete config data ready i → ∀ q, HasChannel data q i →
      HasEntry q cosigns stoppers := by
    intro h
    obtain ⟨request', cosigns', stoppers', hrequest', hcosigns', hstoppers', hentry⟩ := h.mine
    rw [hrequest] at hrequest'
    cases hrequest'
    rw [hcosigns] at hcosigns'
    rw [hstoppers] at hstoppers'
    cases hcosigns'
    cases hstoppers'
    exact hentry
  have hi : i < data.members.val.length := (List.getElem?_eq_some_iff.mp hmember).1
  dsimp only
  rw [wp_bind]
  -- Before each pass exactly the channels with the partners before it are set up.
  refine wp_mono (wp_mapM (E := fun _ _ => ¬ (env.Delivers ∧ Complete config data ready i))
    (fun done ids w' => SetsUpFrom config data ready.p2pAddresses
      (fun op wt => HasChannel data op wt ∧ ∃ b ∈ done, op = i ∧ wt = b.2 ∨ op = b.2 ∧ wt = i)
      w ids.flatten w') ?_ ?_) ?_ ?_
  · rintro done ids ⟨partner, p⟩ t hmem ht
    have hpass : wp (setupPartner config env data ready ⟨i, member, address, cosigns, stoppers⟩
        (partner, p)) _ _ t :=
      setupPartner_sets hmember haddress (List.mem_zipIdx_iff_getElem?.mp hmem) hentries t
    refine wp_imp hpass ?_
    intro ids' u hu
    rw [List.flatten_append, List.flatten_singleton]
    refine ht.trans hu fun op wt => ?_
    rw [← and_or_left]
    refine and_congr_right fun _ => ?_
    simp [or_and_right, exists_or]
  · refine .none ?_ w
    rintro op wt ⟨-, b, hb, -⟩
    exact List.not_mem_nil hb
  · rintro ids w' ⟨messages, hsent, setups, hids, hmessages, honly, hall⟩
    refine ⟨messages, hsent, setups, hids, hmessages, fun s hs => ?_, fun op wt hw => ?_⟩
    · obtain ⟨hchannel, hhas, b, -, ⟨hop, -⟩ | ⟨-, hwt⟩⟩ := honly s hs
      · exact ⟨hchannel, hhas, .inl hop⟩
      · exact ⟨hchannel, hhas, .inr hwt⟩
    · have hmem : ∀ k, (hk : k < data.members.val.length) →
          (data.members.val[k], k) ∈ data.members.val.zipIdx := fun k hk =>
        List.mem_zipIdx_iff_getElem?.mpr (List.getElem?_eq_getElem hk)
      obtain ⟨hhas, hop | hwt⟩ := hw
      · exact hall op wt ⟨hhas, _, hmem wt hhas.2.2, .inl ⟨hop, rfl⟩⟩
      · obtain ⟨prover, hprover, -⟩ := hhas.2.1
        exact hall op wt ⟨hhas, _, hmem op (List.getElem?_eq_some_iff.mp hprover).1,
          .inr ⟨rfl, hwt⟩⟩
  · exact fun _ _ he h => he ⟨h.1, h.2.1⟩

end Channels

end DisputeChannelSetup

/-! ## The two sides -/

open DisputeChannelSetup

/-- The two members of a pair ask for one key: the same id, participants in the same order and the
same variable name. -/
def PairAgrees (addresses : List CommsAddress) (i j : Nat)
    (requests requests' : List PairwiseKeyReq) (messages messages' : List IncomingBitVMXApiMessages) :
    Prop :=
  ((∃ r ∈ requests, r.partnerIndex = j) ↔ IsProver data i ∨ IsProver data j)
  ∧ ((∃ r ∈ requests', r.partnerIndex = i) ↔ IsProver data i ∨ IsProver data j)
  ∧ ∀ r ∈ requests, r.partnerIndex = j → ∀ r' ∈ requests', r'.partnerIndex = i →
    r.aggregationId = r'.aggregationId ∧ r.participants = r'.participants
    ∧ getDisputePairKeyName r.myIndex r.partnerIndex
      = getDisputePairKeyName r'.myIndex r'.partnerIndex
    ∧ ∃ message, message = .setupKey r.aggregationId (orderedPair addresses i j) none noLeaderIdx
      ∧ message ∈ messages ∧ message ∈ messages'

/-- The two members of the channel from `i` to `j` set it up with one id, the same participants and
the same dispute core. -/
def ChannelAgrees (i j : Nat) (ci cj : Config) (setups setups' : List SetupOneInput) : Prop :=
  ((∃ s ∈ setups, s.opIndex = i ∧ s.wtIndex = j) ↔ IsProver data i)
  ∧ ((∃ s ∈ setups', s.opIndex = i ∧ s.wtIndex = j) ↔ IsProver data i)
  ∧ ∀ s ∈ setups, s.opIndex = i → s.wtIndex = j → ∀ s' ∈ setups', s'.opIndex = i → s'.wtIndex = j →
    s.drpId ci data = s'.drpId cj data ∧ s.participants = s'.participants
    ∧ s.disputeCorePid ci data = s'.disputeCorePid cj data

def channelPreimage (op wt : Nat) : Bytes :=
  (IdRequest.disputeChannel data.committeeUuid (.ofNat op) (.ofNat wt)).preimage

section Agreement

variable {data : CommitteeData} {addresses : List CommsAddress} {ci cj : Config} {i j : Nat}

theorem memberIndex_inj {a b : Address} (hi : data.memberIndex a = some i)
    (hj : data.memberIndex b = some j) (hne : a ≠ b) : i ≠ j := by
  rintro rfl
  obtain ⟨me, hme, rfl⟩ := memberIndex_some hi
  obtain ⟨me', hme', rfl⟩ := memberIndex_some hj
  rw [hme] at hme'
  cases hme'
  exact hne rfl

theorem pair_agrees (hlibs : ci.libs = cj.libs) (hi : i < data.members.val.length)
    (hj : j < data.members.val.length) (hne : i ≠ j) {requests requests' : List PairwiseKeyReq}
    {messages messages' : List IncomingBitVMXApiMessages}
    (h : (∀ r ∈ requests, ∃ p, Paired data i p ∧ r = pairRequest ci.libs data i p)
      ∧ ∀ p < data.members.val.length, Paired data i p → pairRequest ci.libs data i p ∈ requests
          ∧ pairMessage ci.libs data addresses i p ∈ messages)
    (h' : (∀ r ∈ requests', ∃ p, Paired data j p ∧ r = pairRequest cj.libs data j p)
      ∧ ∀ p < data.members.val.length, Paired data j p → pairRequest cj.libs data j p ∈ requests'
          ∧ pairMessage cj.libs data addresses j p ∈ messages') :
    PairAgrees data addresses i j requests requests' messages messages' := by
  refine ⟨⟨?_, fun hprover => ?_⟩, ⟨?_, fun hprover => ?_⟩, ?_⟩
  · rintro ⟨r, hr, hpartner⟩
    obtain ⟨p, hpaired, rfl⟩ := h.1 r hr
    cases hpartner
    exact hpaired.2
  · exact ⟨_, (h.2 j hj ⟨hne, hprover⟩).1, rfl⟩
  · rintro ⟨r, hr, hpartner⟩
    obtain ⟨p, hpaired, rfl⟩ := h'.1 r hr
    cases hpartner
    exact hpaired.2.symm
  · exact ⟨_, (h'.2 i hi ⟨hne.symm, hprover.symm⟩).1, rfl⟩
  · intro r hr hrj r' hr' hri
    obtain ⟨p, hpaired, rfl⟩ := h.1 r hr
    obtain ⟨p', hpaired', rfl⟩ := h'.1 r' hr'
    obtain rfl : p = j := hrj
    obtain rfl : p' = i := hri
    refine ⟨?_, orderedPair_comm _ _ _, getDisputePairKeyName_comm _ _, _, rfl,
      (h.2 _ hj hpaired).2, ?_⟩
    · show pairId ci.libs data p' p = pairId cj.libs data p p'
      rw [hlibs, pairId_comm]
    · show pairMessage ci.libs data addresses p' p ∈ messages'
      rw [hlibs, pairMessage_comm]
      exact (h'.2 _ hi hpaired').2

theorem channel_agrees (hlibs : ci.libs = cj.libs) (hj : j < data.members.val.length) (hne : i ≠ j)
    {setups setups' : List SetupOneInput}
    (h : ∀ s ∈ setups, Channel data addresses s
      ∧ HasChannel data s.opIndex s.wtIndex ∧ (s.opIndex = i ∨ s.wtIndex = i))
    (hall : ∀ op wt, HasChannel data op wt ∧ (op = i ∨ wt = i) →
      ∃ s ∈ setups, s.opIndex = op ∧ s.wtIndex = wt)
    (h' : ∀ s ∈ setups', Channel data addresses s
      ∧ HasChannel data s.opIndex s.wtIndex ∧ (s.opIndex = j ∨ s.wtIndex = j))
    (hall' : ∀ op wt, HasChannel data op wt ∧ (op = j ∨ wt = j) →
      ∃ s ∈ setups', s.opIndex = op ∧ s.wtIndex = wt) :
    ChannelAgrees data i j ci cj setups setups' := by
  refine ⟨⟨?_, fun hprover => hall i j ⟨⟨hne, hprover, hj⟩, .inl rfl⟩⟩,
    ⟨?_, fun hprover => hall' i j ⟨⟨hne, hprover, hj⟩, .inr rfl⟩⟩, ?_⟩
  · rintro ⟨s, hs, rfl, -⟩
    exact (h s hs).2.1.2.1
  · rintro ⟨s, hs, rfl, -⟩
    exact (h' s hs).2.1.2.1
  · rintro s hs rfl rfl s' hs' hop hwt
    have hchannel := (h s hs).1
    have hchannel' := (h' s' hs').1
    -- Both sides look up the same two positions.
    have hoperator : s.operator = s'.operator :=
      Option.some.inj (hchannel.operator.symm.trans (hop ▸ hchannel'.operator))
    have hwatchtower : s.watchtower = s'.watchtower :=
      Option.some.inj (hchannel.watchtower.symm.trans (hwt ▸ hchannel'.watchtower))
    have hkey : s.wtTakekey = s'.wtTakekey := by
      obtain ⟨member, hmember, hkey⟩ := hchannel.takeKey
      obtain ⟨member', hmember', hkey'⟩ := hchannel'.takeKey
      rw [hwt, hmember] at hmember'
      cases hmember'
      exact hkey.symm.trans hkey'
    refine ⟨?_, ?_, ?_⟩
    · unfold SetupOneInput.drpId
      rw [hlibs, hop, hwt]
    · unfold SetupOneInput.participants
      rw [hoperator, hwatchtower]
    · unfold SetupOneInput.disputeCorePid CommitteeData.getDisputeCorePidForKey
      rw [hlibs, hkey]

theorem index_inj {k k' : Nat} (hk : k < data.members.val.length) (hk' : k' < data.members.val.length)
    (h : UInt64.ofNat k = UInt64.ofNat k') : k = k' := by
  have hbound := data.members.property
  have hnat := congrArg UInt64.toNat h
  have hsize : 2 ^ 63 ≤ UInt64.size := by decide
  rwa [UInt64.toNat_ofNat_of_lt' (by omega), UInt64.toNat_ofNat_of_lt' (by omega)] at hnat

theorem channelPreimage_inj {op wt op' wt' : Nat} (h : HasChannel data op wt)
    (h' : HasChannel data op' wt') (heq : channelPreimage data op wt = channelPreimage data op' wt') :
    op = op' ∧ wt = wt' := by
  have hlt : ∀ {k : Nat}, IsProver data k → k < data.members.val.length := fun ⟨_, hmember, _⟩ =>
    (List.getElem?_eq_some_iff.mp hmember).1
  rcases IdRequest.same_of_preimage heq with hsame | ⟨_, _, _, hpair, _⟩
  · injection hsame with _ hop hwt
    exact ⟨index_inj (hlt h.2.1) (hlt h'.2.1) hop, index_inj h.2.2 h'.2.2 hwt⟩
  · cases hpair

/-- **Agreement of committee members.** Two members with the same committee data, each running its
own setup against its own `BitVMX`, agree on the key of their pair and on the channel from one to the
other; the channel is set up by both if the operator is a prover and by none of them otherwise. If
no two of the committee's channels collide under the hash, their ids are distinct. -/
theorem committee_members_agree (hlibs : ci.libs = cj.libs)
    (hlength : addresses.length = data.members.val.length)
    (hi : data.memberIndex ci.myAddress = some i) (hj : data.memberIndex cj.myAddress = some j)
    (hne : ci.myAddress ≠ cj.myAddress) :
    (∀ envI envJ : Env,
      wp (setupPairwiseKeys ci envI data addresses) (fun requests w =>
        wp (setupPairwiseKeys cj envJ data addresses) (fun requests' w' =>
          PairAgrees data addresses i j requests requests' (sent w.log) (sent w'.log))
        (fun _ _ => False) ⟨(), []⟩)
      (fun _ _ => False) ⟨(), []⟩)
    ∧ (∀ (envI envJ : Env) (readyI readyJ : Ready), readyI.p2pAddresses = addresses →
      readyJ.p2pAddresses = addresses →
      wp (completeSetup ci envI data i readyI) (fun ids w =>
        wp (completeSetup cj envJ data j readyJ) (fun ids' w' =>
          ∃ setups setups' : List SetupOneInput,
            (ids = setups.map (·.drpId ci data)
              ∧ sent w.log = setups.flatMap (channelMessages ci data))
            ∧ (ids' = setups'.map (·.drpId cj data)
              ∧ sent w'.log = setups'.flatMap (channelMessages cj data))
            ∧ ChannelAgrees data i j ci cj setups setups')
        (fun _ _ => ¬ (envJ.Delivers ∧ Complete cj data readyJ j)) ⟨(), []⟩)
      (fun _ _ => ¬ (envI.Delivers ∧ Complete ci data readyI i)) ⟨(), []⟩)
    ∧ ((∀ op wt op' wt', HasChannel data op wt → HasChannel data op' wt' →
        finalizeProtocolId ci.libs.toLibs (channelPreimage data op wt)
          = finalizeProtocolId ci.libs.toLibs (channelPreimage data op' wt') →
        channelPreimage data op wt = channelPreimage data op' wt') →
      ∀ s s' : SetupOneInput, HasChannel data s.opIndex s.wtIndex →
        HasChannel data s'.opIndex s'.wtIndex → s.drpId ci data = s'.drpId ci data →
        s.opIndex = s'.opIndex ∧ s.wtIndex = s'.wtIndex) := by
  have hne' : i ≠ j := memberIndex_inj hi hj hne
  have hlt : ∀ {a : Address} {k : Nat}, data.memberIndex a = some k → k < data.members.val.length :=
    fun h => by
      obtain ⟨_, hmember, _⟩ := memberIndex_some h
      exact (List.getElem?_eq_some_iff.mp hmember).1
  refine ⟨fun envI envJ => ?_, fun envI envJ readyI readyJ haddresses haddresses' => ?_,
    fun hfree s s' hs hs' hid => ?_⟩
  · refine wp_imp (setupPairwiseKeys_requests hi hlength _) ?_
    intro requests w h
    refine wp_imp (setupPairwiseKeys_requests hj hlength _) ?_
    intro requests' w' h'
    exact pair_agrees hlibs (hlt hi) (hlt hj) hne' h h'
  · refine wp_mono (completeSetup_sets _) ?_ fun _ _ he h => he ⟨h.1, h.2, hlt hi⟩
    rintro ids w ⟨messages, hsent, setups, hids, rfl, honly, hall⟩
    refine wp_mono (completeSetup_sets _) ?_ fun _ _ he h => he ⟨h.1, h.2, hlt hj⟩
    rintro ids' w' ⟨messages', hsent', setups', hids', rfl, honly', hall'⟩
    rw [haddresses] at honly
    rw [haddresses'] at honly'
    exact ⟨setups, setups', ⟨hids, hsent⟩, ⟨hids', hsent'⟩,
      channel_agrees hlibs (hlt hj) hne' honly hall honly' hall'⟩
  · have hids : ∀ r : SetupOneInput, finalizeProtocolId ci.libs.toLibs
        (channelPreimage data r.opIndex r.wtIndex) = ⟨r.drpId ci data⟩ := fun r =>
      (IdRequest.protocolId_eq ci.libs.toLibs (.disputeChannel data.committeeUuid (.ofNat r.opIndex)
        (.ofNat r.wtIndex))).symm
    exact channelPreimage_inj hs hs' (hfree _ _ _ _ hs hs' (by rw [hids, hids, hid]))

/-- A committee of the prover at address 1 and the verifier at address 2. -/
def sampleData : CommitteeData where
  committeeId := 5
  committee := ⟨⟨[], RVec.nil_bound⟩, 0, []⟩
  members := ⟨[⟨1, .prover, ⟨toBE 33 1⟩, ⟨toBE 33 2⟩, sampleUtxo, 0⟩,
    ⟨2, .verifier, ⟨toBE 33 3⟩, ⟨toBE 33 4⟩, sampleUtxo, 1⟩], by decide⟩

def sampleAddresses : List CommsAddress := [⟨⟨.v4 1, 1⟩, "aa"⟩, ⟨⟨.v4 2, 2⟩, "bb"⟩]

def sampleReady : Ready where
  p2pAddresses := sampleAddresses
  pairwiseKeys := (∅ : Table String PublicKey).insert "aa" ⟨toBE 33 9⟩ |>.insert "bb" ⟨toBE 33 9⟩
  disputeCoreData := [0, 1].map fun k => ⟨0, k, some [some sampleUtxo, some sampleUtxo],
    some [some ⟨sampleUtxo, sampleUtxo⟩, some ⟨sampleUtxo, sampleUtxo⟩]⟩

/-- In a committee of a prover and a verifier each of them sets up the one channel. -/
theorem committee_members_agree_pair :
    (∀ k < 2, (match completeSetup (Config.sample (BitVec.ofNat 160 (k + 1))) (Env.accepting 0)
        sampleData k sampleReady ⟨(), []⟩ with
      | .ok ids _ => ids.length
      | .error _ _ => 0) = 1)
    ∧ ∀ envI envJ : Env,
      wp (setupPairwiseKeys (Config.sample 1) envI sampleData sampleAddresses) (fun requests w =>
        wp (setupPairwiseKeys (Config.sample 2) envJ sampleData sampleAddresses) (fun requests' w' =>
          PairAgrees sampleData sampleAddresses 0 1 requests requests' (sent w.log) (sent w'.log))
        (fun _ _ => False) ⟨(), []⟩)
      (fun _ _ => False) ⟨(), []⟩ :=
  ⟨by decide +kernel, (@committee_members_agree sampleData sampleAddresses (Config.sample 1)
    (Config.sample 2) 0 1 rfl rfl (by decide +kernel) (by decide +kernel) (by decide)).1⟩

end Agreement

end UnionBridge.CommitteeSetup
