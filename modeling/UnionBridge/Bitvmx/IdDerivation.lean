import UnionBridge.Bitvmx.Types

/-!
# Ids of BitVMX programs (`common/bitvmx/src/bitvmx_types.rs`)

An id is the truncated hash of the committee id, the parameters of the program and a salt for its
kind, one after the other and without separators. No salt is the end of another one, so the salt can
be read off a preimage from its end. What stands before it is the committee id, which has a fixed
width, and the parameters. So two requests have the same preimage only if they are the same request.
-/

namespace UnionBridge.Bitvmx

open Contracts

/-! ## The ids -/

def finalizeProtocolId (libs : Libs) (preimage : Bytes) : BitVmxProtocolId :=
  ⟨Uuid.fromBytes ((libs.sha256 preimage).val.take 16)⟩

/-- `to_be_bytes` of a 64-bit `usize`. -/
def usizeBytes (n : UInt64) : Bytes := toBE 8 n.toNat

def saltBytes (salt : String) : Bytes := salt.toUTF8.toList

def disputeCoreProtocolId (libs : Libs) (committeeId : Uuid) (pubkey : PublicKey) :
    BitVmxProtocolId :=
  finalizeProtocolId libs (Uuid.toBytes committeeId ++ pubkey.bytes ++ saltBytes "dispute_core")

/-- The order of the two members matters. -/
def disputeChannelProtocolId (libs : Libs) (committeeId : Uuid) (opIndex wtIndex : UInt64) :
    BitVmxProtocolId :=
  finalizeProtocolId libs (Uuid.toBytes committeeId ++ usizeBytes opIndex ++ usizeBytes wtIndex
    ++ saltBytes "dispute_channel")

/-- The two members of a pair, the smaller one first. -/
def sortedPair (idxA idxB : UInt64) : UInt64 × UInt64 :=
  if idxA ≤ idxB then (idxA, idxB) else (idxB, idxA)

/-- The order of the two members does not matter. -/
def pairwiseAggregatedKeyProtocolId (libs : Libs) (committeeId : Uuid) (idxA idxB : UInt64) :
    BitVmxProtocolId :=
  let (minI, maxI) := sortedPair idxA idxB
  finalizeProtocolId libs (Uuid.toBytes committeeId ++ usizeBytes minI ++ usizeBytes maxI
    ++ saltBytes "pairwise_aggregated_key")

def committeeProtocolId (libs : Libs) (committeeId : Uuid) (salt : String) : BitVmxProtocolId :=
  finalizeProtocolId libs (Uuid.toBytes committeeId ++ saltBytes salt)

def fullPenalizationProtocolId (libs : Libs) (committeeId : Uuid) : BitVmxProtocolId :=
  committeeProtocolId libs committeeId "full_penalization"

def takeAggregatedKeyProtocolId (libs : Libs) (committeeId : Uuid) : BitVmxProtocolId :=
  committeeProtocolId libs committeeId "take_aggregated_key"

def disputeAggregatedKeyProtocolId (libs : Libs) (committeeId : Uuid) : BitVmxProtocolId :=
  committeeProtocolId libs committeeId "dispute_aggregated_key"

/-! ## Requests for an id -/

inductive ProtocolKind where
  | acceptPegin | userTake | advanceFunds | disputeCore | disputeChannel | pairwiseKey
  | fullPenalization | takeKey | disputeKey
deriving DecidableEq

def ProtocolKind.salt : ProtocolKind → String
  | acceptPegin => "accept_pegin"
  | userTake => "user_take"
  | advanceFunds => "advance_funds"
  | disputeCore => "dispute_core"
  | disputeChannel => "dispute_channel"
  | pairwiseKey => "pairwise_aggregated_key"
  | fullPenalization => "full_penalization"
  | takeKey => "take_aggregated_key"
  | disputeKey => "dispute_aggregated_key"

def ProtocolKind.all : List ProtocolKind :=
  [acceptPegin, userTake, advanceFunds, disputeCore, disputeChannel, pairwiseKey, fullPenalization,
    takeKey, disputeKey]

/-- A request for an id, with the parameters of its kind. -/
inductive IdRequest where
  | acceptPegin (committeeId : Uuid) (slotIndex : UInt64)
  | userTake (committeeId : Uuid) (slotIndex : UInt64)
  | advanceFunds (committeeId : Uuid) (slotIndex : UInt64)
  | disputeCore (committeeId : Uuid) (pubkey : PublicKey)
  | disputeChannel (committeeId : Uuid) (opIndex wtIndex : UInt64)
  | pairwiseKey (committeeId : Uuid) (idxA idxB : UInt64)
  | fullPenalization (committeeId : Uuid)
  | takeKey (committeeId : Uuid)
  | disputeKey (committeeId : Uuid)
deriving DecidableEq

namespace IdRequest

def protocolId (libs : Libs) : IdRequest → BitVmxProtocolId
  | acceptPegin committeeId slotIndex => acceptPeginProtocolId libs committeeId slotIndex
  | userTake committeeId slotIndex => userTakeProtocolId libs committeeId slotIndex
  | advanceFunds committeeId slotIndex => advanceFundsProtocolId libs committeeId slotIndex
  | disputeCore committeeId pubkey => disputeCoreProtocolId libs committeeId pubkey
  | disputeChannel committeeId opIndex wtIndex =>
    disputeChannelProtocolId libs committeeId opIndex wtIndex
  | pairwiseKey committeeId idxA idxB => pairwiseAggregatedKeyProtocolId libs committeeId idxA idxB
  | fullPenalization committeeId => fullPenalizationProtocolId libs committeeId
  | takeKey committeeId => takeAggregatedKeyProtocolId libs committeeId
  | disputeKey committeeId => disputeAggregatedKeyProtocolId libs committeeId

def kind : IdRequest → ProtocolKind
  | acceptPegin _ _ => .acceptPegin
  | userTake _ _ => .userTake
  | advanceFunds _ _ => .advanceFunds
  | disputeCore _ _ => .disputeCore
  | disputeChannel _ _ _ => .disputeChannel
  | pairwiseKey _ _ _ => .pairwiseKey
  | fullPenalization _ => .fullPenalization
  | takeKey _ => .takeKey
  | disputeKey _ => .disputeKey

def committeeId : IdRequest → Uuid
  | acceptPegin committeeId _ | userTake committeeId _ | advanceFunds committeeId _
  | disputeCore committeeId _ | disputeChannel committeeId _ _ | pairwiseKey committeeId _ _
  | fullPenalization committeeId | takeKey committeeId | disputeKey committeeId => committeeId

def params : IdRequest → Bytes
  | acceptPegin _ slotIndex | userTake _ slotIndex | advanceFunds _ slotIndex => usizeBytes slotIndex
  | disputeCore _ pubkey => pubkey.bytes
  | disputeChannel _ opIndex wtIndex => usizeBytes opIndex ++ usizeBytes wtIndex
  | pairwiseKey _ idxA idxB =>
    usizeBytes (sortedPair idxA idxB).1 ++ usizeBytes (sortedPair idxA idxB).2
  | fullPenalization _ | takeKey _ | disputeKey _ => []

def preimage (r : IdRequest) : Bytes :=
  Uuid.toBytes r.committeeId ++ (r.params ++ saltBytes r.kind.salt)

/-- The same kind and parameters; the two members of a pairwise key may be swapped. -/
def Same (r r' : IdRequest) : Prop :=
  r = r' ∨ ∃ committeeId idxA idxB,
    r = .pairwiseKey committeeId idxA idxB ∧ r' = .pairwiseKey committeeId idxB idxA

/-! ## What is hashed -/

theorem protocolId_eq (libs : Libs) (r : IdRequest) :
    r.protocolId libs = finalizeProtocolId libs r.preimage := by
  have hflat : ∀ a b c d : Bytes, a ++ b ++ c ++ d = a ++ (b ++ c ++ d) := fun a b c d => by
    simp only [List.append_assoc]
  cases r with
  | disputeChannel => exact congrArg (finalizeProtocolId libs) (hflat _ _ _ _)
  | pairwiseKey => exact congrArg (finalizeProtocolId libs) (hflat _ _ _ _)
  | fullPenalization => rfl
  | takeKey => rfl
  | disputeKey => rfl
  | _ => exact congrArg (finalizeProtocolId libs) (List.append_assoc _ _ _)

theorem salt_suffix : ∀ k ∈ ProtocolKind.all, ∀ k' ∈ ProtocolKind.all,
    saltBytes k.salt <:+ saltBytes k'.salt → k = k' := by
  decide +kernel

theorem mem_all (k : ProtocolKind) : k ∈ ProtocolKind.all := by
  cases k <;> decide

/-- The end of a byte string tells its salt. -/
theorem salt_inj {k k' : ProtocolKind} {before before' : Bytes}
    (h : before ++ saltBytes k.salt = before' ++ saltBytes k'.salt) : k = k' := by
  have hleft : saltBytes k.salt <:+ before ++ saltBytes k.salt := List.suffix_append _ _
  have hright : saltBytes k'.salt <:+ before ++ saltBytes k.salt := by
    rw [h]
    exact List.suffix_append _ _
  rcases List.suffix_or_suffix_of_suffix hleft hright with hsuffix | hsuffix
  · exact salt_suffix k (mem_all k) k' (mem_all k') hsuffix
  · exact (salt_suffix k' (mem_all k') k (mem_all k) hsuffix).symm

theorem usizeBytes_inj {n m : UInt64} (h : usizeBytes n = usizeBytes m) : n = m :=
  UInt64.toNat_inj.mp (toBE_inj n.toNat_lt m.toNat_lt h)

theorem uuidBytes_inj {a b : Uuid} (h : Uuid.toBytes a = Uuid.toBytes b) : a = b :=
  BitVec.eq_of_toNat_eq (toBE_inj a.isLt b.isLt h)

theorem usizeBytes_append_inj {a b a' b' : UInt64}
    (h : usizeBytes a ++ usizeBytes b = usizeBytes a' ++ usizeBytes b') : a = a' ∧ b = b' := by
  obtain ⟨ha, hb⟩ := List.append_inj h (by simp [usizeBytes])
  exact ⟨usizeBytes_inj ha, usizeBytes_inj hb⟩

theorem sortedPair_comm (a b : UInt64) : sortedPair a b = sortedPair b a := by
  unfold sortedPair
  split
  · next h =>
    split
    · next h' => rw [UInt64.le_antisymm h h']
    · rfl
  · next h => rw [if_pos ((UInt64.le_total a b).resolve_left h)]

theorem sortedPair_inj {a b a' b' : UInt64} (h : sortedPair a b = sortedPair a' b') :
    a = a' ∧ b = b' ∨ a = b' ∧ b = a' := by
  unfold sortedPair at h
  split at h <;> split at h <;> cases h
  · exact .inl ⟨rfl, rfl⟩
  · exact .inr ⟨rfl, rfl⟩
  · exact .inr ⟨rfl, rfl⟩
  · exact .inl ⟨rfl, rfl⟩

theorem same_of_params {r r' : IdRequest} (hkind : r.kind = r'.kind)
    (hcommittee : r.committeeId = r'.committeeId) (hparams : r.params = r'.params) : r.Same r' := by
  cases r <;> cases r' <;> cases hkind
  case acceptPegin committeeId slot committeeId' slot' =>
    cases hcommittee
    cases usizeBytes_inj hparams
    exact .inl rfl
  case userTake committeeId slot committeeId' slot' =>
    cases hcommittee
    cases usizeBytes_inj hparams
    exact .inl rfl
  case advanceFunds committeeId slot committeeId' slot' =>
    cases hcommittee
    cases usizeBytes_inj hparams
    exact .inl rfl
  case disputeCore committeeId key committeeId' key' =>
    obtain ⟨bytes⟩ := key
    obtain ⟨bytes'⟩ := key'
    cases hcommittee
    cases (show bytes = bytes' from hparams)
    exact .inl rfl
  case disputeChannel committeeId op wt committeeId' op' wt' =>
    cases hcommittee
    obtain ⟨rfl, rfl⟩ := usizeBytes_append_inj hparams
    exact .inl rfl
  case pairwiseKey committeeId a b committeeId' a' b' =>
    cases hcommittee
    have hpair := sortedPair_inj (Prod.ext_iff.mpr (usizeBytes_append_inj hparams))
    rcases hpair with ⟨rfl, rfl⟩ | ⟨rfl, rfl⟩
    · exact .inl rfl
    · exact .inr ⟨_, _, _, rfl, rfl⟩
  case fullPenalization =>
    cases hcommittee
    exact .inl rfl
  case takeKey =>
    cases hcommittee
    exact .inl rfl
  case disputeKey =>
    cases hcommittee
    exact .inl rfl

theorem preimage_of_same {r r' : IdRequest} (h : r.Same r') : r.preimage = r'.preimage := by
  rcases h with rfl | ⟨committeeId, idxA, idxB, rfl, rfl⟩
  · rfl
  · show Uuid.toBytes committeeId ++ (usizeBytes (sortedPair idxA idxB).1
      ++ usizeBytes (sortedPair idxA idxB).2 ++ _) = _
    rw [sortedPair_comm]
    rfl

/-- Read from the end the salt, and from the front the committee. -/
theorem same_of_preimage {r r' : IdRequest} (h : r.preimage = r'.preimage) : r.Same r' := by
  have hflat : ∀ r : IdRequest, r.preimage
      = (Uuid.toBytes r.committeeId ++ r.params) ++ saltBytes r.kind.salt := fun r =>
    (List.append_assoc _ _ _).symm
  have hkind : r.kind = r'.kind := salt_inj ((hflat r).symm.trans (h.trans (hflat r')))
  obtain ⟨hcommittee, hrest⟩ := List.append_inj h (by simp [Uuid.toBytes])
  rw [hkind] at hrest
  exact same_of_params hkind (uuidBytes_inj hcommittee) (List.append_cancel_right hrest)

/-- **Ids do not clash.** The byte strings that are hashed for two requests are equal only if the
requests are the same, up to the order of the members of a pairwise key; so two different requests
with the same id are a collision of the truncated hash. -/
theorem protocol_ids_never_clash (libs : Libs) (r r' : IdRequest) :
    (r.preimage = r'.preimage ↔ r.Same r')
    ∧ (r.protocolId libs = r'.protocolId libs → r.Same r' ∨ r.preimage ≠ r'.preimage
      ∧ finalizeProtocolId libs r.preimage = finalizeProtocolId libs r'.preimage) := by
  refine ⟨⟨same_of_preimage, preimage_of_same⟩, fun hid => ?_⟩
  by_cases h : r.preimage = r'.preimage
  · exact .inl (same_of_preimage h)
  · rw [protocolId_eq, protocolId_eq] at hid
    exact .inr ⟨h, hid⟩

end IdRequest

end UnionBridge.Bitvmx
