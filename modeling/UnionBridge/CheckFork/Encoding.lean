import UnionBridge.CheckFork.Header
import UnionBridge.Lib.Keccak
import Mathlib.Data.Set.Function

/-!
# The header encoding determines the header

The encoding is a list of eighteen byte strings (`headerStrings`), so the strings can be read
back from it. Seventeen of them are fields of the header, or numbers of which the string is an
injective form. The eighteenth, the extension field, has three forms; the two compressed ones hold
a hash of a nested list (`nestedList`), which in turn holds a hash of the logs bloom. With no
collision among the hashed messages (`hashedMessages`) the bloom, the base event and the presence
of the PTE edges follow as well.
-/

namespace UnionBridge.CheckFork

open Rlp Outcome

/-! ## Coin values -/

@[simp] theorem beNat_u256BeCoinBytes (v : U256) : beNat (u256BeCoinBytes v) = v.toNat := by
  unfold u256BeCoinBytes u256BeTrimmed U256.toBigEndian
  split
  · next h => simp [h]
  · rw [beNat_trimZeros, beNat_toBE (by have := v.isLt; omega)]

theorem length_u256BeCoinBytes_le (v : U256) : (u256BeCoinBytes v).length ≤ 32 := by
  unfold u256BeCoinBytes u256BeTrimmed U256.toBigEndian
  split
  · simp
  · simpa using length_trimZeros_le (toBE 32 v.toNat)

@[simp] theorem beNat_signedCoinBytes (v : U256) : beNat (signedCoinBytes v) = v.toNat := by
  rw [← beNat_u256BeCoinBytes v]
  unfold signedCoinBytes
  split
  · next h => rw [h]
  · next b bs h =>
    rw [h]
    split
    · simp [beNat_cons]
    · rfl

theorem length_signedCoinBytes_le (v : U256) : (signedCoinBytes v).length ≤ 33 := by
  have hle := length_u256BeCoinBytes_le v
  unfold signedCoinBytes
  split
  · simp
  · next b bs h =>
    rw [h] at hle
    split
    · simp only [List.length_cons] at hle ⊢; omega
    · simp only [List.length_cons] at hle ⊢; omega

/-- The string of the minimum gas price: zero is one zero byte. -/
def gasPriceBytes (price : U256) : Bytes :=
  if price = 0 then [0] else signedCoinBytes price

theorem encodeSignedCoinValueAsByte_eq (price : U256) :
    encodeSignedCoinValueAsByte price = encodeBytes (gasPriceBytes price) := by
  unfold encodeSignedCoinValueAsByte gasPriceBytes encodeSignedCoinValue
  split <;> rfl

@[simp] theorem beNat_gasPriceBytes (price : U256) : beNat (gasPriceBytes price) = price.toNat := by
  unfold gasPriceBytes
  split
  · next h => simp [h, beNat]
  · exact beNat_signedCoinBytes price

theorem u256_eq_of_beNat {form : U256 → Bytes} (hform : ∀ v, beNat (form v) = v.toNat) {v w : U256}
    (h : form v = form w) : v = w :=
  U256.toNat_injective (by rw [← hform v, ← hform w, h])

/-- The big-endian bytes of `n` in the least width that holds them: none for zero. -/
def minimalBytes (n : Nat) : Bytes := toBE ((n.size + 7) / 8) n

/-- Java's `BigInteger.toByteArray` of a non-negative number: the least width that also holds a sign
bit, which is `bitLength / 8 + 1`. -/
def toByteArray (n : Nat) : Bytes := toBE (n.size / 8 + 1) n

/-- Java's `new BigInteger(bytes)`: the bytes in two's complement. -/
def ofByteArray (bs : Bytes) : Int :=
  if bs.head?.any (· ≥ 0x80) then beNat bs - 256 ^ bs.length else beNat bs

/-- The bytes of a value other than zero start with the byte that holds its highest bit. -/
theorem size_of_u256BeCoinBytes {v : U256} {b : UInt8} {bs : Bytes}
    (h : u256BeCoinBytes v = b :: bs) :
    v.toNat.size = b.toNat.size + 8 * bs.length ∧ 0 < b.toNat.size ∧ b.toNat.size ≤ 8 := by
  have hb : b ≠ 0 := by
    unfold u256BeCoinBytes at h
    split at h
    · cases h
    · exact head_trimZeros_ne_zero h
  refine ⟨?_, Nat.size_pos.mpr ?_, Nat.size_le.mpr b.toNat_lt⟩
  · rw [← beNat_u256BeCoinBytes, h, size_beNat_cons hb]
  · exact Nat.pos_of_ne_zero fun h0 => hb (UInt8.toNat_inj.mp h0)

theorem u256BeCoinBytes_eq (v : U256) : u256BeCoinBytes v = minimalBytes v.toNat := by
  have hvalue := beNat_u256BeCoinBytes v
  cases hbytes : u256BeCoinBytes v with
  | nil =>
    rw [← hvalue, hbytes]
    rfl
  | cons b bs =>
    obtain ⟨hsize, hpos, hle⟩ := size_of_u256BeCoinBytes hbytes
    have hwidth : (v.toNat.size + 7) / 8 = (b :: bs).length := by
      rw [List.length_cons]
      omega
    rw [minimalBytes, hwidth, ← hvalue, hbytes, toBE_beNat]

theorem gasPriceBytes_eq (v : U256) : gasPriceBytes v = toByteArray v.toNat := by
  have hvalue := beNat_u256BeCoinBytes v
  unfold gasPriceBytes signedCoinBytes
  cases hbytes : u256BeCoinBytes v with
  | nil =>
    have hzero : v = 0 := U256.toNat_injective (by rw [← hvalue, hbytes]; rfl)
    rw [if_pos hzero, hzero]
    rfl
  | cons b bs =>
    obtain ⟨hsize, hpos, hle⟩ := size_of_u256BeCoinBytes hbytes
    have hzero : v ≠ 0 := by
      rintro rfl
      cases hbytes
    rw [if_neg hzero, toByteArray]
    show (if b ≥ 0x80 then 0 :: b :: bs else b :: bs) = _
    by_cases hsign : b ≥ 0x80
    · -- the highest bit is the eighth of its byte, and the sign takes a byte of its own
      have hhigh : 7 < b.toNat.size := Nat.lt_size.mpr (UInt8.le_iff_toNat_le.mp hsign)
      have hwidth : v.toNat.size / 8 + 1 = (0 :: b :: bs).length := by
        simp only [List.length_cons]
        omega
      have hvalue' : beNat (0 :: b :: bs) = v.toNat := by
        rw [beNat_cons, ← hbytes, hvalue]
        simp
      rw [if_pos hsign, hwidth, ← hvalue', toBE_beNat]
    · have hlow : b.toNat.size ≤ 7 :=
        Nat.size_le.mpr (UInt8.lt_iff_toNat_lt.mp (UInt8.not_le.mp hsign))
      have hwidth : v.toNat.size / 8 + 1 = (b :: bs).length := by
        rw [List.length_cons]
        omega
      rw [if_neg hsign, hwidth, ← hvalue, hbytes, toBE_beNat]

/-- The sign byte keeps every value positive. -/
theorem ofByteArray_gasPriceBytes (v : U256) : ofByteArray (gasPriceBytes v) = v.toNat := by
  have hsign : (gasPriceBytes v).head?.any (· ≥ 0x80) = false := by
    unfold gasPriceBytes signedCoinBytes
    split
    · rfl
    · split
      · rfl
      · split
        · rfl
        · next h => simpa using h
  rw [ofByteArray, hsign, if_neg (by decide), beNat_gasPriceBytes]

theorem length_gasPriceBytes_le (v : U256) : (gasPriceBytes v).length ≤ 33 := by
  unfold gasPriceBytes
  split
  · decide
  · exact length_signedCoinBytes_le v

/-- **Coin values are written canonically.** A coin value is the string of its minimal bytes, a
signed one that of the bytes of Java's `BigInteger`. Reading either back gives the value, so neither
form is shared by two values. -/
theorem coin_values_canonical :
    (∀ v : U256, encodeCoinValue v = encodeBytes (minimalBytes v.toNat)
      ∧ (decodeString (encodeCoinValue v)).map (fun p => (beNat p.1, p.2)) = some (v.toNat, [])
      ∧ encodeSignedCoinValueAsByte v = encodeBytes (toByteArray v.toNat)
      ∧ (decodeString (encodeSignedCoinValueAsByte v)).map (fun p => (ofByteArray p.1, p.2))
        = some ((v.toNat : Int), []))
      ∧ Function.Injective encodeCoinValue ∧ Function.Injective encodeSignedCoinValueAsByte := by
  have hcoin : ∀ v : U256,
      (decodeString (encodeCoinValue v)).map (fun p => (beNat p.1, p.2)) = some (v.toNat, []) := by
    intro v
    have hle := length_u256BeCoinBytes_le v
    rw [encodeCoinValue, ← List.append_nil (encodeBytes _), decodeString_encodeBytes _ _ (by omega)]
    simp
  have hsigned : ∀ v : U256,
      (decodeString (encodeSignedCoinValueAsByte v)).map (fun p => (ofByteArray p.1, p.2))
        = some ((v.toNat : Int), []) := by
    intro v
    have hle := length_gasPriceBytes_le v
    rw [encodeSignedCoinValueAsByte_eq, ← List.append_nil (encodeBytes _),
      decodeString_encodeBytes _ _ (by omega)]
    simp [ofByteArray_gasPriceBytes]
  refine ⟨fun v => ⟨?_, hcoin v, ?_, hsigned v⟩, ?_, ?_⟩
  · rw [encodeCoinValue, u256BeCoinBytes_eq]
  · rw [encodeSignedCoinValueAsByte_eq, gasPriceBytes_eq]
  · intro v w h
    have hv := hcoin v
    rw [h, hcoin w] at hv
    exact U256.toNat_injective (Prod.mk.inj (Option.some.inj hv)).1.symm
  · intro v w h
    have hv := hsigned v
    rw [h, hsigned w] at hv
    exact U256.toNat_injective (Int.ofNat.inj (Prod.mk.inj (Option.some.inj hv)).1.symm)

theorem uint64_eq_of_bytes {n m : UInt64}
    (h : trimZeros (toBE 8 n.toNat) = trimZeros (toBE 8 m.toNat)) : n = m := by
  have hn := n.toNat_lt
  have hm := m.toNat_lt
  exact UInt64.toNat_inj.mp (trimZeros_toBE_inj (by omega) (by omega) h)

namespace RskBlockHeader

/-! ## The list of strings -/

def headerStrings (h : RskBlockHeader) (extensionField : Bytes) (price : U256) : List Bytes :=
  [h.parent.val, h.unclesHash.val, h.coinbase.val, h.stateRoot.val, h.txTrieRoot.val,
    h.receiptTrieRoot.val, extensionField, u256BeCoinBytes h.difficulty,
    trimZeros (toBE 8 h.number.toNat), h.gasLimit.val, trimZeros (toBE 8 h.gasUsed.toNat),
    trimZeros (toBE 8 h.timestamp.toNat), h.extraData.val, u256BeCoinBytes h.paidFees,
    gasPriceBytes price, trimZeros (toBE 8 h.uncles.val.length), [],
    h.bitcoinMergedMiningHeader.val]

theorem encodeUint64_eq (n : UInt64) :
    encodeUint 8 n.toNat = encodeBytes (trimZeros (toBE 8 n.toNat)) := by
  have hn := n.toNat_lt
  exact encodeUint_eq (by omega) (by omega)

theorem uncleCount_lt (h : RskBlockHeader) : h.uncles.val.length < 256 ^ 8 := by
  have hfit := h.uncles.property
  omega

variable {h : RskBlockHeader} {keccak : Digest} {a b : RskBlockHeader} {ext : Bytes}
  {bytes : Bytes}

theorem encodeRlp_eq_ok :
    h.encodeRlp keccak = .ok bytes ↔ ∃ price ext, h.minimumGasPrice = some price
      ∧ h.extensionField keccak = .ok ext
      ∧ bytes = encodeList ((h.headerStrings ext price).map encodeBytes) := by
  unfold encodeRlp
  cases h.minimumGasPrice with
  | none => simp
  | some price =>
    simp only [bind_eq_ok, pure_eq_ok, Except.ok.injEq, encodeUint64_eq,
      encodeUint_eq (by omega : 8 < 56) (uncleCount_lt h), encodeCoinValue,
      encodeSignedCoinValueAsByte_eq, ummRoot, headerStrings, List.map_cons, List.map_nil]
    constructor
    · rintro ⟨ext, hext, hbytes⟩
      exact ⟨price, ext, rfl, hext, hbytes.symm⟩
    · rintro ⟨price', ext, hprice, hext, hbytes⟩
      obtain rfl := Option.some.inj hprice
      exact ⟨ext, hext, hbytes.symm⟩

/-! ## The extension field -/

/-- The strings of the nested list: the hash of the bloom, the base event under version 2 and an
empty string for the (necessarily empty) PTE edges when they are present. -/
def nestedStrings (keccak : Digest) (h : RskBlockHeader) : List Bytes :=
  (keccak h.extensionData.val).val
    :: (if h.version = RSK_HEADER_EXTENSION_TYPE_V2 then [h.baseEventBytes] else [])
    ++ (if h.rskPteEdges.isSome then [[]] else [])

/-- The nested list of a compressed extension field. -/
def nestedList (keccak : Digest) (h : RskBlockHeader) : Bytes :=
  encodeList ((h.nestedStrings keccak).map encodeBytes)

def compressedField (keccak : Digest) (h : RskBlockHeader) : Bytes :=
  encodeList ([[h.version], (keccak (h.nestedList keccak)).val].map encodeBytes)

/-- The messages that `encodeRlp` hashes: none when the bloom itself is written. -/
def hashedMessages (keccak : Digest) (h : RskBlockHeader) : List Bytes :=
  if h.version = RSK_HEADER_EXTENSION_TYPE_V2 ∨ h.rskPteEdges.isSome then
    [h.extensionData.val, h.nestedList keccak]
  else
    []

theorem logsBloomV0_eq_ok {bloom : Bytes} :
    h.logsBloomV0 = .ok bloom ↔ h.extensionData.val.length = 256 ∧ bloom = h.extensionData.val := by
  unfold logsBloomV0
  rw [guard_eq_ok]
  simp only [ne_eq, not_not, Except.ok.injEq]
  exact and_congr_right fun _ => eq_comm

theorem encodedRskPteEdges_eq_ok {field : Option Bytes} (hok : h.encodedRskPteEdges = .ok field) :
    field = if h.rskPteEdges.isSome then some (encodeBytes []) else none := by
  unfold encodedRskPteEdges at hok
  cases hedges : h.rskPteEdges with
  | none =>
    rw [hedges] at hok
    simpa using hok.symm
  | some edges =>
    rw [hedges] at hok
    rw [guard_eq_ok, guard_eq_ok, Except.ok.injEq] at hok
    obtain ⟨_, hmax, hfield⟩ := hok
    have hnil : edges.val = [] := by
      rw [MAX_RSK_PTE_EDGES] at hmax
      exact List.length_eq_zero_iff.mp (by omega)
    rw [← hfield, hnil]
    rfl

theorem compressedExtensionData_eq_ok (keccak : Digest) (h : RskBlockHeader)
    (hok : h.compressedExtensionData keccak h.version
      (if h.version = RSK_HEADER_EXTENSION_TYPE_V2 then [encodeBytes h.baseEventBytes] else [])
        = .ok ext)
    (hv : h.version.toNat ≠ 0) :
    h.extensionData.val.length = 256 ∧ ext = h.compressedField keccak := by
  unfold compressedExtensionData at hok
  rw [bind_eq_ok] at hok
  obtain ⟨bloom, hbloom, hok⟩ := hok
  obtain ⟨hlen, rfl⟩ := logsBloomV0_eq_ok.mp hbloom
  rw [bind_eq_ok] at hok
  obtain ⟨field, hfield, hok⟩ := hok
  refine ⟨hlen, ?_⟩
  simp only [pure_eq_ok, Except.ok.injEq] at hok
  have htype : encodeUint 1 h.version.toNat = encodeBytes [h.version] := by
    have hlt := h.version.toNat_lt
    rw [encodeUint_eq (by omega) (by omega)]
    have hne : h.version ≠ 0 := fun h0 => hv (by rw [h0]; rfl)
    simp [toBE, trimZeros, hne]
  have hnested : extensionForHash keccak h.extensionData.val
      (if h.version = RSK_HEADER_EXTENSION_TYPE_V2 then [encodeBytes h.baseEventBytes] else [])
      field = h.nestedList keccak := by
    rw [encodedRskPteEdges_eq_ok hfield]
    unfold extensionForHash nestedList nestedStrings
    congr 1
    split <;> split <;> rfl
  rw [← hok, htype, hnested]
  rfl

/-- **Inversion of the extension field**: the plain bloom, or the compressed field. -/
theorem extensionField_eq_ok (hok : h.extensionField keccak = .ok ext) :
    h.extensionData.val.length = 256 ∧
      ((h.version = RSK_HEADER_EXTENSION_TYPE_V1 ∧ h.rskPteEdges.isSome = false
          ∧ ext = h.extensionData.val)
        ∨ ((h.version = RSK_HEADER_EXTENSION_TYPE_V2
            ∨ h.version = RSK_HEADER_EXTENSION_TYPE_V1 ∧ h.rskPteEdges.isSome = true)
          ∧ ext = h.compressedField keccak)) := by
  unfold extensionField at hok
  split at hok
  · next hv =>
    unfold compressedExtensionDataV2 at hok
    obtain ⟨_, hok⟩ := guard_eq_ok.mp hok
    obtain ⟨hlen, hext⟩ := compressedExtensionData_eq_ok keccak h
      (by rw [if_pos hv, hv]; exact hok) (by rw [hv]; decide)
    exact ⟨hlen, Or.inr ⟨Or.inl hv, hext⟩⟩
  · next hv2 =>
    split at hok
    · next hv =>
      split at hok
      · next hsome =>
        unfold compressedExtensionDataV1 at hok
        obtain ⟨hlen, hext⟩ := compressedExtensionData_eq_ok keccak h
          (by rw [if_neg hv2, hv]; exact hok) (by rw [hv]; decide)
        exact ⟨hlen, Or.inr ⟨Or.inr ⟨hv, hsome⟩, hext⟩⟩
      · next hnone =>
        obtain ⟨hlen, hext⟩ := logsBloomV0_eq_ok.mp hok
        exact ⟨hlen, Or.inl ⟨hv, by simpa using hnone, hext⟩⟩
    · simp at hok

theorem extensionField_v2 (keccak : Digest)
    (hv : h.version = RSK_HEADER_EXTENSION_TYPE_V2) (hedges : h.rskPteEdges = none)
    (hbloom : h.extensionData.val.length = 256)
    (hevent : h.baseEventBytes.length ≤ BASE_EVENT_MAX_SIZE) :
    h.extensionField keccak = .ok (h.compressedField keccak) := by
  have hfield : h.encodedRskPteEdges = .ok none := by rw [encodedRskPteEdges, hedges]
  have hok : ∃ ext, h.extensionField keccak = .ok ext := by
    rw [extensionField, if_pos hv, compressedExtensionDataV2, if_neg (by omega),
      compressedExtensionData, logsBloomV0_eq_ok.mpr ⟨hbloom, rfl⟩, hfield]
    exact ⟨_, rfl⟩
  obtain ⟨ext, hok⟩ := hok
  obtain ⟨_, ⟨hv1, _⟩ | ⟨_, hext⟩⟩ := extensionField_eq_ok hok
  · rw [hv] at hv1
    exact absurd hv1 (by decide)
  · rw [hok, hext]

/-! ## Lengths -/

theorem length_encodeBytes_hash (d : H256) : (encodeBytes d.val).length = 33 := by
  obtain ⟨bs, hlen⟩ := d
  match bs, hlen with
  | a :: b :: bs, hlen =>
    simp only [encodeBytes, List.length_append, hlen]
    rfl

theorem length_compressedField (keccak : Digest)
    (hv : h.version < 0x80) : (h.compressedField keccak).length = 35 := by
  have hpayload : (([[h.version], (keccak (h.nestedList keccak)).val].map encodeBytes).flatten).length
      = 34 := by
    have htype : (encodeBytes [h.version]).length = 1 := by simp [encodeBytes, hv]
    simp only [List.map_cons, List.map_nil, List.flatten_cons, List.flatten_nil, List.append_nil,
      List.length_append, htype, length_encodeBytes_hash]
  rw [compressedField, encodeList, List.length_append, hpayload, header_short true (by omega)]
  rfl

theorem length_extensionField_le (hok : h.extensionField keccak = .ok ext) : ext.length ≤ 256 := by
  obtain ⟨hlen, ⟨_, _, rfl⟩ | ⟨hv, rfl⟩⟩ := extensionField_eq_ok hok
  · omega
  · have hsmall : h.version < 0x80 := by
      rcases hv with hv | ⟨hv, _⟩ <;> rw [hv] <;> decide
    rw [length_compressedField keccak hsmall]
    omega

theorem length_headerStrings_lt {price : U256}
    (hext : ext.length ≤ 256) : ∀ s ∈ h.headerStrings ext price, s.length < 2 ^ 64 := by
  have huint : ∀ n, (trimZeros (toBE 8 n)).length < 2 ^ 64 := by
    intro n
    have := lengthBytes_le n
    omega
  have hcoin : ∀ v, (u256BeCoinBytes v).length < 2 ^ 64 := by
    intro v
    have := length_u256BeCoinBytes_le v
    omega
  have hprice : (gasPriceBytes price).length < 2 ^ 64 := by
    have := length_signedCoinBytes_le price
    unfold gasPriceBytes
    split
    · simp
    · omega
  have hfixed : ∀ {n : Nat} (bs : FixedBytes n), n < 2 ^ 64 → bs.val.length < 2 ^ 64 := by
    intro n bs hn
    rw [bs.property]
    exact hn
  have hvec : ∀ v : RVec UInt8, v.val.length < 2 ^ 64 := fun v => by
    have := v.property
    omega
  simp only [headerStrings, List.forall_mem_cons]
  exact ⟨hfixed _ (by omega), hfixed _ (by omega), hfixed _ (by omega), hfixed _ (by omega),
    hfixed _ (by omega), hfixed _ (by omega), by omega, hcoin _, huint _, hvec _, huint _, huint _,
    hvec _, hcoin _, hprice, huint _, by simp, hvec _, by simp⟩

theorem length_nestedStrings_lt (keccak : Digest) (h : RskBlockHeader) :
    ∀ s ∈ h.nestedStrings keccak, s.length < 2 ^ 64 := by
  have hevent : h.baseEventBytes.length < 2 ^ 64 := by
    unfold baseEventBytes
    split
    · simp
    · next event _ => have := event.property; omega
  have hhash : (keccak h.extensionData.val).val.length < 2 ^ 64 := by
    rw [(keccak h.extensionData.val).property]; omega
  intro s hs
  simp only [nestedStrings, List.mem_append, List.mem_cons] at hs
  rcases hs with (rfl | hs) | hs
  · exact hhash
  · split at hs
    · rw [List.mem_singleton] at hs; rw [hs]; exact hevent
    · simp at hs
  · split at hs
    · rw [List.mem_singleton] at hs; rw [hs]; simp
    · simp at hs

/-! ## Injectivity -/

/-- The fields the encoding is meant to hash agree. -/
structure SameHashedFields (a b : RskBlockHeader) : Prop where
  parent : a.parent = b.parent
  unclesHash : a.unclesHash = b.unclesHash
  coinbase : a.coinbase = b.coinbase
  stateRoot : a.stateRoot = b.stateRoot
  txTrieRoot : a.txTrieRoot = b.txTrieRoot
  receiptTrieRoot : a.receiptTrieRoot = b.receiptTrieRoot
  extensionData : a.extensionData = b.extensionData
  version : a.version = b.version
  difficulty : a.difficulty = b.difficulty
  number : a.number = b.number
  gasLimit : a.gasLimit = b.gasLimit
  gasUsed : a.gasUsed = b.gasUsed
  timestamp : a.timestamp = b.timestamp
  extraData : a.extraData = b.extraData
  paidFees : a.paidFees = b.paidFees
  minimumGasPrice : a.minimumGasPrice = b.minimumGasPrice
  uncleCount : a.uncles.val.length = b.uncles.val.length
  bitcoinMergedMiningHeader : a.bitcoinMergedMiningHeader = b.bitcoinMergedMiningHeader
  rskPteEdges : a.rskPteEdges.isSome = b.rskPteEdges.isSome
  /-- No base event counts as the empty one. -/
  baseEvent : a.version = RSK_HEADER_EXTENSION_TYPE_V2 → a.baseEventBytes = b.baseEventBytes

/-- Equal compressed fields have equal types and, without a collision, equal nested lists. -/
theorem compressedField_inj
    (hkeccak : Set.InjOn keccak {m | m = a.nestedList keccak ∨ m = b.nestedList keccak})
    (h : a.compressedField keccak = b.compressedField keccak) :
    a.version = b.version ∧ a.nestedStrings keccak = b.nestedStrings keccak := by
  have hshort : ∀ c : RskBlockHeader,
      ∀ s ∈ [[c.version], (keccak (c.nestedList keccak)).val], s.length < 2 ^ 64 := by
    intro c s hs
    simp only [List.mem_cons, List.not_mem_nil, or_false] at hs
    rcases hs with rfl | rfl
    · simp
    · rw [(keccak (c.nestedList keccak)).property]; omega
  have hstrings := encodeList_encodeBytes_inj (hshort a) (hshort b) h
  simp only [List.cons.injEq, and_true] at hstrings
  obtain ⟨hversion, hhash⟩ := hstrings
  have hnested := hkeccak (Or.inl rfl) (Or.inr rfl) (Subtype.ext hhash)
  exact ⟨hversion, encodeList_encodeBytes_inj (length_nestedStrings_lt keccak a)
    (length_nestedStrings_lt keccak b) hnested⟩

/-- Under one version the nested strings give the bloom, the presence of the edges and the base
event. -/
theorem nestedStrings_inj
    (hkeccak : Set.InjOn keccak {m | m = a.extensionData.val ∨ m = b.extensionData.val})
    (hversion : a.version = b.version) (h : a.nestedStrings keccak = b.nestedStrings keccak) :
    a.extensionData = b.extensionData ∧ a.rskPteEdges.isSome = b.rskPteEdges.isSome
      ∧ (a.version = RSK_HEADER_EXTENSION_TYPE_V2 → a.baseEventBytes = b.baseEventBytes) := by
  unfold nestedStrings at h
  rw [← hversion, List.cons_append, List.cons_append, List.cons.injEq] at h
  obtain ⟨hbloom, hrest⟩ := h
  refine ⟨Subtype.ext (hkeccak (Or.inl rfl) (Or.inr rfl) (Subtype.ext hbloom)), ?_, ?_⟩
  · -- the edges are the difference in length
    have hlen := congrArg List.length hrest
    rw [List.length_append, List.length_append, apply_ite List.length, apply_ite List.length,
      apply_ite List.length, apply_ite List.length] at hlen
    cases ha : a.rskPteEdges.isSome <;> cases hb : b.rskPteEdges.isSome <;>
      simp [ha, hb] at hlen ⊢
  · intro hv
    simp only [hv, if_true, List.cons_append, List.nil_append, List.cons.injEq] at hrest
    exact hrest.1

/-- Equal extension fields come from equal versions, blooms, edges and base events: the plain and
the compressed form differ in length, the two compressed ones in their type byte. -/
theorem extensionField_inj
    (ha : a.extensionField keccak = .ok ext) (hb : b.extensionField keccak = .ok ext)
    (hkeccak : Set.InjOn keccak {m | m ∈ a.hashedMessages keccak ∨ m ∈ b.hashedMessages keccak}) :
    a.version = b.version ∧ a.extensionData = b.extensionData
      ∧ a.rskPteEdges.isSome = b.rskPteEdges.isSome
      ∧ (a.version = RSK_HEADER_EXTENSION_TYPE_V2 → a.baseEventBytes = b.baseEventBytes) := by
  have hsmall : ∀ {c : RskBlockHeader}, (c.version = RSK_HEADER_EXTENSION_TYPE_V2
      ∨ c.version = RSK_HEADER_EXTENSION_TYPE_V1 ∧ c.rskPteEdges.isSome = true)
      → c.version < 0x80 := by
    rintro c (hv | ⟨hv, _⟩) <;> rw [hv] <;> decide
  have hmessages : ∀ {c : RskBlockHeader}, (c.version = RSK_HEADER_EXTENSION_TYPE_V2
      ∨ c.version = RSK_HEADER_EXTENSION_TYPE_V1 ∧ c.rskPteEdges.isSome = true)
      → c.hashedMessages keccak = [c.extensionData.val, c.nestedList keccak] := by
    intro c hc
    rw [hashedMessages, if_pos (hc.imp_right And.right)]
  obtain ⟨halen, ⟨hav, hae, haeq⟩ | ⟨hav, haeq⟩⟩ := extensionField_eq_ok ha <;>
    obtain ⟨hblen, ⟨hbv, hbe, hbeq⟩ | ⟨hbv, hbeq⟩⟩ := extensionField_eq_ok hb
  · -- two plain blooms
    refine ⟨by rw [hav, hbv], Subtype.ext (by rw [← haeq, hbeq]), by rw [hae, hbe], ?_⟩
    intro hv2
    rw [hav] at hv2
    exact absurd hv2 (by decide)
  · have hlen := length_compressedField keccak (hsmall hbv)
    rw [← hbeq, haeq] at hlen
    omega
  · have hlen := length_compressedField keccak (hsmall hav)
    rw [← haeq, hbeq] at hlen
    omega
  · -- two compressed fields
    rw [hmessages hav, hmessages hbv] at hkeccak
    obtain ⟨hversion, hnested⟩ := compressedField_inj (hkeccak.mono fun m hm => by
      rcases hm with rfl | rfl <;> simp) (haeq.symm.trans hbeq)
    obtain ⟨hbloom, hedges, hevent⟩ := nestedStrings_inj (hkeccak.mono fun m hm => by
      rcases hm with rfl | rfl <;> simp) hversion hnested
    exact ⟨hversion, hbloom, hedges, hevent⟩

theorem headerStrings_eq_of_encodeRlp
    (ha : a.encodeRlp keccak = .ok bytes) (hb : b.encodeRlp keccak = .ok bytes) :
    ∃ aprice aext bprice bext, a.minimumGasPrice = some aprice ∧ b.minimumGasPrice = some bprice
      ∧ a.extensionField keccak = .ok aext ∧ b.extensionField keccak = .ok bext
      ∧ a.headerStrings aext aprice = b.headerStrings bext bprice := by
  obtain ⟨aprice, aext, haprice, haext, rfl⟩ := encodeRlp_eq_ok.mp ha
  obtain ⟨bprice, bext, hbprice, hbext, hbytes⟩ := encodeRlp_eq_ok.mp hb
  exact ⟨aprice, aext, bprice, bext, haprice, hbprice, haext, hbext, encodeList_encodeBytes_inj
    (length_headerStrings_lt (length_extensionField_le haext))
    (length_headerStrings_lt (length_extensionField_le hbext)) hbytes⟩

/-- The block number can be read from the encoding, whatever Keccak does. -/
theorem number_eq_of_encodeRlp
    (ha : a.encodeRlp keccak = .ok bytes) (hb : b.encodeRlp keccak = .ok bytes) :
    a.number = b.number := by
  obtain ⟨_, _, _, _, _, _, _, _, hstrings⟩ := headerStrings_eq_of_encodeRlp ha hb
  simp only [headerStrings, List.cons.injEq] at hstrings
  obtain ⟨_, _, _, _, _, _, _, _, hnumber, _⟩ := hstrings
  exact uint64_eq_of_bytes hnumber

/-- **The encoding determines every field it is meant to hash**, unless Keccak collides on one of
the messages that the two encodings hash. -/
theorem encodeRlp_inj (keccak : Digest) (a b : RskBlockHeader) (bytes : Bytes)
    (ha : a.encodeRlp keccak = .ok bytes) (hb : b.encodeRlp keccak = .ok bytes)
    (hkeccak : Set.InjOn keccak {m | m ∈ a.hashedMessages keccak ∨ m ∈ b.hashedMessages keccak}) :
    SameHashedFields a b := by
  obtain ⟨aprice, aext, bprice, bext, haprice, hbprice, haext, hbext, hstrings⟩ :=
    headerStrings_eq_of_encodeRlp ha hb
  simp only [headerStrings, List.cons.injEq, and_true, true_and] at hstrings
  obtain ⟨hparent, hunclesHash, hcoinbase, hstate, htx, hreceipt, hext, hdifficulty, hnumber,
    hgasLimit, hgasUsed, htimestamp, hextra, hfees, hprice, huncles, hmining⟩ := hstrings
  subst hext
  obtain ⟨hversion, hbloom, hedges, hevent⟩ := extensionField_inj haext hbext hkeccak
  exact {
    parent := Subtype.ext hparent
    unclesHash := Subtype.ext hunclesHash
    coinbase := Subtype.ext hcoinbase
    stateRoot := Subtype.ext hstate
    txTrieRoot := Subtype.ext htx
    receiptTrieRoot := Subtype.ext hreceipt
    extensionData := hbloom
    version := hversion
    difficulty := u256_eq_of_beNat beNat_u256BeCoinBytes hdifficulty
    number := uint64_eq_of_bytes hnumber
    gasLimit := Subtype.ext hgasLimit
    gasUsed := uint64_eq_of_bytes hgasUsed
    timestamp := uint64_eq_of_bytes htimestamp
    extraData := Subtype.ext hextra
    paidFees := u256_eq_of_beNat beNat_u256BeCoinBytes hfees
    minimumGasPrice := by
      rw [haprice, hbprice, u256_eq_of_beNat beNat_gasPriceBytes hprice]
    uncleCount := trimZeros_toBE_inj (uncleCount_lt a) (uncleCount_lt b) huncles
    bitcoinMergedMiningHeader := Subtype.ext hmining
    rskPteEdges := hedges
    baseEvent := hevent }

def noEventHeader : RskBlockHeader :=
  { (default : RskBlockHeader) with version := 2, baseEvent := none }

/-- The same header with an empty base event and another stored hash. -/
def emptyEventHeader : RskBlockHeader :=
  { noEventHeader with hash := Keccak.keccak256 [], baseEvent := some ⟨[], RVec.nil_bound⟩ }

theorem encodeRlp_noEventHeader (keccak : Digest) : noEventHeader.encodeRlp keccak
    = .ok (encodeList ((noEventHeader.headerStrings (noEventHeader.compressedField keccak) 0).map
        encodeBytes)) :=
  encodeRlp_eq_ok.mpr ⟨0, _, rfl, extensionField_v2 keccak rfl rfl List.length_replicate
    (Nat.zero_le _), rfl⟩

theorem nestedStrings_emptyEventHeader (keccak : Digest) :
    emptyEventHeader.nestedStrings keccak = noEventHeader.nestedStrings keccak := by
  simp only [emptyEventHeader, nestedStrings, baseEventBytes, noEventHeader]
  rfl

theorem encodeRlp_emptyEventHeader (keccak : Digest) : emptyEventHeader.encodeRlp keccak
    = .ok (encodeList ((noEventHeader.headerStrings (noEventHeader.compressedField keccak) 0).map
        encodeBytes)) := by
  have hfield : emptyEventHeader.compressedField keccak = noEventHeader.compressedField keccak := by
    rw [compressedField, nestedList, nestedStrings_emptyEventHeader]
    rfl
  have hstrings : ∀ ext price,
      emptyEventHeader.headerStrings ext price = noEventHeader.headerStrings ext price := by
    intro ext price
    simp only [headerStrings, emptyEventHeader]
  rw [← hfield, ← hstrings]
  exact encodeRlp_eq_ok.mpr ⟨0, _, rfl, extensionField_v2 keccak rfl rfl List.length_replicate
    (Nat.zero_le _), rfl⟩

/-- The two headers have one encoding: `none` and the empty event are not told apart. -/
theorem encodeRlp_inj_emptyEvent : SameHashedFields emptyEventHeader noEventHeader := by
  refine encodeRlp_inj Keccak.keccak256 emptyEventHeader noEventHeader _
    (encodeRlp_emptyEventHeader Keccak.keccak256) (encodeRlp_noEventHeader Keccak.keccak256) ?_
  -- the two messages, the bloom and the nested list, have different digests
  have hne : Keccak.keccak256 noEventHeader.extensionData.val
      ≠ Keccak.keccak256 (noEventHeader.nestedList Keccak.keccak256) := by decide +kernel
  have hmem : ∀ m, (m ∈ emptyEventHeader.hashedMessages Keccak.keccak256
      ∨ m ∈ noEventHeader.hashedMessages Keccak.keccak256)
      → m = noEventHeader.extensionData.val ∨ m = noEventHeader.nestedList Keccak.keccak256 := by
    intro m hm
    have hm' : m ∈ [noEventHeader.extensionData.val,
        noEventHeader.nestedList Keccak.keccak256] := by
      have hv : emptyEventHeader.version = RSK_HEADER_EXTENSION_TYPE_V2 := rfl
      have hv' : noEventHeader.version = RSK_HEADER_EXTENSION_TYPE_V2 := rfl
      rw [hashedMessages, hashedMessages, if_pos (Or.inl hv), if_pos (Or.inl hv'), nestedList,
        nestedStrings_emptyEventHeader] at hm
      exact hm.elim id id
    simpa using hm'
  intro m hm m' hm' heq
  rcases hmem m hm with rfl | rfl <;> rcases hmem m' hm' with rfl | rfl
  · rfl
  · exact absurd heq hne
  · exact absurd heq.symm hne
  · rfl

end RskBlockHeader

end UnionBridge.CheckFork
