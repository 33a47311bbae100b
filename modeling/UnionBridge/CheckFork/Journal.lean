import UnionBridge.CheckFork.Effort

/-!
# The guest and its journal (`check-fork/src/lib.rs`, `check-fork/zkp/guest/src/main.rs`)

The guest derives the peg-out id from its arguments, runs the fork check against it and commits a
journal of 76 bytes. A verifier sees the journal only, so what it learns about the arguments is
what the journal determines: the operator key, the slot and the verdict directly, and through the
peg-out id every field of its preimage. The thresholds of the check are in neither.

`guestMain` starts from the decoded arguments.
-/

namespace UnionBridge.CheckFork

open Outcome

def CHECK_FORK_JOURNAL_LEN : Nat := 76
def CHECK_FORK_JOURNAL_VERSION : UInt16 := 1

structure CheckForkJournal where
  operatorTakePubkey : FixedBytes 33
  pegoutId : FixedBytes 32
  slotId : FixedBytes 8
  accepted : UInt8
  version : FixedBytes 2

/-- `to_be_bytes` of a machine integer of `w` bytes. -/
def toBeBytes (w n : Nat) : FixedBytes w := ⟨toBE w n, length_toBE w n⟩

def CheckForkJournal.toBytes (journal : CheckForkJournal) : FixedBytes CHECK_FORK_JOURNAL_LEN :=
  ⟨journal.operatorTakePubkey.val ++ (journal.pegoutId.val ++ (journal.slotId.val
      ++ (journal.accepted :: journal.version.val))), by
    simp only [List.length_append, List.length_cons, journal.operatorTakePubkey.property,
      journal.pegoutId.property, journal.slotId.property, journal.version.property]
    rfl⟩

variable (keccak : Digest) (args : CheckForkArgs)

def buildPegoutIdPreimage : FixedBytes 122 :=
  ⟨args.pegoutIdVersion :: (U256.toBigEndian args.sequenceNumber
      ++ (toBE 8 args.streamId.toNat ++ (toBE 8 args.packetNumber.toNat
      ++ (toBE 8 args.slotId.toNat ++ (args.operatorTakePubkeyParity
      :: (args.operatorTakePubkeyXonly.val ++ args.bestBlockHash.val)))))), by
    simp only [List.length_append, List.length_cons, U256.toBigEndian, length_toBE,
      args.operatorTakePubkeyXonly.property, args.bestBlockHash.property]⟩

def computePegoutId : H256 :=
  keccak (buildPegoutIdPreimage args).val

def buildCheckForkJournal (pegoutId : H256) (accepted : Bool) : CheckForkJournal :=
  { operatorTakePubkey := ⟨args.operatorTakePubkeyParity :: args.operatorTakePubkeyXonly.val, by
      rw [List.length_cons, args.operatorTakePubkeyXonly.property]⟩
    pegoutId := pegoutId
    slotId := toBeBytes 8 args.slotId.toNat
    accepted := if accepted then 1 else 0
    version := toBeBytes 2 CHECK_FORK_JOURNAL_VERSION.toNat }

/-- The committed journal: a rejected fork commits one as well, a panic commits nothing. -/
def guestMain : Outcome Bytes :=
  let pegoutId := computePegoutId keccak args
  match checkFork keccak args pegoutId with
  | .ok _ => .ok (buildCheckForkJournal args pegoutId true).toBytes.val
  | .error (.err _) => .ok (buildCheckForkJournal args pegoutId false).toBytes.val
  | .error (.panic msg) => .error (.panic msg)

-- the encoding that the peg-out contract hashes
example : beNat (computePegoutId Keccak.keccak256
    { pegoutIdVersion := 1
      sequenceNumber := 0x0102030405060708090a0b0c0d0e0f101112131415161718191a1b1c1d1e1f20
      streamId := 0x2122232425262728
      packetNumber := 0x292a2b2c2d2e2f30
      slotId := 0x3132333435363738
      operatorTakePubkeyParity := 0x02
      operatorTakePubkeyXonly :=
        powOf 0x393a3b3c3d3e3f404142434445464748494a4b4c4d4e4f505152535455565758
      bestBlockHash :=
        powOf 0x595a5b5c5d5e5f606162636465666768696a6b6c6d6e6f707172737475767778
      initBlockTime := 0, initBlockNumber := 0, requiredEffort := U256.max, requiredNumBlocks := 1
      blockList := [] }).val
    = 0xb4b063cb0c5ed4c2d1751165c2f759c5da3607421d7c40a2884401d416a6f7a6 := by
  decide +kernel

/-! ## What the journal determines -/

theorem toBE64_inj {n m : UInt64} (h : toBE 8 n.toNat = toBE 8 m.toNat) : n = m := by
  have hn := n.toNat_lt
  have hm := m.toNat_lt
  exact UInt64.toNat_inj.mp (toBE_inj (by omega) (by omega) h)

structure SamePegout (a b : CheckForkArgs) : Prop where
  pegoutIdVersion : a.pegoutIdVersion = b.pegoutIdVersion
  sequenceNumber : a.sequenceNumber = b.sequenceNumber
  streamId : a.streamId = b.streamId
  packetNumber : a.packetNumber = b.packetNumber
  slotId : a.slotId = b.slotId
  operatorTakePubkeyParity : a.operatorTakePubkeyParity = b.operatorTakePubkeyParity
  operatorTakePubkeyXonly : a.operatorTakePubkeyXonly = b.operatorTakePubkeyXonly
  bestBlockHash : a.bestBlockHash = b.bestBlockHash

/-- Every field of the preimage has a fixed width, so the preimage gives all of them back. -/
theorem buildPegoutIdPreimage_inj {a b : CheckForkArgs}
    (h : (buildPegoutIdPreimage a).val = (buildPegoutIdPreimage b).val) : SamePegout a b := by
  unfold buildPegoutIdPreimage U256.toBigEndian at h
  obtain ⟨hversion, h⟩ := List.cons.inj h
  obtain ⟨hsequence, h⟩ := List.append_inj h (by rw [length_toBE, length_toBE])
  obtain ⟨hstream, h⟩ := List.append_inj h (by rw [length_toBE, length_toBE])
  obtain ⟨hpacket, h⟩ := List.append_inj h (by rw [length_toBE, length_toBE])
  obtain ⟨hslot, h⟩ := List.append_inj h (by rw [length_toBE, length_toBE])
  obtain ⟨hparity, h⟩ := List.cons.inj h
  obtain ⟨hxonly, hbest⟩ := List.append_inj h
    (by rw [a.operatorTakePubkeyXonly.property, b.operatorTakePubkeyXonly.property])
  have ha := a.sequenceNumber.isLt
  have hb := b.sequenceNumber.isLt
  exact {
    pegoutIdVersion := hversion
    sequenceNumber := U256.toNat_injective (toBE_inj (by omega) (by omega) hsequence)
    streamId := toBE64_inj hstream
    packetNumber := toBE64_inj hpacket
    slotId := toBE64_inj hslot
    operatorTakePubkeyParity := hparity
    operatorTakePubkeyXonly := Subtype.ext hxonly
    bestBlockHash := Subtype.ext hbest }

theorem toBytes_inj {a b : CheckForkJournal} (h : a.toBytes.val = b.toBytes.val) :
    a.pegoutId = b.pegoutId ∧ a.accepted = b.accepted := by
  unfold CheckForkJournal.toBytes at h
  obtain ⟨_, h⟩ := List.append_inj h
    (by rw [a.operatorTakePubkey.property, b.operatorTakePubkey.property])
  obtain ⟨hid, h⟩ := List.append_inj h (by rw [a.pegoutId.property, b.pegoutId.property])
  obtain ⟨_, h⟩ := List.append_inj h (by rw [a.slotId.property, b.slotId.property])
  obtain ⟨haccepted, _⟩ := List.cons.inj h
  exact ⟨Subtype.ext hid, haccepted⟩

/-- **Both layouts are uniquely decodable.** The preimage gives back the fields of the peg-out id.
When the hash keeps the two preimages apart, the journal gives back the same fields and the
verdict. -/
theorem journal_uniquely_decodable (keccak : Digest) (a b : CheckForkArgs)
    (accepted accepted' : Bool) (hkeccak : Set.InjOn keccak
      {m | m = (buildPegoutIdPreimage a).val ∨ m = (buildPegoutIdPreimage b).val}) :
    ((buildPegoutIdPreimage a).val = (buildPegoutIdPreimage b).val → SamePegout a b)
      ∧ ((buildCheckForkJournal a (computePegoutId keccak a) accepted).toBytes.val
          = (buildCheckForkJournal b (computePegoutId keccak b) accepted').toBytes.val →
        SamePegout a b ∧ accepted = accepted') := by
  refine ⟨buildPegoutIdPreimage_inj, fun h => ?_⟩
  obtain ⟨hid, hverdict⟩ := toBytes_inj h
  refine ⟨buildPegoutIdPreimage_inj (hkeccak (.inl rfl) (.inr rfl) hid), ?_⟩
  have hbyte : (if accepted then 1 else 0 : UInt8) = if accepted' then 1 else 0 := hverdict
  cases accepted <;> cases accepted' <;> first | rfl | cases hbyte

/-- The thresholds are in neither layout. -/
theorem journal_uniquely_decodable_sample :
    SamePegout (sampleArgs []) { sampleArgs [] with requiredEffort := 3 } := by
  refine ((journal_uniquely_decodable Keccak.keccak256 (sampleArgs [])
    { sampleArgs [] with requiredEffort := 3 } true true ?_).2 rfl).1
  -- the two preimages are the same message
  rintro m (rfl | rfl) m' (rfl | rfl) _ <;> rfl

/-- The bytes of the journal are those of a journal for the arguments, with the verdict of the
check. -/
theorem guestMain_eq_ok {keccak : Digest} {args : CheckForkArgs} {bytes : Bytes}
    (h : guestMain keccak args = .ok bytes) : ∃ accepted,
      bytes = (buildCheckForkJournal args (computePegoutId keccak args) accepted).toBytes.val
        ∧ (accepted = true → ∃ e, checkFork keccak args (computePegoutId keccak args) = .ok e) := by
  simp only [guestMain] at h
  split at h
  · next e he => exact ⟨true, (Except.ok.inj h).symm, fun _ => ⟨e, he⟩⟩
  · next msg _ => exact ⟨false, (Except.ok.inj h).symm, fun hfalse => (nomatch hfalse)⟩
  · cases h

def acceptedByte (journal : Bytes) : Option UInt8 := journal[73]?

theorem acceptedByte_toBytes (journal : CheckForkJournal) :
    acceptedByte journal.toBytes.val = some journal.accepted := by
  unfold acceptedByte CheckForkJournal.toBytes
  rw [List.getElem?_append_right (by rw [journal.operatorTakePubkey.property]; omega),
    journal.operatorTakePubkey.property,
    List.getElem?_append_right (by rw [journal.pegoutId.property]; omega),
    journal.pegoutId.property,
    List.getElem?_append_right (by rw [journal.slotId.property]), journal.slotId.property]
  rfl

theorem accepted_of_acceptedByte {args : CheckForkArgs} {pegoutId : H256} {accepted : Bool}
    (h : acceptedByte (buildCheckForkJournal args pegoutId accepted).toBytes.val = some 1) :
    accepted = true := by
  rw [acceptedByte_toBytes] at h
  cases accepted with
  | true => rfl
  | false => cases h

/-- **What an accepting journal binds.** Two guest inputs that commit the same accepting journal
have one peg-out id and agree on every field of its preimage, and the fork of each was accepted for
that id. -/
theorem guestMain_binds_pegout (keccak : Digest) (a b : CheckForkArgs) (journal : Bytes)
    (hkeccak : Set.InjOn keccak {m | m = (buildPegoutIdPreimage a).val
      ∨ m = (buildPegoutIdPreimage b).val})
    (ha : guestMain keccak a = .ok journal) (hb : guestMain keccak b = .ok journal)
    (haccepted : acceptedByte journal = some 1) :
    SamePegout a b ∧ ∃ pegoutId e e', pegoutId = computePegoutId keccak a
      ∧ checkFork keccak a pegoutId = .ok e ∧ checkFork keccak b pegoutId = .ok e' := by
  obtain ⟨aok, hajournal, hacheck⟩ := guestMain_eq_ok ha
  obtain ⟨bok, hbjournal, hbcheck⟩ := guestMain_eq_ok hb
  have hid : computePegoutId keccak a = computePegoutId keccak b :=
    (toBytes_inj (hajournal.symm.trans hbjournal)).1
  refine ⟨buildPegoutIdPreimage_inj (hkeccak (.inl rfl) (.inr rfl) hid), ?_⟩
  obtain ⟨e, he⟩ := hacheck (accepted_of_acceptedByte (hajournal ▸ haccepted))
  obtain ⟨e', he'⟩ := hbcheck (accepted_of_acceptedByte (hbjournal ▸ haccepted))
  exact ⟨computePegoutId keccak a, e, e', rfl, he, by rw [hid]; exact he'⟩

/-- A fork for the peg-out id of the sample arguments. -/
def pegoutFork : List RskBlock :=
  sampleFork keccak (computePegoutId keccak (sampleArgs [])) (powOf (2 ^ 256 - 1)) []

def strictArgs : CheckForkArgs :=
  { sampleArgs (pegoutFork keccak) with
    initBlockTime := 1, initBlockNumber := 1, requiredEffort := 3, requiredNumBlocks := 3 }

def pegoutJournal : Bytes :=
  (buildCheckForkJournal (sampleArgs []) (computePegoutId keccak (sampleArgs [])) true).toBytes.val

theorem guestMain_of_checkFork {keccak : Digest} {args : CheckForkArgs} {e : U256}
    (h : checkFork keccak args (computePegoutId keccak args) = .ok e) :
    guestMain keccak args
      = .ok (buildCheckForkJournal args (computePegoutId keccak args) true).toBytes.val := by
  simp only [guestMain, h]

theorem guestMain_sampleArgs :
    guestMain keccak (sampleArgs (pegoutFork keccak)) = .ok (pegoutJournal keccak) :=
  guestMain_of_checkFork (e := 3) (checkFork_sampleFork keccak _ (by decide) (by decide)
    (fun _ h => (List.not_mem_nil h).elim) (by decide))

theorem guestMain_strictArgs :
    guestMain keccak (strictArgs keccak) = .ok (pegoutJournal keccak) := by
  have htotal : totalEffort (strictArgs keccak).blockList = 3 :=
    totalEffort_sampleFork keccak _ (by decide) []
  have haccepted : AcceptedFork keccak (strictArgs keccak)
      (computePegoutId keccak (strictArgs keccak)) := by
    have hlist : (strictArgs keccak).blockList = sampleFork keccak
        (computePegoutId keccak (strictArgs keccak)) (powOf (2 ^ 256 - 1)) [] := rfl
    refine acceptedFork_sample hlist rfl ?_ ?_ ?_ ?_ (fun _ h => (List.not_mem_nil h).elim) ?_ ?_
    · exact ⟨show 1 ≤ (3 : UInt32).toNat by decide, Nat.le_refl 3⟩
    · exact (show (1 : UInt64) ≤ 1 by decide)
    · exact (show (1 : UInt64) ≤ 1 by decide)
    · decide
    · rw [htotal]; decide
    · rw [htotal]; exact (show (3 : U256).toNat ≤ 3 by decide)
  exact guestMain_of_checkFork (e := 3) (haccepted.checkFork_eq htotal.symm)

theorem guestMain_binds_pegout_sample :
    SamePegout (sampleArgs (pegoutFork Keccak.keccak256)) (strictArgs Keccak.keccak256) := by
  refine (guestMain_binds_pegout Keccak.keccak256 _ _ (pegoutJournal Keccak.keccak256) ?_
    (guestMain_sampleArgs Keccak.keccak256) (guestMain_strictArgs Keccak.keccak256)
    (acceptedByte_toBytes _)).1
  -- the two preimages are the same message
  rintro m (rfl | rfl) m' (rfl | rfl) _ <;> rfl

/-- Two accepting runs commit the same journal although all four thresholds differ. -/
theorem guestMain_journal_omits_thresholds :
    guestMain Keccak.keccak256 (sampleArgs (pegoutFork Keccak.keccak256))
        = .ok (pegoutJournal Keccak.keccak256)
      ∧ guestMain Keccak.keccak256 (strictArgs Keccak.keccak256)
        = .ok (pegoutJournal Keccak.keccak256)
      ∧ acceptedByte (pegoutJournal Keccak.keccak256) = some 1
      ∧ (sampleArgs (pegoutFork Keccak.keccak256)).requiredEffort
        ≠ (strictArgs Keccak.keccak256).requiredEffort
      ∧ (sampleArgs (pegoutFork Keccak.keccak256)).requiredNumBlocks
        ≠ (strictArgs Keccak.keccak256).requiredNumBlocks
      ∧ (sampleArgs (pegoutFork Keccak.keccak256)).initBlockTime
        ≠ (strictArgs Keccak.keccak256).initBlockTime
      ∧ (sampleArgs (pegoutFork Keccak.keccak256)).initBlockNumber
        ≠ (strictArgs Keccak.keccak256).initBlockNumber := by
  refine ⟨guestMain_sampleArgs Keccak.keccak256, guestMain_strictArgs Keccak.keccak256,
    acceptedByte_toBytes _, ?_, ?_, ?_, ?_⟩
  · exact (show (0 : U256) ≠ 3 by decide)
  · exact (show (1 : UInt32) ≠ 3 by decide)
  · exact (show (0 : UInt64) ≠ 1 by decide)
  · exact (show (0 : UInt64) ≠ 1 by decide)

end UnionBridge.CheckFork
