import Mathlib.Data.List.Nodup
import UnionBridge.CheckFork.Acceptance
import UnionBridge.CheckFork.Encoding

/-!
# What the accepted effort says about the blocks

Three questions about an accepted fork: how strong a counted block is, what its effort is computed
from, and how often one header can count. The superblock check compares and then accepts in both
cases, so nothing bounds the effort of a block from below. The effort is read from the proof of
work that is supplied next to the header and that no header check mentions. The loop does not
remember what it has counted: the block numbers keep the trunk blocks apart from each other and the
uncles of different trunk blocks apart, but not the uncles of one trunk block.
The tester (`tester/src/lib.rs`) sums the effort of the same blocks on its own; the last section
compares the two totals.

`sampleFork` is a fork of three blocks whose headers carry their own hashes for any digest.
-/

namespace UnionBridge.CheckFork

open Rlp Outcome

/-! ## A sample fork -/

/-- A version 2 header of difficulty 1, without its hash. -/
def templateHeader (number : UInt64) (parent : H256) (event : Option (RVec UInt8)) :
    RskBlockHeader :=
  { (default : RskBlockHeader) with
    version := 2, number := number, timestamp := number, difficulty := 1, parent := parent,
    baseEvent := event }

def sampleHeader (keccak : Digest) (number : UInt64) (parent : H256)
    (event : Option (RVec UInt8)) : RskBlockHeader :=
  let template := templateHeader number parent event
  { template with hash := keccak (encodeList
      ((template.headerStrings (template.compressedField keccak) 0).map encodeBytes)) }

def eventOf (h : H256) : RVec UInt8 := ⟨h.val, by rw [h.property]; omega⟩

theorem encodeRlp_sampleHeader (keccak : Digest) (number : UInt64) (parent : H256)
    {event : Option (RVec UInt8)} (hevent : ∀ bytes, event = some bytes → bytes.val.length = 32) :
    (sampleHeader keccak number parent event).encodeRlp keccak = .ok (encodeList
      (((templateHeader number parent event).headerStrings
        ((templateHeader number parent event).compressedField keccak) 0).map encodeBytes)) := by
  have hlen : (sampleHeader keccak number parent event).baseEventBytes.length
      ≤ BASE_EVENT_MAX_SIZE := by
    cases event with
    | none => exact Nat.zero_le _
    | some bytes => exact le_of_eq_of_le (hevent bytes rfl) (by decide)
  have hfield := RskBlockHeader.extensionField_v2 keccak
    (h := sampleHeader keccak number parent event) rfl rfl List.length_replicate hlen
  exact RskBlockHeader.encodeRlp_eq_ok.mpr ⟨0, _, rfl, hfield, rfl⟩

theorem hashChecked_sampleHeader (keccak : Digest) (number : UInt64) (parent : H256)
    {event : Option (RVec UInt8)} (hevent : ∀ bytes, event = some bytes → bytes.val.length = 32) :
    HashChecked keccak (sampleHeader keccak number parent event) :=
  ⟨⟨_, encodeRlp_sampleHeader keccak number parent hevent, rfl⟩, fun _ => rfl⟩

/-- The three trunk headers: only the last one carries the peg-out id. -/
def sampleHeader0 (keccak : Digest) : RskBlockHeader :=
  sampleHeader keccak 1 (zeroBytes 32) none

def sampleHeader1 (keccak : Digest) : RskBlockHeader :=
  sampleHeader keccak 2 (sampleHeader0 keccak).hash none

def sampleHeader2 (keccak : Digest) (pegoutId : H256) : RskBlockHeader :=
  sampleHeader keccak 3 (sampleHeader1 keccak).hash (some (eventOf pegoutId))

def powOf (n : Nat) : H256 := ⟨toBE 32 n, length_toBE 32 n⟩

/-- Three blocks with one proof of work; the second one references the given uncles. -/
def sampleFork (keccak : Digest) (pegoutId pow : H256) (uncles : List RskBlock) : List RskBlock :=
  [.mk [] pow (sampleHeader0 keccak), .mk uncles pow (sampleHeader1 keccak),
    .mk [] pow (sampleHeader2 keccak pegoutId)]

def sampleArgs (blockList : List RskBlock) : CheckForkArgs :=
  { pegoutIdVersion := 1
    sequenceNumber := 7
    streamId := 1
    packetNumber := 2
    slotId := 3
    operatorTakePubkeyParity := 2
    operatorTakePubkeyXonly := zeroBytes 32
    bestBlockHash := zeroBytes 32
    initBlockTime := 0
    initBlockNumber := 0
    requiredEffort := 0
    requiredNumBlocks := 1
    blockList := blockList }

variable {args : CheckForkArgs} {keccak : Digest} {pegoutId : H256} {a b : List RskBlock}
  {block : RskBlock} {i : Nat} {n : Nat}

theorem effort_powOf (hn : n < 2 ^ 256) (uncles : List RskBlock)
    (header : RskBlockHeader) : effort (.mk uncles (powOf n) header) = (2 ^ 256 - 1) / n := by
  rw [effort, RskBlock.pow, powOf, beNat_toBE (lt_of_lt_of_eq hn (by norm_num))]

/-- **The sample fork is accepted** under thresholds it meets, with siblings of its first block as
uncles. -/
theorem acceptedFork_sample {pegoutId pow : H256}
    {uncles : List RskBlock} (hlist : args.blockList = sampleFork keccak pegoutId pow uncles)
    (hversion : args.pegoutIdVersion = 1)
    (hrequired : 1 ≤ args.requiredNumBlocks.toNat ∧ args.requiredNumBlocks.toNat ≤ 3)
    (htime : args.initBlockTime ≤ 1) (hnumber : args.initBlockNumber ≤ 1)
    (hpow : beNat pow.val ≠ 0)
    (huncles : ∀ uncle ∈ uncles,
      UncleChecked keccak (.mk [] pow (sampleHeader0 keccak)) uncle)
    (hfits : totalEffort args.blockList < 2 ^ 256)
    (hge : args.requiredEffort.toNat ≤ totalEffort args.blockList) :
    AcceptedFork keccak args pegoutId := by
  have hnone : ∀ bytes : RVec UInt8, none = some bytes → bytes.val.length = 32 := by
    intro bytes h; cases h
  have hsome : ∀ bytes, some (eventOf pegoutId) = some bytes → bytes.val.length = 32 := by
    intro bytes h
    rw [← Option.some.inj h]
    exact pegoutId.property
  have hdefined : ∀ us number parent event,
      EffortDefined (.mk us pow (sampleHeader keccak number parent event)) :=
    fun _ _ _ _ => ⟨hpow, by show 20 * (1 : U256).toNat < 2 ^ 256; decide⟩
  -- the hashes of the sample headers are the digests of their own encodings
  have hcounted : ∀ b ∈ countedBlocks args.blockList,
      HashChecked keccak b.header ∧ EffortDefined b := by
    intro b hb
    simp only [hlist, sampleFork, countedBlocks, List.flatMap_cons, List.flatMap_nil,
      RskBlock.uncles, List.append_nil, List.cons_append, List.mem_cons, List.mem_append,
      List.not_mem_nil, or_false] at hb
    rcases hb with rfl | rfl | huncle | rfl
    · exact ⟨hashChecked_sampleHeader keccak _ _ hnone, hdefined _ _ _ _⟩
    · exact ⟨hashChecked_sampleHeader keccak _ _ hnone, hdefined _ _ _ _⟩
    · exact (huncles b huncle).2
    · exact ⟨hashChecked_sampleHeader keccak _ _ hsome, hdefined _ _ _ _⟩
  -- the two pairs of neighbours
  have hpairs : ∀ (P : Nat → RskBlock → RskBlock → Prop),
      P 0 (.mk [] pow (sampleHeader0 keccak)) (.mk uncles pow (sampleHeader1 keccak)) →
      P 1 (.mk uncles pow (sampleHeader1 keccak)) (.mk [] pow (sampleHeader2 keccak pegoutId)) →
      ∀ i prev block, args.blockList[i]? = some prev → args.blockList[i + 1]? = some block →
        P i prev block := by
    intro P h0 h1 i prev block hprev hblock
    rw [hlist] at hprev hblock
    rcases i with _ | _ | i
    · cases hprev; cases hblock; exact h0
    · cases hprev; cases hblock; exact h1
    · simp [sampleFork] at hblock
  refine ⟨hversion, hrequired.1, ?three, ?required, ?first, fun b hb => (hcounted b hb).1,
    ?continues, ?siblings, ?events, fun b hb => (hcounted b hb).2, hfits, hge⟩
  case three => rw [hlist]; exact Nat.le_refl 3
  case required => rw [hlist]; exact hrequired.2
  case first =>
    intro b hb
    rw [hlist] at hb
    cases hb
    refine ⟨htime, hnumber, ?_⟩
    rintro ⟨bytes, hbytes, _⟩
    cases hbytes
  case continues =>
    -- every difficulty is 1
    have hlower : (1 : U256).toNat - (1 : U256).toNat / 400 ≤ (1 : U256).toNat := by decide
    have hupper : (1 : U256).toNat ≤ (1 : U256).toNat + (1 : U256).toNat / 400 := by decide
    apply hpairs fun _ prev block => Continues block prev
    · exact ⟨show (1 : UInt64) < 2 by decide, rfl, rfl, hlower, hupper⟩
    · exact ⟨show (2 : UInt64) < 3 by decide, rfl, rfl, hlower, hupper⟩
  case siblings =>
    apply hpairs fun _ prev block => ∀ uncle ∈ block.uncles, SiblingOf uncle prev
    · intro uncle huncle
      exact (huncles uncle huncle).1
    · intro uncle huncle
      cases huncle
  case events =>
    intro i block hi hblock
    rw [hlist] at hblock
    rcases i with _ | _ | _ | i
    · omega
    · omega
    · cases hblock; exact ⟨eventOf pegoutId, rfl, rfl⟩
    · simp [sampleFork] at hblock

theorem totalEffort_sampleFork (keccak : Digest) (pegoutId : H256) (hn : n < 2 ^ 256)
    (uncles : List RskBlock) : totalEffort (sampleFork keccak pegoutId (powOf n) uncles)
      = 3 * ((2 ^ 256 - 1) / n) + (uncles.map effort).sum := by
  rw [sampleFork, totalEffort_cons]
  simp only [List.map_cons, List.map_nil, List.sum_cons, List.sum_nil, trunkEffort,
    effort_powOf hn, RskBlock.uncles]
  omega

theorem checkFork_sampleFork (keccak : Digest) (pegoutId : H256) (hpos : n ≠ 0)
    (hn : n < 2 ^ 256) {uncles : List RskBlock} (huncles : ∀ uncle ∈ uncles,
      UncleChecked keccak (.mk [] (powOf n) (sampleHeader0 keccak)) uncle)
    {e : U256} (he : e.toNat = 3 * ((2 ^ 256 - 1) / n) + (uncles.map effort).sum) :
    checkFork keccak (sampleArgs (sampleFork keccak pegoutId (powOf n) uncles)) pegoutId
      = .ok e := by
  have htotal := totalEffort_sampleFork keccak pegoutId hn uncles
  have hpow : beNat (powOf n).val ≠ 0 := by
    rw [powOf, beNat_toBE (lt_of_lt_of_eq hn (by norm_num))]
    exact hpos
  refine (acceptedFork_sample rfl rfl ⟨?_, ?_⟩ ?_ ?_ hpow huncles ?_ (Nat.zero_le _)).checkFork_eq
    (he.trans htotal.symm)
  · exact Nat.le_refl 1
  · show 1 ≤ 3
    omega
  · show (0 : UInt64) ≤ 1
    decide
  · show (0 : UInt64) ≤ 1
    decide
  · exact lt_of_eq_of_lt (htotal.trans he.symm) e.isLt

theorem checkFork_plainSample (hpos : n ≠ 0) (hn : n < 2 ^ 256) {e : U256}
    (he : e.toNat = 3 * ((2 ^ 256 - 1) / n)) :
    checkFork Keccak.keccak256 (sampleArgs (sampleFork Keccak.keccak256 (zeroBytes 32) (powOf n) []))
      (zeroBytes 32) = .ok e :=
  checkFork_sampleFork Keccak.keccak256 _ hpos hn (fun _ h => (List.not_mem_nil h).elim) he

/-! ## Superblocks -/

/-- Every counted block of an accepted fork is a superblock exactly when the proofs of work supplied
for them are small enough; the check itself asks for nothing of the kind. -/
theorem superblocks_iff_pow_le (keccak : Digest) (args : CheckForkArgs) (pegoutId : H256) (e : U256)
    (hok : checkFork keccak args pegoutId = .ok e) :
    (∀ block ∈ countedBlocks args.blockList,
        20 * block.header.difficulty.toNat ≤ effort block)
      ↔ ∀ block ∈ countedBlocks args.blockList,
        20 * block.header.difficulty.toNat * beNat block.pow.val ≤ 2 ^ 256 - 1 := by
  obtain ⟨haccepted, _⟩ := AcceptedFork.of_checkFork hok
  refine forall₂_congr fun block hblock => ?_
  -- the effort is a floor division by the proof of work, which is not zero
  have hpos := Nat.pos_of_ne_zero (haccepted.effort_defined block hblock).pow_ne_zero
  exact Nat.le_div_iff_mul_le hpos

theorem superblocks_iff_pow_le_sample :
    (∀ block ∈ countedBlocks (sampleFork Keccak.keccak256 (zeroBytes 32) (powOf 16) []),
        20 * block.header.difficulty.toNat ≤ effort block)
      ↔ ∀ block ∈ countedBlocks (sampleFork Keccak.keccak256 (zeroBytes 32) (powOf 16) []),
        20 * block.header.difficulty.toNat * beNat block.pow.val ≤ 2 ^ 256 - 1 :=
  superblocks_iff_pow_le Keccak.keccak256
    (sampleArgs (sampleFork Keccak.keccak256 (zeroBytes 32) (powOf 16) [])) (zeroBytes 32)
    (BitVec.ofNat 256 (3 * ((2 ^ 256 - 1) / 16)))
    (checkFork_plainSample (by decide) (by decide) (by decide))

/-- A fork of blocks with the largest proof of work, which is worth effort 1, is accepted although
its difficulty is 1 and asks for effort 20. -/
theorem checkFork_accepts_weak_blocks :
    checkFork Keccak.keccak256
        (sampleArgs (sampleFork Keccak.keccak256 (zeroBytes 32) (powOf (2 ^ 256 - 1)) []))
        (zeroBytes 32) = .ok 3
      ∧ ∀ block ∈ countedBlocks
          (sampleFork Keccak.keccak256 (zeroBytes 32) (powOf (2 ^ 256 - 1)) []),
        effort block < 20 * block.header.difficulty.toNat := by
  refine ⟨checkFork_plainSample (by decide) (by decide) (by decide), ?_⟩
  intro block hblock
  simp only [sampleFork, countedBlocks, List.flatMap_cons, List.flatMap_nil, RskBlock.uncles,
    List.append_nil, List.cons_append, List.nil_append, List.mem_cons, List.not_mem_nil,
    or_false] at hblock
  rcases hblock with rfl | rfl | rfl <;> rw [effort_powOf (by decide)] <;>
    exact (show (2 ^ 256 - 1) / (2 ^ 256 - 1) < 20 * (1 : U256).toNat by decide)

/-! ## What the effort is computed from -/

/-- The header of a block and the headers of its uncles. -/
def blockHeaders (block : RskBlock) : RskBlockHeader × List RskBlockHeader :=
  (block.header, block.uncles.map RskBlock.header)

/-- The trunk headers are pairwise equal, and so are the headers of their uncles. -/
def SameHeaders (a b : List RskBlock) : Prop := a.map blockHeaders = b.map blockHeaders

theorem SameHeaders.length_eq (h : SameHeaders a b) : a.length = b.length := by
  simpa using congrArg List.length h

theorem SameHeaders.getElem? (h : SameHeaders a b) {y : RskBlock}
    (hy : b[i]? = some y) : ∃ x, a[i]? = some x ∧ x.header = y.header
      ∧ ∀ v ∈ y.uncles, ∃ u ∈ x.uncles, u.header = v.header := by
  have hi : (a.map blockHeaders)[i]? = some (blockHeaders y) := by
    rw [show a.map blockHeaders = b.map blockHeaders from h, List.getElem?_map, hy, Option.map_some]
  rw [List.getElem?_map, Option.map_eq_some_iff] at hi
  obtain ⟨x, hx, hheaders⟩ := hi
  obtain ⟨hheader, huncles⟩ := Prod.mk.inj hheaders
  refine ⟨x, hx, hheader, fun v hv => ?_⟩
  -- the lists of uncle headers are equal, so each header of one occurs in the other
  have hmem : v.header ∈ x.uncles.map RskBlock.header := by
    rw [huncles]
    exact List.mem_map_of_mem hv
  obtain ⟨u, hu, heq⟩ := List.mem_map.mp hmem
  exact ⟨u, hu, heq⟩

theorem SameHeaders.exists_counted (h : SameHeaders a b) {y : RskBlock}
    (hy : y ∈ countedBlocks b) : ∃ x ∈ countedBlocks a, x.header = y.header := by
  rcases mem_countedBlocks.mp hy with hy | ⟨i, block, hblock, rfl | hmem⟩
  · obtain ⟨x, hx, hheader, _⟩ := h.getElem? hy
    exact ⟨x, mem_countedBlocks.mpr (.inl hx), hheader⟩
  · obtain ⟨x, hx, hheader, _⟩ := h.getElem? hblock
    exact ⟨x, mem_countedBlocks.mpr (.inr ⟨i, x, hx, .inl rfl⟩), hheader⟩
  · obtain ⟨x, hx, _, huncles⟩ := h.getElem? hblock
    obtain ⟨u, hu, hheader⟩ := huncles y hmem
    exact ⟨u, mem_countedBlocks.mpr (.inr ⟨i, x, hx, .inr hu⟩), hheader⟩

theorem CarriesEvent.congr {x y : RskBlock} (h : x.header = y.header) {event : H256} :
    CarriesEvent x event ↔ CarriesEvent y event := by
  rw [CarriesEvent, CarriesEvent, h]

/-- Acceptance reads the proofs of work in the sum only: with the same headers a fork stays accepted
for all proofs of work that are not zero and whose efforts still add up to enough. -/
theorem AcceptedFork.of_sameHeaders
    (h : AcceptedFork keccak args pegoutId) {blockList : List RskBlock}
    (hsame : SameHeaders args.blockList blockList)
    (hpow : ∀ block ∈ countedBlocks blockList, beNat block.pow.val ≠ 0)
    (hfits : totalEffort blockList < 2 ^ 256)
    (hge : args.requiredEffort.toNat ≤ totalEffort blockList) :
    AcceptedFork keccak { args with blockList := blockList } pegoutId := by
  refine ⟨h.version, h.required_pos, ?three, ?required, ?first, ?hash, ?continues, ?siblings,
    ?events, ?effort, hfits, hge⟩
  case three => exact le_of_le_of_eq h.three_le hsame.length_eq
  case required => exact le_of_le_of_eq h.required_le hsame.length_eq
  case first =>
    intro y hy
    obtain ⟨x, hx, hheader, _⟩ := hsame.getElem? hy
    rw [← hheader, ← CarriesEvent.congr hheader]
    exact h.first x hx
  case hash =>
    intro y hy
    obtain ⟨x, hx, hheader⟩ := hsame.exists_counted hy
    rw [← hheader]
    exact h.hash_checked x hx
  case continues =>
    intro i prev block hprev hblock
    obtain ⟨prev', hprev', hheader, _⟩ := hsame.getElem? hprev
    obtain ⟨block', hblock', hheader', _⟩ := hsame.getElem? hblock
    obtain ⟨htime, hnumber, hparent, hlower, hupper⟩ := h.continues i prev' block' hprev' hblock'
    rw [hheader, hheader'] at htime hnumber hparent hlower hupper
    exact ⟨htime, hnumber, hparent, hlower, hupper⟩
  case siblings =>
    intro i prev block hprev hblock uncle huncle
    obtain ⟨prev', hprev', hheader, _⟩ := hsame.getElem? hprev
    obtain ⟨block', hblock', _, huncles⟩ := hsame.getElem? hblock
    obtain ⟨uncle', huncle', hheader'⟩ := huncles uncle huncle
    obtain ⟨hnumber, hparent, hdifficulty⟩ :=
      h.siblings i prev' block' hprev' hblock' uncle' huncle'
    rw [hheader, hheader'] at hnumber hparent hdifficulty
    exact ⟨hnumber, hparent, hdifficulty⟩
  case events =>
    intro i block hi hblock
    obtain ⟨block', hblock', hheader, _⟩ := hsame.getElem? hblock
    exact (CarriesEvent.congr hheader).mp (h.events i block' hi hblock')
  case effort =>
    intro y hy
    obtain ⟨x, hx, hheader⟩ := hsame.exists_counted hy
    refine ⟨hpow y hy, ?_⟩
    rw [← hheader]
    exact (h.effort_defined x hx).bound_fits

theorem totalEffort_eq_sum_pow (blockList : List RskBlock) : totalEffort blockList
    = (((countedBlocks blockList).map RskBlock.pow).map
        fun pow => (2 ^ 256 - 1) / beNat pow.val).sum := by
  rw [List.map_map]
  rfl

/-- **The supplied proofs of work determine the effort, and the headers leave them free.** Accepted
forks with pairwise equal proofs of work are worth the same. With the headers of an accepted fork
every choice of proofs of work is accepted that has no zero and adds up to enough, and is worth its
own sum. -/
theorem effort_determined_by_pow (keccak : Digest) (args args' : CheckForkArgs) (pegoutId : H256)
    (e e' : U256) (hok : checkFork keccak args pegoutId = .ok e)
    (hok' : checkFork keccak args' pegoutId = .ok e') :
    ((countedBlocks args.blockList).map RskBlock.pow
        = (countedBlocks args'.blockList).map RskBlock.pow → e = e')
      ∧ ∀ blockList, SameHeaders args.blockList blockList → ∀ total : U256,
        (checkFork keccak { args with blockList := blockList } pegoutId = .ok total
          ↔ (∀ block ∈ countedBlocks blockList, beNat block.pow.val ≠ 0)
            ∧ args.requiredEffort.toNat ≤ total.toNat
            ∧ total.toNat = (((countedBlocks blockList).map RskBlock.pow).map
                fun pow => (2 ^ 256 - 1) / beNat pow.val).sum) := by
  obtain ⟨haccepted, he⟩ := AcceptedFork.of_checkFork hok
  obtain ⟨_, he'⟩ := AcceptedFork.of_checkFork hok'
  refine ⟨fun hpow => U256.toNat_injective ?_, fun blockList hsame total => ?_⟩
  · rw [he, he', totalEffort_eq_sum_pow, totalEffort_eq_sum_pow, hpow]
  · rw [← totalEffort_eq_sum_pow]
    refine ⟨fun h => ?_, fun ⟨hpow, hge, htotal⟩ => ?_⟩
    · obtain ⟨hother, htotal⟩ := AcceptedFork.of_checkFork h
      exact ⟨fun b hb => (hother.effort_defined b hb).pow_ne_zero, htotal ▸ hother.sum_ge, htotal⟩
    · have hother := haccepted.of_sameHeaders hsame hpow (htotal ▸ total.isLt) (htotal ▸ hge)
      exact hother.checkFork_eq htotal

theorem effort_determined_by_pow_sample :
    checkFork Keccak.keccak256
        (sampleArgs (sampleFork Keccak.keccak256 (zeroBytes 32) (powOf (2 ^ 255 - 1)) []))
        (zeroBytes 32) = .ok 6
      ↔ (∀ block ∈ countedBlocks
          (sampleFork Keccak.keccak256 (zeroBytes 32) (powOf (2 ^ 255 - 1)) []),
            beNat block.pow.val ≠ 0)
        ∧ (0 : U256).toNat ≤ (6 : U256).toNat
        ∧ (6 : U256).toNat = (((countedBlocks
            (sampleFork Keccak.keccak256 (zeroBytes 32) (powOf (2 ^ 255 - 1)) [])).map
              RskBlock.pow).map fun pow => (2 ^ 256 - 1) / beNat pow.val).sum := by
  have hok : checkFork Keccak.keccak256
      (sampleArgs (sampleFork Keccak.keccak256 (zeroBytes 32) (powOf (2 ^ 256 - 1)) []))
      (zeroBytes 32) = .ok 3 :=
    checkFork_plainSample (by decide) (by decide) (by decide)
  have hsame : SameHeaders
      (sampleFork Keccak.keccak256 (zeroBytes 32) (powOf (2 ^ 256 - 1)) [])
      (sampleFork Keccak.keccak256 (zeroBytes 32) (powOf (2 ^ 255 - 1)) []) := rfl
  obtain ⟨_, hother⟩ := effort_determined_by_pow Keccak.keccak256 _ _ (zeroBytes 32) 3 3 hok hok
  exact hother _ hsame 6

/-- Two accepted forks with the same headers and different totals. -/
theorem checkFork_effort_not_bound_by_headers :
    SameHeaders (sampleFork Keccak.keccak256 (zeroBytes 32) (powOf (2 ^ 256 - 1)) [])
        (sampleFork Keccak.keccak256 (zeroBytes 32) (powOf (2 ^ 255 - 1)) [])
      ∧ checkFork Keccak.keccak256
          (sampleArgs (sampleFork Keccak.keccak256 (zeroBytes 32) (powOf (2 ^ 256 - 1)) []))
          (zeroBytes 32) = .ok 3
      ∧ checkFork Keccak.keccak256
          (sampleArgs (sampleFork Keccak.keccak256 (zeroBytes 32) (powOf (2 ^ 255 - 1)) []))
          (zeroBytes 32) = .ok 6 := by
  refine ⟨rfl, ?_, ?_⟩
  · exact checkFork_plainSample (by decide) (by decide) (by decide)
  · exact checkFork_plainSample (by decide) (by decide) (by decide)

/-! ## How often a header counts -/

/-- The encodings whose digests are the hashes of the counted headers. -/
def countedEncodings (keccak : Digest) (blockList : List RskBlock) : Set Bytes :=
  { bytes | ∃ block ∈ countedBlocks blockList, block.header.encodeRlp keccak = .ok bytes }

section Accepted

variable (h : AcceptedFork keccak args pegoutId) {first : RskBlock}
  (hfirst : args.blockList[0]? = some first)
include h

include hfirst in
theorem AcceptedFork.number_eq (hblock : args.blockList[i]? = some block) :
    block.header.number.toNat = first.header.number.toNat + i := by
  induction i generalizing block with
  | zero =>
    rw [hfirst] at hblock
    cases hblock
    rfl
  | succ i ih =>
    obtain ⟨prev, hprev⟩ := exists_getElem?_of_succ hblock
    rw [(h.continues i prev block hprev hblock).number_eq, ih hprev, Nat.add_assoc]

theorem AcceptedFork.number_eq_of_hash
    (hinj : Set.InjOn keccak (countedEncodings keccak args.blockList)) {a b : RskBlock}
    (ha : a ∈ countedBlocks args.blockList) (hb : b ∈ countedBlocks args.blockList)
    (hhash : a.header.hash = b.header.hash) : a.header.number = b.header.number := by
  obtain ⟨abytes, habytes, hahash⟩ := (h.hash_checked a ha).hash_eq
  obtain ⟨bbytes, hbbytes, hbhash⟩ := (h.hash_checked b hb).hash_eq
  -- equal hashes are equal digests, so the encodings are equal, and the number is in them
  have hbytes : abytes = bbytes :=
    hinj ⟨a, ha, habytes⟩ ⟨b, hb, hbbytes⟩ (by rw [← hahash, ← hbhash, hhash])
  subst hbytes
  exact RskBlockHeader.number_eq_of_encodeRlp habytes hbbytes

/-- The height of a counted block above the first one: its position in the trunk, or for an uncle
the position below the trunk block that references it. -/
inductive CountedAt (blockList : List RskBlock) : Nat → RskBlock → Prop where
  | trunk {i : Nat} {block : RskBlock} (h : blockList[i]? = some block) :
      CountedAt blockList i block
  | uncle {i : Nat} {block uncle : RskBlock} (h : blockList[i + 1]? = some block)
      (huncle : uncle ∈ block.uncles) : CountedAt blockList i uncle

omit h in
theorem CountedAt.mem_countedBlocks {blockList : List RskBlock}
    (h : CountedAt blockList i block) : block ∈ countedBlocks blockList := by
  cases h with
  | trunk h =>
    cases i with
    | zero => exact CheckFork.mem_countedBlocks.mpr (.inl h)
    | succ i => exact CheckFork.mem_countedBlocks.mpr (.inr ⟨i, block, h, .inl rfl⟩)
  | uncle h huncle => exact CheckFork.mem_countedBlocks.mpr (.inr ⟨i, _, h, .inr huncle⟩)

include hfirst in
theorem CountedAt.number_eq (hat : CountedAt args.blockList i block) :
    block.header.number.toNat = first.header.number.toNat + i := by
  cases hat with
  | trunk hblock => exact h.number_eq hfirst hblock
  | uncle hblock huncle =>
    obtain ⟨prev, hprev⟩ := exists_getElem?_of_succ hblock
    rw [(h.siblings i prev _ hprev hblock block huncle).number_eq, h.number_eq hfirst hprev]

theorem CountedAt.eq_of_hash
    (hinj : Set.InjOn keccak (countedEncodings keccak args.blockList)) {i j : Nat}
    {a b : RskBlock} (ha : CountedAt args.blockList i a) (hb : CountedAt args.blockList j b)
    (hhash : a.header.hash = b.header.hash) : i = j := by
  have hpos : 0 < args.blockList.length := by have := h.three_le; omega
  have hfirst := List.getElem?_eq_getElem hpos
  have hnumber := h.number_eq_of_hash hinj ha.mem_countedBlocks hb.mem_countedBlocks hhash
  have hi := ha.number_eq h hfirst
  have hj := hb.number_eq h hfirst
  rw [hnumber] at hi
  omega

end Accepted

/-- **Where a header can count more than once.** Without a collision the trunk hashes are pairwise
distinct, and an uncle referenced by trunk block `i + 1` shares its hash with no trunk block but
block `i` and with no uncle of another trunk block; it is a sibling of block `i`. -/
theorem counted_hashes_apart (keccak : Digest) (args : CheckForkArgs) (pegoutId : H256) (e : U256)
    (hok : checkFork keccak args pegoutId = .ok e)
    (hinj : Set.InjOn keccak (countedEncodings keccak args.blockList)) :
    (∀ (i j : Nat) (a b : RskBlock), args.blockList[i]? = some a → args.blockList[j]? = some b →
        a.header.hash = b.header.hash → i = j)
      ∧ ∀ (i : Nat) (block uncle : RskBlock), args.blockList[i + 1]? = some block → uncle ∈ block.uncles →
        (∀ (j : Nat) (trunk : RskBlock), args.blockList[j]? = some trunk →
            uncle.header.hash = trunk.header.hash → j = i)
        ∧ (∀ (j : Nat) (other uncle' : RskBlock), args.blockList[j + 1]? = some other → uncle' ∈ other.uncles →
            uncle.header.hash = uncle'.header.hash → j = i)
        ∧ ∃ prev, args.blockList[i]? = some prev ∧ SiblingOf uncle prev := by
  obtain ⟨h, _⟩ := AcceptedFork.of_checkFork hok
  refine ⟨fun i j a b ha hb hhash => CountedAt.eq_of_hash h hinj (.trunk ha) (.trunk hb) hhash, ?_⟩
  intro i block uncle hblock huncle
  refine ⟨fun j trunk htrunk hhash => ?_, fun j other uncle' hother huncle' hhash => ?_, ?_⟩
  · exact CountedAt.eq_of_hash h hinj (.trunk htrunk) (.uncle hblock huncle) hhash.symm
  · exact CountedAt.eq_of_hash h hinj (.uncle hother huncle') (.uncle hblock huncle) hhash.symm
  · obtain ⟨prev, hprev⟩ := exists_getElem?_of_succ hblock
    exact ⟨prev, hprev, h.siblings i prev block hprev hblock uncle huncle⟩

/-- The second block references the first one as its uncle, although its header lists none. -/
def trunkAsUncle (keccak : Digest) : List RskBlock :=
  sampleFork keccak (zeroBytes 32) (powOf (2 ^ 256 - 1))
    [.mk [] (powOf (2 ^ 256 - 1)) (sampleHeader0 keccak)]

theorem checkFork_trunkAsUncle (keccak : Digest) :
    checkFork keccak (sampleArgs (trunkAsUncle keccak)) (zeroBytes 32) = .ok 4 := by
  have hnone : ∀ bytes : RVec UInt8, none = some bytes → bytes.val.length = 32 := by
    intro bytes h; cases h
  refine checkFork_sampleFork keccak _ (by decide) (by decide) (fun uncle huncle => ?_) ?_
  · rw [List.mem_singleton] at huncle
    subst huncle
    refine ⟨⟨rfl, rfl, rfl⟩, hashChecked_sampleHeader keccak _ _ hnone, ?_, ?_⟩
    · show beNat (powOf (2 ^ 256 - 1)).val ≠ 0
      decide
    · show 20 * (1 : U256).toNat < 2 ^ 256
      decide
  · rw [List.map_singleton, List.sum_singleton, effort_powOf (by decide)]
    decide

theorem injOn_countedEncodings_trunkAsUncle :
    Set.InjOn Keccak.keccak256
      (countedEncodings Keccak.keccak256 (trunkAsUncle Keccak.keccak256)) := by
  let headers := [sampleHeader0 Keccak.keccak256, sampleHeader1 Keccak.keccak256,
    sampleHeader2 Keccak.keccak256 (zeroBytes 32)]
  have hapart : (headers.map (·.hash)).Nodup := by decide +kernel
  have haccepted := (AcceptedFork.of_checkFork (checkFork_trunkAsUncle Keccak.keccak256)).1
  -- a digest is the hash of its header, and a header is one of three
  have hmem : ∀ m ∈ countedEncodings Keccak.keccak256 (trunkAsUncle Keccak.keccak256),
      ∃ header ∈ headers, header.encodeRlp Keccak.keccak256 = .ok m ∧ header.hash = Keccak.keccak256 m := by
    rintro m ⟨block, hblock, hm⟩
    obtain ⟨bytes, hbytes, hhash⟩ := (haccepted.hash_checked block hblock).hash_eq
    obtain rfl : bytes = m := by
      rw [hm] at hbytes
      exact (Except.ok.inj hbytes).symm
    refine ⟨block.header, ?_, hbytes, hhash⟩
    simp only [trunkAsUncle, sampleFork, countedBlocks, List.flatMap_cons, List.flatMap_nil,
      RskBlock.uncles, List.append_nil, List.cons_append, List.nil_append, List.mem_cons,
      List.not_mem_nil, or_false] at hblock
    rcases hblock with rfl | rfl | rfl | rfl <;> simp [headers, RskBlock.header]
  intro m hm m' hm' heq
  obtain ⟨a, ha, habytes, hahash⟩ := hmem m hm
  obtain ⟨b, hb, hbbytes, hbhash⟩ := hmem m' hm'
  have hhash : a.hash = b.hash := by rw [hahash, hbhash, heq]
  have hab := List.inj_on_of_nodup_map hapart ha hb hhash
  subst hab
  rw [habytes] at hbbytes
  exact Except.ok.inj hbbytes

/-- The uncle of the sample fork has another hash than the third block. -/
theorem counted_hashes_apart_trunkAsUncle :
    (sampleHeader0 Keccak.keccak256).hash
      ≠ (sampleHeader2 Keccak.keccak256 (zeroBytes 32)).hash := by
  obtain ⟨_, huncles⟩ := counted_hashes_apart Keccak.keccak256
    (sampleArgs (trunkAsUncle Keccak.keccak256)) (zeroBytes 32) 4
    (checkFork_trunkAsUncle Keccak.keccak256) injOn_countedEncodings_trunkAsUncle
  obtain ⟨htrunk, _⟩ := huncles 0 _ _ rfl (List.mem_singleton_self _)
  intro hhash
  cases htrunk 2 _ rfl hhash

/-- One header counts twice, once in the trunk and once as an uncle, and the block that references
the uncle does not list its hash. -/
theorem checkFork_counts_header_twice :
    checkFork Keccak.keccak256 (sampleArgs (trunkAsUncle Keccak.keccak256)) (zeroBytes 32) = .ok 4
      ∧ ¬ ((countedBlocks (trunkAsUncle Keccak.keccak256)).map (·.header.hash)).Nodup
      ∧ ∃ block uncle, (trunkAsUncle Keccak.keccak256)[1]? = some block ∧ uncle ∈ block.uncles
        ∧ uncle.header.hash ∉ block.header.uncles.val := by
  refine ⟨checkFork_trunkAsUncle Keccak.keccak256, ?_, _, _, rfl, List.mem_singleton_self _, ?_⟩
  · show ¬ (_ :: _ :: (sampleHeader0 Keccak.keccak256).hash :: _ : List H256).Nodup
    intro hnodup
    exact (List.nodup_cons.mp hnodup).1 (by simp [RskBlock.header])
  · exact List.not_mem_nil

/-! ## The total of the tester (`tester/src/lib.rs`) -/

def addBlockEffort (total : U256) (block : RskBlock) : Outcome U256 := do
  let effort ← okOr "division by zero on block effort"
    (U256.checkedDiv U256.max (U256.fromBigEndian block.pow.val))
  okOr "effort overflow" (U256.checkedAdd total effort)

/-- The body of the loop over the blocks. -/
def addTrunkEffort (total : U256) (block : RskBlock) : Outcome U256 := do
  let total ← addBlockEffort total block
  block.uncles.foldlM addBlockEffort total

def calculateTotalEffort (blocks : List RskBlock) : Outcome U256 := blocks.foldlM addTrunkEffort 0

theorem addBlockEffort_eq_ok {total total' : U256} {block : RskBlock} :
    addBlockEffort total block = .ok total'
      ↔ beNat block.pow.val ≠ 0 ∧ total'.toNat = total.toNat + effort block := by
  rw [← accumulateEffort_eq_ok, addBlockEffort, accumulateEffort, calculateBlockEffort, bind_eq_ok,
    bind_eq_ok]
  simp only [okOr_eq_ok]

theorem calculateTotalEffort_eq_ok {blocks : List RskBlock} {total : U256} :
    calculateTotalEffort blocks = .ok total
      ↔ (∀ block ∈ blocks, ∀ b ∈ block :: block.uncles, beNat b.pow.val ≠ 0)
        ∧ total.toNat = (blocks.map trunkEffort).sum := by
  have hfold : ∀ (bs : List RskBlock) (acc acc' : U256), bs.foldlM addBlockEffort acc = .ok acc'
      ↔ (∀ b ∈ bs, beNat b.pow.val ≠ 0) ∧ acc'.toNat = acc.toNat + (bs.map effort).sum :=
    fun _ => foldlM_ok_iff U256.toNat_injective (fun b _ h => U256.exists_toNat_eq_of_le b h)
      fun _ _ _ _ => addBlockEffort_eq_ok
  have htrunk : ∀ block ∈ blocks, ∀ acc acc', addTrunkEffort acc block = .ok acc'
      ↔ (∀ b ∈ block :: block.uncles, beNat b.pow.val ≠ 0)
        ∧ acc'.toNat = acc.toNat + trunkEffort block := by
    intro block _ acc acc'
    exact (hfold (block :: block.uncles) acc acc').trans (by rw [List.map_cons, List.sum_cons]; rfl)
  rw [calculateTotalEffort, foldlM_ok_iff U256.toNat_injective
    (fun b _ h => U256.exists_toNat_eq_of_le b h) htrunk, show (0 : U256).toNat = 0 from rfl,
    Nat.zero_add]

/-- **The tester's total is the effort of an accepted fork** exactly if the first block has no uncles:
the tester counts them, and the check does not look at them. -/
theorem calculateTotalEffort_eq_iff (keccak : Digest) (args : CheckForkArgs) (pegoutId : H256)
    (e : U256) (first : RskBlock) (rest : List RskBlock) (hlist : args.blockList = first :: rest)
    (hok : checkFork keccak args pegoutId = .ok e) :
    calculateTotalEffort args.blockList = .ok e ↔ first.uncles = [] := by
  obtain ⟨haccepted, he⟩ := AcceptedFork.of_checkFork hok
  have hpow := fun b hb => (haccepted.effort_defined b hb).pow_ne_zero
  rw [hlist, countedBlocks] at hpow
  rw [calculateTotalEffort_eq_ok, hlist, he, hlist, totalEffort_cons, List.map_cons, List.sum_cons,
    trunkEffort]
  constructor
  · rintro ⟨hfirst, hsum⟩
    cases huncles : first.uncles with
    | nil => rfl
    | cons uncle uncles =>
      -- an uncle is worth at least 1
      have hne := hfirst first List.mem_cons_self uncle (by simp [huncles])
      have hpos : 0 < effort uncle :=
        Nat.div_pos (Nat.le_sub_one_of_lt (beNat_h256_lt uncle.pow)) (Nat.pos_of_ne_zero hne)
      rw [huncles, List.map_cons, List.sum_cons] at hsum
      omega
  · intro hnone
    refine ⟨fun block hblock b hb => hpow b ?_, by rw [hnone]; rfl⟩
    rcases List.mem_cons.mp hblock with rfl | hmem
    · rw [hnone] at hb
      exact List.mem_singleton.mp hb ▸ List.mem_cons_self
    · exact List.mem_cons_of_mem _ (List.mem_flatMap.mpr ⟨block, hmem, hb⟩)

theorem calculateTotalEffort_eq_iff_sample :
    calculateTotalEffort (sampleFork Keccak.keccak256 (zeroBytes 32) (powOf (2 ^ 256 - 1)) [])
      = .ok 3 :=
  (calculateTotalEffort_eq_iff Keccak.keccak256
    (sampleArgs (sampleFork Keccak.keccak256 (zeroBytes 32) (powOf (2 ^ 256 - 1)) []))
    (zeroBytes 32) 3 _ _ rfl (checkFork_plainSample (by decide) (by decide) (by decide))).mpr rfl

/-- The check does not look at the uncles of the first block. -/
theorem checkFork_first_uncles (keccak : Digest) (args : CheckForkArgs) (pegoutId pow : H256)
    (header : RskBlockHeader) (uncles uncles' rest : List RskBlock) :
    checkFork keccak { args with blockList := .mk uncles pow header :: rest } pegoutId
      = checkFork keccak { args with blockList := .mk uncles' pow header :: rest } pegoutId := by
  have hstep : (fun acc i => trunkStep keccak (.mk uncles pow header :: rest)
        (buildPegoutBaseEventFromId pegoutId) acc (1 + i))
      = fun acc i => trunkStep keccak (.mk uncles' pow header :: rest)
        (buildPegoutBaseEventFromId pegoutId) acc (1 + i) := by
    funext acc i
    rw [Nat.add_comm]
    cases i <;> rfl
  unfold checkFork
  simp only [List.range'_eq_map_range, List.foldlM_map]
  rw [hstep]
  rfl

/-- An uncle of the first block is worth nothing to the check. -/
theorem tester_counts_uncles_of_first :
    let block (uncles : List RskBlock) : RskBlock :=
      .mk uncles (powOf (2 ^ 256 - 1)) (sampleHeader0 Keccak.keccak256)
    let fork := block [block []]
      :: (sampleFork Keccak.keccak256 (zeroBytes 32) (powOf (2 ^ 256 - 1)) []).tail
    checkFork Keccak.keccak256 (sampleArgs fork) (zeroBytes 32) = .ok 3
      ∧ calculateTotalEffort fork = .ok 4 := by
  refine ⟨?_, by decide +kernel⟩
  exact (checkFork_first_uncles _ (sampleArgs []) _ _ _ _ _ _).trans
    (checkFork_plainSample (by decide) (by decide) (by decide))

end UnionBridge.CheckFork
