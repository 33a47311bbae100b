import UnionBridge.CheckFork.Fork

/-!
# What the fork check accepts

`AcceptedFork` states, without loops and early exits, when a fork is accepted, and `totalEffort`
what the accepted fork is worth: the proof of work of every trunk block and of every uncle that a
trunk block after the first references. The check returns exactly then, and exactly that.

Each function of the check has one lemma that says when it returns; the two loops are instances
of the rule for accumulating loops.
-/

namespace UnionBridge.CheckFork

open Outcome

/-! ## The specification -/

/-- The proof of work of a block: how often the hash fits below the largest one. -/
def effort (block : RskBlock) : Nat := (2 ^ 256 - 1) / beNat block.pow.val

/-- The blocks that count: the trunk, and the uncles of every trunk block but the first. -/
def countedBlocks : List RskBlock → List RskBlock
  | [] => []
  | first :: rest => first :: rest.flatMap fun block => block :: block.uncles

def totalEffort (blockList : List RskBlock) : Nat :=
  ((countedBlocks blockList).map effort).sum

structure HashChecked (keccak : Digest) (header : RskBlockHeader) : Prop where
  hash_eq : ∃ bytes, header.encodeRlp keccak = .ok bytes ∧ header.hash = keccak bytes
  event_version : header.baseEvent.isSome → header.version = RSK_HEADER_EXTENSION_TYPE_V2

/-- The effort of the block and the bound it is compared with are defined. -/
structure EffortDefined (block : RskBlock) : Prop where
  pow_ne_zero : beNat block.pow.val ≠ 0
  bound_fits : 20 * block.header.difficulty.toNat < 2 ^ 256

structure Continues (block prev : RskBlock) : Prop where
  timestamp_lt : prev.header.timestamp < block.header.timestamp
  number_eq : block.header.number.toNat = prev.header.number.toNat + 1
  parent_eq : block.header.parent = prev.header.hash
  difficulty_ge : prev.header.difficulty.toNat - prev.header.difficulty.toNat / 400
    ≤ block.header.difficulty.toNat
  difficulty_le : block.header.difficulty.toNat
    ≤ prev.header.difficulty.toNat + prev.header.difficulty.toNat / 400

/-- An uncle is a sibling of the trunk block below the one that references it. -/
structure SiblingOf (uncle trunk : RskBlock) : Prop where
  number_eq : uncle.header.number = trunk.header.number
  parent_eq : uncle.header.parent = trunk.header.parent
  difficulty_eq : uncle.header.difficulty = trunk.header.difficulty

def CarriesEvent (block : RskBlock) (event : H256) : Prop :=
  ∃ bytes, block.header.baseEvent = some bytes ∧ bytes.val = event.val

structure AcceptedFork (keccak : Digest) (args : CheckForkArgs) (pegoutId : H256) : Prop where
  version : args.pegoutIdVersion = 1
  required_pos : 1 ≤ args.requiredNumBlocks.toNat
  three_le : 3 ≤ args.blockList.length
  required_le : args.requiredNumBlocks.toNat ≤ args.blockList.length
  first : ∀ block, args.blockList[0]? = some block →
    args.initBlockTime ≤ block.header.timestamp ∧ args.initBlockNumber ≤ block.header.number
      ∧ ¬ CarriesEvent block pegoutId
  hash_checked : ∀ block ∈ countedBlocks args.blockList, HashChecked keccak block.header
  continues : ∀ i prev block, args.blockList[i]? = some prev →
    args.blockList[i + 1]? = some block → Continues block prev
  siblings : ∀ i prev block, args.blockList[i]? = some prev →
    args.blockList[i + 1]? = some block → ∀ uncle ∈ block.uncles, SiblingOf uncle prev
  events : ∀ i block, 2 ≤ i → args.blockList[i]? = some block → CarriesEvent block pegoutId
  effort_defined : ∀ block ∈ countedBlocks args.blockList, EffortDefined block
  sum_fits : totalEffort args.blockList < 2 ^ 256
  sum_ge : args.requiredEffort.toNat ≤ totalEffort args.blockList

/-! ## When each check returns -/

theorem beNat_h256_lt (h : H256) : beNat h.val < 2 ^ 256 := by
  have hlt := beNat_lt h.val
  rw [h.property] at hlt
  exact lt_of_lt_of_eq hlt (by norm_num)

theorem toNat_fromBigEndian_h256 (h : H256) : (U256.fromBigEndian h.val).toNat = beNat h.val := by
  rw [U256.fromBigEndian, BitVec.toNat_ofNat, Nat.mod_eq_of_lt (beNat_h256_lt h)]

variable {keccak : Digest} {block : RskBlock} {blockList : List RskBlock} {acc acc' : U256}
  {u : Unit} {event : H256} {args : CheckForkArgs} {pegoutId : H256} {e : U256}

theorem calculateBlockEffort_eq_ok :
    calculateBlockEffort block = .ok e ↔ beNat block.pow.val ≠ 0 ∧ e.toNat = effort block := by
  rw [calculateBlockEffort, okOr_eq_ok, U256.checkedDiv_eq_some, toNat_fromBigEndian_h256,
    U256.toNat_max]
  rfl

theorem effort_lt (block : RskBlock) : effort block < 2 ^ 256 :=
  lt_of_le_of_lt (Nat.div_le_self _ _) (by norm_num)

theorem exists_calculateBlockEffort :
    (∃ e, calculateBlockEffort block = .ok e) ↔ beNat block.pow.val ≠ 0 := by
  simp only [calculateBlockEffort_eq_ok, exists_and_left, and_iff_left_iff_imp]
  intro _
  refine ⟨BitVec.ofNat 256 (effort block), ?_⟩
  rw [BitVec.toNat_ofNat, Nat.mod_eq_of_lt (effort_lt block)]

theorem accumulateEffort_eq_ok : accumulateEffort acc block = .ok acc'
      ↔ beNat block.pow.val ≠ 0 ∧ acc'.toNat = acc.toNat + effort block := by
  rw [accumulateEffort, bind_eq_ok]
  simp only [okOr_eq_ok, U256.checkedAdd_eq_some]
  constructor
  · rintro ⟨e, he, hsum⟩
    obtain ⟨hpow, heq⟩ := calculateBlockEffort_eq_ok.mp he
    exact ⟨hpow, by rw [hsum, heq]⟩
  · rintro ⟨hpow, hsum⟩
    obtain ⟨e, he⟩ := exists_calculateBlockEffort.mpr hpow
    exact ⟨e, he, by rw [hsum, (calculateBlockEffort_eq_ok.mp he).2]⟩

theorem validateEnoughEffortSuperblock_eq_ok {ty : String} :
    validateEnoughEffortSuperblock block ty = .ok u ↔ EffortDefined block := by
  have htimes : (BitVec.ofNat 256 SUPERBLOCK_TIMES_DIFFICULTY.toNat).toNat = 20 := by decide
  have hfits : (∃ c, U256.checkedMul block.header.difficulty
      (BitVec.ofNat 256 SUPERBLOCK_TIMES_DIFFICULTY.toNat) = some c)
      ↔ 20 * block.header.difficulty.toNat < 2 ^ 256 := by
    rw [U256.exists_checkedMul_eq_some, htimes, Nat.mul_comm]
  -- both branches of the comparison return, so only the two computations count
  simp only [validateEnoughEffortSuperblock, bind_eq_ok, okOr_eq_ok, ite_self, and_true,
    exists_and_right]
  rw [hfits, exists_calculateBlockEffort]
  exact ⟨fun h => ⟨h.2, h.1⟩, fun h => ⟨h.bound_fits, h.pow_ne_zero⟩⟩

theorem containsMatchingPegoutEvent_iff :
    containsMatchingPegoutEvent block event = true ↔ CarriesEvent block event := by
  unfold containsMatchingPegoutEvent CarriesEvent
  cases block.header.baseEvent with
  | none => simp
  | some bytes => simp

theorem validateFirstBlock_eq_ok {time number : UInt64} :
    validateFirstBlock block time number event = .ok u
      ↔ time ≤ block.header.timestamp ∧ number ≤ block.header.number ∧ EffortDefined block
        ∧ ¬ CarriesEvent block event := by
  rw [validateFirstBlock, guard_eq_ok, guard_eq_ok, bind_eq_ok]
  simp only [validateEnoughEffortSuperblock_eq_ok, guard_eq_ok, containsMatchingPegoutEvent_iff,
    UInt64.not_lt, and_true, exists_const]

theorem validateDifficultyInBounds_eq_ok {block prev : RskBlock} :
    validateDifficultyInBounds block prev = .ok u
      ↔ prev.header.difficulty.toNat - prev.header.difficulty.toNat / 400
          ≤ block.header.difficulty.toNat
        ∧ block.header.difficulty.toNat
          ≤ prev.header.difficulty.toNat + prev.header.difficulty.toNat / 400 := by
  have hdelta : (prev.header.difficulty / 400).toNat = prev.header.difficulty.toNat / 400 := by
    rw [BitVec.toNat_udiv]; rfl
  unfold validateDifficultyInBounds
  -- a saturated bound holds of every word, so the bounds are those of the naturals
  rw [ensure_eq_ok, U256.le_saturatingAdd, U256.saturatingSub_le, hdelta]
  omega

theorem checkedSucc_eq_some {n m : UInt64} :
    checkedSucc n = some m ↔ m.toNat = n.toNat + 1 := by
  have hm := m.toNat_lt
  unfold checkedSucc
  split
  · next h =>
    rw [Option.some.injEq, ← UInt64.toNat_inj, UInt64.toNat_add]
    rw [show (1 : UInt64).toNat = 1 from rfl, Nat.mod_eq_of_lt h]
    exact eq_comm
  · next h =>
    constructor
    · intro hcontra; cases hcontra
    · intro hsucc; omega

theorem validateConsecutiveBlock_eq_ok {block prev : RskBlock} :
    validateConsecutiveBlock block prev = .ok u
      ↔ Continues block prev ∧ EffortDefined block := by
  rw [validateConsecutiveBlock, guard_eq_ok, bind_eq_ok, UInt64.not_le]
  simp only [okOr_eq_ok, guard_eq_ok, bind_eq_ok, validateEnoughEffortSuperblock_eq_ok,
    validateDifficultyInBounds_eq_ok, checkedSucc_eq_some, not_not, exists_const]
  constructor
  · rintro ⟨htime, next, hnext, hnumber, hparent, heffort, hge, hle⟩
    rw [← hnumber] at hnext
    exact ⟨⟨htime, hnext, hparent, hge, hle⟩, heffort⟩
  · rintro ⟨h, heffort⟩
    exact ⟨h.timestamp_lt, block.header.number, h.number_eq, rfl, h.parent_eq, heffort,
      h.difficulty_ge, h.difficulty_le⟩

theorem validateBlockHash_eq_ok {header : RskBlockHeader} :
    validateBlockHash keccak header = .ok u ↔ HashChecked keccak header := by
  rw [validateBlockHash, guard_eq_ok, bind_eq_ok]
  simp only [RskBlockHeader.calculateBlockHash_eq_ok, guard_eq_ok, not_not, and_true, not_and]
  constructor
  · rintro ⟨hevent, _, ⟨bytes, hbytes, rfl⟩, hhash⟩
    exact ⟨⟨bytes, hbytes, hhash⟩, hevent⟩
  · rintro ⟨⟨bytes, hbytes, hhash⟩, hevent⟩
    exact ⟨hevent, _, ⟨bytes, hbytes, rfl⟩, hhash⟩

theorem validateUncle_eq_ok {trunk uncle : RskBlock} : validateUncle keccak trunk uncle = .ok u
      ↔ SiblingOf uncle trunk ∧ HashChecked keccak uncle.header ∧ EffortDefined uncle := by
  rw [validateUncle, guard_eq_ok, guard_eq_ok, guard_eq_ok, bind_eq_ok]
  simp only [validateBlockHash_eq_ok, validateEnoughEffortSuperblock_eq_ok, not_not, exists_const]
  exact ⟨fun ⟨hn, hp, hd, h⟩ => ⟨⟨hn, hp, hd⟩, h⟩,
    fun ⟨hs, h⟩ => ⟨hs.number_eq, hs.parent_eq, hs.difficulty_eq, h⟩⟩

theorem validateRequiredPegoutEvent_eq_ok :
    validateRequiredPegoutEvent block event = .ok u ↔ CarriesEvent block event := by
  rw [validateRequiredPegoutEvent, ensure_eq_ok, containsMatchingPegoutEvent_iff]

/-! ## The loops -/

def UncleChecked (keccak : Digest) (trunk uncle : RskBlock) : Prop :=
  SiblingOf uncle trunk ∧ HashChecked keccak uncle.header ∧ EffortDefined uncle

theorem uncleStep_eq_ok {trunk uncle : RskBlock} : uncleStep keccak trunk acc uncle = .ok acc'
      ↔ UncleChecked keccak trunk uncle ∧ acc'.toNat = acc.toNat + effort uncle := by
  rw [uncleStep, bind_eq_ok]
  simp only [validateUncle_eq_ok, accumulateEffort_eq_ok, exists_const]
  exact ⟨fun ⟨h, _, hsum⟩ => ⟨h, hsum⟩, fun ⟨h, hsum⟩ => ⟨h, h.2.2.pow_ne_zero, hsum⟩⟩

theorem foldlM_uncleStep_eq_ok {trunk : RskBlock} {uncles : List RskBlock} :
    uncles.foldlM (uncleStep keccak trunk) acc = .ok acc'
      ↔ (∀ uncle ∈ uncles, UncleChecked keccak trunk uncle)
        ∧ acc'.toNat = acc.toNat + (uncles.map effort).sum := by
  have hstep : ∀ uncle ∈ uncles, ∀ b b', uncleStep keccak trunk b uncle = .ok b'
      ↔ UncleChecked keccak trunk uncle ∧ b'.toNat = b.toNat + effort uncle :=
    fun _ _ _ _ => uncleStep_eq_ok
  exact foldlM_ok_iff U256.toNat_injective (fun b _ h => U256.exists_toNat_eq_of_le b h) hstep
    acc acc'

/-- What the pass over trunk block `i` has to find. -/
structure TrunkChecked (keccak : Digest) (event : H256) (i : Nat) (block prev : RskBlock) :
    Prop where
  continues : Continues block prev
  hash_checked : HashChecked keccak block.header
  effort_defined : EffortDefined block
  uncles : ∀ uncle ∈ block.uncles, UncleChecked keccak prev uncle
  carries_event : 2 ≤ i → CarriesEvent block event

/-- What a trunk block adds to the total: its own effort and that of its uncles. -/
def trunkEffort (block : RskBlock) : Nat := effort block + (block.uncles.map effort).sum

theorem trunkStep_eq_ok {i : Nat} {block prev : RskBlock} (hblock : blockList[i]? = some block)
    (hprev : blockList[i - 1]? = some prev) : trunkStep keccak blockList event acc i = .ok acc'
      ↔ TrunkChecked keccak event i block prev ∧ acc'.toNat = acc.toNat + trunkEffort block := by
  -- the pegout event is asked for from the third trunk block on
  have hevent : ∀ sum : U256, (if i ≥ 2 then (do
        validateRequiredPegoutEvent block event
        pure sum) else pure sum) = (.ok acc' : Outcome U256)
      ↔ (2 ≤ i → CarriesEvent block event) ∧ sum = acc' := by
    intro sum
    by_cases hi : 2 ≤ i
    · simp [hi, bind_eq_ok, validateRequiredPegoutEvent_eq_ok]
    · simp [hi]
  simp only [trunkStep, bind_eq_ok, index_eq_ok, hblock, hprev, Option.some.injEq,
    exists_eq_left', validateConsecutiveBlock_eq_ok, validateBlockHash_eq_ok, hevent,
    accumulateEffort_eq_ok, foldlM_uncleStep_eq_ok, exists_const]
  constructor
  · rintro ⟨⟨hcont, heffort⟩, hhash, acc₁, ⟨_, hacc₁⟩, acc₂, ⟨huncles, hacc₂⟩, hev, rfl⟩
    refine ⟨⟨hcont, hhash, heffort, huncles, hev⟩, ?_⟩
    rw [hacc₂, hacc₁, trunkEffort, Nat.add_assoc]
  · rintro ⟨h, hsum⟩
    -- the sum before the uncles fits because the sum after them does
    obtain ⟨acc₁, hacc₁⟩ := U256.exists_toNat_eq_of_le acc'
      (show acc.toNat + effort block ≤ acc'.toNat by rw [hsum, trunkEffort]; omega)
    refine ⟨⟨h.continues, h.effort_defined⟩, h.hash_checked, acc₁,
      ⟨h.effort_defined.pow_ne_zero, hacc₁⟩, acc', ⟨h.uncles, ?_⟩, h.carries_event, rfl⟩
    rw [hsum, hacc₁, trunkEffort, Nat.add_assoc]

theorem foldlM_trunkStep_eq_ok : (List.range' 1 (blockList.length - 1)).foldlM
        (trunkStep keccak blockList event) acc = .ok acc'
      ↔ (∀ i prev block, blockList[i]? = some prev → blockList[i + 1]? = some block →
          TrunkChecked keccak event (i + 1) block prev)
        ∧ acc'.toNat = acc.toNat + (blockList.tail.map trunkEffort).sum := by
  -- `P i` is what pass `i` has to find and `w i` what it adds
  let P : Nat → Prop := fun i => ∀ prev, blockList[i - 1]? = some prev →
    ∀ block, blockList[i]? = some block → TrunkChecked keccak event i block prev
  let w : Nat → Nat := fun i => (blockList[i]?.map trunkEffort).getD 0
  have hstep : ∀ i ∈ List.range' 1 (blockList.length - 1), ∀ b b',
      trunkStep keccak blockList event b i = .ok b' ↔ P i ∧ b'.toNat = b.toNat + w i := by
    intro i hi b b'
    rw [List.mem_range'_1] at hi
    have hblock := List.getElem?_eq_getElem (l := blockList) (i := i) (by omega)
    have hprev := List.getElem?_eq_getElem (l := blockList) (i := i - 1) (by omega)
    rw [trunkStep_eq_ok hblock hprev]
    simp only [P, w, hblock, hprev, Option.some.injEq, forall_eq', Option.map_some,
      Option.getD_some]
  have hsum : (List.range' 1 (blockList.length - 1)).map w = blockList.tail.map trunkEffort := by
    refine List.ext_getElem (by simp) fun j hj hj' => ?_
    simp only [List.length_map, List.length_range'] at hj
    rw [List.getElem_map, List.getElem_map, List.getElem_range', List.getElem_tail]
    simp only [w, show 1 + 1 * j = j + 1 by omega]
    rw [List.getElem?_eq_getElem (by omega), Option.map_some, Option.getD_some]
  rw [foldlM_ok_iff U256.toNat_injective (fun b _ h => U256.exists_toNat_eq_of_le b h) hstep, hsum]
  refine and_congr_left fun _ => ?_
  constructor
  · intro h i prev block hprev hblock
    have hlt := (List.getElem?_eq_some_iff.mp hblock).1
    exact h (i + 1) (List.mem_range'_1.mpr (by omega)) prev hprev block hblock
  · intro h i hi prev hprev block hblock
    rw [List.mem_range'_1] at hi
    obtain ⟨k, rfl⟩ : ∃ k, i = k + 1 := ⟨i - 1, by omega⟩
    exact h k prev block hprev hblock

/-! ## The whole check -/

theorem totalEffort_cons (first : RskBlock) (rest : List RskBlock) :
    totalEffort (first :: rest) = effort first + (rest.map trunkEffort).sum := by
  have hrest : ((rest.flatMap fun block => block :: block.uncles).map effort).sum
      = (rest.map trunkEffort).sum := by
    induction rest with
    | nil => rfl
    | cons block rest ih =>
      rw [List.flatMap_cons, List.map_append, List.sum_append, ih, List.map_cons, List.sum_cons,
        List.map_cons, List.sum_cons, trunkEffort]
  rw [totalEffort, countedBlocks, List.map_cons, List.sum_cons, hrest]

theorem mem_countedBlocks {b : RskBlock} : b ∈ countedBlocks blockList ↔ blockList[0]? = some b
      ∨ ∃ i block, blockList[i + 1]? = some block ∧ (b = block ∨ b ∈ block.uncles) := by
  cases blockList with
  | nil => simp [countedBlocks]
  | cons first rest =>
    -- the uncles of the first block do not count
    simp only [countedBlocks, List.mem_cons, List.mem_flatMap, List.getElem?_cons_zero,
      Option.some.injEq, List.getElem?_cons_succ]
    refine or_congr eq_comm ?_
    constructor
    · rintro ⟨block, hmem, hb⟩
      obtain ⟨i, hi⟩ := List.mem_iff_getElem?.mp hmem
      exact ⟨i, block, hi, hb⟩
    · rintro ⟨i, block, hi, hb⟩
      exact ⟨block, List.mem_iff_getElem?.mpr ⟨i, hi⟩, hb⟩

theorem exists_getElem?_of_succ {i : Nat}
    (h : blockList[i + 1]? = some block) : ∃ prev, blockList[i]? = some prev := by
  have hlt := (List.getElem?_eq_some_iff.mp h).1
  exact ⟨_, List.getElem?_eq_getElem (by omega)⟩

theorem checkFork_eq_ok : checkFork keccak args pegoutId = .ok e ↔ args.pegoutIdVersion = 1
      ∧ (1 ≤ args.requiredNumBlocks.toNat ∧ 3 ≤ args.blockList.length
        ∧ args.requiredNumBlocks.toNat ≤ args.blockList.length)
      ∧ ∃ first rest, args.blockList = first :: rest
        ∧ (args.initBlockTime ≤ first.header.timestamp
          ∧ args.initBlockNumber ≤ first.header.number ∧ EffortDefined first
          ∧ ¬ CarriesEvent first pegoutId)
        ∧ HashChecked keccak first.header
        ∧ (∀ i prev block, args.blockList[i]? = some prev → args.blockList[i + 1]? = some block →
            TrunkChecked keccak pegoutId (i + 1) block prev)
        ∧ args.requiredEffort.toNat ≤ e.toNat
        ∧ e.toNat = totalEffort args.blockList := by
  simp only [checkFork, guard_eq_ok, bind_eq_ok, validateBlockList_eq_ok, index_eq_ok,
    validateFirstBlock_eq_ok, validateBlockHash_eq_ok, accumulateEffort_eq_ok,
    foldlM_trunkStep_eq_ok, buildPegoutBaseEventFromId, not_not, exists_const,
    BitVec.toNat_zero, BitVec.ofNat_eq_ofNat, Nat.zero_add, BitVec.not_lt, Except.ok.injEq]
  refine and_congr Iff.rfl (and_congr Iff.rfl ?_)
  constructor
  · rintro ⟨first, hfirst, hchecked, hhash, acc, ⟨_, hacc⟩, total, ⟨htrunk, htotal⟩, hge, rfl⟩
    obtain ⟨rest, hlist⟩ : ∃ rest, args.blockList = first :: rest := by
      cases hl : args.blockList with
      | nil => simp [hl] at hfirst
      | cons b rest =>
        simp only [hl, List.getElem?_cons_zero, Option.some.injEq] at hfirst
        exact ⟨rest, by rw [hfirst]⟩
    refine ⟨first, rest, hlist, hchecked, hhash, htrunk, hge, ?_⟩
    rw [htotal, hacc, hlist, List.tail_cons, totalEffort_cons]
  · rintro ⟨first, rest, hlist, hchecked, hhash, htrunk, hge, htotal⟩
    rw [hlist, totalEffort_cons] at htotal
    obtain ⟨acc, hacc⟩ := U256.exists_toNat_eq_of_le e
      (show effort first ≤ e.toNat by omega)
    refine ⟨first, by rw [hlist]; rfl, hchecked, hhash, acc,
      ⟨hchecked.2.2.1.pow_ne_zero, hacc⟩, e, ⟨htrunk, ?_⟩, hge, rfl⟩
    rw [htotal, hacc, hlist, List.tail_cons]

theorem AcceptedFork.of_checkFork (hok : checkFork keccak args pegoutId = .ok e) :
    AcceptedFork keccak args pegoutId ∧ e.toNat = totalEffort args.blockList := by
  obtain ⟨hversion, ⟨hpos, hthree, hle⟩, first, rest, hlist, ⟨htime, hnumber, heffort, hevent⟩,
    hhash, htrunk, hge, htotal⟩ := checkFork_eq_ok.mp hok
  have hfirst : ∀ b, args.blockList[0]? = some b → b = first := by
    intro b hb
    simpa [hlist, eq_comm] using hb
  -- a counted block is the first one, or was met in the pass over a later one
  have hcounted : ∀ b ∈ countedBlocks args.blockList,
      HashChecked keccak b.header ∧ EffortDefined b := by
    intro b hb
    rcases mem_countedBlocks.mp hb with hb | ⟨i, block, hblock, hb⟩
    · rw [hfirst b hb]
      exact ⟨hhash, heffort⟩
    · obtain ⟨prev, hprev⟩ := exists_getElem?_of_succ hblock
      have hchecked := htrunk i prev block hprev hblock
      rcases hb with rfl | huncle
      · exact ⟨hchecked.hash_checked, hchecked.effort_defined⟩
      · exact (hchecked.uncles b huncle).2
  refine ⟨⟨hversion, hpos, hthree, hle, ?first, fun b hb => (hcounted b hb).1,
    fun i prev block hprev hblock => (htrunk i prev block hprev hblock).continues,
    fun i prev block hprev hblock uncle huncle =>
      ((htrunk i prev block hprev hblock).uncles uncle huncle).1,
    ?events, fun b hb => (hcounted b hb).2, htotal ▸ e.isLt, htotal ▸ hge⟩, htotal⟩
  case first =>
    intro b hb
    rw [hfirst b hb]
    exact ⟨htime, hnumber, hevent⟩
  case events =>
    intro i block hi hblock
    obtain ⟨k, rfl⟩ : ∃ k, i = k + 1 := ⟨i - 1, by omega⟩
    obtain ⟨prev, hprev⟩ := exists_getElem?_of_succ hblock
    exact (htrunk k prev block hprev hblock).carries_event hi

theorem AcceptedFork.checkFork_eq (h : AcceptedFork keccak args pegoutId)
    (htotal : e.toNat = totalEffort args.blockList) :
    checkFork keccak args pegoutId = .ok e := by
  obtain ⟨first, rest, hlist⟩ : ∃ first rest, args.blockList = first :: rest :=
    List.exists_cons_of_length_pos (by have := h.three_le; omega)
  have hfirst : args.blockList[0]? = some first := by rw [hlist]; rfl
  have hmem : first ∈ countedBlocks args.blockList := mem_countedBlocks.mpr (.inl hfirst)
  obtain ⟨htime, hnumber, hevent⟩ := h.first first hfirst
  refine checkFork_eq_ok.mpr ⟨h.version, ⟨h.required_pos, h.three_le, h.required_le⟩, first, rest,
    hlist, ⟨htime, hnumber, h.effort_defined first hmem, hevent⟩, h.hash_checked first hmem, ?_,
    by rw [htotal]; exact h.sum_ge, htotal⟩
  intro i prev block hprev hblock
  have hcounted : ∀ b, b = block ∨ b ∈ block.uncles → b ∈ countedBlocks args.blockList :=
    fun b hb => mem_countedBlocks.mpr (.inr ⟨i, block, hblock, hb⟩)
  refine ⟨h.continues i prev block hprev hblock, h.hash_checked _ (hcounted _ (.inl rfl)),
    h.effort_defined _ (hcounted _ (.inl rfl)), ?_, fun hi => h.events (i + 1) block hi hblock⟩
  intro uncle huncle
  exact ⟨h.siblings i prev block hprev hblock uncle huncle,
    h.hash_checked _ (hcounted _ (.inr huncle)), h.effort_defined _ (hcounted _ (.inr huncle))⟩

/-- **The fork check decides acceptance.** It never panics, and it returns a total exactly when
the fork is accepted; the total is the effort of the counted blocks. -/
theorem checkFork_ok_iff_acceptedFork (keccak : Digest) (args : CheckForkArgs) (pegoutId : H256) :
    NoPanic (checkFork keccak args pegoutId)
      ∧ ∀ e, checkFork keccak args pegoutId = .ok e
        ↔ AcceptedFork keccak args pegoutId ∧ e.toNat = totalEffort args.blockList :=
  ⟨noPanic_checkFork keccak args pegoutId, fun _ =>
    ⟨AcceptedFork.of_checkFork, fun ⟨h, htotal⟩ => h.checkFork_eq htotal⟩⟩

end UnionBridge.CheckFork
