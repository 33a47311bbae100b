import UnionBridge.CheckFork.Header

/-!
# The fork check (`check-fork/src/lib.rs`)

`checkFork` and the functions it calls, in the order and with the messages of the source. A fork
is a list of consecutive trunk blocks, each with the uncles it references; every block carries its
proof of work next to its header. The functions that return `Result` return an `Outcome`, and a
slice access that leaves its slice panics.
-/

namespace UnionBridge.CheckFork

open Outcome

def SUPERBLOCK_TIMES_DIFFICULTY : UInt8 := 20
def PEGOUT_ID_VERSION : UInt8 := 1

inductive RskBlock where
  | mk (uncles : List RskBlock) (pow : H256) (header : RskBlockHeader)

namespace RskBlock

def uncles : RskBlock → List RskBlock
  | mk uncles _ _ => uncles

def pow : RskBlock → H256
  | mk _ pow _ => pow

def header : RskBlock → RskBlockHeader
  | mk _ _ header => header

end RskBlock

structure CheckForkArgs where
  pegoutIdVersion : UInt8
  sequenceNumber : U256
  streamId : UInt64
  packetNumber : UInt64
  slotId : UInt64
  operatorTakePubkeyParity : UInt8
  operatorTakePubkeyXonly : FixedBytes 32
  bestBlockHash : H256
  initBlockTime : UInt64
  initBlockNumber : UInt64
  requiredEffort : U256
  requiredNumBlocks : UInt32
  blockList : List RskBlock

/-- The base event that requests the peg-out is the peg-out id itself. -/
def buildPegoutBaseEventFromId (pegoutId : H256) : FixedBytes 32 := pegoutId

variable (block : RskBlock) (expectedBaseEvent : FixedBytes 32)

def calculateBlockEffort : Outcome U256 :=
  okOr "0 division on calculate_block_effort"
    (U256.checkedDiv U256.max (U256.fromBigEndian block.pow.val))

def accumulateEffort (cumulativeEffort : U256) (block : RskBlock) : Outcome U256 := do
  let effort ← calculateBlockEffort block
  okOr "Overflow occurred adding block's PoW" (U256.checkedAdd cumulativeEffort effort)

def validateBlockList (requiredNumBlocks : UInt32) (blockList : List RskBlock) : Outcome Unit :=
  if requiredNumBlocks < 1 then
    fail "Invalid number of required blocks"
  else if blockList.length < 3 then
    fail "Check-fork requires at least one continuation block with the PegOutID base event"
  else if blockList.length < requiredNumBlocks.toNat then
    fail "Insufficient number of blocks"
  else
    .ok ()

/-- The comparison decides nothing: both branches return `Ok`. -/
def validateEnoughEffortSuperblock (_blockType : String) : Outcome Unit := do
  let expectedEffort ← okOr "Overflow occurred multiplying difficulty by times"
    (U256.checkedMul block.header.difficulty
      (BitVec.ofNat 256 SUPERBLOCK_TIMES_DIFFICULTY.toNat))
  let actualEffort ← calculateBlockEffort block
  if actualEffort ≥ expectedEffort then
    .ok ()
  else
    .ok ()

def containsMatchingPegoutEvent : Bool :=
  match block.header.baseEvent with
  | none => false
  | some event => event.val == expectedBaseEvent.val

def validateFirstBlock (initBlockTime initBlockNumber : UInt64)
    (expectedBaseEvent : FixedBytes 32) : Outcome Unit :=
  if block.header.timestamp < initBlockTime then
    fail "First block timestamp lower than expected"
  else if block.header.number < initBlockNumber then
    fail "First block number lower than expected"
  else do
    validateEnoughEffortSuperblock block "first"
    if containsMatchingPegoutEvent block expectedBaseEvent then
      fail "First block must not contain the PegOutID base event"
    else
      .ok ()

def validateRequiredPegoutEvent : Outcome Unit :=
  if containsMatchingPegoutEvent block expectedBaseEvent then
    .ok ()
  else
    fail "Continuation block is missing the expected PegOutID base event"

def validateDifficultyInBounds (block prevBlock : RskBlock) : Outcome Unit :=
  let maxDelta := prevBlock.header.difficulty / 400
  let lowerBound := U256.saturatingSub prevBlock.header.difficulty maxDelta
  let upperBound := U256.saturatingAdd prevBlock.header.difficulty maxDelta
  let inBounds := lowerBound ≤ block.header.difficulty ∧ block.header.difficulty ≤ upperBound
  if inBounds then
    .ok ()
  else
    fail "Consecutive Block difficulty is out of bounds"

/-- `number.checked_add(1)`. -/
def checkedSucc (n : UInt64) : Option UInt64 :=
  if n.toNat + 1 < 2 ^ 64 then some (n + 1) else none

def validateConsecutiveBlock (block prevBlock : RskBlock) : Outcome Unit :=
  if block.header.timestamp ≤ prevBlock.header.timestamp then
    fail "Block Timestamp is not increasing"
  else do
    let expectedNextNumber ← okOr "Overflow incrementing previous block number"
      (checkedSucc prevBlock.header.number)
    if block.header.number ≠ expectedNextNumber then
      fail "Block numbers are not consecutive"
    else if block.header.parent ≠ prevBlock.header.hash then
      fail "Invalid parent linkage between blocks"
    else do
      validateEnoughEffortSuperblock block "consecutive"
      validateDifficultyInBounds block prevBlock

variable (keccak : Digest) (header : RskBlockHeader)

def validateBlockHash : Outcome Unit :=
  if header.baseEvent.isSome ∧ header.version ≠ RSK_HEADER_EXTENSION_TYPE_V2 then
    fail "Block with base event must use header version 2"
  else do
    let actualHash ← header.calculateBlockHash keccak
    if header.hash ≠ actualHash then
      fail "Block header hash is not matching"
    else
      .ok ()

def validateUncle (trunkBlock uncle : RskBlock) : Outcome Unit :=
  if uncle.header.number ≠ trunkBlock.header.number then
    fail "Uncle's block number does not match trunk block number"
  else if uncle.header.parent ≠ trunkBlock.header.parent then
    fail "Uncle's parent does not match trunk block's parent"
  else if uncle.header.difficulty ≠ trunkBlock.header.difficulty then
    fail "Uncle's difficulty does not match trunk block's difficulty"
  else do
    validateBlockHash keccak uncle.header
    validateEnoughEffortSuperblock uncle "uncle"

/-- The body of the loop over the uncles of a block. -/
def uncleStep (prevBlock : RskBlock) (cumulativeEffort : U256)
    (uncle : RskBlock) : Outcome U256 := do
  validateUncle keccak prevBlock uncle
  accumulateEffort cumulativeEffort uncle

/-- The body of the loop `for i in 1..block_list.len()`. -/
def trunkStep (blockList : List RskBlock) (expectedBaseEvent : FixedBytes 32)
    (cumulativeEffort : U256) (i : Nat) : Outcome U256 := do
  let block ← index blockList i
  let prevBlock ← index blockList (i - 1)
  validateConsecutiveBlock block prevBlock
  validateBlockHash keccak block.header
  let cumulativeEffort ← accumulateEffort cumulativeEffort block
  let cumulativeEffort ← block.uncles.foldlM (uncleStep keccak prevBlock) cumulativeEffort
  if i ≥ 2 then
    validateRequiredPegoutEvent block expectedBaseEvent
    pure cumulativeEffort
  else
    pure cumulativeEffort

def checkFork (args : CheckForkArgs) (pegoutId : H256) : Outcome U256 :=
  let expectedBaseEvent := buildPegoutBaseEventFromId pegoutId
  if args.pegoutIdVersion ≠ PEGOUT_ID_VERSION then
    fail "PegOutID version does not match contract ABI"
  else do
    validateBlockList args.requiredNumBlocks args.blockList
    let firstBlock ← index args.blockList 0
    validateFirstBlock firstBlock args.initBlockTime args.initBlockNumber expectedBaseEvent
    validateBlockHash keccak firstBlock.header
    let cumulativeEffort ← accumulateEffort 0 firstBlock
    let cumulativeEffort ← (List.range' 1 (args.blockList.length - 1)).foldlM
      (trunkStep keccak args.blockList expectedBaseEvent) cumulativeEffort
    if cumulativeEffort < args.requiredEffort then
      fail "Cumulative PoW does not meet the required threshold"
    else
      .ok cumulativeEffort

/-! ## Panics

Every index of the loop lies in the list, and the first access comes after the length check. -/

theorem noPanic_validateEnoughEffortSuperblock (ty : String) :
    NoPanic (validateEnoughEffortSuperblock block ty) := by
  refine noPanic_bind (noPanic_okOr _ _) fun expected _ => ?_
  refine noPanic_bind (noPanic_okOr _ _) fun actual _ => ?_
  split <;> exact noPanic_ok _

theorem noPanic_accumulateEffort (acc : U256) (block : RskBlock) :
    NoPanic (accumulateEffort acc block) :=
  noPanic_bind (noPanic_okOr _ _) fun _ _ => noPanic_okOr _ _

theorem noPanic_validateBlockHash : NoPanic (validateBlockHash keccak header) :=
  noPanic_guard (noPanic_bind (header.noPanic_calculateBlockHash keccak) fun _ _ =>
    noPanic_guard (noPanic_ok _))

theorem noPanic_uncleStep (prev : RskBlock) (acc : U256) (uncle : RskBlock) :
    NoPanic (uncleStep keccak prev acc uncle) := by
  refine noPanic_bind ?_ fun _ _ => noPanic_accumulateEffort acc uncle
  refine noPanic_guard (noPanic_guard (noPanic_guard ?_))
  exact noPanic_bind (noPanic_validateBlockHash keccak _) fun _ _ =>
    noPanic_validateEnoughEffortSuperblock _ _

theorem noPanic_trunkStep {blockList : List RskBlock} (event : FixedBytes 32)
    (acc : U256) {i : Nat} (hi : i < blockList.length) :
    NoPanic (trunkStep keccak blockList event acc i) := by
  refine noPanic_bind (noPanic_index hi) fun block _ => ?_
  refine noPanic_bind (noPanic_index (by omega)) fun prev _ => ?_
  refine noPanic_bind ?_ fun _ _ => ?_
  · refine noPanic_guard (noPanic_bind (noPanic_okOr _ _) fun _ _ => ?_)
    refine noPanic_guard (noPanic_guard ?_)
    exact noPanic_bind (noPanic_validateEnoughEffortSuperblock _ _) fun _ _ => noPanic_ensure _
  refine noPanic_bind (noPanic_validateBlockHash keccak _) fun _ _ => ?_
  refine noPanic_bind (noPanic_accumulateEffort acc block) fun acc' _ => ?_
  refine noPanic_bind (foldlM_noPanic (fun u _ b => noPanic_uncleStep keccak prev b u) acc')
    fun acc'' _ => ?_
  split
  · exact noPanic_bind (noPanic_ensure _) fun _ _ => noPanic_ok _
  · exact noPanic_ok _

theorem validateBlockList_eq_ok {required : UInt32} {blockList : List RskBlock} {u : Unit} :
    validateBlockList required blockList = .ok u ↔ 1 ≤ required.toNat
      ∧ 3 ≤ blockList.length ∧ required.toNat ≤ blockList.length := by
  have hone : required < 1 ↔ required.toNat < 1 := by
    rw [UInt32.lt_iff_toNat_lt]; rfl
  unfold validateBlockList
  rw [guard_eq_ok, guard_eq_ok, guard_eq_ok, hone]
  simp only [not_lt, and_true]

theorem noPanic_checkFork (args : CheckForkArgs) (pegoutId : H256) :
    NoPanic (checkFork keccak args pegoutId) := by
  refine noPanic_guard (noPanic_bind ?_ fun u hlist => ?_)
  · exact noPanic_guard (noPanic_guard (noPanic_guard (noPanic_ok _)))
  obtain ⟨_, hthree, _⟩ := validateBlockList_eq_ok.mp hlist
  refine noPanic_bind (noPanic_index (by omega)) fun first _ => ?_
  refine noPanic_bind ?_ fun _ _ => ?_
  · refine noPanic_guard (noPanic_guard ?_)
    exact noPanic_bind (noPanic_validateEnoughEffortSuperblock _ _) fun _ _ =>
      noPanic_guard (noPanic_ok _)
  refine noPanic_bind (noPanic_validateBlockHash keccak _) fun _ _ => ?_
  refine noPanic_bind (noPanic_accumulateEffort 0 first) fun acc _ => ?_
  refine noPanic_bind (foldlM_noPanic (fun i hi b => ?_) acc) fun total _ => ?_
  · rw [List.mem_range'_1] at hi
    exact noPanic_trunkStep keccak _ b (by omega)
  · exact noPanic_guard (noPanic_ok _)

end UnionBridge.CheckFork
