import UnionBridge.Lib.Word256

/-!
# Rootstock blocks as the indexers and the coordinator see them (`common/core/src/types.rs`)

A block with the fields that the modelled code reads: its number, the two hashes, the total
difficulty and the hashes of its uncles. Block numbers are 64-bit, and a block carries the proof.
-/

namespace UnionBridge.Chain

abbrev BlockHash := U256

structure RskBlock where
  number : Nat
  hash : BlockHash
  parentHash : BlockHash
  totalDifficulty : U256
  uncles : List BlockHash
  number_lt : number < 2 ^ 64
deriving DecidableEq

def RskBlock.plain (number : UInt64) (hash parentHash : BlockHash) (totalDifficulty : U256) :
    RskBlock :=
  { number := number.toNat, hash := hash, parentHash := parentHash
    totalDifficulty := totalDifficulty, uncles := [], number_lt := number.toNat_lt }

structure RskBlockAndUncles where
  block : RskBlock
  uncles : List RskBlock
deriving DecidableEq

namespace RskBlockAndUncles

def number (b : RskBlockAndUncles) : Nat := b.block.number

def hash (b : RskBlockAndUncles) : BlockHash := b.block.hash

end RskBlockAndUncles

/-- `p` is the block below `b`. -/
def IsParent (p b : RskBlock) : Prop := p.number + 1 = b.number ∧ b.parentHash = p.hash

end UnionBridge.Chain
