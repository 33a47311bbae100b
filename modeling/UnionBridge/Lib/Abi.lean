import UnionBridge.Lib.Word256

/-!
# The contract ABI

The standard encoding of a list of arguments that are single words or arrays of words. The heads
come first: a word stands for itself, an array for the offset of its tail, counted from the start of
the arguments. The tails follow in order, each the length of its array and its elements.
-/

namespace UnionBridge.Abi

/-- An argument of a static one-word type, or of the type `T[]` for such a `T`. -/
inductive Value where
  | word (bytes : H256)
  | array (elements : List H256)

/-- An unsigned integer as a word. -/
def uint (n : Nat) : Bytes := toBE 32 n

def tail : Value → Bytes
  | .word _ => []
  | .array elements => uint elements.length ++ elements.flatMap Subtype.val

/-- The heads; `offset` is where the next tail starts. -/
def heads (offset : Nat) : List Value → Bytes
  | [] => []
  | .word bytes :: values => bytes.val ++ heads offset values
  | .array elements :: values =>
    uint offset ++ heads (offset + (tail (.array elements)).length) values

/-- Every head is one word. -/
def encode (values : List Value) : Bytes :=
  heads (32 * values.length) values ++ values.flatMap tail

end UnionBridge.Abi
