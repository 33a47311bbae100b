import UnionBridge.Lib.Word256

/-!
# Keccak-256

The Keccak[1600] sponge with rate 1088 and the original `0x01` domain padding. The state is one
natural number below `2 ^ 1600`: lane `(x, y)` is its 64-bit digit `x + 5 * y`. Absorbing a block is
then one exclusive or with its little-endian value, and the whole function evaluates in the kernel.

Results about hashed data take the digest as a parameter; this function is the instance at which
they are applied to concrete data.
-/

namespace UnionBridge.Keccak

/-- Rotate a 64-bit lane to the left. -/
def rotl (x n : Nat) : Nat := ((x <<< n) ||| (x >>> (64 - n))) % 2 ^ 64

/-- Lane `i` of a state. -/
def lane (a i : Nat) : Nat := (a >>> (64 * i)) % 2 ^ 64

/-- The state with the given lanes, lane 0 first. -/
def ofLanes (lanes : List Nat) : Nat := lanes.foldr (fun l acc => acc <<< 64 ||| l) 0

/-- Plane `y`: its five lanes as one number. -/
def plane (a y : Nat) : Nat := (a >>> (320 * y)) % 2 ^ 320

def roundConstants : List Nat :=
  [0x0000000000000001, 0x0000000000008082, 0x800000000000808A, 0x8000000080008000,
   0x000000000000808B, 0x0000000080000001, 0x8000000080008081, 0x8000000000008009,
   0x000000000000008A, 0x0000000000000088, 0x0000000080008009, 0x000000008000000A,
   0x000000008000808B, 0x800000000000008B, 0x8000000000008089, 0x8000000000008003,
   0x8000000000008002, 0x8000000000000080, 0x000000000000800A, 0x800000008000000A,
   0x8000000080008081, 0x8000000000008080, 0x0000000080000001, 0x8000000080008008]

/-- For each lane of the result of rho and pi: the lane it comes from and its rotation. -/
def rhoPiSources : List (Nat × Nat) :=
  [(0, 0), (6, 44), (12, 43), (18, 21), (24, 14), (3, 28), (9, 20), (10, 3), (16, 45),
   (22, 61), (1, 1), (7, 6), (13, 25), (19, 8), (20, 18), (4, 27), (5, 36), (11, 10),
   (17, 15), (23, 56), (2, 62), (8, 55), (14, 39), (15, 41), (21, 2)]

def theta (a : Nat) : Nat :=
  let c := plane a 0 ^^^ plane a 1 ^^^ plane a 2 ^^^ plane a 3 ^^^ plane a 4
  let d := ofLanes ([0, 1, 2, 3, 4].map fun x =>
    lane c ((x + 4) % 5) ^^^ rotl (lane c ((x + 1) % 5)) 1)
  -- the same five lanes on every plane
  a ^^^ (d ||| d <<< 320 ||| d <<< 640 ||| d <<< 960 ||| d <<< 1280)

def rhoPi (a : Nat) : Nat :=
  ofLanes (rhoPiSources.map fun p => rotl (lane a p.1) p.2)

/-- A plane with its lanes moved down by `k`: lane `x` of the result is lane `x + k`. -/
def shiftLanes (p k : Nat) : Nat := (p >>> (64 * k) ||| p <<< (64 * (5 - k))) % 2 ^ 320

def chiPlane (p : Nat) : Nat :=
  p ^^^ (((2 ^ 320 - 1) ^^^ shiftLanes p 1) &&& shiftLanes p 2)

def chi (a : Nat) : Nat :=
  chiPlane (plane a 0) ||| chiPlane (plane a 1) <<< 320 ||| chiPlane (plane a 2) <<< 640
    ||| chiPlane (plane a 3) <<< 960 ||| chiPlane (plane a 4) <<< 1280

/-- The permutation. -/
def keccakF (a : Nat) : Nat :=
  roundConstants.foldl (fun a rc => chi (rhoPi (theta a)) ^^^ rc) a

/-- The first `k` pieces of `n` bytes. -/
def pieces (n : Nat) : Nat → Bytes → List Bytes
  | 0, _ => []
  | k + 1, bs => bs.take n :: pieces n k (bs.drop n)

/-- The value of a little-endian byte string. -/
def leNat (bs : Bytes) : Nat := bs.foldr (fun b acc => acc * 256 + b.toNat) 0

/-- The low `w` bytes of `n`, least significant byte first. -/
def toLE : Nat → Nat → Bytes
  | 0, _ => []
  | w + 1, n => UInt8.ofNat (n % 256) :: toLE w (n / 256)

/-- The number of bytes absorbed at a time. -/
def rate : Nat := 136

/-- Pad to a multiple of the rate. -/
def pad (bs : Bytes) : Bytes :=
  let q := rate - bs.length % rate
  if q = 1 then bs ++ [0x81] else bs ++ [0x01] ++ List.replicate (q - 2) 0 ++ [0x80]

def absorb (a : Nat) (block : Bytes) : Nat := keccakF (a ^^^ leNat block)

@[simp] theorem length_toLE (w n : Nat) : (toLE w n).length = w := by
  induction w generalizing n with
  | zero => rfl
  | succ w ih => simp [toLE, ih]

/-- Keccak-256 of a byte string. -/
def keccak256 : Digest := fun bs =>
  let padded := pad bs
  let final := (pieces rate (padded.length / rate) padded).foldl absorb 0
  ⟨toLE 32 final, length_toLE 32 final⟩

example : beNat (keccak256 []).val
    = 0xc5d2460186f7233c927e7db2dcc703c0e500b653ca82273b7bfad8045d85a470 := by
  decide +kernel

end UnionBridge.Keccak
