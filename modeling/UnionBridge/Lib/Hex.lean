import UnionBridge.Lib.Word256

/-!
# Hexadecimal text

Byte strings as lower-case hexadecimal text, and its reader, which also takes upper-case digits.
Reading what was written gives the bytes back.
-/

namespace UnionBridge.Hex

def digit (n : Nat) : Char := "0123456789abcdef".toList.getD n '0'

def value (c : Char) : Option Nat :=
  if '0' ≤ c ∧ c ≤ '9' then some (c.toNat - '0'.toNat)
  else if 'a' ≤ c ∧ c ≤ 'f' then some (c.toNat - 'a'.toNat + 10)
  else if 'A' ≤ c ∧ c ≤ 'F' then some (c.toNat - 'A'.toNat + 10)
  else none

def encodeByte (b : UInt8) : List Char := [digit (b.toNat / 16), digit (b.toNat % 16)]

def encode (bs : Bytes) : String := String.ofList (bs.flatMap encodeByte)

def decodeChars : List Char → Option Bytes
  | [] => some []
  | [_] => none
  | high :: low :: rest => do
    let h ← value high
    let l ← value low
    let bs ← decodeChars rest
    pure (UInt8.ofNat (h * 16 + l) :: bs)

/-- A leading `0x` is skipped. -/
def decode (text : String) : Option Bytes :=
  match text.toList with
  | '0' :: 'x' :: rest => decodeChars rest
  | chars => decodeChars chars

theorem value_digit {n : Nat} (h : n < 16) : value (digit n) = some n := by
  have hall : ∀ k : Fin 16, value (digit k) = some k.val := by decide
  exact hall ⟨n, h⟩

theorem digit_ne_x {n : Nat} (h : n < 16) : digit n ≠ 'x' := by
  have hall : ∀ k : Fin 16, digit k ≠ 'x' := by decide
  exact hall ⟨n, h⟩

theorem decodeChars_encode (bs : Bytes) : decodeChars (bs.flatMap encodeByte) = some bs := by
  induction bs with
  | nil => rfl
  | cons b bs ih =>
    have hb : b.toNat < 256 := b.toNat_lt
    have hvalue : b.toNat / 16 * 16 + b.toNat % 16 = b.toNat := by omega
    show decodeChars (digit (b.toNat / 16) :: digit (b.toNat % 16) :: bs.flatMap encodeByte)
      = some (b :: bs)
    rw [decodeChars, value_digit (by omega), value_digit (by omega), ih]
    show some (UInt8.ofNat (b.toNat / 16 * 16 + b.toNat % 16) :: bs) = some (b :: bs)
    rw [hvalue, UInt8.ofNat_toNat]

/-- No byte starts with `0x`, so the written text is read as it stands. -/
theorem decode_encode (bs : Bytes) : decode (encode bs) = some bs := by
  have hchars : (encode bs).toList = bs.flatMap encodeByte := String.toList_ofList
  unfold decode
  rw [hchars]
  split
  · next rest heq =>
    cases bs with
    | nil => cases heq
    | cons b bs =>
      have hb : b.toNat < 256 := b.toNat_lt
      have hx : digit (b.toNat % 16) = 'x' := by
        injection heq with _ htail
        injection htail
      exact absurd hx (digit_ne_x (by omega))
  · exact decodeChars_encode bs

end UnionBridge.Hex
