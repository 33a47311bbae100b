import UnionBridge.Lib.BigEndian

/-!
# Canonical RLP of byte strings, unsigned integers and flat lists

The encoder writes what `alloy_rlp` documents: a string or list header is one byte for a
payload under 56 bytes and a length-of-length byte followed by the big-endian length
otherwise; a single byte below `0x80` is its own encoding; an unsigned integer is the string
of its big-endian bytes without leading zeroes.

* `decodeString` reads one string off the front of a byte stream. The round trip
  `decodeString_encodeBytes` is the only fact about the byte layout: unique decodability of a
  string (`encodeBytes_append_inj`) and of a whole payload (`flatMap_encodeBytes_inj`) are read
  off it.
* `encodeList_inj` strips the header of a list: the first byte fixes how long the header is,
  so equal lists have equal payloads whatever their lengths are.
-/

namespace UnionBridge.Rlp

/-- The header of a string (`list = false`) or of a list (`list = true`) of `len` payload bytes. -/
def header (list : Bool) (len : Nat) : List UInt8 :=
  if len < 56 then
    [(if list then 0xc0 else 0x80) + UInt8.ofNat len]
  else
    let lenBE := trimZeros (toBE 8 len)
    ((if list then 0xf7 else 0xb7) + UInt8.ofNat lenBE.length) :: lenBE

/-- RLP of a byte string. -/
def encodeBytes (s : List UInt8) : List UInt8 :=
  match s with
  | [b] => if b < 0x80 then [b] else header false 1 ++ [b]
  | s => header false s.length ++ s

/-- RLP of an unsigned integer of `w` bytes. -/
def encodeUint (w n : Nat) : List UInt8 :=
  if n = 0 then [0x80]
  else if n < 0x80 then [UInt8.ofNat n]
  else
    let be := trimZeros (toBE w n)
    (0x80 + UInt8.ofNat be.length) :: be

/-- RLP of a list whose items are already encoded. -/
def encodeList (items : List (List UInt8)) : List UInt8 :=
  header true items.flatten.length ++ items.flatten

/-- Read one string off the front of a byte stream. -/
def decodeString (bs : List UInt8) : Option (List UInt8 × List UInt8) :=
  match bs with
  | [] => none
  | b :: rest =>
    if b < 0x80 then some ([b], rest)
    else if b < 0xb8 then some (rest.splitAt (b.toNat - 0x80))
    else if b < 0xc0 then
      let k := b.toNat - 0xb7
      some ((rest.drop k).splitAt (beNat (rest.take k)))
    else none

/-! ## Headers -/

variable {xs ys : List (List UInt8)} {len : Nat}

theorem header_short (list : Bool) (h : len < 56) :
    header list len = [(if list then 0xc0 else 0x80) + UInt8.ofNat len] := by
  simp [header, h]

theorem header_long (list : Bool) (h : ¬ len < 56) :
    header list len = ((if list then 0xf7 else 0xb7) + UInt8.ofNat (trimZeros (toBE 8 len)).length)
      :: trimZeros (toBE 8 len) := by
  simp [header, h]

/-- A length takes at most eight bytes. -/
theorem lengthBytes_le (len : Nat) : (trimZeros (toBE 8 len)).length ≤ 8 := by
  simpa using length_trimZeros_le (toBE 8 len)

/-- A length of at least 56 that fits in eight bytes takes at least one. -/
theorem lengthBytes_pos (h : ¬ len < 56) (hfit : len < 2 ^ 64) :
    0 < (trimZeros (toBE 8 len)).length := by
  have hval : beNat (trimZeros (toBE 8 len)) = len := by
    rw [beNat_trimZeros, beNat_toBE (by omega)]
  apply List.length_pos_iff.mpr
  intro hnil
  rw [hnil, beNat_nil] at hval
  omega

/-- The number of header bytes after the first one is a function of the first one. -/
theorem header_list_tail_length (len : Nat) :
    ∃ b t, header true len = b :: t ∧ t.length = b.toNat - 0xf7 := by
  by_cases h : len < 56
  · refine ⟨_, [], header_short true h, ?_⟩
    simp only [if_true, List.length_nil, UInt8.toNat_add, UInt8.toNat_ofNat']
    have h8 : len % 2 ^ 8 = len := Nat.mod_eq_of_lt (by omega)
    rw [h8]
    simp only [show UInt8.toNat 192 = 192 from rfl]
    omega
  · refine ⟨_, _, header_long true h, ?_⟩
    have hle := lengthBytes_le len
    generalize (trimZeros (toBE 8 len)).length = k at hle ⊢
    simp only [if_true, UInt8.toNat_add, UInt8.toNat_ofNat', show UInt8.toNat 247 = 247 from rfl]
    omega

/-- Equal lists have equal payloads. -/
theorem encodeList_inj (h : encodeList xs = encodeList ys) : xs.flatten = ys.flatten := by
  obtain ⟨b, t, hx, ht⟩ := header_list_tail_length xs.flatten.length
  obtain ⟨b', t', hy, ht'⟩ := header_list_tail_length ys.flatten.length
  rw [encodeList, encodeList, hx, hy, List.cons_append, List.cons_append] at h
  injection h with hb htail
  subst hb
  exact (List.append_inj htail (by rw [ht, ht'])).2

/-! ## Strings -/

/-- **Round trip.** Reading an encoded string back gives the string and the rest of the stream. -/
theorem decodeString_encodeBytes (s rest : List UInt8) (hs : s.length < 2 ^ 64) :
    decodeString (encodeBytes s ++ rest) = some (s, rest) := by
  -- a string behind a header, whatever its length
  have hheader : decodeString (header false s.length ++ s ++ rest) = some (s, rest) := by
    by_cases hlen : s.length < 56
    · have hb : (0x80 + UInt8.ofNat s.length : UInt8).toNat = 0x80 + s.length := by
        rw [UInt8.toNat_add, UInt8.toNat_ofNat', show UInt8.toNat 0x80 = 0x80 from rfl]
        omega
      rw [header_short false hlen]
      simp only [Bool.false_eq_true, if_false, List.cons_append, List.nil_append, decodeString]
      rw [if_neg (by rw [UInt8.lt_iff_toNat_lt, hb]; simp), if_pos (by
        rw [UInt8.lt_iff_toNat_lt, hb]; simp; omega), hb]
      simp
    · have hle := lengthBytes_le s.length
      have hpos := lengthBytes_pos hlen hs
      have hval : beNat (trimZeros (toBE 8 s.length)) = s.length := by
        rw [beNat_trimZeros, beNat_toBE (by omega)]
      rw [header_long false hlen]
      generalize trimZeros (toBE 8 s.length) = lenBE at hle hpos hval ⊢
      have hb : (0xb7 + UInt8.ofNat lenBE.length : UInt8).toNat = 0xb7 + lenBE.length := by
        rw [UInt8.toNat_add, UInt8.toNat_ofNat', show UInt8.toNat 0xb7 = 0xb7 from rfl]
        omega
      simp only [Bool.false_eq_true, if_false, List.cons_append, decodeString]
      rw [if_neg (by rw [UInt8.lt_iff_toNat_lt, hb]; simp; omega), if_neg (by
        rw [UInt8.lt_iff_toNat_lt, hb]; simp; omega), if_pos (by
        rw [UInt8.lt_iff_toNat_lt, hb]; simp; omega), hb]
      simp [hval]
  match s, hheader with
  | [], hheader => exact hheader
  | [b], hheader =>
    simp only [encodeBytes]
    split
    · next hb => simp [decodeString, hb]
    · exact hheader
  | a :: b :: s, hheader => exact hheader

/-- **A string is self-delimiting.** Equal streams that start with an encoded string start with
the same string and go on alike. -/
theorem encodeBytes_append_inj {a b s t : List UInt8} (ha : a.length < 2 ^ 64)
    (hb : b.length < 2 ^ 64) (h : encodeBytes a ++ s = encodeBytes b ++ t) : a = b ∧ s = t := by
  have hdec := decodeString_encodeBytes a s ha
  rw [h, decodeString_encodeBytes b t hb] at hdec
  injection hdec with hpair
  exact ⟨(congrArg Prod.fst hpair).symm, (congrArg Prod.snd hpair).symm⟩

theorem encodeBytes_ne_nil (s : List UInt8) : encodeBytes s ≠ [] := by
  have hheader : ∀ len, header false len ≠ [] := by
    intro len
    by_cases h : len < 56
    · simp [header_short false h]
    · simp [header_long false h]
  match s with
  | [] => simp [encodeBytes, hheader]
  | [b] =>
    simp only [encodeBytes]
    split <;> simp
  | a :: b :: s => simp [encodeBytes]

/-- **A payload has one reading.** Two sequences of strings with the same concatenated encoding
are equal, also when their numbers of strings are not known to agree. -/
theorem flatMap_encodeBytes_inj
    (hx : ∀ x ∈ xs, x.length < 2 ^ 64) (hy : ∀ y ∈ ys, y.length < 2 ^ 64)
    (h : (xs.map encodeBytes).flatten = (ys.map encodeBytes).flatten) : xs = ys := by
  induction xs generalizing ys with
  | nil =>
    cases ys with
    | nil => rfl
    | cons y ys => simp [encodeBytes_ne_nil] at h
  | cons x xs ih =>
    cases ys with
    | nil => simp [encodeBytes_ne_nil] at h
    | cons y ys =>
      simp only [List.map_cons, List.flatten_cons] at h
      obtain ⟨hxy, hrest⟩ :=
        encodeBytes_append_inj (hx x List.mem_cons_self) (hy y List.mem_cons_self) h
      rw [hxy, ih (fun z hz => hx z (List.mem_cons_of_mem _ hz))
        (fun z hz => hy z (List.mem_cons_of_mem _ hz)) hrest]

/-- A list of strings has one reading. -/
theorem encodeList_encodeBytes_inj
    (hx : ∀ x ∈ xs, x.length < 2 ^ 64) (hy : ∀ y ∈ ys, y.length < 2 ^ 64)
    (h : encodeList (xs.map encodeBytes) = encodeList (ys.map encodeBytes)) : xs = ys :=
  flatMap_encodeBytes_inj hx hy (encodeList_inj h)

/-! ## Unsigned integers -/

/-- An integer is encoded as the string of its trimmed bytes. -/
theorem encodeUint_eq {w n : Nat} (hw : w < 56) (hn : n < 256 ^ w) :
    encodeUint w n = encodeBytes (trimZeros (toBE w n)) := by
  have hval : beNat (trimZeros (toBE w n)) = n := by rw [beNat_trimZeros, beNat_toBE hn]
  have hle : (trimZeros (toBE w n)).length ≤ w := by simpa using length_trimZeros_le (toBE w n)
  have hhead : ∀ b rest, trimZeros (toBE w n) = b :: rest → b.toNat ≠ 0 := by
    intro b rest heq hzero
    exact head_trimZeros_ne_zero heq (UInt8.toNat_inj.mp (by simpa using hzero))
  unfold encodeUint
  generalize trimZeros (toBE w n) = bs at hval hle hhead
  -- the three branches of the integer encoder are the lengths 0, 1 and more of the byte string
  match bs, hval, hle, hhead with
  | [], hval, _, _ =>
    rw [beNat_nil] at hval
    simp [← hval, encodeBytes, header]
  | [b], hval, _, hhead =>
    have hb : n = b.toNat := by simpa [beNat] using hval.symm
    have h0 : b.toNat ≠ 0 := hhead b [] rfl
    subst hb
    by_cases h80 : b < 0x80
    · have hlt : b.toNat < 128 := by simpa [UInt8.lt_iff_toNat_lt] using h80
      simp [h0, hlt, encodeBytes, h80]
    · have hlt : ¬ b.toNat < 128 := by simpa [UInt8.lt_iff_toNat_lt] using h80
      simp [h0, hlt, encodeBytes, h80, header]
  | a :: b :: bs, hval, hle, hhead =>
    have ha : a.toNat ≠ 0 := hhead a (b :: bs) rfl
    have hbig : 256 ≤ n := by
      have hpow : 256 ^ 1 ≤ 256 ^ (b :: bs).length :=
        Nat.pow_le_pow_right (by norm_num) (by simp)
      have hmul : 1 * 256 ^ (b :: bs).length ≤ a.toNat * 256 ^ (b :: bs).length :=
        Nat.mul_le_mul_right _ (by omega)
      rw [← hval, beNat_cons]
      omega
    have hlen : (a :: b :: bs).length < 56 := by omega
    rw [if_neg (by omega), if_neg (by omega), encodeBytes, header_short false hlen]
    · rfl
    · simp

end UnionBridge.Rlp
