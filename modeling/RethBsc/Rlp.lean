import Mathlib.Data.Nat.Digits.Lemmas

/-!
Self-delimiting codes of single values, and the ones of RLP.

A string of bytes is preceded by its length; one byte below `0x80` stands for itself. Numbers
are strings without leading zeros, and a list is preceded by the length of its payload. Each
code is read back with whatever follows it left over, so that values written one after the
other are determined by the bytes.
-/

namespace RethBsc

open UInt8 List Nat

/-- A code with its announced length, and the values it is meant for. -/
structure FieldCode (α : Type*) where
  encode : α → List UInt8
  length : α → ℕ
  Fits : α → Prop
  length_encode : ∀ a, (encode a).length = length a
  decodable : ∀ {a b r r'}, Fits a → Fits b → encode a ++ r = encode b ++ r' → a = b ∧ r = r'

namespace FieldCode

variable {α β : Type*}

/-- The code of what a value is represented by. -/
def comap (code : FieldCode α) (f : β → α) (hf : Function.Injective f) : FieldCode β where
  encode b := code.encode (f b)
  length b := code.length (f b)
  Fits b := code.Fits (f b)
  length_encode b := code.length_encode (f b)
  decodable ha hb h :=
    let ⟨hab, hr⟩ := code.decodable ha hb h
    ⟨hf hab, hr⟩

/-- One value after the other. -/
def prod (code : FieldCode α) (code' : FieldCode β) : FieldCode (α × β) where
  encode e := code.encode e.1 ++ code'.encode e.2
  length e := code.length e.1 + code'.length e.2
  Fits e := code.Fits e.1 ∧ code'.Fits e.2
  length_encode e := by rw [List.length_append, code.length_encode, code'.length_encode]
  decodable := by
    intro a b r r' ha hb h
    rw [List.append_assoc, List.append_assoc] at h
    obtain ⟨hfst, h⟩ := code.decodable ha.1 hb.1 h
    obtain ⟨hsnd, h⟩ := code'.decodable ha.2 hb.2 h
    exact ⟨Prod.ext hfst hsnd, h⟩

lemma decodable_of_decode {encode : α → List UInt8} {Fits : α → Prop}
    {decode : List UInt8 → Option (α × List UInt8)}
    (h : ∀ a r, Fits a → decode (encode a ++ r) = some (a, r)) {a b : α} {r r' : List UInt8}
    (ha : Fits a) (hb : Fits b) (heq : encode a ++ r = encode b ++ r') : a = b ∧ r = r' := by
  have hread := h a r ha
  rw [heq, h b r' hb] at hread
  cases hread
  exact ⟨rfl, rfl⟩

end FieldCode

/-- Codes of numbers, of strings of bytes and of the head of a list, meant at least for numbers
of 256 bits and for lengths of 64 bits. -/
structure Rlp where
  uint : FieldCode ℕ
  bytes : FieldCode (List UInt8)
  listHead : FieldCode ℕ
  uint_fits : ∀ n, n < 2 ^ 256 → uint.Fits n
  bytes_fits : ∀ s, s.length < 2 ^ 64 → bytes.Fits s
  listHead_fits : ∀ n, n < 2 ^ 64 → listHead.Fits n

namespace Rlp

/-! ### Numbers as bytes -/

/-- The bytes of a number without leading zeros, most significant first. -/
def trimmedBytes (n : ℕ) : List UInt8 := (Nat.digits 256 n).reverse.map UInt8.ofNat

def ofTrimmed (bs : List UInt8) : ℕ := Nat.ofDigits 256 (bs.reverse.map UInt8.toNat)

lemma ofTrimmed_trimmedBytes (n : ℕ) : ofTrimmed (trimmedBytes n) = n := by
  have hid : ∀ d ∈ digits 256 n, (toNat ∘ ofNat) d = d := by
    intro d hd
    have hlt : d < 256 := digits_lt_base (by decide) hd
    simpa using mod_eq_of_lt hlt
  rw [ofTrimmed, trimmedBytes, ← map_reverse, reverse_reverse, map_map,
    map_congr_left hid, map_id', ofDigits_digits]

variable {n : ℕ}

lemma length_trimmedBytes_le {k : ℕ} (h : n < 256 ^ k) : (trimmedBytes n).length ≤ k := by
  rw [trimmedBytes, length_map, length_reverse]
  exact (digits_length_le_iff (by decide) n).mpr h

lemma trimmedBytes_zero : trimmedBytes 0 = [] := by simp [trimmedBytes]

lemma trimmedBytes_of_lt (h0 : 0 < n) (hn : n < 256) : trimmedBytes n = [ofNat n] := by
  rw [trimmedBytes, digits_of_lt 256 n h0.ne' hn]
  rfl

lemma length_trimmedBytes_pos (hn : 0 < n) : 0 < (trimmedBytes n).length := by
  rw [length_pos_iff]
  intro hnil
  have hzero := ofTrimmed_trimmedBytes n
  rw [hnil] at hzero
  have h0 : ofTrimmed [] = 0 := rfl
  omega

/-! ### The length in front -/

/-- Up to 55 in one byte; above, the length of the length and the length. -/
def lengthPrefix (offset n : ℕ) : List UInt8 :=
  if n < 56 then [UInt8.ofNat (offset + n)]
  else UInt8.ofNat (offset + 55 + (trimmedBytes n).length) :: trimmedBytes n

def lengthOfLength (n : ℕ) : ℕ := if n < 56 then 1 else 1 + (trimmedBytes n).length

lemma length_lengthPrefix (offset n : ℕ) : (lengthPrefix offset n).length = lengthOfLength n := by
  rw [lengthPrefix, lengthOfLength]
  split_ifs
  · rfl
  · rw [length_cons, add_comm]

def readPrefix (offset : ℕ) : List UInt8 → Option (ℕ × List UInt8)
  | [] => none
  | b :: r =>
    let k := b.toNat - offset
    if k < 56 then some (k, r) else some (ofTrimmed (r.take (k - 55)), r.drop (k - 55))

lemma toNat_ofNat_of_lt (h : n < 256) : (ofNat n).toNat = n := by
  simpa using mod_eq_of_lt h

lemma readPrefix_lengthPrefix {offset : ℕ} (hoffset : offset ≤ 192) (hn : n < 2 ^ 64)
    (r : List UInt8) : readPrefix offset (lengthPrefix offset n ++ r) = some (n, r) := by
  by_cases hshort : n < 56
  · have hbyte : (ofNat (offset + n)).toNat = offset + n := toNat_ofNat_of_lt (by omega)
    have hk : offset + n - offset = n := by omega
    rw [lengthPrefix, if_pos hshort, cons_append, nil_append, readPrefix]
    simp only [hbyte, hk, if_pos hshort]
  · have hle : (trimmedBytes n).length ≤ 8 := length_trimmedBytes_le (by omega)
    have hpos : 0 < (trimmedBytes n).length := length_trimmedBytes_pos (by omega)
    have hbyte : (ofNat (offset + 55 + (trimmedBytes n).length)).toNat =
        offset + 55 + (trimmedBytes n).length := toNat_ofNat_of_lt (by omega)
    have hk : ¬offset + 55 + (trimmedBytes n).length - offset < 56 := by omega
    have hlen : offset + 55 + (trimmedBytes n).length - offset - 55 = (trimmedBytes n).length := by
      omega
    rw [lengthPrefix, if_neg hshort, cons_append, readPrefix]
    simp only [hbyte, if_neg hk, hlen, take_left', drop_left', ofTrimmed_trimmedBytes]

/-! ### Strings -/

/-- Whether a string is one byte that stands for itself. -/
def isSelf : List UInt8 → Bool
  | [b] => decide (b < 0x80)
  | _ => false

def encodeBytes (s : List UInt8) : List UInt8 :=
  if isSelf s then s else lengthPrefix 0x80 s.length ++ s

def bytesLength (s : List UInt8) : ℕ := if isSelf s then 1 else s.length + lengthOfLength s.length

lemma isSelf_iff {s : List UInt8} : isSelf s ↔ ∃ b, s = [b] ∧ b < 0x80 := by
  unfold isSelf
  split
  · next b => simp
  · next h =>
    simp only [Bool.false_eq_true, false_iff]
    rintro ⟨b, rfl, -⟩
    exact h b rfl

lemma length_encodeBytes (s : List UInt8) : (encodeBytes s).length = bytesLength s := by
  rw [encodeBytes, bytesLength]
  split_ifs with h
  · obtain ⟨b, rfl, -⟩ := isSelf_iff.mp h
    rfl
  · rw [length_append, length_lengthPrefix, add_comm]

def readBytes : List UInt8 → Option (List UInt8 × List UInt8)
  | [] => none
  | b :: r =>
    if b < 0x80 then some ([b], r)
    else (readPrefix 0x80 (b :: r)).map fun e => (e.2.take e.1, e.2.drop e.1)

lemma lengthPrefix_eq_cons (hn : n < 2 ^ 64) : ∃ b r, lengthPrefix 0x80 n = b :: r ∧ ¬b < 0x80 := by
  have hbyte : ∀ k, k < 128 → ¬ofNat (0x80 + k) < 0x80 := by
    intro k hk hlt
    have hnat := lt_iff_toNat_lt.mp hlt
    rw [toNat_ofNat_of_lt (by omega)] at hnat
    change 128 + k < 128 at hnat
    omega
  rw [lengthPrefix]
  split_ifs with hshort
  · exact ⟨_, _, rfl, hbyte n (by omega)⟩
  · have hle : (trimmedBytes n).length ≤ 8 := length_trimmedBytes_le (by omega)
    refine ⟨_, _, rfl, ?_⟩
    rw [add_assoc]
    exact hbyte _ (by omega)

/-- **A string is read back** from in front of whatever follows it. -/
theorem readBytes_encodeBytes {s : List UInt8} (hs : s.length < 2 ^ 64) (r : List UInt8) :
    readBytes (encodeBytes s ++ r) = some (s, r) := by
  rw [encodeBytes]
  split_ifs with h
  · obtain ⟨b, rfl, hb⟩ := isSelf_iff.mp h
    simp [readBytes, hb]
  · obtain ⟨b, rest, hcons, hb⟩ := lengthPrefix_eq_cons hs
    have hread := readPrefix_lengthPrefix (show 0x80 ≤ 192 by decide) hs (s ++ r)
    rw [append_assoc]
    rw [hcons, cons_append] at hread ⊢
    rw [readBytes, if_neg hb, hread]
    simp

/-! ### Numbers -/

def encodeUint (n : ℕ) : List UInt8 :=
  if 0 < n ∧ n < 0x80 then [UInt8.ofNat n]
  else UInt8.ofNat (0x80 + (trimmedBytes n).length) :: trimmedBytes n

def uintLength (n : ℕ) : ℕ := if n < 0x80 then 1 else 1 + (trimmedBytes n).length

lemma length_encodeUint (n : ℕ) : (encodeUint n).length = uintLength n := by
  rw [encodeUint, uintLength]
  by_cases h0 : n = 0
  · simp [h0, trimmedBytes_zero]
  · by_cases hn : n < 0x80
    · simp [pos_of_ne_zero h0, hn]
    · simp [hn, add_comm]

lemma encodeUint_eq (hn : n < 2 ^ 256) : encodeUint n = encodeBytes (trimmedBytes n) := by
  have hle : (trimmedBytes n).length ≤ 32 := length_trimmedBytes_le (by
    rwa [show 256 ^ 32 = 2 ^ 256 from rfl])
  rw [encodeUint, encodeBytes]
  by_cases hself : 0 < n ∧ n < 0x80
  · have hbytes := trimmedBytes_of_lt hself.1 (by omega)
    have hlt : ofNat n < 0x80 := by
      rw [lt_iff_toNat_lt, toNat_ofNat_of_lt (by omega)]
      exact hself.2
    rw [if_pos hself, hbytes, if_pos (isSelf_iff.mpr ⟨_, rfl, hlt⟩)]
  · have hno : ¬isSelf (trimmedBytes n) := by
      intro h
      obtain ⟨b, hb, hlt⟩ := isSelf_iff.mp h
      have hval : n = b.toNat := by
        rw [← ofTrimmed_trimmedBytes n, hb]
        simp [ofTrimmed]
      have hpos : 0 < n := by
        rw [pos_iff_ne_zero]
        rintro rfl
        rw [trimmedBytes_zero] at hb
        cases hb
      exact hself ⟨hpos, hval ▸ lt_iff_toNat_lt.mp hlt⟩
    rw [if_neg hself, if_neg hno, lengthPrefix, if_pos (by omega)]
    rfl

def readUint (bs : List UInt8) : Option (ℕ × List UInt8) :=
  (readBytes bs).map fun e => (ofTrimmed e.1, e.2)

/-- **A number is read back** from in front of whatever follows it. -/
theorem readUint_encodeUint (hn : n < 2 ^ 256) (r : List UInt8) :
    readUint (encodeUint n ++ r) = some (n, r) := by
  have hle : (trimmedBytes n).length ≤ 32 := length_trimmedBytes_le (by omega)
  rw [readUint, encodeUint_eq hn, readBytes_encodeBytes (by omega), Option.map_some,
    ofTrimmed_trimmedBytes]

/-- **RLP**, for numbers of 256 bits and strings and lists whose length is a `u64`. -/
def standard : Rlp where
  uint :=
    { encode := encodeUint
      length := uintLength
      Fits := fun n => n < 2 ^ 256
      length_encode := length_encodeUint
      decodable := FieldCode.decodable_of_decode fun _ r hn => readUint_encodeUint hn r }
  bytes :=
    { encode := encodeBytes
      length := bytesLength
      Fits := fun s => s.length < 2 ^ 64
      length_encode := length_encodeBytes
      decodable := FieldCode.decodable_of_decode fun _ r hs => readBytes_encodeBytes hs r }
  listHead :=
    { encode := lengthPrefix 0xc0
      length := lengthOfLength
      Fits := fun n => n < 2 ^ 64
      length_encode := length_lengthPrefix 0xc0
      decodable := FieldCode.decodable_of_decode fun _ r hn =>
        readPrefix_lengthPrefix (by decide) hn r }
  uint_fits _ hn := hn
  bytes_fits _ hs := hs
  listHead_fits _ hn := hn

end Rlp

end RethBsc
