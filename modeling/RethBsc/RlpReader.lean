import RethBsc.Rlp

/-!
Strict readers of RLP.

A reader takes a value off the front of a string of bytes. It accepts one code of each value
only: lengths and numbers have no leading zeros, a short length is not written as a long one,
and one byte below `0x80` has no length in front. A list ends where its length says.
-/

namespace RethBsc

open Rlp List

inductive RlpError
  | overflow | leadingZero | inputTooShort | nonCanonicalSingleByte | nonCanonicalSize
  | unexpectedLength | unexpectedString | unexpectedList
  | listLengthMismatch (expected got : ℕ)
  | custom (message : String)
  deriving DecidableEq

abbrev Reader (α : Type) := StateT (List UInt8) (Except RlpError) α

namespace Reader

variable {α β : Type}

/-- The reader takes the bytes off and returns the value, whatever follows. -/
def Reads (p : Reader α) (bs : List UInt8) (a : α) : Prop := ∀ r, p (bs ++ r) = .ok (a, r)

section Rules

variable {p : Reader α} {f : α → Reader β} {bs bs' : List UInt8} {a : α} {b : β}

lemma bind_apply (p : Reader α) (f : α → Reader β) (bs : List UInt8) :
    (p >>= f) bs = p bs >>= fun e => f e.1 e.2 := rfl

lemma Reads.bind (hp : Reads p bs a) (hf : Reads (f a) bs' b) : Reads (p >>= f) (bs ++ bs') b := by
  intro r
  rw [bind_apply, append_assoc, hp]
  exact hf r

lemma Reads.last (hp : Reads p bs a) (g : α → β) : Reads (p >>= fun x => pure (g x)) bs (g a) := by
  intro r
  rw [bind_apply, hp]
  rfl

def ReadsAll (p : Reader α) (bs : List UInt8) (a : α) : Prop := p bs = .ok (a, [])

lemma Reads.all (hp : Reads p bs a) : ReadsAll p bs a := by
  have h := hp []
  rwa [append_nil] at h

lemma Reads.bind_all (hp : Reads p bs a) (hf : ReadsAll (f a) bs' b) :
    ReadsAll (p >>= f) (bs ++ bs') b := by
  unfold ReadsAll
  rw [bind_apply, hp]
  exact hf

end Rules

/-! ### Heads -/

/-- The number a string without leading zeros spells, in at most so many bytes. -/
def leftPad (width : ℕ) (bs : List UInt8) : Except RlpError ℕ :=
  if width < bs.length then .error .overflow
  else if bs.head? = some 0 then .error .leadingZero
  else .ok (Rlp.ofTrimmed bs)

def withPayload (isList : Bool) (length : ℕ) : Reader (Bool × ℕ) := fun buf =>
  if buf.length < length then .error .inputTooShort else .ok ((isList, length), buf)

/-- Whether a list follows, and the length of the payload. -/
def head : Reader (Bool × ℕ)
  | [] => .error .inputTooShort
  | b :: rest =>
    let n := b.toNat
    if n < 0x80 then .ok ((false, 1), b :: rest)
    else if n < 0xb8 then
      if n = 0x81 then
        match rest with
        | [] => .error .inputTooShort
        | c :: _ => if c < 0x80 then .error .nonCanonicalSingleByte else withPayload false 1 rest
      else withPayload false (n - 0x80) rest
    else if 0xc0 ≤ n ∧ n < 0xf8 then withPayload true (n - 0xc0) rest
    else
      let isList := decide (0xf8 ≤ n)
      let lenOfLen := n - if isList then 0xf7 else 0xb7
      if rest.length < lenOfLen then .error .inputTooShort
      else do
        let length ← leftPad 8 (rest.take lenOfLen)
        if length < 56 then .error .nonCanonicalSize
        else withPayload isList length (rest.drop lenOfLen)

def payload (isList : Bool) : Reader (List UInt8) := do
  let (found, length) ← head
  if found ≠ isList then
    throw (if isList then .unexpectedString else .unexpectedList)
  else fun buf => .ok (buf.take length, buf.drop length)

/-! ### Values -/

/-- A number of so many bytes. -/
def uint (width : ℕ) : Reader ℕ := do
  let bs ← payload false
  liftM (leftPad width bs)

/-- The fields of a list, which must end where they end. -/
def list (fields : Reader α) : Reader α := do
  let (isList, length) ← head
  if !isList then throw .unexpectedString
  else
    let remaining ← List.length <$> get
    let a ← fields
    let left ← List.length <$> get
    if remaining - left ≠ length then throw (.listLengthMismatch length (remaining - left))
    else pure a

/-- A value, if there are bytes left. -/
def optional (p : Reader α) : Reader (Option α) := fun buf =>
  if buf.isEmpty then .ok (none, buf) else (some <$> p) buf

/-- The value that all the bytes stand for, `decode_exact`. -/
def decodeExact (p : Reader α) (bs : List UInt8) : Except RlpError α := do
  let (a, rest) ← p bs
  if rest.isEmpty then .ok a else .error .unexpectedLength

/-! ### What is written is read -/

lemma head?_trimmedBytes (n : ℕ) : (trimmedBytes n).head? ≠ some 0 := by
  intro h
  rw [trimmedBytes, List.head?_map, List.head?_reverse] at h
  obtain ⟨d, hd, hzero⟩ := Option.map_eq_some_iff.mp h
  have hlt : d < 256 := Nat.digits_lt_base (by decide) (mem_of_mem_getLast? hd)
  have hd0 : d = 0 := by
    have hnat := congrArg UInt8.toNat hzero
    rwa [toNat_ofNat_of_lt hlt] at hnat
  have hn : n ≠ 0 := by
    rintro rfl
    simp at hd
  have hlast := Nat.getLast_digit_ne_zero 256 hn
  rw [getLast?_eq_getLast_of_ne_nil (Nat.digits_ne_nil_iff_ne_zero.mpr hn)] at hd
  exact hlast ((Option.some.inj hd).trans hd0)

variable {n : ℕ} {bs : List UInt8} {p : Reader α} {a : α}

lemma leftPad_trimmedBytes {width : ℕ} (h : n < 256 ^ width) :
    leftPad width (trimmedBytes n) = .ok n := by
  have hle := length_trimmedBytes_le h
  rw [leftPad, if_neg (by omega), if_neg (head?_trimmedBytes n), ofTrimmed_trimmedBytes]

/-- The offset of a length in front of a list, or of a string. -/
def offset (isList : Bool) : ℕ := if isList then 0xc0 else 0x80

lemma head_short {isList : Bool} {rest : List UInt8} (hn : n < 56)
    (hself : isList ∨ n ≠ 1 ∨ ∃ c r, rest = c :: r ∧ ¬c < 0x80) :
    head (UInt8.ofNat (offset isList + n) :: rest) = withPayload isList n rest := by
  have hb : (UInt8.ofNat (offset isList + n)).toNat = offset isList + n :=
    toNat_ofNat_of_lt (by cases isList <;> simp only [offset] <;> grind)
  simp only [head, hb]
  cases isList with
  | true =>
    change (if 0xc0 + n < 0x80 then _ else _) = _
    rw [if_neg (by omega), if_neg (by simp [offset]; omega), if_pos (by simp [offset]; omega)]
    simp [offset]
  | false =>
    change (if 0x80 + n < 0x80 then _ else if 0x80 + n < 0xb8 then
      if 0x80 + n = 0x81 then _ else _ else _) = _
    rw [if_neg (by omega), if_pos (by omega)]
    by_cases h1 : n = 1
    · obtain ⟨c, r, rfl, hc⟩ : ∃ c r, rest = c :: r ∧ ¬c < 0x80 := by simpa [h1] using hself
      simp [h1, hc]
    · rw [if_neg (by omega)]
      simp [offset]

lemma head_long {isList : Bool} {k : ℕ} {rest : List UInt8} (h1 : 1 ≤ k) (h8 : k ≤ 8)
    (hrest : k ≤ rest.length) :
    head (UInt8.ofNat (offset isList + 55 + k) :: rest) = (do
      let length ← leftPad 8 (rest.take k)
      if length < 56 then .error .nonCanonicalSize
      else withPayload isList length (rest.drop k)) := by
  have hb : (UInt8.ofNat (offset isList + 55 + k)).toNat = offset isList + 55 + k :=
    toNat_ofNat_of_lt (by cases isList <;> simp only [offset] <;> grind)
  simp only [head, hb]
  cases isList with
  | true =>
    have hk : decide (0xf8 ≤ 0xc0 + 55 + k) = true := by simp; omega
    have hlen : 0xc0 + 55 + k - 0xf7 = k := by omega
    simp only [offset, if_true, hk, hlen]
    rw [if_neg (by omega), if_neg (by omega), if_neg (by omega), if_neg (by omega)]
  | false =>
    have hk : decide (0xf8 ≤ 0x80 + 55 + k) = false := by simp; omega
    have hlen : 0x80 + 55 + k - 0xb7 = k := by omega
    simp only [offset, Bool.false_eq_true, if_false, hk, hlen]
    rw [if_neg (by omega), if_neg (by omega), if_neg (by omega), if_neg (by omega)]

/-- A length in front of its payload is read; a payload of one byte that stands for itself has
none. -/
lemma head_lengthPrefix (isList : Bool) (hlen : bs.length < 2 ^ 64)
    (hself : isList ∨ isSelf bs = false) (r : List UInt8) :
    head (lengthPrefix (offset isList) bs.length ++ (bs ++ r)) =
      .ok ((isList, bs.length), bs ++ r) := by
  have hpay : withPayload isList bs.length (bs ++ r) = .ok ((isList, bs.length), bs ++ r) := by
    rw [withPayload, if_neg (by rw [length_append]; omega)]
  by_cases hshort : bs.length < 56
  · rw [lengthPrefix, if_pos hshort, cons_append, nil_append, head_short hshort ?_, hpay]
    refine hself.imp_right fun hbs => ?_
    rcases bs with _ | ⟨c, _ | ⟨d, bs⟩⟩
    · exact .inl (by simp)
    · exact .inr ⟨c, r, rfl, by simpa [isSelf] using hbs⟩
    · exact .inl (by simp)
  · have hle : (trimmedBytes bs.length).length ≤ 8 := length_trimmedBytes_le (by omega)
    have hpos : 0 < (trimmedBytes bs.length).length := length_trimmedBytes_pos (by omega)
    rw [lengthPrefix, if_neg hshort, cons_append, head_long hpos hle (by simp), take_left,
      drop_left, leftPad_trimmedBytes (by omega)]
    change (if bs.length < 56 then _ else withPayload isList bs.length (bs ++ r)) = _
    rw [if_neg hshort, hpay]

lemma reads_payload {s : List UInt8} (hs : s.length < 2 ^ 64) :
    Reads (payload false) (encodeBytes s) s := by
  intro r
  rw [encodeBytes, payload, bind_apply]
  by_cases hself : isSelf s = true
  · obtain ⟨b, rfl, hb⟩ := isSelf_iff.mp hself
    have hlt : b.toNat < 0x80 := UInt8.lt_iff_toNat_lt.mp hb
    have hhead : head (b :: ([] ++ r)) = .ok ((false, 1), b :: r) := by
      simp only [head, hlt, if_true, nil_append]
    rw [if_pos hself, cons_append, hhead]
    rfl
  · rw [if_neg hself, append_assoc]
    have hhead := head_lengthPrefix false hs (.inr (by simpa using hself)) r
    change (head (lengthPrefix (offset false) s.length ++ (s ++ r)) >>= _) = _
    rw [hhead]
    change Except.ok ((s ++ r).take s.length, (s ++ r).drop s.length) = _
    rw [take_left, drop_left]

lemma reads_uint {width : ℕ} (hn : n < 256 ^ width) (hwidth : width ≤ 32) :
    Reads (uint width) (encodeUint n) n := by
  have h256 : n < 2 ^ 256 := hn.trans_le (by
    rw [show 2 ^ 256 = 256 ^ 32 by decide]
    exact Nat.pow_le_pow_right (by decide) hwidth)
  have hle : (trimmedBytes n).length ≤ 32 := length_trimmedBytes_le (by omega)
  intro r
  rw [encodeUint_eq h256, uint, bind_apply, reads_payload (by omega)]
  change (liftM (leftPad width (trimmedBytes n)) : Reader ℕ) r = _
  rw [leftPad_trimmedBytes hn]
  rfl

lemma encodeBytes_ne_nil (s : List UInt8) : encodeBytes s ≠ [] := by
  rw [encodeBytes]
  split_ifs with h
  · obtain ⟨b, rfl, -⟩ := isSelf_iff.mp h
    exact cons_ne_nil _ _
  · rw [lengthPrefix]
    split_ifs <;> exact cons_ne_nil _ _

lemma Reads.optional (hp : Reads p bs a) (hbs : bs ≠ []) : Reads (optional p) bs (some a) := by
  intro r
  have hne : (bs ++ r).isEmpty = false := by
    rw [isEmpty_eq_false_iff]
    exact append_ne_nil_of_left_ne_nil hbs r
  rw [Reader.optional, hne]
  change (p (bs ++ r) >>= fun e => pure (some e.1, e.2)) = _
  rw [hp r]
  rfl

lemma decodeExact_of_readsAll (h : ReadsAll p bs a) : decodeExact p bs = .ok a := by
  rw [decodeExact, h]
  rfl

def encodeList (bs : List UInt8) : List UInt8 := Rlp.lengthPrefix 0xc0 bs.length ++ bs

lemma reads_payload_list (hlen : bs.length < 2 ^ 64) : Reads (payload true) (encodeList bs) bs := by
  intro r
  have hhead := head_lengthPrefix true hlen (.inl rfl) r
  rw [encodeList, append_assoc, payload, bind_apply]
  change (head (lengthPrefix (offset true) bs.length ++ (bs ++ r)) >>= _) = _
  rw [hhead]
  change Except.ok ((bs ++ r).take bs.length, (bs ++ r).drop bs.length) = _
  rw [take_left, drop_left]

lemma reads_list (hlen : bs.length < 2 ^ 64) (h : Reads p bs a) :
    Reads (list p) (encodeList bs) a := by
  intro r
  have hhead := head_lengthPrefix true hlen (.inl rfl) r
  rw [encodeList, append_assoc, list, bind_apply]
  change (head (lengthPrefix (offset true) bs.length ++ (bs ++ r)) >>= _) = _
  rw [hhead]
  change (p (bs ++ r) >>= fun e => (if (bs ++ r).length - e.2.length ≠ bs.length then
    throw (.listLengthMismatch bs.length ((bs ++ r).length - e.2.length)) else pure e.1 :
      Reader α) e.2) = _
  rw [h r]
  change (if (bs ++ r).length - r.length ≠ bs.length then _ else _ : Reader α) r = _
  rw [if_neg (by simp)]
  rfl

end Reader

end RethBsc
