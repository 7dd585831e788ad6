import RethBsc.Cas20.Signatures
import RethBsc.HeaderValidation

/-!
Call data and return data of the CAS20 precompiles: decoding as Solidity's external decoder does
it, the encoders of return values, events and custom errors, and the ways a handler can fail.

`B256` and `U256` are one type here, and `u64_from_word` and the address decoder look at the
number a word spells: its high bytes are zero exactly if that number is small.
-/

namespace RethBsc.Cas20

abbrev U256 := BitVec 256
abbrev U64 := BitVec 64

/-! ### Words -/

def B256.fromSlice (bs : Bytes) : B256 := BitVec.ofNat 256 (beNat bs)

def addrKey (a : Address) : B256 := BitVec.ofNat 256 a.val

variable (w : B256)

/-- `Address::from_word`: the last 20 bytes. -/
def Address.fromWord : Address := Fin.ofNat (2 ^ 160) w.toNat

def wU64 (v : U64) : B256 := v.setWidth 256

def wU8 (v : ℕ) : B256 := BitVec.ofNat 256 v

lemma toNat_addrKey (a : Address) : (addrKey a).toNat = a.val := by
  have ha : a.val < 2 ^ 256 := lt_trans a.isLt (Nat.pow_lt_pow_right (by decide) (by decide))
  rw [addrKey, BitVec.toNat_ofNat, Nat.mod_eq_of_lt ha]

lemma Address.fromWord_addrKey (a : Address) : Address.fromWord (addrKey a) = a := by
  apply Fin.ext
  rw [Address.fromWord, toNat_addrKey, Fin.val_ofNat, Nat.mod_eq_of_lt a.isLt]

lemma addrKey_injective : Function.Injective addrKey :=
  Function.LeftInverse.injective Address.fromWord_addrKey

@[simp] lemma addrKey_inj {a b : Address} : addrKey a = addrKey b ↔ a = b :=
  addrKey_injective.eq_iff

@[simp] lemma wU64_inj {a b : U64} : wU64 a = wU64 b ↔ a = b := by
  refine ⟨fun h => ?_, fun h => h ▸ rfl⟩
  have := congrArg BitVec.toNat h
  simp only [wU64, BitVec.toNat_setWidth] at this
  apply BitVec.eq_of_toNat_eq
  omega

@[simp] lemma asSlice_inj {v w : B256} : B256.asSlice v = B256.asSlice w ↔ v = w := by
  refine ⟨fun h => ?_, fun h => h ▸ rfl⟩
  have := congrArg beNat h
  rw [B256.asSlice, B256.asSlice, beNat_wordBytes_of_lt v.isLt,
    beNat_wordBytes_of_lt w.isLt] at this
  exact BitVec.eq_of_toNat_eq this

/-! ### Encoding -/

def encU256 (v : U256) : Bytes := B256.asSlice v

def encWord : Bytes := B256.asSlice w

def encBool (b : Bool) : Bytes := B256.asSlice (if b then 1 else 0)

inductive AbiPart
  | word (w : B256)
  | dynamic (tail : Bytes)

def abiBytes (b : Bytes) : AbiPart :=
  .dynamic (wordBytes 32 b.length ++ b ++ List.replicate ((b.length + 31) / 32 * 32 - b.length) 0)

def abiString (s : Bytes) : AbiPart := abiBytes s

def abiWordArray (words : List B256) : AbiPart :=
  .dynamic (wordBytes 32 words.length ++ words.flatMap B256.asSlice)

/-- The heads, then the tails; a dynamic part's head is the offset of its tail. -/
def encodeTuple (parts : List AbiPart) : Bytes :=
  let step := fun (acc : Bytes × Bytes) (p : AbiPart) =>
    match p with
    | .word w => (acc.1 ++ B256.asSlice w, acc.2)
    | .dynamic t => (acc.1 ++ wordBytes 32 (32 * parts.length + acc.2.length), acc.2 ++ t)
  let out := parts.foldl step ([], [])
  out.1 ++ out.2

def abiEncodeStruct (members : List AbiPart) : Bytes := encodeTuple [.dynamic (encodeTuple members)]

def encString (s : Bytes) : Bytes := encodeTuple [abiString s]

/-! ### Failures -/

inductive Cas20Err
  | revert (data : Bytes)
  | outOfGas
  | writeProtection
  | delegateCall
  deriving DecidableEq

/-- The empty revert: malformed call data, an unknown selector, a failed internal call. -/
def revert : Cas20Err := .revert []

def ErrorCode.bytes (e : ErrorCode) : Bytes := wordBytes 4 e.code.toNat

def rev (e : ErrorCode) (words : List B256) : Cas20Err :=
  .revert (e.bytes ++ words.flatMap B256.asSlice)

def revBytes (e : ErrorCode) (payload : Bytes) : Cas20Err :=
  .revert (e.bytes ++ encodeTuple [abiBytes payload])

def revStringBytes (e : ErrorCode) (key value : Bytes) : Cas20Err :=
  .revert (e.bytes ++ encodeTuple [abiString key, abiBytes value])

def revPanic (code : ℕ) : Cas20Err := rev .panic [wU8 code]

/-! ### Decoding -/

/-- `ok_or_else(revert)`. -/
def orRevert {α : Type} : Option α → Except Cas20Err α
  | some a => .ok a
  | none => .error revert

lemma orRevert_eq_ok {α : Type} {o : Option α} {a : α} : orRevert o = .ok a ↔ o = some a := by
  cases o <;> simp [orRevert]

variable (args : Bytes)

def readWord (i : ℕ) : Except Cas20Err B256 :=
  if args.length < i * 32 + 32 then .error revert
  else .ok (B256.fromSlice (slice args (i * 32) (i * 32 + 32)))

/-- Dirty high bytes are a malformed encoding, not a value. -/
def wordFitsIn (n : ℕ) : Bool := w.toNat < 256 ^ n

def u64FromWord : Option U64 := if wordFitsIn w 8 then some (w.setWidth 64) else none

def addressFromWord : Option Address := if wordFitsIn w 20 then some (Address.fromWord w) else none

def isEnumWord (max : ℕ) : Bool := wordFitsIn w 1 && w.toNat ≤ max

def readAddress (i : ℕ) : Except Cas20Err Address := do
  orRevert (addressFromWord (← readWord args i))

def readU64 (i : ℕ) : Except Cas20Err U64 := do
  orRevert (u64FromWord (← readWord args i))

def readU256 (i : ℕ) : Except Cas20Err U256 := readWord args i

/-- The last byte of a word that is no more than a byte. -/
def readStrictUint8 (i : ℕ) : Except Cas20Err ℕ := do
  let w ← readWord args i
  if isEnumWord w 0xff then .ok w.toNat else .error revert

/-- The offset or length at a byte position; one with dirty high bits is malformed. -/
def wordU64 (pos : ℕ) : Option ℕ :=
  if pos > args.length ∨ args.length - pos < 32 then none
  else if (slice args pos (pos + 24)).any (· ≠ 0) then none
  else some (beNat (slice args (pos + 24) (pos + 32)))

def readStringBytes (argIndex : ℕ) : Except Cas20Err Bytes := do
  let off ← orRevert (wordU64 args (argIndex * 32))
  if off > args.length ∨ args.length - off < 32 then .error revert else
  let n ← orRevert (wordU64 args off)
  let dataPos := off + 32
  if n > args.length - dataPos then .error revert else
  .ok (slice args dataPos (dataPos + n))

def readBytesArg (argIndex : ℕ) : Except Cas20Err Bytes := readStringBytes args argIndex

def readStringArg (argIndex : ℕ) : Except Cas20Err Bytes := readStringBytes args argIndex

/-- The element of a byte array whose offset stands at entry `i`. -/
def readBytesElem (arrData i : ℕ) : Except Cas20Err Bytes := do
  let elemOff ← orRevert (wordU64 args (arrData + i * 32))
  let pos := saturatingAdd arrData elemOff
  if elemOff > args.length - arrData ∨ pos > args.length ∨ args.length - pos < 32 then
    .error revert else
  let elemLen ← orRevert (wordU64 args pos)
  let start := pos + 32
  if elemLen > args.length - start then .error revert else
  .ok (slice args start (start + elemLen))

/-- Where the entries of a dynamic array begin, and how many there are. -/
def readArrayHead (argIndex : ℕ) : Except Cas20Err (ℕ × ℕ) := do
  let base ← orRevert (wordU64 args (argIndex * 32))
  if base > args.length ∨ args.length - base < 32 then .error revert else
  let n ← orRevert (wordU64 args base)
  let arrData := base + 32
  if n > (args.length - arrData) / 32 then .error revert else
  .ok (arrData, n)

def readBytesArray (argIndex : ℕ) : Except Cas20Err (List Bytes) := do
  let (arrData, n) ← readArrayHead args argIndex
  (List.range n).mapM (readBytesElem args arrData)

def readWordArray (argIndex : ℕ) : Except Cas20Err (List B256) := do
  let (dataPos, n) ← readArrayHead args argIndex
  return (List.range n).map fun i =>
    B256.fromSlice (slice args (dataPos + i * 32) (dataPos + i * 32 + 32))

/-- A dynamic `uint8[]` at head position 0. -/
def readUint8Array : Except Cas20Err (List ℕ) := do
  let (dataPos, n) ← readArrayHead args 0
  (List.range n).mapM fun i => do
    let v ← orRevert (wordU64 args (dataPos + i * 32))
    if v > 0xff then .error revert else .ok v

end RethBsc.Cas20
