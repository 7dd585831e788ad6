import Mathlib.Order.Fin.Basic
import Mathlib.Data.BitVec
import Mathlib.Algebra.NeZero

/-!
Addresses, hashes, headers and votes, and the functions the client takes from its
dependencies.

Block numbers and timestamps are `u64` in the source and natural numbers here: a chain
starts at zero and grows by one, so no run reaches the end of the range. Where a value that
an outsider chooses, or a subtraction, can leave the range, the wrap of the release build is
written out with `wrappingSub` and `wrappingSucc`.
-/

namespace RethBsc

instance Address.instNeZero : NeZero (2 ^ 160) := inferInstance

abbrev Address := Fin (2 ^ 160)
abbrev B256 := BitVec 256
/-- A 48-byte BLS public key. -/
abbrev VoteAddress := BitVec 384
/-- A 96-byte aggregated BLS signature. -/
abbrev VoteSignature := BitVec 768
abbrev Bytes := List UInt8

instance Address.instLawfulBEq : LawfulBEq Address := inferInstance
instance B256.instLawfulBEq : LawfulBEq B256 := inferInstance

/-- Hashes compare byte by byte, most significant first. -/
instance B256.instLinearOrder : LinearOrder B256 :=
  LinearOrder.lift' BitVec.toNat fun _ _ => BitVec.eq_of_toNat_eq

def u64Max : ℕ := 2 ^ 64 - 1

/-- `u64` subtraction without overflow checks. -/
def wrappingSub (a b : ℕ) : ℕ := if b ≤ a then a - b else a + 2 ^ 64 - b

/-- `u64` increment without overflow checks. -/
def wrappingSucc (a : ℕ) : ℕ := if a = u64Max then 0 else a + 1

/-- `u64` addition without overflow checks. -/
def wrappingAdd (a b : ℕ) : ℕ := (a + b) % 2 ^ 64

/-- `u64` addition that stops at the end of the range. -/
def saturatingAdd (a b : ℕ) : ℕ := min (a + b) u64Max

/-- The number a byte string spells, most significant byte first. -/
def beNat (bs : Bytes) : ℕ := bs.foldl (fun n b => 256 * n + b.toNat) 0

/-- The eight bytes of a `u64`, most significant first. -/
def toBeBytes (n : ℕ) : Bytes := (List.range 8).map fun i => UInt8.ofNat (n / 256 ^ (7 - i))

def hexDigit (n : ℕ) : Char := "0123456789abcdef".toList.getD n '0'

def hexEncode (bs : Bytes) : String :=
  String.ofList (bs.flatMap fun b => [hexDigit (b.toNat / 16), hexDigit (b.toNat % 16)])

/-- `bytes[start..end]`. -/
def slice (bs : Bytes) (start stop : ℕ) : Bytes := (bs.take stop).drop start

def Address.fromSlice (bs : Bytes) : Address := Fin.ofNat (2 ^ 160) (beNat bs)

def VoteAddress.fromSlice (bs : Bytes) : VoteAddress := BitVec.ofNat 384 (beNat bs)

@[ext]
structure Header where
  parentHash : B256
  ommersHash : B256
  beneficiary : Address
  stateRoot : B256
  transactionsRoot : B256
  receiptsRoot : B256
  logsBloom : BitVec 2048
  difficulty : ℕ
  number : ℕ
  gasLimit : ℕ
  gasUsed : ℕ
  timestamp : ℕ
  extraData : Bytes
  mixHash : B256
  nonce : BitVec 64
  baseFeePerGas : Option ℕ
  withdrawalsRoot : Option B256
  blobGasUsed : Option ℕ
  excessBlobGas : Option ℕ
  parentBeaconBlockRoot : Option B256
  requestsHash : Option B256
  blockAccessListHash : Option B256
  slotNumber : Option ℕ
  deriving DecidableEq

@[ext]
structure VoteData where
  sourceNumber : ℕ
  sourceHash : B256
  targetNumber : ℕ
  targetHash : B256
  deriving DecidableEq, Inhabited

def VoteData.default : VoteData := ⟨0, 0, 0, 0⟩

@[ext]
structure VoteEnvelope where
  voteAddress : VoteAddress
  signature : VoteSignature
  data : VoteData
  deriving DecidableEq

structure VoteAttestation where
  /-- A `u64` bit set of the validators that took part. -/
  voteAddressSet : ℕ
  aggSignature : VoteSignature
  data : VoteData
  extra : Bytes
  deriving DecidableEq

/-- What the client takes from other crates: Keccak hashing of headers and votes, RLP
decoding of attestations, BLS keys and signatures, and ECDSA recovery of a seal. -/
structure Deps where
  /-- `Header::hash_slow`. -/
  hashSlow : Header → B256
  /-- `VoteData::hash`. -/
  voteDataHash : VoteData → B256
  /-- `hash_with_chain_id`. -/
  hashWithChainId : Header → ℕ → B256
  decodeAttestation : Bytes → Option VoteAttestation
  PublicKey : Type
  Signature : Type
  publicKeyFromBytes : VoteAddress → Option PublicKey
  signatureFromBytes : VoteSignature → Option Signature
  fastAggregateVerify : Signature → B256 → List PublicKey → Bool
  /-- The address that signed a digest, from the 64 signature bytes and the recovery byte. -/
  recoverEcdsa : B256 → Bytes → UInt8 → Option Address

/-- What votes need besides: the hash of an envelope, single BLS signatures and their
aggregation, and the RLP encoding of attestations. -/
structure VoteDeps extends Deps where
  /-- `VoteEnvelope::hash`. -/
  envelopeHash : VoteEnvelope → B256
  /-- `Signature::verify`. -/
  verify : Signature → B256 → PublicKey → Bool
  /-- `AggregateSignature::aggregate`; nothing aggregates no signatures. -/
  aggregate : List Signature → Option Signature
  signatureToBytes : Signature → VoteSignature
  encodeAttestation : VoteAttestation → Bytes

variable {ε α : Type} {x : Except ε α}

lemma toOption_eq_some {a : α} (h : x.toOption = some a) : x = .ok a := by
  cases x with
  | error e => cases h
  | ok b => cases h; rfl

lemma exists_ok_of_isSome {x : Option (Except ε α)} (h : (x.bind Except.toOption).isSome) :
    ∃ a, x = some (.ok a) := by
  obtain ⟨a, ha⟩ := Option.isSome_iff_exists.mp h
  obtain ⟨r, rfl, hr⟩ := Option.bind_eq_some_iff.mp ha
  exact ⟨a, congrArg some (toOption_eq_some hr)⟩

variable {β : Type}

lemma bind_eq_ok {f : α → Except ε β} {b : β} (h : x >>= f = .ok b) :
    ∃ a, x = .ok a ∧ f a = .ok b := by
  cases x with
  | error e => cases h
  | ok a => exact ⟨a, rfl, h⟩

lemma ite_eq_of_ne {c : Prop} [Decidable c] {x y z : α} (h : (if c then x else y) = z)
    (hne : x ≠ z) : ¬c ∧ y = z := by
  split at h
  · exact absurd h hne
  · next hc => exact ⟨hc, h⟩

lemma bind_eq_error {f : α → Except ε β} {e : ε}
    (h : x >>= f = .error e) : x = .error e ∨ ∃ a, x = .ok a ∧ f a = .error e := by
  cases x with
  | error e' =>
    cases h
    exact .inl rfl
  | ok a => exact .inr ⟨a, rfl, h⟩

lemma map_eq_ok {f : α → β} {b : β} (h : x.map f = .ok b) : ∃ a, x = .ok a ∧ f a = b := by
  cases x with
  | error e => cases h
  | ok a => exact ⟨a, rfl, Except.ok.inj h⟩

lemma mapError_eq_ok {ε' : Type} {f : ε → ε'} {a : α} (h : x.mapError f = .ok a) : x = .ok a := by
  cases x with
  | error e => cases h
  | ok b => cases h; rfl

lemma mapM_eq_some_iff {f : α → Option β} {l : List α} {r : List β} :
    l.mapM f = some r ↔ List.Forall₂ (fun a b => f a = some b) l r := by
  induction l generalizing r with
  | nil => simp [eq_comm]
  | cons a l ih =>
    rw [List.mapM_cons, List.forall₂_cons_left_iff]
    simp only [Option.bind_eq_bind, Option.bind_eq_some_iff, ih]
    constructor
    · rintro ⟨b, hb, bs, hbs, ⟨⟩⟩
      exact ⟨b, bs, hb, hbs, rfl⟩
    · rintro ⟨b, bs, hb, hbs, rfl⟩
      exact ⟨b, hb, bs, hbs, rfl⟩

lemma wrappingSub_of_le {a b : ℕ} (h : b ≤ a) : wrappingSub a b = a - b := by
  simp [wrappingSub, h]

end RethBsc
