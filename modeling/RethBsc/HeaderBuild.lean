import Mathlib.Tactic.Ring
import RethBsc.BoundedMap
import RethBsc.HeaderVerify
import RethBsc.Records

/-!
How a block producer writes the extra data of a header, and the checks it has to pass.

The producer pads the vanity, appends the validators of an epoch block, the turn length and
an attestation, and puts the seal behind them. Each reader works out the offsets of its part
anew.
-/

namespace RethBsc

open VoteAddress List

/-! ### Addresses as bytes -/

/-- The low bytes of a number, most significant first; `toBeBytes` for any width. -/
def wordBytes (width n : ℕ) : Bytes :=
  (List.range width).map fun i => UInt8.ofNat (n / 256 ^ (width - 1 - i))

@[simp] lemma length_wordBytes (width n : ℕ) : (wordBytes width n).length = width := by
  simp [wordBytes]

lemma wordBytes_succ (width n : ℕ) :
    wordBytes (width + 1) n = UInt8.ofNat (n / 256 ^ width) :: wordBytes width n := by
  rw [wordBytes, range_succ_eq_map, map_cons, map_map]
  refine congrArg₂ _ (by simp) (map_congr_left fun i _ => ?_)
  rw [Function.comp_apply, show width + 1 - 1 - i.succ = width - 1 - i by omega]

lemma foldl_byte (bs : Bytes) (acc : ℕ) :
    bs.foldl (fun n b => 256 * n + b.toNat) acc = acc * 256 ^ bs.length + beNat bs := by
  induction bs generalizing acc with
  | nil => simp [beNat]
  | cons b bs ih =>
    have hbs : beNat (b :: bs) = b.toNat * 256 ^ bs.length + beNat bs := by
      rw [beNat, foldl_cons, ih]
      simp
    rw [foldl_cons, ih, hbs, length_cons, pow_succ]
    ring

lemma beNat_wordBytes (width n : ℕ) : beNat (wordBytes width n) = n % 256 ^ width := by
  induction width with
  | zero => simp [wordBytes, beNat, Nat.mod_one]
  | succ width ih =>
    calc beNat (wordBytes (width + 1) n)
        = n / 256 ^ width % 256 * 256 ^ width + n % 256 ^ width := by
          rw [wordBytes_succ, beNat, foldl_cons, foldl_byte, ih, length_wordBytes]
          simp
      _ = n % 256 ^ (width + 1) := by rw [pow_succ, Nat.mod_mul]; ring

lemma beNat_wordBytes_of_lt {width n : ℕ} (h : n < 256 ^ width) :
    beNat (wordBytes width n) = n := by
  rw [beNat_wordBytes, Nat.mod_eq_of_lt h]

def voteAddressLength : ℕ := 48

def Address.asSlice (a : Address) : Bytes := wordBytes addressLength a.val

def VoteAddress.asSlice (v : VoteAddress) : Bytes := wordBytes voteAddressLength v.toNat

lemma Address.fromSlice_asSlice (a : Address) : Address.fromSlice a.asSlice = a := by
  have hlt : a.val < 256 ^ addressLength :=
    a.isLt.trans_le (by rw [show 256 = 2 ^ 8 from rfl, ← pow_mul]; rfl)
  ext
  rw [Address.fromSlice, Address.asSlice, beNat_wordBytes_of_lt hlt]
  exact Nat.mod_eq_of_lt a.isLt

lemma toNat_lt_pow {w : ℕ} (v : BitVec (8 * w)) : v.toNat < 256 ^ w := by
  rw [show 256 = 2 ^ 8 from rfl, ← pow_mul]
  exact v.isLt

lemma VoteAddress.fromSlice_asSlice (v : VoteAddress) : fromSlice v.asSlice = v := by
  have hlt : v.toNat < 256 ^ voteAddressLength := toNat_lt_pow (w := voteAddressLength) v
  rw [fromSlice, asSlice, beNat_wordBytes_of_lt hlt, BitVec.ofNat_toNat, BitVec.setWidth_eq]

lemma Address.length_asSlice (a : Address) : a.asSlice.length = addressLength :=
  length_wordBytes addressLength a.val

def addressCodec : Codec Address UInt8 where
  width := validatorBytesLenBeforeLuban
  encode := Address.asSlice
  decode := Address.fromSlice
  length_encode := Address.length_asSlice
  decode_encode := Address.fromSlice_asSlice

lemma length_asSlice_append (e : Address × VoteAddress) :
    (e.1.asSlice ++ asSlice e.2).length = validatorBytesLenAfterLuban := by
  rw [length_append, Address.asSlice, asSlice, length_wordBytes, length_wordBytes]
  rfl

def validatorCodec : Codec (Address × VoteAddress) UInt8 where
  width := validatorBytesLenAfterLuban
  encode e := e.1.asSlice ++ VoteAddress.asSlice e.2
  decode bs := (Address.fromSlice (bs.take addressLength),
    VoteAddress.fromSlice (bs.drop addressLength))
  length_encode := length_asSlice_append
  decode_encode e := by
    rw [take_left' e.1.length_asSlice, drop_left' e.1.length_asSlice,
      Address.fromSlice_asSlice, VoteAddress.fromSlice_asSlice]

/-! ### The checks -/

namespace Parlia

variable (parlia : Parlia) (header : Header)

def getEpochLength : ℕ :=
  if parlia.spec.isMaxwellActiveAtTimestamp header.number header.timestamp then maxwellEpochLength
  else if parlia.spec.isLorentzActiveAtTimestamp header.number header.timestamp then
    lorentzEpochLength
  else parlia.epoch

/-- Subtractions are those of `usize`; `check_header_extra_len` runs first and rules out
that they underflow. -/
def getValidatorLenFromHeader : ℕ :=
  let isEpoch := isMultipleOf header.number (parlia.getEpochLength header)
  let extraLen := header.extraData.length
  if !isEpoch then
    if parlia.spec.isLubanActiveAtBlock header.number then 0
    else extraLen - extraVanityLen - extraSealLen
  else if !parlia.spec.isLubanActiveAtBlock header.number then
    extraLen - extraVanityLen - extraSealLen
  else
    (byteAt header.extraData (extraVanityLen + validatorNumberSize - 1)).toNat *
      validatorBytesLenAfterLuban

def checkHeaderExtraLen : Except ParliaConsensusError Unit :=
  let extraLen := header.extraData.length
  if extraLen < extraVanityLen then .error .extraVanityMissing
  else if extraLen < extraVanityLen + extraSealLen then .error .extraSignatureMissing
  else if !isMultipleOf header.number (parlia.getEpochLength header) then .ok ()
  else if parlia.spec.isLubanActiveAtBlock header.number then
    let count := (byteAt header.extraData (extraVanityLen + validatorNumberSize - 1)).toNat
    let expect := extraVanityLen + validatorNumberSize + extraSealLen +
      count * validatorBytesLenAfterLuban
    if count = 0 ∨ extraLen < expect then .error (.invalidHeaderExtraLen extraLen) else .ok ()
  else
    let validatorBytesLen := extraLen - extraVanityLen - extraSealLen
    if validatorBytesLen / validatorBytesLenBeforeLuban = 0 ∨
        isMultipleOf validatorBytesLen validatorBytesLenBeforeLuban = false then
      .error (.invalidHeaderExtraLen extraLen)
    else .ok ()

def checkHeaderExtra : Except ParliaConsensusError Unit := do
  parlia.checkHeaderExtraLen header
  let isEpoch := isMultipleOf header.number (parlia.getEpochLength header)
  let validatorBytesLen := parlia.getValidatorLenFromHeader header
  if (!isEpoch && decide (validatorBytesLen ≠ 0)) || (isEpoch && decide (validatorBytesLen = 0))
  then .error (.invalidHeaderExtraValidatorBytesLen isEpoch validatorBytesLen)
  else .ok ()

end Parlia

/-! ### The builder -/

abbrev EpochValidators := List Address × List VoteAddress

abbrev TurnLengthCache := LruMap B256 UInt8

inductive SignerError
  | notInitialized
  | signingFailed
  deriving DecidableEq

/-- The signer behind `seal_header_with_global_signer`; a seal has 65 bytes. -/
abbrev SealHeader := Header → ℕ → Except SignerError {bs : Bytes // bs.length = extraSealLen}

/-- `none` where the source panics: no validator is in turn in an empty set. -/
def calculateDifficulty (snap : Snapshot) (signer : Address) : Option ℕ :=
  (snap.isInturn signer).map fun inturn => if inturn then diffInturn else diffNoturn

def setMillisecondPartOfTimestamp (timestampMs : ℕ) (header : Header) : Header :=
  { header with mixHash := BitVec.ofNat 256 (timestampMs % 1000) }

def Header.append (header : Header) (bs : Bytes) : Header :=
  { header with extraData := header.extraData ++ bs }

namespace Header

variable (header : Header) (bs cs : Bytes)

/-- Where the header stands, which decides on the forks. -/
def position : ℕ × ℕ := (header.number, header.timestamp)

@[simp] lemma number_append : (header.append bs).number = header.number := rfl
@[simp] lemma timestamp_append : (header.append bs).timestamp = header.timestamp := rfl
@[simp] lemma parentHash_append : (header.append bs).parentHash = header.parentHash := rfl
@[simp] lemma extraData_append : (header.append bs).extraData = header.extraData ++ bs := rfl

@[simp] lemma append_nil : header.append [] = header := by
  rw [append, List.append_nil]

@[simp] lemma append_append : (header.append bs).append cs = header.append (bs ++ cs) := by
  rw [append, append, append, append_assoc]

end Header

/-- What `assemble_vote_attestation` does between its guard and the write. -/
abbrev Collector (ε : Type) : Type := Header → Except ε (Option VoteAttestation)

namespace Parlia

variable (parlia : Parlia)

/-- The vote address written for each validator: zero on the block Luban activates at, and
where the list of vote addresses is too short. -/
def voteMap (transition : Bool) (validators : List Address) (voteAddresses : List VoteAddress) :
    OrdMap Address VoteAddress :=
  if transition then validators.foldl (fun m v => m.insert v 0) OrdMap.empty
  else validators.zipIdx.foldl (fun m e => m.insert e.1 (voteAddresses.getD e.2 0)) OrdMap.empty

def prepareValidators (snap : Snapshot) (validators : Option EpochValidators) (header : Header) :
    Header :=
  if !isMultipleOf header.number snap.epochNum then header
  else match validators with
    | none => header
    | some (newValidators, voteAddresses) =>
      if !parlia.spec.isLubanActiveAtBlock header.number then
        header.append (addressCodec.encodeAll (sortAddrs newValidators))
      else
        let votes := voteMap (parlia.spec.isLubanTransitionAtBlock header.number) newValidators
          voteAddresses
        -- every validator has an entry, so the default is never taken
        header.append (UInt8.ofNat newValidators.length :: validatorCodec.encodeAll
          ((sortAddrs newValidators).map fun v => (v, (votes.get v).getD 0)))

/-- Also returns the cache, which remembers the turn length for the parent. -/
def prepareTurnLength (cache : TurnLengthCache) (parentSnap : Snapshot) (header : Header) :
    Header × TurnLengthCache :=
  if !isMultipleOf header.number parentSnap.epochNum ||
      !parlia.spec.isBohrActiveAtTimestamp header.number header.timestamp then (header, cache)
  else
    let (cached, cache) := cache.get header.parentHash
    let turnLength := (cached.or parentSnap.turnLength).getD defaultTurnLength
    (header.append [turnLength], cache.insert header.parentHash turnLength)

/-- Appends the attestation that `collect` arrives at. -/
def assembleVoteAttestation {ε : Type} (deps : VoteDeps)
    (collect : Collector ε) (header : Header) : Except ε Header :=
  if !parlia.spec.isLubanActiveAtBlock header.number || decide (header.number < 3) then .ok header
  else match collect header with
    | .error e => .error e
    | .ok none => .ok header
    | .ok (some attestation) => .ok (header.append (deps.encodeAttestation attestation))

/-- The builder only logs a failure to assemble and goes on without an attestation. -/
def assembleOrKeep {ε : Type} (deps : VoteDeps)
    (collect : Collector ε) (header : Header) : Header :=
  match parlia.assembleVoteAttestation deps collect header with
  | .ok assembled => assembled
  | .error _ => header

/-- Room for the seal, then the seal of that header in its place. -/
def sealExtra (sealHeader : SealHeader) (header : Header) : Except SignerError Header :=
  let blank := header.append (List.replicate extraSealLen 0)
  match sealHeader blank parlia.spec.chainId with
  | .error e => .error e
  | .ok sealData =>
    let start := blank.extraData.length - extraSealLen
    .ok { blank with extraData := blank.extraData.take start ++ sealData.1 }

/-- The header before validators, turn length and attestation are appended. -/
def startHeader (difficulty blockTimestampMs : ℕ) (header : Header) : Header :=
  let header := { header with difficulty := difficulty }
  let header :=
    if parlia.spec.isLorentzActiveAtTimestamp header.number header.timestamp
    then setMillisecondPartOfTimestamp blockTimestampMs header
    else { header with mixHash := 0 }
  if header.extraData.length < extraVanityLen then
    header.append (List.replicate (extraVanityLen - header.extraData.length) 0)
  else header

/-- `none` where the source panics. -/
def finalizeNewHeader {ε : Type} (deps : VoteDeps) (sealHeader : SealHeader)
    (collect : Collector ε) (cache : TurnLengthCache)
    (parentSnap : Snapshot) (header : Header) (blockTimestampMs : ℕ)
    (epochValidators : Option EpochValidators) :
    Option (Except SignerError (Header × TurnLengthCache)) := do
  let difficulty ← calculateDifficulty parentSnap header.beneficiary
  let header := parlia.startHeader difficulty blockTimestampMs header
  if isMultipleOf header.number parentSnap.epochNum && epochValidators.isNone then
    return .error .signingFailed
  let header := parlia.prepareValidators parentSnap epochValidators header
  let (header, cache) := parlia.prepareTurnLength cache parentSnap header
  let header := parlia.assembleOrKeep deps collect header
  return (parlia.sealExtra sealHeader header).map fun header => (header, cache)

/-- Replaces attestation and seal; every failure leaves the header as it was. -/
def refreshVoteAttestationAndSeal {ε : Type} (deps : VoteDeps) (sealHeader : SealHeader)
    (collect : Collector ε) (parentSnap : Snapshot)
    (header : Header) : Header :=
  let extraLen := header.extraData.length
  if !parlia.spec.isLubanActiveAtBlock header.number then header
  else if extraLen < extraVanityLen + extraSealLen then header
  else
    let attestationStart :=
      if isMultipleOf header.number parentSnap.epochNum then
        extraVanityLen + validatorNumberSize +
          (byteAt header.extraData extraVanityLen).toNat * validatorBytesLenAfterLuban +
          if parlia.spec.isBohrActiveAtTimestamp header.number header.timestamp
          then turnLengthSize else 0
      else extraVanityLen
    if extraLen < attestationStart then header
    else
      let base := { header with extraData := header.extraData.take attestationStart }
      match parlia.assembleVoteAttestation deps collect base with
      | .error _ => header
      | .ok assembled =>
        match parlia.sealExtra sealHeader assembled with
        | .error _ => header
        | .ok resealed => resealed

end Parlia

end RethBsc
