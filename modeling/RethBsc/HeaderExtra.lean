import RethBsc.Hardforks

/-!
The extra data of a header: vanity, validator bytes, turn length, attestation, seal.

An epoch header carries the next validator set between the 32 vanity bytes and the 65 seal
bytes: 20-byte addresses before Luban, and from Luban on a count byte and 68 bytes a
validator, followed from Bohr on by the turn length. Whatever is left before the seal is
the RLP encoding of a vote attestation.
-/

namespace RethBsc

def extraVanityLen : ℕ := 32
def extraSealLen : ℕ := 65
def validatorNumberSize : ℕ := 1
def validatorBytesLenBeforeLuban : ℕ := 20
def validatorBytesLenAfterLuban : ℕ := 68
def turnLengthSize : ℕ := 1
def addressLength : ℕ := 20

inductive ParliaConsensusError
  | extraVanityMissing
  | extraSignatureMissing
  | invalidHeaderExtraLen (headerExtraLen : ℕ)
  | invalidHeaderExtraValidatorBytesLen (isEpoch : Bool) (validatorBytesLen : ℕ)
  | recoverECDSAInnerError
  | extraInvalidTurnLength
  | extraInvalidAttestation
  deriving DecidableEq

structure ValidatorsInfo where
  consensusAddrs : List Address
  voteAddrs : Option (List VoteAddress)
  deriving DecidableEq

/-- `u64::is_multiple_of`; only zero is a multiple of zero. -/
def isMultipleOf (n m : ℕ) : Bool := decide (n % m = 0)

/-- `bytes[i]`. -/
def byteAt (bs : Bytes) (i : ℕ) : UInt8 := bs.getD i 0

structure Parlia where
  spec : ChainSpec
  epoch : ℕ

namespace Parlia

variable (parlia : Parlia) (header : Header) (epochLength : ℕ)

def getValidatorBytesFromHeader : Option Bytes :=
  let extraLen := header.extraData.length
  if extraLen ≤ extraVanityLen + extraSealLen then none
  else
    let isEpoch := isMultipleOf header.number epochLength
    if parlia.spec.isLubanActiveAtBlock header.number then
      if !isEpoch then none
      else
        let count := (byteAt header.extraData extraVanityLen).toNat
        let start := extraVanityLen + validatorNumberSize
        let stop := start + count * validatorBytesLenAfterLuban
        let extraMinLen := stop + extraSealLen +
          if parlia.spec.isBohrActiveAtTimestamp header.number header.timestamp
          then turnLengthSize else 0
        if count = 0 ∨ extraLen < extraMinLen then none
        else some (slice header.extraData start stop)
    else if isEpoch && !isMultipleOf (extraLen - extraVanityLen - extraSealLen)
        validatorBytesLenBeforeLuban then none
    else some (slice header.extraData extraVanityLen (extraLen - extraSealLen))

def getTurnLengthFromHeader : Except ParliaConsensusError (Option UInt8) :=
  if !isMultipleOf header.number epochLength ||
      !parlia.spec.isBohrActiveAtTimestamp header.number header.timestamp then .ok none
  else if header.extraData.length ≤ extraVanityLen + extraSealLen then
    .error (.invalidHeaderExtraLen header.extraData.length)
  else
    let num := (byteAt header.extraData extraVanityLen).toNat
    let pos := extraVanityLen + 1 + num * validatorBytesLenAfterLuban
    if header.extraData.length ≤ pos then .error .extraInvalidTurnLength
    else .ok (some (byteAt header.extraData pos))

/-- The bytes between the validators, or the vanity, and the seal. -/
def rawAttestationData : Bytes :=
  let extraLen := header.extraData.length
  if !isMultipleOf header.number epochLength then
    slice header.extraData extraVanityLen (extraLen - extraSealLen)
  else
    let validatorCount := (byteAt header.extraData (extraVanityLen + validatorNumberSize - 1)).toNat
    let start := extraVanityLen + validatorNumberSize +
      validatorCount * validatorBytesLenAfterLuban +
      if parlia.spec.isBohrActiveAtTimestamp header.number header.timestamp
      then turnLengthSize else 0
    slice header.extraData start (extraLen - extraSealLen)

def getVoteAttestationFromHeader (deps : Deps) :
    Except ParliaConsensusError (Option VoteAttestation) :=
  if header.extraData.length ≤ extraVanityLen + extraSealLen then .ok none
  else if !parlia.spec.isLubanActiveAtBlock header.number then .ok none
  else
    -- an empty slice also stands for the source's `end <= start`
    match parlia.rawAttestationData header epochLength with
    | [] => .ok none
    | raw =>
      match deps.decodeAttestation raw with
      | some attestation => .ok (some attestation)
      | none => .error .extraInvalidAttestation

/-- The validators of the first `count` records, an address and a vote address each. -/
def parseValidatorsAfterLuban (validatorBytes : Bytes) : ValidatorsInfo :=
  let count := validatorBytes.length / validatorBytesLenAfterLuban
  let record i := (validatorBytes.drop (i * validatorBytesLenAfterLuban)).take
    validatorBytesLenAfterLuban
  ⟨(List.range count).map fun i => Address.fromSlice ((record i).take addressLength),
    some ((List.range count).map fun i => VoteAddress.fromSlice ((record i).drop addressLength))⟩

def parseValidatorsBeforeLuban (validatorBytes : Bytes) : ValidatorsInfo :=
  let count := validatorBytes.length / validatorBytesLenBeforeLuban
  ⟨(List.range count).map fun i => Address.fromSlice
    ((validatorBytes.drop (i * validatorBytesLenBeforeLuban)).take validatorBytesLenBeforeLuban),
    none⟩

def parseValidatorsFromHeader : Except ParliaConsensusError ValidatorsInfo :=
  match parlia.getValidatorBytesFromHeader header epochLength with
  | none => .error (.invalidHeaderExtraLen header.extraData.length)
  | some [] => .error (.invalidHeaderExtraValidatorBytesLen true 0)
  | some valBytes =>
    if parlia.spec.isLubanActiveAtBlock header.number then
      .ok (parseValidatorsAfterLuban valBytes)
    else .ok (parseValidatorsBeforeLuban valBytes)

/-- The address whose key sealed the header. -/
def recoverProposer (deps : Deps) : Except ParliaConsensusError Address :=
  let extraData := header.extraData
  if extraData.length < extraVanityLen + extraSealLen then .error .extraSignatureMissing
  else
    let signatureOffset := extraData.length - extraSealLen
    let recoveryByte := byteAt extraData (signatureOffset + extraSealLen - 1)
    let signatureBytes := slice extraData signatureOffset (signatureOffset + extraSealLen - 1)
    match deps.recoverEcdsa (deps.hashWithChainId header parlia.spec.chainId) signatureBytes
        recoveryByte with
    | some proposer => .ok proposer
    | none => .error .recoverECDSAInnerError

end Parlia

end RethBsc
