import RethBsc.Primitives

/-!
The CometBFT light-block validation precompile (address 0x67).

Its input is a trusted consensus state and a protobuf light block, its output the consensus
state after the light block. The protobuf conversions, the key and hash types and the voting
power test come from the CometBFT crates and are fields of `CometDeps`; decoding, the
duplicate checks, the step of the consensus state and its encoding are the client's own.
-/

namespace RethBsc

inductive PrecompileHalt
  | outOfGas
  | other (message : String)
  deriving DecidableEq

inductive BscPrecompileError
  | invalidInput | cometBftApplyBlockFailed | cometBftEncodeConsensusStateFailed
  | doubleSignInvalidEvidence

def BscPrecompileError.halt : BscPrecompileError → PrecompileHalt
  | .invalidInput => .other "invalid input"
  | .cometBftApplyBlockFailed => .other "apply block failed"
  | .cometBftEncodeConsensusStateFailed => .other "encode consensus state failed"
  | .doubleSignInvalidEvidence => .other "double sign invalid evidence"

open BscPrecompileError

inductive PrecompileResult
  | success (gasUsed : ℕ) (output : Bytes) (reservoir : ℕ)
  | halt (reason : PrecompileHalt) (reservoir : ℕ)
  /-- A slice copy between different lengths panics. -/
  | panic
  deriving DecidableEq

/-! ### Duplicate identities -/

/-- The values seen so far for one field, with the index each was first seen at. -/
structure DuplicateTracker where
  field : String
  seen : List (Bytes × ℕ)
  ignoreZero : Bool

namespace DuplicateTracker

def new (field : String) (ignoreZero : Bool) : DuplicateTracker := ⟨field, [], ignoreZero⟩

def isZeroBytes (value : Bytes) : Bool := !value.isEmpty && value.all fun b => decide (b = 0)

def check (tracker : DuplicateTracker) (idx : ℕ) (value : Bytes) :
    Except PrecompileHalt DuplicateTracker :=
  if tracker.ignoreZero && (value.isEmpty || isZeroBytes value) then .ok tracker
  else match tracker.seen.lookup value with
    | some firstIdx => .error (.other ("duplicate " ++ tracker.field ++ " #" ++ toString firstIdx ++
        " and #" ++ toString idx ++ ": " ++ hexEncode value))
    | none => .ok { tracker with seen := (value, idx) :: tracker.seen }

end DuplicateTracker

namespace CometBft

def uint64TypeLength : ℕ := 8
def consensusStateLengthBytesLength : ℕ := 32
def chainIdLength : ℕ := 32
def heightLength : ℕ := 8
def validatorSetHashLength : ℕ := 32
def validatorPubkeyLength : ℕ := 32
def validatorVotingPowerLength : ℕ := 8
def relayerAddressLength : ℕ := 20
def relayerBlsKeyLength : ℕ := 48
def singleValidatorBytesLength : ℕ :=
  validatorPubkeyLength + validatorVotingPowerLength + relayerAddressLength + relayerBlsKeyLength
def minimumLength : ℕ := chainIdLength + heightLength + validatorSetHashLength
def maxConsensusStateLength : ℕ := minimumLength + 99 * singleValidatorBytesLength
def lightBlockValidationBase : ℕ := 3000
def lightBlockValidatePerByteGas : ℕ := 16

/-! ### The types of the CometBFT crates -/

structure Validator (PublicKey : Type) where
  address : Bytes
  pubKey : PublicKey
  power : ℕ
  blsKey : Bytes
  relayerAddress : Bytes
  deriving DecidableEq

/-- A header; `rest` stands for the fields that only its hash depends on. -/
structure BlockHeader where
  chainId : String
  height : ℕ
  validatorsHash : Bytes
  nextValidatorsHash : Bytes
  rest : Bytes
  deriving DecidableEq

structure Commit where
  height : ℕ
  blockId : Bytes
  signatures : Bytes
  deriving DecidableEq

/-- A header with a commit of the same height, which is all its conversion checks. -/
structure SignedHeader where
  header : BlockHeader
  commit : Commit
  sameHeight : header.height = commit.height
  deriving DecidableEq

structure LightBlock (PublicKey : Type) where
  signedHeader : SignedHeader
  validators : List (Validator PublicKey)
  nextValidators : List (Validator PublicKey)
  deriving DecidableEq

/-- A fraction of the voting power. -/
structure TrustThreshold where
  numerator : ℕ
  denominator : ℕ

def TrustThreshold.twoThirds : TrustThreshold := ⟨2, 3⟩
def TrustThreshold.oneThird : TrustThreshold := ⟨1, 3⟩

/-- What the precompile takes from other crates. -/
structure CometDeps where
  PublicKey : Type
  SignedHeaderProto : Type
  ValidatorSetProto : Type
  fromRawEd25519 : Bytes → Option PublicKey
  /-- `PublicKey::to_bytes`. -/
  toBytes : PublicKey → Bytes
  /-- The account id a key belongs to. -/
  accountId : PublicKey → Bytes
  fromUtf8Lossy : Bytes → String
  /-- `merge` into a default light block: both parts are optional. -/
  mergeLightBlock : Bytes → Option (Option SignedHeaderProto × Option ValidatorSetProto)
  signedHeaderTryFrom : SignedHeaderProto → Option SignedHeader
  validatorSetTryFrom : ValidatorSetProto → Option (List (Validator PublicKey))
  /-- The order of `ValidatorSet::without_proposer`. -/
  withoutProposer : List (Validator PublicKey) → List (Validator PublicKey)
  /-- `Set::hash`. -/
  setHash : List (Validator PublicKey) → Bytes
  hasSufficientValidatorsOverlap : SignedHeader → List (Validator PublicKey) → TrustThreshold → Bool

structure ConsensusState (PublicKey : Type) where
  chainId : String
  height : ℕ
  nextValidatorSetHash : Bytes
  validators : List (Validator PublicKey)
  deriving DecidableEq

section

variable (deps : CometDeps)

/-! ### Decoding -/

def checkValidators (addresses pubkeys blsKeys relayerAddresses : DuplicateTracker) :
    List (Validator deps.PublicKey × ℕ) → Except PrecompileHalt Unit
  | [] => .ok ()
  | (v, idx) :: rest => do
    let addresses ← addresses.check idx v.address
    let pubkeys ← pubkeys.check idx (deps.toBytes v.pubKey)
    let blsKeys ← blsKeys.check idx v.blsKey
    let relayerAddresses ← relayerAddresses.check idx v.relayerAddress
    checkValidators addresses pubkeys blsKeys relayerAddresses rest

def validateUniqueValidatorSet (validators : List (Validator deps.PublicKey)) :
    Except PrecompileHalt Unit :=
  checkValidators deps (.new "validator address" false) (.new "validator pubkey" false)
    (.new "validator bls key" true) (.new "validator relayer address" true) validators.zipIdx

/-- `trim_end_matches('\0')`. -/
def trimEndNul (s : String) : String :=
  String.ofList (s.toList.reverse.dropWhile fun c => decide (c = Char.ofNat 0)).reverse

/-- One validator of the encoded set. The voting power is cut to 32 bits. -/
def decodeValidator (bytes : Bytes) : Option (Validator deps.PublicKey) :=
  let powerEnd := validatorPubkeyLength + validatorVotingPowerLength
  let relayerEnd := powerEnd + relayerAddressLength
  (deps.fromRawEd25519 (bytes.take validatorPubkeyLength)).map fun pk =>
    { address := deps.accountId pk
      pubKey := pk
      power := beNat (slice bytes validatorPubkeyLength powerEnd) % 2 ^ 32
      blsKey := bytes.drop relayerEnd
      relayerAddress := slice bytes powerEnd relayerEnd }

variable (input : Bytes)

def decodeConsensusState (requireUniqueValidators : Bool) :
    Except PrecompileHalt (ConsensusState deps.PublicKey) :=
  if input.length ≤ minimumLength ∨
      (input.length - minimumLength) % singleValidatorBytesLength ≠ 0 then
    .error invalidInput.halt
  else if input.length > maxConsensusStateLength then .error invalidInput.halt
  else
    let count := (input.length - minimumLength) / singleValidatorBytesLength
    let setBytes := input.drop minimumLength
    match (List.range count).mapM fun i => decodeValidator deps
        (slice setBytes (i * singleValidatorBytesLength)
          ((i + 1) * singleValidatorBytesLength)) with
    | none => .error invalidInput.halt
    | some validators =>
      let state : ConsensusState deps.PublicKey :=
        { chainId := trimEndNul (deps.fromUtf8Lossy (input.take chainIdLength))
          height := beNat (slice input chainIdLength (chainIdLength + heightLength))
          nextValidatorSetHash := slice input (chainIdLength + heightLength) minimumLength
          validators := deps.withoutProposer validators }
      if requireUniqueValidators then
        (validateUniqueValidatorSet deps state.validators).map fun _ => state
      else .ok state

def decodeLightBlockValidationInput (requireUniqueValidators : Bool) :
    Except PrecompileHalt (ConsensusState deps.PublicKey ×
      (Option deps.SignedHeaderProto × Option deps.ValidatorSetProto)) :=
  if input.length < consensusStateLengthBytesLength then
    .error invalidInput.halt
  else
    let csLength := beNat (slice input (consensusStateLengthBytesLength - uint64TypeLength)
      consensusStateLengthBytesLength)
    let csEnd := consensusStateLengthBytesLength + csLength
    -- `checked_add` overflows
    if csEnd > u64Max then .error invalidInput.halt
    else if input.length < csEnd then .error invalidInput.halt
    else do
      let state ← decodeConsensusState deps (slice input consensusStateLengthBytesLength csEnd)
        requireUniqueValidators
      match deps.mergeLightBlock (input.drop csEnd) with
      | none => .error invalidInput.halt
      | some lightBlockPb => .ok (state, lightBlockPb)

def convertLightBlockFromProto
    (proto : Option deps.SignedHeaderProto × Option deps.ValidatorSetProto) :
    Except PrecompileHalt (LightBlock deps.PublicKey) :=
  match proto.1.bind deps.signedHeaderTryFrom, proto.2.bind deps.validatorSetTryFrom with
  | some signedHeader, some validatorSet => .ok ⟨signedHeader, validatorSet, validatorSet⟩
  | _, _ => .error invalidInput.halt

/-! ### The step of the consensus state -/

/-- The state after the light block, and whether the header names another validator set. -/
def ConsensusState.applyLightBlock (state : ConsensusState deps.PublicKey)
    (lightBlock : LightBlock deps.PublicKey) :
    Except PrecompileHalt (Bool × ConsensusState deps.PublicKey) :=
  let header := lightBlock.signedHeader.header
  let next : Bool × ConsensusState deps.PublicKey :=
    (decide (deps.setHash state.validators ≠ header.validatorsHash), { state with
        height := header.height
        nextValidatorSetHash := header.nextValidatorsHash
        validators := lightBlock.validators })
  if header.height ≤ state.height then .error invalidInput.halt
  else if header.chainId ≠ state.chainId then .error invalidInput.halt
  else if state.height + 1 = header.height then
    if state.nextValidatorSetHash ≠ header.validatorsHash then
      .error cometBftApplyBlockFailed.halt
    else if !deps.hasSufficientValidatorsOverlap lightBlock.signedHeader lightBlock.validators
        .twoThirds then .error cometBftApplyBlockFailed.halt
    else .ok next
  else if !deps.hasSufficientValidatorsOverlap lightBlock.signedHeader state.validators
      .oneThird then .error cometBftApplyBlockFailed.halt
  else if !deps.hasSufficientValidatorsOverlap lightBlock.signedHeader lightBlock.validators
      .twoThirds then .error cometBftApplyBlockFailed.halt
  else .ok next

/-! ### Encoding -/

/-- One validator; `none` where a copy meets a field of another length. -/
def encodeValidator (v : Validator deps.PublicKey) : Option Bytes :=
  if (deps.toBytes v.pubKey).length = validatorPubkeyLength ∧
      v.relayerAddress.length = relayerAddressLength ∧ v.blsKey.length = relayerBlsKeyLength then
    some (deps.toBytes v.pubKey ++ toBeBytes v.power ++ v.relayerAddress ++ v.blsKey)
  else none

/-- The encoded state; `none` where the source panics. -/
def ConsensusState.encode (state : ConsensusState deps.PublicKey) :
    Except PrecompileHalt (Option Bytes) :=
  let chainIdBytes := state.chainId.toUTF8.toList
  if minimumLength + state.validators.length * singleValidatorBytesLength >
      maxConsensusStateLength then
    .error cometBftEncodeConsensusStateFailed.halt
  else if chainIdBytes.length > chainIdLength then
    .error cometBftEncodeConsensusStateFailed.halt
  else .ok (do
    let validators ← state.validators.mapM (encodeValidator deps)
    if state.nextValidatorSetHash.length = validatorSetHashLength then
      some (chainIdBytes ++ List.replicate (chainIdLength - chainIdBytes.length) 0 ++
        toBeBytes state.height ++ state.nextValidatorSetHash ++ validators.flatten)
    else none)

def encodeLightBlockValidationResult (validatorSetChanged : Bool) (stateBytes : Bytes) : Bytes :=
  (if validatorSetChanged then 1 else 0) :: List.replicate 23 0 ++ toBeBytes stateBytes.length ++
    stateBytes

/-! ### The precompile -/

def lightBlockValidationCost (inputLength perByteGas : ℕ) : ℕ :=
  min u64Max (lightBlockValidationBase + min u64Max (inputLength * perByteGas))

def decodeLightBlock (requireUniqueValidators : Bool) :
    Except PrecompileHalt (ConsensusState deps.PublicKey × LightBlock deps.PublicKey) := do
  let decoded ← decodeLightBlockValidationInput deps input requireUniqueValidators
  let lightBlock ← convertLightBlockFromProto deps decoded.2
  if requireUniqueValidators then validateUniqueValidatorSet deps lightBlock.validators
  .ok (decoded.1, lightBlock)

variable (gasLimit reservoir : ℕ)

def cometbftLightBlockValidationRunInner (isHertz requireUniqueValidators : Bool)
    (perByteGas : ℕ) : PrecompileResult :=
  let cost := lightBlockValidationCost input.length perByteGas
  if cost > gasLimit then .halt .outOfGas reservoir
  else match decodeLightBlock deps input requireUniqueValidators with
  | .error h => .halt h reservoir
  | .ok (state, lightBlock) =>
    match state.applyLightBlock deps lightBlock with
    | .error h => .halt h reservoir
    | .ok (changed, next) =>
      match next.encode deps with
      | .error h => .halt h reservoir
      | .ok none => .panic
      | .ok (some bytes) =>
        .success cost (encodeLightBlockValidationResult (isHertz && changed) bytes) reservoir

def cometbftLightBlockValidationRun : PrecompileResult :=
  cometbftLightBlockValidationRunInner deps input gasLimit reservoir true false 0

def cometbftLightBlockValidationRunBeforeHertz : PrecompileResult :=
  cometbftLightBlockValidationRunInner deps input gasLimit reservoir false false 0

def cometbftLightBlockValidationRunPasteur : PrecompileResult :=
  cometbftLightBlockValidationRunInner deps input gasLimit reservoir true true
    lightBlockValidatePerByteGas

end

end CometBft

end RethBsc
