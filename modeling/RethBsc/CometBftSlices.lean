import RethBsc.HeaderBuild
import RethBsc.LightClient
import RethBsc.Slices

/-!
The light-block precompile as it is written: over slices of its input, and with an encoder that
fills a buffer from the front.

Every slice out of range, every copy between different lengths and every sum past 64 bits panics
here. Decoding never does, whatever the input. The encoder copies fields of the light block into
slots of fixed width, and no one has looked at their lengths before.
-/

namespace RethBsc.CometBft

open Panicky List Nat BscPrecompileError

abbrev Run := Panicky PrecompileHalt

namespace Slices

variable (deps : CometDeps)

def invalidInput {α : Type} : Run α := of (.error BscPrecompileError.invalidInput.halt)

/-- `u64::from_be_bytes` of a slice that has to have eight bytes. -/
def fromBeBytes (bytes : Bytes) : Run ℕ :=
  if bytes.length = uint64TypeLength then of (.ok (beNat bytes)) else panics

/-- `u64` addition. -/
def addU64 (a b : ℕ) : Run ℕ := if a + b ≤ u64Max then of (.ok (a + b)) else panics

/-! ### Decoding -/

def decodeValidator (validator : Bytes) : Run (Validator deps.PublicKey) := do
  let powerEnd := validatorPubkeyLength + validatorVotingPowerLength
  let relayerEnd := powerEnd + relayerAddressLength
  let votingPower ← Panicky.slice validator validatorPubkeyLength powerEnd
  let votingPower ← fromBeBytes votingPower
  let relayerAddress ← Panicky.slice validator powerEnd relayerEnd
  let relayerBlsKey ← Panicky.slice validator relayerEnd validator.length
  let key ← Panicky.slice validator 0 validatorPubkeyLength
  match deps.fromRawEd25519 key with
  | none => invalidInput
  | some pk => of (.ok
    { address := deps.accountId pk
      pubKey := pk
      power := votingPower % 2 ^ 32
      blsKey := relayerBlsKey
      relayerAddress := relayerAddress })

variable (input : Bytes)

def decodeConsensusState (requireUniqueValidators : Bool) : Run (ConsensusState deps.PublicKey) :=
  if input.length ≤ minimumLength ∨
      (input.length - minimumLength) % singleValidatorBytesLength ≠ 0 then invalidInput
  else if input.length > maxConsensusStateLength then invalidInput
  else do
    let chainId ← Panicky.slice input 0 chainIdLength
    let height ← Panicky.slice input chainIdLength (chainIdLength + heightLength)
    let height ← fromBeBytes height
    let nextValidatorSetHash ← Panicky.slice input (chainIdLength + heightLength) minimumLength
    let setBytes ← Panicky.slice input minimumLength input.length
    let count := (input.length - minimumLength) / singleValidatorBytesLength
    let validators ← (List.range count).mapM fun i => do
      let validator ← Panicky.slice setBytes (i * singleValidatorBytesLength)
        ((i + 1) * singleValidatorBytesLength)
      decodeValidator deps validator
    let state : ConsensusState deps.PublicKey :=
      { chainId := trimEndNul (deps.fromUtf8Lossy chainId)
        height := height
        nextValidatorSetHash := nextValidatorSetHash
        validators := deps.withoutProposer validators }
    if requireUniqueValidators then
      of ((validateUniqueValidatorSet deps state.validators).map fun _ => state)
    else of (.ok state)

def decodeLightBlockValidationInput (requireUniqueValidators : Bool) :
    Run (ConsensusState deps.PublicKey ×
      (Option deps.SignedHeaderProto × Option deps.ValidatorSetProto)) :=
  if input.length < consensusStateLengthBytesLength then invalidInput
  else do
    let csLength ← Panicky.slice input (consensusStateLengthBytesLength - uint64TypeLength)
      consensusStateLengthBytesLength
    let csLength ← fromBeBytes csLength
    -- `checked_add`
    if consensusStateLengthBytesLength + csLength > u64Max then invalidInput
    else if input.length < consensusStateLengthBytesLength + csLength then invalidInput
    else do
      let csEnd ← addU64 consensusStateLengthBytesLength csLength
      let decodeInput ← Panicky.slice input consensusStateLengthBytesLength csEnd
      let state ← decodeConsensusState deps decodeInput requireUniqueValidators
      let lightBlock ← Panicky.slice input csEnd input.length
      match deps.mergeLightBlock lightBlock with
      | none => invalidInput
      | some lightBlockPb => of (.ok (state, lightBlockPb))

def decodeLightBlock (requireUniqueValidators : Bool) :
    Run (ConsensusState deps.PublicKey × LightBlock deps.PublicKey) := do
  let decoded ← decodeLightBlockValidationInput deps input requireUniqueValidators
  let lightBlock ← of (convertLightBlockFromProto deps decoded.2)
  if requireUniqueValidators then of (validateUniqueValidatorSet deps lightBlock.validators)
  of (.ok (decoded.1, lightBlock))

/-! ### The step of the consensus state -/

def applyLightBlock (state : ConsensusState deps.PublicKey)
    (lightBlock : LightBlock deps.PublicKey) : Run (Bool × ConsensusState deps.PublicKey) :=
  let header := lightBlock.signedHeader.header
  let next : Bool × ConsensusState deps.PublicKey :=
    (decide (deps.setHash state.validators ≠ header.validatorsHash), { state with
        height := header.height
        nextValidatorSetHash := header.nextValidatorsHash
        validators := lightBlock.validators })
  if header.height ≤ state.height then invalidInput
  else if header.chainId ≠ state.chainId then invalidInput
  else do
    let following ← addU64 state.height 1
    if following = header.height then
      if state.nextValidatorSetHash ≠ header.validatorsHash then
        of (.error cometBftApplyBlockFailed.halt)
      else if !deps.hasSufficientValidatorsOverlap lightBlock.signedHeader lightBlock.validators
          .twoThirds then of (.error cometBftApplyBlockFailed.halt)
      else of (.ok next)
    else if !deps.hasSufficientValidatorsOverlap lightBlock.signedHeader state.validators
        .oneThird then of (.error cometBftApplyBlockFailed.halt)
    else if !deps.hasSufficientValidatorsOverlap lightBlock.signedHeader lightBlock.validators
        .twoThirds then of (.error cometBftApplyBlockFailed.halt)
    else of (.ok next)

/-! ### Encoding -/

/-- The body of the loop over the validators, at the position of one of them. -/
def encodeValidatorAt (v : Validator deps.PublicKey) (pos : ℕ) (output : Bytes) : Run Bytes := do
  let output ← writeAt output pos validatorPubkeyLength (deps.toBytes v.pubKey)
  let output ← writeAt output (pos + validatorPubkeyLength) validatorVotingPowerLength
    (toBeBytes v.power)
  let output ← writeAt output
    (pos + validatorPubkeyLength + validatorVotingPowerLength) relayerAddressLength
    v.relayerAddress
  writeAt output
    (pos + validatorPubkeyLength + validatorVotingPowerLength + relayerAddressLength)
    relayerBlsKeyLength v.blsKey

def encodeValidators : List (Validator deps.PublicKey) → ℕ → Bytes → Run Bytes
  | [], _, output => of (.ok output)
  | v :: vs, pos, output => do
    let output ← encodeValidatorAt deps v pos output
    encodeValidators vs (pos + singleValidatorBytesLength) output

def encode (state : ConsensusState deps.PublicKey) : Run Bytes :=
  let serializeLength := minimumLength + state.validators.length * singleValidatorBytesLength
  let chainIdBytes := state.chainId.toUTF8.toList
  if serializeLength > maxConsensusStateLength then
    of (.error cometBftEncodeConsensusStateFailed.halt)
  else if chainIdBytes.length > chainIdLength then
    of (.error cometBftEncodeConsensusStateFailed.halt)
  else do
    let filledChainId ← writeAt (List.replicate chainIdLength 0) 0 chainIdBytes.length
      chainIdBytes
    let output ← writeAt (List.replicate serializeLength 0) 0 chainIdLength filledChainId
    let output ← writeAt output chainIdLength heightLength (toBeBytes state.height)
    let output ← writeAt output (chainIdLength + heightLength) validatorSetHashLength
      state.nextValidatorSetHash
    encodeValidators deps state.validators minimumLength output

def encodeLightBlockValidationResult (validatorSetChanged : Bool) (stateBytes : Bytes) :
    Run Bytes := do
  let output ← writeAt (List.replicate (32 + stateBytes.length) 0) 0 1
    [if validatorSetChanged then 1 else 0]
  let output ← writeAt output 24 8 (toBeBytes stateBytes.length)
  writeAt output 32 stateBytes.length stateBytes

/-! ### The precompile -/

def validate (isHertz requireUniqueValidators : Bool) : Run Bytes := do
  let decoded ← decodeLightBlock deps input requireUniqueValidators
  let applied ← applyLightBlock deps decoded.1 decoded.2
  let stateBytes ← encode deps applied.2
  encodeLightBlockValidationResult (isHertz && applied.1) stateBytes

def cometbftLightBlockValidationRunInner (gasLimit reservoir : ℕ)
    (isHertz requireUniqueValidators : Bool) (perByteGas : ℕ) : PrecompileResult :=
  let cost := lightBlockValidationCost input.length perByteGas
  if cost > gasLimit then .halt .outOfGas reservoir
  else match (validate deps input isHertz requireUniqueValidators).run with
  | none => .panic
  | some (.error h) => .halt h reservoir
  | some (.ok output) => .success cost output reservoir

/-! ### Decoding does not panic -/

variable {deps} {bytes setBytes front : Bytes} {pos : ℕ}

lemma fromBeBytes_of_length (h : bytes.length = uint64TypeLength) :
    fromBeBytes bytes = of (.ok (beNat bytes)) := if_pos h

def orInvalid {α : Type} (x : Option α) : Except PrecompileHalt α :=
  match x with
  | none => .error BscPrecompileError.invalidInput.halt
  | some a => .ok a

lemma length_slice {start stop : ℕ} (h : stop ≤ bytes.length) :
    (slice bytes start stop).length = stop - start := by
  rw [slice, length_drop, length_take, min_eq_left h]

lemma decodeValidator_eq {validator : Bytes} (h : validator.length = singleValidatorBytesLength) :
    decodeValidator deps validator = of (orInvalid (CometBft.decodeValidator deps validator)) := by
  have hlen : validator.length = 108 := h
  have hpower : (slice validator 32 40).length = uint64TypeLength := length_slice (by omega)
  unfold decodeValidator CometBft.decodeValidator
  simp only [validatorPubkeyLength, validatorVotingPowerLength, relayerAddressLength, reduceAdd]
  rw [slice_of_le (by omega) (by omega), of_ok_bind,
    slice_of_le (by omega) (by omega), slice_to_end (by omega),
    slice_of_le (by omega) (by omega)]
  rw [← slice, fromBeBytes_of_length hpower]
  simp only [of_ok_bind, drop_zero]
  cases deps.fromRawEd25519 (validator.take 32) <;> rfl

lemma mapM_orInvalid {α β : Type} (f : α → Option β) (l : List α) :
    l.mapM (fun a => orInvalid (f a)) = orInvalid (l.mapM f) := by
  induction l with
  | nil => rfl
  | cons a l ih =>
    rw [mapM_cons, mapM_cons, ih]
    cases f a with
    | none => rfl
    | some b => cases l.mapM f <;> rfl

lemma decodeValidator_slot {i : ℕ} (h : (i + 1) * singleValidatorBytesLength ≤ setBytes.length) :
    (Panicky.slice setBytes (i * singleValidatorBytesLength)
      ((i + 1) * singleValidatorBytesLength) >>= decodeValidator deps : Run _) =
    of (orInvalid (CometBft.decodeValidator deps (slice setBytes (i * singleValidatorBytesLength)
      ((i + 1) * singleValidatorBytesLength)))) := by
  have hle : i * singleValidatorBytesLength ≤ (i + 1) * singleValidatorBytesLength :=
    mul_le_mul_right _ (le_succ i)
  rw [slice_of_le hle h, of_ok_bind]
  refine decodeValidator_eq ?_
  rw [← slice, length_slice h, Nat.succ_mul, Nat.add_sub_cancel_left]

lemma decodeValidators_eq {count : ℕ} (h : count * singleValidatorBytesLength ≤ setBytes.length) :
    (List.range count).mapM (fun i =>
      (Panicky.slice setBytes (i * singleValidatorBytesLength)
        ((i + 1) * singleValidatorBytesLength) >>= decodeValidator deps : Run _)) =
    of (orInvalid ((List.range count).mapM fun i => CometBft.decodeValidator deps
      (slice setBytes (i * singleValidatorBytesLength)
        ((i + 1) * singleValidatorBytesLength)))) := by
  rw [← mapM_orInvalid]
  refine mapM_of fun i hi => decodeValidator_slot ?_
  exact (mul_le_mul_right _ (mem_range.mp hi)).trans h

lemma decodeConsensusState_eq (requireUniqueValidators : Bool) :
    decodeConsensusState deps input requireUniqueValidators =
      of (CometBft.decodeConsensusState deps input requireUniqueValidators) := by
  unfold decodeConsensusState CometBft.decodeConsensusState
  split
  · rfl
  next hsize =>
    split
    · rfl
    · have hmin : 72 < input.length := not_le.mp fun h => hsize (.inl h)
      have hheight : (slice input 32 40).length = uint64TypeLength := length_slice (by omega)
      have hset : (input.length - 72) / singleValidatorBytesLength * singleValidatorBytesLength ≤
          (input.drop 72).length := by
        rw [length_drop]
        exact div_mul_le_self _ _
      simp only [chainIdLength, heightLength, minimumLength, validatorSetHashLength, reduceAdd]
      rw [slice_of_le (by omega) (by omega), slice_of_le (by omega) (by omega),
        slice_of_le (by omega) (by omega), slice_to_end (by omega)]
      simp only [of_ok_bind, drop_zero]
      rw [← slice, ← slice, fromBeBytes_of_length hheight, of_ok_bind, decodeValidators_eq hset]
      cases (List.range ((input.length - 72) / singleValidatorBytesLength)).mapM fun i =>
          CometBft.decodeValidator deps (slice (input.drop 72) (i * singleValidatorBytesLength)
            ((i + 1) * singleValidatorBytesLength)) with
      | none => rfl
      | some validators => cases requireUniqueValidators <;> rfl

lemma decodeLightBlockValidationInput_eq (requireUniqueValidators : Bool) :
    decodeLightBlockValidationInput deps input requireUniqueValidators =
      of (CometBft.decodeLightBlockValidationInput deps input requireUniqueValidators) := by
  unfold decodeLightBlockValidationInput CometBft.decodeLightBlockValidationInput
  split
  · rfl
  next hsize =>
    have hsize : consensusStateLengthBytesLength ≤ input.length := not_lt.mp hsize
    have hlength : (slice input (consensusStateLengthBytesLength - uint64TypeLength)
        consensusStateLengthBytesLength).length = uint64TypeLength := length_slice hsize
    rw [slice_of_le (sub_le _ _) hsize, of_ok_bind, ← slice,
      fromBeBytes_of_length hlength, of_ok_bind]
    generalize beNat (slice input (consensusStateLengthBytesLength - uint64TypeLength)
      consensusStateLengthBytesLength) = csLength
    simp only
    by_cases hsum : consensusStateLengthBytesLength + csLength > u64Max
    · rw [if_pos hsum, if_pos hsum]
      rfl
    by_cases hend : input.length < consensusStateLengthBytesLength + csLength
    · rw [if_neg hsum, if_neg hsum, if_pos hend, if_pos hend]
      rfl
    rw [if_neg hsum, if_neg hsum, if_neg hend, if_neg hend, addU64, if_pos (not_lt.mp hsum),
      of_ok_bind, slice_of_le (le_add_right _ _) (not_lt.mp hend),
      of_ok_bind, slice_to_end (not_lt.mp hend), decodeConsensusState_eq, ← slice]
    cases CometBft.decodeConsensusState deps (slice input consensusStateLengthBytesLength
        (consensusStateLengthBytesLength + csLength)) requireUniqueValidators with
    | error e => rfl
    | ok state =>
      rw [of_ok_bind, of_ok_bind]
      change _ = of (match deps.mergeLightBlock _ with | none => _ | some lightBlockPb => _)
      cases deps.mergeLightBlock (input.drop (consensusStateLengthBytesLength + csLength)) <;> rfl

lemma decodeLightBlock_eq (requireUniqueValidators : Bool) :
    decodeLightBlock deps input requireUniqueValidators =
      of (CometBft.decodeLightBlock deps input requireUniqueValidators) := by
  unfold decodeLightBlock CometBft.decodeLightBlock
  rw [decodeLightBlockValidationInput_eq]
  cases CometBft.decodeLightBlockValidationInput deps input requireUniqueValidators with
  | error e => rfl
  | ok decoded =>
    rw [of_ok_bind]
    change _ = of (convertLightBlockFromProto deps decoded.2 >>= _)
    cases convertLightBlockFromProto deps decoded.2 with
    | error e => rfl
    | ok lightBlock =>
      rw [of_ok_bind]
      cases requireUniqueValidators with
      | false => rfl
      | true =>
        change of (validateUniqueValidatorSet deps lightBlock.validators) >>= _ =
          of (validateUniqueValidatorSet deps lightBlock.validators >>= _)
        cases validateUniqueValidatorSet deps lightBlock.validators <;> rfl

lemma applyLightBlock_eq (state : ConsensusState deps.PublicKey)
    (lightBlock : LightBlock deps.PublicKey)
    (hheight : lightBlock.signedHeader.header.height ≤ u64Max) :
    applyLightBlock deps state lightBlock = of (state.applyLightBlock deps lightBlock) := by
  unfold applyLightBlock ConsensusState.applyLightBlock
  simp only
  split
  · rfl
  next hnew =>
    split
    · rfl
    · have hfollowing : state.height + 1 ≤ u64Max := by omega
      rw [addU64, if_pos hfollowing, of_ok_bind]
      repeat' split
      all_goals rfl

/-! ### Encoding panics on fields of other lengths -/

lemma length_toBeBytes (n : ℕ) : (toBeBytes n).length = 8 := by
  simp [toBeBytes]

lemma encodeValidatorAt_eq (v : Validator deps.PublicKey) (rest : ℕ) (hpos : front.length = pos) :
    encodeValidatorAt deps v pos (front ++ List.replicate (singleValidatorBytesLength + rest) 0) =
      ofOption ((encodeValidator deps v).map fun part =>
        front ++ part ++ List.replicate rest 0) := by
  have hrest : singleValidatorBytesLength + rest = validatorPubkeyLength +
      (validatorVotingPowerLength + (relayerAddressLength + (relayerBlsKeyLength + rest))) := by
    unfold singleValidatorBytesLength
    ring
  have hpower : (toBeBytes v.power).length = validatorVotingPowerLength := length_toBeBytes _
  rw [encodeValidatorAt, encodeValidator, hrest, writeAt_front 0 hpos]
  by_cases hkey : (deps.toBytes v.pubKey).length = validatorPubkeyLength
  swap
  · rw [if_neg hkey, if_neg fun h => hkey h.1]
    rfl
  have hpos : (front ++ deps.toBytes v.pubKey).length = pos + validatorPubkeyLength := by
    rw [length_append, hpos, hkey]
  rw [if_pos hkey, of_ok_bind, writeAt_front 0 hpos, if_pos hpower, of_ok_bind]
  have hpos : (front ++ deps.toBytes v.pubKey ++ toBeBytes v.power).length =
      pos + validatorPubkeyLength + validatorVotingPowerLength := by
    rw [length_append, hpos, hpower]
  rw [writeAt_front 0 hpos]
  by_cases hrelayer : v.relayerAddress.length = relayerAddressLength
  swap
  · rw [if_neg hrelayer, if_neg fun h => hrelayer h.2.1]
    rfl
  have hpos : (front ++ deps.toBytes v.pubKey ++ toBeBytes v.power ++ v.relayerAddress).length =
      pos + validatorPubkeyLength + validatorVotingPowerLength + relayerAddressLength := by
    rw [length_append, hpos, hrelayer]
  rw [if_pos hrelayer, of_ok_bind, writeAt_front 0 hpos]
  by_cases hbls : v.blsKey.length = relayerBlsKeyLength
  swap
  · rw [if_neg hbls, if_neg fun h => hbls h.2.2]
    rfl
  rw [if_pos hbls, if_pos ⟨hkey, hrelayer, hbls⟩]
  simp [ofOption]

lemma length_of_encodeValidator {v : Validator deps.PublicKey} {part : Bytes}
    (h : encodeValidator deps v = some part) : part.length = singleValidatorBytesLength := by
  unfold encodeValidator at h
  split at h
  · next hlen =>
    rw [← Option.some.inj h, length_append, length_append, length_append, hlen.1,
      hlen.2.1, hlen.2.2, length_toBeBytes]
    rfl
  · cases h

lemma encodeValidators_eq (vs : List (Validator deps.PublicKey)) (hpos : front.length = pos) :
    encodeValidators deps vs pos
        (front ++ List.replicate (vs.length * singleValidatorBytesLength) 0) =
      ofOption ((vs.mapM (encodeValidator deps)).map fun parts =>
        front ++ parts.flatten) := by
  induction vs generalizing front pos with
  | nil => simp [encodeValidators, ofOption]
  | cons v vs ih =>
    rw [encodeValidators, length_cons, succ_mul, add_comm, encodeValidatorAt_eq v _ hpos, mapM_cons]
    cases hpart : encodeValidator deps v with
    | none => rfl
    | some part =>
      have hpos : (front ++ part).length = pos + singleValidatorBytesLength := by
        rw [length_append, hpos, length_of_encodeValidator hpart]
      rw [Option.map_some, ofOption, of_ok_bind, ih hpos]
      cases vs.mapM (encodeValidator deps) with
      | none => rfl
      | some parts => simp [ofOption]

lemma encode_eq (state : ConsensusState deps.PublicKey) :
    encode deps state = of (state.encode deps) >>= ofOption := by
  unfold encode ConsensusState.encode
  simp only
  generalize state.chainId.toUTF8.toList = chainIdBytes
  split
  · rfl
  split
  · rfl
  next hchain =>
    set padded := chainIdBytes ++ List.replicate (chainIdLength - chainIdBytes.length) 0 with
      hpadded
    have hfill : (writeAt (List.replicate chainIdLength 0) 0 chainIdBytes.length
        chainIdBytes : Run Bytes) = of (.ok padded) := by
      have hsplit : chainIdLength = chainIdBytes.length +
        (chainIdLength - chainIdBytes.length) := by omega
      rw [hsplit, writeAt_fresh, if_pos rfl]
    have hlength : minimumLength + state.validators.length * singleValidatorBytesLength =
        chainIdLength + (heightLength + (validatorSetHashLength +
          state.validators.length * singleValidatorBytesLength)) := by
      unfold minimumLength
      ring
    -- the chain id and the height are as wide as their slots
    have hpos : padded.length = chainIdLength := by
      rw [hpadded, length_append, length_replicate]
      omega
    have hheight : (toBeBytes state.height).length = heightLength := length_toBeBytes _
    rw [hfill, of_ok_bind, hlength, writeAt_fresh, if_pos hpos,
      of_ok_bind, writeAt_front 0 hpos, if_pos hheight, of_ok_bind]
    have hpos : (padded ++ toBeBytes state.height).length = chainIdLength + heightLength := by
      rw [length_append, hpos, hheight]
    rw [writeAt_front 0 hpos, of_ok_bind]
    by_cases hhash : state.nextValidatorSetHash.length = validatorSetHashLength
    · have hpos : (padded ++ toBeBytes state.height ++ state.nextValidatorSetHash).length =
          minimumLength := by
        rw [length_append, hpos, hhash]
        rfl
      rw [if_pos hhash, of_ok_bind, encodeValidators_eq _ hpos]
      cases state.validators.mapM (encodeValidator deps) with
      | none => rfl
      | some parts => simp [hhash]
    · rw [if_neg hhash]
      cases state.validators.mapM (encodeValidator deps) with
      | none => rfl
      | some parts => simp [hhash, ofOption]

lemma encodeLightBlockValidationResult_eq (validatorSetChanged : Bool) (stateBytes : Bytes) :
    encodeLightBlockValidationResult validatorSetChanged stateBytes =
      of (.ok (CometBft.encodeLightBlockValidationResult validatorSetChanged stateBytes)) := by
  generalize hflag : (if validatorSetChanged then 1 else 0 : UInt8) = flag
  have hlength : 32 + stateBytes.length = 1 + (23 + (8 + stateBytes.length)) := by ring
  have hzeros : [flag] ++ List.replicate (23 + (8 + stateBytes.length)) (0 : UInt8) =
      ([flag] ++ List.replicate 23 0) ++ List.replicate (8 + (stateBytes.length + 0)) 0 := by
    rw [replicate_add, append_assoc, add_zero]
  have hpos : ([flag] ++ List.replicate 23 (0 : UInt8)).length = 24 := rfl
  have hpos' : ([flag] ++ List.replicate 23 (0 : UInt8) ++
      toBeBytes stateBytes.length).length = 32 := by
    rw [length_append, hpos, length_toBeBytes]
  rw [encodeLightBlockValidationResult, hflag, hlength, writeAt_fresh,
    if_pos length_singleton, of_ok_bind, hzeros, writeAt_front 0 hpos,
    if_pos (length_toBeBytes _), of_ok_bind, writeAt_front 0 hpos', if_pos rfl]
  simp [CometBft.encodeLightBlockValidationResult, hflag]

/-! ### The whole run -/

def HeightsFit (deps : CometDeps) : Prop :=
  ∀ proto signedHeader, deps.signedHeaderTryFrom proto = some signedHeader →
    signedHeader.header.height ≤ u64Max

variable {state : ConsensusState deps.PublicKey}

lemma height_le_of_decodeLightBlock (hheights : HeightsFit deps) {input : Bytes}
    {requireUniqueValidators : Bool} {lightBlock : LightBlock deps.PublicKey}
    (h : CometBft.decodeLightBlock deps input requireUniqueValidators = .ok (state, lightBlock)) :
    lightBlock.signedHeader.header.height ≤ u64Max := by
  obtain ⟨-, ⟨parts, hconvert⟩, -⟩ := decodeLightBlock_eq_ok h
  unfold convertLightBlockFromProto at hconvert
  split at hconvert
  · next signedHeader validatorSet hsigned _ =>
    cases hconvert
    obtain ⟨proto, -, hproto⟩ := Option.bind_eq_some_iff.mp hsigned
    exact hheights proto signedHeader hproto
  · cases hconvert

/-- The sliced precompile is the one over byte strings, panics included. -/
theorem runInner_eq (hheights : HeightsFit deps) (input : Bytes) (gasLimit reservoir : ℕ)
    (isHertz requireUniqueValidators : Bool) (perByteGas : ℕ) :
    cometbftLightBlockValidationRunInner deps input gasLimit reservoir isHertz
        requireUniqueValidators perByteGas =
      CometBft.cometbftLightBlockValidationRunInner deps input gasLimit reservoir isHertz
        requireUniqueValidators perByteGas := by
  unfold cometbftLightBlockValidationRunInner CometBft.cometbftLightBlockValidationRunInner
  simp only
  split
  · rfl
  · rw [validate, decodeLightBlock_eq]
    cases hdecode : CometBft.decodeLightBlock deps input requireUniqueValidators with
    | error e => rfl
    | ok decoded =>
      obtain ⟨state, lightBlock⟩ := decoded
      rw [of_ok_bind, applyLightBlock_eq state lightBlock
        (height_le_of_decodeLightBlock hheights hdecode)]
      simp only
      cases state.applyLightBlock deps lightBlock with
      | error e => rfl
      | ok applied =>
        obtain ⟨changed, next⟩ := applied
        rw [of_ok_bind, encode_eq]
        simp only
        cases next.encode deps with
        | error e => rfl
        | ok bytes =>
          cases bytes with
          | none => rfl
          | some bytes =>
            rw [of_ok_bind, ofOption, of_ok_bind, encodeLightBlockValidationResult_eq]
            rfl

/-- The fields of a consensus state that are copied have the widths of their slots. -/
structure Sized (deps : CometDeps) (state : ConsensusState deps.PublicKey) : Prop where
  nextValidatorSetHash : state.nextValidatorSetHash.length = validatorSetHashLength
  validators : ∀ v ∈ state.validators,
    (deps.toBytes v.pubKey).length = validatorPubkeyLength ∧
      v.relayerAddress.length = relayerAddressLength ∧ v.blsKey.length = relayerBlsKeyLength

/-- The encoder does not refuse the number of validators or the chain id. -/
def Encodable (state : ConsensusState deps.PublicKey) : Prop :=
  minimumLength + state.validators.length * singleValidatorBytesLength ≤ maxConsensusStateLength ∧
    state.chainId.toUTF8.toList.length ≤ chainIdLength

lemma isSome_mapM_encodeValidator {vs : List (Validator deps.PublicKey)} :
    (vs.mapM (encodeValidator deps)).isSome ↔ ∀ v ∈ vs,
      (deps.toBytes v.pubKey).length = validatorPubkeyLength ∧
        v.relayerAddress.length = relayerAddressLength ∧ v.blsKey.length = relayerBlsKeyLength := by
  induction vs with
  | nil => simp
  | cons v vs ih =>
    rw [mapM_cons, forall_mem_cons, ← ih, encodeValidator]
    split
    · next hv =>
      rw [and_iff_right hv]
      cases vs.mapM (encodeValidator deps) <;> rfl
    · next hv => simp [hv]

variable (state) in
lemma encode_ne_none_iff : state.encode deps ≠ .ok none ↔ Encodable state → Sized deps state := by
  unfold ConsensusState.encode Encodable
  simp only
  split
  · next hlength => simp [not_le.mpr hlength]
  next hlength =>
    split
    · next hchain =>
      exact iff_of_true (by simp) fun h => absurd h.2 (not_le.mpr hchain)
    next hchain =>
      have hsized : Sized deps state ↔ state.nextValidatorSetHash.length = validatorSetHashLength ∧
            (state.validators.mapM (encodeValidator deps)).isSome :=
        ⟨fun h => ⟨h.1, isSome_mapM_encodeValidator.mpr h.2⟩,
          fun h => ⟨h.1, isSome_mapM_encodeValidator.mp h.2⟩⟩
      rw [hsized, imp_iff_right ⟨not_lt.mp hlength, not_lt.mp hchain⟩]
      cases state.validators.mapM (encodeValidator deps) <;> simp

/-- **The precompile never panics** unless it has the gas, accepts a light block and stores a field
of another width than its slot in the consensus state. -/
theorem run_ne_panic (deps : CometDeps) (hheights : HeightsFit deps) (input : Bytes)
    (gasLimit reservoir : ℕ) (isHertz requireUniqueValidators : Bool) (perByteGas : ℕ) :
    cometbftLightBlockValidationRunInner deps input gasLimit reservoir isHertz
        requireUniqueValidators perByteGas ≠ .panic ↔
      (lightBlockValidationCost input.length perByteGas ≤ gasLimit →
        ∀ state lightBlock changed next,
          CometBft.decodeLightBlock deps input requireUniqueValidators = .ok (state, lightBlock) →
          state.applyLightBlock deps lightBlock = .ok (changed, next) →
          Encodable next → Sized deps next) := by
  rw [runInner_eq hheights]
  unfold CometBft.cometbftLightBlockValidationRunInner
  simp only
  split
  · next hcost => simp [not_le.mpr hcost]
  next hcost =>
    rw [imp_iff_right (not_lt.mp hcost)]
    split
    · next hdecode => simp [hdecode]
    next state lightBlock hdecode =>
      split
      · next happly =>
        refine iff_of_true (by simp) fun state' lightBlock' changed' next' hdecode' happly' => ?_
        rw [hdecode] at hdecode'
        cases hdecode'
        rw [happly] at happly'
        cases happly'
      next changed next happly =>
        have hpanic := encode_ne_none_iff next
        constructor
        · intro hrun state' lightBlock' changed' next' hdecode' happly'
          rw [hdecode] at hdecode'
          cases hdecode'
          rw [happly] at happly'
          cases happly'
          refine hpanic.mp fun hnone => hrun ?_
          rw [hnone]
        · intro h
          have hne := hpanic.mpr (h state lightBlock changed next hdecode happly)
          split
          · simp
          · next hnone => exact absurd hnone hne
          · simp

/-! ### A relayer without an address -/

lemma two_le_u64Max : 2 ≤ u64Max := by decide

lemma sole_heightsFit : HeightsFit soleDeps := by
  rintro _ _ ⟨⟩
  exact two_le_u64Max

/-- The light block of the sole validator fits. -/
theorem run_ne_panic_sole :
    cometbftLightBlockValidationRunInner soleDeps (soleInput 7) 6408 0 true true 16 ≠ .panic ∧
    cometbftLightBlockValidationRunInner soleDeps (soleInput 7) 6408 0 true true 16 =
      .success 6408 (soleOutput 1) 0 := by
  refine ⟨?_, by decide +kernel⟩
  rw [run_ne_panic soleDeps sole_heightsFit (soleInput 7) 6408 0 true true 16]
  intro _ state lightBlock changed next hdecode happly _
  have hsole := sole_decode 7 (by decide)
  obtain ⟨rfl, rfl⟩ := Prod.mk.inj (Except.ok.inj (hdecode.symm.trans hsole))
  rw [(applyLightBlock_ok happly).stored]
  exact ⟨by decide, by decide⟩

/-- The same validator, who has not told the address of the relayer. -/
def unsetDeps : CometDeps :=
  { soleDeps with
    validatorSetTryFrom := fun _ => some [{ soleValidator with relayerAddress := [] }] }

/-- The same header, which names no next validators. -/
def namelessDeps : CometDeps :=
  { soleDeps with
    signedHeaderTryFrom := fun b =>
      some ⟨⟨"c", 2, word b, [], []⟩, ⟨2, word 7, []⟩, rfl⟩ }

/-- **Light blocks that stop the node.** In every variant the light block is accepted, and the copy
of a field into its slot panics. -/
theorem run_panics : (HeightsFit unsetDeps ∧
      cometbftLightBlockValidationRunInner unsetDeps (soleInput 7) 6408 0 false false 0 = .panic ∧
      cometbftLightBlockValidationRunInner unsetDeps (soleInput 7) 6408 0 true false 0 = .panic ∧
      cometbftLightBlockValidationRunInner unsetDeps (soleInput 7) 6408 0 true true 16 = .panic) ∧
    HeightsFit namelessDeps ∧
      cometbftLightBlockValidationRunInner namelessDeps (soleInput 7) 6408 0 true true 16 =
        .panic := by
  refine ⟨⟨?_, by decide +kernel, by decide +kernel, by decide +kernel⟩, ?_, by decide +kernel⟩
  · rintro _ _ ⟨⟩
    exact two_le_u64Max
  · rintro _ _ ⟨⟩
    exact two_le_u64Max

end Slices

end RethBsc.CometBft
