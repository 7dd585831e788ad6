import RethBsc.CometBftSlices
import RethBsc.HeaderRoundTrip

/-!
The consensus state between two calls of the light-block precompile.

A call returns the state it has reached as bytes, and a later call decodes them again. What the
light block said comes back, except that voting powers are cut to 32 bits. The set is ordered
anew, and the addresses of its members are those of their keys.
-/

namespace RethBsc

open List DuplicateTracker Subtype

/-! ### Distinct validators -/

def DuplicateTracker.counts (tracker : DuplicateTracker) (value : Bytes) : Bool :=
  !(tracker.ignoreZero && (value.isEmpty || isZeroBytes value))

/-- The values that a tracker looks at are new and distinct. -/
def DuplicateTracker.Fresh (tracker : DuplicateTracker) (values : List Bytes) : Prop :=
  (values.filter tracker.counts).Nodup ∧
    ∀ value ∈ values.filter tracker.counts, tracker.seen.lookup value = none

lemma DuplicateTracker.fresh_cons {tracker : DuplicateTracker} (idx : ℕ) {value : Bytes}
    {values : List Bytes} :
    tracker.Fresh (value :: values) ↔
      ∃ tracker', tracker.check idx value = .ok tracker' ∧ tracker'.Fresh values := by
  by_cases hcounts : tracker.counts value = true
  · have hignored : ¬(tracker.ignoreZero && (value.isEmpty || isZeroBytes value)) = true := by
      rw [counts, Bool.not_eq_true'] at hcounts
      rw [hcounts]
      exact Bool.false_ne_true
    unfold Fresh check
    rw [filter_cons_of_pos hcounts, if_neg hignored, nodup_cons, forall_mem_cons]
    constructor
    · rintro ⟨⟨hnew, hnodup⟩, hlookup, hseen⟩
      rw [hlookup]
      refine ⟨_, rfl, hnodup, fun other hother => ?_⟩
      have hne : other ≠ value := fun heq => hnew (heq ▸ hother)
      rw [lookup_cons, beq_eq_false_iff_ne.mpr hne]
      exact hseen other hother
    · rintro ⟨tracker', hcheck, hnodup, hseen⟩
      split at hcheck
      · cases hcheck
      · next hlookup =>
        cases hcheck
        refine ⟨⟨fun hmem => ?_, hnodup⟩, hlookup, fun other hother => ?_⟩
        · have hfirst := hseen value hmem
          rw [lookup_cons, beq_self_eq_true] at hfirst
          cases hfirst
        · have hother' := hseen other hother
          rw [lookup_cons] at hother'
          split at hother'
          · cases hother'
          · exact hother'
  · have hignored : (tracker.ignoreZero && (value.isEmpty || isZeroBytes value)) = true := by
      rwa [counts, Bool.not_eq_true', Bool.not_eq_false] at hcounts
    unfold check
    rw [if_pos hignored]
    unfold Fresh
    rw [filter_cons_of_neg hcounts]
    simp

namespace CometBft

variable {deps : CometDeps}

lemma checkValidators_eq_ok {addresses pubkeys blsKeys relayerAddresses : DuplicateTracker}
    {vs : List (Validator deps.PublicKey × ℕ)} :
    checkValidators deps addresses pubkeys blsKeys relayerAddresses vs = .ok () ↔
      addresses.Fresh (vs.map fun v => v.1.address) ∧
      pubkeys.Fresh (vs.map fun v => deps.toBytes v.1.pubKey) ∧
      blsKeys.Fresh (vs.map fun v => v.1.blsKey) ∧
      relayerAddresses.Fresh (vs.map fun v => v.1.relayerAddress) := by
  induction vs generalizing addresses pubkeys blsKeys relayerAddresses with
  | nil => simp [checkValidators, DuplicateTracker.Fresh]
  | cons v vs ih =>
    obtain ⟨v, idx⟩ := v
    unfold checkValidators
    simp only [map_cons, fresh_cons idx]
    constructor
    · intro h
      obtain ⟨a, ha, h⟩ := bind_eq_ok h
      obtain ⟨p, hp, h⟩ := bind_eq_ok h
      obtain ⟨b, hb, h⟩ := bind_eq_ok h
      obtain ⟨r, hr, h⟩ := bind_eq_ok h
      obtain ⟨hfa, hfp, hfb, hfr⟩ := ih.mp h
      exact ⟨⟨a, ha, hfa⟩, ⟨p, hp, hfp⟩, ⟨b, hb, hfb⟩, ⟨r, hr, hfr⟩⟩
    · rintro ⟨⟨a, ha, hfa⟩, ⟨p, hp, hfp⟩, ⟨b, hb, hfb⟩, ⟨r, hr, hfr⟩⟩
      rw [ha, hp, hb, hr]
      exact ih.mpr ⟨hfa, hfp, hfb, hfr⟩

/-- A key or an address that is not left blank. -/
def isSet (value : Bytes) : Bool := !(value.isEmpty || DuplicateTracker.isZeroBytes value)

/-- No two validators share an address, a key, or a BLS key or relayer that is not blank. -/
structure Distinct (deps : CometDeps) (vs : List (Validator deps.PublicKey)) : Prop where
  addresses : (vs.map Validator.address).Nodup
  pubkeys : (vs.map fun v => deps.toBytes v.pubKey).Nodup
  blsKeys : ((vs.map Validator.blsKey).filter isSet).Nodup
  relayerAddresses : ((vs.map Validator.relayerAddress).filter isSet).Nodup

variable {vs : List (Validator deps.PublicKey)} {parts : List Bytes}
  {state : ConsensusState deps.PublicKey}

open Validator

lemma validateUniqueValidatorSet_eq_ok :
    validateUniqueValidatorSet deps vs = .ok () ↔ Distinct deps vs := by
  have hfresh (field : String) (values : List Bytes) :
      (new field false).Fresh values ↔ values.Nodup := by
    have hcounts : (new field false).counts = fun _ => true := rfl
    unfold DuplicateTracker.Fresh
    rw [hcounts, filter_true]
    exact and_iff_left fun _ _ => rfl
  have hfresh' (field : String) (values : List Bytes) :
      (new field true).Fresh values ↔ (values.filter isSet).Nodup := by
    have hcounts : (new field true).counts = isSet := rfl
    unfold DuplicateTracker.Fresh
    rw [hcounts]
    exact and_iff_left fun _ _ => rfl
  have hmap {β : Type} (f : Validator deps.PublicKey → β) :
      vs.zipIdx.map (fun v => f v.1) = vs.map f := by
    rw [← zipIdx_map_fst 0 vs, map_map, zipIdx_map_fst]
    rfl
  unfold validateUniqueValidatorSet
  rw [checkValidators_eq_ok, hfresh, hfresh, hfresh', hfresh', hmap address,
    hmap fun v => deps.toBytes v.pubKey, hmap blsKey, hmap relayerAddress]
  exact ⟨fun h => ⟨h.1, h.2.1, h.2.2.1, h.2.2.2⟩,
    fun h => ⟨h.addresses, h.pubkeys, h.blsKeys, h.relayerAddresses⟩⟩

lemma Distinct.perm {ws : List (Validator deps.PublicKey)} (h : Distinct deps vs)
    (hperm : ws.Perm vs) : Distinct deps ws where
  addresses := (hperm.map _).nodup_iff.mpr h.addresses
  pubkeys := (hperm.map _).nodup_iff.mpr h.pubkeys
  blsKeys := ((hperm.map _).filter _).nodup_iff.mpr h.blsKeys
  relayerAddresses := ((hperm.map _).filter _).nodup_iff.mpr h.relayerAddresses

/-! ### Chunks of one width -/

/-- Byte strings of one width are their own records. -/
def chunkCodec (w : ℕ) : Codec { chunk : Bytes // chunk.length = w } UInt8 where
  width := w
  encode := Subtype.val
  decode chunk := if h : chunk.length = w then ⟨chunk, h⟩ else ⟨List.replicate w 0, by simp⟩
  length_encode := Subtype.property
  decode_encode chunk := dif_pos chunk.property

lemma slice_eq_record (w i : ℕ) (bytes : Bytes) :
    slice bytes (i * w) ((i + 1) * w) = (chunkCodec w).record bytes i := by
  rw [slice, drop_take, Nat.succ_mul, Nat.add_sub_cancel_left]
  rfl

lemma mapM_slice_flatten {β : Type} {w : ℕ} (f : Bytes → Option β)
    (h : ∀ part ∈ parts, part.length = w) :
    (List.range parts.length).mapM (fun i => f (slice parts.flatten (i * w) ((i + 1) * w))) =
      parts.mapM f := by
  obtain ⟨chunks, rfl⟩ : ∃ chunks : List { chunk : Bytes // chunk.length = w },
      chunks.map val = parts := ⟨parts.attachWith _ h, by simp⟩
  have hall : (chunks.map val).flatten = (chunkCodec w).encodeAll chunks := by
    rw [Codec.encodeAll, flatMap_def]
    rfl
  have hrecords := (chunkCodec w).map_record_encodeAll chunks id
  calc (List.range (chunks.map val).length).mapM
        (fun i => f (slice (chunks.map val).flatten (i * w) ((i + 1) * w)))
      = ((List.range chunks.length).map fun i =>
          id ((chunkCodec w).record ((chunkCodec w).encodeAll chunks) i)).mapM f := by
        rw [mapM_map, length_map, hall]
        simp only [slice_eq_record, Function.comp_def, id]
    _ = (chunks.map val).mapM f := by
        rw [hrecords]
        rfl

lemma length_flatten_of_forall {w : ℕ} (h : ∀ part ∈ parts, part.length = w) :
    parts.flatten.length = parts.length * w := by
  induction parts with
  | nil => simp
  | cons part parts ih =>
    rw [forall_mem_cons] at h
    rw [flatten_cons, length_append, h.1, ih h.2, length_cons]
    ring

/-! ### One validator -/

/-- What the precompile may rely on: the bytes of a key are read back as the key, text that ends in
NUL bytes is read as such, a validator set keeps its members, and no members have no power. -/
structure Faithful (deps : CometDeps) : Prop where
  key : ∀ pk, (deps.toBytes pk).length = validatorPubkeyLength →
    deps.fromRawEd25519 (deps.toBytes pk) = some pk
  utf8 : ∀ (s : String) (n : ℕ), deps.fromUtf8Lossy (s.toUTF8.toList ++ List.replicate n 0) =
    s ++ String.ofList (List.replicate n (Char.ofNat 0))
  members : ∀ vs, (deps.withoutProposer vs).Perm vs
  overlap : ∀ signedHeader threshold,
    deps.hasSufficientValidatorsOverlap signedHeader [] threshold = false

lemma beNat_toBeBytes {n : ℕ} (h : n < 2 ^ 64) : beNat (toBeBytes n) = n := by
  change beNat (wordBytes 8 n) = n
  exact beNat_wordBytes_of_lt h

/-- A validator as it is read back: its address is that of its key, and its power has 32 bits. -/
def Validator.readBack (deps : CometDeps) (v : Validator deps.PublicKey) :
    Validator deps.PublicKey :=
  { v with address := deps.accountId v.pubKey, power := v.power % 2 ^ 32 }

lemma decodeValidator_encodeValidator (hdeps : Faithful deps) {v : Validator deps.PublicKey}
    {part : Bytes} (h : encodeValidator deps v = some part) :
    decodeValidator deps part = some (v.readBack deps) := by
  unfold encodeValidator at h
  split at h
  · next hlen =>
    obtain ⟨hkey, hrelayer, hbls⟩ := hlen
    cases h
    have hbe := Slices.length_toBeBytes v.power
    have hread : (deps.toBytes v.pubKey ++ toBeBytes v.power ++ v.relayerAddress ++
        v.blsKey).take validatorPubkeyLength = deps.toBytes v.pubKey := by
      rw [append_assoc, append_assoc, take_left' hkey]
    have hpowers : slice (deps.toBytes v.pubKey ++ toBeBytes v.power ++ v.relayerAddress ++
        v.blsKey) validatorPubkeyLength (validatorPubkeyLength + validatorVotingPowerLength) =
        toBeBytes v.power := by
      rw [append_assoc, append_assoc]
      exact slice_append_append _ _ _ hkey.symm (by rw [hkey, hbe]; rfl)
    have hrelayers : slice (deps.toBytes v.pubKey ++ toBeBytes v.power ++ v.relayerAddress ++
        v.blsKey) (validatorPubkeyLength + validatorVotingPowerLength)
        (validatorPubkeyLength + validatorVotingPowerLength + relayerAddressLength) =
        v.relayerAddress := by
      rw [append_assoc (deps.toBytes v.pubKey ++ toBeBytes v.power)]
      exact slice_append_append _ _ _ (by rw [length_append, hkey, hbe]; rfl)
        (by rw [length_append, hkey, hbe, hrelayer]; rfl)
    have hblsKeys : (deps.toBytes v.pubKey ++ toBeBytes v.power ++ v.relayerAddress ++
        v.blsKey).drop
        (validatorPubkeyLength + validatorVotingPowerLength + relayerAddressLength) =
        v.blsKey := drop_left' (by
      rw [length_append, length_append, hkey, hbe, hrelayer]; rfl)
    unfold decodeValidator
    simp only
    have hcut : beNat (toBeBytes v.power) % 2 ^ 32 = v.power % 2 ^ 32 := by
      change beNat (wordBytes 8 v.power) % 2 ^ 32 = _
      rw [beNat_wordBytes]
      exact Nat.mod_mod_of_dvd _ (by decide)
    rw [hread, hdeps.key v.pubKey hkey, Option.map_some, hpowers, hrelayers, hblsKeys, hcut]
    rfl
  · cases h

lemma mapM_decodeValidator (hdeps : Faithful deps)
    (h : vs.mapM (encodeValidator deps) = some parts) :
    parts.length = vs.length ∧ (∀ part ∈ parts, part.length = singleValidatorBytesLength) ∧
      parts.mapM (decodeValidator deps) = some (vs.map (readBack deps)) := by
  induction vs generalizing parts with
  | nil =>
    cases h
    exact ⟨rfl, by simp, rfl⟩
  | cons v vs ih =>
    rw [mapM_cons] at h
    obtain ⟨part, hpart, h⟩ := Option.bind_eq_some_iff.mp h
    obtain ⟨rest, hrest, h⟩ := Option.bind_eq_some_iff.mp h
    cases h
    obtain ⟨hlen, hwidth, hmap⟩ := ih hrest
    refine ⟨by rw [length_cons, length_cons, hlen], ?_, ?_⟩
    · rw [forall_mem_cons]
      exact ⟨Slices.length_of_encodeValidator hpart, hwidth⟩
    · rw [mapM_cons, decodeValidator_encodeValidator hdeps hpart, hmap]
      rfl

/-! ### The whole state -/

lemma trimEndNul_append (s : String) (n : ℕ) :
    trimEndNul (s ++ String.ofList (List.replicate n (Char.ofNat 0))) = trimEndNul s := by
  unfold trimEndNul
  rw [String.toList_append, String.toList_ofList, reverse_append, reverse_replicate,
    dropWhile_append]
  simp

lemma trimEndNul_trimEndNul (s : String) : trimEndNul (trimEndNul s) = trimEndNul s := by
  unfold trimEndNul
  rw [String.toList_ofList, reverse_reverse, dropWhile_idempotent]

lemma trimEndNul_of_decodeConsensusState {input : Bytes} {unique : Bool}
    (h : decodeConsensusState deps input unique = .ok state) :
    trimEndNul state.chainId = state.chainId := by
  unfold decodeConsensusState at h
  split at h
  · cases h
  split at h
  · cases h
  simp only at h
  split at h
  · cases h
  split at h
  · revert h
    cases validateUniqueValidatorSet deps _ with
    | error _ => exact fun h => nomatch h
    | ok _ =>
      rintro ⟨⟩
      exact trimEndNul_trimEndNul _
  · cases h
    exact trimEndNul_trimEndNul _

structure StateBytes (bytes chainId height hash set : Bytes) : Prop where
  eq : bytes = chainId ++ height ++ hash ++ set
  chainId : chainId.length = chainIdLength
  height : height.length = heightLength
  hash : hash.length = validatorSetHashLength

namespace StateBytes

variable {bytes chainId height hash set : Bytes}

section

variable (h : StateBytes bytes chainId height hash set)
include h

lemma length : bytes.length = minimumLength + set.length := by
  rw [h.eq, length_append, length_append, length_append, h.chainId, h.height, h.hash]
  rfl

lemma take_chainId : bytes.take chainIdLength = chainId := by
  rw [h.eq, append_assoc, append_assoc, take_left' h.chainId]

lemma slice_height : slice bytes chainIdLength (chainIdLength + heightLength) = height := by
  rw [h.eq, append_assoc, append_assoc]
  exact slice_append_append _ _ _ h.chainId.symm (by rw [h.chainId, h.height])

lemma slice_hash : slice bytes (chainIdLength + heightLength) minimumLength = hash := by
  rw [h.eq, append_assoc (chainId ++ height)]
  refine slice_append_append _ _ _ ?_ ?_
  · rw [length_append, h.chainId, h.height]
  · rw [length_append, h.chainId, h.height, h.hash]
    rfl

lemma drop_set : bytes.drop minimumLength = set := by
  rw [h.eq]
  refine drop_left' ?_
  rw [length_append, length_append, h.chainId, h.height, h.hash]
  rfl

end

end StateBytes

lemma stateBytes_of_encode {bytes : Bytes} (h : state.encode deps = .ok (some bytes)) :
    ∃ n parts, state.validators.mapM (encodeValidator deps) = some parts ∧
      StateBytes bytes (state.chainId.toUTF8.toList ++ List.replicate n 0)
        (toBeBytes state.height) state.nextValidatorSetHash parts.flatten ∧
      minimumLength + state.validators.length * singleValidatorBytesLength ≤
        maxConsensusStateLength := by
  unfold ConsensusState.encode at h
  simp only at h
  split at h
  · cases h
  next hmax =>
    split at h
    · cases h
    next hlong =>
      obtain ⟨parts, hparts, h⟩ := Option.bind_eq_some_iff.mp (Except.ok.inj h)
      split at h
      · next hhash =>
        cases h
        refine ⟨_, parts, hparts, ⟨rfl, ?_, Slices.length_toBeBytes _, hhash⟩, not_lt.mp hmax⟩
        rw [length_append, length_replicate]
        omega
      · cases h

def ConsensusState.restored (deps : CometDeps) (state : ConsensusState deps.PublicKey) :
    ConsensusState deps.PublicKey :=
  { state with
    validators := deps.withoutProposer (state.validators.map (Validator.readBack deps)) }

/-- **An encoded state is read back**, by a call that asks for distinct validators if they are. -/
lemma decodeConsensusState_encode (hdeps : Faithful deps) {bytes : Bytes}
    (h : state.encode deps = .ok (some bytes)) (hchain : trimEndNul state.chainId = state.chainId)
    (hheight : state.height < 2 ^ 64) (hsome : state.validators ≠ [])
    (requireUniqueValidators : Bool) :
    decodeConsensusState deps bytes requireUniqueValidators = if requireUniqueValidators then
        (validateUniqueValidatorSet deps (state.restored deps).validators).map
          fun _ => state.restored deps
      else .ok (state.restored deps) := by
  obtain ⟨n, parts, hparts, hbytes, hmax⟩ := stateBytes_of_encode h
  obtain ⟨hcount, hwidth, hmap⟩ := mapM_decodeValidator hdeps hparts
  have hset := length_flatten_of_forall hwidth
  have hlength : bytes.length = minimumLength + parts.length * singleValidatorBytesLength := by
    rw [hbytes.length, hset]
  have hpos : 0 < parts.length * singleValidatorBytesLength := by
    rw [hcount]
    exact Nat.mul_pos (length_pos_iff.mpr hsome) (by decide)
  have hvalidators : (List.range parts.length).mapM (fun i => decodeValidator deps
      (slice parts.flatten (i * singleValidatorBytesLength)
        ((i + 1) * singleValidatorBytesLength))) =
      some (state.validators.map (readBack deps)) := by
    rw [mapM_slice_flatten _ hwidth, hmap]
  unfold decodeConsensusState
  rw [if_neg, if_neg]
  · simp only [hlength, Nat.add_sub_cancel_left, hbytes.take_chainId, hbytes.slice_height,
      hbytes.slice_hash, hbytes.drop_set]
    rw [Nat.mul_div_cancel _ (by decide), hvalidators]
    simp only [hdeps.utf8, trimEndNul_append, hchain, beNat_toBeBytes hheight]
    rfl
  · rw [hlength, hcount]
    exact not_lt.mpr hmax
  · rintro (hle | hne)
    · omega
    · rw [hlength, Nat.add_sub_cancel_left, Nat.mul_mod_left] at hne
      exact hne rfl

/-! ### From one call to the next -/

/-- What the accepted light block says about a validator, its address apart. -/
def Validator.content {PublicKey : Type} (v : Validator PublicKey) :
    PublicKey × ℕ × Bytes × Bytes :=
  (v.pubKey, v.power, v.relayerAddress, v.blsKey)

/-- The state that a call returns says what its light block says. -/
structure Carries (decoded : ConsensusState deps.PublicKey)
    (lightBlock : LightBlock deps.PublicKey) : Prop where
  chainId : decoded.chainId = lightBlock.signedHeader.header.chainId
  height : decoded.height = lightBlock.signedHeader.header.height
  nextValidatorSetHash :
    decoded.nextValidatorSetHash = lightBlock.signedHeader.header.nextValidatorsHash
  validators :
    (decoded.validators.map Validator.content).Perm (lightBlock.validators.map Validator.content)

lemma validators_ne_nil (hdeps : Faithful deps) {next : ConsensusState deps.PublicKey}
    {lightBlock : LightBlock deps.PublicKey} (h : Accepted state next lightBlock) :
    lightBlock.validators ≠ [] := by
  intro hnil
  have hsigned := h.signed
  rw [hnil, hdeps.overlap] at hsigned
  exact Bool.false_ne_true hsigned

lemma drop_encodeLightBlockValidationResult (changed : Bool) (bytes : Bytes) :
    (encodeLightBlockValidationResult changed bytes).drop consensusStateLengthBytesLength =
      bytes := by
  unfold encodeLightBlockValidationResult
  refine drop_left' ?_
  rw [length_append, length_cons, length_replicate, Slices.length_toBeBytes]
  rfl

/-- **The consensus state survives the round trip exactly while voting powers have 32 bits.**
Whatever variant of the precompile accepts an input, the bytes it returns are then decoded to the
chain id, the height, the next validator set hash and the validators of the light block, so that the
trusted power is the real one. A call that asks for distinct validators must find them so. -/
theorem returned_state_carries (deps : CometDeps) (hdeps : Faithful deps)
    (hheights : Slices.HeightsFit deps) (input : Bytes)
    (gasLimit reservoir perByteGas gasUsed r : ℕ)
    (isHertz unique : Bool) (output : Bytes)
    (h : cometbftLightBlockValidationRunInner deps input gasLimit reservoir isHertz unique
      perByteGas = .success gasUsed output r) :
    ∃ state lightBlock, decodeLightBlock deps input unique = .ok (state, lightBlock) ∧ ∀ later,
      ((∃ decoded, decodeConsensusState deps (output.drop consensusStateLengthBytesLength) later =
            .ok decoded ∧ Carries decoded lightBlock ∧
          totalPower decoded.validators = totalPower lightBlock.validators) ↔
        (∀ v ∈ lightBlock.validators, v.power < 2 ^ 32) ∧
          (later = true → Distinct deps (lightBlock.validators.map (readBack deps)))) := by
  obtain ⟨state, lightBlock, changed, next, bytes, hdecode, happly, hencode, rfl⟩ :=
    runInner_success h
  refine ⟨state, lightBlock, hdecode, fun later => ?_⟩
  have haccepted := applyLightBlock_ok happly
  obtain ⟨⟨before, hbefore⟩, -⟩ := decodeLightBlock_eq_ok hdecode
  have hheight := Slices.height_le_of_decodeLightBlock hheights hdecode
  have hchain := trimEndNul_of_decodeConsensusState hbefore
  rw [haccepted.stored] at hencode
  rw [drop_encodeLightBlockValidationResult, decodeConsensusState_encode hdeps hencode hchain
    (Nat.lt_succ_of_le hheight) (validators_ne_nil hdeps haccepted) later]
  set stored : ConsensusState deps.PublicKey := ⟨state.chainId, _, _, lightBlock.validators⟩
  have hmembers : (stored.restored deps).validators.Perm
      (lightBlock.validators.map (readBack deps)) := hdeps.members _
  have hdistinct : Distinct deps (stored.restored deps).validators ↔
      Distinct deps (lightBlock.validators.map (readBack deps)) :=
    ⟨fun h => h.perm hmembers.symm, fun h => h.perm hmembers⟩
  rw [← hdistinct, ← validateUniqueValidatorSet_eq_ok]
  constructor
  · rintro ⟨decoded, hok, hcarries, -⟩
    obtain ⟨rfl, hvalid⟩ : decoded = stored.restored deps ∧ (later = true →
        validateUniqueValidatorSet deps (stored.restored deps).validators = .ok ()) := by
      cases later with
      | false => exact ⟨(Except.ok.inj hok).symm, fun h => by cases h⟩
      | true =>
        obtain ⟨_, hvalid, rfl⟩ := map_eq_ok hok
        exact ⟨rfl, fun _ => hvalid⟩
    refine ⟨fun v hv => ?_, hvalid⟩
    -- the powers that are read back have 32 bits, and are those of the light block
    have hpowers := ((hmembers.map content).symm.trans hcarries.validators).map (·.2.1)
    rw [map_map, map_map, map_map] at hpowers
    obtain ⟨w, -, hw⟩ := mem_map.mp (hpowers.mem_iff.mpr (mem_map_of_mem hv))
    exact lt_of_eq_of_lt hw.symm (Nat.mod_lt _ (by decide))
  · rintro ⟨hpower, hvalid⟩
    have hsame : ∀ v ∈ lightBlock.validators, content (readBack deps v) = content v := by
      intro v hv
      simp only [content, readBack, Nat.mod_eq_of_lt (hpower v hv)]
    have hcontent := hmembers.map content
    rw [map_map, map_congr_left (f := content ∘ readBack deps) hsame] at hcontent
    refine ⟨stored.restored deps, ?_, ⟨haccepted.chainId.symm, rfl, rfl, hcontent⟩, ?_⟩
    · cases later with
      | false => rfl
      | true =>
        rw [if_pos rfl, hvalid rfl]
        rfl
    · have hpowers := (hcontent.map (·.2.1)).sum_nat
      rwa [map_map, map_map] at hpowers

/-! ### A validator of 32 bits, and one of 33 -/

lemma toList_loop_eq (bytes : ByteArray) (i : ℕ) (acc : List UInt8) :
    ByteArray.toList.loop bytes i acc = acc.reverse ++ bytes.data.toList.drop i := by
  fun_induction ByteArray.toList.loop bytes i acc with
  | case1 i acc h ih =>
    have hget : bytes.get! i = bytes.data.toList[i] := by
      simp [ByteArray.get!, h]
    rw [ih, reverse_cons, append_assoc, singleton_append, hget, ← drop_eq_getElem_cons]
  | case2 i acc h =>
    rw [drop_of_length_le (not_lt.mp h), append_nil]

lemma toList_toUTF8 (s : String) : s.toUTF8.toList = s.toByteArray.data.toList :=
  toList_loop_eq _ 0 []

lemma utf8Encode_replicate (n : ℕ) :
    (List.replicate n (Char.ofNat 0)).utf8Encode = (List.replicate n (0 : UInt8)).toByteArray := by
  have hnul : String.utf8EncodeChar (Char.ofNat 0) = [0] := by decide
  unfold utf8Encode
  rw [flatMap_replicate, hnul]
  simp

lemma fromUTF8?_toUTF8 (s : String) (n : ℕ) :
    String.fromUTF8? ⟨(s.toUTF8.toList ++ List.replicate n 0).toArray⟩ =
      some (s ++ String.ofList (List.replicate n (Char.ofNat 0))) := by
  set t := s ++ String.ofList (List.replicate n (Char.ofNat 0))
  have hbytes : (⟨(s.toUTF8.toList ++ List.replicate n 0).toArray⟩ : ByteArray) =
    t.toByteArray := by
    rw [String.toByteArray_append, String.toByteArray_ofList, utf8Encode_replicate, toList_toUTF8]
    ext1
    rw [ByteArray.data_append, data_toByteArray, ← append_toArray, Array.toArray_toList]
  rw [hbytes]
  exact dif_pos t.isValidUTF8

def poweredDeps (power : ℕ) : CometDeps :=
  { soleDeps with
    fromUtf8Lossy := fun bs => (String.fromUTF8? ⟨bs.toArray⟩).getD ""
    validatorSetTryFrom := fun _ => some [{ soleValidator with power := power }] }

instance (power : ℕ) : DecidableEq (poweredDeps power).PublicKey :=
  inferInstanceAs (DecidableEq Bytes)

lemma powered_faithful (power : ℕ) : Faithful (poweredDeps power) where
  key _ _ := rfl
  utf8 s n := by
    change (String.fromUTF8? _).getD "" = _
    rw [fromUTF8?_toUTF8]
    rfl
  members _ := List.Perm.refl _
  overlap _ threshold := decide_eq_false (p := threshold.numerator * 0 < threshold.denominator * 0)
    (lt_irrefl 0)

lemma powered_heightsFit (power : ℕ) : Slices.HeightsFit (poweredDeps power) := by
  rintro _ _ ⟨⟩
  exact Slices.two_le_u64Max

/-- What a call returns for the validator with some voting power. -/
def poweredOutput (power : ℕ) : Bytes :=
  1 :: List.replicate 23 0 ++ toBeBytes 180 ++ (99 :: List.replicate 31 0) ++ toBeBytes 2 ++
    word 7 ++ word 7 ++ toBeBytes power ++ List.replicate 68 0

def poweredLightBlock (power : ℕ) : LightBlock (poweredDeps power).PublicKey :=
  ⟨soleSignedHeader 7, [{ soleValidator with power := power }],
    [{ soleValidator with power := power }]⟩

lemma powered_run : ∀ power ∈ [10, 2 ^ 32],
    cometbftLightBlockValidationRunInner (poweredDeps power) (soleInput 7) 6408 0 true true 16 =
      .success 6408 (poweredOutput power) 0 ∧
    decodeLightBlock (poweredDeps power) (soleInput 7) true =
      .ok (soleState 7, poweredLightBlock power) := by
  decide +kernel

/-- Power 10 comes back. -/
theorem returned_state_carries_ten :
    cometbftLightBlockValidationRunInner (poweredDeps 10) (soleInput 7) 6408 0 true true 16 =
      .success 6408 (poweredOutput 10) 0 ∧
    ∃ decoded, decodeConsensusState (poweredDeps 10) ((poweredOutput 10).drop 32) true =
        .ok decoded ∧
      Carries decoded (poweredLightBlock 10) := by
  obtain ⟨hrun, hin⟩ := powered_run 10 (by decide)
  obtain ⟨state, lightBlock, hdecode, hcarries⟩ := returned_state_carries (poweredDeps 10)
    (powered_faithful 10) (powered_heightsFit 10) (soleInput 7) 6408 0 16 6408 0 true true _ hrun
  obtain ⟨rfl, rfl⟩ := Prod.mk.inj (Except.ok.inj (hdecode.symm.trans hin))
  obtain ⟨decoded, hdecoded, hsame, -⟩ :=
    (hcarries true).mpr
      ⟨by decide, fun _ => validateUniqueValidatorSet_eq_ok.mp (by decide +kernel)⟩
  exact ⟨hrun, decoded, hdecoded, hsame⟩

/-- **A voting power of 2 ^ 32 is lost.** The call returns it, and the next call reads zero. -/
theorem returned_power_lost :
    Faithful (poweredDeps (2 ^ 32)) ∧ Slices.HeightsFit (poweredDeps (2 ^ 32)) ∧
    cometbftLightBlockValidationRunInner (poweredDeps (2 ^ 32)) (soleInput 7) 6408 0 true true 16 =
      .success 6408 (poweredOutput (2 ^ 32)) 0 ∧
    decodeLightBlock (poweredDeps (2 ^ 32)) (soleInput 7) true =
      .ok (soleState 7, poweredLightBlock (2 ^ 32)) ∧
    ∃ decoded, decodeConsensusState (poweredDeps (2 ^ 32)) ((poweredOutput (2 ^ 32)).drop 32) true =
        .ok decoded ∧
      totalPower decoded.validators = 0 ∧
      totalPower (poweredLightBlock (2 ^ 32)).validators = 2 ^ 32 ∧
      ¬Carries decoded (poweredLightBlock (2 ^ 32)) := by
  obtain ⟨hrun, hin⟩ := powered_run (2 ^ 32) (by decide)
  refine ⟨powered_faithful _, powered_heightsFit _, hrun, hin,
    ⟨"c", 2, word 7, [{ soleValidator with power := 0 }]⟩, by decide +kernel, rfl, rfl,
    fun h => ?_⟩
  exact absurd h.validators (by decide +kernel)

end CometBft

end RethBsc
