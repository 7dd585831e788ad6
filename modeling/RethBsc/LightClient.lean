import RethBsc.CometBft

/-!
What a successful light-block validation vouches for.

A light client may store a validator set only if the header it comes with names that set and
is the header the counted signatures are over. The precompile checks neither binding: the
commit's signatures are over the commit's own block id, which nothing ties to the header,
and nothing ties the stored set to the header's validators hash. `sound_iff_validateBasic`
says that these two missing checks are all that is missing.
-/

namespace RethBsc.CometBft

variable {deps : CometDeps}

def totalPower {PublicKey : Type} (validators : List (Validator PublicKey)) : ℕ :=
  (validators.map Validator.power).sum

/-- Members of a set with more than the given fraction of its power signed a block id at a
height. -/
def SignedAbove (Signed : Validator deps.PublicKey → Bytes → ℕ → Prop) (threshold : TrustThreshold)
    (validators : List (Validator deps.PublicKey)) (blockId : Bytes) (height : ℕ) : Prop :=
  ∃ signers : List (Validator deps.PublicKey), signers.Sublist validators ∧
    threshold.numerator * totalPower validators < threshold.denominator * totalPower signers ∧
    ∀ v ∈ signers, Signed v blockId height

/-- The voting power test only succeeds for the power that signed the commit's own block id
and height. -/
def OverlapSound (deps : CometDeps) (Signed : Validator deps.PublicKey → Bytes → ℕ → Prop) : Prop :=
  ∀ signedHeader validators threshold,
    deps.hasSufficientValidatorsOverlap signedHeader validators threshold = true →
    SignedAbove Signed threshold validators signedHeader.commit.blockId signedHeader.commit.height

/-- The two bindings of a light block: its header is the one the commit is for, and its
validator set is the one the header names. -/
structure ValidateBasic (headerHash : BlockHeader → Bytes)
    (lightBlock : LightBlock deps.PublicKey) : Prop where
  header : headerHash lightBlock.signedHeader.header = lightBlock.signedHeader.commit.blockId
  validators : deps.setHash lightBlock.validators = lightBlock.signedHeader.header.validatorsHash

/-- What an accepted light block should vouch for: the bindings, and enough power of the
right sets behind exactly this header. -/
structure Sound (headerHash : BlockHeader → Bytes)
    (Signed : Validator deps.PublicKey → Bytes → ℕ → Prop) (state : ConsensusState deps.PublicKey)
    (lightBlock : LightBlock deps.PublicKey) : Prop where
  basic : ValidateBasic headerHash lightBlock
  adjacent : lightBlock.signedHeader.header.height = state.height + 1 →
    deps.setHash lightBlock.validators = state.nextValidatorSetHash ∧
      SignedAbove Signed .twoThirds lightBlock.validators
        (headerHash lightBlock.signedHeader.header) lightBlock.signedHeader.header.height
  skipping : lightBlock.signedHeader.header.height ≠ state.height + 1 →
    SignedAbove Signed .oneThird state.validators
        (headerHash lightBlock.signedHeader.header) lightBlock.signedHeader.header.height ∧
      SignedAbove Signed .twoThirds lightBlock.validators
        (headerHash lightBlock.signedHeader.header) lightBlock.signedHeader.header.height

/-! ### What the step and the run have checked -/

structure Accepted (state next : ConsensusState deps.PublicKey)
    (lightBlock : LightBlock deps.PublicKey) : Prop where
  higher : state.height < lightBlock.signedHeader.header.height
  chainId : lightBlock.signedHeader.header.chainId = state.chainId
  adjacent : lightBlock.signedHeader.header.height = state.height + 1 →
    state.nextValidatorSetHash = lightBlock.signedHeader.header.validatorsHash
  trusting : lightBlock.signedHeader.header.height ≠ state.height + 1 →
    deps.hasSufficientValidatorsOverlap lightBlock.signedHeader state.validators .oneThird = true
  signed : deps.hasSufficientValidatorsOverlap lightBlock.signedHeader lightBlock.validators
    .twoThirds = true
  stored : next = ⟨state.chainId, lightBlock.signedHeader.header.height,
    lightBlock.signedHeader.header.nextValidatorsHash, lightBlock.validators⟩

variable {lightBlock : LightBlock deps.PublicKey}

theorem applyLightBlock_ok {state next : ConsensusState deps.PublicKey} {changed : Bool}
    (h : state.applyLightBlock deps lightBlock = .ok (changed, next)) :
    Accepted state next lightBlock := by
  unfold ConsensusState.applyLightBlock at h
  simp only at h
  split_ifs at h with hheight hchain hadj hnext hover htrust hover'
  · obtain ⟨-, rfl⟩ := Prod.mk.inj (Except.ok.inj h)
    exact
      { higher := not_le.mp hheight, chainId := not_not.mp hchain
        adjacent := fun _ => not_not.mp hnext
        trusting := fun hne => absurd hadj.symm hne
        signed := by simpa using hover
        stored := rfl }
  · obtain ⟨-, rfl⟩ := Prod.mk.inj (Except.ok.inj h)
    exact
      { higher := not_le.mp hheight, chainId := not_not.mp hchain
        adjacent := fun heq => absurd heq.symm hadj
        trusting := fun _ => by simpa using htrust
        signed := by simpa using hover'
        stored := rfl }

/-- **Inversion of the decoding**: a state out of some bytes, and a light block whose validators are
distinct where that is asked for. -/
lemma decodeLightBlock_eq_ok {input : Bytes} {unique : Bool} {state : ConsensusState deps.PublicKey}
    (h : decodeLightBlock deps input unique = .ok (state, lightBlock)) :
    (∃ bytes, decodeConsensusState deps bytes unique = .ok state) ∧
    (∃ proto, convertLightBlockFromProto deps proto = .ok lightBlock) ∧
    (unique → validateUniqueValidatorSet deps lightBlock.validators = .ok ()) := by
  obtain ⟨decoded, hdecode, h⟩ := bind_eq_ok h
  obtain ⟨converted, hconvert, h⟩ := bind_eq_ok h
  have hstate : ∃ bytes, decodeConsensusState deps bytes unique = .ok decoded.1 := by
    unfold decodeLightBlockValidationInput at hdecode
    simp only at hdecode
    split at hdecode
    · cases hdecode
    split at hdecode
    · cases hdecode
    split at hdecode
    · cases hdecode
    obtain ⟨before, hbefore, hdecode⟩ := bind_eq_ok hdecode
    split at hdecode
    · cases hdecode
    · cases hdecode
      exact ⟨_, hbefore⟩
  cases unique with
  | false =>
    cases h
    exact ⟨hstate, ⟨_, hconvert⟩, fun hfalse => absurd hfalse Bool.false_ne_true⟩
  | true =>
    simp only [if_true] at h
    obtain ⟨⟨⟩, hvalid, h⟩ := bind_eq_ok h
    cases h
    exact ⟨hstate, ⟨_, hconvert⟩, fun _ => hvalid⟩

theorem runInner_success {input : Bytes} {gasLimit reservoir perByteGas gasUsed r : ℕ}
    {isHertz unique : Bool} {output : Bytes}
    (h : cometbftLightBlockValidationRunInner deps input gasLimit reservoir isHertz unique
      perByteGas = .success gasUsed output r) :
    ∃ state lightBlock changed next bytes,
      decodeLightBlock deps input unique = .ok (state, lightBlock) ∧
      state.applyLightBlock deps lightBlock = .ok (changed, next) ∧
      next.encode deps = .ok (some bytes) ∧
      output = encodeLightBlockValidationResult (isHertz && changed) bytes := by
  unfold cometbftLightBlockValidationRunInner at h
  simp only at h
  split_ifs at h with hgas
  split at h
  · cases h
  next state lightBlock hdec =>
  split at h
  · cases h
  next changed next happ =>
  split at h
  · cases h
  · cases h
  next bytes henc =>
  cases h
  exact ⟨state, lightBlock, changed, next, bytes, hdec, happ, henc, rfl⟩

/-! ### Soundness -/

/-- **Light-client soundness hangs on two unchecked bindings.** Whatever variant of the
precompile accepts an input, the new state is the light block's, and the acceptance is sound
exactly if the light block's header is the one its commit is for and its validator set is
the one the header names. -/
theorem sound_iff_validateBasic (headerHash : BlockHeader → Bytes)
    (Signed : Validator deps.PublicKey → Bytes → ℕ → Prop) (hoverlap : OverlapSound deps Signed)
    (input : Bytes) (gasLimit reservoir perByteGas gasUsed r : ℕ) (isHertz unique : Bool)
    (output : Bytes)
    (h : cometbftLightBlockValidationRunInner deps input gasLimit reservoir isHertz unique
      perByteGas = .success gasUsed output r) :
    ∃ state lightBlock changed bytes,
      decodeLightBlock deps input unique = .ok (state, lightBlock) ∧
      ConsensusState.encode deps ⟨state.chainId, lightBlock.signedHeader.header.height,
        lightBlock.signedHeader.header.nextValidatorsHash, lightBlock.validators⟩ =
          .ok (some bytes) ∧
      output = encodeLightBlockValidationResult changed bytes ∧
      (Sound headerHash Signed state lightBlock ↔ ValidateBasic headerHash lightBlock) := by
  obtain ⟨state, lightBlock, changed, next, bytes, hdec, happ, henc, hout⟩ := runInner_success h
  have hacc := applyLightBlock_ok happ
  rw [hacc.stored] at henc
  refine ⟨state, lightBlock, isHertz && changed, bytes, hdec, henc, hout, fun hs => hs.basic,
    fun hb => ?_⟩
  -- once the header is bound, the signatures over the commit's block id are over the header
  have hsigned := hoverlap _ _ _ hacc.signed
  rw [← hb.header, ← lightBlock.signedHeader.sameHeight] at hsigned
  refine ⟨hb, fun hadj => ⟨?_, hsigned⟩, fun hskip => ⟨?_, hsigned⟩⟩
  · rw [hb.validators, hacc.adjacent hadj]
  · have htrusted := hoverlap _ _ _ (hacc.trusting hskip)
    rwa [← hb.header, ← lightBlock.signedHeader.sameHeight] at htrusted

/-! ### An honest and a forged light block -/

/-- Thirty-two equal bytes, for keys and hashes. -/
def word (b : UInt8) : Bytes := List.replicate 32 b

/-- The validator with key 7, who signs whatever is asked for. -/
def soleValidator : Validator Bytes :=
  ⟨(word 7).take 20, word 7, 10, List.replicate 48 0, List.replicate 20 0⟩

def soleSigners (validators : List (Validator Bytes)) : List (Validator Bytes) :=
  validators.filter fun v => decide (v.pubKey = word 7)

lemma mem_soleSigners {validators : List (Validator Bytes)} {v : Validator Bytes}
    (h : v ∈ soleSigners validators) : v.pubKey = word 7 :=
  of_decide_eq_true (List.mem_filter.mp h).2

/-- Height 2, a header that names the validators hash `b`, and a commit over block id 7. -/
def soleSignedHeader (b : UInt8) : SignedHeader :=
  ⟨⟨"c", 2, word b, word 7, []⟩, ⟨2, word 7, []⟩, rfl⟩

/-- The first byte of a light block is the validators hash its header names; a set with one
member hashes to its key. -/
def soleDeps : CometDeps where
  PublicKey := Bytes
  SignedHeaderProto := UInt8
  ValidatorSetProto := Unit
  fromRawEd25519 := some
  toBytes := id
  accountId k := k.take 20
  fromUtf8Lossy bs := String.ofList (bs.map fun b => Char.ofNat b.toNat)
  mergeLightBlock bs := bs.head?.map fun b => (some b, some ())
  signedHeaderTryFrom b := some (soleSignedHeader b)
  validatorSetTryFrom _ := some [soleValidator]
  withoutProposer := id
  setHash vs := vs.flatMap Validator.pubKey
  hasSufficientValidatorsOverlap _ vs t := decide (t.numerator * totalPower vs <
    t.denominator * totalPower (soleSigners vs))

instance : DecidableEq soleDeps.PublicKey := inferInstanceAs (DecidableEq Bytes)

def SignedBySole (v : Validator soleDeps.PublicKey) (_blockId : Bytes) (_height : ℕ) : Prop :=
  v.pubKey = word 7

/-- A trusted state at height 1, of the validator with key 5, that expects the set with hash
`b` next. -/
def soleState (b : UInt8) : ConsensusState soleDeps.PublicKey :=
  ⟨"c", 1, word b, [⟨(word 5).take 20, word 5, 10, List.replicate 48 0, List.replicate 20 0⟩]⟩

/-- That state, and a light block that names the expected set. -/
def soleInput (b : UInt8) : Bytes :=
  List.replicate 24 0 ++ toBeBytes 180 ++ (99 :: List.replicate 31 0) ++ toBeBytes 1 ++ word b ++
    word 5 ++ toBeBytes 10 ++ List.replicate 68 0 ++ [b]

def soleLightBlock (b : UInt8) : LightBlock soleDeps.PublicKey :=
  ⟨soleSignedHeader b, [soleValidator], [soleValidator]⟩

def soleOutput (changed : UInt8) : Bytes :=
  changed :: List.replicate 23 0 ++ toBeBytes 180 ++ (99 :: List.replicate 31 0) ++ toBeBytes 2 ++
    word 7 ++ word 7 ++ toBeBytes 10 ++ List.replicate 68 0

lemma sole_overlapSound : OverlapSound soleDeps SignedBySole := by
  intro signedHeader validators threshold h
  refine ⟨soleSigners validators, List.filter_sublist, of_decide_eq_true h, fun v hv => ?_⟩
  exact mem_soleSigners hv

lemma sole_decode : ∀ b ∈ [(5 : UInt8), 7], decodeLightBlock soleDeps (soleInput b) true =
    .ok (soleState b, soleLightBlock b) := by
  decide +kernel

/-- An honest light block: the header hashes to the commit's block id and names the set. -/
theorem sound_iff_validateBasic_honest :
    decodeLightBlock soleDeps (soleInput 7) true = .ok (soleState 7, soleLightBlock 7) ∧
    Sound (fun header => header.validatorsHash) SignedBySole (soleState 7) (soleLightBlock 7) := by
  have hrun : cometbftLightBlockValidationRunInner soleDeps (soleInput 7) 6408 0 true true 16 =
      .success 6408 (soleOutput 1) 0 := by decide +kernel
  obtain ⟨state, lightBlock, -, -, hdec, -, -, hsound⟩ :=
    sound_iff_validateBasic (fun header => header.validatorsHash) SignedBySole sole_overlapSound
      (soleInput 7) 6408 0 16 6408 0 true true _ hrun
  have hin := sole_decode 7 (by decide)
  obtain ⟨rfl, rfl⟩ := Prod.mk.inj (Except.ok.inj (hdec.symm.trans hin))
  exact ⟨hin, hsound.mpr ⟨rfl, rfl⟩⟩

/-- **A forged light block is accepted.** Every variant stores the set of the sole validator,
although the trusted state and the header name another set (hash 5), and although the
signatures are over a block id (7) that is not the header's. -/
theorem accepts_forged_light_block : OverlapSound soleDeps SignedBySole ∧
    cometbftLightBlockValidationRunBeforeHertz soleDeps (soleInput 5) 6408 0 =
      .success 3000 (soleOutput 0) 0 ∧
    cometbftLightBlockValidationRun soleDeps (soleInput 5) 6408 0 = .success 3000 (soleOutput 0) 0 ∧
    cometbftLightBlockValidationRunPasteur soleDeps (soleInput 5) 6408 0 =
      .success 6408 (soleOutput 0) 0 ∧
    decodeLightBlock soleDeps (soleInput 5) true = .ok (soleState 5, soleLightBlock 5) ∧
    ¬Sound (fun header => header.validatorsHash) SignedBySole (soleState 5) (soleLightBlock 5) := by
  have hne : word 5 ≠ word 7 := by decide
  exact ⟨sole_overlapSound, by decide +kernel, by decide +kernel, by decide +kernel,
    sole_decode 5 (by decide), fun h => hne h.basic.header⟩

end RethBsc.CometBft
