import RethBsc.HeaderBuild

/-!
The checks of a header that need nothing but the header, `validate_unsealed_header_fields`.

Each check is a function of its own; `validateUnsealedHeaderFields_ok_iff` says what a header
that passes all of them looks like.
-/

namespace RethBsc

inductive ConsensusError
  /-- "non-zero mix digest" -/
  | nonZeroMixDigest
  /-- "invalid mix digest milliseconds component" -/
  | invalidMixDigestMilliseconds
  /-- "non empty uncle hash" -/
  | nonEmptyUncleHash
  | parentBeaconBlockRootUnexpected
  | requestsHashMissing
  | requestsHashUnexpected
  /-- "invalid BlockAccessListHash, have …, expected nil" -/
  | invalidBlockAccessListHash (got : B256)
  /-- "invalid SlotNumber, have …, expected nil" -/
  | invalidSlotNumber (got : ℕ)
  /-- "invalid baseFee before fork: have …, expected 'nil'" -/
  | invalidBaseFeeBeforeFork (got : ℕ)
  | baseFeeMissing
  | baseFeeDiff (got expected : ℕ)
  | excessBlobGasUnexpected
  | blobGasUsedUnexpected
  | withdrawalsRootUnexpected
  | withdrawalsRootMissing
  | bodyWithdrawalsRootDiff (got expected : B256)
  | blobGasUsedMissing
  | excessBlobGasMissing
  /-- "blob transactions not allowed in block … (N % … != 0)" -/
  | blobTransactionsNotAllowed (number interval : ℕ)
  | blobGasUsedExceedsMaxBlobGasPerBlock (blobGasUsed maxBlobGasPerBlock : ℕ)
  | blobGasUsedNotMultipleOfBlobGasPerBlob (blobGasUsed blobGasPerBlob : ℕ)
  | headerGasUsedExceedsGasLimit (gasUsed gasLimit : ℕ)
  | parentBlockNumberMismatch (parentBlockNumber blockNumber : ℕ)
  | parentHashMismatch (got expected : B256)
  | timestampIsInPast (parentTimestamp timestamp : ℕ)
  /-- "invalid gasLimit: have …, max …" -/
  | gasLimitAboveCapacity (found max : ℕ)
  /-- "invalid gas limit: have …, want … += …" -/
  | invalidGasLimit (found want bound : ℕ)
  | excessBlobGasDiff (got expected parentExcessBlobGas parentBlobGasUsed : ℕ)
  deriving DecidableEq

def emptyOmmerRootHash : B256 := 0x1dcc4de8dec75d7aab85b567b6ccd41ad312451b948a7413f0a142fd40d49347

def emptyWithdrawalsHash : B256 :=
  0x56e81f171bcc55a6ff8345e692c0f86e5b48e01b996cadc001622fb5e363b421

def blobEligibleBlockInterval : ℕ := 5

def maxDataGasPerBlockDencun : ℕ := 786432

def dataGasPerBlob : ℕ := 131072

def B256.asSlice (hash : B256) : Bytes := wordBytes 32 hash.toNat

/-! ### Milliseconds -/

variable (header : Header)

/-- The last eight bytes of the mix digest. -/
def millisecondRemainder : ℕ :=
  if header.mixHash ≠ 0 then beNat (slice (B256.asSlice header.mixHash) 24 32) else 0

def calculateMillisecondTimestamp : ℕ :=
  wrappingAdd (header.timestamp * 1000 % 2 ^ 64) (millisecondRemainder header)

/-! ### The checks -/

def validateMixDigestForParlia (lorentzActive : Bool) : Except ConsensusError Unit :=
  if !lorentzActive then
    if header.mixHash ≠ 0 then .error .nonZeroMixDigest else .ok ()
  else if calculateMillisecondTimestamp header / 1000 ≠ header.timestamp then
    .error .invalidMixDigestMilliseconds
  else .ok ()

def validateOmmersHash : Except ConsensusError Unit :=
  if header.ommersHash ≠ emptyOmmerRootHash then .error .nonEmptyUncleHash else .ok ()

def validateParentBeaconBlockRoot (bohrActive : Bool) : Except ConsensusError Unit :=
  if bohrActive then
    if header.parentBeaconBlockRoot ≠ some 0 then .error .parentBeaconBlockRootUnexpected
    else .ok ()
  else if header.parentBeaconBlockRoot.isSome then .error .parentBeaconBlockRootUnexpected
  else .ok ()

def validateRequestsHashForBsc (pragueActive : Bool) : Except ConsensusError Unit :=
  if pragueActive then
    if header.requestsHash.isNone then .error .requestsHashMissing else .ok ()
  else if header.requestsHash.isSome then .error .requestsHashUnexpected
  else .ok ()

def validateOptionalTrailingFieldsForBsc : Except ConsensusError Unit :=
  match header.blockAccessListHash, header.slotNumber with
  | some hash, _ => .error (.invalidBlockAccessListHash hash)
  | none, some slot => .error (.invalidSlotNumber slot)
  | none, none => .ok ()

def validateHeaderBaseFee (spec : ChainSpec) : Except ConsensusError Unit :=
  match spec.london.activeAtBlock header.number, header.baseFeePerGas with
  | false, none => .ok ()
  | true, some 0 => .ok ()
  | false, some got => .error (.invalidBaseFeeBeforeFork got)
  | true, none => .error .baseFeeMissing
  | true, some got => .error (.baseFeeDiff got 0)

def validateNoBlobFields (cancunActive : Bool) : Except ConsensusError Unit :=
  if !cancunActive then
    if header.excessBlobGas.isSome then .error .excessBlobGasUnexpected
    else if header.blobGasUsed.isSome then .error .blobGasUsedUnexpected
    else .ok ()
  else .ok ()

def validateWithdrawalsRootForBsc (cancunActive : Bool) : Except ConsensusError Unit :=
  if !cancunActive then
    if header.withdrawalsRoot.isSome then .error .withdrawalsRootUnexpected else .ok ()
  else
    match header.withdrawalsRoot with
    | none => .error .withdrawalsRootMissing
    | some got =>
      if got ≠ emptyWithdrawalsHash then .error (.bodyWithdrawalsRootDiff got emptyWithdrawalsHash)
      else .ok ()

def isBlobEligibleBlock (spec : ChainSpec) (blockNumber timestamp : ℕ) : Bool :=
  if !spec.isMendelActiveAtTimestamp blockNumber timestamp then true
  else isMultipleOf blockNumber blobEligibleBlockInterval

def validate4844HeaderOfBsc (spec : ChainSpec) : Except ConsensusError Unit :=
  match header.blobGasUsed, header.excessBlobGas with
  | none, _ => .error .blobGasUsedMissing
  | some _, none => .error .excessBlobGasMissing
  | some blobGasUsed, some excessBlobGas =>
    if !isBlobEligibleBlock spec header.number header.timestamp && decide (blobGasUsed ≠ 0) then
      .error (.blobTransactionsNotAllowed header.number blobEligibleBlockInterval)
    else if blobGasUsed > maxDataGasPerBlockDencun then
      .error (.blobGasUsedExceedsMaxBlobGasPerBlock blobGasUsed maxDataGasPerBlockDencun)
    else if blobGasUsed % dataGasPerBlob ≠ 0 then
      .error (.blobGasUsedNotMultipleOfBlobGasPerBlob blobGasUsed dataGasPerBlob)
    else if excessBlobGas % dataGasPerBlob ≠ 0 then
      .error (.blobGasUsedNotMultipleOfBlobGasPerBlob excessBlobGas dataGasPerBlob)
    else .ok ()

def validateHeaderGas : Except ConsensusError Unit :=
  if header.gasUsed > header.gasLimit then
    .error (.headerGasUsedExceedsGasLimit header.gasUsed header.gasLimit)
  else .ok ()

def validateUnsealedHeaderFields (parlia : Parlia) (header : Header) :
    Except ConsensusError Unit := do
  let spec := parlia.spec
  validateMixDigestForParlia header (spec.isLorentzActiveAtTimestamp header.number header.timestamp)
  validateOmmersHash header
  validateParentBeaconBlockRoot header
    (spec.isBohrActiveAtTimestamp header.number header.timestamp)
  validateRequestsHashForBsc header
    (spec.isPragueActiveAtBlockAndTimestamp header.number header.timestamp)
  validateOptionalTrailingFieldsForBsc header
  validateHeaderBaseFee header spec
  let cancunActive := spec.isCancunActiveAtTimestamp header.number header.timestamp
  validateNoBlobFields header cancunActive
  validateWithdrawalsRootForBsc header cancunActive
  (if cancunActive then validate4844HeaderOfBsc header spec else .ok ())
  validateHeaderGas header

/-! ### What passes -/

structure BlobFieldsOk (spec : ChainSpec) (header : Header) (blobGasUsed excessBlobGas : ℕ) :
    Prop where
  used : header.blobGasUsed = some blobGasUsed
  excess : header.excessBlobGas = some excessBlobGas
  eligible : isBlobEligibleBlock spec header.number header.timestamp = true ∨ blobGasUsed = 0
  max : blobGasUsed ≤ maxDataGasPerBlockDencun
  usedMultiple : blobGasUsed % dataGasPerBlob = 0
  excessMultiple : excessBlobGas % dataGasPerBlob = 0

/-- A header whose fields are as the fork schedule has them. -/
structure UnsealedOk (spec : ChainSpec) (header : Header) : Prop where
  mixDigest : if spec.isLorentzActiveAtTimestamp header.number header.timestamp
    then calculateMillisecondTimestamp header / 1000 = header.timestamp else header.mixHash = 0
  ommers : header.ommersHash = emptyOmmerRootHash
  beaconRoot : header.parentBeaconBlockRoot =
    if spec.isBohrActiveAtTimestamp header.number header.timestamp then some 0 else none
  requests : header.requestsHash.isSome =
    spec.isPragueActiveAtBlockAndTimestamp header.number header.timestamp
  accessList : header.blockAccessListHash = none
  slot : header.slotNumber = none
  baseFee : header.baseFeePerGas = if spec.london.activeAtBlock header.number then some 0 else none
  withdrawals : header.withdrawalsRoot =
    if spec.isCancunActiveAtTimestamp header.number header.timestamp
    then some emptyWithdrawalsHash else none
  blobs : if spec.isCancunActiveAtTimestamp header.number header.timestamp
    then ∃ blobGasUsed excessBlobGas, BlobFieldsOk spec header blobGasUsed excessBlobGas
    else header.excessBlobGas = none ∧ header.blobGasUsed = none
  gas : header.gasUsed ≤ header.gasLimit

section

variable {header : Header} {spec : ChainSpec} {active : Bool}

lemma validateMixDigestForParlia_ok_iff : validateMixDigestForParlia header active = .ok () ↔
    if active then calculateMillisecondTimestamp header / 1000 = header.timestamp
    else header.mixHash = 0 := by
  cases active <;> simp [validateMixDigestForParlia]

lemma validateOmmersHash_ok_iff : validateOmmersHash header = .ok () ↔
    header.ommersHash = emptyOmmerRootHash := by
  simp [validateOmmersHash]

lemma validateParentBeaconBlockRoot_ok_iff : validateParentBeaconBlockRoot header active = .ok () ↔
    header.parentBeaconBlockRoot = if active then some 0 else none := by
  cases active <;> simp [validateParentBeaconBlockRoot]

lemma validateRequestsHashForBsc_ok_iff : validateRequestsHashForBsc header active = .ok () ↔
    header.requestsHash.isSome = active := by
  unfold validateRequestsHashForBsc
  cases active <;> cases header.requestsHash <;> simp

lemma validateOptionalTrailingFieldsForBsc_ok_iff :
    validateOptionalTrailingFieldsForBsc header = .ok () ↔
      header.blockAccessListHash = none ∧ header.slotNumber = none := by
  unfold validateOptionalTrailingFieldsForBsc
  cases header.blockAccessListHash <;> cases header.slotNumber <;> simp

lemma validateHeaderBaseFee_ok_iff : validateHeaderBaseFee header spec = .ok () ↔
    header.baseFeePerGas = if spec.london.activeAtBlock header.number then some 0 else none := by
  unfold validateHeaderBaseFee
  cases spec.london.activeAtBlock header.number <;> rcases header.baseFeePerGas with _ | _ | fee <;>
    simp

lemma validateNoBlobFields_ok_iff : validateNoBlobFields header active = .ok () ↔
    (active = false → header.excessBlobGas = none ∧ header.blobGasUsed = none) := by
  unfold validateNoBlobFields
  cases active <;> cases header.excessBlobGas <;> cases header.blobGasUsed <;> simp

lemma validateWithdrawalsRootForBsc_ok_iff : validateWithdrawalsRootForBsc header active = .ok () ↔
    header.withdrawalsRoot = if active then some emptyWithdrawalsHash else none := by
  unfold validateWithdrawalsRootForBsc
  cases active <;> cases header.withdrawalsRoot <;> simp

lemma validate4844HeaderOfBsc_ok_iff : validate4844HeaderOfBsc header spec = .ok () ↔
    ∃ blobGasUsed excessBlobGas, BlobFieldsOk spec header blobGasUsed excessBlobGas := by
  unfold validate4844HeaderOfBsc
  constructor
  · intro h
    split at h
    · cases h
    · cases h
    · next used excess hused hexcess =>
      split_ifs at h with h1 h2 h3 h4
      refine ⟨used, excess, hused, hexcess, ?_, by omega, by omega, by omega⟩
      simpa [or_iff_not_imp_left] using h1
  · rintro ⟨used, excess, hused, hexcess, heligible, hmax, hmul, hmul'⟩
    rw [hused, hexcess]
    rcases heligible with heligible | rfl
    · simp [heligible, not_lt.mpr hmax, hmul, hmul']
    · simp [hmul']

lemma validateHeaderGas_ok_iff : validateHeaderGas header = .ok () ↔
    header.gasUsed ≤ header.gasLimit := by
  simp [validateHeaderGas]

lemma bind_ok_iff {ε : Type} {x y : Except ε Unit} :
    (x >>= fun _ => y) = .ok () ↔ x = .ok () ∧ y = .ok () := by
  rcases x with e | u
  · simp [bind, Except.bind]
  · simp [bind, Except.bind]

/-- **What `validate_unsealed_header_fields` accepts.** -/
theorem validateUnsealedHeaderFields_ok_iff {parlia : Parlia} :
    validateUnsealedHeaderFields parlia header = .ok () ↔ UnsealedOk parlia.spec header := by
  unfold validateUnsealedHeaderFields
  simp only [bind_ok_iff, validateMixDigestForParlia_ok_iff, validateOmmersHash_ok_iff,
    validateParentBeaconBlockRoot_ok_iff, validateRequestsHashForBsc_ok_iff,
    validateOptionalTrailingFieldsForBsc_ok_iff, validateHeaderBaseFee_ok_iff,
    validateNoBlobFields_ok_iff, validateWithdrawalsRootForBsc_ok_iff, validateHeaderGas_ok_iff]
  constructor
  · rintro ⟨hmix, hommers, hbeacon, hrequests, ⟨haccess, hslot⟩, hfee, hno, hwithdrawals, hblobs,
      hgas⟩
    refine ⟨hmix, hommers, hbeacon, hrequests, haccess, hslot, hfee, hwithdrawals, ?_, hgas⟩
    split_ifs at hblobs ⊢ with hcancun
    · exact validate4844HeaderOfBsc_ok_iff.mp hblobs
    · exact hno (Bool.eq_false_of_not_eq_true hcancun)
  · rintro ⟨hmix, hommers, hbeacon, hrequests, haccess, hslot, hfee, hwithdrawals, hblobs, hgas⟩
    refine ⟨hmix, hommers, hbeacon, hrequests, ⟨haccess, hslot⟩, hfee, fun hno => ?_, hwithdrawals,
      ?_, hgas⟩
    · rwa [hno, if_neg (by decide)] at hblobs
    · split_ifs at hblobs ⊢
      · exact validate4844HeaderOfBsc_ok_iff.mpr hblobs
      · rfl

end

end RethBsc
