import RethBsc.HeaderValidation

/-!
The checks of a header against its parent, and the blob gas of consecutive blocks.

From Mendel on only every fifth block may carry blobs, and the excess blob gas is worked out anew
only on the block after it; the other blocks repeat what their parent has. The producer of a
block and `validate_header_against_parent` follow this rule with different fallbacks where the
parent lacks a field.
-/

namespace RethBsc

/-! ### The excess blob gas -/

structure BlobParams where
  targetBlobCount : ℕ
  maxBlobCount : ℕ
  deriving DecidableEq

def BlobParams.cancun : BlobParams := ⟨3, 6⟩

structure BlobSchedule where
  /-- `blob_params.cancun` of the chain specification. -/
  params : BlobParams
  /-- The next excess, from the parent's excess, blob gas used and base fee. -/
  nextBlockExcessBlobGasOsaka : BlobParams → ℕ → ℕ → ℕ → ℕ
  next_zero : ∀ params fee, nextBlockExcessBlobGasOsaka params 0 0 fee = 0

/-- Whether the excess is worked out anew. -/
def shouldRecalculateExcessBlobGas (spec : ChainSpec) (blockNumber timestamp : ℕ) : Bool :=
  if !spec.isMendelActiveAtTimestamp blockNumber timestamp then true
  else decide (blockNumber % blobEligibleBlockInterval = 1)

namespace BlobSchedule

variable (blobs : BlobSchedule) (spec : ChainSpec)

def blobParamsAtTimestamp (timestamp : ℕ) : Option BlobParams :=
  if (spec.bscForkActivation .cancun).activeAtTimestamp timestamp then some blobs.params else none

/-- Nothing if the parent lacks one of the fields. -/
def maybeNextBlockExcessBlobGas (parent : Header) (params : BlobParams) : Option ℕ := do
  let excessBlobGas ← parent.excessBlobGas
  let blobGasUsed ← parent.blobGasUsed
  let baseFeePerGas ← parent.baseFeePerGas
  some (blobs.nextBlockExcessBlobGasOsaka params excessBlobGas blobGasUsed baseFeePerGas)

def nextBlockExcessBlobGasWithMendel (blockNumber timestamp : ℕ) (parent : Header)
    (params : Option BlobParams) : Option ℕ :=
  match params with
  | none => none
  | some params =>
    if !shouldRecalculateExcessBlobGas spec blockNumber timestamp then
      some (parent.excessBlobGas.getD 0)
    else (blobs.maybeNextBlockExcessBlobGas parent params).or
      (some (blobs.nextBlockExcessBlobGasOsaka .cancun 0 0 0))

end BlobSchedule

/-! ### The checks -/

def gasLimitCapacity : ℕ := 0x7fffffffffffffff
def gasLimitBoundDivisorBeforeLorentz : ℕ := 256
def gasLimitBoundDivisor : ℕ := 1024
def minimumGasLimit : ℕ := 5000

section

variable (hashSlow : Header → B256) (blobs : BlobSchedule) (spec : ChainSpec)
  (header parent : Header)

def validateAgainstParentHashNumber : Except ConsensusError Unit :=
  if parent.number + 1 ≠ header.number then
    .error (.parentBlockNumberMismatch parent.number header.number)
  else if hashSlow parent ≠ header.parentHash then
    .error (.parentHashMismatch header.parentHash (hashSlow parent))
  else .ok ()

def validateTimestampAgainstParent : Except ConsensusError Unit :=
  let headerTs := calculateMillisecondTimestamp header
  let parentTs := calculateMillisecondTimestamp parent
  if headerTs ≤ parentTs then .error (.timestampIsInPast parentTs headerTs) else .ok ()

def validateBscGasLimitAgainstParent : Except ConsensusError Unit :=
  if header.gasLimit > gasLimitCapacity then
    .error (.gasLimitAboveCapacity header.gasLimit gasLimitCapacity)
  else if header.gasUsed > header.gasLimit then
    .error (.headerGasUsedExceedsGasLimit header.gasUsed header.gasLimit)
  else
    let diff := parent.gasLimit - header.gasLimit + (header.gasLimit - parent.gasLimit)
    let boundDivisor := if spec.isLorentzActiveAtTimestamp header.number header.timestamp
      then gasLimitBoundDivisor else gasLimitBoundDivisorBeforeLorentz
    let limit := parent.gasLimit / boundDivisor
    if limit ≤ diff ∨ header.gasLimit < minimumGasLimit then
      .error (.invalidGasLimit header.gasLimit parent.gasLimit (limit - 1))
    else .ok ()

/-- Fields the parent lacks count as zero. -/
def validateAgainstParent4844 (params : BlobParams) : Except ConsensusError Unit :=
  let parentBlobGasUsed := parent.blobGasUsed.getD 0
  let parentExcessBlobGas := parent.excessBlobGas.getD 0
  if header.blobGasUsed.isNone then .error .blobGasUsedMissing
  else match header.excessBlobGas with
    | none => .error .excessBlobGasMissing
    | some got =>
      let expected := blobs.nextBlockExcessBlobGasOsaka params parentExcessBlobGas
        parentBlobGasUsed (parent.baseFeePerGas.getD 0)
      if expected ≠ got then
        .error (.excessBlobGasDiff got expected parentExcessBlobGas parentBlobGasUsed)
      else .ok ()

def validateExcessRepeated : Except ConsensusError Unit :=
  let expected := parent.excessBlobGas.getD 0
  match header.excessBlobGas with
  | none => .error .excessBlobGasMissing
  | some got =>
    if got ≠ expected then
      .error (.excessBlobGasDiff got expected expected (parent.blobGasUsed.getD 0))
    else .ok ()

def validateBlobGasAgainstParent : Except ConsensusError Unit :=
  if spec.isCancunActiveAtTimestamp header.number header.timestamp then
    match blobs.blobParamsAtTimestamp spec header.timestamp with
    | none => .ok ()
    | some params =>
      if spec.isMendelActiveAtTimestamp header.number header.timestamp &&
          !shouldRecalculateExcessBlobGas spec header.number header.timestamp then
        validateExcessRepeated header parent
      else validateAgainstParent4844 blobs header parent params
  else .ok ()

/-- What is checked apart from the blob gas. -/
def validateChained : Except ConsensusError Unit := do
  validateAgainstParentHashNumber hashSlow header parent
  validateTimestampAgainstParent header parent
  validateBscGasLimitAgainstParent spec header parent

def validateHeaderAgainstParent : Except ConsensusError Unit := do
  validateChained hashSlow spec header parent
  validateBlobGasAgainstParent blobs spec header parent

end

/-! ### The assembler -/

def emptyRequestsHash : B256 := 0xe3b0c44298fc1c149afbf4c8996fb92427ae41e4649b934ca495991b7852b855

/-- What a block is assembled from: its environment, what the execution gave, and the blob gas of
its transactions, if they have any. -/
structure AssemblerInput where
  parentHash : B256
  beneficiary : Address
  stateRoot : B256
  transactionsRoot : B256
  receiptsRoot : B256
  logsBloom : BitVec 2048
  difficulty : ℕ
  number : ℕ
  gasLimit : ℕ
  gasUsed : ℕ
  timestamp : ℕ
  prevrandao : Option B256
  basefee : ℕ
  extraData : Bytes
  defaultExtraData : Bytes
  blobGas : List (Option ℕ)

/-- The header of `assemble_block_body_only`. -/
def BlobSchedule.assembleBlockBodyOnly (blobs : BlobSchedule) (spec : ChainSpec)
    (input : AssemblerInput) (parent : Header) : Header :=
  let cancun := spec.isCancunActiveAtTimestamp input.number input.timestamp
  { parentHash := input.parentHash
    ommersHash := emptyOmmerRootHash
    beneficiary := input.beneficiary
    stateRoot := input.stateRoot
    transactionsRoot := input.transactionsRoot
    receiptsRoot := input.receiptsRoot
    logsBloom := input.logsBloom
    difficulty := input.difficulty
    number := input.number
    gasLimit := input.gasLimit
    gasUsed := input.gasUsed
    timestamp := input.timestamp
    extraData := if input.extraData.isEmpty then input.defaultExtraData else input.extraData
    mixHash := input.prevrandao.getD 0
    nonce := 0
    baseFeePerGas := if spec.london.activeAtBlock input.number then some input.basefee else none
    withdrawalsRoot := if cancun then some emptyWithdrawalsHash else none
    blobGasUsed := if cancun then some (input.blobGas.map fun gas => gas.getD 0).sum else none
    excessBlobGas := if cancun then
        blobs.nextBlockExcessBlobGasWithMendel spec input.number input.timestamp parent
          (blobs.blobParamsAtTimestamp spec input.timestamp)
      else none
    parentBeaconBlockRoot :=
      if cancun && spec.isBohrActiveAtTimestamp input.number input.timestamp then some 0 else none
    requestsHash :=
      if cancun && spec.isPragueActiveAtBlockAndTimestamp input.number input.timestamp
      then some emptyRequestsHash else none
    blockAccessListHash := none
    slotNumber := none }

/-! ### One block -/

section

variable {hashSlow : Header → B256} {blobs : BlobSchedule} {spec : ChainSpec}
  {header parent : Header} {params : BlobParams}

lemma validateExcessRepeated_ok_iff : validateExcessRepeated header parent = .ok () ↔
    header.excessBlobGas = some (parent.excessBlobGas.getD 0) := by
  unfold validateExcessRepeated
  cases header.excessBlobGas <;> simp

lemma validateAgainstParent4844_ok_iff (hused : header.blobGasUsed.isSome) :
    validateAgainstParent4844 blobs header parent params = .ok () ↔
      header.excessBlobGas = some (blobs.nextBlockExcessBlobGasOsaka params
        (parent.excessBlobGas.getD 0) (parent.blobGasUsed.getD 0)
        (parent.baseFeePerGas.getD 0)) := by
  unfold validateAgainstParent4844
  obtain ⟨used, hused⟩ := Option.isSome_iff_exists.mp hused
  cases header.excessBlobGas with
  | none => simp [hused]
  | some got => simp [hused, eq_comm]

variable {n ts : ℕ}

lemma activeAtTimestamp_of_cancun (h : spec.isCancunActiveAtTimestamp n ts) :
    spec.london.activeAtBlock n ∧ (spec.bscForkActivation .cancun).activeAtTimestamp ts := by
  simpa [ChainSpec.isCancunActiveAtTimestamp, ChainSpec.isActiveAtTimestamp] using h

open BlobSchedule

lemma blobParamsAtTimestamp_of_cancun (h : spec.isCancunActiveAtTimestamp n ts) :
    blobs.blobParamsAtTimestamp spec ts = some blobs.params := by
  rw [blobParamsAtTimestamp, (activeAtTimestamp_of_cancun h).2, if_pos rfl]

/-- The excess a Cancun block must have. -/
def BlobSchedule.expectedExcess (blobs : BlobSchedule) (spec : ChainSpec) (number timestamp : ℕ)
    (parent : Header) : ℕ :=
  if shouldRecalculateExcessBlobGas spec number timestamp then
    blobs.nextBlockExcessBlobGasOsaka blobs.params (parent.excessBlobGas.getD 0)
      (parent.blobGasUsed.getD 0) (parent.baseFeePerGas.getD 0)
  else parent.excessBlobGas.getD 0

lemma mendel_of_not_recalculate (h : shouldRecalculateExcessBlobGas spec n ts = false) :
    spec.isMendelActiveAtTimestamp n ts := by
  unfold shouldRecalculateExcessBlobGas at h
  split_ifs at h with hmendel
  simpa using hmendel

lemma validateBlobGasAgainstParent_ok_iff
    (hcancun : spec.isCancunActiveAtTimestamp header.number header.timestamp)
    (hused : header.blobGasUsed.isSome) :
    validateBlobGasAgainstParent blobs spec header parent = .ok () ↔ header.excessBlobGas =
      some (blobs.expectedExcess spec header.number header.timestamp parent) := by
  unfold validateBlobGasAgainstParent expectedExcess
  rw [if_pos hcancun, blobParamsAtTimestamp_of_cancun hcancun]
  cases hre : shouldRecalculateExcessBlobGas spec header.number header.timestamp with
  | true => simp [validateAgainstParent4844_ok_iff hused]
  | false => simp [mendel_of_not_recalculate hre, validateExcessRepeated_ok_iff]

lemma nextBlockExcessBlobGasWithMendel_eq (hparent : UnsealedOk spec parent)
    (hcancun : spec.isCancunActiveAtTimestamp n ts) :
    blobs.nextBlockExcessBlobGasWithMendel spec n ts parent (blobs.blobParamsAtTimestamp spec ts) =
      some (blobs.expectedExcess spec n ts parent) := by
  rw [blobParamsAtTimestamp_of_cancun hcancun]
  unfold nextBlockExcessBlobGasWithMendel expectedExcess
  cases hre : shouldRecalculateExcessBlobGas spec n ts with
  | false => simp
  | true =>
    have hblobs := hparent.blobs
    split_ifs at hblobs with hold
    · obtain ⟨used, excess, hfields⟩ := hblobs
      have hfee := hparent.baseFee
      rw [if_pos (activeAtTimestamp_of_cancun hold).1] at hfee
      simp [maybeNextBlockExcessBlobGas, hfields.used, hfields.excess, hfee]
    · -- the first block with blob gas: the fallback and the defaults both give zero
      simp [maybeNextBlockExcessBlobGas, hblobs.1, hblobs.2, blobs.next_zero]

end

/-! ### Groups of five blocks -/

/-- Headers that follow one another and pass every check of this module and of
`validate_unsealed_header_fields`, with Mendel active. Cancun does not end. -/
structure BlobChain (hashSlow : Header → B256) (blobs : BlobSchedule) (spec : ChainSpec)
    (len : ℕ) where
  header : ℕ → Header
  unsealed : ∀ i ≤ len, UnsealedOk spec (header i)
  chained : ∀ i < len,
    validateHeaderAgainstParent hashSlow blobs spec (header (i + 1)) (header i) = .ok ()
  cancun : ∀ i < len, spec.isCancunActiveAtTimestamp (header i).number (header i).timestamp = true →
    spec.isCancunActiveAtTimestamp (header (i + 1)).number (header (i + 1)).timestamp = true
  mendel : ∀ i ≤ len,
    spec.isMendelActiveAtTimestamp (header i).number (header i).timestamp = true

namespace BlobChain

variable {hashSlow : Header → B256} {blobs : BlobSchedule} {spec : ChainSpec} {len : ℕ}
  (c : BlobChain hashSlow blobs spec len)

def excess (i : ℕ) : ℕ := (c.header i).excessBlobGas.getD 0
def used (i : ℕ) : ℕ := (c.header i).blobGasUsed.getD 0
def fee (i : ℕ) : ℕ := (c.header i).baseFeePerGas.getD 0

variable {c} {i : ℕ}

lemma blobFields (hi : i ≤ len) :
    (spec.isCancunActiveAtTimestamp (c.header i).number (c.header i).timestamp = true ∧
        ∃ used excess, BlobFieldsOk spec (c.header i) used excess) ∨
      spec.isCancunActiveAtTimestamp (c.header i).number (c.header i).timestamp = false ∧
        (c.header i).excessBlobGas = none ∧ (c.header i).blobGasUsed = none := by
  have hblobs := (c.unsealed i hi).blobs
  split_ifs at hblobs with hcancun
  · exact .inl ⟨hcancun, hblobs⟩
  · exact .inr ⟨by simpa using hcancun, hblobs⟩

lemma number_eq (hi : i ≤ len) : (c.header i).number = (c.header 0).number + i := by
  induction i with
  | zero => rfl
  | succ i ih =>
    have hok := c.chained i hi
    unfold validateHeaderAgainstParent validateChained at hok
    simp only [bind_ok_iff] at hok
    have hnumber := hok.1.1
    unfold validateAgainstParentHashNumber at hnumber
    split_ifs at hnumber with hne
    rw [← not_not.mp hne, ih (by omega)]
    omega

lemma excess_succ (hi : i < len) : c.excess (i + 1) =
    blobs.expectedExcess spec (c.header (i + 1)).number (c.header (i + 1)).timestamp
      (c.header i) := by
  have hok := c.chained i hi
  unfold validateHeaderAgainstParent at hok
  rw [bind_ok_iff] at hok
  rcases blobFields (c := c) (i := i + 1) hi with ⟨hcancun, used, excess, hfields⟩ | ⟨hno, hnone, -⟩
  · have hexpected := (validateBlobGasAgainstParent_ok_iff hcancun
      (by rw [hfields.used]; rfl)).mp hok.2
    rw [BlobChain.excess, hexpected, Option.getD_some]
  · -- without Cancun neither block has blob gas
    rcases blobFields (c := c) hi.le with ⟨hcancun, -⟩ | ⟨-, hexcess, hused⟩
    · exact absurd (c.cancun i hi hcancun) (by simp [hno])
    · simp [BlobChain.excess, BlobSchedule.expectedExcess, hnone, hexcess, hused, blobs.next_zero]

lemma recalculate_iff (hi : i ≤ len) :
    shouldRecalculateExcessBlobGas spec (c.header i).number (c.header i).timestamp =
      decide (((c.header 0).number + i) % 5 = 1) := by
  unfold shouldRecalculateExcessBlobGas
  rw [c.mendel i hi, number_eq hi]
  rfl

variable (hstart : (c.header 0).number % 5 = 0)

include hstart

lemma excess_repeated (hi : i < len) (hmod : i % 5 ≠ 0) : c.excess (i + 1) = c.excess i := by
  have hno : decide (((c.header 0).number + (i + 1)) % 5 = 1) = false := decide_eq_false (by omega)
  rw [excess_succ hi, BlobSchedule.expectedExcess, recalculate_iff hi, hno, if_neg (by decide)]
  rfl

lemma excess_updated (hi : i < len) (hmod : i % 5 = 0) : c.excess (i + 1) =
    blobs.nextBlockExcessBlobGasOsaka blobs.params (c.excess i) (c.used i) (c.fee i) := by
  have hyes : decide (((c.header 0).number + (i + 1)) % 5 = 1) = true := decide_eq_true (by omega)
  rw [excess_succ hi, BlobSchedule.expectedExcess, recalculate_iff hi, hyes, if_pos rfl]
  rfl

lemma used_eq_zero (hi : i ≤ len) (hmod : i % 5 ≠ 0) : c.used i = 0 := by
  rcases blobFields (c := c) hi with ⟨-, used, excess, hfields⟩ | ⟨-, -, hnone⟩
  swap
  · rw [BlobChain.used, hnone, Option.getD_none]
  have hno : isBlobEligibleBlock spec (c.header i).number (c.header i).timestamp = false := by
    have hmultiple : isMultipleOf ((c.header 0).number + i) blobEligibleBlockInterval = false :=
      decide_eq_false (by unfold blobEligibleBlockInterval; omega)
    rw [isBlobEligibleBlock, c.mendel i hi, number_eq hi, hmultiple]
    rfl
  rcases hfields.eligible with h | rfl
  · rw [hno] at h
    cases h
  · rw [BlobChain.used, hfields.used, Option.getD_some]

lemma excess_in_group {j k : ℕ} (hk : k ≤ 4) (hi : 5 * j + 1 + k ≤ len) :
    c.excess (5 * j + 1 + k) = c.excess (5 * j + 1) := by
  induction k with
  | zero => rfl
  | succ k ih =>
    have hlast : 5 * j + 1 + k < len := by omega
    have hmod : (5 * j + 1 + k) % 5 ≠ 0 := by omega
    calc c.excess (5 * j + 1 + (k + 1)) = c.excess (5 * j + 1 + k) :=
          excess_repeated hstart hlast hmod
      _ = c.excess (5 * j + 1) := ih (by omega) (by omega)

lemma excess_next_group {j : ℕ} (hi : 5 * (j + 1) ≤ len) : c.excess (5 * (j + 1)) =
    blobs.nextBlockExcessBlobGasOsaka blobs.params (c.excess (5 * j)) (c.used (5 * j))
      (c.fee (5 * j)) := by
  have hgroup := excess_in_group hstart (j := j) (k := 4) le_rfl (by omega)
  rw [show 5 * j + 1 + 4 = 5 * (j + 1) by ring] at hgroup
  rw [hgroup]
  exact excess_updated hstart (by omega) (by omega)

end BlobChain

/-- The excess after a number of groups, from the excess of the first block and what the blocks
that may carry blobs use. -/
def BlobSchedule.excessAfter (blobs : BlobSchedule) (start : ℕ) (used fee : ℕ → ℕ) : ℕ → ℕ
  | 0 => start
  | j + 1 => blobs.nextBlockExcessBlobGasOsaka blobs.params (blobs.excessAfter start used fee j)
      (used j) (fee j)

lemma BlobChain.excess_eq_excessAfter {hashSlow : Header → B256} {blobs : BlobSchedule}
    {spec : ChainSpec} {len : ℕ} {c : BlobChain hashSlow blobs spec len}
    (hstart : (c.header 0).number % 5 = 0) {j : ℕ} (hj : 5 * j ≤ len) : c.excess (5 * j) =
      blobs.excessAfter (c.excess 0) (fun k => c.used (5 * k)) (fun k => c.fee (5 * k)) j := by
  induction j with
  | zero => rfl
  | succ j ih =>
    rw [BlobChain.excess_next_group hstart hj, ih (by omega)]
    rfl

/-- **The excess blob gas.** On a parent that is a valid header, the excess a block is assembled
with is the only one that passes the check against the parent once Cancun is active; before,
nothing is written and a valid header has none. Along a chain on which Mendel is active, from a
block whose number is a multiple of five on, the excess after each group of five blocks is one
update with what the group's first block uses; the other four use nothing and repeat it. -/
theorem excess_blob_gas (hashSlow : Header → B256) (blobs : BlobSchedule) (spec : ChainSpec) :
    (∀ (input : AssemblerInput) (parent : Header), UnsealedOk spec parent →
      let header := blobs.assembleBlockBodyOnly spec input parent
      let cancun := spec.isCancunActiveAtTimestamp input.number input.timestamp
      (∀ excess, validateHeaderAgainstParent hashSlow blobs spec
          { header with excessBlobGas := excess } parent = .ok () ↔
        validateChained hashSlow spec header parent = .ok () ∧
          (cancun = true → excess = header.excessBlobGas)) ∧
      ∀ excess, cancun = false → UnsealedOk spec { header with excessBlobGas := excess } →
        excess = header.excessBlobGas) ∧
    ∀ (len : ℕ) (c : BlobChain hashSlow blobs spec len), (c.header 0).number % 5 = 0 →
      ∀ j, 5 * (j + 1) ≤ len →
        c.excess (5 * (j + 1)) = blobs.nextBlockExcessBlobGasOsaka blobs.params (c.excess (5 * j))
          (c.used (5 * j)) (c.fee (5 * j)) ∧
        c.excess (5 * (j + 1)) = blobs.excessAfter (c.excess 0) (fun k => c.used (5 * k))
          (fun k => c.fee (5 * k)) (j + 1) ∧
        ∀ k, 1 ≤ k → k ≤ 4 → c.used (5 * j + k) = 0 ∧
          c.excess (5 * j + k) = c.excess (5 * (j + 1)) := by
  refine ⟨fun input parent hparent => ⟨fun excess => ?_, fun excess hcancun hok => ?_⟩,
    fun len c hstart j hj => ⟨BlobChain.excess_next_group hstart hj,
      BlobChain.excess_eq_excessAfter hstart hj, fun k h1 h4 => ⟨?_, ?_⟩⟩⟩
  · unfold validateHeaderAgainstParent
    rw [bind_ok_iff]
    refine and_congr Iff.rfl ?_
    cases hcancun : spec.isCancunActiveAtTimestamp input.number input.timestamp with
    | false =>
      have hno : validateBlobGasAgainstParent blobs spec
          { blobs.assembleBlockBodyOnly spec input parent with excessBlobGas := excess } parent =
            .ok () := by
        unfold validateBlobGasAgainstParent
        exact if_neg (by simp [BlobSchedule.assembleBlockBodyOnly, hcancun])
      simp [hno]
    | true =>
      rw [validateBlobGasAgainstParent_ok_iff hcancun
        (by simp [BlobSchedule.assembleBlockBodyOnly, hcancun])]
      simp [BlobSchedule.assembleBlockBodyOnly, hcancun,
        nextBlockExcessBlobGasWithMendel_eq hparent hcancun]
  · have hblobs := hok.blobs
    rw [if_neg (by simp [BlobSchedule.assembleBlockBodyOnly, hcancun])] at hblobs
    simpa [BlobSchedule.assembleBlockBodyOnly, hcancun] using hblobs.1
  · exact BlobChain.used_eq_zero hstart (by omega) (by omega)
  · have hk := BlobChain.excess_in_group hstart (j := j) (k := k - 1) (by omega) (by omega)
    have hend := BlobChain.excess_in_group hstart (j := j) (k := 4) le_rfl (by omega)
    rw [show 5 * j + 1 + (k - 1) = 5 * j + k by omega] at hk
    rw [show 5 * j + 1 + 4 = 5 * (j + 1) by ring] at hend
    rw [hk, hend]

/-! ### A group of blocks, and parents that lack a field -/

/-- The update of EIP-4844. -/
def plainBlobs : BlobSchedule where
  params := .cancun
  nextBlockExcessBlobGasOsaka params excess used _ :=
    excess + used - params.targetBlobCount * dataGasPerBlob
  next_zero := by intros; simp

def blobSpec (cancun mendel : ForkCondition) : ChainSpec where
  chainId := 56
  bscForkActivation
    | .cancun => cancun
    | .mendel => mendel
    | _ => .never
  london := .block 0
  prague := .never

def numberHash (header : Header) : B256 := BitVec.ofNat 256 header.number

def blobInput (number : ℕ) : AssemblerInput where
  parentHash := BitVec.ofNat 256 (number - 1)
  beneficiary := Fin.ofNat _ 0
  stateRoot := 0
  transactionsRoot := 0
  receiptsRoot := 0
  logsBloom := 0
  difficulty := 2
  number := number
  gasLimit := 10000000
  gasUsed := 0
  timestamp := number
  prevrandao := none
  basefee := 0
  extraData := []
  defaultExtraData := []
  blobGas := if number % 5 = 0 then [some (2 * dataGasPerBlob), none] else [none]

/-- A block with the given excess and blob gas, where Cancun is active. -/
def blobHeader (number : ℕ) (excess used : Option ℕ) : Header where
  parentHash := BitVec.ofNat 256 (number - 1)
  ommersHash := emptyOmmerRootHash
  beneficiary := Fin.ofNat _ 0
  stateRoot := 0
  transactionsRoot := 0
  receiptsRoot := 0
  logsBloom := 0
  difficulty := 2
  number := number
  gasLimit := 10000000
  gasUsed := 0
  timestamp := number
  extraData := []
  mixHash := 0
  nonce := 0
  baseFeePerGas := some 0
  withdrawalsRoot := some emptyWithdrawalsHash
  blobGasUsed := used
  excessBlobGas := excess
  parentBeaconBlockRoot := none
  requestsHash := none
  blockAccessListHash := none
  slotNumber := none

/-- Block 5 with three blobs of excess that uses two more, and the five blocks after it. -/
def blobChainHeader (i : ℕ) : Header :=
  blobHeader (5 + i) (some (if i = 0 then 3 * dataGasPerBlob else 2 * dataGasPerBlob))
    (some (if i = 0 then 2 * dataGasPerBlob else 0))

def blobChain : BlobChain numberHash plainBlobs (blobSpec (.timestamp 0) (.timestamp 0)) 5 where
  header := blobChainHeader
  unsealed i hi := by
    have hok : ∀ i ≤ 5, validateUnsealedHeaderFields
        ⟨blobSpec (.timestamp 0) (.timestamp 0), 200⟩ (blobChainHeader i) = .ok () := by
      decide +kernel
    exact validateUnsealedHeaderFields_ok_iff.mp (hok i hi)
  chained := by decide +kernel
  cancun := by decide +kernel
  mendel := by decide +kernel

def blobChild (cancun mendel : ForkCondition) (parent : Header) : Header :=
  plainBlobs.assembleBlockBodyOnly (blobSpec cancun mendel) (blobInput 6) parent

/-- On block 5 the excess of two blobs is the only one that passes for block 6, and it is the one
five blocks later. -/
theorem excess_blob_gas_group :
    validateHeaderAgainstParent numberHash plainBlobs (blobSpec (.timestamp 0) (.timestamp 0))
      (blobChild (.timestamp 0) (.timestamp 0) (blobChainHeader 0)) (blobChainHeader 0) = .ok () ∧
    (∀ excess, validateHeaderAgainstParent numberHash plainBlobs
        (blobSpec (.timestamp 0) (.timestamp 0))
        { blobChild (.timestamp 0) (.timestamp 0) (blobChainHeader 0) with
          excessBlobGas := excess } (blobChainHeader 0) = .ok () →
      excess = some (2 * dataGasPerBlob)) ∧
    blobChain.excess 5 = plainBlobs.nextBlockExcessBlobGasOsaka .cancun (3 * dataGasPerBlob)
      (2 * dataGasPerBlob) 0 := by
  obtain ⟨hone, hchain⟩ := excess_blob_gas numberHash plainBlobs
    (blobSpec (.timestamp 0) (.timestamp 0))
  obtain ⟨hiff, -⟩ := hone (blobInput 6) (blobChainHeader 0) (blobChain.unsealed 0 (by decide))
  refine ⟨(hiff _).mpr ⟨by decide +kernel, fun _ => rfl⟩, fun excess hok => ?_,
    (hchain 5 blobChain rfl 0 le_rfl).1⟩
  have hwritten : (blobChild (.timestamp 0) (.timestamp 0) (blobChainHeader 0)).excessBlobGas =
      some (2 * dataGasPerBlob) := by decide +kernel
  exact (((hiff excess).mp hok).2 (by decide)).trans hwritten

/-- A parent with an excess but without blob gas used: the block is assembled with no excess,
and the check asks for three blobs less than the parent's. Before Cancun the check takes an excess
that is not what is written. -/
theorem assembled_excess_refused : ((blobChild (.timestamp 0) .never
        (blobHeader 5 (some (6 * dataGasPerBlob)) none)).excessBlobGas = some 0 ∧
      validateHeaderAgainstParent numberHash plainBlobs (blobSpec (.timestamp 0) .never)
        (blobChild (.timestamp 0) .never (blobHeader 5 (some (6 * dataGasPerBlob)) none))
        (blobHeader 5 (some (6 * dataGasPerBlob)) none) =
          .error (.excessBlobGasDiff 0 (3 * dataGasPerBlob) (6 * dataGasPerBlob) 0)) ∧
    ((blobChild .never .never (blobHeader 5 none none)).excessBlobGas = none ∧
      validateHeaderAgainstParent numberHash plainBlobs (blobSpec .never .never)
        { blobChild .never .never (blobHeader 5 none none) with excessBlobGas := some 7 }
        (blobHeader 5 none none) = .ok ()) := by
  decide +kernel

end RethBsc
