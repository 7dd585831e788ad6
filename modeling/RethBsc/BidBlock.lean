import RethBsc.TransactionCodec

/-!
Blocks proposed by builders, and what the validator signs for them.

A builder sends a whole block. Its last transactions are the system transactions, unsigned: the
validator checks that they are calls it expects and signs them without executing the block. What
the key is asked to sign is recorded beside the result. A transaction of a later type keeps the
type and the chain id the builder gave it.
-/

namespace RethBsc

open List

/-! ### System transactions of a bid -/

def depositSelector : Bytes := [0xf3, 0x40, 0xfa, 0x01]
def distributeFinalityRewardSelector : Bytes := [0x30, 0x0c, 0x35, 0x67]
def updateValidatorSetV2Selector : Bytes := [0x1e, 0x4c, 0x15, 0x24]

def signableSelectors : List Bytes :=
  [depositSelector, distributeFinalityRewardSelector, updateValidatorSetV2Selector]

def finalityRewardInterval : ℕ := 200

structure ExpectedSystemTxEntry where
  method : String
  selector : Bytes
  deriving DecidableEq

inductive BidBlockSystemTxError
  | notSignable (index : ℕ)
  | missingSystemTx (method : String)
  | unexpectedExtraTx (position : ℕ)
  | wrongSelector (method : String) (position : ℕ)
  deriving DecidableEq

def isZeroSig (tx : TransactionSigned) : Bool :=
  decide (signatureR tx.signature = 0) && decide (signatureS tx.signature = 0) &&
    !signatureV tx.signature

def hasSignableSelector (data : Bytes) : Bool :=
  decide (4 ≤ data.length) && signableSelectors.any (·.isPrefixOf data)

def isUnsignedSystemTxCandidate (tx : TransactionSigned) : Bool :=
  match tx.transaction.toAddress with
  | none => false
  | some recipient =>
    isInvokeSystemContract recipient && decide (tx.transaction.maxFeePerGas = 0) && isZeroSig tx

def isSignableSystemTx (tx : TransactionSigned) : Bool :=
  isUnsignedSystemTxCandidate tx && decide (tx.transaction.toAddress = some validatorContract) &&
    hasSignableSelector tx.transaction.input

/-- `interval` is the `BREATHE_BLOCK_INTERVAL`, a day unless it is set. -/
def isBreatheBlock (interval lastBlockTime blockTime : ℕ) : Bool :=
  decide (lastBlockTime ≠ 0) && decide (lastBlockTime / interval ≠ blockTime / interval)

def expectedSystemTxShape (interval : ℕ) (header parent : Header) : List ExpectedSystemTxEntry :=
  ⟨"deposit", depositSelector⟩ ::
    ((if isMultipleOf header.number finalityRewardInterval then
        [⟨"distributeFinalityReward", distributeFinalityRewardSelector⟩] else []) ++
      if isBreatheBlock interval parent.timestamp header.timestamp then
        [⟨"updateValidatorSetV2", updateValidatorSetV2Selector⟩] else [])

/-- The selectors of transactions and entries of the same number, from a position on. -/
def verifySelectors (position : ℕ) :
    List TransactionSigned → List ExpectedSystemTxEntry → Except BidBlockSystemTxError Unit
  | tx :: txs, entry :: shape =>
    if !entry.selector.isPrefixOf tx.transaction.input then
      .error (.wrongSelector entry.method position)
    else verifySelectors (position + 1) txs shape
  | _, _ => .ok ()

def verifySystemTxShape (txs : List TransactionSigned) (shape : List ExpectedSystemTxEntry) :
    Except BidBlockSystemTxError Unit :=
  match shape[txs.length]? with
  | some entry => .error (.missingSystemTx entry.method)
  | none =>
    if shape.length < txs.length then .error (.unexpectedExtraTx shape.length)
    else verifySelectors 0 txs shape

/-- Where the unsigned system transactions at the end begin, and the value of the deposit; a block
of them alone has no value. -/
def extractBidBlockDepositValue (txs : List TransactionSigned) : ℕ × ℕ :=
  -- the scan goes backwards from the end
  let systemTxStart := (txs.rdropWhile isUnsignedSystemTxCandidate).length
  match txs[systemTxStart]? with
  | none => (systemTxStart, 0)
  | some tx =>
    if 0 < systemTxStart ∧ depositSelector.isPrefixOf tx.transaction.input = true then
      (systemTxStart, tx.transaction.value)
    else (systemTxStart, 0)

/-- Every transaction, from an index on, may be signed. -/
def verifySignable (index : ℕ) : List TransactionSigned → Except BidBlockSystemTxError Unit
  | [] => .ok ()
  | tx :: txs =>
    if !isSignableSystemTx tx then .error (.notSignable index) else verifySignable (index + 1) txs

def verifyBidBlockSystemTxs (interval : ℕ) (txs : List TransactionSigned) (header parent : Header)
    (systemTxStart : ℕ) : Except BidBlockSystemTxError Unit := do
  verifySignable systemTxStart (txs.drop systemTxStart)
  verifySystemTxShape (txs.drop systemTxStart) (expectedSystemTxShape interval header parent)

/-! ### Blobs -/

def blobSidecarVersionCellProof : UInt8 := 1
/-- `BlobParams::cancun().max_blob_count`. -/
def cancunMaxBlobCount : ℕ := 6

/-- The blobs of a transaction with their commitments and proofs, and where they belong. -/
structure BscBlobTransactionSidecar where
  blobs : List Bytes
  commitments : List Bytes
  proofs : List Bytes
  blockNumber : ℕ
  blockHash : B256
  txIndex : ℕ
  txHash : B256
  version : UInt8
  deriving DecidableEq

inductive BlobSidecarError
  | notEligible (blockNumber : ℕ)
  | countMismatch (sidecars blobTxsAtLeast : ℕ)
  | cellProofUnsupported (txIndex : ℕ)
  | txHashMismatch (txIndex : ℕ)
  | txIndexMismatch (txIndex sidecarTxIndex : ℕ)
  | tooManyBlobs (found permitted : ℕ)
  | trailingSidecars (sidecars blobTxs : ℕ)
  deriving DecidableEq

/-- What a bid takes from other crates, and the environment of the node. -/
structure BidDeps extends TxDecoders where
  /-- The hash of a signed transaction. -/
  txHash : TransactionSigned → B256
  /-- `ordered_trie_root_with_encoder` over raw bytes. -/
  orderedTrieRoot : List Bytes → B256
  /-- `gobsc_header_hash`. -/
  headerHash : Header → B256
  breatheBlockInterval : ℕ
  spec : ChainSpec

namespace BidDeps

variable (deps : BidDeps)

/-- The loop over the user transactions, with the index of the next one, of the next sidecar and
the blobs so far; returns the number of sidecars used. -/
def checkSidecars (header : Header) (sidecars : List BscBlobTransactionSidecar)
    (maxBlobCount : ℕ) : List TransactionSigned → ℕ → ℕ → ℕ → Except BlobSidecarError ℕ
  | [], _, sidecarIndex, _ => .ok sidecarIndex
  | tx :: txs, txIndex, sidecarIndex, blobCount =>
    if tx.transaction.txType ≠ .eip4844 then
      checkSidecars header sidecars maxBlobCount txs (txIndex + 1) sidecarIndex blobCount
    else if !isBlobEligibleBlock deps.spec header.number header.timestamp then
      .error (.notEligible header.number)
    else
      match sidecars[sidecarIndex]? with
      | none => .error (.countMismatch sidecars.length (sidecarIndex + 1))
      | some sidecar =>
        if sidecar.version = blobSidecarVersionCellProof then .error (.cellProofUnsupported txIndex)
        else if sidecar.txHash ≠ deps.txHash tx then .error (.txHashMismatch txIndex)
        else if sidecar.txIndex ≠ txIndex then .error (.txIndexMismatch txIndex sidecar.txIndex)
        else if blobCount + sidecar.blobs.length > maxBlobCount then
          .error (.tooManyBlobs (blobCount + sidecar.blobs.length) maxBlobCount)
        else checkSidecars header sidecars maxBlobCount txs (txIndex + 1) (sidecarIndex + 1)
          (blobCount + sidecar.blobs.length)

def validateBidBlockBlobSidecars (header : Header) (txs : List TransactionSigned)
    (sidecars : List BscBlobTransactionSidecar) (systemTxStart : ℕ) :
    Except BlobSidecarError Unit := do
  let cancun := (deps.spec.bscForkActivation .cancun).activeAtTimestamp header.timestamp
  let maxBlobCount := if cancun then cancunMaxBlobCount else 0
  let used ← deps.checkSidecars header sidecars maxBlobCount (txs.take systemTxStart) 0 0 0
  if used ≠ sidecars.length then .error (.trailingSidecars sidecars.length used) else .ok ()

end BidDeps

/-! ### Bids -/

structure BidBlock where
  header : Header
  transactions : List Bytes
  sidecars : List BscBlobTransactionSidecar

inductive BidBlockError
  | txDecode (index : ℕ) (detail : String)
  deriving DecidableEq

structure DecodedBidBlock where
  builder : Address
  header : Header
  txs : List TransactionSigned
  submittedTxRoot : B256
  sidecars : List BscBlobTransactionSidecar
  gasFee : ℕ
  systemTxStart : ℕ
  bidHash : B256
  deriving DecidableEq

def TxDecoders.decodeTxs (decoders : TxDecoders) (index : ℕ) :
    List Bytes → Except BidBlockError (List TransactionSigned)
  | [] => .ok []
  | bytes :: rest =>
    match decoders.decodeBidBlockTx bytes with
    | .error detail => .error (.txDecode index detail)
    | .ok tx => (decoders.decodeTxs (index + 1) rest).map (tx :: ·)

def maxTxGas : ℕ := 2 ^ 24

/-- What is wrong with a header; the source keeps the text of the error. -/
inductive InvalidHeader
  | consensus (error : ConsensusError)
  | extra (error : ParliaConsensusError)
  | futureBlock (blockNumber : ℕ) (hash : B256)
  deriving DecidableEq

inductive PreSealVerifyError
  | zeroStateRoot
  | invalidCoinbase (got want : Address)
  | invalidGasLimit (got want : ℕ)
  | invalidHeader (detail : InvalidHeader)
  | unauthorizedValidator (validator : Address)
  | signedTooRecently (validator : Address)
  | wrongDifficulty (got want : ℕ)
  /-- Not an error of the source: no validator is in turn, and it panics. -/
  | noInturnValidator
  | emptyGasFee
  | txRootMismatch (got want : B256)
  | txGasTooHigh (txIndex gas cap : ℕ)
  | blob (error : BlobSidecarError)
  | systemTx (error : BidBlockSystemTxError)
  deriving DecidableEq

def verifyBidBlockStateRoot (header : Header) : Except PreSealVerifyError Unit :=
  if header.stateRoot = 0 then .error .zeroStateRoot else .ok ()

def verifyBidBlockCoinbaseAndGasLimit (header : Header) (etherbase : Address)
    (expectedGasLimit : ℕ) : Except PreSealVerifyError Unit :=
  if header.beneficiary ≠ etherbase then .error (.invalidCoinbase header.beneficiary etherbase)
  else if header.gasLimit ≠ expectedGasLimit then
    .error (.invalidGasLimit header.gasLimit expectedGasLimit)
  else .ok ()

/-- The gas of the user transactions, from an index on. -/
def verifyTxGas (index : ℕ) : List TransactionSigned → Except PreSealVerifyError Unit
  | [] => .ok ()
  | tx :: txs =>
    if tx.transaction.gasLimit > maxTxGas then
      .error (.txGasTooHigh index tx.transaction.gasLimit maxTxGas)
    else verifyTxGas (index + 1) txs

namespace BidDeps

variable (deps : BidDeps)

def toDecodedBidBlock (bid : BidBlock) (builder : Address) :
    Except BidBlockError DecodedBidBlock := do
  let txs ← deps.decodeTxs 0 bid.transactions
  pure
    { builder := builder
      header := bid.header
      txs := txs
      submittedTxRoot := deps.orderedTrieRoot bid.transactions
      sidecars := bid.sidecars
      gasFee := 0
      systemTxStart := 0
      bidHash := deps.headerHash bid.header }

/-- Where the system transactions start, and the fee of the validator. -/
def verifyBidBlockPayload (decoded : DecodedBidBlock) (parent : Header) (etherbase : Address)
    (expectedGasLimit : ℕ) : Except PreSealVerifyError (ℕ × ℕ) := do
  verifyBidBlockStateRoot decoded.header
  verifyBidBlockCoinbaseAndGasLimit decoded.header etherbase expectedGasLimit
  if decoded.submittedTxRoot ≠ decoded.header.transactionsRoot then
    .error (.txRootMismatch decoded.header.transactionsRoot decoded.submittedTxRoot)
  else
    let (systemTxStart, gasFee) := extractBidBlockDepositValue decoded.txs
    if gasFee = 0 then .error .emptyGasFee
    else do
      (deps.validateBidBlockBlobSidecars decoded.header decoded.txs decoded.sidecars
        systemTxStart).mapError .blob
      verifyTxGas 0 (decoded.txs.take systemTxStart)
      (verifyBidBlockSystemTxs deps.breatheBlockInterval decoded.txs decoded.header parent
        systemTxStart).mapError .systemTx
      pure (systemTxStart, gasFee)

end BidDeps

/-! ### Signing -/

structure MinerSigner where
  signatureHash : Transaction → B256
  /-- The signature of a digest under the key of the validator. -/
  signDigest : B256 → Except SignerError Bytes

def MinerSigner.signTransaction (signer : MinerSigner) (tx : Transaction) :
    Except SignerError TransactionSigned :=
  (signer.signDigest (signer.signatureHash tx)).map fun signature => ⟨tx, signature⟩

structure BindSignError where
  index : ℕ
  detail : SignerError
  deriving DecidableEq

def withChainId (chainId : ℕ) (tx : Transaction) : Transaction :=
  match tx.txType with
  | .legacy => { tx with chainId := some chainId }
  | _ => tx

/-- The transactions from an index on, with those the key was asked to sign. Without a signer it
was asked for none. -/
def signTrailing (signer : Option MinerSigner) (chainId : ℕ) (index : ℕ) :
    List TransactionSigned → List Transaction × Except BindSignError (List TransactionSigned)
  | [] => ([], .ok [])
  | tx :: txs =>
    let unsigned := withChainId chainId tx.transaction
    match signer with
    | none => ([], .error ⟨index, .notInitialized⟩)
    | some key =>
      match key.signTransaction unsigned with
      | .error detail => ([unsigned], .error ⟨index, detail⟩)
      | .ok signed =>
        let (asked, out) := signTrailing signer chainId (index + 1) txs
        (unsigned :: asked, out.map (signed :: ·))

/-- The transactions the key was asked to sign, and the list ready for execution. -/
def bindSignBidBlockSystemTxs (signer : Option MinerSigner) (txs : List TransactionSigned)
    (systemTxStart chainId : ℕ) :
    List Transaction × Except BindSignError (List TransactionSigned) :=
  let (asked, out) := signTrailing signer chainId systemTxStart (txs.drop systemTxStart)
  (asked, out.map (txs.take systemTxStart ++ ·))

/-! ### What is checked -/

variable {interval chainId start index : ℕ} {txs : List TransactionSigned} {header parent : Header}
  {signer : Option MinerSigner}

/-- A transaction that may be signed, in the words of the whitelist. -/
structure Signable (tx : Transaction) : Prop where
  free : tx.maxFeePerGas = 0
  recipient : tx.toAddress = some validatorContract
  selector : ∃ selector ∈ signableSelectors, selector <+: tx.input

lemma signable_of_isSignableSystemTx {tx : TransactionSigned} (h : isSignableSystemTx tx) :
    Signable tx.transaction := by
  simp only [isSignableSystemTx, Bool.and_eq_true, decide_eq_true_eq] at h
  obtain ⟨⟨hcandidate, hto⟩, hselector⟩ := h
  simp only [isUnsignedSystemTxCandidate, hto, Bool.and_eq_true, decide_eq_true_eq] at hcandidate
  simp only [hasSignableSelector, Bool.and_eq_true, any_eq_true, isPrefixOf_iff_prefix] at hselector
  exact ⟨hcandidate.1.2, hto, hselector.2⟩

lemma verifySignable_eq_ok (h : verifySignable index txs = .ok ()) :
    ∀ tx ∈ txs, Signable tx.transaction := by
  induction txs generalizing index with
  | nil => simp
  | cons tx txs ih =>
    rw [verifySignable] at h
    split_ifs at h with hsign
    have htx : isSignableSystemTx tx = true := by simpa using hsign
    rw [forall_mem_cons]
    exact ⟨signable_of_isSignableSystemTx htx, ih h⟩

def Calls (tx : Transaction) (entry : ExpectedSystemTxEntry) : Prop := entry.selector <+: tx.input

variable {shape : List ExpectedSystemTxEntry}

lemma verifySelectors_eq_ok (hlen : txs.length = shape.length)
    (h : verifySelectors index txs shape = .ok ()) :
    List.Forall₂ Calls (txs.map (·.transaction)) shape := by
  induction txs generalizing index shape with
  | nil =>
    obtain rfl : shape = [] := eq_nil_of_length_eq_zero hlen.symm
    exact .nil
  | cons tx txs ih =>
    cases shape with
    | nil => cases hlen
    | cons entry shape =>
      rw [verifySelectors] at h
      split_ifs at h with hpre
      have hcalls : entry.selector <+: tx.transaction.input := by
        simpa [ isPrefixOf_iff_prefix] using hpre
      exact .cons hcalls (ih (Nat.succ.inj hlen) h)

lemma verifySystemTxShape_eq_ok (h : verifySystemTxShape txs shape = .ok ()) :
    List.Forall₂ Calls (txs.map (·.transaction)) shape := by
  rw [verifySystemTxShape] at h
  split at h
  · cases h
  · next hnone =>
    split_ifs at h with hlong
    have hge := getElem?_eq_none_iff.mp hnone
    exact verifySelectors_eq_ok (by omega) h

lemma length_expectedSystemTxShape_le :
    (expectedSystemTxShape interval header parent).length ≤ 3 := by
  rw [expectedSystemTxShape]
  split_ifs <;> simp

lemma extractBidBlockDepositValue_le (txs : List TransactionSigned) :
    (extractBidBlockDepositValue txs).1 ≤ txs.length := by
  have hle := ( rdropWhile_prefix isUnsignedSystemTxCandidate txs).length_le
  simp only [extractBidBlockDepositValue]
  split
  · exact hle
  · split_ifs <;> exact hle

/-- What an accepted payload looks like. -/
structure BidDeps.PayloadOk (deps : BidDeps) (decoded : DecodedBidBlock) (parent : Header)
    (start : ℕ) : Prop where
  root : decoded.submittedTxRoot = decoded.header.transactionsRoot
  start_le : start ≤ decoded.txs.length
  sidecars : deps.validateBidBlockBlobSidecars decoded.header decoded.txs decoded.sidecars start =
    .ok ()
  signable : ∀ tx ∈ decoded.txs.drop start, Signable tx.transaction
  shape : List.Forall₂ Calls ((decoded.txs.drop start).map (·.transaction))
    (expectedSystemTxShape deps.breatheBlockInterval decoded.header parent)

lemma BidDeps.verifyBidBlockPayload_eq_ok {deps : BidDeps} {decoded : DecodedBidBlock}
    {etherbase : Address} {gasLimit fee : ℕ}
    (h : deps.verifyBidBlockPayload decoded parent etherbase gasLimit = .ok (start, fee)) :
    deps.PayloadOk decoded parent start := by
  obtain ⟨-, -, h⟩ := bind_eq_ok h
  obtain ⟨-, -, h⟩ := bind_eq_ok h
  have hstart := extractBidBlockDepositValue_le decoded.txs
  generalize extractBidBlockDepositValue decoded.txs = found at h hstart
  obtain ⟨systemTxStart, gasFee⟩ := found
  simp only at h
  split_ifs at h with hroot
  obtain ⟨_, hsidecars, h⟩ := bind_eq_ok h
  obtain ⟨-, -, h⟩ := bind_eq_ok h
  obtain ⟨_, hsystem, h⟩ := bind_eq_ok h
  cases h
  obtain ⟨_, hsignable, hshape⟩ := bind_eq_ok (mapError_eq_ok hsystem)
  exact ⟨not_not.mp hroot, hstart, mapError_eq_ok hsidecars, verifySignable_eq_ok hsignable,
    verifySystemTxShape_eq_ok hshape⟩

/-! ### What is signed -/

variable {tx : Transaction}

lemma MinerSigner.transaction_signTransaction {key : MinerSigner} {signed : TransactionSigned}
    (h : key.signTransaction tx = .ok signed) : signed.transaction = tx := by
  rw [signTransaction] at h
  obtain ⟨signature, -, rfl⟩ := map_eq_ok h
  rfl

/-- The key is asked for the next transaction once it has signed these. -/
def Signs (signer : Option MinerSigner) (chainId : ℕ) (txs : List TransactionSigned) : Prop :=
  ∃ key, signer = some key ∧ ∀ tx ∈ txs, ∃ signed,
    key.signTransaction (withChainId chainId tx.transaction) = .ok signed

/-- The transactions the key is asked for go up to the first that it fails to sign. -/
lemma mem_signTrailing_asked : tx ∈ (signTrailing signer chainId index txs).1 ↔
    ∃ before next after, txs = before ++ next :: after ∧ Signs signer chainId before ∧
      tx = withChainId chainId next.transaction := by
  cases signer with
  | none => cases txs <;> simp [signTrailing, Signs]
  | some key =>
    induction txs generalizing index with
    | nil => simp [signTrailing]
    | cons first txs ih =>
      have hfirst : tx ∈ (signTrailing (some key) chainId index (first :: txs)).1 ↔
          tx = withChainId chainId first.transaction ∨
            (∃ signed, key.signTransaction (withChainId chainId first.transaction) = .ok signed) ∧
              tx ∈ (signTrailing (some key) chainId (index + 1) txs).1 := by
        rw [signTrailing]
        cases key.signTransaction (withChainId chainId first.transaction) <;> simp
      rw [hfirst, ih]
      constructor
      · rintro (rfl | ⟨hsigned, before, next, after, rfl, ⟨_, hkey, hbefore⟩, rfl⟩)
        · exact ⟨[], first, txs, rfl, ⟨key, rfl, by simp⟩, rfl⟩
        · cases hkey
          exact ⟨first :: before, next, after, rfl, ⟨key, rfl, by simpa using ⟨hsigned, hbefore⟩⟩,
            rfl⟩
      · rintro ⟨before, next, after, heq, ⟨_, hkey, hbefore⟩, rfl⟩
        cases hkey
        cases before with
        | nil =>
          obtain ⟨rfl, -⟩ := cons.inj heq
          exact .inl rfl
        | cons b before =>
          obtain ⟨rfl, rfl⟩ := cons.inj heq
          rw [forall_mem_cons] at hbefore
          exact .inr ⟨hbefore.1, before, next, after, rfl, ⟨key, rfl, hbefore.2⟩, rfl⟩

lemma signTrailing_asked : (signTrailing signer chainId index txs).1 <+:
    txs.map fun tx => withChainId chainId tx.transaction := by
  induction txs generalizing index with
  | nil => exact nil_prefix
  | cons tx txs ih =>
    cases signer with
    | none => exact nil_prefix
    | some key =>
      rw [signTrailing, map_cons]
      cases hsign : key.signTransaction (withChainId chainId tx.transaction) with
      | error e => simp
      | ok signed => simpa [hsign] using ih

lemma signTrailing_eq_ok {out : List TransactionSigned}
    (h : (signTrailing signer chainId index txs).2 = .ok out) :
    out.map (·.transaction) = (signTrailing signer chainId index txs).1 ∧
      (signTrailing signer chainId index txs).1.length = txs.length := by
  induction txs generalizing index out with
  | nil =>
    cases h
    exact ⟨rfl, rfl⟩
  | cons tx txs ih =>
    cases signer with
    | none => cases h
    | some key =>
      rw [signTrailing] at h ⊢
      cases hsign : key.signTransaction (withChainId chainId tx.transaction) with
      | error e => simp [hsign] at h
      | ok signed =>
        simp only [hsign] at h ⊢
        obtain ⟨rest, hrest, rfl⟩ := map_eq_ok h
        obtain ⟨hmap, hlen⟩ := ih hrest
        simp [hmap, hlen, MinerSigner.transaction_signTransaction hsign]

lemma bindSignBidBlockSystemTxs_eq_ok {out : List TransactionSigned} (hstart : start ≤ txs.length)
    (h : (bindSignBidBlockSystemTxs signer txs start chainId).2 = .ok out) :
    (bindSignBidBlockSystemTxs signer txs start chainId).1 =
        ((txs.drop start).map fun tx => withChainId chainId tx.transaction) ∧
      out.take start = txs.take start ∧ (out.drop start).map (·.transaction) =
        (bindSignBidBlockSystemTxs signer txs start chainId).1 := by
  obtain ⟨rest, hrest, rfl⟩ := map_eq_ok h
  obtain ⟨hmap, hlen⟩ := signTrailing_eq_ok hrest
  have htake : (txs.take start).length = start := length_take_of_le hstart
  refine ⟨?_, take_left' htake, ?_⟩
  · -- all of them were asked for, so none is missing at the end
    exact signTrailing_asked.eq_of_length (by rw [hlen, length_map])
  · rw [drop_left' htake]
    exact hmap

lemma withChainId_eq (h : tx.txType = .legacy) :
    withChainId chainId tx = { tx with chainId := some chainId } := by
  rw [withChainId, h]

lemma Signable.withChainId (h : Signable tx) (chainId : ℕ) : Signable (withChainId chainId tx) := by
  obtain ⟨hfree, hto, hselector⟩ := h
  rw [RethBsc.withChainId]
  split
  · exact ⟨hfree, hto, hselector⟩
  · exact ⟨hfree, hto, hselector⟩

lemma withChainId_keeps (tx : Transaction) : (withChainId chainId tx).txType = tx.txType ∧
    (withChainId chainId tx).input = tx.input := by
  rw [withChainId]
  split <;> exact ⟨rfl, rfl⟩

structure BidDeps.Accepts (deps : BidDeps) (bid : BidBlock) (parent : Header)
    (decoded : DecodedBidBlock) (start : ℕ) : Prop where
  decode : ∃ builder, deps.toDecodedBidBlock bid builder = .ok decoded
  verify : ∃ etherbase gasLimit fee,
    deps.verifyBidBlockPayload decoded parent etherbase gasLimit = .ok (start, fee)

/-- **What the key signs for a bid.** Whatever bytes the builder sends, the key is asked only for
free calls of the validator contract by whitelisted selectors, in the order of the expected shape
and at most three of them; if it signs them all, their number is that of the shape too and the
other transactions are as they came. All it is asked for are legacy transactions with the id of
this chain exactly if every system transaction of a later type stands behind one that the key
fails to sign. -/
theorem blind_signing_confined (deps : BidDeps) (signer : Option MinerSigner) {bid : BidBlock}
    {parent : Header} {decoded : DecodedBidBlock} {start : ℕ}
    (h : deps.Accepts bid parent decoded start) :
    let shape := expectedSystemTxShape deps.breatheBlockInterval decoded.header parent
    let asked := (bindSignBidBlockSystemTxs signer decoded.txs start deps.spec.chainId).1
    ((∀ tx ∈ asked, tx.txType = .legacy ∧ tx.chainId = some deps.spec.chainId) ↔
        ∀ before tx after, decoded.txs.drop start = before ++ tx :: after →
          Signs signer deps.spec.chainId before → tx.transaction.txType = .legacy) ∧
      (∀ tx ∈ asked, Signable tx) ∧
      List.Forall₂ Calls asked (shape.take asked.length) ∧ asked.length ≤ shape.length ∧
      shape.length ≤ 3 ∧
      ∀ out, (bindSignBidBlockSystemTxs signer decoded.txs start deps.spec.chainId).2 = .ok out →
        asked.length = shape.length ∧ out.take start = decoded.txs.take start ∧
        (out.drop start).map (·.transaction) = asked := by
  intro shape asked
  obtain ⟨-, etherbase, gasLimit, fee, hverify⟩ := h
  obtain ⟨-, hstart, -, hsignable, hshape⟩ := BidDeps.verifyBidBlockPayload_eq_ok hverify
  have hpre : asked <+: (decoded.txs.drop start).map fun tx =>
    withChainId deps.spec.chainId tx.transaction := signTrailing_asked
  -- the chain id is not part of what a call is
  have hcalls : List.Forall₂ Calls ((decoded.txs.drop start).map fun tx =>
      withChainId deps.spec.chainId tx.transaction) shape := by
    rw [forall₂_map_left_iff] at hshape ⊢
    refine hshape.imp fun tx entry hc => ?_
    rwa [Calls, (withChainId_keeps _).2]
  have hlen := hcalls.length_eq
  refine ⟨⟨fun hlegacy before tx after hsplit hsigns => ?_, fun hlegacy tx htx => ?_⟩,
    fun tx htx => ?_, ?_, ?_, length_expectedSystemTxShape_le, fun out hout => ?_⟩
  · have hasked : withChainId deps.spec.chainId tx.transaction ∈ asked :=
      mem_signTrailing_asked.mpr ⟨before, tx, after, hsplit, hsigns, rfl⟩
    rw [← (withChainId_keeps tx.transaction).1]
    exact (hlegacy _ hasked).1
  · obtain ⟨before, next, after, hsplit, hsigns, rfl⟩ := mem_signTrailing_asked.mp htx
    have hnext := hlegacy before next after hsplit hsigns
    rw [withChainId_eq hnext]
    exact ⟨hnext, rfl⟩
  · obtain ⟨tx, hmem, rfl⟩ := mem_map.mp (hpre.subset htx)
    exact (hsignable tx hmem).withChainId deps.spec.chainId
  · have htake := forall₂_take asked.length hcalls
    rwa [ prefix_iff_eq_take.mp hpre, length_take, min_eq_left hpre.length_le]
  · exact hlen ▸ hpre.length_le
  · obtain ⟨hasked, htake, hdrop⟩ := bindSignBidBlockSystemTxs_eq_ok hstart hout
    refine ⟨?_, htake, hdrop⟩
    calc asked.length = ((decoded.txs.drop start).map fun tx =>
          withChainId deps.spec.chainId tx.transaction).length := congrArg List.length hasked
      _ = shape.length := hlen

/-! ### Two bids -/

/-- A signed transaction of type two between other accounts. -/
def userTxBytes : Bytes :=
  [0x02, 0xe2, 0x38, 0x80, 0x01, 0x01, 0x82, 0x52, 0x08, 0x94] ++ Address.asSlice 0x42 ++
    [0x80, 0x80, 0xc0, 0x01, 0x01, 0x01]

/-- Nonce, gas price and limit, recipient, value and call of a deposit. -/
def depositFields : Bytes :=
  [0x80, 0x80, 0x83, 0x0f, 0x42, 0x40, 0x94] ++ validatorContract.asSlice ++
    [0x01, 0x84, 0xf3, 0x40, 0xfa, 0x01]

/-- An unsigned deposit as builders send it. -/
def depositTxBytes : Bytes := 0xe4 :: depositFields ++ [0x80, 0x80, 0x80]

/-- The same deposit as a transaction of type two for chain one, with a signature of zeros. -/
def typedDepositTxBytes : Bytes :=
  [0x02, 0xe7, 0x01, 0x80, 0x80] ++ depositFields.tail ++ [0xc0, 0x80, 0x80, 0x80]

def depositTx (txType : TxType) (chainId priority : Option ℕ) (lists : Bytes) : TransactionSigned :=
  ⟨⟨txType, chainId, 0, 1000000, 0, priority, some validatorContract, 1, depositSelector, lists⟩,
    signatureBytes 0 0 false⟩

def typedDepositTx : TransactionSigned := depositTx .eip1559 (some 1) (some 0) [0xc0]

def userTx : TransactionSigned :=
  ⟨⟨.eip1559, some 56, 0, 21000, 1, some 1, some 0x42, 0, [], [0xc0]⟩, signatureBytes 1 1 true⟩

/-- Decoders that know a few transactions and the fields of a deposit. -/
def sampleDecoders (known : List (Bytes × TransactionSigned)) : TxDecoders where
  decode2718 bytes :=
    match known.find? fun entry => decide (entry.1 = bytes) with
    | some (_, tx) => .ok tx
    | none => .error "unknown"
  rlpDecodeFields buf :=
    if depositFields.isPrefixOf buf then
      .ok ((depositTx .legacy none none []).transaction, buf.drop depositFields.length)
    else .error .inputTooShort

def bidDeps : BidDeps where
  toTxDecoders := sampleDecoders [(userTxBytes, userTx), (typedDepositTxBytes, typedDepositTx)]
  txHash _ := 0
  orderedTrieRoot _ := 0
  headerHash _ := 0
  breatheBlockInterval := 86400
  spec := sampleSpec .never .never .never

def bidHeader : Header := { sampleHeader 101 0 7 1 [] with stateRoot := 1 }

def bidOf (deposit : Bytes) : BidBlock := ⟨bidHeader, [userTxBytes, deposit], []⟩

def decodedBid (deposit : TransactionSigned) : DecodedBidBlock :=
  ⟨7, bidHeader, [userTx, deposit], 0, [], 0, 0, 0⟩

def bidSigner : MinerSigner := ⟨fun _ => 0, fun _ => .ok (signatureBytes 1 1 false)⟩

lemma bidDeps_accepts_legacy : bidDeps.Accepts (bidOf depositTxBytes) bidHeader
    (decodedBid (depositTx .legacy none none [])) 1 :=
  ⟨⟨7, by decide +kernel⟩, 7, 0, 1, by decide +kernel⟩

/-- An honest bid: the key signs one deposit, and the other transaction is as it came. -/
theorem blind_signing_confined_deposit : bidDeps.Accepts (bidOf depositTxBytes) bidHeader
      (decodedBid (depositTx .legacy none none [])) 1 ∧
    ∀ tx ∈ (bindSignBidBlockSystemTxs (some bidSigner) [userTx, depositTx .legacy none none []] 1
      56).1, tx.txType = .legacy ∧ tx.chainId = some 56 ∧ Signable tx := by
  obtain ⟨hlegacy, hsignable, -⟩ :=
    blind_signing_confined bidDeps (some bidSigner) bidDeps_accepts_legacy
  have hregion : ∀ before tx after,
      (decodedBid (depositTx .legacy none none [])).txs.drop 1 = before ++ tx :: after →
        Signs (some bidSigner) 56 before → tx.transaction.txType = .legacy := by
    intro before tx after hsplit _
    have hmem : tx ∈ [depositTx .legacy none none []] := by
      change tx ∈ (decodedBid (depositTx .legacy none none [])).txs.drop 1
      simp [hsplit]
    rw [mem_singleton.mp hmem]
    rfl
  refine ⟨bidDeps_accepts_legacy, fun tx htx => ?_⟩
  obtain ⟨htype, hchain⟩ := hlegacy.mpr hregion tx htx
  exact ⟨htype, hchain, hsignable tx htx⟩

/-- The signature of a system transaction of a later type is asked for as the builder sent it: of
type two, and for chain one. -/
theorem typed_system_tx_signed : bidDeps.Accepts (bidOf typedDepositTxBytes) bidHeader
      (decodedBid typedDepositTx) 1 ∧ bidDeps.spec.chainId = 56 ∧
    (∃ tx ∈ (bindSignBidBlockSystemTxs (some bidSigner) (decodedBid typedDepositTx).txs 1
      bidDeps.spec.chainId).1, tx.txType = .eip1559 ∧ tx.chainId = some 1) ∧
    ∃ out, (bindSignBidBlockSystemTxs (some bidSigner) (decodedBid typedDepositTx).txs 1
      bidDeps.spec.chainId).2 = .ok out :=
  ⟨⟨⟨7, by decide +kernel⟩, 7, 0, 1, by decide +kernel⟩, rfl,
    ⟨typedDepositTx.transaction, mem_singleton.mpr rfl, rfl, rfl⟩, _, rfl⟩

end RethBsc
