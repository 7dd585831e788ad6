import RethBsc.BidBlock
import RethBsc.HeaderParent
import RethBsc.SealPreimage

/-!
How a validator turns a builder's block into its own.

A submission is checked twice: when it arrives, with the header as the builder signed it, and
when it is sealed. Sealing signs the system transactions at the end, tags the header with the
builder, replaces the extra data, works out difficulty, mix digest and transaction root anew and
signs the header. The builder signs only the header, whose transaction root is the one of the raw
bytes of its transactions.
-/

namespace RethBsc

/-! ### The hash a builder signs -/

section

variable (rlp : Rlp) (header : Header)

/-- The fields every header has. -/
def gobscFixed : List Bytes :=
  [rlp.b256.encode header.parentHash, rlp.b256.encode header.ommersHash,
    rlp.address.encode header.beneficiary, rlp.b256.encode header.stateRoot,
    rlp.b256.encode header.transactionsRoot, rlp.b256.encode header.receiptsRoot,
    rlp.bloom.encode header.logsBloom, rlp.uint.encode header.difficulty,
    rlp.uint.encode header.number, rlp.uint.encode header.gasLimit,
    rlp.uint.encode header.gasUsed, rlp.uint.encode header.timestamp,
    rlp.bytes.encode header.extraData, rlp.b256.encode header.mixHash, rlp.b64.encode header.nonce]

def gobscOptional : List (Option Bytes) :=
  [header.baseFeePerGas.map rlp.uint.encode, header.withdrawalsRoot.map rlp.b256.encode,
    header.blobGasUsed.map rlp.uint.encode, header.excessBlobGas.map rlp.uint.encode,
    header.parentBeaconBlockRoot.map rlp.b256.encode, header.requestsHash.map rlp.b256.encode,
    header.blockAccessListHash.map rlp.b256.encode, header.slotNumber.map rlp.uint.encode]

/-- The optional fields up to the last one that is there; the others are empty strings. -/
def gobscTail : List Bytes :=
  ((gobscOptional rlp header).rdropWhile Option.isNone).map fun field => field.getD [0x80]

def gobscPayload : Bytes := (gobscFixed rlp header ++ gobscTail rlp header).flatten

def gobscRlp : Bytes :=
  rlp.listHead.encode (gobscPayload rlp header).length ++ gobscPayload rlp header

end

/-- What sealing takes from other crates and from the node. -/
structure SealDeps extends VoteDeps where
  decoders : TxDecoders
  rlp : Rlp
  keccak256 : Bytes → B256
  /-- The hash of a signed transaction. -/
  txHash : TransactionSigned → B256
  /-- `ordered_trie_root_with_encoder` over raw bytes. -/
  orderedTrieRoot : List Bytes → B256
  /-- `calculate_transaction_root`. -/
  transactionRoot : List TransactionSigned → B256
  recoverSigner : TransactionSigned → Option Address
  blobs : BlobSchedule
  /-- `Parlia::back_off_time`, in milliseconds. -/
  backOffTime : Snapshot → Header → Header → ℕ
  breatheBlockInterval : ℕ
  parlia : Parlia

namespace SealDeps

variable (deps : SealDeps)

def gobscHeaderHash (header : Header) : B256 := deps.keccak256 (gobscRlp deps.rlp header)

def bid : BidDeps where
  toTxDecoders := deps.decoders
  txHash := deps.txHash
  orderedTrieRoot := deps.orderedTrieRoot
  headerHash := deps.gobscHeaderHash
  breatheBlockInterval := deps.breatheBlockInterval
  spec := deps.parlia.spec

end SealDeps

/-! ### The tag of the builder -/

inductive BlockMevInfoVersion
  | bid
  | bidBlock
  deriving DecidableEq

def BlockMevInfoVersion.toNat : BlockMevInfoVersion → ℕ
  | .bid => 1
  | .bidBlock => 2

/-- Zeros, the version in the twelfth byte and the address of the builder. -/
def encodeBlockMevInfo (version : BlockMevInfoVersion) (builder : Address) : B256 :=
  BitVec.ofNat 256 (version.toNat * 2 ^ 160 + builder.val)

def setBlockMevInfo (header : Header) (version : BlockMevInfoVersion) (builder : Address)
    (pragueActive : Bool) : Header :=
  if pragueActive then { header with requestsHash := some (encodeBlockMevInfo version builder) }
  else header

def mevTaggedHeader (spec : ChainSpec) (decoded : DecodedBidBlock) : Header :=
  setBlockMevInfo decoded.header .bidBlock decoded.builder
    (spec.isPragueActiveAtBlockAndTimestamp decoded.header.number decoded.header.timestamp)

/-! ### The header -/

def millisecondsUnit : ℕ := 50

namespace SealDeps

variable (deps : SealDeps)

/-- `now` is the clock in milliseconds. -/
def blockTimeForRamanujanFork (now : ℕ) (snap : Snapshot) (parent header : Header) : ℕ :=
  let backOff := if deps.parlia.spec.isActiveAtBlock .ramanujan header.number
    then deps.backOffTime snap parent header else 0
  let newBlockTs := calculateMillisecondTimestamp parent + snap.blockInterval + backOff
  if newBlockTs < now then (now + millisecondsUnit - 1) / millisecondsUnit * millisecondsUnit
  else newBlockTs

def blockTimeVerifyForRamanujanFork (snap : Snapshot) (header parent : Header) :
    Except InvalidHeader Unit :=
  if deps.parlia.spec.isActiveAtBlock .ramanujan header.number ∧
      calculateMillisecondTimestamp header < calculateMillisecondTimestamp parent +
        snap.blockInterval + deps.backOffTime snap parent header then
    .error (.futureBlock header.number (deps.hashSlow header))
  else .ok ()

def blockTimeUpperCheck (now : ℕ) (snap : Snapshot) (header parent : Header) :
    Except InvalidHeader Unit :=
  if deps.blockTimeForRamanujanFork now snap parent header < calculateMillisecondTimestamp header
  then .error (.futureBlock header.number (deps.hashSlow header))
  else .ok ()

/-- The proposer of a header may sign it, and with its difficulty. -/
def verifyBidBlockProposer (header : Header) (snap : Snapshot) : Except PreSealVerifyError Unit :=
  if header.beneficiary ∉ snap.validators then .error (.unauthorizedValidator header.beneficiary)
  else if snap.signRecently header.beneficiary then .error (.signedTooRecently header.beneficiary)
  else match calculateDifficulty snap header.beneficiary with
    | none => .error .noInturnValidator
    | some want =>
      if header.difficulty ≠ want then .error (.wrongDifficulty header.difficulty want) else .ok ()

def verifyBidBlockHeader (now : ℕ) (header parent : Header) (snap : Snapshot) :
    Except PreSealVerifyError Unit := do
  (validateUnsealedHeaderFields deps.parlia header).mapError (.invalidHeader ∘ .consensus)
  verifyBidBlockProposer header snap
  (deps.blockTimeVerifyForRamanujanFork snap header parent).mapError .invalidHeader
  (validateHeaderAgainstParent deps.hashSlow deps.blobs deps.parlia.spec header parent).mapError
    (.invalidHeader ∘ .consensus)
  (deps.blockTimeUpperCheck now snap header parent).mapError .invalidHeader

def preSealVerifyBidBlock (now : ℕ) (decoded : DecodedBidBlock) (parent : Header) (snap : Snapshot)
    (etherbase : Address) (expectedGasLimit : ℕ) : Except PreSealVerifyError (ℕ × ℕ) := do
  verifyBidBlockStateRoot decoded.header
  verifyBidBlockCoinbaseAndGasLimit decoded.header etherbase expectedGasLimit
  deps.verifyBidBlockHeader now (mevTaggedHeader deps.parlia.spec decoded) parent snap
  deps.bid.verifyBidBlockPayload decoded parent etherbase expectedGasLimit

end SealDeps

/-! ### Sealing -/

/-- The validator's side of sealing: its key, what it attests, its cache and its clock. -/
structure Sealing where
  signer : Option MinerSigner
  sealHeader : SealHeader
  collect : Collector Unit
  cache : TurnLengthCache
  now : ℕ

structure BscBlock where
  header : Header
  transactions : List TransactionSigned
  /-- Empty, from the fork on that brought withdrawals. -/
  withdrawals : Option (List Unit)
  sidecars : Option (List BscBlobTransactionSidecar)
  deriving DecidableEq

structure BidBlockTask where
  block : BscBlock
  senders : List Address
  gasFee : ℕ
  systemTxStart : ℕ
  builder : Address
  bidHash : B256
  deriving DecidableEq

inductive SimulateBidBlockError
  | verify (error : PreSealVerifyError)
  | bindSign (error : BindSignError)
  | finalize (error : SignerError)
  | senderRecovery
  /-- Not an error of the source, which panics. -/
  | noInturnValidator
  deriving DecidableEq

/-- The header `finalize_new_header` leaves. -/
def SealDeps.finalize (deps : SealDeps) (sealing : Sealing) (parentSnap : Snapshot)
    (header : Header) (blockTimestampMs : ℕ) (epochValidators : Option EpochValidators) :
    Except SimulateBidBlockError Header :=
  match deps.parlia.finalizeNewHeader deps.toVoteDeps sealing.sealHeader sealing.collect
      sealing.cache parentSnap header blockTimestampMs epochValidators with
  | none => .error .noInturnValidator
  | some (.error e) => .error (.finalize e)
  | some (.ok (header, _)) => .ok header

def SealDeps.recoverSenders (deps : SealDeps) (txs : List TransactionSigned) :
    Except SimulateBidBlockError (List Address) :=
  match txs.mapM deps.recoverSigner with
  | none => .error .senderRecovery
  | some senders => .ok senders

def SealDeps.simulateBidBlock (deps : SealDeps) (sealing : Sealing) (decoded : DecodedBidBlock)
    (parent : Header) (parentSnap : Snapshot) (validator : Address) (expectedGasLimit : ℕ)
    (vanity : Bytes) (blockTimestampMs : ℕ) (epochValidators : Option EpochValidators) :
    Except SimulateBidBlockError BidBlockTask := do
  let (systemTxStart, gasFee) ←
    (deps.bid.verifyBidBlockPayload decoded parent validator expectedGasLimit).mapError .verify
  let txs ← (bindSignBidBlockSystemTxs sealing.signer decoded.txs systemTxStart
    deps.parlia.spec.chainId).2.mapError .bindSign
  let header := { mevTaggedHeader deps.parlia.spec decoded with
    extraData := vanity
    transactionsRoot := deps.transactionRoot txs }
  let header ← deps.finalize sealing parentSnap header blockTimestampMs epochValidators
  ((deps.parlia.checkHeaderExtra header).mapError (.verify ∘ .invalidHeader ∘ .extra))
  ((deps.verifyBidBlockHeader sealing.now header parent parentSnap).mapError .verify)
  let senders ← deps.recoverSenders txs
  pure
    { block :=
        { header := header
          transactions := txs
          withdrawals := header.withdrawalsRoot.map fun _ => []
          sidecars := if decoded.sidecars.isEmpty then none else some decoded.sidecars }
      senders := senders
      gasFee := gasFee
      systemTxStart := systemTxStart
      builder := decoded.builder
      bidHash := decoded.bidHash }

/-! ### What sealing changes of a header -/

def Header.SameButExtra (header header' : Header) : Prop :=
  header' = { header with extraData := header'.extraData }

namespace Header.SameButExtra

variable {h₁ h₂ h₃ : Header}

lemma refl (header : Header) : header.SameButExtra header := rfl

lemma trans (h : h₁.SameButExtra h₂) (h' : h₂.SameButExtra h₃) : h₁.SameButExtra h₃ := by
  unfold SameButExtra at *
  rw [h', h]

lemma append (header : Header) (bs : Bytes) : header.SameButExtra (header.append bs) := rfl

end Header.SameButExtra

namespace Parlia

variable (parlia : Parlia)

/-- The header `finalize_new_header` starts from: difficulty and mix digest are set. -/
def retimed (difficulty blockTimestampMs : ℕ) (header : Header) : Header :=
  { header with
    difficulty := difficulty
    mixHash := if parlia.spec.isLorentzActiveAtTimestamp header.number header.timestamp
      then BitVec.ofNat 256 (blockTimestampMs % 1000) else 0 }

lemma startHeader_sameButExtra (difficulty blockTimestampMs : ℕ) (header : Header) :
    (parlia.retimed difficulty blockTimestampMs header).SameButExtra
      (parlia.startHeader difficulty blockTimestampMs header) := by
  unfold startHeader retimed
  simp only [setMillisecondPartOfTimestamp]
  cases parlia.spec.isLorentzActiveAtTimestamp header.number header.timestamp with
  | true =>
    simp only [if_true]
    split_ifs
    · exact .append _ _
    · exact .refl _
  | false =>
    simp only [Bool.false_eq_true, if_false]
    split_ifs
    · exact .append _ _
    · exact .refl _

lemma prepareValidators_sameButExtra (snap : Snapshot) (validators : Option EpochValidators)
    (header : Header) : header.SameButExtra (parlia.prepareValidators snap validators header) := by
  unfold prepareValidators
  cases isMultipleOf header.number snap.epochNum with
  | false => exact .refl _
  | true =>
    cases validators with
    | none => exact .refl _
    | some set =>
      simp only [Bool.not_true, Bool.false_eq_true, if_false]
      split_ifs <;> exact .append _ _

lemma prepareTurnLength_sameButExtra (cache : TurnLengthCache) (snap : Snapshot)
    (header : Header) : header.SameButExtra (parlia.prepareTurnLength cache snap header).1 := by
  unfold prepareTurnLength
  split_ifs
  · exact .refl _
  · exact .append _ _

variable {ε : Type} {header : Header} {collect : Collector ε}
  {deps : VoteDeps} {sealHeader : SealHeader}

lemma assembleVoteAttestation_sameButExtra {assembled : Header}
    (h : parlia.assembleVoteAttestation deps collect header = .ok assembled) :
    header.SameButExtra assembled := by
  unfold assembleVoteAttestation at h
  split_ifs at h
  · cases h
    exact .refl _
  · split at h
    · cases h
    · cases h
      exact .refl _
    · cases h
      exact .append _ _

lemma assembleOrKeep_sameButExtra (deps : VoteDeps) (collect : Collector ε) (header : Header) :
    header.SameButExtra (parlia.assembleOrKeep deps collect header) := by
  unfold assembleOrKeep
  split
  · next assembled h => exact parlia.assembleVoteAttestation_sameButExtra h
  · exact .refl _

lemma sealExtra_sameButExtra {sealed : Header}
    (h : parlia.sealExtra sealHeader header = .ok sealed) : header.SameButExtra sealed := by
  unfold sealExtra at h
  simp only at h
  split at h
  · cases h
  · cases h
    rfl

/-- **What `finalize_new_header` changes**: difficulty, mix digest and extra data. -/
theorem finalizeNewHeader_sameButExtra {cache cache' : TurnLengthCache}
    {parentSnap : Snapshot} {built : Header} {blockTimestampMs : ℕ}
    {epochValidators : Option EpochValidators}
    (h : parlia.finalizeNewHeader deps sealHeader collect cache parentSnap header blockTimestampMs
      epochValidators = some (.ok (built, cache'))) :
    ∃ difficulty, calculateDifficulty parentSnap header.beneficiary = some difficulty ∧
      (parlia.retimed difficulty blockTimestampMs header).SameButExtra built := by
  unfold finalizeNewHeader at h
  cases hdiff : calculateDifficulty parentSnap header.beneficiary with
  | none => simp [hdiff] at h
  | some difficulty =>
    refine ⟨difficulty, rfl, ?_⟩
    simp only [hdiff, Option.bind_eq_bind, Option.bind_some, Option.pure_def] at h
    split_ifs at h
    · cases h
    · simp only [Option.some.injEq] at h
      obtain ⟨sealed, hseal, h⟩ := map_eq_ok h
      cases h
      exact (parlia.startHeader_sameButExtra _ _ _).trans
          ((parlia.prepareValidators_sameButExtra _ _ _).trans
            ((parlia.prepareTurnLength_sameButExtra _ _ _).trans
              ((parlia.assembleOrKeep_sameButExtra _ _ _).trans
                (parlia.sealExtra_sameButExtra hseal))))

end Parlia

/-! ### Milliseconds -/

lemma drop_wordBytes (a b n : ℕ) : (wordBytes (a + b) n).drop a = wordBytes b n := by
  induction a with
  | zero => simp
  | succ a ih => rw [Nat.add_right_comm, wordBytes_succ, List.drop_succ_cons, ih]

lemma millisecondRemainder_eq (header : Header) :
    millisecondRemainder header = header.mixHash.toNat % 2 ^ 64 := by
  unfold millisecondRemainder
  split_ifs with hzero
  · have hall : (wordBytes 32 header.mixHash.toNat).take 32 = wordBytes 32 header.mixHash.toNat :=
      List.take_of_length_le (by rw [length_wordBytes])
    rw [slice, B256.asSlice, hall, drop_wordBytes 24 8, beNat_wordBytes]
    rfl
  · rw [not_not.mp hzero]
    rfl

lemma calculateMillisecondTimestamp_mod {header : Header}
    (h : calculateMillisecondTimestamp header / 1000 = header.timestamp) :
    calculateMillisecondTimestamp header % 1000 = header.mixHash.toNat % 2 ^ 64 := by
  have hremainder := millisecondRemainder_eq header
  unfold calculateMillisecondTimestamp wrappingAdd at h ⊢
  rw [hremainder] at h ⊢
  omega

/-! ### What is accepted -/

variable {deps : SealDeps} {decoded : DecodedBidBlock} {header parent : Header} {snap : Snapshot}

open SealDeps

lemma verifyBidBlockProposer_eq_ok (h : verifyBidBlockProposer header snap = .ok ()) :
    calculateDifficulty snap header.beneficiary = some header.difficulty := by
  unfold verifyBidBlockProposer at h
  split_ifs at h
  split at h
  · cases h
  · next want hwant =>
    split_ifs at h with hdiff
    rw [hwant, not_not.mp hdiff]

variable {now gasLimit : ℕ} {sealing : Sealing} {epochValidators : Option EpochValidators}

lemma SealDeps.verifyBidBlockHeader_eq_ok
    (h : deps.verifyBidBlockHeader now header parent snap = .ok ()) :
    UnsealedOk deps.parlia.spec header ∧
      calculateDifficulty snap header.beneficiary = some header.difficulty := by
  obtain ⟨_, hunsealed, h⟩ := bind_eq_ok h
  obtain ⟨_, hproposer, -⟩ := bind_eq_ok h
  exact ⟨validateUnsealedHeaderFields_ok_iff.mp (mapError_eq_ok hunsealed),
    verifyBidBlockProposer_eq_ok hproposer⟩

lemma mevTaggedHeader_eq (spec : ChainSpec) (decoded : DecodedBidBlock) :
    mevTaggedHeader spec decoded =
      { decoded.header with requestsHash := (mevTaggedHeader spec decoded).requestsHash } := by
  unfold mevTaggedHeader setBlockMevInfo
  split_ifs <;> rfl

variable {etherbase : Address} {found : ℕ × ℕ} {blockTimestampMs : ℕ} {vanity : Bytes}
  {task : BidBlockTask} {bid : BidBlock}

lemma SealDeps.preSealVerifyBidBlock_eq_ok
    (h : deps.preSealVerifyBidBlock now decoded parent snap etherbase gasLimit = .ok found) :
    UnsealedOk deps.parlia.spec (mevTaggedHeader deps.parlia.spec decoded) ∧
      calculateDifficulty snap decoded.header.beneficiary = some decoded.header.difficulty ∧
      deps.bid.verifyBidBlockPayload decoded parent etherbase gasLimit = .ok found := by
  obtain ⟨-, -, h⟩ := bind_eq_ok h
  obtain ⟨-, -, h⟩ := bind_eq_ok h
  obtain ⟨_, hheader, hpayload⟩ := bind_eq_ok h
  obtain ⟨hunsealed, hdiff⟩ := verifyBidBlockHeader_eq_ok hheader
  refine ⟨hunsealed, ?_, hpayload⟩
  rw [mevTaggedHeader_eq] at hdiff
  exact hdiff

lemma SealDeps.simulateBidBlock_eq_ok {validator : Address}
    (h : deps.simulateBidBlock sealing decoded parent snap validator gasLimit vanity
      blockTimestampMs epochValidators = .ok task) :
    deps.bid.verifyBidBlockPayload decoded parent validator gasLimit =
        .ok (task.systemTxStart, task.gasFee) ∧
      (bindSignBidBlockSystemTxs sealing.signer decoded.txs task.systemTxStart
        deps.parlia.spec.chainId).2 = .ok task.block.transactions ∧
      deps.finalize sealing snap { mevTaggedHeader deps.parlia.spec decoded with
        extraData := vanity
        transactionsRoot := deps.transactionRoot task.block.transactions } blockTimestampMs
        epochValidators = .ok task.block.header ∧
      deps.verifyBidBlockHeader sealing.now task.block.header parent snap = .ok () ∧
      task.block.sidecars = if decoded.sidecars.isEmpty then none else some decoded.sidecars := by
  obtain ⟨⟨systemTxStart, gasFee⟩, hpayload, h⟩ := bind_eq_ok h
  obtain ⟨txs, hsign, h⟩ := bind_eq_ok h
  obtain ⟨built, hfinal, h⟩ := bind_eq_ok h
  obtain ⟨-, -, h⟩ := bind_eq_ok h
  obtain ⟨_, hheader, h⟩ := bind_eq_ok h
  obtain ⟨senders, -, h⟩ := bind_eq_ok h
  cases h
  exact ⟨mapError_eq_ok hpayload, mapError_eq_ok hsign, hfinal, mapError_eq_ok hheader, rfl⟩

lemma SealDeps.finalize_eq_ok {built : Header}
    (h : deps.finalize sealing snap header blockTimestampMs epochValidators = .ok built) :
    ∃ difficulty, calculateDifficulty snap header.beneficiary = some difficulty ∧
      (deps.parlia.retimed difficulty blockTimestampMs header).SameButExtra built := by
  unfold finalize at h
  split at h
  · cases h
  · cases h
  · next hfinal =>
    cases h
    exact deps.parlia.finalizeNewHeader_sameButExtra hfinal

/-! ### The builder's block -/

/-- A block that is the builder's but for what the validator adds: extra data, the tag of the
builder, the upper part of the mix digest, and the signatures of the system transactions with the
transaction root that goes with them. -/
structure SealedFrom (decoders : TxDecoders) (chainId start : ℕ) (bid : BidBlock)
    (block : BscBlock) : Prop where
  header : { block.header with
    extraData := bid.header.extraData
    transactionsRoot := bid.header.transactionsRoot
    requestsHash := bid.header.requestsHash
    mixHash := bid.header.mixHash } = bid.header
  /-- The last eight bytes of the mix digest. -/
  millis : block.header.mixHash.toNat % 2 ^ 64 = bid.header.mixHash.toNat % 2 ^ 64
  txs : ∃ txs, decoders.decodeTxs 0 bid.transactions = .ok txs ∧
    block.transactions.take start = txs.take start ∧
    (block.transactions.drop start).map (·.transaction) =
      (txs.drop start).map fun tx => withChainId chainId tx.transaction
  sidecars : block.sidecars.getD [] = bid.sidecars

lemma mixHash_retimed {spec : ChainSpec} {header tagged : Header} (hok : UnsealedOk spec tagged)
    (htagged : tagged = { header with requestsHash := tagged.requestsHash }) :
    (if spec.isLorentzActiveAtTimestamp header.number header.timestamp
      then BitVec.ofNat 256 (calculateMillisecondTimestamp header % 1000) else (0 : B256)).toNat %
        2 ^ 64 = header.mixHash.toNat % 2 ^ 64 := by
  have hmix := hok.mixDigest
  rw [htagged] at hmix
  simp only at hmix
  split_ifs at hmix ⊢
  · have hms : calculateMillisecondTimestamp header % 1000 = header.mixHash.toNat % 2 ^ 64 :=
      calculateMillisecondTimestamp_mod hmix
    rw [BitVec.toNat_ofNat, hms]
    omega
  · rw [hmix]

theorem sealedFrom_of_accepted {builder : Address}
    (hdecode : deps.bid.toDecodedBidBlock bid builder = .ok decoded)
    (hverify : deps.preSealVerifyBidBlock now decoded parent snap etherbase gasLimit = .ok found)
    (hsim : deps.simulateBidBlock sealing decoded parent snap etherbase gasLimit vanity
      (calculateMillisecondTimestamp bid.header) epochValidators = .ok task) :
    SealedFrom deps.decoders deps.parlia.spec.chainId task.systemTxStart bid task.block := by
  obtain ⟨txs, htxs, hdecode⟩ := bind_eq_ok hdecode
  cases hdecode
  obtain ⟨hunsealed, hdiff, -⟩ := preSealVerifyBidBlock_eq_ok hverify
  obtain ⟨hpayload, hsign, hfinal, -, hsidecars⟩ := simulateBidBlock_eq_ok hsim
  obtain ⟨difficulty, hdiff', hbuilt⟩ := finalize_eq_ok hfinal
  have htag := mevTaggedHeader_eq deps.parlia.spec
    ⟨builder, bid.header, txs, deps.bid.orderedTrieRoot bid.transactions, bid.sidecars, 0, 0,
      deps.bid.headerHash bid.header⟩
  have hstart := (BidDeps.verifyBidBlockPayload_eq_ok hpayload).start_le
  obtain ⟨hasked, htake, hdrop⟩ := bindSignBidBlockSystemTxs_eq_ok hstart hsign
  have hmix := mixHash_retimed hunsealed htag
  rw [htag] at hdiff' hbuilt
  obtain rfl : bid.header.difficulty = difficulty := Option.some.inj (hdiff.symm.trans hdiff')
  refine ⟨?_, ?_, ⟨txs, htxs, htake, hdrop.trans hasked⟩, ?_⟩
  · rw [hbuilt]
    rfl
  · rw [hbuilt]
    exact hmix
  · rw [hsidecars]
    cases bid.sidecars <;> rfl

/-! ### What a builder's signature covers -/

lemma transactionsRoot_eq_of_gobscRlp_eq {rlp : Rlp} {h₁ h₂ : Header}
    (hlen1 : (gobscPayload rlp h₁).length < 2 ^ 64) (hlen2 : (gobscPayload rlp h₂).length < 2 ^ 64)
    (heq : gobscRlp rlp h₁ = gobscRlp rlp h₂) : h₁.transactionsRoot = h₂.transactionsRoot := by
  obtain ⟨-, hpayload⟩ := rlp.listHead.decodable (rlp.listHead_fits _ hlen1)
    (rlp.listHead_fits _ hlen2) heq
  simp only [gobscPayload, gobscFixed, List.cons_append, List.flatten_cons] at hpayload
  obtain ⟨-, h⟩ := rlp.b256.decodable (rlp.b256_fits _) (rlp.b256_fits _) hpayload
  obtain ⟨-, h⟩ := rlp.b256.decodable (rlp.b256_fits _) (rlp.b256_fits _) h
  obtain ⟨-, h⟩ := rlp.address.decodable (rlp.address_fits _) (rlp.address_fits _) h
  obtain ⟨-, h⟩ := rlp.b256.decodable (rlp.b256_fits _) (rlp.b256_fits _) h
  exact (rlp.b256.decodable (rlp.b256_fits _) (rlp.b256_fits _) h).1

/-- Headers and bodies among which neither the hash nor the trie root collides. -/
structure BidUniverse (deps : SealDeps) where
  headers : Set Header
  bodies : Set (List Bytes)
  /-- Sizes fit `usize`. -/
  sized : ∀ header ∈ headers, (gobscPayload deps.rlp header).length < 2 ^ 64
  keccakFree : Set.InjOn deps.keccak256 (gobscRlp deps.rlp '' headers)
  trieFree : Set.InjOn deps.orderedTrieRoot bodies

/-- A submission that passes the checks before sealing. -/
def SealDeps.Admits (deps : SealDeps) (bid : BidBlock) : Prop :=
  ∃ builder decoded now parent snap etherbase gasLimit found,
    deps.bid.toDecodedBidBlock bid builder = .ok decoded ∧
    deps.preSealVerifyBidBlock now decoded parent snap etherbase gasLimit = .ok found

lemma SealDeps.Admits.transactionsRoot (h : deps.Admits bid) :
    deps.orderedTrieRoot bid.transactions = bid.header.transactionsRoot := by
  obtain ⟨builder, decoded, now, parent, snap, etherbase, gasLimit, ⟨start, fee⟩, hdecode,
    hverify⟩ := h
  obtain ⟨-, -, hpayload⟩ := preSealVerifyBidBlock_eq_ok hverify
  have hroot := (BidDeps.verifyBidBlockPayload_eq_ok hpayload).root
  obtain ⟨txs, -, hdecode⟩ := bind_eq_ok hdecode
  cases hdecode
  exact hroot

/-- **A sealed block is the builder's**, and nobody can attach another body to a builder's
signature: what passes the checks before sealing and is sealed differs from the submission only in
what the validator adds, and two submissions that pass with one header hash have the same
transactions. -/
theorem sealed_bid_is_builders (deps : SealDeps) (U : BidUniverse deps) :
    (∀ (bid : BidBlock) (builder : Address) (decoded : DecodedBidBlock) (now : ℕ)
        (parent : Header) (snap : Snapshot) (etherbase : Address) (gasLimit : ℕ) (found : ℕ × ℕ)
        (sealing : Sealing) (vanity : Bytes) (epochValidators : Option EpochValidators)
        (task : BidBlockTask),
      deps.bid.toDecodedBidBlock bid builder = .ok decoded →
      deps.preSealVerifyBidBlock now decoded parent snap etherbase gasLimit = .ok found →
      deps.simulateBidBlock sealing decoded parent snap etherbase gasLimit vanity
        (calculateMillisecondTimestamp bid.header) epochValidators = .ok task →
      SealedFrom deps.decoders deps.parlia.spec.chainId task.systemTxStart bid task.block) ∧
    ∀ bid₁ bid₂ : BidBlock, bid₁.header ∈ U.headers → bid₂.header ∈ U.headers →
      bid₁.transactions ∈ U.bodies → bid₂.transactions ∈ U.bodies →
      deps.Admits bid₁ → deps.Admits bid₂ →
      deps.gobscHeaderHash bid₁.header = deps.gobscHeaderHash bid₂.header →
      bid₁.transactions = bid₂.transactions := by
  refine ⟨fun bid builder decoded now parent snap etherbase gasLimit found sealing vanity
    epochValidators task hdecode hverify hsim => sealedFrom_of_accepted hdecode hverify hsim, ?_⟩
  intro bid₁ bid₂ hh1 hh2 hb1 hb2 ha1 ha2 hhash
  have hrlp := U.keccakFree (Set.mem_image_of_mem _ hh1) (Set.mem_image_of_mem _ hh2) hhash
  have hroot := transactionsRoot_eq_of_gobscRlp_eq (U.sized _ hh1) (U.sized _ hh2) hrlp
  apply U.trieFree hb1 hb2
  rw [ha1.transactionsRoot, ha2.transactionsRoot, hroot]

/-! ### A sealed bid -/

def sealingDeps : SealDeps :=
  { sampleDeps true with
    envelopeHash := fun _ => 0
    verify := fun _ _ _ => true
    aggregate := fun _ => none
    signatureToBytes := fun _ => 0
    encodeAttestation := fun _ => []
    decoders := sampleDecoders [(userTxBytes, userTx)]
    rlp := .standard
    keccak256 := fun _ => 0
    txHash := fun _ => 0
    orderedTrieRoot := fun _ => 0
    transactionRoot := fun txs => BitVec.ofNat 256 txs.length
    recoverSigner := fun _ => some (Fin.ofNat _ 7)
    blobs := plainBlobs
    backOffTime := fun _ _ _ => 0
    breatheBlockInterval := 86400
    parlia := ⟨sampleSpec .never .never (.timestamp 0), 200⟩ }

def sealingParent : Header := { sampleHeader 100 0 7 0 [] with gasLimit := 10000000 }

/-- Block 101, a quarter of a second after its full second; the upper part of the mix digest is
not used. -/
def sealingBid : BidBlock where
  header := { sampleHeader 101 0 7 801 [] with
    stateRoot := 1
    ommersHash := emptyOmmerRootHash
    difficulty := 2
    gasLimit := 10000000
    mixHash := BitVec.ofNat 256 (2 ^ 200 + 250)
    baseFeePerGas := some 0 }
  transactions := [userTxBytes, depositTxBytes]
  sidecars := []

def sealingSnap : Snapshot :=
  { (default : Snapshot) with
    epochNum := 200
    blockNumber := 100
    validators := [Fin.ofNat _ 7]
    turnLength := some 1
    blockInterval := 3250 }

def sampleSealing : Sealing where
  signer := some bidSigner
  sealHeader _ _ := .ok ⟨List.replicate extraSealLen 1, by simp⟩
  collect _ := .ok none
  cache := ⟨0, []⟩
  now := 0

def sealingDecoded : DecodedBidBlock :=
  ⟨Fin.ofNat _ 9, sealingBid.header, [userTx, depositTx .legacy none none []], 0, [], 0, 0, 0⟩

def sealingUniverse : BidUniverse sealingDeps where
  headers := {sealingBid.header}
  bodies := {sealingBid.transactions}
  sized := by
    rintro header rfl
    decide +kernel
  keccakFree := by
    rw [Set.image_singleton]
    exact Set.injOn_singleton _ _
  trieFree := Set.injOn_singleton _ _

/-- A bid that is accepted and sealed: the milliseconds stay, the rest of the mix digest does
not. -/
theorem sealed_bid_is_builders_sample : ∃ task,
    sealingDeps.simulateBidBlock sampleSealing sealingDecoded sealingParent sealingSnap
      (Fin.ofNat _ 7) 10000000 [] (calculateMillisecondTimestamp sealingBid.header) none =
        .ok task ∧
    task.block.header.mixHash = 250 ∧ sealingBid.header.mixHash ≠ 250 ∧
    SealedFrom sealingDeps.decoders 56 task.systemTxStart sealingBid task.block := by
  have hdecode : sealingDeps.bid.toDecodedBidBlock sealingBid (Fin.ofNat _ 9) =
      .ok sealingDecoded := by decide +kernel
  have hverify : sealingDeps.preSealVerifyBidBlock 0 sealingDecoded sealingParent sealingSnap
      (Fin.ofNat _ 7) 10000000 = .ok (1, 1) := by decide +kernel
  have hsealed : (sealingDeps.simulateBidBlock sampleSealing sealingDecoded sealingParent
      sealingSnap (Fin.ofNat _ 7) 10000000 []
      (calculateMillisecondTimestamp sealingBid.header) none).toOption.map
        (fun task => task.block.header.mixHash) = some 250 := by decide +kernel
  obtain ⟨task, htask, hmix⟩ := Option.map_eq_some_iff.mp hsealed
  refine ⟨task, toOption_eq_some htask, hmix, by decide +kernel, ?_⟩
  exact (sealed_bid_is_builders sealingDeps sealingUniverse).1 sealingBid _ _ _ _ _ _ _ _ _ _ _ _
    hdecode hverify (toOption_eq_some htask)

end RethBsc
