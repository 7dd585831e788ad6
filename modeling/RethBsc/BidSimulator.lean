import RethBsc.BidBlockRelease
import RethBsc.PaymentLane

/-!
The simulation of a bid.

A bid is a list of transactions, the last of which pays for it. The simulator packs the others
first, then transactions of its own pool if it merges, then the last one, and finishes the block.
The three passes share one loop. A transaction of the bid that cannot be packed ends the
simulation; one of the pool is left out, mostly with the later ones of its sender.

Times, the flag that interrupts a simulation and the pool are inputs: whatever they are, the
simulation is a function of them.
-/

namespace RethBsc

abbrev U256 := BitVec 256

def payBidTxGasLimit : ℕ := 25000
def txGas : ℕ := 21000

structure BlobTransactionSidecar where
  blobs : List Bytes
  commitments : List Bytes
  proofs : List Bytes
  deriving DecidableEq

structure Bid where
  builder : Address
  blockNumber : ℕ
  txs : List TransactionSigned
  blobSidecars : B256 → Option BlobTransactionSidecar
  unRevertible : List B256
  /-- The gas the builder says the bid uses. -/
  gasUsed : ℕ
  gasFee : U256
  builderFee : U256

/-- The last two fields are no part of the source, and nothing it does reads them: they are the
fees without the bound of a word. -/
structure BidRuntime where
  bid : Bid
  expectedBlockReward : U256
  expectedValidatorReward : U256
  packedBlockReward : U256
  packedValidatorReward : U256
  gasUsed : ℕ
  gasFee : U256
  systemBalance : U256
  blobSidecars : List BscBlobTransactionSidecar
  blockBlobCount : ℕ
  /-- What `systemBalance` counts. -/
  income : ℕ
  /-- What `packedBlockReward` counts. -/
  packedIncome : ℕ

inductive SimulateError
  | builderFeeExceedsReward | noTimeLeft | gasLimitExceeded
  /-- A subtraction below zero, where these are checked. -/
  | overflow
  | noBuilder
  | noHeader
  | signature
  | interrupted
  | stateRead
  | lane (error : PackError)
  | blobNotAllowed
  | blobLimitExceeded
  | invalidTransaction
  | execution
  | insertBlob
  /-- No tip for an executed transaction. -/
  | noTip
  | invalidReward
  | gasPriceTooLow
  | noPayBidTx
  | finish
  | unRevertibleFailed
  deriving DecidableEq

def Transaction.effectiveTipPerGas (tx : Transaction) (baseFee : ℕ) : Option ℕ :=
  if tx.maxFeePerGas < baseFee then none
  else match tx.maxPriorityFeePerGas with
    | some priority => some (min (tx.maxFeePerGas - baseFee) priority)
    | none => some (tx.maxFeePerGas - baseFee)

def meetsTipFloor (effectiveTip : Option ℕ) (floor : ℕ) : Bool :=
  decide (floor ≤ effectiveTip.getD 0)

def TransactionSigned.isEip4844 (tx : TransactionSigned) : Bool :=
  decide (tx.transaction.txType = .eip4844)

/-- `u64` subtraction, with and without overflow checks. -/
def u64Sub (checks : Bool) (a b : ℕ) : Except SimulateError ℕ :=
  if checks && decide (a < b) then .error .overflow else .ok (wrappingSub a b)

/-! ### The block under construction -/

/-- Why the EVM refuses a transaction. -/
inductive TransactError
  | nonceTooLow | invalid | other
  deriving DecidableEq

structure Builder (World : Type) where
  executor : LaneExecutor
  world : World
  transactions : List Recovered
  /-- Whether each transaction succeeded. -/
  receipts : List Bool

/-- What the EVM did: the state after, the gas, and whether the transaction succeeded. -/
structure Transacted (World : Type) where
  world : World
  gasUsed : ℕ
  success : Bool

/-- The system transactions of a block, with all its gas and their receipts. -/
structure FinalizedBlock where
  systemTxs : List TransactionSigned
  gasUsed : ℕ
  receipts : List Bool

/-- The EVM, the chain and the pool. A transaction uses at most the gas it declares, and system
transactions are legacy transactions. -/
structure BidEnv (World : Type) where
  spec : ChainSpec
  blobs : BlobSchedule
  txHash : TransactionSigned → B256
  hashSlow : Header → B256
  recoverSigner : TransactionSigned → Option Address
  blobVersionedHashes : Transaction → List B256
  nonce : World → Address → Except Unit ℕ
  codeIsEmpty : World → Address → Except LaneError Bool
  transact : World → Recovered → Except TransactError (Transacted World)
  transact_le : ∀ world recovered out, transact world recovered = .ok out →
    out.gasUsed ≤ recovered.tx.transaction.gasLimit
  finalizeNewBlock : World → ℕ → Except Unit FinalizedBlock
  finalize_legacy : ∀ world gasUsed out, finalizeNewBlock world gasUsed = .ok out →
    ∀ tx ∈ out.systemTxs, tx.transaction.txType = .legacy
  /-- `assemble_block_body_only`: the header and the withdrawals. -/
  assemble : World → List TransactionSigned → ℕ → Except Unit (Header × Option (List Unit))
  calcBlobFee : Header → ℕ
  /-- `best_transactions_with_attributes` of the pool. -/
  bestTransactions : ℕ → Option ℕ → List Recovered
  insertBlob : B256 → BlobTransactionSidecar → Bool
  /-- Whether the node was built with overflow checks. -/
  overflowChecks : Bool

inductive PassKind
  | bidTxs | poolTxs | payBid
  deriving DecidableEq

/-- The slot a bid is simulated for, and what happens meanwhile. -/
structure BidSlot (World : Type) where
  /-- The header of the mining context. -/
  header : Option Header
  parent : Header
  timestamp : ℕ
  beneficiary : Address
  gasLimit : ℕ
  systemTxsGas : ℕ
  baseFee : ℕ
  minGasTip : ℕ
  minGasPrice : U256
  validatorCommission : ℕ
  greedyMerge : Bool
  /-- The state of the parent. -/
  stateProvider : Option World
  /-- The state and the lane when the first transaction comes. -/
  start : World → Option (World × LaneState)
  delayAtStart : ℕ
  delayAfterBid : ℕ
  delayAtMerge : ℕ
  elapsed : ℕ → ℕ
  interrupted : PassKind → ℕ → Bool

structure Pass where
  kind : PassKind
  blockGasLimit : ℕ

def Pass.fromPool (pass : Pass) : Bool := decide (pass.kind = .poolTxs)

structure PackState (World : Type) where
  runtime : BidRuntime
  builder : Builder World
  skippedSenders : List Address

/-- What is done with a transaction before it is counted. -/
inductive Verdict
  | stop | pass | skip | pack
  deriving DecidableEq

section Runtime

variable (bid : Bid) (validatorCommission : ℕ)

/-- A share in ten thousandths; products wrap. -/
def commissionOf (validatorCommission : ℕ) (reward : U256) : U256 :=
  reward * BitVec.ofNat 256 validatorCommission / 10000

def newBidRuntime : Except SimulateError BidRuntime :=
  let expectedBlockReward := bid.gasFee
  let expectedValidatorReward := commissionOf validatorCommission expectedBlockReward
  if expectedValidatorReward < bid.builderFee then .error .builderFeeExceedsReward
  else .ok
    { bid := bid
      expectedBlockReward := expectedBlockReward
      expectedValidatorReward := expectedValidatorReward - bid.builderFee
      packedBlockReward := 0
      packedValidatorReward := 0
      gasUsed := 0
      gasFee := 0
      systemBalance := 0
      blobSidecars := []
      blockBlobCount := 0
      income := 0
      packedIncome := 0 }

def BidRuntime.packReward (runtime : BidRuntime) : BidRuntime :=
  { runtime with
    packedBlockReward := runtime.systemBalance
    packedValidatorReward :=
      commissionOf validatorCommission runtime.systemBalance - runtime.bid.builderFee
    packedIncome := runtime.income }

def BidRuntime.validReward (runtime : BidRuntime) : Bool :=
  decide (runtime.expectedBlockReward ≤ runtime.packedBlockReward) &&
    decide (runtime.expectedValidatorReward ≤ runtime.packedValidatorReward)

end Runtime

/-- The balance is what was earned, up to wrapping. -/
def BidRuntime.Booked (r : BidRuntime) : Prop := r.systemBalance = BitVec.ofNat 256 r.income

namespace PackState

variable {World : Type} (s : PackState World)

def skip (signer : Address) : PackState World :=
  { s with skippedSenders := signer :: s.skippedSenders }

def countBlobs (blobs : ℕ) : PackState World :=
  { s with runtime := { s.runtime with blockBlobCount := s.runtime.blockBlobCount + blobs } }

def pushSidecar (sidecar : BscBlobTransactionSidecar) : PackState World :=
  { s with runtime := { s.runtime with blobSidecars := s.runtime.blobSidecars ++ [sidecar] } }

/-- Gas and fees of an executed transaction. -/
def account (tx : Transaction) (baseFee gasUsed : ℕ) : Except SimulateError (PackState World) :=
  match tx.effectiveTipPerGas baseFee with
  | none => .error .noTip
  | some tip => .ok
    { s with
      runtime := { s.runtime with
        gasUsed := s.runtime.gasUsed + gasUsed
        gasFee := s.runtime.gasFee +
          (BitVec.ofNat 256 tip + BitVec.ofNat 256 baseFee) * BitVec.ofNat 256 gasUsed
        systemBalance := s.runtime.systemBalance + BitVec.ofNat 256 tip * BitVec.ofNat 256 gasUsed
        income := s.runtime.income + tip * gasUsed } }

end PackState

namespace BidEnv

variable {World : Type} (env : BidEnv World) (slot : BidSlot World)

/-! ### The loop -/

def executeTransaction (b : Builder World) (recovered : Recovered) :
    Except TransactError (Builder World × ℕ) :=
  match b.executor.executeTransactionWithoutCommit (env.codeIsEmpty b.world)
      recovered.tx.transaction recovered.signer with
  | .error _ => .error .other
  | .ok (true, _) => .ok ({ b with transactions := b.transactions ++ [recovered] }, 0)
  | .ok (false, laneType) =>
    match env.transact b.world recovered with
    | .error error => .error error
    | .ok out => .ok
      ({ executor := b.executor.commitTransaction false laneType out.gasUsed
         world := out.world
         transactions := b.transactions ++ [recovered]
         receipts := b.receipts ++ [out.success] }, out.gasUsed)

variable (header : Header)

def blobEligible : Bool := isBlobEligibleBlock env.spec header.number header.timestamp

def maxBlobCount : ℕ :=
  if env.blobEligible header then
    ((env.blobs.blobParamsAtTimestamp env.spec slot.timestamp).map BlobParams.maxBlobCount).getD 0
  else 0

def blobCount (tx : TransactionSigned) : ℕ :=
  if tx.isEip4844 then (env.blobVersionedHashes tx.transaction).length else 0

/-- The checks before a transaction is counted. -/
def screen (pass : Pass) (index : ℕ) (recovered : Recovered)
    (s : PackState World) : Except SimulateError Verdict :=
  let tx := recovered.tx.transaction
  let blobRefused := recovered.tx.isEip4844 && !env.blobEligible header
  if pass.fromPool then
    if slot.delayAtMerge ≤ slot.elapsed index then .ok .stop
    else do
      let left ← u64Sub env.overflowChecks pass.blockGasLimit s.runtime.gasUsed
      if left < txGas then .ok .stop
      else if recovered.signer ∈ s.skippedSenders then .ok .pass
      else if slot.interrupted pass.kind index then .error .interrupted
      else do
        let nonce ← (env.nonce s.builder.world recovered.signer).mapError fun _ => .stateRead
        -- stale nonces do not hold back what follows them
        if tx.nonce < nonce then .ok .pass
        else if !meetsTipFloor (tx.effectiveTipPerGas slot.baseFee) slot.minGasTip then .ok .skip
        else if blobRefused then .ok .skip
        else
          let shared := pass.blockGasLimit - s.runtime.gasUsed
          if shared < tx.gasLimit then .ok .skip
          else do
            let admitted ← (s.builder.executor.laneAdmitsPoolTx
              (env.codeIsEmpty s.builder.world) tx recovered.signer shared).mapError .lane
            .ok (if admitted then .pack else .skip)
  else if slot.interrupted pass.kind index then .error .interrupted
  else if blobRefused then .error .blobNotAllowed
  else .ok .pack

variable (s : PackState World)

def bscSidecar (index : ℕ) (recovered : Recovered)
    (sidecar : BlobTransactionSidecar) : BscBlobTransactionSidecar where
  blobs := sidecar.blobs
  commitments := sidecar.commitments
  proofs := sidecar.proofs
  blockNumber := s.runtime.bid.blockNumber
  blockHash := 0
  txIndex := index
  txHash := env.txHash recovered.tx
  version := 0

/-- What follows the execution of a transaction: its sidecar, if the bid has one, and its gas. -/
def settle (pass : Pass) (index : ℕ) (recovered : Recovered) (gasUsed : ℕ) (s : PackState World) :
    Except SimulateError (PackState World) :=
  let hash := env.txHash recovered.tx
  match if recovered.tx.isEip4844 then s.runtime.bid.blobSidecars hash else none with
  | none => s.account recovered.tx.transaction slot.baseFee gasUsed
  | some sidecar =>
    if !env.insertBlob hash sidecar then
      if pass.fromPool then .ok (s.skip recovered.signer) else .error .insertBlob
    else (s.pushSidecar (env.bscSidecar s index recovered sidecar)).account
      recovered.tx.transaction slot.baseFee gasUsed

/-- The blobs of a transaction are counted before it is executed. -/
def pack (pass : Pass) (index : ℕ) (recovered : Recovered)
    (s : PackState World) : Except SimulateError (PackState World) :=
  let blobs := env.blobCount recovered.tx
  if recovered.tx.isEip4844 ∧ env.maxBlobCount slot header < s.runtime.blockBlobCount + blobs then
    if pass.fromPool then .ok (s.skip recovered.signer) else .error .blobLimitExceeded
  else
    let s := s.countBlobs blobs
    match env.executeTransaction s.builder recovered with
    | .error .nonceTooLow => if pass.fromPool then .ok s else .error .invalidTransaction
    | .error .invalid =>
      if pass.fromPool then .ok (s.skip recovered.signer) else .error .invalidTransaction
    | .error .other => if pass.fromPool then .ok (s.skip recovered.signer) else .error .execution
    | .ok (builder, gasUsed) =>
      env.settle slot pass index recovered gasUsed { s with builder := builder }

/-- The transactions of a pass from an index on. -/
def commitFrom (pass : Pass) : ℕ → List Recovered → PackState World →
    Except SimulateError (PackState World)
  | _, [], s => .ok s
  | index, recovered :: txs, s => do
    match ← env.screen slot header pass index recovered s with
    | .stop => .ok s
    | .pass => commitFrom pass (index + 1) txs s
    | .skip => commitFrom pass (index + 1) txs (s.skip recovered.signer)
    | .pack =>
      let s ← env.pack slot header pass index recovered s
      commitFrom pass (index + 1) txs s

def commitTransactionRecovered (pass : Pass) (txs : List Recovered) (s : PackState World) :
    Except SimulateError (PackState World) :=
  match slot.header with
  | none => .error .noHeader
  -- every pass has its own set of skipped senders
  | some header => env.commitFrom slot header pass 0 txs { s with skippedSenders := [] }

def tryIntoRecovered : List TransactionSigned → Except SimulateError (List Recovered)
  | [] => .ok []
  | tx :: txs =>
    match env.recoverSigner tx with
    | none => .error .signature
    | some signer => (tryIntoRecovered txs).map fun rest => ⟨tx, signer⟩ :: rest

def commitTransaction (pass : Pass) (bidTxs : List TransactionSigned) (s : PackState World) :
    Except SimulateError (PackState World) := do
  let recovered ← env.tryIntoRecovered bidTxs
  env.commitTransactionRecovered slot pass recovered s

/-! ### The pool -/

def lastBidNonce (inBid : Recovered → Bool) (txs : List Recovered) (sender : Address) : Option ℕ :=
  ((txs.filter fun tx => inBid tx && decide (tx.signer = sender)).map
    fun tx => tx.tx.transaction.nonce).max?

/-- Without what each sender has in the bid, and before it. -/
def filterBidTxs (inBid : Recovered → Bool) (txs : List Recovered) : List Recovered :=
  txs.filter fun tx =>
    match lastBidNonce inBid txs tx.signer with
    | none => true
    | some last => decide (last < tx.tx.transaction.nonce)

def fillTxFromPool (pass : Pass) (bidTxs : List TransactionSigned) (s : PackState World) :
    Except SimulateError (PackState World) :=
  let cancun := env.spec.isCancunActiveAtTimestamp slot.parent.number slot.parent.timestamp
  match slot.header, cancun with
  | none, true => .error .noHeader
  | header, _ =>
    let blobFee := if cancun then
        header.bind fun header =>
          if header.excessBlobGas.getD 0 = 0 then none else some (env.calcBlobFee header)
      else none
    let bidTxHashes := bidTxs.map env.txHash
    let pendingTxs := filterBidTxs (fun tx => decide (env.txHash tx.tx ∈ bidTxHashes))
      (env.bestTransactions slot.baseFee blobFee)
    env.commitTransactionRecovered slot pass pendingTxs s

/-! ### The simulation -/

variable (runtime : BidRuntime)

/-- The executor of the block before its first transaction. -/
def startState (world : World) (lane : LaneState) : PackState World where
  runtime := runtime
  builder :=
    { executor := ⟨.bidSimulation, slot.beneficiary, slot.gasLimit, slot.systemTxsGas, 0, lane⟩
      world := world
      transactions := []
      receipts := [] }
  skippedSenders := []

def blockGasLimit : ℕ := slot.gasLimit - slot.systemTxsGas - payBidTxGasLimit

/-- Up to the first pass. -/
def commitBidTxs : Except SimulateError (PackState World) :=
  if slot.header.isSome ∧ slot.delayAtStart = 0 then .error .noTimeLeft
  else match slot.stateProvider with
    | none => .error .stateRead
    | some parentState => do
      let left ← u64Sub env.overflowChecks slot.gasLimit slot.systemTxsGas
      let left ← u64Sub env.overflowChecks left payBidTxGasLimit
      if left < runtime.bid.gasUsed then .error .gasLimitExceeded
      else match slot.start parentState with
        | none => .error .noBuilder
        | some (world, lane) =>
          env.commitTransaction slot ⟨.bidTxs, blockGasLimit slot⟩ runtime.bid.txs.dropLast
            (startState slot runtime world lane)

def checkRewards : Except SimulateError (PackState World) :=
  if slot.header.isSome ∧ slot.delayAfterBid = 0 then .error .noTimeLeft
  else
    let runtime := s.runtime.packReward slot.validatorCommission
    if !runtime.validReward then .error .invalidReward
    else if runtime.gasUsed ≠ 0 ∧
        runtime.gasFee / BitVec.ofNat 256 runtime.gasUsed < slot.minGasPrice then
      .error .gasPriceTooLow
    else .ok { s with runtime := runtime }

/-- The second pass. -/
def mergePool : Except SimulateError (PackState World) :=
  if !slot.greedyMerge then .ok s
  else if slot.header.isNone then .error .noHeader
  else if slot.delayAtMerge = 0 then .ok s
  else do
    let s ← env.fillTxFromPool slot ⟨.poolTxs, blockGasLimit slot⟩ s.runtime.bid.txs.dropLast s
    .ok { s with runtime := s.runtime.packReward slot.validatorCommission }

/-- The third pass. -/
def commitPayBid : Except SimulateError (PackState World) :=
  match s.runtime.bid.txs.getLast? with
  | none => .error .noPayBidTx
  | some payBidTx =>
    env.commitTransaction slot ⟨.payBid, blockGasLimit slot + payBidTxGasLimit⟩ [payBidTx] s

/-- All the transactions of the block but those of the system. -/
def packBid : Except SimulateError (PackState World) := do
  let s ← env.commitBidTxs slot runtime
  let s ← checkRewards slot s
  let s ← env.mergePool slot s
  env.commitPayBid slot s

/-- `finish` of the builder. -/
def finish (b : Builder World) : Except Unit (BscBlock × List Bool) := do
  b.executor.verifyPackedBid.mapError fun _ => ()
  let out ← env.finalizeNewBlock b.world b.executor.gasUsed
  let executor := { b.executor with gasUsed := out.gasUsed }
  (executor.verifyPaymentLane out.gasUsed).mapError fun _ => ()
  let transactions := b.transactions.map Recovered.tx ++ out.systemTxs
  let (header, withdrawals) ← env.assemble b.world transactions out.gasUsed
  .ok (⟨header, transactions, withdrawals, none⟩, b.receipts ++ out.receipts)

def buildPayload : Except SimulateError BscBlock := do
  let (block, receipts) ← (env.finish s.builder).mapError fun _ => .finish
  if (receipts.zip block.transactions).any fun (success, tx) =>
      !success && decide (env.txHash tx ∈ s.runtime.bid.unRevertible) then
    .error .unRevertibleFailed
  else
    let blobSidecars := s.runtime.blobSidecars.map fun sidecar =>
      { sidecar with blockHash := env.hashSlow block.header }
    .ok { block with sidecars := if blobSidecars.isEmpty then none else some blobSidecars }

/-- The payload of a bid, and whether it is the best one so far. -/
structure Simulated where
  runtime : BidRuntime
  block : BscBlock
  success : Bool

def simulateBidInner (best : Option U256) : Except SimulateError Simulated := do
  let s ← env.packBid slot runtime
  let block ← env.buildPayload s
  .ok { runtime := s.runtime
        block := block
        success := match best with
          | none => true
          | some reward => decide (reward < s.runtime.packedBlockReward) }

/-! ### What one transaction can do -/

section Steps

variable {env slot} {header : Header} {pass : Pass} {index : ℕ} {recovered : Recovered}
  {s s' : PackState World}

/-- A transaction of the pool that is left out; its blobs may have been counted. -/
structure Idle (env : BidEnv World) (slot : BidSlot World) (header : Header) (pass : Pass)
    (recovered : Recovered) (s s' : PackState World) : Prop where
  pool : pass.fromPool = true
  builder : s'.builder = s.builder
  runtime : s'.runtime = s.runtime ∨
    s'.runtime = (s.countBlobs (env.blobCount recovered.tx)).runtime ∧
      (recovered.tx.isEip4844 = true →
        s.runtime.blockBlobCount + env.blobCount recovered.tx ≤ env.maxBlobCount slot header)

/-- The sidecar of a blob transaction that the bid brings and the pool takes. -/
def carried (env : BidEnv World) (bid : Bid) (tx : TransactionSigned) :
    Option BlobTransactionSidecar :=
  if tx.isEip4844 then (bid.blobSidecars (env.txHash tx)).filter (env.insertBlob (env.txHash tx))
  else none

/-- Some fees are added, and the rewards are as before. -/
def Earned (r r' : BidRuntime) : Prop :=
  (r.Booked → r'.Booked) ∧ r.income ≤ r'.income ∧
    r'.expectedBlockReward = r.expectedBlockReward ∧ r'.packedBlockReward = r.packedBlockReward ∧
    r'.packedValidatorReward = r.packedValidatorReward ∧ r'.packedIncome = r.packedIncome

/-- A transaction that is executed. Only for one of the pool whose sidecar is refused is the gas
not written down. -/
structure Executed (env : BidEnv World) (slot : BidSlot World) (header : Header) (pass : Pass)
    (index : ℕ) (recovered : Recovered) (s s' : PackState World) (gasUsed : ℕ) : Prop where
  executes : env.executeTransaction s.builder recovered = .ok (s'.builder, gasUsed)
  shared : pass.fromPool = true →
    recovered.tx.transaction.gasLimit ≤ pass.blockGasLimit - s.runtime.gasUsed
  counted : s'.runtime.blockBlobCount = s.runtime.blockBlobCount + env.blobCount recovered.tx
  within : recovered.tx.isEip4844 = true → s'.runtime.blockBlobCount ≤ env.maxBlobCount slot header
  bid : s'.runtime.bid = s.runtime.bid
  earned : Earned s.runtime s'.runtime
  sidecars : s'.runtime.blobSidecars = s.runtime.blobSidecars ++
    ((env.carried s.runtime.bid recovered.tx).map (env.bscSidecar s index recovered)).toList
  settled : s'.runtime.gasUsed = s.runtime.gasUsed + gasUsed ∨ pass.fromPool = true ∧ ∃ sidecar,
      s.runtime.bid.blobSidecars (env.txHash recovered.tx) = some sidecar ∧
        env.insertBlob (env.txHash recovered.tx) sidecar = false

def Step (env : BidEnv World) (slot : BidSlot World) (header : Header) (pass : Pass) (index : ℕ)
    (recovered : Recovered) (s s' : PackState World) : Prop :=
  env.Idle slot header pass recovered s s' ∨
    ∃ gasUsed, env.Executed slot header pass index recovered s s' gasUsed

variable {gasUsed : ℕ} {P : List Recovered → PackState World → Prop} {runtime : BidRuntime}

lemma account_eq_ok {tx : Transaction} {baseFee : ℕ} (h : s.account tx baseFee gasUsed = .ok s') :
    s'.builder = s.builder ∧ s'.runtime.bid = s.runtime.bid ∧
      s'.runtime.blockBlobCount = s.runtime.blockBlobCount ∧
      Earned s.runtime s'.runtime ∧
      s'.runtime.gasUsed = s.runtime.gasUsed + gasUsed ∧
      s'.runtime.blobSidecars = s.runtime.blobSidecars := by
  unfold PackState.account at h
  split at h
  · cases h
  · cases h
    refine ⟨rfl, rfl, rfl, ⟨fun hbooked => ?_, Nat.le_add_right _ _, rfl, rfl, rfl, rfl⟩, rfl, rfl⟩
    simp only [BidRuntime.Booked] at hbooked ⊢
    rw [hbooked, BitVec.ofNat_add, BitVec.ofNat_mul]

lemma settle_eq_ok (h : env.settle slot pass index recovered gasUsed s = .ok s') :
    s'.builder = s.builder ∧ s'.runtime.bid = s.runtime.bid ∧
      s'.runtime.blockBlobCount = s.runtime.blockBlobCount ∧
      Earned s.runtime s'.runtime ∧
      s'.runtime.blobSidecars = s.runtime.blobSidecars ++
        ((env.carried s.runtime.bid recovered.tx).map (env.bscSidecar s index recovered)).toList ∧
      (s'.runtime.gasUsed = s.runtime.gasUsed + gasUsed ∨ pass.fromPool ∧ ∃ sidecar,
        s.runtime.bid.blobSidecars (env.txHash recovered.tx) = some sidecar ∧
          env.insertBlob (env.txHash recovered.tx) sidecar = false) := by
  have hcarried : env.carried s.runtime.bid recovered.tx =
      (if recovered.tx.isEip4844 then s.runtime.bid.blobSidecars (env.txHash recovered.tx)
        else none).filter (env.insertBlob (env.txHash recovered.tx)) := by
    unfold carried
    split <;> rfl
  unfold settle at h
  simp only at h
  split at h
  · next hnone =>
    obtain ⟨hb, hbid, hcount, hearned, hgas, hsidecars⟩ := account_eq_ok h
    refine ⟨hb, hbid, hcount, hearned, ?_, .inl hgas⟩
    rw [hsidecars, hcarried, hnone]
    exact (List.append_nil _).symm
  · next sidecar hsome =>
    rw [hcarried, hsome]
    split_ifs at h with hinsert hpool
    · cases h
      -- the transaction is in the block all the same
      rw [Bool.not_eq_true'] at hinsert
      refine ⟨rfl, rfl, rfl, ⟨id, le_rfl, rfl, rfl, rfl, rfl⟩, ?_,
        .inr ⟨hpool, sidecar, ?_, hinsert⟩⟩
      · simp [PackState.skip, Option.filter, hinsert]
      · split at hsome
        · exact hsome
        · cases hsome
    · obtain ⟨hb, hbid, hcount, hearned, hgas, hsidecars⟩ := account_eq_ok h
      refine ⟨hb, hbid, hcount, hearned, ?_, .inl hgas⟩
      rw [Bool.not_eq_true', Bool.not_eq_false] at hinsert
      rw [hsidecars, Option.filter_some, if_pos hinsert]
      rfl

lemma shared_of_screen (h : env.screen slot header pass index recovered s = .ok .pack)
    (hpool : pass.fromPool) :
    recovered.tx.transaction.gasLimit ≤ pass.blockGasLimit - s.runtime.gasUsed := by
  unfold screen at h
  rw [if_pos hpool] at h
  obtain ⟨-, h⟩ := ite_eq_of_ne h (by simp)
  obtain ⟨left, -, h⟩ := bind_eq_ok h
  iterate 3 obtain ⟨-, h⟩ := ite_eq_of_ne h (by simp)
  obtain ⟨nonce, -, h⟩ := bind_eq_ok h
  iterate 3 obtain ⟨-, h⟩ := ite_eq_of_ne h (by simp)
  obtain ⟨hshared, -⟩ := ite_eq_of_ne h (by simp)
  exact not_lt.mp hshared

lemma pack_of_screen {verdict : Verdict}
    (h : env.screen slot header pass index recovered s = .ok verdict)
    (hpool : pass.fromPool = false) : verdict = .pack := by
  unfold screen at h
  simp only [hpool, Bool.false_eq_true, if_false] at h
  split_ifs at h
  cases h
  rfl

lemma pack_step (hscreen : env.screen slot header pass index recovered s = .ok .pack)
    (h : env.pack slot header pass index recovered s = .ok s') :
    env.Step slot header pass index recovered s s' := by
  have hleft : ∀ {s'' error}, (if pass.fromPool = true then Except.ok s'' else .error error) =
      (.ok s' : Except SimulateError (PackState World)) → pass.fromPool = true ∧ s'' = s' := by
    intro s'' error h
    split at h
    · next hpool => exact ⟨hpool, Except.ok.inj h⟩
    · cases h
  unfold pack at h
  simp only at h
  split at h
  · obtain ⟨hpool, rfl⟩ := hleft h
    exact .inl ⟨hpool, rfl, .inl rfl⟩
  · next hmany =>
    have hwithin : recovered.tx.isEip4844 = true → s.runtime.blockBlobCount +
        env.blobCount recovered.tx ≤ env.maxBlobCount slot header := by
      intro htype
      by_contra hover
      exact hmany ⟨htype, not_le.mp hover⟩
    split at h
    iterate 3
      · obtain ⟨hpool, rfl⟩ := hleft h
        exact .inl ⟨hpool, rfl, .inr ⟨rfl, hwithin⟩⟩
    · next builder gasUsed hexec =>
      obtain ⟨hb, hbid, hcount, hearned, hsidecars, hgas⟩ := settle_eq_ok h
      refine .inr ⟨gasUsed, ?_, shared_of_screen hscreen, hcount, ?_, hbid, hearned, hsidecars,
        hgas⟩
      · rw [hb]
        exact hexec
      · rw [hcount]
        exact hwithin

lemma idle_of_screen {verdict : Verdict}
    (h : env.screen slot header pass index recovered s = .ok verdict) (hne : verdict ≠ .pack) :
    env.Step slot header pass index recovered s s ∧
      env.Step slot header pass index recovered s (s.skip recovered.signer) := by
  have hpool : pass.fromPool := by
    by_contra hbid
    exact hne (pack_of_screen h (by simpa using hbid))
  exact ⟨.inl ⟨hpool, rfl, .inl rfl⟩, .inl ⟨hpool, rfl, .inl rfl⟩⟩

/-- **The loop rule**: what every transaction of a pass keeps, the pass keeps, or it fails at a
transaction before which it holds. A pass over transactions of the bid goes through all of them. -/
lemma commitFrom_spec (done : List Recovered) {txs : List Recovered}
    (hstep : ∀ done, ∀ recovered ∈ txs, ∀ s s',
      env.Step slot header pass done.length recovered s s' → P done s → P (done ++ [recovered]) s')
    (hP : P done s) :
    match env.commitFrom slot header pass done.length txs s with
    | .ok s' => ∃ done', P done' s' ∧ (pass.fromPool = false → done' = done ++ txs)
    | .error e => ∃ done recovered t, P done t ∧
        (env.screen slot header pass done.length recovered t = .error e ∨
          env.pack slot header pass done.length recovered t = .error e) := by
  induction txs generalizing done s with
  | nil => exact ⟨done, hP, fun _ => (List.append_nil _).symm⟩
  | cons recovered txs ih =>
    have hhead := hstep done recovered List.mem_cons_self
    have htail (t : PackState World) := @ih t (done ++ [recovered])
      fun done tx htx => hstep done tx (List.mem_cons_of_mem _ htx)
    rw [List.length_append, List.length_singleton, List.append_assoc] at htail
    rw [commitFrom]
    cases hscreen : env.screen slot header pass done.length recovered s with
    | error e => exact ⟨done, recovered, s, hP, .inl hscreen⟩
    | ok verdict =>
      cases verdict with
      | stop => exact ⟨done, hP, fun hpool => by cases pack_of_screen hscreen hpool⟩
      | pass => exact htail _ (hhead s s (idle_of_screen hscreen (by decide)).1 hP)
      | skip =>
        exact htail _ (hhead s (s.skip recovered.signer) (idle_of_screen hscreen (by decide)).2 hP)
      | pack =>
        dsimp only [bind, Except.bind]
        cases hpack : env.pack slot header pass done.length recovered s with
        | error e => exact ⟨done, recovered, s, hP, .inr hpack⟩
        | ok t => exact htail _ (hhead s t (pack_step hscreen hpack) hP)

lemma commitTransactionRecovered_keeps {txs : List Recovered}
    (hstep : ∀ header, slot.header = some header → ∀ done, ∀ recovered ∈ txs, ∀ s s',
      env.Step slot header pass done.length recovered s s' → P done s → P (done ++ [recovered]) s')
    (h : env.commitTransactionRecovered slot pass txs s = .ok s')
    (hP : P [] { s with skippedSenders := [] }) :
    ∃ done, P done s' ∧ (pass.fromPool = false → done = txs) := by
  unfold commitTransactionRecovered at h
  cases hheader : slot.header with
  | none => simp [hheader] at h
  | some header =>
    simp only [hheader] at h
    have hspec := commitFrom_spec [] (hstep header hheader) hP
    rwa [List.length_nil, h] at hspec

lemma map_tx_of_tryIntoRecovered {txs : List TransactionSigned} {out : List Recovered}
    (h : env.tryIntoRecovered txs = .ok out) : out.map Recovered.tx = txs := by
  induction txs generalizing out with
  | nil =>
    cases h
    rfl
  | cons tx txs ih =>
    rw [tryIntoRecovered] at h
    cases hsigner : env.recoverSigner tx with
    | none => simp [hsigner] at h
    | some signer =>
      simp only [hsigner] at h
      obtain ⟨rest, hrest, rfl⟩ := map_eq_ok h
      rw [List.map_cons, ih hrest]

lemma executeTransaction_eq_ok {b b' : Builder World}
    (h : env.executeTransaction b recovered = .ok (b', gasUsed)) :
    b'.transactions = b.transactions ++ [recovered] ∧
      b'.executor.gasUsed = b.executor.gasUsed + gasUsed ∧
      (gasUsed = 0 ∨ ∃ out, env.transact b.world recovered = .ok out ∧ out.gasUsed = gasUsed) := by
  unfold executeTransaction at h
  split at h
  · cases h
  · cases h
    exact ⟨rfl, rfl, .inl rfl⟩
  · split at h
    · cases h
    · next out hout =>
      cases h
      exact ⟨rfl, rfl, .inr ⟨out, hout, rfl⟩⟩

/-! ### The passes of a simulation -/

/-- The rewards are written down, and nothing else. -/
def rewarded (slot : BidSlot World) (s : PackState World) : PackState World :=
  { s with runtime := s.runtime.packReward slot.validatorCommission }

lemma commitBidTxs_eq_ok (h : env.commitBidTxs slot runtime = .ok s) :
    (∃ left left', u64Sub env.overflowChecks slot.gasLimit slot.systemTxsGas = .ok left ∧
      u64Sub env.overflowChecks left payBidTxGasLimit = .ok left' ∧ runtime.bid.gasUsed ≤ left') ∧
    ∃ world lane, env.commitTransaction slot ⟨.bidTxs, blockGasLimit slot⟩
      runtime.bid.txs.dropLast (startState slot runtime world lane) = .ok s := by
  unfold commitBidTxs at h
  split at h
  · cases h
  split at h
  · cases h
  obtain ⟨left, hleft, h⟩ := bind_eq_ok h
  obtain ⟨left', hleft', h⟩ := bind_eq_ok h
  split at h
  · cases h
  next hgas =>
    refine ⟨⟨left, left', hleft, hleft', not_lt.mp hgas⟩, ?_⟩
    split at h
    · cases h
    · next world lane _ => exact ⟨world, lane, h⟩

lemma checkRewards_eq_ok (h : checkRewards slot s = .ok s') :
    s' = rewarded slot s ∧ s'.runtime.validReward := by
  unfold checkRewards at h
  split at h
  · cases h
  simp only at h
  split at h
  · cases h
  · next hvalid =>
    split at h
    · cases h
    · cases h
      exact ⟨rfl, by simpa using hvalid⟩

lemma mergePool_eq_ok (h : env.mergePool slot s = .ok s') :
    s' = s ∨ slot.greedyMerge ∧ ∃ blobFee pendingTxs t,
      (∀ tx ∈ pendingTxs, tx ∈ env.bestTransactions slot.baseFee blobFee) ∧
      env.commitTransactionRecovered slot ⟨.poolTxs, blockGasLimit slot⟩ pendingTxs s = .ok t ∧
      s' = rewarded slot t := by
  unfold mergePool at h
  split at h
  · cases h
    exact .inl rfl
  next hgreedy =>
    split at h
    · cases h
    split at h
    · cases h
      exact .inl rfl
    obtain ⟨t, hfill, h⟩ := bind_eq_ok h
    have hgreedy : slot.greedyMerge = true := by simpa using hgreedy
    refine .inr ⟨hgreedy, ?_⟩
    unfold fillTxFromPool at hfill
    simp only at hfill
    split at hfill
    · cases hfill
    · exact ⟨_, _, t, fun tx htx => (List.mem_filter.mp htx).1, hfill, (Except.ok.inj h).symm⟩

lemma commitPayBid_eq_ok (h : env.commitPayBid slot s = .ok s') :
    ∃ payBidTx, s.runtime.bid.txs.getLast? = some payBidTx ∧
      env.commitTransaction slot ⟨.payBid, blockGasLimit slot + payBidTxGasLimit⟩ [payBidTx] s =
        .ok s' := by
  unfold commitPayBid at h
  split at h
  · cases h
  · next payBidTx hpay => exact ⟨payBidTx, hpay, h⟩

lemma commitTransaction_keeps {txs : List TransactionSigned}
    (hstep : ∀ header, slot.header = some header → ∀ done recovered, recovered.tx ∈ txs →
      ∀ s s', env.Step slot header pass done.length recovered s s' → P done s →
        P (done ++ [recovered]) s')
    (h : env.commitTransaction slot pass txs s = .ok s')
    (hP : P [] { s with skippedSenders := [] }) :
    ∃ done, P done s' ∧ (pass.fromPool = false → done.map Recovered.tx = txs) := by
  obtain ⟨recovereds, hrecovered, h⟩ := bind_eq_ok h
  have htxs := map_tx_of_tryIntoRecovered hrecovered
  obtain ⟨done, hdone, hall⟩ := commitTransactionRecovered_keeps
    (fun header hheader done recovered hmem =>
      hstep header hheader done recovered (htxs ▸ List.mem_map_of_mem hmem)) h hP
  exact ⟨done, hdone, fun hpool => by rw [hall hpool, htxs]⟩

lemma packBid_eq_ok (h : env.packBid slot runtime = .ok s) :
    ∃ s1 s2, env.commitBidTxs slot runtime = .ok s1 ∧
      env.mergePool slot (rewarded slot s1) = .ok s2 ∧ env.commitPayBid slot s2 = .ok s := by
  obtain ⟨s1, hbid, h⟩ := bind_eq_ok h
  obtain ⟨s1', hrewards, h⟩ := bind_eq_ok h
  obtain ⟨s2, hmerge, h⟩ := bind_eq_ok h
  rw [(checkRewards_eq_ok hrewards).1] at hmerge
  exact ⟨s1, s2, hbid, hmerge, h⟩

lemma packBid_keeps {P : PackState World → Prop}
    (hclear : ∀ s, P s → P { s with skippedSenders := [] })
    (hreward : ∀ s, P s → P (rewarded slot s))
    (hstep : ∀ header, slot.header = some header → ∀ pass index recovered s s',
      env.Step slot header pass index recovered s s' → P s → P s')
    (hstart : ∀ world lane, P (startState slot runtime world lane))
    (h : env.packBid slot runtime = .ok s) : P s := by
  obtain ⟨s1, s2, hbid, hmerge, hpay⟩ := packBid_eq_ok h
  obtain ⟨-, world, lane, hbid⟩ := commitBidTxs_eq_ok hbid
  obtain ⟨-, h1, -⟩ := commitTransaction_keeps (P := fun _ => P)
    (fun header hheader _ recovered _ => hstep header hheader _ _ recovered) hbid
    (hclear _ (hstart world lane))
  have h2 : P s2 := by
    rcases mergePool_eq_ok hmerge with rfl | ⟨-, blobFee, pendingTxs, t, -, hpool, rfl⟩
    · exact hreward _ h1
    · obtain ⟨-, ht, -⟩ := commitTransactionRecovered_keeps (P := fun _ => P)
        (fun header hheader _ recovered _ => hstep header hheader _ _ recovered) hpool
        (hclear _ (hreward _ h1))
      exact hreward _ ht
  obtain ⟨payBidTx, -, hpay⟩ := commitPayBid_eq_ok hpay
  obtain ⟨-, h3, -⟩ := commitTransaction_keeps (P := fun _ => P)
    (fun header hheader _ recovered _ => hstep header hheader _ _ recovered) hpay
    (hclear _ h2)
  exact h3

lemma exists_header_of_packBid (h : env.packBid slot runtime = .ok s) :
    ∃ header, slot.header = some header := by
  obtain ⟨s1, s2, -, -, hpay⟩ := packBid_eq_ok h
  obtain ⟨payBidTx, -, hpay⟩ := commitPayBid_eq_ok hpay
  obtain ⟨recovereds, -, hpay⟩ := bind_eq_ok hpay
  unfold commitTransactionRecovered at hpay
  cases hheader : slot.header with
  | none => simp [hheader] at hpay
  | some header => exact ⟨header, rfl⟩

lemma buildPayload_eq_ok {block : BscBlock} (h : env.buildPayload s = .ok block) :
    ∃ systemTxs : List TransactionSigned, (∀ tx ∈ systemTxs, tx.transaction.txType = .legacy) ∧
      block.transactions = s.builder.transactions.map Recovered.tx ++ systemTxs ∧
      ∃ hash, block.sidecars.getD [] = s.runtime.blobSidecars.map fun sidecar =>
        { sidecar with blockHash := hash } := by
  obtain ⟨⟨built, receipts⟩, hfinish, h⟩ := bind_eq_ok h
  obtain ⟨-, -, hfinish⟩ := bind_eq_ok (mapError_eq_ok hfinish)
  obtain ⟨out, hout, hfinish⟩ := bind_eq_ok hfinish
  obtain ⟨-, -, hfinish⟩ := bind_eq_ok hfinish
  obtain ⟨⟨header, withdrawals⟩, -, hfinish⟩ := bind_eq_ok hfinish
  cases hfinish
  simp only at h
  split at h
  · cases h
  · cases h
    refine ⟨out.systemTxs, env.finalize_legacy _ _ _ hout, rfl, env.hashSlow header, ?_⟩
    cases s.runtime.blobSidecars <;> rfl

lemma simulateBidInner_eq_ok {best : Option U256} {out : Simulated}
    (h : env.simulateBidInner slot runtime best = .ok out) :
    ∃ s, env.packBid slot runtime = .ok s ∧ env.buildPayload s = .ok out.block := by
  obtain ⟨s, hpack, h⟩ := bind_eq_ok h
  obtain ⟨block, hblock, h⟩ := bind_eq_ok h
  cases h
  exact ⟨s, hpack, hblock⟩

lemma newBidRuntime_eq_ok {bid : Bid} {validatorCommission : ℕ}
    (h : newBidRuntime bid validatorCommission = .ok runtime) :
    runtime.bid = bid ∧ runtime.gasUsed = 0 ∧ runtime.blobSidecars = [] ∧
      runtime.blockBlobCount = 0 := by
  unfold newBidRuntime at h
  simp only at h
  split at h
  · cases h
  · cases h
    exact ⟨rfl, rfl, rfl, rfl⟩

end Steps

end BidEnv

end RethBsc
