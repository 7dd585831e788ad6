import RethBsc.HeaderValidation

/-!
The system transactions of a block.

At the end of every block the validator slashes whoever missed its turn, hands out the fees and
the finality rewards, and once a day elects validators, each by a transaction to a system
contract. The producer generates and signs these transactions; the importer generates them too,
unsigned, and takes the signed ones from the head of the queue it collected from the block.
`transactSystemTx` is where the two part. The state and the EVM are parameters.
-/

namespace RethBsc

/-! ### Contracts -/

def systemAddress : Address := Fin.ofNat (2 ^ 160) 0xfffffffffffffffffffffffffffffffffffffffe
def validatorContract : Address := Fin.ofNat (2 ^ 160) 0x1000
def slashContract : Address := Fin.ofNat (2 ^ 160) 0x1001
def systemRewardContract : Address := Fin.ofNat (2 ^ 160) 0x1002
def lightClientContract : Address := Fin.ofNat (2 ^ 160) 0x1003
def tokenHubContract : Address := Fin.ofNat (2 ^ 160) 0x1004
def relayerIncentivizeContract : Address := Fin.ofNat (2 ^ 160) 0x1005
def relayerHubContract : Address := Fin.ofNat (2 ^ 160) 0x1006
def govHubContract : Address := Fin.ofNat (2 ^ 160) 0x1007
def tokenManagerContract : Address := Fin.ofNat (2 ^ 160) 0x1008
def crossChainContract : Address := Fin.ofNat (2 ^ 160) 0x2000
def stakingContract : Address := Fin.ofNat (2 ^ 160) 0x2001
def stakeHubContract : Address := Fin.ofNat (2 ^ 160) 0x2002
def stakeCreditContract : Address := Fin.ofNat (2 ^ 160) 0x2003
def governorContract : Address := Fin.ofNat (2 ^ 160) 0x2004
def govTokenContract : Address := Fin.ofNat (2 ^ 160) 0x2005
def timelockContract : Address := Fin.ofNat (2 ^ 160) 0x2006
def tokenRecoverPortalContract : Address := Fin.ofNat (2 ^ 160) 0x3000

def systemContractsSet : List Address :=
  [validatorContract, slashContract, systemRewardContract, lightClientContract, tokenHubContract,
    relayerIncentivizeContract, relayerHubContract, govHubContract, tokenManagerContract,
    crossChainContract, stakingContract, stakeHubContract, stakeCreditContract, governorContract,
    govTokenContract, timelockContract, tokenRecoverPortalContract]

def isInvokeSystemContract (addr : Address) : Bool := systemContractsSet.contains addr

/-- The balance up to which the system reward contract gets its share of the fees. -/
def maxSystemReward : ℕ := 100 * 10 ^ 18
def systemRewardPercent : ℕ := 4
def collectAdditionalVotesRewardRatio : ℕ := 100
def ffRewardDistributionInterval : ℕ := 200

/-! ### Transactions -/

inductive TxType
  | legacy | eip2930 | eip1559 | eip4844 | eip7702
  deriving DecidableEq

structure Transaction where
  txType : TxType
  chainId : Option ℕ
  nonce : ℕ
  gasLimit : ℕ
  /-- The gas price of the first two types. -/
  maxFeePerGas : ℕ
  /-- None for the first two types. -/
  maxPriorityFeePerGas : Option ℕ
  toAddress : Option Address
  value : ℕ
  input : Bytes
  /-- Access list, blob hashes and authorizations of the later types. -/
  lists : Bytes
  deriving DecidableEq

structure TransactionSigned where
  transaction : Transaction
  signature : Bytes
  deriving DecidableEq

def setNonce (transaction : Transaction) (nonce : ℕ) : Transaction :=
  { transaction with nonce := nonce }

def Transaction.effectiveGasPrice (tx : Transaction) (baseFee : Option ℕ) : ℕ :=
  match tx.maxPriorityFeePerGas, baseFee with
  | some priority, some base =>
    let tip := tx.maxFeePerGas - base
    if tip > priority then priority + base else tx.maxFeePerGas
  | _, _ => tx.maxFeePerGas

def isSystemTransaction (tx : Transaction) (signer coinbase : Address) : Bool :=
  match tx.toAddress with
  | some recipient =>
    decide (signer = coinbase) && isInvokeSystemContract recipient &&
      decide (tx.effectiveGasPrice (some 0) = 0)
  | none => false

inductive SystemCall
  | slash (address : Address)
  | deposit (address : Address)
  | distributeFinalityReward (validators : List Address) (weights : List ℕ)
  | updateValidatorSetV2 (validators : List Address) (votingPowers : List ℕ)
      (voteAddresses : List Bytes)
  /-- `init` of a genesis contract. -/
  | init
  /-- `initialize` of a contract that came with Feynman. -/
  | initializeFeynman

/-- The calls of the system contracts, ABI-encoded. -/
structure SystemContract where
  spec : ChainSpec
  abiEncodeInput : SystemCall → Bytes

namespace SystemContract

variable (sc : SystemContract)

/-- A transaction without a fee. -/
def systemTx (recipient : Address) (value : ℕ) (input : Bytes) : Transaction where
  txType := .legacy
  chainId := some sc.spec.chainId
  nonce := 0
  gasLimit := u64Max / 2
  maxFeePerGas := 0
  maxPriorityFeePerGas := none
  toAddress := some recipient
  value := value
  input := input
  lists := []

def slash (address : Address) : Transaction :=
  sc.systemTx slashContract 0 (sc.abiEncodeInput (.slash address))

def distributeToSystem (systemReward : ℕ) : Transaction :=
  sc.systemTx systemRewardContract systemReward []

def distributeToValidator (address : Address) (blockReward : ℕ) : Transaction :=
  sc.systemTx validatorContract blockReward (sc.abiEncodeInput (.deposit address))

def distributeFinalityReward (validators : List Address) (weights : List ℕ) : Transaction :=
  sc.systemTx validatorContract 0 (sc.abiEncodeInput (.distributeFinalityReward validators weights))

def updateValidatorSetV2 (validators : List Address) (votingPowers : List ℕ)
    (voteAddresses : List Bytes) : Transaction :=
  sc.systemTx validatorContract 0
    (sc.abiEncodeInput (.updateValidatorSetV2 validators votingPowers voteAddresses))

def genesisContractsTxs : List Transaction :=
  [validatorContract, slashContract, lightClientContract, relayerHubContract, tokenHubContract,
    relayerIncentivizeContract, crossChainContract].map fun contract =>
      sc.systemTx contract 0 (sc.abiEncodeInput .init)

def feynmanContractsTxs : List Transaction :=
  [stakeHubContract, governorContract, govTokenContract, timelockContract,
    tokenRecoverPortalContract].map fun contract =>
      sc.systemTx contract 0 (sc.abiEncodeInput .initializeFeynman)

end SystemContract

/-! ### Election -/

structure ValidatorElectionInfo where
  address : Address
  votingPower : ℕ
  voteAddress : Bytes
  deriving DecidableEq

structure ElectedValidators where
  validators : List Address
  votingPowers : List ℕ
  voteAddrs : List Bytes

/-- The order of the heap: most voting power first, then the smaller address as a string. -/
def ValidatorElectionInfo.popsBefore (display : Address → String) (a b : ValidatorElectionInfo) :
    Bool :=
  decide (b.votingPower < a.votingPower) ||
    (decide (a.votingPower = b.votingPower) && decide (display a.address ≤ display b.address))

def getTopValidatorsByVotingPower (display : Address → String)
    (validators : List ValidatorElectionInfo) (maxElectedValidators : ℕ) :
    ExecResult ElectedValidators :=
  let validatorHeap := (validators.filter fun info => decide (0 < info.votingPower)).insertionSort
    fun a b => a.popsBefore display b = true
  if u64Max < maxElectedValidators then .error .panic
  else
    let topN := if maxElectedValidators > validatorHeap.length then validatorHeap.length
      else maxElectedValidators
    let elected := validatorHeap.take topN
    if elected.any fun info => decide (u64Max < info.votingPower / 10 ^ 10) then .error .panic
    else .ok ⟨elected.map (·.address), elected.map (·.votingPower / 10 ^ 10),
      elected.map (·.voteAddress)⟩

/-! ### The executor -/

inductive BscExecutionMode
  | importing | mining | bidSimulation | simulation
  deriving DecidableEq

structure AccountInfo where
  balance : ℕ
  nonce : ℕ
  deriving DecidableEq, Inhabited

structure TxEnv where
  caller : Address
  toAddress : Address
  nonce : ℕ
  gasLimit : ℕ
  value : ℕ
  data : Bytes
  gasPrice : ℕ
  chainId : ℕ
  isSystemTransaction : Bool

/-- The state database and the EVM over it. -/
structure Evm (World : Type) where
  basic : World → Address → ExecResult (Option AccountInfo)
  /-- Commits one account. -/
  commit : World → Address → AccountInfo → World
  /-- `transact` and the commit of its changes, with the gas it used. -/
  transact : World → TxEnv → ExecResult (ℕ × World)

structure BlockEnv where
  number : ℕ
  timestamp : ℕ
  beneficiary : Address

/-- What the executor of one block is given, and what it prepared before the first transaction. -/
structure ExecutorCtx (World : Type) where
  parlia : Parlia
  deps : Deps
  evm : Evm World
  systemContracts : SystemContract
  signatureHash : Transaction → B256
  /-- Addresses as checksummed strings. -/
  display : Address → String
  /-- The signer of the node, if it has one. -/
  signer : Option (Transaction → Except String TransactionSigned)
  reader : HeaderReader
  snapshotByHash : B256 → Option Snapshot
  /-- The contract upgrades at the end of a block. -/
  upgradeContracts : World → ExecResult World
  /-- `BREATHE_BLOCK_INTERVAL`, a day unless it is set. -/
  breatheBlockInterval : ℕ
  block : BlockEnv
  parentHash : B256
  snap : Snapshot
  parentHeader : Header
  maxElectedValidators : Option ℕ
  validatorsElectionInfo : Option (List ValidatorElectionInfo)

structure ExecState (World : Type) where
  world : World
  gasUsed : ℕ
  deriving DecidableEq

@[ext]
structure Executor (World : Type) where
  state : ExecState World
  /-- The system transactions of the block that have not been executed. -/
  systemTxs : List TransactionSigned
  /-- The system transactions of the block being assembled. -/
  assembledSystemTxs : List TransactionSigned
  deriving DecidableEq

def B256.display (hash : B256) : String := "0x" ++ hexEncode (B256.asSlice hash)

namespace ExecutorCtx

variable {World : Type} (ctx : ExecutorCtx World)

def spec : ChainSpec := ctx.parlia.spec

/-- `signature_hash` of a signed transaction. -/
def hashOf (tx : TransactionSigned) : B256 := ctx.signatureHash tx.transaction

def account (world : World) (address : Address) : ExecResult AccountInfo :=
  (ctx.evm.basic world address).map fun info => info.getD default

/-- The execution of a system transaction, which has its nonce. -/
def executeSystemTx (transaction : Transaction) (sender : Address) (state : ExecState World) :
    ExecResult (ExecState World) :=
  match transaction.toAddress with
  | none => .error (.msg "System tx has no recipient")
  | some recipient =>
    (ctx.evm.transact state.world
      { caller := sender
        toAddress := recipient
        nonce := transaction.nonce
        gasLimit := u64Max / 2
        value := transaction.value
        data := transaction.input
        gasPrice := 0
        chainId := ctx.spec.chainId
        isSystemTransaction := true }).map fun result => ⟨result.2, state.gasUsed + result.1⟩

variable (mode : BscExecutionMode)

def transactSystemTx (transaction : Transaction) (sender : Address)
    (ex : Executor World) : ExecResult (Executor World) := do
  let account ← ctx.account ex.state.world sender
  let transaction := setNonce transaction account.nonce
  match mode with
  | .simulation => .ok ex
  | .importing =>
    let hash := ctx.signatureHash transaction
    if ex.systemTxs.head?.map ctx.hashOf = some hash then
      (ctx.executeSystemTx transaction sender ex.state).map fun state =>
        { ex with state := state, systemTxs := ex.systemTxs.tail }
    -- a slash may be missing from the block
    else if transaction.toAddress = some slashContract ∧
        ex.systemTxs.head?.all
          (fun tx => decide (tx.transaction.toAddress ≠ some slashContract)) then
      .ok ex
    else .error (.validation .unexpectedSystemTx)
  | .mining | .bidSimulation =>
    match ctx.signer with
    | none => .error .globalSignerNotInitializedForMiningMode
    | some sign =>
      match sign transaction with
      | .error error => .error (.failedToSignSystemTransaction error)
      | .ok signed =>
        (ctx.executeSystemTx transaction sender ex.state).map fun state =>
          { ex with state := state, assembledSystemTxs := ex.assembledSystemTxs ++ [signed] }

def slashSpoiledValidator (validator spoiledVal : Address)
    (ex : Executor World) : ExecResult (Executor World) :=
  ctx.transactSystemTx mode (ctx.systemContracts.slash spoiledVal) validator ex

/-! #### Fees -/

/-- The balance of the system address goes to the validator. -/
def creditBlockReward (validator : Address) (systemInfo : AccountInfo) (world : World) :
    ExecResult World := do
  let world := ctx.evm.commit world systemAddress { systemInfo with balance := 0 }
  let validatorInfo ← ctx.account world validator
  return ctx.evm.commit world validator
    { validatorInfo with balance := min (validatorInfo.balance + systemInfo.balance) (2 ^ 256 - 1) }

def distributeIncoming (validator : Address) (ex : Executor World) :
    ExecResult (Executor World) := do
  let systemInfo ← ctx.account ex.state.world systemAddress
  let blockReward := systemInfo.balance
  if 2 ^ 128 ≤ blockReward then .error .panic
  else if blockReward = 0 then .ok ex
  else do
    let world ← ctx.creditBlockReward validator systemInfo ex.state.world
    let systemReward ← ctx.account world systemRewardContract
    let ex := { ex with state := { ex.state with world := world } }
    if !ctx.spec.isKeplerActiveAtTimestamp ctx.block.number ctx.block.timestamp &&
        decide (systemReward.balance < maxSystemReward) then do
      let rewardToSystem := blockReward >>> systemRewardPercent
      let ex ← (if rewardToSystem > 0 then
        ctx.transactSystemTx mode (ctx.systemContracts.distributeToSystem rewardToSystem)
          validator ex
        else .ok ex)
      ctx.transactSystemTx mode
        (ctx.systemContracts.distributeToValidator validator (blockReward - rewardToSystem))
        validator ex
    else
      ctx.transactSystemTx mode (ctx.systemContracts.distributeToValidator validator blockReward)
        validator ex

/-! #### Finality rewards -/

/-- `entry(validator).or_insert(0) += weight`. -/
def addWeight (weights : OrdMap Address ℕ) (validator : Address) (weight : ℕ) : OrdMap Address ℕ :=
  weights.insert validator ((weights.get validator).getD 0 + weight)

def processAttestation (attestation : VoteAttestation) (parentHeader : Header)
    (accumulatedWeights : OrdMap Address ℕ) :
    ExecResult (OrdMap Address ℕ) :=
  match ctx.reader.byHash attestation.data.targetHash with
  | none => .error (.msg ("Header not found, block_hash: " ++
      B256.display attestation.data.targetHash))
  | some justifiedHeader =>
    match ctx.reader.byHash justifiedHeader.parentHash with
    | none => .error (.msg ("Header not found, block_hash: " ++
        B256.display justifiedHeader.parentHash))
    | some parent =>
      match ctx.snapshotByHash (ctx.deps.hashSlow parent) with
      | none => .error (.msg ("Snapshot not found for block hash: " ++
          B256.display (ctx.deps.hashSlow parent)))
      | some snapshot =>
        let validators := snapshot.validators
        let bits := attestation.voteAddressSet
        if Parlia.bitSetCount bits > validators.length then
          .error (.validation
            (.invalidAttestationVoteCount ⟨Parlia.bitSetCount bits, validators.length⟩))
        else
          let voted := (validators.zipIdx.filter fun e => Parlia.voteBitSetContains bits e.2).map
            Prod.fst
          let accumulatedWeights := voted.foldl (addWeight · · 1) accumulatedWeights
          let quorum := (validators.length * 2 + 2) / 3
          if voted.length > quorum then
            .ok (addWeight accumulatedWeights parentHeader.beneficiary
              ((voted.length - quorum) * collectAdditionalVotesRewardRatio / 100))
          else .ok accumulatedWeights

/-- The loop of `distribute_finality_reward` over the ancestors, the parent first. -/
def accumulateWeights : ℕ → B256 → OrdMap Address ℕ → ExecResult (OrdMap Address ℕ)
  | 0, _, weights => .ok weights
  | n + 1, targetHash, weights =>
    match ctx.reader.byHash targetHash with
    | none => .error (.msg ("Header not found for block hash: " ++ B256.display targetHash))
    | some header =>
      match ctx.snapshotByHash header.parentHash with
      | none => .error (.msg "Failed to get snapshot from snapshot provider")
      | some snap =>
        match ctx.parlia.getVoteAttestationFromHeader header snap.epochNum ctx.deps with
        | .error error => .error (.validation (.parliaConsensusError error))
        | .ok none => accumulateWeights n header.parentHash weights
        | .ok (some attestation) => do
          let weights ← ctx.processAttestation attestation header weights
          accumulateWeights n header.parentHash weights

/-- The weights of the ancestors since the last distribution. -/
def accumulatedWeights : ExecResult (OrdMap Address ℕ) :=
  let start := max (ctx.block.number - ffRewardDistributionInterval) 1
  ctx.accumulateWeights (ctx.block.number - start) ctx.parentHash OrdMap.empty

def distributeFinalityReward (ex : Executor World) : ExecResult (Executor World) :=
  if !isMultipleOf ctx.block.number ffRewardDistributionInterval then .ok ex
  else do
    let weights ← ctx.accumulatedWeights
    ctx.transactSystemTx mode (ctx.systemContracts.distributeFinalityReward
      (weights.entries.map Prod.fst) weights.values) ctx.block.beneficiary ex

/-! #### Validator set -/

def isBreatheBlock (lastBlockTime blockTime : ℕ) : Bool :=
  decide (lastBlockTime ≠ 0) &&
    decide (lastBlockTime / ctx.breatheBlockInterval ≠ blockTime / ctx.breatheBlockInterval)

def updateValidatorSetV2 (maxElectedValidators : ℕ)
    (validatorsElectionInfo : List ValidatorElectionInfo) (validator : Address)
    (ex : Executor World) : ExecResult (Executor World) := do
  let elected ← getTopValidatorsByVotingPower ctx.display validatorsElectionInfo
    maxElectedValidators
  ctx.transactSystemTx mode (ctx.systemContracts.updateValidatorSetV2 elected.validators
    elected.votingPowers elected.voteAddrs) validator ex

/-! #### The end of a block -/

/-- The in-turn validator has signed recently, so it is not to blame. -/
def signedRecently (validator : Address) : Bool :=
  if ctx.spec.isPlatoActiveAtBlock ctx.block.number then ctx.snap.signRecently validator
  else ctx.snap.recentProposers.values.contains validator

/-- Fees, finality rewards and the daily election: what follows the slash, for producer and
importer. -/
def distributeAndElect (ex : Executor World) : ExecResult (Executor World) := do
  let ex ← ctx.distributeIncoming mode ctx.block.beneficiary ex
  let ex ← (if ctx.spec.isPlatoActiveAtBlock ctx.block.number then
    ctx.distributeFinalityReward mode ex else .ok ex)
  if ctx.spec.isFeynmanActiveAtTimestamp ctx.block.number ctx.block.timestamp &&
      ctx.isBreatheBlock ctx.parentHeader.timestamp ctx.block.timestamp &&
      !ctx.spec.isFeynmanTransitionAtTimestamp ctx.block.number ctx.block.timestamp
        ctx.parentHeader.timestamp then
    ctx.updateValidatorSetV2 mode (ctx.maxElectedValidators.getD 21)
      (ctx.validatorsElectionInfo.getD []) ctx.block.beneficiary ex
  else .ok ex

end ExecutorCtx

structure BlockChecks (World : Type) where
  verifyValidators : ExecResult Unit
  verifyTurnLength : ExecResult Unit
  /-- Before an epoch block, the validators and the turn length it needs are read. -/
  cacheNextEpoch : World → ExecResult Unit
  verifyPackedBid : ℕ → ExecResult Unit
  verifyPaymentLane : ℕ → ExecResult Unit

structure BlockChecks.Pass {World : Type} (checks : BlockChecks World) : Prop where
  verifyValidators : checks.verifyValidators = .ok ()
  verifyTurnLength : checks.verifyTurnLength = .ok ()
  cacheNextEpoch : ∀ world, checks.cacheNextEpoch world = .ok ()
  verifyPackedBid : ∀ gasUsed, checks.verifyPackedBid gasUsed = .ok ()
  verifyPaymentLane : ∀ gasUsed, checks.verifyPaymentLane gasUsed = .ok ()

namespace ExecutorCtx

variable {World : Type} (ctx : ExecutorCtx World) (checks : BlockChecks World)

def finalizeNewBlock (mode : BscExecutionMode) (ex : Executor World) :
    ExecResult (Executor World) :=
  match ctx.snap.inturnValidator with
  | none => .error .panic
  | some expectedValidator => do
    let ex ← (if ctx.block.beneficiary ≠ expectedValidator ∧
        ctx.signedRecently expectedValidator = false then
      ctx.slashSpoiledValidator mode ctx.block.beneficiary expectedValidator ex else .ok ex)
    let ex ← ctx.distributeAndElect mode ex
    checks.cacheNextEpoch ex.state.world
    return ex

/-- The importer tells from the difficulty whether the block is in turn. -/
def slashOffTurn (header : Header) (mode : BscExecutionMode) (ex : Executor World) :
    ExecResult (Executor World) :=
  if header.difficulty ≠ diffInturn then
    match ctx.snap.inturnValidator with
    | none => .error .panic
    | some spoiledValidator =>
      if ctx.signedRecently spoiledValidator = false then
        ctx.slashSpoiledValidator mode ctx.block.beneficiary spoiledValidator ex
      else .ok ex
  else .ok ex

def postCheckNewBlock (header : Header) (mode : BscExecutionMode) (ex : Executor World) :
    ExecResult (Executor World) := do
  checks.verifyValidators
  checks.verifyTurnLength
  let ex ← ctx.slashOffTurn header mode ex
  let ex ← ctx.distributeAndElect mode ex
  if ex.systemTxs ≠ [] then .error (.validation .unexpectedSystemTx)
  else do
    checks.cacheNextEpoch ex.state.world
    checks.verifyPaymentLane ex.state.gasUsed
    return ex

/-- The transactions that set up contracts: at the Feynman transition and in block one. -/
def contractInitTxs : List Transaction :=
  (if ctx.spec.isFeynmanTransitionAtTimestamp ctx.block.number ctx.block.timestamp
      ctx.parentHeader.timestamp then ctx.systemContracts.feynmanContractsTxs else []) ++
    if ctx.block.number = 1 then ctx.systemContracts.genesisContractsTxs else []

def initializeContracts (mode : BscExecutionMode) (ex : Executor World) :
    ExecResult (Executor World) :=
  ctx.contractInitTxs.foldlM
    (fun ex tx => ctx.transactSystemTx mode tx ctx.block.beneficiary ex) ex

def finish (header : Header) (mode : BscExecutionMode) (ex : Executor World) :
    ExecResult (Executor World) := do
  let world ← ctx.upgradeContracts ex.state.world
  let ex := { ex with state := { ex.state with world := world } }
  match mode with
  | .simulation => .ok ex
  | .importing => do
    let ex ← ctx.initializeContracts mode ex
    ctx.postCheckNewBlock checks header mode ex
  | .mining => do
    let ex ← ctx.initializeContracts mode ex
    let ex ← ctx.finalizeNewBlock checks mode ex
    checks.verifyPaymentLane ex.state.gasUsed
    return ex
  | .bidSimulation => do
    let ex ← ctx.initializeContracts mode ex
    checks.verifyPackedBid ex.state.gasUsed
    let ex ← ctx.finalizeNewBlock checks mode ex
    checks.verifyPaymentLane ex.state.gasUsed
    return ex

end ExecutorCtx

/-! ### The transactions of the block -/

/-- A transaction of the block with the address that signed it. -/
structure Recovered where
  tx : TransactionSigned
  signer : Address

namespace ExecutorCtx

variable {World : Type} (ctx : ExecutorCtx World)
  (executeNormal : ExecState World → Recovered → ExecResult (ExecState World))

def executeTransaction (mode : BscExecutionMode) (ex : Executor World) (recovered : Recovered) :
    ExecResult (Executor World) :=
  if isSystemTransaction recovered.tx.transaction recovered.signer ctx.block.beneficiary then
    .ok { ex with systemTxs := ex.systemTxs ++ [recovered.tx] }
  else if mode = .importing ∧ ex.systemTxs ≠ [] ∧
      ctx.spec.isCancunActiveAtTimestamp ctx.block.number ctx.block.timestamp then
    .error (.validation .unexpectedNormalTx)
  else (executeNormal ex.state recovered).map fun state => { ex with state := state }

def executeTransactions (mode : BscExecutionMode) (txs : List Recovered) (ex : Executor World) :
    ExecResult (Executor World) :=
  txs.foldlM (ctx.executeTransaction executeNormal mode) ex

end ExecutorCtx

end RethBsc
