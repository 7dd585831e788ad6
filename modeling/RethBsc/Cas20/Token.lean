import RethBsc.Cas20.Registries

/-!
The surface shared by both token variants: ERC-20, roles, pausing, minting, burning, seizing, the
configurable fields, metadata, permits and memos.

Every entry point that writes looks at `readOnly` first. A privileged token is one in the
bootstrap of its creation: role checks and transfer-side policies are skipped there.
-/

namespace RethBsc.Cas20

open Prog (fail perform)

def pauseTransfer : ℕ := 0
def pauseMint : ℕ := 1
def pauseBurn : ℕ := 2
def pauseSeize : ℕ := 3

/-- `type(uint128).max`: the supply cap a token is created with. -/
def noSupplyCap : U256 := BitVec.ofNat 256 (2 ^ 128 - 1)

structure Token where
  ctx : Ctx
  decimals : ℕ
  /-- Marks the factory's bootstrap frame. -/
  privileged : Bool
  /-- Set for the internal calls of an announce. -/
  inAnnounce : Bool

def Token.new (ctx : Ctx) (decimals : ℕ) : Token := ⟨ctx, decimals, false, false⟩

def Token.bootstrap (ctx : Ctx) (decimals : ℕ) : Token := ⟨ctx, decimals, true, false⟩

namespace Token

variable (env : Env) (tok : Token)

abbrev store : Address := tok.ctx.selfAddr

/-! ### ERC-20 -/

def isPaused (bit : ℕ) : Routine Bool := do
  return (← paused tok.store).getLsbD bit

def emit (topic : Topic) (a b : Address) (value : U256) : Routine Bool :=
  addLog tok.store [topic.hash, addrKey a, addrKey b] (encU256 value)

def policyAllows (id : U64) (account : Address) : Routine Bool :=
  if id = 0 then return true else isAuthorized account env.depth id

def approve (owner spender : Address) (amount : U256) : Routine Bytes := do
  reject tok.ctx.readOnly .writeProtection
  reject (owner = 0) (rev .invalidApprover [addrKey owner])
  reject (spender = 0) (rev .invalidSpender [addrKey spender])
  setAllowance tok.store owner spender amount
  paid (← tok.emit .approval owner spender amount)
  return encBool true

variable (src dst : Address)

/-- Both sides of a transfer may take part in it. -/
def checkTransferPolicies : Routine Unit := do
  let policies ← transferPolicies tok.store
  let sends ← policyAllows env policies.sender src
  reject (¬ sends) (rev .policyForbids [scopeTransferSender, wU64 policies.sender])
  let receives ← policyAllows env policies.receiver dst
  reject (¬ receives) (rev .policyForbids [scopeTransferReceiver, wU64 policies.receiver])

/-- Takes from one balance and adds to another; the second is read after the first was written,
so that a transfer to oneself changes nothing. -/
def shiftBalance (amount : U256) : Routine Unit := do
  let srcSlot ← balanceSlot src
  let bal ← getWord tok.store srcSlot
  reject (bal < amount) (rev .insufficientBalance [addrKey src, bal, amount])
  putWord tok.store srcSlot (bal - amount)
  let dstSlot ← balanceSlot dst
  let dstBal ← getWord tok.store dstSlot
  putWord tok.store dstSlot (← addBalance dstBal amount)

def moveBalance (amount : U256) : Routine Unit := do
  reject (dst = 0) (rev .invalidReceiver [addrKey dst])
  reject (src = 0) (rev .invalidSender [addrKey src])
  whenever (¬ tok.privileged) (tok.checkTransferPolicies env src dst)
  tok.shiftBalance src dst amount

def transfer (amount : U256) : Routine Bytes := do
  reject tok.ctx.readOnly .writeProtection
  let isPaused ← tok.isPaused pauseTransfer
  reject isPaused (rev .contractPaused [wU8 pauseTransfer])
  tok.moveBalance env src dst amount
  paid (← tok.emit .transfer src dst amount)
  return encBool true

def checkExecutor (spender : Address) : Routine Unit := do
  let policies ← transferPolicies tok.store
  let executes ← policyAllows env policies.executor spender
  reject (¬ executes) (rev .policyForbids [scopeTransferExecutor, wU64 policies.executor])

def transferFrom (spender src dst : Address) (amount : U256) : Routine Bytes := do
  reject tok.ctx.readOnly .writeProtection
  let isPaused ← tok.isPaused pauseTransfer
  reject isPaused (rev .contractPaused [wU8 pauseTransfer])
  reject (dst = 0) (rev .invalidReceiver [addrKey dst])
  reject (src = 0) (rev .invalidSender [addrKey src])
  let slot ← allowanceSlot src spender
  let allowed ← getWord tok.store slot
  let infinite : Bool := allowed = BitVec.allOnes 256
  reject (¬ infinite ∧ allowed < amount)
    (rev .insufficientAllowance [addrKey spender, allowed, amount])
  whenever (¬ tok.privileged ∧ spender ≠ src) (tok.checkExecutor env spender)
  whenever (¬ infinite) (putWord tok.store slot (allowed - amount))
  tok.moveBalance env src dst amount
  paid (← tok.emit .transfer src dst amount)
  return encBool true

variable (args : Bytes)

def dispatchErc20 : Selector → Option (Routine Bytes)
  | .name => some do
    match ← name tok.store with
    | some v => return encString v
    | none => fail .outOfGas
  | .symbol => some do
    match ← symbol tok.store with
    | some v => return encString v
    | none => fail .outOfGas
  | .decimals => some (return encU256 (BitVec.ofNat 256 tok.decimals))
  | .totalSupply => some do
    return encU256 (← totalSupply tok.store)
  | .balanceOf => some do
    let a ← readAddress args 0
    return encU256 (← balanceOf tok.store a)
  | .allowance => some do
    let owner ← readAddress args 0
    let spender ← readAddress args 1
    return encU256 (← allowance tok.store owner spender)
  | .approve => some do
    let spender ← readAddress args 0
    let amount ← readU256 args 1
    tok.approve tok.ctx.caller spender amount
  | .transfer => some do
    let dst ← readAddress args 0
    let amount ← readU256 args 1
    tok.transfer env tok.ctx.caller dst amount
  | .transferFrom => some do
    let src ← readAddress args 0
    let dst ← readAddress args 1
    let amount ← readU256 args 2
    tok.transferFrom env tok.ctx.caller src dst amount
  | _ => none

/-! ### Roles -/

variable (role : B256)

def ensureRole : Routine Unit :=
  if tok.privileged then pure ()
  else do
    let granted ← hasRole tok.store role tok.ctx.caller
    reject (¬ granted) (rev .acUnauthorized [addrKey tok.ctx.caller, role])

/-- A token without an admin is frozen, in the bootstrap only once the frame itself has
renounced. -/
def ensureNotFrozen : Routine Unit := do
  let count ← adminCount tok.store
  whenever (count = 0) do
    let admin ← roleAdmin tok.store role
    fail (rev .acUnauthorized [addrKey tok.ctx.caller, admin])

/-- The caller holds the admin role of the role; it is read again for the error. -/
def ensureHoldsAdminOf : Routine Unit := do
  let admin ← roleAdmin tok.store role
  let granted ← hasRole tok.store admin tok.ctx.caller
  whenever (¬ granted) do
    let admin ← roleAdmin tok.store role
    fail (rev .acUnauthorized [addrKey tok.ctx.caller, admin])

def ensureRoleMutable : Routine Unit := do
  reject tok.ctx.readOnly .writeProtection
  let renounced ← perform Op.adminRenounced
  whenever (¬ tok.privileged ∨ renounced) (tok.ensureNotFrozen role)
  whenever (¬ tok.privileged) (tok.ensureHoldsAdminOf role)

/-- `RoleGranted` or `RoleRevoked`. -/
def emitRole (topic : Topic) (role : B256) (account : Address) : Routine Bool :=
  addLog tok.store [topic.hash, role, addrKey account, addrKey tok.ctx.caller] []

def grantRole (account : Address) : Routine Bytes := do
  tok.ensureRoleMutable role
  let granted ← hasRole tok.store role account
  whenever (¬ granted) do
    setRole tok.store role account true
    whenever (role = roleDefaultAdmin) do
      let n ← adminCount tok.store
      setAdminCount tok.store (n + 1)
    paid (← tok.emitRole .roleGranted role account)
  return []

def removeRole (account : Address) : Routine Bool := do
  if ← hasRole tok.store role account then
    setRole tok.store role account false
    whenever (role = roleDefaultAdmin) do
      let n ← adminCount tok.store
      setAdminCount tok.store (n - 1)
    tok.emitRole .roleRevoked role account
  else return true

/-- Taking the role from the account would leave the token without an admin. The counter is read
only for an admin. -/
def isLastAdmin (account : Address) : Routine Bool :=
  if role = roleDefaultAdmin then do
    if ← hasRole tok.store role account then
      return (← adminCount tok.store) = 1
    else return false
  else return false

def revokeRole (account : Address) : Routine Bytes := do
  tok.ensureRoleMutable role
  let last ← tok.isLastAdmin role account
  reject last (rev .lastAdminCannotRenounce [])
  paid (← tok.removeRole role account)
  return []

def renounceRole (confirmation : Address) : Routine Bytes := do
  reject tok.ctx.readOnly .writeProtection
  reject (confirmation ≠ tok.ctx.caller) (rev .acBadConfirmation [])
  let last ← tok.isLastAdmin role tok.ctx.caller
  reject last (rev .lastAdminCannotRenounce [])
  paid (← tok.removeRole role tok.ctx.caller)
  return []

def renounceLastAdmin : Routine Bytes := do
  reject tok.ctx.readOnly .writeProtection
  let granted ← hasRole tok.store roleDefaultAdmin tok.ctx.caller
  reject (¬ granted) (rev .acUnauthorized [addrKey tok.ctx.caller, roleDefaultAdmin])
  let count ← adminCount tok.store
  reject (count ≠ 1) (rev .notSoleAdmin [])
  setRole tok.store roleDefaultAdmin tok.ctx.caller false
  setAdminCount tok.store 0
  perform Op.renounceAdmin
  paid (← tok.emitRole .roleRevoked roleDefaultAdmin tok.ctx.caller)
  paid (← addLog tok.store [Topic.lastAdminRenounced.hash, addrKey tok.ctx.caller] [])
  return []

def setRoleAdmin (role newAdminRole : B256) : Routine Bytes := do
  tok.ensureRoleMutable role
  let prev ← roleAdmin tok.store role
  putRoleAdmin tok.store role newAdminRole
  paid (← addLog tok.store [Topic.roleAdminChanged.hash, role, prev, newAdminRole] [])
  return []

/-! ### Pausing -/

/-- The mask with the features switched on or off; one that does not exist reverts. -/
def pauseMask (on : Bool) : List ℕ → U256 → Except Cas20Err U256
  | [], p => .ok p
  | f :: rest, p =>
    if f > pauseSeize then .error revert
    else pauseMask on rest (if on then p ||| ((1 : U256) <<< f) else p &&& ~~~((1 : U256) <<< f))

def setPause (on : Bool) : Routine Bytes := do
  let features ← readUint8Array args
  reject tok.ctx.readOnly .writeProtection
  tok.ensureRole (if on then rolePause else roleUnpause)
  reject (features = []) (rev .emptyFeatureSet [])
  match ← pausedChecked tok.store with
  | none => fail .outOfGas
  | some p =>
    let p' ← pauseMask on features p
    setPaused tok.store p'
    let topic := if on then Topic.paused else .unpaused
    paid (← addLog tok.store [topic.hash, addrKey tok.ctx.caller]
      (encodeTuple [abiWordArray (features.map wU8)]))
    return []

/-! ### Minting, burning, seizing -/

/-- Assumes that pause and role have been checked. -/
def mintCore (dst : Address) (amount : U256) : Routine Unit := do
  reject (dst = 0) (rev .invalidReceiver [addrKey dst])
  let mintReceiver ← mintReceiverPolicy tok.store
  let receives ← policyAllows env mintReceiver dst
  reject (¬ receives) (rev .policyForbids [scopeMintReceiver, wU64 mintReceiver])
  let supply ← totalSupply tok.store
  reject (supply.toNat + amount.toNat ≥ 2 ^ 256) (revPanic 0x11)
  let newSupply := supply + amount
  let cap ← supplyCap tok.store
  reject (newSupply > cap) (rev .supplyCapExceeded [cap, newSupply])
  let dstSlot ← balanceSlot dst
  let bal ← getWord tok.store dstSlot
  putWord tok.store dstSlot (← addBalance bal amount)
  setTotalSupply tok.store newSupply
  paid (← tok.emit .transfer 0 dst amount)

def mint (dst : Address) (amount : U256) : Routine Unit := do
  reject tok.ctx.readOnly .writeProtection
  let isPaused ← tok.isPaused pauseMint
  reject isPaused (rev .contractPaused [wU8 pauseMint])
  tok.ensureRole roleMint
  tok.mintCore env dst amount

def burn (src : Address) (amount : U256) : Routine Unit := do
  reject tok.ctx.readOnly .writeProtection
  let isPaused ← tok.isPaused pauseBurn
  reject isPaused (rev .contractPaused [wU8 pauseBurn])
  tok.ensureRole roleBurn
  let srcSlot ← balanceSlot src
  let bal ← getWord tok.store srcSlot
  reject (bal < amount) (rev .insufficientBalance [addrKey src, bal, amount])
  putWord tok.store srcSlot (bal - amount)
  let supply ← totalSupply tok.store
  reject (supply < amount) (revPanic 0x11)
  setTotalSupply tok.store (supply - amount)
  paid (← tok.emit .transfer src 0 amount)

def emitMemo (memo : B256) : Routine Bool :=
  addLog tok.store [Topic.memo.hash, addrKey tok.ctx.caller, memo] []

def checkSeizePolicies : Routine Unit := do
  let policies ← seizePolicies tok.store
  let exempt ← policyAllows env policies.exempt src
  reject exempt (rev .accountNotSeizable [addrKey src])
  let receives ← policyAllows env policies.receiver dst
  reject (¬ receives) (rev .policyForbids [scopeSeizeReceiver, wU64 policies.receiver])

def seizeWithMemo (amount : U256) (memo : B256) : Routine Bytes := do
  reject tok.ctx.readOnly .writeProtection
  let isPaused ← tok.isPaused pauseSeize
  reject isPaused (rev .contractPaused [wU8 pauseSeize])
  tok.ensureRole roleSeize
  reject (dst = 0 ∨ src = dst) (rev .invalidReceiver [addrKey dst])
  reject (src = 0) (rev .invalidSender [addrKey src])
  tok.checkSeizePolicies env src dst
  tok.shiftBalance src dst amount
  paid (← tok.emit .transfer src dst amount)
  paid (← tok.emitMemo memo)
  paid (← addLog tok.store
    [Topic.seized.hash, addrKey tok.ctx.caller, addrKey src, addrKey dst] (encU256 amount))
  return encBool true

/-! ### Configuration -/

def updateSupplyCap (newCap : U256) : Routine Bytes := do
  reject tok.ctx.readOnly .writeProtection
  tok.ensureRole roleDefaultAdmin
  let supply ← totalSupply tok.store
  reject (newCap < supply ∨ newCap > noSupplyCap) (rev .invalidSupplyCap [supply, newCap])
  let previous ← supplyCap tok.store
  setSupplyCap tok.store newCap
  paid (← addLog tok.store [Topic.supplyCapUpdated.hash, addrKey tok.ctx.caller]
    (B256.asSlice previous ++ B256.asSlice newCap))
  return []

/-- The word and the byte offset that a scope is kept at. -/
def policyLane (scope : B256) : Option (ℕ × ℕ) :=
  if scope = scopeTransferSender then some (slotTransferPolicies, offTransferSender)
  else if scope = scopeTransferReceiver then some (slotTransferPolicies, offTransferReceiver)
  else if scope = scopeTransferExecutor then some (slotTransferPolicies, offTransferExecutor)
  else if scope = scopeMintReceiver then some (slotMintPolicy, offMintReceiver)
  else if scope = scopeSeizeExempt then some (slotSeizePolicies, offSeizeExempt)
  else if scope = scopeSeizeReceiver then some (slotSeizePolicies, offSeizeReceiver)
  else none

def laneOf (scope : B256) : Except Cas20Err (ℕ × ℕ) :=
  match policyLane scope with
  | some lane => .ok lane
  | none => .error (rev .unsupportedScope [scope])

/-- The scope is looked at before the id; an id that was never created is not bound. -/
def updatePolicy (scope : B256) (id : U64) : Routine Bytes := do
  reject tok.ctx.readOnly .writeProtection
  tok.ensureRole roleDefaultAdmin
  let (slot, off) ← laneOf scope
  let found ← policyExists id
  reject (¬ found) (rev .policyNotFoundId [wU64 id])
  let previous ← getPackedU64 tok.store slot off
  setPackedU64 tok.store slot off id
  paid (← addLog tok.store [Topic.policyUpdated.hash, scope]
    (B256.asSlice (wU64 previous) ++ B256.asSlice (wU64 id)))
  return []

def dispatchAdmin : Selector → Option (Routine Bytes)
  | .defaultAdminRole => some (return encWord roleDefaultAdmin)
  | .mintRole => some (return encWord roleMint)
  | .burnRole => some (return encWord roleBurn)
  | .seizeRole => some (return encWord roleSeize)
  | .pauseRole => some (return encWord rolePause)
  | .unpauseRole => some (return encWord roleUnpause)
  | .metadataRole => some (return encWord roleMetadata)
  | .hasRole => some do
    let role ← readWord args 0
    let acct ← readAddress args 1
    return encBool (← hasRole tok.store role acct)
  | .getRoleAdmin => some do
    let role ← readWord args 0
    return encWord (← roleAdmin tok.store role)
  | .grantRole => some do
    let role ← readWord args 0
    let acct ← readAddress args 1
    tok.grantRole role acct
  | .revokeRole => some do
    let role ← readWord args 0
    let acct ← readAddress args 1
    tok.revokeRole role acct
  | .renounceRole => some do
    let role ← readWord args 0
    let confirmation ← readAddress args 1
    tok.renounceRole role confirmation
  | .setRoleAdmin => some do
    let role ← readWord args 0
    let newAdmin ← readWord args 1
    tok.setRoleAdmin role newAdmin
  | .renounceLastAdmin => some tok.renounceLastAdmin
  | .isPaused => some do
    let w ← readWord args 0
    reject (¬ isEnumWord w pauseSeize) revert
    return encBool (← tok.isPaused w.toNat)
  | .pause => some (tok.setPause args true)
  | .unpause => some (tok.setPause args false)
  | .mint => some do
    let dst ← readAddress args 0
    let amount ← readU256 args 1
    tok.mint env dst amount
    return []
  | .burn => some do
    let amount ← readU256 args 0
    tok.burn tok.ctx.caller amount
    return []
  | .seizeWithMemo => some do
    let src ← readAddress args 0
    let dst ← readAddress args 1
    let amount ← readU256 args 2
    let memo ← readWord args 3
    tok.seizeWithMemo env src dst amount memo
  | .updateSupplyCap => some do
    let cap ← readU256 args 0
    tok.updateSupplyCap cap
  | .updatePolicy => some do
    let scope ← readWord args 0
    let id ← readU64 args 1
    tok.updatePolicy scope id
  | .transferSenderScope => some (return encWord scopeTransferSender)
  | .transferReceiverScope => some (return encWord scopeTransferReceiver)
  | .transferExecutorScope => some (return encWord scopeTransferExecutor)
  | .mintReceiverScope => some (return encWord scopeMintReceiver)
  | .seizeExemptScope => some (return encWord scopeSeizeExempt)
  | .seizeReceiverScope => some (return encWord scopeSeizeReceiver)
  | .policyId => some do
    let scope ← readWord args 0
    let (slot, off) ← laneOf scope
    return encU256 (wU64 (← getPackedU64 tok.store slot off))
  | _ => none

/-! ### Metadata -/

def ensureMetadataWrite : Routine Unit := do
  reject tok.ctx.readOnly .writeProtection
  tok.ensureRole roleMetadata

def updateName (v : Bytes) : Routine Bytes := do
  tok.ensureMetadataWrite
  paid (← setName tok.store v)
  paid (← addLog tok.store [Topic.nameUpdated.hash, addrKey tok.ctx.caller] (encString v))
  paid (← addLog tok.store [Topic.eip712DomainChanged.hash] [])
  return []

def updateSymbol (v : Bytes) : Routine Bytes := do
  tok.ensureMetadataWrite
  paid (← setSymbol tok.store v)
  paid (← addLog tok.store [Topic.symbolUpdated.hash, addrKey tok.ctx.caller] (encString v))
  return []

def updateContractUri (v : Bytes) : Routine Bytes := do
  tok.ensureMetadataWrite
  paid (← setContractUri tok.store v)
  paid (← addLog tok.store [Topic.contractUriUpdated.hash] [])
  return []

def pausedFeatures : Routine (List B256) := do
  let p ← paused tok.store
  return ((List.range (pauseSeize + 1)).filter p.getLsbD).map wU8

/-- The version of the signing domain, `b"1"`. -/
def eip712Version : Bytes := [0x31]

def eip712Domain : Routine Bytes := do
  match ← name tok.store with
  | none => fail .outOfGas
  | some v =>
    let chainId ← perform Op.chainId
    return encodeTuple [.word ((0x0f : B256) <<< 248), abiString v, abiString eip712Version,
      .word (BitVec.ofNat 256 chainId), .word (addrKey tok.store), .word 0, abiWordArray []]

def dispatchMetadata : Selector → Option (Routine Bytes)
  | .contractUri => some do
    match ← contractUri tok.store with
    | some v => return encString v
    | none => fail .outOfGas
  | .supplyCap => some do
    return encU256 (← supplyCap tok.store)
  | .pausedFeatures => some do
    return encodeTuple [abiWordArray (← tok.pausedFeatures)]
  | .eip712Domain => some tok.eip712Domain
  | .updateName => some do
    let v ← readStringArg args 0
    tok.updateName v
  | .updateSymbol => some do
    let v ← readStringArg args 0
    tok.updateSymbol v
  | .updateContractUri => some do
    let v ← readStringArg args 0
    tok.updateContractUri v
  | _ => none

/-! ### Permits -/

def domainSeparatorOf (name : Bytes) (chainId : ℕ) : B256 :=
  env.keccak256 (B256.asSlice domainTypehash ++ B256.asSlice (env.keccak256 name) ++
    B256.asSlice (env.keccak256 eip712Version) ++ wordBytes 32 chainId ++
    B256.asSlice (addrKey tok.store))

/-- Three hashes, paid for one after the other. -/
def chargeDomain (name : Bytes) : Routine Bool := do
  if ← chargeKeccak name.length then
    if ← chargeKeccak eip712Version.length then chargeKeccak 160 else return false
  else return false

def domainSeparator : Routine (Option B256) := do
  match ← name tok.store with
  | none => return none
  | some v =>
    if ← chargeDomain v then
      let chainId ← perform Op.chainId
      return some (tok.domainSeparatorOf env v chainId)
    else return none

def permitStruct (owner spender : Address) (value nonce deadline : U256) : Bytes :=
  B256.asSlice permitTypehash ++ B256.asSlice (addrKey owner) ++ B256.asSlice (addrKey spender) ++
    B256.asSlice value ++ B256.asSlice nonce ++ B256.asSlice deadline

def permitDigest (domain : B256) (structHash : Bytes) : B256 :=
  env.keccak256 ([0x19, 0x01] ++ B256.asSlice domain ++ B256.asSlice (env.keccak256 structHash))

def secp256k1N : ℕ := 0xfffffffffffffffffffffffffffffffebaaedce6af48a03bbfd25e8cd0364141

def secp256k1HalfN : ℕ := 0x7fffffffffffffffffffffffffffffff5d576e7357a4501ddfe92f46681b20a0

def ecrecoverAddress (hash : B256) (v : ℕ) (r s : B256) : Option Address :=
  if v ≠ 27 ∧ v ≠ 28 then none
  else if r = 0 ∨ s = 0 ∨ s.toNat > secp256k1HalfN ∨ r.toNat ≥ secp256k1N ∨
      s.toNat ≥ secp256k1N then none
  else (env.ecrecover (B256.asSlice r ++ B256.asSlice s) (v - 27) hash).map Address.fromWord

/-- The two hashes and the recovery, paid for one after the other. -/
def chargePermit (structHash : Bytes) : Routine Bool := do
  if ← chargeKeccak structHash.length then
    if ← chargeKeccak 66 then chargeGas ecrecoverGas else return false
  else return false

structure PermitArgs where
  owner : Address
  spender : Address
  value : U256
  deadline : U256
  v : ℕ
  r : B256
  s : B256

def readPermit : Except Cas20Err PermitArgs := do
  let owner ← readAddress args 0
  let spender ← readAddress args 1
  let value ← readU256 args 2
  let deadline ← readU256 args 3
  let v ← readStrictUint8 args 4
  let r ← readWord args 5
  let s ← readWord args 6
  return ⟨owner, spender, value, deadline, v, r, s⟩

def permit (p : PermitArgs) : Routine Bytes := do
  reject tok.ctx.readOnly .writeProtection
  reject (p.owner = 0) (rev .invalidApprover [addrKey p.owner])
  let now ← blockTime
  reject (p.deadline.toNat < now) (rev .expiredSignature [p.deadline])
  let current ← nonce tok.store p.owner
  let structHash := permitStruct p.owner p.spender p.value current p.deadline
  match ← tok.domainSeparator env with
  | none => fail .outOfGas
  | some domain =>
    paid (← chargePermit structHash)
    let signer := ecrecoverAddress env (permitDigest env domain structHash) p.v p.r p.s
    reject (signer ≠ some p.owner)
      (rev .invalidSigner [addrKey (signer.getD 0), addrKey p.owner])
    reject (p.spender = 0) (rev .invalidSpender [addrKey p.spender])
    setNonce tok.store p.owner (current + 1)
    setAllowance tok.store p.owner p.spender p.value
    paid (← tok.emit .approval p.owner p.spender p.value)
    return []

/-! ### Memos -/

def withMemo (memo : B256) (body : Routine Bytes) : Routine Bytes := do
  let ret ← body
  paid (← tok.emitMemo memo)
  return ret

def dispatchPermitMemo : Selector → Option (Routine Bytes)
  | .domainSeparator => some do
    match ← tok.domainSeparator env with
    | some domain => return encWord domain
    | none => fail .outOfGas
  | .nonces => some do
    let owner ← readAddress args 0
    return encU256 (← nonce tok.store owner)
  | .permit => some do
    let p ← readPermit args
    tok.permit env p
  | .transferWithMemo => some do
    let dst ← readAddress args 0
    let amount ← readU256 args 1
    let memo ← readWord args 2
    tok.withMemo memo (tok.transfer env tok.ctx.caller dst amount)
  | .transferFromWithMemo => some do
    let src ← readAddress args 0
    let dst ← readAddress args 1
    let amount ← readU256 args 2
    let memo ← readWord args 3
    tok.withMemo memo (tok.transferFrom env tok.ctx.caller src dst amount)
  | .mintWithMemo => some do
    let dst ← readAddress args 0
    let amount ← readU256 args 1
    let memo ← readWord args 2
    tok.withMemo memo do
      tok.mint env dst amount
      return []
  | .burnWithMemo => some do
    let amount ← readU256 args 0
    let memo ← readWord args 1
    tok.withMemo memo do
      tok.burn tok.ctx.caller amount
      return []
  | _ => none

/-- The transfer, then the memo and the format its payload follows; a zero format is refused. -/
def transferWithMemoFormat (format memo : B256) (transfer : Routine Bytes) : Routine Bytes := do
  reject tok.ctx.readOnly .writeProtection
  reject (format = 0) (rev .invalidFormatId [])
  let ret ← transfer
  paid (← tok.emitMemo memo)
  paid (← addLog tok.store
    [Topic.memoFormatDeclared.hash, addrKey tok.ctx.caller, memo, format] [])
  return ret

def dispatchMemoFormat : Selector → Option (Routine Bytes)
  | .transferWithMemoFormat => some do
    let dst ← readAddress args 0
    let amount ← readU256 args 1
    let memo ← readWord args 2
    let format ← readWord args 3
    tok.transferWithMemoFormat format memo (tok.transfer env tok.ctx.caller dst amount)
  | .transferFromWithMemoFormat => some do
    let src ← readAddress args 0
    let dst ← readAddress args 1
    let amount ← readU256 args 2
    let memo ← readWord args 3
    let format ← readWord args 4
    tok.transferWithMemoFormat format memo (tok.transferFrom env tok.ctx.caller src dst amount)
  | _ => none

/-! ### Dispatch -/

/-- The tables, in the order they are tried. -/
def dispatch (sel : Selector) (args : Bytes) : Routine Bytes :=
  ((((tok.dispatchErc20 env args sel).or (tok.dispatchAdmin env args sel)).or
    (tok.dispatchMetadata args sel)).or
    (tok.dispatchPermitMemo env args sel)).or
    (tok.dispatchMemoFormat env args sel) |>.getD (fail revert)

/-! ### The stablecoin variant -/

def slotCurrency : ℕ := 0

def stablecoinSlot (offset : ℕ) : Slot := .field .stablecoin offset

def currency : Routine (Option Bytes) := getStringAt tok.store (stablecoinSlot slotCurrency)

def setCurrency (v : Bytes) : Routine Bool := setStringAt tok.store (stablecoinSlot slotCurrency) v

def stablecoinDispatch (input : Bytes) : Routine Bytes := do
  let sel ← selectorOf input
  if sel = .currency then
    match ← tok.currency with
    | some v => return encString v
    | none => fail .outOfGas
  else tok.dispatch env sel (input.drop 4)

end Token

end RethBsc.Cas20
