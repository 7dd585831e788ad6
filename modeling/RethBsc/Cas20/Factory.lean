import RethBsc.Cas20.Asset

/-!
The factory, and a CAS20 call from its prologue to what the interpreter is handed.

A token is created with its code, its metadata and its supply cap, then announced, then given its
first admin, and only then do its init calls run, dispatched to the new token by the factory
itself with the privileges of the bootstrap.
-/

namespace RethBsc.Cas20

open Prog (fail perform mapError)

def factoryAddress : Address := Fin.ofNat (2 ^ 160) 0xCA5F000000000000000000000000000000000000

def variantAsset : ℕ := 0
def variantStablecoin : ℕ := 1
def variantMax : ℕ := variantStablecoin

/-- The first two bytes are `0xCA52` and the next eight are zero. -/
def isCas20Address (a : Address) : Bool := a.val / 2 ^ 80 = 0xca52 * 2 ^ 64

def variantByte (a : Address) : ℕ := a.val / 2 ^ 72 % 256

def variantFeature (variant : ℕ) : Option B256 :=
  if variant = variantAsset then some featureAsset
  else if variant = variantStablecoin then some featureStablecoin
  else none

def initializedMetered (addr : Address) : Routine Bool := do
  match ← perform (Op.accountAccess addr) with
  | some hash => return hash = markerCodeHash
  | none => return false

/-- Any code counts; so does not being able to pay for the answer. -/
def addressOccupied (addr : Address) : Routine Bool := do
  match ← perform (Op.accountAccess addr) with
  | some hash => return !hadNoCode hash
  | none => return true

/-! ### Creation -/

def paramsVersion : ℕ := 1
def minDecimals : ℕ := 6
def maxDecimals : ℕ := 18

variable (env : Env)

/-- `0xCA52`, eight zero bytes, the variant, and nine bytes of the hash of creator and salt. -/
def deriveAddress (variant : ℕ) (creator : Address) (salt : B256) : Address :=
  let h := env.keccak256 (B256.asSlice (addrKey creator) ++ B256.asSlice salt)
  Fin.ofNat (2 ^ 160) (0xca52 * 2 ^ 144 + variant * 2 ^ 72 + h.toNat / 2 ^ 184)

structure CreateParams where
  variant : ℕ
  name : Bytes
  symbol : Bytes
  initialAdmin : Address
  decimals : ℕ
  /-- Stablecoin only. -/
  currency : Bytes

def decodeCreateParams (variant : ℕ) (params : Bytes) : Except Cas20Err CreateParams := do
  let off ← orRevert (wordU64 params 0)
  if off > params.length then .error revert else
  let body := params.drop off
  let version ← readStrictUint8 body 0
  if version ≠ paramsVersion then
    .error (rev .unsupportedVersion [wU8 version, wU8 variant]) else
  let name ← readStringArg body 1
  let symbol ← readStringArg body 2
  let initialAdmin ← readAddress body 3
  if variant = variantAsset then
    let decimals ← readStrictUint8 body 4
    if decimals < minDecimals ∨ maxDecimals < decimals then
      .error (rev .invalidDecimals [wU8 decimals])
    else .ok { variant, name, symbol, initialAdmin, decimals, currency := [] }
  else
    let currency ← readStringArg body 4
    .ok { variant, name, symbol, initialAdmin, decimals := 6, currency }

/-- `b"currency"`. -/
def fieldCurrency : Bytes := [0x63, 0x75, 0x72, 0x72, 0x65, 0x6e, 0x63, 0x79]

def validateCurrency (code : Bytes) : Except Cas20Err Unit :=
  if code = [] then .error (revBytes .missingRequiredField fieldCurrency)
  else if ¬ code.all (fun b => 0x41 ≤ b && b ≤ 0x5a) then .error (revBytes .invalidCurrency code)
  else .ok ()

def checkCurrency (c : CreateParams) : Except Cas20Err Unit :=
  if c.variant = variantStablecoin then validateCurrency c.currency else .ok ()

def encodeCreatedData (c : CreateParams) : Bytes :=
  let variantParams := if c.variant = variantStablecoin then
      abiEncodeStruct [.word (wU8 paramsVersion), abiString c.currency]
    else []
  encodeTuple [abiString c.name, abiString c.symbol, .word (wU8 c.decimals), abiBytes variantParams]

/-- What the factory checks and works out before it looks at the token's account. -/
structure CreateCall where
  params : CreateParams
  addr : Address
  initCalls : List Bytes

def decodeCreate (ctx : Ctx) (args : Bytes) : Routine CreateCall := do
  reject ctx.readOnly .writeProtection
  let variantWord ← readWord args 0
  let salt ← readWord args 1
  let params ← readBytesArg args 2
  let initCalls ← readBytesArray args 3
  reject (¬ isEnumWord variantWord variantMax) revert
  let variant := variantWord.toNat
  match variantFeature variant with
  | none => fail (rev .invalidVariant [])
  | some feature =>
    ensureFeatureActivated feature
    let create ← decodeCreateParams variant params
    checkCurrency create
    paid (← chargeKeccak 64)
    return ⟨create, deriveAddress env variant ctx.caller salt, initCalls⟩

/-- The token in the bootstrap of its creation: the factory is its caller. -/
def bootstrapToken (ctx : Ctx) (addr : Address) (decimals : ℕ) : Token :=
  .bootstrap { selfAddr := addr, caller := factoryAddress, readOnly := ctx.readOnly,
               directCall := true, value := 0 } decimals

/-- Name, symbol, cap and the extension of the variant. -/
def initToken (tok : Token) (create : CreateParams) : Routine Unit := do
  perform Op.spawnBootstrap
  paid (← setName tok.store create.name)
  paid (← setSymbol tok.store create.symbol)
  setSupplyCap tok.store noSupplyCap
  if create.variant = variantAsset then tok.initAssetExtension create.decimals
  else paid (← tok.setCurrency create.currency)

def grantInitialAdmin (tok : Token) (initialAdmin : Address) : Routine Unit :=
  whenever (initialAdmin ≠ 0) do
    setRole tok.store roleDefaultAdmin initialAdmin true
    setAdminCount tok.store 1
    paid (← addLog tok.store
      [Topic.roleGranted.hash, roleDefaultAdmin, addrKey initialAdmin, addrKey factoryAddress] [])

/-- A reverting init call is reported by its index; anything else goes through. -/
def initCallError (i : ℕ) : Cas20Err → Cas20Err
  | .revert _ => rev .initCallFailed [BitVec.ofNat 256 i]
  | other => other

def variantDispatch (tok : Token) (variant : ℕ) (input : Bytes) : Routine Bytes :=
  if variant = variantAsset then tok.assetDispatch env input else tok.stablecoinDispatch env input

def runInitCalls (dispatch : Bytes → Routine Bytes) : List Bytes → Routine Unit :=
  Token.runCalls (fun i _ => initCallError i) dispatch 0

/-- The part of a creation after the account has been claimed. -/
def bootstrap (ctx : Ctx) (call : CreateCall) : Routine Bytes := do
  let tok := bootstrapToken ctx call.addr call.params.decimals
  initToken tok call.params
  paid (← addLog ctx.selfAddr
    [Topic.cas20Created.hash, addrKey call.addr, wU8 call.params.variant]
    (encodeCreatedData call.params))
  perform Op.spawnBootstrap
  grantInitialAdmin tok call.params.initialAdmin
  runInitCalls (variantDispatch env tok call.params.variant) call.initCalls
  let exhausted ← isOutOfGas
  reject exhausted .outOfGas
  return encWord (addrKey call.addr)

def createCas20 (ctx : Ctx) (args : Bytes) : Routine Bytes := do
  let call ← decodeCreate env ctx args
  let occupied ← addressOccupied call.addr
  reject occupied (rev .tokenAlreadyExists [addrKey call.addr])
  paid (← perform (Op.codeWrite call.addr markerCode))
  perform (Op.setCode call.addr markerCode)
  bootstrap env ctx call

def factoryDispatch (ctx : Ctx) (args : Bytes) : Selector → Routine Bytes
  | .getCas20Address => do
    let variant ← readWord args 0
    let sender ← readAddress args 1
    let salt ← readWord args 2
    reject (¬ isEnumWord variant variantMax) revert
    paid (← chargeKeccak 64)
    return encWord (addrKey (deriveAddress env variant.toNat sender salt))
  | .isCas20 => do
    let a ← readAddress args 0
    return encBool (isCas20Address a)
  | .variantOf => do
    let a ← readAddress args 0
    reject (¬ isCas20Address a ∨ (variantFeature (variantByte a)).isNone)
      (rev .invalidVariant [])
    return encWord (wU8 (variantByte a))
  | .isCas20Initialized => do
    let a ← readAddress args 0
    if isCas20Address a then return encBool (← initializedMetered a)
    else return encBool false
  | .createCas20 => createCas20 env ctx args
  | _ => fail revert

def runFactory (ctx : Ctx) (input : Bytes) : Routine Bytes := do
  let sel ← selectorOf input
  factoryDispatch env ctx (input.drop 4) sel

/-! ### One call -/

inductive Kind
  | factory | policy | activation | asset | stablecoin
  deriving DecidableEq

/-- Which precompile an address is. -/
def resolve (addr : Address) : Option Kind :=
  if isCas20Address addr then
    if variantByte addr = variantAsset then some .asset
    else if variantByte addr = variantStablecoin then some .stablecoin
    else none
  else if addr = factoryAddress then some .factory
  else if addr = policyRegistryAddress then some .policy
  else if addr = activationRegistryAddress then some .activation
  else none

/-- A call to a token, once it is known to be one. -/
def runToken (kind : Kind) (ctx : Ctx) (data : Bytes) : Routine Bytes := do
  let initialized ← initializedMetered ctx.selfAddr
  reject (¬ initialized) revert
  if kind = .asset then Token.assetDispatch env (.new ctx 0) data
  else Token.stablecoinDispatch env (.new ctx 6) data

def execute (kind : Kind) (ctx : Ctx) (data : Bytes) : Routine Bytes := do
  reject (¬ ctx.directCall) .delegateCall
  reject (ctx.value ≠ 0) (rev .nonPayable [])
  paid (← chargeCalldata data)
  match kind with
  | .factory => runFactory env ctx data
  | .policy => runPolicy env ctx data
  | .activation => runActivation ctx data
  | .asset | .stablecoin => runToken env kind ctx data

/-- What the interpreter hands to a precompile, besides the state and the gas. -/
structure PrecompileInput where
  bytecodeAddress : Address
  caller : Address
  isStatic : Bool
  isDirectCall : Bool
  value : U256
  data : Bytes
  reservoir : ℕ

def PrecompileInput.ctx (input : PrecompileInput) : Ctx where
  selfAddr := input.bytecodeAddress
  caller := input.caller
  readOnly := input.isStatic
  directCall := input.isDirectCall
  value := input.value

variable {σ : Type}

/-- The frame a call leaves behind, and what its handler said. -/
def runFrame (host : Cas20State σ) (kind : Kind) (input : PrecompileInput)
    (gas : ℕ) (s : σ) : Except Cas20Err Bytes × Frame σ :=
  Prog.run (handler host input.isStatic) (execute env kind input.ctx input.data) (.new s gas)

/-- One call: what the interpreter is handed, and the state the call leaves. -/
def run (host : Cas20State σ) (kind : Kind) (input : PrecompileInput) (gas : ℕ)
    (s : σ) : PrecompileResult × σ :=
  let r := runFrame env host kind input gas s
  (.ofOutcome input.reservoir (complete r.2 r.1), r.2.state)

end RethBsc.Cas20
