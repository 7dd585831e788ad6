import RethBsc.Cas20.Abi
import RethBsc.Effects

/-!
The machine that CAS20 calls run on: the host state they read and write, the gas meter of a
frame and the operations a handler can perform.

A handler is a program over `Op`; everything it learns about the state or about its gas it learns
as the answer of an operation. `handler` performs an operation on a frame as the source does: a
charge that is not covered marks the frame and the handler goes on, with dummy answers from then
on, until `complete` looks at the marks.

A storage slot is the term that computes it, a field of a namespace or the hash of a key and a
slot, so that different terms are different slots: the hash is taken to be free of collisions.
-/

namespace RethBsc.Cas20

/-! ### Storage slots -/

/-- The ERC-7201 roots, `ROOT_*` in the source. -/
inductive Namespace
  | core | asset | stablecoin | policy | activation
  deriving DecidableEq

/-- A slot, by the way it is computed. -/
inductive Slot
  /-- What stands in for a slot whose derivation was not paid for. -/
  | zero
  | field (ns : Namespace) (offset : ℕ)
  /-- `keccak256(key ++ base) + offset`. -/
  | hash (key : Bytes) (base : Slot) (offset : ℕ)
  deriving DecidableEq

def Slot.add : Slot → ℕ → Slot
  | .zero, _ => .zero
  | .field ns offset, i => .field ns (offset + i)
  | .hash key base offset, i => .hash key base (offset + i)

def mappingSlot (base : Slot) (key : B256) : Slot := .hash (B256.asSlice key) base 0

def Slot.layout : Slot → Option (Namespace × ℕ)
  | .zero => none
  | .field ns offset => some (ns, offset)
  | .hash _ base _ => base.layout

@[simp] lemma mappingSlot_inj {b c : Slot} {k l : B256} :
    mappingSlot b k = mappingSlot c l ↔ k = l ∧ b = c := by
  simp [mappingSlot]

/-! ### The host -/

structure StateLoad (α : Type) where
  data : α
  isCold : Bool

structure SStoreResult where
  originalValue : U256
  presentValue : U256
  newValue : U256

structure Log where
  address : Address
  topics : List B256
  data : Bytes
  deriving DecidableEq

/-- What a CAS20 call needs from the state: the journal and the block fields it consults. A
database failure is an `Except.error`. -/
structure Cas20State (σ : Type) where
  sload : Address → Slot → σ → Except String (StateLoad U256) × σ
  sstore : Address → Slot → U256 → σ → Except String (StateLoad SStoreResult) × σ
  codeHash : Address → σ → Except String (StateLoad B256) × σ
  setCode : Address → Bytes → σ → Except String Unit × σ
  log : Log → σ → σ
  blockTimestamp : σ → ℕ
  chainId : σ → ℕ

/-! ### Gas -/

def warmStorageReadCost : ℕ := 100
def coldStorageCost : ℕ := 2100
def coldAccountAccessCost : ℕ := 2600
def calldataWordGas : ℕ := 6
def keccak256Gas : ℕ := 30
def keccak256WordGas : ℕ := 6
def logGas : ℕ := 375
def logTopicGas : ℕ := 375
def logDataGas : ℕ := 8
def createDataGas : ℕ := 200
def createGas : ℕ := 32000
def ecrecoverGas : ℕ := 3000
def callStipend : ℕ := 2300

/-- `len.div_ceil(32)`. -/
def wordsOf (len : ℕ) : ℕ := (len + 31) / 32

/-- `sstore_static_gas` and `sstore_dynamic_gas` at Jenner. -/
def sstoreGas (r : SStoreResult) (isCold : Bool) : ℕ :=
  (if isCold then coldStorageCost else 0) +
    if r.newValue = r.presentValue then 100
    else if r.originalValue = r.presentValue then
      if r.originalValue = 0 then 20000 else 2900
    else 100

def sstoreRefund (r : SStoreResult) : ℤ :=
  if r.newValue = r.presentValue then 0
  else if r.originalValue = r.presentValue then
    if r.newValue = 0 ∧ r.originalValue ≠ 0 then 4800 else 0
  else
    (if r.originalValue = 0 then 0
      else if r.presentValue = 0 then -4800
      else if r.newValue = 0 then 4800 else 0) +
    (if r.originalValue = r.newValue then
      if r.originalValue = 0 then 19900 else 2800
      else 0)

/-- The budget of a frame. -/
structure Meter where
  limit : ℕ
  used : ℕ
  refund : ℤ
  deriving DecidableEq

def Meter.new (limit : ℕ) : Meter := ⟨limit, 0, 0⟩

def Meter.left (m : Meter) : ℕ := m.limit - m.used

/-- What an exhausted frame hands back: nothing. -/
def Meter.exhaust (m : Meter) : Meter := { m with used := m.limit }

/-- Exhausts the budget when the charge cannot be covered. -/
def Meter.charge (m : Meter) (cost : ℕ) : Bool × Meter :=
  if m.left < cost then (false, m.exhaust) else (true, { m with used := m.used + cost })

/-! ### The frame -/

/-- Accounting and errors of one EVM frame. `adminRenounced` is a field of the context in the
source; the contexts of one frame that read it are made one after the other. -/
structure Frame (σ : Type) where
  state : σ
  gas : Meter
  outOfGas : Bool
  writeProtected : Bool
  /-- A database failure. -/
  fatal : Option String
  adminRenounced : Bool

variable {σ : Type}

namespace Frame

def new (state : σ) (gasLimit : ℕ) : Frame σ :=
  { state, gas := .new gasLimit, outOfGas := false, writeProtected := false, fatal := none,
    adminRenounced := false }

/-- A database failure stops the frame as running out of gas does; the first one is kept. -/
def fail (f : Frame σ) (err : String) : Frame σ :=
  { f with fatal := some (f.fatal.getD err), outOfGas := true }

def markOutOfGas (f : Frame σ) : Frame σ := { f with outOfGas := true, gas := f.gas.exhaust }

def chargeGas (f : Frame σ) (cost : ℕ) : Bool × Frame σ :=
  if f.outOfGas then (false, f)
  else
    match f.gas.charge cost with
    | (false, gas) => (false, { f with gas }.markOutOfGas)
    | (true, gas) => (true, { f with gas })

def chargeKeccak (f : Frame σ) (size : ℕ) : Bool × Frame σ :=
  f.chargeGas (keccak256Gas + keccak256WordGas * wordsOf size)

/-- `Store::read`: the slot is loaded first and paid for in the state it was found in. -/
def read (host : Cas20State σ) (at' : Address) (slot : Slot) (f : Frame σ) :
    Option U256 × Frame σ :=
  if f.outOfGas then (none, f)
  else
    match host.sload at' slot f.state with
    | (.error e, state) => (none, { f with state }.fail e)
    | (.ok load, state) =>
      match { f with state }.chargeGas
          (if load.isCold then coldStorageCost else warmStorageReadCost) with
      | (false, f') => (none, f')
      | (true, f') => (some load.data, f')

/-- `Store::set_word`: no write in a read-only frame, none on the call stipend alone, and the
journal is written before the write is paid for. -/
def setWord (host : Cas20State σ) (readOnly : Bool) (at' : Address) (slot : Slot) (value : U256)
    (f : Frame σ) : Bool × Frame σ :=
  if readOnly then (false, { f with writeProtected := true })
  else if f.gas.left ≤ callStipend then (false, f.markOutOfGas)
  else if f.outOfGas then (false, f)
  else
    match host.sstore at' slot value f.state with
    | (.error e, state) => (false, { f with state }.fail e)
    | (.ok load, state) =>
      let gas := { f.gas with refund := f.gas.refund + sstoreRefund load.data }
      { f with state, gas }.chargeGas (sstoreGas load.data load.isCold)

def addLog (host : Cas20State σ) (readOnly : Bool) (log : Log) (f : Frame σ) : Bool × Frame σ :=
  if readOnly then (false, { f with writeProtected := true })
  else
    match f.chargeGas (logGas + logTopicGas * log.topics.length + logDataGas * log.data.length) with
    | (false, f') => (false, f')
    | (true, f') => (true, { f' with state := host.log log f'.state })

/-- The code hash of an account, warmed and paid for. -/
def chargeAccountAccess (host : Cas20State σ) (addr : Address) (f : Frame σ) :
    Option B256 × Frame σ :=
  if f.outOfGas then (none, f)
  else
    match host.codeHash addr f.state with
    | (.error e, state) => (none, { f with state }.fail e)
    | (.ok load, state) =>
      match { f with state }.chargeGas
          (if load.isCold then coldAccountAccessCost else warmStorageReadCost) with
      | (false, f') => (none, f')
      | (true, f') => (some load.data, f')

end Frame

def keccak256Empty : B256 := 0xc5d2460186f7233c927e7db2dcc703c0e500b653ca82273b7bfad8045d85a470

def hadNoCode (codeHash : B256) : Bool := codeHash = 0 || codeHash = keccak256Empty

namespace Frame

/-- The price of writing code. The account is looked at whether or not the frame has run out of
gas. -/
def chargeCodeWrite (host : Cas20State σ) (readOnly : Bool) (addr : Address) (code : Bytes)
    (f : Frame σ) : Bool × Frame σ :=
  if readOnly then (false, { f with writeProtected := true })
  else
    match host.codeHash addr f.state with
    | (.error e, state) => (false, { f with state }.fail e)
    | (.ok hash, state) =>
      let cost := createDataGas * code.length + if hadNoCode hash.data then createGas else 0
      match { f with state }.chargeGas cost with
      | (false, f') => (false, f')
      | (true, f') => f'.chargeKeccak code.length

def setCode (host : Cas20State σ) (addr : Address) (code : Bytes) (f : Frame σ) : Frame σ :=
  match host.setCode addr code f.state with
  | (.error e, state) => { f with state }.fail e
  | (.ok (), state) => { f with state }

end Frame

/-! ### Operations -/

/-- What a handler can ask of the frame it runs in. -/
inductive Op
  | charge (cost : ℕ)
  | read (at' : Address) (slot : Slot)
  | setWord (at' : Address) (slot : Slot) (value : U256)
  | addLog (log : Log)
  | accountAccess (addr : Address)
  | codeWrite (addr : Address) (code : Bytes)
  | setCode (addr : Address) (code : Bytes)
  | outOfGas
  | blockTime
  | chainId
  | adminRenounced
  | renounceAdmin
  /-- A fresh context for the bootstrap of a token: `spawn_bootstrap`. -/
  | spawnBootstrap
  /-- The addition of an amount onto a balance. -/
  | addBalance (balance amount : U256)

@[reducible] def Op.Answer : Op → Type
  | .charge _ => Bool
  | .read _ _ => Option U256
  | .setWord _ _ _ => Bool
  | .addLog _ => Bool
  | .accountAccess _ => Option B256
  | .codeWrite _ _ => Bool
  | .setCode _ _ => Unit
  | .outOfGas => Bool
  | .blockTime => ℕ
  | .chainId => ℕ
  | .adminRenounced => Bool
  | .renounceAdmin => Unit
  | .spawnBootstrap => Unit
  | .addBalance _ _ => U256

/-- An operation performed on a frame. -/
def handler (host : Cas20State σ) (readOnly : Bool) : (o : Op) → Frame σ → o.Answer × Frame σ
  | .charge cost, f => f.chargeGas cost
  | .read at' slot, f => f.read host at' slot
  | .setWord at' slot value, f => f.setWord host readOnly at' slot value
  | .addLog log, f => f.addLog host readOnly log
  | .accountAccess addr, f => f.chargeAccountAccess host addr
  | .codeWrite addr code, f => f.chargeCodeWrite host readOnly addr code
  | .setCode addr code, f => ((), f.setCode host addr code)
  | .outOfGas, f => (f.outOfGas, f)
  | .blockTime, f => (host.blockTimestamp f.state, f)
  | .chainId, f => (host.chainId f.state, f)
  | .adminRenounced, f => (f.adminRenounced, f)
  | .renounceAdmin, f => ((), { f with adminRenounced := true })
  | .spawnBootstrap, f => ((), { f with adminRenounced := false })
  | .addBalance balance amount, f => (balance + amount, f)

/-- A handler, or a part of one. -/
abbrev Routine (α : Type) := Prog Op Op.Answer Cas20Err α

/-- Undeployable under EIP-3541; the code of every CAS20 account. -/
def markerCode : Bytes := [0xEF]

/-- What the precompiles take from elsewhere, and how deep the authorization check of the policy
registry may call itself. -/
structure Env where
  keccak256 : Bytes → B256
  /-- The hash of the public key that made the 64 signature bytes, from the recovery bit and the
  digest. -/
  ecrecover : Bytes → ℕ → B256 → Option B256
  depth : ℕ
  keccak256_markerCode : keccak256 markerCode = markerCodeHash

/-- The environment handed to one entry point. -/
structure Ctx where
  /-- The callee address and the storage root of its state. -/
  selfAddr : Address
  caller : Address
  readOnly : Bool
  /-- False for CALLCODE and DELEGATECALL. -/
  directCall : Bool
  value : U256

/-! ### The end of a call -/

inductive Outcome
  | ret (data : Bytes)
  | revert (data : Bytes)
  | outOfGas
  | fatal (msg : String)
  deriving DecidableEq

/-- The outcome, the gas used and the refund: a database failure first, then write protection,
then the gas, and only then what the handler said. -/
def complete (frame : Frame σ) (result : Except Cas20Err Bytes) : Outcome × ℕ × ℤ :=
  match frame.fatal with
  | some msg => (.fatal msg, frame.gas.exhaust.used, 0)
  | none =>
    let result := if frame.writeProtected then .error .writeProtection
      else if frame.outOfGas then .error .outOfGas
      else result
    match result with
    | .ok data => (.ret data, frame.gas.used, frame.gas.refund)
    | .error (.revert data) => (.revert data, frame.gas.used, 0)
    | .error .delegateCall =>
      (.revert ErrorCode.delegateCallNotAllowed.bytes, frame.gas.used, 0)
    | .error .writeProtection =>
      (.revert ErrorCode.staticCallNotAllowed.bytes, frame.gas.used, 0)
    | .error .outOfGas => (.outOfGas, frame.gas.exhaust.used, 0)

/-- What the interpreter is handed; a halt and a fatal error carry no gas. -/
inductive PrecompileResult
  | output (gasUsed : ℕ) (bytes : Bytes) (gasRefunded : ℤ) (reservoir : ℕ)
  | revert (gasUsed : ℕ) (bytes : Bytes) (reservoir : ℕ)
  | haltOutOfGas (reservoir : ℕ)
  | fatal (msg : String)
  deriving DecidableEq

def PrecompileResult.ofOutcome (reservoir : ℕ) : Outcome × ℕ × ℤ → PrecompileResult
  | (.ret bytes, used, refund) => .output used bytes refund reservoir
  | (.revert bytes, used, _) => .revert used bytes reservoir
  | (.outOfGas, _, _) => .haltOutOfGas reservoir
  | (.fatal msg, _, _) => .fatal msg

end RethBsc.Cas20
