import RethBsc.Cas20.Machine

/-!
The storage layout of a token and the metered accessors over it.

An accessor works on the storage of one account, its first argument. A refused charge shows only
in the answer: `getWord` then answers zero, and a slot that was not paid for is `Slot.zero`.
-/

namespace RethBsc.Cas20

open Prog (fail perform)

/-! ### Small routines -/

/-- Fails if the condition holds. -/
def reject (c : Prop) [Decidable c] (e : Cas20Err) : Routine Unit := if c then fail e else pure ()

/-- Fails as out of gas unless the operation before it was carried out. -/
def paid (done : Bool) : Routine Unit := reject (done = false) .outOfGas

/-- Does its part only if the condition holds. -/
def whenever (c : Prop) [Decidable c] (p : Routine Unit) : Routine Unit := if c then p else pure ()

def chargeGas (cost : ℕ) : Routine Bool := perform (Op.charge cost)

def chargeKeccak (size : ℕ) : Routine Bool :=
  chargeGas (keccak256Gas + keccak256WordGas * wordsOf size)

/-- A warm call and the copy of one entry of a bundle into the callee's input. -/
def chargeInternalDispatch (call : Bytes) : Routine Bool :=
  chargeGas (warmStorageReadCost + wordsOf call.length * calldataWordGas)

def chargeCalldata (input : Bytes) : Routine Bool :=
  if wordsOf input.length = 0 then pure true
  else chargeGas (wordsOf input.length * calldataWordGas)

def addLog (emitter : Address) (topics : List B256) (data : Bytes) : Routine Bool :=
  perform (Op.addLog ⟨emitter, topics, data⟩)

def isOutOfGas : Routine Bool := perform Op.outOfGas

def blockTime : Routine ℕ := perform Op.blockTime

/-! ### The layout -/

def slotName : ℕ := 0
def slotSymbol : ℕ := 1
def slotContractUri : ℕ := 2
def slotTotalSupply : ℕ := 3
def slotBalances : ℕ := 4
def slotAllowances : ℕ := 5
def slotRoles : ℕ := 6
def slotRoleAdmins : ℕ := 7
def slotAdminCount : ℕ := 8
def slotTransferPolicies : ℕ := 9
def slotMintPolicy : ℕ := 10
def slotPaused : ℕ := 11
def slotSupplyCap : ℕ := 12
def slotNonces : ℕ := 13
def slotSeizePolicies : ℕ := 14

def offTransferSender : ℕ := 0
def offTransferReceiver : ℕ := 8
def offTransferExecutor : ℕ := 16
def offMintReceiver : ℕ := 0
def offSeizeExempt : ℕ := 0
def offSeizeReceiver : ℕ := 8

def maxStringLen : ℕ := 2 ^ 24

def slotAt (offset : ℕ) : Slot := .field .core offset

/-! ### Words -/

def mapSlot (base : Slot) (key : B256) : Routine Slot := do
  if ← chargeKeccak 64 then return mappingSlot base key
  else return .zero

/-- The slot of a string key: its raw bytes are hashed, so the price is the caller's. -/
def strMapSlot (base : Slot) (key : Bytes) : Routine Slot := do
  if ← chargeKeccak (key.length + 32) then return .hash key base 0
  else return .zero

variable (store : Address)

def getWordChecked (slot : Slot) : Routine (Option U256) := perform (Op.read store slot)

def getWord (slot : Slot) : Routine U256 := do
  return (← getWordChecked store slot).getD 0

def setWord (slot : Slot) (value : U256) : Routine Bool := perform (Op.setWord store slot value)

/-- A write whose answer is not looked at. -/
def putWord (slot : Slot) (value : U256) : Routine Unit := do
  let _ ← setWord store slot value

def getU256 (offset : ℕ) : Routine U256 := getWord store (slotAt offset)

def setU256 (offset : ℕ) (v : U256) : Routine Unit := putWord store (slotAt offset) v

def totalSupply : Routine U256 := getU256 store slotTotalSupply

def setTotalSupply (v : U256) : Routine Unit := setU256 store slotTotalSupply v

def supplyCap : Routine U256 := getU256 store slotSupplyCap

def setSupplyCap (v : U256) : Routine Unit := setU256 store slotSupplyCap v

def adminCount : Routine U256 := getU256 store slotAdminCount

def setAdminCount (v : U256) : Routine Unit := setU256 store slotAdminCount v

def pausedChecked : Routine (Option U256) := getWordChecked store (slotAt slotPaused)

def paused : Routine U256 := getU256 store slotPaused

def setPaused (v : U256) : Routine Unit := setU256 store slotPaused v

/-! ### Balances, allowances and nonces -/

/-- `wrapping_add` of an amount onto a balance. -/
def addBalance (balance amount : U256) : Routine U256 := perform (Op.addBalance balance amount)

def balanceSlot (a : Address) : Routine Slot := mapSlot (slotAt slotBalances) (addrKey a)

def allowanceSlot (owner spender : Address) : Routine Slot := do
  let inner ← mapSlot (slotAt slotAllowances) (addrKey owner)
  mapSlot inner (addrKey spender)

def balanceOf (store a : Address) : Routine U256 := do
  let slot ← balanceSlot a
  getWord store slot

def allowance (store owner spender : Address) : Routine U256 := do
  let slot ← allowanceSlot owner spender
  getWord store slot

def setAllowance (store owner spender : Address) (v : U256) : Routine Unit := do
  let slot ← allowanceSlot owner spender
  putWord store slot v

def nonce (store owner : Address) : Routine U256 := do
  let slot ← mapSlot (slotAt slotNonces) (addrKey owner)
  getWord store slot

def setNonce (store owner : Address) (v : U256) : Routine Unit := do
  let slot ← mapSlot (slotAt slotNonces) (addrKey owner)
  putWord store slot v

/-! ### Roles -/

def roleSlot (role : B256) (a : Address) : Routine Slot := do
  let inner ← mapSlot (slotAt slotRoles) role
  mapSlot inner (addrKey a)

def hasRole (role : B256) (a : Address) : Routine Bool := do
  let slot ← roleSlot role a
  return (← getWord store slot) != 0

def setRole (role : B256) (a : Address) (enabled : Bool) : Routine Unit := do
  let slot ← roleSlot role a
  putWord store slot (if enabled then 1 else 0)

def roleAdmin (role : B256) : Routine B256 := do
  let slot ← mapSlot (slotAt slotRoleAdmins) role
  getWord store slot

def putRoleAdmin (role admin : B256) : Routine Unit := do
  let slot ← mapSlot (slotAt slotRoleAdmins) role
  putWord store slot admin

/-! ### Packed policy ids -/

def packedLane (word : U256) (byteOff : ℕ) : U64 := (word >>> (byteOff * 8)).setWidth 64

def withPackedLane (word : U256) (byteOff : ℕ) (v : U64) : U256 :=
  (word &&& ~~~((BitVec.allOnes 64).setWidth 256 <<< (byteOff * 8))) |||
    (v.setWidth 256 <<< (byteOff * 8))

def getPackedU64 (offset byteOff : ℕ) : Routine U64 := do
  return packedLane (← getWord store (slotAt offset)) byteOff

def setPackedU64 (offset byteOff : ℕ) (v : U64) : Routine Unit := do
  let word ← getWord store (slotAt offset)
  putWord store (slotAt offset) (withPackedLane word byteOff v)

structure TransferPolicies where
  sender : U64
  receiver : U64
  executor : U64

def transferPolicies : Routine TransferPolicies := do
  let w ← getWord store (slotAt slotTransferPolicies)
  return ⟨packedLane w offTransferSender, packedLane w offTransferReceiver,
    packedLane w offTransferExecutor⟩

structure SeizePolicies where
  exempt : U64
  receiver : U64

def seizePolicies : Routine SeizePolicies := do
  let w ← getWord store (slotAt slotSeizePolicies)
  return ⟨packedLane w offSeizeExempt, packedLane w offSeizeReceiver⟩

def mintReceiverPolicy : Routine U64 := getPackedU64 store slotMintPolicy offMintReceiver

/-! ### Strings -/

def stringDataRoot (slot : Slot) : Routine Slot := do
  if ← chargeKeccak 32 then return .hash [] slot 0
  else return .zero

/-- The length of a string that is not kept in its own word, if the word is one of a readable
long string. -/
def longLength (word : U256) : Option ℕ :=
  if word.toNat % 2 = 0 then none
  else if word.toNat > 2 * maxStringLen + 1 then none
  else if (word.toNat - 1) / 2 < 32 then none
  else some ((word.toNat - 1) / 2)

/-- The bytes of a string kept in its own word; a malformed word is an empty string. -/
def shortString (word : U256) : Bytes :=
  if word.toNat % 2 = 0 then
    let n := word.toNat % 256 / 2
    if n > 31 then [] else (B256.asSlice word).take n
  else []

/-- The words of a long string from chunk `i` on; each is paid for before the next is read. -/
def readChunks (base : Slot) : ℕ → ℕ → Routine (Option Bytes)
  | _, 0 => return some []
  | i, n + 1 => do
    match ← getWordChecked store (base.add i) with
    | none => return none
    | some chunk =>
      match ← readChunks base (i + 1) n with
      | none => return none
      | some rest => return some (B256.asSlice chunk ++ rest)

def getStringAt (slot : Slot) : Routine (Option Bytes) := do
  match ← getWordChecked store slot with
  | none => return none
  | some word =>
    match longLength word with
    | none => return some (shortString word)
    | some length =>
      let base ← stringDataRoot slot
      match ← readChunks store base 0 (wordsOf length) with
      | none => return none
      | some out => return some (out.take length)

def stringChunks (slot : Slot) : Routine ℕ := do
  match longLength (← getWord store slot) with
  | none => return 0
  | some length => return wordsOf length

def stringWord (b : Bytes) : U256 :=
  if b.length < 32 then
    B256.fromSlice (b ++ List.replicate (31 - b.length) 0 ++ [UInt8.ofNat (b.length * 2)])
  else BitVec.ofNat 256 (b.length * 2 + 1)

def stringChunk (b : Bytes) (i : ℕ) : U256 :=
  let part := slice b (i * 32) (i * 32 + 32)
  B256.fromSlice (part ++ List.replicate (32 - part.length) 0)

/-- Writes words behind `base` until the frame has run out of gas. -/
def writeChunks (base : Slot) : List (ℕ × U256) → Routine Bool
  | [] => return true
  | (i, chunk) :: rest => do
    if ← isOutOfGas then return false
    else
      putWord store (base.add i) chunk
      writeChunks base rest

/-- The chunks of the new string, and zeros over what the old one had besides. -/
def chunkWrites (b : Bytes) (oldChunks : ℕ) : List (ℕ × U256) :=
  let newChunks := if b.length ≥ 32 then wordsOf b.length else 0
  (List.range newChunks).map (fun i => (i, stringChunk b i)) ++
    (List.range (oldChunks - newChunks)).map fun i => (newChunks + i, 0)

def setStringAt (slot : Slot) (b : Bytes) : Routine Bool := do
  let oldChunks ← stringChunks store slot
  if ← setWord store slot (stringWord b) then
    if chunkWrites b oldChunks = [] then return true
    else
      let base ← stringDataRoot slot
      writeChunks store base (chunkWrites b oldChunks)
  else return false

def getString (offset : ℕ) : Routine (Option Bytes) := getStringAt store (slotAt offset)

def setString (offset : ℕ) (s : Bytes) : Routine Bool := setStringAt store (slotAt offset) s

def name : Routine (Option Bytes) := getString store slotName

def setName (v : Bytes) : Routine Bool := setString store slotName v

def symbol : Routine (Option Bytes) := getString store slotSymbol

def setSymbol (v : Bytes) : Routine Bool := setString store slotSymbol v

def contractUri : Routine (Option Bytes) := getString store slotContractUri

def setContractUri (v : Bytes) : Routine Bool := setString store slotContractUri v

end RethBsc.Cas20
