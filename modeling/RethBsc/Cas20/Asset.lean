import RethBsc.Cas20.Token

/-!
The asset variant: decimals, the UI multiplier with its schedule, announcements, extra metadata
and batch minting.

An announcement dispatches a bundle of calls to the token itself. The source's dispatcher so
calls itself, but a nested announcement reverts; `assetDispatch` is the dispatcher unfolded once,
and `assetDispatch_eq` says that it satisfies the source's recursive equation.
-/

namespace RethBsc.Cas20

open Prog (fail perform mapError)

namespace Token

def slotDecimals : ℕ := 0
def slotMultiplier : ℕ := 1
def slotAnnouncements : ℕ := 2
def slotExtraMeta : ℕ := 3
/-- The scheduled multiplier in the low 128 bits, when it takes effect above them. -/
def slotPending : ℕ := 4

/-- The multiplier 1.0. -/
def wad : U256 := 1000000000000000000

def u128Mask : U256 := BitVec.ofNat 256 (2 ^ 128 - 1)

def interfaceIds : List ℕ := [0x01ffc9a7, 0xa60bf13d, 0x4bd27648, 0xd890fd71, 0x57854fc3]

def assetSlot (offset : ℕ) : Slot := .field .asset offset

variable (env : Env) (tok : Token)

/-! ### Storage -/

def assetDecimals : Routine ℕ := do
  return (← getWord tok.store (assetSlot slotDecimals)).toNat % 256

def setAssetDecimals (d : ℕ) : Routine Unit :=
  putWord tok.store (assetSlot slotDecimals) (BitVec.ofNat 256 d)

def multiplier : Routine U256 := getWord tok.store (assetSlot slotMultiplier)

def setMultiplier (m : U256) : Routine Unit := putWord tok.store (assetSlot slotMultiplier) m

/-- The scheduled multiplier and when it takes effect, zero for never. -/
def pending : Routine (U256 × ℕ) := do
  let w ← getWord tok.store (assetSlot slotPending)
  return (w &&& u128Mask, (w >>> 128).toNat % 2 ^ 64)

def setPending (mul : U256) (effectiveAt : ℕ) : Routine Unit :=
  putWord tok.store (assetSlot slotPending)
    ((mul &&& u128Mask) ||| (BitVec.ofNat 256 effectiveAt <<< 128))

def clearPending : Routine Unit := putWord tok.store (assetSlot slotPending) 0

/-- A schedule that has taken effect is folded into the stored multiplier. -/
def settleMatured (now : ℕ) : Routine Unit := do
  let (mul, when') ← tok.pending
  whenever (when' ≠ 0 ∧ now ≥ when') (tok.setMultiplier mul)

def effectiveMultiplier (now : ℕ) : Routine U256 := do
  let (mul, when') ← tok.pending
  if when' ≠ 0 ∧ now ≥ when' then return mul
  else tok.multiplier

def announcementSlot (id : Bytes) : Routine Slot := strMapSlot (assetSlot slotAnnouncements) id

def announcementUsed (id : Bytes) : Routine (Option Bool) := do
  let slot ← announcementSlot id
  return (← getWordChecked tok.store slot).map (· != 0)

def markAnnouncement (id : Bytes) : Routine Bool := do
  let slot ← announcementSlot id
  setWord tok.store slot 1

def extraMetaSlot (key : Bytes) : Routine Slot := strMapSlot (assetSlot slotExtraMeta) key

def extraMetadata (key : Bytes) : Routine (Option Bytes) := do
  let slot ← extraMetaSlot key
  getStringAt tok.store slot

def setExtraMetadata (key value : Bytes) : Routine Bool := do
  let slot ← extraMetaSlot key
  setStringAt tok.store slot value

def initAssetExtension (decimals : ℕ) : Routine Unit := do
  tok.setAssetDecimals decimals
  tok.setMultiplier wad

/-! ### Multipliers -/

def applyMultiplier (raw mul : U256) : Except Cas20Err U256 :=
  if raw.toNat * mul.toNat ≥ 2 ^ 256 then .error (revPanic 0x11)
  else .ok (BitVec.ofNat 256 (raw.toNat * mul.toNat / wad.toNat))

/-- A division by zero yields zero. -/
def removeMultiplier (scaled mul : U256) : Except Cas20Err U256 :=
  if scaled.toNat * wad.toNat ≥ 2 ^ 256 then .error (revPanic 0x11)
  else .ok (BitVec.ofNat 256 (scaled.toNat * wad.toNat / mul.toNat))

def updateUiMultiplier (newMul effectiveAt : U256) : Routine Bytes := do
  reject tok.ctx.readOnly .writeProtection
  tok.ensureRole roleOperator
  reject (newMul = 0 ∨ newMul > u128Mask) (rev .invalidMultiplier [])
  let now ← blockTime
  reject (effectiveAt.toNat ≤ now) (rev .effectiveAtInPast [effectiveAt])
  reject (effectiveAt.toNat > u64Max) (rev .effectiveAtTooFar [effectiveAt])
  let (_, existing) ← tok.pending
  reject (existing > now) (rev .uiMulExists [BitVec.ofNat 256 existing])
  tok.settleMatured now
  let previous ← tok.multiplier
  tok.setPending newMul effectiveAt.toNat
  paid (← addLog tok.store [Topic.uiMultiplierUpdated.hash]
    (B256.asSlice previous ++ B256.asSlice newMul ++ B256.asSlice effectiveAt))
  return []

def cancelUiMultiplier : Routine Bytes := do
  reject tok.ctx.readOnly .writeProtection
  tok.ensureRole roleOperator
  let (mul, when') ← tok.pending
  let now ← blockTime
  reject (when' ≤ now) (rev .uiMulMissing [])
  tok.clearPending
  paid (← addLog tok.store [Topic.uiMultiplierUpdateCancelled.hash]
    (B256.asSlice mul ++ wordBytes 32 when'))
  return []

/-- The instant setter overrides a schedule; one that is still to come is withdrawn with an
event. -/
def overrideSchedule (now : ℕ) (pendingMul : U256) (when' : ℕ) : Routine Unit :=
  whenever (when' ≠ 0) do
    tok.clearPending
    whenever (when' > now) do
      paid (← addLog tok.store [Topic.uiMultiplierUpdateCancelled.hash]
        (B256.asSlice pendingMul ++ wordBytes 32 when'))

def updateMultiplier (newMul : U256) : Routine Bytes := do
  reject tok.ctx.readOnly .writeProtection
  tok.ensureRole roleOperator
  reject (newMul = 0 ∨ newMul > u128Mask) (rev .invalidMultiplier [])
  let now ← blockTime
  let previous ← tok.effectiveMultiplier now
  let (pendingMul, when') ← tok.pending
  tok.overrideSchedule now pendingMul when'
  tok.setMultiplier newMul
  paid (← addLog tok.store [Topic.multiplierUpdated.hash] (B256.asSlice newMul))
  paid (← addLog tok.store [Topic.uiMultiplierUpdated.hash]
    (B256.asSlice previous ++ B256.asSlice newMul ++ wordBytes 32 now))
  return []

/-! ### Extra metadata and batch minting -/

def updateExtraMetadata (key value : Bytes) : Routine Bytes := do
  reject tok.ctx.readOnly .writeProtection
  tok.ensureRole roleMetadata
  reject (key = []) (rev .invalidMetadataKey [])
  paid (← tok.setExtraMetadata key value)
  paid (← addLog tok.store [Topic.extraMetadataUpdated.hash]
    (encodeTuple [abiString key, abiString value]))
  return []

def mintEach : List (B256 × B256) → Routine Unit
  | [] => pure ()
  | (r, a) :: rest => do
    let exhausted ← isOutOfGas
    reject exhausted .outOfGas
    let dst ← orRevert (addressFromWord r)
    tok.mintCore env dst a
    mintEach rest

def batchMint (args : Bytes) : Routine Bytes := do
  let recipients ← readWordArray args 0
  let amounts ← readWordArray args 1
  reject tok.ctx.readOnly .writeProtection
  let isPaused ← tok.isPaused pauseMint
  reject isPaused (rev .contractPaused [wU8 pauseMint])
  tok.ensureRole roleMint
  reject (recipients.length ≠ amounts.length)
    (rev .lengthMismatch [BitVec.ofNat 256 recipients.length, BitVec.ofNat 256 amounts.length])
  reject (recipients = []) (rev .emptyBatch [])
  tok.mintEach env (recipients.zip amounts)
  return []

/-! ### Announcements -/

/-- Internal calls, one after the other; a failing one fails them all. -/
def runCalls (onError : ℕ → Bytes → Cas20Err → Cas20Err) (dispatch : Bytes → Routine Bytes) :
    ℕ → List Bytes → Routine Unit
  | _, [] => pure ()
  | i, call :: rest => do
    paid (← chargeInternalDispatch call)
    reject (call.length < 4) (revBytes .internalCallMalformed call)
    let _ ← mapError (onError i call) (dispatch call)
    runCalls onError dispatch (i + 1) rest

/-- The calls of a bundle. -/
def runBundle (dispatch : Bytes → Routine Bytes) : List Bytes → Routine Unit :=
  runCalls (fun _ call _ => revBytes .internalCallFailed call) dispatch 0

/-- The token as the calls of a bundle see it. -/
def announced : Token := { tok with inAnnounce := true }

def announce (dispatch : Token → Bytes → Routine Bytes) (args : Bytes) : Routine Bytes := do
  let calls ← readBytesArray args 0
  let id ← readStringArg args 1
  let description ← readStringArg args 2
  let uri ← readStringArg args 3
  reject tok.ctx.readOnly .writeProtection
  reject tok.inAnnounce (rev .announcementInProgress [])
  tok.ensureRole roleOperator
  match ← tok.announcementUsed id with
  | none => fail .outOfGas
  | some used =>
    reject used (revBytes .announcementIdAlreadyUsed id)
    paid (← tok.markAnnouncement id)
    paid (← addLog tok.store [Topic.announcement.hash, addrKey tok.ctx.caller]
      (encodeTuple [abiString id, abiString description, abiString uri]))
    runBundle (dispatch tok.announced) calls
    paid (← addLog tok.store [Topic.endAnnouncement.hash] (encodeTuple [abiString id]))
    return []

/-! ### Dispatch -/

def supportsInterface (id : B256) : Except Cas20Err Bytes :=
  if id.toNat % 2 ^ 224 ≠ 0 then .error revert
  else .ok (encBool (interfaceIds.contains (id.toNat / 2 ^ 224)))

def dispatchAsset (announce : Bytes → Routine Bytes) (args : Bytes) :
    Selector → Option (Routine Bytes)
  | .decimals => some do
    return encU256 (BitVec.ofNat 256 (← tok.assetDecimals))
  | .multiplier | .uiMultiplier => some do
    let now ← blockTime
    return encU256 (← tok.effectiveMultiplier now)
  | .wadPrecision => some (return encU256 wad)
  | .maxUiMultiplier => some (return encU256 u128Mask)
  | .operatorRole => some (return encWord roleOperator)
  | .newUiMultiplier => some do
    let now ← blockTime
    let (mul, when') ← tok.pending
    if when' ≤ now then return encU256 (← tok.effectiveMultiplier now)
    else return encU256 mul
  | .effectiveAt => some do
    let (_, when') ← tok.pending
    return encU256 (BitVec.ofNat 256 when')
  | .totalSupplyUi => some do
    let now ← blockTime
    let supply ← totalSupply tok.store
    let mul ← tok.effectiveMultiplier now
    return encU256 (← applyMultiplier supply mul)
  | .supportsInterface => some do
    let id ← readWord args 0
    supportsInterface id
  | .cancelUiMultiplier => some tok.cancelUiMultiplier
  | .updateUiMultiplier => some do
    let mul ← readU256 args 0
    let effectiveAt ← readU256 args 1
    tok.updateUiMultiplier mul effectiveAt
  | .scaledBalanceOf | .balanceOfUi => some do
    let now ← blockTime
    let a ← readAddress args 0
    let bal ← balanceOf tok.store a
    let mul ← tok.effectiveMultiplier now
    return encU256 (← applyMultiplier bal mul)
  | .toScaledBalance | .toUiAmount => some do
    let now ← blockTime
    let raw ← readU256 args 0
    let mul ← tok.effectiveMultiplier now
    return encU256 (← applyMultiplier raw mul)
  | .toRawBalance | .fromUiAmount => some do
    let now ← blockTime
    let scaled ← readU256 args 0
    let mul ← tok.effectiveMultiplier now
    return encU256 (← removeMultiplier scaled mul)
  | .updateMultiplier => some do
    let m ← readU256 args 0
    tok.updateMultiplier m
  | .batchMint => some (tok.batchMint env args)
  | .isAnnouncementIdUsed => some do
    let id ← readStringArg args 0
    match ← tok.announcementUsed id with
    | some used => return encBool used
    | none => fail .outOfGas
  | .announce => some (announce args)
  | .extraMetadata => some do
    let key ← readStringArg args 0
    match ← tok.extraMetadata key with
    | some v => return encString v
    | none => fail .outOfGas
  | .updateExtraMetadata => some do
    let key ← readStringArg args 0
    let value ← readStringArg args 1
    tok.updateExtraMetadata key value
  | _ => none

/-- The asset's own table first, then the shared ones. -/
def assetDispatchWith (announce : Bytes → Routine Bytes) (input : Bytes) : Routine Bytes := do
  let sel ← selectorOf input
  (tok.dispatchAsset env announce (input.drop 4) sel).getD (tok.dispatch env sel (input.drop 4))

/-- The dispatcher of the calls in a bundle, where an announcement reverts. -/
def bundleDispatch (tok : Token) (input : Bytes) : Routine Bytes :=
  tok.assetDispatchWith env (tok.announce fun _ _ => fail revert) input

def assetDispatch (tok : Token) (input : Bytes) : Routine Bytes :=
  tok.assetDispatchWith env (tok.announce (bundleDispatch env)) input

lemma announce_of_inAnnounce {tok : Token} (h : tok.inAnnounce)
    (d e : Token → Bytes → Routine Bytes) : tok.announce d = tok.announce e := by
  funext args
  simp [announce, h, reject]

/-- The equation of the source: an announcement dispatches its calls by the dispatcher itself. -/
theorem assetDispatch_eq (tok : Token) (input : Bytes) : assetDispatch env tok input =
    tok.assetDispatchWith env (tok.announce (assetDispatch env)) input := by
  have hinner : ∀ c, bundleDispatch env tok.announced c = assetDispatch env tok.announced c := by
    intro c
    rw [bundleDispatch, assetDispatch, announce_of_inAnnounce rfl]
  have hannounce : tok.announce (bundleDispatch env) = tok.announce (assetDispatch env) := by
    funext args
    simp only [announce, funext hinner]
  rw [assetDispatch, hannounce]

end Token

end RethBsc.Cas20
