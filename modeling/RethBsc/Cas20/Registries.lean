import RethBsc.Cas20.Store

/-!
The two registries that tokens consult: the activation registry, a switch per feature, and the
policy registry, the allow and block lists that tokens refer to by number.

The high byte of a policy id is its type and the rest a counter. A composite policy asks its
children; in the source `is_authorized` calls itself without a bound, here no deeper than
`Env.depth`, and a check that is cut off does not answer.
-/

namespace RethBsc.Cas20

open Prog (fail)

def activationRegistryAddress : Address :=
  Fin.ofNat (2 ^ 160) 0x7020000000000000000000000000000000000001

def policyRegistryAddress : Address :=
  Fin.ofNat (2 ^ 160) 0x7020000000000000000000000000000000000002

def govHubAddress : Address := Fin.ofNat (2 ^ 160) 0x1007

/-! ### The activation registry -/

def slotFeatures : ℕ := 0
def slotAdmin : ℕ := 1

def actSlot (offset : ℕ) : Slot := .field .activation offset

/-- The only key the registry takes, `b"admin"`. -/
def paramAdmin : Bytes := [0x61, 0x64, 0x6d, 0x69, 0x6e]

def isActivated (feature : B256) : Routine Bool := do
  let slot ← mapSlot (actSlot slotFeatures) feature
  return (← getWord activationRegistryAddress slot) != 0

def setActivated (feature : B256) (on : Bool) : Routine Unit := do
  let slot ← mapSlot (actSlot slotFeatures) feature
  putWord activationRegistryAddress slot (if on then 1 else 0)

def activationAdmin : Routine Address := do
  return Address.fromWord (← getWord activationRegistryAddress (actSlot slotAdmin))

def setActivationAdmin (a : Address) : Routine Unit :=
  putWord activationRegistryAddress (actSlot slotAdmin) (addrKey a)

variable (ctx : Ctx)

def requireActivationAdmin : Routine Unit := do
  let a ← activationAdmin
  reject (a = 0 ∨ ctx.caller ≠ a) (rev .unauthorizedAddr [addrKey ctx.caller])

def requireGov : Routine Unit :=
  reject (ctx.caller ≠ govHubAddress) (rev .unauthorizedAddr [addrKey ctx.caller])

def updateParam (args : Bytes) : Routine Bytes := do
  reject ctx.readOnly .writeProtection
  let key ← readStringArg args 0
  let value ← readBytesArg args 1
  requireGov ctx
  reject (key ≠ paramAdmin) (revStringBytes .unknownParam key value)
  reject (value.length ≠ 20) (revStringBytes .invalidValue key value)
  let next := Address.fromSlice value
  reject (next = 0) (revStringBytes .invalidValue key value)
  let previous ← activationAdmin
  setActivationAdmin next
  paid (← addLog ctx.selfAddr
    [Topic.adminChanged.hash, addrKey previous, addrKey next, addrKey ctx.caller] [])
  paid (← addLog ctx.selfAddr [Topic.paramChange.hash]
    (encodeTuple [abiString key, abiBytes value]))
  return []

def setFeature (args : Bytes) (on : Bool) : Routine Bytes := do
  reject ctx.readOnly .writeProtection
  let feature ← readWord args 0
  requireActivationAdmin ctx
  let active ← isActivated feature
  reject (on ∧ active) (rev .alreadyActivated [feature])
  reject (¬ on ∧ ¬ active) (rev .featureNotActivated [feature])
  setActivated feature on
  let topic := if on then Topic.featureActivated else .featureDeactivated
  paid (← addLog ctx.selfAddr [topic.hash, feature, addrKey ctx.caller] [])
  return []

def ensureFeatureActivated (feature : B256) : Routine Unit := do
  let active ← isActivated feature
  reject (¬ active) (rev .featureNotActivated [feature])

def activationDispatch (args : Bytes) : Selector → Routine Bytes
  | .isActivated => do
    let feature ← readWord args 0
    return encBool (← isActivated feature)
  | .checkActivated => do
    let feature ← readWord args 0
    ensureFeatureActivated feature
    return []
  | .activationAdmin => do
    return encWord (addrKey (← activationAdmin))
  | .updateParam => updateParam ctx args
  | .activate => setFeature ctx args true
  | .deactivate => setFeature ctx args false
  | _ => fail revert

/-- The first four bytes of a call decide; a call without them, or with ones that are no
selector, reverts. -/
def selectorOf (input : Bytes) : Except Cas20Err Selector :=
  if input.length < 4 then .error revert else orRevert (Selector.ofInput input)

def runActivation (input : Bytes) : Routine Bytes := do
  let sel ← selectorOf input
  activationDispatch ctx (input.drop 4) sel

/-! ### Policy ids -/

def typeBlocklist : ℕ := 0
def typeAllowlist : ℕ := 1
def typeUnion : ℕ := 2
/-- Authorized by every child. -/
def typeIntersect : ℕ := 3
def batchMax : ℕ := 64
def compositeMinChildren : ℕ := 2
def compositeMaxChildren : ℕ := 4
/-- Counters 0 and 1 belong to the two sentinels. -/
def firstId : ℕ := 2
/-- A block list without members. -/
def alwaysAllow : U64 := 0
/-- An allow list without members. -/
def alwaysBlock : U64 := 0x0100000000000001
def counterMax : ℕ := 2 ^ 56 - 1

def slotPolicies : ℕ := 0
def slotMembers : ℕ := 1
def slotPendingAdmins : ℕ := 2
def slotCounter : ℕ := 3
def slotChildren : ℕ := 4

/-- Bit 255 of a policy word; the low 160 bits are the admin. -/
def existsBit : U256 := (1 : U256) <<< 255

def packPolicy (admin : Address) : U256 := addrKey admin ||| existsBit

def wordExists (w : U256) : Bool := w.getLsbD 255

def wordAdmin (w : U256) : Address := Address.fromWord (w &&& BitVec.ofNat 256 (2 ^ 160 - 1))

variable (id : U64)

def idType : ℕ := id.toNat / 2 ^ 56

def idWellFormed : Bool := idType id ≤ typeIntersect

def isSentinelPolicy : Bool := id = alwaysAllow || id = alwaysBlock

def isComposite : Bool := idType id = typeUnion || idType id = typeIntersect

/-- The id of the given type with the given counter. -/
def policyIdOf (ptype c : ℕ) : U64 := BitVec.ofNat 64 (ptype * 2 ^ 56 + c)

def polSlot (offset : ℕ) : Slot := .field .policy offset

def idKey : B256 := wU64 id

/-! ### The registry's storage -/

def counter : Routine ℕ := do
  return (← getWord policyRegistryAddress (polSlot slotCounter)).toNat % 2 ^ 64

def setCounter (v : ℕ) : Routine Unit :=
  putWord policyRegistryAddress (polSlot slotCounter) (BitVec.ofNat 256 v)

def policyWord : Routine U256 := do
  let slot ← mapSlot (polSlot slotPolicies) (idKey id)
  getWord policyRegistryAddress slot

def setPolicyAdmin (a : Address) : Routine Unit := do
  let slot ← mapSlot (polSlot slotPolicies) (idKey id)
  putWord policyRegistryAddress slot (packPolicy a)

def policyAdmin : Routine Address := do
  return wordAdmin (← policyWord id)

def pendingAdmin : Routine Address := do
  let slot ← mapSlot (polSlot slotPendingAdmins) (idKey id)
  return Address.fromWord (← getWord policyRegistryAddress slot)

def setPendingAdmin (a : Address) : Routine Unit := do
  let slot ← mapSlot (polSlot slotPendingAdmins) (idKey id)
  putWord policyRegistryAddress slot (addrKey a)

def memberSlot (account : Address) : Routine Slot := do
  let inner ← mapSlot (polSlot slotMembers) (idKey id)
  mapSlot inner (addrKey account)

def member (account : Address) : Routine Bool := do
  let slot ← memberSlot id account
  return (← getWord policyRegistryAddress slot) != 0

def setMember (account : Address) (inSet : Bool) : Routine Unit := do
  let slot ← memberSlot id account
  putWord policyRegistryAddress slot (if inSet then 1 else 0)

def childrenSlot : Routine Slot := mapSlot (polSlot slotChildren) (idKey id)

/-- Lane `i` of a packed list of ids, four to a word. -/
def childLane (w : U256) (i : ℕ) : U64 := (w >>> (i % 4 * 64)).setWidth 64

/-- The ids at the given places; nothing once the frame has run out of gas. -/
def readChildren (base : Slot) : List ℕ → Routine (Option (List U64))
  | [] => return some []
  | i :: rest => do
    if ← isOutOfGas then return none
    else
      let w ← getWord policyRegistryAddress (base.add (i / 4))
      match ← readChildren base rest with
      | none => return none
      | some out => return some (childLane w i :: out)

def children : Routine (List U64) := do
  let slot ← childrenSlot id
  let n := (← getWord policyRegistryAddress slot).toNat % 2 ^ 64
  if n = 0 ∨ n > compositeMaxChildren then return []
  else
    let base ← stringDataRoot slot
    return (← readChildren base (List.range n)).getD []

/-- Word `w` of the packed list. -/
def packChildren (kids : List U64) (w : ℕ) : U256 :=
  (List.range 4).foldl (fun packed lane =>
    if w * 4 + lane < kids.length then
      packed ||| (wU64 (kids.getD (w * 4 + lane) 0) <<< (lane * 64))
    else packed) 0

/-- Every word that the largest list needs is rebuilt; an empty one is written only over
something. -/
def writeChildren (base : Slot) (kids : List U64) : List ℕ → Routine Unit
  | [] => pure ()
  | w :: rest => do
    if packChildren kids w = 0 ∧ w * 4 ≥ kids.length then
      let old ← getWord policyRegistryAddress (base.add w)
      whenever (old ≠ 0) (putWord policyRegistryAddress (base.add w) (packChildren kids w))
      writeChildren base kids rest
    else
      putWord policyRegistryAddress (base.add w) (packChildren kids w)
      writeChildren base kids rest

def setChildren (kids : List U64) : Routine Unit := do
  let slot ← childrenSlot id
  putWord policyRegistryAddress slot (BitVec.ofNat 256 kids.length)
  let base ← stringDataRoot slot
  writeChildren base kids (List.range ((compositeMaxChildren + 3) / 4))

/-! ### Authorization -/

/-- Some child of the list answers yes; none after the first that does is asked. -/
def anyChild (ask : U64 → Routine Bool) : List U64 → Routine Bool
  | [] => return false
  | child :: rest => do
    if ← ask child then return true
    else anyChild ask rest

/-- No child of the list answers no; none after the first that does is asked. -/
def everyChild (ask : U64 → Routine Bool) : List U64 → Routine Bool
  | [] => return true
  | child :: rest => do
    if ← ask child then everyChild ask rest
    else return false

def isAuthorized (account : Address) : ℕ → U64 → Routine Bool
  | 0, _ => fail .outOfGas
  | depth + 1, id =>
    if ¬ idWellFormed id then return false
    else if id = alwaysAllow then return true
    else if id = alwaysBlock then return false
    else if idType id = typeUnion then do
      anyChild (isAuthorized account depth) (← children id)
    else if idType id = typeIntersect then do
      everyChild (isAuthorized account depth) (← children id)
    else do
      let isMember ← member id account
      return if idType id = typeAllowlist then isMember else !isMember

def policyExists : Routine Bool :=
  if ¬ idWellFormed id then return false
  else if isSentinelPolicy id then return true
  else do
    return wordExists (← policyWord id)

def policyAdminOf : Routine Address :=
  if ¬ idWellFormed id then return 0
  else do
    let w ← policyWord id
    return if wordExists w then wordAdmin w else 0

def pendingPolicyAdminOf : Routine Address :=
  if ¬ idWellFormed id ∨ isSentinelPolicy id then return 0
  else pendingAdmin id

/-! ### Registry calls -/

/-- The counter, once the two sentinels have been entered. -/
def ensureInitialized : Routine ℕ := do
  let c ← counter
  if c ≥ firstId then return c
  else
    setPolicyAdmin alwaysAllow 0
    setPolicyAdmin alwaysBlock 0
    setCounter firstId
    return firstId

def requirePolicyExists : Routine Unit := do
  let found ← policyExists id
  reject (¬ found) (rev .policyNotFound [])

/-- The caller is the admin of the policy; a policy without an admin has none. -/
def requirePolicyAdmin (id : U64) : Routine Unit := do
  requirePolicyExists id
  let admin ← policyAdmin id
  reject (admin = 0 ∨ admin ≠ ctx.caller) (rev .unauthorized [])

def emitPolicyAdminUpdated (id : U64) (previous next : Address) : Routine Bool :=
  addLog ctx.selfAddr
    [Topic.policyAdminUpdated.hash, idKey id, addrKey previous, addrKey next] []

def emitMembersUpdated (ptype : ℕ) (id : U64) (included : Bool)
    (accounts : List B256) : Routine Bool :=
  let topic := if ptype = typeAllowlist then Topic.allowlistUpdated else .blocklistUpdated
  addLog ctx.selfAddr [topic.hash, idKey id, addrKey ctx.caller]
    (encodeTuple [.word (wU8 (if included then 1 else 0)), abiWordArray accounts])

def emitCompositeUpdated (id : U64) (admin : Address) (kids : List U64) : Routine Bool :=
  addLog ctx.selfAddr [Topic.compositePolicyUpdated.hash, idKey id, addrKey admin]
    (encodeTuple [abiWordArray (kids.map wU64)])

def emitPolicyCreated (id : U64) (ptype : ℕ) : Routine Bool :=
  addLog ctx.selfAddr [Topic.policyCreated.hash, idKey id, addrKey ctx.caller]
    (B256.asSlice (wU8 ptype))

def requireChildrenExist : List U64 → Routine Unit
  | [] => pure ()
  | id :: rest => do
    requirePolicyExists id
    requireChildrenExist rest

/-- No child is a sentinel or itself composite. -/
def requireChildrenEligible : List U64 → Routine Unit
  | [] => pure ()
  | id :: rest => do
    reject (isSentinelPolicy id ∨ isComposite id) (rev .invalidChildPolicy [wU64 id])
    requireChildrenEligible rest

/-- The count, then existence over the whole list, then eligibility. -/
def validateChildren (kids : List B256) : Routine (List U64) := do
  reject (kids.length < compositeMinChildren ∨ kids.length > compositeMaxChildren)
    (rev .childPoliciesOutsideOfRange [])
  let out ← kids.mapM (m := Except Cas20Err) fun w => orRevert (u64FromWord w)
  requireChildrenExist out
  requireChildrenEligible out
  return out

/-- The next id of a type: the counter is taken and moved on. -/
def nextPolicyId (ptype : ℕ) : Routine U64 := do
  let c ← ensureInitialized
  reject (c ≥ counterMax) (revPanic 0x11)
  setCounter (c + 1)
  return policyIdOf ptype c

def createCompositePolicy (args : Bytes) : Routine Bytes := do
  let admin ← readAddress args 0
  let ptypeWord ← readWord args 1
  reject (¬ isEnumWord ptypeWord typeIntersect) revert
  let ptype := ptypeWord.toNat
  reject (admin = 0) (rev .zeroAddress [])
  reject (¬ isComposite (policyIdOf ptype 0)) (rev .incompatiblePolicyType [])
  let rawKids ← readWordArray args 2
  let kids ← validateChildren rawKids
  let id ← nextPolicyId ptype
  setPolicyAdmin id admin
  setChildren id kids
  paid (← emitPolicyCreated ctx id ptype)
  paid (← emitPolicyAdminUpdated ctx id 0 admin)
  paid (← emitCompositeUpdated ctx id admin kids)
  return B256.asSlice (wU64 id)

def updateComposite (args : Bytes) : Routine Bytes := do
  let id ← readU64 args 0
  requirePolicyExists id
  reject (¬ isComposite id) (rev .incompatiblePolicyType [])
  let admin ← policyAdmin id
  reject (admin = 0 ∨ admin ≠ ctx.caller) (rev .unauthorized [])
  let rawKids ← readWordArray args 1
  let kids ← validateChildren rawKids
  setChildren id kids
  paid (← emitCompositeUpdated ctx id ctx.caller kids)
  return []

def setMembers (inSet : Bool) : List B256 → Routine Unit
  | [] => pure ()
  | a :: rest => do
    let addr ← orRevert (addressFromWord a)
    setMember id addr inSet
    setMembers inSet rest

/-- The accounts a policy is created with, if the call has any. -/
def readAccounts (args : Bytes) (withAccounts : Bool) : Routine (List B256) :=
  if withAccounts then do
    let accounts ← readWordArray args 2
    reject (accounts.length > batchMax) (rev .batchSizeTooLarge [BitVec.ofNat 256 batchMax])
    return accounts
  else return []

def createPolicy (args : Bytes) (withAccounts : Bool) : Routine Bytes := do
  let admin ← readAddress args 0
  let ptypeWord ← readWord args 1
  reject (¬ isEnumWord ptypeWord typeIntersect) revert
  let ptype := ptypeWord.toNat
  reject (admin = 0) (rev .zeroAddress [])
  reject (isComposite (policyIdOf ptype 0)) (rev .incompatiblePolicyType [])
  let accounts ← readAccounts args withAccounts
  let id ← nextPolicyId ptype
  setPolicyAdmin id admin
  paid (← emitPolicyCreated ctx id ptype)
  paid (← emitPolicyAdminUpdated ctx id 0 admin)
  whenever withAccounts do
    setMembers id true accounts
    paid (← emitMembersUpdated ctx ptype id true accounts)
  return encU256 (wU64 id)

def updateMembers (args : Bytes) (wantType : ℕ) : Routine Bytes := do
  let pid ← readU64 args 0
  let inWord ← readWord args 1
  reject (¬ isEnumWord inWord 1) revert
  let accounts ← readWordArray args 2
  requirePolicyExists pid
  reject (idType pid ≠ wantType) (rev .incompatiblePolicyType [])
  requirePolicyAdmin ctx pid
  reject (accounts.length > batchMax) (rev .batchSizeTooLarge [BitVec.ofNat 256 batchMax])
  let inSet := inWord.toNat == 1
  setMembers pid inSet accounts
  paid (← emitMembersUpdated ctx wantType pid inSet accounts)
  return []

def stageUpdateAdmin (args : Bytes) : Routine Bytes := do
  let id ← readU64 args 0
  let newAdmin ← readAddress args 1
  requirePolicyAdmin ctx id
  setPendingAdmin id newAdmin
  paid (← addLog ctx.selfAddr
    [Topic.policyAdminStaged.hash, idKey id, addrKey ctx.caller, addrKey newAdmin] [])
  return []

def finalizeUpdateAdmin (args : Bytes) : Routine Bytes := do
  let pid ← readU64 args 0
  requirePolicyExists pid
  let pending ← pendingAdmin pid
  reject (pending = 0) (rev .noPendingAdmin [])
  reject (pending ≠ ctx.caller) (rev .unauthorized [])
  let previous ← policyAdmin pid
  setPolicyAdmin pid ctx.caller
  setPendingAdmin pid 0
  paid (← emitPolicyAdminUpdated ctx pid previous ctx.caller)
  return []

/-- The policy stays, without an admin. -/
def renounceAdmin (args : Bytes) : Routine Bytes := do
  let pid ← readU64 args 0
  requirePolicyAdmin ctx pid
  setPolicyAdmin pid 0
  setPendingAdmin pid 0
  paid (← emitPolicyAdminUpdated ctx pid ctx.caller 0)
  return []

/-- What every write passes first: the frame may write and the registry is switched on. -/
def policyWrite (body : Routine Bytes) : Routine Bytes := do
  reject ctx.readOnly .writeProtection
  ensureFeatureActivated featurePolicyRegistry
  body

def policyDispatch (env : Env) (ctx : Ctx) (args : Bytes) : Selector → Routine Bytes
  | .isAuthorized => do
    let id ← readU64 args 0
    let acct ← readAddress args 1
    return encBool (← isAuthorized acct env.depth id)
  | .policyExists => do
    let id ← readU64 args 0
    return encBool (← policyExists id)
  | .policyAdmin => do
    let id ← readU64 args 0
    return encWord (addrKey (← policyAdminOf id))
  | .pendingPolicyAdmin => do
    let id ← readU64 args 0
    return encWord (addrKey (← pendingPolicyAdminOf id))
  | .minCompositeChildren => return encU256 (BitVec.ofNat 256 compositeMinChildren)
  | .maxCompositeChildren => return encU256 (BitVec.ofNat 256 compositeMaxChildren)
  | .compositeChildIds => do
    let id ← readU64 args 0
    let kids ← children id
    return encodeTuple [abiWordArray (kids.map wU64)]
  | .createPolicy => policyWrite ctx (createPolicy ctx args false)
  | .createPolicyWithAccounts => policyWrite ctx (createPolicy ctx args true)
  | .createComposite => policyWrite ctx (createCompositePolicy ctx args)
  | .updateComposite => policyWrite ctx (updateComposite ctx args)
  | .updateAllowlist => policyWrite ctx (updateMembers ctx args typeAllowlist)
  | .updateBlocklist => policyWrite ctx (updateMembers ctx args typeBlocklist)
  | .stageUpdateAdmin => policyWrite ctx (stageUpdateAdmin ctx args)
  | .finalizeUpdateAdmin => policyWrite ctx (finalizeUpdateAdmin ctx args)
  | .renounceAdmin => policyWrite ctx (renounceAdmin ctx args)
  | _ => fail revert

def runPolicy (env : Env) (ctx : Ctx) (input : Bytes) : Routine Bytes := do
  let sel ← selectorOf input
  policyDispatch env ctx (input.drop 4) sel

end RethBsc.Cas20
