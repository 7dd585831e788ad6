import RethBsc.Cas20.Factory

/-!
What a handler can touch.

`Op.Within readOnly store F` allows the operations of a handler that writes only the fields `F` of
one account, and nothing at all in a read-only frame. Every entry point of a token stays within
the token's own account, every entry point of a registry within the registry's; the factory alone
writes code.
-/

namespace RethBsc.Cas20

open Prog Slot Token

/-- Fields of an account: a namespace and a slot of it. -/
abbrev Fields : Type := Namespace × ℕ → Prop

/-- The slot belongs to one of the fields `F`, or was never paid for. -/
def Slot.In (F : Fields) (s : Slot) : Prop := ∀ f, s.layout = some f → F f

/-- A read, a charge, or a write that is allowed: no write of code, in a read-only frame no write
or log at all, and otherwise only to the fields `F` of one account. What goes with the write of a
field needs the field. -/
def Op.Within (readOnly : Bool) (store : Address) (F : Fields) : Op → Prop
  | .setWord at' slot _ => readOnly = false ∧ at' = store ∧ slot.In F
  | .addLog _ => readOnly = false
  | .codeWrite _ _ => False
  | .setCode _ _ => False
  | .addBalance _ _ => F (.core, slotBalances)
  | .renounceAdmin => F (.core, slotAdminCount)
  | .spawnBootstrap => F (.core, slotAdminCount)
  | _ => True

section Slots

variable {F : Fields}

@[simp] lemma Slot.in_zero : Slot.In F .zero := by
  simp [Slot.In, layout]

variable {o : ℕ} {base : Slot}

@[simp] lemma Slot.in_field {ns : Namespace} : Slot.In F (.field ns o) ↔ F (ns, o) := by
  simp [Slot.In, layout]

@[simp] lemma Slot.in_hash {key : Bytes} : Slot.In F (.hash key base o) ↔ base.In F := by
  simp [Slot.In, layout]

@[simp] lemma Slot.in_mappingSlot {key : B256} : (mappingSlot base key).In F ↔ base.In F := in_hash

@[simp] lemma Slot.in_slotAt : (slotAt o).In F ↔ F (.core, o) := in_field

lemma Slot.in_of_hash {s : Slot} {key : Bytes} (hF : base.In F)
    (hs : s = .hash key base o ∨ s = .zero) : s.In F := by
  rcases hs with rfl | rfl
  · simpa using hF
  · simp

lemma Op.Within.mono {G : Fields} {ro : Bool} {st : Address} {o : Op}
    (h : o.Within ro st F) (hFG : ∀ f, F f → G f) : o.Within ro st G := by
  cases o with
  | setWord a s v => exact ⟨h.1, h.2.1, fun f hf => hFG f (h.2.2 f hf)⟩
  | addBalance | renounceAdmin | spawnBootstrap => exact hFG _ h
  | _ => exact h

end Slots

section Control

variable {P : Op → Prop}

@[simp] lemma uses_reject (c : Prop) [Decidable c] (e : Cas20Err) : Uses P (reject c e) := by
  by_cases hc : c <;> simp [reject, hc]

@[simp] lemma canReturn_reject {c : Prop} [Decidable c] {e : Cas20Err} {u : Unit} :
    CanReturn (reject c e) u ↔ ¬ c := by
  by_cases hc : c <;> simp [reject, hc]

@[simp] lemma uses_paid (done : Bool) : Uses P (paid done) := uses_reject _ _

@[simp] lemma uses_whenever {c : Prop} [Decidable c] {p : Routine Unit} :
    Uses P (whenever c p) ↔ (c → Uses P p) := by
  by_cases hc : c <;> simp [whenever, hc]

end Control

/-! ### Accessors -/

section Accessors

variable {ro : Bool} {st : Address} {F : Fields}

/-- The routine writes only the fields `F` of the account, and nothing in a read-only frame. -/
abbrev Stays {α : Type} (ro : Bool) (st : Address) (F : Fields) (p : Routine α) : Prop :=
  Uses (Op.Within ro st F) p

/-- A write-protected frame stops at the guard. -/
@[simp high] lemma uses_guard {α : Type} {e : Cas20Err} {f : Unit → Routine α} :
    Stays ro st F (reject ro e >>= f) ↔ (ro = false → Stays false st F (f ())) := by
  cases ro with
  | false => simpa using ⟨fun h => h (), fun h _ => h⟩
  | true => simp

@[simp] lemma uses_chargeGas (cost : ℕ) : Stays ro st F (chargeGas cost) := by
  simp [chargeGas, Op.Within]

@[simp] lemma uses_chargeKeccak (size : ℕ) : Stays ro st F (chargeKeccak size) := uses_chargeGas _

@[simp] lemma uses_chargeInternalDispatch (call : Bytes) :
    Stays ro st F (chargeInternalDispatch call) :=
  uses_chargeGas _

@[simp] lemma uses_chargeCalldata (input : Bytes) : Stays ro st F (chargeCalldata input) := by
  simp [chargeCalldata, uses_ite]

@[simp] lemma uses_addLog {emitter : Address} {topics : List B256} {data : Bytes} :
    Stays ro st F (addLog emitter topics data) ↔ ro = false := by
  simp [addLog, Op.Within]

@[simp] lemma uses_addBalance {balance amount : U256} :
    Stays ro st F (addBalance balance amount) ↔ F (.core, slotBalances) := by
  simp [addBalance, Op.Within]

@[simp] lemma uses_isOutOfGas : Stays ro st F isOutOfGas := by
  simp [isOutOfGas, Op.Within]

@[simp] lemma uses_blockTime : Stays ro st F blockTime := by
  simp [blockTime, Op.Within]

@[simp] lemma uses_mapSlot (base : Slot) (key : B256) : Stays ro st F (mapSlot base key) := by
  simp [mapSlot, uses_ite]

variable {base s slot : Slot} {a : Address} {v : U256}

/-- A slot whose hash is paid for first is the hash, or the zero slot. -/
lemma canReturn_charged {charge : Routine Bool} {x : Slot}
    (h : CanReturn (do if ← charge then return x else return .zero) s) : s = x ∨ s = .zero := by
  simp only [canReturn_bind, canReturn_ite, canReturn_pure] at h
  obtain ⟨b, -, ⟨-, h⟩ | ⟨-, h⟩⟩ := h
  exacts [.inl h, .inr h]

@[simp] lemma uses_strMapSlot (base : Slot) (key : Bytes) :
    Stays ro st F (strMapSlot base key) := by
  simp [strMapSlot, uses_ite]

@[simp] lemma uses_stringDataRoot (slot : Slot) : Stays ro st F (stringDataRoot slot) := by
  simp [stringDataRoot, uses_ite]

lemma in_of_canReturn_mapSlot {key : B256} (h : CanReturn (mapSlot base key) s) (hF : base.In F) :
    s.In F :=
  in_of_hash hF (canReturn_charged h)

lemma in_of_canReturn_strMapSlot {key : Bytes} (h : CanReturn (strMapSlot base key) s)
    (hF : base.In F) : s.In F :=
  in_of_hash hF (canReturn_charged h)

@[simp] lemma uses_getWordChecked (a : Address) (slot : Slot) :
    Stays ro st F (getWordChecked a slot) := by
  simp [getWordChecked, Op.Within]

@[simp] lemma uses_getWord (a : Address) (slot : Slot) : Stays ro st F (getWord a slot) := by
  simp [getWord]

@[simp] lemma uses_setWord :
    Stays ro st F (setWord a slot v) ↔ ro = false ∧ a = st ∧ slot.In F := by
  simp [setWord, Op.Within]

@[simp] lemma uses_putWord :
    Stays ro st F (putWord a slot v) ↔ ro = false ∧ a = st ∧ slot.In F := by
  simp [putWord]

@[simp] lemma uses_getU256 (a : Address) (o : ℕ) : Stays ro st F (getU256 a o) := uses_getWord _ _

@[simp] lemma uses_setU256 {o : ℕ} :
    Stays ro st F (setU256 a o v) ↔ ro = false ∧ a = st ∧ F (.core, o) := by
  simp [setU256]

@[simp] lemma uses_allowanceSlot (owner spender : Address) :
    Stays ro st F (allowanceSlot owner spender) := by
  simp [allowanceSlot]

lemma in_of_canReturn_mapSlot₂ {k l : B256}
    (h : CanReturn (mapSlot base k >>= fun inner => mapSlot inner l) s) (hF : base.In F) :
    s.In F := by
  obtain ⟨inner, hinner, h⟩ := canReturn_bind.mp h
  exact in_of_canReturn_mapSlot h (in_of_canReturn_mapSlot hinner hF)

@[simp] lemma uses_balanceOf (a b : Address) : Stays ro st F (balanceOf a b) := by
  simp [balanceOf, balanceSlot]

@[simp] lemma uses_allowance (a b c : Address) : Stays ro st F (allowance a b c) := by
  simp [allowance]

lemma uses_setAllowance (hro : ro = false) (hF : F (.core, slotAllowances)) (b c : Address)
    (v : U256) : Stays ro st F (setAllowance st b c v) := by
  simp only [setAllowance, uses_bind, uses_allowanceSlot, uses_putWord, true_and]
  exact fun s h => ⟨hro, in_of_canReturn_mapSlot₂ h (by simpa using hF)⟩

@[simp] lemma uses_nonce (a b : Address) : Stays ro st F (nonce a b) := by
  simp [nonce]

lemma uses_setNonce (hro : ro = false) (hF : F (.core, slotNonces)) (b : Address) (v : U256) :
    Stays ro st F (setNonce st b v) := by
  simp only [setNonce, uses_bind, uses_mapSlot, uses_putWord, true_and]
  exact fun s h => ⟨hro, in_of_canReturn_mapSlot h (by simpa using hF)⟩

@[simp] lemma uses_roleSlot (role : B256) (a : Address) : Stays ro st F (roleSlot role a) := by
  simp [roleSlot]

@[simp] lemma uses_hasRole (s : Address) (role : B256) (a : Address) :
    Stays ro st F (hasRole s role a) := by
  simp [hasRole]

lemma uses_setRole (hro : ro = false) (hF : F (.core, slotRoles)) (role : B256) (a : Address)
    (on : Bool) : Stays ro st F (setRole st role a on) := by
  simp only [setRole, uses_bind, uses_roleSlot, uses_putWord, true_and]
  exact fun s h => ⟨hro, in_of_canReturn_mapSlot₂ h (by simpa using hF)⟩

@[simp] lemma uses_roleAdmin (s : Address) (role : B256) : Stays ro st F (roleAdmin s role) := by
  simp [roleAdmin]

@[simp] lemma uses_getPackedU64 (s : Address) (o off : ℕ) :
    Stays ro st F (getPackedU64 s o off) := by
  simp [getPackedU64]

@[simp] lemma uses_setPackedU64 {s : Address} {o off : ℕ} {v : U64} :
    Stays ro st F (setPackedU64 s o off v) ↔
      ∀ w, CanReturn (getWord s (slotAt o)) w → ro = false ∧ s = st ∧ F (.core, o) := by
  simp [setPackedU64]

@[simp] lemma uses_transferPolicies (s : Address) : Stays ro st F (transferPolicies s) := by
  simp [transferPolicies]

@[simp] lemma uses_seizePolicies (s : Address) : Stays ro st F (seizePolicies s) := by
  simp [seizePolicies]

/-! ### Strings -/

@[simp] lemma uses_readChunks (s : Address) (base : Slot) (i n : ℕ) :
    Stays ro st F (readChunks s base i n) := by
  induction n generalizing i with
  | zero => simp [readChunks]
  | succ n ih =>
    simp only [readChunks, uses_bind, uses_getWordChecked, true_and]
    rintro (_ | chunk) -
    · simp
    · simp only [uses_bind, ih, true_and]
      rintro (_ | rest) - <;> simp

@[simp] lemma uses_getStringAt (s : Address) (slot : Slot) :
    Stays ro st F (getStringAt s slot) := by
  simp only [getStringAt, uses_bind, uses_getWordChecked, true_and]
  rintro (_ | word) -
  · simp
  · dsimp only
    cases longLength word with
    | none => simp
    | some length =>
      simp only [uses_bind, uses_stringDataRoot, uses_readChunks, true_and]
      rintro base - (_ | out) - <;> simp

@[simp] lemma uses_stringChunks (s : Address) (slot : Slot) :
    Stays ro st F (stringChunks s slot) := by
  simp only [stringChunks, uses_bind, uses_getWord, true_and]
  intro w _
  cases longLength w <;> simp

lemma uses_writeChunks (hro : ro = false) (hF : slot.In F)
    (hbase : base = .hash [] slot 0 ∨ base = .zero) (chunks : List (ℕ × U256)) :
    Stays ro st F (writeChunks st base chunks) := by
  subst hro
  have hadd : ∀ i, base.add i = .hash [] slot i ∨ base.add i = .zero := fun i => by
    rcases hbase with rfl | rfl <;> simp [add]
  induction chunks with
  | nil => simp [writeChunks]
  | cons c rest ih => simp [writeChunks, uses_ite, ih, in_of_hash hF (hadd c.1)]

lemma uses_setStringAt (hro : ro = false) (hF : slot.In F) (b : Bytes) :
    Stays ro st F (setStringAt st slot b) := by
  simp only [setStringAt, uses_bind, uses_stringChunks, uses_setWord, uses_ite, uses_pure,
    uses_stringDataRoot, true_and, implies_true, and_true]
  refine fun n _ => ⟨⟨hro, hF⟩, fun done _ _ _ base h => ?_⟩
  exact uses_writeChunks hro hF (canReturn_charged h) _

end Accessors

/-! ### The registries -/

section Registries

variable {ro : Bool} {st : Address} {F : Fields}

@[simp] lemma uses_isActivated (feature : B256) : Stays ro st F (isActivated feature) := by
  simp [isActivated]

@[simp] lemma uses_ensureFeatureActivated (feature : B256) :
    Stays ro st F (ensureFeatureActivated feature) := by
  simp [ensureFeatureActivated]

@[simp] lemma uses_activationAdmin : Stays ro st F activationAdmin := by
  simp [activationAdmin]

@[simp] lemma uses_counter : Stays ro st F counter := by
  simp [counter]

variable (id : U64)

@[simp] lemma uses_policyWord : Stays ro st F (policyWord id) := by
  simp [policyWord]

@[simp] lemma uses_policyAdmin : Stays ro st F (policyAdmin id) := by
  simp [policyAdmin]

@[simp] lemma uses_pendingAdmin : Stays ro st F (pendingAdmin id) := by
  simp [pendingAdmin]

@[simp] lemma uses_memberSlot (a : Address) : Stays ro st F (memberSlot id a) := by
  simp [memberSlot]

@[simp] lemma uses_member (a : Address) : Stays ro st F (member id a) := by
  simp [member]

@[simp] lemma uses_readChildren (base : Slot) (is : List ℕ) :
    Stays ro st F (readChildren base is) := by
  induction is with
  | nil => simp [readChildren]
  | cons i is ih =>
    simp only [readChildren, uses_bind, uses_isOutOfGas, uses_ite, uses_pure, uses_getWord, ih,
      true_and, implies_true]
    rintro _ - - _ - (_ | out) - <;> simp

@[simp] lemma uses_children : Stays ro st F (children id) := by
  simp [children, childrenSlot, uses_ite]

lemma uses_anyChild {P : Op → Prop} {ask : U64 → Routine Bool} (h : ∀ id, Uses P (ask id))
    (ids : List U64) : Uses P (anyChild ask ids) := by
  induction ids with
  | nil => simp [anyChild]
  | cons id ids ih => simp [anyChild, h, ih, uses_ite]

lemma uses_everyChild {P : Op → Prop} {ask : U64 → Routine Bool} (h : ∀ id, Uses P (ask id))
    (ids : List U64) : Uses P (everyChild ask ids) := by
  induction ids with
  | nil => simp [everyChild]
  | cons id ids ih => simp [everyChild, h, ih, uses_ite]

@[simp] lemma uses_isAuthorized (a : Address) (depth : ℕ) (id : U64) :
    Stays ro st F (isAuthorized a depth id) := by
  induction depth generalizing id with
  | zero => simp [isAuthorized]
  | succ depth ih => simp [isAuthorized, uses_ite, uses_anyChild ih, uses_everyChild ih]

@[simp] lemma uses_policyExists : Stays ro st F (policyExists id) := by
  simp [policyExists, uses_ite]

end Registries

/-! ### Any field of one account -/

/-- The routine writes only to the one account. -/
abbrev StaysIn {α : Type} (readOnly : Bool) (store : Address) (p : Routine α) : Prop :=
  Stays readOnly store (fun _ => True) p

@[simp] lemma Slot.in_true (s : Slot) : Slot.In (fun _ => True) s := fun _ _ => trivial

section RegistryCalls

variable {ctx : Ctx}

abbrev RegistryOnly {α : Type} (p : Routine α) : Prop := StaysIn false policyRegistryAddress p

lemma uses_setMembers (id : U64) (inSet : Bool) (accounts : List B256) :
    RegistryOnly (setMembers id inSet accounts) := by
  induction accounts with
  | nil => simp [setMembers]
  | cons a rest ih => simp [setMembers, setMember, ih]

lemma uses_writeChildren (base : Slot) (kids : List U64) (ws : List ℕ) :
    RegistryOnly (writeChildren base kids ws) := by
  induction ws with
  | nil => simp [writeChildren]
  | cons w ws ih => simp [writeChildren, uses_ite, ih]

lemma uses_setChildren (id : U64) (kids : List U64) : RegistryOnly (setChildren id kids) := by
  simp [setChildren, childrenSlot, uses_writeChildren]

lemma uses_requireChildrenExist {ro : Bool} {st : Address} (kids : List U64) :
    StaysIn ro st (requireChildrenExist kids) := by
  induction kids with
  | nil => simp [requireChildrenExist]
  | cons id rest ih => simp [requireChildrenExist, requirePolicyExists, ih]

lemma uses_requireChildrenEligible {P : Op → Prop} (kids : List U64) :
    Uses P (requireChildrenEligible kids) := by
  induction kids with
  | nil => simp [requireChildrenEligible]
  | cons id rest ih => simp [requireChildrenEligible, ih]

lemma uses_validateChildren {ro : Bool} {st : Address} (kids : List B256) :
    StaysIn ro st (validateChildren kids) := by
  simp [validateChildren, uses_requireChildrenExist, uses_requireChildrenEligible]

lemma uses_nextPolicyId (ptype : ℕ) : RegistryOnly (nextPolicyId ptype) := by
  simp [nextPolicyId, ensureInitialized, setPolicyAdmin, setCounter, uses_ite]

lemma uses_policyWrite {body : Routine Bytes} (h : RegistryOnly body) :
    StaysIn ctx.readOnly policyRegistryAddress (policyWrite ctx body) := by
  simp [policyWrite, h]

variable (args : Bytes)

lemma uses_createPolicy (withAccounts : Bool) :
    RegistryOnly (createPolicy ctx args withAccounts) := by
  simp [createPolicy, readAccounts, setPolicyAdmin, emitPolicyCreated, emitPolicyAdminUpdated,
    emitMembersUpdated, uses_nextPolicyId, uses_setMembers, uses_ite]

lemma uses_createCompositePolicy : RegistryOnly (createCompositePolicy ctx args) := by
  simp [createCompositePolicy, setPolicyAdmin, emitPolicyCreated, emitPolicyAdminUpdated,
    emitCompositeUpdated, uses_nextPolicyId, uses_setChildren, uses_validateChildren]

lemma uses_updateComposite : RegistryOnly (updateComposite ctx args) := by
  simp [updateComposite, requirePolicyExists, emitCompositeUpdated, uses_setChildren,
    uses_validateChildren]

lemma uses_updateMembers (wantType : ℕ) : RegistryOnly (updateMembers ctx args wantType) := by
  simp [updateMembers, requirePolicyExists, requirePolicyAdmin, emitMembersUpdated, uses_setMembers]

lemma uses_stageUpdateAdmin : RegistryOnly (stageUpdateAdmin ctx args) := by
  simp [stageUpdateAdmin, requirePolicyAdmin, requirePolicyExists, setPendingAdmin]

lemma uses_finalizeUpdateAdmin : RegistryOnly (finalizeUpdateAdmin ctx args) := by
  simp [finalizeUpdateAdmin, requirePolicyExists, setPendingAdmin, setPolicyAdmin,
    emitPolicyAdminUpdated]

lemma uses_renounceAdmin : RegistryOnly (renounceAdmin ctx args) := by
  simp [renounceAdmin, requirePolicyAdmin, requirePolicyExists, setPendingAdmin, setPolicyAdmin,
    emitPolicyAdminUpdated]

/-- The policy registry writes only its own storage, and nothing in a read-only frame. -/
theorem uses_runPolicy (env : Env) (input : Bytes) :
    StaysIn ctx.readOnly policyRegistryAddress (runPolicy env ctx input) := by
  simp only [runPolicy, liftM_eq, uses_bind, uses_ofExcept, canReturn_ofExcept, true_and]
  intro sel _
  cases sel
  case createPolicy | createPolicyWithAccounts => exact uses_policyWrite (uses_createPolicy _ _)
  case createComposite => exact uses_policyWrite (uses_createCompositePolicy _)
  case updateComposite => exact uses_policyWrite (uses_updateComposite _)
  case updateAllowlist | updateBlocklist => exact uses_policyWrite (uses_updateMembers _ _)
  case stageUpdateAdmin => exact uses_policyWrite (uses_stageUpdateAdmin _)
  case finalizeUpdateAdmin => exact uses_policyWrite (uses_finalizeUpdateAdmin _)
  case renounceAdmin => exact uses_policyWrite (uses_renounceAdmin _)
  all_goals simp [policyDispatch, policyAdminOf, pendingPolicyAdminOf, uses_ite]

/-- The activation registry writes only its own fields, and nothing in a read-only frame. -/
theorem uses_runActivation {F : Fields} (hF : ∀ o, F (.activation, o)) (input : Bytes) :
    Stays ctx.readOnly activationRegistryAddress F (runActivation ctx input) := by
  have hslot : ∀ o, (actSlot o).In F := fun o => by simpa [actSlot] using hF o
  have hset : ∀ feature on,
      Stays false activationRegistryAddress F (setActivated feature on) := by
    intro feature on
    simp only [setActivated, uses_bind, uses_mapSlot, uses_putWord, true_and]
    exact fun s h => in_of_canReturn_mapSlot h (hslot _)
  simp only [runActivation, liftM_eq, uses_bind, uses_ofExcept, canReturn_ofExcept, true_and]
  intro sel _
  cases sel
  case updateParam =>
    simp [activationDispatch, updateParam, requireGov, setActivationAdmin, hslot]
  case activate | deactivate =>
    simp [activationDispatch, setFeature, requireActivationAdmin, hset]
  all_goals simp [activationDispatch]

end RegistryCalls

/-! ### Tokens -/

namespace Token

/-- The routine writes only the fields `F` of the token, and nothing in a read-only frame. -/
abbrev Writes {α : Type} (tok : Token) (F : Fields) (p : Routine α) : Prop :=
  Stays tok.ctx.readOnly tok.store F p

abbrev OwnOnly {α : Type} (tok : Token) (p : Routine α) : Prop := tok.Writes (fun _ => True) p

section Reads

variable {ro : Bool} {st : Address} {F : Fields} {env : Env} {tok : Token}

@[simp] lemma uses_isPaused (bit : ℕ) : Stays ro st F (tok.isPaused bit) := by
  simp [isPaused, paused]

@[simp] lemma uses_emit {topic : Topic} {a b : Address} {v : U256} :
    Stays ro st F (tok.emit topic a b v) ↔ ro = false := uses_addLog

@[simp] lemma uses_emitMemo {memo : B256} :
    Stays ro st F (tok.emitMemo memo) ↔ ro = false := uses_addLog

@[simp] lemma uses_emitRole {topic : Topic} {role : B256} {a : Address} :
    Stays ro st F (tok.emitRole topic role a) ↔ ro = false := uses_addLog

@[simp] lemma uses_policyAllows (id : U64) (a : Address) :
    Stays ro st F (policyAllows env id a) := by
  simp [policyAllows, uses_ite]

@[simp] lemma uses_ensureRole (role : B256) : Stays ro st F (tok.ensureRole role) := by
  simp [ensureRole, uses_ite]

@[simp] lemma uses_isLastAdmin (role : B256) (a : Address) :
    Stays ro st F (tok.isLastAdmin role a) := by
  simp [isLastAdmin, adminCount, uses_ite]

@[simp] lemma uses_domainSeparator : Stays ro st F (tok.domainSeparator env) := by
  simp only [domainSeparator, name, getString, uses_bind, uses_getStringAt, true_and]
  rintro (_ | v) -
  · simp
  · simp [chargeDomain, uses_ite, Op.Within]

@[simp] lemma uses_pending : Stays ro st F tok.pending := by
  simp [pending]

@[simp] lemma uses_multiplier : Stays ro st F tok.multiplier := uses_getWord _ _

@[simp] lemma uses_effectiveMultiplier (now : ℕ) : Stays ro st F (tok.effectiveMultiplier now) := by
  simp [effectiveMultiplier, uses_ite]

@[simp] lemma uses_announcementUsed (id : Bytes) : Stays ro st F (tok.announcementUsed id) := by
  simp [announcementUsed, announcementSlot]

end Reads

section Quiet

variable {F : Fields} {env : Env} {tok : Token}

/-- The fields that hold no part of the ledger: the texts, and the extensions of the variants. -/
def QuietField (f : Namespace × ℕ) : Prop := f.1 ≠ .core ∨ f.2 < slotTotalSupply

lemma quiet_of_ne_core {ns : Namespace} (h : ns ≠ .core) (o : ℕ) : QuietField (ns, o) := .inl h

variable (hF : ∀ f, QuietField f → F f)

include hF

lemma uses_updateText {o : ℕ} (ho : o < slotTotalSupply) (v : Bytes) {rest : Bool → Routine Bytes}
    (hrest : tok.ctx.readOnly = false → ∀ b, Stays false tok.store F (rest b)) :
    Stays tok.ctx.readOnly tok.store F (do
      tok.ensureMetadataWrite
      rest (← setString tok.store o v)) := by
  have hslot : (slotAt o).In F := by simpa using hF _ (.inr ho)
  cases hro : tok.ctx.readOnly
  · simp [ensureMetadataWrite, setString, uses_setStringAt rfl hslot, hrest hro]
  · simp [ensureMetadataWrite, hro]

lemma uses_updateName (v : Bytes) : tok.Writes F (tok.updateName v) :=
  uses_updateText hF (by decide) v fun _ b => by simp

lemma uses_updateSymbol (v : Bytes) : tok.Writes F (tok.updateSymbol v) :=
  uses_updateText hF (by decide) v fun _ b => by simp

lemma uses_updateContractUri (v : Bytes) : tok.Writes F (tok.updateContractUri v) :=
  uses_updateText hF (by decide) v fun _ b => by simp

lemma asset_in (o : ℕ) : (assetSlot o).In F := by
  simpa [assetSlot] using hF _ (quiet_of_ne_core (by decide) o)

lemma uses_updateUiMultiplier (m e : U256) : tok.Writes F (tok.updateUiMultiplier m e) := by
  simp [updateUiMultiplier, settleMatured, setMultiplier, setPending, asset_in hF]

lemma uses_cancelUiMultiplier : tok.Writes F tok.cancelUiMultiplier := by
  simp [cancelUiMultiplier, clearPending, asset_in hF]

lemma uses_updateMultiplier (m : U256) : tok.Writes F (tok.updateMultiplier m) := by
  simp [updateMultiplier, overrideSchedule, clearPending, setMultiplier, asset_in hF]

lemma uses_updateExtraMetadata (key value : Bytes) :
    tok.Writes F (tok.updateExtraMetadata key value) := by
  have hset : Stays false tok.store F (tok.setExtraMetadata key value) := by
    simp only [setExtraMetadata, extraMetaSlot, uses_bind, uses_strMapSlot, true_and]
    exact fun s h => uses_setStringAt rfl (in_of_canReturn_strMapSlot h (asset_in hF _)) value
  simp [updateExtraMetadata, hset]

lemma uses_markAnnouncement (id : Bytes) : Stays false tok.store F (tok.markAnnouncement id) := by
  simp only [markAnnouncement, announcementSlot, uses_bind, uses_strMapSlot, uses_setWord, true_and]
  exact fun s h => in_of_canReturn_strMapSlot h (asset_in hF _)

end Quiet

section Writes

variable {env : Env} {tok : Token}

@[simp] lemma uses_setAllowance_own (a b : Address) (v : U256) :
    StaysIn false tok.store (setAllowance tok.store a b v) :=
  uses_setAllowance rfl trivial a b v

variable (role : B256)

@[simp] lemma uses_setRole_own (a : Address) (on : Bool) :
    StaysIn false tok.store (setRole tok.store role a on) :=
  uses_setRole rfl trivial role a on

@[simp] lemma uses_approve (o s : Address) (v : U256) : tok.OwnOnly (tok.approve o s v) := by
  simp [approve]

variable (src dst : Address)

lemma uses_shiftBalance (v : U256) : StaysIn false tok.store (tok.shiftBalance src dst v) := by
  simp [shiftBalance, balanceSlot]

lemma uses_moveBalance (v : U256) : StaysIn false tok.store (tok.moveBalance env src dst v) := by
  simp [moveBalance, checkTransferPolicies, uses_shiftBalance]

@[simp] lemma uses_transfer (v : U256) : tok.OwnOnly (tok.transfer env src dst v) := by
  simp [transfer, uses_moveBalance]

@[simp] lemma uses_transferFrom (sp src dst : Address) (v : U256) :
    tok.OwnOnly (tok.transferFrom env sp src dst v) := by
  simp [transferFrom, uses_moveBalance, checkExecutor]

lemma uses_removeRole (a : Address) : StaysIn false tok.store (tok.removeRole role a) := by
  simp [removeRole, uses_ite, adminCount, setAdminCount]

lemma uses_roleChange {role : B256} {f : Unit → Routine Bytes}
    (h : StaysIn false tok.store (f ())) :
    tok.OwnOnly (tok.ensureRoleMutable role >>= f) := by
  cases hro : tok.ctx.readOnly <;> simp [ensureRoleMutable, hro, ensureNotFrozen,
    ensureHoldsAdminOf, adminCount, Op.Within, h]

@[simp] lemma uses_grantRole (a : Address) : tok.OwnOnly (tok.grantRole role a) :=
  uses_roleChange (by simp [adminCount, setAdminCount])

@[simp] lemma uses_revokeRole (a : Address) : tok.OwnOnly (tok.revokeRole role a) :=
  uses_roleChange (by simp [uses_removeRole])

@[simp] lemma uses_renounceRole (a : Address) : tok.OwnOnly (tok.renounceRole role a) := by
  simp [renounceRole, uses_removeRole]

@[simp] lemma uses_renounceLastAdmin : tok.OwnOnly tok.renounceLastAdmin := by
  simp [renounceLastAdmin, adminCount, setAdminCount, Op.Within]

@[simp] lemma uses_setRoleAdmin (role admin : B256) : tok.OwnOnly (tok.setRoleAdmin role admin) :=
  uses_roleChange (by simp [putRoleAdmin])

@[simp] lemma uses_setPause (args : Bytes) (on : Bool) : tok.OwnOnly (tok.setPause args on) := by
  cases hro : tok.ctx.readOnly
  · simp only [setPause, hro, pausedChecked, setPaused, liftM_eq, uses_bind, uses_ofExcept,
      uses_reject, uses_ensureRole, uses_getWordChecked, true_and]
    rintro features - - - - - - - (_ | p) - <;> simp
  · simp [setPause, hro]

lemma uses_mintCore (dst : Address) (v : U256) :
    StaysIn false tok.store (tok.mintCore env dst v) := by
  simp [mintCore, mintReceiverPolicy, totalSupply, supplyCap, balanceSlot, setTotalSupply]

@[simp] lemma uses_mint (dst : Address) (v : U256) : tok.OwnOnly (tok.mint env dst v) := by
  simp [mint, uses_mintCore]

@[simp] lemma uses_burn (src : Address) (v : U256) : tok.OwnOnly (tok.burn src v) := by
  simp [burn, balanceSlot, totalSupply, setTotalSupply]

@[simp] lemma uses_seizeWithMemo (v : U256) (memo : B256) :
    tok.OwnOnly (tok.seizeWithMemo env src dst v memo) := by
  simp [seizeWithMemo, checkSeizePolicies, uses_shiftBalance]

@[simp] lemma uses_updateSupplyCap (cap : U256) : tok.OwnOnly (tok.updateSupplyCap cap) := by
  simp [updateSupplyCap, totalSupply, supplyCap, setSupplyCap]

@[simp] lemma uses_updatePolicy (scope : B256) (id : U64) :
    tok.OwnOnly (tok.updatePolicy scope id) := by
  simp [updatePolicy]

@[simp] lemma uses_permit (p : PermitArgs) : tok.OwnOnly (tok.permit env p) := by
  refine uses_guard.mpr fun _ => ?_
  simp only [uses_bind, uses_reject, uses_blockTime, uses_nonce, uses_domainSeparator, true_and]
  rintro - - - - - - - - (_ | domain) -
  · simp
  · simp [chargePermit, uses_ite, uses_setNonce (F := fun _ => True) rfl trivial]

lemma uses_mintEach (entries : List (B256 × B256)) :
    StaysIn false tok.store (tok.mintEach env entries) := by
  induction entries with
  | nil => simp [mintEach]
  | cons e rest ih => simp [mintEach, ih, uses_mintCore]

lemma uses_batchMint (args : Bytes) : tok.OwnOnly (tok.batchMint env args) := by
  simp [batchMint, uses_mintEach]

end Writes

/-! ### Dispatch -/

/-- The selectors that can change the ledger: balances and supply, allowances, roles, the pause
mask, the cap and the policies. -/
def changesLedger : Selector → Bool
  | .approve | .transfer | .transferFrom | .transferWithMemo | .transferFromWithMemo
  | .transferWithMemoFormat | .transferFromWithMemoFormat | .permit
  | .grantRole | .revokeRole | .renounceRole | .setRoleAdmin | .renounceLastAdmin
  | .pause | .unpause | .mint | .mintWithMemo | .batchMint | .burn | .burnWithMemo
  | .seizeWithMemo | .updateSupplyCap | .updatePolicy | .announce => true
  | _ => false

/-- The fields that a call with the selector can write. -/
def Reach (sel : Selector) (f : Namespace × ℕ) : Prop := QuietField f ∨ changesLedger sel = true

section Dispatch

variable {env : Env} {tok : Token} {args : Bytes} {sel : Selector} {r : Routine Bytes}
  {ro : Bool} {st : Address}

lemma uses_of_own (h : StaysIn ro st r) (hsel : changesLedger sel) : Stays ro st (Reach sel) r :=
  h.mono fun _ ho => ho.mono fun _ _ => .inr hsel

lemma own_of_within {F : Fields} (h : Stays ro st F r) : StaysIn ro st r :=
  h.mono fun _ ho => ho.mono fun _ _ => trivial

lemma quiet_reach (f : Namespace × ℕ) (h : QuietField f) : Reach sel f := .inl h

lemma uses_readText {P : Op → Prop} {p : Routine (Option Bytes)} (hp : Uses P p) : Uses P (do
      match ← p with
      | some v => return encString v
      | none => Prog.fail .outOfGas) := by
  simp only [uses_bind, hp, true_and]
  rintro (_ | v) - <;> simp

lemma uses_dispatchErc20 (h : tok.dispatchErc20 env args sel = some r) :
    tok.Writes (Reach sel) r := by
  cases sel <;> cases h
  case name => exact uses_readText (by simp [name, getString])
  case symbol => exact uses_readText (by simp [symbol, getString])
  case approve | transfer | transferFrom => exact uses_of_own (by simp) rfl
  all_goals simp [totalSupply]

lemma uses_dispatchAdmin (h : tok.dispatchAdmin env args sel = some r) :
    tok.Writes (Reach sel) r := by
  cases sel <;> cases h
  case grantRole | revokeRole | renounceRole | setRoleAdmin | renounceLastAdmin | pause | unpause |
      mint | burn | seizeWithMemo | updateSupplyCap | updatePolicy =>
    exact uses_of_own (by simp) rfl
  all_goals simp

lemma uses_dispatchMetadata (h : tok.dispatchMetadata args sel = some r) :
    tok.Writes (Reach sel) r := by
  cases sel <;> cases h
  case contractUri => exact uses_readText (by simp [contractUri, getString])
  case eip712Domain =>
    simp only [eip712Domain, name, getString, uses_bind, uses_getStringAt, true_and]
    rintro (_ | v) - <;> simp [Op.Within]
  case updateName => simp [uses_updateName quiet_reach]
  case updateSymbol => simp [uses_updateSymbol quiet_reach]
  case updateContractUri => simp [uses_updateContractUri quiet_reach]
  all_goals simp [supplyCap, pausedFeatures, paused]

lemma uses_memo {memo : B256} {body : Routine Bytes} (h : tok.OwnOnly body)
    (hro : ∀ b, CanReturn body b → tok.ctx.readOnly = false) :
    tok.OwnOnly (tok.withMemo memo body) := by
  simp only [withMemo, uses_bind, h, uses_emitMemo, uses_paid, uses_pure, true_and, and_true,
    implies_true]
  exact hro

lemma readOnly_eq_false_of_reject {α : Type} {e : Cas20Err} {f : Unit → Routine α} {b : α}
    (h : CanReturn (reject (tok.ctx.readOnly) e >>= f) b) : tok.ctx.readOnly = false := by
  obtain ⟨_, hro, -⟩ := canReturn_bind.mp h
  simpa using hro

lemma uses_memoFormat {format memo : B256} {body : Routine Bytes}
    (h : StaysIn tok.ctx.readOnly tok.store body) :
    tok.OwnOnly (tok.transferWithMemoFormat format memo body) := by
  cases hro : tok.ctx.readOnly <;> simp [transferWithMemoFormat, hro, hro ▸ h]

lemma uses_dispatchPermitMemo (h : tok.dispatchPermitMemo env args sel = some r) :
    tok.Writes (Reach sel) r := by
  cases sel <;> cases h
  case domainSeparator =>
    simp only [uses_bind, uses_domainSeparator, true_and]
    rintro (_ | domain) - <;> simp
  case permit => exact uses_of_own (by simp) rfl
  case transferWithMemo =>
    refine uses_of_own ?_ rfl
    simp [uses_memo (uses_transfer _ _ _) fun b hb => readOnly_eq_false_of_reject hb]
  case transferFromWithMemo =>
    refine uses_of_own ?_ rfl
    simp [uses_memo (uses_transferFrom _ _ _ _) fun b hb => readOnly_eq_false_of_reject hb]
  case mintWithMemo =>
    refine uses_of_own ?_ rfl
    simp only [liftM_eq, uses_bind, uses_ofExcept, true_and]
    refine fun dst _ amount _ memo _ => uses_memo (by simp) fun b hb => ?_
    obtain ⟨_, hmint, -⟩ := canReturn_bind.mp hb
    exact readOnly_eq_false_of_reject hmint
  case burnWithMemo =>
    refine uses_of_own ?_ rfl
    simp only [liftM_eq, uses_bind, uses_ofExcept, true_and]
    refine fun amount _ memo _ => uses_memo (by simp) fun b hb => ?_
    obtain ⟨_, hburn, -⟩ := canReturn_bind.mp hb
    exact readOnly_eq_false_of_reject hburn
  all_goals simp

lemma uses_dispatchMemoFormat (h : tok.dispatchMemoFormat env args sel = some r) :
    tok.Writes (Reach sel) r := by
  cases sel <;> cases h
  case transferWithMemoFormat | transferFromWithMemoFormat =>
    exact uses_of_own (by simp [uses_memoFormat]) rfl

/-- A call is answered by the first of the shared tables that lists its selector. -/
lemma dispatch_cases {P : Routine Bytes → Prop}
    (herc20 : ∀ r, tok.dispatchErc20 env args sel = some r → P r)
    (hadmin : ∀ r, tok.dispatchAdmin env args sel = some r → P r)
    (hmetadata : ∀ r, tok.dispatchMetadata args sel = some r → P r)
    (hmemo : ∀ r, tok.dispatchPermitMemo env args sel = some r → P r)
    (hformat : ∀ r, tok.dispatchMemoFormat env args sel = some r → P r)
    (hnone : P (fail revert)) : P (tok.dispatch env sel args) := by
  have hor : ∀ {x y : Option (Routine Bytes)}, (∀ r, x = some r → P r) →
      (∀ r, y = some r → P r) → ∀ r, x.or y = some r → P r :=
    fun hx hy r hr => (Option.or_eq_some_iff.mp hr).elim (hx r) fun h => hy r h.2
  have hget : ∀ {x : Option (Routine Bytes)}, (∀ r, x = some r → P r) → P (x.getD (fail revert)) :=
    fun {x} h => by cases x with
    | none => exact hnone
    | some r => exact h r rfl
  exact hget (hor (hor (hor (hor herc20 hadmin) hmetadata) hmemo) hformat)

/-- The shared tables write what their selector can reach. -/
theorem uses_dispatch (sel : Selector) (args : Bytes) :
    tok.Writes (Reach sel) (tok.dispatch env sel args) :=
  dispatch_cases (fun _ => uses_dispatchErc20) (fun _ => uses_dispatchAdmin)
    (fun _ => uses_dispatchMetadata) (fun _ => uses_dispatchPermitMemo)
    (fun _ => uses_dispatchMemoFormat) (by simp)

theorem uses_stablecoinDispatch (input : Bytes) :
    tok.OwnOnly (tok.stablecoinDispatch env input) := by
  simp only [stablecoinDispatch, liftM_eq, uses_bind, uses_ofExcept, uses_ite, true_and]
  intro sel _
  refine ⟨fun _ => ?_, fun _ => ?_⟩
  · exact ⟨by simp [currency], by rintro (_ | v) - <;> simp⟩
  · exact own_of_within (uses_dispatch _ _)

lemma uses_runCalls {onError : ℕ → Bytes → Cas20Err → Cas20Err} {d : Bytes → Routine Bytes}
    (hd : ∀ c, StaysIn ro st (d c)) (i : ℕ) (calls : List Bytes) :
    StaysIn ro st (runCalls onError d i calls) := by
  induction calls generalizing i with
  | nil => simp [runCalls]
  | cons c rest ih => simp [runCalls, hd, ih]

lemma uses_announce {d : Token → Bytes → Routine Bytes}
    (hd : ∀ c, StaysIn tok.ctx.readOnly tok.store (d tok.announced c)) (args : Bytes) :
    tok.OwnOnly (tok.announce d args) := by
  cases hro : tok.ctx.readOnly
  · rw [hro] at hd
    simp only [announce, hro, liftM_eq, uses_bind, uses_ofExcept, uses_reject, uses_ensureRole,
      uses_announcementUsed, true_and]
    rintro - - - - - - - - - - - - - - (_ | used) -
    · simp
    · simp [uses_markAnnouncement (F := fun _ => True) fun _ _ => trivial, runBundle,
        uses_runCalls hd]
  · simp [announce, hro]

variable {announce : Bytes → Routine Bytes}

lemma uses_dispatchAsset (ha : tok.OwnOnly (announce args))
    (h : tok.dispatchAsset env announce args sel = some r) :
    tok.Writes (Reach sel) r := by
  cases sel <;> cases h
  case updateUiMultiplier => simp [uses_updateUiMultiplier quiet_reach]
  case cancelUiMultiplier => exact uses_cancelUiMultiplier quiet_reach
  case updateMultiplier => simp [uses_updateMultiplier quiet_reach]
  case updateExtraMetadata => simp [uses_updateExtraMetadata quiet_reach]
  case batchMint => exact uses_of_own (uses_batchMint _) rfl
  case announce => exact uses_of_own ha rfl
  case isAnnouncementIdUsed =>
    simp only [liftM_eq, uses_bind, uses_ofExcept, uses_announcementUsed, true_and]
    rintro id - (_ | used) - <;> simp
  case extraMetadata =>
    simp only [liftM_eq, uses_bind, uses_ofExcept, true_and]
    exact fun key _ => ⟨by simp [extraMetadata, extraMetaSlot], by rintro (_ | v) - <;> simp⟩
  all_goals simp [assetDecimals, totalSupply, uses_ite]

lemma uses_assetDispatchWith (ha : ∀ args, tok.OwnOnly (announce args)) (input : Bytes) :
    tok.OwnOnly (tok.assetDispatchWith env announce input) := by
  simp only [assetDispatchWith, liftM_eq, uses_bind, uses_ofExcept, true_and]
  intro sel _
  cases h : tok.dispatchAsset env announce (input.drop 4) sel with
  | some r => exact own_of_within (uses_dispatchAsset (ha _) h)
  | none => exact own_of_within (uses_dispatch _ _)

lemma uses_bundleDispatch (input : Bytes) : tok.OwnOnly (bundleDispatch env tok input) :=
  uses_assetDispatchWith (uses_announce fun _ => by simp) input

lemma uses_bundle (args : Bytes) : tok.OwnOnly (tok.announce (bundleDispatch env) args) := by
  refine uses_announce (fun c => ?_) args
  exact (uses_bundleDispatch c : tok.announced.OwnOnly _)

theorem uses_assetDispatch (input : Bytes) : tok.OwnOnly (assetDispatch env tok input) :=
  uses_assetDispatchWith uses_bundle input

end Dispatch

end Token

/-! ### The factory -/

section Factory

variable {env : Env} {ctx : Ctx}

lemma uses_variantDispatch (tok : Token) (variant : ℕ) (input : Bytes) :
    tok.OwnOnly (variantDispatch env tok variant input) := by
  simp [variantDispatch, uses_ite, uses_assetDispatch, uses_stablecoinDispatch]

lemma uses_initToken (tok : Token) (create : CreateParams) :
    StaysIn false tok.store (initToken tok create) := by
  simp [initToken, setName, setSymbol, setString, setSupplyCap, initAssetExtension,
    setAssetDecimals, setMultiplier, setCurrency, uses_setStringAt, uses_ite,
    Op.Within]

lemma uses_grantInitialAdmin (tok : Token) (admin : Address) :
    StaysIn false tok.store (grantInitialAdmin tok admin) := by
  simp [grantInitialAdmin, setAdminCount]

lemma uses_bootstrap (hro : ctx.readOnly = false) (call : CreateCall) :
    StaysIn false call.addr (bootstrap env ctx call) := by
  set tok := bootstrapToken ctx call.addr call.params.decimals with htok
  have hinit : StaysIn false call.addr (initToken tok call.params) := uses_initToken tok _
  have hadmin : StaysIn false call.addr (grantInitialAdmin tok call.params.initialAdmin) :=
    uses_grantInitialAdmin tok _
  have hcalls : StaysIn false call.addr
      (runInitCalls (variantDispatch env tok call.params.variant) call.initCalls) := by
    refine uses_runCalls (fun c => ?_) 0 call.initCalls
    have hd : StaysIn ctx.readOnly call.addr
      (variantDispatch env tok call.params.variant c) :=
      uses_variantDispatch tok _ c
    exact hro ▸ hd
  have hspawn : StaysIn false call.addr (perform Op.spawnBootstrap : Routine Unit) :=
    uses_perform.mpr trivial
  simp [bootstrap, ← htok, hinit, hadmin, hcalls, hspawn]

variable {ro : Bool} {st : Address} {F : Fields}

lemma uses_decodeCreate (args : Bytes) : Stays ro st F (decodeCreate env ctx args) := by
  simp only [decodeCreate, liftM_eq, uses_bind, uses_reject, uses_ofExcept, true_and]
  intro _ _ variantWord _ _ _ _ _ _ _ _ _
  cases variantFeature variantWord.toNat <;> simp

lemma uses_initializedMetered (a : Address) : Stays ro st F (initializedMetered a) := by
  simp only [initializedMetered, uses_bind, uses_perform]
  exact ⟨trivial, by rintro (_ | hash) - <;> simp⟩

lemma uses_addressOccupied (a : Address) : StaysIn ro st (addressOccupied a) := by
  simp only [addressOccupied, uses_bind, uses_perform]
  exact ⟨trivial, by rintro (_ | hash) - <;> simp⟩

theorem uses_runToken (kind : Kind) (data : Bytes) :
    StaysIn ctx.readOnly ctx.selfAddr (runToken env kind ctx data) := by
  have ha : StaysIn (new ctx 0).ctx.readOnly (new ctx 0).store
      (assetDispatch env (.new ctx 0) data) := uses_assetDispatch data
  have hs : StaysIn (new ctx 6).ctx.readOnly (new ctx 6).store
      (stablecoinDispatch env (.new ctx 6) data) := uses_stablecoinDispatch data
  simp only [new] at ha hs
  simp [runToken, uses_initializedMetered, uses_ite, new, ha, hs]

end Factory

end RethBsc.Cas20
