import RethBsc.Cas20.Ideal
import RethBsc.Trace

/-!
What the entry points of a token do, as actions on its ledger.

`Action.ofCall` reads the action off the call data. An entry point that returns in the ideal run
has performed its action: the ledger permitted it, the policies and the signature passed, the
ledger is the one the action leads to, and nothing outside the token's account has changed
(`Performs`). A whole call, with the bundle of an announcement or the entries of a batch, is a run
of such actions.
-/

namespace RethBsc.Cas20

open Prog Ledger World

/-! ### The world outside the token -/

/-- Nothing but the account `t` and the notes of the frame has changed. -/
def World.SameBut (t : Address) (w' w : World) : Prop :=
  (∀ a, a ≠ t → w'.storage a = w.storage a) ∧ w'.code = w.code ∧ w'.time = w.time ∧
    w'.chainId = w.chainId

variable {t : Address} {w w' : World} {env : Env}

/-- The ledger of `t` becomes `l`, and the notes of the frame stay. -/
def World.Writes (t : Address) (l : Ledger) (w w' : World) : Prop :=
  w'.ledger t = l ∧ w'.renounced = w.renounced ∧ w'.wrapped = w.wrapped

lemma World.SameBut.refl : w.SameBut t w := ⟨fun _ _ => rfl, rfl, rfl, rfl⟩

lemma World.SameBut.trans {w'' : World} (h : w'.SameBut t w) (h' : w''.SameBut t w') :
    w''.SameBut t w :=
  ⟨fun a ha => (h'.1 a ha).trans (h.1 a ha), h'.2.1.trans h.2.1, h'.2.2.1.trans h.2.2.1,
    h'.2.2.2.trans h.2.2.2⟩

lemma sameBut_of_own {α : Type} {p : Routine α} {ro : Bool} {a : α} (hp : StaysIn ro t p)
    (h : Yields env p w a w') : w'.SameBut t w := by
  have hrun : (Prog.run (ideal env) p w).2 = w' := congrArg Prod.snd h
  rw [← hrun]
  refine hp.keeps (I := fun w' : World => w'.SameBut t w) ?_ .refl
  intro o w1 ho h1
  cases o with
  | setWord a k v =>
    obtain ⟨-, rfl, -⟩ := ho
    refine ⟨fun b hb => ?_, h1.2⟩
    rw [ideal, storage_set_of_addr_ne hb]
    exact h1.1 b hb
  | codeWrite | setCode => exact ho.elim
  | _ => exact h1

lemma quiet_of_within {α : Type} {p : Routine α} {ro : Bool} {a : α}
    (hp : Uses (Op.Within ro t Token.QuietField) p) (h : Yields env p w a w') :
    w.Writes t (w.ledger t) w' := by
  have hrun : (Prog.run (ideal env) p w).2 = w' := congrArg Prod.snd h
  have hnot : ∀ o, slotTotalSupply ≤ o → ¬ Token.QuietField (.core, o) := by
    rintro o ho (h | h)
    · exact h rfl
    · exact absurd ho (not_le.mpr h)
  rw [← hrun]
  refine hp.keeps (I := w.Writes t (w.ledger t)) ?_ ⟨rfl, rfl, rfl⟩
  intro o w1 ho h1
  cases o with
  | setWord a k v =>
    obtain ⟨-, rfl, hk⟩ := ho
    exact ⟨(ledger_set_quiet hk).trans h1.1, h1.2⟩
  | codeWrite | setCode => exact ho.elim
  | addBalance | renounceAdmin | spawnBootstrap => exact (hnot _ (by decide) ho).elim
  | _ => exact h1

/-! ### Performing an action -/

/-- The policy bound to the scope of the token lets the account through. -/
def World.Allows (env : Env) (w : World) (t : Address) (scope : Scope) (a : Address) : Prop :=
  w.registry.allows env.depth ((w.ledger t).policy scope) a = some true

/-- The policy bound to the scope of the token does not let the account through. -/
def World.Forbids (env : Env) (w : World) (t : Address) (scope : Scope) (a : Address) : Prop :=
  w.registry.allows env.depth ((w.ledger t).policy scope) a = some false

def World.SignedBy (env : Env) (tok : Token) (w : World) (p : Token.PermitArgs) : Prop :=
  ∃ domain, w.answer env (tok.domainSeparator env) = some (some domain) ∧
    Token.ecrecoverAddress env (Token.permitDigest env domain
      (Token.permitStruct p.owner p.spender p.value ((w.ledger tok.store).nonce p.owner)
        p.deadline)) p.v p.r p.s = some p.owner

/-- What an action needs besides the ledger: the policies, the clock and the signature. -/
def Action.Passes (env : Env) (tok : Token) (w : World) : Action → Prop
  | .transfer dst _ => tok.privileged = false →
    w.Allows env tok.store .transferSender tok.ctx.caller ∧
      w.Allows env tok.store .transferReceiver dst
  | .transferFrom src _ _ => tok.privileged = false → tok.ctx.caller ≠ src →
    w.Allows env tok.store .transferExecutor tok.ctx.caller
  | .permit p => w.time ≤ p.deadline.toNat ∧ w.SignedBy env tok p
  | .mint dst _ => w.Allows env tok.store .mintReceiver dst
  | .seize src dst _ => w.Forbids env tok.store .seizeExempt src ∧
    w.Allows env tok.store .seizeReceiver dst
  | .updatePolicy _ id => w.registry.knows id = true
  | _ => True

structure Performs (env : Env) (tok : Token) (act : Action) (w w' : World) : Prop where
  permits : (w.ledger tok.store).Permits tok.ctx.caller tok.privileged w.renounced act
  passes : act.Passes env tok w
  ledger : w'.ledger tok.store = (w.ledger tok.store).apply tok.ctx.caller act
  renounced : w'.renounced = true ↔ w.renounced = true ∨ act = .renounceLastAdmin
  wrapped : w'.wrapped = true ↔ w.wrapped = true ∨ (w.ledger tok.store).Wraps tok.ctx.caller act
  same : w'.SameBut tok.store w

lemma Performs.of_writes {tok : Token} {act : Action}
    (permits : (w.ledger tok.store).Permits tok.ctx.caller tok.privileged w.renounced act)
    (passes : act.Passes env tok w)
    (writes : w.Writes tok.store ((w.ledger tok.store).apply tok.ctx.caller act) w')
    (same : w'.SameBut tok.store w)
    (hadd : (w.ledger tok.store).addition tok.ctx.caller act = none)
    (hact : act ≠ .renounceLastAdmin) : Performs env tok act w w' where
  permits := permits
  passes := passes
  ledger := writes.1
  renounced := by simp [writes.2.1, hact]
  wrapped := by simp [writes.2.2, Ledger.Wraps, hadd]
  same := same

namespace Token

variable {env : Env} {tok : Token} {w w' : World} {src dst : Address} {amount : U256} {u : Unit}
  {out : Bytes}

/-! ### ERC-20 -/

@[simp] lemma returns_checkTransferPolicies :
    Yields env (tok.checkTransferPolicies env src dst) w u w' ↔
      (w.Allows env tok.store .transferSender src ∧
        w.Allows env tok.store .transferReceiver dst) ∧ w' = w := by
  simp [checkTransferPolicies, World.Allows, and_assoc]

variable {spender account : Address} {role : B256}

@[simp] lemma returns_checkExecutor : Yields env (tok.checkExecutor env spender) w u w' ↔
      w.Allows env tok.store .transferExecutor spender ∧ w' = w := by
  simp only [checkExecutor, returns_bind, returns_transferPolicies, returns_policyAllows,
    returns_reject, Bool.not_eq_true, Bool.not_eq_false, World.Allows]
  grind

lemma returns_shiftBalance (h : Yields env (tok.shiftBalance src dst amount) w u w') :
    amount ≤ (w.ledger tok.store).balance src ∧
      w'.ledger tok.store = (w.ledger tok.store).move src dst amount ∧
      w'.renounced = w.renounced ∧ (w'.wrapped ↔ w.wrapped ∨
        2 ^ 256 ≤ (((w.ledger tok.store).debit src amount).balance dst).toNat + amount.toNat) := by
  simp [shiftBalance] at h
  obtain ⟨hle, rfl⟩ := h
  -- the receiver's balance is read from the world in which the sender has paid
  set w1 := w.set tok.store (mappingSlot (slotAt slotBalances) (addrKey src))
    (w.storage tok.store (mappingSlot (slotAt slotBalances) (addrKey src)) - amount) with hw1
  have hdebit : w1.ledger tok.store = (w.ledger tok.store).debit src amount := by
    rw [hw1, ledger_setBalance]
    rfl
  have hbal : w1.storage tok.store (mappingSlot (slotAt slotBalances) (addrKey dst)) =
      ((w.ledger tok.store).debit src amount).balance dst := by
    rw [← hdebit]
    rfl
  refine ⟨hle, ?_, rfl, ?_⟩
  · rw [hbal, ledger_setBalance, ledger_noteAddition, hdebit]
    rfl
  · rw [wrapped_set, wrapped_noteAddition, hbal]
    rfl

lemma returns_moveBalance (h : Yields env (tok.moveBalance env src dst amount) w u w') :
    dst ≠ 0 ∧ src ≠ 0 ∧ (tok.privileged = false →
      w.Allows env tok.store .transferSender src ∧ w.Allows env tok.store .transferReceiver dst) ∧
      Yields env (tok.shiftBalance src dst amount) w u w' := by
  simp only [moveBalance, returns_bind, returns_reject,
    returns_whenever_check fun _ => returns_checkTransferPolicies, Bool.not_eq_true] at h
  obtain ⟨_, _, ⟨hdst, rfl⟩, _, _, ⟨hsrc, rfl⟩, _, _, ⟨hpolicy, rfl⟩, hshift⟩ := h
  exact ⟨hdst, hsrc, hpolicy, hshift⟩

lemma performs_approve (h : Yields env (tok.approve tok.ctx.caller spender amount) w out w') :
    Performs env tok (.approve spender amount) w w' := by
  have hsame := sameBut_of_own (uses_approve _ _ _) h
  simp [approve, emit] at h
  obtain ⟨-, hcaller, hspender, ⟨-, rfl⟩, -⟩ := h
  exact .of_writes ⟨hcaller, hspender⟩ trivial ⟨ledger_setAllowance _ _, rfl, rfl⟩ hsame rfl
    (by simp)

lemma performs_transfer (h : Yields env (tok.transfer env tok.ctx.caller dst amount) w out w') :
    Performs env tok (.transfer dst amount) w w' := by
  have hsame := sameBut_of_own (uses_transfer _ _ _) h
  simp [transfer, emit] at h
  obtain ⟨-, hpaused, ⟨_, hmove⟩, -⟩ := h
  obtain ⟨hdst, hsrc, hpolicy, hshift⟩ := returns_moveBalance hmove
  obtain ⟨hle, hledger, hren, hwrap⟩ := returns_shiftBalance hshift
  refine ⟨⟨hpaused, hsrc, hdst, hle⟩, hpolicy, hledger, by simp [hren], ?_, hsame⟩
  rw [hwrap]
  simp [Ledger.Wraps, addition]

lemma returns_spend (h : Yields env (whenever
      (¬ (w.ledger tok.store).allowance src spender = BitVec.allOnes 256)
      (putWord tok.store
        (mappingSlot (mappingSlot (slotAt slotAllowances) (addrKey src)) (addrKey spender))
        ((w.ledger tok.store).allowance src spender - amount))) w u w') :
    w.Writes tok.store ((w.ledger tok.store).spend src spender amount) w' := by
  simp only [returns_whenever, returns_putWord] at h
  unfold spend
  split_ifs with hinf
  · rw [h.2 (not_not.mpr hinf)]
    exact ⟨rfl, rfl, rfl⟩
  · rw [h.1 hinf]
    exact ⟨by simp, rfl, rfl⟩

lemma performs_transferFrom
    (h : Yields env (tok.transferFrom env tok.ctx.caller src dst amount) w out w') :
    Performs env tok (.transferFrom src dst amount) w w' := by
  have hsame := sameBut_of_own (uses_transferFrom _ _ _ _) h
  simp [transferFrom, emit, returns_whenever_check fun _ => returns_checkExecutor,
    -BitVec.reduceAllOnes] at h
  obtain ⟨-, hpaused, hdst, hsrc, hallowed, hexecutor, _, w1, hspend, ⟨_, hmove⟩, -⟩ := h
  obtain ⟨hledger1, hren1, hwrap1⟩ := returns_spend hspend
  obtain ⟨-, -, -, hshift⟩ := returns_moveBalance hmove
  obtain ⟨hle, hledger, hren, hwrap⟩ := returns_shiftBalance hshift
  rw [hledger1] at hle hledger hwrap
  rw [balance_spend] at hle
  have hallowance : amount ≤ (w.ledger tok.store).allowance src tok.ctx.caller := by
    by_cases hinf : (w.ledger tok.store).allowance src tok.ctx.caller = BitVec.allOnes 256
    · rw [hinf, BitVec.le_def, BitVec.toNat_allOnes]
      exact Nat.le_sub_one_of_lt amount.isLt
    · exact hallowed hinf
  refine ⟨⟨hpaused, hsrc, hdst, hallowance, hle⟩, hexecutor, hledger, by simp [hren, hren1], ?_,
    hsame⟩
  rw [hwrap, hwrap1]
  simp [Ledger.Wraps, addition, debit]

/-! ### Minting, burning, seizing -/

lemma returns_ensureRole : Yields env (tok.ensureRole role) w u w' ↔
    (w.ledger tok.store).Holds tok.ctx.caller tok.privileged role ∧ w' = w := by
  unfold ensureRole Ledger.Holds
  split_ifs with hp
  · simp [hp]
  · simp [hp]

lemma returns_mintCore (h : Yields env (tok.mintCore env dst amount) w u w') :
    dst ≠ 0 ∧ w.Allows env tok.store .mintReceiver dst ∧
      (w.ledger tok.store).supply.toNat + amount.toNat ≤ (w.ledger tok.store).cap.toNat ∧
      w'.ledger tok.store = (w.ledger tok.store).apply tok.ctx.caller (.mint dst amount) ∧
      w'.renounced = w.renounced ∧ (w'.wrapped ↔
        w.wrapped ∨ (w.ledger tok.store).Wraps tok.ctx.caller (.mint dst amount)) := by
  simp [mintCore, emit] at h
  obtain ⟨hdst, hpolicy, hfits, hcap, rfl⟩ := h
  refine ⟨hdst, hpolicy, ?_, ?_, rfl, ?_⟩
  · have hsum := BitVec.toNat_add_of_lt hfits
    have hle : ((w.ledger tok.store).supply + amount).toNat ≤ (w.ledger tok.store).cap.toNat := hcap
    omega
  · rw [ledger_setTotalSupply, ledger_setBalance, ledger_noteAddition]
    rfl
  · rw [wrapped_set, wrapped_set, wrapped_noteAddition]
    simp [Ledger.Wraps, addition, ledger]

lemma performs_mintCore (hpaused : (w.ledger tok.store).paused.getLsbD pauseMint = false)
    (hrole : (w.ledger tok.store).Holds tok.ctx.caller tok.privileged roleMint)
    (h : Yields env (tok.mintCore env dst amount) w u w') :
    Performs env tok (.mint dst amount) w w' := by
  obtain ⟨hdst, hpolicy, hcap, hledger, hren, hwrap⟩ := returns_mintCore h
  exact ⟨⟨hpaused, hrole, hdst, hcap⟩, hpolicy, hledger, by simp [hren], hwrap,
    sameBut_of_own (uses_mintCore _ _) h⟩

lemma performs_mint (h : Yields env (tok.mint env dst amount) w u w') :
    Performs env tok (.mint dst amount) w w' := by
  simp [mint, returns_ensureRole] at h
  obtain ⟨-, hpaused, hrole, hcore⟩ := h
  exact performs_mintCore hpaused hrole hcore

lemma performs_burn (h : Yields env (tok.burn tok.ctx.caller amount) w u w') :
    Performs env tok (.burn amount) w w' := by
  have hsame := sameBut_of_own (uses_burn _ _) h
  simp [burn, emit, returns_ensureRole] at h
  obtain ⟨-, hpaused, hrole, hbalance, hsupply, rfl⟩ := h
  refine .of_writes ⟨hpaused, hrole, hbalance, hsupply⟩ trivial ⟨?_, rfl, rfl⟩ hsame rfl (by simp)
  rw [ledger_setTotalSupply, ledger_setBalance]
  rfl

lemma performs_seize {memo : B256}
    (h : Yields env (tok.seizeWithMemo env src dst amount memo) w out w') :
    Performs env tok (.seize src dst amount) w w' := by
  have hsame := sameBut_of_own (uses_seizeWithMemo _ _ _ _) h
  simp [seizeWithMemo, emit, emitMemo, returns_ensureRole, checkSeizePolicies] at h
  obtain ⟨-, hpaused, hrole, ⟨hdst, hne⟩, hsrc, hpolicies, ⟨_, hshift⟩, -⟩ := h
  obtain ⟨hle, hledger, hren, hwrap⟩ := returns_shiftBalance hshift
  refine ⟨⟨hpaused, hrole, hne, hsrc, hdst, hle⟩, hpolicies, hledger, by simp [hren], ?_, hsame⟩
  rw [hwrap]
  simp [Ledger.Wraps, addition]

/-! ### Roles -/

lemma returns_ensureNotFrozen : Yields env (tok.ensureNotFrozen role) w u w' ↔
      (w.ledger tok.store).adminCount ≠ 0 ∧ w' = w := by
  have hfail : ∀ s', Yields env (do
      let admin ← roleAdmin tok.store role
      fail (rev .acUnauthorized [addrKey tok.ctx.caller, admin])) w u s' ↔ False ∧ s' = w := by
    simp
  simp only [ensureNotFrozen, returns_bind, returns_adminCount]
  constructor
  · rintro ⟨_, _, ⟨rfl, rfl⟩, h⟩
    exact (returns_whenever_check hfail).mp h
  · exact fun h => ⟨_, _, ⟨rfl, rfl⟩, (returns_whenever_check hfail).mpr h⟩

lemma returns_ensureHoldsAdminOf : Yields env (tok.ensureHoldsAdminOf role) w u w' ↔
      (w.ledger tok.store).role ((w.ledger tok.store).roleAdmin role) tok.ctx.caller ∧ w' = w := by
  by_cases hr : (w.ledger tok.store).role ((w.ledger tok.store).roleAdmin role) tok.ctx.caller <;>
    simp [ensureHoldsAdminOf, whenever, hr]

lemma returns_ensureRoleMutable (h : Yields env (tok.ensureRoleMutable role) w u w') :
    (w.ledger tok.store).RoleMutable tok.ctx.caller tok.privileged w.renounced role ∧ w' = w := by
  simp only [ensureRoleMutable, returns_bind, returns_reject, returns_perform, ideal,
    returns_whenever_check fun _ => returns_ensureNotFrozen,
    returns_whenever_check fun _ => returns_ensureHoldsAdminOf, Bool.not_eq_true] at h
  obtain ⟨_, _, ⟨-, rfl⟩, _, _, hren, _, _, ⟨hfrozen, rfl⟩, hadmin, rfl⟩ := h
  cases hren
  refine ⟨⟨hfrozen, ?_⟩, rfl⟩
  cases hp : tok.privileged
  · exact .inr (hadmin hp)
  · exact .inl rfl

lemma returns_countAdmins {t : Address} {f : U256 → U256}
    (h : Yields env (whenever (role = roleDefaultAdmin) do
      let n ← adminCount t
      setAdminCount t (f n)) w u w') :
    w.Writes t { w.ledger t with
      adminCount := if role = roleDefaultAdmin then f (w.ledger t).adminCount
        else (w.ledger t).adminCount } w' := by
  simp only [returns_whenever, returns_bind, returns_adminCount, returns_setAdminCount] at h
  split_ifs with hrole
  · obtain ⟨_, _, ⟨rfl, rfl⟩, rfl⟩ := h.1 hrole
    exact ⟨ledger_setAdminCount, rfl, rfl⟩
  · rw [h.2 hrole]
    exact ⟨rfl, rfl, rfl⟩

lemma performs_grantRole (h : Yields env (tok.grantRole role account) w out w') :
    Performs env tok (.grantRole role account) w w' := by
  have hsame := sameBut_of_own (uses_grantRole _ _) h
  simp only [grantRole, returns_bind, returns_hasRole, returns_pure] at h
  obtain ⟨_, _, hmut, held, w1, ⟨hheld, rfl⟩, _, _, hgrant, -, rfl⟩ := h
  obtain ⟨hmut, rfl⟩ := returns_ensureRoleMutable hmut
  rw [hheld, returns_whenever] at hgrant
  cases hrole : (w1.ledger tok.store).role role account
  · have hblock := hgrant.1 (by simp [hrole])
    simp only [returns_bind, returns_setRole, emitRole, returns_addLog, returns_paid] at hblock
    obtain ⟨_, _, rfl, _, w3, hcount, _, _, ⟨-, rfl⟩, -, rfl⟩ := hblock
    obtain ⟨hledger, hflags⟩ := returns_countAdmins hcount
    refine .of_writes hmut trivial ⟨?_, hflags⟩ hsame rfl (by simp)
    rw [hledger, ledger_setRole]
    simp only [apply, grant, hrole]
    rfl
  · obtain rfl := hgrant.2 (by simp [hrole])
    refine .of_writes hmut trivial ⟨?_, rfl, rfl⟩ hsame rfl (by simp)
    simp [apply, grant, hrole]

lemma returns_removeRole {b : Bool} (h : Yields env (tok.removeRole role account) w b w') :
    w.Writes tok.store ((w.ledger tok.store).drop role account) w' := by
  simp only [removeRole, returns_bind, returns_hasRole] at h
  obtain ⟨held, w1, ⟨rfl, rfl⟩, h⟩ := h
  unfold drop
  cases hrole : (w1.ledger tok.store).role role account
  · obtain ⟨-, rfl⟩ : b = true ∧ w' = w1 := by simpa [hrole] using h
    exact ⟨rfl, rfl, rfl⟩
  · rw [hrole, if_pos rfl] at h
    simp only [returns_bind, returns_setRole, emitRole, returns_addLog] at h
    obtain ⟨_, _, rfl, _, w2, hcount, -, rfl⟩ := h
    obtain ⟨hledger, hflags⟩ := returns_countAdmins hcount
    refine ⟨?_, hflags⟩
    rw [hledger, ledger_setRole]
    rfl

lemma returns_isLastAdmin {b : Bool} (h : Yields env (tok.isLastAdmin role account) w b w') :
    (b ↔ (w.ledger tok.store).LastAdmin role account) ∧ w' = w := by
  unfold isLastAdmin at h
  unfold Ledger.LastAdmin
  split_ifs at h with hrole
  · simp only [returns_bind, returns_hasRole] at h
    obtain ⟨held, w1, ⟨rfl, rfl⟩, h⟩ := h
    cases hheld : (w1.ledger tok.store).role role account
    · simpa [hheld] using h
    · rw [hheld, if_pos rfl] at h
      simp only [returns_bind, returns_adminCount, returns_pure] at h
      obtain ⟨_, w2, ⟨rfl, rfl⟩, rfl, rfl⟩ := h
      simp [hrole]
  · simpa [hrole] using h

lemma performs_revokeRole (h : Yields env (tok.revokeRole role account) w out w') :
    Performs env tok (.revokeRole role account) w w' := by
  have hsame := sameBut_of_own (uses_revokeRole _ _) h
  simp only [revokeRole, returns_bind, returns_reject, returns_paid, returns_pure] at h
  obtain ⟨_, _, hmut, last, _, hlast, _, _, ⟨hnot, rfl⟩, _, _, hremove, _, _, ⟨-, rfl⟩, -, rfl⟩ := h
  obtain ⟨hmut, rfl⟩ := returns_ensureRoleMutable hmut
  obtain ⟨hlast, rfl⟩ := returns_isLastAdmin hlast
  exact .of_writes ⟨hmut, fun h => hnot (hlast.mpr h)⟩ trivial (returns_removeRole hremove) hsame
    rfl (by simp)

lemma performs_renounceRole {confirmation : Address}
    (h : Yields env (tok.renounceRole role confirmation) w out w') :
    Performs env tok (.renounceRole role) w w' := by
  have hsame := sameBut_of_own (uses_renounceRole _ _) h
  simp only [renounceRole, returns_bind, returns_reject, returns_paid, returns_pure] at h
  obtain ⟨_, _, ⟨-, rfl⟩, _, _, ⟨-, rfl⟩, last, _, hlast, _, _, ⟨hnot, rfl⟩, _, _, hremove, _, _,
    ⟨-, rfl⟩, -, rfl⟩ := h
  obtain ⟨hlast, rfl⟩ := returns_isLastAdmin hlast
  exact .of_writes (fun h => hnot (hlast.mpr h)) trivial (returns_removeRole hremove) hsame rfl
    (by simp)

lemma performs_renounceLastAdmin (h : Yields env tok.renounceLastAdmin w out w') :
    Performs env tok .renounceLastAdmin w w' := by
  have hsame := sameBut_of_own uses_renounceLastAdmin h
  simp [renounceLastAdmin, emitRole, ideal] at h
  obtain ⟨-, hrole, hcount, rfl, -⟩ := h
  have hdrop := ledger_setRole (w := w) (t := tok.store) roleDefaultAdmin tok.ctx.caller false
  refine ⟨⟨hrole, hcount⟩, trivial, ?_, by simp, by simp [Ledger.Wraps, addition], hsame⟩
  rw [ledger_withRenounced, ledger_setAdminCount]
  exact congrArg (fun l : Ledger => { l with adminCount := 0 }) hdrop

lemma performs_setRoleAdmin {admin : B256} (h : Yields env (tok.setRoleAdmin role admin) w out w') :
    Performs env tok (.setRoleAdmin role admin) w w' := by
  have hsame := sameBut_of_own (uses_setRoleAdmin _ _) h
  simp only [setRoleAdmin, returns_bind, returns_roleAdmin, returns_putRoleAdmin, returns_addLog,
    returns_paid, returns_pure] at h
  obtain ⟨_, w1, hmut, _, _, ⟨-, rfl⟩, _, _, rfl, _, _, ⟨-, rfl⟩, _, _, ⟨-, rfl⟩, -, rfl⟩ := h
  obtain ⟨hmut, rfl⟩ := returns_ensureRoleMutable hmut
  exact .of_writes hmut trivial ⟨ledger_putRoleAdmin _, rfl, rfl⟩ hsame rfl (by simp)

/-! ### Configuration and permits -/

lemma performs_setPause {args : Bytes} {on : Bool}
    (h : Yields env (tok.setPause args on) w out w') :
    ∃ features, readUint8Array args = .ok features ∧
      Performs env tok (.setPause on features) w w' := by
  have hsame := sameBut_of_own (uses_setPause _ _) h
  simp only [setPause, liftM_eq, returns_bind, returns_ofExcept, returns_reject,
    returns_ensureRole, returns_pausedChecked] at h
  obtain ⟨features, _, ⟨hfeatures, rfl⟩, _, _, ⟨-, rfl⟩, _, _, ⟨hrole, rfl⟩, _, _, ⟨-, rfl⟩, _, w1,
    ⟨rfl, rfl⟩, h⟩ := h
  simp only [returns_bind, returns_ofExcept, returns_setPaused, returns_addLog, returns_paid,
    returns_pure] at h
  obtain ⟨p, _, ⟨hmask, rfl⟩, _, _, rfl, _, _, ⟨-, rfl⟩, _, _, ⟨-, rfl⟩, -, rfl⟩ := h
  refine ⟨features, hfeatures, .of_writes hrole trivial ⟨?_, rfl, rfl⟩ hsame rfl (by simp)⟩
  rw [ledger_setPaused]
  simp only [apply, hmask]

lemma performs_updateSupplyCap {newCap : U256}
    (h : Yields env (tok.updateSupplyCap newCap) w out w') :
    Performs env tok (.updateSupplyCap newCap) w w' := by
  have hsame := sameBut_of_own (uses_updateSupplyCap _) h
  simp [updateSupplyCap, returns_ensureRole] at h
  obtain ⟨-, hrole, ⟨hsupply, hmax⟩, rfl, -⟩ := h
  exact .of_writes ⟨hrole, hsupply, hmax⟩ trivial ⟨ledger_setSupplyCap, rfl, rfl⟩ hsame rfl
    (by simp)

lemma performs_updatePolicy {word : B256} {id : U64}
    (h : Yields env (tok.updatePolicy word id) w out w') :
    ∃ scope, Scope.ofWord word = some scope ∧ Performs env tok (.updatePolicy scope id) w w' := by
  have hsame := sameBut_of_own (uses_updatePolicy _ _) h
  simp only [updatePolicy, laneOf, Scope.policyLane_eq, liftM_eq, returns_bind, returns_reject,
    returns_ensureRole, returns_ofExcept] at h
  obtain ⟨_, _, ⟨-, rfl⟩, _, _, ⟨hrole, rfl⟩, lane, w1, ⟨hlane, rfl⟩, h⟩ := h
  cases hscope : Scope.ofWord word with
  | none => simp [hscope] at hlane
  | some scope =>
    obtain rfl : (scope.slot, scope.offset) = lane := by simpa [hscope] using hlane
    simp [getPackedU64, setPackedU64] at h
    obtain ⟨hknown, rfl, -⟩ := h
    exact ⟨scope, rfl,
      .of_writes hrole hknown ⟨ledger_setPolicy scope id, rfl, rfl⟩ hsame rfl (by simp)⟩

lemma performs_permit {p : PermitArgs} (h : Yields env (tok.permit env p) w out w') :
    Performs env tok (.permit p) w w' := by
  have hsame := sameBut_of_own (uses_permit _) h
  simp only [permit, returns_bind, returns_reject, returns_blockTime, returns_nonce,
    returns_domainSeparator] at h
  obtain ⟨_, _, ⟨-, rfl⟩, _, _, ⟨howner, rfl⟩, _, _, ⟨rfl, rfl⟩, _, _, ⟨htime, rfl⟩, _, _,
    ⟨rfl, rfl⟩, domain, w1, ⟨hdomain, rfl⟩, h⟩ := h
  cases domain with
  | none => simp at h
  | some domain =>
    simp [emit] at h
    obtain ⟨hsigner, hspender, rfl, -⟩ := h
    refine .of_writes ⟨howner, hspender⟩ ⟨not_lt.mp htime, domain, hdomain, hsigner⟩
      ⟨?_, rfl, rfl⟩ hsame rfl (by simp)
    rw [ledger_setAllowance, ledger_setNonce]
    rfl

end Token
end RethBsc.Cas20
