import RethBsc.Cas20.Token
import RethBsc.PointUpdate

/-!
A token as what its holders and its admins see of it.

A `Ledger` is the state of one token without its storage layout, an `Action` one thing a call does
to it. `Permits` is the condition on the ledger under which the token carries an action out,
`apply` what becomes of the ledger. Conservation of the supply, the count of the admins and the
freeze that follows the renunciation of the last one are facts about these alone.
-/

namespace RethBsc.Cas20

open BitVec

/-- What a policy can be bound to. -/
inductive Scope
  | transferSender | transferReceiver | transferExecutor | mintReceiver | seizeExempt
  | seizeReceiver
  deriving DecidableEq

structure Ledger where
  supply : U256
  cap : U256
  balance : Address → U256
  allowance : Address → Address → U256
  nonce : Address → U256
  role : B256 → Address → Bool
  roleAdmin : B256 → B256
  adminCount : U256
  paused : U256
  policy : Scope → U64

/-- What one call does to the ledger; `quiet` is any call that leaves it alone. -/
inductive Action
  | quiet
  | approve (spender : Address) (amount : U256)
  | transfer (dst : Address) (amount : U256)
  | transferFrom (src dst : Address) (amount : U256)
  | permit (p : Token.PermitArgs)
  | mint (dst : Address) (amount : U256)
  | burn (amount : U256)
  | seize (src dst : Address) (amount : U256)
  | grantRole (role : B256) (account : Address)
  | revokeRole (role : B256) (account : Address)
  /-- Of the caller's own role. -/
  | renounceRole (role : B256)
  | renounceLastAdmin
  | setRoleAdmin (role newAdminRole : B256)
  | setPause (on : Bool) (features : List ℕ)
  | updateSupplyCap (newCap : U256)
  | updatePolicy (scope : Scope) (id : U64)

namespace Action

def movesBalance : Action → Bool
  | .transfer _ _ | .transferFrom _ _ _ | .mint _ _ | .burn _ | .seize _ _ _ => true
  | _ => false

def changesSupply : Action → Bool
  | .mint _ _ | .burn _ | .updateSupplyCap _ => true
  | _ => false

def changesAllowance : Action → Bool
  | .approve _ _ | .transferFrom _ _ _ | .permit _ => true
  | _ => false

def feature : Action → Option ℕ
  | .transfer _ _ | .transferFrom _ _ _ => some pauseTransfer
  | .mint _ _ => some pauseMint
  | .burn _ => some pauseBurn
  | .seize _ _ _ => some pauseSeize
  | _ => none

def changesRoles : Action → Bool
  | .grantRole _ _ | .revokeRole _ _ | .renounceRole _ | .renounceLastAdmin
  | .setRoleAdmin _ _ => true
  | _ => false

/-- The account whose nonce is used up. -/
def signer : Action → Option Address
  | .permit p => some p.owner
  | _ => none

end Action

namespace Ledger

def empty : Ledger where
  supply := 0
  cap := 0
  balance _ := 0
  allowance _ _ := 0
  nonce _ := 0
  role _ _ := false
  roleAdmin _ := 0
  adminCount := 0
  paused := 0
  policy _ := 0

variable (l : Ledger) (caller : Address)

/-! ### What actions do -/

def debit (a : Address) (amount : U256) : Ledger :=
  { l with balance := Function.update l.balance a (l.balance a - amount) }

def credit (a : Address) (amount : U256) : Ledger :=
  { l with balance := Function.update l.balance a (l.balance a + amount) }

def move (src dst : Address) (amount : U256) : Ledger := (l.debit src amount).credit dst amount

def setAllowance (owner spender : Address) (v : U256) : Ledger :=
  { l with
    allowance := Function.update l.allowance owner (Function.update (l.allowance owner) spender v) }

def spend (owner spender : Address) (amount : U256) : Ledger :=
  if l.allowance owner spender = BitVec.allOnes 256 then l
  else l.setAllowance owner spender (l.allowance owner spender - amount)

def setRole (role : B256) (a : Address) (enabled : Bool) : Ledger :=
  { l with role := Function.update l.role role (Function.update (l.role role) a enabled) }

/-- The admins are counted. -/
def grant (role : B256) (a : Address) : Ledger :=
  if l.role role a then l
  else { l.setRole role a true with
    adminCount := if role = roleDefaultAdmin then l.adminCount + 1 else l.adminCount }

def drop (role : B256) (a : Address) : Ledger :=
  if l.role role a then { l.setRole role a false with
    adminCount := if role = roleDefaultAdmin then l.adminCount - 1 else l.adminCount }
  else l

def apply : Action → Ledger
  | .quiet => l
  | .approve spender amount => l.setAllowance caller spender amount
  | .transfer dst amount => l.move caller dst amount
  | .transferFrom src dst amount => (l.spend src caller amount).move src dst amount
  | .permit p =>
    { l.setAllowance p.owner p.spender p.value with
      nonce := Function.update l.nonce p.owner (l.nonce p.owner + 1) }
  | .mint dst amount => { l.credit dst amount with supply := l.supply + amount }
  | .burn amount => { l.debit caller amount with supply := l.supply - amount }
  | .seize src dst amount => l.move src dst amount
  | .grantRole role a => l.grant role a
  | .revokeRole role a => l.drop role a
  | .renounceRole role => l.drop role caller
  | .renounceLastAdmin => { l.setRole roleDefaultAdmin caller false with adminCount := 0 }
  | .setRoleAdmin role newAdminRole =>
    { l with roleAdmin := Function.update l.roleAdmin role newAdminRole }
  | .setPause on features =>
    match Token.pauseMask on features l.paused with
    | .ok p => { l with paused := p }
    | .error _ => l
  | .updateSupplyCap newCap => { l with cap := newCap }
  | .updatePolicy scope id => { l with policy := Function.update l.policy scope id }

/-- The account and the amount that an action adds to a balance, and the ledger it does so on. -/
def addition : Action → Option (Ledger × Address × U256)
  | .transfer dst amount => some (l.debit caller amount, dst, amount)
  | .transferFrom src dst amount => some (l.debit src amount, dst, amount)
  | .seize src dst amount => some (l.debit src amount, dst, amount)
  | .mint dst amount => some (l, dst, amount)
  | _ => none

/-- The addition of the action does not fit into a balance. -/
def Wraps (act : Action) : Prop :=
  ∃ m a x, l.addition caller act = some (m, a, x) ∧ 2 ^ 256 ≤ (m.balance a).toNat + x.toNat

/-! ### When they are carried out -/

/-- A privileged call needs no role. -/
def Holds (privileged : Bool) (role : B256) : Prop := privileged = true ∨ l.role role caller = true

/-- The roles can be changed: there is an admin, unless this is the bootstrap of a token that has
not renounced its last one, and the caller holds the admin role. -/
def RoleMutable (privileged renounced : Bool) (role : B256) : Prop :=
  (privileged = false ∨ renounced = true → l.adminCount ≠ 0) ∧
    l.Holds caller privileged (l.roleAdmin role)

def LastAdmin (role : B256) (a : Address) : Prop :=
  role = roleDefaultAdmin ∧ l.role role a = true ∧ l.adminCount = 1

def Permits (privileged renounced : Bool) : Action → Prop
  | .quiet => True
  | .approve spender _ => caller ≠ 0 ∧ spender ≠ 0
  | .transfer dst amount =>
    l.paused.getLsbD pauseTransfer = false ∧ caller ≠ 0 ∧ dst ≠ 0 ∧ amount ≤ l.balance caller
  | .transferFrom src dst amount =>
    l.paused.getLsbD pauseTransfer = false ∧ src ≠ 0 ∧ dst ≠ 0 ∧
      amount ≤ l.allowance src caller ∧ amount ≤ l.balance src
  | .permit p => p.owner ≠ 0 ∧ p.spender ≠ 0
  | .mint dst amount =>
    l.paused.getLsbD pauseMint = false ∧ l.Holds caller privileged roleMint ∧ dst ≠ 0 ∧
      l.supply.toNat + amount.toNat ≤ l.cap.toNat
  | .burn amount =>
    l.paused.getLsbD pauseBurn = false ∧ l.Holds caller privileged roleBurn ∧
      amount ≤ l.balance caller ∧ amount ≤ l.supply
  | .seize src dst amount =>
    l.paused.getLsbD pauseSeize = false ∧ l.Holds caller privileged roleSeize ∧ src ≠ dst ∧
      src ≠ 0 ∧ dst ≠ 0 ∧ amount ≤ l.balance src
  | .grantRole role _ => l.RoleMutable caller privileged renounced role
  | .revokeRole role a => l.RoleMutable caller privileged renounced role ∧ ¬ l.LastAdmin role a
  | .renounceRole role => ¬ l.LastAdmin role caller
  | .renounceLastAdmin => l.role roleDefaultAdmin caller = true ∧ l.adminCount = 1
  | .setRoleAdmin role _ => l.RoleMutable caller privileged renounced role
  | .setPause on _ => l.Holds caller privileged (if on then rolePause else roleUnpause)
  | .updateSupplyCap newCap =>
    l.Holds caller privileged roleDefaultAdmin ∧ l.supply ≤ newCap ∧ newCap ≤ noSupplyCap
  | .updatePolicy _ _ => l.Holds caller privileged roleDefaultAdmin

/-! ### What actions leave alone -/

section Frame

variable {l caller}

open Ledger

@[simp] lemma balance_spend (owner spender : Address) (amount : U256) :
    (l.spend owner spender amount).balance = l.balance := by
  unfold spend
  split <;> rfl

variable {act : Action}

lemma balance_apply (h : act.movesBalance = false) : (l.apply caller act).balance = l.balance := by
  cases act with
  | transfer | transferFrom | mint | burn | seize => cases h
  | grantRole | revokeRole | renounceRole | setPause =>
    simp only [apply, grant, drop]
    split <;> rfl
  | _ => rfl

lemma supply_apply (h : act.changesSupply = false) :
    (l.apply caller act).supply = l.supply ∧ (l.apply caller act).cap = l.cap := by
  cases act with
  | mint | burn | updateSupplyCap => cases h
  | transferFrom | grantRole | revokeRole | renounceRole | setPause =>
    simp only [apply, spend, grant, drop]
    split <;> exact ⟨rfl, rfl⟩
  | _ => exact ⟨rfl, rfl⟩

lemma allowance_apply (h : act.changesAllowance = false) :
    (l.apply caller act).allowance = l.allowance := by
  cases act with
  | approve | transferFrom | permit => cases h
  | grantRole | revokeRole | renounceRole | setPause =>
    simp only [apply, grant, drop]
    split <;> rfl
  | _ => rfl

lemma roles_apply (h : act.changesRoles = false) :
    (l.apply caller act).role = l.role ∧ (l.apply caller act).roleAdmin = l.roleAdmin ∧
      (l.apply caller act).adminCount = l.adminCount := by
  cases act with
  | grantRole | revokeRole | renounceRole | renounceLastAdmin | setRoleAdmin => cases h
  | transferFrom | setPause =>
    simp only [apply, spend]
    split <;> exact ⟨rfl, rfl, rfl⟩
  | _ => exact ⟨rfl, rfl, rfl⟩

lemma policy_apply (h : ∀ scope id, act ≠ .updatePolicy scope id) :
    (l.apply caller act).policy = l.policy := by
  cases act with
  | updatePolicy scope id => exact absurd rfl (h scope id)
  | transferFrom | grantRole | revokeRole | renounceRole | setPause =>
    simp only [apply, spend, grant, drop]
    split <;> rfl
  | _ => rfl

lemma nonce_apply (o : Address) :
    (l.apply caller act).nonce o = l.nonce o + if act.signer = some o then 1 else 0 := by
  cases act with
  | permit p =>
    by_cases ho : p.owner = o
    · subst ho
      simp [apply, Action.signer]
    · simp [apply, Action.signer, ho, Function.update_of_ne (Ne.symm ho)]
  | transferFrom | grantRole | revokeRole | renounceRole | setPause =>
    simp only [apply, spend, grant, drop]
    split <;> exact (BitVec.add_zero _).symm
  | _ => exact (BitVec.add_zero _).symm

end Frame

/-! ### The supply -/

/-- The balances add up to the supply, which is within the cap. -/
def Conserved : Prop :=
  ∑ a, (l.balance a).toNat = l.supply.toNat ∧ l.supply ≤ l.cap ∧ l.cap ≤ noSupplyCap

section Supply

variable {l caller} {a : Address} {amount : U256}

lemma total_debit (h : amount ≤ l.balance a) :
    ∑ b, ((l.debit a amount).balance b).toNat + amount.toNat = ∑ b, (l.balance b).toNat := by
  have hsum := sum_comp_update BitVec.toNat l.balance a (l.balance a - amount)
  rw [toNat_sub_of_le h] at hsum
  have hle := le_sum BitVec.toNat l.balance a
  have hamount : amount.toNat ≤ (l.balance a).toNat := h
  simp only [debit]
  omega

lemma total_credit (h : (l.balance a).toNat + amount.toNat < 2 ^ 256) :
    ∑ b, ((l.credit a amount).balance b).toNat = ∑ b, (l.balance b).toNat + amount.toNat := by
  have hsum := sum_comp_update BitVec.toNat l.balance a (l.balance a + amount)
  rw [toNat_add_of_lt h] at hsum
  simp only [credit]
  omega

section

variable (h : l.Conserved)
include h

lemma supply_lt : l.supply.toNat < 2 ^ 128 := by
  have h1 : l.supply.toNat ≤ l.cap.toNat := h.2.1
  have h2 : l.cap.toNat ≤ noSupplyCap.toNat := h.2.2
  have h3 : noSupplyCap.toNat = 2 ^ 128 - 1 := rfl
  omega

lemma fits_of_debit {src : Address} (hle : amount ≤ l.balance src) (dst : Address) :
    ((l.debit src amount).balance dst).toNat + amount.toNat < 2 ^ 256 := by
  have hone := le_sum BitVec.toNat (l.debit src amount).balance dst
  have htotal := total_debit hle
  have hsupply := supply_lt h
  have hsum := h.1
  omega

lemma Conserved.move {src : Address} (hle : amount ≤ l.balance src)
    (dst : Address) : (l.move src dst amount).Conserved := by
  refine ⟨?_, h.2⟩
  have hc := total_credit (fits_of_debit h hle dst)
  have hd := total_debit hle
  have hsum := h.1
  change _ = l.supply.toNat
  unfold Ledger.move
  omega

lemma fits_of_mint (hcap : l.supply.toNat + amount.toNat ≤ l.cap.toNat)
    (dst : Address) : (l.balance dst).toNat + amount.toNat < 2 ^ 256 := by
  have hone := le_sum BitVec.toNat l.balance dst
  have hbound : l.cap.toNat ≤ noSupplyCap.toNat := h.2.2
  have hmax : noSupplyCap.toNat = 2 ^ 128 - 1 := rfl
  have hsum := h.1
  omega

lemma Conserved.mint (hcap : l.supply.toNat + amount.toNat ≤ l.cap.toNat) (dst : Address) :
    ({ l.credit dst amount with supply := l.supply + amount } : Ledger).Conserved := by
  have hsupply : (l.supply + amount).toNat = l.supply.toNat + amount.toNat :=
    toNat_add_of_lt (by have := l.cap.isLt; omega)
  refine ⟨?_, ?_, h.2.2⟩
  · have hc := total_credit (fits_of_mint h hcap dst)
    have hsum := h.1
    simp only [hsupply]
    omega
  · change (l.supply + amount).toNat ≤ l.cap.toNat
    omega

lemma Conserved.burn (hle : amount ≤ l.balance a) (hs : amount ≤ l.supply) :
    ({ l.debit a amount with supply := l.supply - amount } : Ledger).Conserved := by
  have hsupply : (l.supply - amount).toNat = l.supply.toNat - amount.toNat := toNat_sub_of_le hs
  refine ⟨?_, ?_, h.2.2⟩
  · have hd := total_debit hle
    have hsum := h.1
    simp only [hsupply]
    omega
  · have hcap : l.supply.toNat ≤ l.cap.toNat := h.2.1
    change (l.supply - amount).toNat ≤ l.cap.toNat
    omega

lemma Conserved.spend (owner spender : Address) (amount : U256) :
    (l.spend owner spender amount).Conserved := by
  unfold Ledger.spend
  split
  · exact h
  · exact h

/-- Whatever the token carries out keeps the supply. -/
theorem Conserved.apply {privileged renounced : Bool} {act : Action}
    (hp : l.Permits caller privileged renounced act) : (l.apply caller act).Conserved := by
  have hframe : act.movesBalance = false → act.changesSupply = false →
      (l.apply caller act).Conserved := by
    intro hb hs
    have hkeep : (l.apply caller act).supply = l.supply ∧ (l.apply caller act).cap = l.cap :=
      supply_apply hs
    rw [Conserved, balance_apply hb, hkeep.1, hkeep.2]
    exact h
  cases act with
  | transfer dst amount => exact h.move hp.2.2.2 dst
  | transferFrom src dst amount =>
    refine (h.spend src caller amount).move ?_ dst
    simpa using hp.2.2.2.2
  | mint dst amount => exact h.mint hp.2.2.2 dst
  | burn amount => exact h.burn hp.2.2.1 hp.2.2.2
  | seize src dst amount => exact h.move hp.2.2.2.2.2 dst
  | updateSupplyCap newCap => exact ⟨h.1, hp.2⟩
  | _ => exact hframe rfl rfl

theorem Conserved.not_wraps {privileged renounced : Bool} {act : Action}
    (hp : l.Permits caller privileged renounced act) : ¬ l.Wraps caller act := by
  rintro ⟨m, a, x, hadd, hwrap⟩
  refine absurd hwrap (not_le.mpr ?_)
  cases act with
  | transfer dst amount =>
    cases hadd
    exact fits_of_debit h hp.2.2.2 _
  | transferFrom src dst amount =>
    cases hadd
    exact fits_of_debit h hp.2.2.2.2 _
  | seize src dst amount =>
    cases hadd
    exact fits_of_debit h hp.2.2.2.2.2 _
  | mint dst amount =>
    cases hadd
    exact fits_of_mint h hp.2.2.2 _
  | _ => cases hadd

end

end Supply

/-! ### The admins -/

def Counted : Prop := l.adminCount.toNat = count (l.role roleDefaultAdmin)

section Admins

variable {l caller}

lemma role_setRole (role r : B256) (a b : Address) (enabled : Bool) :
    (l.setRole role a enabled).role r b = if r = role ∧ b = a then enabled else l.role r b := by
  by_cases hr : r = role
  · subst hr
    by_cases hb : b = a
    · simp [setRole, hb]
    · simp [setRole, hb]
  · simp [setRole, hr]

lemma count_lt (f : Address → Bool) : count f < 2 ^ 256 :=
  calc count f ≤ Fintype.card Address := Finset.card_le_univ _
    _ = 2 ^ 160 := Fintype.card_fin _
    _ < 2 ^ 256 := by decide

lemma Counted.grant (h : l.Counted) (role : B256) (a : Address) : (l.grant role a).Counted := by
  unfold Ledger.grant
  split_ifs with hheld hrole
  · exact h
  · subst hrole
    have hc := count_update (l.role roleDefaultAdmin) a true
    have hlt := count_lt (Function.update (l.role roleDefaultAdmin) a true)
    have hfalse : l.role roleDefaultAdmin a = false := by simpa using hheld
    rw [hfalse] at hc
    simp only [Bool.toNat_false, Bool.toNat_true, add_zero] at hc
    simp only [Counted, setRole, Function.update_self]
    rw [toNat_add_of_lt (by rw [h]; simpa [← hc] using hlt), h, hc]
    rfl
  · simpa [Counted, setRole, Function.update_of_ne (Ne.symm hrole)] using h

lemma Counted.drop (h : l.Counted) (role : B256) (a : Address) : (l.drop role a).Counted := by
  unfold Ledger.drop
  split_ifs with hheld hrole
  · subst hrole
    have hc := count_update (l.role roleDefaultAdmin) a false
    rw [hheld] at hc
    simp only [Bool.toNat_false, Bool.toNat_true, add_zero] at hc
    have hone : (1 : U256) ≤ l.adminCount := by
      change (1 : U256).toNat ≤ l.adminCount.toNat
      rw [h, ← hc]
      exact Nat.le_add_left _ _
    simp only [Counted, setRole, Function.update_self]
    rw [toNat_sub_of_le hone, h, ← hc]
    exact Nat.add_sub_cancel _ 1
  · simpa [Counted, setRole, Function.update_of_ne (Ne.symm hrole)] using h
  · exact h

lemma Counted.no_admin (h : l.Counted) (hz : l.adminCount = 0) (a : Address) :
    l.role roleDefaultAdmin a = false := by
  have hcount : count (l.role roleDefaultAdmin) = 0 := by
    rw [← h, hz]
    rfl
  exact (count_eq_zero _).mp hcount a

variable {privileged renounced : Bool} {act : Action} {role : B256} {a : Address}

theorem Counted.apply (h : l.Counted) (hp : l.Permits caller privileged renounced act) :
    (l.apply caller act).Counted := by
  have hframe : act.changesRoles = false → (l.apply caller act).Counted := by
    intro hc
    have hkeep : (l.apply caller act).role = l.role ∧ _ ∧
        (l.apply caller act).adminCount = l.adminCount := roles_apply hc
    rw [Counted, hkeep.1, hkeep.2.2]
    exact h
  cases act with
  | grantRole role a => exact h.grant role a
  | revokeRole role a => exact h.drop role a
  | renounceRole role => exact h.drop role caller
  | renounceLastAdmin =>
    have hc := count_update (l.role roleDefaultAdmin) caller false
    have hone : l.adminCount.toNat = 1 := by rw [hp.2]; rfl
    rw [hp.1, ← h, hone] at hc
    simp only [Bool.toNat_false, Bool.toNat_true, add_zero] at hc
    simp only [Counted, apply, setRole, Function.update_self]
    exact (Nat.succ.inj hc).symm
  | setRoleAdmin role newAdminRole => exact h
  | _ => exact hframe rfl

lemma adminCount_grant_ne_zero (h : l.Counted) (hz : l.adminCount ≠ 0) :
    (l.grant role a).adminCount ≠ 0 := by
  intro hzero
  have hnone := (h.grant role a).no_admin hzero a
  unfold grant at hzero hnone
  split_ifs at hzero hnone with hheld hrole
  · exact hz hzero
  · simp [setRole, hrole] at hnone
  · exact hz hzero

lemma adminCount_drop_ne_zero (hlast : ¬ l.LastAdmin role a) (hz : l.adminCount ≠ 0) :
    (l.drop role a).adminCount ≠ 0 := by
  unfold drop
  split_ifs with hheld hrole
  · intro hzero
    have hone : l.adminCount = 1 := sub_eq_zero.mp hzero
    exact hlast ⟨hrole, hheld, hone⟩
  · exact hz
  · exact hz

/-- Only the renunciation of the last admin leaves a token without one. -/
theorem eq_renounceLastAdmin (h : l.Counted) (hp : l.Permits caller privileged renounced act)
    (hz : l.adminCount ≠ 0) (hz' : (l.apply caller act).adminCount = 0) :
    act = .renounceLastAdmin := by
  cases act with
  | renounceLastAdmin => rfl
  | grantRole role a => exact absurd hz' (adminCount_grant_ne_zero h hz)
  | revokeRole role a => exact absurd hz' (adminCount_drop_ne_zero hp.2 hz)
  | renounceRole role => exact absurd hz' (adminCount_drop_ne_zero hp hz)
  | setRoleAdmin role newAdminRole => exact absurd hz' hz
  | _ => exact absurd hz' (by rwa [(roles_apply rfl).2.2])

/-- What a ledger keeps once its roles are frozen. -/
structure Frozen (l l' : Ledger) : Prop where
  adminCount : l'.adminCount = 0
  roleAdmin : l'.roleAdmin = l.roleAdmin
  /-- Roles are only ever given up. -/
  role : ∀ r a, l'.role r a = true → l.role r a = true

lemma Frozen.refl (hz : l.adminCount = 0) : l.Frozen l := ⟨hz, rfl, fun _ _ h => h⟩

lemma Frozen.trans {l' l'' : Ledger} (h : l.Frozen l') (h' : l'.Frozen l'') : l.Frozen l'' :=
  ⟨h'.adminCount, h'.roleAdmin.trans h.roleAdmin, fun r a hr => h.role r a (h'.role r a hr)⟩

/-- Without an admin, a caller outside the bootstrap cannot change a role; nor can the bootstrap
once it has renounced. -/
lemma not_roleMutable (hz : l.adminCount = 0) (hf : privileged = false ∨ renounced)
    (role : B256) : ¬ l.RoleMutable caller privileged renounced role := fun h => h.1 hf hz

lemma frozen_drop (h : l.Counted) (hz : l.adminCount = 0) (role : B256) (a : Address) :
    l.Frozen (l.drop role a) := by
  unfold drop
  split_ifs with hheld hrole
  · -- nobody holds the admin role, so this one is not dropped
    subst hrole
    rw [h.no_admin hz a] at hheld
    cases hheld
  · refine ⟨hz, rfl, fun r b hr => ?_⟩
    rw [role_setRole] at hr
    split at hr
    · cases hr
    · exact hr
  · exact .refl hz

/-- Once there is no admin the roles are frozen. -/
theorem frozen_apply (h : l.Counted) (hz : l.adminCount = 0)
    (hf : privileged = false ∨ renounced) (hp : l.Permits caller privileged renounced act) :
    l.Frozen (l.apply caller act) := by
  have hframe : act.changesRoles = false → l.Frozen (l.apply caller act) := by
    intro hc
    have hkeep : (l.apply caller act).role = l.role ∧
        (l.apply caller act).roleAdmin = l.roleAdmin ∧ _ := roles_apply hc
    exact ⟨hkeep.2.2.trans hz, hkeep.2.1, fun r a hr => hkeep.1 ▸ hr⟩
  cases act with
  | grantRole role a => exact (not_roleMutable hz hf role hp).elim
  | revokeRole role a => exact (not_roleMutable hz hf role hp.1).elim
  | setRoleAdmin role newAdminRole => exact (not_roleMutable hz hf role hp).elim
  | renounceRole role => exact frozen_drop h hz role caller
  | renounceLastAdmin => exact absurd ((h.no_admin hz caller).symm.trans hp.1) (by decide)
  | _ => exact hframe rfl

/-- Outside the bootstrap the cap and the policies of a token without an admin stay. -/
theorem config_of_frozen (h : l.Counted) (hz : l.adminCount = 0)
    (hp : l.Permits caller false renounced act) :
    (l.apply caller act).cap = l.cap ∧ (l.apply caller act).policy = l.policy := by
  have hnot : ¬ l.Holds caller false roleDefaultAdmin := by
    simp [Holds, h.no_admin hz caller]
  cases act with
  | updateSupplyCap newCap => exact (hnot hp.1).elim
  | updatePolicy scope id => exact (hnot hp).elim
  | mint | burn => exact ⟨rfl, rfl⟩
  | _ => exact ⟨(supply_apply rfl).2, policy_apply (by simp)⟩

lemma role_drop_lost {r : B256} {b : Address} (hr : l.role r b)
    (hr' : (l.drop role a).role r b = false) : r = role ∧ b = a := by
  unfold drop at hr'
  split at hr'
  · by_contra hne
    have hkeep : (l.setRole role a false).role r b = l.role r b := by rw [role_setRole, if_neg hne]
    exact absurd (hr.symm.trans (hkeep.symm.trans hr')) (by decide)
  · exact absurd (hr.symm.trans hr') (by decide)

/-- In a token without an admin a role is lost only by its holder, who renounces it. -/
theorem eq_renounceRole (h : l.Counted) (hz : l.adminCount = 0)
    (hf : privileged = false ∨ renounced) (hp : l.Permits caller privileged renounced act)
    {r : B256} (hr : l.role r a) (hr' : (l.apply caller act).role r a = false) :
    act = .renounceRole r ∧ a = caller := by
  have hsame : (l.apply caller act).role r a ≠ l.role r a := by simp [hr, hr']
  cases act with
  | renounceRole role =>
    obtain ⟨rfl, ha⟩ := role_drop_lost hr hr'
    exact ⟨rfl, ha⟩
  | grantRole role a => exact (not_roleMutable hz hf role hp).elim
  | revokeRole role a => exact (not_roleMutable hz hf role hp.1).elim
  | renounceLastAdmin => exact absurd ((h.no_admin hz caller).symm.trans hp.1) (by decide)
  | setRoleAdmin role newAdminRole => exact absurd rfl hsame
  | _ => exact absurd (by rw [(roles_apply rfl).1]) hsame

end Admins

/-! ### The start -/

/-- The ledger of a token that has just been created: the widest cap and at most one admin. -/
def created (admin : Address) : Ledger :=
  if admin = 0 then { empty with cap := noSupplyCap }
  else ({ empty with cap := noSupplyCap } : Ledger).grant roleDefaultAdmin admin

section Start

lemma conserved_empty : empty.Conserved := by
  simp [Conserved, empty, noSupplyCap]

lemma conserved_created (admin : Address) : (created admin).Conserved := by
  have hstart : ({ empty with cap := noSupplyCap } : Ledger).Conserved := by
    simp [Conserved, empty, noSupplyCap]
  unfold created
  split_ifs
  · exact hstart
  · have hp : ({ empty with cap := noSupplyCap } : Ledger).Permits 0 true false
        (.grantRole roleDefaultAdmin admin) := ⟨by simp, .inl rfl⟩
    simpa only [apply] using hstart.apply hp

lemma counted_empty : empty.Counted := by
  simp [Counted, empty, (count_eq_zero _).mpr]

lemma counted_created (admin : Address) : (created admin).Counted := by
  have hstart : ({ empty with cap := noSupplyCap } : Ledger).Counted := counted_empty
  unfold created
  split_ifs
  · exact hstart
  · exact hstart.grant roleDefaultAdmin admin

lemma policy_created (admin : Address) (scope : Scope) : (created admin).policy scope = 0 := by
  unfold created grant
  split_ifs <;> rfl

end Start

/-! ### The holders -/

section Holders

variable {l caller} {a src dst : Address} {amount : U256} {act : Action}

lemma balance_debit_of_ne (h : a ≠ src) :
    (l.debit src amount).balance a = l.balance a := Function.update_of_ne h _ _

lemma le_balance_credit (h : (l.balance dst).toNat + amount.toNat < 2 ^ 256) :
    l.balance a ≤ (l.credit dst amount).balance a := by
  by_cases ha : a = dst
  · subst ha
    change (l.balance a).toNat ≤ ((l.credit a amount).balance a).toNat
    simp only [credit, Function.update_self]
    rw [toNat_add_of_lt h]
    exact Nat.le_add_right _ _
  · exact (Function.update_of_ne ha _ _).ge

lemma eq_of_balance_move_lt (h : l.Conserved) (hle : amount ≤ l.balance src)
    (hlt : (l.move src dst amount).balance a < l.balance a) : a = src := by
  by_contra hne
  have hc := le_balance_credit (a := a) (fits_of_debit h hle dst)
  rw [balance_debit_of_ne hne] at hc
  exact absurd hlt (not_lt.mpr hc)

/-- The actions that take from the balance of somebody else than their caller. -/
theorem takes_of_balance_lt (h : l.Conserved) {privileged renounced : Bool}
    (hp : l.Permits caller privileged renounced act) (ha : a ≠ caller)
    (hlt : (l.apply caller act).balance a < l.balance a) :
    (∃ dst amount, act = .transferFrom a dst amount) ∨ ∃ dst amount, act = .seize a dst amount := by
  cases act with
  | transferFrom src dst amount =>
    have hle : amount ≤ (l.spend src caller amount).balance src := by
      simpa using hp.2.2.2.2
    have hlt' : ((l.spend src caller amount).move src dst amount).balance a <
        (l.spend src caller amount).balance a := by
      rw [balance_spend]
      exact hlt
    obtain rfl := eq_of_balance_move_lt (h.spend src caller amount) hle hlt'
    exact .inl ⟨dst, amount, rfl⟩
  | seize src dst amount =>
    obtain rfl := eq_of_balance_move_lt h hp.2.2.2.2.2 hlt
    exact .inr ⟨dst, amount, rfl⟩
  | transfer dst amount => exact absurd (eq_of_balance_move_lt h hp.2.2.2 hlt) ha
  | mint dst amount =>
    exact absurd hlt (not_lt.mpr (le_balance_credit (fits_of_mint h hp.2.2.2 dst)))
  | burn amount =>
    have hsame : (l.apply caller (.burn amount)).balance a = l.balance a := balance_debit_of_ne ha
    rw [hsame] at hlt
    exact absurd hlt (lt_irrefl _)
  | _ =>
    rw [balance_apply rfl] at hlt
    exact absurd hlt (lt_irrefl _)

/-- A balance changes only under a feature that is not paused. -/
theorem unpaused_of_balance_ne {privileged renounced : Bool}
    (hp : l.Permits caller privileged renounced act)
    (hne : (l.apply caller act).balance ≠ l.balance) :
    ∃ f, act.feature = some f ∧ l.paused.getLsbD f = false := by
  cases act with
  | transfer | transferFrom | mint | burn | seize => exact ⟨_, rfl, hp.1⟩
  | _ => exact absurd (balance_apply rfl) hne

lemma allowance_setAllowance (owner spender o s : Address) (v : U256) :
    (l.setAllowance owner spender v).allowance o s =
      if o = owner ∧ s = spender then v else l.allowance o s := by
  by_cases ho : o = owner
  · subst ho
    by_cases hs : s = spender
    · simp [setAllowance, hs]
    · simp [setAllowance, hs]
  · simp [setAllowance, ho]

lemma eq_of_setAllowance_ne {owner spender o s : Address} {v : U256}
    (h : (l.setAllowance owner spender v).allowance o s ≠ l.allowance o s) :
    o = owner ∧ s = spender := by
  by_contra hne
  exact h (by rw [allowance_setAllowance, if_neg hne])

lemma allowance_transferFrom :
    (l.apply caller (.transferFrom src dst amount)).allowance src caller =
      if l.allowance src caller = allOnes 256 then l.allowance src caller
      else l.allowance src caller - amount := by
  have hmove : (l.apply caller (.transferFrom src dst amount)).allowance =
      (l.spend src caller amount).allowance := rfl
  rw [hmove, spend]
  split_ifs with hinf
  · rfl
  · rw [allowance_setAllowance, if_pos ⟨rfl, rfl⟩]

/-- The actions that change an allowance: the owner's approval or permit, or its use. -/
theorem sets_of_allowance_ne {o s : Address}
    (h : (l.apply caller act).allowance o s ≠ l.allowance o s) :
    (∃ amount, act = .approve s amount ∧ o = caller) ∨
      (∃ p, act = .permit p ∧ p.owner = o ∧ p.spender = s) ∨
      ∃ dst amount, act = .transferFrom o dst amount ∧ s = caller := by
  cases act with
  | approve spender amount =>
    obtain ⟨ho, rfl⟩ := eq_of_setAllowance_ne h
    exact .inl ⟨amount, rfl, ho⟩
  | permit p =>
    obtain ⟨ho, hs⟩ := eq_of_setAllowance_ne h
    exact .inr (.inl ⟨p, rfl, ho.symm, hs.symm⟩)
  | transferFrom src dst amount =>
    have hspend : (l.spend src caller amount).allowance o s ≠ l.allowance o s := h
    unfold spend at hspend
    split at hspend
    · exact absurd rfl hspend
    · obtain ⟨rfl, hs⟩ := eq_of_setAllowance_ne hspend
      exact .inr (.inr ⟨dst, amount, rfl, hs⟩)
  | _ => exact absurd (by rw [allowance_apply rfl]) h

end Holders

end Ledger

end RethBsc.Cas20
