import RethBsc.Cas20.Confinement
import RethBsc.Cas20.Ledger
import RethBsc.Cas20.Registry
import RethBsc.Cas20.World

/-!
The ideal run of the accessors.

On a world every charge is paid, so an accessor is a lookup or an update. `World.ledger` and
`World.registry` read the state of a token and of the policy registry off the storage, and each
write of the layout is an update of one of their fields. These equations are all that the proofs
about entry points use of the layout.
-/

namespace RethBsc.Cas20

open Prog World Function Registry Scope

/-! ### Small routines -/

section Control

variable {σ : Type} {h : (o : Op) → σ → o.Answer × σ} {s s' : σ} {u : Unit} {c : Prop}

@[simp] lemma returns_reject [Decidable c] {e : Cas20Err} :
    Returns h (reject c e) s u s' ↔ ¬ c ∧ s' = s := by
  by_cases hc : c <;> simp [reject, hc]

@[simp] lemma returns_paid {done : Bool} : Returns h (paid done) s u s' ↔ done ∧ s' = s := by
  simp [paid]

lemma returns_whenever [Decidable c] {p : Routine Unit} :
    Returns h (whenever c p) s u s' ↔ (c → Returns h p s u s') ∧ (¬ c → s' = s) := by
  by_cases hc : c <;> simp [whenever, hc]

lemma returns_whenever_check {C : Prop} [Decidable c] {p : Routine Unit}
    (hp : ∀ s', Returns h p s u s' ↔ C ∧ s' = s) :
    Returns h (whenever c p) s u s' ↔ (c → C) ∧ s' = s := by
  by_cases hc : c <;> simp [whenever, hc, hp]

end Control

/-- The ideal run of the routine returns the answer. -/
abbrev Yields (env : Env) {α : Type} (p : Routine α) (w : World) (a : α) (w' : World) : Prop :=
  Returns (ideal env) p w a w'

/-- The routine looks something up. -/
abbrev Finds (env : Env) (w : World) {α : Type} (p : Routine α) (x : α) : Prop :=
  ∀ {a w'}, Returns (ideal env) p w a w' ↔ a = x ∧ w' = w

variable {env : Env} {α : Type} {w : World} {p : Routine α}

lemma returns_then {β : Type} {f : α → Routine β} {x : α} {y : β}
    (hp : Finds env w p x) (hf : Finds env w (f x) y) : Finds env w (p >>= f) y := by
  intro b w'
  rw [returns_bind]
  constructor
  · rintro ⟨a, w1, h1, h2⟩
    obtain ⟨rfl, rfl⟩ := hp.mp h1
    exact hf.mp h2
  · exact fun h => ⟨x, w, hp.mpr ⟨rfl, rfl⟩, hf.mpr h⟩

lemma returns_then_pure {β : Type} {g : α → β} {x : α} (hp : Finds env w p x) :
    Finds env w (p >>= fun a => Pure.pure (g a)) (g x) :=
  returns_then (f := fun a => Pure.pure (g a)) hp returns_pure

section Words

variable {env : Env} {w w' : World} {t : Address} {k : Slot} {v x : U256} {b : Bool} {u : Unit}

@[simp] lemma returns_chargeGas {cost : ℕ} : Finds env w (chargeGas cost) true := by
  simp [chargeGas, ideal, eq_comm]

@[simp] lemma returns_chargeKeccak {size : ℕ} :
    Finds env w (chargeKeccak size) true := returns_chargeGas

@[simp] lemma returns_chargeInternalDispatch {call : Bytes} :
    Finds env w (chargeInternalDispatch call) true :=
  returns_chargeGas

@[simp] lemma returns_chargeCalldata {input : Bytes} : Finds env w (chargeCalldata input) true := by
  unfold chargeCalldata
  split <;> simp

@[simp] lemma returns_addLog {emitter : Address} {topics : List B256} {data : Bytes} :
    Finds env w (addLog emitter topics data) true := by
  simp [addLog, ideal, eq_comm]

@[simp] lemma returns_isOutOfGas : Finds env w isOutOfGas false := by
  simp [isOutOfGas, ideal, eq_comm]

@[simp] lemma returns_blockTime : Finds env w blockTime w.time := by
  simp [Finds, blockTime, ideal, eq_comm]

@[simp] lemma returns_mapSlot {base : Slot} {key : B256} :
    Finds env w (mapSlot base key) (mappingSlot base key) := by
  simp [Finds, mapSlot]

@[simp] lemma returns_strMapSlot {base : Slot} {key : Bytes} :
    Finds env w (strMapSlot base key) (.hash key base 0) := by
  simp [Finds, strMapSlot]

@[simp] lemma returns_stringDataRoot {slot : Slot} :
    Finds env w (stringDataRoot slot) (.hash [] slot 0) := by
  simp [Finds, stringDataRoot]

@[simp] lemma returns_getWordChecked : Finds env w (getWordChecked t k) (some (w.storage t k)) := by
  simp [Finds, getWordChecked, ideal, eq_comm]

@[simp] lemma returns_getWord : Finds env w (getWord t k) (w.storage t k) :=
  returns_then_pure returns_getWordChecked

@[simp] lemma returns_setWord :
    Yields env (setWord t k x) w b w' ↔ b = true ∧ w' = w.set t k x := by
  simp [setWord, ideal, eq_comm]

@[simp] lemma returns_putWord : Yields env (putWord t k x) w u w' ↔ w' = w.set t k x := by
  simp [putWord]

@[simp] lemma returns_addBalance {balance amount : U256} :
    Returns (ideal env) (addBalance balance amount) w v w' ↔
      v = balance + amount ∧ w' = w.noteAddition balance amount := by
  rw [addBalance, returns_perform]
  simp [ideal, eq_comm]

end Words

/-! ### The ledger of a token -/

namespace Scope

/-- The word that the binding of a scope is kept in. -/
def slot : Scope → ℕ
  | .transferSender | .transferReceiver | .transferExecutor => slotTransferPolicies
  | .mintReceiver => slotMintPolicy
  | .seizeExempt | .seizeReceiver => slotSeizePolicies

/-- Its byte in the word. -/
def offset : Scope → ℕ
  | .transferSender => offTransferSender
  | .transferReceiver => offTransferReceiver
  | .transferExecutor => offTransferExecutor
  | .mintReceiver => offMintReceiver
  | .seizeExempt => offSeizeExempt
  | .seizeReceiver => offSeizeReceiver

def ofWord (word : B256) : Option Scope :=
  if word = scopeTransferSender then some .transferSender
  else if word = scopeTransferReceiver then some .transferReceiver
  else if word = scopeTransferExecutor then some .transferExecutor
  else if word = scopeMintReceiver then some .mintReceiver
  else if word = scopeSeizeExempt then some .seizeExempt
  else if word = scopeSeizeReceiver then some .seizeReceiver
  else none

lemma policyLane_eq (word : B256) :
    Token.policyLane word = (ofWord word).map fun scope => (scope.slot, scope.offset) := by
  unfold Token.policyLane ofWord
  split_ifs <;> rfl

end Scope

def World.ledger (w : World) (t : Address) : Ledger where
  supply := w.storage t (slotAt slotTotalSupply)
  cap := w.storage t (slotAt slotSupplyCap)
  balance a := w.storage t (mappingSlot (slotAt slotBalances) (addrKey a))
  allowance owner spender :=
    w.storage t (mappingSlot (mappingSlot (slotAt slotAllowances) (addrKey owner))
      (addrKey spender))
  nonce a := w.storage t (mappingSlot (slotAt slotNonces) (addrKey a))
  role r a := w.storage t (mappingSlot (mappingSlot (slotAt slotRoles) r) (addrKey a)) != 0
  roleAdmin r := w.storage t (mappingSlot (slotAt slotRoleAdmins) r)
  adminCount := w.storage t (slotAt slotAdminCount)
  paused := w.storage t (slotAt slotPaused)
  policy scope := packedLane (w.storage t (slotAt scope.slot)) scope.offset

section Ledger

variable {w : World} {t : Address} {v : U256}

lemma ledger_congr {w' : World} (h : ∀ k, (∃ o, slotTotalSupply ≤ o ∧ k.layout = some (.core, o)) →
      w'.storage t k = w.storage t k) : w'.ledger t = w.ledger t := by
  have hcore : ∀ o k, slotTotalSupply ≤ o → k.layout = some (Namespace.core, o) →
      w'.storage t k = w.storage t k := fun o k ho hk => h k ⟨o, ho, hk⟩
  have hpolicy : ∀ scope : Scope, slotTotalSupply ≤ scope.slot := by
    intro scope
    cases scope <;> decide
  simp only [ledger]
  congr 1
  · exact hcore _ _ (by decide) rfl
  · exact hcore _ _ (by decide) rfl
  · funext a
    exact hcore _ _ (by decide) rfl
  · funext a b
    exact hcore _ _ (by decide) rfl
  · funext a
    exact hcore _ _ (by decide) rfl
  · funext r a
    rw [hcore _ _ (by decide) rfl]
  · funext r
    exact hcore _ _ (by decide) rfl
  · exact hcore _ _ (by decide) rfl
  · exact hcore _ _ (by decide) rfl
  · funext scope
    rw [hcore _ _ (hpolicy scope) rfl]

/-! Each write of the layout changes one field. -/

lemma Scope.slot_eq_iff {o : ℕ}
    (h : o ∉ [slotTransferPolicies, slotMintPolicy, slotSeizePolicies]) (scope : Scope) :
    scope.slot = o ↔ False := by
  cases scope <;> simp_all [slot, eq_comm]

@[simp] lemma ledger_setTotalSupply :
    (w.set t (slotAt slotTotalSupply) v).ledger t = { w.ledger t with supply := v } := by
  simp only [ledger, storage_set, true_and, Ledger.mk.injEq]
  simp +decide [slotAt, mappingSlot, slot_eq_iff]

@[simp] lemma ledger_setSupplyCap :
    (w.set t (slotAt slotSupplyCap) v).ledger t = { w.ledger t with cap := v } := by
  simp only [ledger, storage_set, true_and, Ledger.mk.injEq]
  simp +decide [slotAt, mappingSlot, slot_eq_iff]

@[simp] lemma ledger_setAdminCount :
    (w.set t (slotAt slotAdminCount) v).ledger t = { w.ledger t with adminCount := v } := by
  simp only [ledger, storage_set, true_and, Ledger.mk.injEq]
  simp +decide [slotAt, mappingSlot, slot_eq_iff]

@[simp] lemma ledger_setPaused :
    (w.set t (slotAt slotPaused) v).ledger t = { w.ledger t with paused := v } := by
  simp only [ledger, storage_set, true_and, Ledger.mk.injEq]
  simp +decide [slotAt, mappingSlot, slot_eq_iff]

@[simp] lemma ledger_setBalance (a : Address) :
    (w.set t (mappingSlot (slotAt slotBalances) (addrKey a)) v).ledger t =
      { w.ledger t with balance := update (w.ledger t).balance a v } := by
  simp only [ledger, storage_set, true_and, Ledger.mk.injEq]
  simp +decide [slotAt, mappingSlot, funext_iff, update_apply]

@[simp] lemma ledger_setNonce (a : Address) :
    (w.set t (mappingSlot (slotAt slotNonces) (addrKey a)) v).ledger t =
      { w.ledger t with nonce := update (w.ledger t).nonce a v } := by
  simp only [ledger, storage_set, true_and, Ledger.mk.injEq]
  simp +decide [slotAt, mappingSlot, funext_iff, update_apply]

@[simp] lemma ledger_putRoleAdmin (r : B256) :
    (w.set t (mappingSlot (slotAt slotRoleAdmins) r) v).ledger t =
      { w.ledger t with roleAdmin := update (w.ledger t).roleAdmin r v } := by
  simp only [ledger, storage_set, true_and, Ledger.mk.injEq]
  simp +decide [slotAt, mappingSlot, funext_iff, update_apply]

@[simp] lemma ledger_setAllowance (owner spender : Address) :
    (w.set t (mappingSlot (mappingSlot (slotAt slotAllowances) (addrKey owner)) (addrKey spender))
      v).ledger t = (w.ledger t).setAllowance owner spender v := by
  simp only [ledger, storage_set, true_and, Ledger.mk.injEq, Ledger.setAllowance]
  simp +decide [slotAt, mappingSlot, funext_iff, update_apply]
  intro o s
  by_cases ho : o = owner <;> by_cases hs : s = spender <;> simp [ho, hs]

@[simp] lemma ledger_setRole (role : B256) (a : Address) (enabled : Bool) :
    (w.set t (mappingSlot (mappingSlot (slotAt slotRoles) role) (addrKey a))
      (bif enabled then 1 else 0)).ledger t = (w.ledger t).setRole role a enabled := by
  simp only [ledger, storage_set, true_and, Ledger.mk.injEq, Ledger.setRole]
  simp +decide [slotAt, mappingSlot, funext_iff, update_apply]
  intro r b
  by_cases hr : r = role <;> by_cases hb : b = a <;> cases enabled <;> simp [hr, hb]

lemma packedLane_withPackedLane {word : U256} {i j : ℕ} {id : U64} (hj : j ≤ 24)
    (hij : i = j ∨ i + 8 ≤ j ∨ j + 8 ≤ i) :
    packedLane (withPackedLane word i id) j = if i = j then id else packedLane word j := by
  apply BitVec.eq_of_getLsbD_eq
  intro n hn
  have hword : j * 8 + n < 256 := by omega
  simp only [packedLane, withPackedLane, BitVec.getLsbD_setWidth, BitVec.getLsbD_ushiftRight,
    BitVec.getLsbD_or, BitVec.getLsbD_and, BitVec.getLsbD_not, BitVec.getLsbD_shiftLeft,
    BitVec.getLsbD_allOnes, hn, hword, decide_true, Bool.true_and]
  rcases hij with rfl | h | h
  · have hn' : n < 256 := by omega
    simp [hn, hn', hword]
  · have h1 : ¬ j * 8 + n < i * 8 := by omega
    have h2 : ¬ j * 8 + n - i * 8 < 64 := by omega
    have h3 : i ≠ j := by omega
    simp [h1, h2, h3, hn, BitVec.getLsbD_of_ge, not_lt.mp h2]
  · have h1 : j * 8 + n < i * 8 := by omega
    have h3 : i ≠ j := by omega
    simp [h1, h3, hn]

lemma packedLane_scope {word : U256} {id : U64} (scope other : Scope)
    (hslot : other.slot = scope.slot) :
    packedLane (withPackedLane word scope.offset id) other.offset =
      if other = scope then id else packedLane word other.offset := by
  cases scope <;> cases other <;> cases hslot
  all_goals
    rw [packedLane_withPackedLane (by decide) (by decide)]
    rfl

@[simp] lemma ledger_setPolicy (scope : Scope) (id : U64) : (w.set t (slotAt scope.slot)
      (withPackedLane (w.storage t (slotAt scope.slot)) scope.offset id)).ledger t =
      { w.ledger t with policy := update (w.ledger t).policy scope id } := by
  simp only [ledger, storage_set, true_and, Ledger.mk.injEq]
  have hne : ∀ o, o ∉ [slotTransferPolicies, slotMintPolicy, slotSeizePolicies] →
      slotAt o ≠ slotAt scope.slot := by
    intro o ho h
    exact (slot_eq_iff ho scope).mp (by simpa [slotAt] using h.symm)
  refine ⟨?_, ?_, ?_, ?_, ?_, ?_, ?_, ?_, ?_, ?_⟩
  iterate 2 · exact if_neg (hne _ (by decide))
  iterate 5 · simp [slotAt, mappingSlot]
  iterate 2 · exact if_neg (hne _ (by decide))
  · funext other
    by_cases hslot : other.slot = scope.slot
    · rw [if_pos (congrArg slotAt hslot), packedLane_scope scope other hslot, update_apply, hslot]
    · have hother : other ≠ scope := fun h => hslot (congrArg slot h)
      have hat : slotAt other.slot ≠ slotAt scope.slot := by simpa [slotAt] using hslot
      rw [if_neg hat, update_of_ne hother]

lemma ledger_set_quiet {k : Slot} (h : k.In Token.QuietField) :
    (w.set t k v).ledger t = w.ledger t := by
  refine ledger_congr fun k' ⟨o, ho, hk'⟩ => storage_set_of_ne ?_
  rintro rfl
  have hquiet : Namespace.core ≠ Namespace.core ∨ o < slotTotalSupply := h _ hk'
  rcases hquiet with hns | hlt
  · exact hns rfl
  · exact absurd ho (not_le.mpr hlt)

@[simp] lemma ledger_withRenounced {c : Bool} : (w.withRenounced c).ledger t = w.ledger t := rfl

@[simp] lemma ledger_noteAddition {x y : U256} : (w.noteAddition x y).ledger t = w.ledger t := rfl

@[simp] lemma ledger_fresh : w.fresh.ledger t = w.ledger t := rfl

lemma ledger_of_storage_zero (h : ∀ k, w.storage t k = 0) : w.ledger t = .empty := by
  simp [ledger, Ledger.empty, h, packedLane]

end Ledger

/-- The routine looks something up, or fails where there is nothing. -/
abbrev Answers (env : Env) (w : World) {α : Type} (p : Routine α) (o : Option α) : Prop :=
  ∀ {a w'}, Returns (ideal env) p w a w' ↔ o = some a ∧ w' = w

lemma answers_pure {x : α} : Answers env w (Pure.pure x) (some x) := by
  simp [Answers, eq_comm]

lemma answers_bind {β : Type} {f : α → Routine β} {o : Option α}
    {g : α → Option β} (hp : Answers env w p o) (hf : ∀ x, Answers env w (f x) (g x)) :
    Answers env w (p >>= f) (o.bind g) := by
  intro b w'
  rw [returns_bind, Option.bind_eq_some_iff]
  constructor
  · rintro ⟨a, w1, h1, h2⟩
    obtain ⟨ho, rfl⟩ := hp.mp h1
    obtain ⟨hg, rfl⟩ := (hf a).mp h2
    exact ⟨⟨a, ho, hg⟩, rfl⟩
  · rintro ⟨⟨a, ho, hg⟩, rfl⟩
    exact ⟨a, _, hp.mpr ⟨ho, rfl⟩, (hf a).mpr ⟨hg, rfl⟩⟩

/-! ### Lookups -/

lemma run_of_reads (h : Uses (Op.Within true 0 fun _ => False) p) (w : World) :
    (Prog.run (ideal env) p w).2 = w := by
  refine h.keeps (I := fun w' => w' = w) ?_ rfl
  rintro o _ ho rfl
  cases o with
  | setWord => exact absurd ho.1 Bool.true_eq_false.mp
  | addLog => exact absurd ho Bool.true_eq_false.mp
  | codeWrite | setCode | addBalance | renounceAdmin | spawnBootstrap => exact ho.elim
  | _ => rfl

/-- What a routine that only reads answers, if it does not fail. -/
def World.answer (env : Env) (w : World) {α : Type} (p : Routine α) : Option α :=
  match (Prog.run (ideal env) p w).1 with
  | .ok a => some a
  | .error _ => none

lemma returns_of_reads (h : Uses (Op.Within true 0 fun _ => False) p) :
    Answers env w p (w.answer env p) := by
  intro a w'
  have hrun : (Prog.run (ideal env) p w).2 = w := run_of_reads h w
  unfold Returns answer
  rcases hp : Prog.run (ideal env) p w with ⟨e | b, w1⟩
  · simp
  · rw [hp] at hrun
    simp [← hrun, eq_comm]

section Lookups

variable {env : Env} {w w' : World} {t a owner spender : Address} {k : Slot} {v : U256} {b : Bool}
  {u : Unit} {role : B256}

@[simp] lemma returns_balanceSlot :
    Finds env w (balanceSlot a) (mappingSlot (slotAt slotBalances) (addrKey a)) := returns_mapSlot

@[simp] lemma returns_allowanceSlot : Finds env w (allowanceSlot owner spender)
    (mappingSlot (mappingSlot (slotAt slotAllowances) (addrKey owner)) (addrKey spender)) :=
  returns_then returns_mapSlot returns_mapSlot

@[simp] lemma returns_roleSlot : Finds env w (roleSlot role a)
    (mappingSlot (mappingSlot (slotAt slotRoles) role) (addrKey a)) :=
  returns_then returns_mapSlot returns_mapSlot

@[simp] lemma returns_totalSupply : Finds env w (totalSupply t) (w.ledger t).supply :=
  returns_getWord

@[simp] lemma returns_setTotalSupply :
    Yields env (setTotalSupply t v) w u w' ↔ w' = w.set t (slotAt slotTotalSupply) v :=
  returns_putWord

@[simp] lemma returns_supplyCap : Finds env w (supplyCap t) (w.ledger t).cap := returns_getWord

@[simp] lemma returns_setSupplyCap :
    Yields env (setSupplyCap t v) w u w' ↔ w' = w.set t (slotAt slotSupplyCap) v :=
  returns_putWord

@[simp] lemma returns_adminCount : Finds env w (adminCount t) (w.ledger t).adminCount :=
  returns_getWord

@[simp] lemma returns_setAdminCount :
    Yields env (setAdminCount t v) w u w' ↔ w' = w.set t (slotAt slotAdminCount) v :=
  returns_putWord

@[simp] lemma returns_pausedChecked : Finds env w (pausedChecked t) (some (w.ledger t).paused) :=
  returns_getWordChecked

@[simp] lemma returns_setPaused :
    Yields env (setPaused t v) w u w' ↔ w' = w.set t (slotAt slotPaused) v :=
  returns_putWord

@[simp] lemma returns_isPaused {tok : Token} {bit : ℕ} :
    Finds env w (tok.isPaused bit) ((w.ledger tok.store).paused.getLsbD bit) :=
  returns_then_pure returns_getWord

@[simp] lemma returns_setAllowance : Yields env (setAllowance t owner spender v) w u w' ↔
      w' = w.set t (mappingSlot (mappingSlot (slotAt slotAllowances) (addrKey owner))
        (addrKey spender)) v := by
  simp [setAllowance]

@[simp] lemma returns_nonce : Finds env w (nonce t owner) ((w.ledger t).nonce owner) :=
  returns_then returns_mapSlot returns_getWord

@[simp] lemma returns_setNonce : Yields env (setNonce t owner v) w u w' ↔
      w' = w.set t (mappingSlot (slotAt slotNonces) (addrKey owner)) v := by
  simp [setNonce]

@[simp] lemma returns_hasRole : Finds env w (hasRole t role a) ((w.ledger t).role role a) :=
  returns_then returns_roleSlot (returns_then_pure returns_getWord)

@[simp] lemma returns_setRole {enabled : Bool} : Yields env (setRole t role a enabled) w u w' ↔
      w' = w.set t (mappingSlot (mappingSlot (slotAt slotRoles) role) (addrKey a))
        (bif enabled then 1 else 0) := by
  cases enabled <;> simp [setRole]

@[simp] lemma returns_roleAdmin : Finds env w (roleAdmin t role) ((w.ledger t).roleAdmin role) :=
  returns_then returns_mapSlot returns_getWord

@[simp] lemma returns_putRoleAdmin {admin : B256} : Yields env (putRoleAdmin t role admin) w u w' ↔
      w' = w.set t (mappingSlot (slotAt slotRoleAdmins) role) admin := by
  simp [putRoleAdmin]

@[simp] lemma returns_transferPolicies :
    Finds env w (transferPolicies t) ⟨(w.ledger t).policy .transferSender,
      (w.ledger t).policy .transferReceiver, (w.ledger t).policy .transferExecutor⟩ :=
  returns_then_pure returns_getWord

@[simp] lemma returns_seizePolicies : Finds env w (seizePolicies t)
      ⟨(w.ledger t).policy .seizeExempt, (w.ledger t).policy .seizeReceiver⟩ :=
  returns_then_pure returns_getWord

@[simp] lemma returns_mintReceiverPolicy :
    Finds env w (mintReceiverPolicy t) ((w.ledger t).policy .mintReceiver) :=
  returns_then_pure returns_getWord

@[simp] lemma returns_chargePermit {structHash : Bytes} :
    Finds env w (Token.chargePermit structHash) true := by
  simp [Token.chargePermit]

@[simp] lemma returns_domainSeparator {tok : Token} :
    Answers env w (tok.domainSeparator env) (w.answer env (tok.domainSeparator env)) :=
  returns_of_reads (by simp)

end Lookups

/-! ### The registry -/

/-- The children a policy is kept with: a count, and behind its hash the ids, four to a word. -/
def World.childrenOf (w : World) (id : U64) : List U64 :=
  let slot := mappingSlot (polSlot slotChildren) (idKey id)
  let n := (w.storage policyRegistryAddress slot).toNat % 2 ^ 64
  if n = 0 ∨ n > compositeMaxChildren then []
  else (List.range n).map fun i =>
    childLane (w.storage policyRegistryAddress (Slot.add (.hash [] slot 0) (i / 4))) i

def World.registry (w : World) : Registry where
  counter := (w.storage policyRegistryAddress (polSlot slotCounter)).toNat % 2 ^ 64
  created id :=
    wordExists (w.storage policyRegistryAddress (mappingSlot (polSlot slotPolicies) (idKey id)))
  admin id :=
    wordAdmin (w.storage policyRegistryAddress (mappingSlot (polSlot slotPolicies) (idKey id)))
  pending id := Address.fromWord
    (w.storage policyRegistryAddress (mappingSlot (polSlot slotPendingAdmins) (idKey id)))
  member id a := w.storage policyRegistryAddress
    (mappingSlot (mappingSlot (polSlot slotMembers) (idKey id)) (addrKey a)) != 0
  children := w.childrenOf

lemma registry_congr {w' : World}
    (h : w'.storage policyRegistryAddress = w.storage policyRegistryAddress) :
    w'.registry = w.registry := by
  have hkids : w'.childrenOf = w.childrenOf := by
    funext id
    simp only [childrenOf, h]
  simp only [registry, hkids, h]

section Registry

variable {env : Env} {w w' : World} {a : Address} {id : U64} {b : Bool}

@[simp] lemma returns_counter : Finds env w counter w.registry.counter :=
  returns_then_pure returns_getWord

@[simp] lemma returns_member : Finds env w (member id a) (w.registry.member id a) := by
  simp [Finds, member, memberSlot, registry, and_comm]

lemma returns_policyWord : Finds env w (policyWord id)
    (w.storage policyRegistryAddress (mappingSlot (polSlot slotPolicies) (idKey id))) :=
  returns_then returns_mapSlot returns_getWord

@[simp] lemma returns_policyAdmin : Finds env w (policyAdmin id) (w.registry.admin id) :=
  returns_then_pure returns_policyWord

@[simp] lemma returns_pendingAdmin : Finds env w (pendingAdmin id) (w.registry.pending id) := by
  simp [Finds, pendingAdmin, registry, and_comm]

@[simp] lemma returns_policyExists : Finds env w (policyExists id) (w.registry.knows id) := by
  intro b w'
  by_cases hwf : idWellFormed id = true
  · by_cases hs : isSentinelPolicy id = true
    · simp [policyExists, knows, hwf, hs]
    · simp [policyExists, knows, hwf, hs, returns_policyWord, registry, and_comm]
  · simp [policyExists, knows, hwf]

lemma returns_readChildren {base : Slot} (is : List ℕ) :
    Finds env w (readChildren base is) (some (is.map fun i =>
      childLane (w.storage policyRegistryAddress (base.add (i / 4))) i)) := by
  induction is with
  | nil => simp [Finds, readChildren]
  | cons i rest ih =>
    intro r w'
    simp only [readChildren, returns_bind, returns_isOutOfGas, List.map_cons]
    constructor
    · rintro ⟨_, _, ⟨rfl, rfl⟩, h⟩
      simp only [Bool.false_eq_true, if_false, returns_bind, returns_getWord] at h
      obtain ⟨_, _, ⟨rfl, rfl⟩, out, w1, hrest, h⟩ := h
      obtain ⟨rfl, rfl⟩ := ih.mp hrest
      simpa using h
    · rintro ⟨rfl, rfl⟩
      refine ⟨_, _, ⟨rfl, rfl⟩, ?_⟩
      simp only [Bool.false_eq_true, if_false, returns_bind, returns_getWord]
      exact ⟨_, _, ⟨rfl, rfl⟩, _, _, ih.mpr ⟨rfl, rfl⟩, by simp⟩

@[simp] lemma returns_children : Finds env w (children id) (w.registry.children id) := by
  refine returns_then returns_mapSlot (returns_then returns_getWord ?_)
  intro kids w'
  simp only [registry, childrenOf]
  split
  · simp
  · exact returns_then returns_stringDataRoot (returns_then_pure (returns_readChildren _))

section Children

variable {ask : U64 → Routine Bool} {answer : U64 → Option Bool}
  (h : ∀ c, Answers env w (ask c) (answer c)) (kids : List U64)
include h

lemma returns_anyChild : Answers env w (anyChild ask kids) (kids.anyM answer) := by
  induction kids with
  | nil => exact answers_pure
  | cons c rest ih =>
    refine answers_bind (h c) fun x => ?_
    cases x
    · exact ih
    · exact answers_pure

lemma returns_everyChild : Answers env w (everyChild ask kids) (kids.allM answer) := by
  induction kids with
  | nil => exact answers_pure
  | cons c rest ih =>
    refine answers_bind (h c) fun x => ?_
    cases x
    · exact answers_pure
    · exact ih

end Children

/-- The registry's check computes the authorization. -/
theorem returns_isAuthorized (depth : ℕ) :
    Answers env w (isAuthorized a depth id) (w.registry.authorized a depth id) := by
  intro b w'
  induction depth generalizing id b w' with
  | zero => simp [isAuthorized, authorized]
  | succ depth ih =>
    have hask (c : U64) : Answers env w (isAuthorized a depth c)
        (w.registry.authorized a depth c) := ih
    unfold isAuthorized authorized
    by_cases hwf : idWellFormed id = true
    · simp only [hwf, not_true_eq_false, if_false]
      split_ifs
      · simp [eq_comm]
      · simp [eq_comm]
      · simp [returns_anyChild hask]
      · simp [returns_everyChild hask]
      · rename_i hallow
        simp [lists, hallow, eq_comm, and_comm]
      · rename_i hallow
        simp [lists, hallow, eq_comm, and_comm]
    · simp [hwf, eq_comm]

@[simp] lemma returns_policyAllows :
    Answers env w (Token.policyAllows env id a) (w.registry.allows env.depth id a) := by
  intro b w'
  unfold Token.policyAllows allows
  split_ifs
  · simp [eq_comm]
  · exact returns_isAuthorized _

end Registry

end RethBsc.Cas20
