import RethBsc.Cas20.Lifecycle

/-!
What the holders and the admins of a token can rely on.

A call to a token is a run of its actions, and each action takes from a balance, changes an
allowance or touches the roles only under its own conditions; both are stated of one action and
carried over the run, the call and the chain.
-/

namespace RethBsc.Cas20

open Prog MockHost Ledger

/-! ### The holders -/

/-- The action is a use of the account's allowance, which it lowers, or a seizure. -/
def Takes (env : Env) (tok : Token) (a : Address) (act : Action) (w w' : World) : Prop :=
  (∃ dst amount, act = .transferFrom a dst amount ∧
    amount ≤ (w.ledger tok.store).allowance a tok.ctx.caller ∧
    if (w.ledger tok.store).allowance a tok.ctx.caller = BitVec.allOnes 256 then
      (w'.ledger tok.store).allowance a tok.ctx.caller =
        (w.ledger tok.store).allowance a tok.ctx.caller
    else ((w'.ledger tok.store).allowance a tok.ctx.caller).toNat + amount.toNat =
      ((w.ledger tok.store).allowance a tok.ctx.caller).toNat) ∨
  ∃ dst amount, act = .seize a dst amount ∧
    (w.ledger tok.store).role roleSeize tok.ctx.caller = true ∧
    w.Forbids env tok.store .seizeExempt a

/-- The action is the owner's approval, a permit signed by the owner over the current nonce, or a
use of the allowance. -/
def Reallows (env : Env) (tok : Token) (o s : Address) (act : Action) (w w' : World) : Prop :=
  (∃ amount, act = .approve s amount ∧ o = tok.ctx.caller) ∨
  (∃ p, act = .permit p ∧ p.owner = o ∧ p.spender = s ∧ w.SignedBy env tok p) ∨
  ∃ dst amount, act = .transferFrom o dst amount ∧ s = tok.ctx.caller ∧
    ((w'.ledger tok.store).allowance o s).toNat + amount.toNat =
      ((w.ledger tok.store).allowance o s).toNat

/-- What an action cannot do to the holders. -/
structure Protects (env : Env) (tok : Token) (act : Action) (w w' : World) : Prop where
  balance : ∀ a, a ≠ tok.ctx.caller →
    (w'.ledger tok.store).balance a < (w.ledger tok.store).balance a → Takes env tok a act w w'
  allowance : ∀ o s, (w'.ledger tok.store).allowance o s ≠ (w.ledger tok.store).allowance o s →
    Reallows env tok o s act w w'
  pause : ∀ a, (w'.ledger tok.store).balance a ≠ (w.ledger tok.store).balance a →
    ∃ f, act.feature = some f ∧ (w.ledger tok.store).paused.getLsbD f = false

section Holders

variable {env : Env} {tok : Token} {act : Action} {acts : List Action} {w w' : World}

lemma Performs.spends {src dst : Address} {amount : U256}
    (h : Performs env tok (.transferFrom src dst amount) w w') :
    amount ≤ (w.ledger tok.store).allowance src tok.ctx.caller ∧
    if (w.ledger tok.store).allowance src tok.ctx.caller = BitVec.allOnes 256 then
      (w'.ledger tok.store).allowance src tok.ctx.caller =
        (w.ledger tok.store).allowance src tok.ctx.caller
    else ((w'.ledger tok.store).allowance src tok.ctx.caller).toNat + amount.toNat =
      ((w.ledger tok.store).allowance src tok.ctx.caller).toNat := by
  have hle := h.permits.2.2.2.1
  refine ⟨hle, ?_⟩
  rw [h.ledger, allowance_transferFrom]
  split_ifs with hinf
  · rfl
  · rw [BitVec.toNat_sub_of_le hle]
    exact Nat.sub_add_cancel hle

/-- Outside the bootstrap every action protects the holders. -/
theorem Performs.protects (h : Performs env tok act w w') (hpriv : tok.privileged = false)
    (hw : (w.ledger tok.store).Conserved) : Protects env tok act w w' := by
  refine ⟨fun a ha hlt => ?_, fun o s hne => ?_, fun a hne => ?_⟩
  · rw [h.ledger] at hlt
    rcases takes_of_balance_lt hw h.permits ha hlt with ⟨dst, amount, rfl⟩ | ⟨dst, amount, rfl⟩
    · exact .inl ⟨dst, amount, rfl, h.spends⟩
    · refine .inr ⟨dst, amount, rfl, ?_, h.passes.1⟩
      simpa [Ledger.Holds, hpriv] using h.permits.2.1
  · have hne' := hne
    rw [h.ledger] at hne
    rcases sets_of_allowance_ne hne with ⟨amount, rfl, ho⟩ | ⟨p, rfl, ho, hs⟩ |
      ⟨dst, amount, rfl, rfl⟩
    · exact .inl ⟨amount, rfl, ho⟩
    · exact .inr (.inl ⟨p, rfl, ho, hs, h.passes.2⟩)
    · have hspend := h.spends.2
      split_ifs at hspend with hinf
      · exact absurd hspend hne'
      · exact .inr (.inr ⟨dst, amount, rfl, rfl, hspend⟩)
  · rw [h.ledger] at hne
    exact unpaused_of_balance_ne h.permits fun heq => hne (congrFun heq a)

lemma protects_of_trace (h : Trace (Performs env tok) acts w w') (hpriv : tok.privileged = false)
    (ht : tok.store ≠ policyRegistryAddress) (hw : w.TokenSound tok.store ∧ w.wrapped = false) :
    Trace (fun act u v => Performs env tok act u v ∧ Protects env tok act u v) acts w w' :=
  (h.with_invariant (I := fun w => w.TokenSound tok.store ∧ w.wrapped = false)
    (fun _ _ _ hp => hp.tokenSound ht) hw).mono
      fun _ _ _ hs => ⟨hs.2, hs.2.protects hpriv hs.1.1.conserved⟩

section Protected

variable (h : Trace (fun act u v => Performs env tok act u v ∧ Protects env tok act u v) acts w w')
include h

lemma exists_takes {a : Address} (ha : a ≠ tok.ctx.caller)
    (hlt : (w'.ledger tok.store).balance a < (w.ledger tok.store).balance a) :
    ∃ act ∈ acts, ∃ u v, Performs env tok act u v ∧ Takes env tok a act u v := by
  obtain ⟨act, u, v, hact, hstep, hu, hv⟩ := h.exists_leaves
    (P := fun u => (w.ledger tok.store).balance a ≤ (u.ledger tok.store).balance a)
    (BitVec.le_refl _) (BitVec.not_le.mpr hlt)
  refine ⟨act, hact, u, v, hstep.1, hstep.2.balance a ha ?_⟩
  exact Nat.lt_of_lt_of_le (BitVec.not_le.mp hv) hu

lemma exists_reallows {o s : Address}
    (hne : (w'.ledger tok.store).allowance o s ≠ (w.ledger tok.store).allowance o s) :
    ∃ act ∈ acts, ∃ u v, Performs env tok act u v ∧ Reallows env tok o s act u v := by
  obtain ⟨act, u, v, hact, hstep, hu, hv⟩ := h.exists_leaves
    (P := fun u => (u.ledger tok.store).allowance o s = (w.ledger tok.store).allowance o s) rfl hne
  exact ⟨act, hact, u, v, hstep.1, hstep.2.allowance o s fun heq => hv (heq.trans hu)⟩

end Protected

lemma nonce_of_trace (h : Trace (Performs env tok) acts w w') (o : Address) :
    (w'.ledger tok.store).nonce o = (w.ledger tok.store).nonce o +
      BitVec.ofNat 256 (acts.countP fun a => a.signer = some o) := by
  induction h with
  | nil w => simp
  | cons head _ ih =>
    rw [ih, head.ledger, nonce_apply, List.countP_cons, BitVec.ofNat_add, BitVec.add_assoc,
      BitVec.add_comm (BitVec.ofNat _ _)]
    split_ifs <;> simp_all

end Holders

section Chain

variable {σ : Type} {env : Env} {host : Cas20State σ} {view : σ → World} {s₀ s s' : σ}

/-- A committed call to a token is a run of the actions of its data, each of which protects the
holders: the balance of somebody else than the caller falls only by the use of an allowance or a
seizure, an allowance changes only through its owner or by its use, and no balance changes under a
paused feature. -/
theorem holders_protected (hl : Lawful env host view) (hg : (view s₀).Genesis)
    (hr : Reachable env host view s₀ s) {kind : Kind} {input : PrecompileInput} {gas : ℕ}
    {bytes : Bytes} (hself : resolve input.bytecodeAddress = some kind)
    (hkind : kind = .asset ∨ kind = .stablecoin)
    (hc : Commits env host kind input gas s bytes s') :
    ∃ acts w', Token.callActions kind input.data = .ok acts ∧ w'.fresh = (view s').fresh ∧
      Trace (fun act u v => Performs env (.new input.ctx 0) act u v ∧
        Protects env (.new input.ctx 0) act u v) acts (view s).fresh w' ∧
      (∀ a, a ≠ input.caller → ((view s').ledger input.bytecodeAddress).balance a <
          ((view s).ledger input.bytecodeAddress).balance a →
        ∃ act ∈ acts, ∃ u v, Performs env (.new input.ctx 0) act u v ∧
          Takes env (.new input.ctx 0) a act u v) ∧
      ∀ o p, ((view s').ledger input.bytecodeAddress).allowance o p ≠
          ((view s).ledger input.bytecodeAddress).allowance o p →
        ∃ act ∈ acts, ∃ u v, Performs env (.new input.ctx 0) act u v ∧
          Reallows env (.new input.ctx 0) o p act u v := by
  have ht : IsToken input.bytecodeAddress := isToken_of_kind hkind hself
  have hsound : (view s).fresh.Sound := (sound_of_reachable hl hg hr).of_fresh rfl
  obtain ⟨w', heffect, hfresh, -⟩ := hc.effect hl
  obtain ⟨acts, hacts, htrace⟩ := heffect.of_token hkind
  have hprot := protects_of_trace htrace rfl ht.ne_policyRegistry ⟨hsound.token _ ht, rfl⟩
  have hledger : (view s').ledger input.bytecodeAddress = w'.ledger input.bytecodeAddress := by
    rw [← ledger_fresh, ← hfresh, ledger_fresh]
  refine ⟨acts, w', hacts, hfresh, hprot, fun a ha hlt => ?_, fun o p hne => ?_⟩
  · rw [hledger] at hlt
    exact exists_takes hprot ha hlt
  · rw [hledger] at hne
    exact exists_reallows hprot hne

def sampleCall (caller : Address) (data : Bytes) : PrecompileInput :=
  ⟨sampleToken, caller, false, true, 0, data, 0⟩

/-- Account 5 lets account 9 spend 60. -/
def approveInput : PrecompileInput := sampleCall 5 (callData .approve [.word 9, .word 60])

/-- Account 9 moves 40 of them to account 8. -/
def spendInput : PrecompileInput :=
  sampleCall 9 (callData .transferFrom [.word 5, .word 8, .word 40])

def MockHost.approved : MockHost :=
  (run .bare (state .bare) .stablecoin approveInput 1000000 founded).2

def MockHost.spent : MockHost := (run .bare (state .bare) .stablecoin spendInput 1000000 approved).2

lemma spent_facts : (run .bare (state .bare) .stablecoin approveInput 1000000 .founded).1.returned ∧
      (run .bare (state .bare) .stablecoin spendInput 1000000 .approved).1.returned ∧
      (spent.world.ledger spendInput.bytecodeAddress).balance 5 <
        (approved.world.ledger spendInput.bytecodeAddress).balance 5 := by
  decide +kernel

/-- The balance of account 5 has fallen, so one of the actions of the call took from it. -/
theorem holders_protected_spent : ∃ act u v, Performs .bare (.new spendInput.ctx 0) act u v ∧
      Takes .bare (.new spendInput.ctx 0) 5 act u v := by
  have hreach : Reachable .bare (state .bare) world .activated .approved := by
    obtain ⟨bytes, hc⟩ : ∃ bytes, Commits .bare (state .bare) .stablecoin approveInput
        1000000 .founded bytes .approved := exists_commits spent_facts.1
    exact reachable_founded.tail (.call (by decide) hc)
  obtain ⟨bytes, hc⟩ : ∃ bytes, Commits .bare (state .bare) .stablecoin spendInput 1000000
      .approved bytes .spent := exists_commits spent_facts.2.1
  obtain ⟨acts, w', -, -, -, htakes, -⟩ := holders_protected (lawful .bare)
    genesis_activated hreach (by decide) (.inr rfl) hc
  obtain ⟨act, -, u, v, h⟩ := htakes 5 (by decide) spent_facts.2.2
  exact ⟨act, u, v, h⟩

/-- **A permit uses up a nonce.** Each permit of a committed call is signed by its owner over the
nonce that the actions before it have left, which is the first nonce and the permits among them;
the nonces at the end count them all. -/
theorem permits_use_nonces (hl : Lawful env host view) {kind : Kind} {input : PrecompileInput}
    {gas : ℕ} {bytes : Bytes} (hkind : kind = .asset ∨ kind = .stablecoin)
    (hc : Commits env host kind input gas s bytes s') :
    ∃ acts, Token.callActions kind input.data = .ok acts ∧
      (∀ o, ((view s').ledger input.bytecodeAddress).nonce o =
        ((view s).ledger input.bytecodeAddress).nonce o +
          BitVec.ofNat 256 (acts.countP fun a => a.signer = some o)) ∧
      ∀ pre p post, acts = pre ++ .permit p :: post → ∃ u,
        Trace (Performs env (.new input.ctx 0)) pre (view s).fresh u ∧
        u.SignedBy env (.new input.ctx 0) p ∧ (u.ledger input.bytecodeAddress).nonce p.owner =
          ((view s).ledger input.bytecodeAddress).nonce p.owner +
            BitVec.ofNat 256 (pre.countP fun a => a.signer = some p.owner) := by
  obtain ⟨w', heffect, hfresh, -⟩ := hc.effect hl
  obtain ⟨acts, hacts, htrace⟩ := heffect.of_token hkind
  refine ⟨acts, hacts, fun o => ?_, fun pre p post hsplit => ?_⟩
  · rw [← ledger_fresh (w := view s'), ← hfresh, ledger_fresh]
    exact nonce_of_trace htrace o
  · obtain ⟨u, v, hrun, hstep⟩ := (hsplit ▸ htrace).split
    exact ⟨u, hrun, hstep.passes.2, nonce_of_trace hrun _⟩

/-- Signatures whose first number is their signer. -/
def Env.signing : Env :=
  { Env.bare with
    ecrecover := fun signature _ _ => some (BitVec.ofNat 256 (beNat (signature.take 32))) }

/-- Account 8 brings a permit of account 5 for account 9. -/
def permitInput : PrecompileInput := sampleCall 8
  (callData .permit [.word 5, .word 9, .word 60, .word 1, .word 27, .word 5, .word 1])

def MockHost.permitted : MockHost :=
  (run .signing (state .signing) .stablecoin permitInput 1000000 founded).2

lemma permitted_facts :
    (run .signing (state .signing) .stablecoin permitInput 1000000 .founded).1.returned ∧
      (Token.callActions .stablecoin permitInput.data).toOption.map (List.map Action.signer) =
        some [some 5] := by
  decide +kernel

/-- The permit is signed over the nonce that account 5 has, and takes it. -/
theorem permits_use_nonces_signed : ∃ p,
    Token.callActions .stablecoin permitInput.data = .ok [.permit p] ∧ p.owner = 5 ∧
      founded.world.fresh.SignedBy .signing (.new permitInput.ctx 0) p ∧
      (permitted.world.ledger permitInput.bytecodeAddress).nonce p.owner =
        (founded.world.ledger permitInput.bytecodeAddress).nonce p.owner + 1 := by
  obtain ⟨bytes, hc⟩ : ∃ bytes, Commits .signing (state .signing) .stablecoin permitInput
      1000000 .founded bytes .permitted := exists_commits permitted_facts.1
  obtain ⟨acts, hacts, hnonce, hsigned⟩ := permits_use_nonces (lawful .signing) (.inr rfl) hc
  have hsigners : acts.map Action.signer = [some 5] := by
    have h := permitted_facts.2
    rw [hacts] at h
    exact Option.some.inj h
  obtain ⟨act, rfl, hact⟩ := List.map_eq_singleton_iff.mp hsigners
  cases act with
  | permit p =>
    obtain ⟨u, hrun, hu, -⟩ := hsigned [] p [] rfl
    cases hrun
    refine ⟨p, hacts, Option.some.inj hact, hu, ?_⟩
    simpa [Action.signer] using hnonce p.owner
  | _ => cases hact

/-- **Other tokens are left alone**: a committed call changes neither the code nor the storage of
a token that it is not addressed to. -/
theorem other_tokens_kept (hl : Lawful env host view) {t : Address} (ht : IsToken t)
    (hcode : (view s).code t = markerCodeHash) {kind : Kind} {input : PrecompileInput} {gas : ℕ}
    {bytes : Bytes} (hc : Commits env host kind input gas s bytes s')
    (hne : input.bytecodeAddress ≠ t) :
    (view s').code t = markerCodeHash ∧ (view s').storage t = (view s).storage t := by
  obtain ⟨w', heffect, hfresh, -⟩ := hc.effect hl
  have hcodes : w'.code = (view s').code := (congrArg World.code hfresh :)
  have hstorages : w'.storage = (view s').storage := (congrArg World.storage hfresh :)
  obtain ⟨hcode', hstorage | ⟨hself, -⟩⟩ := heffect.at_token ht hcode
  · exact ⟨hcodes ▸ hcode', hstorages ▸ hstorage⟩
  · exact absurd hself hne

/-- Account 1 makes a policy, and the token is what it was. -/
theorem other_tokens_kept_policy :
    let input : PrecompileInput :=
      ⟨policyRegistryAddress, 1, false, true, 0, callData .createPolicy [.word 3, .word 0], 0⟩
    let after := (run .bare (state .bare) .policy input 1000000 founded).2
    after.world.code sampleToken = markerCodeHash ∧
      after.world.storage sampleToken = founded.world.storage sampleToken :=
  other_tokens_kept (lawful .bare) isToken_sampleToken (by decide +kernel)
    (exists_commits (by decide +kernel)).choose_spec (by decide)

end Chain

/-! ### The admins -/

/-- What stays of a token whose last admin has gone: the roles are frozen, but for those their
holders give up, and so are the cap and the policies. -/
structure Sealed (l l' : Ledger) : Prop where
  frozen : l.Frozen l'
  cap : l'.cap = l.cap
  policy : l'.policy = l.policy

/-- An action after the last admin has gone: no role is granted, no admin role changed, and a role
is lost only by its holder, who renounces it. -/
structure KeepsRoles (tok : Token) (act : Action) (w w' : World) : Prop where
  frozen : (w.ledger tok.store).Frozen (w'.ledger tok.store)
  lost : ∀ r a, (w.ledger tok.store).role r a = true → (w'.ledger tok.store).role r a = false →
    act = .renounceRole r ∧ a = tok.ctx.caller

section Admins

variable {env : Env} {tok : Token} {act : Action} {acts : List Action} {w w' : World}

lemma Performs.keepsRoles (h : Performs env tok act w w') (hw : (w.ledger tok.store).Counted)
    (hz : (w.ledger tok.store).adminCount = 0)
    (hf : tok.privileged = false ∨ w.renounced) : KeepsRoles tok act w w' := by
  refine ⟨?_, fun r a hr hr' => ?_⟩
  · rw [h.ledger]
    exact frozen_apply hw hz hf h.permits
  · rw [h.ledger] at hr'
    exact eq_renounceRole hw hz hf h.permits hr hr'

lemma Sealed.refl {l : Ledger} (hz : l.adminCount = 0) : Sealed l l := ⟨.refl hz, rfl, rfl⟩

lemma Sealed.trans {l l' l'' : Ledger} (h : Sealed l l') (h' : Sealed l' l'') : Sealed l l'' :=
  ⟨h.frozen.trans h'.frozen, h'.cap.trans h.cap, h'.policy.trans h.policy⟩

lemma Performs.sealed (h : Performs env tok act w w') (hw : (w.ledger tok.store).Counted)
    (hz : (w.ledger tok.store).adminCount = 0) (hpriv : tok.privileged = false) :
    Sealed (w.ledger tok.store) (w'.ledger tok.store) := by
  have hp := h.permits
  rw [hpriv] at hp
  have hconfig := config_of_frozen hw hz hp
  refine ⟨(h.keepsRoles hw hz (.inl hpriv)).frozen, ?_, ?_⟩
  · rw [h.ledger, hconfig.1]
  · rw [h.ledger, hconfig.2]

lemma Performs.counted (h : Performs env tok act w w') (hw : (w.ledger tok.store).Counted) :
    (w'.ledger tok.store).Counted := by
  rw [h.ledger]
  exact hw.apply h.permits

section Counted

variable (h : Trace (Performs env tok) acts w w') (hw : (w.ledger tok.store).Counted)
include h hw

lemma sealed_of_trace (hpriv : tok.privileged = false) (hz : (w.ledger tok.store).adminCount = 0) :
    Sealed (w.ledger tok.store) (w'.ledger tok.store) := by
  refine (h.keeps (I := fun u => (u.ledger tok.store).Counted ∧
    Sealed (w.ledger tok.store) (u.ledger tok.store)) (fun act u v hp hu => ?_) ⟨hw, .refl hz⟩).2
  exact ⟨hp.counted hu.1, hu.2.trans (hp.sealed hu.1 hu.2.frozen.adminCount hpriv)⟩

lemma exists_renounceRole (hpriv : tok.privileged = false)
    (hz : (w.ledger tok.store).adminCount = 0) {r : B256} {a : Address}
    (hr : (w.ledger tok.store).role r a) (hr' : (w'.ledger tok.store).role r a = false) :
    .renounceRole r ∈ acts ∧ a = tok.ctx.caller := by
  have hinv := h.with_invariant (I := fun u => (u.ledger tok.store).Counted ∧
    (u.ledger tok.store).adminCount = 0) (fun act u v hp hu =>
      ⟨hp.counted hu.1, (hp.sealed hu.1 hu.2 hpriv).frozen.adminCount⟩) ⟨hw, hz⟩
  obtain ⟨act, u, v, hact, hstep, hu, hv⟩ := hinv.exists_leaves
    (P := fun u => (u.ledger tok.store).role r a = true) hr (by simp [hr'])
  obtain ⟨rfl, ha⟩ :=
    (hstep.2.keepsRoles hstep.1.1 hstep.1.2 (.inl hpriv)).lost r a hu (by simpa using hv)
  exact ⟨hact, ha⟩

lemma exists_renounceLastAdmin (hz : (w.ledger tok.store).adminCount ≠ 0)
    (hz' : (w'.ledger tok.store).adminCount = 0) : .renounceLastAdmin ∈ acts := by
  have hinv := h.with_invariant (I := fun u => (u.ledger tok.store).Counted)
    (fun act u v hp hu => hp.counted hu) hw
  obtain ⟨act, u, v, hact, hstep, hu, hv⟩ := hinv.exists_leaves
    (P := fun u => (u.ledger tok.store).adminCount ≠ 0) hz (by simp [hz'])
  have hv' : ((u.ledger tok.store).apply tok.ctx.caller act).adminCount = 0 := by
    rw [← hstep.2.ledger]
    simpa using hv
  obtain rfl := eq_renounceLastAdmin hstep.1 hstep.2.permits hu hv'
  exact hact

/-- In the frame of a creation: once the last admin has been renounced, the roles are frozen for
the init calls that follow. -/
lemma keepsRoles_of_renounced (hren : w.renounced = false) :
    Trace (fun act u v => Performs env tok act u v ∧ (u.renounced = true → KeepsRoles tok act u v))
      acts w w' := by
  refine (h.with_invariant (I := fun u => (u.ledger tok.store).Counted ∧
    (u.renounced = true → (u.ledger tok.store).adminCount = 0)) (fun act u v hp hu => ?_)
    ⟨hw, by simp [hren]⟩).mono fun act u v hs =>
      ⟨hs.2, fun hu => hs.2.keepsRoles hs.1.1 (hs.1.2 hu) (.inr hu)⟩
  refine ⟨hp.counted hu.1, fun hv => ?_⟩
  rcases hp.renounced.mp hv with hren | rfl
  · exact (hp.keepsRoles hu.1 (hu.2 hren) (.inr hren)).frozen.adminCount
  · rw [hp.ledger]
    rfl

end Counted

end Admins

section Chain

variable {σ : Type} {env : Env} {host : Cas20State σ} {view : σ → World} {s₀ s s' : σ}
  {t : Address}

lemma ledger_eq_of_storage {w w' : World} (h : w'.storage t = w.storage t) :
    w'.ledger t = w.ledger t := ledger_congr fun k _ => by rw [h]

section

variable (hl : Lawful env host view)
include hl

variable {input : PrecompileInput} {gas : ℕ} {bytes : Bytes}

lemma Commits.at_token (ht : IsToken t) (hcode : (view s).code t = markerCodeHash) {kind : Kind}
    (hc : Commits env host kind input gas s bytes s') :
    (view s').code t = markerCodeHash ∧ ((view s').ledger t = (view s).ledger t ∨
      (input.bytecodeAddress = t ∧ ∃ acts w', Token.callActions kind input.data = .ok acts ∧
        w'.ledger t = (view s').ledger t ∧
        Trace (Performs env (.new input.ctx 0)) acts (view s).fresh w')) := by
  obtain ⟨w', heffect, hfresh, -⟩ := hc.effect hl
  have hledger : w'.ledger t = (view s').ledger t := by
    rw [← ledger_fresh, hfresh, ledger_fresh]
  obtain ⟨hcode', heff⟩ := heffect.at_token ht hcode
  refine ⟨(congrFun (congrArg World.code hfresh) t).symm.trans hcode', ?_⟩
  rcases heff with hsame | ⟨hself, -, acts, hacts, htrace⟩
  · exact .inl (hledger.symm.trans (ledger_eq_of_storage hsame))
  · exact .inr ⟨hself, acts, w', hacts, hledger, htrace⟩

lemma Moves.sealed (ht : IsToken t) (hs : (view s).Sound)
    (hcode : (view s).code t = markerCodeHash) (hz : ((view s).ledger t).adminCount = 0)
    (h : Moves env host view s s') :
    (view s').code t = markerCodeHash ∧ Sealed ((view s).ledger t) ((view s').ledger t) := by
  cases h with
  | call hkind hc =>
    obtain ⟨hcode', heff⟩ := hc.at_token hl ht hcode
    refine ⟨hcode', ?_⟩
    rcases heff with hsame | ⟨rfl, acts, w', -, hledger, htrace⟩
    · rw [hsame]
      exact .refl hz
    · rw [← hledger]
      exact sealed_of_trace htrace (hs.token _ ht).counted rfl hz
  | other hreg htok =>
    refine ⟨(htok t ht).2.trans hcode, ?_⟩
    rw [ledger_eq_of_storage (htok t ht).1]
    exact .refl hz

lemma sealed_of_reachable (ht : IsToken t) (hs : (view s).Sound)
    (hcode : (view s).code t = markerCodeHash) (hz : ((view s).ledger t).adminCount = 0)
    (hr : Reachable env host view s s') : Sealed ((view s).ledger t) ((view s').ledger t) := by
  have hall : (view s').Sound ∧ (view s').code t = markerCodeHash ∧
      Sealed ((view s).ledger t) ((view s').ledger t) := by
    induction hr with
    | refl => exact ⟨hs, hcode, .refl hz⟩
    | tail _ hstep ih =>
      obtain ⟨hsound, hcode', hsealed⟩ := ih
      obtain ⟨hcode'', hstep'⟩ := hstep.sealed hl ht hsound hcode' hsealed.frozen.adminCount
      exact ⟨hstep.sound hl hsound, hcode'', hsealed.trans hstep'⟩
  exact hall.2.2

lemma Commits.creation (hs : (view s).Sound) (hsel : selectorOf input.data = .ok .createCas20)
    (hc : Commits env host .factory input gas s bytes s') :
    ∃ call w1 w' acts,
      Returns (ideal env) (decodeCreate env input.ctx (input.data.drop 4)) (view s).fresh call
        (view s).fresh ∧
      Founds call (view s).fresh w1 ∧ w1.ledger call.addr = .created call.params.initialAdmin ∧
      initActions call = .ok acts ∧ w'.fresh = (view s').fresh ∧
      Trace (Performs env (bootstrapToken input.ctx call.addr call.params.decimals))
        acts w1 w' := by
  obtain ⟨w', hret, hfresh, -⟩ := hc.returns hl
  simp only [execute, runFactory, liftM_eq, returns_bind, returns_reject, returns_chargeCalldata,
    returns_paid, returns_ofExcept] at hret
  obtain ⟨_, _, ⟨-, rfl⟩, _, _, ⟨-, rfl⟩, _, _, ⟨-, rfl⟩, _, _, ⟨-, rfl⟩, sel, w0, ⟨hsel', rfl⟩,
    hret⟩ := hret
  obtain rfl : sel = .createCas20 := by
    rw [hsel] at hsel'
    exact (Except.ok.inj hsel').symm
  obtain ⟨call, w1, hdecode, hfounds, acts, hacts, htrace⟩ := runs_createCas20 hret
  have hledger := ledger_of_founds hfounds (hs.standing _ (isToken_of_decodeCreate hdecode))
  exact ⟨call, w1, w', acts, hdecode, hfounds, hledger, hacts, hfresh, htrace⟩

end

/-- The renunciation of the last admin is for ever.

The counter of the admins is right in every state. It falls to zero only in a call to the token
that renounces the last admin. From then on no role is granted, no admin role, cap or policy
changes and the counter stays zero; a role is lost only in a call by its holder that renounces it.
Within the frame of a creation, for the call its data decode to, the roles are frozen in the same
way for the init calls after a renunciation. -/
theorem renunciation_permanent (hl : Lawful env host view) (hg : (view s₀).Genesis)
    (hr : Reachable env host view s₀ s) :
    (∀ t, IsToken t → ((view s).ledger t).adminCount.toNat =
      count (((view s).ledger t).role roleDefaultAdmin)) ∧
    (∀ t kind input gas bytes s', IsToken t → Commits env host kind input gas s bytes s' →
      ((view s).ledger t).adminCount ≠ 0 → ((view s').ledger t).adminCount = 0 →
      input.bytecodeAddress = t ∧
        ∃ acts, Token.callActions kind input.data = .ok acts ∧ .renounceLastAdmin ∈ acts) ∧
    (∀ t s', IsToken t → (view s).code t = markerCodeHash →
      ((view s).ledger t).adminCount = 0 → Reachable env host view s s' →
      Sealed ((view s).ledger t) ((view s').ledger t)) ∧
    (∀ t kind input gas bytes s' r a, IsToken t → (view s).code t = markerCodeHash →
      ((view s).ledger t).adminCount = 0 → Commits env host kind input gas s bytes s' →
      ((view s).ledger t).role r a = true → ((view s').ledger t).role r a = false →
      input.bytecodeAddress = t ∧ a = input.caller ∧
        ∃ acts, Token.callActions kind input.data = .ok acts ∧ .renounceRole r ∈ acts) ∧
    ∀ input gas bytes s', selectorOf input.data = .ok .createCas20 →
      Commits env host .factory input gas s bytes s' →
      ∃ call w₁ w' acts,
        Returns (ideal env) (decodeCreate env input.ctx (input.data.drop 4)) (view s).fresh call
          (view s).fresh ∧
        Founds call (view s).fresh w₁ ∧ w₁.ledger call.addr = .created call.params.initialAdmin ∧
        initActions call = .ok acts ∧ w'.fresh = (view s').fresh ∧
        Trace (fun act u v =>
          Performs env (bootstrapToken input.ctx call.addr call.params.decimals) act u v ∧
          (u.renounced = true →
            KeepsRoles (bootstrapToken input.ctx call.addr call.params.decimals) act u v))
          acts w₁ w' := by
  have hsound := sound_of_reachable hl hg hr
  refine ⟨fun t ht => (hsound.token t ht).counted, fun t kind input gas bytes s' ht hc hz hz' => ?_,
    fun t s' ht hcode hz hr' => sealed_of_reachable hl ht hsound hcode hz hr',
    fun t kind input gas bytes s' r a ht hcode hz hc hrole hrole' => ?_,
    fun input gas bytes s' hsel hc => ?_⟩
  · -- a token that has an admin exists
    have hcode : (view s).code t = markerCodeHash := by
      rcases hsound.standing t ht with hv | hcode
      · rw [ledger_of_storage_zero hv.2] at hz
        exact absurd rfl hz
      · exact hcode
    rcases (hc.at_token hl ht hcode).2 with hsame | ⟨rfl, acts, w', hacts, hledger, htrace⟩
    · exact absurd (hsame ▸ hz') hz
    · rw [← hledger] at hz'
      exact ⟨rfl, acts, hacts, exists_renounceLastAdmin htrace (hsound.token _ ht).counted hz hz'⟩
  · rcases (hc.at_token hl ht hcode).2 with hsame | ⟨rfl, acts, w', hacts, hledger, htrace⟩
    · rw [hsame, hrole] at hrole'
      cases hrole'
    · rw [← hledger] at hrole'
      obtain ⟨hmem, ha⟩ := exists_renounceRole htrace (hsound.token _ ht).counted rfl hz hrole
        hrole'
      exact ⟨rfl, ha, acts, hacts, hmem⟩
  · obtain ⟨call, w₁, w', acts, hdecode, hfounds, hledger, hacts, hfresh, htrace⟩ :=
      hc.creation hl hsound hsel
    have hcounted : (w₁.ledger call.addr).Counted := hledger ▸ counted_created _
    exact ⟨call, w₁, w', acts, hdecode, hfounds, hledger, hacts, hfresh,
      keepsRoles_of_renounced htrace hcounted hfounds.renounced⟩

/-- Account 7 gives up minting. -/
def resignInput : PrecompileInput := sampleCall 7 (callData .renounceRole [.word roleMint, .word 7])

def MockHost.resigned : MockHost :=
  (run .bare (state .bare) .stablecoin resignInput 1000000 founded).2

lemma resigned_facts :
    (run .bare (state .bare) .stablecoin resignInput 1000000 .founded).1.returned ∧
      founded.world.code sampleToken = markerCodeHash ∧
      (founded.world.ledger sampleToken).adminCount = 0 ∧
      (founded.world.ledger sampleToken).role roleMint 7 ∧
      (resigned.world.ledger sampleToken).role roleMint 7 = false := by
  decide +kernel

lemma commits_resigned : ∃ bytes, Commits .bare (state .bare) .stablecoin resignInput 1000000
    .founded bytes .resigned := exists_commits resigned_facts.1

/-- That account 7 is no longer a minter is its own doing. -/
theorem renunciation_permanent_resigned : Sealed (MockHost.founded.world.ledger sampleToken)
      (MockHost.resigned.world.ledger sampleToken) ∧
      ∃ acts, Token.callActions .stablecoin resignInput.data = .ok acts ∧
        .renounceRole roleMint ∈ acts := by
  obtain ⟨-, hcode, hz, hrole, hrole'⟩ := resigned_facts
  obtain ⟨bytes, hc⟩ := commits_resigned
  obtain ⟨-, -, hseal, hlost, -⟩ := renunciation_permanent (lawful .bare)
    genesis_activated reachable_founded
  refine ⟨hseal _ _ isToken_sampleToken hcode hz (.single (.call (by decide) hc)), ?_⟩
  exact (hlost _ _ _ _ _ _ roleMint 7 isToken_sampleToken hcode hz hc hrole hrole').2.2

/-- A token without an admin can lose a role after all: the renunciation of a role asks for no
admin, and a call that makes it is committed. -/
theorem role_lost_without_admin : ∃ (s s' : MockHost) (input : PrecompileInput) (bytes : Bytes),
    MockHost.activated.world.Genesis ∧
      Reachable .bare (MockHost.state .bare) MockHost.world .activated s ∧
      IsToken sampleToken ∧ s.world.code sampleToken = markerCodeHash ∧
      (s.world.ledger sampleToken).adminCount = 0 ∧
      Commits .bare (MockHost.state .bare) .stablecoin input 1000000 s bytes s' ∧
      (s.world.ledger sampleToken).role roleMint 7 = true ∧
      (s'.world.ledger sampleToken).role roleMint 7 = false := by
  obtain ⟨-, hcode, hz, hrole, hrole'⟩ := resigned_facts
  obtain ⟨bytes, hc⟩ := commits_resigned
  exact ⟨.founded, .resigned, resignInput, bytes, genesis_activated, reachable_founded,
    isToken_sampleToken, hcode, hz, hc, hrole, hrole'⟩

end Chain

end RethBsc.Cas20
