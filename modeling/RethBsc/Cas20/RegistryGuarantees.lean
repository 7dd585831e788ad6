import RethBsc.Cas20.Lifecycle

/-!
What can be relied on about policies.

In every state of a chain the registry is sound, so that the check of an account has a meaning
that does not depend on how deep it may recurse; policies are never taken back, and one whose
admin has renounced never changes again.
-/

namespace RethBsc.Cas20

open Prog MockHost Registry

section Chain

variable {σ : Type} {env : Env} {host : Cas20State σ} {view : σ → World} {s₀ s s' : σ}
  {input : PrecompileInput}

lemma Commits.administrates (hl : Lawful env host view) {gas : ℕ} {bytes : Bytes}
    (hc : Commits env host .policy input gas s bytes s') :
    ∃ sel act, selectorOf input.data = .ok sel ∧
      RegistryAction.ofCall (input.data.drop 4) sel = .ok act ∧
      (view s).registry.Permits input.caller act ∧
      (view s').registry = (view s).registry.apply input.caller act := by
  obtain ⟨w', heffect, hfresh, -⟩ := hc.effect hl
  have hreg : (view s').registry = w'.registry :=
    registry_congr (congrFun (congrArg World.storage hfresh) _).symm
  cases heffect with
  | token hkind | elsewhere hkind => rcases hkind with hk | hk <;> cases hk
  | creation hkind => cases hkind
  | registry _ sel hsel act hact hadmin _ =>
    exact ⟨sel, act, hsel, hact, hadmin.permits, hreg.trans hadmin.registry⟩

/-- What a call leaves of the registry: all of it, unless it was a call to the registry. -/
lemma Commits.registry_cases (hl : Lawful env host view) {kind : Kind} {gas : ℕ} {bytes : Bytes}
    (hself : resolve input.bytecodeAddress = some kind)
    (hc : Commits env host kind input gas s bytes s') :
    (view s').registry = (view s).registry ∨ ∃ act, (view s).registry.Permits input.caller act ∧
      (view s').registry = (view s).registry.apply input.caller act := by
  obtain ⟨w', heffect, hfresh, -⟩ := hc.effect hl
  have hreg : (view s').registry = w'.registry :=
    registry_congr (congrFun (congrArg World.storage hfresh) _).symm
  cases heffect with
  | token hkind _ _ _ htrace =>
    have ht : IsToken input.bytecodeAddress := isToken_of_kind hkind hself
    exact .inl (hreg.trans ((sameBut_of_trace htrace).registry ht.ne_policyRegistry))
  | creation _ call w1 _ hdecode hfounds _ htrace =>
    have ht : IsToken call.addr := isToken_of_decodeCreate hdecode
    refine .inl (hreg.trans (((sameBut_of_trace htrace).registry ht.ne_policyRegistry).trans ?_))
    exact registry_congr (hfounds.storage _ ht.ne_policyRegistry.symm)
  | registry _ _ _ act _ hadmin _ => exact .inr ⟨act, hadmin.permits, hreg.trans hadmin.registry⟩
  | elsewhere _ hsame _ => exact .inl (hreg.trans (hsame.registry (by decide)))

/-- What was created stays, and what has no admin stays as it is. -/
def Registry.Lasts (r r' : Registry) : Prop :=
  (∀ id, r.created id = true → r'.created id = true) ∧ ∀ id, r.Retired id → r.Fixed r' id

lemma Registry.Lasts.refl (r : Registry) : r.Lasts r := ⟨fun _ h => h, fun _ h => ⟨h, rfl, rfl⟩⟩

lemma Moves.registry (hl : Lawful env host view) (hs : (view s).Sound)
    (h : Moves env host view s s') : (view s).registry.Lasts (view s').registry := by
  cases h with
  | call hself hc =>
    rcases hc.registry_cases hl hself with heq | ⟨act, hp, heq⟩ <;> rw [heq]
    · exact .refl _
    · exact ⟨fun _ h => created_apply h act, fun _ h => h.fixed_apply hs.registry hp⟩
  | other hreg _ =>
    rw [registry_congr hreg]
    exact .refl _

lemma Registry.Fixed.trans {r r' r'' : Registry} {id : U64} (h : r.Fixed r' id)
    (h' : r'.Fixed r'' id) : r.Fixed r'' id :=
  ⟨h'.retired, h'.member.trans h.member, h'.children.trans h.children⟩

lemma registry_of_reachable (hl : Lawful env host view) (hs : (view s).Sound)
    (hr : Reachable env host view s s') : (view s).registry.Lasts (view s').registry := by
  have hall : (view s').Sound ∧ (view s).registry.Lasts (view s').registry := by
    induction hr with
    | refl => exact ⟨hs, .refl _⟩
    | tail _ hstep ih =>
      obtain ⟨hsound, hcreated, hfixed⟩ := ih
      obtain ⟨hcreated', hfixed'⟩ := hstep.registry hl hsound
      exact ⟨hstep.sound hl hsound, fun id h => hcreated' id (hcreated id h),
        fun id h => (hfixed id h).trans (hfixed' id (hfixed id h).retired)⟩
  exact hall.2

/-- The policies of a chain.

Composites have two to four children, which exist and are simple. The check of an account ends one
level below the policy asked about and answers by membership, or by the union or the intersection
of the children's memberships. Only known policies are bound to tokens. A new policy gets an id of
its type that no policy had. A policy once created exists for ever, and after its admin has
renounced neither its admin nor its members nor its children change. -/
theorem policies_sound (hl : Lawful env host view) (hg : (view s₀).Genesis)
    (hr : Reachable env host view s₀ s) :
    (∀ id, (view s).registry.created id = true → isComposite id = true →
      2 ≤ ((view s).registry.children id).length ∧ ((view s).registry.children id).length ≤ 4) ∧
    (∀ id, ∀ k ∈ (view s).registry.children id, (view s).registry.knows k = true ∧
      isSentinelPolicy k = false ∧ isComposite k = false) ∧
    (∀ a depth id b w', Returns (ideal env) (isAuthorized a (depth + 2) id) (view s) b w' ↔
      b = (view s).registry.verdict id a ∧ w' = view s) ∧
    (∀ t scope, IsToken t → ((view s).ledger t).policy scope ≠ 0 →
      (view s).registry.knows (((view s).ledger t).policy scope) = true) ∧
    (∀ input gas bytes s' sel ptype admin accounts kids,
      Commits env host .policy input gas s bytes s' → selectorOf input.data = .ok sel →
      (RegistryAction.ofCall (input.data.drop 4) sel = .ok (.create ptype admin accounts) ∨
        RegistryAction.ofCall (input.data.drop 4) sel = .ok (.compose ptype admin kids)) →
      idType ((view s).registry.nextId ptype) = ptype ∧
        (view s).registry.created ((view s).registry.nextId ptype) = false ∧
        (view s').registry.created ((view s).registry.nextId ptype) = true) ∧
    (∀ input gas bytes s' id, Commits env host .policy input gas s bytes s' →
      selectorOf input.data = .ok .renounceAdmin → readU64 (input.data.drop 4) 0 = .ok id →
      (view s').registry.Retired id) ∧
    ∀ s', Reachable env host view s s' →
      (∀ id, (view s).registry.created id = true → (view s').registry.created id = true) ∧
        ∀ id, (view s).registry.Retired id → (view s).registry.Fixed (view s').registry id := by
  have hsound := sound_of_reachable hl hg hr
  have hreg := hsound.registry
  refine ⟨hreg.arity, fun id k hk => ?_, fun a depth id b w' => ?_,
    fun t scope ht => (hsound.token t ht).bound scope,
    fun input gas bytes s' sel ptype admin accounts kids hc hsel hact => ?_,
    fun input gas bytes s' id hc hsel hid => ?_, fun s' => registry_of_reachable hl hsound⟩
  · obtain ⟨hcreated, hsent, hcomp⟩ := hreg.kids id k hk
    exact ⟨by simp [knows, (hreg.numbered k hcreated).1, hcreated], hsent, hcomp⟩
  · rw [returns_isAuthorized, hreg.authorized_eq, Option.some.injEq, eq_comm]
  · obtain ⟨sel', act, hsel', hact', hp, heq⟩ := hc.administrates hl
    obtain rfl : sel = sel' := Except.ok.inj (hsel.symm.trans hsel')
    -- the new policy is entered the same way for both kinds
    have hnew : ptype ≤ typeIntersect ∧ (view s).registry.seeded.counter < counterMax ∧
        (view s').registry.created ((view s).registry.nextId ptype) = true := by
      rcases hact with h | h
      · obtain rfl := Except.ok.inj (hact'.symm.trans h)
        refine ⟨hp.1, hp.2.2.2, ?_⟩
        rw [heq, apply, (sameRest_enroll _ _ _).created]
        simp [issue, setAdmin]
      · obtain rfl := Except.ok.inj (hact'.symm.trans h)
        refine ⟨hp.1, hp.2.2.2.2, ?_⟩
        rw [heq]
        simp [apply, setKids, issue, setAdmin]
    exact ⟨idType_policyIdOf hnew.1 hnew.2.1, hreg.created_nextId hnew.1 hnew.2.1, hnew.2.2⟩
  · obtain ⟨sel', act, hsel', hact', hp, heq⟩ := hc.administrates hl
    obtain rfl : .renounceAdmin = sel' := Except.ok.inj (hsel.symm.trans hsel')
    obtain rfl : act = .renounce id := by
      simp only [RegistryAction.ofCall, hid] at hact'
      exact (Except.ok.inj hact').symm
    rw [heq]
    exact retired_renounce hreg hp

def policyCall (data : Bytes) : PrecompileInput :=
  ⟨policyRegistryAddress, 3, false, true, 0, data, 0⟩

def allowInput : PrecompileInput :=
  policyCall (callData .createPolicyWithAccounts [.word 3, .word 1, abiWordArray [5]])

def blockInput : PrecompileInput := policyCall (callData .createPolicy [.word 3, .word 0])

/-- The intersection of the two. -/
def composeInput : PrecompileInput := policyCall (callData .createComposite [.word 3, .word 3,
  abiWordArray [wU64 (policyIdOf typeAllowlist 2), wU64 (policyIdOf typeBlocklist 3)]])

def policyRun (input : PrecompileInput) (s : MockHost) : PrecompileResult × MockHost :=
  run .bare (MockHost.state .bare) .policy input 1000000 s

def MockHost.allowing : MockHost := (policyRun allowInput .activated).2

def MockHost.blocking : MockHost := (policyRun blockInput .allowing).2

def MockHost.composed : MockHost := (policyRun composeInput .blocking).2

lemma composed_facts : (policyRun allowInput .activated).1.returned ∧
      (policyRun blockInput .allowing).1.returned ∧
      (policyRun composeInput .blocking).1.returned ∧
      composed.world.registry.verdict (policyIdOf typeIntersect 4) 5 := by
  decide +kernel

lemma reachable_policyRun {s₀ s : MockHost} (hself : resolve input.bytecodeAddress = some .policy)
    (h : (policyRun input s).1.returned)
    (hr : Reachable .bare (state .bare) world s₀ s) :
    Reachable .bare (state .bare) world s₀ (policyRun input s).2 := by
  obtain ⟨bytes, hc⟩ : ∃ bytes, Commits .bare (state .bare) .policy input 1000000 s bytes
      (policyRun input s).2 := exists_commits h
  exact hr.tail (.call hself hc)

/-- The check of account 5 against the composite ends below it and says yes. -/
theorem policies_sound_composed :
    Returns (ideal .bare) (isAuthorized 5 2 (policyIdOf typeIntersect 4))
      MockHost.composed.world true MockHost.composed.world := by
  obtain ⟨h1, h2, h3, hverdict⟩ := composed_facts
  have hr1 := reachable_policyRun (by decide) h1 .refl
  have hr2 := reachable_policyRun (by decide) h2 hr1
  have hr3 := reachable_policyRun (by decide) h3 hr2
  obtain ⟨-, -, hcheck, -⟩ := policies_sound (lawful .bare) genesis_activated hr3
  exact (hcheck 5 0 _ true _).mpr ⟨hverdict.symm, rfl⟩

end Chain

end RethBsc.Cas20
