import Mathlib.Logic.Relation
import RethBsc.Cas20.CallActions
import RethBsc.Cas20.RegistryCalls

/-!
The tokens and the policy registry over the life of a chain.

`Effect` is everything a call that returns can have done: the actions of a token, the creation of
one with the actions of its init calls, an action of the registry, or nothing that either of them
sees. A chain moves by committed calls and by steps that leave the native accounts alone; what the
effects keep, every reachable state has (`sound_of_reachable`).
-/

namespace RethBsc.Cas20

open Prog MockHost Ledger

/-! ### The effect of a call -/

inductive Effect (env : Env) (kind : Kind) (ctx : Ctx) (data : Bytes) (w w' : World) : Prop
  | token (hkind : kind = .asset ∨ kind = .stablecoin)
      (hcode : w.code ctx.selfAddr = markerCodeHash) (acts : List Action)
      (hacts : Token.callActions kind data = .ok acts)
      (htrace : Trace (Performs env (.new ctx 0)) acts w w')
  | creation (hkind : kind = .factory) (call : CreateCall) (w₁ : World) (acts : List Action)
      (hdecode : Returns (ideal env) (decodeCreate env ctx (data.drop 4)) w call w)
      (hfounds : Founds call w w₁) (hacts : initActions call = .ok acts)
      (htrace : Trace (Performs env (bootstrapToken ctx call.addr call.params.decimals)) acts w₁ w')
  | registry (hkind : kind = .policy) (sel : Selector) (hsel : selectorOf data = .ok sel)
      (act : RegistryAction) (hact : RegistryAction.ofCall (data.drop 4) sel = .ok act)
      (hadmin : Administrates ctx act w w') (hsame : w'.SameBut policyRegistryAddress w)
  | elsewhere (hkind : kind = .factory ∨ kind = .activation)
      (hsame : w'.SameBut activationRegistryAddress w) (hnotes : w'.SameNotes w)

section Effects

variable {env : Env} {kind : Kind} {ctx : Ctx} {data : Bytes} {w w' : World} {out : Bytes}

lemma effect_runFactory (h : Returns (ideal env) (runFactory env ctx data) w out w') :
    Effect env .factory ctx data w w' := by
  simp only [runFactory, liftM_eq, returns_bind, returns_ofExcept] at h
  obtain ⟨sel, w0, ⟨hsel, rfl⟩, h⟩ := h
  have hreads : Uses (Op.Within true 0 fun _ => False) (factoryDispatch env ctx (data.drop 4) sel) →
      Effect env .factory ctx data w0 w' := by
    intro hr
    obtain ⟨-, rfl⟩ := (returns_of_reads hr).mp h
    exact .elsewhere (.inl rfl) .refl ⟨rfl, rfl⟩
  cases sel
  case createCas20 =>
    obtain ⟨call, w₁, hdecode, hfounds, acts, hacts, htrace⟩ := runs_createCas20 h
    exact .creation rfl call w₁ acts hdecode hfounds hacts htrace
  case isCas20Initialized =>
    exact hreads (by simp [factoryDispatch, uses_ite, uses_initializedMetered])
  all_goals exact hreads (by simp [factoryDispatch])

/-- Whatever a call that returns has done. -/
theorem effect_execute (h : Returns (ideal env) (execute env kind ctx data) w out w') :
    Effect env kind ctx data w w' := by
  simp only [execute, returns_bind, returns_reject, returns_chargeCalldata, returns_paid] at h
  obtain ⟨_, _, ⟨-, rfl⟩, _, _, ⟨-, rfl⟩, _, _, ⟨-, rfl⟩, _, w0, ⟨-, rfl⟩, h⟩ := h
  cases kind with
  | factory => exact effect_runFactory h
  | policy =>
    obtain ⟨sel, hsel, act, hact, hadmin⟩ := carries_runPolicy h
    exact .registry rfl sel hsel act hact hadmin (sameBut_of_own (uses_runPolicy env data) h)
  | activation =>
    have hquiet := quiet_of_within
      (uses_runActivation (fun o => Token.quiet_of_ne_core (by decide) o) data) h
    exact .elsewhere (.inr rfl) (sameBut_of_own (uses_runActivation (fun _ => trivial) data) h)
      hquiet.2
  | asset =>
    obtain ⟨hcode, acts, hacts, htrace⟩ := runs_runToken h
    exact .token (.inl rfl) hcode acts hacts htrace
  | stablecoin =>
    obtain ⟨hcode, acts, hacts, htrace⟩ := runs_runToken h
    exact .token (.inr rfl) hcode acts hacts htrace

lemma Effect.of_token (h : Effect env kind ctx data w w')
    (hkind : kind = .asset ∨ kind = .stablecoin) :
    ∃ acts, Token.callActions kind data = .ok acts ∧
      Trace (Performs env (.new ctx 0)) acts w w' := by
  cases h with
  | token _ _ acts hacts htrace => exact ⟨acts, hacts, htrace⟩
  | creation hk | registry hk => rcases hkind with rfl | rfl <;> cases hk
  | elsewhere hk => rcases hkind with rfl | rfl <;> rcases hk with hk | hk <;> cases hk

end Effects

/-! ### Token accounts -/

/-- The address is one of a token, created or not. -/
def IsToken (a : Address) : Prop := resolve a = some .asset ∨ resolve a = some .stablecoin

lemma IsToken.ne_policyRegistry {t : Address} (h : IsToken t) : t ≠ policyRegistryAddress := by
  rintro rfl
  rcases h with h | h <;> exact absurd h (by decide)

lemma IsToken.ne_activationRegistry {t : Address} (h : IsToken t) :
    t ≠ activationRegistryAddress := by
  rintro rfl
  rcases h with h | h <;> exact absurd h (by decide)

/-- Nobody has written to the account: it has neither code nor storage. -/
def World.Vacant (w : World) (t : Address) : Prop :=
  hadNoCode (w.code t) = true ∧ ∀ k, w.storage t k = 0

structure World.TokenSound (w : World) (t : Address) : Prop where
  conserved : (w.ledger t).Conserved
  counted : (w.ledger t).Counted
  /-- Only known policies are bound. -/
  bound : ∀ scope, (w.ledger t).policy scope ≠ 0 →
    w.registry.knows ((w.ledger t).policy scope) = true

section Token

variable {env : Env} {tok : Token} {act : Action} {acts : List Action} {w w' : World}

lemma World.SameBut.registry {t : Address} (h : w'.SameBut t w) (ht : t ≠ policyRegistryAddress) :
    w'.registry = w.registry :=
  registry_congr (h.1 _ ht.symm)

lemma Performs.bound (h : Performs env tok act w w') (ht : tok.store ≠ policyRegistryAddress)
    (hw : w.TokenSound tok.store) (scope : Scope)
    (hne : (w'.ledger tok.store).policy scope ≠ 0) :
    w'.registry.knows ((w'.ledger tok.store).policy scope) := by
  rw [h.same.registry ht]
  by_cases hact : ∃ scope' id, act = .updatePolicy scope' id
  · obtain ⟨scope', id, rfl⟩ := hact
    rw [h.ledger] at hne ⊢
    by_cases hs : scope = scope'
    · subst hs
      have hknown : w.registry.knows id := h.passes
      simpa [apply] using hknown
    · simp only [apply, Function.update_of_ne hs] at hne ⊢
      exact hw.bound scope hne
  · push Not at hact
    rw [h.ledger, policy_apply hact] at hne ⊢
    exact hw.bound scope hne

lemma Performs.tokenSound (h : Performs env tok act w w') (ht : tok.store ≠ policyRegistryAddress)
    (hw : w.TokenSound tok.store ∧ w.wrapped = false) :
    w'.TokenSound tok.store ∧ w'.wrapped = false := by
  refine ⟨⟨?_, ?_, h.bound ht hw.1⟩, ?_⟩
  · rw [h.ledger]
    exact hw.1.conserved.apply h.permits
  · rw [h.ledger]
    exact hw.1.counted.apply h.permits
  · rw [← Bool.not_eq_true, h.wrapped, hw.2]
    simp [hw.1.conserved.not_wraps h.permits]

lemma tokenSound_of_trace (h : Trace (Performs env tok) acts w w')
    (ht : tok.store ≠ policyRegistryAddress) (hw : w.TokenSound tok.store ∧ w.wrapped = false) :
    w'.TokenSound tok.store ∧ w'.wrapped = false :=
  h.keeps (I := fun w => w.TokenSound tok.store ∧ w.wrapped = false)
    (fun _ _ _ hp => hp.tokenSound ht) hw

lemma sameBut_of_trace (h : Trace (Performs env tok) acts w w') : w'.SameBut tok.store w :=
  h.keeps (I := fun w' => w'.SameBut tok.store w) (fun _ _ _ hp hs => hs.trans hp.same) .refl

end Token

/-! ### Worlds -/

/-- The registry is sound, and every token account is vacant or carries a token, and is sound. -/
structure World.Sound (w : World) : Prop where
  registry : w.registry.Sound
  standing : ∀ t, IsToken t → w.Vacant t ∨ w.code t = markerCodeHash
  token : ∀ t, IsToken t → w.TokenSound t

section Worlds

variable {env : Env} {kind : Kind} {ctx : Ctx} {data : Bytes} {w w' : World} {t : Address}

lemma tokenSound_of_vacant (h : w.Vacant t) : w.TokenSound t := by
  have hempty := ledger_of_storage_zero h.2
  refine ⟨hempty ▸ conserved_empty, hempty ▸ counted_empty, fun scope hne => ?_⟩
  rw [hempty] at hne
  exact absurd rfl hne

lemma World.TokenSound.congr (h : w.TokenSound t) (hs : w'.storage t = w.storage t)
    (hr : ∀ id, w.registry.knows id → w'.registry.knows id) : w'.TokenSound t := by
  have hledger : w'.ledger t = w.ledger t := ledger_congr fun k _ => by rw [hs]
  refine ⟨hledger ▸ h.conserved, hledger ▸ h.counted, fun scope hne => ?_⟩
  rw [hledger] at hne ⊢
  exact hr _ (h.bound scope hne)

lemma standing_congr (h : w.Vacant t ∨ w.code t = markerCodeHash)
    (hs : w'.storage t = w.storage t) (hc : w'.code t = w.code t) :
    w'.Vacant t ∨ w'.code t = markerCodeHash := by
  unfold World.Vacant
  rw [hs, hc]
  exact h

lemma Registry.knows_mono {r r' : Registry} (h : ∀ id, r.created id → r'.created id)
    {id : U64} (hid : r.knows id) : r'.knows id := by
  simp only [Registry.knows, Bool.and_eq_true, Bool.or_eq_true] at hid ⊢
  exact ⟨hid.1, hid.2.imp_right (h id)⟩

lemma World.Sound.congr (h : w.Sound)
    (hreg : w'.storage policyRegistryAddress = w.storage policyRegistryAddress)
    (htok : ∀ t, IsToken t → w'.storage t = w.storage t ∧ w'.code t = w.code t) : w'.Sound := by
  have hr : w'.registry = w.registry := registry_congr hreg
  refine ⟨hr ▸ h.registry, fun t ht => ?_, fun t ht => ?_⟩
  · exact standing_congr (h.standing t ht) (htok t ht).1 (htok t ht).2
  · exact (h.token t ht).congr (htok t ht).1 fun _ hid => hr ▸ hid

variable {w₁ : World} {call : CreateCall}

lemma sound_of_trace {tok : Token} {acts : List Action} (ht : IsToken tok.store)
    (h : Trace (Performs env tok) acts w₁ w') (hw : w.Sound)
    (hreg : w₁.storage policyRegistryAddress = w.storage policyRegistryAddress)
    (hrest : ∀ t, IsToken t → t ≠ tok.store → w₁.storage t = w.storage t ∧ w₁.code t = w.code t)
    (hcode : w₁.code tok.store = markerCodeHash)
    (htok : w₁.TokenSound tok.store ∧ w₁.wrapped = false) : w'.Sound ∧ w'.wrapped = false := by
  have hne := ht.ne_policyRegistry
  have hsame := sameBut_of_trace h
  obtain ⟨hsound, hwrap⟩ := tokenSound_of_trace h hne htok
  have hr : w'.registry = w.registry := (hsame.registry hne).trans (registry_congr hreg)
  refine ⟨⟨hr ▸ hw.registry, fun t hxt => ?_, fun t hxt => ?_⟩, hwrap⟩
  · by_cases hx : t = tok.store
    · subst hx
      exact .inr (by rw [hsame.2.1, hcode])
    · exact standing_congr (hw.standing t hxt) ((hsame.1 t hx).trans (hrest t hxt hx).1)
        (by rw [hsame.2.1, (hrest t hxt hx).2])
  · by_cases hx : t = tok.store
    · exact hx ▸ hsound
    · exact (hw.token t hxt).congr ((hsame.1 t hx).trans (hrest t hxt hx).1) fun _ hid => hr ▸ hid

/-- The number of a derived address: the marker, the variant, and nine bytes of a hash. -/
lemma val_deriveAddress {variant : ℕ} (hv : variant ≤ variantMax) (env : Env) (creator : Address)
    (salt : B256) : ∃ n < 2 ^ 72,
      (deriveAddress env variant creator salt).val = 0xca52 * 2 ^ 144 + variant * 2 ^ 72 + n := by
  set h := env.keccak256 (B256.asSlice (addrKey creator) ++ B256.asSlice salt) with hh
  have hlt := h.isLt
  have hmax : variantMax = 1 := rfl
  refine ⟨h.toNat / 2 ^ 184, by omega, ?_⟩
  rw [deriveAddress, Fin.val_ofNat, ← hh]
  exact Nat.mod_eq_of_lt (by omega)

lemma isToken_deriveAddress {variant : ℕ} (hv : variant ≤ variantMax) (env : Env)
    (creator : Address) (salt : B256) : IsToken (deriveAddress env variant creator salt) := by
  obtain ⟨n, hn, hval⟩ := val_deriveAddress hv env creator salt
  have hmax : variantMax = 1 := rfl
  have hmark : isCas20Address (deriveAddress env variant creator salt) := by
    simp only [isCas20Address, hval, decide_eq_true_eq]
    omega
  have hbyte : variantByte (deriveAddress env variant creator salt) = variant := by
    simp only [variantByte, hval]
    omega
  have hcases : variant = variantAsset ∨ variant = variantStablecoin := by
    simp only [variantAsset, variantStablecoin]
    omega
  rcases hcases with rfl | rfl
  · exact .inl (by simp [resolve, hmark, hbyte])
  · have hne : variantStablecoin ≠ variantAsset := by decide
    exact .inr (by simp [resolve, hmark, hbyte, hne])

lemma isToken_of_decodeCreate {args : Bytes}
    (h : Returns (ideal env) (decodeCreate env ctx args) w call w') : IsToken call.addr := by
  simp only [decodeCreate, liftM_eq, returns_bind, returns_reject, returns_ofExcept] at h
  obtain ⟨_, _, ⟨-, rfl⟩, word, _, ⟨-, rfl⟩, salt, _, ⟨-, rfl⟩, _, _, ⟨-, rfl⟩, _, _, ⟨-, rfl⟩, _,
    _, ⟨henum, rfl⟩, h⟩ := h
  have hv : word.toNat ≤ variantMax := le_of_isEnumWord (by simpa using henum)
  cases hf : variantFeature word.toNat with
  | none => simp [hf] at h
  | some feature =>
    simp only [hf, returns_bind, returns_ofExcept, returns_paid, returns_pure] at h
    obtain ⟨_, _, -, _, _, -, _, _, -, _, _, -, _, _, -, rfl, -⟩ := h
    exact isToken_deriveAddress hv env ctx.caller salt

lemma isToken_of_kind (hkind : kind = .asset ∨ kind = .stablecoin)
    (hself : resolve t = some kind) : IsToken t := by
  rcases hkind with rfl | rfl
  · exact .inl hself
  · exact .inr hself

lemma Effect.at_token (h : Effect env kind ctx data w w') (ht : IsToken t)
    (hcode : w.code t = markerCodeHash) :
    w'.code t = markerCodeHash ∧ (w'.storage t = w.storage t ∨
      (ctx.selfAddr = t ∧ (kind = .asset ∨ kind = .stablecoin) ∧
        ∃ acts, Token.callActions kind data = .ok acts ∧
          Trace (Performs env (.new ctx 0)) acts w w')) := by
  cases h with
  | token hkind _ acts hacts htrace =>
    have hsame := sameBut_of_trace htrace
    refine ⟨by rw [hsame.2.1, hcode], ?_⟩
    by_cases hself : ctx.selfAddr = t
    · exact .inr ⟨hself, hkind, acts, hacts, htrace⟩
    · exact .inl (hsame.1 t (Ne.symm hself))
  | creation hkind call w₁ acts hdecode hfounds hacts htrace =>
    have hsame := sameBut_of_trace htrace
    have hne : t ≠ call.addr := by
      rintro rfl
      have hno := hfounds.vacant
      rw [hcode] at hno
      exact absurd hno (by decide)
    refine ⟨?_, .inl ((hsame.1 t hne).trans (hfounds.storage t hne))⟩
    rw [hsame.2.1, hfounds.code, Function.update_of_ne hne, hcode]
  | registry hkind sel hsel act hact hadmin hsame =>
    exact ⟨by rw [hsame.2.1, hcode], .inl (hsame.1 t ht.ne_policyRegistry)⟩
  | elsewhere hkind hsame hnotes =>
    exact ⟨by rw [hsame.2.1, hcode], .inl (hsame.1 t ht.ne_activationRegistry)⟩

lemma ledger_of_founds (h : Founds call w w₁)
    (hw : w.Vacant call.addr ∨ w.code call.addr = markerCodeHash) :
    w₁.ledger call.addr = .created call.params.initialAdmin := by
  rcases hw with hw | hw
  · exact h.ledger hw.2
  · have hno := h.vacant
    rw [hw] at hno
    exact absurd hno (by decide)

lemma tokenSound_of_founds (h : Founds call w w₁)
    (hw : w.Vacant call.addr ∨ w.code call.addr = markerCodeHash) : w₁.TokenSound call.addr := by
  have hledger := ledger_of_founds h hw
  refine ⟨hledger ▸ conserved_created _, hledger ▸ counted_created _, fun scope hne => ?_⟩
  rw [hledger, policy_created] at hne
  exact absurd rfl hne

/-- Whatever a call does keeps the world sound, and no addition to a balance wraps. -/
theorem Effect.sound (h : Effect env kind ctx data w w') (hself : resolve ctx.selfAddr = some kind)
    (hw : w.Sound) (hwrap : w.wrapped = false) : w'.Sound ∧ w'.wrapped = false := by
  cases h with
  | token hkind hcode acts hacts htrace =>
    have ht : IsToken (Token.new ctx 0).store := isToken_of_kind hkind hself
    exact sound_of_trace ht htrace hw rfl (fun _ _ _ => ⟨rfl, rfl⟩) hcode ⟨hw.token _ ht, hwrap⟩
  | creation hkind call w₁ acts hdecode hfounds hacts htrace =>
    have ht : IsToken (bootstrapToken ctx call.addr call.params.decimals).store :=
      isToken_of_decodeCreate hdecode
    have hreg := hfounds.storage _ ht.ne_policyRegistry.symm
    refine sound_of_trace ht htrace hw hreg (fun t _ hne => ⟨hfounds.storage t hne, ?_⟩) ?_ ?_
    · rw [hfounds.code]
      exact Function.update_of_ne hne _ _
    · rw [hfounds.code]
      exact Function.update_self _ _ _
    · exact ⟨tokenSound_of_founds hfounds (hw.standing _ ht), hfounds.wrapped.trans hwrap⟩
  | registry hkind sel hsel act hact hadmin hsame =>
    refine ⟨⟨?_, fun t ht => ?_, fun t ht => ?_⟩, hadmin.notes.2.trans hwrap⟩
    · rw [hadmin.registry]
      exact hw.registry.apply hadmin.permits
    · exact standing_congr (hw.standing t ht) (hsame.1 t ht.ne_policyRegistry) (by rw [hsame.2.1])
    · refine (hw.token t ht).congr (hsame.1 t ht.ne_policyRegistry) fun id hid => ?_
      rw [hadmin.registry]
      exact Registry.knows_mono (fun _ hc => Registry.created_apply hc act) hid
  | elsewhere hkind hsame hnotes =>
    refine ⟨hw.congr (hsame.1 _ (by decide)) fun t ht => ⟨hsame.1 t ht.ne_activationRegistry, ?_⟩,
      hnotes.2.trans hwrap⟩
    rw [hsame.2.1]

end Worlds

/-! ### Chains -/

section Chain

variable {σ : Type} (env : Env) (host : Cas20State σ) (view : σ → World)

/-- One step of a chain: a committed call to a native contract, or anything that leaves the storage
and the code of the tokens and the storage of the registry alone. -/
inductive Moves : σ → σ → Prop
  | call {kind : Kind} {input : PrecompileInput} {gas : ℕ} {s s' : σ} {bytes : Bytes}
      (hkind : resolve input.bytecodeAddress = some kind)
      (hc : Commits env host kind input gas s bytes s') : Moves s s'
  | other {s s' : σ}
      (hreg : (view s').storage policyRegistryAddress = (view s).storage policyRegistryAddress)
      (htok : ∀ t, IsToken t → (view s').storage t = (view s).storage t ∧
        (view s').code t = (view s).code t) : Moves s s'

/-- The states a chain comes to from a given one. -/
def Reachable : σ → σ → Prop := Relation.ReflTransGen (Moves env host view)

/-- Before the first call: no token exists and the registry is empty. -/
def World.Genesis (w : World) : Prop :=
  (∀ t, IsToken t → w.Vacant t) ∧ ∀ k, w.storage policyRegistryAddress k = 0

variable {env host view} {s₀ s s' : σ} {w : World}

lemma registry_of_storage_zero (h : ∀ k, w.storage policyRegistryAddress k = 0) :
    w.registry = .empty := by
  have hkids : w.childrenOf = fun _ => [] := by
    funext id
    simp [World.childrenOf, h]
  simp [World.registry, Registry.empty, h, hkids, wordExists, wordAdmin, Address.fromWord]

lemma World.Genesis.sound (h : w.Genesis) : w.Sound := by
  refine ⟨?_, fun t ht => .inl (h.1 t ht), fun t ht => tokenSound_of_vacant (h.1 t ht)⟩
  rw [registry_of_storage_zero h.2]
  exact Registry.sound_empty

lemma World.Sound.of_fresh {w' : World} (h : w.Sound) (hf : w.fresh = w'.fresh) : w'.Sound := by
  have hstorage : w'.storage = w.storage := (congrArg World.storage hf).symm
  have hcode : w'.code = w.code := (congrArg World.code hf).symm
  exact h.congr (by rw [hstorage]) fun t _ => ⟨by rw [hstorage], by rw [hcode]⟩

lemma Commits.effect (hl : Lawful env host view) {kind : Kind} {input : PrecompileInput} {gas : ℕ}
    {bytes : Bytes} (hc : Commits env host kind input gas s bytes s') :
    ∃ w', Effect env kind input.ctx input.data (view s).fresh w' ∧ w'.fresh = (view s').fresh ∧
      (w'.wrapped = false → Along (handler host input.isStatic) Op.NoWrap
        (execute env kind input.ctx input.data) (.new s gas)) := by
  obtain ⟨w', hret, hfresh, hwrap⟩ := hc.returns hl
  exact ⟨w', effect_execute hret, hfresh, hwrap⟩

lemma Moves.sound (hl : Lawful env host view) (h : Moves env host view s s')
    (hs : (view s).Sound) : (view s').Sound := by
  cases h with
  | call hkind hc =>
    obtain ⟨w', heffect, hfresh, -⟩ := hc.effect hl
    exact (heffect.sound hkind (hs.of_fresh rfl) rfl).1.of_fresh hfresh
  | other hreg htok => exact hs.congr hreg htok

/-- Every state of a chain is sound. -/
theorem sound_of_reachable (hl : Lawful env host view) (hg : (view s₀).Genesis)
    (hr : Reachable env host view s₀ s) : (view s).Sound := by
  induction hr with
  | refl => exact hg.sound
  | tail _ hstep ih => exact hstep.sound hl ih

/-- In every state of a chain the balances of every token add up to its supply, which is within
its cap of at most `2 ^ 128 - 1`; and no committed call lets an addition to a balance wrap. -/
theorem supply_conserved (hl : Lawful env host view) (hg : (view s₀).Genesis)
    (hr : Reachable env host view s₀ s) :
    (∀ t, IsToken t → ∑ a, (((view s).ledger t).balance a).toNat =
      ((view s).ledger t).supply.toNat ∧ ((view s).ledger t).supply ≤ ((view s).ledger t).cap ∧
      ((view s).ledger t).cap.toNat ≤ 2 ^ 128 - 1) ∧
    ∀ kind input gas bytes s', resolve input.bytecodeAddress = some kind →
      Commits env host kind input gas s bytes s' →
      Along (handler host input.isStatic) Op.NoWrap (execute env kind input.ctx input.data)
        (.new s gas) := by
  have hsound := sound_of_reachable hl hg hr
  refine ⟨fun t ht => (hsound.token t ht).conserved, fun kind input gas bytes s' hkind hc => ?_⟩
  obtain ⟨w', heffect, -, hwrap⟩ := hc.effect hl
  exact hwrap (heffect.sound hkind (hsound.of_fresh rfl) rfl).2

end Chain

/-! ### A chain

A stablecoin whose init calls make an account a minter and mint, without an admin. -/

section Sample

variable {σ : Type} {env : Env} {host : Cas20State σ} {kind : Kind} {input : PrecompileInput}
  {gas : ℕ} {s : σ}

def PrecompileResult.returned : PrecompileResult → Bool
  | .output _ _ _ _ => true
  | _ => false

lemma exists_commits (h : (run env host kind input gas s).1.returned) :
    ∃ bytes, Commits env host kind input gas s bytes (run env host kind input gas s).2 := by
  obtain ⟨⟨out, used, refund⟩, hout⟩ : ∃ c, c = complete (runFrame env host kind input gas s).2
    (runFrame env host kind input gas s).1 := ⟨_, rfl⟩
  have hrun : run env host kind input gas s = (.ofOutcome input.reservoir (out, used, refund),
      (run env host kind input gas s).2) := by
    rw [hout]
    rfl
  rw [hrun] at h
  cases out with
  | ret bytes => exact ⟨bytes, used, refund, hrun⟩
  | _ => cases h

def callData (sel : Selector) (args : List AbiPart) : Bytes :=
  wordBytes 4 sel.code.toNat ++ encodeTuple args

def abiBytesArray (bs : List Bytes) : AbiPart :=
  .dynamic (wordBytes 32 bs.length ++ encodeTuple (bs.map abiBytes))

/-- Stablecoins and policies are switched on. -/
def MockHost.activated : MockHost :=
  { MockHost.new 56 0 with
    storage := fun a k => if a = activationRegistryAddress ∧
      (k = mappingSlot (actSlot slotFeatures) featureStablecoin ∨
        k = mappingSlot (actSlot slotFeatures) featurePolicyRegistry) then 1 else 0 }

lemma MockHost.storage_activated {a : Address} (ha : a ≠ activationRegistryAddress) (k : Slot) :
    activated.world.storage a k = 0 := if_neg fun h => ha h.1

lemma MockHost.genesis_activated : activated.world.Genesis := by
  have hcode : hadNoCode keccak256Empty := by decide
  exact ⟨fun t ht => ⟨hcode, storage_activated ht.ne_activationRegistry⟩,
    storage_activated (by decide)⟩

/-- The text `USD`. -/
def usd : Bytes := [0x55, 0x53, 0x44]

/-- By account 1, without an admin; account 7 is made a minter and account 5 is given 100. -/
def createInput : PrecompileInput where
  bytecodeAddress := factoryAddress
  caller := 1
  isStatic := false
  isDirectCall := true
  value := 0
  data := callData .createCas20 [.word 1, .word 0,
    abiBytes (abiEncodeStruct [.word 1, abiString usd, abiString usd, .word 0, abiString usd]),
    abiBytesArray [callData .grantRole [.word roleMint, .word 7],
      callData .mint [.word 5, .word 100]]]
  reservoir := 0

def sampleToken : Address := deriveAddress .bare variantStablecoin 1 0

lemma isToken_sampleToken : IsToken sampleToken := isToken_deriveAddress le_rfl _ _ _

/-- The chain after the creation. -/
def MockHost.founded : MockHost :=
  (run .bare (state .bare) .factory createInput 30000000 activated).2

lemma reachable_founded : Reachable .bare (state .bare) world .activated .founded := by
  obtain ⟨bytes, hc⟩ : ∃ bytes, Commits .bare (state .bare) .factory createInput 30000000
      .activated bytes .founded := exists_commits (by decide +kernel)
  exact .single (.call (by decide) hc)

/-- The balances of the new token add up to what was minted. -/
theorem supply_conserved_founded :
    ∑ a, ((MockHost.founded.world.ledger sampleToken).balance a).toNat = 100 := by
  have h := (supply_conserved (lawful .bare) genesis_activated
    reachable_founded).1 sampleToken isToken_sampleToken
  rw [h.1]
  decide +kernel

end Sample

end RethBsc.Cas20
