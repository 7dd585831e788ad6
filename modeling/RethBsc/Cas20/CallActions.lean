import RethBsc.Cas20.TokenCalls

/-!
The actions of a call, from its data.

`Action.ofCall` decodes a call to the tables shared by both variants into one action; a batch of
mints and an announcement are several. Every call that returns in the ideal run has performed the
actions of its data, one after the other.
-/

namespace RethBsc.Cas20

open Prog Action

/-- The action of a call to the shared tables. The memo forms are those they extend. -/
def Action.ofCall (args : Bytes) : Selector → Except Cas20Err Action
  | .approve => do return .approve (← readAddress args 0) (← readU256 args 1)
  | .transfer | .transferWithMemo | .transferWithMemoFormat => do
    return .transfer (← readAddress args 0) (← readU256 args 1)
  | .transferFrom | .transferFromWithMemo | .transferFromWithMemoFormat => do
    return .transferFrom (← readAddress args 0) (← readAddress args 1) (← readU256 args 2)
  | .permit => do return .permit (← Token.readPermit args)
  | .mint | .mintWithMemo => do return .mint (← readAddress args 0) (← readU256 args 1)
  | .burn | .burnWithMemo => do return .burn (← readU256 args 0)
  | .seizeWithMemo => do
    return .seize (← readAddress args 0) (← readAddress args 1) (← readU256 args 2)
  | .grantRole => do return .grantRole (← readWord args 0) (← readAddress args 1)
  | .revokeRole => do return .revokeRole (← readWord args 0) (← readAddress args 1)
  | .renounceRole => do return .renounceRole (← readWord args 0)
  | .renounceLastAdmin => .ok .renounceLastAdmin
  | .setRoleAdmin => do return .setRoleAdmin (← readWord args 0) (← readWord args 1)
  | .pause => do return .setPause true (← readUint8Array args)
  | .unpause => do return .setPause false (← readUint8Array args)
  | .updateSupplyCap => do return .updateSupplyCap (← readU256 args 0)
  | .updatePolicy => do
    return .updatePolicy (← orRevert (Scope.ofWord (← readWord args 0))) (← readU64 args 1)
  | _ => .ok .quiet

namespace Token

variable {env : Env} {tok : Token} {args : Bytes} {sel : Selector} {r : Routine Bytes}
  {w w' : World} {out : Bytes}

lemma performs_quiet {α : Type} {p : Routine α} {a : α}
    (hp : Stays tok.ctx.readOnly tok.store QuietField p)
    (h : Yields env p w a w') : Performs env tok .quiet w w' := by
  have hown : tok.OwnOnly p := hp.mono fun _ ho => ho.mono fun _ _ => trivial
  exact .of_writes trivial trivial (quiet_of_within hp h) (sameBut_of_own hown h) rfl (by simp)

lemma quiet_of_reach (hsel : changesLedger sel = false)
    (h : Uses (Op.Within tok.ctx.readOnly tok.store (Reach sel)) r) :
    Stays tok.ctx.readOnly tok.store QuietField r :=
  h.mono fun _ ho => ho.mono fun _ hf => hf.resolve_right (by simp [hsel])

lemma ofCall_quiet (hsel : changesLedger sel = false) : ofCall args sel = .ok .quiet := by
  cases sel <;> first | rfl | cases hsel

def Acts (env : Env) (tok : Token) (args : Bytes) (sel : Selector) (w w' : World) : Prop :=
  ∃ act, Action.ofCall args sel = .ok act ∧ Performs env tok act w w'

variable {α : Type} {x : Except Cas20Err α} {f : α → Routine Bytes}
  {g : α → Except Cas20Err Action}

/-- An argument that the action is decoded from. -/
lemma acts_read (hr : Yields env (liftM x >>= f) w out w') (h : ∀ a, Yields env (f a) w out w' →
      ∃ act, g a = .ok act ∧ Performs env tok act w w') :
    ∃ act, (x >>= g) = .ok act ∧ Performs env tok act w w' := by
  simp only [liftM_eq, returns_bind, returns_ofExcept] at hr
  obtain ⟨a, _, ⟨rfl, rfl⟩, hr⟩ := hr
  exact h a hr

/-- An argument that the action does without. -/
lemma returns_after_read (hr : Yields env (liftM x >>= f) w out w') :
    ∃ a, Yields env (f a) w out w' := by
  simp only [liftM_eq, returns_bind, returns_ofExcept] at hr
  obtain ⟨a, _, ⟨-, rfl⟩, hr⟩ := hr
  exact ⟨a, hr⟩

lemma returns_before_pure {p : Routine α} {bytes : Bytes}
    (hr : Yields env (p >>= fun _ => Pure.pure bytes) w out w') :
    ∃ a, Yields env p w a w' := by
  simp only [returns_bind, returns_pure] at hr
  obtain ⟨a, _, hr, -, rfl⟩ := hr
  exact ⟨a, hr⟩

lemma returns_withMemo {word : Except Cas20Err B256} {body : Routine Bytes}
    (hr : Yields env (liftM word >>= fun memo => tok.withMemo memo body) w out w') :
    Yields env body w out w' := by
  obtain ⟨memo, hr⟩ := returns_after_read hr
  simpa [withMemo, emitMemo] using hr

lemma returns_withMemoFormat {word word' : Except Cas20Err B256} {body : Routine Bytes}
    (hr : Yields env (liftM word >>= fun memo => liftM word' >>= fun format =>
      tok.transferWithMemoFormat format memo body) w out w') :
    Yields env body w out w' := by
  obtain ⟨memo, hr⟩ := returns_after_read hr
  obtain ⟨format, hr⟩ := returns_after_read hr
  simp [transferWithMemoFormat, emitMemo] at hr
  exact hr.2.2

section Tables

variable (hsel : changesLedger sel) (hr : Yields env r w out w')
include hsel hr

lemma acts_dispatchErc20 (h : tok.dispatchErc20 env args sel = some r) :
    tok.Acts env args sel w w' := by
  cases sel <;> cases hsel <;> cases h
  case approve =>
    exact acts_read hr fun spender hr => acts_read hr fun amount hr => ⟨_, rfl, performs_approve hr⟩
  case transfer =>
    exact acts_read hr fun dst hr => acts_read hr fun amount hr => ⟨_, rfl, performs_transfer hr⟩
  case transferFrom =>
    exact acts_read hr fun src hr => acts_read hr fun dst hr => acts_read hr fun amount hr =>
      ⟨_, rfl, performs_transferFrom hr⟩

lemma acts_dispatchAdmin (h : tok.dispatchAdmin env args sel = some r) :
    tok.Acts env args sel w w' := by
  cases sel <;> cases hsel <;> cases h
  case grantRole =>
    exact acts_read hr fun role hr => acts_read hr fun account hr => ⟨_, rfl, performs_grantRole hr⟩
  case revokeRole =>
    exact acts_read hr fun role hr => acts_read hr fun account hr =>
      ⟨_, rfl, performs_revokeRole hr⟩
  case renounceRole =>
    refine acts_read hr fun role hr => ?_
    obtain ⟨confirmation, hr⟩ := returns_after_read hr
    exact ⟨_, rfl, performs_renounceRole hr⟩
  case setRoleAdmin =>
    exact acts_read hr fun role hr => acts_read hr fun admin hr =>
      ⟨_, rfl, performs_setRoleAdmin hr⟩
  case renounceLastAdmin => exact ⟨_, rfl, performs_renounceLastAdmin hr⟩
  case pause | unpause =>
    obtain ⟨features, h1, h⟩ := performs_setPause hr
    exact ⟨_, by simp only [ofCall, h1]; rfl, h⟩
  case mint =>
    refine acts_read hr fun dst hr => acts_read hr fun amount hr => ?_
    obtain ⟨_, hr⟩ := returns_before_pure hr
    exact ⟨_, rfl, performs_mint hr⟩
  case burn =>
    refine acts_read hr fun amount hr => ?_
    obtain ⟨_, hr⟩ := returns_before_pure hr
    exact ⟨_, rfl, performs_burn hr⟩
  case seizeWithMemo =>
    refine acts_read hr fun src hr => acts_read hr fun dst hr => acts_read hr fun amount hr => ?_
    obtain ⟨memo, hr⟩ := returns_after_read hr
    exact ⟨_, rfl, performs_seize hr⟩
  case updateSupplyCap =>
    exact acts_read hr fun cap hr => ⟨_, rfl, performs_updateSupplyCap hr⟩
  case updatePolicy =>
    simp only [liftM_eq, returns_bind, returns_ofExcept] at hr
    obtain ⟨word, _, ⟨h1, rfl⟩, id, _, ⟨h2, rfl⟩, h⟩ := hr
    obtain ⟨scope, hscope, h⟩ := performs_updatePolicy h
    refine ⟨.updatePolicy scope id, ?_, h⟩
    simp only [ofCall, h1, h2, Bind.bind, Except.bind, hscope, orRevert]
    rfl

lemma acts_dispatchPermitMemo (h : tok.dispatchPermitMemo env args sel = some r) :
    tok.Acts env args sel w w' := by
  cases sel <;> cases hsel <;> cases h
  case permit => exact acts_read hr fun p hr => ⟨_, rfl, performs_permit hr⟩
  case transferWithMemo =>
    exact acts_read hr fun dst hr => acts_read hr fun amount hr =>
      ⟨_, rfl, performs_transfer (returns_withMemo hr)⟩
  case transferFromWithMemo =>
    exact acts_read hr fun src hr => acts_read hr fun dst hr => acts_read hr fun amount hr =>
      ⟨_, rfl, performs_transferFrom (returns_withMemo hr)⟩
  case mintWithMemo =>
    refine acts_read hr fun dst hr => acts_read hr fun amount hr => ?_
    obtain ⟨_, hr⟩ := returns_before_pure (returns_withMemo hr)
    exact ⟨_, rfl, performs_mint hr⟩
  case burnWithMemo =>
    refine acts_read hr fun amount hr => ?_
    obtain ⟨_, hr⟩ := returns_before_pure (returns_withMemo hr)
    exact ⟨_, rfl, performs_burn hr⟩

lemma acts_dispatchMemoFormat (h : tok.dispatchMemoFormat env args sel = some r) :
    tok.Acts env args sel w w' := by
  cases sel <;> cases hsel <;> cases h
  case transferWithMemoFormat =>
    exact acts_read hr fun dst hr => acts_read hr fun amount hr =>
      ⟨_, rfl, performs_transfer (returns_withMemoFormat hr)⟩
  case transferFromWithMemoFormat =>
    exact acts_read hr fun src hr => acts_read hr fun dst hr => acts_read hr fun amount hr =>
      ⟨_, rfl, performs_transferFrom (returns_withMemoFormat hr)⟩

end Tables

/-- A call to the shared tables performs the action of its data. -/
theorem acts_dispatch (h : Yields env (tok.dispatch env sel args) w out w') :
    tok.Acts env args sel w w' := by
  by_cases hsel : changesLedger sel = true
  · revert h
    refine dispatch_cases (fun _ h hr => acts_dispatchErc20 hsel hr h)
      (fun _ h hr => acts_dispatchAdmin hsel hr h) (fun _ hmeta => ?_)
      (fun _ h hr => acts_dispatchPermitMemo hsel hr h)
      (fun _ h hr => acts_dispatchMemoFormat hsel hr h) (by simp)
    -- no selector of the metadata table changes the ledger
    cases sel <;> cases hsel <;> cases hmeta
  · have hsel : changesLedger sel = false := by simpa using hsel
    exact ⟨.quiet, ofCall_quiet hsel, performs_quiet (quiet_of_reach hsel (uses_dispatch _ _)) h⟩

/-! ### Batches, bundles and the two variants -/

def batchActions : List (B256 × B256) → Except Cas20Err (List Action)
  | [] => .ok []
  | (r, amount) :: rest => do
    let dst ← orRevert (addressFromWord r)
    return .mint dst amount :: (← batchActions rest)

/-- The actions of the calls of a bundle, one after the other. -/
def bundleActions (actions : Bytes → Except Cas20Err (List Action)) :
    List Bytes → Except Cas20Err (List Action)
  | [] => .ok []
  | c :: rest => do return (← actions c) ++ (← bundleActions actions rest)

/-- The mark of the announcement, then its bundle. -/
def announceActions (actions : Bytes → Except Cas20Err (List Action)) (args : Bytes) :
    Except Cas20Err (List Action) := do
  let calls ← readBytesArray args 0
  return .quiet :: (← bundleActions actions calls)

def stablecoinActions (data : Bytes) : Except Cas20Err (List Action) := do
  let sel ← selectorOf data
  return [← Action.ofCall (data.drop 4) sel]

def assetActionsWith (announce : Bytes → Except Cas20Err (List Action)) (data : Bytes) :
    Except Cas20Err (List Action) := do
  let sel ← selectorOf data
  match sel with
  | .batchMint =>
    let recipients ← readWordArray (data.drop 4) 0
    let amounts ← readWordArray (data.drop 4) 1
    batchActions (recipients.zip amounts)
  | .announce => announce (data.drop 4)
  | sel => return [← Action.ofCall (data.drop 4) sel]

def assetActions (data : Bytes) : Except Cas20Err (List Action) :=
  assetActionsWith (announceActions (assetActionsWith fun _ => .error revert)) data

def callActions (kind : Kind) (data : Bytes) : Except Cas20Err (List Action) :=
  if kind = .asset then assetActions data else stablecoinActions data

/-- The token performs the actions that were decoded. -/
def Runs (env : Env) (tok : Token) (actions : Except Cas20Err (List Action)) (w w' : World) :
    Prop :=
  ∃ acts, actions = .ok acts ∧ Trace (Performs env tok) acts w w'

/-- The pause and the role that were checked before a batch still hold after each of its mints. -/
lemma trace_mintEach {entries : List (B256 × B256)} {u : Unit}
    (hpaused : (w.ledger tok.store).paused.getLsbD pauseMint = false)
    (hrole : (w.ledger tok.store).Holds tok.ctx.caller tok.privileged roleMint)
    (h : Yields env (tok.mintEach env entries) w u w') :
    tok.Runs env (batchActions entries) w w' := by
  induction entries generalizing w with
  | nil =>
    simp only [mintEach, returns_pure] at h
    exact ⟨[], rfl, h.2 ▸ .nil _⟩
  | cons e rest ih =>
    simp only [mintEach, liftM_eq, returns_bind, returns_isOutOfGas, returns_reject,
      returns_ofExcept] at h
    obtain ⟨_, _, ⟨rfl, rfl⟩, _, _, ⟨-, rfl⟩, dst, _, ⟨hdst, rfl⟩, _, w1, hcore, hrest⟩ := h
    have hmint := performs_mintCore hpaused hrole hcore
    obtain ⟨acts, hacts, htrace⟩ := ih (by rw [hmint.ledger]; exact hpaused)
      (by rw [hmint.ledger]; exact hrole) hrest
    exact ⟨_, by simp only [batchActions, hdst, hacts]; rfl, .cons hmint htrace⟩

lemma runs_batchMint (h : Yields env (tok.batchMint env args) w out w') : tok.Runs env (do
      let recipients ← readWordArray args 0
      let amounts ← readWordArray args 1
      batchActions (recipients.zip amounts)) w w' := by
  simp [batchMint, returns_ensureRole] at h
  obtain ⟨recipients, h1, amounts, h2, -, hpaused, hrole, -, -, ⟨_, heach⟩, -⟩ := h
  obtain ⟨acts, hacts, htrace⟩ := trace_mintEach hpaused hrole heach
  exact ⟨acts, by simp only [h1, h2]; exact hacts, htrace⟩

lemma performs_congr {tok' : Token} {act : Action} (hctx : tok.ctx = tok'.ctx)
    (hpriv : tok.privileged = tok'.privileged) (h : Performs env tok act w w') :
    Performs env tok' act w w' := by
  cases tok
  cases tok'
  cases hctx
  cases hpriv
  exact ⟨h.permits, h.passes, h.ledger, h.renounced, h.wrapped, h.same⟩

variable {actions : Bytes → Except Cas20Err (List Action)} {data : Bytes}

lemma Runs.bundle_cons {c : Bytes} {rest : List Bytes} {w1 : World}
    (hcall : tok.Runs env (actions c) w w1)
    (hrest : tok.Runs env (bundleActions actions rest) w1 w') :
    tok.Runs env (bundleActions actions (c :: rest)) w w' := by
  obtain ⟨acts, hacts, htrace⟩ := hcall
  obtain ⟨acts', hacts', htrace'⟩ := hrest
  refine ⟨acts ++ acts', ?_, htrace.append htrace'⟩
  simp only [bundleActions, hacts, hacts']
  rfl

lemma runs_runCalls {d : Bytes → Routine Bytes} {onError : ℕ → Bytes → Cas20Err → Cas20Err}
    (hd : ∀ c out w w', Yields env (d c) w out w' → tok.Runs env (actions c) w w')
    {calls : List Bytes} {i : ℕ} {u : Unit}
    (h : Yields env (runCalls onError d i calls) w u w') :
    tok.Runs env (bundleActions actions calls) w w' := by
  induction calls generalizing i w with
  | nil =>
    simp only [runCalls, returns_pure] at h
    exact ⟨[], rfl, h.2 ▸ .nil _⟩
  | cons c rest ih =>
    simp [runCalls] at h
    obtain ⟨-, _, w1, hcall, hrest⟩ := h
    exact (hd c _ _ _ hcall).bundle_cons (ih hrest)

lemma runs_announce {d : Token → Bytes → Routine Bytes}
    (hd : ∀ c out w w', Yields env (d tok.announced c) w out w' →
      tok.announced.Runs env (actions c) w w')
    (h : Yields env (tok.announce d args) w out w') :
    tok.Runs env (announceActions actions args) w w' := by
  simp only [announce, liftM_eq, returns_bind, returns_ofExcept, returns_reject,
    returns_ensureRole] at h
  obtain ⟨calls, _, ⟨hcalls, rfl⟩, id, _, ⟨-, rfl⟩, _, _, ⟨-, rfl⟩, _, _, ⟨-, rfl⟩, _, _,
    ⟨hro, rfl⟩, _, _, ⟨-, rfl⟩, _, _, ⟨-, rfl⟩, used, w1, hused, h⟩ := h
  simp [announcementUsed, announcementSlot] at hused
  obtain ⟨rfl, rfl⟩ := hused
  simp only [returns_bind, returns_reject, returns_paid, returns_addLog, returns_pure] at h
  obtain ⟨_, w0, ⟨-, rfl⟩, _, _, hmark, _, _, ⟨-, rfl⟩, _, _, ⟨-, rfl⟩, _, w1, ⟨-, rfl⟩, _, _,
    hbundle, _, _, ⟨-, rfl⟩, _, _, ⟨-, rfl⟩, -, rfl⟩ := h
  have hquiet : Performs env tok .quiet w0 w1 := by
    refine performs_quiet ?_ hmark
    rw [Bool.not_eq_true] at hro
    rw [hro]
    exact uses_markAnnouncement (fun _ h => h) id
  obtain ⟨acts, hacts, htrace⟩ := runs_runCalls hd hbundle
  refine ⟨.quiet :: acts, ?_, .cons hquiet ?_⟩
  · simp only [announceActions, hcalls, Bind.bind, Except.bind, hacts]
    rfl
  · exact htrace.mono fun _ _ _ => performs_congr rfl rfl

lemma runs_dispatch (h : Yields env (tok.dispatch env sel args) w out w') :
    tok.Runs env (do return [← ofCall args sel]) w w' := by
  obtain ⟨act, hact, hperf⟩ := acts_dispatch h
  exact ⟨[act], by simp only [hact]; rfl, .single hperf⟩

theorem runs_stablecoinDispatch (h : Yields env (tok.stablecoinDispatch env data) w out w') :
    tok.Runs env (stablecoinActions data) w w' := by
  simp only [stablecoinDispatch, liftM_eq, returns_bind, returns_ofExcept] at h
  obtain ⟨sel, _, ⟨hsel, rfl⟩, h⟩ := h
  simp only [stablecoinActions, hsel]
  split_ifs at h with hcur
  · subst hcur
    refine ⟨[.quiet], rfl, .single (performs_quiet ?_ h)⟩
    simp only [uses_bind]
    exact ⟨by simp [currency], by rintro (_ | v) - <;> simp⟩
  · exact runs_dispatch h

lemma runs_assetDispatchWith {announce : Bytes → Routine Bytes}
    (huses : ∀ args, tok.OwnOnly (announce args))
    (ha : ∀ args out w w', Yields env (announce args) w out w' → tok.Runs env (actions args) w w')
    (h : Yields env (tok.assetDispatchWith env announce data) w out w') :
    tok.Runs env (assetActionsWith actions data) w w' := by
  simp only [assetDispatchWith, liftM_eq, returns_bind, returns_ofExcept] at h
  obtain ⟨sel, _, ⟨hsel, rfl⟩, h⟩ := h
  by_cases hb : sel = .batchMint
  · subst hb
    simp only [assetActionsWith, hsel]
    exact runs_batchMint h
  by_cases hn : sel = .announce
  · subst hn
    simp only [assetActionsWith, hsel]
    exact ha _ _ _ _ h
  have hone : assetActionsWith actions data = do return [← ofCall (data.drop 4) sel] := by
    simp only [assetActionsWith, hsel]
    cases sel <;> first | rfl | contradiction
  rw [hone]
  cases ht : tok.dispatchAsset env announce (data.drop 4) sel with
  | none => exact runs_dispatch (by simpa [ht] using h)
  | some r =>
    rw [ht, Option.getD_some] at h
    -- the rest of the asset's own table leaves the ledger alone
    have hq : changesLedger sel = false := by
      cases sel <;> first | rfl | contradiction
    refine ⟨[.quiet], by simp only [ofCall_quiet hq]; rfl, .single (performs_quiet ?_ h)⟩
    exact quiet_of_reach hq (uses_dispatchAsset (huses _) ht)

theorem runs_assetDispatch (h : Yields env (assetDispatch env tok data) w out w') :
    tok.Runs env (assetActions data) w w' := by
  refine runs_assetDispatchWith uses_bundle (fun args out w w' h => ?_) h
  refine runs_announce (fun c out w w' h => ?_) h
  refine runs_assetDispatchWith (uses_announce fun _ => by simp) (fun args out w w' h => ?_) h
  simp [announce, announced] at h

end Token

/-! ### Whole calls -/

section Calls

open Token

variable {env : Env} {ctx : Ctx} {kind : Kind} {data args : Bytes} {w w' : World} {out : Bytes}
  {c : Bool}

lemma returns_codeOf {a : Address} {f : Option B256 → Routine Bool} {b : Bool}
    (hf : f (some (w.code a)) = Pure.pure c) :
    Yields env (perform (.accountAccess a) >>= f) w b w' ↔ b = c ∧ w' = w := by
  simp only [returns_bind, returns_perform, ideal]
  constructor
  · rintro ⟨_, _, h, h'⟩
    cases h
    exact returns_pure.mp (hf ▸ h')
  · rintro ⟨rfl, rfl⟩
    exact ⟨_, _, rfl, hf ▸ returns_pure.mpr ⟨rfl, rfl⟩⟩

lemma returns_initializedMetered {a : Address} {b : Bool} :
    Yields env (initializedMetered a) w b w' ↔ b = decide (w.code a = markerCodeHash) ∧ w' = w :=
  returns_codeOf rfl

/-- A call to a token finds its marker and performs the actions of the call data. -/
theorem runs_runToken (h : Yields env (runToken env kind ctx data) w out w') :
    w.code ctx.selfAddr = markerCodeHash ∧
      (Token.new ctx 0).Runs env (callActions kind data) w w' := by
  simp only [runToken, returns_bind, returns_initializedMetered, returns_reject] at h
  obtain ⟨_, _, ⟨rfl, rfl⟩, _, _, ⟨hcode, rfl⟩, h⟩ := h
  refine ⟨by simpa using hcode, ?_⟩
  unfold callActions
  split_ifs at h ⊢ with hkind
  · exact runs_assetDispatch h
  · obtain ⟨acts, hacts, htrace⟩ := runs_stablecoinDispatch h
    exact ⟨acts, hacts, htrace.mono fun _ _ _ => performs_congr rfl rfl⟩

def variantKind (variant : ℕ) : Kind := if variant = variantAsset then .asset else .stablecoin

variable {tok : Token} {u : Unit}

lemma runs_variantDispatch {variant : ℕ}
    (h : Yields env (variantDispatch env tok variant data) w out w') :
    tok.Runs env (callActions (variantKind variant) data) w w' := by
  unfold variantDispatch at h
  unfold variantKind
  split_ifs at h ⊢ with hv
  · exact runs_assetDispatch h
  · exact runs_stablecoinDispatch h

lemma uses_setString_quiet {t : Address} {o : ℕ} (ho : o < slotTotalSupply) (v : Bytes) :
    Uses (Op.Within false t QuietField) (setString t o v) := by
  have hquiet : QuietField (.core, o) := .inr ho
  exact uses_setStringAt rfl (by simpa using hquiet) v

lemma uses_extension_quiet (tok : Token) (create : CreateParams) :
    Uses (Op.Within false tok.store QuietField)
      (if create.variant = variantAsset then tok.initAssetExtension create.decimals
        else do paid (← tok.setCurrency create.currency)) := by
  have hasset : ∀ o, (assetSlot o).In QuietField := asset_in fun _ h => h
  have hcurrency : (stablecoinSlot slotCurrency).In QuietField := by
    simpa [stablecoinSlot] using quiet_of_ne_core (by decide) slotCurrency
  simp [uses_ite, initAssetExtension, setAssetDecimals, setMultiplier, hasset, setCurrency,
    uses_setStringAt rfl hcurrency]

lemma returns_initToken {create : CreateParams} (h : Yields env (initToken tok create) w u w') :
    w'.ledger tok.store = { w.ledger tok.store with cap := noSupplyCap } ∧
      w'.renounced = false ∧ w'.wrapped = w.wrapped := by
  simp only [initToken, returns_bind, returns_perform, returns_paid, returns_setSupplyCap] at h
  obtain ⟨_, w1, hspawn, _, w2, hname, _, _, ⟨-, rfl⟩, _, w3, hsymbol, _, _, ⟨-, rfl⟩, _, _, rfl,
    hext⟩ := h
  cases hspawn
  have hn := quiet_of_within (uses_setString_quiet (by decide) _) hname
  have hs := quiet_of_within (uses_setString_quiet (by decide) _) hsymbol
  have he := quiet_of_within (uses_extension_quiet tok create) hext
  refine ⟨?_, ?_, ?_⟩
  · rw [he.1, ledger_setSupplyCap, hs.1, hn.1]
    rfl
  · rw [he.2.1, World.renounced_set, hs.2.1, hn.2.1]
    rfl
  · rw [he.2.2, World.wrapped_set, hs.2.2, hn.2.2]
    rfl

lemma returns_grantInitialAdmin {admin : Address}
    (h : Yields env (grantInitialAdmin tok admin) w u w') :
    (w.ledger tok.store = { Ledger.empty with cap := noSupplyCap } →
      w'.ledger tok.store = .created admin) ∧
      w'.renounced = w.renounced ∧ w'.wrapped = w.wrapped := by
  simp only [grantInitialAdmin, returns_whenever] at h
  by_cases ha : admin = 0
  · rw [h.2 (by simpa using ha)]
    exact ⟨fun hl => by simp [Ledger.created, ha, hl], rfl, rfl⟩
  · have h1 := h.1 ha
    simp at h1
    subst h1
    refine ⟨fun hl => ?_, rfl, rfl⟩
    have hrole := ledger_setRole (w := w) (t := tok.store) roleDefaultAdmin admin true
    simp only [cond_true] at hrole
    rw [ledger_setAdminCount, show (1#256 : U256) = 1 from rfl, hrole, hl, Ledger.created,
      if_neg ha, Ledger.grant]
    simp [Ledger.empty]

/-- The world a creation hands to its init calls: the account is claimed, its ledger the one of a
new token. -/
structure Founds (call : CreateCall) (w w₁ : World) : Prop where
  vacant : hadNoCode (w.code call.addr) = true
  code : w₁.code = Function.update w.code call.addr markerCodeHash
  ledger : (∀ k, w.storage call.addr k = 0) →
    w₁.ledger call.addr = .created call.params.initialAdmin
  storage : ∀ a, a ≠ call.addr → w₁.storage a = w.storage a
  renounced : w₁.renounced = false
  wrapped : w₁.wrapped = w.wrapped

def initActions (call : CreateCall) : Except Cas20Err (List Action) :=
  bundleActions (callActions (variantKind call.params.variant)) call.initCalls

lemma runs_bootstrap {call : CreateCall} (hvacant : hadNoCode (w.code call.addr))
    (h : Yields env (bootstrap env ctx call)
      (w.setCode call.addr (env.keccak256 markerCode)) out w') :
    ∃ w1, Founds call w w1 ∧ (bootstrapToken ctx call.addr call.params.decimals).Runs env
      (initActions call) w1 w' := by
  simp only [bootstrap, returns_bind, returns_perform, returns_paid, returns_addLog,
    returns_isOutOfGas, returns_reject, returns_pure] at h
  obtain ⟨_, w1, hinit, _, _, ⟨-, rfl⟩, _, w2, ⟨-, rfl⟩, _, w3, hspawn, _, w4, hadmin, _, w5,
    hcalls, _, _, ⟨-, rfl⟩, _, _, ⟨-, rfl⟩, -, rfl⟩ := h
  cases hspawn
  obtain ⟨hcap, hren, hwrap⟩ := returns_initToken hinit
  obtain ⟨hgrant, hren', hwrap'⟩ := returns_grantInitialAdmin hadmin
  have hinitSame := sameBut_of_own (uses_initToken _ _) hinit
  have hadminSame := sameBut_of_own (uses_grantInitialAdmin _ _) hadmin
  have hsame : w4.SameBut call.addr (w.setCode call.addr (env.keccak256 markerCode)) :=
    hinitSame.trans hadminSame
  refine ⟨w4, ⟨hvacant, ?_, fun hzero => hgrant ?_, hsame.1, hren'.trans rfl, ?_⟩, ?_⟩
  · rw [hsame.2.1, World.setCode, env.keccak256_markerCode]
  · have hempty : w.ledger call.addr = .empty := ledger_of_storage_zero hzero
    rw [ledger_withRenounced, hcap]
    exact congrArg (fun l : Ledger => { l with cap := noSupplyCap }) hempty
  · exact hwrap'.trans hwrap
  · exact runs_runCalls (fun c out w w' h => runs_variantDispatch h) hcalls

lemma returns_addressOccupied {a : Address} {b : Bool} :
    Yields env (addressOccupied a) w b w' ↔ b = (!hadNoCode (w.code a)) ∧ w' = w :=
  returns_codeOf rfl

/-- A creation claims a vacant account and then performs, as the bootstrap of the new token, the
actions of the init calls. -/
theorem runs_createCas20 (h : Yields env (createCas20 env ctx args) w out w') :
    ∃ call w1, Yields env (decodeCreate env ctx args) w call w ∧ Founds call w w1 ∧
      (bootstrapToken ctx call.addr call.params.decimals).Runs env (initActions call) w1 w' := by
  simp only [createCas20, returns_bind, returns_addressOccupied, returns_reject, returns_perform,
    returns_paid] at h
  obtain ⟨call, w1, hdecode, _, w2, ⟨rfl, rfl⟩, _, w3, ⟨hocc, rfl⟩, _, _, hwrite, _, _, ⟨-, rfl⟩, _,
    _, hset, h⟩ := h
  obtain ⟨hanswer, rfl⟩ := (returns_of_reads (uses_decodeCreate args)).mp hdecode
  cases hwrite
  cases hset
  obtain ⟨w1, hfounds, hruns⟩ := runs_bootstrap (by simpa using hocc) h
  exact ⟨call, w1, hdecode, hfounds, hruns⟩

end Calls

end RethBsc.Cas20
