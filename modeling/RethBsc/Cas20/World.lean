import Mathlib.Logic.Function.Basic
import RethBsc.Cas20.Factory

/-!
What a call does to the state when gas is no object.

A `World` is what the precompiles see of the state: storage, code hashes and the block fields.
`ideal` performs the operations on a world, with every charge paid. A host is lawful if it shows a
world and its operations, where they succeed, are those on the world. Then a call that is
committed, one that neither ran out of gas nor touched what it must not, is the ideal run of its
handler (`Commits.returns`).
-/

namespace RethBsc.Cas20

open Prog Frame

structure World where
  storage : Address → Slot → U256
  code : Address → B256
  time : ℕ
  chainId : ℕ
  /-- Whether the running frame has renounced the last admin. -/
  renounced : Bool
  /-- Whether an addition onto a balance has wrapped in the running frame. Nothing reads it. -/
  wrapped : Bool

namespace World

def set (w : World) (a : Address) (s : Slot) (v : U256) : World :=
  { w with storage := Function.update w.storage a (Function.update (w.storage a) s v) }

def setCode (w : World) (a : Address) (hash : B256) : World :=
  { w with code := Function.update w.code a hash }

def withRenounced (w : World) (b : Bool) : World := { w with renounced := b }

def noteAddition (w : World) (balance amount : U256) : World :=
  { w with wrapped := w.wrapped || decide (2 ^ 256 ≤ balance.toNat + amount.toNat) }

/-- The world as a frame finds it at its start. -/
def fresh (w : World) : World := { w with renounced := false, wrapped := false }

variable {w : World} {a b : Address} {s t : Slot} {v : U256} {c : Bool} {hash : B256}

@[simp] lemma renounced_set : (w.set a s v).renounced = w.renounced := rfl
@[simp] lemma renounced_withRenounced : (w.withRenounced c).renounced = c := rfl
@[simp] lemma wrapped_withRenounced : (w.withRenounced c).wrapped = w.wrapped := rfl
@[simp] lemma wrapped_set : (w.set a s v).wrapped = w.wrapped := rfl
@[simp] lemma wrapped_setCode : (w.setCode a hash).wrapped = w.wrapped := rfl

variable {x y : U256}

lemma wrapped_noteAddition : (w.noteAddition x y).wrapped ↔
    w.wrapped ∨ 2 ^ 256 ≤ x.toNat + y.toNat := by
  simp only [noteAddition, Bool.or_eq_true, decide_eq_true_eq]

lemma storage_set : (w.set a s v).storage b t = if b = a ∧ t = s then v else w.storage b t := by
  by_cases hb : b = a
  · subst hb
    by_cases ht : t = s
    · simp [set, ht]
    · simp [set, ht]
  · simp [set, hb]

@[simp] lemma storage_set_self : (w.set a s v).storage a s = v := by
  simp [storage_set]

lemma storage_set_of_ne (h : t ≠ s) : (w.set a s v).storage b t = w.storage b t := by
  simp [storage_set, h]

lemma storage_set_of_addr_ne (h : b ≠ a) : (w.set a s v).storage b = w.storage b := by
  funext t
  simp [storage_set, h]

end World

/-! ### The ideal run -/

/-- An operation when every charge is paid and every write allowed. -/
def ideal (env : Env) : (o : Op) → World → o.Answer × World
  | .charge _, w => (true, w)
  | .read a s, w => (some (w.storage a s), w)
  | .setWord a s v, w => (true, w.set a s v)
  | .addLog _, w => (true, w)
  | .accountAccess a, w => (some (w.code a), w)
  | .codeWrite _ _, w => (true, w)
  | .setCode a code, w => ((), w.setCode a (env.keccak256 code))
  | .outOfGas, w => (false, w)
  | .blockTime, w => (w.time, w)
  | .chainId, w => (w.chainId, w)
  | .adminRenounced, w => (w.renounced, w)
  | .renounceAdmin, w => ((), w.withRenounced true)
  | .spawnBootstrap, w => ((), w.withRenounced false)
  | .addBalance balance amount, w => (balance + amount, w.noteAddition balance amount)

/-! ### Lawful hosts -/

variable {σ : Type}

/-- The host shows a world: its reads answer from it and its writes change it, and nothing else
does. Nothing is said about an operation on which the database fails. -/
structure Lawful (env : Env) (host : Cas20State σ) (view : σ → World) : Prop where
  sload : ∀ a k s v s', host.sload a k s = (.ok v, s') →
    v.data = (view s).storage a k ∧ view s' = view s
  sstore : ∀ a k x s v s', host.sstore a k x s = (.ok v, s') → view s' = (view s).set a k x
  codeHash : ∀ a s v s', host.codeHash a s = (.ok v, s') →
    v.data = (view s).code a ∧ view s' = view s
  setCode : ∀ a code s s', host.setCode a code s = (.ok (), s') →
    view s' = (view s).setCode a (env.keccak256 code)
  log : ∀ log s, view (host.log log s) = view s
  blockTimestamp : ∀ s, host.blockTimestamp s = (view s).time
  chainId : ∀ s, host.chainId s = (view s).chainId

def Frame.world (view : σ → World) (f : Frame σ) : World :=
  { view f.state with renounced := f.adminRenounced, wrapped := false }

/-- The two worlds differ at most in the note on wrapping. -/
def World.Like (w w' : World) : Prop := { w with wrapped := false } = { w' with wrapped := false }

variable {w w' : World}

lemma World.Like.of_eq (h : w = w') : w.Like w' := h ▸ rfl

lemma World.Like.trans {w'' : World} (h : w.Like w') (h' : w'.Like w'') : w.Like w'' :=
  Eq.trans h h'

lemma World.Like.ideal (env : Env) (h : w.Like w') (o : Op) :
    (ideal env o w).1 = (ideal env o w').1 ∧ (ideal env o w).2.Like (ideal env o w').2 := by
  obtain ⟨storage, code, time, chainId, renounced, wrapped⟩ := w
  obtain ⟨storage', code', time', chainId', renounced', wrapped'⟩ := w'
  cases h
  cases o <;> exact ⟨rfl, rfl⟩

/-- The frame has neither run out of gas nor tried to write where it must not. -/
def Frame.Sound (f : Frame σ) : Prop := f.outOfGas = false ∧ f.writeProtected = false

section Refinement

variable {env : Env} {host : Cas20State σ} {view : σ → World} {f f' : Frame σ} {ro : Bool}
  {cost : ℕ} {α : Type} {bytes : Bytes}

lemma Frame.chargeGas_true (h : f.chargeGas cost = (true, f')) :
    f'.state = f.state ∧ f'.adminRenounced = f.adminRenounced ∧ f'.outOfGas = false ∧
      f'.writeProtected = f.writeProtected ∧ f'.fatal = f.fatal := by
  unfold chargeGas at h
  split at h
  · cases h
  · rename_i hoog
    split at h
    · cases h
    · cases h
      exact ⟨rfl, rfl, by simpa using hoog, rfl, rfl⟩

lemma Frame.chargeGas_false (h : f.chargeGas cost = (false, f')) : f'.outOfGas := by
  unfold chargeGas at h
  split at h
  · cases h
    assumption
  · split at h
    · cases h
      rfl
    · cases h

/-- What an operation does to a frame: it leaves the frame unsound, or it is the ideal
operation. -/
def Refines (view : σ → World) {α : Type} (x : α × Frame σ) (y : α × World) : Prop :=
  ¬ x.2.Sound ∨ (x.1 = y.1 ∧ x.2.Sound ∧ y.2.Like (x.2.world view))

lemma Frame.Sound.of_chargeGas_true (h : f.chargeGas cost = (true, f'))
    (hwp : f.writeProtected = false) : f'.Sound := by
  obtain ⟨-, -, hoog, hwp', -⟩ := chargeGas_true h
  exact ⟨hoog, hwp'.trans hwp⟩

lemma Frame.not_sound_of_outOfGas (h : f.outOfGas = true) : ¬ f.Sound := fun hs =>
  Bool.false_ne_true (hs.1.symm.trans h)

lemma Frame.not_sound_of_writeProtected (h : f.writeProtected = true) : ¬ f.Sound := fun hs =>
  Bool.false_ne_true (hs.2.symm.trans h)

lemma refines_chargeGas (hwp : f.writeProtected = false) (cost : ℕ) :
    Refines view (f.chargeGas cost) (true, f.world view) := by
  rcases h : f.chargeGas cost with ⟨_ | _, f'⟩
  · exact .inl (not_sound_of_outOfGas (chargeGas_false h))
  · obtain ⟨hstate, hren, -⟩ := chargeGas_true h
    refine .inr ⟨rfl, .of_chargeGas_true h hwp, .of_eq ?_⟩
    simp only [world, hstate, hren]

lemma refines_fail {x : α} {y : α × World} (e : String) :
    Refines view (x, f.fail e) y := .inl (not_sound_of_outOfGas rfl)

/-- `read` and `chargeAccountAccess`: look first, and pay for what was found. -/
def Frame.access (look : σ → Except String (StateLoad α) × σ) (cold : ℕ) (f : Frame σ) :
    Option α × Frame σ :=
  if f.outOfGas then (none, f)
  else
    match look f.state with
    | (.error e, state) => (none, { f with state }.fail e)
    | (.ok load, state) =>
      match { f with state }.chargeGas (if load.isCold then cold else warmStorageReadCost) with
      | (false, f') => (none, f')
      | (true, f') => (some load.data, f')

lemma handler_read (a : Address) (k : Slot) (f : Frame σ) :
    handler host ro (.read a k) f = f.access (host.sload a k) coldStorageCost := by
  rw [handler, Frame.read, Frame.access]
  rcases host.sload a k f.state with ⟨_ | _, _⟩ <;> rfl

lemma handler_accountAccess (a : Address) (f : Frame σ) :
    handler host ro (.accountAccess a) f = f.access (host.codeHash a) coldAccountAccessCost := by
  rw [handler, chargeAccountAccess, access]
  rcases host.codeHash a f.state with ⟨_ | _, _⟩ <;> rfl

lemma refines_access {look : σ → Except String (StateLoad α) × σ} {cold : ℕ} {x : α}
    (hlook : ∀ v s', look f.state = (.ok v, s') → v.data = x ∧ view s' = view f.state)
    (hf : f.Sound) : Refines view (f.access look cold) (some x, f.world view) := by
  rw [access, if_neg (Bool.not_eq_true _ ▸ hf.1)]
  rcases h : look f.state with ⟨e | v, s'⟩
  · exact refines_fail e
  · obtain ⟨rfl, hview⟩ := hlook v s' h
    have hw : f.world view = { f with state := s' }.world view := by
      simp only [world, hview]
    rw [hw]
    dsimp only
    have hcharge : Refines view _ _ := refines_chargeGas (f := { f with state := s' }) hf.2
      (if v.isCold then cold else warmStorageReadCost)
    revert hcharge
    rcases Frame.chargeGas { f with state := s' } _ with ⟨_ | _, f'⟩
    · exact fun h => .inl (h.resolve_right fun h' => nomatch h'.1)
    · exact fun h => h.imp_right fun h' => ⟨rfl, h'.2⟩

variable (hl : Lawful env host view)

section Sound

variable (hf : f.Sound)
include hl hf

lemma refines_setWord (a : Address) (k : Slot) (x : U256) : Refines view (f.setWord host ro a k x)
    (ideal env (.setWord a k x)
      (f.world view)) := by
  unfold Frame.setWord
  split_ifs with hro hleft hoog
  · exact .inl (not_sound_of_writeProtected rfl)
  · exact .inl (not_sound_of_outOfGas rfl)
  · exact .inl (not_sound_of_outOfGas hoog)
  · rcases h : host.sstore a k x f.state with ⟨e | v, s'⟩
    · exact refines_fail e
    · have hview := hl.sstore a k x _ v s' h
      have hw : (f.world view).set a k x = world view { f with
            state := s', gas := { f.gas with refund := f.gas.refund + sstoreRefund v.data } } := by
        simp only [world, hview]
        rfl
      rw [ideal, hw]
      apply refines_chargeGas
      exact hf.2

lemma refines_addLog (log : Log) :
    Refines view (f.addLog host ro log) (ideal env (.addLog log) (f.world view)) := by
  unfold Frame.addLog
  split_ifs with hro
  · exact .inl (not_sound_of_writeProtected rfl)
  · rcases h : f.chargeGas _ with ⟨_ | _, f'⟩
    · exact .inl (not_sound_of_outOfGas (chargeGas_false h))
    · obtain ⟨hstate, hren, -⟩ := chargeGas_true h
      have hs : f'.Sound := .of_chargeGas_true h hf.2
      refine .inr ⟨rfl, hs, .of_eq ?_⟩
      simp only [ideal, world, hl.log, hstate, hren]

lemma refines_codeWrite (a : Address) (code : Bytes) :
    Refines view (f.chargeCodeWrite host ro a code)
      (ideal env (.codeWrite a code) (f.world view)) := by
  unfold chargeCodeWrite
  split_ifs with hro
  · exact .inl (not_sound_of_writeProtected rfl)
  · rcases h : host.codeHash a f.state with ⟨e | v, s'⟩
    · exact refines_fail e
    · obtain ⟨-, hview⟩ := hl.codeHash a _ v s' h
      dsimp only
      rcases hc : Frame.chargeGas { f with state := s' } _ with ⟨_ | _, f'⟩
      · exact .inl (not_sound_of_outOfGas (chargeGas_false hc))
      · obtain ⟨hstate, hren, -, hwp, -⟩ := chargeGas_true hc
        have hw : f.world view = f'.world view := by
          simp only [world, hstate, hren, hview]
        rw [ideal, hw]
        exact refines_chargeGas (hwp.trans hf.2) _

lemma refines_setCode (a : Address) (code : Bytes) : Refines view ((), f.setCode host a code)
    (ideal env (.setCode a code) (f.world view)) := by
  unfold setCode
  rcases h : host.setCode a code f.state with ⟨e | ⟨⟩, s'⟩
  · exact refines_fail e
  · have hview := hl.setCode a code _ s' h
    refine .inr ⟨rfl, hf, ?_⟩
    simp only [ideal, world, hview]
    rfl

lemma handler_refines (o : Op) :
    Refines view (handler host ro o f) (ideal env o (f.world view)) := by
  cases o with
  | charge cost => exact refines_chargeGas hf.2 cost
  | read a k => exact handler_read a k f ▸ refines_access (hl.sload a k f.state) hf
  | setWord a k x => exact refines_setWord hl hf a k x
  | addLog log => exact refines_addLog hl hf log
  | accountAccess a => exact handler_accountAccess a f ▸ refines_access (hl.codeHash a f.state) hf
  | codeWrite a code => exact refines_codeWrite hl hf a code
  | setCode a code => exact refines_setCode hl hf a code
  | outOfGas => exact .inr ⟨hf.1, hf, rfl⟩
  | blockTime => exact .inr ⟨hl.blockTimestamp _, hf, rfl⟩
  | chainId => exact .inr ⟨hl.chainId _, hf, rfl⟩
  | adminRenounced | renounceAdmin | spawnBootstrap | addBalance => exact .inr ⟨rfl, hf, rfl⟩

end Sound

def Frame.MarksKept (f f' : Frame σ) : Prop :=
  (f.outOfGas = true → f'.outOfGas = true) ∧ (f.writeProtected = true → f'.writeProtected = true)

lemma Frame.MarksKept.rfl' : f.MarksKept f := ⟨id, id⟩

lemma Frame.marksKept_chargeGas (f : Frame σ) (cost : ℕ) : f.MarksKept (f.chargeGas cost).2 := by
  unfold chargeGas
  split_ifs with hoog
  · exact .rfl'
  · rcases f.gas.charge cost with ⟨_ | _, gas⟩
    · exact ⟨fun _ => rfl, id⟩
    · exact ⟨id, id⟩

lemma Frame.marksKept_of_chargeGas {g : Frame σ} {b : Bool} (h : g.chargeGas cost = (b, f'))
    (hoog : g.outOfGas = f.outOfGas) (hwp : g.writeProtected = f.writeProtected) :
    f.MarksKept f' := by
  have := g.marksKept_chargeGas cost
  rw [h, Frame.MarksKept, hoog, hwp] at this
  exact this

lemma Frame.marksKept_access (look : σ → Except String (StateLoad α) × σ) (cold : ℕ) (f : Frame σ) :
    f.MarksKept (f.access look cold).2 := by
  unfold access
  split_ifs with hoog
  · exact .rfl'
  · rcases look f.state with ⟨e | v, s'⟩
    · exact ⟨fun _ => rfl, id⟩
    · dsimp only
      split <;> rename_i hc <;> exact marksKept_of_chargeGas hc rfl rfl

lemma handler_marksKept (o : Op) (f : Frame σ) : f.MarksKept (handler host ro o f).2 := by
  cases o with
  | charge cost => exact f.marksKept_chargeGas cost
  | read a k => exact handler_read a k f ▸ marksKept_access _ _ f
  | setWord a k x =>
    change f.MarksKept (f.setWord host ro a k x).2
    unfold Frame.setWord
    split_ifs with hro hleft hoog
    · exact ⟨id, fun _ => rfl⟩
    · exact ⟨fun _ => rfl, id⟩
    · exact .rfl'
    · rcases host.sstore a k x f.state with ⟨e | v, s'⟩
      · exact ⟨fun _ => rfl, id⟩
      · exact marksKept_of_chargeGas (Prod.mk.eta).symm rfl rfl
  | addLog log =>
    change f.MarksKept (f.addLog host ro log).2
    unfold Frame.addLog
    split_ifs with hro
    · exact ⟨id, fun _ => rfl⟩
    · split <;> rename_i hc
      · exact marksKept_of_chargeGas hc rfl rfl
      · have := marksKept_of_chargeGas hc rfl rfl
        exact this
  | accountAccess a => exact handler_accountAccess a f ▸ marksKept_access _ _ f
  | codeWrite a code =>
    change f.MarksKept (f.chargeCodeWrite host ro a code).2
    unfold chargeCodeWrite
    split_ifs with hro
    · exact ⟨id, fun _ => rfl⟩
    · rcases host.codeHash a f.state with ⟨e | v, s'⟩
      · exact ⟨fun _ => rfl, id⟩
      · dsimp only
        split <;> rename_i f' hc
        · exact marksKept_of_chargeGas hc rfl rfl
        · have hk : f.MarksKept f' := marksKept_of_chargeGas hc rfl rfl
          have hk' := f'.marksKept_chargeGas (keccak256Gas + keccak256WordGas * wordsOf code.length)
          exact ⟨fun h => hk'.1 (hk.1 h), fun h => hk'.2 (hk.2 h)⟩
  | setCode a code =>
    change f.MarksKept (f.setCode host a code)
    unfold setCode
    split
    · exact ⟨fun _ => rfl, id⟩
    · exact ⟨id, id⟩
  | outOfGas | blockTime | chainId | adminRenounced | addBalance => exact .rfl'
  | renounceAdmin | spawnBootstrap => exact ⟨id, id⟩

lemma Frame.MarksKept.not_sound (hk : f.MarksKept f') (hf : ¬ f.Sound) : ¬ f'.Sound := by
  rintro ⟨hoog, hwp⟩
  refine hf ⟨?_, ?_⟩
  · by_contra h
    simp [hk.1 (by simpa using h)] at hoog
  · by_contra h
    simp [hk.2 (by simpa using h)] at hwp

include hl in
lemma handler_step (o : Op) (f : Frame σ) (w : World)
    (h : f.Sound ∧ w.Like (f.world view)) : ¬ (handler host ro o f).2.Sound ∨
      ((handler host ro o f).1 = (ideal env o w).1 ∧ (handler host ro o f).2.Sound ∧
        (ideal env o w).2.Like ((handler host ro o f).2.world view)) := by
  obtain ⟨hans, hlike⟩ := h.2.ideal env o
  have href : Refines view (handler host ro o f) (ideal env o (f.world view)) :=
    handler_refines hl h.1 o
  rcases href with h | ⟨h1, h2, h3⟩
  · exact .inl h
  · exact .inr ⟨h1.trans hans.symm, h2, hlike.trans h3⟩

include hl in
/-- A run from a sound frame ends in an unsound one or is the ideal run. -/
theorem run_ideal (p : Routine α) (hf : f.Sound) :
    Refines view (Prog.run (handler host ro) p f) (Prog.run (ideal env) p (f.world view)) := by
  unfold Refines
  exact run_simulates (R := fun f w => f.Sound ∧ w.Like (f.world view)) (D := fun f _ => ¬ f.Sound)
    (fun o f w _ _ h => handler_step hl o f w h)
    (fun o f _ _ h => (handler_marksKept o f).not_sound h) (fun _ _ _ _ h => h)
    (along_true p f) (along_true p (f.world view)) ⟨hf, rfl⟩

/-- An addition onto a balance that does not wrap; any other operation. -/
def Op.NoWrap {τ : Type} : Op → τ → Prop
  | .addBalance balance amount, _ => balance.toNat + amount.toNat < 2 ^ 256
  | _, _ => True

lemma ideal_wrapped (o : Op) (w : World) (h : w.wrapped) : (ideal env o w).2.wrapped := by
  cases o <;> simp [ideal, World.noteAddition, h]

include hl in
/-- If the ideal run notes no wrap, no addition of the real run wraps. -/
theorem along_noWrap (p : Routine α) (hf : f.Sound)
    (hend : (Prog.run (handler host ro) p f).2.Sound)
    (hw : (Prog.run (ideal env) p (f.world view)).2.wrapped = false) :
    Along (handler host ro) Op.NoWrap p f := by
  have hideal : Along (ideal env) Op.NoWrap p (f.world view) := by
    refine along_of_unmarked (M := fun w => w.wrapped = true) ideal_wrapped ?_ (by simp [hw])
    intro o w hQ
    cases o with
    | addBalance balance amount =>
      have hwraps : 2 ^ 256 ≤ balance.toNat + amount.toNat := not_lt.mp hQ
      simp only [ideal, World.noteAddition, hwraps, decide_true, Bool.or_true]
    | _ => exact (hQ trivial).elim
  refine along_of_simulates (R := fun f w => f.Sound ∧ w.Like (f.world view))
    (D := fun f _ => ¬ f.Sound) (fun o f w _ _ h => handler_step hl o f w h)
    (fun o f _ _ h => (handler_marksKept o f).not_sound h) (fun _ _ _ _ h => h) ?_
    (along_true p f) (along_true p (f.world view)) ⟨hf, rfl⟩ hideal (not_not.mpr hend)
  intro o f w _ hP
  cases o <;> exact hP

/-- The call returns `bytes` to the interpreter, which keeps what it wrote: the state is now
`s'`. -/
def Commits (env : Env) (host : Cas20State σ) (kind : Kind) (input : PrecompileInput) (gas : ℕ)
    (s : σ) (bytes : Bytes) (s' : σ) : Prop :=
  ∃ used refund, run env host kind input gas s = (.output used bytes refund input.reservoir, s')

lemma complete_ret {result : Except Cas20Err Bytes} {used : ℕ} {refund : ℤ}
    (h : complete f result = (.ret bytes, used, refund)) : f.Sound ∧ result = .ok bytes := by
  rcases hfatal : f.fatal with _ | msg
  · rcases hwp : f.writeProtected with _ | _
    · rcases hoog : f.outOfGas with _ | _
      · refine ⟨⟨hoog, hwp⟩, ?_⟩
        rcases result with (_ | _ | _ | _) | data <;> simp_all [complete]
      · simp [complete, hfatal, hwp, hoog] at h
    · simp [complete, hfatal, hwp] at h
  · simp [complete, hfatal] at h

lemma ofOutcome_output {reservoir reservoir' used : ℕ} {refund : ℤ} {o : Outcome × ℕ × ℤ}
    (h : PrecompileResult.ofOutcome reservoir o = .output used bytes refund reservoir') :
    o = (.ret bytes, used, refund) := by
  rcases o with ⟨_ | _ | _ | _, u, r⟩ <;> simp_all [PrecompileResult.ofOutcome]

include hl in
/-- A committed call is the ideal run of its handler, from the world the host showed before it to
the world the host shows after it. -/
theorem Commits.returns {kind : Kind} {input : PrecompileInput}
    {gas : ℕ} {s s' : σ} (hc : Commits env host kind input gas s bytes s') :
    ∃ w', Returns (ideal env) (execute env kind input.ctx input.data) (view s).fresh bytes w' ∧
      w'.fresh = (view s').fresh ∧
      (w'.wrapped = false → Along (handler host input.isStatic) Op.NoWrap
        (execute env kind input.ctx input.data) (.new s gas)) := by
  obtain ⟨used, refund, hrun⟩ := hc
  obtain ⟨hout, hstate⟩ := Prod.mk.inj hrun
  obtain ⟨hsound, hres⟩ := complete_ret (ofOutcome_output hout)
  have hnew : (new s gas).Sound := ⟨rfl, rfl⟩
  have href : Refines view (runFrame env host kind input gas s)
      (Prog.run (ideal env) (execute env kind input.ctx input.data) ((new s gas).world view)) :=
    run_ideal hl _ hnew
  rcases href with h | ⟨h1, -, h2⟩
  · exact (h hsound).elim
  · refine ⟨(Prog.run (ideal env) (execute env kind input.ctx input.data) (view s).fresh).2,
      Prod.ext (h1.symm.trans hres) rfl, ?_, along_noWrap hl _ hnew hsound⟩
    have hfresh := congrArg World.fresh h2
    rw [← hstate]
    exact hfresh

end Refinement

/-! ### A host -/

/-- A state with the access lists of one transaction. Slots and accounts are cold until they are
first touched; the original values are those at the start of the transaction. -/
structure MockHost where
  storage : Address → Slot → U256
  original : Address → Slot → U256
  warmSlots : List (Address × Slot)
  warmAddrs : List Address
  codeHash : Address → Option B256
  logs : List Log
  time : ℕ
  chainId : ℕ

namespace MockHost

def new (chainId time : ℕ) : MockHost where
  storage _ _ := 0
  original _ _ := 0
  warmSlots := []
  warmAddrs := []
  codeHash _ := none
  logs := []
  time := time
  chainId := chainId

def touch (m : MockHost) (a : Address) (k : Slot) : MockHost :=
  { m with warmAddrs := a :: m.warmAddrs, warmSlots := (a, k) :: m.warmSlots }

def state (env : Env) : Cas20State MockHost where
  sload a k m := (.ok ⟨m.storage a k, (a, k) ∉ m.warmSlots⟩, m.touch a k)
  sstore a k v m :=
    (.ok ⟨⟨m.original a k, m.storage a k, v⟩, (a, k) ∉ m.warmSlots⟩, { m.touch a k with
        storage := Function.update m.storage a (Function.update (m.storage a) k v) })
  codeHash a m :=
    (.ok ⟨(m.codeHash a).getD keccak256Empty, a ∉ m.warmAddrs⟩,
      { m with warmAddrs := a :: m.warmAddrs })
  setCode a code m :=
    (.ok (), { m with
        warmAddrs := a :: m.warmAddrs
        codeHash := Function.update m.codeHash a (some (env.keccak256 code)) })
  log log m := { m with logs := m.logs ++ [log] }
  blockTimestamp m := m.time
  chainId m := m.chainId

def world (m : MockHost) : World where
  storage := m.storage
  code a := (m.codeHash a).getD keccak256Empty
  time := m.time
  chainId := m.chainId
  renounced := false
  wrapped := false

theorem lawful (env : Env) : Lawful env (state env) world where
  sload a k s v s' h := by
    cases h
    exact ⟨rfl, rfl⟩
  sstore a k x s v s' h := by
    cases h
    rfl
  codeHash a s v s' h := by
    cases h
    exact ⟨rfl, rfl⟩
  setCode a code s s' h := by
    cases h
    have hcode : (fun b => (Function.update s.codeHash a (some (env.keccak256 code)) b).getD
        keccak256Empty) = Function.update (fun b => (s.codeHash b).getD keccak256Empty) a
          (env.keccak256 code) := by
      funext b
      by_cases hb : b = a
      · simp [hb]
      · simp [hb]
    simp only [world, World.setCode, hcode]
  log log s := rfl
  blockTimestamp s := rfl
  chainId s := rfl

end MockHost

/-- An environment whose hash knows the marker code only and in which no signature is valid. -/
def Env.bare : Env where
  keccak256 bytes := if bytes = markerCode then markerCodeHash else 0
  ecrecover _ _ _ := none
  depth := 2
  keccak256_markerCode := if_pos rfl

end RethBsc.Cas20
