import RethBsc.Cas20.Confinement
import RethBsc.Cas20.World

/-!
Gas decides only whether a call finishes.

A refused charge does not stop a handler: it sets a mark, and the handler goes on with zeros in
place of what it could not pay to read. Two runs of one call on different budgets are compared
operation by operation. As long as the smaller budget lasts, the two frames differ in nothing but
the limit. Once it is spent, nothing the handler still does removes the mark, so that the call
ends out of gas whatever it computed from the zeros.
-/

namespace RethBsc.Cas20

open Prog Frame PrecompileResult

variable {σ : Type}

def Frame.Running (f : Frame σ) : Prop :=
  f.outOfGas = false ∧ f.writeProtected = false ∧ f.fatal = none

def Frame.withLimit (l : ℕ) (f : Frame σ) : Frame σ := { f with gas := { f.gas with limit := l } }

/-- The two frames are running and differ only in how much gas the second has to spare. -/
def Frame.Alike (f g : Frame σ) : Prop := f.Running ∧ ∃ l, f.gas.limit ≤ l ∧ g = f.withLimit l

/-- Out of gas, and nothing worse. -/
def Frame.Starved (f : Frame σ) : Prop :=
  f.outOfGas = true ∧ f.writeProtected = false ∧ f.fatal = none

/-- The database failed, and the state has not changed since. -/
def Frame.FailedAt (msg : String) (s : σ) (f : Frame σ) : Prop :=
  f.outOfGas = true ∧ f.fatal = some msg ∧ f.state = s

/-- What the two runs of a call end in is settled: the first is out of gas, or both met the same
failure of the database. -/
def Frame.Settled (f g : Frame σ) : Prop := f.Starved ∨ ∃ msg s, f.FailedAt msg s ∧ g.FailedAt msg s

/-- The operations a handler performs: no write in a read-only frame, and no look at the code of
an account for a write once the gas is spent. -/
def Op.Permitted (ro : Bool) (o : Op) (f : Frame σ) : Prop :=
  match o with
  | .setWord _ _ _ => ro = false
  | .addLog _ => ro = false
  | .codeWrite _ _ => ro = false ∧ f.outOfGas = false
  | .setCode _ _ => f.outOfGas = false
  | _ => True

/-! ### A settled outcome stays settled -/

section Settled

variable {host : Cas20State σ} {ro : Bool} {f : Frame σ} {o : Op}

lemma handler_outOfGas (host : Cas20State σ) (hoog : f.outOfGas) (ho : o.Permitted ro f) :
    (handler host ro o f).2.outOfGas ∧ (handler host ro o f).2.writeProtected = f.writeProtected ∧
      (handler host ro o f).2.fatal = f.fatal ∧ (handler host ro o f).2.state = f.state := by
  cases o with
  | setWord a k x =>
    have hro : ro = false := ho
    by_cases hleft : f.gas.left ≤ callStipend
    · simp [handler, Frame.setWord, hro, hleft, Frame.markOutOfGas]
    · simp [handler, Frame.setWord, hro, hleft, hoog]
  | addLog log =>
    have hro : ro = false := ho
    simp [handler, Frame.addLog, hro, Frame.chargeGas, hoog]
  | codeWrite a code => exact absurd (hoog.symm.trans ho.2) (by decide)
  | setCode a code => exact absurd (hoog.symm.trans ho) (by decide)
  | charge cost => simp [handler, Frame.chargeGas, hoog]
  | read a k => simp [handler, Frame.read, hoog]
  | accountAccess a => simp [handler, Frame.chargeAccountAccess, hoog]
  | _ => simp [handler, hoog]

lemma Frame.Starved.handler (hf : f.Starved) (ho : o.Permitted ro f) :
    (handler host ro o f).2.Starved := by
  obtain ⟨hoog, hwp, hfatal, -⟩ := handler_outOfGas host hf.1 ho
  exact ⟨hoog, hwp.trans hf.2.1, hfatal.trans hf.2.2⟩

lemma Frame.FailedAt.handler {msg : String} {s : σ} (hf : f.FailedAt msg s)
    (ho : o.Permitted ro f) : (handler host ro o f).2.FailedAt msg s := by
  obtain ⟨hoog, -, hfatal, hstate⟩ := handler_outOfGas host hf.1 ho
  exact ⟨hoog, hfatal.trans hf.2.1, hstate.trans hf.2.2⟩

lemma Frame.Settled.left {g : Frame σ} (h : f.Settled g) (ho : o.Permitted ro f) :
    (handler host ro o f).2.Settled g := by
  rcases h with h | ⟨msg, s, hf, hg⟩
  · exact .inl (h.handler ho)
  · exact .inr ⟨msg, s, hf.handler ho, hg⟩

lemma Frame.Settled.right {g : Frame σ} (h : f.Settled g) (ho : o.Permitted ro g) :
    f.Settled (handler host ro o g).2 := by
  rcases h with h | ⟨msg, s, hf, hg⟩
  · exact .inl h
  · exact .inr ⟨msg, s, hf, hg.handler ho⟩

end Settled

/-! ### One operation on two budgets -/

/-- One operation on two frames: its outcome is settled, or it answers both alike. -/
def Agrees {α : Type} (x y : α × Frame σ) : Prop := x.2.Settled y.2 ∨ (x.1 = y.1 ∧ x.2.Alike y.2)

section Agrees

variable {host : Cas20State σ} {ro : Bool} {f g : Frame σ}

section

variable (h : f.Alike g)
include h

lemma Frame.Alike.chargeGas (cost : ℕ) : (∃ f', f.chargeGas cost = (false, f') ∧ f'.Starved) ∨
      ∃ f' g', f.chargeGas cost = (true, f') ∧ g.chargeGas cost = (true, g') ∧ f'.Alike g' := by
  obtain ⟨⟨hoog, hwp, hfatal⟩, l, hl, rfl⟩ := h
  by_cases hleft : f.gas.left < cost
  · refine .inl ⟨{ f with gas := f.gas.exhaust }.markOutOfGas, ?_, ?_⟩
    · simp [chargeGas, hoog, Meter.charge, hleft]
    · exact ⟨rfl, hwp, hfatal⟩
  · have hleft' : ¬ (l - f.gas.used < cost) := by
      unfold Meter.left at hleft
      omega
    refine .inr ⟨{ f with gas := { f.gas with used := f.gas.used + cost } },
      { f with gas := { f.gas with used := f.gas.used + cost, limit := l } }, ?_, ?_, ?_⟩
    · simp [chargeGas, hoog, Meter.charge, hleft]
    · simp [chargeGas, withLimit, hoog, Meter.charge, Meter.left, hleft']
    · exact ⟨⟨hoog, hwp, hfatal⟩, l, hl, rfl⟩

lemma agrees_chargeGas (cost : ℕ) : Agrees (f.chargeGas cost) (g.chargeGas cost) := by
  rcases h.chargeGas cost with ⟨f', hf, hs⟩ | ⟨f', g', hf, hg, ha⟩
  · exact .inl (.inl (by rwa [hf]))
  · rw [hf, hg]
    exact .inr ⟨rfl, ha⟩

lemma Frame.Alike.withState (s : σ) : Frame.Alike { f with state := s } { g with state := s } := by
  obtain ⟨hr, l, hl, rfl⟩ := h
  exact ⟨hr, l, hl, rfl⟩

lemma Frame.Alike.fatal_right : g.fatal = none := by
  obtain ⟨hr, l, hl, rfl⟩ := h
  exact hr.2.2

lemma Frame.Alike.outOfGas_right : g.outOfGas = false := by
  obtain ⟨hr, l, hl, rfl⟩ := h
  exact hr.1

lemma Frame.Alike.state_right : g.state = f.state := by
  obtain ⟨hr, l, hl, rfl⟩ := h
  rfl

lemma Frame.Alike.left_le : f.gas.left ≤ g.gas.left := by
  obtain ⟨hr, l, hl, rfl⟩ := h
  exact Nat.sub_le_sub_right hl _

lemma agrees_fail {α : Type} {x y : α} (s : σ) (e : String) :
    Agrees (x, { f with state := s }.fail e) (y, { g with state := s }.fail e) := by
  refine .inl (.inr ⟨e, s, ⟨rfl, ?_, rfl⟩, ⟨rfl, ?_, rfl⟩⟩)
  · simp [Frame.fail, h.1.2.2]
  · simp [Frame.fail, h.fatal_right]

lemma agrees_access {α : Type} (look : σ → Except String (StateLoad α) × σ)
    (cold : ℕ) : Agrees (f.access look cold) (g.access look cold) := by
  rw [access, access, if_neg (Bool.not_eq_true _ ▸ h.1.1),
    if_neg (Bool.not_eq_true _ ▸ h.outOfGas_right), h.state_right]
  rcases look f.state with ⟨e | v, s'⟩
  · exact agrees_fail h s' e
  · dsimp only
    rcases (h.withState s').chargeGas (if v.isCold then cold else warmStorageReadCost) with
      ⟨f', hf, hs⟩ | ⟨f', g', hf, hg, ha⟩
    · rw [hf]
      exact .inl (.inl hs)
    · rw [hf, hg]
      exact .inr ⟨rfl, ha⟩

lemma agrees_setWord (a : Address) (k : Slot) (x : U256) :
    Agrees (f.setWord host false a k x) (g.setWord host false a k x) := by
  by_cases hleft : f.gas.left ≤ callStipend
  · refine .inl (.inl ?_)
    simp only [Frame.setWord, Bool.false_eq_true, if_false, hleft, if_true]
    exact ⟨rfl, h.1.2⟩
  · have hleft' : ¬ g.gas.left ≤ callStipend := fun hg => hleft (h.left_le.trans hg)
    rw [Frame.setWord, Frame.setWord, if_neg Bool.false_ne_true, if_neg Bool.false_ne_true,
      if_neg hleft, if_neg hleft', if_neg (Bool.not_eq_true _ ▸ h.1.1),
      if_neg (Bool.not_eq_true _ ▸ h.outOfGas_right), h.state_right]
    rcases host.sstore a k x f.state with ⟨e | v, s'⟩
    · exact agrees_fail h s' e
    · obtain ⟨hr, l, hl, rfl⟩ := h
      apply agrees_chargeGas
      exact ⟨hr, l, hl, rfl⟩

lemma agrees_addLog (log : Log) : Agrees (f.addLog host false log) (g.addLog host false log) := by
  rw [Frame.addLog, Frame.addLog, if_neg Bool.false_ne_true, if_neg Bool.false_ne_true]
  rcases h.chargeGas (logGas + logTopicGas * log.topics.length + logDataGas * log.data.length)
    with ⟨f', hf, hs⟩ | ⟨f', g', hf, hg, ha⟩
  · rw [hf]
    exact .inl (.inl hs)
  · rw [hf, hg]
    dsimp only
    rw [ha.state_right]
    exact .inr ⟨rfl, ha.withState _⟩

lemma agrees_codeWrite (a : Address) (code : Bytes) :
    Agrees (f.chargeCodeWrite host false a code) (g.chargeCodeWrite host false a code) := by
  rw [chargeCodeWrite, chargeCodeWrite, if_neg Bool.false_ne_true,
    if_neg Bool.false_ne_true, h.state_right]
  rcases host.codeHash a f.state with ⟨e | v, s'⟩
  · exact agrees_fail h s' e
  · dsimp only
    rcases (h.withState s').chargeGas
      (createDataGas * code.length + if hadNoCode v.data then createGas else 0)
      with ⟨f', hf, hs⟩ | ⟨f', g', hf, hg, ha⟩
    · rw [hf]
      exact .inl (.inl hs)
    · rw [hf, hg]
      exact agrees_chargeGas ha _

lemma agrees_setCode (a : Address) (code : Bytes) :
    Agrees ((), f.setCode host a code) ((), g.setCode host a code) := by
  rw [setCode, setCode, h.state_right]
  rcases host.setCode a code f.state with ⟨e | ⟨⟩, s'⟩
  · exact agrees_fail h s' e
  · exact .inr ⟨rfl, h.withState s'⟩

end

/-- Every operation a handler performs answers two like frames alike, or settles the outcome. -/
lemma handler_agrees {o : Op} (ho : o.Permitted ro f) (h : f.Alike g) :
    Agrees (handler host ro o f) (handler host ro o g) := by
  cases o with
  | charge cost => exact agrees_chargeGas h cost
  | read a k => rw [handler_read, handler_read]; exact agrees_access h _ _
  | setWord a k x =>
    obtain rfl : ro = false := ho
    exact agrees_setWord h a k x
  | addLog log =>
    obtain rfl : ro = false := ho
    exact agrees_addLog h log
  | accountAccess a => rw [handler_accountAccess, handler_accountAccess]; exact agrees_access h _ _
  | codeWrite a code =>
    obtain rfl : ro = false := ho.1
    exact agrees_codeWrite h a code
  | setCode a code => exact agrees_setCode h a code
  | outOfGas => exact .inr ⟨h.1.1.trans h.outOfGas_right.symm, h⟩
  | blockTime | chainId => exact .inr ⟨by simp [handler, h.state_right], h⟩
  | adminRenounced | renounceAdmin | spawnBootstrap =>
    obtain ⟨hr, l, hl, rfl⟩ := h
    exact .inr ⟨rfl, hr, l, hl, rfl⟩
  | addBalance b x => exact .inr ⟨rfl, h⟩

end Agrees

/-! ### Handlers perform what is permitted -/

section Permitted

variable {host : Cas20State σ} {env : Env} {ctx : Ctx} {ro : Bool} {f : Frame σ}

lemma Op.Within.permitted {st : Address} {F : Fields} {o : Op} (h : o.Within ro st F) :
    o.Permitted ro f := by
  cases o with
  | setWord a k x => exact h.1
  | addLog log => exact h
  | codeWrite a code => exact h.elim
  | setCode a code => exact h.elim
  | _ => trivial

lemma along_of_own {α : Type} {st : Address} {p : Routine α} (h : StaysIn ro st p)
    (f : Frame σ) : Along (handler host ro) (Op.Permitted ro) p f :=
  h.along (fun _ _ h => h.permitted) f

lemma along_reject (c : Prop) [Decidable c] (e : Cas20Err) (f : Frame σ) :
    Along (handler host ro) (Op.Permitted ro) (reject c e) f :=
  along_of_own (uses_reject c e : StaysIn ro 0 (reject c e)) f

lemma along_paid (done : Bool) (f : Frame σ) :
    Along (handler host ro) (Op.Permitted ro) (paid done) f :=
  along_reject _ _ f

lemma addressOccupied_false {f' : Frame σ} {a : Address}
    (h : Returns (handler host ro) (addressOccupied a) f false f') : f'.outOfGas = false := by
  simp only [addressOccupied, returns_bind, returns_perform] at h
  obtain ⟨_ | hash, f1, hop, h⟩ := h
  · simp at h
  · obtain ⟨-, rfl⟩ := returns_pure.mp h
    change f.chargeAccountAccess host a = (some hash, f') at hop
    unfold chargeAccountAccess at hop
    split at hop
    · cases hop
    · split at hop
      · cases hop
      · split at hop
        · cases hop
        · rename_i hc
          cases hop
          exact (chargeGas_true hc).2.2.1

lemma codeWrite_true {f' : Frame σ} {a : Address} {code : Bytes}
    (h : f.chargeCodeWrite host ro a code = (true, f')) : f'.outOfGas = false := by
  unfold chargeCodeWrite at h
  split at h
  · cases h
  · split at h
    · cases h
    · dsimp only at h
      split at h
      · cases h
      · exact (chargeGas_true h).2.2.1

lemma readOnly_of_decodeCreate {args : Bytes} {call : CreateCall}
    (h : CanReturn (decodeCreate env ctx args) call) : ctx.readOnly = false := by
  obtain ⟨_, hro, -⟩ := canReturn_bind.mp h
  simpa using hro

lemma along_createCas20 (args : Bytes) (f : Frame σ) :
    Along (handler host ctx.readOnly) (Op.Permitted ctx.readOnly) (createCas20 env ctx args) f := by
  have hdecode : StaysIn ctx.readOnly 0 (decodeCreate env ctx args) := uses_decodeCreate args
  refine (along_of_own hdecode f).bind fun call f1 hcall => ?_
  have hro := readOnly_of_decodeCreate hcall.canReturn
  have hoccupied : StaysIn ctx.readOnly 0 (addressOccupied call.addr) :=
    uses_addressOccupied call.addr
  refine (along_of_own hoccupied f1).bind fun occupied f2 hocc => ?_
  refine (along_reject _ _ f2).bind fun _ f3 hrej => ?_
  cases occupied with
  | true => simp [reject] at hrej
  | false =>
    obtain rfl : f3 = f2 := by simpa [reject] using hrej
    refine .bind (along_perform.mpr ⟨hro, addressOccupied_false hocc⟩) fun done f4 hwrite => ?_
    refine .bind (along_paid _ f4) fun _ f5 hpaid => ?_
    cases done with
    | false => simp [paid, reject] at hpaid
    | true =>
      obtain rfl : f5 = f4 := by simpa [paid, reject] using hpaid
      refine .bind (along_perform.mpr (codeWrite_true (returns_perform.mp hwrite))) fun _ f6 _ => ?_
      rw [hro]
      exact along_of_own (uses_bootstrap hro call) f6

lemma along_runFactory (input : Bytes) (f : Frame σ) :
    Along (handler host ctx.readOnly) (Op.Permitted ctx.readOnly) (runFactory env ctx input) f := by
  refine .bind (by simp) fun sel f' _ => ?_
  have hown : ∀ {p : Routine Bytes}, StaysIn ctx.readOnly 0 p →
      Along (handler host ctx.readOnly) (Op.Permitted ctx.readOnly) p f' := fun h =>
        along_of_own h f'
  cases sel
  case createCas20 => exact along_createCas20 _ f'
  case isCas20Initialized =>
    exact hown (by simp [factoryDispatch, uses_ite, uses_initializedMetered])
  all_goals exact hown (by simp [factoryDispatch])

lemma along_execute (kind : Kind) (data : Bytes) (f : Frame σ) :
    Along (handler host ctx.readOnly) (Op.Permitted ctx.readOnly)
      (execute env kind ctx data) f := by
  refine .bind (along_reject _ _ f) fun _ f1 _ => ?_
  refine .bind (along_reject _ _ f1) fun _ f2 _ => ?_
  have hcharge : StaysIn ctx.readOnly 0 (chargeCalldata data) := uses_chargeCalldata data
  refine .bind (along_of_own hcharge f2) fun _ f3 _ => ?_
  refine .bind (along_paid _ f3) fun _ f4 _ => ?_
  cases kind with
  | factory => exact along_runFactory data f4
  | policy => exact along_of_own (uses_runPolicy env data) f4
  | activation => exact along_of_own (uses_runActivation (fun _ => trivial) data) f4
  | asset => exact along_of_own (uses_runToken .asset data) f4
  | stablecoin => exact along_of_own (uses_runToken .stablecoin data) f4

end Permitted

/-! ### The whole call -/

section Call

variable {host : Cas20State σ} {env : Env} {f : Frame σ}

lemma complete_starved (h : f.Starved) (result : Except Cas20Err Bytes) (reservoir : ℕ) :
    ofOutcome reservoir (complete f result) = .haltOutOfGas reservoir := by
  simp [complete, h.1, h.2.1, h.2.2, ofOutcome]

lemma complete_failedAt {msg : String} {s : σ} (h : f.FailedAt msg s)
    (result : Except Cas20Err Bytes) (reservoir : ℕ) :
    ofOutcome reservoir (complete f result) = .fatal msg := by
  simp [complete, h.2.1, ofOutcome]

/-- Frames that differ only in their limit complete alike: the limit shows in nothing but the gas
of an outcome that hands no gas back. -/
lemma complete_alike {g : Frame σ} (h : f.Alike g) (result : Except Cas20Err Bytes)
    (reservoir : ℕ) :
    ofOutcome reservoir (complete f result) = ofOutcome reservoir (complete g result) := by
  obtain ⟨⟨hoog, hwp, hfatal⟩, l, hl, rfl⟩ := h
  rcases result with (_ | _ | _ | _) | data <;>
    simp [complete, withLimit, hoog, hwp, hfatal, ofOutcome]

/-- A call on a smaller budget runs out of gas, or it does exactly what it does on a larger one:
the same result with the same gas and refund, and the same state with every write and log. -/
theorem run_outOfGas_or_eq (kind : Kind) (input : PrecompileInput) (s : σ) {gas gas' : ℕ}
    (h : gas ≤ gas') :
    (run env host kind input gas s).1 = .haltOutOfGas input.reservoir ∨
      run env host kind input gas s = run env host kind input gas' s := by
  have hsim := run_simulates (R := Frame.Alike) (D := Frame.Settled)
    (fun o f g (ho : o.Permitted input.ctx.readOnly f) _ ha =>
      (handler_agrees ho ha : Agrees (handler host input.ctx.readOnly o f) _))
    (fun _ _ _ ho hD => hD.left ho) (fun _ _ _ ho hD => hD.right ho)
    (along_execute kind input.data (.new s gas) :
      Along _ _ (execute env kind input.ctx input.data) _)
    (along_execute kind input.data (.new s gas'))
    ⟨⟨rfl, rfl, rfl⟩, gas', h, rfl⟩
  rcases hsim with (hs | ⟨msg, s', hf, hg⟩) | ⟨hres, ha⟩
  · exact .inl (complete_starved hs _ _)
  · refine .inr (Prod.ext ?_ ?_)
    · exact (complete_failedAt hf _ _).trans (complete_failedAt hg _ _).symm
    · exact hf.2.2.trans hg.2.2.symm
  · have hres : (runFrame env host kind input gas s).1 = (runFrame env host kind input gas' s).1 :=
      hres
    refine .inr (Prod.ext ?_ ?_)
    · rw [run, run, hres]
      exact complete_alike ha _ _
    · exact ha.state_right.symm

/-- `isActivated(0)`: the word it reads costs more than the first budget and less than the second,
which is therefore as good as any larger one. -/
theorem run_eq_isActivated :
    let input : PrecompileInput := ⟨activationRegistryAddress, 0, true, true, 0,
      [0xba, 0x87, 0xaf, 0x80] ++ List.replicate 32 0, 0⟩
    let call := fun gas => run .bare (MockHost.state .bare) .activation input gas (.new 56 0)
    (call 100).1 = .haltOutOfGas 0 ∧ call 3000 = call 30000000 := by
  intro input call
  refine ⟨by decide +kernel, ?_⟩
  have hnot : (call 3000).1 ≠ .haltOutOfGas 0 := by decide +kernel
  have hle : 3000 ≤ 30000000 := by decide
  exact (run_outOfGas_or_eq .activation input (MockHost.new 56 0) hle).resolve_left hnot

end Call

end RethBsc.Cas20
