import RethBsc.Replay
import RethBsc.SystemTransactions

/-!
The importer accepts what the producer generates.

Up to the slash, producer and importer run the same code over the same state, so the importer
takes from its queue exactly what the producer assembles: `Mirrors`. The slash is different. If
the head of the queue is not addressed to the slash contract, the importer goes on without it, and
all later nonces change with the state. What follows the slash is never addressed to the slash
contract, so the head of the queue tells which of the two happened.
-/

namespace RethBsc

open List

variable {World : Type}

abbrev Step (World : Type) := BscExecutionMode → Executor World → ExecResult (Executor World)

/-- A run of the producer: the state it ends in and the transactions it assembled. -/
abbrev Run (World : Type) := ExecResult (ExecState World × List TransactionSigned)

namespace ExecutorCtx

variable (ctx : ExecutorCtx World)

/-- A system transaction of the block's validator that is no slash. -/
def Ordinary (tx : TransactionSigned) : Prop :=
  isSystemTransaction tx.transaction ctx.block.beneficiary ctx.block.beneficiary = true ∧
    tx.transaction.toAddress ≠ some slashContract

/-- What the node relies on: its signer signs what it is given, its database answers, and no
transaction to the slash contract has the signature hash of one to another recipient. -/
structure Serves (signature : Transaction → Bytes) : Prop where
  signer : ctx.signer = some fun tx => .ok ⟨tx, signature tx⟩
  responds : ∀ world address, ∃ info, ctx.evm.basic world address = .ok info
  apart : ∀ tx tx' : Transaction, tx.toAddress = some slashContract →
    tx'.toAddress ≠ some slashContract → ctx.signatureHash tx ≠ ctx.signatureHash tx'

/-- From state `s` the producer's run of `f` is `r`, and the importer's run of `f` takes what `r`
assembled from its queue. -/
structure Mirrored (f : Step World) (s : ExecState World) (r : Run World) : Prop where
  mining : ∀ q assembled, f .mining ⟨s, q, assembled⟩ = r.map fun e => ⟨e.1, q, assembled ++ e.2⟩
  importing : ∃ c, (∀ q assembled, f .importing ⟨s, q, assembled⟩ =
      (c q).map fun e => ⟨e.1, e.2, assembled⟩) ∧
    Replays (fun tx b => ctx.hashOf tx = ctx.hashOf b) r c
  emits : Emits ctx.Ordinary r

def Mirrors (f : Step World) : Prop := ∀ s, ∃ r, ctx.Mirrored f s r

variable {ctx} {f g : Step World} {s : ExecState World} {r : Run World}

lemma Mirrors.ok : ctx.Mirrors fun _ ex => .ok ex := by
  intro s
  refine ⟨.ok (s, []), fun q assembled => ?_, ⟨fun q => .ok (s, q), fun _ _ => rfl,
    Replays.pure _ s⟩, ?_⟩
  · simp only [Except.map, append_nil]
  · intro s' out h tx htx
    cases h
    cases htx

lemma Mirrors.error (e : BlockExecutionError) : ctx.Mirrors fun _ _ => .error e := by
  intro s
  refine ⟨.error e, fun _ _ => rfl, ⟨fun _ => .error e, fun _ _ => rfl, Replays.error _ e e⟩, ?_⟩
  intro s' out h
  cases h

lemma Mirrored.bind {k : ExecState World → Run World} (hf : ctx.Mirrored f s r)
    (hg : ∀ s', ctx.Mirrored g s' (k s')) :
    ctx.Mirrored (fun mode ex => f mode ex >>= g mode) s (emitThen r k) := by
  obtain ⟨c, hc, hreplay⟩ := hf.importing
  choose c' hc' hreplay' using fun s' => (hg s').importing
  refine ⟨fun q assembled => ?_, ⟨fun q => (c q).bind fun e => c' e.1 e.2,
    fun q assembled => ?_, hreplay.bind hreplay'⟩, hf.emits.emitThen fun s' => (hg s').emits⟩
  · rw [hf.mining]
    rcases r with e | ⟨s1, out1⟩
    · rfl
    · show g .mining ⟨s1, q, assembled ++ out1⟩ = _
      rw [(hg s1).mining, emitThen]
      rcases k s1 with e | ⟨s2, out2⟩
      · rfl
      · simp only [Except.map, append_assoc]
  · beta_reduce
    rw [hc]
    rcases c q with e | ⟨s1, q1⟩
    · rfl
    · exact hc' s1 q1 assembled

lemma Mirrors.bind (hf : ctx.Mirrors f) (hg : ctx.Mirrors g) :
    ctx.Mirrors fun mode ex => f mode ex >>= g mode := by
  intro s
  obtain ⟨r, hr⟩ := hf s
  choose k hk using hg
  exact ⟨emitThen r k, hr.bind hk⟩

lemma Mirrored.congr {f' : Step World} (hf : ctx.Mirrored f s r)
    (h : ∀ mode q assembled, f' mode ⟨s, q, assembled⟩ = f mode ⟨s, q, assembled⟩) :
    ctx.Mirrored f' s r := by
  refine ⟨fun q assembled => ?_, ?_, hf.emits⟩
  · rw [h]
    exact hf.mining q assembled
  · simp only [h]
    exact hf.importing

lemma Mirrors.read {α : Type} {g : α → Step World}
    (rd : ExecState World → ExecResult α) (hg : ∀ a, ctx.Mirrors (g a)) :
    ctx.Mirrors fun mode ex => rd ex.state >>= fun a => g a mode ex := by
  intro s
  cases hrd : rd s with
  | error e =>
    exact (Mirrors.error e s).imp fun r hr => hr.congr fun _ _ _ => by simp only [hrd]; rfl
  | ok a => exact (hg a s).imp fun r hr => hr.congr fun _ _ _ => by simp only [hrd]; rfl

lemma Mirrors.setWorld (world : World) (hf : ctx.Mirrors f) : ctx.Mirrors fun mode ex =>
    f mode { ex with state := { ex.state with world := world } } := by
  intro s
  obtain ⟨r, hr⟩ := hf { s with world := world }
  exact ⟨r, hr.mining, hr.importing, hr.emits⟩

lemma Mirrors.ite (p : Prop) [Decidable p] (hf : ctx.Mirrors f) (hg : ctx.Mirrors g) :
    ctx.Mirrors fun mode ex => if p then f mode ex else g mode ex := by
  by_cases hp : p
  · simpa only [if_pos hp] using hf
  · simpa only [if_neg hp] using hg

/-! ### One transaction -/

variable (ctx) in
def systemTxRun (signature : Transaction → Bytes) (transaction : Transaction) (sender : Address)
    (s : ExecState World) : Run World :=
  match ctx.account s.world sender with
  | .error e => .error e
  | .ok account =>
    let transaction := setNonce transaction account.nonce
    (ctx.executeSystemTx transaction sender s).map fun s' =>
      (s', [⟨transaction, signature transaction⟩])

variable {signature : Transaction → Bytes} {transaction : Transaction} {sender : Address}

lemma transactSystemTx_mining (hsigner : ctx.signer = some fun tx => .ok ⟨tx, signature tx⟩)
    (q assembled : List TransactionSigned) :
    ctx.transactSystemTx .mining transaction sender ⟨s, q, assembled⟩ =
      (ctx.systemTxRun signature transaction sender s).map fun e =>
        ⟨e.1, q, assembled ++ e.2⟩ := by
  unfold transactSystemTx systemTxRun
  cases ctx.account s.world sender with
  | error e => rfl
  | ok account =>
    simp only [hsigner, bind, Except.bind]
    cases ctx.executeSystemTx (setNonce transaction account.nonce) sender s <;> rfl

variable {out q : List TransactionSigned}

lemma systemTxRun_eq_ok {s' : ExecState World}
    (h : ctx.systemTxRun signature transaction sender s = .ok (s', out)) :
    ∃ account, ctx.account s.world sender = .ok account ∧
      ctx.executeSystemTx (setNonce transaction account.nonce) sender s = .ok s' ∧
      out = [⟨setNonce transaction account.nonce,
        signature (setNonce transaction account.nonce)⟩] := by
  unfold systemTxRun at h
  split at h
  · cases h
  · next account haccount =>
    obtain ⟨s'', hexec, heq⟩ := map_eq_ok h
    cases heq
    exact ⟨account, haccount, hexec, rfl⟩

variable (ctx) in
def systemTxCheck (transaction : Transaction) (sender : Address) (s : ExecState World)
    (q : List TransactionSigned) :
    ExecResult (ExecState World × List TransactionSigned) :=
  match ctx.account s.world sender with
  | .error e => .error e
  | .ok account =>
    let transaction := setNonce transaction account.nonce
    if q.head?.map ctx.hashOf = some (ctx.signatureHash transaction) then
      (ctx.executeSystemTx transaction sender s).map fun s' => (s', q.tail)
    else .error (.validation .unexpectedSystemTx)

lemma transactSystemTx_importing (hto : transaction.toAddress ≠ some slashContract)
    (q assembled : List TransactionSigned) :
    ctx.transactSystemTx .importing transaction sender ⟨s, q, assembled⟩ =
      (ctx.systemTxCheck transaction sender s q).map fun e => ⟨e.1, e.2, assembled⟩ := by
  unfold transactSystemTx systemTxCheck
  cases ctx.account s.world sender with
  | error e => rfl
  | ok account =>
    have hkeep : (setNonce transaction account.nonce).toAddress ≠ some slashContract := hto
    simp only [bind, Except.bind, hkeep, false_and, if_false]
    by_cases hhead : q.head?.map ctx.hashOf =
        some (ctx.signatureHash (setNonce transaction account.nonce))
    · rw [if_pos hhead, if_pos hhead]
      cases ctx.executeSystemTx (setNonce transaction account.nonce) sender s <;> rfl
    · rw [if_neg hhead, if_neg hhead]
      rfl

lemma systemTxCheck_replays (signature : Transaction → Bytes) :
    Replays (fun tx b => ctx.hashOf tx = ctx.hashOf b)
      (ctx.systemTxRun signature transaction sender s)
      (ctx.systemTxCheck transaction sender s) := by
  intro q s' q'
  constructor
  · intro h
    unfold systemTxCheck at h
    split at h
    · cases h
    · next account haccount =>
      dsimp only at h
      split at h
      · next hhead =>
        obtain ⟨tx, hq, hhash⟩ := Option.map_eq_some_iff.mp hhead
        obtain ⟨rest, rfl⟩ := List.head?_eq_some_iff.mp hq
        obtain ⟨s'', hexec, heq⟩ := map_eq_ok h
        cases heq
        simp only [systemTxRun, haccount, hexec]
        exact ⟨_, [tx], rfl, rfl, .cons hhash.symm .nil⟩
      · cases h
  · rintro ⟨out, taken, hrun, rfl, hm⟩
    obtain ⟨account, haccount, hexec, rfl⟩ := systemTxRun_eq_ok hrun
    obtain ⟨tx, rest, hhash, hnil, rfl⟩ := forall₂_cons_left_iff.mp hm
    cases hnil
    have hhead : ([tx] ++ q').head?.map ctx.hashOf =
        some (ctx.signatureHash (setNonce transaction account.nonce)) := congrArg some hhash.symm
    unfold systemTxCheck
    simp only [haccount]
    rw [if_pos hhead, hexec]
    rfl

/-- **One transaction**: the importer takes it from its queue if the producer generates it. -/
theorem transactSystemTx_mirrored (hsigner : ctx.signer = some fun tx => .ok ⟨tx, signature tx⟩)
    (hsystem : isSystemTransaction transaction ctx.block.beneficiary ctx.block.beneficiary)
    (hto : transaction.toAddress ≠ some slashContract) (s : ExecState World) :
    ctx.Mirrored (fun mode => ctx.transactSystemTx mode transaction sender) s
      (ctx.systemTxRun signature transaction sender s) := by
  refine ⟨transactSystemTx_mining hsigner, ⟨ctx.systemTxCheck transaction sender s,
    transactSystemTx_importing hto, systemTxCheck_replays signature⟩, ?_⟩
  intro s' out h tx htx
  obtain ⟨account, -, -, rfl⟩ := systemTxRun_eq_ok h
  rw [mem_singleton.mp htx]
  exact ⟨hsystem, hto⟩

/-! ### What follows the slash -/

lemma isSystemTransaction_systemTx {recipient : Address} (value : ℕ) (input : Bytes)
    (hsystem : isInvokeSystemContract recipient) :
    isSystemTransaction (ctx.systemContracts.systemTx recipient value input)
      ctx.block.beneficiary ctx.block.beneficiary := by
  simp [isSystemTransaction, SystemContract.systemTx, Transaction.effectiveGasPrice, hsystem]

section Distribute

variable (hsigner : ctx.signer = some fun tx => .ok ⟨tx, signature tx⟩)
include hsigner

lemma systemTx_mirrors {recipient : Address} (value : ℕ) (input : Bytes) (sender : Address)
    (hsystem : isInvokeSystemContract recipient) (hne : recipient ≠ slashContract) :
    ctx.Mirrors fun mode =>
      ctx.transactSystemTx mode (ctx.systemContracts.systemTx recipient value input) sender := by
  intro s
  refine ⟨_, transactSystemTx_mirrored hsigner (isSystemTransaction_systemTx value input hsystem)
    ?_ s⟩
  simpa [SystemContract.systemTx] using hne

lemma distributeIncoming_mirrors (validator : Address) :
    ctx.Mirrors fun mode => ctx.distributeIncoming mode validator := by
  have hsystem (reward : ℕ) : ctx.Mirrors fun mode => ctx.transactSystemTx mode
      (ctx.systemContracts.distributeToSystem reward) validator :=
    systemTx_mirrors hsigner _ _ _ (by decide) (by decide)
  have hvalidator (reward : ℕ) : ctx.Mirrors fun mode => ctx.transactSystemTx mode
      (ctx.systemContracts.distributeToValidator validator reward) validator :=
    systemTx_mirrors hsigner _ _ _ (by decide) (by decide)
  refine Mirrors.read (fun s => ctx.account s.world systemAddress) fun systemInfo => ?_
  refine Mirrors.ite _ (Mirrors.error _) (Mirrors.ite _ Mirrors.ok ?_)
  refine Mirrors.read (fun s => ctx.creditBlockReward validator systemInfo s.world) fun world => ?_
  refine Mirrors.read (fun _ => ctx.account world systemRewardContract) fun systemReward => ?_
  refine Mirrors.setWorld world (Mirrors.ite _ (Mirrors.bind (Mirrors.ite _ ?_ Mirrors.ok) ?_) ?_)
  · exact hsystem _
  · exact hvalidator _
  · exact hvalidator _

lemma distributeFinalityReward_mirrors :
    ctx.Mirrors fun mode => ctx.distributeFinalityReward mode := by
  refine Mirrors.ite _ Mirrors.ok (Mirrors.read (fun _ => ctx.accumulatedWeights) fun weights => ?_)
  exact systemTx_mirrors hsigner _ _ _ (by decide) (by decide)

lemma updateValidatorSetV2_mirrors (maxElectedValidators : ℕ)
    (validatorsElectionInfo : List ValidatorElectionInfo) (validator : Address) :
    ctx.Mirrors fun mode =>
      ctx.updateValidatorSetV2 mode maxElectedValidators validatorsElectionInfo validator := by
  refine Mirrors.read (fun _ => getTopValidatorsByVotingPower _ _ _) fun elected => ?_
  exact systemTx_mirrors hsigner _ _ _ (by decide) (by decide)

/-- **Fees, rewards and election**: the importer takes from its queue what the producer
generates. -/
theorem distributeAndElect_mirrors : ctx.Mirrors fun mode => ctx.distributeAndElect mode := by
  refine Mirrors.bind (distributeIncoming_mirrors hsigner _) (Mirrors.bind ?_ ?_)
  · exact Mirrors.ite _ (distributeFinalityReward_mirrors hsigner) Mirrors.ok
  · exact Mirrors.ite _ (updateValidatorSetV2_mirrors hsigner _ _ _) Mirrors.ok

end Distribute

/-! ### Whole queues -/

/-- The importer accepts the queue and leaves nothing of it. -/
def Consumes (f : Step World) (s : ExecState World) (q : List TransactionSigned) : Prop :=
  ∃ ex, f .importing ⟨s, q, []⟩ = .ok ex ∧ ex.systemTxs = []

lemma consumes_bind_of_ok {s1 : ExecState World} {q1 : List TransactionSigned}
    (h : f .importing ⟨s, q, []⟩ = .ok ⟨s1, q1, []⟩) :
    Consumes (fun mode ex => f mode ex >>= g mode) s q ↔ Consumes g s1 q1 := by
  unfold Consumes
  beta_reduce
  rw [h]
  rfl

lemma not_consumes_bind {e : BlockExecutionError} (h : f .importing ⟨s, q, []⟩ = .error e) :
    ¬Consumes (fun mode ex => f mode ex >>= g mode) s q := by
  rintro ⟨ex, hex, -⟩
  beta_reduce at hex
  rw [h] at hex
  cases hex

variable (ctx) in
/-- The queues that `f` consumes are those with the hashes of one of the lists `L`. -/
def Accepts (f : Step World) (L : ExecState World → List TransactionSigned → Prop) : Prop :=
  ∀ s q, Consumes f s q ↔ ∃ out, L s out ∧ q.map ctx.hashOf = out.map ctx.hashOf

/-- What a run assembles, then one of the lists `L` from where it ended. -/
def RunThen (r : ExecState World → Run World)
    (L : ExecState World → List TransactionSigned → Prop) (s : ExecState World)
    (out : List TransactionSigned) : Prop :=
  ∃ s₁ out₁ out₂, r s = .ok (s₁, out₁) ∧ L s₁ out₂ ∧ out = out₁ ++ out₂

lemma forall₂_hashOf_iff : List.Forall₂ (fun tx b => ctx.hashOf tx = ctx.hashOf b) out q ↔
      q.map ctx.hashOf = out.map ctx.hashOf := by
  rw [eq_comm, ← forall₂_eq_eq_eq, forall₂_map_left_iff, forall₂_map_right_iff]

variable {L : ExecState World → List TransactionSigned → Prop} {run : ExecState World → Run World}

lemma Mirrored.accepts (hf : ∀ s, ctx.Mirrored f s (run s)) :
    ctx.Accepts f fun s out => ∃ s', run s = .ok (s', out) := by
  intro s q
  obtain ⟨c, hc, hreplay⟩ := (hf s).importing
  constructor
  · rintro ⟨ex, hex, hnil⟩
    rw [hc] at hex
    obtain ⟨⟨s', q'⟩, hq, rfl⟩ := map_eq_ok hex
    cases hnil
    obtain ⟨out, hrun, hm⟩ := hreplay.usesUp_iff.mp hq
    exact ⟨out, ⟨s', hrun⟩, forall₂_hashOf_iff.mp hm⟩
  · rintro ⟨out, ⟨s', hrun⟩, hmap⟩
    have hq := hreplay.usesUp_iff.mpr ⟨out, hrun, forall₂_hashOf_iff.mpr hmap⟩
    exact ⟨⟨s', [], []⟩, by rw [hc, hq]; rfl, rfl⟩

lemma Accepts.cons (hf : ∀ s, ctx.Mirrored f s (run s)) (hg : ctx.Accepts g L) :
    ctx.Accepts (fun mode ex => f mode ex >>= g mode) (RunThen run L) := by
  intro s q
  obtain ⟨c, hc, hreplay⟩ := (hf s).importing
  constructor
  · intro hcons
    cases hq : c q with
    | error e =>
      exact absurd hcons (not_consumes_bind (by rw [hc, hq]; rfl))
    | ok e =>
      obtain ⟨s1, q1⟩ := e
      rw [consumes_bind_of_ok (by rw [hc, hq]; rfl), hg s1 q1] at hcons
      obtain ⟨out1, taken, hrun, rfl, hm⟩ := (hreplay q s1 q1).mp hq
      obtain ⟨out2, hL, hmap⟩ := hcons
      refine ⟨out1 ++ out2, ⟨s1, out1, out2, hrun, hL, rfl⟩, ?_⟩
      rw [map_append, map_append, forall₂_hashOf_iff.mp hm, hmap]
  · rintro ⟨out, ⟨s1, out1, out2, hrun, hL, rfl⟩, hmap⟩
    rw [map_append] at hmap
    obtain ⟨taken, q1, rfl, hm1, hm2⟩ := map_eq_append_iff.mp hmap
    have hq := (hreplay (taken ++ q1) s1 q1).mpr
      ⟨out1, taken, hrun, rfl, forall₂_hashOf_iff.mpr hm1⟩
    rw [consumes_bind_of_ok (by rw [hc, hq]; rfl), hg s1 q1]
    exact ⟨out2, hL, hm2⟩

/-! ### The slash -/

section Slash

variable {account : AccountInfo} {b : TransactionSigned} {q rest : List TransactionSigned}

section Account

variable (haccount : ctx.account s.world sender = .ok account)
include haccount

lemma transactSystemTx_taken (rest assembled : List TransactionSigned)
    (hhash : ctx.hashOf b = ctx.signatureHash (setNonce transaction account.nonce)) :
    ctx.transactSystemTx .importing transaction sender ⟨s, b :: rest, assembled⟩ =
      (ctx.executeSystemTx (setNonce transaction account.nonce) sender s).map fun s' =>
        ⟨s', rest, assembled⟩ := by
  have hhead : (b :: rest).head?.map ctx.hashOf =
      some (ctx.signatureHash (setNonce transaction account.nonce)) := congrArg some hhash
  simp only [transactSystemTx, haccount, bind, Except.bind]
  rw [if_pos hhead]
  rfl

lemma transactSystemTx_missed (assembled : List TransactionSigned)
    (hslash : transaction.toAddress = some slashContract)
    (hhash : ∀ b ∈ q.head?, ctx.hashOf b ≠ ctx.signatureHash (setNonce transaction account.nonce)) :
    ctx.transactSystemTx .importing transaction sender ⟨s, q, assembled⟩ =
      if q.head?.all (fun tx => decide (tx.transaction.toAddress ≠ some slashContract)) then
        .ok ⟨s, q, assembled⟩
      else .error (.validation .unexpectedSystemTx) := by
  have hhead : ¬q.head?.map ctx.hashOf =
      some (ctx.signatureHash (setNonce transaction account.nonce)) := by
    intro h
    obtain ⟨b, hb, hhash'⟩ := Option.map_eq_some_iff.mp h
    exact hhash b hb hhash'
  have hkeep : (setNonce transaction account.nonce).toAddress = some slashContract := hslash
  simp only [transactSystemTx, haccount, bind, Except.bind]
  rw [if_neg hhead]
  simp only [hkeep, true_and]

lemma exists_runThen_iff : (∃ out, RunThen (ctx.systemTxRun signature transaction sender) L s out ∧
      q.map ctx.hashOf = out.map ctx.hashOf) ↔
    ∃ b rest s1, q = b :: rest ∧
      ctx.hashOf b = ctx.signatureHash (setNonce transaction account.nonce) ∧
      ctx.executeSystemTx (setNonce transaction account.nonce) sender s = .ok s1 ∧
      ∃ out, L s1 out ∧ rest.map ctx.hashOf = out.map ctx.hashOf := by
  constructor
  · rintro ⟨out, ⟨s1, out1, out2, hrun, hL, rfl⟩, hmap⟩
    obtain ⟨account', haccount', hexec, rfl⟩ := systemTxRun_eq_ok hrun
    rw [haccount] at haccount'
    cases haccount'
    obtain ⟨b, rest, rfl, hb, hrest⟩ := map_eq_cons_iff.mp hmap
    exact ⟨b, rest, s1, rfl, hb, hexec, out2, hL, hrest⟩
  · rintro ⟨b, rest, s1, rfl, hb, hexec, out, hL, hmap⟩
    have hrun : ctx.systemTxRun signature transaction sender s = .ok (s1,
        [⟨setNonce transaction account.nonce,
          signature (setNonce transaction account.nonce)⟩]) := by
      rw [systemTxRun, haccount]
      simp only [hexec]
      rfl
    refine ⟨_, ⟨s1, _, out, hrun, hL, rfl⟩, ?_⟩
    rw [singleton_append, map_cons, map_cons, hmap, hb]
    rfl

lemma consumes_taken_iff
    (hhash : ctx.hashOf b = ctx.signatureHash (setNonce transaction account.nonce)) :
    Consumes (fun mode ex => ctx.transactSystemTx mode transaction sender ex >>= g mode) s
        (b :: rest) ↔
      ∃ s1, ctx.executeSystemTx (setNonce transaction account.nonce) sender s = .ok s1 ∧
        Consumes g s1 rest := by
  have hstep := transactSystemTx_taken haccount rest [] hhash
  cases hexec : ctx.executeSystemTx (setNonce transaction account.nonce) sender s with
  | error e =>
    refine iff_of_false (not_consumes_bind (by rw [hstep, hexec]; rfl)) ?_
    rintro ⟨s1, h, -⟩
    cases h
  | ok s1 =>
    rw [consumes_bind_of_ok (by rw [hstep, hexec]; rfl)]
    constructor
    · intro h
      exact ⟨s1, rfl, h⟩
    · rintro ⟨s2, h2, h⟩
      cases h2
      exact h

lemma consumes_missed_iff (hslash : transaction.toAddress = some slashContract)
    (hhash : ∀ b ∈ q.head?, ctx.hashOf b ≠ ctx.signatureHash (setNonce transaction account.nonce)) :
    Consumes (fun mode ex => ctx.transactSystemTx mode transaction sender ex >>= g mode) s q ↔
      (∀ b ∈ q.head?, b.transaction.toAddress ≠ some slashContract) ∧ Consumes g s q := by
  have hstep := transactSystemTx_missed haccount [] hslash hhash
  have hiff : q.head?.all (fun tx => decide (tx.transaction.toAddress ≠ some slashContract)) ↔
      ∀ b ∈ q.head?, b.transaction.toAddress ≠ some slashContract := by
    simp only [Option.all_eq_true, decide_eq_true_eq, Option.mem_def]
  by_cases hall : ∀ b ∈ q.head?, b.transaction.toAddress ≠ some slashContract
  · rw [if_pos (hiff.mpr hall)] at hstep
    rw [consumes_bind_of_ok hstep]
    exact (and_iff_right hall).symm
  · rw [if_neg (mt hiff.mp hall)] at hstep
    exact iff_of_false (not_consumes_bind hstep) fun h => hall h.1

end Account

/-- **A transaction to the slash contract** in front of a step: the importer also accepts queues
without it, if what follows never begins with one to the slash contract. -/
theorem Accepts.slash (hserves : ctx.Serves signature)
    (hslash : transaction.toAddress = some slashContract) (hg : ctx.Accepts g L)
    (hfirst : ∀ s tx out, L s (tx :: out) → tx.transaction.toAddress ≠ some slashContract) :
    ctx.Accepts (fun mode ex => ctx.transactSystemTx mode transaction sender ex >>= g mode)
      fun s out => RunThen (ctx.systemTxRun signature transaction sender) L s out ∨ L s out := by
  intro s q
  obtain ⟨account, haccount⟩ : ∃ account, ctx.account s.world sender = .ok account := by
    obtain ⟨info, hinfo⟩ := hserves.responds s.world sender
    exact ⟨info.getD default, by rw [ExecutorCtx.account, hinfo]; rfl⟩
  -- a queue that matches what follows the slash does not begin with the hash of a slash
  have hother (tx : Transaction) (htx : tx.toAddress = some slashContract)
      (h : ∃ out, L s out ∧ q.map ctx.hashOf = out.map ctx.hashOf) :
      ∀ b ∈ q.head?, ctx.hashOf b ≠ ctx.signatureHash tx := by
    obtain ⟨out, hL, hmap⟩ := h
    intro b hb
    obtain ⟨rest, rfl⟩ := List.head?_eq_some_iff.mp hb
    obtain ⟨o, out', rfl, ho, -⟩ := map_eq_cons_iff.mp hmap.symm
    rw [← ho]
    exact (hserves.apart tx o.transaction htx (hfirst s o out' hL)).symm
  have hor : (∃ out, (RunThen (ctx.systemTxRun signature transaction sender) L s out ∨ L s out) ∧
      q.map ctx.hashOf = out.map ctx.hashOf) ↔
      (∃ out, RunThen (ctx.systemTxRun signature transaction sender) L s out ∧
        q.map ctx.hashOf = out.map ctx.hashOf) ∨
      ∃ out, L s out ∧ q.map ctx.hashOf = out.map ctx.hashOf := by
    simp only [or_and_right, exists_or]
  rw [hor, exists_runThen_iff haccount]
  by_cases hhash : ∀ b ∈ q.head?, ctx.hashOf b ≠
      ctx.signatureHash (setNonce transaction account.nonce)
  · rw [consumes_missed_iff haccount hslash hhash, hg s q]
    constructor
    · intro h
      exact Or.inr h.2
    · rintro (⟨b, rest, s1, rfl, hb, -⟩ | h)
      · exact absurd hb (hhash b rfl)
      · exact ⟨fun b hb hto => hother b.transaction hto h b hb rfl, h⟩
  · simp only [not_forall, not_not] at hhash
    obtain ⟨b, hb, hbhash⟩ := hhash
    obtain ⟨rest, rfl⟩ := List.head?_eq_some_iff.mp hb
    rw [consumes_taken_iff haccount hbhash]
    constructor
    · rintro ⟨s1, hexec, hrest⟩
      exact Or.inl ⟨b, rest, s1, rfl, hbhash, hexec, (hg s1 rest).mp hrest⟩
    · rintro (⟨b', rest', s1, heq, -, hexec, hrest⟩ | h)
      · cases heq
        exact ⟨s1, hexec, (hg s1 rest).mpr hrest⟩
      · exact absurd hbhash (hother (setNonce transaction account.nonce) hslash h b rfl)

end Slash

/-! ### What the producer generates -/

def Generates (f : Step World) (s : ExecState World) (out : List TransactionSigned) : Prop :=
  ∃ ex, f .mining ⟨s, [], []⟩ = .ok ex ∧ ex.assembledSystemTxs = out

lemma Mirrored.generates_iff (hf : ctx.Mirrored f s r) :
    Generates f s out ↔ ∃ s', r = .ok (s', out) := by
  unfold Generates
  rw [hf.mining]
  rcases r with e | ⟨s', out'⟩
  · refine iff_of_false ?_ ?_
    · rintro ⟨ex, hex, -⟩
      cases hex
    · rintro ⟨s', h⟩
      cases h
  · constructor
    · rintro ⟨ex, hex, rfl⟩
      cases hex
      exact ⟨s', rfl⟩
    · rintro ⟨s'', h⟩
      cases h
      exact ⟨_, rfl, rfl⟩

lemma Mirrors.accepts (hf : ctx.Mirrors f) : ctx.Accepts f (Generates f) := by
  choose run hrun using hf
  intro s q
  rw [Mirrored.accepts hrun s q]
  simp only [(hrun s).generates_iff]

lemma Mirrors.generates_ordinary (hf : ctx.Mirrors f) (h : Generates f s out) :
    ∀ tx ∈ out, ctx.Ordinary tx := by
  obtain ⟨r, hr⟩ := hf s
  obtain ⟨s', hrun⟩ := hr.generates_iff.mp h
  exact hr.emits s' out hrun

lemma generates_bind_iff (hsigner : ctx.signer = some fun tx => .ok ⟨tx, signature tx⟩)
    (hg : ctx.Mirrors g) :
    Generates (fun mode ex => ctx.transactSystemTx mode transaction sender ex >>= g mode) s out ↔
      RunThen (ctx.systemTxRun signature transaction sender) (Generates g) s out := by
  choose run hrun using hg
  have hbind : (fun mode ex => ctx.transactSystemTx mode transaction sender ex >>= g mode)
      .mining ⟨s, [], []⟩ = (emitThen (ctx.systemTxRun signature transaction sender s) run).map
        fun e => (⟨e.1, [], e.2⟩ : Executor World) := by
    beta_reduce
    rw [transactSystemTx_mining hsigner]
    rcases ctx.systemTxRun signature transaction sender s with e | ⟨s1, out1⟩
    · rfl
    · show g .mining ⟨s1, [], [] ++ out1⟩ = _
      rw [(hrun s1).mining, emitThen]
      rcases run s1 with e | ⟨s2, out2⟩ <;> rfl
  unfold Generates RunThen
  rw [hbind]
  constructor
  · rintro ⟨ex, hex, rfl⟩
    obtain ⟨e, hthen, rfl⟩ := map_eq_ok hex
    obtain ⟨s1, out1, out2, h1, h2, heq⟩ := emitThen_eq_ok.mp hthen
    exact ⟨s1, out1, out2, h1, (hrun s1).generates_iff.mpr ⟨e.1, h2⟩, heq⟩
  · rintro ⟨s1, out1, out2, h1, h2, rfl⟩
    obtain ⟨s2, h2⟩ := (hrun s1).generates_iff.mp h2
    rw [emitThen_eq_ok.mpr ⟨s1, out1, out2, h1, h2, rfl⟩]
    exact ⟨_, rfl, rfl⟩

end ExecutorCtx

end RethBsc
