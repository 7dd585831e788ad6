import RethBsc.SystemTxReplay

/-!
Which system transactions the importer of a block accepts.

The importer queues the system transactions of the block and compares them, one by one, with those
it generates itself. It accepts the queue if and only if it has the signature hashes of the list
the producer generates from the same state, or of that list without its slash.
-/

namespace RethBsc

open List

namespace ExecutorCtx

variable {World : Type} {ctx : ExecutorCtx World} {s : ExecState World}
  {signature : Transaction → Bytes}

/-! ### The end of a block -/

variable (ctx) in
/-- The slash, if it is due, and what follows it. -/
def slashAndDistribute (spoiled : Address) (due : Bool) : Step World := fun mode ex => do
  let ex ← (if due then ctx.slashSpoiledValidator mode ctx.block.beneficiary spoiled ex else .ok ex)
  ctx.distributeAndElect mode ex

/-- **The slash and what follows it**: the importer accepts the producer's list, with or without
the slash. -/
theorem slashAndDistribute_accepts (hserves : ctx.Serves signature) (spoiled : Address)
    (due : Bool) :
    ctx.Accepts (ctx.slashAndDistribute spoiled due) fun s out =>
      Generates (ctx.slashAndDistribute spoiled due) s out ∨
        Generates (fun mode => ctx.distributeAndElect mode) s out := by
  have hrest := distributeAndElect_mirrors hserves.signer
  cases due with
  | false =>
    have hsame : ctx.slashAndDistribute spoiled false =
        fun mode => ctx.distributeAndElect mode := rfl
    intro s q
    rw [hsame, hrest.accepts s q]
    simp only [or_self]
  | true =>
    have hslash : ctx.slashAndDistribute spoiled true = fun mode ex =>
        ctx.transactSystemTx mode (ctx.systemContracts.slash spoiled) ctx.block.beneficiary ex >>=
          ctx.distributeAndElect mode := rfl
    intro s q
    rw [hslash]
    simp only [generates_bind_iff hserves.signer hrest]
    refine Accepts.slash hserves rfl hrest.accepts ?_ s q
    intro s tx out h
    exact (hrest.generates_ordinary h tx mem_cons_self).2

variable {checks : BlockChecks World} {header : Header} {validator : Address}

variable (ctx) in
/-- The in-turn validator missed its turn and is to blame. -/
def slashDue (validator : Address) : Bool :=
  decide (ctx.block.beneficiary ≠ validator) && !ctx.signedRecently validator

section Turn

variable (hpass : checks.Pass) (hturn : ctx.snap.inturnValidator = some validator)
  (hdiff : header.difficulty = diffInturn ↔ ctx.block.beneficiary = validator)

include hpass hturn in
lemma finalizeNewBlock_eq : (fun mode => ctx.finalizeNewBlock checks mode) =
      ctx.slashAndDistribute validator (ctx.slashDue validator) := by
  funext mode ex
  have hdue : (ctx.block.beneficiary ≠ validator ∧ ctx.signedRecently validator = false) ↔
      ctx.slashDue validator = true := by
    simp [slashDue]
  unfold finalizeNewBlock slashAndDistribute
  simp only [hturn, hdue]
  cases (if ctx.slashDue validator = true then
    ctx.slashSpoiledValidator mode ctx.block.beneficiary validator ex else .ok ex) with
  | error e => rfl
  | ok ex1 =>
    show (ctx.distributeAndElect mode ex1 >>= fun ex => _) = ctx.distributeAndElect mode ex1
    cases ctx.distributeAndElect mode ex1 with
    | error e => rfl
    | ok ex2 =>
      show (checks.cacheNextEpoch ex2.state.world >>= fun _ => _) = _
      rw [hpass.cacheNextEpoch]
      rfl

include hturn hdiff in
lemma slashOffTurn_eq (mode : BscExecutionMode) (ex : Executor World) :
    ctx.slashOffTurn header mode ex = if ctx.slashDue validator = true then
        ctx.slashSpoiledValidator mode ctx.block.beneficiary validator ex
      else .ok ex := by
  rw [slashOffTurn, hturn]
  by_cases hmine : ctx.block.beneficiary = validator
  · rw [if_neg (not_not.mpr (hdiff.mpr hmine)), if_neg (by simp [slashDue, hmine])]
  · rw [if_pos fun h => hmine (hdiff.mp h)]
    simp [slashDue, hmine]

include hpass hturn hdiff in
lemma postCheckNewBlock_iff {q : List TransactionSigned} :
    (∃ ex, ctx.postCheckNewBlock checks header .importing ⟨s, q, []⟩ = .ok ex) ↔
      Consumes (ctx.slashAndDistribute validator (ctx.slashDue validator)) s q := by
  have hpost : ctx.postCheckNewBlock checks header .importing ⟨s, q, []⟩ =
      (ctx.slashAndDistribute validator (ctx.slashDue validator) .importing ⟨s, q, []⟩ >>=
        fun ex => if ex.systemTxs ≠ [] then .error (.validation .unexpectedSystemTx)
          else .ok ex) := by
    unfold postCheckNewBlock slashAndDistribute
    rw [hpass.verifyValidators, hpass.verifyTurnLength, slashOffTurn_eq hturn hdiff]
    simp only [hpass.cacheNextEpoch, hpass.verifyPaymentLane, bind_assoc]
    rfl
  rw [hpost]
  unfold Consumes
  cases ctx.slashAndDistribute validator (ctx.slashDue validator) .importing ⟨s, q, []⟩ with
  | error e =>
    refine iff_of_false ?_ ?_
    · rintro ⟨ex, hex⟩
      cases hex
    · rintro ⟨ex, hex, -⟩
      cases hex
  | ok ex =>
    show (∃ ex', (if ex.systemTxs ≠ [] then _ else _) = _) ↔ _
    by_cases hnil : ex.systemTxs = []
    · simp [hnil]
    · simp [hnil]

variable (ctx checks) in
/-- The list of the producer, or what it generates without the slash. -/
def EndLists (s : ExecState World) (out : List TransactionSigned) : Prop :=
  Generates (fun mode => ctx.finalizeNewBlock checks mode) s out ∨
    Generates (fun mode => ctx.distributeAndElect mode) s out

include hpass hturn in
lemma slashAndDistribute_accepts_endLists (hserves : ctx.Serves signature) :
    ctx.Accepts (ctx.slashAndDistribute validator (ctx.slashDue validator))
      (ctx.EndLists checks) := by
  intro s q
  rw [slashAndDistribute_accepts hserves validator (ctx.slashDue validator) s q]
  simp only [EndLists, finalizeNewBlock_eq hpass hturn]

end Turn

/-! #### The queue -/

variable (ctx) in
/-- The system transactions among the transactions of a block. -/
def queuedTxs (txs : List Recovered) : List TransactionSigned :=
  (txs.filter fun recovered =>
    isSystemTransaction recovered.tx.transaction recovered.signer ctx.block.beneficiary).map
      Recovered.tx

variable {executeNormal : ExecState World → Recovered →
  ExecResult (ExecState World)} {mode : BscExecutionMode}

lemma executeTransaction_queue {ex ex' : Executor World} {recovered : Recovered}
    (h : ctx.executeTransaction executeNormal mode ex recovered = .ok ex') :
    ex'.systemTxs = ex.systemTxs ++ ctx.queuedTxs [recovered] ∧
      ex'.assembledSystemTxs = ex.assembledSystemTxs := by
  unfold executeTransaction at h
  split at h
  · next hsystem =>
    cases h
    simp [queuedTxs, hsystem]
  · next hnormal =>
    split at h
    · cases h
    · obtain ⟨state, -, rfl⟩ := map_eq_ok h
      simp [queuedTxs, hnormal]

/-- **The queue** holds the system transactions of the block in their order. -/
theorem executeTransactions_queue {txs : List Recovered} {ex ex' : Executor World}
    (h : ctx.executeTransactions executeNormal mode txs ex = .ok ex') :
    ex'.systemTxs = ex.systemTxs ++ ctx.queuedTxs txs ∧
      ex'.assembledSystemTxs = ex.assembledSystemTxs := by
  induction txs generalizing ex with
  | nil =>
    cases h
    exact ⟨(append_nil _).symm, rfl⟩
  | cons recovered txs ih =>
    rw [executeTransactions, foldlM_cons] at h
    obtain ⟨ex1, hstep, hrest⟩ := bind_eq_ok h
    obtain ⟨hqueue1, hasm1⟩ := executeTransaction_queue hstep
    obtain ⟨hqueue, hasm⟩ := ih hrest
    refine ⟨?_, hasm.trans hasm1⟩
    rw [hqueue, hqueue1, append_assoc, queuedTxs, queuedTxs, queuedTxs, ← map_append,
      ← filter_append, singleton_append]

/-! ### The importer -/

lemma isInturn_eq_some {proposer : Address} {p : Prop} [Decidable p]
    (h : ctx.snap.isInturn proposer = some (decide p)) :
    ∃ validator, ctx.snap.inturnValidator = some validator ∧ (p ↔ proposer = validator) := by
  obtain ⟨validator, hturn, hp⟩ := Option.map_eq_some_iff.mp h
  exact ⟨validator, hturn, (decide_eq_decide.mp hp).symm.trans eq_comm⟩

/-- **The importer accepts exactly the producer's system transactions**, or those it would
generate without the slash; and it queues the system transactions of the block in their order. -/
theorem import_accepts_iff (ctx : ExecutorCtx World) (checks : BlockChecks World) (header : Header)
    (signature : Transaction → Bytes) (hserves : ctx.Serves signature) (hpass : checks.Pass)
    (hdifficulty : ctx.snap.isInturn ctx.block.beneficiary =
      some (decide (header.difficulty = diffInturn))) :
    (∀ s queued, (∃ ex, ctx.postCheckNewBlock checks header .importing ⟨s, queued, []⟩ = .ok ex) ↔
      ∃ generated, (Generates (fun mode => ctx.finalizeNewBlock checks mode) s generated ∨
          Generates (fun mode => ctx.distributeAndElect mode) s generated) ∧
        queued.map ctx.hashOf = generated.map ctx.hashOf) ∧
    ∀ executeNormal txs s ex,
      ctx.executeTransactions executeNormal .importing txs ⟨s, [], []⟩ = .ok ex →
        ex = ⟨ex.state, ctx.queuedTxs txs, []⟩ := by
  obtain ⟨validator, hturn, hdiff⟩ := isInturn_eq_some hdifficulty
  constructor
  · intro s queued
    rw [postCheckNewBlock_iff hpass hturn hdiff]
    exact slashAndDistribute_accepts_endLists hpass hturn hserves s queued
  · intro executeNormal txs s ex hex
    obtain ⟨hqueue, hasm⟩ := executeTransactions_queue hex
    exact Executor.ext rfl hqueue hasm

end ExecutorCtx

structure FeeState where
  nonce : ℕ
  fees : ℕ
  deriving DecidableEq

def feeEvm : Evm FeeState where
  basic w address := .ok (some (if address = systemAddress then ⟨w.fees, 0⟩ else ⟨0, w.nonce⟩))
  commit w address info := if address = systemAddress then { w with fees := info.balance } else w
  transact w _ := .ok (21000, { w with nonce := w.nonce + 1 })

/-- Block two of two validators, by the one that is not in turn. -/
def offTurnCtx : ExecutorCtx FeeState where
  parlia := ⟨sampleSpec (.block 0) .never .never, 200⟩
  deps := sampleDeps true
  evm := feeEvm
  systemContracts := ⟨sampleSpec (.block 0) .never .never, fun _ => []⟩
  signatureHash tx := BitVec.ofNat 256
    (2 * tx.nonce + if tx.toAddress = some slashContract then 1 else 0)
  display _ := ""
  signer := some fun tx => .ok ⟨tx, []⟩
  reader := ⟨fun _ => none, fun _ => none⟩
  snapshotByHash _ := none
  upgradeContracts w := .ok w
  breatheBlockInterval := 86400
  block := ⟨2, 6, 2⟩
  parentHash := 9
  snap := (Snapshot.new [1, 2] 1 9 200 none).getD default
  parentHeader := sampleHeader 1 0 1 0 []
  maxElectedValidators := none
  validatorsElectionInfo := none

def passingChecks : BlockChecks FeeState where
  verifyValidators := .ok ()
  verifyTurnLength := .ok ()
  cacheNextEpoch _ := .ok ()
  verifyPackedBid _ := .ok ()
  verifyPaymentLane _ := .ok ()

/-- A transaction that leaves its fee with the system address. -/
def executePaid (s : ExecState FeeState) (_ : Recovered) : ExecResult (ExecState FeeState) :=
  .ok ⟨{ s.world with fees := s.world.fees + 16 }, s.gasUsed + 21000⟩

def offTurnState : ExecState FeeState := ⟨⟨0, 16⟩, 21000⟩

/-- The producer's list, with and without the slash. -/
def offTurnRun (slashed : Bool) : ExecResult (Executor FeeState) :=
  if slashed then offTurnCtx.finalizeNewBlock passingChecks .mining ⟨offTurnState, [], []⟩
  else offTurnCtx.distributeAndElect .mining ⟨offTurnState, [], []⟩

def offTurnTxs (slashed : Bool) : List TransactionSigned :=
  ((offTurnRun slashed).toOption.map Executor.assembledSystemTxs).getD []

lemma offTurnCtx_serves : offTurnCtx.Serves fun _ => [] where
  signer := rfl
  responds _ _ := ⟨_, rfl⟩
  apart := by
    intro tx tx' htx htx' h
    have hnat := congrArg BitVec.toNat h
    simp only [offTurnCtx, htx, htx', if_true, if_false, BitVec.toNat_ofNat] at hnat
    omega

lemma passingChecks_pass : passingChecks.Pass :=
  ⟨rfl, rfl, fun _ => rfl, fun _ => rfl, fun _ => rfl⟩

lemma offTurnRun_generates (slashed : Bool) :
    ∃ ex, offTurnRun slashed = .ok ex ∧ ex.assembledSystemTxs = offTurnTxs slashed := by
  have hsome : (offTurnRun slashed).toOption.isSome := by cases slashed <;> decide +kernel
  obtain ⟨ex, hex⟩ := Option.isSome_iff_exists.mp hsome
  exact ⟨ex, toOption_eq_some hex, by rw [offTurnTxs, hex]; rfl⟩

theorem import_accepts_offTurn : (offTurnTxs true).length = 3 ∧ (offTurnTxs false).length = 2 ∧
      (∃ ex, offTurnCtx.postCheckNewBlock passingChecks (sampleHeader 2 0 2 9 []) .importing
        ⟨offTurnState, offTurnTxs true, []⟩ = .ok ex) ∧
      ∃ ex, offTurnCtx.postCheckNewBlock passingChecks (sampleHeader 2 0 2 9 []) .importing
        ⟨offTurnState, offTurnTxs false, []⟩ = .ok ex := by
  have haccepts := (ExecutorCtx.import_accepts_iff offTurnCtx passingChecks
    (sampleHeader 2 0 2 9 []) (fun _ => []) offTurnCtx_serves passingChecks_pass
    (by decide +kernel)).1
  refine ⟨by decide +kernel, by decide +kernel, ?_, ?_⟩
  · exact (haccepts _ _).mpr ⟨offTurnTxs true, Or.inl (offTurnRun_generates true), rfl⟩
  · exact (haccepts _ _).mpr ⟨offTurnTxs false, Or.inr (offTurnRun_generates false), rfl⟩

namespace ExecutorCtx

/-! ### The producer's block -/

section Produced

variable {World : Type} {ctx : ExecutorCtx World} {signature : Transaction → Bytes}
  {checks : BlockChecks World} {header : Header} {s : ExecState World}
  {executeNormal : ExecState World → Recovered → ExecResult (ExecState World)}
  {generated : List TransactionSigned}

lemma isSystemTransaction_of_generates (hserves : ctx.Serves signature) (hpass : checks.Pass)
    {validator : Address} (hturn : ctx.snap.inturnValidator = some validator)
    (h : Generates (fun mode => ctx.finalizeNewBlock checks mode) s generated) :
    ∀ tx ∈ generated,
      isSystemTransaction tx.transaction ctx.block.beneficiary ctx.block.beneficiary := by
  have hrest := distributeAndElect_mirrors hserves.signer
  rw [finalizeNewBlock_eq hpass hturn] at h
  intro tx htx
  cases hdue : ctx.slashDue validator with
  | false =>
    rw [hdue] at h
    exact (hrest.generates_ordinary h tx htx).1
  | true =>
    rw [hdue] at h
    obtain ⟨s1, out1, out2, hrun, hgen, rfl⟩ := (generates_bind_iff hserves.signer hrest).mp h
    obtain ⟨account, -, -, rfl⟩ := systemTxRun_eq_ok hrun
    rcases mem_cons.mp htx with rfl | htx
    · have hslash : isSystemTransaction (ctx.systemContracts.slash validator)
          ctx.block.beneficiary ctx.block.beneficiary = true :=
        isSystemTransaction_systemTx 0 _ (by decide)
      exact hslash
    · exact (hrest.generates_ordinary hgen tx htx).1

lemma executeTransactions_system {mode : BscExecutionMode} (ex : Executor World)
    (hsystem : ∀ tx ∈ generated,
      isSystemTransaction tx.transaction ctx.block.beneficiary ctx.block.beneficiary) :
    ctx.executeTransactions executeNormal mode
        (generated.map fun tx => ⟨tx, ctx.block.beneficiary⟩) ex =
      .ok { ex with systemTxs := ex.systemTxs ++ generated } := by
  induction generated generalizing ex with
  | nil =>
    rw [append_nil]
    rfl
  | cons tx generated ih =>
    have hstep : ctx.executeTransaction executeNormal mode ex ⟨tx, ctx.block.beneficiary⟩ =
        .ok { ex with systemTxs := ex.systemTxs ++ [tx] } :=
      if_pos (hsystem tx mem_cons_self)
    rw [executeTransactions, map_cons, foldlM_cons, hstep]
    refine (ih { ex with systemTxs := ex.systemTxs ++ [tx] } fun tx' htx' =>
      hsystem tx' (mem_cons_of_mem _ htx')).trans ?_
    simp only [append_assoc, singleton_append]

/-- **The importer accepts the block of the producer**: normal transactions, then what the producer
generates in the state they lead to. -/
theorem produced_block_accepted (hserves : ctx.Serves signature) (hpass : checks.Pass)
    (hdifficulty : ctx.snap.isInturn ctx.block.beneficiary =
      some (decide (header.difficulty = diffInturn))) {normal : List Recovered}
    (hnormal : ctx.queuedTxs normal = []) {start : ExecState World} {ex : Executor World}
    (hexec : ctx.executeTransactions executeNormal .importing normal ⟨start, [], []⟩ = .ok ex)
    (hgen : Generates (fun mode => ctx.finalizeNewBlock checks mode) ex.state generated) :
    ∃ ex', (ctx.executeTransactions executeNormal .importing
      (normal ++ generated.map fun tx => ⟨tx, ctx.block.beneficiary⟩) ⟨start, [], []⟩ >>=
        ctx.postCheckNewBlock checks header .importing) = .ok ex' := by
  obtain ⟨validator, hturn, hdiff⟩ := isInturn_eq_some hdifficulty
  obtain ⟨hqueue, hasm⟩ := executeTransactions_queue hexec
  rw [hnormal] at hqueue
  have hex : ex = ⟨ex.state, [], []⟩ := Executor.ext rfl hqueue hasm
  have hsystem := isSystemTransaction_of_generates hserves hpass hturn hgen
  have hall : ctx.executeTransactions executeNormal .importing
      (normal ++ generated.map fun tx => ⟨tx, ctx.block.beneficiary⟩) ⟨start, [], []⟩ =
      .ok ⟨ex.state, generated, []⟩ := by
    rw [executeTransactions, foldlM_append]
    rw [executeTransactions] at hexec
    rw [hexec]
    refine (executeTransactions_system ex hsystem).trans ?_
    rw [hex]
    rfl
  rw [hall]
  refine (postCheckNewBlock_iff hpass hturn hdiff).mpr ?_
  exact (slashAndDistribute_accepts_endLists hpass hturn hserves ex.state generated).mpr
    ⟨generated, Or.inl hgen, rfl⟩

/-- A call of the validator contract that is none of the producer's. -/
def paidTx : Recovered :=
  ⟨⟨{ offTurnCtx.systemContracts.systemTx validatorContract 0 [] with maxFeePerGas := 1 }, []⟩, 1⟩

theorem produced_block_accepted_offTurn : ∃ ex',
    (offTurnCtx.executeTransactions executePaid .importing
      ([paidTx] ++ (offTurnTxs true).map fun tx => ⟨tx, offTurnCtx.block.beneficiary⟩)
      ⟨⟨⟨0, 0⟩, 0⟩, [], []⟩ >>=
        offTurnCtx.postCheckNewBlock passingChecks (sampleHeader 2 0 2 9 []) .importing) =
      .ok ex' := by
  have hexec : offTurnCtx.executeTransactions executePaid .importing [paidTx]
      ⟨⟨⟨0, 0⟩, 0⟩, [], []⟩ = .ok ⟨offTurnState, [], []⟩ := by decide +kernel
  exact produced_block_accepted offTurnCtx_serves passingChecks_pass (by decide +kernel)
    (by decide +kernel) hexec (offTurnRun_generates true)

end Produced

/-! ### Blocks that set up contracts -/

variable {World : Type} {ctx : ExecutorCtx World} {s : ExecState World}
  {signature : Transaction → Bytes} {checks : BlockChecks World} {header : Header}
  {f g : Step World} {L L' : ExecState World → List TransactionSigned → Prop}

lemma Accepts.congr (h : ctx.Accepts f L) (hL : ∀ s out, L s out ↔ L' s out) :
    ctx.Accepts f L' := by
  intro s q
  rw [h s q]
  simp only [hL]

variable (ctx) in
/-- The lists that begin with the given transactions, of which those to the slash contract may be
missing. -/
def InitThen (signature : Transaction → Bytes)
    (L : ExecState World → List TransactionSigned → Prop) :
    List Transaction → ExecState World → List TransactionSigned → Prop
  | [], s, out => L s out
  | tx :: txs, s, out =>
    RunThen (ctx.systemTxRun signature tx ctx.block.beneficiary) (InitThen signature L txs) s out ∨
      tx.toAddress = some slashContract ∧ InitThen signature L txs s out

variable (ctx) in
/-- System transactions, of which one to the slash contract is followed by another one. -/
def SlashFollowed : List Transaction → Prop
  | [] => True
  | tx :: txs => isSystemTransaction tx ctx.block.beneficiary ctx.block.beneficiary = true ∧
      (tx.toAddress = some slashContract →
        ∃ next rest, txs = next :: rest ∧ next.toAddress ≠ some slashContract) ∧
      SlashFollowed txs

lemma InitThen.first {next : Transaction} {rest : List Transaction}
    (hnext : next.toAddress ≠ some slashContract) {tx : TransactionSigned}
    {out : List TransactionSigned}
    (h : ctx.InitThen signature L (next :: rest) s (tx :: out)) :
    tx.transaction.toAddress ≠ some slashContract := by
  rcases h with ⟨s1, out1, out2, hrun, -, hout⟩ | ⟨hslash, -⟩
  · obtain ⟨account, -, -, rfl⟩ := systemTxRun_eq_ok hrun
    cases hout
    exact hnext
  · exact absurd hslash hnext

variable {txs : List Transaction}

lemma foldlM_accepts (hserves : ctx.Serves signature) (hg : ctx.Accepts g L)
    (htxs : ctx.SlashFollowed txs) :
    ctx.Accepts (fun mode ex => txs.foldlM (fun ex tx =>
      ctx.transactSystemTx mode tx ctx.block.beneficiary ex) ex >>= g mode)
      (ctx.InitThen signature L txs) := by
  induction txs with
  | nil => exact hg
  | cons tx txs ih =>
    obtain ⟨hsystem, hfollowed, hrest⟩ := htxs
    have hih := ih hrest
    have hstep : (fun mode ex => (tx :: txs).foldlM (fun ex tx =>
        ctx.transactSystemTx mode tx ctx.block.beneficiary ex) ex >>= g mode) =
        fun mode ex => ctx.transactSystemTx mode tx ctx.block.beneficiary ex >>= fun ex =>
          txs.foldlM (fun ex tx => ctx.transactSystemTx mode tx ctx.block.beneficiary ex) ex >>=
            g mode := by
      funext mode ex
      rw [foldlM_cons, bind_assoc]
    rw [hstep]
    by_cases hslash : tx.toAddress = some slashContract
    · obtain ⟨next, rest, rfl, hnext⟩ := hfollowed hslash
      refine (Accepts.slash hserves hslash hih fun s tx out h => h.first hnext).congr ?_
      intro s out
      simp only [InitThen, hslash, true_and]
    · have hmirror : ∀ s, ctx.Mirrored (fun mode => ctx.transactSystemTx mode tx
          ctx.block.beneficiary) s (ctx.systemTxRun signature tx ctx.block.beneficiary s) :=
        transactSystemTx_mirrored hserves.signer hsystem hslash
      refine (Accepts.cons hmirror hih).congr ?_
      intro s out
      simp only [InitThen, hslash, false_and, or_false]

lemma slashFollowed_append {contracts : List Address} {input : Bytes}
    (hcontracts : contracts.all (fun contract =>
      isInvokeSystemContract contract && decide (contract ≠ slashContract)) = true)
    (htxs : ctx.SlashFollowed txs) :
    ctx.SlashFollowed ((contracts.map fun contract =>
      ctx.systemContracts.systemTx contract 0 input) ++ txs) := by
  induction contracts with
  | nil => exact htxs
  | cons contract contracts ih =>
    simp only [all_cons, Bool.and_eq_true, decide_eq_true_eq] at hcontracts
    obtain ⟨⟨hsystem, hne⟩, hrest⟩ := hcontracts
    refine ⟨isSystemTransaction_systemTx 0 input hsystem, fun h => ?_, ih ?_⟩
    · exact absurd (Option.some.inj h) hne
    · simpa only [Bool.and_eq_true, decide_eq_true_eq] using hrest

lemma genesisContractsTxs_slashFollowed :
    ctx.SlashFollowed ctx.systemContracts.genesisContractsTxs := by
  have hlater : ctx.SlashFollowed (([lightClientContract, relayerHubContract, tokenHubContract,
      relayerIncentivizeContract, crossChainContract].map fun contract =>
        ctx.systemContracts.systemTx contract 0 (ctx.systemContracts.abiEncodeInput .init)) ++
          []) := slashFollowed_append (by decide) trivial
  have hslash : ctx.SlashFollowed (ctx.systemContracts.systemTx slashContract 0
      (ctx.systemContracts.abiEncodeInput .init) :: _) :=
    ⟨isSystemTransaction_systemTx 0 _ (by decide),
      fun _ => ⟨_, _, rfl, fun h => absurd (Option.some.inj h) (by decide)⟩, hlater⟩
  have hfirst : [validatorContract].all (fun contract =>
      isInvokeSystemContract contract && decide (contract ≠ slashContract)) = true := by decide
  exact slashFollowed_append hfirst hslash

lemma contractInitTxs_slashFollowed : ctx.SlashFollowed ctx.contractInitTxs := by
  have hgenesis : ctx.SlashFollowed (if ctx.block.number = 1 then
      ctx.systemContracts.genesisContractsTxs else []) := by
    split
    · exact genesisContractsTxs_slashFollowed
    · trivial
  unfold contractInitTxs
  split
  · exact slashFollowed_append (by decide) hgenesis
  · exact hgenesis

lemma transactSystemTx_importing_assembled {transaction : Transaction} {sender : Address}
    {ex ex' : Executor World}
    (h : ctx.transactSystemTx .importing transaction sender ex = .ok ex') :
    ex'.assembledSystemTxs = ex.assembledSystemTxs := by
  unfold transactSystemTx at h
  obtain ⟨account, -, h⟩ := bind_eq_ok h
  simp only at h
  split at h
  · obtain ⟨state, -, rfl⟩ := map_eq_ok h
    rfl
  · split at h
    · cases h
      rfl
    · cases h

lemma initializeContracts_assembled {ex ex' : Executor World} (h : txs.foldlM (fun ex tx =>
      ctx.transactSystemTx .importing tx ctx.block.beneficiary ex) ex = .ok ex') :
    ex'.assembledSystemTxs = ex.assembledSystemTxs := by
  induction txs generalizing ex with
  | nil =>
    cases h
    rfl
  | cons tx txs ih =>
    rw [foldlM_cons] at h
    obtain ⟨ex1, hstep, hrest⟩ := bind_eq_ok h
    rw [ih hrest, transactSystemTx_importing_assembled hstep]

lemma initializeContracts_consumes_iff (hpass : checks.Pass) {validator : Address}
    (hturn : ctx.snap.inturnValidator = some validator)
    (hdiff : header.difficulty = diffInturn ↔ ctx.block.beneficiary = validator)
    {q : List TransactionSigned} :
    (∃ ex, (ctx.initializeContracts .importing ⟨s, q, []⟩ >>=
        ctx.postCheckNewBlock checks header .importing) = .ok ex) ↔
      Consumes (fun mode ex => ctx.initializeContracts mode ex >>=
        ctx.slashAndDistribute validator (ctx.slashDue validator) mode) s q := by
  cases hstep : ctx.initializeContracts .importing ⟨s, q, []⟩ with
  | error e =>
    refine iff_of_false ?_ (not_consumes_bind hstep)
    rintro ⟨ex, hex⟩
    cases hex
  | ok ex1 =>
    obtain ⟨s1, q1, assembled⟩ := ex1
    have hasm : assembled = [] := initializeContracts_assembled hstep
    subst hasm
    rw [consumes_bind_of_ok hstep, ← postCheckNewBlock_iff hpass hturn hdiff]
    rfl

/-- **Every block**: the importer accepts the queues with the hashes of a list of the producer, in
which transactions to the slash contract may be missing. In block one this includes the set-up of
the slash contract itself. -/
theorem finish_accepts_iff (hserves : ctx.Serves signature) (hpass : checks.Pass)
    (hdifficulty : ctx.snap.isInturn ctx.block.beneficiary =
      some (decide (header.difficulty = diffInturn))) (s : ExecState World)
    (queued : List TransactionSigned) :
    (∃ ex, ctx.finish checks header .importing ⟨s, queued, []⟩ = .ok ex) ↔
      ∃ world, ctx.upgradeContracts s.world = .ok world ∧
        ∃ generated, ctx.InitThen signature (ctx.EndLists checks) ctx.contractInitTxs
            { s with world := world } generated ∧
          queued.map ctx.hashOf = generated.map ctx.hashOf := by
  obtain ⟨validator, hturn, hdiff⟩ := isInturn_eq_some hdifficulty
  have hlists := slashAndDistribute_accepts_endLists hpass hturn hserves
  cases hupgrade : ctx.upgradeContracts s.world with
  | error e =>
    refine iff_of_false ?_ ?_
    · rintro ⟨ex, hex⟩
      simp only [finish, hupgrade] at hex
      cases hex
    · rintro ⟨world, h, -⟩
      cases h
  | ok world =>
    have hinit := foldlM_accepts hserves hlists contractInitTxs_slashFollowed
      { s with world := world } queued
    have hfinish : ctx.finish checks header .importing ⟨s, queued, []⟩ =
        ctx.initializeContracts .importing ⟨{ s with world := world }, queued, []⟩ >>=
          ctx.postCheckNewBlock checks header .importing := by
      simp only [finish, hupgrade]
      rfl
    rw [hfinish, initializeContracts_consumes_iff hpass hturn hdiff]
    refine hinit.trans ?_
    constructor
    · intro h
      exact ⟨world, rfl, h⟩
    · rintro ⟨world', hworld, h⟩
      cases hworld
      exact h

/-- Block one, which sets up the contracts. -/
def firstCtx : ExecutorCtx FeeState :=
  { offTurnCtx with
    block := ⟨1, 3, 1⟩
    snap := (Snapshot.new [1, 2] 0 9 200 none).getD default
    parentHeader := sampleHeader 0 0 0 0 [] }

def firstTxs : List TransactionSigned :=
  ((firstCtx.finish passingChecks (sampleHeader 1 0 1 9 []) .mining
    ⟨offTurnState, [], []⟩).toOption.map Executor.assembledSystemTxs).getD []

theorem finish_accepts_first : firstTxs.length = 10 ∧ ∃ world,
    firstCtx.upgradeContracts offTurnState.world = .ok world ∧ ∃ generated,
      firstCtx.InitThen (fun _ => []) (firstCtx.EndLists passingChecks) firstCtx.contractInitTxs
        { offTurnState with world := world } generated ∧
      firstTxs.map firstCtx.hashOf = generated.map firstCtx.hashOf := by
  have haccepted : (firstCtx.finish passingChecks (sampleHeader 1 0 1 9 []) .importing
      ⟨offTurnState, firstTxs, []⟩).toOption.isSome := by decide +kernel
  obtain ⟨ex, hex⟩ := Option.isSome_iff_exists.mp haccepted
  have hserves : firstCtx.Serves fun _ => [] :=
    ⟨rfl, offTurnCtx_serves.responds, offTurnCtx_serves.apart⟩
  exact ⟨by decide +kernel, (finish_accepts_iff hserves passingChecks_pass (by decide +kernel) _
    _).mp ⟨ex, toOption_eq_some hex⟩⟩

end ExecutorCtx

end RethBsc
