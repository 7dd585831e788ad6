import RethBsc.Cas20.Registries
import RethBsc.HertzPatch
import RethBsc.SystemTransactions

/-!
Everything the executor of a block writes, and what it tells the state hook.

The state root is computed along the way from what the hook is told, so each write has to be
reported. Fees are not: while the transactions run they collect on the system address, which the
reports leave out until the distribution takes the balance away. A patch of storage is not
reported at all.
-/

namespace RethBsc

open AccountDb Option List

def paymentLaneContract : Address := Fin.ofNat (2 ^ 160) 0x2007

def historyStorageAddress : Address :=
  Fin.ofNat (2 ^ 160) 0x0000f90827f1c53a10cb7a02335b175320002935

structure PlantedCode where
  markerHash : B256
  historyStorageHash : B256

structure WriteState where
  db : AccountDb
  /-- What the hook was told, oldest first. -/
  reports : List EvmState
  dbAtParentState : Bool
  laneContractChanged : Bool

/-- A change set of one account. -/
def EvmState.single (address : Address) (account : RevmAccount) : EvmState :=
  OrdMap.empty.insert address account

namespace WriteState

def start (db : AccountDb) : WriteState := ⟨db, [], true, false⟩

variable (s : WriteState)

def onState (changes : EvmState) : WriteState := { s with reports := s.reports ++ [changes] }

def commitDb (changes : EvmState) : WriteState := { s with db := s.db.commit changes }

/-- Whether a change set alters the lane contract. The account is compared with the one before
the commit, which may be unreadable. -/
def altersLane (readable : Bool) (account : RevmAccount) : Bool :=
  account.created || account.selfdestructed || !account.changedStorageSlots.isEmpty ||
    (if readable then
      decide ((s.db.basic paymentLaneContract).map DbInfo.codeHash ≠ some account.info.codeHash)
    else true)

def commitState (readable : Bool) (changes : EvmState) : WriteState :=
  let laneContractChanged :=
    match changes.get paymentLaneContract with
    | some account =>
      if !s.laneContractChanged && account.touched then s.altersLane readable account
      else s.laneContractChanged
    | none => s.laneContractChanged
  { s.commitDb changes with
    dbAtParentState := false
    laneContractChanged := laneContractChanged }

def upgradeSystemContract (readable : Bool) (address : Address) (codeHash : B256) : WriteState :=
  let info := { s.db.infoAt address with codeHash := codeHash }
  let changes := EvmState.single address (.touchedFrom info)
  (s.commitState readable changes).onState changes

/-- An account that carries code is left alone. -/
def seedCas20Registry (code : PlantedCode) (address : Address) : WriteState :=
  let info := s.db.infoAt address
  if info.codeHash ≠ keccakEmpty ∧ info.codeHash ≠ 0 then s
  else
    let changes := EvmState.single address (.touchedFrom { info with codeHash := code.markerHash })
    (s.commitDb changes).onState changes

def seedCas20Registries (code : PlantedCode) : WriteState :=
  (s.seedCas20Registry code Cas20.activationRegistryAddress).seedCas20Registry code
    Cas20.policyRegistryAddress

def applyHistoryStorageAccount (readable : Bool) (code : PlantedCode) : WriteState :=
  let info : DbInfo := ⟨0, 1, code.historyStorageHash⟩
  let changes := EvmState.single historyStorageAddress (.touchedFrom info)
  (s.commitState readable changes).onState changes

/-- The system call that records the parent hash; of what it touched only the history contract
is kept. -/
def applyBlockhashesContractCall (account : RevmAccount) : WriteState :=
  let changes := EvmState.single historyStorageAddress account
  (s.onState changes).commitDb changes

/-- `commit_transaction`, with the patches around it. -/
def commitTransaction (manager : HertzPatchManager) (readable : Bool)
    (txHash : B256) (changes : EvmState) : WriteState :=
  let s := { s with db := manager.patchBeforeTx txHash s.db }
  let s := s.onState (changes.remove systemAddress)
  let s := s.commitState readable changes
  { s with db := manager.patchAfterTx txHash s.db }

def transactSystemTx (readable : Bool) (changes : EvmState) : WriteState :=
  (s.onState (changes.remove systemAddress)).commitState readable changes

def setBalance (address : Address) (balance : ℕ) : WriteState :=
  let changes := EvmState.single address
    (.touchedFrom { s.db.infoAt address with balance := balance })
  (s.commitDb changes).onState changes

/-- The balance moves of `distribute_incoming`; a balance over 128 bits panics. -/
def moveIncoming (validator : Address) : Option WriteState :=
  let blockReward := (s.db.infoAt systemAddress).balance
  if 2 ^ 128 ≤ blockReward then none
  else if blockReward = 0 then some s
  else
    let s := s.setBalance systemAddress 0
    some (s.setBalance validator
      (min ((s.db.infoAt validator).balance + blockReward) (2 ^ 256 - 1)))

end WriteState

/-! ### Blocks -/

/-- One write of the executor. The flag says whether the database could be read for the check of
the lane contract. -/
inductive Write
  | upgrade (readable : Bool) (address : Address) (codeHash : B256)
  | seedRegistries
  | historyStorageAccount (readable : Bool)
  | blockhashes (account : RevmAccount)
  | transaction (readable : Bool) (txHash : B256) (changes : EvmState)
  | systemTx (readable : Bool) (changes : EvmState)
  | moveIncoming (validator : Address)

section

variable (code : PlantedCode) (manager : HertzPatchManager)

def Write.apply (s : WriteState) : Write → Option WriteState
  | .upgrade readable address codeHash => some (s.upgradeSystemContract readable address codeHash)
  | .seedRegistries => some (s.seedCas20Registries code)
  | .historyStorageAccount readable => some (s.applyHistoryStorageAccount readable code)
  | .blockhashes account => some (s.applyBlockhashesContractCall account)
  | .transaction readable txHash changes =>
    some (s.commitTransaction manager readable txHash changes)
  | .systemTx readable changes => some (s.transactSystemTx readable changes)
  | .moveIncoming validator => s.moveIncoming validator

def Write.applyAll (s : WriteState) : List Write → Option WriteState
  | [] => some s
  | w :: ws => (w.apply code manager s).bind fun s => Write.applyAll s ws

end

/-- The writes of an imported block, in the order of the executor. What the EVM changes is given
with each transaction. -/
structure BlockRun where
  /-- The contracts that a fork before Feynman upgrades at the start of the block. -/
  beginUpgrades : List (Address × B256)
  historyStorageAccount : Bool
  seedRegistries : Bool
  blockhashes : Option RevmAccount
  transactions : List (B256 × EvmState)
  endUpgrades : List (Address × B256)
  /-- The initial calls of the Feynman fork and of block one, and the slash. -/
  earlySystemTxs : List EvmState
  validator : Address
  /-- The payments of the incoming fees, finality rewards and the validator update. -/
  lateSystemTxs : List EvmState
  /-- No fork upgrades the system address. -/
  upgrades_ne : ∀ u ∈ beginUpgrades ++ endUpgrades, u.1 ≠ systemAddress

namespace BlockRun

variable (block : BlockRun)

def earlyWrites : List Write :=
  block.beginUpgrades.map (fun u => .upgrade true u.1 u.2) ++
  (if block.historyStorageAccount then [.historyStorageAccount true] else []) ++
  (if block.seedRegistries then [.seedRegistries] else []) ++
  (block.blockhashes.map Write.blockhashes).toList ++
  block.transactions.map (fun tx => .transaction true tx.1 tx.2) ++
  block.endUpgrades.map (fun u => .upgrade true u.1 u.2) ++
  block.earlySystemTxs.map (.systemTx true)

def lateWrites : List Write := block.lateSystemTxs.map (.systemTx true)

def writes : List Write := block.earlyWrites ++ .moveIncoming block.validator :: block.lateWrites

variable (code : PlantedCode) (manager : HertzPatchManager) (pre : AccountDb)

def beforeDistribution : Option WriteState :=
  Write.applyAll code manager (.start pre) block.earlyWrites

def afterDistribution : Option WriteState :=
  (block.beforeDistribution code manager pre).bind fun s => s.moveIncoming block.validator

def run : Option WriteState := Write.applyAll code manager (.start pre) block.writes

end BlockRun

/-! ### What the hook knows -/

/-- The database as the reports describe it. -/
def WriteState.hooked (s : WriteState) (pre : AccountDb) : AccountDb := pre.commitAll s.reports

namespace WriteState

variable (s : WriteState) (pre : AccountDb) (changes : EvmState) (readable : Bool)

@[simp] lemma onState_db : (s.onState changes).db = s.db := rfl
@[simp] lemma commitDb_db : (s.commitDb changes).db = s.db.commit changes := rfl
@[simp] lemma commitState_db : (s.commitState readable changes).db = s.db.commit changes := rfl

@[simp] lemma hooked_onState : (s.onState changes).hooked pre = (s.hooked pre).commit changes := by
  simp [hooked, onState]

@[simp] lemma hooked_commitDb : (s.commitDb changes).hooked pre = s.hooked pre := rfl
@[simp] lemma hooked_commitState : (s.commitState readable changes).hooked pre = s.hooked pre := rfl

/-- Hook and database hold the same account. -/
def InStep (address : Address) (s : WriteState) : Prop := s.hooked pre address = s.db address

end WriteState

lemma EvmState.get_single (address address' : Address) (account : RevmAccount) :
    (EvmState.single address account).get address' =
      if address = address' then some account else none := by
  simp [EvmState.single, OrdMap.get_insert]

/-- A write that patches nothing of the account. -/
def Write.Unpatched (manager : HertzPatchManager) (address : Address) : Write → Prop
  | .transaction _ txHash _ => (∀ p ∈ manager.beforeTx txHash, p.address ≠ address) ∧
      ∀ p ∈ manager.afterTx txHash, p.address ≠ address
  | _ => True

section

variable {code : PlantedCode} {manager : HertzPatchManager} {pre : AccountDb}
  {s s' : WriteState} {w : Write} {ws : List Write} {address : Address} {changes : EvmState}

namespace WriteState

section

variable (h : s.InStep pre address)
include h

lemma InStep.report : ((s.commitDb changes).onState changes).InStep pre address := by
  unfold InStep at h ⊢
  simp only [hooked_onState, hooked_commitDb, onState_db, commitDb_db, commit, h]

lemma InStep.report_remove (hne : address ≠ systemAddress) (readable : Bool) :
    ((s.onState (changes.remove systemAddress)).commitState readable changes).InStep pre
      address := by
  unfold InStep at h ⊢
  simp only [hooked_onState, hooked_commitState, onState_db, commitState_db]
  have hget : (changes.remove systemAddress).get address = changes.get address :=
    OrdMap.get_remove_of_ne _ hne.symm
  unfold commit
  rw [hget, h]

lemma InStep.seed (registry : Address) :
    (s.seedCas20Registry code registry).InStep pre address := by
  unfold seedCas20Registry
  dsimp only
  split
  · exact h
  · exact h.report

lemma InStep.setBalance (target : Address) (balance : ℕ) :
    (s.setBalance target balance).InStep pre address := h.report

end

open WriteState

lemma InStep.moveIncoming (h : s.InStep pre address) {validator : Address}
    (hmove : s.moveIncoming validator = some s') : s'.InStep pre address := by
  unfold WriteState.moveIncoming at hmove
  dsimp only at hmove
  split_ifs at hmove with hbig hzero
  · cases hmove
    exact h
  · cases hmove
    exact (h.setBalance _ _).setBalance _ _

end WriteState

open WriteState

lemma Write.apply_inStep (hw : w.Unpatched manager address) (hne : address ≠ systemAddress)
    (happly : w.apply code manager s = some s') (h : s.InStep pre address) :
    s'.InStep pre address := by
  cases w with
  | upgrade | historyStorageAccount | blockhashes =>
    cases happly
    exact h.report
  | seedRegistries =>
    cases happly
    exact (h.seed _).seed _
  | transaction readable txHash changes =>
    cases happly
    obtain ⟨hbefore, hafter⟩ := hw
    have hpatched : ({ s with db := manager.patchBeforeTx txHash s.db } : WriteState).InStep pre
        address := h.trans (getD_applyPatch_of_ne s.db hbefore).symm
    exact (hpatched.report_remove hne readable).trans (getD_applyPatch_of_ne _ hafter).symm
  | systemTx readable changes =>
    cases happly
    exact h.report_remove hne readable
  | moveIncoming validator => exact h.moveIncoming happly

open Write

lemma Write.applyAll_append {ws' : List Write} : applyAll code manager s (ws ++ ws') =
      (applyAll code manager s ws).bind fun s => applyAll code manager s ws' := by
  induction ws generalizing s with
  | nil => rfl
  | cons w ws ih =>
    simp only [cons_append, applyAll, bind_assoc, ih]

lemma Write.applyAll_inStep (hws : ∀ w ∈ ws, w.Unpatched manager address)
    (hne : address ≠ systemAddress)
    (happly : applyAll code manager s ws = some s') (h : s.InStep pre address) :
    s'.InStep pre address := by
  induction ws generalizing s with
  | nil =>
    cases happly
    exact h
  | cons w ws ih =>
    obtain ⟨t, hw, hrest⟩ := bind_eq_some_iff.mp happly
    exact ih (fun w' hw' => hws w' (mem_cons_of_mem _ hw')) hrest
      (apply_inStep (hws w mem_cons_self) hne hw h)

/-! ### The system address -/

def Write.Silent : Write → Prop
  | .upgrade _ address _ => address ≠ systemAddress
  | .moveIncoming _ => False
  | _ => True

lemma commit_single_of_ne (db : AccountDb) {target : Address} (h : target ≠ address)
    (account : RevmAccount) : db.commit (.single target account) address = db address :=
  commit_of_none (by simp [EvmState.get_single, h])

lemma WriteState.hooked_report_of_ne (h : address ≠ systemAddress) (account : RevmAccount) :
    (s.onState (.single address account)).hooked pre systemAddress =
      s.hooked pre systemAddress := by
  rw [hooked_onState]
  exact commit_single_of_ne _ h account

lemma WriteState.hooked_report_remove :
    (s.onState (changes.remove systemAddress)).hooked pre systemAddress =
      s.hooked pre systemAddress := by
  rw [hooked_onState]
  exact commit_of_none (by simp [OrdMap.get_remove])

/-- The change sets of which the reports leave the system address out. -/
def Write.unreported : Write → List EvmState
  | .transaction _ _ changes | .systemTx _ changes => [changes]
  | _ => []

lemma HertzPatchManager.unpatched_system (manager : HertzPatchManager) (txHash : B256) :
    (∀ p ∈ manager.beforeTx txHash, p.address ≠ systemAddress) ∧
      ∀ p ∈ manager.afterTx txHash, p.address ≠ systemAddress := by
  have htables : ∀ table ∈ [mainnetPatchesBeforeTx, mainnetPatchesAfterTx, chapelPatchesBeforeTx,
      chapelPatchesAfterTx], ∀ e ∈ table, e.2.address ≠ systemAddress := by decide +kernel
  have hlookup : ∀ table ∈ [mainnetPatchesBeforeTx, mainnetPatchesAfterTx, chapelPatchesBeforeTx,
      chapelPatchesAfterTx], ∀ p ∈ table.lookup txHash, p.address ≠ systemAddress := by
    intro table htable p hp
    obtain ⟨l, l', rfl, -⟩ := List.lookup_eq_some_iff.mp hp
    exact htables _ htable (txHash, p) (by simp)
  unfold beforeTx afterTx
  constructor <;> split <;> exact hlookup _ (by simp)

lemma WriteState.seed_system (pre : AccountDb) (registry : Address) (h : registry ≠ systemAddress) :
    (s.seedCas20Registry code registry).hooked pre systemAddress = s.hooked pre systemAddress ∧
      (s.seedCas20Registry code registry).db systemAddress = s.db systemAddress := by
  unfold seedCas20Registry
  dsimp only
  split
  · exact ⟨rfl, rfl⟩
  · exact ⟨hooked_report_of_ne h _, commit_single_of_ne s.db h _⟩

/-- A silent write reports nothing on the system address, whose account takes what is unreported. -/
lemma Write.apply_silent (pre : AccountDb) (hw : w.Silent)
    (happly : w.apply code manager s = some s') :
    s'.hooked pre systemAddress = s.hooked pre systemAddress ∧
      s'.db systemAddress = s.db.commitAll w.unreported systemAddress := by
  have hhistory : historyStorageAddress ≠ systemAddress := by decide
  cases w with
  | upgrade readable target codeHash =>
    cases happly
    exact ⟨hooked_report_of_ne hw _, commit_single_of_ne s.db hw _⟩
  | seedRegistries =>
    cases happly
    exact ⟨(seed_system pre _ (by decide)).1.trans (seed_system pre _ (by decide)).1,
      (seed_system pre _ (by decide)).2.trans (seed_system pre _ (by decide)).2⟩
  | historyStorageAccount =>
    cases happly
    exact ⟨hooked_report_of_ne hhistory _,
      commit_single_of_ne s.db hhistory (.touchedFrom ⟨0, 1, code.historyStorageHash⟩)⟩
  | blockhashes account =>
    cases happly
    exact ⟨hooked_report_of_ne hhistory _, commit_single_of_ne s.db hhistory account⟩
  | transaction readable txHash changes =>
    cases happly
    obtain ⟨hbefore, hafter⟩ := manager.unpatched_system txHash
    exact ⟨hooked_report_remove,
      (getD_applyPatch_of_ne _ hafter).trans (commit_congr (getD_applyPatch_of_ne _ hbefore))⟩
  | systemTx =>
    cases happly
    exact ⟨hooked_report_remove, rfl⟩
  | moveIncoming validator => exact hw.elim

lemma Write.applyAll_silent (pre : AccountDb) (hws : ∀ w ∈ ws, w.Silent)
    (happly : applyAll code manager s ws = some s') :
    s'.hooked pre systemAddress = s.hooked pre systemAddress ∧
      s'.db systemAddress = s.db.commitAll (ws.flatMap unreported) systemAddress := by
  induction ws generalizing s with
  | nil =>
    cases happly
    exact ⟨rfl, rfl⟩
  | cons w ws ih =>
    obtain ⟨t, hw, hrest⟩ := bind_eq_some_iff.mp happly
    obtain ⟨hhook, hdb⟩ := apply_silent pre (hws w mem_cons_self) hw
    obtain ⟨hhook', hdb'⟩ := ih (fun w' hw' => hws w' (mem_cons_of_mem _ hw')) hrest
    rw [flatMap_cons, commitAll_append]
    exact ⟨hhook'.trans hhook, hdb'.trans (commitAll_congr hdb)⟩

/-- What the distribution does to the system address, which it reports: the balance is taken away,
and comes back where the validator is that address. -/
def systemMoves (db : AccountDb) (validator : Address) : List EvmState :=
  let info := db.infoAt systemAddress
  let drained := EvmState.single systemAddress (.touchedFrom { info with balance := 0 })
  let refilled := EvmState.single systemAddress
    (.touchedFrom { (db.commit drained).infoAt systemAddress with balance := info.balance })
  if info.balance = 0 then []
  else drained :: if validator = systemAddress then [refilled] else []

lemma WriteState.moveIncoming_system (pre : AccountDb) {validator : Address} {db : AccountDb}
    (hdb : s.db systemAddress = db systemAddress) (hmove : s.moveIncoming validator = some s') :
    s'.db systemAddress = db.commitAll (systemMoves db validator) systemAddress ∧
      s'.hooked pre systemAddress =
        (s.hooked pre).commitAll (systemMoves db validator) systemAddress := by
  have hinfo := infoAt_congr hdb
  unfold moveIncoming at hmove
  unfold systemMoves
  dsimp only at hmove ⊢
  rw [hinfo] at hmove
  split_ifs at hmove with hbig hzero
  · cases hmove
    rw [if_pos hzero]
    exact ⟨hdb, rfl⟩
  · cases hmove
    rw [if_neg hzero]
    have hfirst : (s.setBalance systemAddress 0).db systemAddress = db.commit (.single systemAddress
        (.touchedFrom { db.infoAt systemAddress with balance := 0 })) systemAddress := by
      rw [← hinfo, WriteState.setBalance, onState_db, commitDb_db]
      exact commit_congr hdb
    have hhook : (s.setBalance systemAddress 0).hooked pre = (s.hooked pre).commit (.single
        systemAddress (.touchedFrom { db.infoAt systemAddress with balance := 0 })) := by
      rw [← hinfo]
      exact hooked_onState _ _ _
    by_cases hv : validator = systemAddress
    · subst hv
      rw [if_pos rfl]
      have hempty : ((s.setBalance systemAddress 0).db.infoAt systemAddress).balance = 0 := by
        rw [infoAt_congr hfirst]
        simp only [infoAt, basic, commit, EvmState.get_single, if_true, commitAccount,
          RevmAccount.touchedFrom]
        split_ifs <;> simp_all [DbInfo.default]
      have hmin : min (((s.setBalance systemAddress 0).db.infoAt systemAddress).balance +
          (db.infoAt systemAddress).balance) (2 ^ 256 - 1) = (db.infoAt systemAddress).balance := by
        rw [hempty]
        omega
      rw [hmin, WriteState.setBalance, infoAt_congr hfirst, hooked_onState, hooked_commitDb, hhook,
        onState_db, commitDb_db]
      exact ⟨commit_congr hfirst, rfl⟩
    · rw [if_neg hv]
      rw [WriteState.setBalance, hooked_onState, commit_single_of_ne _ hv, hooked_commitDb, hhook]
      exact ⟨(commit_single_of_ne _ hv _).trans hfirst, rfl⟩

end

namespace BlockRun

variable {code : PlantedCode} {manager : HertzPatchManager} {pre : AccountDb} {s : WriteState}
  (block : BlockRun)

lemma run_eq : block.run code manager pre = (block.afterDistribution code manager pre).bind fun s =>
      Write.applyAll code manager s block.lateWrites := by
  unfold run writes afterDistribution beforeDistribution
  rw [Write.applyAll_append, bind_assoc]
  rfl

lemma earlyWrites_silent : ∀ w ∈ block.earlyWrites, w.Silent := by
  have hne := block.upgrades_ne
  simp only [mem_append] at hne
  intro w hw
  unfold earlyWrites at hw
  simp only [List.mem_append, List.mem_map, mem_toList, map_eq_some_iff] at hw
  rcases hw with ((((((⟨u, hu, rfl⟩ | h) | h) | ⟨a, -, rfl⟩) | ⟨tx, -, rfl⟩) | ⟨u, hu, rfl⟩) |
    ⟨c, -, rfl⟩)
  · exact hne u (.inl hu)
  · split at h
    · obtain rfl := mem_singleton.mp h
      trivial
    · simp at h
  · split at h
    · obtain rfl := mem_singleton.mp h
      trivial
    · simp at h
  · trivial
  · trivial
  · exact hne u (.inr hu)
  · trivial

lemma lateWrites_silent : ∀ w ∈ block.lateWrites, w.Silent := by
  intro w hw
  obtain ⟨c, -, rfl⟩ := mem_map.mp hw
  trivial

/-- Some transaction of the block has a patch for the account. -/
def Patches (manager : HertzPatchManager) (address : Address) : Prop :=
  ∃ tx ∈ block.transactions, (∃ p ∈ manager.beforeTx tx.1, p.address = address) ∨
    ∃ p ∈ manager.afterTx tx.1, p.address = address

lemma writes_unpatched {block : BlockRun} {address : Address}
    (h : ¬block.Patches manager address) : ∀ w ∈ block.writes, w.Unpatched manager address := by
  intro w hw
  cases w with
  | transaction readable txHash changes =>
    unfold writes earlyWrites lateWrites at hw
    simp at hw
    exact ⟨fun p hp heq => h ⟨_, hw.1, .inl ⟨p, hp, heq⟩⟩,
      fun p hp heq => h ⟨_, hw.1, .inr ⟨p, hp, heq⟩⟩⟩
  | _ => trivial

/-- The change sets before the distribution, those of the forks aside. -/
def collected : List EvmState := block.transactions.map Prod.snd ++ block.earlySystemTxs

/-- The distribution makes good for what was not reported of the system address: its moves alone,
on the account before the block, leave the account that all the change sets leave. -/
def SystemMadeGood (pre : AccountDb) : Prop :=
  let moves := systemMoves (pre.commitAll block.collected) block.validator
  AccountDb.AgreeAt (pre.commitAll moves)
    (pre.commitAll (block.collected ++ moves ++ block.lateSystemTxs)) systemAddress

lemma unreported_earlyWrites : block.earlyWrites.flatMap Write.unreported = block.collected := by
  have hnil : ∀ l : List (Address × B256), l.flatMap (fun _ => ([] : List EvmState)) = [] :=
    fun l => flatMap_eq_nil_iff.mpr fun _ _ => rfl
  unfold earlyWrites collected
  simp only [flatMap_append, flatMap_map]
  cases block.historyStorageAccount <;> cases block.seedRegistries <;> cases block.blockhashes <;>
    simp [Write.unreported, hnil, map_eq_flatMap]

lemma agreeAt_system_iff {block : BlockRun} (hrun : block.run code manager pre = some s) :
    AccountDb.AgreeAt (s.hooked pre) s.db systemAddress ↔ block.SystemMadeGood pre := by
  rw [run_eq] at hrun
  obtain ⟨s₂, hafter, hlate⟩ := bind_eq_some_iff.mp hrun
  obtain ⟨s₁, hbefore, hmove⟩ := bind_eq_some_iff.mp hafter
  obtain ⟨hsilent, hcollected⟩ := Write.applyAll_silent pre block.earlyWrites_silent hbefore
  rw [unreported_earlyWrites] at hcollected
  obtain ⟨hdb, hhook⟩ := WriteState.moveIncoming_system pre hcollected hmove
  obtain ⟨hhook', hdb'⟩ := Write.applyAll_silent pre block.lateWrites_silent hlate
  refine AccountDb.AgreeAt.iff_of_eq ?_ ?_
  · rw [hhook', hhook]
    exact commitAll_congr hsilent
  · have hlater : block.lateWrites.flatMap Write.unreported = block.lateSystemTxs := by
      simp [lateWrites, flatMap_map, Write.unreported, List.flatMap_singleton']
    rw [hdb', hlater, commitAll_append, commitAll_append]
    exact commitAll_congr hdb

end BlockRun

def payer : Address := Fin.ofNat (2 ^ 160) 7

/-- A block of one transaction, which pays a fee of five, and of the payment of that fee. -/
def feeBlock : BlockRun where
  beginUpgrades := []
  historyStorageAccount := true
  seedRegistries := true
  blockhashes := none
  transactions :=
    [(1, (EvmState.single systemAddress (.touchedFrom ⟨5, 0, keccakEmpty⟩)).insert payer
      (.touchedFrom ⟨95, 1, keccakEmpty⟩))]
  endUpgrades := [(validatorContract, 3)]
  earlySystemTxs := []
  validator := Fin.ofNat (2 ^ 160) 9
  lateSystemTxs := [.single validatorContract (.touchedFrom ⟨5, 0, 3⟩)]
  upgrades_ne := List.forall_mem_singleton.mpr (by decide)

/-- The first patched transaction of the main network, in a block of its own. -/
def patchedBlock : BlockRun where
  beginUpgrades := []
  historyStorageAccount := false
  seedRegistries := false
  blockhashes := none
  transactions :=
    [(0x7eba4edc7c1806d6ee1691d43513838931de5c94f9da56ec865721b402f775b0,
      .single payer (.touchedFrom ⟨95, 1, keccakEmpty⟩))]
  endUpgrades := []
  earlySystemTxs := []
  validator := Fin.ofNat (2 ^ 160) 9
  lateSystemTxs := []
  upgrades_ne := List.forall_mem_nil _

def patchedContract : Address := Fin.ofNat (2 ^ 160) 0x00000000001f8b68515efb546542397d3293ccfd

/-- The patched contract before the block, with blank storage. -/
def patchedPre : AccountDb := fun address =>
  if address = patchedContract then some ⟨⟨0, 1, 3⟩, fun _ => 0⟩ else none

end RethBsc
