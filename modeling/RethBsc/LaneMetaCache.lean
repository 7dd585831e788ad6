import RethBsc.BlockWrites
import RethBsc.PaymentLane

/-!
The cache of what governance set for the payment lane.

The ratio and the list of payment contracts are read from a system contract page by page, as of
the state after a block, and kept under the hash of that block. A block that leaves the contract
alone hands its entry on to its children: an import decides that with a detector over everything
it commits, and a block built here by looking for the contract in the accounts it changed.
-/

namespace RethBsc

open LaneState AccountDb WriteState List

/-- The ABI decoders of the two getters, with the text of their errors, and addresses as
checksummed strings. -/
structure LaneCodec where
  decodeRatioReturns : Bytes → Except String ℕ
  decodeContractsReturns : Bytes → Except String (List Address × ℕ)
  display : Address → String

def corrupt (text : String) : LaneError := .corruptConfig text

/-- The call of `getPaymentLaneRatio`. -/
def ratioCalldata : Bytes := [0xc9, 0x88, 0xaa, 0xf7]

/-- The call of `getPaymentContracts` for the page at an offset. -/
def contractsCalldata (offset : ℕ) : Bytes :=
  [0x08, 0xfc, 0xc4, 0x5a] ++ B256.asSlice (BitVec.ofNat 256 offset) ++
    B256.asSlice (BitVec.ofNat 256 pageSize)

def decodeRatio (codec : LaneCodec) (ret : Bytes) : Except LaneError ℕ :=
  match codec.decodeRatioReturns ret with
  | .error e => .error (corrupt s!"getPaymentLaneRatio decode: {e}")
  | .ok value => checkRatio value

/-! ### The walk over the pages -/

/-- The contracts collected so far, and the count that the first page reported. -/
structure PageWalk where
  total : Option ℕ
  listed : Finset Address
  total_le : ∀ t ∈ total, t ≤ maxListedContracts

namespace PageWalk

def new : PageWalk := ⟨none, ∅, by simp⟩

/-- The count of a page has to be that of the first, which is bounded. -/
def countPage (walk : PageWalk) (total : ℕ) : Except LaneError PageWalk :=
  match walk.total with
  | none =>
    if h : total ≤ maxListedContracts then
      .ok ⟨some total, walk.listed, by simpa using h⟩
    else .error (corrupt
      s!"payment contract count {total} exceeds the {maxListedContracts} ceiling")
  | some first =>
    if total ≠ first then
      .error (corrupt s!"payment contract count changed mid-walk: {first} then {total}")
    else .ok walk

def listAll (codec : LaneCodec) (listed : Finset Address) :
    List Address → Except LaneError (Finset Address)
  | [] => .ok listed
  | addr :: page =>
    if addr ∈ listed then
      .error (corrupt s!"payment contract {codec.display addr} listed twice")
    else listAll codec (insert addr listed) page

/-- The entries of a page at an offset, of `total`. -/
def listPage (codec : LaneCodec) (walk : PageWalk) (offset total : ℕ) (page : List Address) :
    Except LaneError (PageWalk × Option ℕ) :=
  let n := page.length
  if total = 0 then .ok (walk, none)
  else if n = 0 then
    .error (corrupt s!"empty payment contract page at offset {offset} of {total}")
  else if n > pageSize then
    .error (corrupt s!"payment contract page holds {n} entries, limit was {pageSize}")
  else if offset > total then
    .error (corrupt s!"payment contract page offset {offset} past the {total} reported")
  else if n > total - offset then
    .error (corrupt
      s!"payment contract page of {n} overruns {total} entries from offset {offset}")
  else
    match listAll codec walk.listed page with
    | .error e => .error e
    | .ok listed =>
      let walk := { walk with listed := listed }
      .ok (walk, if offset + n ≥ total then none else some (offset + n))

/-- Takes in the page read at an offset, and says where the next one starts. -/
def accept (codec : LaneCodec) (walk : PageWalk) (offset : ℕ) (ret : Bytes) :
    Except LaneError (PageWalk × Option ℕ) :=
  match codec.decodeContractsReturns ret with
  | .error e => .error (corrupt s!"getPaymentContracts decode: {e}")
  | .ok (page, totalLength) =>
    if totalLength > u64Max then
      .error (corrupt s!"payment contract count exceeds u64: {totalLength}")
    else
      match walk.countPage totalLength with
      | .error e => .error e
      | .ok walk => walk.listPage codec offset totalLength page

def finish (walk : PageWalk) : Except LaneError (Finset Address) :=
  match walk.total with
  | none => .error (corrupt "payment contract walk read no pages")
  | some total =>
    if walk.listed.card ≠ total then
      let collected := walk.listed.card
      .error (corrupt s!"payment contract walk collected {collected} of {total} entries")
    else .ok walk.listed

variable {walk walk' : PageWalk} {total offset next : ℕ} {codec : LaneCodec}

lemma countPage_eq_ok (h : walk.countPage total = .ok walk') : total ≤ maxListedContracts := by
  unfold countPage at h
  split at h
  · split at h
    · assumption
    · cases h
  · next first hfirst =>
    split at h
    · cases h
    · next heq =>
      have hle := walk.total_le first hfirst
      omega

lemma listPage_eq_some {page : List Address}
    (h : walk.listPage codec offset total page = .ok (walk', some next)) :
    offset < next ∧ next < total := by
  unfold listPage at h
  dsimp only at h
  split_ifs at h with _ _ _ _ _ hlast
  · simp at h
  · split at h <;> simp at h
  · split at h
    · cases h
    · simp only [Except.ok.injEq, Prod.mk.injEq, Option.some.injEq] at h
      omega

lemma accept_eq_some {ret : Bytes} (h : walk.accept codec offset ret = .ok (walk', some next)) :
    offset < next ∧ next < maxListedContracts := by
  unfold accept at h
  split at h
  · cases h
  · split at h
    · cases h
    · split at h
      · cases h
      · next hcount =>
        have hlist := listPage_eq_some h
        have hle := countPage_eq_ok hcount
        omega

end PageWalk

section

variable (codec : LaneCodec) (read : Bytes → Except LaneError Bytes)

/-- The loop over the pages. `read` runs a getter of the contract. -/
def walkPages (walk : PageWalk) (offset : ℕ) : Except LaneError PageWalk :=
  match read (contractsCalldata offset) with
  | .error e => .error e
  | .ok ret =>
    match h : walk.accept codec offset ret with
    | .error e => .error e
    | .ok (walk, none) => .ok walk
    | .ok (walk, some next) =>
      have := PageWalk.accept_eq_some h
      walkPages walk next
  termination_by maxListedContracts - offset

/-- What `load` reads on a miss. -/
def readMeta : Except LaneError LaneMeta := do
  let ratio ← decodeRatio codec (← read ratioCalldata)
  let walk ← walkPages codec read .new 0
  let listed ← walk.finish
  return ⟨ratio, listed⟩

/-! ### The cache -/

abbrev LaneCache := LruMap B256 LaneMeta

def LaneCache.new : LaneCache := ⟨1024, []⟩

def load (cache : LaneCache) (parentHash : B256) : Except LaneError LaneMeta × LaneCache :=
  match cache.get parentHash with
  | (some hit, cache) => (.ok hit, cache)
  | (none, cache) =>
    match readMeta codec read with
    | .error e => (.error e, cache)
    | .ok laneMeta => (.ok laneMeta, cache.insert parentHash laneMeta)

def LaneState.resolve (cache : LaneCache)
    (parentHash : B256) (gasLimit : ℕ) : Except LaneError LaneState × LaneCache :=
  match load codec read cache parentHash with
  | (.error e, cache) => (.error e, cache)
  | (.ok laneMeta, cache) => (.ok (LaneState.activate laneMeta gasLimit), cache)

def LaneState.inheritTo (lane : LaneState) (cache : LaneCache) (blockHash : B256) : LaneCache :=
  match lane with
  | some active => cache.insert blockHash active.laneMeta
  | none => cache

/-- The bundle is given by the accounts it has an entry for. -/
def inheritIfUntouched (bundle : Finset Address) (cache : LaneCache) (parent child : B256) :
    LaneCache :=
  if paymentLaneContract ∈ bundle then cache
  else
    match cache.get parent with
    | (some laneMeta, cache) => cache.insert child laneMeta
    | (none, cache) => cache

/-! ### Reading the contract -/

inductive GetterResult
  | success (output : Bytes)
  | revert
  | halt (reason : String)
  deriving DecidableEq

/-- What code with given storage answers to a call. The getters read nothing else. -/
abbrev LaneCode := B256 → (B256 → B256) → Bytes → GetterResult

/-- A call of an account without code returns nothing. -/
def laneAnswer (exec : LaneCode) (db : AccountDb) (data : Bytes) : GetterResult :=
  if (db.infoAt paymentLaneContract).hasNoCode then .success []
  else exec (db.infoAt paymentLaneContract).codeHash (db.slotAt paymentLaneContract) data

/-- A getter call of the executor of a block. The execution itself may fail, with a text that says
nothing about the block. -/
def callLaneGetter (exec : LaneCode) (dbAtParentState : Bool) (fault : Bytes → Option String)
    (db : AccountDb) (data : Bytes) : Except LaneError Bytes :=
  if !dbAtParentState then
    .error (.stateUnavailable "payment lane read after this block mutated state")
  else
    match fault data with
    | some text => .error (.stateUnavailable text)
    | none =>
      let target := codec.display paymentLaneContract
      match laneAnswer exec db data with
      | .success output =>
        if output ≠ [] then .ok output
        else .error (.corruptConfig s!"getter at {target} returned no data")
      | .revert => .error (.corruptConfig s!"getter at {target} reverted")
      | .halt reason => .error (.corruptConfig s!"getter at {target} halted: {reason}")

/-- What a load without cache and without faults reads in a state. -/
def freshLoad (exec : LaneCode) (db : AccountDb) : Except LaneError LaneMeta :=
  readMeta codec (callLaneGetter codec exec true (fun _ => none) db)

end

/-! ### A node -/

/-- The blocks of a network. A hash determines its block, hence its parent and the state after
it. -/
structure BlockTree where
  parent : B256 → B256
  post : B256 → AccountDb
  /-- Whether the Jenner fork is active at a block. -/
  jenner : B256 → Bool

/-- The cache, and the executors at work: the parent of the block of each, and its lane. -/
structure LaneNode where
  cache : LaneCache
  running : List (B256 × LaneState)

def LaneNode.start : LaneNode := ⟨.new, []⟩

/-- What happens to the cache. Executors come and go in any order. -/
inductive LaneEvent
  /-- `init_payment_lane` of a block on a parent: imported, simulated for a bid, or built here. -/
  | init (parent : B256) (gasLimit : ℕ) (fault : Bytes → Option String)
  /-- `verify_payment_lane` passes at the end of the import of a block. -/
  | verified (executor : ℕ) (hash : B256) (writes : List Write)
  /-- `finalize_payload` of a block built here or from a bid. -/
  | finalized (hash : B256) (bundle : Finset Address)
  | evicted (hash : B256)

/-- What a network and its contract are given by. -/
structure LaneWorld where
  codec : LaneCodec
  exec : LaneCode
  code : PlantedCode
  manager : HertzPatchManager
  tree : BlockTree

namespace LaneWorld

variable (env : LaneWorld)

def executed (parent : B256) (writes : List Write) : Option WriteState :=
  Write.applyAll env.code env.manager (.start (env.tree.post parent)) writes

def tryInheritLaneMeta (s : WriteState) (lane : LaneState) (cache : LaneCache) (hash : B256) :
    LaneCache :=
  if s.laneContractChanged then cache else lane.inheritTo cache hash

def step (node : LaneNode) : LaneEvent → LaneNode
  | .init parent gasLimit fault =>
    if env.tree.jenner parent then
      let read := callLaneGetter env.codec env.exec true fault (env.tree.post parent)
      match LaneState.resolve env.codec read node.cache parent gasLimit with
      | (.error _, cache) => { node with cache := cache }
      | (.ok lane, cache) => ⟨cache, node.running ++ [(parent, lane)]⟩
    else { node with running := node.running ++ [(parent, LaneState.off)] }
  | .verified executor hash writes =>
    match node.running[executor]?, env.executed (env.tree.parent hash) writes with
    | some (_, lane), some s => { node with cache := tryInheritLaneMeta s lane node.cache hash }
    | _, _ => node
  | .finalized hash bundle =>
    { node with cache := inheritIfUntouched bundle node.cache (env.tree.parent hash) hash }
  | .evicted hash =>
    { node with
      cache := { node.cache with
        entries := node.cache.entries.filter fun e => decide (e.1 ≠ hash) } }

/-- Two states that the getters cannot tell apart. -/
def LaneKept (db db' : AccountDb) : Prop :=
  (db.infoAt paymentLaneContract).hasNoCode = true ∧
      (db'.infoAt paymentLaneContract).hasNoCode = true ∨
    (db.infoAt paymentLaneContract).codeHash = (db'.infoAt paymentLaneContract).codeHash ∧
      db.slotAt paymentLaneContract = db'.slotAt paymentLaneContract

/-- An event of the network: an executor runs the block it was started for, which leaves the state
after that block, and a bundle has an entry for the lane contract if its code or storage
changed. -/
def Valid (node : LaneNode) : LaneEvent → Prop
  | .init _ _ _ => True
  | .verified executor hash writes =>
    (∃ lane, node.running[executor]? = some (env.tree.parent hash, lane)) ∧
      ∃ s, env.executed (env.tree.parent hash) writes = some s ∧ s.db = env.tree.post hash
  | .finalized hash bundle =>
    paymentLaneContract ∉ bundle →
      ((env.tree.post (env.tree.parent hash)).infoAt paymentLaneContract).codeHash =
          ((env.tree.post hash).infoAt paymentLaneContract).codeHash ∧
        (env.tree.post (env.tree.parent hash)).slotAt paymentLaneContract =
          (env.tree.post hash).slotAt paymentLaneContract
  | .evicted _ => True

def Steps (event : LaneEvent) (node node' : LaneNode) : Prop :=
  env.Valid node event ∧ node' = env.step node event

/-- What the cache and the executors know is what a fresh load would read. -/
structure Sound (node : LaneNode) : Prop where
  cached : node.cache.All fun hash laneMeta =>
    freshLoad env.codec env.exec (env.tree.post hash) = .ok laneMeta
  held : ∀ parent active, (parent, some active) ∈ node.running →
    freshLoad env.codec env.exec (env.tree.post parent) = .ok active.laneMeta

end LaneWorld

/-! ### A load that succeeds reads the state -/

section

variable {codec : LaneCodec} {exec : LaneCode} {db db' : AccountDb}
  {read read' : Bytes → Except LaneError Bytes}

lemma walkPages_eq (walk : PageWalk) (offset : ℕ) : walkPages codec read walk offset =
      match read (contractsCalldata offset) with
      | .error e => .error e
      | .ok ret =>
        match walk.accept codec offset ret with
        | .error e => .error e
        | .ok (walk, none) => .ok walk
        | .ok (walk, some next) => walkPages codec read walk next := by
  rw [walkPages]
  cases read (contractsCalldata offset) with
  | error e => rfl
  | ok ret =>
    dsimp only
    split <;> simp [*]

lemma walkPages_mono (h : ∀ data out, read data = .ok out → read' data = .ok out)
    {walk walk' : PageWalk} {offset : ℕ} (hwalk : walkPages codec read walk offset = .ok walk') :
    walkPages codec read' walk offset = .ok walk' := by
  induction walk, offset using walkPages.induct codec read with
  | case1 walk offset e hread => simp [walkPages_eq, hread] at hwalk
  | case2 walk offset ret hread e haccept => simp [walkPages_eq, hread, haccept] at hwalk
  | case3 walk offset ret hread walk1 haccept =>
    rw [walkPages_eq] at hwalk ⊢
    simpa [hread, h _ _ hread, haccept] using hwalk
  | case4 walk offset ret hread walk1 next haccept hnext ih =>
    rw [walkPages_eq] at hwalk ⊢
    simp only [hread, h _ _ hread, haccept] at hwalk ⊢
    exact ih hwalk

variable {laneMeta : LaneMeta} {fault : Bytes → Option String}

lemma readMeta_mono (h : ∀ data out, read data = .ok out → read' data = .ok out)
    (hmeta : readMeta codec read = .ok laneMeta) :
    readMeta codec read' = .ok laneMeta := by
  unfold readMeta at hmeta ⊢
  obtain ⟨ret, hret, hmeta⟩ := bind_eq_ok hmeta
  obtain ⟨ratio, hratio, hmeta⟩ := bind_eq_ok hmeta
  obtain ⟨walk, hwalk, hmeta⟩ := bind_eq_ok hmeta
  rw [h _ _ hret]
  simp only [bind, Except.bind, hratio, walkPages_mono h hwalk]
  exact hmeta

lemma callLaneGetter_of_fault {data out : Bytes}
    (h : callLaneGetter codec exec true fault db data = .ok out) :
    callLaneGetter codec exec true (fun _ => none) db data = .ok out := by
  unfold callLaneGetter at h ⊢
  cases hfault : fault data with
  | some text => simp [hfault] at h
  | none => simpa [hfault] using h

lemma freshLoad_of_fault
    (h : readMeta codec (callLaneGetter codec exec true fault db) = .ok laneMeta) :
    freshLoad codec exec db = .ok laneMeta :=
  readMeta_mono (fun _ _ => callLaneGetter_of_fault) h

end

/-! ### What a block keeps of the contract -/

namespace LaneWorld

namespace LaneKept

variable {db db' db'' : AccountDb}

lemma of_eq (h : db paymentLaneContract = db' paymentLaneContract) : LaneKept db db' :=
  .inr ⟨congrArg DbInfo.codeHash (AccountDb.AgreeAt.of_eq h).1,
    funext (AccountDb.AgreeAt.of_eq h).2⟩

lemma refl (db : AccountDb) : LaneKept db db := .inr ⟨rfl, rfl⟩

lemma trans (h : LaneKept db db') (h' : LaneKept db' db'') : LaneKept db db'' := by
  have hcode : ∀ i j : DbInfo, i.codeHash = j.codeHash → i.hasNoCode = j.hasNoCode := by
    intro i j hij
    simp [DbInfo.hasNoCode, hij]
  rcases h with ⟨h1, h2⟩ | ⟨h1, h2⟩ <;> rcases h' with ⟨h3, h4⟩ | ⟨h3, h4⟩
  · exact .inl ⟨h1, h4⟩
  · exact .inl ⟨h1, hcode _ _ h3 ▸ h2⟩
  · exact .inl ⟨(hcode _ _ h1).symm ▸ h3, h4⟩
  · exact .inr ⟨h1.trans h3, h2.trans h4⟩

lemma laneAnswer_eq (h : LaneKept db db') (exec : LaneCode) :
    laneAnswer exec db = laneAnswer exec db' := by
  funext data
  unfold laneAnswer
  rcases h with ⟨h1, h2⟩ | ⟨h1, h2⟩
  · simp [h1, h2]
  · simp [DbInfo.hasNoCode, h1, h2]

lemma freshLoad_eq (h : LaneKept db db') (codec : LaneCodec) (exec : LaneCode) :
    freshLoad codec exec db = freshLoad codec exec db' := by
  unfold freshLoad callLaneGetter
  rw [h.laneAnswer_eq exec]

lemma commit {changes : EvmState} {account : RevmAccount}
    (hget : changes.get paymentLaneContract = some account) (hcreated : account.created = false)
    (hdestroyed : account.selfdestructed = false)
    (hslots : ∀ old slot, account.applyStorage old slot = old slot)
    (hcode : account.info.codeHash = (db.infoAt paymentLaneContract).codeHash) :
    LaneKept db (db.commit changes) := by
  cases htouched : account.touched with
  | false => exact .of_eq (commit_of_not_touched hget htouched).symm
  | true =>
    have hcommit := @commit_of_some db _ _ _ hget
    simp only [commitAccount, htouched, hcreated, hdestroyed, Bool.not_true,
      Bool.false_eq_true, if_false, storage_eq_slotAt] at hcommit
    split at hcommit
    · next hempty =>
      -- The account is removed: it had no code before, and an absent one has none.
      have hnone : account.info.hasNoCode := by
        simp only [DbInfo.isEmpty, Bool.and_eq_true] at hempty
        exact hempty.1.1
      refine .inl ⟨?_, ?_⟩
      · simpa [DbInfo.hasNoCode, hcode] using hnone
      · simp [infoAt, basic, hcommit, DbInfo.default, DbInfo.hasNoCode]
    · refine .inr ⟨?_, ?_⟩
      · simp [infoAt, basic, hcommit, hcode]
      · funext slot
        simp [slotAt, hcommit, hslots]

end LaneKept

lemma applyStorage_of_no_changes {account : RevmAccount}
    (h : account.changedStorageSlots = []) (old : B256 → B256) (slot : B256) :
    account.applyStorage old slot = old slot := by
  unfold RevmAccount.applyStorage
  split
  · next s hget =>
    have hmem : (slot, s) ∈ account.storage.entries := OrdMap.mem_entries.mpr hget
    have hsame : s.isChanged = false := by
      by_contra hchanged
      have : (slot, s) ∈ account.changedStorageSlots :=
        mem_filter.mpr ⟨hmem, by simpa using hchanged⟩
      rw [h] at this
      cases this
    simp [hsame]
  · rfl

variable {s s' : WriteState}

/-- The detector misses nothing: a commit after which it is still silent keeps the contract. -/
lemma commitState_kept {readable : Bool} {changes : EvmState}
    (h : (s.commitState readable changes).laneContractChanged = false) :
    s.laneContractChanged = false ∧ LaneKept s.db (s.commitState readable changes).db := by
  simp only [commitState] at h
  rw [commitState_db]
  cases hget : changes.get paymentLaneContract with
  | none =>
    simp only [hget] at h
    exact ⟨h, .of_eq (commit_of_none hget).symm⟩
  | some account =>
    simp only [hget] at h
    cases htouched : account.touched with
    | false =>
      simp only [htouched, Bool.and_false, Bool.false_eq_true, if_false] at h
      exact ⟨h, .of_eq (commit_of_not_touched hget htouched).symm⟩
    | true =>
      cases hchanged : s.laneContractChanged with
      | true => simp [hchanged] at h
      | false =>
        refine ⟨rfl, ?_⟩
        simp only [hchanged, htouched, Bool.not_false, Bool.and_self, if_true,
          altersLane, Bool.or_eq_false_iff, Bool.not_eq_false',
          List.isEmpty_iff] at h
        obtain ⟨⟨⟨hcreated, hdestroyed⟩, hslots⟩, hcode⟩ := h
        refine .commit hget hcreated hdestroyed (applyStorage_of_no_changes hslots) ?_
        split at hcode
        · simp only [ne_eq, decide_not, Bool.not_eq_false', decide_eq_true_eq] at hcode
          obtain ⟨info, hinfo, heq⟩ := Option.map_eq_some_iff.mp hcode
          simp [infoAt, hinfo, heq]
        · cases hcode

lemma single_kept {db : AccountDb} {address : Address} {account : RevmAccount}
    (h : address ≠ paymentLaneContract) : LaneKept db (db.commit (.single address account)) :=
  .of_eq (commit_of_none (by simp [EvmState.get_single, h])).symm

lemma setBalance_kept (s : WriteState) (address : Address) (balance : ℕ) :
    LaneKept s.db (s.setBalance address balance).db := by
  by_cases h : address = paymentLaneContract
  · subst h
    exact .commit (by simp [EvmState.get_single]; rfl) rfl rfl (applyStorage_of_no_changes rfl) rfl
  · exact single_kept h

lemma seed_kept (s : WriteState) (code : PlantedCode) {registry : Address}
    (h : registry ≠ paymentLaneContract) :
    LaneKept s.db (s.seedCas20Registry code registry).db ∧
      (s.seedCas20Registry code registry).laneContractChanged = s.laneContractChanged := by
  unfold seedCas20Registry
  dsimp only
  split
  · exact ⟨.refl _, rfl⟩
  · exact ⟨single_kept h, rfl⟩

lemma patches_ne : ∀ e ∈ mainnetPatchesBeforeTx ++ mainnetPatchesAfterTx ++
    chapelPatchesBeforeTx ++ chapelPatchesAfterTx, e.2.address ≠ paymentLaneContract := by
  decide

lemma applyPatch_kept {table : List (B256 × StoragePatch)}
    (htable : ∀ e ∈ table, e.2.address ≠ paymentLaneContract) (txHash : B256) (db : AccountDb) :
    LaneKept db (((table.lookup txHash).map (applyPatch db)).getD db) := by
  cases hlookup : table.lookup txHash with
  | none => exact .refl _
  | some patch =>
    obtain ⟨key, hkey⟩ : ∃ key, (key, patch) ∈ table := by
      obtain ⟨l1, l2, rfl, -⟩ := lookup_eq_some_iff.mp hlookup
      exact ⟨txHash, by simp⟩
    exact .of_eq (applyPatch_of_ne db (htable _ hkey)).symm

lemma patchBeforeTx_kept (manager : HertzPatchManager) (txHash : B256) (db : AccountDb) :
    LaneKept db (manager.patchBeforeTx txHash db) := by
  refine applyPatch_kept (fun e he => patches_ne e ?_) txHash db
  split at he <;> simp [he]

lemma patchAfterTx_kept (manager : HertzPatchManager) (txHash : B256) (db : AccountDb) :
    LaneKept db (manager.patchAfterTx txHash db) := by
  refine applyPatch_kept (fun e he => patches_ne e ?_) txHash db
  split at he <;> simp [he]

lemma moveIncoming_kept {validator : Address} (h : s.moveIncoming validator = some s') :
    s'.laneContractChanged = s.laneContractChanged ∧ LaneKept s.db s'.db := by
  unfold moveIncoming at h
  dsimp only at h
  split_ifs at h
  · cases h
    exact ⟨rfl, .refl _⟩
  · cases h
    exact ⟨rfl, (setBalance_kept _ _ _).trans (setBalance_kept _ _ _)⟩

variable {code : PlantedCode} {manager : HertzPatchManager}

lemma apply_kept {w : Write} (happly : w.apply code manager s = some s')
    (h : s'.laneContractChanged = false) : s.laneContractChanged = false ∧ LaneKept s.db s'.db := by
  cases w with
  | upgrade | systemTx =>
    cases happly
    exact commitState_kept h
  | seedRegistries =>
    cases happly
    have h1 := seed_kept s code
      (show Cas20.activationRegistryAddress ≠ paymentLaneContract by decide)
    have h2 := seed_kept (s.seedCas20Registry code Cas20.activationRegistryAddress) code
      (show Cas20.policyRegistryAddress ≠ paymentLaneContract by decide)
    exact ⟨h1.2 ▸ h2.2 ▸ h, h1.1.trans h2.1⟩
  | historyStorageAccount readable =>
    cases happly
    exact @commitState_kept _ readable _ h
  | blockhashes account =>
    cases happly
    exact ⟨h, single_kept (by decide)⟩
  | transaction readable txHash changes =>
    cases happly
    obtain ⟨hbefore, hkept⟩ := commitState_kept h
    exact ⟨hbefore, (patchBeforeTx_kept manager txHash s.db).trans
      (hkept.trans (patchAfterTx_kept manager txHash _))⟩
  | moveIncoming validator =>
    obtain ⟨hchanged, hkept⟩ := moveIncoming_kept happly
    exact ⟨hchanged ▸ h, hkept⟩

lemma applyAll_kept {ws : List Write} (happly : Write.applyAll code manager s ws = some s')
    (h : s'.laneContractChanged = false) : s.laneContractChanged = false ∧ LaneKept s.db s'.db := by
  induction ws generalizing s with
  | nil =>
    cases happly
    exact ⟨h, .refl _⟩
  | cons w ws ih =>
    obtain ⟨t, hw, hrest⟩ := Option.bind_eq_some_iff.mp happly
    obtain ⟨ht, hkept⟩ := ih hrest
    obtain ⟨hs, hkept'⟩ := apply_kept hw ht
    exact ⟨hs, hkept'.trans hkept⟩

/-! ### Histories -/

variable {env : LaneWorld} {node node' : LaneNode}

/-- What a fresh load would read after the block. -/
abbrev Fresh (env : LaneWorld) (hash : B256) (laneMeta : LaneMeta) : Prop :=
  freshLoad env.codec env.exec (env.tree.post hash) = .ok laneMeta

section Loads

variable (env : LaneWorld) (parent : B256) (gasLimit : ℕ) {cache : LaneCache}
  (hcache : cache.All env.Fresh)
include hcache

lemma load_sound (fault : Bytes → Option String) :
    let read := callLaneGetter env.codec env.exec true fault (env.tree.post parent)
    ((load env.codec read cache parent).2.All env.Fresh) ∧
    ∀ laneMeta, (load env.codec read cache parent).1 = .ok laneMeta →
      env.Fresh parent laneMeta := by
  intro read
  have hget := hcache.get parent
  unfold load
  cases hhit : cache.get parent with
  | mk hit cache' =>
    rw [hhit] at hget
    cases hit with
    | some hit =>
      refine ⟨hget, fun laneMeta h => ?_⟩
      obtain rfl : hit = laneMeta := by simpa using h
      exact hcache.of_get (by rw [hhit])
    | none =>
      cases hread : readMeta env.codec read with
      | error e => exact ⟨hget, fun laneMeta h => by simp at h⟩
      | ok found =>
        have hfound := freshLoad_of_fault hread
        refine ⟨by simpa [hread] using hget.insert hfound, fun laneMeta h => ?_⟩
        obtain rfl : found = laneMeta := by simpa [hread] using h
        exact hfound

lemma resolve_sound (fault : Bytes → Option String) :
    let read := callLaneGetter env.codec env.exec true fault (env.tree.post parent)
    ((resolve env.codec read cache parent gasLimit).2.All env.Fresh) ∧
    ∀ lane, (resolve env.codec read cache parent gasLimit).1 = .ok lane →
      ∃ laneMeta, env.Fresh parent laneMeta ∧ lane = activate laneMeta gasLimit := by
  intro read
  obtain ⟨hall, hok⟩ := load_sound env parent hcache fault
  unfold resolve
  cases hload : load env.codec read cache parent with
  | mk result cache' =>
    rw [hload] at hall hok
    cases result with
    | error e => exact ⟨hall, fun lane h => by simp at h⟩
    | ok laneMeta =>
      refine ⟨hall, fun lane h => ⟨laneMeta, hok laneMeta rfl, ?_⟩⟩
      simpa using h.symm

/-- Without a fault of the database the cache makes no difference. -/
lemma resolve_fst : (resolve env.codec (callLaneGetter env.codec env.exec true (fun _ => none)
      (env.tree.post parent)) cache parent gasLimit).1 =
      (freshLoad env.codec env.exec (env.tree.post parent)).map (activate · gasLimit) := by
  unfold resolve load
  cases hhit : cache.get parent with
  | mk hit cache' =>
    cases hit with
    | some laneMeta =>
      have hfresh : env.Fresh parent laneMeta := hcache.of_get (by rw [hhit])
      rw [hfresh]
      rfl
    | none =>
      unfold freshLoad
      dsimp only
      cases readMeta env.codec _ <;> rfl

end Loads

section

variable (h : env.Sound node)
include h

lemma Sound.init (parent : B256) (gasLimit : ℕ)
    (fault : Bytes → Option String) : env.Sound (env.step node (.init parent gasLimit fault)) := by
  unfold step
  dsimp only
  split
  · obtain ⟨hall, hok⟩ := resolve_sound env parent gasLimit h.cached fault
    split
    · next cache hres =>
      rw [hres] at hall
      exact ⟨hall, h.held⟩
    · next lane cache hres =>
      rw [hres] at hall hok
      obtain ⟨laneMeta, hfresh, rfl⟩ := hok lane rfl
      refine ⟨hall, fun p active hmem => ?_⟩
      rcases mem_append.mp hmem with hmem | hmem
      · exact h.held p active hmem
      · simp only [mem_singleton, Prod.mk.injEq, activate, Option.some.injEq] at hmem
        obtain ⟨rfl, rfl⟩ := hmem
        exact hfresh
  · refine ⟨h.cached, fun p active hmem => ?_⟩
    rcases mem_append.mp hmem with hmem | hmem
    · exact h.held p active hmem
    · simp [off] at hmem

lemma Sound.verified {executor : ℕ} {hash : B256} {writes : List Write}
    (hvalid : env.Valid node (.verified executor hash writes)) :
    env.Sound (env.step node (.verified executor hash writes)) := by
  obtain ⟨⟨lane, hrunning⟩, s, hexec, hpost⟩ := hvalid
  have hstep : env.step node (.verified executor hash writes) =
      { node with cache := tryInheritLaneMeta s lane node.cache hash } := by
    simp [step, hrunning, hexec]
  rw [hstep]
  refine ⟨?_, h.held⟩
  unfold tryInheritLaneMeta
  split
  · exact h.cached
  · next hchanged =>
    cases lane with
    | none => exact h.cached
    | some active =>
      refine h.cached.insert ?_
      have hkept := (applyAll_kept hexec (by simpa using hchanged)).2
      rw [hpost] at hkept
      rw [← hkept.freshLoad_eq]
      exact h.held _ active (mem_of_getElem? hrunning)

lemma Sound.finalized {hash : B256} {bundle : Finset Address}
    (hvalid : env.Valid node (.finalized hash bundle)) :
    env.Sound (env.step node (.finalized hash bundle)) := by
  refine ⟨?_, h.held⟩
  simp only [step, inheritIfUntouched]
  split
  · exact h.cached
  · next huntouched =>
    have hget := h.cached.get (env.tree.parent hash)
    cases hhit : node.cache.get (env.tree.parent hash) with
    | mk hit cache =>
      rw [hhit] at hget
      cases hit with
      | none => exact hget
      | some laneMeta =>
        refine hget.insert ?_
        have hparent := h.cached.of_get (k := env.tree.parent hash) (v := laneMeta) (by rw [hhit])
        have hkept : LaneKept (env.tree.post (env.tree.parent hash)) (env.tree.post hash) :=
          .inr (hvalid huntouched)
        rw [← hkept.freshLoad_eq]
        exact hparent

lemma Sound.evicted (hash : B256) : env.Sound (env.step node (.evicted hash)) :=
  ⟨fun e he => h.cached e (mem_of_mem_filter he), h.held⟩

lemma Sound.step {event : LaneEvent} (hstep : env.Steps event node node') : env.Sound node' := by
  obtain ⟨hvalid, rfl⟩ := hstep
  cases event with
  | init parent gasLimit fault => exact h.init parent gasLimit fault
  | verified executor hash writes => exact h.verified hvalid
  | finalized hash bundle => exact h.finalized hvalid
  | evicted hash => exact h.evicted hash

end

lemma sound_start : env.Sound .start :=
  ⟨fun _ he => (not_mem_nil he).elim, fun _ _ hmem => (not_mem_nil hmem).elim⟩

end LaneWorld

/-- Whatever blocks were imported, simulated and built, and whatever was evicted: an entry of the
cache is what a fresh load would read after its block, so the lane of a block is the same as
without the cache. A fault of the database can make a load fail, never change what it finds. -/
theorem lane_cache_sound (env : LaneWorld) (events : List LaneEvent) (node : LaneNode)
    (hrun : Trace env.Steps events .start node) :
    (∀ hash laneMeta, (node.cache.get hash).1 = some laneMeta →
      freshLoad env.codec env.exec (env.tree.post hash) = .ok laneMeta) ∧
    (∀ parent gasLimit fault lane, (LaneState.resolve env.codec
        (callLaneGetter env.codec env.exec true fault (env.tree.post parent))
        node.cache parent gasLimit).1 = .ok lane →
      (LaneState.resolve env.codec
        (callLaneGetter env.codec env.exec true (fun _ => none) (env.tree.post parent))
        .new parent gasLimit).1 = .ok lane) ∧
    ∀ parent gasLimit, (LaneState.resolve env.codec
        (callLaneGetter env.codec env.exec true (fun _ => none) (env.tree.post parent))
        node.cache parent gasLimit).1 =
      (LaneState.resolve env.codec
        (callLaneGetter env.codec env.exec true (fun _ => none) (env.tree.post parent))
        .new parent gasLimit).1 := by
  have hsound : env.Sound node :=
    hrun.keeps (fun _ _ _ hstep h => h.step hstep) LaneWorld.sound_start
  have hnew : LaneCache.new.All env.Fresh := LaneWorld.sound_start.cached
  refine ⟨fun hash laneMeta hget => hsound.cached.of_get hget,
    fun parent gasLimit fault lane h => ?_, fun parent gasLimit => ?_⟩
  · obtain ⟨laneMeta, hfresh, rfl⟩ :=
      (LaneWorld.resolve_sound env parent gasLimit hsound.cached fault).2 lane h
    rw [LaneWorld.resolve_fst env parent gasLimit hnew, hfresh]
    rfl
  · rw [LaneWorld.resolve_fst env parent gasLimit hsound.cached,
      LaneWorld.resolve_fst env parent gasLimit hnew]

/-- A lane with one listed contract, on blocks that all follow block one. -/
def quietWorld : LaneWorld where
  codec := ⟨fun _ => .ok 500, fun _ => .ok ([payer], 1), fun _ => ""⟩
  exec := fun _ _ _ => .success [1]
  code := ⟨1, 2⟩
  manager := ⟨true⟩
  tree := ⟨fun _ => 1, fun _ _ => some ⟨⟨0, 1, 3⟩, fun _ => 0⟩, fun _ => true⟩

/-- A block on block one is imported, with a transaction that changes no account. -/
def quietEvents : List LaneEvent :=
  [.init 1 30000000 (fun _ => none), .verified 0 2 [.systemTx true OrdMap.empty]]

lemma quietWorld_fresh (hash : B256) :
    freshLoad quietWorld.codec quietWorld.exec (quietWorld.tree.post hash) =
      .ok ⟨500, {payer}⟩ := by
  unfold freshLoad readMeta
  rw [walkPages_eq]
  rfl

lemma quietWorld_resolve :
    resolve quietWorld.codec (callLaneGetter quietWorld.codec quietWorld.exec true
      (fun _ => none) (quietWorld.tree.post 1)) .new 1 30000000 =
      (.ok (activate ⟨500, {payer}⟩ 30000000), ⟨1024, [(1, ⟨500, {payer}⟩)]⟩) := by
  have hfresh := quietWorld_fresh 1
  unfold freshLoad at hfresh
  have hmiss : LaneCache.new.get 1 = (none, LaneCache.new) := rfl
  simp only [resolve, load, hmiss, hfresh]
  rfl

lemma quietWorld_run : Trace quietWorld.Steps quietEvents .start
    ⟨⟨1024, [(2, ⟨500, {payer}⟩), (1, ⟨500, {payer}⟩)]⟩,
      [(1, activate ⟨500, {payer}⟩ 30000000)]⟩ := by
  have hinit : quietWorld.step .start (.init 1 30000000 (fun _ => none)) =
      ⟨⟨1024, [(1, ⟨500, {payer}⟩)]⟩, [(1, activate ⟨500, {payer}⟩ 30000000)]⟩ := by
    have hjenner : quietWorld.tree.jenner 1 := rfl
    simp only [LaneWorld.step, hjenner, if_true, LaneNode.start, quietWorld_resolve]
    rfl
  exact .cons ⟨trivial, hinit.symm⟩ (.single ⟨⟨⟨_, rfl⟩, _, rfl, rfl⟩, rfl⟩)

theorem lane_cache_sound_quiet : ∃ node, Trace quietWorld.Steps quietEvents .start node ∧
      (node.cache.get 2).1 = some ⟨500, {payer}⟩ ∧
      freshLoad quietWorld.codec quietWorld.exec (quietWorld.tree.post 2) = .ok ⟨500, {payer}⟩ :=
  ⟨_, quietWorld_run, rfl, (lane_cache_sound quietWorld _ _ quietWorld_run).1 2 _ rfl⟩

end RethBsc
