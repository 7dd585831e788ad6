import RethBsc.Trace
import RethBsc.VotePoolSafety

/-!
The notice a node gives itself when pooled votes finalize the parent of its head.

A head is reported once: when enough votes for it are pooled its hash is marked and the fork
choice is run again, which then reports the parent as finalized. Whether votes are enough is
decided twice, by `maybe_notify_finality` with the validators of the head's own snapshot and
by `get_finalized_number_and_hash` with those of its parent's snapshot.
-/

namespace RethBsc

open List Parlia VotePool

/-- What the node answers at a moment, and whether the fork-choice engine is registered. -/
structure NoticeEnv extends PoolEnv where
  forkChoiceEngine : Bool

/-- A run of `update_forkchoice` that a notice has started: the head it is given and the pool
and the answers it finds. -/
structure Notice (heap : VoteHeap) where
  head : Header
  pool : VotePool heap
  env : NoticeEnv

/-- The globals of the vote pool with the heads already reported and the notices given. -/
structure NoticeNode (heap : VoteHeap) extends PoolNode heap where
  finalizedNotified : LruMap B256 Unit
  notices : List (Notice heap)

namespace NoticeEnv

def head (env : NoticeEnv) : Option Header := env.bestCanonicalBlockNumber.bind env.headerByNumber

end NoticeEnv

namespace NoticeNode

variable {heap : VoteHeap} (deps : VoteDeps) (env : NoticeEnv)
  (node : NoticeNode heap)

def finalizedNotifiedCacheSize : ℕ := 21

def new : NoticeNode heap where
  toPoolNode := .new
  finalizedNotified := ⟨finalizedNotifiedCacheSize, []⟩
  notices := []

def isNotified (hash : B256) : Bool :=
  node.finalizedNotified.entries.any fun e => decide (e.1 = hash)

/-- Whether the pooled votes are enough for the head, by the validators of its snapshot. -/
def isNoticed (head : Header) (snap : Snapshot) (votesForBlock : ℕ) : Bool :=
  let currentJustifiedNumber := snap.voteData.targetNumber
  let quorum := Parlia.atLeastVotes snap.validators.length
  !snap.validators.isEmpty && decide (head.number ≠ 0) &&
    decide (head.number - 1 = currentJustifiedNumber) && decide (quorum ≤ votesForBlock) &&
    decide (quorum ≤ Parlia.eligibleVotes deps.toDeps node.pool.fetchVoteByBlockHash
      currentJustifiedNumber head)

/-- The head a target's votes are reported for, if they are. -/
def noticedHead (targetHash : B256) (votesForBlock : ℕ) : Option Header := do
  let head ← env.head
  if deps.hashSlow head ≠ targetHash then none
  else
    let snapshotByHash ← env.snapshotProvider
    let snap ← snapshotByHash targetHash
    if node.isNoticed deps head snap votesForBlock then some head else none

def maybeNotifyFinality (targetHash : B256) (votesForBlock : ℕ) : NoticeNode heap :=
  if node.isNotified targetHash then node
  else match node.noticedHead deps env targetHash votesForBlock with
    | none => node
    | some head =>
      -- marked before anything is sent, and whether or not the engine is there
      { node with
        finalizedNotified := node.finalizedNotified.insert targetHash ()
        notices := if env.forkChoiceEngine then node.notices ++ [⟨head, node.pool, env⟩]
          else node.notices }

/-- Reports a target some of whose votes have just become current. -/
def notifyPromoted (node : NoticeNode heap) (hash : B256) : NoticeNode heap :=
  let count := node.pool.lenForBlock hash
  if 0 < count then node.maybeNotifyFinality deps env hash count else node

/-- `promote_future_votes`, with the notices of the targets it promotes. -/
def promoteFutureVotes (headNumber : ℕ) : NoticeNode heap :=
  let candidates := node.pool.promotionCandidates headNumber
  if candidates.isEmpty then node
  else
    let resolved := VotePool.resolve deps env.toPoolEnv candidates
    if resolved.entries.isEmpty then node
    else
      let applied := node.pool.applyPromotion headNumber resolved
      applied.2.1.foldl (notifyPromoted deps env) { node with pool := applied.1 }

/-- What `put_vote` does under the write lock, and the notice it may give afterwards. -/
def write (needHeadWork : Bool) (p : Pending) : NoticeNode heap :=
  if node.pool.isAtCapacity p.vote.data.targetHash p.isFuture p.authenticated then node
  else
    let votesForBlock := (node.pool.insert deps p.vote p.isFuture p.authenticated).2
    let node := { node with toPoolNode := node.toPoolNode.write deps needHeadWork p }
    if 0 < votesForBlock then
      node.maybeNotifyFinality deps env p.vote.data.targetHash votesForBlock
    else node

def putVote (vote : VoteEnvelope) : NoticeNode heap :=
  let (pending, rejectedVotes) := PoolNode.admitVote deps env.toPoolEnv node.toPoolNode vote
  let node := { node with rejectedVotes := rejectedVotes }
  match pending with
  | none => node
  | some p =>
    let needHeadWork := decide (node.lastPrunedBlock < p.pendingBlockNumber)
    let node := if needHeadWork then node.promoteFutureVotes deps env p.pendingBlockNumber
      else node
    node.write deps env needHeadWork p

end NoticeNode

namespace NoticeNode

variable {heap : VoteHeap} {parlia : Parlia} {deps : VoteDeps}
  {env : NoticeEnv} {node : NoticeNode heap} {head : Header} {hash : B256}

def handle (deps : VoteDeps) (env : NoticeEnv) (node : NoticeNode heap) :
    VoteEvent → NoticeNode heap
  | .putVote vote => node.putVote deps env vote
  | .promoteFutureVotes headNumber => node.promoteFutureVotes deps env headNumber

/-! ### Notices leave the pool alone -/

@[simp] lemma toPoolNode_maybeNotifyFinality (count : ℕ) :
    (node.maybeNotifyFinality deps env hash count).toPoolNode = node.toPoolNode := by
  unfold maybeNotifyFinality
  cases node.isNotified hash with
  | true => rfl
  | false => cases node.noticedHead deps env hash count <;> rfl

@[simp] lemma toPoolNode_notifyPromoted :
    (notifyPromoted deps env node hash).toPoolNode = node.toPoolNode := by
  unfold notifyPromoted
  simp only
  split_ifs
  · exact toPoolNode_maybeNotifyFinality _
  · rfl

lemma toPoolNode_foldl_notifyPromoted (hashes : List B256) (node : NoticeNode heap) :
    (hashes.foldl (notifyPromoted deps env) node).toPoolNode = node.toPoolNode := by
  induction hashes generalizing node with
  | nil => rfl
  | cons hash hashes ih => rw [foldl_cons, ih, toPoolNode_notifyPromoted]

@[simp] lemma toPoolNode_write (needHeadWork : Bool) (p : Pending) :
    (node.write deps env needHeadWork p).toPoolNode =
      node.toPoolNode.write deps needHeadWork p := by
  unfold write
  split_ifs with hcap
  · rw [PoolNode.write, if_pos hcap]
  · simp only
    split_ifs
    · exact toPoolNode_maybeNotifyFinality _
    · rfl

end NoticeNode

/-! ### Which votes become current -/

namespace VotePool

variable {heap : VoteHeap} {deps : VoteDeps} {env : PoolEnv}
  {pool : VotePool heap} {hash : B256}

lemma curVotes_insert (deps : VoteDeps) (pool : VotePool heap) (hash : B256) (vote : VoteEnvelope)
    (isFuture authenticated : Bool) :
    messagesOf (pool.insert deps vote isFuture authenticated).1.curVotes hash =
        messagesOf pool.curVotes hash ∨
      vote.data.targetHash = hash ∧ (pool.insert deps vote isFuture authenticated).2 =
        (pool.insert deps vote isFuture authenticated).1.lenForBlock hash := by
  by_cases hnew : deps.envelopeHash vote ∈ pool.receivedVotes
  · rw [insert_of_mem deps pool hnew]
    exact .inl rfl
  · cases isFuture with
    | true =>
      left
      rw [(pool.insert_spec deps hnew true authenticated).2.2, if_pos rfl]
    | false =>
      by_cases hhash : hash = vote.data.targetHash
      · subst hhash
        refine .inr ⟨rfl, ?_⟩
        simp [insert, hnew]
      · left
        rw [(pool.insert_spec deps hnew false authenticated).2.2]
        exact Function.update_of_ne hhash _ _

lemma curVotes_write_sublist (deps : VoteDeps) (hash : B256) {node : PoolNode heap}
    (needHeadWork : Bool) {p : Pending}
    (hcap : node.pool.isAtCapacity p.vote.data.targetHash p.isFuture p.authenticated = false) :
    (messagesOf (node.write deps needHeadWork p).pool.curVotes hash).Sublist
      (messagesOf (node.pool.insert deps p.vote p.isFuture p.authenticated).1.curVotes hash) := by
  unfold PoolNode.write
  rw [hcap]
  refine (relieve_within _ _ hash).1.trans ?_
  cases needHeadWork
  · exact List.Sublist.refl _
  · exact (prune_within _ _ hash).1

lemma promoteJudged_promoted (verdicts : OrdMap B256 Bool)
    (h : (pool.promoteJudged hash verdicts).2.promoted = false) :
    (pool.promoteJudged hash verdicts).1.curVotes = pool.curVotes := by
  unfold promoteJudged at h ⊢
  split
  · rfl
  · next bucket hsome =>
    rw [hsome] at h
    simp only at h ⊢
    split
    · rfl
    · next hvalid =>
      rw [hvalid] at h
      cases h

lemma curVotes_promotionStep {resolved : Resolved} (st : PromotionState heap) (vd : VoteData)
    (h : hash ∉ (promotionStep resolved st vd).promoted) : hash ∉ st.promoted ∧
      messagesOf (promotionStep resolved st vd).pool.curVotes hash =
        messagesOf st.pool.curVotes hash := by
  unfold promotionStep at h ⊢
  cases hres : resolved.get vd.targetHash with
  | none =>
    rw [hres] at h
    exact ⟨h, rfl⟩
  | some verdicts =>
    rw [hres] at h
    simp only at h ⊢
    split_ifs at h with hprom
    · rw [mem_append, mem_singleton, not_or] at h
      refine ⟨h.1, ?_⟩
      rw [(st.pool.promoteJudged_spec vd.targetHash verdicts).2.1]
      exact Function.update_of_ne h.2 _ _
    · exact ⟨h, by rw [promoteJudged_promoted verdicts (Bool.eq_false_of_not_eq_true hprom)]⟩

lemma curVotes_promotion_foldl (resolved : Resolved) (hash : B256) (l : List VoteData)
    (st : PromotionState heap) (h : hash ∉ (l.foldl (promotionStep resolved) st).promoted) :
    hash ∉ st.promoted ∧ messagesOf (l.foldl (promotionStep resolved) st).pool.curVotes hash =
      messagesOf st.pool.curVotes hash := by
  induction l generalizing st with
  | nil => exact ⟨h, rfl⟩
  | cons vd l ih =>
    obtain ⟨hnot, hrest⟩ := ih _ h
    obtain ⟨hnot, hone⟩ := curVotes_promotionStep st vd hnot
    exact ⟨hnot, hrest.trans hone⟩

lemma curVotes_applyPromotion {latest : ℕ} {resolved : Resolved}
    (h : hash ∉ (pool.applyPromotion latest resolved).2.1) :
    messagesOf (pool.applyPromotion latest resolved).1.curVotes hash =
      messagesOf pool.curVotes hash := by
  obtain ⟨-, hfold, -⟩ :=
    heap.popWhile_spec (targetNumber_le_down latest) (promotionStep resolved)
    maxPromotionTargetsPerPass pool.futureVotesPq ⟨pool, [], [], 0⟩
  have hst := curVotes_promotion_foldl resolved hash (pool.popped latest) ⟨pool, [], [], 0⟩
  rw [popped, ← hfold] at hst
  exact (hst h).2

end VotePool

/-! ### What is reported early -/

namespace Notice

variable {heap : VoteHeap} (parlia : Parlia) (deps : Deps)

def ReportsParent (n : Notice heap) : Prop :=
  (parlia.getFinalizedNumberAndHash deps n.env.snapshotProvider n.pool.fetchVoteByBlockHash
    n.head).map Prod.fst = some (n.head.number - 1)

instance (n : Notice heap) : Decidable (n.ReportsParent parlia deps) :=
  inferInstanceAs (Decidable (_ = _))

/-- The pooled votes are what finalizes the parent. -/
def FinalizesEarly (n : Notice heap) : Prop :=
  parlia.spec.isPlatoActiveAtBlock n.head.number = true ∧
    ∃ snapshotByHash snap, n.env.snapshotProvider = some snapshotByHash ∧
      snapshotByHash (deps.hashSlow n.head) = some snap ∧
      Parlia.finalizedEarly deps n.pool.fetchVoteByBlockHash snapshotByHash snap n.head = true

variable {parlia deps} {head : Header} {env : NoticeEnv} {pool pool' : VotePool heap}

lemma FinalizesEarly.reportsParent {n : Notice heap} (h : n.FinalizesEarly parlia deps) :
    n.ReportsParent parlia deps := by
  obtain ⟨hplato, snapshotByHash, snap, hsp, hsnap, hearly⟩ := h
  have htarget : n.head.number - 1 = snap.voteData.targetNumber := by
    simp only [finalizedEarly, Bool.and_eq_true, decide_eq_true_eq] at hearly
    exact hearly.1.2
  simp [ReportsParent, getFinalizedNumberAndHash, hplato, hsp, hsnap, hearly, htarget]

lemma FinalizesEarly.of_change (h : (⟨head, pool', env⟩ : Notice heap).ReportsParent parlia deps)
    (hbefore : ¬ (⟨head, pool, env⟩ : Notice heap).ReportsParent parlia deps) :
    (⟨head, pool', env⟩ : Notice heap).FinalizesEarly parlia deps := by
  by_contra hnot
  apply hbefore
  unfold ReportsParent getFinalizedNumberAndHash at *
  cases hplato : parlia.spec.isPlatoActiveAtBlock head.number with
  | false => simp [hplato] at h
  | true =>
    cases hsp : env.snapshotProvider with
    | none => simp [hsp] at h
    | some snapshotByHash =>
      cases hsnap : snapshotByHash (deps.hashSlow head) with
      | none => simp [hplato, hsp, hsnap] at h
      | some snap =>
        have hlate : finalizedEarly deps pool'.fetchVoteByBlockHash snapshotByHash snap head
            = false := by
          refine Bool.eq_false_of_not_eq_true fun hearly => hnot ?_
          exact ⟨hplato, snapshotByHash, snap, hsp, hsnap, hearly⟩
        have hnever : finalizedEarly deps pool.fetchVoteByBlockHash snapshotByHash snap head
            = false := by
          refine Bool.eq_false_of_not_eq_true fun hearly => hbefore ?_
          exact FinalizesEarly.reportsParent (n := ⟨head, pool, env⟩)
            ⟨hplato, snapshotByHash, snap, hsp, hsnap, hearly⟩
        simpa [hplato, hsp, hsnap, hlate, hnever] using h

end Notice

/-! ### Notices where the quorums agree -/

/-- A head for which both quorums are the same: its snapshot and its parent's ask for as many
votes. The engine is there to be told, and the votes of the head count. -/
structure NoticeEnv.Settled (parlia : Parlia) (deps : Deps) (env : NoticeEnv) (head : Header) :
    Prop where
  engine : env.forkChoiceEngine = true
  plato : parlia.spec.isPlatoActiveAtBlock head.number = true
  quorum : ∀ snapshotByHash snap, env.snapshotProvider = some snapshotByHash →
    snapshotByHash (deps.hashSlow head) = some snap →
    ∃ parentSnap, snapshotByHash head.parentHash = some parentSnap ∧
      Parlia.atLeastVotes parentSnap.validators.length = Parlia.atLeastVotes snap.validators.length

/-- Whenever the block is the head, its quorums agree. -/
def NoticeEnv.SettledFor (parlia : Parlia) (deps : Deps) (hash : B256) (env : NoticeEnv) : Prop :=
  ∀ head, env.head = some head → deps.hashSlow head = hash → env.Settled parlia deps head

lemma atLeastVotes_pos_iff {n : ℕ} : 0 < atLeastVotes n ↔ 0 < n := by
  unfold atLeastVotes
  omega

namespace NoticeNode

variable {heap : VoteHeap} {parlia : Parlia} {deps : VoteDeps}
  {env : NoticeEnv} {node : NoticeNode heap} {head : Header} {hash target : B256} {count : ℕ}

/-- The fork choice has been run for the block when it reported the block's parent. -/
def Told (parlia : Parlia) (deps : VoteDeps) (hash : B256) (node : NoticeNode heap) : Prop :=
  ∃ n ∈ node.notices, deps.hashSlow n.head = hash ∧ n.ReportsParent parlia deps.toDeps

instance (parlia : Parlia) (deps : VoteDeps) (hash : B256) (node : NoticeNode heap) :
    Decidable (node.Told parlia deps hash) :=
  inferInstanceAs (Decidable (∃ n ∈ node.notices, _ ∧ _))

/-- The block is marked only if the fork choice has been run for it. -/
def Sound (parlia : Parlia) (deps : VoteDeps) (hash : B256) (node : NoticeNode heap) : Prop :=
  node.isNotified hash = true → node.Told parlia deps hash

/-- The votes of this pool finalize the head's parent. -/
abbrev Early (parlia : Parlia) (deps : VoteDeps) (env : NoticeEnv) (head : Header)
    (pool : VotePool heap) : Prop :=
  (⟨head, pool, env⟩ : Notice heap).FinalizesEarly parlia deps.toDeps

lemma noticedHead_eq_some (h : node.noticedHead deps env target count = some head) :
    env.head = some head ∧ deps.hashSlow head = target ∧
      ∃ snapshotByHash snap, env.snapshotProvider = some snapshotByHash ∧
        snapshotByHash target = some snap ∧ node.isNoticed deps head snap count := by
  simp only [noticedHead, Option.bind_eq_bind, Option.bind_eq_some_iff,
    Option.ite_none_left_eq_some, Option.ite_none_right_eq_some, not_not, Option.some.injEq] at h
  obtain ⟨head', hhead, hhash, snapshotByHash, hsp, snap, hsnap, hnoticed, rfl⟩ := h
  exact ⟨hhead, hhash, snapshotByHash, snap, hsp, hsnap, hnoticed⟩

lemma finalizesEarly_of_noticedHead (hset : env.SettledFor parlia deps.toDeps hash)
    (h : node.noticedHead deps env hash count = some head) :
    Early parlia deps env head node.pool := by
  obtain ⟨hhead, rfl, snapshotByHash, snap, hsp, hsnap, hnoticed⟩ := noticedHead_eq_some h
  have hs := hset head hhead rfl
  obtain ⟨parentSnap, hparent, hquorum⟩ := hs.quorum snapshotByHash snap hsp hsnap
  simp only [isNoticed, Bool.and_eq_true, decide_eq_true_eq, Bool.not_eq_true',
    isEmpty_eq_false_iff] at hnoticed
  obtain ⟨⟨⟨⟨hne, hzero⟩, htarget⟩, -⟩, heligible⟩ := hnoticed
  have hparentNe : parentSnap.validators ≠ [] := by
    rw [← length_pos_iff, ← atLeastVotes_pos_iff, hquorum, atLeastVotes_pos_iff]
    exact length_pos_iff.mpr hne
  refine ⟨hs.plato, snapshotByHash, snap, hsp, hsnap, ?_⟩
  simp only [finalizedEarly, hparent, Bool.and_eq_true, decide_eq_true_eq,
    Bool.not_eq_true', isEmpty_eq_false_iff]
  exact ⟨⟨Nat.pos_of_ne_zero hzero, htarget⟩, hparentNe, hquorum ▸ heligible⟩

lemma eligibleVotes_le_lenForBlock (deps : Deps) (pool : VotePool heap) (justified : ℕ)
    (head : Header) : eligibleVotes deps pool.fetchVoteByBlockHash justified head ≤
      pool.lenForBlock (deps.hashSlow head) := by
  unfold eligibleVotes lenForBlock fetchVoteByBlockHash
  exact countP_le_length.trans_eq (length_map _)

lemma noticedHead_of_finalizesEarly (hset : env.Settled parlia deps.toDeps head)
    (hhead : env.head = some head) (hearly : Early parlia deps env head node.pool)
    (hcount : node.pool.lenForBlock (deps.hashSlow head) ≤ count) :
    node.noticedHead deps env (deps.hashSlow head) count = some head := by
  obtain ⟨-, snapshotByHash, snap, hsp, hsnap, hearly⟩ := hearly
  simp only at hsp hsnap
  obtain ⟨parentSnap, hparent, hquorum⟩ := hset.quorum snapshotByHash snap hsp hsnap
  simp only [finalizedEarly, hparent, Bool.and_eq_true, decide_eq_true_eq,
    Bool.not_eq_true', isEmpty_eq_false_iff] at hearly
  obtain ⟨⟨hzero, htarget⟩, hparentNe, heligible⟩ := hearly
  rw [hquorum] at heligible
  have hne : snap.validators ≠ [] := by
    rw [← length_pos_iff, ← atLeastVotes_pos_iff, ← hquorum, atLeastVotes_pos_iff]
    exact length_pos_iff.mpr hparentNe
  have hlen := eligibleVotes_le_lenForBlock deps.toDeps node.pool snap.voteData.targetNumber head
  have hnoticed : node.isNoticed deps head snap count := by
    simp only [isNoticed, Bool.and_eq_true, decide_eq_true_eq, Bool.not_eq_true',
      isEmpty_eq_false_iff]
    exact ⟨⟨⟨⟨hne, hzero.ne'⟩, htarget⟩, heligible.trans (hlen.trans hcount)⟩, heligible⟩
  simp [noticedHead, hhead, hsp, hsnap, hnoticed]

lemma Early.lenForBlock_pos {pool : VotePool heap} (h : Early parlia deps env head pool) :
    0 < pool.lenForBlock (deps.hashSlow head) := by
  obtain ⟨-, snapshotByHash, snap, -, -, hearly⟩ := h
  simp only [finalizedEarly, Bool.and_eq_true] at hearly
  obtain ⟨-, hearly⟩ := hearly
  split at hearly
  · cases hearly
  · next parentSnap _ =>
    simp only [Bool.and_eq_true, decide_eq_true_eq, Bool.not_eq_true',
      isEmpty_eq_false_iff] at hearly
    calc 0 < atLeastVotes parentSnap.validators.length :=
          atLeastVotes_pos_iff.mpr (length_pos_iff.mpr hearly.1)
      _ ≤ _ := hearly.2
      _ ≤ _ := eligibleVotes_le_lenForBlock deps.toDeps pool _ head

lemma Early.mono {pool pool' : VotePool heap}
    (hsub : (messagesOf pool'.curVotes (deps.hashSlow head)).Sublist
      (messagesOf pool.curVotes (deps.hashSlow head)))
    (h : Early parlia deps env head pool') : Early parlia deps env head pool := by
  obtain ⟨hplato, snapshotByHash, snap, hsp, hsnap, hearly⟩ := h
  refine ⟨hplato, snapshotByHash, snap, hsp, hsnap, ?_⟩
  have hle : eligibleVotes deps.toDeps pool'.fetchVoteByBlockHash snap.voteData.targetNumber
      head ≤ eligibleVotes deps.toDeps pool.fetchVoteByBlockHash snap.voteData.targetNumber
        head := (hsub.map VoteEntry.envelope).countP_le
  simp only [finalizedEarly, Bool.and_eq_true] at hearly ⊢
  refine ⟨hearly.1, ?_⟩
  cases hparent : snapshotByHash head.parentHash with
  | none => simp [hparent] at hearly
  | some parentSnap =>
    rw [hparent] at hearly
    simp only [Bool.and_eq_true, decide_eq_true_eq] at hearly ⊢
    exact ⟨hearly.2.1, hearly.2.2.trans hle⟩

/-! ### One notice -/

lemma maybeNotifyFinality_cases (deps : VoteDeps) (env : NoticeEnv) (node : NoticeNode heap)
    (target : B256) (count : ℕ) : node.maybeNotifyFinality deps env target count = node ∨
      ∃ head, node.noticedHead deps env target count = some head ∧
        node.maybeNotifyFinality deps env target count = { node with
            finalizedNotified := node.finalizedNotified.insert target ()
            notices := if env.forkChoiceEngine then node.notices ++ [⟨head, node.pool, env⟩]
              else node.notices } := by
  unfold maybeNotifyFinality
  cases node.isNotified target with
  | true => exact .inl rfl
  | false =>
    cases node.noticedHead deps env target count with
    | none => exact .inl rfl
    | some head => exact .inr ⟨head, rfl, rfl⟩

lemma Told.maybeNotifyFinality (h : node.Told parlia deps hash) :
    (node.maybeNotifyFinality deps env target count).Told parlia deps hash := by
  obtain ⟨n, hn, htold⟩ := h
  refine ⟨n, ?_, htold⟩
  rcases maybeNotifyFinality_cases deps env node target count with hsame | ⟨head, -, hnew⟩
  · rwa [hsame]
  · rw [hnew]
    simp only
    split_ifs
    · exact mem_append_left _ hn
    · exact hn

lemma isNotified_insert {node' : NoticeNode heap}
    (hins : node'.finalizedNotified = node.finalizedNotified.insert target ())
    (h : node'.isNotified hash) : hash = target ∨ node.isNotified hash := by
  simp only [isNotified, any_eq_true, decide_eq_true_eq] at h ⊢
  obtain ⟨e, he, rfl⟩ := h
  rw [hins] at he
  rcases mem_cons.mp (mem_of_mem_take he) with rfl | he
  · exact .inl rfl
  · exact .inr ⟨e, mem_of_mem_filter he, rfl⟩

lemma Sound.maybeNotifyFinality (hset : env.SettledFor parlia deps.toDeps hash)
    (h : node.Sound parlia deps hash) :
    (node.maybeNotifyFinality deps env target count).Sound parlia deps hash := by
  rcases maybeNotifyFinality_cases deps env node target count with hsame | ⟨head, hnot, hnew⟩
  · rwa [hsame]
  · intro hmark
    rcases isNotified_insert (congrArg finalizedNotified hnew) hmark with rfl | hold
    · -- the mark is new, so the block is the head
      obtain ⟨hhead, rfl, -⟩ := noticedHead_eq_some hnot
      rw [hnew, (hset head hhead rfl).engine]
      refine ⟨⟨head, node.pool, env⟩, mem_append_right _ mem_cons_self, rfl, ?_⟩
      exact (finalizesEarly_of_noticedHead hset hnot).reportsParent
    · exact (h hold).maybeNotifyFinality

open NoticeNode

lemma told_maybeNotifyFinality (hset : env.Settled parlia deps.toDeps head)
    (hhead : env.head = some head) (hsound : node.Sound parlia deps (deps.hashSlow head))
    (hearly : Early parlia deps env head node.pool)
    (hcount : node.pool.lenForBlock (deps.hashSlow head) ≤ count) :
    (node.maybeNotifyFinality deps env (deps.hashSlow head) count).Told parlia deps
      (deps.hashSlow head) := by
  cases hold : node.isNotified (deps.hashSlow head) with
  | true => exact (hsound hold).maybeNotifyFinality
  | false =>
    have hnot := noticedHead_of_finalizesEarly hset hhead hearly hcount
    refine ⟨⟨head, node.pool, env⟩, ?_, rfl, hearly.reportsParent⟩
    simp [maybeNotifyFinality, hold, hnot, hset.engine]

/-! ### Promotion -/

/-- A property that a notice keeps and that reads the marks and the notices only. -/
structure Kept (deps : VoteDeps) (env : NoticeEnv) (P : NoticeNode heap → Prop) : Prop where
  notify : ∀ {node} target count, P node → P (node.maybeNotifyFinality deps env target count)
  of_eq : ∀ {node base}, P node → base.finalizedNotified = node.finalizedNotified →
    base.notices = node.notices → P base

lemma kept_told : Kept deps env fun node : NoticeNode heap => node.Told parlia deps hash where
  notify _ _ h := h.maybeNotifyFinality
  of_eq h _ hnotices := by rwa [Told, hnotices]

lemma kept_sound (hset : env.SettledFor parlia deps.toDeps hash) :
    Kept deps env fun node : NoticeNode heap => node.Sound parlia deps hash where
  notify _ _ h := h.maybeNotifyFinality hset
  of_eq h hmarks hnotices := by rwa [Sound, Told, isNotified, hmarks, hnotices]

namespace Kept

variable {P : NoticeNode heap → Prop} (hkept : Kept deps env P)
include hkept

lemma notifyPromoted (h : P node) : P (notifyPromoted deps env node target) := by
  unfold NoticeNode.notifyPromoted
  simp only
  split_ifs
  · exact hkept.notify _ _ h
  · exact h

lemma foldl_notifyPromoted (targets : List B256) (h : P node) :
    P (targets.foldl (NoticeNode.notifyPromoted deps env) node) :=
  foldlRecOn targets _ h fun _ hnode _ _ => hkept.notifyPromoted hnode

lemma promoteFutureVotes (h : P node) (headNumber : ℕ) :
    P (node.promoteFutureVotes deps env headNumber) := by
  unfold NoticeNode.promoteFutureVotes
  simp only
  split_ifs
  · exact h
  · exact h
  · exact hkept.foldl_notifyPromoted _ (hkept.of_eq h rfl rfl)

lemma write (h : P node) (needHeadWork : Bool) (p : Pending) :
    P (node.write deps env needHeadWork p) := by
  unfold NoticeNode.write
  split_ifs
  · exact h
  · simp only
    split_ifs
    · exact hkept.notify _ _ (hkept.of_eq h rfl rfl)
    · exact hkept.of_eq h rfl rfl

end Kept

lemma putVote_cases (deps : VoteDeps) (env : NoticeEnv) (node : NoticeNode heap)
    (vote : VoteEnvelope) : ∃ base : NoticeNode heap, base.pool = node.pool ∧
      base.finalizedNotified = node.finalizedNotified ∧ base.notices = node.notices ∧
      (node.putVote deps env vote = base ∨
        ∃ p, node.putVote deps env vote = base.write deps env false p ∨ node.putVote deps env vote =
            (base.promoteFutureVotes deps env p.pendingBlockNumber).write deps env true p) := by
  unfold putVote
  cases PoolNode.admitVote deps env.toPoolEnv node.toPoolNode vote with
  | mk pending rejectedVotes =>
    refine ⟨{ node with rejectedVotes := rejectedVotes }, rfl, rfl, rfl, ?_⟩
    cases pending with
    | none => exact .inl rfl
    | some p =>
      refine .inr ⟨p, ?_⟩
      simp only
      cases decide (node.lastPrunedBlock < p.pendingBlockNumber)
      · exact .inl rfl
      · exact .inr rfl

lemma Kept.handle {P : NoticeNode heap → Prop} (hkept : Kept deps env P) (h : P node)
    (event : VoteEvent) : P (node.handle deps env event) := by
  cases event with
  | promoteFutureVotes headNumber => exact hkept.promoteFutureVotes h headNumber
  | putVote vote =>
    obtain ⟨base, -, hmarks, hnotices, hput⟩ := putVote_cases deps env node vote
    have hbase := hkept.of_eq h hmarks hnotices
    rw [NoticeNode.handle]
    rcases hput with hput | ⟨p, hput | hput⟩
    · rwa [hput]
    · rw [hput]
      exact hkept.write hbase false p
    · rw [hput]
      exact hkept.write (hkept.promoteFutureVotes hbase _) true p

section Head

variable (hset : env.SettledFor parlia deps.toDeps (deps.hashSlow head))
  (hhead : env.head = some head)
include hset hhead

lemma told_foldl_notifyPromoted (targets : List B256) (node : NoticeNode heap)
    (hmem : deps.hashSlow head ∈ targets) (hsound : node.Sound parlia deps (deps.hashSlow head))
    (hearly : Early parlia deps env head node.pool) :
    (targets.foldl (notifyPromoted deps env) node).Told parlia deps (deps.hashSlow head) := by
  induction targets generalizing node with
  | nil => cases hmem
  | cons target targets ih =>
    rw [foldl_cons]
    by_cases htarget : deps.hashSlow head = target
    · subst htarget
      refine kept_told.foldl_notifyPromoted targets ?_
      unfold NoticeNode.notifyPromoted
      rw [if_pos (Early.lenForBlock_pos hearly)]
      exact told_maybeNotifyFinality (hset head hhead rfl) hhead hsound hearly le_rfl
    · refine ih _ ((mem_cons.mp hmem).resolve_left htarget)
        ((kept_sound hset).notifyPromoted hsound) ?_
      rwa [toPoolNode_notifyPromoted]

lemma told_promoteFutureVotes (hsound : node.Sound parlia deps (deps.hashSlow head))
    (headNumber : ℕ) (hbefore : ¬ Early parlia deps env head node.pool)
    (hafter : Early parlia deps env head (node.promoteFutureVotes deps env headNumber).pool) :
    (node.promoteFutureVotes deps env headNumber).Told parlia deps (deps.hashSlow head) := by
  unfold promoteFutureVotes at hafter ⊢
  simp only at hafter ⊢
  split_ifs at hafter ⊢
  · exact absurd hafter hbefore
  · exact absurd hafter hbefore
  · rw [toPoolNode_foldl_notifyPromoted] at hafter
    refine told_foldl_notifyPromoted hset hhead _ _ ?_ hsound hafter
    by_contra hnot
    refine hbefore (Early.mono ?_ hafter)
    rw [curVotes_applyPromotion hnot]

/-! ### Putting a vote -/

lemma told_write (hsound : node.Sound parlia deps (deps.hashSlow head))
    (needHeadWork : Bool) (p : Pending) (hbefore : ¬ Early parlia deps env head node.pool)
    (hafter : Early parlia deps env head (node.write deps env needHeadWork p).pool) :
    (node.write deps env needHeadWork p).Told parlia deps (deps.hashSlow head) := by
  rw [toPoolNode_write] at hafter
  unfold write
  split_ifs with hcap
  · rw [PoolNode.write, if_pos hcap] at hafter
    exact absurd hafter hbefore
  · have hsub := curVotes_write_sublist deps (deps.hashSlow head) needHeadWork
      (Bool.eq_false_of_not_eq_true hcap)
    have hinsert := Early.mono hsub hafter
    rcases curVotes_insert deps node.pool (deps.hashSlow head) p.vote p.isFuture
      p.authenticated with hsame | ⟨htarget, hcount⟩
    · refine absurd (Early.mono ?_ hinsert) hbefore
      rw [hsame]
    · simp only
      rw [htarget, hcount, if_pos (Early.lenForBlock_pos hinsert)]
      exact told_maybeNotifyFinality (hset head hhead rfl) hhead hsound hafter hsub.length_le

lemma told_handle (hsound : node.Sound parlia deps (deps.hashSlow head)) (event : VoteEvent)
    (hbefore : ¬ Early parlia deps env head node.pool)
    (hafter : Early parlia deps env head (node.handle deps env event).pool) :
    (node.handle deps env event).Told parlia deps (deps.hashSlow head) := by
  cases event with
  | promoteFutureVotes headNumber =>
    exact told_promoteFutureVotes hset hhead hsound headNumber hbefore hafter
  | putVote vote =>
    obtain ⟨base, hpool, hmarks, hnotices, hput⟩ := putVote_cases deps env node vote
    have hbase := (kept_sound hset).of_eq hsound hmarks hnotices
    rw [← hpool] at hbefore
    rw [handle] at hafter ⊢
    rcases hput with hput | ⟨p, hput | hput⟩ <;> rw [hput] at hafter ⊢
    · exact absurd hafter hbefore
    · exact told_write hset hhead hbase false p hbefore hafter
    · -- promotion may have been enough; otherwise the vote itself is
      by_cases hmid : Early parlia deps env head
          (base.promoteFutureVotes deps env p.pendingBlockNumber).pool
      · exact kept_told.write (told_promoteFutureVotes hset hhead hbase _ hbefore hmid) true p
      · exact told_write hset hhead ((kept_sound hset).promoteFutureVotes hbase _) true p hmid
          hafter

end Head

/-! ### Runs -/

/-- The node after a history of events, each with what the node answered at the time. -/
def run (deps : VoteDeps) (history : List (NoticeEnv × VoteEvent)) : NoticeNode heap :=
  history.foldl (fun node e => node.handle deps e.1 e.2) new

lemma run_append (history : List (NoticeEnv × VoteEvent)) (env : NoticeEnv) (event : VoteEvent) :
    run deps (history ++ [(env, event)]) =
      (run deps history : NoticeNode heap).handle deps env event := by
  rw [run, foldl_append]
  rfl

lemma sound_run {history : List (NoticeEnv × VoteEvent)}
    (hset : ∀ e ∈ history, e.1.SettledFor parlia deps.toDeps hash) :
    (run deps history : NoticeNode heap).Sound parlia deps hash := by
  induction history using reverseRecOn with
  | nil => exact fun hmark => nomatch hmark
  | append_singleton history e ih =>
    obtain ⟨env, event⟩ := e
    rw [run_append]
    have hbefore := ih fun e he => hset e (mem_append_left _ he)
    exact (kept_sound (hset (env, event) (by simp))).handle hbefore event

/-- **Early finality is told once it is there and not before**, for a block whose own snapshot
asks for as many votes as its parent's whenever the block is the head. -/
theorem early_finality_told (parlia : Parlia) (deps : VoteDeps) (head : Header)
    (history : List (NoticeEnv × VoteEvent))
    (hset : ∀ e ∈ history, e.1.SettledFor parlia deps.toDeps (deps.hashSlow head)) :
    ((run deps history : NoticeNode heap).isNotified (deps.hashSlow head) = true →
      (run deps history : NoticeNode heap).Told parlia deps (deps.hashSlow head)) ∧
    ∀ before env event, history = before ++ [(env, event)] → env.head = some head →
      ¬ (⟨head, (run deps before).pool, env⟩ : Notice heap).ReportsParent parlia deps.toDeps →
      (⟨head, (run deps history).pool, env⟩ : Notice heap).ReportsParent parlia deps.toDeps →
      (run deps history : NoticeNode heap).Told parlia deps (deps.hashSlow head) := by
  refine ⟨sound_run hset, ?_⟩
  rintro before env event rfl hhead hbefore hafter
  rw [run_append] at hafter ⊢
  have hsound : (run deps before : NoticeNode heap).Sound parlia deps (deps.hashSlow head) :=
    sound_run fun e he => hset e (mem_append_left _ he)
  have hnow := hset (env, event) (by simp)
  refine told_handle hnow hhead hsound event (fun hearly => hbefore hearly.reportsParent) ?_
  exact Notice.FinalizesEarly.of_change hafter hbefore

end NoticeNode

/-! ### A validator set that changes at the head -/

def switchEnv (own parent : ℕ) : NoticeEnv :=
  { switchHolds own parent with forkChoiceEngine := true }

variable (own parent voters : ℕ)

/-- The votes of the first validators from block 2 to block 3. -/
def switchVotes : List (NoticeEnv × VoteEvent) :=
  (List.range voters).map fun i =>
    (switchEnv own parent, .putVote (switchVote i))

lemma switchVotes_succ : switchVotes own parent (voters + 1) =
    switchVotes own parent voters ++ [(switchEnv own parent, .putVote (switchVote voters))] := by
  rw [switchVotes, range_succ, map_append]
  rfl

def switchHead : Header := (soloChain ⟨0, Nat.two_pos⟩).header 3

def switchNode : NoticeNode (MinHeap.sortedList VoteData.targetNumber) :=
  .run switchDeps (switchVotes own parent voters)

def switchReports : Prop :=
  (⟨switchHead, (switchNode own parent voters).pool, switchEnv own parent⟩ :
    Notice _).ReportsParent (soloParlia (.block 0)) switchDeps.toDeps

instance (own parent voters : ℕ) : Decidable (switchReports own parent voters) :=
  inferInstanceAs (Decidable (Notice.ReportsParent _ _ _))

lemma switchEnv_settled : (switchEnv 1 1).SettledFor (soloParlia (.block 0)) switchDeps.toDeps
      (switchDeps.hashSlow switchHead) := by
  have hsnaps : ((switchSnapshots 1 1 (switchDeps.hashSlow switchHead)).map
      fun snap => snap.validators.length) = some 1 ∧
    ((switchSnapshots 1 1 switchHead.parentHash).map
      fun snap => snap.validators.length) = some 1 := by decide +kernel
  have henv : (switchEnv 1 1).head = some switchHead := by decide +kernel
  intro head hhead _
  obtain rfl := Option.some.inj (henv.symm.trans hhead)
  refine ⟨rfl, by decide, ?_⟩
  rintro snapshotByHash snap hsp hsnap
  obtain rfl : switchSnapshots 1 1 = snapshotByHash := Option.some.inj hsp
  obtain ⟨parentSnap, hparent, hlen⟩ := Option.map_eq_some_iff.mp hsnaps.2
  have hown := hsnaps.1
  have hsnap' : switchSnapshots 1 1 (switchDeps.hashSlow switchHead) = some snap := hsnap
  rw [hsnap', Option.map_some, Option.some.injEq] at hown
  exact ⟨parentSnap, hparent, by rw [hlen, hown]⟩

/-- A set of one validator before and after: its vote finalizes block 2, and the fork choice
is run. -/
theorem early_finality_told_solo : ¬ switchReports 1 1 0 ∧ switchReports 1 1 1 ∧
    (switchNode 1 1 1).Told (soloParlia (.block 0)) switchDeps
      (switchDeps.hashSlow switchHead) := by
  have hbefore : ¬ switchReports 1 1 0 := by decide +kernel
  have hafter : switchReports 1 1 1 := by decide +kernel
  refine ⟨hbefore, hafter, ?_⟩
  have hset : ∀ e ∈ switchVotes 1 1 1, e.1.SettledFor (soloParlia (.block 0)) switchDeps.toDeps
      (switchDeps.hashSlow switchHead) := by
    intro e he
    obtain ⟨i, -, rfl⟩ := mem_map.mp he
    exact switchEnv_settled
  have hhead : (switchEnv 1 1).head = some switchHead := by decide +kernel
  have hlast := switchVotes_succ 1 1 0
  rw [Nat.zero_add] at hlast
  unfold switchReports switchNode at *
  exact (NoticeNode.early_finality_told (soloParlia (.block 0)) switchDeps switchHead
    (switchVotes 1 1 1) hset).2 (switchVotes 1 1 0) (switchEnv 1 1) _ hlast hhead hbefore hafter

/-- Where the set shrinks from three validators to one at the head, the first vote marks the
head although two are needed, and the second, which finalizes block 2, is not told. Where it
grows from one to three, the vote that finalizes block 2 is not told either. -/
theorem set_switch_not_told :
    ((switchNode 1 3 1).isNotified (switchDeps.hashSlow switchHead) = true ∧
      ¬ switchReports 1 3 1 ∧ switchReports 1 3 2 ∧
      ¬ (switchNode 1 3 2).Told (soloParlia (.block 0)) switchDeps
        (switchDeps.hashSlow switchHead)) ∧
    ((switchEnv 3 1).head = some switchHead ∧ ¬ switchReports 3 1 0 ∧ switchReports 3 1 1 ∧
      ¬ (switchNode 3 1 1).Told (soloParlia (.block 0)) switchDeps
        (switchDeps.hashSlow switchHead)) := by
  decide +kernel

end RethBsc
