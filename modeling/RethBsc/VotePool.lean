import Mathlib.Data.Prod.Lex
import RethBsc.BoundedMap
import RethBsc.Forkchoice
import RethBsc.MinHeap

/-!
The pool of votes.

Votes for blocks the node holds are current: they have passed the origin check and count
towards attestations and finality. Votes for other blocks are future ones. They wait in
buckets by target hash, with one queue entry a bucket, until a promotion pass judges them.
A pass reads the pool, looks up headers and snapshots without holding the pool, and applies
its verdicts later, so other operations may run in between.

What the node's headers and snapshots answer at a moment is a `PoolEnv`. The priority queues
are any `MinHeap`.
-/

namespace RethBsc

open Function

namespace VotePool

def lowerLimitOfVoteBlockNumber : ℕ := 256
def upperLimitOfVoteBlockNumber : ℕ := 11
def rejectedVoteCacheSize : ℕ := 8192
def maxCurVoteAmountPerBlock : ℕ := 21
def maxFutureVoteAmountPerBlock : ℕ := 50
def maxPromotionTargetsPerPass : ℕ := 64
def maxPromotionVotesPerPass : ℕ := 512
def shedHeadroom : ℕ := 4096
def maxVotesInPool : ℕ := 32 * 1024 * 2

end VotePool

/-! ### What the node answers -/

structure PoolEnv where
  bestCanonicalBlockNumber : Option ℕ
  /-- `none` until the header provider is registered. -/
  headerByHash : Option (B256 → Option Header)
  headerByNumber : ℕ → Option Header
  snapshotProvider : Option (B256 → Option Snapshot)

inductive OriginVerdict
  | ok | rejected | unverifiable
  deriving DecidableEq

namespace PoolEnv

variable (env : PoolEnv) (deps : Deps)

def canonicalHeaderByHash (hash : B256) : Option Header := env.headerByHash.bind (· hash)

def justifiedPairForHash (hash : B256) : Option (ℕ × B256) := do
  let snapshotByHash ← env.snapshotProvider
  let snap ← snapshotByHash hash
  Parlia.justifiedPairOf snap.voteData
    ((env.headerByNumber 0).map fun genesis => (genesis.number, deps.hashSlow genesis))

def hasVoteAddr (snap : Snapshot) (voteAddress : VoteAddress) : Bool :=
  snap.validatorsMap.values.any fun info => decide (info.voteAddr = voteAddress)

/-- Whether a vote for a block we hold names its height and source, and comes from one of
the validators its parent's snapshot lists. -/
def verifyVoteOrigin (vote : VoteEnvelope) : OriginVerdict :=
  match env.canonicalHeaderByHash vote.data.targetHash with
  | none => .unverifiable
  | some header =>
    if header.number ≠ vote.data.targetNumber then .rejected
    else match env.justifiedPairForHash deps vote.data.targetHash with
      | none => .unverifiable
      | some (justifiedNumber, justifiedHash) =>
        if vote.data.sourceNumber ≠ justifiedNumber ∨ vote.data.sourceHash ≠ justifiedHash then
          .rejected
        else match env.snapshotProvider.bind (· header.parentHash) with
          | none => .unverifiable
          | some parentSnap =>
            if hasVoteAddr parentSnap vote.voteAddress then .ok else .rejected

/-- Whether a set change lies between the head and the parent of the target. -/
def governingSetsDiffer (head target epoch offset : ℕ) : Bool :=
  let epoch := max epoch 1
  if epoch ≤ offset then false
  else
    let swapsUpto n := if offset ≤ n then (n - offset) / epoch + 1 else 0
    decide (swapsUpto head ≠ swapsUpto (target - 1))

/-- Whether the sender of a future vote is a validator at our head; undecided where the
head's set need not govern the target. -/
def futureVoteSenderIsValidator (vote : VoteEnvelope) : Option Bool := do
  let headNumber ← env.bestCanonicalBlockNumber
  let head ← env.headerByNumber headNumber
  let snapshotByHash ← env.snapshotProvider
  let snap ← snapshotByHash (deps.hashSlow head)
  if snap.validatorsMap.entries.isEmpty then none
  else if governingSetsDiffer headNumber vote.data.targetNumber snap.epochNum
      snap.minerHistoryCheckLen then none
  else some (hasVoteAddr snap vote.voteAddress)

/-- The window `(head - 256, head + 11]`; everything while the head is unknown. -/
def isWithinAdmissionWindow (targetNumber : ℕ) : Bool :=
  match env.bestCanonicalBlockNumber with
  | none => true
  | some head =>
    !decide (saturatingAdd targetNumber (VotePool.lowerLimitOfVoteBlockNumber - 1) < head) &&
      decide (targetNumber ≤ saturatingAdd head VotePool.upperLimitOfVoteBlockNumber)

end PoolEnv

def verifyVoteEnvelope (deps : VoteDeps) (vote : VoteEnvelope) : Bool :=
  match deps.publicKeyFromBytes vote.voteAddress, deps.signatureFromBytes vote.signature with
  | some pk, some sig => deps.verify sig (deps.voteDataHash vote.data) pk
  | _, _ => false

/-! ### The pool -/

structure VoteEntry where
  hash : B256
  envelope : VoteEnvelope
  authenticated : Bool
  deriving DecidableEq

structure VoteMessages where
  voteMessages : List VoteEntry
  /-- How many of the messages were authenticated. -/
  authenticated : ℕ
  deriving DecidableEq

structure PromotionCandidate where
  targetNumber : ℕ
  targetHash : B256
  /-- A prefix of the bucket if the pass runs out of budget. -/
  votes : List VoteEntry
  expired : Bool

structure PromotionOutcome where
  promoted : Bool
  requeue : Bool

/-- Verdicts by target hash and vote hash. -/
abbrev Resolved := OrdMap B256 (OrdMap B256 Bool)

variable (buckets : OrdMap B256 VoteMessages)

def extendBucket (hash : B256) (entries : List VoteEntry) : OrdMap B256 VoteMessages :=
  let bucket := (buckets.get hash).getD ⟨[], 0⟩
  buckets.insert hash ⟨bucket.voteMessages ++ entries,
    bucket.authenticated + entries.countP (·.authenticated)⟩

/-- The messages of a bucket; none if there is no bucket. -/
def messagesOf (hash : B256) : List VoteEntry :=
  ((buckets.get hash).map VoteMessages.voteMessages).getD []

lemma messagesOf_extendBucket (hash : B256)
    (entries : List VoteEntry) : messagesOf (extendBucket buckets hash entries) =
      update (messagesOf buckets) hash (messagesOf buckets hash ++ entries) := by
  funext h
  by_cases hh : h = hash
  · subst hh
    cases hb : buckets.get h <;> simp [messagesOf, extendBucket, hb]
  · rw [update_of_ne hh, messagesOf, extendBucket,
      OrdMap.get_insert_of_ne _ _ (Ne.symm hh), messagesOf]

lemma messagesOf_remove (hash : B256) :
    messagesOf (buckets.remove hash) = update (messagesOf buckets) hash [] := by
  funext h
  by_cases hh : h = hash
  · subst hh
    simp [messagesOf, OrdMap.get_remove]
  · rw [update_of_ne hh, messagesOf, OrdMap.get_remove_of_ne _ (Ne.symm hh), messagesOf]

def contents : List VoteEntry := buckets.values.flatMap VoteMessages.voteMessages

abbrev VoteHeap : Type 1 := MinHeap VoteData VoteData.targetNumber

structure VotePool (heap : VoteHeap) where
  receivedVotes : Finset B256
  curVotes : OrdMap B256 VoteMessages
  curVotesPq : heap.Carrier
  futureVotes : OrdMap B256 VoteMessages
  futureVotesPq : heap.Carrier
  totalVotes : ℕ

namespace VotePool

variable {heap : VoteHeap} (deps : VoteDeps) (env : PoolEnv)
  (pool : VotePool heap)

def new : VotePool heap where
  receivedVotes := ∅
  curVotes := OrdMap.empty
  curVotesPq := heap.empty
  futureVotes := OrdMap.empty
  futureVotesPq := heap.empty
  totalVotes := 0

variable (blockHash : B256)

def lenForBlock : ℕ := (messagesOf pool.curVotes blockHash).length

def fetchVoteByBlockHash : List VoteEnvelope :=
  (messagesOf pool.curVotes blockHash).map VoteEntry.envelope

def fetchVoteByBlockHashAndSourceNumber (sourceNumber : ℕ) : List VoteEnvelope :=
  (pool.fetchVoteByBlockHash blockHash).filter fun vote =>
    decide (vote.data.sourceNumber = sourceNumber)

def isAtCapacity (isFuture authenticated : Bool) : Bool :=
  if isFuture then
    authenticated && ((pool.futureVotes.get blockHash).map fun vm =>
      decide (maxFutureVoteAmountPerBlock ≤ vm.authenticated)).getD false
  else ((pool.curVotes.get blockHash).map fun vm =>
    decide (maxCurVoteAmountPerBlock ≤ vm.voteMessages.length)).getD false

/-- Inserts a vote that is not pooled yet and returns the number of current votes for its
target, zero for future votes. A hash that has no bucket gets a queue entry. -/
def insert (vote : VoteEnvelope) (isFuture authenticated : Bool) : VotePool heap × ℕ :=
  let voteHash := deps.envelopeHash vote
  if voteHash ∈ pool.receivedVotes then (pool, 0)
  else
    let blockHash := vote.data.targetHash
    let entry : VoteEntry := ⟨voteHash, vote, authenticated⟩
    if isFuture then
      ({ pool with
          receivedVotes := Insert.insert voteHash pool.receivedVotes
          futureVotesPq := if pool.futureVotes.contains blockHash then pool.futureVotesPq
            else heap.push vote.data pool.futureVotesPq
          futureVotes := extendBucket pool.futureVotes blockHash [entry]
          totalVotes := pool.totalVotes + 1 }, 0)
    else
      let pool' : VotePool heap :=
        { pool with
          receivedVotes := Insert.insert voteHash pool.receivedVotes
          curVotesPq := if pool.curVotes.contains blockHash then pool.curVotesPq
            else heap.push vote.data pool.curVotesPq
          curVotes := extendBucket pool.curVotes blockHash [entry]
          totalVotes := pool.totalVotes + 1 }
      (pool', pool'.lenForBlock blockHash)

/-- Empties the pool and returns the current votes. -/
def drain : VotePool heap × List VoteEnvelope :=
  (new, (contents pool.curVotes).map VoteEntry.envelope)

lemma insert_spec {vote : VoteEnvelope} (hnew : deps.envelopeHash vote ∉ pool.receivedVotes)
    (isFuture authenticated : Bool) :
    (pool.insert deps vote isFuture authenticated).1.receivedVotes =
        Insert.insert (deps.envelopeHash vote) pool.receivedVotes ∧
      messagesOf (pool.insert deps vote isFuture authenticated).1.futureVotes =
        (if isFuture then update (messagesOf pool.futureVotes) vote.data.targetHash
          (messagesOf pool.futureVotes vote.data.targetHash ++
            [⟨deps.envelopeHash vote, vote, authenticated⟩])
        else messagesOf pool.futureVotes) ∧
      messagesOf (pool.insert deps vote isFuture authenticated).1.curVotes =
        (if isFuture then messagesOf pool.curVotes
        else update (messagesOf pool.curVotes) vote.data.targetHash
          (messagesOf pool.curVotes vote.data.targetHash ++
            [⟨deps.envelopeHash vote, vote, authenticated⟩])) := by
  unfold insert
  simp only [hnew, if_false]
  cases isFuture with
  | true => exact ⟨rfl, messagesOf_extendBucket _ _ _, rfl⟩
  | false => exact ⟨rfl, rfl, messagesOf_extendBucket _ _ _⟩

lemma insert_of_mem {vote : VoteEnvelope} (hdup : deps.envelopeHash vote ∈ pool.receivedVotes)
    (isFuture authenticated : Bool) :
    pool.insert deps vote isFuture authenticated = (pool, 0) := by
  simp [insert, hdup]

/-! ### Promotion -/

variable (latest : ℕ)

/-- The smallest queue keys whose height the head has reached. -/
def promotionKeys : List (ℕ ×ₗ B256) :=
  selectSmallest maxPromotionTargetsPerPass
    (((heap.toList pool.futureVotesPq).filter fun vd => decide (vd.targetNumber ≤ latest)).map
      fun vd => toLex (vd.targetNumber, vd.targetHash))

/-- The candidates of a list of keys, as long as the budget of votes lasts. -/
def candidatesFrom : ℕ → List (ℕ ×ₗ B256) → List PromotionCandidate
  | _, [] => []
  | voteBudget, key :: keys =>
    if voteBudget = 0 then []
    else
      let targetNumber := (ofLex key).1
      let targetHash := (ofLex key).2
      let votes := (messagesOf pool.futureVotes targetHash).take voteBudget
      { targetNumber := targetNumber
        targetHash := targetHash
        votes := votes
        expired := decide (saturatingAdd targetNumber upperLimitOfVoteBlockNumber < latest) } ::
        candidatesFrom (voteBudget - votes.length) keys

def promotionCandidates : List PromotionCandidate :=
  pool.candidatesFrom latest maxPromotionVotesPerPass (pool.promotionKeys latest)

def verdictsOf (votes : List VoteEntry) : OrdMap B256 Bool :=
  OrdMap.ofList (votes.map fun e =>
    (e.hash, decide (env.verifyVoteOrigin deps.toDeps e.envelope = .ok)))

/-- Whether a candidate is judged now: its block is held, or it has expired. -/
def isServed (c : PromotionCandidate) : Bool :=
  c.expired || (env.canonicalHeaderByHash c.targetHash).isSome

def resolve (candidates : List PromotionCandidate) : Resolved :=
  OrdMap.ofList ((candidates.filter (isServed env)).map fun c =>
    (c.targetHash, verdictsOf deps env c.votes))

/-- Moves the votes with a good verdict to the current ones and drops those with a bad one.
Votes without a verdict stay. -/
def promoteJudged (verdicts : OrdMap B256 Bool) : VotePool heap × PromotionOutcome :=
  match pool.futureVotes.get blockHash with
  | none => (pool, ⟨false, false⟩)
  | some bucket =>
    let valid := bucket.voteMessages.filter fun e => decide (verdicts.get e.hash = some true)
    let rejected := bucket.voteMessages.filter fun e => decide (verdicts.get e.hash = some false)
    let unjudged := bucket.voteMessages.filter fun e => decide (verdicts.get e.hash = none)
    let future := pool.futureVotes.remove blockHash
    let pool' : VotePool heap :=
      { pool with
        receivedVotes := pool.receivedVotes \ (rejected.map VoteEntry.hash).toFinset
        futureVotes := if unjudged.isEmpty then future else extendBucket future blockHash unjudged
        totalVotes := pool.totalVotes - rejected.length }
    match valid with
    | [] => (pool', ⟨false, !unjudged.isEmpty⟩)
    | first :: _ =>
      ({ pool' with
          curVotesPq := if pool.curVotes.contains blockHash then pool.curVotesPq
            else heap.push first.envelope.data pool.curVotesPq
          curVotes := extendBucket pool.curVotes blockHash valid }, ⟨true, !unjudged.isEmpty⟩)

lemma promoteJudged_spec (verdicts : OrdMap B256 Bool) :
    messagesOf (pool.promoteJudged blockHash verdicts).1.futureVotes =
        update (messagesOf pool.futureVotes) blockHash
          ((messagesOf pool.futureVotes blockHash).filter fun e =>
            decide (verdicts.get e.hash = none)) ∧
      messagesOf (pool.promoteJudged blockHash verdicts).1.curVotes =
        update (messagesOf pool.curVotes) blockHash
          (messagesOf pool.curVotes blockHash ++ (messagesOf pool.futureVotes blockHash).filter
            fun e => decide (verdicts.get e.hash = some true)) ∧
      (pool.promoteJudged blockHash verdicts).1.receivedVotes = pool.receivedVotes \
        (((messagesOf pool.futureVotes blockHash).filter fun e =>
          decide (verdicts.get e.hash = some false)).map VoteEntry.hash).toFinset := by
  unfold promoteJudged
  split
  · next hnone =>
    have hmsg : messagesOf pool.futureVotes blockHash = [] := by simp [messagesOf, hnone]
    have hself : messagesOf pool.curVotes blockHash ++ [] = messagesOf pool.curVotes blockHash :=
      List.append_nil _
    simp only [hmsg, List.filter_nil, hself, update_eq_self, List.map_nil,
      List.toFinset_nil, Finset.sdiff_empty, and_true]
    rw [← hmsg, update_eq_self]
  · next bucket hsome =>
    have hmsg : messagesOf pool.futureVotes blockHash = bucket.voteMessages := by
      simp [messagesOf, hsome]
    rw [hmsg]
    have hfuture : ∀ unjudged : List VoteEntry,
        messagesOf (if unjudged.isEmpty then pool.futureVotes.remove blockHash
          else extendBucket (pool.futureVotes.remove blockHash) blockHash unjudged) =
        update (messagesOf pool.futureVotes) blockHash unjudged := by
      intro unjudged
      cases unjudged with
      | nil => simp [messagesOf_remove]
      | cons e l => simp [messagesOf_extendBucket, messagesOf_remove]
    simp only
    split
    · next hvalid =>
      refine ⟨hfuture _, ?_, rfl⟩
      rw [hvalid, List.append_nil, update_eq_self]
    · next first others hvalid =>
      exact ⟨hfuture _, messagesOf_extendBucket _ _ _, rfl⟩

structure PromotionState (heap : VoteHeap) where
  pool : VotePool heap
  promoted : List B256
  deferred : List VoteData
  examined : ℕ

/-- What a pass does with one queue entry. -/
def promotionStep (resolved : Resolved) (st : PromotionState heap) (vd : VoteData) :
    PromotionState heap :=
  match resolved.get vd.targetHash with
  | some verdicts =>
    let (pool, outcome) := st.pool.promoteJudged vd.targetHash verdicts
    { pool := pool
      promoted := if outcome.promoted then st.promoted ++ [vd.targetHash] else st.promoted
      deferred := if outcome.requeue then st.deferred ++ [vd] else st.deferred
      examined := st.examined + 1 }
  | none =>
    -- the entry of a bucket that is gone is dropped
    { st with
      deferred := if st.pool.futureVotes.contains vd.targetHash then st.deferred ++ [vd]
        else st.deferred
      examined := st.examined + 1 }

/-- Returns the promoted targets and the number of queue entries examined. -/
def applyPromotion (resolved : Resolved) : VotePool heap × List B256 × ℕ :=
  let (pq, st) := heap.popWhile (fun vd => decide (vd.targetNumber ≤ latest))
    (promotionStep resolved) maxPromotionTargetsPerPass pool.futureVotesPq ⟨pool, [], [], 0⟩
  ({ st.pool with futureVotesPq := heap.pushAll st.deferred pq }, st.promoted, st.examined)

lemma targetNumber_le_down (a b : VoteData) (hab : a.targetNumber ≤ b.targetNumber)
    (hb : decide (b.targetNumber ≤ latest)) : decide (a.targetNumber ≤ latest) := by
  rw [decide_eq_true_eq] at hb ⊢
  exact hab.trans hb

def promoteFutureVotes (headNumber : ℕ) : VotePool heap :=
  let candidates := pool.promotionCandidates headNumber
  if candidates.isEmpty then pool
  else
    let resolved := resolve deps env candidates
    if resolved.entries.isEmpty then pool else (pool.applyPromotion headNumber resolved).1

/-! ### Pruning and shedding -/

def dropCur (pool : VotePool heap) (vd : VoteData) : VotePool heap :=
  let messages := messagesOf pool.curVotes vd.targetHash
  { pool with
    receivedVotes := pool.receivedVotes \ (messages.map VoteEntry.hash).toFinset
    curVotes := pool.curVotes.remove vd.targetHash
    totalVotes := pool.totalVotes - messages.length }

def dropFuture (pool : VotePool heap) (vd : VoteData) : VotePool heap :=
  let messages := messagesOf pool.futureVotes vd.targetHash
  { pool with
    receivedVotes := pool.receivedVotes \ (messages.map VoteEntry.hash).toFinset
    futureVotes := pool.futureVotes.remove vd.targetHash
    totalVotes := pool.totalVotes - messages.length }

def isStale (vd : VoteData) : Bool :=
  decide (saturatingAdd vd.targetNumber lowerLimitOfVoteBlockNumber ≤ latest)

lemma isStale_mono (a b : VoteData) (hab : a.targetNumber ≤ b.targetNumber)
    (hb : isStale latest b) : isStale latest a := by
  simp only [isStale, decide_eq_true_eq] at hb ⊢
  unfold saturatingAdd at *
  omega

/-- Removes the votes whose target lies more than 255 blocks below the head. The queues
bound the number of rounds. -/
def prune : VotePool heap :=
  let (curPq, pool) := heap.popWhile (isStale latest) dropCur
    (heap.toList pool.curVotesPq).length pool.curVotesPq pool
  let (futurePq, pool) := heap.popWhile (isStale latest) dropFuture
    (heap.toList pool.futureVotesPq).length pool.futureVotesPq pool
  { pool with curVotesPq := curPq, futureVotesPq := futurePq }

/-- Drops future buckets in the given order until enough votes are released. -/
def shedLoop (target : ℕ) : List VoteData → ℕ → VotePool heap → VotePool heap × ℕ
  | [], shed, pool => (pool, shed)
  | vd :: order, shed, pool =>
    if target ≤ shed then (pool, shed)
    else shedLoop target order (shed + (messagesOf pool.futureVotes vd.targetHash).length)
      (pool.dropFuture vd)

/-- Drops future votes, furthest target first, and queues what is left anew. -/
def shedFutureVotes (target : ℕ) : VotePool heap × ℕ :=
  let order := (heap.toList pool.futureVotesPq).insertionSort
    fun a b => b.targetNumber ≤ a.targetNumber
  let (pool, shed) := shedLoop target order 0 pool
  let surviving := pool.futureVotes.values.filterMap fun vm =>
    vm.voteMessages.head?.map fun e => e.envelope.data
  ({ pool with futureVotesPq := heap.pushAll surviving heap.empty }, shed)

def overflowShedTarget (poolLen : ℕ) : Option ℕ :=
  if poolLen ≤ maxVotesInPool then none else some (poolLen - (maxVotesInPool - shedHeadroom))

end VotePool

/-! ### Putting votes -/

/-- A vote that has been let in and waits to be written. -/
structure Pending where
  vote : VoteEnvelope
  isFuture : Bool
  authenticated : Bool
  pendingBlockNumber : ℕ

structure PoolNode (heap : VoteHeap) where
  pool : VotePool heap
  lastPrunedBlock : ℕ
  rejectedVotes : LruMap B256 Unit

namespace PoolNode

variable {heap : VoteHeap} (deps : VoteDeps) (env : PoolEnv)
  (node : PoolNode heap)

def new : PoolNode heap := ⟨VotePool.new, 0, ⟨VotePool.rejectedVoteCacheSize, []⟩⟩

/-- Classifies a signed vote and checks what can be checked; the flag says whether the vote
is remembered as rejected. -/
def classify (vote : VoteEnvelope) : Option Pending × Bool :=
  let pendingBlockNumber := env.bestCanonicalBlockNumber.getD 0
  if env.headerByHash.isNone || (env.canonicalHeaderByHash vote.data.targetHash).isNone then
    match env.futureVoteSenderIsValidator deps.toDeps vote with
    | some false => (none, false)
    | some true => (some ⟨vote, true, true, pendingBlockNumber⟩, false)
    | none => (some ⟨vote, true, false, pendingBlockNumber⟩, false)
  else match env.verifyVoteOrigin deps.toDeps vote with
    | .ok => (some ⟨vote, false, false, pendingBlockNumber⟩, false)
    | .rejected => (none, true)
    | .unverifiable => (none, false)

/-- Everything `put_vote` does before it takes the write lock, promotion apart. -/
def admitVote (vote : VoteEnvelope) : Option Pending × LruMap B256 Unit :=
  let voteHash := deps.envelopeHash vote
  if !env.isWithinAdmissionWindow vote.data.targetNumber then (none, node.rejectedVotes)
  else if voteHash ∈ node.pool.receivedVotes then (none, node.rejectedVotes)
  else if node.rejectedVotes.entries.any fun e => decide (e.1 = voteHash) then
    (none, node.rejectedVotes)
  else if !verifyVoteEnvelope deps vote then (none, node.rejectedVotes.insert voteHash ())
  else
    let (pending, remember) := classify deps env vote
    (pending, if remember then node.rejectedVotes.insert voteHash () else node.rejectedVotes)

/-- The pool once an oversized one has been pruned and, if that is not enough, shed. -/
def relieve (pendingBlockNumber : ℕ) (pool : VotePool heap) : VotePool heap :=
  if VotePool.maxVotesInPool < pool.totalVotes then
    let pool := pool.prune pendingBlockNumber
    match VotePool.overflowShedTarget pool.totalVotes with
    | some toShed => (pool.shedFutureVotes toShed).1
    | none => pool
  else pool

/-- What `put_vote` does under the write lock. -/
def write (needHeadWork : Bool) (p : Pending) : PoolNode heap :=
  if node.pool.isAtCapacity p.vote.data.targetHash p.isFuture p.authenticated then node
  else
    let pool := (node.pool.insert deps p.vote p.isFuture p.authenticated).1
    let pool := if needHeadWork then pool.prune p.pendingBlockNumber else pool
    { node with
      pool := relieve p.pendingBlockNumber pool
      lastPrunedBlock := if needHeadWork then max node.lastPrunedBlock p.pendingBlockNumber
        else node.lastPrunedBlock }

def putVote (vote : VoteEnvelope) : PoolNode heap :=
  let (pending, rejectedVotes) := admitVote deps env node vote
  let node := { node with rejectedVotes := rejectedVotes }
  match pending with
  | none => node
  | some p =>
    let needHeadWork := decide (node.lastPrunedBlock < p.pendingBlockNumber)
    let node := if needHeadWork
      then { node with pool := node.pool.promoteFutureVotes deps env p.pendingBlockNumber }
      else node
    write deps node needHeadWork p

end PoolNode

/-- What makes votes current: a vote put, or the import of a block. -/
inductive VoteEvent
  | putVote (vote : VoteEnvelope)
  | promoteFutureVotes (headNumber : ℕ)
  deriving DecidableEq

end RethBsc
