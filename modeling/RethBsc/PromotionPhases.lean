import RethBsc.BinaryHeap
import RethBsc.VotePoolInvariant

/-!
The two phases of a promotion pass.

The read phase selects the lowest queue keys, a height and a hash, and the verdicts are taken
for these. The write phase pops as many entries off the queue, which knows heights only. The
two select the same heights, but among the entries of the last height they may differ.
-/

namespace RethBsc

/-- The queue of the pool: a binary heap by target height. -/
def votesPriorityQueue : VoteHeap := BinaryHeap.minHeap VoteData.targetNumber

deriving instance DecidableEq for PromotionCandidate

namespace VotePool

variable {heap : VoteHeap} {deps : VoteDeps} {env : PoolEnv}
  {pool : VotePool heap} {resolved : Resolved} {head : ℕ}

lemma exists_eligible {c : PromotionCandidate} (hc : c ∈ pool.promotionCandidates head) :
    ∃ vd ∈ pool.eligible head, vd.targetNumber = c.targetNumber ∧ vd.targetHash = c.targetHash := by
  have hkey := (selectSmallest_isLowest _ _).2.subset (votes_of_mem_candidatesFrom hc).1
  obtain ⟨vd, hvd, heq⟩ := List.mem_map.mp hkey
  obtain ⟨hnumber, hhash⟩ := Prod.mk.inj (toLex.injective heq)
  exact ⟨vd, hvd, hnumber, hhash⟩

/-- The first vote of a candidate's bucket is judged if the candidate is. -/
lemma judged_first {c : PromotionCandidate} {verdicts : OrdMap B256 Bool}
    (hverdicts : (resolve deps env (pool.promotionCandidates head)).get c.targetHash =
      some verdicts) {e : VoteEntry} {rest : List VoteEntry}
    (hbucket : messagesOf pool.futureVotes c.targetHash = e :: rest) :
    verdicts.get e.hash ≠ none := by
  obtain ⟨c', hc', heq⟩ := List.mem_map.mp (OrdMap.mem_of_get_ofList hverdicts)
  obtain ⟨hhash, rfl⟩ := Prod.mk.inj heq
  obtain ⟨-, n, hn, htake, -⟩ := votes_of_mem_candidatesFrom (List.mem_of_mem_filter hc')
  obtain ⟨n, rfl⟩ := Nat.exists_eq_succ_of_ne_zero hn.ne'
  refine get_verdictsOf_ne_none ?_
  rw [htake, hhash, hbucket, List.take_succ_cons]
  exact List.mem_cons_self

def levelVote (hash : B256) : VoteEnvelope := ⟨7, 0, ⟨0, 1, floodHeight, hash⟩⟩

def levelEntry (hash : B256) : VoteEntry :=
  ⟨floodDeps.envelopeHash (levelVote hash), levelVote hash, false⟩

/-- One vote each for some unknown blocks of one height, put in the order of their hashes. -/
def levelPool (targets : ℕ) : VotePool votesPriorityQueue :=
  run floodDeps ((List.range targets).map fun i =>
    .insert (levelVote (BitVec.ofNat 256 (i + 1))) true false)

/-- The block with hash 4 has arrived, and the sender of the votes is its validator. -/
def levelEnv : PoolEnv where
  bestCanonicalBlockNumber := some floodHeight
  headerByHash := some fun hash =>
    if hash = 4 then some (sampleHeader floodHeight 0 0 0 []) else none
  headerByNumber := fun n => if n = 0 then some (sampleHeader 0 0 0 0 []) else none
  snapshotProvider := some fun hash => Snapshot.new [1] 0 hash 200 (some [7])

def levelCandidate : PromotionCandidate := ⟨floodHeight, 4, [levelEntry 4], false⟩

end VotePool

end RethBsc
