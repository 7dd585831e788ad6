import RethBsc.VotePoolSafety

/-!
Room for the validators' votes.

A bucket of current votes is full at 21 votes. Its votes come from different validators of
the parent's snapshot, so a set of at most 21 validators never fills the bucket before its
last vote, however the votes come in and whatever else does. A larger set does.
-/

namespace RethBsc

open List

/-- A block the view holds, with its snapshot and its parent's, which keeps a vote address for each
of its validators. -/
structure HeldBlock (deps : Deps) (view : ChainView) where
  header : Header
  snap : Snapshot
  parentSnap : Snapshot
  header_eq : view.header (deps.hashSlow header) = some header
  snap_eq : view.snapshot (deps.hashSlow header) = some snap
  parentSnap_eq : view.snapshot header.parentHash = some parentSnap
  keeps_all : parentSnap.validatorsMap.values.length = parentSnap.validators.length

namespace HeldBlock

variable {deps : Deps} {view : ChainView} (b : HeldBlock deps view)

def hash : B256 := deps.hashSlow b.header

def voters : List VoteAddress := b.parentSnap.validatorsMap.values.map ValidatorInfo.voteAddr

variable {b}

lemma of_originOk {vote : VoteEnvelope} (horigin : view.OriginOk vote)
    (htarget : vote.data.targetHash = b.hash) :
    vote.data.targetNumber = b.header.number ∧ vote.voteAddress ∈ b.voters ∧
      Parlia.justifiedPairOf b.snap.voteData view.genesis =
        some (vote.data.sourceNumber, vote.data.sourceHash) := by
  obtain ⟨header, snap, parentSnap, hh, hs, hp, hnumber, hpair, hmem⟩ := horigin
  rw [htarget, hash, b.header_eq, Option.some.injEq] at hh
  subst hh
  rw [htarget, hash, b.snap_eq, Option.some.injEq] at hs
  rw [b.parentSnap_eq, Option.some.injEq] at hp
  subst hs hp
  refine ⟨hnumber.symm, ?_, hpair⟩
  obtain ⟨info, hinfo, heq⟩ := any_eq_true.mp hmem
  exact mem_map.mpr ⟨info, hinfo, of_decide_eq_true heq⟩

end HeldBlock

namespace VotePool

variable {heap : VoteHeap} {deps : VoteDeps}
  {U : EnvelopeUniverse deps} {view : ChainView} {pool : VotePool heap}

lemma isAtCapacity_cur (pool : VotePool heap) (hash : B256) (authenticated : Bool) :
    pool.isAtCapacity hash false authenticated =
      decide (maxCurVoteAmountPerBlock ≤ pool.lenForBlock hash) := by
  rw [isAtCapacity, if_neg Bool.false_ne_true, lenForBlock, messagesOf]
  cases pool.curVotes.get hash <;> rfl

def senders (pool : VotePool heap) (hash : B256) : List VoteAddress :=
  (pool.fetchVoteByBlockHash hash).map VoteEnvelope.voteAddress

lemma length_senders (pool : VotePool heap) (hash : B256) :
    (pool.senders hash).length = pool.lenForBlock hash := by
  simp [senders, fetchVoteByBlockHash, lenForBlock]

lemma Ok.senders_subset (hok : pool.Ok deps U view) (b : HeldBlock deps.toDeps view) :
    pool.senders b.hash ⊆ b.voters := by
  intro a ha
  obtain ⟨v, hv, rfl⟩ := mem_map.mp ha
  obtain ⟨hhash, horigin, -⟩ := hok.mem_fetch hv
  exact (HeldBlock.of_originOk horigin hhash).2.1

lemma Ok.counted (hok : pool.Ok deps U view) (b : HeldBlock deps.toDeps view) {source : ℕ × B256}
    (hsource : Parlia.justifiedPairOf b.snap.voteData view.genesis = some source) :
    ∀ v ∈ pool.fetchVoteByBlockHash b.hash,
      v.data.sourceNumber = source.1 ∧ v.data.targetNumber = b.header.number := by
  intro v hv
  obtain ⟨hhash, horigin, -⟩ := hok.mem_fetch hv
  obtain ⟨hnumber, -, hpair⟩ := HeldBlock.of_originOk horigin hhash
  rw [hsource, Option.some.injEq] at hpair
  exact ⟨by rw [hpair], hnumber⟩

/-- **Room for at most 21 validators.** In every pool that puts and promotions lead to, a
block's bucket has room for the vote of a validator that has none in it, and once every
validator has one the votes are enough for the attestation. They are enough for the notice, which
is counted by the block's own validators, unless the block puts a set in force that is larger by
more than half. -/
theorem room_for_validators (h : Reachable deps U view pool) (hunique : UniqueSignatures deps)
    (b : HeldBlock deps.toDeps view) (hdistinct : b.voters.Nodup)
    (hfew : b.voters.length ≤ maxCurVoteAmountPerBlock) :
    (∀ vote authenticated, view.OriginOk vote → vote.data.targetHash = b.hash →
      vote.voteAddress ∉ pool.senders b.hash →
        pool.isAtCapacity b.hash false authenticated = false) ∧
    (b.voters ⊆ pool.senders b.hash → (pool.senders b.hash).Perm b.voters ∧
      ∀ source, Parlia.justifiedPairOf b.snap.voteData view.genesis = some source →
        Parlia.atLeastVotes b.parentSnap.validators.length ≤
          (pool.fetchVoteByBlockHashAndSourceNumber b.hash source.1).length ∧
        (Parlia.atLeastVotes b.snap.validators.length ≤
            Parlia.eligibleVotes deps.toDeps pool.fetchVoteByBlockHash source.1 b.header ↔
          2 * b.snap.validators.length ≤ 3 * b.parentSnap.validators.length)) := by
  have hnodup : (pool.senders b.hash).Nodup := h.ok.nodup_voteAddress hunique b.hash
  have hsub := h.ok.senders_subset b
  refine ⟨fun vote authenticated horigin htarget hmissing => ?_, fun hall => ?_⟩
  · -- with the missing sender the bucket's senders are still different validators
    have hcons : vote.voteAddress :: pool.senders b.hash ⊆ b.voters :=
      cons_subset.mpr ⟨(HeldBlock.of_originOk horigin htarget).2.1, hsub⟩
    have hlen := ((nodup_cons.mpr ⟨hmissing, hnodup⟩).subperm hcons).length_le
    rw [length_cons, length_senders] at hlen
    rw [isAtCapacity_cur, decide_eq_false_iff_not]
    omega
  · have hperm := (hnodup.subperm hsub).antisymm (hdistinct.subperm hall)
    have hlen : (pool.fetchVoteByBlockHash b.hash).length = b.voters.length := by
      rw [← hperm.length_eq, senders, length_map]
    have hvoters : b.voters.length = b.parentSnap.validators.length :=
      (length_map _).trans b.keeps_all
    refine ⟨hperm, fun source hsource => ?_⟩
    have hcounted := h.ok.counted b hsource
    have heligible : Parlia.eligibleVotes deps.toDeps pool.fetchVoteByBlockHash source.1 b.header =
        b.voters.length :=
      (countP_eq_length.mpr fun v hv => by simp [hcounted v hv]).trans hlen
    have hfetched : pool.fetchVoteByBlockHashAndSourceNumber b.hash source.1 =
        pool.fetchVoteByBlockHash b.hash :=
      filter_eq_self.mpr fun v hv => by simp [hcounted v hv]
    rw [heligible, hfetched, hlen, hvoters]
    unfold Parlia.atLeastVotes
    omega

/-- Block 3 of the chain with two validators. -/
def twoHeld : HeldBlock switchDeps.toDeps (switchView 2 2) where
  header := (soloChain ⟨0, Nat.zero_lt_two⟩).header 3
  snap := (switchSnapshots 2 2
    (switchDeps.hashSlow ((soloChain ⟨0, Nat.zero_lt_two⟩).header 3))).getD default
  parentSnap :=
    (switchSnapshots 2 2 ((soloChain ⟨0, Nat.zero_lt_two⟩).header 3).parentHash).getD default
  header_eq := by decide +kernel
  snap_eq := by decide +kernel
  parentSnap_eq := by decide +kernel
  keeps_all := by decide +kernel

/-- Their votes fill the block's bucket. -/
theorem room_for_validators_two : ((twoVotes 2 2).pool.senders twoHeld.hash).Perm twoHeld.voters :=
  ((room_for_validators (twoVotes_reachable 2 2) switchDeps_unique twoHeld (by decide +kernel)
    (by decide +kernel)).2 (by decide +kernel)).1

/-! A crowd of validators. -/

/-- Votes are told apart by their senders. -/
def crowdDeps : VoteDeps :=
  { floodDeps with envelopeHash := fun vote => BitVec.ofNat 256 vote.voteAddress.toNat }

def crowdSnapshot (n : ℕ) (hash : B256) : Option Snapshot :=
  Snapshot.new ((List.range n).map fun i => Fin.ofNat _ (i + 1)) 0 hash 200
    (some ((List.range n).map fun i => BitVec.ofNat _ (i + 1)))

def crowdHeader : Header := sampleHeader 1 0 0 1 []

/-- Block 1 with some validators. -/
def crowdEnv (n : ℕ) : PoolEnv where
  bestCanonicalBlockNumber := some 1
  headerByHash := some fun hash =>
    if hash = crowdDeps.hashSlow crowdHeader then some crowdHeader else none
  headerByNumber := fun n => if n = 0 then some (sampleHeader 0 0 0 0 []) else none
  snapshotProvider := some (crowdSnapshot n)

def crowdVote (i : ℕ) : VoteEnvelope :=
  ⟨BitVec.ofNat _ (i + 1), 0, ⟨0, 1, 1, crowdDeps.hashSlow crowdHeader⟩⟩

/-- The pool once the first of the validators have voted. -/
def crowdPool (n votes : ℕ) : VotePool (MinHeap.sortedList VoteData.targetNumber) :=
  ((List.range votes).foldl (fun node i => node.putVote crowdDeps (crowdEnv n) (crowdVote i))
    PoolNode.new).pool

/-- The vote of the 22nd of 32 validators is in order but refused, and the 21 votes before it
are no quorum: it is never reached. -/
theorem crowd_refused : (crowdEnv 32).verifyVoteOrigin crowdDeps.toDeps (crowdVote 21) = .ok ∧
      (crowdVote 21).voteAddress ∉ (crowdPool 32 21).senders (crowdVote 21).data.targetHash ∧
      (crowdPool 32 21).isAtCapacity (crowdVote 21).data.targetHash false false = true ∧
      (crowdPool 32 32).lenForBlock (crowdVote 21).data.targetHash < Parlia.atLeastVotes 32 := by
  decide +kernel

end VotePool

end RethBsc
