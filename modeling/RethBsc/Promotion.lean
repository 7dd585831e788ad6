import Mathlib.Algebra.Order.BigOperators.Group.List
import Mathlib.Algebra.Order.Group.Nat
import Mathlib.Data.Finset.Max
import RethBsc.VotePool

/-!
What repeated promotion passes do to the future votes.

A pass pops the lowest queue entries the head has reached, judges the buckets of those whose
block is held or which have expired, and puts back the entries of buckets that still hold
votes. Buckets are found by hash, but whether the head has reached a bucket is read off its
queue entry, which keeps the height named by the first vote of the bucket.
-/

namespace RethBsc

open List VotePool VoteData Function

namespace VotePool

variable {heap : VoteHeap} {deps : VoteDeps} {env : PoolEnv}
  {pool : VotePool heap} {resolved : Resolved} {head : ℕ}

/-! ### One pass -/

section Judged

variable (resolved : Resolved) (hash : B256) (votes : List VoteEntry)

/-- The votes of a bucket that get no verdict. -/
def unjudged : List VoteEntry :=
  match resolved.get hash with
  | some verdicts => votes.filter fun e => decide (verdicts.get e.hash = none)
  | none => votes

lemma unjudged_sublist : (unjudged resolved hash votes).Sublist votes := by
  unfold unjudged
  split
  · exact filter_sublist
  · exact List.Sublist.refl _

@[simp] lemma unjudged_unjudged :
    unjudged resolved hash (unjudged resolved hash votes) = unjudged resolved hash votes := by
  unfold unjudged
  split <;> simp [filter_filter]

/-- The votes of a bucket that get a good verdict. -/
def accepted : List VoteEntry :=
  match resolved.get hash with
  | some verdicts => votes.filter fun e => decide (verdicts.get e.hash = some true)
  | none => []

lemma accepted_unjudged : accepted resolved hash (unjudged resolved hash votes) = [] := by
  cases hres : resolved.get hash with
  | none => simp only [accepted, hres]
  | some verdicts =>
    simp only [accepted, unjudged, hres, filter_eq_nil_iff, mem_filter, decide_eq_true_eq]
    rintro e ⟨-, hnone⟩ hsome
    rw [hnone] at hsome
    cases hsome

end Judged

/-- Whether a queue entry that was popped is put back. -/
def isDeferred (resolved : Resolved) (pool : VotePool heap) (vd : VoteData) : Bool :=
  match resolved.get vd.targetHash with
  | some _ => !(unjudged resolved vd.targetHash (messagesOf pool.futureVotes vd.targetHash)).isEmpty
  | none => pool.futureVotes.contains vd.targetHash

lemma promoteJudged_requeue (hash : B256) (verdicts : OrdMap B256 Bool) :
    (pool.promoteJudged hash verdicts).2.requeue =
      !((messagesOf pool.futureVotes hash).filter fun e =>
        decide (verdicts.get e.hash = none)).isEmpty := by
  unfold promoteJudged
  split
  · next hnone => simp [messagesOf, hnone]
  · next bucket hsome =>
    simp only [messagesOf, hsome]
    split <;> rfl

variable {hash : B256} {e : VoteEntry}

lemma contains_promoteJudged {other : B256} (hne : other ≠ hash) (verdicts : OrdMap B256 Bool) :
    (pool.promoteJudged hash verdicts).1.futureVotes.contains other =
      pool.futureVotes.contains other := by
  have hfuture : ∀ votes : List VoteEntry,
      OrdMap.contains (if votes.isEmpty then pool.futureVotes.remove hash
        else extendBucket (pool.futureVotes.remove hash) hash votes) other =
      pool.futureVotes.contains other := by
    intro votes
    split_ifs
    · rw [OrdMap.contains, OrdMap.get_remove_of_ne _ hne.symm, OrdMap.contains]
    · rw [OrdMap.contains, extendBucket, OrdMap.get_insert_of_ne _ _ hne.symm,
        OrdMap.get_remove_of_ne _ hne.symm, OrdMap.contains]
  unfold promoteJudged
  split
  · rfl
  · simp only
    split <;> exact hfuture _

lemma messagesOf_promotionStep (st : PromotionState heap) (vd : VoteData) :
    messagesOf (promotionStep resolved st vd).pool.futureVotes =
        update (messagesOf st.pool.futureVotes) vd.targetHash
          (unjudged resolved vd.targetHash (messagesOf st.pool.futureVotes vd.targetHash)) ∧
      messagesOf (promotionStep resolved st vd).pool.curVotes =
        update (messagesOf st.pool.curVotes) vd.targetHash
          (messagesOf st.pool.curVotes vd.targetHash ++
            accepted resolved vd.targetHash (messagesOf st.pool.futureVotes vd.targetHash)) := by
  cases hres : resolved.get vd.targetHash with
  | some verdicts =>
    obtain ⟨hfuture, hcur, -⟩ := st.pool.promoteJudged_spec vd.targetHash verdicts
    simp only [promotionStep, unjudged, accepted, hres]
    exact ⟨hfuture, hcur⟩
  | none =>
    simp only [promotionStep, unjudged, accepted, hres, append_nil, update_eq_self, and_self]

lemma deferred_promotionStep (st : PromotionState heap) (vd : VoteData) :
    (promotionStep resolved st vd).deferred =
      st.deferred ++ [vd].filter (isDeferred resolved st.pool) := by
  cases hres : resolved.get vd.targetHash with
  | some verdicts =>
    have hkeep : isDeferred resolved st.pool vd =
        (st.pool.promoteJudged vd.targetHash verdicts).2.requeue := by
      simp [isDeferred, unjudged, hres, promoteJudged_requeue]
    simp only [promotionStep, hres, filter_cons, hkeep, filter_nil]
    split_ifs <;> simp
  | none =>
    simp only [promotionStep, hres, isDeferred, filter_cons, filter_nil]
    split_ifs <;> simp

lemma isDeferred_promotionStep (st : PromotionState heap) (vd : VoteData) :
    isDeferred resolved (promotionStep resolved st vd).pool = isDeferred resolved st.pool := by
  ext w
  unfold isDeferred
  split
  · rw [(messagesOf_promotionStep st vd).1]
    by_cases hw : w.targetHash = vd.targetHash
    · rw [hw, update_self, unjudged_unjudged]
    · rw [update_of_ne hw]
  · next hnone =>
    unfold promotionStep
    split
    · next verdicts hsome =>
      have hw : w.targetHash ≠ vd.targetHash := by
        rintro hw
        rw [hw, hsome] at hnone
        cases hnone
      exact contains_promoteJudged hw verdicts
    · rfl

lemma deferred_foldl (resolved : Resolved) (l : List VoteData) (st : PromotionState heap) :
    (l.foldl (promotionStep resolved) st).deferred =
      st.deferred ++ l.filter (isDeferred resolved st.pool) := by
  induction l generalizing st with
  | nil => simp
  | cons vd l ih =>
    rw [foldl_cons, ih, deferred_promotionStep, isDeferred_promotionStep, append_assoc,
      ← filter_append, singleton_append]

/-- The buckets of the entries taken are judged: the votes without a verdict stay, and the accepted
ones become current. -/
def Settles (resolved : Resolved) (taken : List VoteData) (pool pool' : VotePool heap) : Prop :=
  ∀ hash,
    messagesOf pool'.futureVotes hash = (if hash ∈ taken.map targetHash then
        unjudged resolved hash (messagesOf pool.futureVotes hash)
      else messagesOf pool.futureVotes hash) ∧
    messagesOf pool'.curVotes hash = if hash ∈ taken.map targetHash then
        messagesOf pool.curVotes hash ++ accepted resolved hash (messagesOf pool.futureVotes hash)
      else messagesOf pool.curVotes hash

lemma settles_foldl (resolved : Resolved) (l : List VoteData) (st : PromotionState heap) :
    Settles resolved l st.pool (l.foldl (promotionStep resolved) st).pool := by
  intro hash
  induction l generalizing st with
  | nil => simp
  | cons vd l ih =>
    obtain ⟨hfuture, hcur⟩ := @messagesOf_promotionStep _ resolved st vd
    rw [foldl_cons, (ih _).1, (ih _).2, hfuture, hcur]
    by_cases hvd : hash = vd.targetHash
    · subst hvd
      simp [accepted_unjudged]
    · simp [hvd]

/-- The entries the write phase takes off the queue, whatever the verdicts. -/
def popped (pool : VotePool heap) (head : ℕ) : List VoteData :=
  heap.pops (fun vd => decide (vd.targetNumber ≤ head)) maxPromotionTargetsPerPass
    pool.futureVotesPq

/-- **What a pass does.** Of the queue it takes some of the lowest entries the head has
reached and puts back those whose bucket still holds votes. The buckets of the entries it
took are left with the votes that got no verdict, and the accepted ones become current. -/
theorem applyPromotion_spec (pool : VotePool heap) (head : ℕ) (resolved : Resolved) :
    ∃ rest, (heap.toList pool.futureVotesPq).Perm (pool.popped head ++ rest) ∧
      IsLowest targetNumber maxPromotionTargetsPerPass
        ((heap.toList pool.futureVotesPq).filter fun vd => decide (vd.targetNumber ≤ head))
        (pool.popped head) ∧
      (heap.toList (pool.applyPromotion head resolved).1.futureVotesPq).Perm
        ((pool.popped head).filter (isDeferred resolved pool) ++ rest) ∧
      Settles resolved (pool.popped head) pool (pool.applyPromotion head resolved).1 := by
  obtain ⟨hperm, hfold, hlow⟩ :=
    heap.popWhile_spec (targetNumber_le_down head) (promotionStep resolved)
    maxPromotionTargetsPerPass pool.futureVotesPq ⟨pool, [], [], 0⟩
  refine ⟨_, hperm, hlow, ?_, ?_⟩
  · have hdeferred := deferred_foldl resolved (pool.popped head) ⟨pool, [], [], 0⟩
    rw [nil_append, popped, ← hfold] at hdeferred
    rw [popped, ← hdeferred]
    exact heap.toList_pushAll _ _
  · have hmessages := settles_foldl resolved (pool.popped head) ⟨pool, [], [], 0⟩
    rwa [popped, ← hfold] at hmessages

/-! ### What a pass resolves -/

def votesUnder (pool : VotePool heap) (keys : List (ℕ ×ₗ B256)) : ℕ :=
  (keys.map fun key => (messagesOf pool.futureVotes (ofLex key).2).length).sum

@[simp] lemma votesUnder_nil : pool.votesUnder [] = 0 := rfl

@[simp] lemma votesUnder_cons (key : ℕ ×ₗ B256) (keys : List (ℕ ×ₗ B256)) :
    pool.votesUnder (key :: keys) =
      (messagesOf pool.futureVotes (ofLex key).2).length + pool.votesUnder keys := by
  simp [votesUnder]

@[simp] lemma votesUnder_append (keys keys' : List (ℕ ×ₗ B256)) :
    pool.votesUnder (keys ++ keys') = pool.votesUnder keys + pool.votesUnder keys' := by
  simp [votesUnder]

variable {budget : ℕ} {keys before : List (ℕ ×ₗ B256)} {c : PromotionCandidate}
  {votes : List VoteEntry} {verdicts : OrdMap B256 Bool} {vd : VoteData}

lemma votes_of_mem_candidatesFrom (hc : c ∈ pool.candidatesFrom head budget keys) :
    toLex (c.targetNumber, c.targetHash) ∈ keys ∧
    ∃ n, 0 < n ∧ c.votes = (messagesOf pool.futureVotes c.targetHash).take n ∧
      (pool.votesUnder keys ≤ budget → (messagesOf pool.futureVotes c.targetHash).length ≤ n) := by
  induction keys generalizing budget with
  | nil => cases hc
  | cons key keys ih =>
    rw [candidatesFrom] at hc
    split_ifs at hc with hzero
    · cases hc
    · rw [votesUnder_cons]
      rcases mem_cons.mp hc with rfl | hc
      · exact ⟨mem_cons_self, budget, by omega, rfl, fun hle => by simp only; omega⟩
      · obtain ⟨hkey, n, hn, hvotes, hall⟩ := ih hc
        refine ⟨mem_cons_of_mem _ hkey, n, hn, hvotes, fun hle => hall ?_⟩
        rw [length_take]
        omega

lemma exists_candidate (head : ℕ) (key : ℕ ×ₗ B256)
    (after : List (ℕ ×ₗ B256)) (hlt : pool.votesUnder before < budget) :
    ∃ c ∈ pool.candidatesFrom head budget (before ++ key :: after), c.targetHash = (ofLex key).2 ∧
      c.expired = decide (saturatingAdd (ofLex key).1 upperLimitOfVoteBlockNumber < head) := by
  induction before generalizing budget with
  | nil =>
    rw [nil_append, candidatesFrom, if_neg (by rw [votesUnder_nil] at hlt; omega)]
    exact ⟨_, mem_cons_self, rfl, rfl⟩
  | cons first before ih =>
    rw [votesUnder_cons] at hlt
    rw [cons_append, candidatesFrom, if_neg (by omega)]
    have hleft : pool.votesUnder before <
        budget - ((messagesOf pool.futureVotes (ofLex first).2).take budget).length := by
      rw [length_take]
      omega
    obtain ⟨c, hc, hsame⟩ := ih hleft
    exact ⟨c, mem_cons_of_mem _ hc, hsame⟩

lemma get_verdictsOf_ne_none (he : e ∈ votes) : (verdictsOf deps env votes).get e.hash ≠ none := by
  have hmem : (e.hash, decide (env.verifyVoteOrigin deps.toDeps e.envelope = .ok)) ∈
      votes.map fun e => (e.hash, decide (env.verifyVoteOrigin deps.toDeps e.envelope = .ok)) :=
    mem_map.mpr ⟨e, he, rfl⟩
  obtain ⟨verdict, hverdict⟩ := OrdMap.exists_get_ofList hmem
  rw [verdictsOf, hverdict]
  simp

lemma get_resolve_eq_some (deps : VoteDeps) {candidates : List PromotionCandidate}
    (hc : c ∈ candidates) (hserved : isServed env c) :
    ∃ c' ∈ candidates, c'.targetHash = c.targetHash ∧
      (resolve deps env candidates).get c.targetHash = some (verdictsOf deps env c'.votes) := by
  obtain ⟨verdicts, hget⟩ := OrdMap.exists_get_ofList
    (mem_map.mpr ⟨c, mem_filter.mpr ⟨hc, hserved⟩, rfl⟩ :
      (c.targetHash, verdictsOf deps env c.votes) ∈ (candidates.filter (isServed env)).map
        fun c => (c.targetHash, verdictsOf deps env c.votes))
  obtain ⟨c', hc', heq⟩ := mem_map.mp (OrdMap.mem_of_get_ofList hget)
  obtain ⟨hhash, rfl⟩ := Prod.mk.inj heq
  exact ⟨c', mem_of_mem_filter hc', hhash, hget⟩

lemma promoteFutureVotes_cases (pool : VotePool heap) (deps : VoteDeps) (env : PoolEnv) (head : ℕ) :
    pool.promoteFutureVotes deps env head = pool ∨
      pool.promoteFutureVotes deps env head = (pool.applyPromotion head
        (resolve deps env (pool.promotionCandidates head))).1 := by
  unfold promoteFutureVotes
  simp only
  split_ifs
  · exact Or.inl rfl
  · exact Or.inl rfl
  · exact Or.inr rfl

lemma promoteFutureVotes_of_resolved
    (hget : (resolve deps env (pool.promotionCandidates head)).get hash = some verdicts) :
    pool.promoteFutureVotes deps env head = (pool.applyPromotion head
      (resolve deps env (pool.promotionCandidates head))).1 := by
  have hmem := OrdMap.mem_entries.mpr hget
  have hentries : (resolve deps env (pool.promotionCandidates head)).entries.isEmpty = false :=
    isEmpty_eq_false_iff.mpr (ne_nil_of_mem hmem)
  have hcandidates : (pool.promotionCandidates head).isEmpty = false := by
    cases hnil : pool.promotionCandidates head with
    | nil =>
      rw [hnil] at hget
      cases hget
    | cons _ _ => rfl
  simp only [promoteFutureVotes, hcandidates, hentries, Bool.false_eq_true, if_false]

/-! ### One foreign vote under a hash -/

/-- The queue entries the head has reached. -/
def eligible (pool : VotePool heap) (head : ℕ) : List VoteData :=
  (heap.toList pool.futureVotesPq).filter fun vd => decide (vd.targetNumber ≤ head)

def queueKey (vd : VoteData) : ℕ ×ₗ B256 := toLex (vd.targetNumber, vd.targetHash)

@[simp] lemma ofLex_queueKey (vd : VoteData) :
    ofLex (queueKey vd) = (vd.targetNumber, vd.targetHash) := rfl

/-- Whether a pass judges the bucket of an entry it has a candidate for. -/
def servedAt (env : PoolEnv) (head : ℕ) (vd : VoteData) : Bool :=
  decide (saturatingAdd vd.targetNumber upperLimitOfVoteBlockNumber < head) ||
    (env.canonicalHeaderByHash vd.targetHash).isSome

lemma promotionKeys_eq (pool : VotePool heap) (head : ℕ) : pool.promotionKeys head =
      selectSmallest maxPromotionTargetsPerPass ((pool.eligible head).map queueKey) := rfl

lemma votesUnder_perm {keys' : List (ℕ ×ₗ B256)} (h : keys.Perm keys') :
    pool.votesUnder keys = pool.votesUnder keys' :=
  List.Perm.sum_nat (h.map _)

lemma mem_unjudged (hget : resolved.get hash = some verdicts) :
    e ∈ unjudged resolved hash votes ↔ e ∈ votes ∧ verdicts.get e.hash = none := by
  simp [unjudged, hget]

/-- An entry that is served is resolved, with a first part of its bucket, if the buckets with
smaller keys leave some of the budget. -/
lemma exists_get_resolve (deps : VoteDeps) {after : List (ℕ ×ₗ B256)}
    (hsplit : pool.promotionKeys head = before ++ queueKey vd :: after)
    (hroom : pool.votesUnder before < maxPromotionVotesPerPass)
    (hserved : servedAt env head vd) :
    ∃ c ∈ pool.promotionCandidates head, c.targetHash = vd.targetHash ∧
      (resolve deps env (pool.promotionCandidates head)).get vd.targetHash =
        some (verdictsOf deps env c.votes) := by
  obtain ⟨c, hc, hhash, hexpired⟩ := exists_candidate head (queueKey vd) after hroom
  rw [← hsplit] at hc
  simp only [ofLex_queueKey] at hhash hexpired
  have hc' : isServed env c = true := by
    rw [isServed, hexpired, hhash]
    exact hserved
  obtain ⟨d, hd, hsame, hget⟩ := get_resolve_eq_some deps hc hc'
  rw [hhash] at hsame hget
  exact ⟨d, hd, hsame, hget⟩

/-- With room for every entry the head has reached, a pass judges every vote of a block it
holds, if the queue has an entry for that block at or below the head. -/
lemma notMem_promoteFutureVotes (hserved : servedAt env head vd)
    (htargets : (pool.eligible head).length ≤ maxPromotionTargetsPerPass)
    (hvotes : pool.votesUnder ((pool.eligible head).map queueKey) ≤ maxPromotionVotesPerPass)
    (hvd : vd ∈ pool.eligible head) (he : e ∈ messagesOf pool.futureVotes vd.targetHash) :
    e ∉ messagesOf (pool.promoteFutureVotes deps env head).futureVotes vd.targetHash := by
  have hkeys : ((pool.eligible head).map queueKey).Perm (pool.promotionKeys head) :=
    (selectSmallest_isLowest _ _).2.perm (by rwa [length_map])
  rw [votesUnder_perm hkeys] at hvotes
  obtain ⟨before, after, hsplit⟩ := append_of_mem (hkeys.mem_iff.mp (mem_map.mpr ⟨vd, hvd, rfl⟩))
  have hpos : 0 < (messagesOf pool.futureVotes vd.targetHash).length := length_pos_of_mem he
  have hroom : pool.votesUnder before < maxPromotionVotesPerPass := by
    simp only [hsplit, votesUnder_append, votesUnder_cons, ofLex_queueKey] at hvotes
    omega
  obtain ⟨c, hc, hhash, hget⟩ := exists_get_resolve deps hsplit hroom hserved
  -- the candidate holds the whole bucket, so `e` gets a verdict
  obtain ⟨-, n, -, htake, hall⟩ := votes_of_mem_candidatesFrom hc
  rw [take_of_length_le (hall hvotes), hhash] at htake
  have hjudged : (verdictsOf deps env c.votes).get e.hash ≠ none :=
    get_verdictsOf_ne_none (htake ▸ he)
  obtain ⟨-, -, hlow, -, hmessages⟩ := pool.applyPromotion_spec head
    (resolve deps env (pool.promotionCandidates head))
  have htaken : vd.targetHash ∈ (pool.popped head).map targetHash :=
    mem_map.mpr ⟨vd, (hlow.perm htargets).mem_iff.mp hvd, rfl⟩
  rw [promoteFutureVotes_of_resolved hget, (hmessages _).1, if_pos htaken, mem_unjudged hget]
  exact fun hstays => hjudged hstays.2

lemma messagesOf_promoteFutureVotes_of_notMem
    (hnone : ∀ vd ∈ pool.eligible head, vd.targetHash ≠ hash) :
    messagesOf (pool.promoteFutureVotes deps env head).futureVotes hash =
      messagesOf pool.futureVotes hash := by
  rcases pool.promoteFutureVotes_cases deps env head with hsame | happly
  · rw [hsame]
  · obtain ⟨-, -, hlow, -, hmessages⟩ := pool.applyPromotion_spec head
      (resolve deps env (pool.promotionCandidates head))
    have hout : hash ∉ (pool.popped head).map targetHash := by
      intro hmem
      obtain ⟨vd, hvd, hhash⟩ := mem_map.mp hmem
      exact hnone vd (hlow.subset hvd) hhash
    rw [happly, (hmessages hash).1, if_neg hout]

/-- **When a pass judges the votes for a held block.** With room for every entry the head has
reached, all votes for the block are judged exactly if the queue has an entry for its hash at
or below the head, whatever else lies in the bucket. -/
theorem judges_canonical_iff (deps : VoteDeps) (pool : VotePool heap) {hash : B256}
    {header : Header} (hcanon : env.canonicalHeaderByHash hash = some header)
    (htargets : (pool.eligible head).length ≤ maxPromotionTargetsPerPass)
    (hvotes : pool.votesUnder ((pool.eligible head).map queueKey) ≤ maxPromotionVotesPerPass) :
    (∀ e ∈ messagesOf pool.futureVotes hash, e.envelope.data.targetHash = hash →
        e.envelope.data.targetNumber = header.number →
        e ∉ messagesOf (pool.promoteFutureVotes deps env head).futureVotes hash) ↔
      ((∃ e ∈ messagesOf pool.futureVotes hash, e.envelope.data.targetHash = hash ∧
          e.envelope.data.targetNumber = header.number) →
        ∃ vd ∈ heap.toList pool.futureVotesPq, vd.targetHash = hash ∧ vd.targetNumber ≤ head) := by
  have hmem : ∀ vd, vd ∈ pool.eligible head ↔
      vd ∈ heap.toList pool.futureVotesPq ∧ vd.targetNumber ≤ head := fun vd => by
    rw [eligible, mem_filter, decide_eq_true_eq]
  constructor
  · rintro hjudged ⟨e, he, htarget, hnumber⟩
    by_contra hnone
    refine hjudged e he htarget hnumber ?_
    rwa [messagesOf_promoteFutureVotes_of_notMem]
    intro vd hvd hhash
    exact hnone ⟨vd, ((hmem vd).mp hvd).1, hhash, ((hmem vd).mp hvd).2⟩
  · intro hqueued e he htarget hnumber
    obtain ⟨vd, hvd, rfl, hle⟩ := hqueued ⟨e, he, htarget, hnumber⟩
    have hserved : servedAt env head vd = true := by simp [servedAt, hcanon]
    exact notMem_promoteFutureVotes hserved htargets hvotes ((hmem vd).mpr ⟨hvd, hle⟩) he

end VotePool

/-! A vote that names a wrong height for a block, put before the block is known. -/

/-- Envelopes are told apart by the hash and the height they name. -/
def floodDeps : VoteDeps :=
  { sampleDeps true with
    envelopeHash := fun vote =>
      BitVec.ofNat 256 (vote.data.targetHash.toNat * 1024 + vote.data.targetNumber)
    verify := fun (sig : VoteSignature) _ _ => decide (sig = 0)
    aggregate := List.head?
    signatureToBytes := id
    encodeAttestation := fun _ => [] }

/-- A node at the given head that knows the headers of the given lookup. -/
def floodEnv (best : ℕ) (headers : B256 → Option Header) : PoolEnv where
  bestCanonicalBlockNumber := some best
  headerByHash := some headers
  headerByNumber := fun _ => none
  snapshotProvider := none

def floodVote (sender : VoteAddress) (number : ℕ) (hash : B256) : VoteEnvelope :=
  ⟨sender, 0, ⟨0, 0, number, hash⟩⟩

def floodHeight : ℕ := 10

def floodHeaders (hash : B256) : Option Header :=
  if hash = 1 then some (sampleHeader floodHeight 0 0 0 []) else none

/-- Votes put in order while the node is at height 9 and knows no block. -/
def floodNode (votes : List VoteEnvelope) : PoolNode (MinHeap.sortedList VoteData.targetNumber) :=
  votes.foldl (fun node vote => node.putVote floodDeps (floodEnv 9 fun _ => none) vote) PoolNode.new

/-- Once the block is canonical, the vote for it stays where it is: the bucket is queued at
height 20, which the first vote put under its hash names. -/
theorem foreign_height_delays :
    let pool := (floodNode [floodVote 7 20 1, floodVote 1 floodHeight 1]).pool
    let env := floodEnv floodHeight floodHeaders
    let entry : VoteEntry :=
      ⟨floodDeps.envelopeHash (floodVote 1 floodHeight 1), floodVote 1 floodHeight 1, false⟩
    (env.canonicalHeaderByHash 1).map Header.number = some floodHeight ∧
      (pool.eligible floodHeight).length ≤ maxPromotionTargetsPerPass ∧
      pool.votesUnder ((pool.eligible floodHeight).map queueKey) ≤ maxPromotionVotesPerPass ∧
      entry ∈ messagesOf pool.futureVotes 1 ∧
      entry ∈ messagesOf (pool.promoteFutureVotes floodDeps env floodHeight).futureVotes 1 := by
  decide +kernel

/-- With the votes put in the other order, the vote for the block is judged. -/
theorem judges_canonical_iff_flood :
    let pool := (floodNode [floodVote 1 floodHeight 1, floodVote 7 20 1]).pool
    ∀ e ∈ messagesOf pool.futureVotes 1,
      e.envelope.data.targetHash = 1 → e.envelope.data.targetNumber = floodHeight →
      e ∉ messagesOf (pool.promoteFutureVotes floodDeps (floodEnv floodHeight floodHeaders)
        floodHeight).futureVotes 1 := by
  have hcanon : (floodEnv floodHeight floodHeaders).canonicalHeaderByHash 1 =
      some (sampleHeader floodHeight 0 0 0 []) := by decide +kernel
  refine (judges_canonical_iff floodDeps _ hcanon ?_ ?_).mpr fun _ => ?_
  · decide +kernel
  · decide +kernel
  · exact ⟨⟨0, 0, floodHeight, 1⟩, by decide +kernel, rfl, le_refl _⟩

/-! ### Repeated passes -/

namespace VotePool

variable {heap : VoteHeap} {deps : VoteDeps} {env : PoolEnv}
  {pool pool' : VotePool heap} {head : ℕ}

/-- What a pass can do to the future votes: it takes votes out of buckets and entries out of
the queue, but never the entry of a bucket that still holds votes. -/
structure Shrinks (pool pool' : VotePool heap) : Prop where
  queue : (heap.toList pool'.futureVotesPq).Subperm (heap.toList pool.futureVotesPq)
  buckets : ∀ hash,
    (messagesOf pool'.futureVotes hash).Sublist (messagesOf pool.futureVotes hash)
  keeps : ∀ vd ∈ heap.toList pool.futureVotesPq,
    messagesOf pool'.futureVotes vd.targetHash ≠ [] → vd ∈ heap.toList pool'.futureVotesPq

lemma Shrinks.refl (pool : VotePool heap) : Shrinks pool pool :=
  ⟨List.Subperm.refl _, fun _ => List.Sublist.refl _, fun _ hvd _ => hvd⟩

variable {vd : VoteData}

lemma isDeferred_of_ne_nil {resolved : Resolved}
    (hne : unjudged resolved vd.targetHash (messagesOf pool.futureVotes vd.targetHash) ≠ []) :
    isDeferred resolved pool vd := by
  unfold isDeferred
  split
  · simpa using hne
  · next hnone =>
    simp only [unjudged, hnone, messagesOf] at hne
    rw [OrdMap.contains, Option.isSome_iff_ne_none]
    intro hget
    rw [hget] at hne
    exact hne rfl

lemma shrinks_applyPromotion (pool : VotePool heap) (head : ℕ) (resolved : Resolved) :
    Shrinks pool (pool.applyPromotion head resolved).1 := by
  obtain ⟨rest, hperm, -, hqueue, hmessages⟩ := pool.applyPromotion_spec head resolved
  generalize pool.popped head = taken at hperm hqueue hmessages
  refine ⟨?_, fun hash => ?_, fun vd hvd hne => ?_⟩
  · have hkept : (taken.filter (isDeferred resolved pool) ++ rest).Subperm (taken ++ rest) :=
      (List.Sublist.append_right filter_sublist rest).subperm
    exact hqueue.subperm.trans (hkept.trans hperm.symm.subperm)
  · rw [(hmessages hash).1]
    split_ifs
    · exact unjudged_sublist _ _ _
    · exact List.Sublist.refl _
  · rw [hqueue.mem_iff, mem_append]
    rcases mem_append.mp (hperm.mem_iff.mp hvd) with htaken | hrest
    · rw [(hmessages _).1, if_pos (mem_map.mpr ⟨vd, htaken, rfl⟩)] at hne
      exact Or.inl (mem_filter.mpr ⟨htaken, isDeferred_of_ne_nil hne⟩)
    · exact Or.inr hrest

lemma shrinks_promoteFutureVotes (pool : VotePool heap) (deps : VoteDeps) (env : PoolEnv)
    (head : ℕ) : Shrinks pool (pool.promoteFutureVotes deps env head) := by
  rcases pool.promoteFutureVotes_cases deps env head with hsame | happly
  · rw [hsame]
    exact Shrinks.refl pool
  · rw [happly]
    exact shrinks_applyPromotion pool head _

lemma votesUnder_le_of_subperm {keys keys' : List (ℕ ×ₗ B256)} (h : keys'.Subperm keys) :
    pool.votesUnder keys' ≤ pool.votesUnder keys := by
  obtain ⟨l, hl, hsub⟩ := h
  rw [← votesUnder_perm hl]
  exact (hsub.map _).sum_le_sum fun _ _ => Nat.zero_le _

lemma Shrinks.votesUnder_le (h : Shrinks pool pool') (keys : List (ℕ ×ₗ B256)) :
    pool'.votesUnder keys ≤ pool.votesUnder keys :=
  sum_le_sum fun key _ => (h.buckets (ofLex key).2).length_le

lemma subperm_map {α β : Type} (f : α → β) {l l' : List α} (h : l.Subperm l') :
    (l.map f).Subperm (l'.map f) := by
  obtain ⟨m, hm, hsub⟩ := h
  exact ⟨m.map f, hm.map f, hsub.map f⟩

lemma Shrinks.mem_eligible (h : Shrinks pool pool') (hvd : vd ∈ pool'.eligible head) :
    vd ∈ pool.eligible head := by
  rw [eligible, mem_filter] at hvd ⊢
  exact ⟨h.queue.subset hvd.1, hvd.2⟩

/-- An entry no pass can judge, at or below a height. -/
def blockedBelow (env : PoolEnv) (head number : ℕ) (vd : VoteData) : Bool :=
  !servedAt env head vd && decide (vd.targetNumber ≤ number)

/-- An entry that competes with the lowest served entry, which stands at the given height. -/
def inWay (env : PoolEnv) (head number : ℕ) (vd : VoteData) : Bool :=
  blockedBelow env head number vd || decide (vd.targetNumber = number)

/-- The entries that cannot be judged leave room for those that can, and every block that is
held and has votes at or below the head is queued there. -/
structure Drainable (env : PoolEnv) (head : ℕ) (pool : VotePool heap) : Prop where
  queued : ∀ hash header, env.canonicalHeaderByHash hash = some header →
    ∀ e ∈ messagesOf pool.futureVotes hash, e.envelope.data.targetNumber ≤ head →
      ∃ vd ∈ pool.eligible head, vd.targetHash = hash
  targets : ∀ vd ∈ pool.eligible head, servedAt env head vd = true →
    (heap.toList pool.futureVotesPq).countP (inWay env head vd.targetNumber) ≤
      maxPromotionTargetsPerPass
  votes : ∀ vd ∈ pool.eligible head, servedAt env head vd = true →
    pool.votesUnder (((heap.toList pool.futureVotesPq).filter
      (blockedBelow env head vd.targetNumber)).map queueKey) < maxPromotionVotesPerPass

lemma Drainable.shrinks (hd : Drainable env head pool) (h : Shrinks pool pool') :
    Drainable env head pool' where
  queued := by
    intro hash header hcanon e he hle
    obtain ⟨vd, hvd, rfl⟩ := hd.queued hash header hcanon e ((h.buckets hash).subset he) hle
    rw [eligible, mem_filter] at hvd
    refine ⟨vd, ?_, rfl⟩
    rw [eligible, mem_filter]
    exact ⟨h.keeps vd hvd.1 (ne_nil_of_mem he), hvd.2⟩
  targets := fun vd hvd hserved =>
    (h.queue.countP_le _).trans (hd.targets vd (h.mem_eligible hvd) hserved)
  votes := fun vd hvd hserved =>
    have hkeys := subperm_map queueKey (h.queue.filter (blockedBelow env head vd.targetNumber))
    ((h.votesUnder_le _).trans (votesUnder_le_of_subperm hkeys)).trans_lt
      (hd.votes vd (h.mem_eligible hvd) hserved)

/-! ### Every pass makes progress -/

/-- The queue entries and the votes in their buckets. -/
def backlog (pool : VotePool heap) : ℕ :=
  ((heap.toList pool.futureVotesPq).map fun vd =>
    (messagesOf pool.futureVotes vd.targetHash).length + 1).sum

lemma exists_lowest_served (hserved : ∃ vd ∈ pool.eligible head, servedAt env head vd) :
    ∃ vd ∈ pool.eligible head, servedAt env head vd ∧
      ∀ w ∈ pool.eligible head, servedAt env head w → queueKey vd ≤ queueKey w := by
  obtain ⟨v, hv, hvs⟩ := hserved
  have hne : ((pool.eligible head).filter (servedAt env head)).toFinset.Nonempty :=
    ⟨v, by simp [hv, hvs]⟩
  obtain ⟨vd, hvd, hmin⟩ := Finset.exists_min_image _ queueKey hne
  simp only [mem_toFinset, mem_filter] at hvd hmin
  exact ⟨vd, hvd.1, hvd.2, fun w hw hws => hmin w ⟨hw, hws⟩⟩

lemma targetNumber_le_of_queueKey_le {w : VoteData} (h : queueKey w ≤ queueKey vd) :
    w.targetNumber ≤ vd.targetNumber := by
  rcases (Prod.Lex.toLex_le_toLex).mp h with hlt | ⟨heq, -⟩
  · exact hlt.le
  · exact heq.le

section Lowest

variable {vd : VoteData}
  (hmin : ∀ w ∈ pool.eligible head, servedAt env head w → queueKey vd ≤ queueKey w)

include hmin

lemma inWay_of_targetNumber_le {w : VoteData} (hw : w ∈ pool.eligible head)
    (hle : w.targetNumber ≤ vd.targetNumber) : inWay env head vd.targetNumber w := by
  by_cases hserved : servedAt env head w = true
  · have heq : w.targetNumber = vd.targetNumber :=
      le_antisymm hle (targetNumber_le_of_queueKey_le (hmin w hw hserved))
    simp [inWay, heq]
  · simp [inWay, blockedBelow, hserved, hle]

lemma blockedBelow_of_queueKey_lt {w : VoteData} (hw : w ∈ pool.eligible head)
    (hlt : queueKey w < queueKey vd) : blockedBelow env head vd.targetNumber w := by
  have hserved : servedAt env head w = false := by
    by_contra hs
    exact absurd (hmin w hw (by simpa using hs)) (not_le.mpr hlt)
  simp [blockedBelow, hserved, targetNumber_le_of_queueKey_le hlt.le]

variable (hd : Drainable env head pool) (hvd : vd ∈ pool.eligible head)
  (hserved : servedAt env head vd)

include hd hvd hserved

lemma countP_eligible_le :
    (pool.eligible head).countP (fun w => decide (w.targetNumber ≤ vd.targetNumber)) ≤
      maxPromotionTargetsPerPass := by
  calc (pool.eligible head).countP (fun w => decide (w.targetNumber ≤ vd.targetNumber))
      ≤ (pool.eligible head).countP (inWay env head vd.targetNumber) :=
        countP_mono_left fun w hw hle =>
          inWay_of_targetNumber_le hmin hw (of_decide_eq_true hle)
    _ ≤ (heap.toList pool.futureVotesPq).countP (inWay env head vd.targetNumber) :=
        filter_sublist.countP_le
    _ ≤ maxPromotionTargetsPerPass := hd.targets vd hvd hserved

lemma mem_promotionKeys : queueKey vd ∈ pool.promotionKeys head := by
  refine (selectSmallest_isLowest _ _).2.mem (mem_map.mpr ⟨vd, hvd, rfl⟩) ?_
  rw [countP_map]
  refine (countP_mono_left fun w _ hle => ?_).trans (countP_eligible_le hmin hd hvd hserved)
  exact decide_eq_true (targetNumber_le_of_queueKey_le (of_decide_eq_true hle))

lemma exists_split_promotionKeys :
    ∃ before after, pool.promotionKeys head = before ++ queueKey vd :: after ∧
      pool.votesUnder before < maxPromotionVotesPerPass := by
  obtain ⟨before, after, hsplit, hfirst⟩ :=
    eq_append_cons_of_mem (mem_promotionKeys hmin hd hvd hserved)
  refine ⟨before, after, hsplit, lt_of_le_of_lt ?_ (hd.votes vd hvd hserved)⟩
  obtain ⟨hsorted, left, hperm, -⟩ := selectSmallest_isLowest maxPromotionTargetsPerPass
    ((pool.eligible head).map queueKey)
  rw [← promotionKeys_eq, hsplit] at hsorted hperm
  have hlt : ∀ key ∈ before, key < queueKey vd := fun key hkey =>
    lt_of_le_of_ne ((pairwise_append.mp hsorted).2.2 key hkey _ mem_cons_self)
      fun heq => hfirst (heq ▸ hkey)
  have hsub : before.Subperm ((pool.eligible head).map queueKey) :=
    ((sublist_append_left before (queueKey vd :: after)).trans
      (sublist_append_left _ left)).subperm.trans hperm.symm.subperm
  -- restricted to smaller keys, the entries the head has reached are all blocked
  have hbelow : before.Subperm
      (((pool.eligible head).map queueKey).filter fun key => decide (key < queueKey vd)) := by
    have hfilter := hsub.filter fun key => decide (key < queueKey vd)
    rwa [filter_eq_self.mpr fun key hkey => decide_eq_true (hlt key hkey)] at hfilter
  refine votesUnder_le_of_subperm (hbelow.trans ?_)
  rw [filter_map]
  refine subperm_map _ (List.Sublist.subperm ?_)
  have hblocked : (pool.eligible head).filter ((fun key => decide (key < queueKey vd)) ∘ queueKey) =
        ((pool.eligible head).filter (blockedBelow env head vd.targetNumber)).filter
          ((fun key => decide (key < queueKey vd)) ∘ queueKey) := by
    rw [filter_filter]
    refine filter_congr fun w hw => ?_
    by_cases hkey : queueKey w < queueKey vd
    · simp [hkey, blockedBelow_of_queueKey_lt hmin hw hkey]
    · simp [hkey]
  rw [hblocked]
  exact filter_sublist.trans (filter_sublist.filter _)

end Lowest

lemma sum_filter_lt {α : Type} {l : List α} {keep : α → Bool} {f g : α → ℕ} {a : α}
    (hle : ∀ b ∈ l, f b ≤ g b) (ha : a ∈ l) (hlt : keep a → f a < g a) (hpos : 0 < g a) :
    ((l.filter keep).map f).sum < (l.map g).sum := by
  have hpart : ∀ m : List α, (∀ b ∈ m, f b ≤ g b) → ((m.filter keep).map f).sum ≤ (m.map g).sum :=
    fun m hm => ((filter_sublist.map f).sum_le_sum fun _ _ => Nat.zero_le _).trans (sum_le_sum hm)
  obtain ⟨before, after, rfl⟩ := append_of_mem ha
  have hbefore := hpart before fun b hb => hle b (by simp [hb])
  have hafter := hpart after fun b hb => hle b (by simp [hb])
  cases hkeep : keep a with
  | true =>
    have := hlt hkeep
    simp only [filter_append, filter_cons_of_pos hkeep, map_append, map_cons, sum_append, sum_cons]
    omega
  | false =>
    simp only [filter_append, filter_cons, hkeep, Bool.false_eq_true, if_false,
      map_append, map_cons, sum_append, sum_cons]
    omega

lemma length_unjudged_lt {c : PromotionCandidate} {resolved : Resolved}
    (hc : c ∈ pool.promotionCandidates head) (hhash : c.targetHash = vd.targetHash)
    (hget : resolved.get vd.targetHash = some (verdictsOf deps env c.votes))
    (hne : messagesOf pool.futureVotes vd.targetHash ≠ []) :
    (unjudged resolved vd.targetHash (messagesOf pool.futureVotes vd.targetHash)).length <
      (messagesOf pool.futureVotes vd.targetHash).length := by
  obtain ⟨-, n, hn, htake, -⟩ := votes_of_mem_candidatesFrom hc
  rw [hhash] at htake
  obtain ⟨e, others, hbucket⟩ := exists_cons_of_ne_nil hne
  have he : e ∈ c.votes := by
    obtain ⟨m, rfl⟩ := Nat.exists_eq_succ_of_ne_zero hn.ne'
    rw [htake, hbucket, take_succ_cons]
    exact mem_cons_self
  have hout : e ∉ unjudged resolved vd.targetHash (messagesOf pool.futureVotes vd.targetHash) :=
    fun hmem => get_verdictsOf_ne_none he ((mem_unjudged hget).mp hmem).2
  have hsub := unjudged_sublist resolved vd.targetHash (messagesOf pool.futureVotes vd.targetHash)
  refine lt_of_le_of_ne hsub.length_le fun hlen => hout ?_
  rw [hsub.eq_of_length hlen, hbucket]
  exact mem_cons_self

/-- **A pass makes progress** while an entry the head has reached can be judged. -/
theorem Drainable.backlog_lt (deps : VoteDeps) (hd : Drainable env head pool)
    (hserved : ∃ vd ∈ pool.eligible head, servedAt env head vd) :
    (pool.promoteFutureVotes deps env head).backlog < pool.backlog := by
  obtain ⟨vd, hvd, hvs, hmin⟩ := exists_lowest_served hserved
  obtain ⟨before, after, hsplit, hroom⟩ := exists_split_promotionKeys hmin hd hvd hvs
  obtain ⟨c, hc, hhash, hget⟩ := exists_get_resolve deps hsplit hroom hvs
  rw [promoteFutureVotes_of_resolved hget]
  generalize resolve deps env (pool.promotionCandidates head) = resolved at hget ⊢
  have hshrinks := shrinks_applyPromotion pool head resolved
  obtain ⟨rest, hperm, hlow, hqueue, hmessages⟩ := pool.applyPromotion_spec head resolved
  have htaken : vd ∈ pool.popped head := hlow.mem hvd (countP_eligible_le hmin hd hvd hvs)
  have hle : ∀ w : VoteData,
      (messagesOf (pool.applyPromotion head resolved).1.futureVotes w.targetHash).length + 1 ≤
        (messagesOf pool.futureVotes w.targetHash).length + 1 :=
    fun w => Nat.succ_le_succ (hshrinks.buckets w.targetHash).length_le
  rw [backlog, backlog, List.Perm.sum_nat (hqueue.map _), List.Perm.sum_nat (hperm.map _),
    map_append, map_append, sum_append, sum_append]
  refine Nat.add_lt_add_of_lt_of_le (sum_filter_lt (fun w _ => hle w) htaken ?_ (by omega))
    (sum_le_sum fun w _ => hle w)
  -- an entry that is put back has lost the first vote of its bucket
  intro hkeep
  rw [(hmessages _).1, if_pos (mem_map.mpr ⟨vd, htaken, rfl⟩)]
  refine Nat.succ_lt_succ (length_unjudged_lt hc hhash hget fun hnil => ?_)
  simp [isDeferred, hget, unjudged, hnil] at hkeep

/-! ### The backlog drains -/

/-- No vote for a block that is held is left among the future ones at or below the head. -/
def Drained (env : PoolEnv) (head : ℕ) (pool : VotePool heap) : Prop :=
  ∀ hash header, env.canonicalHeaderByHash hash = some header →
    ∀ e ∈ messagesOf pool.futureVotes hash, head < e.envelope.data.targetNumber

lemma Drained.shrinks (hd : Drained env head pool) (h : Shrinks pool pool') :
    Drained env head pool' :=
  fun hash header hcanon e he => hd hash header hcanon e ((h.buckets hash).subset he)

lemma Drainable.drained (hd : Drainable env head pool)
    (hnone : ¬∃ vd ∈ pool.eligible head, servedAt env head vd) :
    Drained env head pool := by
  intro hash header hcanon e he
  by_contra hle
  obtain ⟨vd, hvd, rfl⟩ := hd.queued hash header hcanon e he (not_lt.mp hle)
  exact hnone ⟨vd, hvd, by simp [servedAt, hcanon]⟩

lemma Drained.iterate (hd : Drained env head pool) (k : ℕ) :
    Drained env head ((fun p : VotePool heap => p.promoteFutureVotes deps env head)^[k] pool) := by
  induction k with
  | zero => exact hd
  | succ k ih =>
    rw [iterate_succ_apply']
    exact ih.shrinks (shrinks_promoteFutureVotes _ deps env head)

lemma Drainable.exists_drained (deps : VoteDeps) (hd : Drainable env head pool) :
    ∃ k, Drained env head
      ((fun p : VotePool heap => p.promoteFutureVotes deps env head)^[k] pool) := by
  induction hn : pool.backlog using Nat.strong_induction_on generalizing pool with
  | _ n ih =>
    by_cases hserved : ∃ vd ∈ pool.eligible head, servedAt env head vd = true
    · obtain ⟨k, hk⟩ := ih _ (hn ▸ hd.backlog_lt deps hserved)
        (hd.shrinks (shrinks_promoteFutureVotes pool deps env head)) rfl
      exact ⟨k + 1, hk⟩
    · exact ⟨0, hd.drained hserved⟩

/-- **Repeated passes drain the backlog**: from some pass on, every vote for a block that is
held has been judged if its target is at or below the head, whatever order the heap keeps
among entries of one height. -/
theorem promotion_drains (deps : VoteDeps) (hd : Drainable env head pool) :
    ∃ k, ∀ j, k ≤ j → Drained env head
      ((fun p : VotePool heap => p.promoteFutureVotes deps env head)^[j] pool) := by
  obtain ⟨k, hk⟩ := hd.exists_drained deps
  refine ⟨k, fun j hj => ?_⟩
  obtain ⟨m, rfl⟩ := Nat.exists_eq_add_of_le' hj
  rw [iterate_add_apply]
  exact hk.iterate m

lemma promoteFutureVotes_of_unresolved
    (h : (resolve deps env (pool.promotionCandidates head)).entries.isEmpty) :
    pool.promoteFutureVotes deps env head = pool := by
  simp [promoteFutureVotes, h]

lemma iterate_promoteFutureVotes_of_unresolved
    (h : (resolve deps env (pool.promotionCandidates head)).entries.isEmpty) (k : ℕ) :
    (fun p : VotePool heap => p.promoteFutureVotes deps env head)^[k] pool = pool :=
  iterate_fixed (promoteFutureVotes_of_unresolved h) k

end VotePool

/-- Votes for the given number of unknown blocks at height 9, and one for the block with
hash 1 at height 10. -/
def floodBacklog (unknown : ℕ) : VotePool (MinHeap.sortedList VoteData.targetNumber) :=
  (floodNode ((List.range unknown).map (fun i => floodVote 7 9 (BitVec.ofNat 256 (i + 2))) ++
    [floodVote 1 floodHeight 1])).pool

/-- Sixty-four unknown blocks one height below keep the vote for a canonical block from ever
being judged. -/
theorem unknown_blocks_starve :
    let env := floodEnv floodHeight floodHeaders
    let vote := floodVote 1 floodHeight 1
    (env.canonicalHeaderByHash 1).isSome = true ∧ vote.data.targetNumber ≤ floodHeight ∧
      ∀ k : ℕ, (⟨floodDeps.envelopeHash vote, vote, false⟩ : VoteEntry) ∈ messagesOf
        ((fun p => VotePool.promoteFutureVotes floodDeps env p floodHeight)^[k]
          (floodBacklog 64)).futureVotes 1 := by
  have hstuck : (resolve floodDeps (floodEnv floodHeight floodHeaders)
      ((floodBacklog 64).promotionCandidates floodHeight)).entries.isEmpty = true := by
    decide +kernel
  have hheld : (⟨floodDeps.envelopeHash (floodVote 1 floodHeight 1), floodVote 1 floodHeight 1,
      false⟩ : VoteEntry) ∈ messagesOf (floodBacklog 64).futureVotes 1 := by decide +kernel
  refine ⟨by decide +kernel, le_refl _, fun k => ?_⟩
  rw [iterate_promoteFutureVotes_of_unresolved hstuck k]
  exact hheld

lemma floodBacklog_drainable :
    VotePool.Drainable (floodEnv floodHeight floodHeaders) floodHeight (floodBacklog 3) where
  queued := by
    intro hash header hcanon e he hle
    refine ⟨⟨0, 0, floodHeight, 1⟩, by decide +kernel, ?_⟩
    by_contra hne
    have hunknown : floodHeaders hash = none := if_neg (Ne.symm hne)
    simp [PoolEnv.canonicalHeaderByHash, floodEnv, hunknown] at hcanon
  targets := by decide +kernel
  votes := by decide +kernel

/-- Three unknown blocks leave room: the vote for the canonical block is judged. -/
theorem promotion_drains_flood : ∃ k, ∀ j, k ≤ j →
    VotePool.Drained (floodEnv floodHeight floodHeaders) floodHeight
      ((fun p => VotePool.promoteFutureVotes floodDeps (floodEnv floodHeight floodHeaders) p
        floodHeight)^[j] (floodBacklog 3)) :=
  promotion_drains floodDeps floodBacklog_drainable

end RethBsc
