import RethBsc.VotePoolInvariant

/-!
What the current votes of a pool are worth, over every interleaving of puts and promotions.

Lookups by hash never change their answer once they have one; what they may answer is a
`ChainView`. A vote enters the current pool by being put, or by a verdict that was taken on
it while it was a future vote, and both check its origin. `Consistent` is what every write
to the pool keeps, and `VotePool.Reachable` lets a vote be written, and verdicts be applied,
any time after the lookups they rest on.
-/

namespace RethBsc

open List Parlia PoolEnv

structure EnvelopeUniverse (deps : VoteDeps) where
  envelopes : Set VoteEnvelope
  collisionFree : Set.InjOn deps.envelopeHash envelopes

/-- What lookups of headers and snapshots answer, if they do. -/
structure ChainView where
  header : B256 → Option Header
  snapshot : B256 → Option Snapshot
  genesis : Option (ℕ × B256)

/-- Whatever an environment answers is what the view holds. -/
structure PoolEnv.Agrees (env : PoolEnv) (deps : Deps) (view : ChainView) : Prop where
  header : ∀ hash x, env.canonicalHeaderByHash hash = some x → view.header hash = some x
  snapshot : ∀ snapshotByHash hash s, env.snapshotProvider = some snapshotByHash →
    snapshotByHash hash = some s → view.snapshot hash = some s
  genesis : ∀ g, env.headerByNumber 0 = some g → view.genesis = some (g.number, deps.hashSlow g)

/-- A vote names the height of its target and the source its target's snapshot justifies,
and comes from a validator of the snapshot of its target's parent. -/
def ChainView.OriginOk (view : ChainView) (vote : VoteEnvelope) : Prop :=
  ∃ header snap parentSnap, view.header vote.data.targetHash = some header ∧
    view.snapshot vote.data.targetHash = some snap ∧
    view.snapshot header.parentHash = some parentSnap ∧
    header.number = vote.data.targetNumber ∧
    Parlia.justifiedPairOf snap.voteData view.genesis =
      some (vote.data.sourceNumber, vote.data.sourceHash) ∧
    PoolEnv.hasVoteAddr parentSnap vote.voteAddress = true

lemma ChainView.OriginOk.data_eq {view : ChainView} {vote vote' : VoteEnvelope}
    (h : view.OriginOk vote) (h' : view.OriginOk vote')
    (htarget : vote.data.targetHash = vote'.data.targetHash) : vote.data = vote'.data := by
  obtain ⟨header, snap, -, hh, hs, -, hnum, hpair, -⟩ := h
  obtain ⟨header', snap', -, hh', hs', -, hnum', hpair', -⟩ := h'
  rw [← htarget, hh, Option.some.injEq] at hh'
  rw [← htarget, hs, Option.some.injEq] at hs'
  subst hh' hs'
  rw [hpair, Option.some.injEq, Prod.mk.injEq] at hpair'
  exact VoteData.ext hpair'.1 hpair'.2 (hnum.symm.trans hnum') htarget

namespace PoolEnv

variable {env : PoolEnv} {deps : Deps} {view : ChainView}

lemma justifiedPairForHash_eq_some (ha : env.Agrees deps view) {hash : B256} {pair : ℕ × B256}
    (h : env.justifiedPairForHash deps hash = some pair) :
    ∃ snap, view.snapshot hash = some snap ∧
      justifiedPairOf snap.voteData view.genesis = some pair := by
  unfold justifiedPairForHash at h
  obtain ⟨snapshotByHash, hsp, h⟩ := Option.bind_eq_some_iff.mp h
  obtain ⟨snap, hsnap, h⟩ := Option.bind_eq_some_iff.mp h
  refine ⟨snap, ha.snapshot _ _ _ hsp hsnap, ?_⟩
  unfold justifiedPairOf at h ⊢
  split_ifs at h ⊢ with hz
  · obtain ⟨g, hg, rfl⟩ := Option.map_eq_some_iff.mp h
    exact ha.genesis g hg
  · exact h

theorem verifyVoteOrigin_eq_ok (ha : env.Agrees deps view) {vote : VoteEnvelope}
    (h : env.verifyVoteOrigin deps vote = .ok) : view.OriginOk vote := by
  unfold verifyVoteOrigin at h
  split at h
  · cases h
  next header hheader =>
  split_ifs at h with hnum
  split at h
  · cases h
  next number hash hpair =>
  split_ifs at h with hsrc
  split at h
  · cases h
  next parentSnap hparent =>
  split_ifs at h with hmem
  obtain ⟨snap, hsnap, hjust⟩ := justifiedPairForHash_eq_some ha hpair
  obtain ⟨snapshotByHash, hsp, hps⟩ := Option.bind_eq_some_iff.mp hparent
  simp only [not_or, not_not] at hsrc hnum
  refine ⟨header, snap, parentSnap, ha.header _ _ hheader, hsnap,
    ha.snapshot _ _ _ hsp hps, hnum, ?_, hmem⟩
  rw [hjust, hsrc.1, hsrc.2]

end PoolEnv

/-! ### What every write keeps -/

/-- What holds of the votes of a pool with these current and future buckets. -/
structure Consistent (deps : VoteDeps) (U : EnvelopeUniverse deps) (view : ChainView)
    (received : Finset B256) (cur future : B256 → List VoteEntry) : Prop where
  key : ∀ h, ∀ e ∈ cur h ++ future h, e.envelope.data.targetHash = h
  known : ∀ h, ∀ e ∈ cur h ++ future h, e.envelope ∈ U.envelopes ∧
    e.hash = deps.envelopeHash e.envelope
  signed : ∀ h, ∀ e ∈ cur h ++ future h, verifyVoteEnvelope deps e.envelope = true
  origin : ∀ h, ∀ e ∈ cur h, view.OriginOk e.envelope
  received : ∀ h, ∀ e ∈ cur h ++ future h, e.hash ∈ received
  nodup : ∀ h, ((cur h ++ future h).map VoteEntry.hash).Nodup

namespace Consistent

variable {deps : VoteDeps} {U : EnvelopeUniverse deps} {view : ChainView}
  {received : Finset B256} {cur future : B256 → List VoteEntry}

lemma eq_of_hash_eq (hc : Consistent deps U view received cur future) {h h' : B256}
    {e e' : VoteEntry} (he : e ∈ cur h ++ future h) (he' : e' ∈ cur h' ++ future h')
        (hash : e.hash = e'.hash) :
    h = h' ∧ e = e' := by
  have henv : e.envelope = e'.envelope := by
    refine U.collisionFree (hc.known h e he).1 (hc.known h' e' he').1 ?_
    rw [← (hc.known h e he).2, ← (hc.known h' e' he').2, hash]
  have hh : h = h' := by rw [← hc.key h e he, ← hc.key h' e' he', henv]
  subst hh
  exact ⟨rfl, inj_on_of_nodup_map (hc.nodup h) he he' hash⟩

end Consistent

/-! ### Reachable pools -/

namespace VotePool

variable {heap : VoteHeap} {deps : VoteDeps}
  {U : EnvelopeUniverse deps} {view : ChainView} {pool : VotePool heap}

/-- Verdicts that lookups gave, at whatever moments, on votes an earlier pool held. -/
def JudgedFrom (deps : VoteDeps) (view : ChainView) (earlier : VotePool heap)
    (resolved : Resolved) : Prop :=
  ∀ h verdicts k, resolved.get h = some verdicts → verdicts.get k = some true →
    ∃ (env : PoolEnv) (e : VoteEntry), env.Agrees deps.toDeps view ∧
      e ∈ messagesOf earlier.futureVotes h ∧ e.hash = k ∧
      env.verifyVoteOrigin deps.toDeps e.envelope = .ok

/-- The pools that puts and promotions lead to, however they are interleaved: a vote that
was let in may be written to any later pool, and verdicts may be applied to any later one. -/
inductive Reachable (deps : VoteDeps) (U : EnvelopeUniverse deps) (view : ChainView) :
    VotePool heap → Prop
  | new : Reachable deps U view VotePool.new
  | write {node : PoolNode heap} (needHeadWork : Bool) {env : PoolEnv} {vote : VoteEnvelope}
      {p : Pending} (before : Reachable deps U view node.pool)
      (agrees : env.Agrees deps.toDeps view)
      (known : vote ∈ U.envelopes) (signed : verifyVoteEnvelope deps vote = true)
      (letIn : (PoolNode.classify deps env vote).1 = some p) :
      Reachable deps U view (node.write deps needHeadWork p).pool
  | promote {pool earlier : VotePool heap} (latest : ℕ) {resolved : Resolved}
      (before : Reachable deps U view pool) (read : Reachable deps U view earlier)
      (judged : JudgedFrom deps view earlier resolved) :
      Reachable deps U view (pool.applyPromotion latest resolved).1

/-- The invariant of a pool. -/
def Ok (deps : VoteDeps) (U : EnvelopeUniverse deps) (view : ChainView) (pool : VotePool heap) :
    Prop :=
  Consistent deps U view pool.receivedVotes (messagesOf pool.curVotes)
    (messagesOf pool.futureVotes)

/-- Every good verdict was taken on a known envelope whose origin is in order. -/
def VerdictsOk (deps : VoteDeps) (U : EnvelopeUniverse deps) (view : ChainView)
    (resolved : Resolved) : Prop :=
  ∀ h verdicts k, resolved.get h = some verdicts → verdicts.get k = some true →
    ∃ vote ∈ U.envelopes, deps.envelopeHash vote = k ∧ view.OriginOk vote

variable {resolved : Resolved} {vote : VoteEnvelope} {env : PoolEnv}

lemma JudgedFrom.verdictsOk {earlier : VotePool heap} (hj : JudgedFrom deps view earlier resolved)
    (hok : earlier.Ok deps U view) : VerdictsOk deps U view resolved := by
  intro h verdicts k hget htrue
  obtain ⟨env, e, hagrees, he, hhash, horigin⟩ := hj h verdicts k hget htrue
  have hknown := hok.known h e (mem_append_right _ he)
  exact ⟨e.envelope, hknown.1, by rw [← hknown.2, hhash], verifyVoteOrigin_eq_ok hagrees horigin⟩

/-! ### One write -/

/-- Every vote is a signed envelope under its hash, and every current one has its origin in
order. -/
def Vouched (deps : VoteDeps) (U : EnvelopeUniverse deps) (view : ChainView)
    (pool : VotePool heap) : Prop :=
  (∀ e ∈ pool.pooled, (e.envelope ∈ U.envelopes ∧ e.hash = deps.envelopeHash e.envelope) ∧
    verifyVoteEnvelope deps e.envelope = true) ∧
  ∀ e ∈ contents pool.curVotes, view.OriginOk e.envelope

lemma Vouched.of_within {pool' : VotePool heap} (h : pool.Vouched deps U view)
    (hw : pool'.Within pool) : pool'.Vouched deps U view := by
  have hcur : contents pool'.curVotes ⊆ contents pool.curVotes := by
    intro e he
    obtain ⟨hash, he⟩ := mem_contents_iff.mp he
    exact mem_contents_iff.mpr ⟨hash, (hw hash).1.subset he⟩
  have hfuture : contents pool'.futureVotes ⊆ contents pool.futureVotes := by
    intro e he
    obtain ⟨hash, he⟩ := mem_contents_iff.mp he
    exact mem_contents_iff.mpr ⟨hash, (hw hash).2.subset he⟩
  refine ⟨fun e he => h.1 e ?_, fun e he => h.2 e (hcur he)⟩
  exact mem_append.mpr ((mem_append.mp he).imp (hcur ·) (hfuture ·))

lemma Vouched.insert (h : pool.Vouched deps U view) {isFuture : Bool} (authenticated : Bool)
    (known : vote ∈ U.envelopes) (signed : verifyVoteEnvelope deps vote)
    (origin : isFuture = false → view.OriginOk vote) :
    (pool.insert deps vote isFuture authenticated).1.Vouched deps U view := by
  by_cases hnew : deps.envelopeHash vote ∈ pool.receivedVotes
  · rwa [insert_of_mem deps pool hnew]
  have hadd := fun buckets => contents_extendBucket buckets vote.data.targetHash
    [⟨deps.envelopeHash vote, vote, authenticated⟩]
  obtain ⟨hpooled, hcur⟩ := h
  cases isFuture with
  | true =>
    simp only [VotePool.insert, hnew, if_false, if_true, Vouched, pooled, mem_append,
      (hadd _).mem_iff] at hpooled ⊢
    refine ⟨fun e he => ?_, hcur⟩
    rcases he with he | he | he
    · exact hpooled e (.inl he)
    · exact hpooled e (.inr he)
    · obtain rfl := mem_singleton.mp he
      exact ⟨⟨known, rfl⟩, signed⟩
  | false =>
    simp only [VotePool.insert, hnew, if_false, Bool.false_eq_true, Vouched, pooled,
      mem_append, (hadd _).mem_iff] at hpooled ⊢
    refine ⟨fun e he => ?_, fun e he => ?_⟩
    · rcases he with (he | he) | he
      · exact hpooled e (.inl he)
      · obtain rfl := mem_singleton.mp he
        exact ⟨⟨known, rfl⟩, signed⟩
      · exact hpooled e (.inr he)
    · rcases he with he | he
      · exact hcur e he
      · obtain rfl := mem_singleton.mp he
        exact origin rfl

lemma Vouched.write {node : PoolNode heap} (h : node.pool.Vouched deps U view)
    (needHeadWork : Bool) {p : Pending} (known : p.vote ∈ U.envelopes)
    (signed : verifyVoteEnvelope deps p.vote)
    (origin : p.isFuture = false → view.OriginOk p.vote) :
    (node.write deps needHeadWork p).pool.Vouched deps U view := by
  have hins := h.insert p.authenticated known signed origin
  unfold PoolNode.write
  split_ifs
  · exact h
  · exact (hins.of_within (prune_within _ _)).of_within (relieve_within _ _)
  · exact hins.of_within (relieve_within _ _)

lemma Vouched.applyPromotion (h : pool.Vouched deps U view) (hrep : pool.Represented)
    (hv : VerdictsOk deps U view resolved) (latest : ℕ) :
    (pool.applyPromotion latest resolved).1.Vouched deps U view := by
  obtain ⟨⟨dropped, hperm, -⟩, hcur⟩ := (hrep.applyPromotion latest resolved).2
  have hpooled := fun e he => h.1 e (hperm.mem_iff.mpr (mem_append_right dropped he))
  refine ⟨hpooled, fun e he => ?_⟩
  rcases hcur e he with he' | hverdict
  · exact h.2 e he'
  · obtain ⟨verdicts, hget, htrue⟩ := Option.bind_eq_some_iff.mp hverdict
    obtain ⟨vote, hvote, hhash, horigin⟩ := hv _ verdicts e.hash hget htrue
    have hknown := (hpooled e (mem_append_left _ he)).1
    have heq : e.envelope = vote := U.collisionFree hknown.1 hvote (by rw [← hknown.2, hhash])
    rwa [heq]

lemma Vouched.ok (h : pool.Vouched deps U view) (hrep : pool.Represented) :
    pool.Ok deps U view := by
  have hpooled : ∀ hash, ∀ e ∈ messagesOf pool.curVotes hash ++ messagesOf pool.futureVotes hash,
      e ∈ pool.pooled ∧ e.envelope.data.targetHash = hash := by
    intro hash e he
    rw [mem_append, hrep.cur.mem_messagesOf_iff, hrep.future.mem_messagesOf_iff] at he
    rw [pooled, mem_append]
    tauto
  refine ⟨fun hash e he => (hpooled hash e he).2, fun hash e he => (h.1 e (hpooled hash e he).1).1,
    fun hash e he => (h.1 e (hpooled hash e he).1).2,
    fun hash e he => h.2 e (hrep.cur.mem_messagesOf_iff.mp he).1, fun hash e he => ?_,
    fun hash => ?_⟩
  · rw [hrep.tally.received, mem_toFinset]
    exact mem_map_of_mem (hpooled hash e he).1
  · -- the two buckets are part of all votes
    have hsub : (messagesOf pool.curVotes hash ++ messagesOf pool.futureVotes hash).Subperm
        pool.pooled :=
      (((sublist_append_left _ _).subperm.trans
        (contents_remove pool.curVotes hash).symm.subperm).append
        ((sublist_append_left _ _).subperm.trans
          (contents_remove pool.futureVotes hash).symm.subperm))
    obtain ⟨l, hperm, hl⟩ := hsub
    exact (hperm.map _).nodup_iff.mp ((hl.map _).nodup hrep.tally.nodup)

/-! ### Whole runs -/

lemma classify_eq_some {p : Pending} (h : (PoolNode.classify deps env vote).1 = some p) :
    p.vote = vote ∧ (p.isFuture = false → env.verifyVoteOrigin deps.toDeps vote = .ok) := by
  unfold PoolNode.classify at h
  simp only at h
  split at h
  · split at h <;> cases h <;> exact ⟨rfl, fun hf => by cases hf⟩
  · split at h
    · next hok => cases h; exact ⟨rfl, fun _ => hok⟩
    · cases h
    · cases h

lemma Reachable.represented (h : Reachable deps U view pool) : pool.Represented := by
  induction h with
  | new => exact represented_new
  | write needHeadWork before agrees known signed letIn ih => exact ih.write deps needHeadWork _
  | promote latest before read judged ih ihread => exact (ih.applyPromotion latest _).1

lemma Reachable.vouched (h : Reachable deps U view pool) : pool.Vouched deps U view := by
  induction h with
  | new => exact ⟨forall_mem_nil _, forall_mem_nil _⟩
  | write needHeadWork before agrees known signed letIn ih =>
    obtain ⟨rfl, horigin⟩ := classify_eq_some letIn
    exact ih.write needHeadWork known signed fun hf => verifyVoteOrigin_eq_ok agrees (horigin hf)
  | promote latest before read judged ih ihread =>
    exact ih.applyPromotion before.represented
      (judged.verdictsOk (ihread.ok read.represented)) latest

/-- **Every reachable pool is consistent.** -/
theorem Reachable.ok (h : Reachable deps U view pool) : pool.Ok deps U view :=
  h.vouched.ok h.represented

lemma judgedFrom_resolve (agrees : env.Agrees deps.toDeps view) (latest : ℕ) :
    JudgedFrom deps view pool (resolve deps env (pool.promotionCandidates latest)) := by
  intro h verdicts k hget htrue
  have hmem := OrdMap.mem_of_get_ofList hget
  obtain ⟨c, hc, hpair⟩ := mem_map.mp hmem
  cases hpair
  obtain ⟨e, he, hpair⟩ := mem_map.mp (OrdMap.mem_of_get_ofList htrue)
  obtain ⟨hhash, hok⟩ := Prod.mk.inj hpair
  obtain ⟨-, n, -, hvotes, -⟩ := votes_of_mem_candidatesFrom (mem_of_mem_filter hc)
  rw [hvotes] at he
  exact ⟨env, e, agrees, mem_of_mem_take he, hhash, by simpa using hok⟩

lemma Reachable.promoteFutureVotes (agrees : env.Agrees deps.toDeps view)
    (h : Reachable deps U view pool) (headNumber : ℕ) :
    Reachable deps U view (pool.promoteFutureVotes deps env headNumber) := by
  unfold VotePool.promoteFutureVotes
  simp only
  split_ifs
  · exact h
  · exact h
  · exact h.promote headNumber h (judgedFrom_resolve agrees headNumber)

lemma Reachable.putVote {node : PoolNode heap} (agrees : env.Agrees deps.toDeps view)
    (h : Reachable deps U view node.pool) (known : vote ∈ U.envelopes) :
    Reachable deps U view (node.putVote deps env vote).pool := by
  have hadmit : ∀ p, (node.admitVote deps env vote).1 = some p →
      verifyVoteEnvelope deps vote = true ∧ (PoolNode.classify deps env vote).1 = some p := by
    intro p hp
    unfold PoolNode.admitVote at hp
    simp only at hp
    split_ifs at hp with h1 h2 h3 h4
    all_goals exact ⟨by simpa using h4, hp⟩
  unfold PoolNode.putVote
  simp only
  split
  · exact h
  · next p hp =>
    obtain ⟨signed, letIn⟩ := hadmit p hp
    split_ifs
    · exact Reachable.write _ (h.promoteFutureVotes agrees _) agrees known signed letIn
    · exact Reachable.write _ h agrees known signed letIn

/-! ### Early finality -/

def UniqueSignatures (deps : VoteDeps) : Prop :=
  ∀ voteAddress data s s', verifyVoteEnvelope deps ⟨voteAddress, s, data⟩ = true →
    verifyVoteEnvelope deps ⟨voteAddress, s', data⟩ = true → s = s'

section

variable (hok : pool.Ok deps U view)
include hok

lemma Ok.mem_fetch {hash : B256} (hvote : vote ∈ pool.fetchVoteByBlockHash hash) :
    vote.data.targetHash = hash ∧ view.OriginOk vote ∧ verifyVoteEnvelope deps vote := by
  obtain ⟨e, he, rfl⟩ := mem_map.mp hvote
  have he' := mem_append_left (messagesOf pool.futureVotes hash) he
  exact ⟨hok.key hash e he', hok.origin hash e he, hok.signed hash e he'⟩

lemma Ok.data_eq {hash : B256} {vote' : VoteEnvelope}
    (hvote : vote ∈ pool.fetchVoteByBlockHash hash)
    (hvote' : vote' ∈ pool.fetchVoteByBlockHash hash) : vote.data = vote'.data := by
  obtain ⟨htarget, horigin, -⟩ := hok.mem_fetch hvote
  obtain ⟨htarget', horigin', -⟩ := hok.mem_fetch hvote'
  exact horigin.data_eq horigin' (htarget.trans htarget'.symm)

lemma Ok.nodup_voteAddress (hunique : UniqueSignatures deps)
    (hash : B256) : ((pool.fetchVoteByBlockHash hash).map VoteEnvelope.voteAddress).Nodup := by
  have hnodup : ((messagesOf pool.curVotes hash).map VoteEntry.hash).Nodup :=
    ((sublist_append_left _ _).map _).nodup (hok.nodup hash)
  rw [fetchVoteByBlockHash, map_map]
  refine List.Nodup.map_on (fun e he e' he' heq => ?_) (List.Nodup.of_map _ hnodup)
  -- two votes of one sender in the bucket are one envelope, and so one entry
  have hmem := mem_map_of_mem (f := VoteEntry.envelope) he
  have hmem' := mem_map_of_mem (f := VoteEntry.envelope) he'
  have hdata := hok.data_eq hmem hmem'
  have hsigned := (hok.mem_fetch hmem).2.2
  have hsigned' := (hok.mem_fetch hmem').2.2
  have hsig : e.envelope.signature = e'.envelope.signature := by
    refine hunique e.envelope.voteAddress e.envelope.data _ _ hsigned ?_
    rw [show e.envelope.voteAddress = e'.envelope.voteAddress from heq, hdata]
    exact hsigned'
  have henv : e.envelope = e'.envelope := VoteEnvelope.ext heq hsig hdata
  have hin := mem_append_left (messagesOf pool.futureVotes hash) he
  have hin' := mem_append_left (messagesOf pool.futureVotes hash) he'
  refine (hok.eq_of_hash_eq hin hin' ?_).2
  rw [(hok.known hash e hin).2, (hok.known hash e' hin').2, henv]

/-- Pooled votes finalize the head's parent only if a quorum of different validators of the
head's parent snapshot voted from the parent to the head. -/
lemma Ok.exists_signers (hunique : UniqueSignatures deps)
    {snapshotByHash : B256 → Option Snapshot} {snap : Snapshot} {header : Header}
    (hsnap : view.snapshot (deps.hashSlow header) = some snap)
    (hparent : ∀ s, snapshotByHash header.parentHash = some s →
      view.snapshot header.parentHash = some s)
    (hheader : view.header (deps.hashSlow header) = some header)
    (hearly : finalizedEarly deps.toDeps pool.fetchVoteByBlockHash snapshotByHash snap header) :
    ∃ (parentSnap : Snapshot) (signers : Finset VoteAddress),
      snapshotByHash header.parentHash = some parentSnap ∧
      atLeastVotes parentSnap.validators.length ≤ signers.card ∧
      ∀ a ∈ signers, hasVoteAddr parentSnap a ∧ ∃ vote : VoteEnvelope,
        vote.voteAddress = a ∧ verifyVoteEnvelope deps vote ∧
        vote.data.sourceNumber + 1 = header.number ∧ vote.data.targetNumber = header.number ∧
        vote.data.targetHash = deps.hashSlow header ∧
        justifiedPairOf snap.voteData view.genesis =
          some (vote.data.sourceNumber, vote.data.sourceHash) := by
  simp only [finalizedEarly, Bool.and_eq_true, decide_eq_true_eq] at hearly
  obtain ⟨⟨hpos, hnum⟩, hquorum⟩ := hearly
  split at hquorum
  · cases hquorum
  next parentSnap hps =>
  simp only [Bool.and_eq_true, decide_eq_true_eq] at hquorum
  let eligible := (pool.fetchVoteByBlockHash (deps.hashSlow header)).filter fun vote =>
    decide (vote.data.sourceNumber = snap.voteData.targetNumber) &&
      decide (vote.data.targetNumber = header.number)
  have hnodup : (eligible.map VoteEnvelope.voteAddress).Nodup :=
    (filter_sublist.map _).nodup (hok.nodup_voteAddress hunique (deps.hashSlow header))
  refine ⟨parentSnap, (eligible.map VoteEnvelope.voteAddress).toFinset, hps, ?_, fun a ha => ?_⟩
  · rw [toFinset_card_of_nodup hnodup, length_map, ← countP_eq_length_filter]
    exact hquorum.2
  · obtain ⟨vote, hvote, rfl⟩ := mem_map.mp (mem_toFinset.mp ha)
    obtain ⟨hin, hp⟩ := mem_filter.mp hvote
    simp only [Bool.and_eq_true, decide_eq_true_eq] at hp
    obtain ⟨htarget, ⟨header', snap', parentSnap', hh, hs, hp', -, hpair, hmem⟩, hsigned⟩ :=
      hok.mem_fetch hin
    rw [htarget, hheader, Option.some.injEq] at hh
    rw [htarget, hsnap, Option.some.injEq] at hs
    subst hh hs
    rw [hparent parentSnap hps, Option.some.injEq] at hp'
    subst hp'
    exact ⟨hmem, vote, rfl, hsigned, by omega, hp.2, htarget, hpair⟩

end

/-- **Early finality counts distinct validators.** In every pool that puts and promotions
lead to, the current votes for a block carry one and the same vote data, the block's height
and the source its snapshot justifies, and come from different vote addresses of the
validators of its parent's snapshot. So when the parent of a head is reported as finalized
and would not be without the pooled votes, a quorum of different vote addresses of that
snapshot signed the vote from the parent to the head. -/
theorem currentVotes_distinct (h : Reachable deps U view pool) (hunique : UniqueSignatures deps) :
    (∀ hash, ∀ vote ∈ pool.fetchVoteByBlockHash hash, ∃ header snap parentSnap source,
      view.header hash = some header ∧ view.snapshot hash = some snap ∧
      view.snapshot header.parentHash = some parentSnap ∧
      Parlia.justifiedPairOf snap.voteData view.genesis = some source ∧
      vote.data = ⟨source.1, source.2, header.number, hash⟩ ∧
      ∃ info ∈ parentSnap.validatorsMap.values, info.voteAddr = vote.voteAddress) ∧
    (∀ hash, ((pool.fetchVoteByBlockHash hash).map VoteEnvelope.voteAddress).Nodup) ∧
    (∀ (parlia : Parlia) (snapshotByHash : B256 → Option Snapshot) (header : Header) (n : ℕ)
      (finalizedHash : B256),
      (∀ hash s, snapshotByHash hash = some s → view.snapshot hash = some s) →
      view.header (deps.hashSlow header) = some header →
      parlia.getFinalizedNumberAndHash deps.toDeps (some snapshotByHash)
        pool.fetchVoteByBlockHash header = some (n, finalizedHash) →
      parlia.getFinalizedNumberAndHash deps.toDeps (some snapshotByHash) (fun _ => []) header ≠
        some (n, finalizedHash) →
      n + 1 = header.number ∧ ∃ (parentSnap : Snapshot) (signers : Finset VoteAddress),
        snapshotByHash header.parentHash = some parentSnap ∧
        Parlia.atLeastVotes parentSnap.validators.length ≤ signers.card ∧
        ∀ a ∈ signers, (∃ info ∈ parentSnap.validatorsMap.values, info.voteAddr = a) ∧
          ∃ vote : VoteEnvelope, vote.voteAddress = a ∧ verifyVoteEnvelope deps vote = true ∧
            vote.data.sourceNumber + 1 = header.number ∧
            vote.data.targetNumber = header.number ∧
            vote.data.targetHash = deps.hashSlow header) := by
  have hok := h.ok
  refine ⟨fun hash vote hvote => ?_, hok.nodup_voteAddress hunique, ?_⟩
  · obtain ⟨rfl, ⟨header, snap, parentSnap, hh, hs, hp, hnum, hpair, hmem⟩, -⟩ :=
      hok.mem_fetch hvote
    refine ⟨header, snap, parentSnap, _, hh, hs, hp, hpair, VoteData.ext rfl rfl hnum.symm rfl, ?_⟩
    simpa [hasVoteAddr] using hmem
  · intro parlia snapshotByHash header n finalizedHash hview hheader hfin hempty
    unfold getFinalizedNumberAndHash at hfin hempty
    split_ifs at hfin hempty with hplato
    obtain ⟨_, hsp, hfin⟩ := Option.bind_eq_some_iff.mp hfin
    cases hsp
    obtain ⟨snap, hsnap, hfin⟩ := Option.bind_eq_some_iff.mp hfin
    have hearly : finalizedEarly deps.toDeps pool.fetchVoteByBlockHash snapshotByHash snap
        header = true := by
      -- otherwise the answer is the one without votes
      by_contra hnot
      refine hempty ?_
      rw [if_neg hnot] at hfin
      simp only [Option.bind_eq_bind, Option.bind_some, hsnap, finalizedEarly_nil,
        Bool.false_eq_true, if_false, hfin]
    rw [if_pos hearly, Option.some.injEq, Prod.mk.injEq] at hfin
    obtain ⟨parentSnap, signers, hps, hcard, hsigners⟩ :=
      hok.exists_signers hunique (hview _ _ hsnap) (hview _) hheader hearly
    simp only [finalizedEarly, Bool.and_eq_true, decide_eq_true_eq] at hearly
    refine ⟨by omega, parentSnap, signers, hps, hcard, fun a ha => ?_⟩
    obtain ⟨hmem, vote, hv, hsigned, hsource, htarget, hhash, -⟩ := hsigners a ha
    exact ⟨by simpa [hasVoteAddr] using hmem, vote, hv, hsigned, hsource, htarget, hhash⟩

end VotePool

/-! ### A parent finalized by two votes -/

/-- Every key signs with the zero signature and no other, and votes are told apart by their
voters. -/
def switchDeps : VoteDeps :=
  { sampleDeps true with
    envelopeHash := fun vote => BitVec.ofNat 256 vote.voteAddress.toNat
    verify := fun (sig : VoteSignature) _ _ => decide (sig = 0)
    aggregate := List.head?
    signatureToBytes := id
    encodeAttestation := fun _ => [] }

/-- The snapshots of the first branch with other validators: `own` of them from block 3 on and
`parent` before. -/
def switchSnapshots (own parent : ℕ) (hash : B256) : Option Snapshot :=
  (soloSnapshots hash).map fun snap =>
    let n := if snap.blockNumber = 3 then own else parent
    { snap with
      validators := (List.range n).map (Fin.ofNat _)
      validatorsMap := OrdMap.ofList ((List.range n).map fun i =>
        (Fin.ofNat _ i, ⟨i + 1, BitVec.ofNat 384 i⟩)) }

/-- The vote of a validator from block 2 to block 3. -/
def switchVote (i : ℕ) : VoteEnvelope where
  voteAddress := BitVec.ofNat 384 i
  signature := 0
  data := ⟨2, (sampleDeps true).hashSlow (soloHeaders 0 (soloVotes 0) 2), 3,
    (sampleDeps true).hashSlow (soloHeaders 0 (soloVotes 0) 3)⟩

def switchEnvelopes : EnvelopeUniverse switchDeps where
  envelopes := {switchVote 0, switchVote 1}
  collisionFree := Set.injOn_pair.mpr fun h => absurd h (by decide)

section

variable (own parent : ℕ)

/-- A node that holds the first branch up to block 3. -/
def switchHolds : PoolEnv where
  bestCanonicalBlockNumber := some 3
  headerByHash := some (soloReader true soloBranches).byHash
  headerByNumber := (soloReader true soloBranches).canonical
  snapshotProvider := some (switchSnapshots own parent)

def switchView : ChainView where
  header := (soloReader true soloBranches).byHash
  snapshot := switchSnapshots own parent
  genesis := ((soloReader true soloBranches).canonical 0).map fun g =>
    (g.number, (sampleDeps true).hashSlow g)

def twoVotes : PoolNode (MinHeap.sortedList VoteData.targetNumber) :=
  (PoolNode.new.putVote switchDeps (switchHolds own parent) (switchVote 0)).putVote switchDeps
    (switchHolds own parent) (switchVote 1)

lemma switchHolds_agrees :
    (switchHolds own parent).Agrees switchDeps.toDeps (switchView own parent) where
  header _ _ h := h
  snapshot _ _ _ h hs := by cases h; exact hs
  genesis g h := by
    have hg : (switchView own parent).genesis = ((switchHolds own parent).headerByNumber 0).map
      fun g => (g.number, (sampleDeps true).hashSlow g) := rfl
    rw [hg, h]; rfl

lemma twoVotes_reachable :
    (twoVotes own parent).pool.Reachable switchDeps switchEnvelopes (switchView own parent) := by
  have hagrees := switchHolds_agrees own parent
  refine .putVote hagrees (.putVote hagrees .new ?_) ?_
  · exact Set.mem_insert _ _
  · exact Set.mem_insert_of_mem _ (Set.mem_singleton _)

end

lemma switchDeps_unique : VotePool.UniqueSignatures switchDeps := by
  intro a d s s' h h'
  exact (of_decide_eq_true h).trans (of_decide_eq_true h').symm

/-- The votes of two of three validators make the node report block 2 as finalized instead of
block 1, and two vote addresses have signed it. -/
theorem currentVotes_distinct_two : ∃ signers : Finset VoteAddress, 2 ≤ signers.card ∧
    ∀ a ∈ signers, ∃ vote : VoteEnvelope, vote.voteAddress = a ∧
      verifyVoteEnvelope switchDeps vote = true ∧ vote.data.targetNumber = 3 := by
  have hfin : (soloParlia (.block 0)).getFinalizedNumberAndHash (sampleDeps true)
      (some (switchSnapshots 3 3)) (twoVotes 3 3).pool.fetchVoteByBlockHash
        ((soloChain 0).header 3) =
          some (2, (sampleDeps true).hashSlow ((soloChain 0).header 2)) := by decide +kernel
  have hempty : (soloParlia (.block 0)).getFinalizedNumberAndHash (sampleDeps true)
      (some (switchSnapshots 3 3)) (fun _ => []) ((soloChain 0).header 3) ≠
        some (2, (sampleDeps true).hashSlow ((soloChain 0).header 2)) := by decide +kernel
  have hthree : (switchSnapshots 3 3 ((soloChain 0).header 3).parentHash).map
      (fun snap => snap.validators.length) = some 3 := by decide +kernel
  obtain ⟨-, -, hearly⟩ := VotePool.currentVotes_distinct (twoVotes_reachable 3 3) switchDeps_unique
  obtain ⟨-, parentSnap, signers, hps, hcard, hsigners⟩ := hearly (soloParlia (.block 0))
    (switchSnapshots 3 3) ((soloChain 0).header 3) 2 _ (fun _ _ h => h) (by decide +kernel) hfin
    hempty
  rw [hps, Option.map_some, Option.some.injEq] at hthree
  rw [hthree] at hcard
  refine ⟨signers, hcard, fun a ha => ?_⟩
  obtain ⟨-, vote, hvote, hsigned, -, htarget, -⟩ := hsigners a ha
  exact ⟨vote, hvote, hsigned, htarget⟩

end RethBsc
