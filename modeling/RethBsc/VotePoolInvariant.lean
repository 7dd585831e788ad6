import RethBsc.Promotion

/-!
What the five parts of a vote pool have in common.

The pool keeps its votes in two maps of buckets, beside a queue for each map, the set of the
hashes it has received and a total. `Represented` says that these agree, and every operation
keeps it: a bucket comes with its queue entry and goes with it, and the hashes and the total
follow the votes. Verdicts of a promotion may have been taken on any earlier pool, so
`applyPromotion` is an operation for all verdicts.
-/

namespace RethBsc

open List VotePool OrdMap

/-! ### Buckets -/

/-- A bucket of votes for one hash, with the right number of authenticated ones. -/
structure VoteMessages.Ok (hash : B256) (vm : VoteMessages) : Prop where
  nonempty : vm.voteMessages ≠ []
  authenticated : vm.authenticated = vm.voteMessages.countP (·.authenticated)
  key : ∀ e ∈ vm.voteMessages, e.envelope.data.targetHash = hash

/-- Every bucket is in order and has exactly one queue entry, and no other entry is queued. -/
structure Tracks (buckets : OrdMap B256 VoteMessages) (queue : List VoteData) : Prop where
  bucket : ∀ hash vm, buckets.get hash = some vm → vm.Ok hash
  queue : (queue.map VoteData.targetHash).Perm (buckets.entries.map Prod.fst)

section Buckets

variable {buckets : OrdMap B256 VoteMessages} {queue queue' : List VoteData} {hash : B256}
  {entries : List VoteEntry} {vd : VoteData}

lemma contents_eq (buckets : OrdMap B256 VoteMessages) :
    contents buckets = buckets.entries.flatMap fun e => e.2.voteMessages := by
  rw [contents, values, flatMap_map]

lemma contents_remove (buckets : OrdMap B256 VoteMessages) (hash : B256) :
    (contents buckets).Perm (messagesOf buckets hash ++ contents (buckets.remove hash)) := by
  rw [contents_eq, contents_eq, messagesOf]
  cases hget : buckets.get hash with
  | none => rw [remove_of_get_eq_none hget]; exact List.Perm.refl _
  | some vm => exact (perm_remove hget).flatMap_right _

lemma mem_messagesOf {e : VoteEntry} :
    e ∈ messagesOf buckets hash ↔ ∃ vm, buckets.get hash = some vm ∧ e ∈ vm.voteMessages := by
  cases hget : buckets.get hash <;> simp [messagesOf, hget]

lemma mem_contents_iff {e : VoteEntry} :
    e ∈ contents buckets ↔ ∃ hash, e ∈ messagesOf buckets hash := by
  simp only [contents, mem_flatMap, mem_values, mem_messagesOf]
  constructor
  · rintro ⟨vm, ⟨hash, hget⟩, he⟩
    exact ⟨hash, vm, hget, he⟩
  · rintro ⟨hash, vm, hget, he⟩
    exact ⟨vm, ⟨hash, hget⟩, he⟩

lemma contents_extendBucket (buckets : OrdMap B256 VoteMessages) (hash : B256)
    (entries : List VoteEntry) :
    (contents (extendBucket buckets hash entries)).Perm (contents buckets ++ entries) := by
  have hbucket : ((buckets.get hash).getD ⟨[], 0⟩).voteMessages = messagesOf buckets hash := by
    cases hget : buckets.get hash <;> simp [messagesOf, hget]
  have hins : (contents (extendBucket buckets hash entries)).Perm
      ((messagesOf buckets hash ++ entries) ++ contents (buckets.remove hash)) := by
    rw [contents_eq, contents_eq, extendBucket, hbucket]
    exact (perm_insert _ _ _).flatMap_right _
  calc List.Perm (contents (extendBucket buckets hash entries)) _ := hins
    List.Perm _ (messagesOf buckets hash ++ contents (buckets.remove hash) ++ entries) := by
      rw [append_assoc, append_assoc]
      exact perm_append_comm.append_left _
    List.Perm _ (contents buckets ++ entries) := (contents_remove buckets hash).symm.append_right _

namespace Tracks

variable {e : VoteEntry}

lemma remove (h : Tracks buckets (vd :: queue)) : Tracks (buckets.remove vd.targetHash) queue := by
  have hcontains : vd.targetHash ∈ buckets.entries.map Prod.fst := h.queue.mem_iff.mp (by simp)
  obtain ⟨vm, hget⟩ := OrdMap.contains_iff.mp (OrdMap.mem_keys.mp hcontains)
  refine ⟨fun hash vm' hget' => h.bucket hash vm' (get_remove_eq_some.mp hget').2, ?_⟩
  have hkeys := h.queue.trans ((perm_remove hget).map Prod.fst)
  rw [map_cons, map_cons] at hkeys
  exact hkeys.cons_inv

variable (h : Tracks buckets queue)
include h

lemma perm (hperm : queue.Perm queue') : Tracks buckets queue' :=
  ⟨h.bucket, (hperm.map _).symm.trans h.queue⟩

lemma contains_iff : buckets.contains hash ↔ ∃ vd ∈ queue, vd.targetHash = hash := by
  rw [← OrdMap.mem_keys, ← h.queue.mem_iff, mem_map]

lemma key (he : e ∈ messagesOf buckets hash) : e.envelope.data.targetHash = hash := by
  obtain ⟨vm, hget, he⟩ := mem_messagesOf.mp he
  exact (h.bucket hash vm hget).key e he

lemma mem_messagesOf_iff :
    e ∈ messagesOf buckets hash ↔ e ∈ contents buckets ∧ e.envelope.data.targetHash = hash := by
  rw [mem_contents_iff]
  constructor
  · intro he
    exact ⟨⟨hash, he⟩, h.key he⟩
  · rintro ⟨⟨hash', he⟩, hkey⟩
    rwa [← hkey, h.key he]

lemma exists_queued (he : e ∈ contents buckets) :
    ∃ vd ∈ queue, vd.targetHash = e.envelope.data.targetHash := by
  rw [← h.contains_iff, OrdMap.contains_iff]
  obtain ⟨vm, hget, -⟩ := mem_messagesOf.mp (h.mem_messagesOf_iff.mpr ⟨he, rfl⟩)
  exact ⟨vm, hget⟩

lemma queue_unique {a b : VoteData} (ha : a ∈ queue) (hb : b ∈ queue)
    (hab : a.targetHash = b.targetHash) : a = b :=
  inj_on_of_nodup_map (h.queue.nodup_iff.mpr buckets.nodup_keys) ha hb hab

lemma extend (hne : entries ≠ [])
    (hkey : ∀ e ∈ entries, e.envelope.data.targetHash = hash) (hvd : vd.targetHash = hash) :
    Tracks (extendBucket buckets hash entries)
      (if buckets.contains hash then queue else vd :: queue) := by
  refine ⟨fun hash' vm hget => ?_, ?_⟩
  · rw [extendBucket, get_insert] at hget
    split_ifs at hget with hh
    · cases hget
      subst hh
      cases hold : buckets.get hash with
      | none =>
        exact ⟨by simpa using hne, by simp, by simpa using hkey⟩
      | some vm =>
        have hok := h.bucket hash vm hold
        refine ⟨by simp [hne], by simp [hok.authenticated], fun e he => ?_⟩
        rcases mem_append.mp he with he | he
        · exact hok.key e he
        · exact hkey e he
    · exact h.bucket hash' vm hget
  · have hkeys := (perm_insert buckets hash
      ⟨((buckets.get hash).getD ⟨[], 0⟩).voteMessages ++ entries,
        ((buckets.get hash).getD ⟨[], 0⟩).authenticated +
          entries.countP (·.authenticated)⟩).map Prod.fst
    refine List.Perm.trans ?_ hkeys.symm
    split_ifs with hcontains
    · obtain ⟨vm, hget⟩ := OrdMap.contains_iff.mp hcontains
      exact h.queue.trans ((perm_remove hget).map Prod.fst)
    · have hnone : buckets.get hash = none := by
        simpa [OrdMap.contains] using hcontains
      rw [remove_of_get_eq_none hnone, map_cons, map_cons, hvd]
      exact h.queue.cons _

end Tracks

end Buckets

/-! ### Hashes and the total -/

/-- The set of received hashes and the total belong to these votes, which have different
hashes. -/
structure Tally (received : Finset B256) (total : ℕ) (entries : List VoteEntry) : Prop where
  total : total = entries.length
  nodup : (entries.map VoteEntry.hash).Nodup
  received : received = (entries.map VoteEntry.hash).toFinset

namespace Tally

variable {received : Finset B256} {total : ℕ} {entries entries' dropped : List VoteEntry}
  {e : VoteEntry}

lemma empty : Tally ∅ 0 [] := ⟨rfl, nodup_nil, rfl⟩

lemma perm (h : Tally received total entries) (hperm : entries.Perm entries') :
    Tally received total entries' where
  total := h.total.trans hperm.length_eq
  nodup := (hperm.map _).nodup_iff.mp h.nodup
  received := h.received.trans (toFinset_eq_of_perm _ _ (hperm.map _))

lemma add (h : Tally received total entries) (hnew : e.hash ∉ received) :
    Tally (Insert.insert e.hash received) (total + 1) (e :: entries) where
  total := by rw [h.total, length_cons]
  nodup := by
    rw [h.received, mem_toFinset] at hnew
    exact nodup_cons.mpr ⟨hnew, h.nodup⟩
  received := by rw [h.received, map_cons, toFinset_cons]

lemma drop (h : Tally received total (dropped ++ entries)) :
    Tally (received \ (dropped.map VoteEntry.hash).toFinset) (total - dropped.length) entries where
  total := by rw [h.total, length_append, Nat.add_sub_cancel_left]
  nodup := by
    have hnodup := h.nodup
    rw [map_append] at hnodup
    exact hnodup.of_append_right
  received := by
    have hnodup := h.nodup
    rw [map_append] at hnodup
    rw [h.received, map_append, toFinset_append, Finset.union_sdiff_cancel_left]
    exact disjoint_toFinset_iff_disjoint.mpr (disjoint_of_nodup_append hnodup)

lemma card (h : Tally received total entries) : received.card = total := by
  rw [h.received, toFinset_card_of_nodup h.nodup, length_map, h.total]

end Tally

lemma perm_filter_verdict (verdict : VoteEntry → Option Bool) (l : List VoteEntry) :
    l.Perm (l.filter (fun e => decide (verdict e = some false)) ++
      (l.filter (fun e => decide (verdict e = some true)) ++
        l.filter fun e => decide (verdict e = none))) := by
  induction l with
  | nil => exact List.Perm.refl _
  | cons e l ih =>
    rcases hv : verdict e with _ | _ | _ <;>
      simp only [filter_cons, hv, reduceCtorEq, Option.some.injEq, decide_false, decide_true,
        Bool.true_eq_false, Bool.false_eq_true, if_false, if_true, cons_append]
    · rw [← append_assoc] at ih ⊢
      exact (ih.cons e).trans perm_middle.symm
    · exact ih.cons e
    · exact (ih.cons e).trans perm_middle.symm

/-! ### The pool -/

namespace VotePool

variable {heap : VoteHeap} {pool : VotePool heap}
  {curQueue futureQueue : List VoteData} {vd : VoteData}

/-- The votes of the pool, current and future. -/
def pooled (pool : VotePool heap) : List VoteEntry :=
  contents pool.curVotes ++ contents pool.futureVotes

/-- The parts of the pool agree, if its queues hold these entries. -/
structure RepresentedBy (pool : VotePool heap) (curQueue futureQueue : List VoteData) : Prop where
  cur : Tracks pool.curVotes curQueue
  future : Tracks pool.futureVotes futureQueue
  tally : Tally pool.receivedVotes pool.totalVotes pool.pooled

/-- The parts of the pool agree. -/
def Represented (pool : VotePool heap) : Prop :=
  pool.RepresentedBy (heap.toList pool.curVotesPq) (heap.toList pool.futureVotesPq)

section

variable (h : pool.RepresentedBy curQueue futureQueue)
include h

lemma RepresentedBy.perm {curQueue' futureQueue' : List VoteData} (hcur : curQueue.Perm curQueue')
    (hfuture : futureQueue.Perm futureQueue') : pool.RepresentedBy curQueue' futureQueue' :=
  ⟨h.cur.perm hcur, h.future.perm hfuture, h.tally⟩

lemma RepresentedBy.of_eq {pool' : VotePool heap}
    (hreceived : pool'.receivedVotes = pool.receivedVotes) (hcur : pool'.curVotes = pool.curVotes)
    (hfuture : pool'.futureVotes = pool.futureVotes) (htotal : pool'.totalVotes = pool.totalVotes) :
    pool'.RepresentedBy curQueue futureQueue := by
  refine ⟨hcur ▸ h.cur, hfuture ▸ h.future, ?_⟩
  rw [hreceived, htotal, pooled, hcur, hfuture]
  exact h.tally

lemma RepresentedBy.disjoint {e : VoteEntry}
    (hcur : e ∈ contents pool.curVotes) : e ∉ contents pool.futureVotes := by
  intro hfuture
  have hnodup := h.tally.nodup.of_map
  exact disjoint_of_nodup_append hnodup hcur hfuture

end

lemma represented_new : (new : VotePool heap).Represented := by
  have htracks : Tracks empty (heap.toList heap.empty) := by
    refine ⟨fun hash vm hget => (by cases hget), ?_⟩
    rw [heap.toList_empty]
    exact List.Perm.refl _
  exact ⟨htracks, htracks, Tally.empty⟩

lemma toList_ite_push (c : Bool) (vd : VoteData) (q : heap.Carrier) :
    (if c then heap.toList q else vd :: heap.toList q).Perm
      (heap.toList (if c then q else heap.push vd q)) := by
  split_ifs
  · exact List.Perm.refl _
  · exact (heap.toList_push vd q).symm

lemma Represented.insert (h : pool.Represented) (deps : VoteDeps) (vote : VoteEnvelope)
    (isFuture authenticated : Bool) :
    (pool.insert deps vote isFuture authenticated).1.Represented := by
  by_cases hnew : deps.envelopeHash vote ∈ pool.receivedVotes
  · rwa [insert_of_mem deps pool hnew]
  have hkey : ∀ e ∈ [(⟨deps.envelopeHash vote, vote, authenticated⟩ : VoteEntry)],
      e.envelope.data.targetHash = vote.data.targetHash := by simp
  have htally := h.tally.add (e := ⟨deps.envelopeHash vote, vote, authenticated⟩) hnew
  cases isFuture with
  | true =>
    have htracks := h.future.extend (by simp) hkey (rfl : vote.data.targetHash = _)
    simp only [VotePool.insert, hnew, if_false, if_true]
    refine ⟨h.cur, htracks.perm (toList_ite_push _ _ _), htally.perm ?_⟩
    refine (perm_append_singleton _ _).symm.trans ?_
    rw [pooled, append_assoc]
    exact (contents_extendBucket _ _ _).symm.append_left _
  | false =>
    have htracks := h.cur.extend (by simp) hkey (rfl : vote.data.targetHash = _)
    simp only [VotePool.insert, hnew, if_false, Bool.false_eq_true]
    refine ⟨htracks.perm (toList_ite_push _ _ _), h.future, htally.perm ?_⟩
    refine (List.Perm.append_right _ ?_ : List.Perm (_ :: contents pool.curVotes ++ _) _)
    exact (perm_append_singleton _ _).symm.trans (contents_extendBucket _ _ _).symm

/-! ### Dropping buckets -/

lemma pooled_dropCur (pool : VotePool heap) (vd : VoteData) :
    pool.pooled.Perm (messagesOf pool.curVotes vd.targetHash ++ (pool.dropCur vd).pooled) := by
  rw [pooled, pooled, ← append_assoc]
  exact (contents_remove _ _).append_right _

lemma pooled_dropFuture (pool : VotePool heap) (vd : VoteData) :
    pool.pooled.Perm (messagesOf pool.futureVotes vd.targetHash ++ (pool.dropFuture vd).pooled) :=
  ((contents_remove _ _).append_left _).trans (perm_append_comm_assoc _ _ _)

lemma RepresentedBy.dropCur (h : pool.RepresentedBy (vd :: curQueue) futureQueue) :
    (pool.dropCur vd).RepresentedBy curQueue futureQueue :=
  ⟨h.cur.remove, h.future, (h.tally.perm (pool.pooled_dropCur vd)).drop⟩

lemma RepresentedBy.dropFuture (h : pool.RepresentedBy curQueue (vd :: futureQueue)) :
    (pool.dropFuture vd).RepresentedBy curQueue futureQueue :=
  ⟨h.cur, h.future.remove, (h.tally.perm (pool.pooled_dropFuture vd)).drop⟩

variable {taken queue : List VoteData} {buckets : OrdMap B256 VoteMessages}

lemma RepresentedBy.foldl_dropCur (h : pool.RepresentedBy (taken ++ curQueue) futureQueue) :
    (taken.foldl VotePool.dropCur pool).RepresentedBy curQueue futureQueue := by
  induction taken generalizing pool with
  | nil => exact h
  | cons vd taken ih => exact ih h.dropCur

lemma RepresentedBy.foldl_dropFuture (h : pool.RepresentedBy curQueue (taken ++ futureQueue)) :
    (taken.foldl VotePool.dropFuture pool).RepresentedBy curQueue futureQueue := by
  induction taken generalizing pool with
  | nil => exact h
  | cons vd taken ih => exact ih h.dropFuture

/-! ### Pruning and shedding -/

lemma maps_foldl_dropCur (taken : List VoteData) (pool : VotePool heap) :
    (taken.foldl dropCur pool).curVotes =
        taken.foldl (fun b vd => b.remove vd.targetHash) pool.curVotes ∧
      (taken.foldl dropCur pool).futureVotes = pool.futureVotes ∧
      (taken.foldl dropCur pool).futureVotesPq = pool.futureVotesPq := by
  induction taken generalizing pool with
  | nil => exact ⟨rfl, rfl, rfl⟩
  | cons vd taken ih => exact ih (pool.dropCur vd)

lemma maps_foldl_dropFuture (taken : List VoteData) (pool : VotePool heap) :
    (taken.foldl dropFuture pool).curVotes = pool.curVotes ∧
      (taken.foldl dropFuture pool).futureVotes =
        taken.foldl (fun b vd => b.remove vd.targetHash) pool.futureVotes ∧
      (taken.foldl dropFuture pool).curVotesPq = pool.curVotesPq := by
  induction taken generalizing pool with
  | nil => exact ⟨rfl, rfl, rfl⟩
  | cons vd taken ih => exact ih (pool.dropFuture vd)

/-- **What pruning does**: the queue entries that are stale go, and their buckets with them. -/
lemma prune_spec (pool : VotePool heap) (latest : ℕ) : ∃ cur future curPq futurePq,
      pool.prune latest = { future.foldl dropFuture (cur.foldl dropCur pool) with
        curVotesPq := curPq, futureVotesPq := futurePq } ∧
      (heap.toList pool.curVotesPq).Perm (cur ++ heap.toList curPq) ∧
      (heap.toList pool.futureVotesPq).Perm (future ++ heap.toList futurePq) ∧
      (∀ vd ∈ cur ++ future, isStale latest vd = true) ∧
      ∀ vd ∈ heap.toList curPq ++ heap.toList futurePq, isStale latest vd = false := by
  obtain ⟨cur, hcur, hcurFold, hcurStale, hcurRest⟩ :=
    heap.popWhile_length (isStale_mono latest) dropCur pool.curVotesPq pool
  obtain ⟨future, hfuture, hfutureFold, hfutureStale, hfutureRest⟩ :=
    heap.popWhile_length (isStale_mono latest) dropFuture pool.futureVotesPq
      (cur.foldl dropCur pool)
  refine ⟨cur, future, _, _, ?_, hcur, hfuture, forall_mem_append.mpr ⟨hcurStale, hfutureStale⟩,
    forall_mem_append.mpr ⟨hcurRest, hfutureRest⟩⟩
  simp only [prune, hcurFold, maps_foldl_dropCur, hfutureFold]

open RepresentedBy

lemma Represented.prune (h : pool.Represented) (latest : ℕ) : (pool.prune latest).Represented := by
  obtain ⟨cur, future, curPq, futurePq, hprune, hcur, hfuture, -⟩ := pool.prune_spec latest
  rw [hprune]
  exact (perm h hcur hfuture).foldl_dropCur.foldl_dropFuture.of_eq rfl rfl rfl rfl

lemma shedLoop_spec (target : ℕ) (order : List VoteData) (shed : ℕ) (pool : VotePool heap) :
    ∃ dropped rest, order = dropped ++ rest ∧
      (shedLoop target order shed pool).1 = dropped.foldl dropFuture pool := by
  induction order generalizing shed pool with
  | nil => exact ⟨[], [], rfl, rfl⟩
  | cons vd order ih =>
    unfold shedLoop
    split_ifs
    · exact ⟨[], vd :: order, rfl, rfl⟩
    · obtain ⟨dropped, rest, horder, hpool⟩ :=
        ih (shed + (messagesOf pool.futureVotes vd.targetHash).length) (pool.dropFuture vd)
      exact ⟨vd :: dropped, rest, by rw [horder, cons_append], hpool⟩

lemma map_targetHash_firsts (hok : ∀ hash vm, buckets.get hash = some vm → vm.Ok hash) :
    (buckets.values.filterMap fun vm => vm.voteMessages.head?.map fun e => e.envelope.data).map
      VoteData.targetHash = buckets.entries.map Prod.fst := by
  have hentries : ∀ e ∈ buckets.entries, e.2.Ok e.1 := fun e he =>
    hok e.1 e.2 (mem_entries.mp he)
  rw [values]
  generalize buckets.entries = entries at hentries
  induction entries with
  | nil => rfl
  | cons e entries ih =>
    have he := hentries e mem_cons_self
    obtain ⟨first, others, hvotes⟩ := exists_cons_of_ne_nil he.nonempty
    have hfirst : first.envelope.data.targetHash = e.1 := he.key first (by simp [hvotes])
    simp only [map_cons, filterMap_cons, hvotes, List.head?_cons, Option.map_some, hfirst]
    rw [ih fun e' he' => hentries e' (mem_cons_of_mem _ he')]

lemma Represented.shedFutureVotes (h : pool.Represented) (target : ℕ) :
    (pool.shedFutureVotes target).1.Represented := by
  obtain ⟨dropped, rest, horder, hpool⟩ := shedLoop_spec target
    ((heap.toList pool.futureVotesPq).insertionSort fun a b => b.targetNumber ≤ a.targetNumber)
    0 pool
  have hsorted := (perm_insertionSort (fun a b : VoteData => b.targetNumber ≤ a.targetNumber)
    (heap.toList pool.futureVotesPq)).symm
  rw [horder] at hsorted
  have hdropped := (perm h (List.Perm.refl _) hsorted).foldl_dropFuture
  have hcur := hdropped.cur
  rw [← (maps_foldl_dropFuture dropped pool).2.2, ← hpool] at hcur
  rw [← hpool] at hdropped
  refine ⟨hcur, ⟨hdropped.future.bucket, ?_⟩, hdropped.tally⟩
  · refine ((heap.toList_pushAll _ _).map _).trans ?_
    rw [heap.toList_empty, append_nil]
    exact .of_eq (map_targetHash_firsts hdropped.future.bucket)

/-! ### Promotion -/

/-- What a promotion decides about a vote. -/
def verdictOf (resolved : Resolved) (e : VoteEntry) : Option Bool :=
  (resolved.get e.envelope.data.targetHash).bind fun verdicts => verdicts.get e.hash

/-- A promotion drops only votes it refuses, and adds only votes it accepts to the current ones. -/
def Judges (resolved : Resolved) (pool pool' : VotePool heap) : Prop :=
  (∃ dropped, pool.pooled.Perm (dropped ++ pool'.pooled) ∧
    ∀ e ∈ dropped, verdictOf resolved e = some false) ∧
  ∀ e ∈ contents pool'.curVotes, e ∈ contents pool.curVotes ∨ verdictOf resolved e = some true

lemma Judges.refl (resolved : Resolved) (pool : VotePool heap) : Judges resolved pool pool :=
  ⟨⟨[], List.Perm.refl _, by simp⟩, fun _ he => .inl he⟩

lemma Judges.trans {resolved : Resolved} {pool' pool'' : VotePool heap}
    (h : Judges resolved pool pool') (h' : Judges resolved pool' pool'') :
    Judges resolved pool pool'' := by
  obtain ⟨⟨dropped, hperm, hdropped⟩, hcur⟩ := h
  obtain ⟨⟨dropped', hperm', hdropped'⟩, hcur'⟩ := h'
  refine ⟨⟨dropped ++ dropped', ?_, forall_mem_append.mpr ⟨hdropped, hdropped'⟩⟩,
    fun e he => (hcur' e he).elim (hcur e) .inr⟩
  rw [append_assoc]
  exact hperm.trans (hperm'.append_left _)

lemma Tracks.judged (h : Tracks buckets (vd :: queue)) {unjudged : List VoteEntry}
    (hsub : unjudged ⊆ messagesOf buckets vd.targetHash) :
    Tracks (if unjudged.isEmpty then buckets.remove vd.targetHash
      else extendBucket (buckets.remove vd.targetHash) vd.targetHash unjudged)
      ((if !unjudged.isEmpty then [vd] else []) ++ queue) := by
  cases hempty : unjudged.isEmpty with
  | true => exact h.remove
  | false =>
    have hgone : (buckets.remove vd.targetHash).contains vd.targetHash = false := by
      simp [OrdMap.contains, OrdMap.get_remove]
    have hne : unjudged ≠ [] := by simpa using hempty
    have hext := h.remove.extend hne (fun e he => h.key (hsub he)) (rfl : vd.targetHash = _)
    rw [hgone] at hext
    exact hext

lemma contents_judged (buckets : OrdMap B256 VoteMessages) (hash : B256)
    (unjudged : List VoteEntry) :
    (contents (if unjudged.isEmpty then buckets.remove hash
      else extendBucket (buckets.remove hash) hash unjudged)).Perm
      (unjudged ++ contents (buckets.remove hash)) := by
  cases unjudged with
  | nil => exact List.Perm.refl _
  | cons e l => exact (contents_extendBucket _ _ _).trans perm_append_comm

lemma RepresentedBy.promoteJudged
    (h : pool.RepresentedBy (heap.toList pool.curVotesPq) (vd :: futureQueue))
    (verdicts : OrdMap B256 Bool) :
    (pool.promoteJudged vd.targetHash verdicts).1.RepresentedBy
        (heap.toList (pool.promoteJudged vd.targetHash verdicts).1.curVotesPq)
        ((if (pool.promoteJudged vd.targetHash verdicts).2.requeue then [vd] else []) ++
          futureQueue) ∧
      pool.pooled.Perm ((messagesOf pool.futureVotes vd.targetHash).filter
          (fun e => decide (verdicts.get e.hash = some false)) ++
          (pool.promoteJudged vd.targetHash verdicts).1.pooled) ∧
      (contents (pool.promoteJudged vd.targetHash verdicts).1.curVotes).Perm
        (contents pool.curVotes ++ (messagesOf pool.futureVotes vd.targetHash).filter
          fun e => decide (verdicts.get e.hash = some true)) := by
  obtain ⟨bucket, hget⟩ := contains_iff.mp (h.future.contains_iff.mpr ⟨vd, by simp, rfl⟩)
  have hvotes : messagesOf pool.futureVotes vd.targetHash = bucket.voteMessages := by
    simp [messagesOf, hget]
  have hsplit := perm_filter_verdict (fun e => verdicts.get e.hash) bucket.voteMessages
  have hunjudged : bucket.voteMessages.filter (fun e => decide (verdicts.get e.hash = none)) ⊆
      messagesOf pool.futureVotes vd.targetHash := by
    rw [hvotes]
    exact filter_subset_self _
  have hfuture := Tracks.judged h.future hunjudged
  -- the accepted votes come to the current ones, the refused ones leave
  have hmoved : ∀ cur, (contents cur).Perm (contents pool.curVotes ++ bucket.voteMessages.filter
      fun e => decide (verdicts.get e.hash = some true)) →
      pool.pooled.Perm (bucket.voteMessages.filter
        (fun e => decide (verdicts.get e.hash = some false)) ++
        (contents cur ++ contents (if (bucket.voteMessages.filter
            fun e => decide (verdicts.get e.hash = none)).isEmpty
          then pool.futureVotes.remove vd.targetHash
          else extendBucket (pool.futureVotes.remove vd.targetHash) vd.targetHash
            (bucket.voteMessages.filter fun e => decide (verdicts.get e.hash = none))))) := by
    intro cur hcur
    have hfuture := contents_remove pool.futureVotes vd.targetHash
    rw [hvotes] at hfuture
    refine ((hfuture.trans (hsplit.append_right _)).append_left (contents pool.curVotes)).trans ?_
    simp only [append_assoc]
    refine (perm_append_comm_assoc _ _ _).trans (List.Perm.append_left _ ?_)
    refine List.Perm.trans ?_ (hcur.symm.append (contents_judged _ _ _).symm)
    rw [append_assoc]
  unfold VotePool.promoteJudged
  simp only [hget, hvotes]
  split
  · next hvalid =>
    have hperm := hmoved pool.curVotes (by rw [hvalid, append_nil])
    exact ⟨⟨h.cur, hfuture, (h.tally.perm hperm).drop⟩, hperm, by rw [hvalid, append_nil]⟩
  · next first others hvalid =>
    have hkey : ∀ e ∈ bucket.voteMessages.filter fun e => decide (verdicts.get e.hash = some true),
        e.envelope.data.targetHash = vd.targetHash := by
      intro e he
      exact h.future.key (hvotes ▸ mem_of_mem_filter he)
    have hfirst : first.envelope.data.targetHash = vd.targetHash :=
      hkey first (by rw [hvalid]; exact mem_cons_self)
    have hcontents := contents_extendBucket pool.curVotes vd.targetHash
      (bucket.voteMessages.filter fun e => decide (verdicts.get e.hash = some true))
    have hperm := hmoved _ hcontents
    have hcur := h.cur.extend (by rw [hvalid]; exact cons_ne_nil _ _) hkey hfirst
    exact ⟨⟨hcur.perm (toList_ite_push _ _ _), hfuture, (h.tally.perm hperm).drop⟩, hperm,
      hcontents⟩

lemma RepresentedBy.promotionStep {st : PromotionState heap}
    (h : st.pool.RepresentedBy (heap.toList st.pool.curVotesPq) (vd :: futureQueue))
    (resolved : Resolved) :
    (promotionStep resolved st vd).pool.RepresentedBy
        (heap.toList (promotionStep resolved st vd).pool.curVotesPq)
        ([vd].filter (isDeferred resolved st.pool) ++ futureQueue) ∧
      Judges resolved st.pool (promotionStep resolved st vd).pool := by
  cases hres : resolved.get vd.targetHash with
  | some verdicts =>
    have hkeep : [vd].filter (isDeferred resolved st.pool) =
        if (st.pool.promoteJudged vd.targetHash verdicts).2.requeue then [vd] else [] := by
      simp only [filter_cons, filter_nil, isDeferred, hres, unjudged, promoteJudged_requeue]
    have hverdict : ∀ b, ∀ e ∈ (messagesOf st.pool.futureVotes vd.targetHash).filter
        (fun e => decide (verdicts.get e.hash = some b)), verdictOf resolved e = some b := by
      intro b e he
      obtain ⟨he, hverdict⟩ := mem_filter.mp he
      rw [verdictOf, h.future.key he, hres]
      exact of_decide_eq_true hverdict
    obtain ⟨hrep, hperm, hcur⟩ := h.promoteJudged verdicts
    rw [hkeep]
    simp only [VotePool.promotionStep, hres]
    exact ⟨hrep, ⟨_, hperm, hverdict false⟩, fun e he =>
      (mem_append.mp (hcur.mem_iff.mp he)).imp id (hverdict true e)⟩
  | none =>
    have hkeep : [vd].filter (isDeferred resolved st.pool) = [vd] := by
      have hcontains := h.future.contains_iff.mpr ⟨vd, by simp, rfl⟩
      simp [isDeferred, hres, hcontains]
    rw [hkeep]
    simp only [VotePool.promotionStep, hres]
    exact ⟨h, Judges.refl _ _⟩

lemma RepresentedBy.foldl_promotionStep {rest : List VoteData} {st : PromotionState heap}
    (h : st.pool.RepresentedBy (heap.toList st.pool.curVotesPq) (taken ++ (st.deferred ++ rest)))
    (resolved : Resolved) :
    (taken.foldl (VotePool.promotionStep resolved) st).pool.RepresentedBy
        (heap.toList (taken.foldl (VotePool.promotionStep resolved) st).pool.curVotesPq)
        ((taken.foldl (VotePool.promotionStep resolved) st).deferred ++ rest) ∧
      Judges resolved st.pool (taken.foldl (VotePool.promotionStep resolved) st).pool := by
  induction taken generalizing st with
  | nil => exact ⟨h, Judges.refl _ _⟩
  | cons vd taken ih =>
    obtain ⟨hstep, hjudges⟩ := h.promotionStep resolved
    have hqueue : ([vd].filter (isDeferred resolved st.pool) ++
      (taken ++ (st.deferred ++ rest))).Perm
        (taken ++ ((VotePool.promotionStep resolved st vd).deferred ++ rest)) := by
      rw [deferred_promotionStep, append_assoc]
      refine (perm_append_comm_assoc _ _ _).trans (List.Perm.append_left _ ?_)
      exact perm_append_comm_assoc _ _ _
    obtain ⟨hrest, hjudges'⟩ := ih (hstep.perm (List.Perm.refl _) hqueue)
    exact ⟨hrest, hjudges.trans hjudges'⟩

lemma Represented.applyPromotion (h : pool.Represented) (latest : ℕ) (resolved : Resolved) :
    (pool.applyPromotion latest resolved).1.Represented ∧
      Judges resolved pool (pool.applyPromotion latest resolved).1 := by
  obtain ⟨hperm, hfold, -⟩ :=
    heap.popWhile_spec (targetNumber_le_down latest) (promotionStep resolved)
    maxPromotionTargetsPerPass pool.futureVotesPq ⟨pool, [], [], 0⟩
  have hstart : (⟨pool, [], [], 0⟩ : PromotionState heap).pool.RepresentedBy
      (heap.toList pool.curVotesPq) (pool.popped latest ++ ([] ++ heap.toList (heap.popWhile
        (fun vd => decide (vd.targetNumber ≤ latest)) (promotionStep resolved)
        maxPromotionTargetsPerPass pool.futureVotesPq ⟨pool, [], [], 0⟩).1)) :=
    perm h (List.Perm.refl _) hperm
  obtain ⟨hrep, hjudges⟩ := foldl_promotionStep hstart resolved
  rw [popped, ← hfold] at hrep hjudges
  refine ⟨?_, hjudges⟩
  exact (hrep.perm (List.Perm.refl _) (heap.toList_pushAll _ _).symm).of_eq rfl rfl rfl rfl

/-! ### Whole runs -/

/-- What is done to the pool, whoever holds its lock. -/
inductive Op
  | insert (vote : VoteEnvelope) (isFuture authenticated : Bool)
  | drain
  | prune (latest : ℕ)
  | shedFutureVotes (target : ℕ)
  | applyPromotion (latest : ℕ) (resolved : Resolved)

def perform (deps : VoteDeps) (pool : VotePool heap) : Op → VotePool heap
  | .insert vote isFuture authenticated => (pool.insert deps vote isFuture authenticated).1
  | .drain => pool.drain.1
  | .prune latest => pool.prune latest
  | .shedFutureVotes target => (pool.shedFutureVotes target).1
  | .applyPromotion latest resolved => (pool.applyPromotion latest resolved).1

/-- The pool after some operations. -/
def run (deps : VoteDeps) (ops : List Op) : VotePool heap := ops.foldl (perform deps) new

lemma Represented.perform (h : pool.Represented) (deps : VoteDeps) (op : Op) :
    (pool.perform deps op).Represented := by
  cases op with
  | insert vote isFuture authenticated => exact h.insert deps vote isFuture authenticated
  | drain => exact represented_new
  | prune latest => exact h.prune latest
  | shedFutureVotes target => exact h.shedFutureVotes target
  | applyPromotion latest resolved => exact (h.applyPromotion latest resolved).1

/-- **Every run keeps the parts of the pool in step.** -/
theorem represented_run (deps : VoteDeps) (ops : List Op) :
    (run deps ops : VotePool heap).Represented :=
  foldlRecOn ops _ represented_new fun _ h op _ => h.perform deps op

lemma Represented.relieve (h : pool.Represented) (n : ℕ) :
    (PoolNode.relieve n pool).Represented := by
  unfold PoolNode.relieve
  split_ifs
  · simp only
    split
    · exact (h.prune n).shedFutureVotes _
    · exact h.prune n
  · exact h

lemma Represented.write {node : PoolNode heap} (h : node.pool.Represented) (deps : VoteDeps)
    (needHeadWork : Bool) (p : Pending) : (node.write deps needHeadWork p).pool.Represented := by
  have hins := h.insert deps p.vote p.isFuture p.authenticated
  unfold PoolNode.write
  split_ifs
  · exact h
  · exact (hins.prune _).relieve _
  · exact hins.relieve _

/-- **The parts of the pool agree after every run**: the total and the hashes belong to the
votes, no vote is pooled twice, and the buckets are in order and queued once each. A promotion
whose verdicts come from anywhere neither loses nor duplicates a vote it does not refuse. -/
theorem run_parts_agree (deps : VoteDeps) (ops : List Op) :
    let pool : VotePool heap := run deps ops
    pool.totalVotes = pool.pooled.length ∧ pool.receivedVotes.card = pool.totalVotes ∧
      pool.receivedVotes = (pool.pooled.map VoteEntry.hash).toFinset ∧
      (pool.pooled.map VoteEntry.hash).Nodup ∧
      Tracks pool.curVotes (heap.toList pool.curVotesPq) ∧
      Tracks pool.futureVotes (heap.toList pool.futureVotesPq) ∧
      ∀ latest resolved,
        (pool.pooled.filter fun e => decide (verdictOf resolved e ≠ some false)).Perm
          ((pool.applyPromotion latest resolved).1.pooled.filter
            fun e => decide (verdictOf resolved e ≠ some false)) := by
  intro pool
  have h : pool.Represented := represented_run deps ops
  refine ⟨h.tally.total, h.tally.card, h.tally.received, h.tally.nodup, h.cur, h.future,
    fun latest resolved => ?_⟩
  obtain ⟨-, ⟨dropped, hperm, hdropped⟩, -⟩ := h.applyPromotion latest resolved
  have hnone : dropped.filter (fun e => decide (verdictOf resolved e ≠ some false)) = [] := by
    rw [filter_eq_nil_iff]
    intro e he
    simp [hdropped e he]
  have hfilter := hperm.filter fun e => decide (verdictOf resolved e ≠ some false)
  rwa [filter_append, hnone, nil_append] at hfilter

/-! ### What pruning keeps -/

/-- The votes of one map that pruning keeps: those whose bucket is queued under a number that
is not stale. -/
def Kept (latest : ℕ) (queue : List VoteData) (e : VoteEntry) : Prop :=
  ∀ vd ∈ queue, vd.targetHash = e.envelope.data.targetHash → isStale latest vd = false

lemma mem_contents_of_dropped {buckets' : OrdMap B256 VoteMessages} {queue' : List VoteData}
    {latest : ℕ} (h : Tracks buckets queue) (h' : Tracks buckets' queue')
    (hperm : queue.Perm (taken ++ queue')) (hstale : ∀ vd ∈ taken, isStale latest vd)
    (hfresh : ∀ vd ∈ queue', isStale latest vd = false)
    (hmessages : ∀ hash, messagesOf buckets' hash =
      if hash ∈ taken.map VoteData.targetHash then [] else messagesOf buckets hash)
        (e : VoteEntry) :
    e ∈ contents buckets' ↔ e ∈ contents buckets ∧ Kept latest queue e := by
  have hmem : ∀ {b q}, Tracks b q →
      (e ∈ contents b ↔ e ∈ messagesOf b e.envelope.data.targetHash) :=
    fun hb => ⟨fun he => hb.mem_messagesOf_iff.mpr ⟨he, rfl⟩,
      fun he => (hb.mem_messagesOf_iff.mp he).1⟩
  rw [hmem h', hmem h, hmessages]
  constructor
  · intro he
    split_ifs at he with hdropped
    · cases he
    · refine ⟨he, fun vd hvd hkey => ?_⟩
      rcases mem_append.mp (hperm.mem_iff.mp hvd) with hvd | hvd
      · exact absurd (mem_map.mpr ⟨vd, hvd, hkey⟩) hdropped
      · exact hfresh vd hvd
  · rintro ⟨he, hkept⟩
    rw [if_neg]
    · exact he
    · intro hdropped
      obtain ⟨vd, hvd, hkey⟩ := mem_map.mp hdropped
      have hfalse := hkept vd (hperm.mem_iff.mpr (mem_append_left _ hvd)) hkey
      rw [hstale vd hvd] at hfalse
      cases hfalse

lemma messagesOf_foldl_remove (taken : List VoteData) (buckets : OrdMap B256 VoteMessages)
    (hash : B256) :
    messagesOf (taken.foldl (fun b vd => b.remove vd.targetHash) buckets) hash =
      if hash ∈ taken.map VoteData.targetHash then [] else messagesOf buckets hash := by
  induction taken generalizing buckets with
  | nil => rfl
  | cons vd taken ih =>
    rw [foldl_cons, ih, messagesOf_remove, map_cons]
    by_cases hh : hash = vd.targetHash
    · simp [hh]
    · simp [hh]

lemma Represented.mem_prune (h : pool.Represented) (latest : ℕ) (e : VoteEntry) :
    (e ∈ contents (pool.prune latest).curVotes ↔
        e ∈ contents pool.curVotes ∧ Kept latest (heap.toList pool.curVotesPq) e) ∧
      (e ∈ contents (pool.prune latest).futureVotes ↔
        e ∈ contents pool.futureVotes ∧ Kept latest (heap.toList pool.futureVotesPq) e) := by
  obtain ⟨cur, future, curPq, futurePq, hprune, hcur, hfuture, hstale, hfresh⟩ :=
    pool.prune_spec latest
  obtain ⟨hstaleCur, hstaleFuture⟩ := forall_mem_append.mp hstale
  obtain ⟨hfreshCur, hfreshFuture⟩ := forall_mem_append.mp hfresh
  have hpruned := h.prune latest
  rw [hprune] at hpruned ⊢
  refine ⟨mem_contents_of_dropped h.cur hpruned.cur hcur hstaleCur hfreshCur (fun hash => ?_) e,
    mem_contents_of_dropped h.future hpruned.future hfuture hstaleFuture hfreshFuture
      (fun hash => ?_) e⟩
  · simp only [maps_foldl_dropFuture, maps_foldl_dropCur, messagesOf_foldl_remove]
  · simp only [maps_foldl_dropFuture, maps_foldl_dropCur, messagesOf_foldl_remove]

/-- The buckets of one pool are parts of those of the other one. -/
def Within (pool pool' : VotePool heap) : Prop :=
  ∀ hash, (messagesOf pool.curVotes hash).Sublist (messagesOf pool'.curVotes hash) ∧
    (messagesOf pool.futureVotes hash).Sublist (messagesOf pool'.futureVotes hash)

lemma prune_within (pool : VotePool heap) (latest : ℕ) : (pool.prune latest).Within pool := by
  obtain ⟨cur, future, curPq, futurePq, hprune, -⟩ := pool.prune_spec latest
  intro hash
  simp only [hprune, maps_foldl_dropFuture, maps_foldl_dropCur, messagesOf_foldl_remove]
  constructor
  · split_ifs <;> simp
  · split_ifs <;> simp

lemma shedFutureVotes_within (pool : VotePool heap) (target : ℕ) :
    (pool.shedFutureVotes target).1.Within pool := by
  obtain ⟨dropped, -, -, hpool⟩ := shedLoop_spec target
    ((heap.toList pool.futureVotesPq).insertionSort fun a b => b.targetNumber ≤ a.targetNumber)
    0 pool
  intro hash
  simp only [shedFutureVotes, hpool, maps_foldl_dropFuture, messagesOf_foldl_remove]
  refine ⟨List.Sublist.refl _, ?_⟩
  split_ifs <;> simp

lemma relieve_within (pool : VotePool heap) (n : ℕ) : (PoolNode.relieve n pool).Within pool := by
  intro hash
  obtain ⟨hcur, hfuture⟩ := pool.prune_within n hash
  unfold PoolNode.relieve
  split_ifs
  · simp only
    split
    · next toShed _ =>
      obtain ⟨hcur', hfuture'⟩ := (pool.prune n).shedFutureVotes_within toShed hash
      exact ⟨hcur'.trans hcur, hfuture'.trans hfuture⟩
    · exact ⟨hcur, hfuture⟩
  · exact ⟨List.Sublist.refl _, List.Sublist.refl _⟩

/-- The votes of every bucket are stale with its queue entry and fresh with it. -/
def Uniform (latest : ℕ) (buckets : OrdMap B256 VoteMessages) (queue : List VoteData) : Prop :=
  ∀ vd ∈ queue, ∀ e ∈ messagesOf buckets vd.targetHash,
    isStale latest e.envelope.data = isStale latest vd

lemma kept_iff_of_uniform {latest : ℕ} (h : Tracks buckets queue) :
    (∀ e ∈ contents buckets, Kept latest queue e ↔ isStale latest e.envelope.data = false) ↔
      Uniform latest buckets queue := by
  constructor
  · intro hkept vd hvd e he
    obtain ⟨hmem, hkey⟩ := h.mem_messagesOf_iff.mp he
    cases hstale : isStale latest vd with
    | true =>
      by_contra hfresh
      have htrue := ((hkept e hmem).mpr (by simpa using hfresh)) vd hvd hkey.symm
      rw [hstale] at htrue
      cases htrue
    | false =>
      refine (hkept e hmem).mp fun vd' hvd' hkey' => ?_
      rw [h.queue_unique hvd' hvd (hkey'.trans hkey)]
      exact hstale
  · intro huniform e he
    obtain ⟨vd, hvd, hkey⟩ := h.exists_queued he
    have hsame := huniform vd hvd e (h.mem_messagesOf_iff.mpr ⟨he, hkey.symm⟩)
    rw [hsame]
    constructor
    · intro hkept
      exact hkept vd hvd hkey
    · intro hfresh vd' hvd' hkey'
      rwa [h.queue_unique hvd' hvd (hkey'.trans hkey.symm)]

/-- **When pruning is exact**: it removes exactly the votes that are stale themselves if and
only if no bucket holds both a vote and a queue entry that disagree on it. -/
theorem prune_exact_iff (deps : VoteDeps) (ops : List Op) (latest : ℕ) :
    let pool : VotePool heap := run deps ops
    (∀ e, e ∈ (pool.prune latest).pooled ↔
        e ∈ pool.pooled ∧ latest < saturatingAdd e.envelope.data.targetNumber 256) ↔
      Uniform latest pool.curVotes (heap.toList pool.curVotesPq) ∧
        Uniform latest pool.futureVotes (heap.toList pool.futureVotesPq) := by
  intro pool
  have h : pool.Represented := represented_run deps ops
  have hfresh : ∀ e : VoteEntry, latest < saturatingAdd e.envelope.data.targetNumber 256 ↔
      isStale latest e.envelope.data = false := by
    intro e
    rw [isStale, decide_eq_false_iff_not, not_le]
    rfl
  rw [← kept_iff_of_uniform h.cur, ← kept_iff_of_uniform h.future]
  simp only [hfresh, pooled, mem_append, (h.mem_prune latest _).1, (h.mem_prune latest _).2]
  constructor
  · intro hexact
    refine ⟨fun e he => ?_, fun e he => ?_⟩
    · simpa [he, h.disjoint he] using hexact e
    · have hcur : e ∉ contents pool.curVotes := fun hcur => h.disjoint hcur he
      simpa [he, hcur] using hexact e
  · rintro ⟨hcur, hfuture⟩ e
    rw [or_and_right]
    exact or_congr (and_congr_right (hcur e)) (and_congr_right (hfuture e))

/-- Two votes under one hash, the second of which is for a much later block. -/
def mixedPool (first second : VoteEnvelope) : VotePool (MinHeap.sortedList VoteData.targetNumber) :=
  run floodDeps [.insert first true false, .insert second true false]

/-- The vote that comes first decides for the bucket: an old number evicts a fresh vote, a
late number keeps a stale one. -/
theorem prune_follows_first_vote :
    let old := floodVote 7 100 1
    let late := floodVote 1 300 1
    let oldEntry : VoteEntry := ⟨floodDeps.envelopeHash old, old, false⟩
    let lateEntry : VoteEntry := ⟨floodDeps.envelopeHash late, late, false⟩
    (lateEntry ∈ (mixedPool old late).pooled ∧ 400 < saturatingAdd late.data.targetNumber 256 ∧
        lateEntry ∉ ((mixedPool old late).prune 400).pooled) ∧
      saturatingAdd old.data.targetNumber 256 ≤ 400 ∧
      oldEntry ∈ ((mixedPool late old).prune 400).pooled := by
  decide +kernel

end VotePool

end RethBsc
