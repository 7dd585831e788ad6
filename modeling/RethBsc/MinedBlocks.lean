import RethBsc.BoundedMap
import RethBsc.Primitives
import RethBsc.Trace

/-!
The guard against signing two blocks of one height.

A validator releases blocks on two paths: those it built, and those of builders. Both check and
record the number and the parent of a block in one map before they release it; the map remembers
the hundred numbers used last. The block of a builder is handed over later, and if that fails its
record is taken back. Records have no owner: what is taken back may be the record of another
block.
-/

namespace RethBsc

open List LruMap

/-! ### The map -/

abbrev RecentMinedBlocks := LruMap ℕ (List B256)

def recentMinedBlocksCacheSize : ℕ := 100

def checkAndRecordMinedBlock (cache : RecentMinedBlocks) (blockNumber : ℕ) (parentHash : B256) :
    Bool × RecentMinedBlocks :=
  match cache.get blockNumber with
  | (some prevParents, cache) =>
    if parentHash ∈ prevParents then (false, cache)
    else (true, cache.insert blockNumber (prevParents ++ [parentHash]))
  | (none, cache) => (true, cache.insert blockNumber [parentHash])

def forgetRecordedMinedBlock (cache : RecentMinedBlocks) (blockNumber : ℕ) (parentHash : B256) :
    RecentMinedBlocks :=
  match cache.get blockNumber with
  | (some prevParents, cache) =>
    cache.insert blockNumber (prevParents.filter fun h => decide (h ≠ parentHash))
  | (none, cache) => cache

/-! ### The two paths -/

inductive SubmissionPath
  /-- `ResultWorkWorker::submit_payload`. -/
  | localPayload
  /-- `try_submit_winning_bid_block`. -/
  | bidBlock
  deriving DecidableEq

structure Submission where
  path : SubmissionPath
  blockHash : B256
  blockNumber : ℕ
  parentHash : B256
  deriving DecidableEq

/-- What a submission sees of the chain, and for the block of a builder whether its blobs verify
and the import service runs. -/
structure SubmissionView where
  bestBlockNumber : Option ℕ
  canonicalHash : ℕ → Option B256
  blobsOk : Bool
  importSender : Bool

/-- The checks before the record. An unknown head stops the local path only. -/
def SubmissionView.passes (view : SubmissionView) (sub : Submission) : Bool :=
  let parentCanonical := decide (view.canonicalHash (sub.blockNumber - 1) = some sub.parentHash)
  match sub.path, view.bestBlockNumber with
  | .localPayload, none => false
  | .localPayload, some best => decide (best < sub.blockNumber) && parentCanonical
  | .bidBlock, none => parentCanonical && view.blobsOk && view.importSender
  | .bidBlock, some best =>
    decide (best < sub.blockNumber) && parentCanonical && view.blobsOk && view.importSender

/-- A submission that was recorded, and how many uses of the map there had been then. -/
structure MinedRecord where
  submission : Submission
  time : ℕ
  deriving DecidableEq

structure MinerState where
  cache : RecentMinedBlocks
  /-- The numbers whose entries were used, the first use first. -/
  touched : List ℕ
  /-- Submissions that passed the checks before the record. -/
  waiting : List Submission
  /-- Recorded submissions that are not handed over. -/
  inFlight : List MinedRecord
  released : List MinedRecord

def MinerState.start : MinerState := ⟨⟨recentMinedBlocksCacheSize, []⟩, [], [], [], []⟩

/-- One step of one of the tasks. -/
inductive MinerEvent
  /-- The checks before the record. -/
  | enter (view : SubmissionView) (sub : Submission)
  /-- The check of the map. -/
  | check (sub : Submission)
  /-- The import service takes the block. -/
  | handOver (record : MinedRecord)
  /-- The import service does not take the block. -/
  | fail (record : MinedRecord)

/-- `none` where the step is not one a task can make. -/
def MinerState.step (s : MinerState) : MinerEvent → Option MinerState
  | .enter view sub =>
    some (if view.passes sub then { s with waiting := sub :: s.waiting } else s)
  | .check sub =>
    if sub ∈ s.waiting then
      let (fresh, cache) := checkAndRecordMinedBlock s.cache sub.blockNumber sub.parentHash
      let touched := s.touched ++ [sub.blockNumber]
      some
        { s with
          cache := cache
          touched := touched
          waiting := s.waiting.erase sub
          inFlight := if fresh then ⟨sub, touched.length⟩ :: s.inFlight else s.inFlight }
    else none
  | .handOver record =>
    if record ∈ s.inFlight then
      some { s with inFlight := s.inFlight.erase record, released := record :: s.released }
    else none
  | .fail record =>
    if record ∈ s.inFlight then
      let inFlight := s.inFlight.erase record
      let number := record.submission.blockNumber
      match record.submission.path with
      | .localPayload => some { s with inFlight := inFlight }
      | .bidBlock => some
          { s with
            cache := forgetRecordedMinedBlock s.cache number record.submission.parentHash
            touched := if (s.cache.get number).1.isSome then s.touched ++ [number] else s.touched
            inFlight := inFlight }
    else none

/-! ### What a record keeps from -/

/-- The other numbers used between two points. -/
def othersTouched (touched : List ℕ) (i j number : ℕ) : Finset ℕ :=
  ((touched.take j).drop i).toFinset.erase number

def MinedRecord.others (record : MinedRecord) (touched : List ℕ) (j : ℕ) : Finset ℕ :=
  othersTouched touched record.time j record.submission.blockNumber

/-- Two submissions for one height on one parent. -/
def Rivals (a b : MinedRecord) : Prop :=
  a.submission.blockNumber = b.submission.blockNumber ∧
    a.submission.parentHash = b.submission.parentHash

/-- The map has the pair, and only numbers of the set have been used since. -/
def Remembers (cache : RecentMinedBlocks) (number : ℕ) (parent : B256) (used : Finset ℕ) : Prop :=
  ∃ parents, parent ∈ parents ∧ cache.Holds number parents used

section Cache

variable {cache : RecentMinedBlocks} {number number' : ℕ} {parent parent' : B256} {used : Finset ℕ}

lemma Remembers.mono {used' : Finset ℕ} (h : Remembers cache number parent used)
    (hsub : used ⊆ used') : Remembers cache number parent used' :=
  let ⟨parents, hmem, hholds⟩ := h
  ⟨parents, hmem, hholds.mono hsub⟩

lemma check_eq (cache : RecentMinedBlocks) (number : ℕ) (parent : B256) :
    checkAndRecordMinedBlock cache number parent = match (cache.get number).1 with
      | some parents =>
        if parent ∈ parents then (false, (cache.get number).2)
        else (true, (cache.get number).2.insert number (parents ++ [parent]))
      | none => (true, (cache.get number).2.insert number [parent]) := by
  unfold checkAndRecordMinedBlock
  cases hget : cache.get number with
  | mk found cache' => cases found <;> rfl

lemma forget_eq (cache : RecentMinedBlocks) (number : ℕ) (parent : B256) :
    forgetRecordedMinedBlock cache number parent = match (cache.get number).1 with
      | some parents => (cache.get number).2.insert number
          (parents.filter fun h => decide (h ≠ parent))
      | none => (cache.get number).2 := by
  unfold forgetRecordedMinedBlock
  cases hget : cache.get number with
  | mk found cache' => cases found <;> rfl

/-- A map of the right size without a key twice. -/
structure Proper (cache : RecentMinedBlocks) : Prop where
  capacity : cache.capacity = recentMinedBlocksCacheSize
  distinct : cache.Distinct
  bounded : cache.entries.length ≤ cache.capacity

lemma Proper.get (h : Proper cache) (number : ℕ) : Proper (cache.get number).2 where
  capacity := by rw [capacity_get, h.capacity]
  distinct := h.distinct.get number
  bounded := by
    rw [capacity_get]
    exact (cache.length_get_le number).trans h.bounded

lemma Proper.insert (h : Proper cache) (number : ℕ) (parents : List B256) :
    Proper (cache.insert number parents) where
  capacity := h.capacity
  distinct := h.distinct.insert number parents
  bounded := List.length_take_le _ _

lemma Proper.check (h : Proper cache) (number : ℕ) (parent : B256) :
    Proper (checkAndRecordMinedBlock cache number parent).2 := by
  rw [check_eq]
  split
  · split_ifs
    · exact h.get number
    · exact (h.get number).insert _ _
  · exact (h.get number).insert _ _

lemma Proper.forget (h : Proper cache) (number : ℕ) (parent : B256) :
    Proper (forgetRecordedMinedBlock cache number parent) := by
  rw [forget_eq]
  split
  · exact (h.get number).insert _ _
  · exact h.get number

lemma Proper.pos (h : Proper cache) : 0 < cache.capacity := by
  rw [h.capacity]
  decide

lemma exists_remembers (h : (checkAndRecordMinedBlock cache number parent).1 = false) :
    ∃ used, Remembers cache number parent used := by
  rw [check_eq] at h
  split at h
  · next parents hget =>
    split_ifs at h with hmem
    obtain ⟨used, hholds⟩ := exists_holds hget
    exact ⟨used, parents, hmem, hholds⟩
  · cases h

lemma remembers_check_self (hp : Proper cache)
    (h : (checkAndRecordMinedBlock cache number parent).1) :
    Remembers (checkAndRecordMinedBlock cache number parent).2 number parent ∅ := by
  have hpos := (hp.get number).pos
  rw [check_eq] at h ⊢
  cases hget : (cache.get number).1 with
  | none => exact ⟨[parent], by simp, holds_insert_self hpos⟩
  | some parents =>
    rw [hget] at h
    by_cases hmem : parent ∈ parents
    · simp [hmem] at h
    · simp only [hmem, if_false]
      exact ⟨parents ++ [parent], by simp, holds_insert_self hpos⟩

lemma Remembers.get_of_ne (h : Remembers cache number parent used) (hne : number' ≠ number) :
    Remembers (cache.get number').2 number parent (used ∪ {number'}) :=
  let ⟨parents, hmem, hholds⟩ := h
  ⟨parents, hmem, hholds.get_of_ne hne⟩

section Kept

variable (hp : Proper cache) (h : Remembers cache number parent used)
include hp h

lemma Remembers.refused : (checkAndRecordMinedBlock cache number parent).1 = false := by
  obtain ⟨parents, hmem, hholds⟩ := h
  rw [check_eq, get_of_holds hp.distinct hholds]
  simp [hmem]

lemma Remembers.check_same :
    Remembers (checkAndRecordMinedBlock cache number parent').2 number parent used := by
  obtain ⟨parents, hmem, hholds⟩ := h
  have hget := get_of_holds hp.distinct hholds
  rw [check_eq, hget]
  simp only
  split_ifs
  · exact ⟨parents, hmem, (holds_get_self hget).mono (Finset.empty_subset _)⟩
  · exact ⟨parents ++ [parent'], mem_append_left _ hmem,
      (holds_insert_self (hp.get number).pos).mono (Finset.empty_subset _)⟩

lemma Remembers.insert_get (hne : number' ≠ number) (parents' : List B256) :
    Remembers ((cache.get number').2.insert number' parents') number parent (used ∪ {number'}) ∨
      recentMinedBlocksCacheSize ≤ (used ∪ {number'}).card := by
  obtain ⟨parents, hmem, hholds⟩ := h
  have hcap : (cache.get number').2.capacity = recentMinedBlocksCacheSize :=
    (hp.get number').capacity
  rcases (hholds.get_of_ne hne).insert_of_ne (hp.distinct.get number') hne with hkept | hfull
  · refine .inl ⟨parents, hmem, hkept.mono ?_⟩
    rw [Finset.union_assoc, Finset.union_idempotent]
  · rw [Finset.union_assoc, Finset.union_idempotent, hcap] at hfull
    exact .inr hfull

lemma Remembers.check_of_ne (hne : number' ≠ number) :
    Remembers (checkAndRecordMinedBlock cache number' parent').2 number parent
      (used ∪ {number'}) ∨ recentMinedBlocksCacheSize ≤ (used ∪ {number'}).card := by
  rw [check_eq]
  split
  · split_ifs
    · exact .inl (h.get_of_ne hne)
    · exact h.insert_get hp hne _
  · exact h.insert_get hp hne _

lemma Remembers.forget_same (hne : parent ≠ parent') :
    Remembers (forgetRecordedMinedBlock cache number parent') number parent used := by
  obtain ⟨parents, hmem, hholds⟩ := h
  rw [forget_eq, get_of_holds hp.distinct hholds]
  exact ⟨_, mem_filter.mpr ⟨hmem, by simpa using hne⟩,
    (holds_insert_self (hp.get number).pos).mono (Finset.empty_subset _)⟩

lemma Remembers.forget_of_ne (hne : number' ≠ number) (hsome : (cache.get number').1.isSome) :
    Remembers (forgetRecordedMinedBlock cache number' parent') number parent (used ∪ {number'}) ∨
      recentMinedBlocksCacheSize ≤ (used ∪ {number'}).card := by
  obtain ⟨parents', hget⟩ := Option.isSome_iff_exists.mp hsome
  rw [forget_eq, hget]
  exact h.insert_get hp hne _

end Kept

lemma refused_forget (hp : Proper cache)
    (h : (checkAndRecordMinedBlock cache number parent).1 = false)
    (hne : ¬(number = number' ∧ parent = parent')) :
    (checkAndRecordMinedBlock (forgetRecordedMinedBlock cache number' parent') number parent).1 =
      false := by
  have hp' := hp.forget number' parent'
  obtain ⟨used, parents, hmem, hholds⟩ := exists_remembers h
  by_cases hnumber : number' = number
  · subst hnumber
    have hparent : parent ≠ parent' := fun heq => hne ⟨rfl, heq⟩
    exact Remembers.refused hp' (Remembers.forget_same hp ⟨parents, hmem, hholds⟩ hparent)
  · refine Remembers.refused hp' ⟨parents, hmem, (?_ : LruMap.Holds _ _ _ (used ∪ {number'}))⟩
    rw [forget_eq]
    split
    · next parents' hget =>
      have hfound : ∃ e ∈ (cache.get number').2.entries, e.1 = number' := by
        obtain ⟨before, after, heq, -⟩ := holds_get_self hget
        exact ⟨(number', parents'), by rw [heq]; simp, rfl⟩
      have hkept := (hholds.get_of_ne hnumber).insert_found (hp.get number').bounded hnumber hfound
        (parents'.filter fun h => decide (h ≠ parent'))
      rwa [Finset.union_assoc, Finset.union_idempotent] at hkept
    · exact hholds.get_of_ne hnumber

lemma forget_of_none (h : (cache.get number).1 = none) :
    forgetRecordedMinedBlock cache number parent = cache := by
  rw [forget_eq, h]
  unfold LruMap.get at h ⊢
  split at h
  · cases h
  · rfl

end Cache

/-! ### The numbers used since -/

section Touched

variable {touched : List ℕ} {i j j' x number : ℕ} {r : MinedRecord}

lemma othersTouched_append (hj : j ≤ touched.length) :
    othersTouched (touched ++ [x]) i j number = othersTouched touched i j number := by
  rw [othersTouched, take_append_of_le_length hj, othersTouched]

lemma othersTouched_mono (touched : List ℕ) (i number : ℕ) (hj : j ≤ j') :
    othersTouched touched i j number ⊆ othersTouched touched i j' number := by
  refine Finset.erase_subset_erase _ fun x hx => ?_
  have hsub := (take_prefix_take_left (l := touched) hj).drop i
  exact mem_toFinset.mpr (hsub.subset (mem_toFinset.mp hx))

lemma othersTouched_concat (x number : ℕ) (hi : i ≤ touched.length) :
    othersTouched (touched ++ [x]) i (touched ++ [x]).length number =
      if x = number then othersTouched touched i touched.length number
      else othersTouched touched i touched.length number ∪ {x} := by
  rw [othersTouched, othersTouched, take_length, take_length,
    drop_append_of_le_length hi, toFinset_append]
  ext y
  split_ifs with h
  · subst h
    simp only [Finset.mem_erase, Finset.mem_union, mem_toFinset, mem_singleton]
    tauto
  · simp only [Finset.mem_erase, Finset.mem_union, mem_toFinset, mem_singleton,
      Finset.mem_singleton]
    grind

end Touched

/-! ### The guard -/

/-- Of the records that were not taken back: those with few other numbers used since are in the
map, and many were used between two for one height and parent. -/
structure Guarded (cache : RecentMinedBlocks) (touched : List ℕ) (records : List MinedRecord) :
    Prop where
  proper : Proper cache
  time_le : ∀ r ∈ records, r.time ≤ touched.length
  distinct : (records.map MinedRecord.time).Nodup
  remembered : ∀ r ∈ records,
    (r.others touched touched.length).card < recentMinedBlocksCacheSize →
      Remembers cache r.submission.blockNumber r.submission.parentHash
        (r.others touched touched.length)
  apart : ∀ a ∈ records, ∀ b ∈ records, Rivals a b → a.time < b.time →
    recentMinedBlocksCacheSize ≤ (a.others touched b.time).card

namespace Guarded

variable {cache cache' : RecentMinedBlocks} {touched : List ℕ} {records records' : List MinedRecord}
  {x : ℕ} {sub : Submission} {c : MinedRecord}

section

variable (h : Guarded cache touched records)
include h

lemma subperm (hsub : records'.Subperm records) : Guarded cache touched records' where
  proper := h.proper
  time_le r hr := h.time_le r (hsub.subset hr)
  distinct := by
    obtain ⟨l, hperm, hl⟩ := hsub
    exact (hperm.map _).nodup_iff.mp (h.distinct.sublist (hl.map _))
  remembered r hr := h.remembered r (hsub.subset hr)
  apart a ha b hb := h.apart a (hsub.subset ha) b (hsub.subset hb)

/-- The map is used for a number: it forgets another one only if enough were used since, and of
the same number what it must keep. -/
lemma touch (hproper : Proper cache')
    (hother : ∀ r ∈ records, ∀ used, x ≠ r.submission.blockNumber →
      Remembers cache r.submission.blockNumber r.submission.parentHash used →
      Remembers cache' r.submission.blockNumber r.submission.parentHash (used ∪ {x}) ∨
        recentMinedBlocksCacheSize ≤ (used ∪ {x}).card)
    (hsame : ∀ r ∈ records, ∀ used, x = r.submission.blockNumber →
      (r.others touched touched.length).card < recentMinedBlocksCacheSize →
      Remembers cache r.submission.blockNumber r.submission.parentHash used →
      Remembers cache' r.submission.blockNumber r.submission.parentHash used) :
    Guarded cache' (touched ++ [x]) records where
  proper := hproper
  time_le r hr := by
    have hle := h.time_le r hr
    rw [length_append]
    omega
  distinct := h.distinct
  remembered r hr hfew := by
    have hconcat := othersTouched_concat x r.submission.blockNumber (h.time_le r hr)
    rw [MinedRecord.others, hconcat] at hfew ⊢
    split_ifs at hfew ⊢ with hx
    · exact hsame r hr _ hx hfew (h.remembered r hr hfew)
    · have hless : (r.others touched touched.length).card < recentMinedBlocksCacheSize :=
        (Finset.card_le_card Finset.subset_union_left).trans_lt hfew
      rcases hother r hr _ hx (h.remembered r hr hless) with hkept | hfull
      · exact hkept
      · exact absurd hfull (Nat.not_le_of_lt hfew)
  apart a ha b hb hrival hlt := by
    rw [MinedRecord.others, othersTouched_append (h.time_le b hb)]
    exact h.apart a ha b hb hrival hlt

lemma check (number : ℕ) (parent : B256) :
    Guarded (checkAndRecordMinedBlock cache number parent).2 (touched ++ [number]) records := by
  refine h.touch (h.proper.check number parent) (fun r _ used hne hrem => ?_)
    fun r _ used heq _ hrem => ?_
  · exact hrem.check_of_ne h.proper hne
  · subst heq
    exact hrem.check_same h.proper

/-- **A block that is let through.** Every other record for its height and parent is old. -/
lemma check_fresh (hfresh : (checkAndRecordMinedBlock cache sub.blockNumber sub.parentHash).1) :
    Guarded (checkAndRecordMinedBlock cache sub.blockNumber sub.parentHash).2
      (touched ++ [sub.blockNumber]) (⟨sub, (touched ++ [sub.blockNumber]).length⟩ :: records) := by
  have hrest := h.check sub.blockNumber sub.parentHash
  have hlen : (touched ++ [sub.blockNumber]).length = touched.length + 1 := by simp
  refine ⟨hrest.proper, ?_, ?_, ?_, ?_⟩
  · rw [forall_mem_cons]
    exact ⟨le_rfl, hrest.time_le⟩
  · rw [map_cons, nodup_cons]
    refine ⟨fun hmem => ?_, h.distinct⟩
    obtain ⟨r, hr, htime⟩ := mem_map.mp hmem
    have hle := h.time_le r hr
    rw [htime] at hle
    exact absurd hle (by simp)
  · rw [forall_mem_cons]
    exact ⟨fun _ => (remembers_check_self h.proper hfresh).mono (Finset.empty_subset _),
      hrest.remembered⟩
  · intro a ha b hb hrival hlt
    rcases mem_cons.mp hb with rfl | hb
    · rcases mem_cons.mp ha with rfl | ha
      · exact absurd hlt (lt_irrefl _)
      · -- a record with few others used since would still be in the map
        obtain ⟨hnumber, hparent⟩ := hrival
        by_contra hfew
        rw [Nat.not_le, MinedRecord.others, othersTouched_concat _ _ (h.time_le a ha),
          if_pos hnumber.symm] at hfew
        have hrem := h.remembered a ha hfew
        rw [hnumber, hparent] at hrem
        rw [hrem.refused h.proper] at hfresh
        cases hfresh
    · rcases mem_cons.mp ha with rfl | ha
      · have hle := h.time_le b hb
        have hlt' : (touched ++ [sub.blockNumber]).length < b.time := hlt
        omega
      · exact hrest.apart a ha b hb hrival hlt

/-- **A record that is taken back** while few other numbers were used since it was made is not the
record of another block. -/
lemma forget (hc : c ∈ records)
    (hfew : (c.others touched touched.length).card < recentMinedBlocksCacheSize) :
    Guarded (forgetRecordedMinedBlock cache c.submission.blockNumber c.submission.parentHash)
      (if (cache.get c.submission.blockNumber).1.isSome then touched ++ [c.submission.blockNumber]
        else touched) (records.erase c) := by
  have hrest : Guarded cache touched (records.erase c) := h.subperm (erase_subperm c records)
  split_ifs with hsome
  · refine hrest.touch (h.proper.forget _ _) (fun r _ used hne hrem => ?_)
      fun r hr used heq hless hrem => ?_
    · exact hrem.forget_of_ne h.proper hne hsome
    · by_cases hparent : r.submission.parentHash = c.submission.parentHash
      · have hrival : Rivals r c := ⟨heq.symm, hparent⟩
        have hmem := mem_of_mem_erase hr
        rcases Nat.lt_trichotomy r.time c.time with hlt | htime | hlt
        · have hfull := h.apart r hmem c hc hrival hlt
          have hle := Finset.card_le_card (othersTouched_mono touched r.time
            r.submission.blockNumber (h.time_le c hc))
          exact absurd (hfull.trans hle) (Nat.not_le_of_lt hless)
        · obtain rfl := inj_on_of_nodup_map h.distinct hmem hc htime
          exact absurd hr (List.Nodup.not_mem_erase (List.Nodup.of_map _ h.distinct))
        · have hfull := h.apart c hc r hmem ⟨heq, hparent.symm⟩ hlt
          have hle := Finset.card_le_card (othersTouched_mono touched c.time
            c.submission.blockNumber (h.time_le r hmem))
          exact absurd (hfull.trans hle) (Nat.not_le_of_lt hfew)
      · rw [heq]
        exact hrem.forget_same h.proper hparent
  · rw [forget_of_none (by simpa using hsome)]
    exact hrest

end

end Guarded

/-! ### Runs -/

/-- A record is taken back only while few other numbers were used since it was made. -/
def MinerState.Prompt (s : MinerState) : MinerEvent → Prop
  | .fail r => r.submission.path = .bidBlock →
      (r.others s.touched s.touched.length).card < recentMinedBlocksCacheSize
  | _ => True

def MinerState.Steps (e : MinerEvent) (s s' : MinerState) : Prop := s.step e = some s'

def MinerState.PromptSteps (e : MinerEvent) (s s' : MinerState) : Prop := Steps e s s' ∧ s.Prompt e

/-- What the guard keeps of the records in flight and of the blocks released. -/
def MinerState.Sound (s : MinerState) : Prop := Guarded s.cache s.touched (s.inFlight ++ s.released)

variable {s : MinerState}

open MinerState

lemma MinerState.steps_fail {s' : MinerState} {c : MinedRecord} (h : Steps (.fail c) s s') :
    c ∈ s.inFlight ∧ ((c.submission.path = .bidBlock ∧ s'.cache =
      forgetRecordedMinedBlock s.cache c.submission.blockNumber c.submission.parentHash) ∨
        s'.cache = s.cache) := by
  have hmem : c ∈ s.inFlight := by
    by_contra hno
    simp [Steps, step, hno] at h
  simp only [Steps, step, if_pos hmem] at h
  refine ⟨hmem, ?_⟩
  cases hpath : c.submission.path with
  | localPayload =>
    rw [hpath] at h
    cases h
    exact .inr rfl
  | bidBlock =>
    rw [hpath] at h
    cases h
    exact .inl ⟨rfl, rfl⟩

lemma MinerState.sound_start : start.Sound where
  proper := ⟨rfl, nodup_nil, Nat.zero_le _⟩
  time_le := by simp [start]
  distinct := nodup_nil
  remembered := by simp [start]
  apart := by simp [start]

lemma MinerState.Sound.step {s' : MinerState} {e : MinerEvent} (h : s.Sound)
    (hstep : PromptSteps e s s') : s'.Sound := by
  obtain ⟨hstep, hprompt⟩ := hstep
  cases e with
  | enter view sub =>
    cases hstep
    split_ifs
    · exact h
    · exact h
  | check sub =>
    simp only [Steps, MinerState.step] at hstep
    split_ifs at hstep with _ hfresh
    · cases hstep
      exact Guarded.check_fresh h hfresh
    · cases hstep
      exact Guarded.check h sub.blockNumber sub.parentHash
  | handOver r =>
    simp only [Steps, MinerState.step] at hstep
    split_ifs at hstep with hmem
    cases hstep
    refine Guarded.subperm h (List.Perm.subperm ?_)
    exact perm_middle.trans ((perm_cons_erase hmem).symm.append_right s.released)
  | fail r =>
    have hmem := (steps_fail hstep).1
    simp only [Steps, MinerState.step, if_pos hmem] at hstep
    cases hpath : r.submission.path with
    | localPayload =>
      rw [hpath] at hstep
      cases hstep
      exact Guarded.subperm h ((erase_sublist.append_right s.released).subperm)
    | bidBlock =>
      rw [hpath] at hstep
      cases hstep
      have hforget := Guarded.forget h (mem_append_left s.released hmem) (hprompt hpath)
      rw [erase_append_left _ hmem] at hforget
      exact hforget

lemma MinerState.Sound.released_before {c a : MinedRecord} (h : s.Sound) (hc : c ∈ s.inFlight)
    (hfew : (c.others s.touched s.touched.length).card < recentMinedBlocksCacheSize)
    (ha : a ∈ s.released) (hrival : Rivals a c) :
    a.time < c.time ∧ recentMinedBlocksCacheSize ≤ (a.others s.touched c.time).card := by
  have hc' := mem_append_left s.released hc
  have ha' := mem_append_right s.inFlight ha
  have hdistinct := h.distinct
  rw [map_append, nodup_append] at hdistinct
  have hne : c.time ≠ a.time := hdistinct.2.2 _ (mem_map_of_mem hc) _ (mem_map_of_mem ha)
  rcases Nat.lt_or_gt_of_ne hne with hlt | hlt
  · have hfull := h.apart c hc' a ha' ⟨hrival.1.symm, hrival.2.symm⟩ hlt
    have hle := Finset.card_le_card (othersTouched_mono s.touched c.time
      c.submission.blockNumber (h.time_le a ha'))
    exact absurd (hfull.trans hle) (Nat.not_le_of_lt hfew)
  · exact ⟨hlt, h.apart a ha' c hc' hrival hlt⟩

/-- **Two blocks for one height on one parent** are both released only if a hundred other numbers
were used between them. A record that is taken back lets only blocks of its own height and parent
through, and a block that was released for them was forgotten before the record was made. Both
provided that a hand-over fails only while fewer than a hundred other numbers were used since the
record of its block. -/
theorem no_equivocation {events : List MinerEvent} {s : MinerState}
    (hrun : Trace MinerState.PromptSteps events .start s) :
    s.released.Pairwise (fun a b => Rivals a b →
      recentMinedBlocksCacheSize ≤ (othersTouched s.touched (min a.time b.time)
        (max a.time b.time) a.submission.blockNumber).card) ∧
    ∀ c s', MinerState.PromptSteps (.fail c) s s' → ∀ number parent,
      (checkAndRecordMinedBlock s.cache number parent).1 = false →
      (checkAndRecordMinedBlock s'.cache number parent).1 = true →
      number = c.submission.blockNumber ∧ parent = c.submission.parentHash ∧
      ∀ a ∈ s.released, Rivals a c →
        a.time < c.time ∧ recentMinedBlocksCacheSize ≤ (a.others s.touched c.time).card := by
  have hsound : s.Sound := hrun.keeps (fun e s s' hstep h => h.step hstep) sound_start
  refine ⟨?_, fun c s' hstep number parent hrefused hthrough => ?_⟩
  · have hdistinct : s.released.Pairwise fun a b => a.time ≠ b.time :=
      pairwise_map.mp (hsound.distinct.sublist (sublist_append_right _ _ |>.map _))
    refine List.Pairwise.imp_of_mem (fun {a b} ha hb hne hrival => ?_) hdistinct
    have ha' := mem_append_right s.inFlight ha
    have hb' := mem_append_right s.inFlight hb
    rcases Nat.lt_or_gt_of_ne hne with hlt | hlt
    · rw [min_eq_left hlt.le, max_eq_right hlt.le]
      exact hsound.apart a ha' b hb' hrival hlt
    · rw [min_eq_right hlt.le, max_eq_left hlt.le, hrival.1]
      exact hsound.apart b hb' a ha' ⟨hrival.1.symm, hrival.2.symm⟩ hlt
  · obtain ⟨hmem, ⟨hpath, hcache⟩ | hcache⟩ := steps_fail hstep.1
    · -- only the number and the parent of the record itself are let through
      by_cases hpair : number = c.submission.blockNumber ∧ parent = c.submission.parentHash
      · exact ⟨hpair.1, hpair.2, fun a ha hrival =>
          hsound.released_before hmem (hstep.2 hpath) ha hrival⟩
      · rw [hcache, refused_forget hsound.proper hrefused hpair] at hthrough
        cases hthrough
    · rw [hcache, hrefused] at hthrough
      cases hthrough

/-! ### Two runs -/

def MinerState.run (s : MinerState) (events : List MinerEvent) : Option MinerState :=
  events.foldlM step s

instance MinerState.instDecidablePrompt (s : MinerState) (e : MinerEvent) :
    Decidable (s.Prompt e) := by
  cases e <;> simp only [Prompt] <;> infer_instance

def MinerState.runPrompt (s : MinerState) (events : List MinerEvent) : Option MinerState :=
  events.foldlM (fun s e => if s.Prompt e then s.step e else none) s

lemma MinerState.trace_of_runPrompt {events : List MinerEvent} {t : MinerState}
    (h : s.runPrompt events = some t) : Trace PromptSteps events s t := by
  refine (Trace.of_foldlM h).mono fun e s t hstep => ?_
  split_ifs at hstep with hprompt
  exact ⟨hstep, hprompt⟩

/-- The chain up to the parent of a height; block `k` has the hash `k`. -/
def viewBelow (number : ℕ) : SubmissionView :=
  ⟨some (number - 1), fun k => some (BitVec.ofNat 256 k), true, true⟩

/-- A block of a height; `mark` tells blocks apart. -/
def blockAt (path : SubmissionPath) (number mark : ℕ) : Submission :=
  ⟨path, BitVec.ofNat 256 mark, number, BitVec.ofNat 256 (number - 1)⟩

/-- The block of a builder that is recorded and handed over, if it is the use of that number. -/
def mineAt (number : ℕ) : List MinerEvent :=
  [.enter (viewBelow number) (blockAt .bidBlock number number),
    .check (blockAt .bidBlock number number), .handOver ⟨blockAt .bidBlock number number, number⟩]

/-- A hand-over fails and the validator releases its own block instead. -/
def fallbackRun : List MinerEvent :=
  [.enter (viewBelow 1) (blockAt .bidBlock 1 0), .check (blockAt .bidBlock 1 0),
    .fail ⟨blockAt .bidBlock 1 0, 1⟩, .enter (viewBelow 1) (blockAt .localPayload 1 1),
    .check (blockAt .localPayload 1 1), .handOver ⟨blockAt .localPayload 1 1, 3⟩]

/-- The validator falls back to its own block, and it is the only one of its height. -/
theorem no_equivocation_fallback : ∃ s, Trace MinerState.PromptSteps fallbackRun .start s ∧
    s.released = [⟨blockAt .localPayload 1 1, 3⟩] ∧
    s.released.Pairwise fun a b => Rivals a b →
      recentMinedBlocksCacheSize ≤ (othersTouched s.touched (min a.time b.time)
        (max a.time b.time) a.submission.blockNumber).card := by
  obtain ⟨s, hrun, hreleased⟩ := (Option.any_eq_true
    (fun s : MinerState => decide (s.released = [⟨blockAt .localPayload 1 1, 3⟩]))
    (start.runPrompt fallbackRun)).mp (by decide +kernel)
  have htrace := trace_of_runPrompt hrun
  exact ⟨s, htrace, of_decide_eq_true hreleased, (no_equivocation htrace).1⟩

/-- Three blocks of height one pass the checks before the record. One is recorded; a hundred heights
later the second is recorded and released. -/
def lateRun : List MinerEvent :=
  [.enter (viewBelow 1) (blockAt .bidBlock 1 0), .enter (viewBelow 1) (blockAt .localPayload 1 1),
    .enter (viewBelow 1) (blockAt .bidBlock 1 2), .check (blockAt .bidBlock 1 0)] ++
  (List.range' 2 100).flatMap mineAt ++
  [.check (blockAt .localPayload 1 1), .handOver ⟨blockAt .localPayload 1 1, 102⟩]

/-- The third block is recorded and released. -/
def secondRun : List MinerEvent :=
  [.check (blockAt .bidBlock 1 2), .handOver ⟨blockAt .bidBlock 1 2, 104⟩]

lemma secondRun_facts : ((start.run lateRun).any fun s =>
    decide (⟨blockAt .localPayload 1 1, 102⟩ ∈ s.released) &&
    !(checkAndRecordMinedBlock s.cache 1 0).1 &&
    (s.step (.fail ⟨blockAt .bidBlock 1 0, 1⟩)).any fun s' =>
      (checkAndRecordMinedBlock s'.cache 1 0).1 &&
      (s'.run secondRun).any fun t =>
        decide (t.released.take 2 =
          [⟨blockAt .bidBlock 1 2, 104⟩, ⟨blockAt .localPayload 1 1, 102⟩]) &&
        decide (othersTouched t.touched 102 104 1 = ∅)) := by decide +kernel

/-- The hand-over of a block fails long after another one of its height was recorded: the record of
that one is taken back, and a third is released with no other number used in between. -/
theorem rollback_lets_second_block_through : ∃ s s' t, Trace MinerState.Steps lateRun .start s ∧
    MinerState.Steps (.fail ⟨blockAt .bidBlock 1 0, 1⟩) s s' ∧
    Trace MinerState.Steps secondRun s' t ∧
    ⟨blockAt .localPayload 1 1, 102⟩ ∈ s.released ∧
    (checkAndRecordMinedBlock s.cache 1 0).1 = false ∧
    (checkAndRecordMinedBlock s'.cache 1 0).1 = true ∧
    t.released.take 2 = [⟨blockAt .bidBlock 1 2, 104⟩, ⟨blockAt .localPayload 1 1, 102⟩] ∧
    othersTouched t.touched 102 104 1 = ∅ := by
  obtain ⟨s, hlate, hs⟩ := (Option.any_eq_true _ _).mp secondRun_facts
  simp only [Bool.and_eq_true, decide_eq_true_eq, Bool.not_eq_true'] at hs
  obtain ⟨⟨hreleased, hrefused⟩, hs⟩ := hs
  obtain ⟨s', hfail, hs⟩ := (Option.any_eq_true _ _).mp hs
  simp only [Bool.and_eq_true] at hs
  obtain ⟨hthrough, hs⟩ := hs
  obtain ⟨t, hsecond, ht⟩ := (Option.any_eq_true _ _).mp hs
  simp only [Bool.and_eq_true, decide_eq_true_eq] at ht
  exact ⟨s, s', t, Trace.of_foldlM hlate, hfail, Trace.of_foldlM hsecond, hreleased,
    hrefused, hthrough, ht.1, ht.2⟩

end RethBsc
