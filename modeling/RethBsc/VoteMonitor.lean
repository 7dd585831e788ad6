import Mathlib.Order.Interval.Finset.Nat
import RethBsc.Promotion
import RethBsc.VoteJournal

/-!
The monitor of malicious votes.

The votes of an address are kept by target number in a map of 512 entries that forgets the
one unused for longest. A new vote is compared with those a scan of the targets from above
its source to the end of the admission window finds, in ascending order. So of the targets
below one in scope at most one has been used since, and those above are few: no vote in scope
is forgotten.

Additions are those of a build that checks for overflow; `none` is a panic.
-/

namespace RethBsc

open Option Finset LruMap

def checkedAdd (a b : ℕ) : Option ℕ := if a + b ≤ u64Max then some (a + b) else none

lemma checkedAdd_of_le {a b : ℕ} (h : a + b ≤ u64Max) : checkedAdd a b = some (a + b) := if_pos h

lemma checkedAdd_eq_some {a b c : ℕ} (h : checkedAdd a b = some c) :
    a + b ≤ u64Max ∧ a + b = c := by
  unfold checkedAdd at h
  split_ifs at h with hle
  exact ⟨hle, some.inj h⟩

/-- A vote against its sender's rules, given an earlier one. -/
def VoteData.Violates (new earlier : VoteData) : Prop :=
  (earlier.targetNumber = new.targetNumber ∧ earlier ≠ new) ∨ earlier.Encloses new ∨
    new.Encloses earlier

namespace MaliciousVoteMonitor

def maxSizeOfRecentEntry : ℕ := 512
def maliciousVoteSlashScope : ℕ := 256

/-- The recent votes of one address by target number. -/
abbrev VoteBuffer := LruMap ℕ VoteEnvelope

def newBuffer : VoteBuffer := ⟨maxSizeOfRecentEntry, []⟩

variable (deps : Deps) (newVote : VoteEnvelope)

/-- Whether the vote kept for a block number and the new one break a rule together. -/
def isMalicious (blockNumber : ℕ) (existing : VoteEnvelope) : Bool :=
  decide (blockNumber = newVote.data.targetNumber ∧
      deps.voteDataHash existing.data ≠ deps.voteDataHash newVote.data) ||
    decide (blockNumber < newVote.data.targetNumber ∧
      existing.data.sourceNumber > newVote.data.sourceNumber) ||
    decide (blockNumber > newVote.data.targetNumber ∧
      existing.data.sourceNumber < newVote.data.sourceNumber)

def scan : ℕ → ℕ → VoteBuffer → Option (Bool × VoteBuffer)
  | 0, _, buffer => some (false, buffer)
  | rounds + 1, blockNumber, buffer =>
    let (existing, buffer) := buffer.get blockNumber
    if existing.any (isMalicious deps newVote blockNumber) then some (true, buffer)
    else do
      let next ← checkedAdd blockNumber 1
      scan rounds next buffer

def scanStart (pendingBlockNumber : ℕ) : Option ℕ := do
  let blockNumber ← checkedAdd newVote.data.sourceNumber 1
  let reach ← checkedAdd blockNumber maliciousVoteSlashScope
  some (if reach ≤ pendingBlockNumber then pendingBlockNumber - maliciousVoteSlashScope + 1
    else blockNumber)

def conflictDetect (buffer : VoteBuffer) (pendingBlockNumber : ℕ) : Option (Bool × VoteBuffer) := do
  let scope ← checkedAdd newVote.data.targetNumber maliciousVoteSlashScope
  if scope ≤ pendingBlockNumber then some (false, buffer)
  else
    let start ← scanStart newVote pendingBlockNumber
    let last ← checkedAdd pendingBlockNumber VotePool.upperLimitOfVoteBlockNumber
    let (conflict, buffer) ← scan deps newVote (last + 1 - start) start buffer
    some (conflict, if conflict then buffer else buffer.insert newVote.data.targetNumber newVote)

variable {deps newVote} {buffer buffer' : VoteBuffer} {rounds b t : ℕ} {v : VoteEnvelope}
  {used : Finset ℕ}

/-! ### The scan -/

lemma scan_eq (hfit : b + rounds ≤ u64Max) : ∃ r buffer',
    scan deps newVote rounds b buffer = some (r, buffer') ∧
      (r ↔ ∃ k v, b ≤ k ∧ k < b + rounds ∧ (buffer.get k).1 = some v ∧
        isMalicious deps newVote k v) := by
  induction rounds generalizing b buffer with
  | zero => exact ⟨false, buffer, rfl, by simp; omega⟩
  | succ rounds ih =>
    rw [scan]
    by_cases hmal : (buffer.get b).1.any (isMalicious deps newVote b) = true
    · obtain ⟨v, hv, hmalv⟩ := (any_eq_true _ _).mp hmal
      exact ⟨true, (buffer.get b).2, if_pos hmal,
        iff_of_true rfl ⟨b, v, le_refl _, by omega, hv, hmalv⟩⟩
    · obtain ⟨r, buffer', hscan, hiff⟩ := ih (b := b + 1) (by omega)
      refine ⟨r, buffer', ?_, hiff.trans ⟨?_, ?_⟩⟩
      · simp only [hmal, checkedAdd_of_le (show b + 1 ≤ u64Max by omega)]
        exact hscan
      · rintro ⟨k, v, hle, hlt, hget, hmalk⟩
        rw [get_get] at hget
        exact ⟨k, v, by omega, by omega, hget, hmalk⟩
      · rintro ⟨k, v, hle, hlt, hget, hmalk⟩
        have hne : b ≠ k := by
          rintro rfl
          exact hmal ((any_eq_true _ _).mpr ⟨v, hget, hmalk⟩)
        exact ⟨k, v, by omega, by omega, by rw [get_get]; exact hget, hmalk⟩

lemma scan_isSome (hfit : b + rounds ≤ u64Max) : (scan deps newVote rounds b buffer).isSome := by
  obtain ⟨r, buffer', hscan, -⟩ : ∃ r buffer', scan deps newVote rounds b buffer =
    some (r, buffer') ∧ _ := scan_eq hfit
  rw [hscan]
  rfl

lemma scan_succ_eq_false (h : scan deps newVote (rounds + 1) b buffer = some (false, buffer')) :
    scan deps newVote rounds (b + 1) (buffer.get b).2 = some (false, buffer') := by
  rw [scan] at h
  simp only at h
  split_ifs at h
  · cases h
  · obtain ⟨next, hnext, hrest⟩ := bind_eq_some_iff.mp h
    rwa [← (checkedAdd_eq_some hnext).2] at hrest

lemma scan_keeps {P : VoteBuffer → Prop} (hP : ∀ m k, P m → P (m.get k).2) (h : P buffer)
    (hscan : scan deps newVote rounds b buffer = some (false, buffer')) : P buffer' := by
  induction rounds generalizing b buffer with
  | zero => rwa [← (Prod.mk.inj (some.inj hscan)).2]
  | succ rounds ih => exact ih (hP _ _ h) (scan_succ_eq_false hscan)

lemma scan_holds_below (h : buffer.Holds t v used) (ht : t < b)
    (hscan : scan deps newVote rounds b buffer = some (false, buffer')) :
    buffer'.Holds t v (used ∪ Finset.Ico (t + 1) (b + rounds)) := by
  induction rounds generalizing b buffer used with
  | zero =>
    rw [← (Prod.mk.inj (some.inj hscan)).2]
    exact h.mono subset_union_left
  | succ rounds ih =>
    refine (ih (h.get_of_ne (by omega)) (by omega) (scan_succ_eq_false hscan)).mono ?_
    rw [union_assoc]
    refine union_subset_union_right (union_subset ?_ ?_)
    · rw [singleton_subset_iff, mem_Ico]
      omega
    · exact Finset.Ico_subset_Ico_right (by omega)

lemma scan_holds_within (hd : buffer.Distinct) (h : buffer.Holds t v used) (hb : b ≤ t)
    (ht : t < b + rounds) (hscan : scan deps newVote rounds b buffer = some (false, buffer')) :
    buffer'.Holds t v (Finset.Ico (t + 1) (b + rounds)) := by
  induction rounds generalizing b buffer used with
  | zero => omega
  | succ rounds ih =>
    have hrest := scan_succ_eq_false hscan
    by_cases hbt : b = t
    · subst hbt
      have hself := holds_get_self (get_of_holds hd h)
      refine (scan_holds_below hself (by omega) hrest).mono ?_
      rw [empty_union]
      exact Finset.Ico_subset_Ico_right (by omega)
    · refine (ih (hd.get b) (h.get_of_ne hbt) (by omega) (by omega) hrest).mono ?_
      exact Finset.Ico_subset_Ico_right (by omega)

lemma scanStart_eq {pending : ℕ} (hsource : newVote.data.sourceNumber + 257 ≤ u64Max) :
    scanStart newVote pending = some (max (newVote.data.sourceNumber + 1) (pending - 255)) := by
  have hfirst := checkedAdd_of_le (show newVote.data.sourceNumber + 1 ≤ u64Max by omega)
  have hreach := checkedAdd_of_le (show newVote.data.sourceNumber + 1 + maliciousVoteSlashScope ≤
    u64Max from hsource)
  rw [scanStart, hfirst, bind_eq_bind, bind_some, hreach, bind_some, some_inj]
  unfold maliciousVoteSlashScope
  split_ifs <;> omega

lemma conflictDetect_eq {pending : ℕ} (hscope : pending < newVote.data.targetNumber + 256)
    (hsource : newVote.data.sourceNumber + 257 ≤ u64Max)
    (htarget : newVote.data.targetNumber + 256 ≤ u64Max) (hpending : pending + 12 ≤ u64Max) :
    conflictDetect deps newVote buffer pending = (scan deps newVote
        (pending + 12 - max (newVote.data.sourceNumber + 1) (pending - 255))
        (max (newVote.data.sourceNumber + 1) (pending - 255)) buffer).map fun (r, buffer) =>
          (r, if r then buffer else buffer.insert newVote.data.targetNumber newVote) := by
  have hadd := checkedAdd_of_le (show newVote.data.targetNumber + maliciousVoteSlashScope ≤
    u64Max from htarget)
  have hlast := checkedAdd_of_le (show pending + VotePool.upperLimitOfVoteBlockNumber ≤ u64Max by
    rw [VotePool.upperLimitOfVoteBlockNumber]; omega)
  have hin : ¬newVote.data.targetNumber + maliciousVoteSlashScope ≤ pending := Nat.not_le.mpr hscope
  simp only [conflictDetect, hadd, hlast, scanStart_eq hsource, bind_eq_bind, bind_some, if_neg hin]
  rw [map_eq_bind]
  rfl

/-! ### What a buffer remembers -/

variable (deps) in
/-- The calls of one address, in turn: every vote spans blocks and lies in the admission window
of its pending block number, and different vote data have different hashes. -/
structure Presented (calls : List (VoteEnvelope × ℕ)) : Prop where
  spans : ∀ c ∈ calls, c.1.data.sourceNumber < c.1.data.targetNumber
  inWindow : ∀ c ∈ calls, c.2 < c.1.data.targetNumber + 256 ∧ c.1.data.targetNumber ≤ c.2 + 11
  ordered : calls.Pairwise fun c d => c.2 ≤ d.2
  small : ∀ c ∈ calls, c.2 < 2 ^ 63
  hashes : ∀ c ∈ calls, ∀ d ∈ calls,
    deps.voteDataHash c.1.data = deps.voteDataHash d.1.data → c.1.data = d.1.data

variable (deps) in
/-- The buffer after calls none of which found a violation. -/
def detectAll (calls : List (VoteEnvelope × ℕ)) : Option VoteBuffer :=
  calls.foldlM (fun buffer call => do
    let (conflict, buffer) ← conflictDetect deps call.1 buffer call.2
    if conflict then none else some buffer) newBuffer

/-- The vote data of a call in scope are kept, and besides targets above at most one has been
used since. -/
def Keeps (buffer : VoteBuffer) (vd : VoteData) (pending : ℕ) : Prop :=
  ∃ v w, v.data = vd ∧
    buffer.Holds vd.targetNumber v (insert w (Finset.Ico (vd.targetNumber + 1) (pending + 12)))

structure Remembers (calls : List (VoteEnvelope × ℕ)) (pending : ℕ) (buffer : VoteBuffer) :
    Prop where
  distinct : buffer.Distinct
  capacity : buffer.capacity = maxSizeOfRecentEntry
  all : buffer.All fun k v => v.data.targetNumber = k ∧ ∃ c ∈ calls, c.1 = v
  keeps : ∀ c ∈ calls, pending < c.1.data.targetNumber + 256 → Keeps buffer c.1.data pending

variable {calls : List (VoteEnvelope × ℕ)} {pending pending' : ℕ} {vd : VoteData}

lemma Remembers.mono (h : Remembers calls pending buffer) (hle : pending ≤ pending') :
    Remembers calls pending' buffer where
  distinct := h.distinct
  capacity := h.capacity
  all := h.all
  keeps c hc hscope := by
    obtain ⟨v, w, hv, hheld⟩ := h.keeps c hc (by omega)
    exact ⟨v, w, hv, hheld.mono (insert_subset_insert w (Finset.Ico_subset_Ico_right (by omega)))⟩

lemma remembers_new : Remembers [] pending newBuffer where
  distinct := List.nodup_nil
  capacity := rfl
  all := List.forall_mem_nil _
  keeps := by simp

lemma isMalicious_iff (hhash : deps.voteDataHash v.data = deps.voteDataHash newVote.data →
      v.data = newVote.data) :
    isMalicious deps newVote v.data.targetNumber v ↔ newVote.data.Violates v.data := by
  have hne : deps.voteDataHash v.data ≠ deps.voteDataHash newVote.data ↔ v.data ≠ newVote.data :=
    not_congr ⟨hhash, congrArg _⟩
  simp only [isMalicious, VoteData.Violates, VoteData.Encloses, Bool.or_eq_true, decide_eq_true_eq,
    hne]
  tauto

/-- A vote in scope is still kept after a scan that found nothing and the vote put after it. -/
lemma Keeps.step (h : Keeps buffer vd pending) (hd : buffer.Distinct) (hd' : buffer'.Distinct)
    (hcap : buffer'.capacity = maxSizeOfRecentEntry)
    (hspan : newVote.data.sourceNumber < newVote.data.targetNumber)
    (hwindow : newVote.data.targetNumber ≤ pending + 11)
    (hscope : pending < vd.targetNumber + 256) (hlast : vd.targetNumber ≤ pending + 11)
    (hsame : vd.targetNumber = newVote.data.targetNumber → newVote.data = vd)
    (hstart : b = max (newVote.data.sourceNumber + 1) (pending - 255))
    (hscan : scan deps newVote (pending + 12 - b) b buffer = some (false, buffer')) :
    Keeps (buffer'.insert newVote.data.targetNumber newVote) vd pending := by
  have hfirst : b + (pending + 12 - b) = pending + 12 := by omega
  by_cases htarget : newVote.data.targetNumber = vd.targetNumber
  · refine ⟨newVote, 0, hsame htarget.symm, ?_⟩
    rw [htarget]
    exact (holds_insert_self (by rw [hcap]; decide)).mono (empty_subset _)
  obtain ⟨v, w, hv, hheld⟩ := h
  -- below the scan the exceptional key stays, within it the new target takes its place
  obtain ⟨w', used, hused, hsub⟩ : ∃ w' used, buffer'.Holds vd.targetNumber v used ∧
      used ∪ {newVote.data.targetNumber} ⊆
        insert w' (Finset.Ico (vd.targetNumber + 1) (pending + 12)) := by
    by_cases hbelow : vd.targetNumber < b
    · refine ⟨w, _, hfirst ▸ scan_holds_below hheld hbelow hscan, ?_⟩
      refine union_subset (union_subset subset_rfl (subset_insert _ _)) ?_
      rw [singleton_subset_iff, mem_insert, mem_Ico]
      omega
    · refine ⟨newVote.data.targetNumber, _,
        hfirst ▸ scan_holds_within hd hheld (by omega) (by omega) hscan, ?_⟩
      rw [union_comm]
      exact (insert_eq _ _).symm.subset
  refine ⟨v, w', hv, ?_⟩
  rcases hused.insert_of_ne hd' htarget with hkept | hfull
  · exact hkept.mono hsub
  · have hcard := (card_le_card hsub).trans (card_insert_le _ _)
    rw [Nat.card_Ico] at hcard
    rw [hcap, maxSizeOfRecentEntry] at hfull
    omega

lemma Presented.fits (hp : Presented deps calls) {c : VoteEnvelope × ℕ} (hc : c ∈ calls) :
    c.1.data.sourceNumber + 257 ≤ u64Max ∧ c.1.data.targetNumber + 256 ≤ u64Max ∧
      c.2 + 12 ≤ u64Max := by
  have hspan := hp.spans c hc
  have hwindow := (hp.inWindow c hc).2
  have hsmall := hp.small c hc
  unfold u64Max
  omega

lemma Presented.target_le (hp : Presented deps (calls ++ [(newVote, pending)]))
    {c : VoteEnvelope × ℕ} (hc : c ∈ calls) : c.1.data.targetNumber ≤ pending + 11 := by
  have hle := (List.pairwise_append.mp hp.ordered).2.2 c hc _ (List.mem_singleton_self _)
  have hwindow := (hp.inWindow c (List.mem_append_left _ hc)).2
  exact hwindow.trans (Nat.add_le_add_right hle 11)

lemma Presented.init {call : VoteEnvelope × ℕ} (hp : Presented deps (calls ++ [call])) :
    Presented deps calls where
  spans c hc := hp.spans c (List.mem_append_left _ hc)
  inWindow c hc := hp.inWindow c (List.mem_append_left _ hc)
  ordered := (List.pairwise_append.mp hp.ordered).1
  small c hc := hp.small c (List.mem_append_left _ hc)
  hashes c hc d hd := hp.hashes c (List.mem_append_left _ hc) d (List.mem_append_left _ hd)

section Call

variable (h : Remembers calls pending buffer) (hp : Presented deps (calls ++ [(newVote, pending)]))
include h hp

lemma Remembers.scan_finds (hb : b = max (newVote.data.sourceNumber + 1) (pending - 255)) :
    ∃ r buffer',
    scan deps newVote (pending + 12 - b) b buffer = some (r, buffer') ∧
      (r ↔ ∃ c ∈ calls, pending < c.1.data.targetNumber + 256 ∧
        newVote.data.Violates c.1.data) := by
  have hspan : newVote.data.sourceNumber < newVote.data.targetNumber :=
    hp.spans _ List.mem_concat_self
  have hwindow : newVote.data.targetNumber ≤ pending + 11 := (hp.inWindow _ List.mem_concat_self).2
  have hfits : pending + 12 ≤ u64Max := (hp.fits List.mem_concat_self).2.2
  have hfirst : b + (pending + 12 - b) = pending + 12 := by omega
  have hhashes := fun c (hc : c ∈ calls) =>
    hp.hashes c (List.mem_append_left _ hc) _ List.mem_concat_self
  obtain ⟨r, buffer', hscan, hiff⟩ : ∃ r buffer',
      scan deps newVote (pending + 12 - b) b buffer = some (r, buffer') ∧ _ :=
    scan_eq (by omega)
  rw [hfirst] at hiff
  refine ⟨r, buffer', hscan, hiff.trans ⟨?_, ?_⟩⟩
  · rintro ⟨k, v, hle, -, hget, hmal⟩
    obtain ⟨rfl, c, hc, rfl⟩ := h.all.of_get hget
    rw [isMalicious_iff (hhashes c hc)] at hmal
    exact ⟨c, hc, by omega, hmal⟩
  · rintro ⟨c, hc, hin, hviol⟩
    obtain ⟨v, w, hv, hheld⟩ := h.keeps c hc hin
    have hcspan := hp.spans c (List.mem_append_left _ hc)
    have hlast := hp.target_le hc
    have habove : newVote.data.sourceNumber < c.1.data.targetNumber := by
      rcases hviol with ⟨heq, -⟩ | henc | henc
      · rwa [heq]
      · exact hspan.trans henc.2
      · exact henc.1.trans hcspan
    have hmal : isMalicious deps newVote v.data.targetNumber v := by
      refine (isMalicious_iff ?_).mpr (hv ▸ hviol)
      rw [hv]
      exact hhashes c hc
    rw [hv] at hmal
    exact ⟨c.1.data.targetNumber, v, by omega, by omega, get_of_holds h.distinct hheld, hmal⟩

lemma Remembers.put (hb : b = max (newVote.data.sourceNumber + 1) (pending - 255))
    (hscan : scan deps newVote (pending + 12 - b) b buffer = some (false, buffer'))
    (hnone : ∀ c ∈ calls, pending < c.1.data.targetNumber + 256 → ¬newVote.data.Violates c.1.data) :
    Remembers (calls ++ [(newVote, pending)]) pending
      (buffer'.insert newVote.data.targetNumber newVote) := by
  have hd : buffer'.Distinct :=
    scan_keeps (P := LruMap.Distinct) (fun _ k hm => hm.get k) h.distinct hscan
  have hcap : buffer'.capacity = maxSizeOfRecentEntry :=
    scan_keeps (P := fun m => m.capacity = maxSizeOfRecentEntry)
      (fun m k hm => (capacity_get m k).trans hm) h.capacity hscan
  have hall := scan_keeps (P := LruMap.All _) (fun _ k hm => hm.get k) h.all hscan
  refine ⟨hd.insert _ _, hcap, LruMap.All.insert (fun e he => ?_)
    ⟨rfl, _, List.mem_concat_self, rfl⟩, ?_⟩
  · obtain ⟨hk, c, hc, hv⟩ := hall e he
    exact ⟨hk, c, List.mem_append_left _ hc, hv⟩
  · intro c hc hin
    rcases List.mem_append.mp hc with hc | hc
    · refine (h.keeps c hc hin).step h.distinct hd hcap (hp.spans _ List.mem_concat_self)
        (hp.inWindow _ List.mem_concat_self).2 hin (hp.target_le hc) (fun hsame => ?_) hb hscan
      by_contra hne
      exact hnone c hc hin (.inl ⟨hsame, Ne.symm hne⟩)
    · obtain rfl := List.mem_singleton.mp hc
      exact ⟨newVote, 0, rfl, (holds_insert_self (by rw [hcap]; decide)).mono (empty_subset _)⟩

lemma Remembers.step : ∃ r buffer', conflictDetect deps newVote buffer pending = some (r, buffer') ∧
      (r ↔ ∃ c ∈ calls, pending < c.1.data.targetNumber + 256 ∧ newVote.data.Violates c.1.data) ∧
      (r = false → Remembers (calls ++ [(newVote, pending)]) pending buffer') := by
  obtain ⟨hsource, htarget, hpending⟩ := hp.fits List.mem_concat_self
  obtain ⟨r, buffer', hscan, hr⟩ := h.scan_finds hp rfl
  have heq : conflictDetect deps newVote buffer pending = _ :=
    conflictDetect_eq (hp.inWindow _ List.mem_concat_self).1 hsource htarget hpending
  rw [hscan, map_some] at heq
  refine ⟨r, _, heq, hr, fun hfalse => ?_⟩
  subst hfalse
  refine h.put hp rfl hscan fun c hc hin hviol => ?_
  exact Bool.false_ne_true (hr.mpr ⟨c, hc, hin, hviol⟩)

end Call

lemma remembers_of_detectAll (hp : Presented deps calls)
    (hrun : detectAll deps calls = some buffer) (hle : ∀ c ∈ calls, c.2 ≤ pending) :
    Remembers calls pending buffer := by
  induction calls using List.reverseRecOn generalizing buffer pending with
  | nil =>
    cases hrun
    exact remembers_new
  | append_singleton calls call ih =>
    obtain ⟨vote, last⟩ := call
    rw [detectAll, List.foldlM_append] at hrun
    obtain ⟨before, hbefore, hcall⟩ := bind_eq_some_iff.mp hrun
    have hordered := (List.pairwise_append.mp hp.ordered).2.2
    have hinit := ih hp.init hbefore fun c hc => hordered c hc _ (List.mem_singleton_self _)
    obtain ⟨r, after, heq, -, hkept⟩ := hinit.step hp
    simp only [List.foldlM_cons, List.foldlM_nil, heq] at hcall
    cases r with
    | true => cases hcall
    | false =>
      cases hcall
      exact (hkept rfl).mono (hle _ List.mem_concat_self)

variable (deps) in
/-- The first violation of an address is found, by a scan of at most 267 rounds: after calls
none of which found one, a call finds one exactly when the new vote and an earlier one still in
scope break a rule together. -/
theorem conflictDetect_iff_violates (earlier : List (VoteEnvelope × ℕ)) (newVote : VoteEnvelope)
    (pending : ℕ) (buffer : VoteBuffer)
    (hp : Presented deps (earlier ++ [(newVote, pending)]))
    (hrun : detectAll deps earlier = some buffer) :
    (∃ r buffer', conflictDetect deps newVote buffer pending = some (r, buffer') ∧
      (r = true ↔ ∃ c ∈ earlier, pending < c.1.data.targetNumber + maliciousVoteSlashScope ∧
        newVote.data.Violates c.1.data)) ∧
    ∃ start, scanStart newVote pending = some start ∧
      pending + VotePool.upperLimitOfVoteBlockNumber + 1 - start ≤ 267 := by
  have hordered := (List.pairwise_append.mp hp.ordered).2.2
  have hkept := remembers_of_detectAll hp.init hrun fun c hc =>
    hordered c hc _ (List.mem_singleton_self _)
  obtain ⟨r, buffer', heq, hiff, -⟩ := hkept.step hp
  refine ⟨⟨r, buffer', heq, hiff⟩, _, scanStart_eq (hp.fits List.mem_concat_self).1, ?_⟩
  rw [VotePool.upperLimitOfVoteBlockNumber]
  omega

/-- Hashes that tell apart the votes below. -/
def watchDeps : VoteDeps :=
  { floodDeps with
    envelopeHash := fun vote => BitVec.ofNat 256 vote.voteAddress.toNat
    voteDataHash := fun d => BitVec.ofNat 256 (d.sourceNumber * 1024 + d.targetNumber) }

def watchVote (source target : ℕ) : VoteEnvelope := ⟨1, 0, ⟨source, 0, target, 0⟩⟩

/-- A vote within the span of an earlier one. -/
theorem conflictDetect_iff_violates_enclosed : ∃ buffer r buffer',
    detectAll watchDeps.toDeps [(watchVote 3 12, 5)] = some buffer ∧
      conflictDetect watchDeps.toDeps (watchVote 5 9) buffer 8 = some (r, buffer') ∧ r = true := by
  have hp : Presented watchDeps.toDeps ([(watchVote 3 12, 5)] ++ [(watchVote 5 9, 8)]) :=
    ⟨by decide, by decide, by decide, by decide, by decide⟩
  have hsome : (detectAll watchDeps.toDeps [(watchVote 3 12, 5)]).isSome = true := by
    decide +kernel
  obtain ⟨buffer, hrun⟩ := isSome_iff_exists.mp hsome
  obtain ⟨⟨r, buffer', heq, hr⟩, -⟩ := conflictDetect_iff_violates watchDeps.toDeps
    [(watchVote 3 12, 5)] (watchVote 5 9) 8 buffer hp hrun
  exact ⟨buffer, r, buffer', hrun, heq,
    hr.mpr ⟨_, List.mem_singleton_self _, by decide, .inr (.inl ⟨by decide, by decide⟩)⟩⟩

end MaliciousVoteMonitor

/-! ### Putting votes with the monitor -/

namespace PoolEnv

variable (env : PoolEnv) (deps : Deps)

/-- `governing_sets_differ` where additions may overflow. -/
def checkedGoverningSetsDiffer (head target epoch offset : ℕ) : Option Bool :=
  let epoch := max epoch 1
  if epoch ≤ offset then some false
  else do
    let swapsUpto n := if offset ≤ n then checkedAdd ((n - offset) / epoch) 1 else some 0
    let atHead ← swapsUpto head
    let atTarget ← swapsUpto (target - 1)
    some (decide (atHead ≠ atTarget))

def headSnapshot : Option (ℕ × Snapshot) := do
  let headNumber ← env.bestCanonicalBlockNumber
  let head ← env.headerByNumber headNumber
  let snapshotByHash ← env.snapshotProvider
  let snap ← snapshotByHash (deps.hashSlow head)
  some (headNumber, snap)

/-- `future_vote_sender_is_validator` where additions may overflow. -/
def checkedFutureVoteSender (vote : VoteEnvelope) : Option (Option Bool) :=
  match env.headSnapshot deps with
  | none => some none
  | some (headNumber, snap) =>
    if snap.validatorsMap.entries.isEmpty then some none
    else (checkedGoverningSetsDiffer headNumber vote.data.targetNumber snap.epochNum
      snap.minerHistoryCheckLen).map fun differ =>
        if differ then none else some (hasVoteAddr snap vote.voteAddress)

variable {env deps}

lemma checkedGoverningSetsDiffer_eq {head target : ℕ} (hhead : head < u64Max)
    (htarget : target ≤ u64Max) (epoch offset : ℕ) :
    checkedGoverningSetsDiffer head target epoch offset =
      some (governingSetsDiffer head target epoch offset) := by
  have hswaps : ∀ n, n < u64Max →
      (if offset ≤ n then checkedAdd ((n - offset) / max epoch 1) 1 else some 0) =
        some (if offset ≤ n then (n - offset) / max epoch 1 + 1 else 0) := by
    intro n hn
    have := Nat.div_le_self (n - offset) (max epoch 1)
    split_ifs
    · exact checkedAdd_of_le (by omega)
    · rfl
  unfold checkedGoverningSetsDiffer governingSetsDiffer
  simp only [hswaps head hhead, hswaps (target - 1) (by unfold u64Max at *; omega),
    bind_eq_bind, bind_some]
  split_ifs <;> rfl

lemma futureVoteSenderIsValidator_eq (vote : VoteEnvelope) :
    env.futureVoteSenderIsValidator deps vote = (env.headSnapshot deps).bind fun h =>
      if h.2.validatorsMap.entries.isEmpty then none
      else if governingSetsDiffer h.1 vote.data.targetNumber h.2.epochNum
        h.2.minerHistoryCheckLen then none
      else some (hasVoteAddr h.2 vote.voteAddress) := by
  simp only [futureVoteSenderIsValidator, headSnapshot, bind_eq_bind, bind_assoc, bind_some]

lemma fst_headSnapshot {h : ℕ × Snapshot} (hsnap : env.headSnapshot deps = some h) :
    env.bestCanonicalBlockNumber = some h.1 := by
  simp only [headSnapshot, bind_eq_bind, bind_eq_some_iff] at hsnap
  obtain ⟨n, hn, head, -, byHash, -, snap, -, heq⟩ := hsnap
  rw [← some.inj heq]
  exact hn

lemma checkedFutureVoteSender_eq {vote : VoteEnvelope}
    (hhead : ∀ n, env.bestCanonicalBlockNumber = some n →
      n < u64Max ∧ vote.data.targetNumber ≤ u64Max) :
    env.checkedFutureVoteSender deps vote = some (env.futureVoteSenderIsValidator deps vote) := by
  rw [checkedFutureVoteSender, futureVoteSenderIsValidator_eq]
  cases hsnap : env.headSnapshot deps with
  | none => rfl
  | some h =>
    obtain ⟨hn, htarget⟩ := hhead _ (fst_headSnapshot hsnap)
    simp only [bind_some, checkedGoverningSetsDiffer_eq hn htarget, map_some]
    split_ifs <;> rfl

lemma le_of_isWithinAdmissionWindow {n target : ℕ} (hn : env.bestCanonicalBlockNumber = some n)
    (hwindow : env.isWithinAdmissionWindow target = true) : n ≤ target + 255 ∧ target ≤ n + 11 := by
  simp only [isWithinAdmissionWindow, hn] at hwindow
  rw [Bool.and_eq_true, Bool.not_eq_true', decide_eq_false_iff_not, decide_eq_true_eq] at hwindow
  simp only [saturatingAdd, VotePool.lowerLimitOfVoteBlockNumber,
    VotePool.upperLimitOfVoteBlockNumber] at hwindow
  omega

end PoolEnv

namespace PoolNode

variable {heap : VoteHeap} (deps : VoteDeps) (env : PoolEnv)
  (node : PoolNode heap)

/-- The vote that `insert` hands to the monitor, if `put_vote` comes to that. A promotion comes
before. -/
def monitored (vote : VoteEnvelope) : Option Pending :=
  (node.admitVote deps env vote).1.filter fun p =>
    let pool := if node.lastPrunedBlock < p.pendingBlockNumber
      then node.pool.promoteFutureVotes deps env p.pendingBlockNumber else node.pool
    !(pool.isAtCapacity p.vote.data.targetHash p.isFuture p.authenticated ||
      decide (deps.envelopeHash p.vote ∈ pool.receivedVotes))

def handle : VoteEvent → PoolNode heap
  | .putVote vote => node.putVote deps env vote
  | .promoteFutureVotes headNumber =>
    { node with pool := node.pool.promoteFutureVotes deps env headNumber }

def handleAll (events : List (PoolEnv × VoteEvent)) : PoolNode heap :=
  events.foldl (fun node a => node.handle deps a.1 a.2) node

end PoolNode

/-- The globals of the vote pool with the monitor's buffers by vote address, read as a number. -/
structure WatchedNode (heap : VoteHeap) extends PoolNode heap where
  maliciousVoteMonitor : OrdMap ℕ MaliciousVoteMonitor.VoteBuffer

namespace WatchedNode

open MaliciousVoteMonitor

variable {heap : VoteHeap} (deps : VoteDeps) (env : PoolEnv)
  (node : WatchedNode heap) (vote : VoteEnvelope)

def new : WatchedNode heap := ⟨PoolNode.new, OrdMap.empty⟩

/-- Whether `put_vote` comes to ask for the sender of a future vote. -/
def asksSender : Bool :=
  env.isWithinAdmissionWindow vote.data.targetNumber &&
    !decide (deps.envelopeHash vote ∈ node.pool.receivedVotes) &&
    !(node.rejectedVotes.entries.any fun e => decide (e.1 = deps.envelopeHash vote)) &&
    verifyVoteEnvelope deps vote &&
    (env.headerByHash.isNone || (env.canonicalHeaderByHash vote.data.targetHash).isNone)

/-- The monitor after a vote. -/
def watch : Option (OrdMap ℕ VoteBuffer) :=
  match node.monitored deps env vote with
  | none => some node.maliciousVoteMonitor
  | some p =>
    let buffer := (node.maliciousVoteMonitor.get p.vote.voteAddress.toNat).getD newBuffer
    (conflictDetect deps.toDeps p.vote buffer p.pendingBlockNumber).map fun (_, buffer) =>
      node.maliciousVoteMonitor.insert p.vote.voteAddress.toNat buffer

/-- A vote put, unless an addition overflows. -/
def putVote : Option (WatchedNode heap) :=
  (if asksSender deps env node vote then env.checkedFutureVoteSender deps.toDeps vote
    else some none).bind fun _ =>
  (watch deps env node vote).map fun monitor => ⟨node.toPoolNode.putVote deps env vote, monitor⟩

def handle : VoteEvent → Option (WatchedNode heap)
  | .putVote vote => node.putVote deps env vote
  | .promoteFutureVotes headNumber =>
    some { node with pool := node.pool.promoteFutureVotes deps env headNumber }

def handleAll (events : List (PoolEnv × VoteEvent)) : Option (WatchedNode heap) :=
  events.foldlM (fun node a => node.handle deps a.1 a.2) node

variable {deps env node vote}

/-- The numbers of a vote leave room for the additions of `conflict_detect`. Under a known head
the admission window has bounded the target. -/
def Fits (env : PoolEnv) (vote : VoteEnvelope) : Prop :=
  vote.data.sourceNumber + 257 ≤ u64Max ∧
    (env.bestCanonicalBlockNumber = none → vote.data.targetNumber + 256 ≤ u64Max)

lemma conflictDetect_isSome_iff {pending : ℕ} {buffer : VoteBuffer}
    (hscope : pending < vote.data.targetNumber + 256) (hpending : pending + 12 ≤ u64Max) :
    (conflictDetect deps.toDeps vote buffer pending).isSome ↔
      vote.data.sourceNumber + 257 ≤ u64Max ∧ vote.data.targetNumber + 256 ≤ u64Max := by
  constructor
  · intro hsome
    obtain ⟨r, hr⟩ := isSome_iff_exists.mp hsome
    obtain ⟨scope, hadd, hrest⟩ := bind_eq_some_iff.mp hr
    obtain ⟨htarget, rfl⟩ := checkedAdd_eq_some hadd
    rw [if_neg (show ¬vote.data.targetNumber + MaliciousVoteMonitor.maliciousVoteSlashScope ≤
      pending from Nat.not_le.mpr hscope)] at hrest
    obtain ⟨start, hstart, -⟩ := bind_eq_some_iff.mp hrest
    obtain ⟨first, hfirst, hreach⟩ := bind_eq_some_iff.mp hstart
    obtain ⟨reach, hsecond, -⟩ := bind_eq_some_iff.mp hreach
    obtain ⟨-, rfl⟩ := checkedAdd_eq_some hfirst
    exact ⟨(checkedAdd_eq_some hsecond).1, htarget⟩
  · rintro ⟨hsource, htarget⟩
    rw [conflictDetect_eq hscope hsource htarget hpending, isSome_map]
    exact scan_isSome (by omega)

lemma admitVote_eq_some {node : PoolNode heap} {p : Pending}
    (h : (node.admitVote deps env vote).1 = some p) :
    env.isWithinAdmissionWindow vote.data.targetNumber = true ∧ p.vote = vote ∧
      p.pendingBlockNumber = env.bestCanonicalBlockNumber.getD 0 := by
  unfold PoolNode.admitVote at h
  simp only at h
  split_ifs at h with hwindow
  all_goals
    refine ⟨by simpa using hwindow, ?_⟩
    unfold PoolNode.classify at h
    simp only at h
    split at h <;> split at h <;> cases h <;> exact ⟨rfl, rfl⟩

section Head

variable (hhead : ∀ n, env.bestCanonicalBlockNumber = some n → n + 267 ≤ u64Max)
include hhead

lemma watch_isSome_iff : (watch deps env node vote).isSome ↔
    (node.monitored deps env vote ≠ none → Fits env vote) := by
  unfold watch
  cases hp : node.monitored deps env vote with
  | none => simp
  | some p =>
    obtain ⟨hwindow, rfl, hpending⟩ := admitVote_eq_some (eq_some_of_filter_eq_some hp)
    simp only [isSome_map, ne_eq, reduceCtorEq, not_false_eq_true, true_imp_iff, Fits]
    cases hbest : env.bestCanonicalBlockNumber with
    | none =>
      rw [hbest, getD_none] at hpending
      rw [conflictDetect_isSome_iff (by omega) (by unfold u64Max; omega)]
      simp
    | some n =>
      have hn := hhead n hbest
      have hin := PoolEnv.le_of_isWithinAdmissionWindow hbest hwindow
      rw [hbest, getD_some] at hpending
      rw [conflictDetect_isSome_iff (by omega) (by omega)]
      simp only [reduceCtorEq, false_imp_iff, and_true, and_iff_left_iff_imp]
      omega

lemma putVote_isSome_iff : (node.putVote deps env vote).isSome ↔
    (node.monitored deps env vote ≠ none → Fits env vote) := by
  have hsender : ∃ answer, (if asksSender deps env node vote then
      env.checkedFutureVoteSender deps.toDeps vote else some none) = some answer := by
    split_ifs with hasks
    · refine ⟨_, PoolEnv.checkedFutureVoteSender_eq fun n hn => ?_⟩
      simp only [asksSender, Bool.and_eq_true] at hasks
      have hin := PoolEnv.le_of_isWithinAdmissionWindow hn hasks.1.1.1.1
      have hfits := hhead n hn
      omega
    · exact ⟨_, rfl⟩
  obtain ⟨answer, hanswer⟩ := hsender
  rw [← watch_isSome_iff hhead, putVote, hanswer, bind_some, isSome_map]

end Head

lemma toPoolNode_of_putVote {next : WatchedNode heap} (h : node.putVote deps env vote = some next) :
    next.toPoolNode = node.toPoolNode.putVote deps env vote := by
  obtain ⟨-, -, hrest⟩ := bind_eq_some_iff.mp h
  obtain ⟨monitor, -, rfl⟩ := map_eq_some_iff.mp hrest
  rfl

lemma toPoolNode_of_handle {event : VoteEvent} {next : WatchedNode heap}
    (h : node.handle deps env event = some next) :
    next.toPoolNode = node.toPoolNode.handle deps env event := by
  cases event with
  | putVote vote => exact toPoolNode_of_putVote h
  | promoteFutureVotes headNumber => rw [← some.inj h, PoolNode.handle]

lemma handle_isSome_iff (deps : VoteDeps) (node : WatchedNode heap) (event : VoteEvent)
    (hhead : ∀ n, env.bestCanonicalBlockNumber = some n → n + 267 ≤ u64Max) :
    (node.handle deps env event).isSome ↔ ∀ vote, event = .putVote vote →
      node.monitored deps env vote ≠ none → Fits env vote := by
  cases event with
  | putVote vote =>
    rw [handle, putVote_isSome_iff hhead]
    simp
  | promoteFutureVotes headNumber => simp [handle]

lemma handleAll_cons (a : PoolEnv × VoteEvent) (events : List (PoolEnv × VoteEvent)) :
    node.handleAll deps (a :: events) =
      (node.handle deps a.1 a.2).bind fun next => next.handleAll deps events := rfl

/-- **When no addition overflows.** Whatever votes arrive and whatever blocks are imported, a
build that checks for overflow does what the pool does exactly if every vote that comes to the
monitor leaves room. -/
theorem handleAll_isSome_iff (deps : VoteDeps) (node : WatchedNode heap)
    (events : List (PoolEnv × VoteEvent))
    (hheads : ∀ a ∈ events, ∀ n, a.1.bestCanonicalBlockNumber = some n → n + 267 ≤ u64Max) :
    ((node.handleAll deps events).isSome ↔ ∀ earlier env vote later,
        events = earlier ++ (env, .putVote vote) :: later →
        (node.toPoolNode.handleAll deps earlier).monitored deps env vote ≠ none → Fits env vote) ∧
      ∀ next, node.handleAll deps events = some next →
        next.toPoolNode = node.toPoolNode.handleAll deps events := by
  induction events generalizing node with
  | nil => simp [handleAll, PoolNode.handleAll]
  | cons a events ih =>
    rw [handleAll_cons]
    have hone := handle_isSome_iff deps node a.2 (hheads a (by simp))
    cases hnext : node.handle deps a.1 a.2 with
    | none =>
      rw [hnext] at hone
      refine ⟨iff_of_false (by simp) fun hall => ?_, by simp⟩
      refine Bool.false_ne_true (hone.mpr fun vote hvote => hall [] a.1 vote events ?_)
      rw [← hvote]
      rfl
    | some next =>
      obtain ⟨hiff, hsame⟩ := ih next fun b hb => hheads b (List.mem_cons_of_mem _ hb)
      rw [hnext] at hone
      rw [toPoolNode_of_handle hnext] at hiff hsame
      refine ⟨hiff.trans ⟨fun hrest earlier env vote later heq => ?_,
        fun hall earlier env vote later heq => ?_⟩, hsame⟩
      · cases earlier with
        | nil =>
          obtain ⟨rfl, -⟩ := List.cons.inj heq
          exact hone.mp rfl vote rfl
        | cons b earlier =>
          obtain ⟨rfl, htail⟩ := List.cons.inj heq
          exact hrest earlier env vote later htail
      · exact hall (a :: earlier) env vote later (by rw [heq]; rfl)

/-- A node that has just started: no head is known, and no header can be looked up. -/
def startupEnv : PoolEnv := ⟨none, none, fun _ => none, none⟩

/-- The head is known, but still no header can be looked up. -/
def headEnv : PoolEnv := { startupEnv with bestCanonicalBlockNumber := some 100 }

/-- A block is imported between two votes, and the second is too far ahead to be let in. -/
def watchEvents : List (PoolEnv × VoteEvent) :=
  [(startupEnv, .putVote (watchVote 3 12)), (headEnv, .promoteFutureVotes 100),
    (headEnv, .putVote (watchVote 3 (u64Max - 100)))]

theorem handleAll_isSome_iff_dropped :
    ((new : WatchedNode (MinHeap.sortedList VoteData.targetNumber)).handleAll watchDeps
      watchEvents).isSome := by
  refine (handleAll_isSome_iff watchDeps new watchEvents ?_).1.mpr ?_
  · simp [watchEvents, startupEnv, headEnv, u64Max]
  · intro earlier env vote later heq hreached
    have hmem : (env, .putVote vote) ∈ watchEvents := by simp [heq]
    simp only [watchEvents, List.mem_cons, Prod.mk.injEq, VoteEvent.putVote.injEq, reduceCtorEq,
      and_false, false_or, List.not_mem_nil, or_false] at hmem
    rcases hmem with ⟨rfl, rfl⟩ | ⟨rfl, rfl⟩
    · exact ⟨by decide, fun _ => by decide⟩
    · exact ⟨by decide, fun hnone => by cases hnone⟩

/-- A signed vote overflows the monitor through its source, whether a head is known or not, and
before one is known also through its target. -/
theorem startup_overflow :
    (∀ env ∈ [startupEnv, headEnv], verifyVoteEnvelope watchDeps (watchVote u64Max 101) = true ∧
      ((new : WatchedNode (MinHeap.sortedList VoteData.targetNumber)).handleAll watchDeps
        [(env, .putVote (watchVote u64Max 101))]).isNone = true) ∧
    verifyVoteEnvelope watchDeps (watchVote 3 (u64Max - 100)) = true ∧
      ((new : WatchedNode (MinHeap.sortedList VoteData.targetNumber)).handleAll watchDeps
        [(startupEnv, .putVote (watchVote 3 (u64Max - 100)))]).isNone = true := by
  decide +kernel

end WatchedNode

end RethBsc
