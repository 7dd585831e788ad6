import Mathlib.Algebra.Order.BigOperators.Group.Finset
import Mathlib.Order.Interval.Finset.Nat
import RethBsc.Chain

/-!
The recent-signer rule always leaves validators who may sign.

A validator is refused only if it has a full turn on record inside the window. The window is
shorter than one turn for every validator of a majority, so no more than half of the validators
are refused. This holds in every snapshot.

The proposer test before Bohr refuses a validator for one entry anywhere on record. That it
leaves as many validators needs the record to be no longer than the window, which holds as long
as turns are one block long; and that the byte counters are exact needs Bohr to stay active once
it is.
-/

namespace RethBsc.Snapshot

open Finset OrdMap

variable {s s' : Snapshot} {deps : Deps} {spec : ChainSpec} {validator : Address}
  {header : Header} {newValidators : List Address} {voteAddrs : Option (List VoteAddress)}
  {attestation : Option VoteAttestation} {turnLength : Option UInt8}

/-! ### Counting refused validators -/

lemma card_mul_le_card {ι κ : Type*} [DecidableEq κ] {S : Finset ι} {f : ι → Finset κ}
    {W : Finset κ} {t : ℕ} (hcard : ∀ i ∈ S, t ≤ (f i).card) (hsub : ∀ i ∈ S, f i ⊆ W)
    (hdisj : (S : Set ι).PairwiseDisjoint f) : S.card * t ≤ W.card := by
  calc S.card * t = S.card • t := rfl
    _ ≤ ∑ i ∈ S, (f i).card := card_nsmul_le_sum S _ t hcard
    _ = (S.biUnion f).card := (card_biUnion hdisj).symm
    _ ≤ W.card := card_le_card (biUnion_subset.mpr hsub)

variable {refused : Address → Bool} {v : Address} {k : ℕ}
  {validators : List Address} {m : OrdMap ℕ Address} {n old new : ℕ} {bohr : Bool}

/-- If whoever is refused holds at least `t` blocks of a window that is shorter than `t` blocks
for each validator of a majority, no more than half are refused. -/
lemma allowed_ge (hnodup : validators.Nodup) {f : Address → Finset ℕ}
    {W : Finset ℕ} {t : ℕ} (hcard : ∀ v, refused v → t ≤ (f v).card)
    (hsub : ∀ v, refused v → f v ⊆ W) (hdisj : ∀ u v, u ≠ v → Disjoint (f u) (f v))
    (hW : W.card < (validators.length / 2 + 1) * t) :
    validators.length - validators.length / 2 ≤ (validators.filter fun v => !refused v).length := by
  have hlist : ((validators.filter refused).toFinset).card = (validators.filter refused).length :=
    List.toFinset_card_of_nodup (hnodup.filter _)
  have hmul : (validators.filter refused).length * t ≤ W.card := by
    rw [← hlist]
    refine card_mul_le_card (f := f) (fun v hv => hcard v ?_) (fun v hv => hsub v ?_)
      fun u _ v _ huv => hdisj u v huv
    · exact (List.mem_filter.mp (List.mem_toFinset.mp hv)).2
    · exact (List.mem_filter.mp (List.mem_toFinset.mp hv)).2
  have hlt : (validators.filter refused).length < validators.length / 2 + 1 :=
    Nat.lt_of_mul_lt_mul_right (lt_of_le_of_lt hmul hW)
  have hsplit := List.length_eq_length_filter_add refused (l := validators)
  omega

lemma disjoint_keysWhere {p q : ℕ × Address → Bool}
    (h : ∀ e, p e → q e = false) : Disjoint (m.keysWhere p) (m.keysWhere q) := by
  rw [disjoint_left]
  intro k hp hq
  obtain ⟨v, hv, hpv⟩ := mem_keysWhere.mp hp
  obtain ⟨w, hw, hqw⟩ := mem_keysWhere.mp hq
  rw [hv] at hw
  cases hw
  rw [h _ hpv] at hqw
  cases hqw

lemma disjoint_recentBlocks (s : Snapshot) {u : Address} (huv : u ≠ v) :
    Disjoint (s.recentBlocks u) (s.recentBlocks v) := by
  refine disjoint_keysWhere fun e he => ?_
  simp only [countsFor, Bool.and_eq_true, decide_eq_true_eq] at he
  simp [countsFor, he.2, huv]

/-! ### The window -/

lemma minerHistoryCheckLen_eq (h : 1 ≤ s.turn) :
    s.minerHistoryCheckLen = (s.validators.length / 2 + 1) * s.turn - 1 := by
  rw [minerHistoryCheckLen, wrappingSub, if_pos]
  exact Nat.one_le_iff_ne_zero.mpr (Nat.mul_ne_zero (by omega) (by omega))

lemma recentBlocks_subset (hr : Reachable deps spec s) (hv : v ≠ 0) :
    s.recentBlocks v ⊆ Finset.Ioc s.leftBound s.blockNumber := by
  intro k hk
  obtain ⟨hlt, hget⟩ := mem_recentBlocks.mp hk
  exact mem_Ioc.mpr ⟨hlt, hr.key_le hget hv⟩

lemma card_window_le (s : Snapshot) :
    (Finset.Ioc s.leftBound s.blockNumber).card ≤ s.minerHistoryCheckLen := by
  rw [Nat.card_Ioc, leftBound]
  split_ifs <;> omega

lemma turn_le_card (h : s.signRecently validator) :
    validator ≠ 0 ∧ s.turn ≤ (s.recentBlocks validator).card := by
  obtain ⟨hv, -, hle⟩ := signRecently_iff.mp h
  exact ⟨hv, hle.trans (Nat.mod_le _ _)⟩

/-- **`sign_recently` refuses at most half of the validators.** More generally, this holds of
every test that refuses no one else. -/
theorem allowed_of_signRecently (hr : Reachable deps spec s) (hturn : 1 ≤ s.turn)
    (hnodup : s.validators.Nodup) (himp : ∀ v, refused v → s.signRecently v) :
    s.validators.length - s.validators.length / 2 ≤
      (s.validators.filter fun v => !refused v).length := by
  have hlen := minerHistoryCheckLen_eq hturn
  have hpos : 0 < (s.validators.length / 2 + 1) * s.turn := Nat.mul_pos (by omega) hturn
  refine allowed_ge hnodup (f := s.recentBlocks) (t := s.turn)
    (W := Finset.Ioc s.leftBound s.blockNumber) (fun v hv => (turn_le_card (himp v hv)).2)
    (fun v hv => recentBlocks_subset hr (turn_le_card (himp v hv)).1)
    (fun u v huv => s.disjoint_recentBlocks huv) ?_
  have hcard := s.card_window_le
  omega

/-! ### Runs of the fork schedule -/

/-- The snapshots of runs in which Bohr stays active once it is, and in which blocks before Bohr
bring no turn length (their headers have none). The flag tells whether the last block was a Bohr
block. -/
inductive Orderly (deps : Deps) (spec : ChainSpec) : Bool → Snapshot → Prop
  | new {validators : List Address} {n : ℕ} {hash : B256} {epoch : ℕ}
      {votes : Option (List VoteAddress)} {s : Snapshot}
      (h : Snapshot.new validators n hash epoch votes = some s) : Orderly deps spec false s
  | apply {bohr : Bool} {s s' : Snapshot} {validator : Address} {header : Header}
      {newValidators : List Address} {voteAddrs : Option (List VoteAddress)}
      {attestation : Option VoteAttestation} {turnLength : Option UInt8}
      (before : Orderly deps spec bohr s) (fits : header.number ≤ u64Max)
      (stays : bohr = true → spec.isBohrActiveAtTimestamp header.number header.timestamp = true)
      (noTurn : spec.isBohrActiveAtTimestamp header.number header.timestamp = false →
        turnLength = none)
      (h : s.apply deps spec validator header newValidators voteAddrs attestation turnLength =
        .ok s') :
      Orderly deps spec (spec.isBohrActiveAtTimestamp header.number header.timestamp) s'

/-- Before Bohr turns are one block long, nobody is on record twice, and the record is no longer
than the window. -/
structure BeforeBohr (s : Snapshot) : Prop where
  oneBlock : s.turn = 1
  positive : ∀ k v, s.recentProposers.get k = some v → 0 < k
  below : ∀ k v, s.recentProposers.get k = some v → k ≤ s.blockNumber
  within : ∀ k v, s.recentProposers.get k = some v →
    s.blockNumber < k + (s.validators.length / 2 + 1)
  once : ∀ k l v, s.recentProposers.get k = some v → s.recentProposers.get l = some v → k = l

/-- Nobody has more than a turn in the window, or more than one block without turns. -/
def Counted (s : Snapshot) : Prop := ∀ v, v ≠ 0 → (s.recentBlocks v).card ≤ max 1 s.turn

lemma Counted.card_le (h : s.Counted) (hv : v ≠ 0) : (s.recentBlocks v).card ≤ 255 := by
  have hle := h v hv
  have hturn := s.turn_le
  omega

lemma BeforeBohr.counted (h : s.BeforeBohr) : s.Counted := by
  intro v _
  refine le_trans (card_le_one.mpr fun k hk l hl => ?_) (le_max_left 1 _)
  exact h.once k l v (mem_recentBlocks.mp hk).2 (mem_recentBlocks.mp hl).2

lemma BeforeBohr.minerHistoryCheckLen (h : s.BeforeBohr) :
    s.minerHistoryCheckLen = s.validators.length / 2 := by
  rw [minerHistoryCheckLen_eq (le_of_eq h.oneBlock.symm), h.oneBlock]
  omega

lemma beforeBohr_new {hash : B256} {epoch : ℕ} {votes : Option (List VoteAddress)}
    (h : Snapshot.new validators n hash epoch votes = some s) : s.BeforeBohr := by
  obtain ⟨-, -, hempty, -, hturn, -⟩ := new_eq_some h
  refine ⟨?_, ?_, ?_, ?_, ?_⟩
  · rw [turn, hturn]
    rfl
  all_goals
    intro k
    simp [hempty]

lemma BeforeBohr.within_prune (h : s.BeforeBohr) (hfits : s.blockNumber + 1 ≤ u64Max)
    (hk : (s.pruneProposers (s.blockNumber + 1)).get k = some v) :
    s.blockNumber + 1 < k + (s.validators.length / 2 + 1) := by
  obtain ⟨hget, hne⟩ := get_pruneProposers_iff.mp hk
  have hin := h.within k v hget
  rw [h.minerHistoryCheckLen, wrappingSucc] at hne
  split_ifs at hne <;> omega

lemma get_trimProposers_removed (n : ℕ) {i : ℕ} (m : OrdMap ℕ Address)
    (hi : i < old / 2 + 1 - (new / 2 + 1)) :
    (trimProposers n old new m).get (wrappingSub (wrappingSub n (new / 2 + 1)) i) = none := by
  unfold trimProposers
  simp only
  have hmem : i ∈ List.range (old / 2 + 1 - (new / 2 + 1)) := List.mem_range.mpr hi
  generalize List.range (old / 2 + 1 - (new / 2 + 1)) = l at hmem
  induction l using List.reverseRecOn with
  | nil => cases hmem
  | append_singleton l j ih =>
    rw [List.foldl_append, List.foldl_cons, List.foldl_nil, get_remove]
    split_ifs with hij
    · rfl
    · rcases List.mem_append.mp hmem with hl | hl
      · exact ih hl
      · rw [List.mem_singleton] at hl
        exact absurd (by rw [hl]) hij

lemma within_trimProposers (hwithin : ∀ k v, m.get k = some v → n < k + (old / 2 + 1))
    (hk : (trimProposers n old new m).get k = some v) : n < k + (new / 2 + 1) := by
  by_contra hout
  have hold := hwithin k v (get_trimProposers hk)
  have hkey : wrappingSub (wrappingSub n (new / 2 + 1)) (n - (new / 2 + 1) - k) = k := by
    unfold wrappingSub
    split_ifs <;> omega
  have hi : n - (new / 2 + 1) - k < old / 2 + 1 - (new / 2 + 1) := by omega
  have hnone := get_trimProposers_removed n m hi
  rw [hkey, hk] at hnone
  cases hnone

lemma BeforeBohr.record_within (hs : s.BeforeBohr) (hnum : header.number = s.blockNumber + 1)
    (hfits : header.number ≤ u64Max)
    (hk : ((s.advance deps header).record spec validator header attestation).recentProposers.get k =
      some v) : 0 < k ∧ k ≤ header.number ∧ header.number < k + (s.validators.length / 2 + 1) := by
  rcases get_record hk with ⟨rfl, -⟩ | ⟨-, hold⟩
  · omega
  · rw [hnum] at hold hfits ⊢
    have hpos := hs.positive k v (get_pruneProposers hold)
    have hle := hs.below k v (get_pruneProposers hold)
    exact ⟨hpos, by omega, hs.within_prune hfits hold⟩

lemma BeforeBohr.record_once (hs : s.BeforeBohr)
    (h : Applied s s' deps spec validator header newValidators voteAddrs attestation turnLength)
    (hbohr : spec.isBohrActiveAtTimestamp header.number header.timestamp = false) {l : ℕ}
    (hk : ((s.advance deps header).record spec validator header attestation).recentProposers.get k =
      some v)
    (hl : ((s.advance deps header).record spec validator header attestation).recentProposers.get l =
      some v) : k = l := by
  rcases get_record hk with ⟨hk1, rfl⟩ | ⟨-, hk1⟩ <;>
    rcases get_record hl with ⟨hl1, hl2⟩ | ⟨-, hl1⟩
  · rw [hk1, hl1]
  · exact absurd hl1 (h.get_pruneProposers_ne hbohr l)
  · exact absurd (hl2 ▸ hk1) (h.get_pruneProposers_ne hbohr k)
  · exact hs.once k l v (get_pruneProposers hk1) (get_pruneProposers hl1)

/-- **A block before Bohr** keeps the record in order. -/
lemma BeforeBohr.apply (hs : s.BeforeBohr)
    (h : Applied s s' deps spec validator header newValidators voteAddrs attestation turnLength)
    (hfits : header.number ≤ u64Max)
    (hbohr : spec.isBohrActiveAtTimestamp header.number header.timestamp = false)
    (hnone : turnLength = none) : s'.BeforeBohr := by
  have hblock := h.blockNumber
  -- what holds of the record before a switch holds of the trimmed one
  obtain ⟨hturn, hget, hwithin⟩ : s'.turn = s.turn ∧ (∀ k v, s'.recentProposers.get k = some v →
      ((s.advance deps header).record spec validator header attestation).recentProposers.get k =
        some v) ∧ ∀ k v, s'.recentProposers.get k = some v →
      header.number < k + (s'.validators.length / 2 + 1) := by
    cases hsw : s.switches deps spec validator header newValidators attestation with
    | false =>
      obtain ⟨hvals, -, hturn, hrec⟩ := h.kept hsw
      rw [turn, hturn, hrec, hvals]
      exact ⟨rfl, fun _ _ => id, fun k v hk => (hs.record_within h.number hfits hk).2.2⟩
    | true =>
      obtain ⟨hvals, -, hturn, hrec⟩ := h.switched hsw
      rw [hbohr, if_neg (by decide)] at hrec
      rw [turn, hturn, hnone, hrec, hvals, (perm_sortAddrs newValidators).length_eq]
      exact ⟨rfl, fun _ _ => get_trimProposers, fun _ _ =>
        within_trimProposers fun k v hk => (hs.record_within h.number hfits hk).2.2⟩
  refine ⟨hturn.trans hs.oneBlock, fun k v hk => ?_, fun k v hk => ?_, hblock ▸ hwithin,
    fun k l v hk hl => hs.record_once h hbohr (hget k v hk) (hget l v hl)⟩
  · exact (hs.record_within h.number hfits (hget k v hk)).1
  · exact hblock ▸ (hs.record_within h.number hfits (hget k v hk)).2.1

lemma Counted.room (hs : s.Counted) (hv : validator ≠ 0) (h : s.signRecently validator = false) :
    (s.recentBlocks validator).card = 0 ∨ (s.recentBlocks validator).card < s.turn := by
  have hle := hs.card_le hv
  by_contra hcon
  obtain ⟨hne, hturn⟩ := not_or.mp hcon
  have htrue : s.signRecently validator := signRecently_iff.mpr ⟨hv, hne, by omega⟩
  rw [h] at htrue
  cases htrue

lemma Counted.advance (hs : s.Counted) (deps : Deps) (hnum : header.number = s.blockNumber + 1) :
    (s.advance deps header).Counted := by
  intro v hv
  exact (card_le_card (recentBlocks_advance_subset deps hnum v)).trans (hs v hv)

/-- **A Bohr block** adds to a turn only while it has room. -/
lemma Counted.apply (hs : s.Counted)
    (h : Applied s s' deps spec validator header newValidators voteAddrs attestation turnLength)
    (hbohr : spec.isBohrActiveAtTimestamp header.number header.timestamp) :
    s'.Counted := by
  intro v hv
  cases hsw : s.switches deps spec validator header newValidators attestation with
  | true => simp [h.recentBlocks_eq_empty hbohr hsw hv]
  | false =>
    have hmoved := hs.advance deps h.number
    have hturn : s'.turn = (s.advance deps header).turn := by
      rw [turn, (h.kept hsw).2.2.1]
      rfl
    have hcard := h.card_recentBlocks_le hsw v
    have hle := hmoved v hv
    rw [hturn]
    split_ifs at hcard with hsigner
    · subst hsigner
      have hallowed := h.allowed
      rw [hbohr, overProposed, if_pos rfl] at hallowed
      have hroom := hmoved.room hv hallowed
      omega
    · omega

/-- **What holds along every orderly run.** -/
lemma Orderly.counted (h : Orderly deps spec bohr s) :
    s.Counted ∧ (bohr = false → s.BeforeBohr) := by
  induction h with
  | new h => exact ⟨(beforeBohr_new h).counted, fun _ => beforeBohr_new h⟩
  | @apply bohr s s' validator header _ _ _ _ before fits stays noTurn h ih =>
    have happ := apply_ok h
    cases hbohr : spec.isBohrActiveAtTimestamp header.number header.timestamp with
    | true => exact ⟨ih.1.apply happ hbohr, fun hfalse => by cases hfalse⟩
    | false =>
      have hbefore : s.BeforeBohr := by
        refine ih.2 (Bool.eq_false_iff.mpr fun hprev => ?_)
        rw [stays hprev] at hbohr
        cases hbohr
      have hnext := hbefore.apply happ fits hbohr (noTurn hbohr)
      exact ⟨hnext.counted, fun _ => hnext⟩

/-! ### Who may sign next -/

/-- Every byte counter of `count_recent_proposers` is the number of entries it counts. -/
def CountsExact (s : Snapshot) : Prop :=
  ∀ v times, s.countRecentProposers.get v = some times → times.toNat = (s.recentBlocks v).card

lemma Counted.countsExact (hs : s.Counted) : s.CountsExact := by
  intro v times hget
  rw [countRecentProposers] at hget
  by_cases hv : v = 0
  · rw [hv, get_foldl_countProposer_zero _ _ (get_empty 0)] at hget
    cases hget
  · have hcard : (s.recentBlocks v).card =
        s.recentProposers.entries.countP (countsFor s.leftBound v) := by
      rw [recentBlocks, card_keysWhere, List.countP_eq_length_filter]
    have hle := hs.card_le hv
    rw [get_foldl_countProposer _ hv, ← hcard] at hget
    split_ifs at hget with h0
    · cases hget
    · simp only [get_empty, Option.getD_none, UInt8.zero_add, Option.some.injEq] at hget
      rw [← hget, UInt8.toNat_ofNat']
      omega

lemma Counted.signRecently_of_advance (hs : s.Counted) (hnum : header.number = s.blockNumber + 1)
    (h : (s.advance deps header).signRecently validator) :
    s.signRecently validator := by
  obtain ⟨hv, hne, hle⟩ := signRecently_iff.mp h
  have hsub := card_le_card (recentBlocks_advance_subset deps hnum validator)
  have hcard := hs.card_le hv
  have hturn : (s.advance deps header).turn = s.turn := rfl
  rw [hturn] at hle
  exact signRecently_iff.mpr ⟨hv, by omega, by omega⟩

lemma BeforeBohr.mem_prune (hs : s.BeforeBohr) (h : s.signRecently validator) :
    ∃ k, (s.pruneProposers (s.blockNumber + 1)).get k = some validator := by
  obtain ⟨-, hne, -⟩ := signRecently_iff.mp h
  obtain ⟨k, hk⟩ := card_ne_zero.mp hne
  obtain ⟨hlt, hget⟩ := mem_recentBlocks.mp hk
  have hle := hs.below k _ hget
  refine ⟨k, get_pruneProposers_iff.mpr ⟨hget, ?_⟩⟩
  rw [leftBound, hs.minerHistoryCheckLen] at hlt
  rw [hs.minerHistoryCheckLen, wrappingSucc]
  split_ifs at hlt ⊢ <;> omega

/-- **The proposer test before Bohr refuses at most half of the validators.** -/
lemma BeforeBohr.allowed (hs : s.BeforeBohr) (hnodup : s.validators.Nodup)
    (hfits : s.blockNumber + 1 ≤ u64Max)
    (himp : ∀ v, refused v → ∃ k, (s.pruneProposers (s.blockNumber + 1)).get k = some v) :
    s.validators.length - s.validators.length / 2 ≤
      (s.validators.filter fun v => !refused v).length := by
  refine allowed_ge hnodup (t := 1)
    (f := fun v => (s.pruneProposers (s.blockNumber + 1)).keysWhere fun e => decide (e.2 = v))
    (W := Finset.Ioc (s.blockNumber + 1 - (s.validators.length / 2 + 1)) s.blockNumber)
    (fun v hv => ?_) (fun v _ k hk => ?_) (fun u v huv => ?_) ?_
  · obtain ⟨k, hk⟩ := himp v hv
    exact card_pos.mpr ⟨k, mem_keysWhere.mpr ⟨v, hk, by simp⟩⟩
  · obtain ⟨w, hw, -⟩ := mem_keysWhere.mp hk
    have hpos := hs.positive k w (get_pruneProposers hw)
    have hle := hs.below k w (get_pruneProposers hw)
    have hin := hs.within_prune hfits hw
    rw [mem_Ioc]
    omega
  · refine disjoint_keysWhere fun e he => ?_
    rw [decide_eq_true_eq] at he
    simp [he, huv]
  · rw [Nat.card_Ioc]
    omega

/-- The tests a next block has to pass: the one of `verify_seal` on the snapshot and the one of
`apply` on the moved snapshot. -/
def refuses (s : Snapshot) (deps : Deps) (spec : ChainSpec) (header : Header) (v : Address) :
    Bool :=
  s.signRecently v || (s.advance deps header).overProposed
    (spec.isBohrActiveAtTimestamp header.number header.timestamp) v

lemma Orderly.allowed (h : Orderly deps spec bohr s) (hr : Reachable deps spec s)
    (hturn : 1 ≤ s.turn) (hnodup : s.validators.Nodup)
    (hnum : header.number = s.blockNumber + 1) (hfits : header.number ≤ u64Max)
    (hstays : bohr → spec.isBohrActiveAtTimestamp header.number header.timestamp) :
    s.validators.length - s.validators.length / 2 ≤
      (s.validators.filter fun v => !s.refuses deps spec header v).length := by
  obtain ⟨hcounted, hbefore⟩ := h.counted
  cases hbohr : spec.isBohrActiveAtTimestamp header.number header.timestamp with
  | true =>
    refine allowed_of_signRecently hr hturn hnodup fun v hv => ?_
    rw [refuses, hbohr, overProposed, if_pos rfl, Bool.or_eq_true] at hv
    rcases hv with hv | hv
    · exact hv
    · exact hcounted.signRecently_of_advance hnum hv
  | false =>
    have hs : s.BeforeBohr := by
      refine hbefore (Bool.eq_false_iff.mpr fun hprev => ?_)
      rw [hstays hprev] at hbohr
      cases hbohr
    refine hs.allowed hnodup (hnum ▸ hfits) fun v hv => ?_
    rw [refuses, hbohr, overProposed, if_neg (by decide), Bool.or_eq_true] at hv
    rcases hv with hv | hv
    · exact hs.mem_prune hv
    · rw [← hnum]
      exact mem_values.mp (List.contains_iff_mem.mp hv)

/-- **Someone may always sign.** In every snapshot that applies lead to, `sign_recently` allows
all but half of the validators. If Bohr stayed active once it was and no block before Bohr
brought a turn length, the byte counters are exact, the proposer test of `apply` leaves as many
validators for whatever header comes next, and one of them extends the chain. -/
theorem recent_signers_leave_half (hr : Reachable deps spec s) (hturn : 1 ≤ s.turn)
    (hnodup : s.validators.Nodup) (hsome : 1 ≤ s.validators.length) :
    s.validators.length - s.validators.length / 2 ≤
        (s.validators.filter fun v => !s.signRecently v).length ∧
      ∀ bohr, Orderly deps spec bohr s → s.CountsExact ∧
        ∀ header : Header, header.number = s.blockNumber + 1 → header.number ≤ u64Max →
          header.parentHash = s.blockHash →
          (bohr = true → spec.isBohrActiveAtTimestamp header.number header.timestamp = true) →
          (s.advance deps header).CountsExact ∧
          s.validators.length - s.validators.length / 2 ≤
            (s.validators.filter fun v => !s.refuses deps spec header v).length ∧
          ∃ v ∈ s.validators, s.signRecently v = false ∧
            ∀ newValidators voteAddrs attestation turnLength,
              lengthsAgree newValidators voteAddrs = true → ∃ s', s.apply deps spec v header
                newValidators voteAddrs attestation turnLength = .ok s' := by
  refine ⟨allowed_of_signRecently hr hturn hnodup fun v hv => hv, fun bohr horderly => ?_⟩
  have hcounted := horderly.counted.1
  refine ⟨hcounted.countsExact, fun header hnum hfits hparent hstays => ?_⟩
  have hallowed := horderly.allowed hr hturn hnodup hnum hfits hstays
  refine ⟨(hcounted.advance deps hnum).countsExact, hallowed, ?_⟩
  have hpos : 0 < (s.validators.filter fun v => !s.refuses deps spec header v).length := by omega
  obtain ⟨v, hv⟩ := List.exists_mem_of_length_pos hpos
  obtain ⟨hmem, hfree⟩ := List.mem_filter.mp hv
  rw [refuses, Bool.not_eq_true', Bool.or_eq_false_iff] at hfree
  exact ⟨v, hmem, hfree.1, fun _ _ _ _ hlen => exists_apply_eq_ok hnum hparent hmem hfree.2 hlen⟩

/-! ### Three validators -/

def halfStart : Snapshot := (Snapshot.new [1, 2, 3] 0 1 200 none).getD default

def halfHeader (number timestamp : ℕ) : Header :=
  { sampleHeader number 0 0 (BitVec.ofNat 256 (8 * (number - 1) + 1)) [] with
    timestamp := timestamp }

/-- Block `e.2 + 1` by `e.1`; the first block brings the same validators and a turn length of 4. -/
def halfStep (spec : ChainSpec) (timestamp : ℕ) (s : Snapshot) (e : Address × ℕ) :
    Option Snapshot :=
  (s.apply (sampleDeps true) spec e.1 (halfHeader (e.2 + 1) timestamp)
    (if e.2 = 0 then [1, 2, 3] else []) none none (if e.2 = 0 then some 4 else none)).toOption

def halfRun (spec : ChainSpec) (timestamp : ℕ) (signers : List Address) : Option Snapshot :=
  signers.zipIdx.foldlM (halfStep spec timestamp) halfStart

lemma halfStart_reachable (spec : ChainSpec) : Reachable (sampleDeps true) spec halfStart := by
  have hnew : Snapshot.new [1, 2, 3] 0 1 200 none = some halfStart := rfl
  exact .new hnew

lemma reachable_halfStep {timestamp : ℕ} {blocks : List (Address × ℕ)}
    (hs : Reachable (sampleDeps true) spec s)
    (h : blocks.foldlM (halfStep spec timestamp) s = some s') :
    Reachable (sampleDeps true) spec s' := by
  induction blocks generalizing s with
  | nil =>
    cases h
    exact hs
  | cons e blocks ih =>
    rw [List.foldlM_cons, Option.bind_eq_bind, Option.bind_eq_some_iff] at h
    obtain ⟨next, hnext, hrest⟩ := h
    exact ih (.apply hs (toOption_eq_some hnext)) hrest

lemma refuses_all_of_halfRun (timestamp : ℕ) (signers : List Address) {next : Header}
    (h : ((halfRun spec timestamp signers).map fun s => (s.turn, s.validators,
      s.validators.map (s.refuses (sampleDeps true) spec next))) =
        some (4, [1, 2, 3], [true, true, true])) :
    ∃ s, Reachable (sampleDeps true) spec s ∧ 1 ≤ s.turn ∧ s.validators = [1, 2, 3] ∧
      ∀ v ∈ s.validators, s.refuses (sampleDeps true) spec next v := by
  obtain ⟨s, hs, hfacts⟩ := Option.map_eq_some_iff.mp h
  simp only [Prod.mk.injEq] at hfacts
  obtain ⟨hturn, hvals, hrefused⟩ := hfacts
  refine ⟨s, reachable_halfStep (halfStart_reachable spec) hs, by omega, hvals, fun v hv => ?_⟩
  have hmem : s.refuses (sampleDeps true) spec next v ∈ [true, true, true] := by
    rw [← hrefused]
    exact List.mem_map_of_mem hv
  simpa using hmem

/-- With a turn length of 4 before Bohr, and with a block before Bohr on top of Bohr blocks, the
proposer test refuses all three validators. -/
theorem recent_signers_refuse_all :
    (∃ s, Reachable (sampleDeps true) (sampleSpec (.block 0) .never .never) s ∧ 1 ≤ s.turn ∧
      s.validators = [1, 2, 3] ∧ ∀ v ∈ s.validators, s.refuses (sampleDeps true)
        (sampleSpec (.block 0) .never .never) (halfHeader 4 0) v = true) ∧
    (∃ s, Reachable (sampleDeps true) (sampleSpec (.block 0) (.timestamp 9) .never) s ∧
      1 ≤ s.turn ∧ s.validators = [1, 2, 3] ∧ ∀ v ∈ s.validators, s.refuses (sampleDeps true)
        (sampleSpec (.block 0) (.timestamp 9) .never) (halfHeader 5 0) v = true) := by
  constructor
  · exact refuses_all_of_halfRun 0 [1, 2, 3] (by decide +kernel)
  · exact refuses_all_of_halfRun 9 [1, 1, 2, 3] (by decide +kernel)

/-- After one Bohr block, two of three validators are left, and block 2 can be signed. -/
theorem recent_signers_leave_two : ∃ s,
    halfStart.apply (sampleDeps true) (sampleSpec (.block 0) (.timestamp 0) .never) 1
        (halfHeader 1 3) [] none none none = .ok s ∧
      2 ≤ (s.validators.filter fun v => !s.signRecently v).length ∧
      ∃ v ∈ s.validators, ∃ s', s.apply (sampleDeps true)
        (sampleSpec (.block 0) (.timestamp 0) .never) v (halfHeader 2 6) [] none none none =
          .ok s' := by
  have hrun : ((halfStart.apply (sampleDeps true) (sampleSpec (.block 0) (.timestamp 0) .never) 1
      (halfHeader 1 3) [] none none none).toOption.map fun s => (s.turn, s.validators,
        s.blockNumber, s.blockHash)) = some (1, [1, 2, 3], 1, 9) := by decide +kernel
  obtain ⟨s, hs, hfacts⟩ := Option.map_eq_some_iff.mp hrun
  simp only [Prod.mk.injEq] at hfacts
  obtain ⟨hturn, hvals, hnumber, hhash⟩ := hfacts
  have happly := toOption_eq_some hs
  have hnew : Snapshot.new [1, 2, 3] 0 1 200 none = some halfStart := rfl
  have horderly : Orderly (sampleDeps true) (sampleSpec (.block 0) (.timestamp 0) .never) _ s :=
    .apply (.new hnew) (by decide) (fun h => by cases h) (fun _ => rfl) happly
  obtain ⟨hhalf, hnext⟩ := recent_signers_leave_half (.apply (halfStart_reachable _) happly)
    (le_of_eq hturn.symm) (by rw [hvals]; decide +kernel) (by rw [hvals]; decide)
  obtain ⟨-, -, v, hv, -, hext⟩ := (hnext _ horderly).2 (halfHeader 2 6)
    (by rw [hnumber]; rfl) (by decide) (by rw [hhash]; decide +kernel) (fun _ => by decide +kernel)
  rw [hvals] at hhalf
  exact ⟨s, happly, hvals ▸ hhalf, v, hv, hext [] none none none rfl⟩

end RethBsc.Snapshot
