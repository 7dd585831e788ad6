import RethBsc.Snapshot

/-!
What one application of a block does to a snapshot, field by field, and what the count of
recent proposers counts.

Everything proved about chains goes through `apply_ok`: it lists the guards an accepted
block has passed and every field of the resulting snapshot, so that no later proof unfolds
`apply`.
-/

namespace RethBsc.Snapshot

open OrdMap

variable {s s' : Snapshot} {deps : Deps} {spec : ChainSpec} {validator : Address}
  {header : Header} {newValidators : List Address} {voteAddrs : Option (List VoteAddress)}
  {attestation : Option VoteAttestation} {turnLength : Option UInt8}

/-- Whether applying a block with these checkpoint validators puts them in force. -/
def switches (s : Snapshot) (deps : Deps) (spec : ChainSpec) (validator : Address)
    (header : Header) (newValidators : List Address) (attestation : Option VoteAttestation) :
    Bool :=
  installs (spec.isBohrActiveAtTimestamp header.number header.timestamp)
    (epochKey header.number s.epochNum) newValidators
    ((s.advance deps header).record spec validator header attestation).recentProposers

/-- The guards of an accepted block and the fields of the snapshot after it. -/
structure Applied (s s' : Snapshot) (deps : Deps) (spec : ChainSpec) (validator : Address)
    (header : Header) (newValidators : List Address) (voteAddrs : Option (List VoteAddress))
    (attestation : Option VoteAttestation) (turnLength : Option UInt8) : Prop where
  number : header.number = s.blockNumber + 1
  parent : header.parentHash = s.blockHash
  member : validator ∈ s.validators
  allowed : (s.advance deps header).overProposed
    (spec.isBohrActiveAtTimestamp header.number header.timestamp) validator = false
  blockNumber : s'.blockNumber = header.number
  blockHash : s'.blockHash = deps.hashSlow header
  voteData : s'.voteData = updateVoteData spec header attestation s.voteData
  epochNum : s'.epochNum = nextEpochNum
    (spec.isLorentzActiveAtTimestamp header.number header.timestamp)
    (spec.isMaxwellActiveAtTimestamp header.number header.timestamp) header.number s.epochNum
  kept : s.switches deps spec validator header newValidators attestation = false →
    s'.validators = s.validators ∧ s'.validatorsMap = s.validatorsMap ∧
      s'.turnLength = s.turnLength ∧ s'.recentProposers =
        ((s.advance deps header).record spec validator header attestation).recentProposers
  switched : s.switches deps spec validator header newValidators attestation = true →
    s'.validators = sortAddrs newValidators ∧
      s'.validatorsMap = buildValidatorsMap newValidators voteAddrs ∧
      s'.turnLength = turnLength.or s.turnLength ∧ s'.recentProposers =
        if spec.isBohrActiveAtTimestamp header.number header.timestamp
        then OrdMap.empty.insert (epochKey header.number s.epochNum) 0
        else trimProposers header.number s.validators.length newValidators.length
          ((s.advance deps header).record spec validator header attestation).recentProposers

theorem apply_ok (h : s.apply deps spec validator header newValidators voteAddrs attestation
    turnLength = .ok s') :
    Applied s s' deps spec validator header newValidators voteAddrs attestation turnLength := by
  unfold apply at h
  split at h
  · simp at h
  next hcont =>
  obtain ⟨hnum, hpar⟩ := not_or.mp hcont
  simp only at h
  split at h
  · simp at h
  next hmem =>
  split at h
  · simp at h
  next hover =>
  have hmem' : validator ∈ s.validators := by
    simpa [advance] using hmem
  have base : header.number = s.blockNumber + 1 ∧ header.parentHash = s.blockHash :=
    ⟨(not_not.mp hnum).symm, (not_not.mp hpar).symm⟩
  have hallowed := (Bool.not_eq_true _).mp hover
  split at h
  · next hinst =>
    split at h
    · cases h
      have hsw : s.switches deps spec validator header newValidators attestation := hinst
      exact ⟨base.1, base.2, hmem', hallowed, rfl, rfl, rfl, rfl,
        fun hk => absurd (hk.symm.trans hsw) (by decide), fun _ => ⟨rfl, rfl, rfl, rfl⟩⟩
    · simp at h
  · next hinst =>
    cases h
    exact ⟨base.1, base.2, hmem', hallowed, rfl, rfl, rfl, rfl, fun _ => ⟨rfl, rfl, rfl, rfl⟩,
      fun hk => absurd hk hinst⟩

section Extends

variable (hnum : header.number = s.blockNumber + 1) (hpar : header.parentHash = s.blockHash)
  (hmem : validator ∈ s.validators)
include hnum hpar hmem

lemma guards_of_extends (deps : Deps) :
    ¬(s.blockNumber + 1 ≠ header.number ∨ s.blockHash ≠ header.parentHash) ∧
      (!(s.advance deps header).validators.contains validator) = false := by
  constructor
  · simp [hnum, hpar]
  · simpa [advance] using hmem

lemma exists_apply_eq_ok (hallowed : (s.advance deps header).overProposed
      (spec.isBohrActiveAtTimestamp header.number header.timestamp) validator = false)
    (hlen : lengthsAgree newValidators voteAddrs) :
    ∃ s', s.apply deps spec validator header newValidators voteAddrs attestation turnLength =
      .ok s' := by
  obtain ⟨hcont, hmem'⟩ := guards_of_extends hnum hpar hmem deps
  unfold apply
  simp only [hcont, if_false, hmem', Bool.false_eq_true, hallowed, hlen, if_true]
  split_ifs
  · exact ⟨_, rfl⟩
  · exact ⟨_, rfl⟩

/-- A block that extends the snapshot and comes from one of its validators is refused as
over-proposed exactly when the proposer test on the moved snapshot fires. -/
lemma apply_overProposed_iff :
    s.apply deps spec validator header newValidators voteAddrs attestation turnLength =
        .error .overProposed ↔
      (s.advance deps header).overProposed
        (spec.isBohrActiveAtTimestamp header.number header.timestamp) validator := by
  obtain ⟨hcont, hmem'⟩ := guards_of_extends hnum hpar hmem deps
  unfold apply
  simp only [hcont, if_false, hmem', Bool.false_eq_true]
  split_ifs <;> simp_all

end Extends

/-! ### The recent proposers after a block -/

lemma record_recentProposers (s : Snapshot) (spec : ChainSpec) (validator : Address)
    (header : Header) (attestation : Option VoteAttestation) :
    (s.record spec validator header attestation).recentProposers =
      clearFinalized (spec.isMaxwellActiveAtTimestamp header.number header.timestamp)
        (updateVoteData spec header attestation s.voteData).sourceNumber
        (s.recentProposers.insert header.number validator) := by
  have hfin : (s.updateAttestation spec header attestation).getFinalizedNumber =
      (updateVoteData spec header attestation s.voteData).sourceNumber := by
    unfold getFinalizedNumber updateAttestation
    simp only
    split_ifs <;> omega
  unfold record
  rw [← hfin]; rfl

variable {n k : ℕ} {v : Address}

lemma get_pruneProposers_iff :
    (s.pruneProposers n).get k = some v ↔ s.recentProposers.get k = some v ∧
      ¬(wrappingSucc s.minerHistoryCheckLen ≤ n ∧ k = n - wrappingSucc s.minerHistoryCheckLen) := by
  unfold pruneProposers
  simp only
  split_ifs with h
  · rw [get_remove_eq_some]
    constructor
    · rintro ⟨hne, hget⟩
      exact ⟨hget, fun hk => hne hk.2.symm⟩
    · rintro ⟨hget, hk⟩
      exact ⟨fun he => hk ⟨h, he.symm⟩, hget⟩
  · exact ⟨fun hget => ⟨hget, fun hk => h hk.1⟩, fun hget => hget.1⟩

lemma get_pruneProposers (h : (s.pruneProposers n).get k = some v) :
    s.recentProposers.get k = some v := (get_pruneProposers_iff.mp h).1

lemma get_clearFinalized {b : Bool} {fin : ℕ} {m : OrdMap ℕ Address}
    (h : (clearFinalized b fin m).get k = some v) : m.get k = some v := by
  unfold clearFinalized at h
  split_ifs at h
  · exact (get_retain_eq_some.mp h).1
  · exact h

lemma get_record
    (h : ((s.advance deps header).record spec validator header attestation).recentProposers.get k
      = some v) :
    (k = header.number ∧ v = validator) ∨
      (k ≠ header.number ∧ (s.pruneProposers header.number).get k = some v) := by
  rw [record_recentProposers] at h
  have h1 := get_clearFinalized h
  rw [get_insert] at h1
  split_ifs at h1 with hk
  · exact Or.inl ⟨hk.symm, (Option.some.inj h1).symm⟩
  · exact Or.inr ⟨fun e => hk e.symm, h1⟩

lemma get_trimProposers {old new : ℕ} {m : OrdMap ℕ Address}
    (h : (trimProposers n old new m).get k = some v) : m.get k = some v := by
  unfold trimProposers at h
  simp only at h
  generalize List.range (old / 2 + 1 - (new / 2 + 1)) = l at h
  induction l generalizing m with
  | nil => exact h
  | cons i l ih => exact (get_remove_eq_some.mp (ih h)).2

/-- Whatever a block leaves among the recent proposers is its own entry, one that pruning
left, or the mark of an epoch, which names the zero address. -/
theorem Applied.get_recentProposers
    (h : Applied s s' deps spec validator header newValidators voteAddrs attestation turnLength)
    (hk : s'.recentProposers.get k = some v) :
    (k = header.number ∧ v = validator) ∨
      (k ≠ header.number ∧ (s.pruneProposers header.number).get k = some v) ∨ v = 0 := by
  cases hsw : s.switches deps spec validator header newValidators attestation with
  | false =>
    rw [(h.kept hsw).2.2.2] at hk
    exact (get_record hk).imp_right Or.inl
  | true =>
    rw [(h.switched hsw).2.2.2] at hk
    split_ifs at hk
    · rw [get_insert] at hk
      split_ifs at hk
      · exact Or.inr (Or.inr (Option.some.inj hk).symm)
      · simp at hk
    · exact (get_record (get_trimProposers hk)).imp_right Or.inl

/-! ### Reachable snapshots -/

lemma new_eq_some {validators : List Address} {hash : B256} {epoch : ℕ}
    {votes : Option (List VoteAddress)} {s : Snapshot}
    (h : Snapshot.new validators n hash epoch votes = some s) :
    s.blockNumber = n ∧ s.blockHash = hash ∧ s.recentProposers = empty ∧
      s.voteData = VoteData.default ∧ s.turnLength = some defaultTurnLength ∧
      s.epochNum = (if epoch = 0 then defaultEpochLength else epoch) ∧
      s.validators = sortAddrs validators := by
  unfold Snapshot.new at h
  split at h
  · cases h; exact ⟨rfl, rfl, rfl, rfl, rfl, rfl, rfl⟩
  · cases h

/-- The snapshots that successful applies lead to. -/
inductive Reachable (deps : Deps) (spec : ChainSpec) : Snapshot → Prop
  | new {validators : List Address} {n : ℕ} {hash : B256} {epoch : ℕ}
      {votes : Option (List VoteAddress)} {s : Snapshot}
      (h : Snapshot.new validators n hash epoch votes = some s) : Reachable deps spec s
  | apply {s s' : Snapshot} {validator : Address} {header : Header}
      {newValidators : List Address} {voteAddrs : Option (List VoteAddress)}
      {attestation : Option VoteAttestation} {turnLength : Option UInt8}
      (before : Reachable deps spec s)
      (h : s.apply deps spec validator header newValidators voteAddrs attestation turnLength =
        .ok s') : Reachable deps spec s'

/-- No validator is on record for a block above the snapshot's; the marks of epochs, which
are, name the zero address. -/
lemma Reachable.key_le (h : Reachable deps spec s) (hk : s.recentProposers.get k = some v)
    (hv : v ≠ 0) : k ≤ s.blockNumber := by
  induction h generalizing k v with
  | new h =>
    rw [(new_eq_some h).2.2.1, get_empty] at hk
    cases hk
  | apply before h ih =>
    have happ := apply_ok h
    have hnum := happ.number
    have hblock := happ.blockNumber
    rcases happ.get_recentProposers hk with ⟨rfl, -⟩ | ⟨-, hold⟩ | hz
    · omega
    · have hle := ih (get_pruneProposers hold) hv
      omega
    · exact absurd hz hv

/-! ### Counting -/

lemma turn_le (s : Snapshot) : s.turn ≤ 255 := by
  unfold turn
  cases s.turnLength with
  | none => decide
  | some t => exact Nat.le_of_lt_succ t.toNat_lt

/-- Whether an entry counts for `v` in a window that starts after `lb`. -/
def countsFor (lb : ℕ) (v : Address) (e : ℕ × Address) : Bool :=
  decide (lb < e.1) && decide (e.2 = v)

/-- The blocks of the window that `v` proposed. -/
def recentBlocks (s : Snapshot) (v : Address) : Finset ℕ :=
  s.recentProposers.keysWhere (countsFor s.leftBound v)

lemma mem_recentBlocks :
    k ∈ s.recentBlocks v ↔ s.leftBound < k ∧ s.recentProposers.get k = some v := by
  rw [recentBlocks, mem_keysWhere]
  constructor
  · rintro ⟨w, hw, hp⟩
    simp only [countsFor, Bool.and_eq_true, decide_eq_true_eq] at hp
    obtain ⟨hlt, rfl⟩ := hp
    exact ⟨hlt, hw⟩
  · rintro ⟨hlt, hv⟩
    exact ⟨v, hv, by simp [countsFor, hlt]⟩

/-- The count after some entries: absent until the first entry that counts, then the number
of those entries as a byte. -/
lemma get_foldl_countProposer (lb : ℕ) (hv : v ≠ 0) (l : List (ℕ × Address))
    (counts : OrdMap Address UInt8) :
    (l.foldl (countProposer lb) counts).get v = if l.countP (countsFor lb v) = 0 then counts.get v
      else some ((counts.get v).getD 0 + UInt8.ofNat (l.countP (countsFor lb v))) := by
  induction l generalizing counts with
  | nil => simp
  | cons e l ih =>
    rw [List.foldl_cons, ih, List.countP_cons]
    cases hc : countsFor lb v e with
    | false =>
      have hget : (countProposer lb counts e).get v = counts.get v := by
        unfold countProposer
        split_ifs with he
        · rfl
        · refine get_insert_of_ne _ _ fun hev => ?_
          simp [countsFor, not_le.mp (not_or.mp he).1, hev] at hc
      simp [hget]
    | true =>
      simp only [countsFor, Bool.and_eq_true, decide_eq_true_eq] at hc
      obtain ⟨hlb, rfl⟩ := hc
      have hget : (countProposer lb counts e).get e.2 = some ((counts.get e.2).getD 0 + 1) := by
        have he : ¬(e.1 ≤ lb ∨ e.2 = 0) := not_or.mpr ⟨not_le.mpr hlb, hv⟩
        rw [countProposer, if_neg he, get_insert_self]
      rw [hget]
      by_cases h0 : l.countP (countsFor lb e.2) = 0
      · simp [h0]
      · simp only [h0, if_false, if_true, Nat.add_eq_zero_iff, one_ne_zero, and_false,
          Option.getD_some, UInt8.ofNat_add, Option.some.injEq]
        rw [UInt8.add_assoc, UInt8.add_comm 1]; rfl

lemma get_foldl_countProposer_zero (lb : ℕ) (l : List (ℕ × Address))
    {counts : OrdMap Address UInt8} (h : counts.get 0 = none) :
    (l.foldl (countProposer lb) counts).get 0 = none := by
  induction l generalizing counts with
  | nil => exact h
  | cons e l ih =>
    refine ih ?_
    unfold countProposer
    split_ifs with he
    · exact h
    · rw [get_insert_of_ne _ _ (not_or.mp he).2, h]

/-- **What the count counts**: the blocks of the window that a validator proposed, as a
byte; the zero address is never counted. -/
theorem signRecently_iff : s.signRecently v ↔ v ≠ 0 ∧ (s.recentBlocks v).card ≠ 0 ∧
      s.turn ≤ (s.recentBlocks v).card % 256 := by
  unfold signRecently signRecentlyByCounts countRecentProposers
  by_cases hv : v = 0
  · subst hv
    simp [get_foldl_countProposer_zero _ _ (get_empty 0)]
  · have hcard : (s.recentBlocks v).card =
        s.recentProposers.entries.countP (countsFor s.leftBound v) := by
      rw [recentBlocks, card_keysWhere, List.countP_eq_length_filter]
    rw [get_foldl_countProposer _ hv, ← hcard]
    by_cases h0 : (s.recentBlocks v).card = 0
    · simp [h0]
    · simp [h0, hv]

/-! ### The window after a block -/

lemma recentBlocks_advance_subset (deps : Deps) (hnum : header.number = s.blockNumber + 1)
    (v : Address) : (s.advance deps header).recentBlocks v ⊆ s.recentBlocks v := by
  intro k hk
  obtain ⟨hlt, hget⟩ := mem_recentBlocks.mp hk
  refine mem_recentBlocks.mpr ⟨lt_of_le_of_lt ?_ hlt, get_pruneProposers hget⟩
  have hlen : (s.advance deps header).minerHistoryCheckLen = s.minerHistoryCheckLen := rfl
  have hblock : (s.advance deps header).blockNumber = s.blockNumber + 1 := hnum
  rw [leftBound, leftBound, hlen, hblock]
  split_ifs <;> omega

namespace Applied

variable (h : Applied s s' deps spec validator header newValidators voteAddrs attestation
    turnLength)
include h

lemma mem_recentBlocks
    (hsw : s.switches deps spec validator header newValidators attestation = false)
    (hk : k ∈ s'.recentBlocks v) :
    (k = header.number ∧ v = validator) ∨ k ∈ (s.advance deps header).recentBlocks v := by
  obtain ⟨hvals, -, hturn, hrec⟩ := h.kept hsw
  obtain ⟨hlt, hget⟩ := Snapshot.mem_recentBlocks.mp hk
  rw [hrec] at hget
  rcases get_record hget with hown | ⟨-, hold⟩
  · exact Or.inl hown
  · have hlen : s'.minerHistoryCheckLen = (s.advance deps header).minerHistoryCheckLen := by
      rw [minerHistoryCheckLen, minerHistoryCheckLen, hvals, turn, hturn]
      rfl
    have hleft : s'.leftBound = (s.advance deps header).leftBound := by
      rw [leftBound, leftBound, hlen, h.blockNumber]
      rfl
    rw [hleft] at hlt
    exact Or.inr (Snapshot.mem_recentBlocks.mpr ⟨hlt, hold⟩)

lemma card_recentBlocks_le
    (hsw : s.switches deps spec validator header newValidators attestation = false) (v : Address) :
    (s'.recentBlocks v).card ≤ ((s.advance deps header).recentBlocks v).card +
      if v = validator then 1 else 0 := by
  have hsub : s'.recentBlocks v ⊆ (s.advance deps header).recentBlocks v ∪
      if v = validator then {header.number} else ∅ := by
    intro k hk
    rcases h.mem_recentBlocks hsw hk with ⟨rfl, rfl⟩ | hold
    · simp
    · exact Finset.mem_union_left _ hold
  calc (s'.recentBlocks v).card
      ≤ ((s.advance deps header).recentBlocks v ∪
          if v = validator then {header.number} else ∅).card := Finset.card_le_card hsub
    _ ≤ ((s.advance deps header).recentBlocks v).card +
          (if v = validator then {header.number} else ∅ : Finset ℕ).card :=
        Finset.card_union_le _ _
    _ = _ := by split_ifs <;> rfl

lemma recentBlocks_eq_empty (hbohr : spec.isBohrActiveAtTimestamp header.number header.timestamp)
    (hsw : s.switches deps spec validator header newValidators attestation) (hv : v ≠ 0) :
    s'.recentBlocks v = ∅ := by
  rw [Finset.eq_empty_iff_forall_notMem]
  intro k hk
  have hget := (Snapshot.mem_recentBlocks.mp hk).2
  rw [(h.switched hsw).2.2.2, if_pos hbohr, get_insert] at hget
  split_ifs at hget
  · exact hv (Option.some.inj hget).symm
  · cases hget

lemma get_pruneProposers_ne
    (hbohr : spec.isBohrActiveAtTimestamp header.number header.timestamp = false) (k : ℕ) :
    (s.pruneProposers header.number).get k ≠ some validator := by
  intro hk
  have hallowed := h.allowed
  rw [hbohr, overProposed, if_neg (by decide), advance] at hallowed
  have hmem : validator ∈ (s.pruneProposers header.number).values := mem_values.mpr ⟨k, hk⟩
  simp [hmem] at hallowed

end Applied

end RethBsc.Snapshot
