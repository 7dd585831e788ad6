import RethBsc.Chain

/-!
The two recent-signer limits: the one `verify_seal` applies to the parent's snapshot, and the
one `apply` applies to the snapshot it is moving.

Both count the same entries with the same test, but `apply` has already moved the block
number, so its window starts one block later. The two differ in the block that leaves the
window, and only for the validator who proposed it.
-/

namespace RethBsc.Snapshot

variable {s : Snapshot} {deps : Deps} {spec : ChainSpec} {header : Header}

lemma minerHistoryCheckLen_of_turn_eq_zero (h : s.turn = 0) : s.minerHistoryCheckLen = u64Max := by
  rw [minerHistoryCheckLen, h, Nat.mul_zero]; rfl

variable {v : Address}

/-- **The window of the moved snapshot** has lost the block `minerHistoryCheckLen` below the
new one, and nothing else. -/
lemma mem_recentBlocks_advance (hv : v ≠ 0) (hr : Reachable deps spec s)
    (hnum : header.number = s.blockNumber + 1) (hfits : header.number ≤ u64Max) (k : ℕ) :
    k ∈ (s.advance deps header).recentBlocks v ↔ k ∈ s.recentBlocks v ∧
      ¬(s.minerHistoryCheckLen ≤ s.blockNumber ∧
        k = s.blockNumber + 1 - s.minerHistoryCheckLen) := by
  have hlen : (s.advance deps header).minerHistoryCheckLen = s.minerHistoryCheckLen := rfl
  have hblock : (s.advance deps header).blockNumber = s.blockNumber + 1 := hnum
  have hrec : (s.advance deps header).recentProposers = s.pruneProposers header.number := rfl
  rw [mem_recentBlocks, mem_recentBlocks, leftBound, leftBound, hlen, hblock, hrec, hnum,
    get_pruneProposers_iff]
  by_cases hget : s.recentProposers.get k = some v
  · have hk := hr.key_le hget hv
    simp only [hget, true_and, and_true]
    -- a window length of `u64Max` wraps to zero, and the entry it names is not there yet
    unfold wrappingSucc
    split_ifs <;> omega
  · simp [hget]

lemma leaving_mem_recentBlocks (hlen : s.minerHistoryCheckLen ≤ s.blockNumber)
    (hget : s.recentProposers.get (s.blockNumber + 1 - s.minerHistoryCheckLen) = some v) :
    s.blockNumber + 1 - s.minerHistoryCheckLen ∈ s.recentBlocks v := by
  rw [mem_recentBlocks, leftBound]
  refine ⟨?_, hget⟩
  split_ifs <;> omega

lemma card_recentBlocks_advance (hv : v ≠ 0) (hr : Reachable deps spec s)
    (hnum : header.number = s.blockNumber + 1) (hfits : header.number ≤ u64Max) :
    ((s.advance deps header).recentBlocks v).card = (s.recentBlocks v).card -
      if s.minerHistoryCheckLen ≤ s.blockNumber ∧
        s.recentProposers.get (s.blockNumber + 1 - s.minerHistoryCheckLen) = some v
      then 1 else 0 := by
  have hmem := mem_recentBlocks_advance hv hr hnum hfits
  split_ifs with hout
  · rw [← Finset.card_erase_of_mem (leaving_mem_recentBlocks hout.1 hout.2)]
    congr 1
    ext k
    rw [hmem, Finset.mem_erase]
    constructor
    · rintro ⟨hk, hne⟩
      exact ⟨fun he => hne ⟨hout.1, he⟩, hk⟩
    · rintro ⟨hne, hk⟩
      exact ⟨hk, fun he => hne he.2⟩
  · rw [Nat.sub_zero]
    congr 1
    ext k
    rw [hmem]
    constructor
    · exact fun hk => hk.1
    · intro hk
      refine ⟨hk, fun he => hout ⟨he.1, ?_⟩⟩
      rw [← he.2]
      exact (mem_recentBlocks.mp hk).2

/-- **When the two limits agree.** For a Bohr header on top of a reachable snapshot, `apply`
refuses a validator as over-proposed exactly when the snapshot's own recent-signer test
does, unless the validator proposed the block that leaves the window and its count, a byte,
stands at the limit or has wrapped to zero. -/
theorem overProposed_iff_signRecently (hr : Reachable deps spec s)
    (hnum : header.number = s.blockNumber + 1) (hfits : header.number ≤ u64Max)
    (hpar : header.parentHash = s.blockHash)
    (hbohr : spec.isBohrActiveAtTimestamp header.number header.timestamp = true)
    {v : Address} (hmem : v ∈ s.validators) (newValidators : List Address)
    (voteAddrs : Option (List VoteAddress)) (attestation : Option VoteAttestation)
    (turnLength : Option UInt8) :
    (s.apply deps spec v header newValidators voteAddrs attestation turnLength =
        .error .overProposed ↔ s.signRecently v = true) ↔
      ¬(v ≠ 0 ∧ s.minerHistoryCheckLen ≤ s.blockNumber ∧
        s.recentProposers.get (s.blockNumber + 1 - s.minerHistoryCheckLen) = some v ∧
        ((s.recentBlocks v).card % 256 = s.turn ∨ (s.recentBlocks v).card % 256 = 0)) := by
  have hturn : (s.advance deps header).turn = s.turn := rfl
  rw [apply_overProposed_iff hnum hpar hmem, hbohr, overProposed, if_pos rfl, signRecently_iff,
    signRecently_iff, hturn]
  by_cases hv : v = 0
  · simp [hv]
  rw [card_recentBlocks_advance hv hr hnum hfits]
  have hle := s.turn_le
  by_cases hout : s.minerHistoryCheckLen ≤ s.blockNumber ∧
      s.recentProposers.get (s.blockNumber + 1 - s.minerHistoryCheckLen) = some v
  · have hpos : s.turn ≠ 0 := fun h0 => by
      have hlen := minerHistoryCheckLen_of_turn_eq_zero h0
      omega
    have hcard := Finset.card_pos.mpr ⟨_, leaving_mem_recentBlocks hout.1 hout.2⟩
    simp only [hv, hout, and_self, if_true, ne_eq, not_false_eq_true, true_and]
    omega
  · rw [if_neg hout, Nat.sub_zero]
    exact iff_of_true Iff.rfl fun h => hout ⟨h.2.1, h.2.2.1⟩

/-! ### Three validators with turns of one block -/

def trioSpec : ChainSpec := sampleSpec (.block 0) (.timestamp 0) .never

def trioHeader (number proposer : ℕ) : Header :=
  sampleHeader number 0 proposer (BitVec.ofNat 256 (8 * (number - 1) + 1)) []

/-- Validators 1, 2 and 3, after validator 1 has proposed block 1. -/
def trioSnapshot : Snapshot :=
  ((Snapshot.new [1, 2, 3] 0 1 200 none).bind fun s =>
    (s.apply (sampleDeps false) trioSpec 1 (trioHeader 1 1) [] none none
      none).toOption).getD default

lemma trioSnapshot_reachable : Reachable (sampleDeps false) trioSpec trioSnapshot := by
  have hnew : Snapshot.new [1, 2, 3] 0 1 200 none =
      some ((Snapshot.new [1, 2, 3] 0 1 200 none).getD default) := by decide +kernel
  have happ : ((Snapshot.new [1, 2, 3] 0 1 200 none).getD default).apply
    (sampleDeps false) trioSpec 1
      (trioHeader 1 1) [] none none none = .ok trioSnapshot := by decide +kernel
  exact Reachable.apply (Reachable.new hnew) happ

/-- Validator 2 may propose block 2 by either limit. -/
theorem overProposed_iff_signRecently_trio :
    trioSnapshot.apply (sampleDeps false) trioSpec 2 (trioHeader 2 2) [] none none none =
      .error .overProposed ↔ trioSnapshot.signRecently 2 = true := by
  refine (overProposed_iff_signRecently trioSnapshot_reachable ?_ ?_ ?_ ?_ ?_ [] none none
    none).mpr ?_ <;> decide +kernel

/-- **`apply` takes what `verify_seal` refuses.** Validator 1 has signed block 1 and is over
the limit on its snapshot; `apply` still accepts block 2 from the same validator. -/
theorem apply_accepts_recent_signer :
    Reachable (sampleDeps false) trioSpec trioSnapshot ∧ (1 : Address) ∈ trioSnapshot.validators ∧
    (trioHeader 2 1).number = trioSnapshot.blockNumber + 1 ∧
    (trioHeader 2 1).parentHash = trioSnapshot.blockHash ∧
    trioSpec.isBohrActiveAtTimestamp (trioHeader 2 1).number (trioHeader 2 1).timestamp = true ∧
    trioSnapshot.signRecently 1 = true ∧
    (trioSnapshot.apply (sampleDeps false) trioSpec 1 (trioHeader 2 1) [] none none
      none).toOption.isSome = true := by
  refine ⟨trioSnapshot_reachable, ?_⟩
  decide +kernel

end RethBsc.Snapshot
