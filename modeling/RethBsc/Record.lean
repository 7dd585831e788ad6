import RethBsc.Chain

/-!
The record of recent proposers along a chain.

A block enters the record when it is applied. Pruning, the clearing of finalized blocks and
a switch of the validator set take entries out again; `record_succ` lists what each block
does.
-/

namespace RethBsc.Chain

open Snapshot

variable {parlia : Parlia} {deps : Deps} (c : Chain parlia deps)

def bohrAt (i : ℕ) : Bool :=
  parlia.spec.isBohrActiveAtTimestamp (c.header i).number (c.header i).timestamp

def maxwellAt (i : ℕ) : Bool :=
  parlia.spec.isMaxwellActiveAtTimestamp (c.header i).number (c.header i).timestamp

/-- At block `i`, blocks up to this number are struck from the record as finalized. -/
def clearedUpTo (i : ℕ) : ℕ := if c.maxwellAt i then (c.snap i).voteData.sourceNumber else 0

/-- Whether block `i + 1` puts the validators of a checkpoint in force. -/
def switchesAt (i : ℕ) : Bool :=
  match parlia.checkpointData (c.snap i) (c.header (i + 1)) (ancestorOf c.header (i + 1)) with
  | none => false
  | some data => (c.snap i).switches deps parlia.spec (c.header (i + 1)).beneficiary
      (c.header (i + 1)) data.1.consensusAddrs (c.attestation i)

/-- The record with block `i + 1` in it, before a switch. -/
def recorded (i : ℕ) : OrdMap ℕ Address :=
  (((c.snap i).advance deps (c.header (i + 1))).record parlia.spec
    (c.header (i + 1)).beneficiary (c.header (i + 1)) (c.attestation i)).recentProposers

variable {c} {i : ℕ}

lemma bohrAt_succ (hi : i < c.len) (hts : (c.header i).timestamp ≤ (c.header (i + 1)).timestamp)
    (h : c.bohrAt i) : c.bohrAt (i + 1) := by
  have hnum : (c.header i).number ≤ (c.header (i + 1)).number := by
    rw [c.header_number (show i ≤ c.len by omega), c.header_number (show i + 1 ≤ c.len from hi)]
    omega
  exact ChainSpec.isActiveAtTimestamp_mono hnum hts h

/-! ### The record after one block -/

lemma get_recorded_iff {k : ℕ} (hi : i < c.len) (hk : 0 < k) {v : Address} :
    (c.recorded i).get k = some v ↔ c.clearedUpTo (i + 1) < k ∧
      if k = i + 1 then (c.header (i + 1)).beneficiary = v
      else ((c.snap i).pruneProposers (i + 1)).get k = some v := by
  obtain ⟨info, turnLength, -, happ⟩ := c.applied hi
  have hnum : (c.header (i + 1)).number = i + 1 := c.header_number hi
  unfold recorded
  rw [record_recentProposers, clearedUpTo, happ.voteData]
  have hold : ((c.snap i).advance deps (c.header (i + 1))).voteData = (c.snap i).voteData := rfl
  have hrec : ((c.snap i).advance deps (c.header (i + 1))).recentProposers =
      (c.snap i).pruneProposers (i + 1) := by
    rw [advance, hnum]
  have hins : (((c.snap i).pruneProposers (i + 1)).insert (c.header (i + 1)).number
      (c.header (i + 1)).beneficiary).get k = some v ↔
      if k = i + 1 then (c.header (i + 1)).beneficiary = v
      else ((c.snap i).pruneProposers (i + 1)).get k = some v := by
    rw [OrdMap.get_insert, hnum]
    by_cases h : i + 1 = k
    · simp [h]
    · simp [h, Ne.symm h]
  rw [hold, hrec, clearFinalized, maxwellAt]
  cases parlia.spec.isMaxwellActiveAtTimestamp (c.header (i + 1)).number
      (c.header (i + 1)).timestamp with
  | true =>
    simp only [if_true]
    rw [OrdMap.get_retain_eq_some, hins, and_comm]
    simp only [Bool.not_eq_true', decide_eq_false_iff_not, not_le]
  | false =>
    simp only [Bool.false_eq_true, if_false]
    rw [hins]
    exact ⟨fun h => ⟨hk, h⟩, fun h => h.2⟩

/-- What a block does to the record: it adds itself, and a switch either wipes the record and
leaves the mark of the epoch (Bohr) or trims it to the window of the new set. -/
lemma record_succ (hi : i < c.len) :
    (c.switchesAt i = false ∧ (c.snap (i + 1)).recentProposers = c.recorded i ∧
      (c.snap (i + 1)).validators = (c.snap i).validators ∧
      (c.snap (i + 1)).turn = (c.snap i).turn) ∨
    (c.switchesAt i ∧ c.bohrAt (i + 1) ∧ (c.snap (i + 1)).recentProposers =
        OrdMap.empty.insert (epochKey (i + 1) (c.snap i).epochNum) 0) ∨
    (c.switchesAt i ∧ c.bohrAt (i + 1) = false ∧
      (c.snap (i + 1)).recentProposers = trimProposers (i + 1)
        (c.snap i).validators.length (c.snap (i + 1)).validators.length (c.recorded i)) := by
  obtain ⟨info, turnLength, hdata, happ⟩ := c.applied hi
  have hsw : c.switchesAt i = (c.snap i).switches deps parlia.spec (c.header (i + 1)).beneficiary
      (c.header (i + 1)) info.consensusAddrs (c.attestation i) := by
    rw [switchesAt, hdata]
  cases h : c.switchesAt i with
  | false =>
    obtain ⟨h1, -, h3, h4⟩ := happ.kept (hsw ▸ h)
    exact Or.inl ⟨rfl, h4, h1, by rw [turn, h3, turn]⟩
  | true =>
    obtain ⟨h1, -, -, h4⟩ := happ.switched (hsw ▸ h)
    right
    cases hb : c.bohrAt (i + 1) with
    | true =>
      refine Or.inl ⟨rfl, rfl, ?_⟩
      rw [bohrAt] at hb
      rw [h4, if_pos hb, c.header_number hi]
    | false =>
      refine Or.inr ⟨rfl, rfl, ?_⟩
      have hb' : ¬parlia.spec.isBohrActiveAtTimestamp (c.header (i + 1)).number
          (c.header (i + 1)).timestamp = true := by
        simpa [bohrAt] using hb
      rw [h4, if_neg hb', h1, sortAddrs, List.length_insertionSort, c.header_number hi]
      rfl

end RethBsc.Chain
