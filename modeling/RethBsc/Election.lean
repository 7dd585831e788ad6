import Mathlib.Data.Prod.Lex
import Mathlib.Data.String.Basic
import RethBsc.MinHeap
import RethBsc.SystemTransactions

/-!
The daily election of validators.

Candidates with voting power go to a heap, and as many as are wanted come out again. Their
order is total on candidates with different addresses, so the elected ones are the same for
every heap and for every order in which the candidates are listed.
-/

namespace RethBsc

open List ValidatorElectionInfo

/-! ### Pops of a heap -/

section Pops

variable {α κ : Type*} [LinearOrder κ] {prio : α → κ} {n : ℕ} {heap out order : List α}

/-- What `n` pops of a heap with these elements may give. -/
inductive Pops (prio : α → κ) : ℕ → List α → List α → Prop
  | zero (heap : List α) : Pops prio 0 heap []
  | succ {n : ℕ} {heap rest out : List α} {a : α} (perm : heap.Perm (a :: rest))
      (least : ∀ b ∈ rest, prio a ≤ prio b) (next : Pops prio n rest out) :
      Pops prio (n + 1) heap (a :: out)

/-- If no two elements have one priority, pops give the elements in their order. -/
lemma Pops.eq_take (h : Pops prio n heap out) (hperm : order.Perm heap)
    (hsorted : order.Pairwise fun a b => prio a < prio b) : out = order.take n := by
  induction h generalizing order with
  | zero heap => rfl
  | @succ n heap rest out a perm least next ih =>
    cases order with
    | nil => exact absurd (hperm.trans perm) (by simp)
    | cons b order =>
      have hall := hperm.trans perm
      obtain ⟨hfirst, hrest⟩ := pairwise_cons.mp hsorted
      -- of the two first elements neither can come after the other
      have hab : a = b := by
        rcases mem_cons.mp (hall.mem_iff.mpr mem_cons_self) with hab | ha
        · exact hab
        · rcases mem_cons.mp (hall.mem_iff.mp mem_cons_self) with hba | hb
          · exact hba.symm
          · exact absurd (hfirst a ha) (least b hb).not_gt
      subst hab
      rw [take_succ_cons, ih hall.cons_inv hrest]

end Pops

/-! ### The order of the candidates -/

namespace ValidatorElectionInfo

variable {display : Address → String} {a b : ValidatorElectionInfo}
  {candidates candidates' : List ValidatorElectionInfo}

/-- More voting power, or as much and the smaller address as a string. -/
def Precedes (display : Address → String) (a b : ValidatorElectionInfo) : Prop :=
  b.votingPower < a.votingPower ∨
    a.votingPower = b.votingPower ∧ display a.address < display b.address

/-- The rank of a candidate, the least one being elected first. -/
def rank (display : Address → String) (a : ValidatorElectionInfo) : ℕᵒᵈ ×ₗ String :=
  toLex (OrderDual.toDual a.votingPower, display a.address)

lemma popsBefore_iff : a.popsBefore display b = true ↔ a.rank display ≤ b.rank display := by
  simp [popsBefore, rank, Prod.Lex.le_iff]

lemma precedes_iff : a.Precedes display b ↔ a.rank display < b.rank display := by
  simp [Precedes, rank, Prod.Lex.lt_iff]

/-- The candidates that may be elected. -/
def eligible (candidates : List ValidatorElectionInfo) : List ValidatorElectionInfo :=
  candidates.filter fun info => decide (0 < info.votingPower)

/-- The candidates that may be elected, in the order of the election. -/
def ranked (display : Address → String) (candidates : List ValidatorElectionInfo) :
    List ValidatorElectionInfo :=
  (eligible candidates).insertionSort fun a b => a.popsBefore display b = true

lemma ranked_perm (display : Address → String) (candidates : List ValidatorElectionInfo) :
    (ranked display candidates).Perm (eligible candidates) := perm_insertionSort _ _

lemma ranked_pairwise (hdisplay : Function.Injective display)
    (hnodup : (candidates.map address).Nodup) :
    (ranked display candidates).Pairwise fun a b => a.rank display < b.rank display := by
  have : Std.Total fun a b : ValidatorElectionInfo => a.popsBefore display b = true :=
    ⟨fun a b => by simpa only [popsBefore_iff] using le_total _ _⟩
  have : IsTrans ValidatorElectionInfo fun a b => a.popsBefore display b = true :=
    ⟨fun a b c hab hbc => popsBefore_iff.mpr
      ((popsBefore_iff.mp hab).trans (popsBefore_iff.mp hbc))⟩
  have hsorted := pairwise_insertionSort
    (fun a b : ValidatorElectionInfo => a.popsBefore display b = true) (eligible candidates)
  have haddress : (ranked display candidates).Pairwise fun a b => a.address ≠ b.address := by
    rw [← pairwise_map, ← List.Nodup, ((ranked_perm display candidates).map _).nodup_iff]
    exact (filter_sublist.map _).nodup hnodup
  refine (hsorted.and haddress).imp fun {a b} h => lt_of_le_of_ne (popsBefore_iff.mp h.1) ?_
  intro hrank
  exact h.2 (hdisplay (congrArg (fun r => (ofLex r).2) hrank))

lemma ranked_congr (hdisplay : Function.Injective display) (hnodup : (candidates.map address).Nodup)
    (hperm : candidates'.Perm candidates) :
    ranked display candidates' = ranked display candidates := by
  have hnodup' := (hperm.map address).nodup_iff.mpr hnodup
  refine List.Perm.eq_of_pairwise (fun a b _ _ hab hba => absurd hab (lt_asymm hba))
    (ranked_pairwise hdisplay hnodup') (ranked_pairwise hdisplay hnodup) ?_
  calc List.Perm (ranked display candidates') (eligible candidates') := ranked_perm _ _
    List.Perm _ (eligible candidates) := hperm.filter _
    List.Perm _ (ranked display candidates) := (ranked_perm _ _).symm

/-- **The election takes the first candidates in their order**, with their own vote addresses
and powers, whatever order they are listed in and whatever heap they come out of. -/
theorem elected_in_order (hdisplay : Function.Injective display)
    (hnodup : (candidates.map ValidatorElectionInfo.address).Nodup)
    (hpower : ∀ info ∈ candidates, info.votingPower / 10 ^ 10 ≤ u64Max) {maxElected : ℕ}
    (hmax : maxElected ≤ u64Max) :
    ∃ order : List ValidatorElectionInfo, order.Perm (eligible candidates) ∧
      order.Pairwise (Precedes display) ∧
      (order.take maxElected).length = min maxElected (eligible candidates).length ∧
      (∀ out, Pops (rank display) (min maxElected (eligible candidates).length)
        (eligible candidates) out → out = order.take maxElected) ∧
      ∀ candidates', candidates'.Perm candidates →
        getTopValidatorsByVotingPower display candidates' maxElected =
          .ok ⟨(order.take maxElected).map (·.address),
            (order.take maxElected).map (·.votingPower / 10 ^ 10),
            (order.take maxElected).map (·.voteAddress)⟩ := by
  have hperm := ranked_perm display candidates
  have hsorted := ranked_pairwise hdisplay hnodup
  have htake : (ranked display candidates).take (min maxElected (eligible candidates).length) =
      (ranked display candidates).take maxElected := by
    rw [← hperm.length_eq, ← take_eq_take_min]
  refine ⟨ranked display candidates, hperm, hsorted.imp precedes_iff.mpr, ?_, fun out hout => ?_,
    fun candidates' hcandidates => ?_⟩
  · rw [length_take, hperm.length_eq]
  · rw [hout.eq_take hperm hsorted, htake]
  · have hsmall : ((ranked display candidates).take maxElected).any
        (fun info => decide (u64Max < info.votingPower / 10 ^ 10)) = false := by
      rw [any_eq_false]
      intro info hinfo
      have hmem := hperm.mem_iff.mp (mem_of_mem_take hinfo)
      simpa using hpower info (mem_of_mem_filter hmem)
    have hheap : (candidates'.filter fun info => decide (0 < info.votingPower)).insertionSort
        (fun a b => a.popsBefore display b = true) = ranked display candidates :=
      ranked_congr hdisplay hnodup hcandidates
    have htop : (ranked display candidates).take
        (if maxElected > (ranked display candidates).length then
          (ranked display candidates).length else maxElected) =
        (ranked display candidates).take maxElected := by
      split_ifs with hlen
      · rw [take_length, take_of_length_le hlen.le]
      · rfl
    simp only [getTopValidatorsByVotingPower, hheap, htop, hsmall, if_neg hmax.not_gt,
      Bool.false_eq_true, if_false]

/-- Two candidates with the same power, and one that has none. -/
def tiedCandidates : List ValidatorElectionInfo :=
  [⟨2, 10 ^ 10, [2]⟩, ⟨1, 10 ^ 10, [1]⟩, ⟨3, 0, [3]⟩]

/-- An address as so many strokes. -/
def unary (address : Address) : String := String.ofList (List.replicate address.val '|')

theorem elected_in_order_tied : ∃ order : List ValidatorElectionInfo,
    order.Pairwise (Precedes unary) ∧ (order.take 1).length = 1 ∧
      getTopValidatorsByVotingPower unary tiedCandidates.reverse 1 =
        .ok ⟨(order.take 1).map (·.address), (order.take 1).map (·.votingPower / 10 ^ 10),
          (order.take 1).map (·.voteAddress)⟩ := by
  have hunary : Function.Injective unary := by
    intro a b hab
    have hlen := congrArg List.length (String.ofList_injective hab)
    simpa [Fin.ext_iff] using hlen
  have hdistinct : (tiedCandidates.map address).Nodup := by decide
  obtain ⟨order, -, hsorted, hlen, -, htop⟩ := elected_in_order hunary hdistinct (by decide)
    (by decide : 1 ≤ u64Max)
  exact ⟨order, hsorted, hlen, htop _ (reverse_perm _)⟩

end ValidatorElectionInfo

end RethBsc
