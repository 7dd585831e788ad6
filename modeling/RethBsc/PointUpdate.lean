import Mathlib.Algebra.Order.BigOperators.Group.Finset
import Mathlib.Data.Fintype.BigOperators

/-!
Totals and counts over a finite type when one value changes.
-/

namespace RethBsc

open Finset Function

variable {ι α : Type*} [Fintype ι]

lemma sum_comp_update [DecidableEq ι] (g : α → ℕ) (f : ι → α) (i : ι) (v : α) :
    ∑ j, g (update f i v j) + g (f i) = ∑ j, g (f j) + g v := by
  have hrest : ∑ j ∈ {i}ᶜ, g (update f i v j) = ∑ j ∈ {i}ᶜ, g (f j) := by
    refine sum_congr rfl fun j hj => ?_
    have hne : j ≠ i := by simpa using hj
    rw [update_of_ne hne]
  calc ∑ j, g (update f i v j) + g (f i)
      = g v + ∑ j ∈ {i}ᶜ, g (f j) + g (f i) := by
        rw [Fintype.sum_eq_add_sum_compl i, update_self, hrest]
    _ = g (f i) + ∑ j ∈ {i}ᶜ, g (f j) + g v := by omega
    _ = ∑ j, g (f j) + g v := by rw [← Fintype.sum_eq_add_sum_compl i fun j => g (f j)]

lemma le_sum (g : α → ℕ) (f : ι → α) (i : ι) : g (f i) ≤ ∑ j, g (f j) :=
  single_le_sum (f := fun j => g (f j)) (fun _ _ => Nat.zero_le _) (mem_univ i)

/-- How many values hold. -/
def count (f : ι → Bool) : ℕ := (Finset.univ.filter fun i => f i = true).card

lemma count_eq_sum (f : ι → Bool) : count f = ∑ i, (f i).toNat := by
  rw [count, card_filter]
  exact sum_congr rfl fun i _ => by cases f i <;> rfl

lemma count_update [DecidableEq ι] (f : ι → Bool) (i : ι) (b : Bool) :
    count (update f i b) + (f i).toNat = count f + b.toNat := by
  simpa only [count_eq_sum] using sum_comp_update Bool.toNat f i b

lemma count_eq_zero (f : ι → Bool) : count f = 0 ↔ ∀ i, f i = false := by
  simp [count, filter_eq_empty_iff]

end RethBsc
