import Mathlib.Order.Basic

/-!
Runs of a labelled transition relation.

`Trace step labels s t` says that the steps with the labels of the list, in order, lead from `s`
to `t`. What every step keeps, a run keeps; what holds at the start of a run and not at its end is
lost at one of its steps.
-/

namespace RethBsc

inductive Trace {σ ι : Type*} (step : ι → σ → σ → Prop) : List ι → σ → σ → Prop
  | nil (s : σ) : Trace step [] s s
  | cons {i : ι} {is : List ι} {s t u : σ} (head : step i s t) (tail : Trace step is t u) :
      Trace step (i :: is) s u

namespace Trace

variable {σ ι : Type*} {step step' : ι → σ → σ → Prop} {i : ι} {is js : List ι} {s t u : σ}

lemma single (h : step i s t) : Trace step [i] s t := .cons h (.nil t)

lemma append (h : Trace step is s t) (h' : Trace step js t u) : Trace step (is ++ js) s u := by
  induction h with
  | nil s => exact h'
  | cons head _ ih => exact .cons head (ih h')

lemma mono (h : Trace step is s t) (himp : ∀ i s t, step i s t → step' i s t) :
    Trace step' is s t := by
  induction h with
  | nil s => exact .nil s
  | cons head _ ih => exact .cons (himp _ _ _ head) ih

lemma keeps {I : σ → Prop} (hI : ∀ i s t, step i s t → I s → I t) (h : Trace step is s t)
    (hs : I s) : I t := by
  induction h with
  | nil s => exact hs
  | cons head _ ih => exact ih (hI _ _ _ head hs)

lemma with_invariant {I : σ → Prop} (hI : ∀ i s t, step i s t → I s → I t)
    (h : Trace step is s t) (hs : I s) : Trace (fun i s t => I s ∧ step i s t) is s t := by
  induction h with
  | nil s => exact .nil s
  | cons head _ ih => exact .cons ⟨hs, head⟩ (ih (hI _ _ _ head hs))

lemma split (h : Trace step (is ++ i :: js) s t) : ∃ u v, Trace step is s u ∧ step i u v := by
  induction is generalizing s with
  | nil =>
    cases h with
    | cons head _ => exact ⟨s, _, .nil s, head⟩
  | cons j is ih =>
    cases h with
    | cons head tail =>
      obtain ⟨u, v, hrun, hstep⟩ := ih tail
      exact ⟨u, v, .cons head hrun, hstep⟩

lemma of_foldlM {f : σ → ι → Option σ} (h : is.foldlM f s = some t) :
    Trace (fun i s t => f s i = some t) is s t := by
  induction is generalizing s with
  | nil =>
    obtain rfl := Option.some.inj h
    exact .nil s
  | cons i is ih =>
    obtain ⟨u, hstep, hrest⟩ := Option.bind_eq_some_iff.mp h
    exact .cons hstep (ih hrest)

/-- A run that ends outside of `P` after starting inside leaves it at one of its steps. -/
lemma exists_leaves {P : σ → Prop} (h : Trace step is s t) (hs : P s) (ht : ¬ P t) :
    ∃ i u v, i ∈ is ∧ step i u v ∧ P u ∧ ¬ P v := by
  induction h with
  | nil s => exact (ht hs).elim
  | @cons i is s v u head _ ih =>
    by_cases hv : P v
    · obtain ⟨j, u', v', hj, hstep⟩ := ih hv ht
      exact ⟨j, u', v', List.mem_cons_of_mem _ hj, hstep⟩
    · exact ⟨i, s, v, List.mem_cons_self, head, hs, hv⟩

end Trace

end RethBsc
