import Mathlib.Data.List.Induction
import Mathlib.Data.List.Sort

/-!
Queues that give back an element of least priority first, and the lowest elements of a list.

A binary heap promises which priority comes out next, not which of several elements that
share it. `MinHeap` asks for no more than that, so what is proved over it holds for every
order among equals. `IsLowest` is what both a bounded selection and a bounded run of pops
arrive at: some `k` elements none of which lies above one that was left out.
-/

namespace RethBsc

open List

/-! ### The lowest elements of a list -/

section Lowest

variable {α κ : Type*} [LinearOrder κ] {prio : α → κ} {k : ℕ} {items l : List α}

/-- `l` holds `k` elements of `items` of the lowest priorities, or all elements if there are
no more. -/
def IsLowest (prio : α → κ) (k : ℕ) (items l : List α) : Prop :=
  ∃ rest, items.Perm (l ++ rest) ∧ (∀ a ∈ l, ∀ b ∈ rest, prio a ≤ prio b) ∧ l.length ≤ k ∧
    (rest = [] ∨ l.length = k)

lemma IsLowest.subset (h : IsLowest prio k items l) {a : α} (ha : a ∈ l) : a ∈ items := by
  obtain ⟨rest, hperm, -⟩ := h
  exact hperm.mem_iff.mpr (mem_append_left _ ha)

/-- An element is taken if no more than `k` elements lie at or below it. -/
lemma IsLowest.mem (h : IsLowest prio k items l) {a : α} (ha : a ∈ items)
    (hcount : items.countP (fun b => decide (prio b ≤ prio a)) ≤ k) : a ∈ l := by
  obtain ⟨rest, hperm, hle, -, hrest⟩ := h
  rcases mem_append.mp (hperm.mem_iff.mp ha) with hl | hr
  · exact hl
  · -- otherwise the `k` elements taken and `a` itself all lie at or below `a`
    have hlen : l.length = k := by
      rcases hrest with rfl | hlen
      · cases hr
      · exact hlen
    have htaken : l.countP (fun b => decide (prio b ≤ prio a)) = l.length :=
      countP_eq_length.mpr fun b hb => by simpa using hle b hb a hr
    have hleft : 0 < rest.countP (fun b => decide (prio b ≤ prio a)) :=
      countP_pos_iff.mpr ⟨a, hr, by simp⟩
    rw [hperm.countP_eq, countP_append] at hcount
    omega

lemma IsLowest.perm (h : IsLowest prio k items l) (hlen : items.length ≤ k) : items.Perm l := by
  obtain ⟨rest, hperm, -, -, hrest⟩ := h
  have hsum := hperm.length_eq
  rw [length_append] at hsum
  have hnil : rest = [] := by
    rcases hrest with hnil | hk
    · exact hnil
    · exact length_eq_zero_iff.mp (by omega)
  rwa [hnil, append_nil] at hperm

lemma perm_snoc (a : α) {rest : List α} (hperm : items.Perm (l ++ rest)) :
    (items ++ [a]).Perm (a :: (l ++ rest)) :=
  (perm_append_singleton a items).trans (hperm.cons a)

end Lowest

/-! ### Bounded selection -/

section Selection

variable {κ : Type*} [LinearOrder κ]

/-- One step of a selection of the `k` smallest keys, kept in ascending order: a key that
comes in replaces the largest one kept if it is smaller. -/
def selectStep (k : ℕ) (smallest : List κ) (key : κ) : List κ :=
  if smallest.length < k then smallest.orderedInsert (· ≤ ·) key
  else match smallest.getLast? with
    | some worst => if key < worst then smallest.dropLast.orderedInsert (· ≤ ·) key else smallest
    | none => smallest

/-- The `k` smallest keys of a list in ascending order. -/
def selectSmallest (k : ℕ) (keys : List κ) : List κ := keys.foldl (selectStep k) []

section

variable {k : ℕ} {seen smallest : List κ} (key : κ)

lemma IsLowest.insert (h : IsLowest id k seen smallest) (hroom : smallest.length < k) :
    IsLowest id k (seen ++ [key]) (smallest.orderedInsert (· ≤ ·) key) := by
  obtain ⟨rest, hperm, -, -, hrest⟩ := h
  have hnil : rest = [] := by
    rcases hrest with hnil | hk
    · exact hnil
    · omega
  subst hnil
  have hseen := perm_snoc key hperm
  refine ⟨[], ?_, by simp, ?_, Or.inl rfl⟩
  · rw [append_nil] at hseen ⊢
    exact hseen.trans (perm_orderedInsert _ _ _).symm
  · rw [orderedInsert_length]
    omega

lemma IsLowest.replace {init : List κ} {worst : κ} (h : IsLowest id k seen (init ++ [worst]))
    (hworst : ∀ a ∈ init, a ≤ worst) (hkey : key ≤ worst) (hfull : k ≤ init.length + 1) :
    IsLowest id k (seen ++ [key]) (init.orderedInsert (· ≤ ·) key) := by
  obtain ⟨rest, hperm, hle, hlen, -⟩ := h
  rw [length_append, length_singleton] at hlen
  refine ⟨worst :: rest, ?_, ?_, ?_, Or.inr ?_⟩
  · refine (perm_snoc key hperm).trans ?_
    rw [append_assoc, singleton_append, ← cons_append]
    exact (perm_orderedInsert (· ≤ ·) key init).symm.append_right _
  · intro a ha b hb
    have haw : a ≤ worst := by
      rcases mem_cons.mp ((perm_orderedInsert _ _ _).mem_iff.mp ha) with rfl | ha
      · exact hkey
      · exact hworst a ha
    rcases mem_cons.mp hb with rfl | hb
    · exact haw
    · exact haw.trans (hle worst (by simp) b hb)
  · rw [orderedInsert_length]
    exact hlen
  · rw [orderedInsert_length]
    omega

lemma IsLowest.keep (h : IsLowest id k seen smallest) (hkey : ∀ a ∈ smallest, a ≤ key)
    (hfull : k ≤ smallest.length) : IsLowest id k (seen ++ [key]) smallest := by
  obtain ⟨rest, hperm, hle, hlen, -⟩ := h
  refine ⟨key :: rest, (perm_snoc key hperm).trans perm_middle.symm, ?_, hlen, Or.inr (by omega)⟩
  intro a ha b hb
  rcases mem_cons.mp hb with rfl | hb
  · exact hkey a ha
  · exact hle a ha b hb

lemma isLowest_selectStep (hsorted : smallest.Pairwise (· ≤ ·)) (h : IsLowest id k seen smallest) :
    (selectStep k smallest key).Pairwise (· ≤ ·) ∧
      IsLowest id k (seen ++ [key]) (selectStep k smallest key) := by
  unfold selectStep
  split_ifs with hroom
  · exact ⟨hsorted.orderedInsert key smallest, h.insert key hroom⟩
  · rw [not_lt] at hroom
    cases hlast : smallest.getLast? with
    | none =>
      rw [getLast?_eq_none_iff] at hlast
      subst hlast
      exact ⟨hsorted, h.keep key (by simp) hroom⟩
    | some worst =>
      obtain ⟨init, rfl⟩ := getLast?_eq_some_iff.mp hlast
      obtain ⟨hsinit, -, hlt⟩ := pairwise_append.mp hsorted
      have hworst : ∀ a ∈ init, a ≤ worst := fun a ha => hlt a ha worst (by simp)
      simp only
      split_ifs with hkey
      · rw [dropLast_concat]
        rw [length_append, length_singleton] at hroom
        exact ⟨hsinit.orderedInsert key init, h.replace key hworst hkey.le hroom⟩
      · refine ⟨hsorted, h.keep key (fun a ha => ?_) hroom⟩
        rw [not_lt] at hkey
        rcases mem_append.mp ha with ha | ha
        · exact (hworst a ha).trans hkey
        · exact (mem_singleton.mp ha).trans_le hkey

end

/-- **The selection keeps the `k` smallest keys.** -/
theorem selectSmallest_isLowest (k : ℕ) (keys : List κ) :
    (selectSmallest k keys).Pairwise (· ≤ ·) ∧ IsLowest id k keys (selectSmallest k keys) := by
  induction keys using reverseRecOn with
  | nil => exact ⟨List.Pairwise.nil, [], by simp [selectSmallest]⟩
  | append_singleton keys key ih =>
    rw [selectSmallest, foldl_append]
    exact isLowest_selectStep key ih.1 ih.2

end Selection

/-! ### Heaps -/

/-- A queue that gives back an element of least priority first. Its contents are known up to
their order, and so is the choice among elements of one priority. -/
structure MinHeap (α : Type) (prio : α → ℕ) where
  Carrier : Type
  toList : Carrier → List α
  empty : Carrier
  push : α → Carrier → Carrier
  pop : Carrier → Option (α × Carrier)
  toList_empty : toList empty = []
  toList_push : ∀ a q, (toList (push a q)).Perm (a :: toList q)
  pop_eq_none : ∀ q, pop q = none → toList q = []
  pop_eq_some : ∀ q a q', pop q = some (a, q') →
    (toList q).Perm (a :: toList q') ∧ ∀ b ∈ toList q, prio a ≤ prio b

namespace MinHeap

variable {α σ : Type} {prio : α → ℕ} (H : MinHeap α prio)

def pushAll (l : List α) (q : H.Carrier) : H.Carrier := l.foldl (fun q a => H.push a q) q

/-- Pops at most `k` elements while they satisfy `p`, and hands each of them to `step`. -/
def popWhile (p : α → Bool) (step : σ → α → σ) : ℕ → H.Carrier → σ → H.Carrier × σ
  | 0, q, s => (q, s)
  | k + 1, q, s =>
    match H.pop q with
    | none => (q, s)
    | some (a, rest) => if p a then popWhile p step k rest (step s a) else (q, s)

/-- The elements such a run takes, in turn. -/
def pops (p : α → Bool) : ℕ → H.Carrier → List α
  | 0, _ => []
  | k + 1, q =>
    match H.pop q with
    | none => []
    | some (a, rest) => if p a then a :: pops p k rest else []

lemma toList_pushAll (l : List α) (q : H.Carrier) :
    (H.toList (H.pushAll l q)).Perm (l ++ H.toList q) := by
  induction l generalizing q with
  | nil => exact List.Perm.refl _
  | cons a l ih =>
    calc List.Perm (H.toList (H.pushAll l (H.push a q))) (l ++ H.toList (H.push a q)) := ih _
      List.Perm _ (l ++ a :: H.toList q) := (H.toList_push a q).append_left l
      List.Perm _ (a :: (l ++ H.toList q)) := perm_middle

/-- **What a bounded run of pops takes**: the lowest of the elements that satisfy `p`, if
`p` holds below whatever it holds of. -/
theorem popWhile_spec {p : α → Bool} (hp : ∀ a b, prio a ≤ prio b → p b → p a)
    (step : σ → α → σ) (k : ℕ) (q : H.Carrier) (s : σ) :
    (H.toList q).Perm (H.pops p k q ++ H.toList (H.popWhile p step k q s).1) ∧
      (H.popWhile p step k q s).2 = (H.pops p k q).foldl step s ∧
      IsLowest prio k ((H.toList q).filter p) (H.pops p k q) := by
  induction k generalizing q s with
  | zero =>
    exact ⟨List.Perm.refl _, rfl, (H.toList q).filter p, List.Perm.refl _, by simp [pops]⟩
  | succ k ih =>
    unfold popWhile pops
    cases hpop : H.pop q with
    | none => exact ⟨List.Perm.refl _, rfl, [], by simp [H.pop_eq_none q hpop], by simp⟩
    | some r =>
      obtain ⟨a, rest⟩ := r
      obtain ⟨hperm, hmin⟩ := H.pop_eq_some q a rest hpop
      simp only
      split_ifs with ha
      · obtain ⟨hl, hfold, left, hleft, hle, hlen, hfull⟩ := ih rest (step s a)
        have hall : ((H.toList q).filter p).Perm (a :: H.pops p k rest ++ left) := by
          refine (hperm.filter p).trans ?_
          rw [filter_cons_of_pos ha]
          exact hleft.cons a
        refine ⟨hperm.trans (hl.cons a), hfold, left, hall, ?_, ?_, ?_⟩
        · intro x hx b hb
          rcases mem_cons.mp hx with rfl | hx
          · have hmem : b ∈ (H.toList q).filter p := hall.mem_iff.mpr (by simp [hb])
            exact hmin b (mem_of_mem_filter hmem)
          · exact hle x hx b hb
        · simpa using hlen
        · simpa using hfull
      · -- the lowest element fails, so every element does
        have hnone : (H.toList q).filter p = [] := by
          rw [filter_eq_nil_iff]
          exact fun b hb hpb => ha (hp a b (hmin b hb) hpb)
        exact ⟨List.Perm.refl _, rfl, [], by simp [hnone], by simp⟩

/-- With enough rounds a run of pops takes exactly the elements that satisfy `p`. -/
lemma popWhile_length {p : α → Bool} (hp : ∀ a b, prio a ≤ prio b → p b → p a)
    (step : σ → α → σ) (q : H.Carrier) (s : σ) :
    ∃ l, (H.toList q).Perm (l ++ H.toList (H.popWhile p step (H.toList q).length q s).1) ∧
      (H.popWhile p step (H.toList q).length q s).2 = l.foldl step s ∧
      (∀ a ∈ l, p a) ∧
      ∀ a ∈ H.toList (H.popWhile p step (H.toList q).length q s).1, p a = false := by
  obtain ⟨hperm, hfold, hlow⟩ := H.popWhile_spec hp step (H.toList q).length q s
  generalize H.pops p (H.toList q).length q = l at hperm hfold hlow
  have hall : ∀ a ∈ l, p a = true := fun a ha => (mem_filter.mp (hlow.subset ha)).2
  refine ⟨l, hperm, hfold, hall, fun a ha => ?_⟩
  -- the elements that satisfy `p` are as many as were taken
  have htaken := hlow.perm (length_filter_le p _)
  have hfilter := (hperm.filter p).length_eq
  rw [filter_append, length_append, htaken.length_eq, filter_eq_self.mpr hall] at hfilter
  have hnil : (H.toList (H.popWhile p step (H.toList q).length q s).1).filter p = [] :=
    length_eq_zero_iff.mp (by omega)
  simpa using filter_eq_nil_iff.mp hnil a ha

lemma pairwise_orderedInsert {l : List α} (a : α) (h : l.Pairwise fun x y => prio x ≤ prio y) :
    (l.orderedInsert (fun x y => prio x ≤ prio y) a).Pairwise fun x y => prio x ≤ prio y := by
  have : Std.Total fun x y : α => prio x ≤ prio y := ⟨fun _ _ => le_total _ _⟩
  have : IsTrans α fun x y => prio x ≤ prio y := ⟨fun _ _ _ => le_trans⟩
  exact h.orderedInsert a l

/-- The heap that keeps its elements in ascending order. -/
def sortedList (prio : α → ℕ) : MinHeap α prio where
  Carrier := {l : List α // l.Pairwise fun a b => prio a ≤ prio b}
  toList q := q.1
  empty := ⟨[], List.Pairwise.nil⟩
  push a q := ⟨q.1.orderedInsert (fun x y => prio x ≤ prio y) a, pairwise_orderedInsert a q.2⟩
  pop q := match q with
    | ⟨[], _⟩ => none
    | ⟨a :: l, h⟩ => some (a, ⟨l, (List.pairwise_cons.mp h).2⟩)
  toList_empty := rfl
  toList_push a q := List.perm_orderedInsert _ a q.1
  pop_eq_none q h := by
    obtain ⟨_ | ⟨a, l⟩, hl⟩ := q
    · rfl
    · cases h
  pop_eq_some q a q' h := by
    obtain ⟨_ | ⟨b, l⟩, hl⟩ := q
    · cases h
    · cases h
      refine ⟨List.Perm.refl _, fun c hc => ?_⟩
      rcases List.mem_cons.mp hc with rfl | hc
      · exact le_refl _
      · exact (List.pairwise_cons.mp hl).1 c hc

end MinHeap

end RethBsc
