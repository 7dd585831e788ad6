import Mathlib.Logic.Equiv.Basic
import Mathlib.Order.WithBot
import RethBsc.MinHeap

/-!
Binary heaps in a list, with the sifting of the Rust standard library.

Position `i` has its children at `2 * i + 1` and `2 * i + 2`. A push sifts its element up. A
pop puts the last element at the root, moves it down to a leaf without looking at it, the
right child being preferred among equals, and sifts it up from there. What comes out among
elements of one priority is thus determined, unlike for a `MinHeap` in general.

The order is stated for the priorities by position, with `⊤` past the end of the list, so
that it needs no bounds.
-/

namespace RethBsc

open List Equiv

namespace BinaryHeap

/-! ### Orders by position -/

def parent (i : ℕ) : ℕ := (i - 1) / 2

lemma parent_lt {i : ℕ} (hi : i ≠ 0) : parent i < i := by unfold parent; omega

lemma parent_le (i : ℕ) : parent i ≤ i := by unfold parent; omega

lemma eq_child_of_parent_eq {i j : ℕ} (hij : parent i = j) (hi : i ≠ 0) :
    i = 2 * j + 1 ∨ i = 2 * j + 2 := by
  unfold parent at hij
  omega

section Swap

variable {κ : Type*} {f : ℕ → κ}

lemma comp_swap_of_ne {i j k : ℕ} (hi : k ≠ i) (hj : k ≠ j) : (f ∘ swap i j) k = f k := by
  rw [Function.comp_apply, swap_apply_of_ne_of_ne hi hj]

@[simp] lemma comp_swap_left (i j : ℕ) : (f ∘ swap i j) i = f j := by
  rw [Function.comp_apply, swap_apply_left]

@[simp] lemma comp_swap_right (i j : ℕ) : (f ∘ swap i j) j = f i := by
  rw [Function.comp_apply, swap_apply_right]

end Swap

section Order

variable {κ : Type*} [LinearOrder κ] {f : ℕ → κ} {pos child : ℕ}

def Ordered (f : ℕ → κ) : Prop := ∀ i, f (parent i) ≤ f i

/-- In order, except that what is at `pos` may belong further up. -/
structure OrderedUpTo (f : ℕ → κ) (pos : ℕ) : Prop where
  edge : ∀ i, i ≠ pos → f (parent i) ≤ f i
  bridge : ∀ i, parent i = pos → f (parent pos) ≤ f i

/-- In order, whatever is at `pos`. -/
structure OrderedAround (f : ℕ → κ) (pos : ℕ) : Prop where
  edge : ∀ i, i ≠ pos → parent i ≠ pos → f (parent i) ≤ f i
  bridge : pos ≠ 0 → ∀ i, parent i = pos → f (parent pos) ≤ f i

lemma Ordered.root_le (h : Ordered f) (i : ℕ) : f 0 ≤ f i := by
  induction i using Nat.strongRecOn with
  | ind i ih =>
    by_cases hi : i = 0
    · rw [hi]
    · exact (ih (parent i) (parent_lt hi)).trans (h i)

lemma OrderedUpTo.ordered (h : OrderedUpTo f pos) (hle : f (parent pos) ≤ f pos) : Ordered f := by
  intro i
  by_cases hi : i = pos
  · rw [hi]
    exact hle
  · exact h.edge i hi

lemma OrderedUpTo.ordered_of_eq_zero (h : OrderedUpTo f pos) (hpos : pos = 0) : Ordered f :=
  h.ordered (by rw [hpos]; exact le_refl _)

lemma OrderedUpTo.swap_parent (h : OrderedUpTo f pos) (hpos : pos ≠ 0)
    (hlt : f pos ≤ f (parent pos)) :
    OrderedUpTo (f ∘ swap pos (parent pos)) (parent pos) := by
  have hup : parent pos ≠ pos := (parent_lt hpos).ne
  -- what hangs below the parent lies above its old element, hence above its new one
  have hbelow : ∀ i, i ≠ pos → i ≠ parent pos → parent i = parent pos →
      f (parent pos) ≤ (f ∘ swap pos (parent pos)) i := by
    intro i hi hi' hpar
    rw [comp_swap_of_ne hi hi', ← hpar]
    exact h.edge i hi
  constructor
  · intro i hi
    by_cases hip : i = pos
    · rw [hip, comp_swap_left, comp_swap_right]
      exact hlt
    by_cases hpar : parent i = pos
    · rw [hpar, comp_swap_left, comp_swap_of_ne hip hi]
      exact h.bridge i hpar
    by_cases hsib : parent i = parent pos
    · rw [hsib, comp_swap_right]
      exact hlt.trans (hbelow i hip hi hsib)
    · rw [comp_swap_of_ne hpar hsib, comp_swap_of_ne hip hi]
      exact h.edge i hip
  · intro i hpar
    by_cases hroot : parent pos = 0
    · rw [hroot, show parent 0 = 0 from rfl, ← hroot, comp_swap_right]
      by_cases hip : i = pos
      · rw [hip, comp_swap_left]
        exact hlt
      by_cases hi : i = parent pos
      · rw [hi, comp_swap_right]
      · exact hlt.trans (hbelow i hip hi hpar)
    · have hlt' := parent_lt hroot
      rw [comp_swap_of_ne (by have := parent_lt hpos; omega) hlt'.ne]
      have hold := h.edge (parent pos) hup
      by_cases hip : i = pos
      · rw [hip, comp_swap_left]
        exact hold
      · have hi : i ≠ parent pos := by
          rintro rfl
          omega
        exact hold.trans (hbelow i hip hi hpar)

lemma OrderedAround.swap_child (h : OrderedAround f pos) (hchild : parent child = pos)
    (hne : child ≠ 0) (hmin : ∀ i, parent i = pos → i ≠ 0 → f child ≤ f i) :
    OrderedAround (f ∘ swap pos child) child := by
  have hpc : pos ≠ child := by
    rw [← hchild]
    exact (parent_lt hne).ne
  constructor
  · intro i hi hpi
    by_cases hip : i = pos
    · subst hip
      by_cases hroot : i = 0
      · rw [hroot]
        exact le_refl _
      · rw [comp_swap_left, comp_swap_of_ne (parent_lt hroot).ne hpi]
        exact h.bridge hroot child hchild
    by_cases hpar : parent i = pos
    · have hi0 : i ≠ 0 := by
        rintro rfl
        exact hip hpar
      rw [hpar, comp_swap_left, comp_swap_of_ne hip hi]
      exact hmin i hpar hi0
    · rw [comp_swap_of_ne hpar hpi, comp_swap_of_ne hip hi]
      exact h.edge i hip hpar
  · intro _ i hpi
    have hi0 : i ≠ 0 := by
      rintro rfl
      exact hne hpi.symm
    have hlt := parent_lt hi0
    have hlt' := parent_lt hne
    rw [hchild, comp_swap_left, comp_swap_of_ne (by omega) (by omega), ← hpi]
    exact h.edge i (by omega) (by omega)

lemma OrderedAround.upTo [OrderTop κ] (h : OrderedAround f pos)
    (hleaf : ∀ i, parent i = pos → i ≠ 0 → f i = ⊤) : OrderedUpTo f pos := by
  constructor
  · intro i hi
    by_cases hpar : parent i = pos
    · have hi0 : i ≠ 0 := by
        rintro rfl
        exact hi hpar
      rw [hleaf i hpar hi0]
      exact le_top
    · exact h.edge i hi hpar
  · intro i hpar
    by_cases hi0 : i = 0
    · subst hi0
      rw [← hpar]
      exact le_refl _
    · rw [hleaf i hpar hi0]
      exact le_top

end Order

/-! ### Sifting -/

variable {α : Type} (prio : α → ℕ)

/-- The priority at a position. -/
def key (l : List α) (i : ℕ) : WithTop ℕ := (l[i]?).elim ⊤ fun a => WithTop.some (prio a)

def swapAt (l : List α) (i j : ℕ) : List α :=
  match l[i]?, l[j]? with
  | some a, some b => (l.set i b).set j a
  | _, _ => l

/-- Moves the element at `pos` up while its parent has a greater priority. -/
def siftUp : ℕ → List α → ℕ → List α
  | 0, l, _ => l
  | rounds + 1, l, pos =>
    if pos = 0 then l
    else if key prio l (parent pos) ≤ key prio l pos then l
    else siftUp rounds (swapAt l pos (parent pos)) (parent pos)

/-- Moves the element at `pos` down to a leaf, and returns where it ends. -/
def siftDownToBottom : ℕ → List α → ℕ → List α × ℕ
  | 0, l, pos => (l, pos)
  | rounds + 1, l, pos =>
    let child := 2 * pos + 1
    if child + 1 < l.length then
      let child := if key prio l (child + 1) ≤ key prio l child then child + 1 else child
      siftDownToBottom rounds (swapAt l pos child) child
    else if child + 1 = l.length then (swapAt l pos child, child)
    else (l, pos)

def push (a : α) (l : List α) : List α := siftUp prio l.length (l ++ [a]) l.length

def pop (l : List α) : Option (α × List α) :=
  match l.getLast?, l.dropLast with
  | none, _ => none
  | some item, [] => some (item, [])
  | some item, top :: others =>
    let (l, pos) := siftDownToBottom prio (item :: others).length (item :: others) 0
    some (top, siftUp prio pos l pos)

variable {prio} {l : List α} {i j pos rounds : ℕ}

lemma swapAt_perm (l : List α) (i j : ℕ) : (swapAt l i j).Perm l := by
  unfold swapAt
  split
  · next a b ha hb =>
    obtain ⟨hi, rfl⟩ := List.getElem?_eq_some_iff.mp ha
    obtain ⟨hj, rfl⟩ := List.getElem?_eq_some_iff.mp hb
    exact set_set_perm hi hj
  · exact List.Perm.refl _

@[simp] lemma length_swapAt (l : List α) (i j : ℕ) : (swapAt l i j).length = l.length :=
  (swapAt_perm l i j).length_eq

lemma key_eq_top (hi : l.length ≤ i) : key prio l i = ⊤ := by
  rw [key, getElem?_eq_none hi, Option.elim_none]

lemma key_swapAt (prio : α → ℕ) (hi : i < l.length) (hj : j < l.length) :
    key prio (swapAt l i j) = key prio l ∘ swap i j := by
  have hswap : swapAt l i j = (l.set i l[j]).set j l[i] := by
    simp [swapAt, getElem?_eq_getElem hi, getElem?_eq_getElem hj]
  funext k
  rw [hswap, Function.comp_apply, key, key]
  by_cases hkj : k = j
  · subst hkj
    simp [getElem?_eq_getElem hi, hj]
  by_cases hki : k = i
  · subst hki
    simp [getElem?_eq_getElem hj, hi, Ne.symm hkj]
  · rw [swap_apply_of_ne_of_ne hki hkj, getElem?_set_ne (Ne.symm hkj),
      getElem?_set_ne (Ne.symm hki)]

lemma siftUp_perm (prio : α → ℕ) (rounds : ℕ) (l : List α) (pos : ℕ) :
    (siftUp prio rounds l pos).Perm l := by
  induction rounds generalizing l pos with
  | zero => exact List.Perm.refl _
  | succ rounds ih =>
    unfold siftUp
    split_ifs
    · exact List.Perm.refl _
    · exact List.Perm.refl _
    · exact (ih _ _).trans (swapAt_perm _ _ _)

lemma ordered_siftUp (h : OrderedUpTo (key prio l) pos) (hpos : pos < l.length)
    (hrounds : pos ≤ rounds) : Ordered (key prio (siftUp prio rounds l pos)) := by
  induction rounds generalizing l pos with
  | zero => exact h.ordered_of_eq_zero (by omega)
  | succ rounds ih =>
    unfold siftUp
    split_ifs with hzero hle
    · exact h.ordered_of_eq_zero hzero
    · exact h.ordered hle
    · have hlt := parent_lt hzero
      refine ih ?_ (by rw [length_swapAt]; omega) (by omega)
      rw [key_swapAt prio hpos (by omega)]
      exact h.swap_parent hzero (not_le.mp hle).le

lemma siftDownToBottom_perm (prio : α → ℕ) (rounds : ℕ) (l : List α) (pos : ℕ) :
    (siftDownToBottom prio rounds l pos).1.Perm l := by
  induction rounds generalizing l pos with
  | zero => exact List.Perm.refl _
  | succ rounds ih =>
    unfold siftDownToBottom
    simp only
    split_ifs
    · exact (ih _ _).trans (swapAt_perm _ _ _)
    · exact (ih _ _).trans (swapAt_perm _ _ _)
    · exact swapAt_perm _ _ _
    · exact List.Perm.refl _

lemma orderedAround_swapAt {child : ℕ} (h : OrderedAround (key prio l) pos) (hpos : pos < l.length)
    (hchild : parent child = pos) (hne : child ≠ 0) (hlt : child < l.length)
    (hleft : key prio l child ≤ key prio l (2 * pos + 1))
    (hright : key prio l child ≤ key prio l (2 * pos + 2)) :
    OrderedAround (key prio (swapAt l pos child)) child := by
  rw [key_swapAt prio hpos hlt]
  refine h.swap_child hchild hne fun i hpar hi => ?_
  rcases eq_child_of_parent_eq hpar hi with rfl | rfl
  · exact hleft
  · exact hright

lemma orderedUpTo_siftDownToBottom (h : OrderedAround (key prio l) pos) (hpos : pos < l.length)
    (hrounds : l.length ≤ pos + rounds) :
    OrderedUpTo (key prio (siftDownToBottom prio rounds l pos).1)
        (siftDownToBottom prio rounds l pos).2 ∧
      (siftDownToBottom prio rounds l pos).2 < l.length := by
  induction rounds generalizing l pos with
  | zero => omega
  | succ rounds ih =>
    have hleft : parent (2 * pos + 1) = pos := by unfold parent; omega
    have hright : parent (2 * pos + 2) = pos := by unfold parent; omega
    unfold siftDownToBottom
    simp only
    split_ifs with hboth hle hone
    · have hstep := orderedAround_swapAt h hpos hright (by omega) (by omega) hle (le_refl _)
      simpa only [length_swapAt] using ih hstep (by simp; omega) (by simp; omega)
    · have hstep := orderedAround_swapAt h hpos hleft (by omega) (by omega) (le_refl _)
        (not_le.mp hle).le
      simpa only [length_swapAt] using ih hstep (by simp; omega) (by simp; omega)
    · have htop : key prio l (2 * pos + 2) = ⊤ := key_eq_top (by omega)
      have hstep := orderedAround_swapAt h hpos hleft (by omega) (by omega) (le_refl _)
        (by rw [htop]; exact le_top)
      refine ⟨hstep.upTo fun i hpar hi => key_eq_top ?_, by omega⟩
      have := eq_child_of_parent_eq hpar hi
      rw [length_swapAt]
      omega
    · refine ⟨h.upTo fun i hpar hi => key_eq_top ?_, hpos⟩
      have := eq_child_of_parent_eq hpar hi
      omega

/-! ### Pushing and popping -/

lemma push_perm (prio : α → ℕ) (a : α) (l : List α) : (push prio a l).Perm (a :: l) :=
  (siftUp_perm _ _ _ _).trans (perm_append_singleton _ _)

lemma ordered_push (h : Ordered (key prio l)) (a : α) : Ordered (key prio (push prio a l)) := by
  refine ordered_siftUp ⟨fun i hi => ?_, fun i hpar => ?_⟩ (by simp) (le_refl _)
  · by_cases hlt : i < l.length
    · have hold := h i
      have hpar := parent_le i
      simpa only [key, getElem?_append_left hlt,
        getElem?_append_left (hpar.trans_lt hlt)] using hold
    · rw [key_eq_top (i := i) (by rw [length_append, length_singleton]; omega)]
      exact le_top
  · by_cases hi : i = 0
    · subst hi
      rw [← hpar]
      exact le_refl _
    · have := parent_lt hi
      rw [key_eq_top (i := i) (by rw [length_append, length_singleton]; omega)]
      exact le_top

lemma pop_spec (h : Ordered (key prio l)) {a : α} {rest : List α}
    (hpop : pop prio l = some (a, rest)) :
    l.Perm (a :: rest) ∧ Ordered (key prio rest) ∧ l.head? = some a := by
  rcases eq_nil_or_concat' l with rfl | ⟨init, item, rfl⟩
  · cases hpop
  simp only [pop, getLast?_concat, dropLast_concat] at hpop
  cases init with
  | nil =>
    obtain ⟨rfl, rfl⟩ := Prod.mk.inj (Option.some.inj hpop)
    refine ⟨List.Perm.refl _, fun i => ?_, rfl⟩
    rw [key_eq_top (i := i) (by simp)]
    exact le_top
  | cons top others =>
    obtain ⟨rfl, rfl⟩ := Prod.mk.inj (Option.some.inj hpop)
    refine ⟨?_, ?_, rfl⟩
    · have hperm := (siftUp_perm prio
        (siftDownToBottom prio (item :: others).length (item :: others) 0).2 _
        (siftDownToBottom prio (item :: others).length (item :: others) 0).2).trans
        (siftDownToBottom_perm prio (item :: others).length (item :: others) 0)
      refine List.Perm.trans ?_ (hperm.symm.cons top)
      exact (perm_append_singleton item others).cons top
    · -- away from the root the list is the old one without its last element
      have hkey : ∀ i, i ≠ 0 → i < (item :: others).length →
          key prio (item :: others) i = key prio ((top :: others) ++ [item]) i := by
        intro i hi hlt
        obtain ⟨k, rfl⟩ := Nat.exists_eq_succ_of_ne_zero hi
        rw [length_cons] at hlt
        simp only [key, Nat.succ_eq_add_one, cons_append, getElem?_cons_succ]
        rw [getElem?_append_left (by omega)]
      have haround : OrderedAround (key prio (item :: others)) 0 := by
        refine ⟨fun i hi hpar => ?_, fun hne => absurd rfl hne⟩
        by_cases hlt : i < (item :: others).length
        · rw [hkey i hi hlt, hkey _ hpar ((parent_le i).trans_lt hlt)]
          exact h i
        · rw [key_eq_top (i := i) (by omega)]
          exact le_top
      have hlen := (siftDownToBottom_perm prio (item :: others).length (item :: others) 0).length_eq
      obtain ⟨hup, hlt⟩ := orderedUpTo_siftDownToBottom haround (by simp)
        (le_of_eq (Nat.zero_add (item :: others).length).symm)
      exact ordered_siftUp hup (hlt.trans_eq hlen.symm) (le_refl _)

lemma prio_le_of_head (h : Ordered (key prio l)) {a b : α} (ha : l.head? = some a) (hb : b ∈ l) :
    prio a ≤ prio b := by
  obtain ⟨i, hi⟩ := mem_iff_getElem?.mp hb
  have hle := h.root_le i
  rw [List.head?_eq_getElem?] at ha
  rw [key, key, ha, hi] at hle
  exact WithTop.coe_le_coe.mp hle

lemma pop_eq_none (hpop : pop prio l = none) : l = [] := by
  rcases eq_nil_or_concat' l with rfl | ⟨init, item, rfl⟩
  · rfl
  · simp only [pop, getLast?_concat, dropLast_concat] at hpop
    cases init <;> cases hpop

def minHeap (prio : α → ℕ) : MinHeap α prio where
  Carrier := {l : List α // Ordered (key prio l)}
  toList q := q.1
  empty := ⟨[], fun _ => le_refl _⟩
  push a q := ⟨push prio a q.1, ordered_push q.2 a⟩
  pop q := match h : pop prio q.1 with
    | none => none
    | some (a, rest) => some (a, ⟨rest, (pop_spec q.2 h).2.1⟩)
  toList_empty := rfl
  toList_push a q := push_perm prio a q.1
  pop_eq_none q hpop := by
    split at hpop
    · next hnone => exact pop_eq_none hnone
    · cases hpop
  pop_eq_some q a q' hpop := by
    split at hpop
    · cases hpop
    · next b rest hsome =>
      cases hpop
      obtain ⟨hperm, -, hhead⟩ := pop_spec q.2 hsome
      exact ⟨hperm, fun b hb => prio_le_of_head q.2 hhead hb⟩

end BinaryHeap

end RethBsc
