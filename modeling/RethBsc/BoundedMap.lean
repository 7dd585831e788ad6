import Mathlib.Data.List.DropRight
import Mathlib.Data.List.Nodup
import RethBsc.OrdMap

/-!
Maps of bounded size.

A `FifoMap` queues its keys in the order they arrive; beyond its capacity the head of the
queue goes. `Holds` says which entries a map stands for, in order of arrival. A map that is
fed fresh keys only stands for the last `capacity` entries it was fed.

An `LruMap` forgets the key that has not been used for longest. Whatever it forgets, `All`
says that the entries it keeps satisfy a predicate. `Holds` says which keys were used after a
given one: the map forgets a key only when as many others were used since as it has room for.
-/

namespace RethBsc

open List Prod

/-! ### The last entries of a list -/

section Recent

variable {α : Type*}

/-- Appends to a buffer of at most `n` elements, dropping the oldest. -/
def pushBounded (n : ℕ) (buf : List α) (a : α) : List α :=
  if (buf ++ [a]).length > n then (buf ++ [a]).tail else buf ++ [a]

lemma pushBounded_rtake (n : ℕ) (l : List α) (a : α) :
    pushBounded n (l.rtake n) a = (l ++ [a]).rtake n := by
  unfold pushBounded rtake
  by_cases h : n ≤ l.length
  · have hlen : (l.drop (l.length - n) ++ [a]).length > n := by
      simp only [length_append, length_drop, length_singleton]
      omega
    have hdrop : l.drop (l.length - n) ++ [a] = (l ++ [a]).drop (l.length - n) := by
      rw [drop_append_of_le_length (by omega)]
    rw [if_pos hlen, hdrop, tail_drop, length_append, length_singleton]
    congr 1
    omega
  · have hlen : ¬(l.drop (l.length - n) ++ [a]).length > n := by
      simp only [length_append, length_drop, length_singleton]
      omega
    have h0 : l.length - n = 0 := by omega
    have h1 : (l ++ [a]).length - n = 0 := by
      rw [length_append, length_singleton]
      omega
    rw [if_neg hlen, h0, h1, drop_zero, drop_zero]

lemma foldl_pushBounded (n : ℕ) (l : List α) : l.foldl (pushBounded n) [] = l.rtake n := by
  induction l using reverseRecOn with
  | nil => simp [rtake]
  | append_singleton l a ih =>
    rw [foldl_append, foldl_cons, foldl_nil, ih, pushBounded_rtake]

lemma mem_rtake_of_getElem? {l : List α} {n i : ℕ} {a : α} (ha : l[i]? = some a)
    (hi : l.length ≤ i + n) : a ∈ l.rtake n := by
  have hsplit : i = (l.length - n) + (i - (l.length - n)) := by omega
  rw [rtake]
  refine mem_of_getElem? (i := i - (l.length - n)) ?_
  rw [getElem?_drop, ← hsplit]
  exact ha

/-- Elements at most `n` apart are related, the earlier to the later. -/
def PairwiseWithin (n : ℕ) (R : α → α → Prop) (l : List α) : Prop :=
  ∀ i j a b, i < j → j ≤ i + n → l[i]? = some a → l[j]? = some b → R a b

lemma PairwiseWithin.concat {n : ℕ} {R : α → α → Prop} {l : List α} {x : α}
    (h : PairwiseWithin n R l) (hx : ∀ a ∈ l.rtake n, R a x) : PairwiseWithin n R (l ++ [x]) := by
  intro i j a b hij hjn ha hb
  have hj := (List.getElem?_eq_some_iff.mp hb).1
  rw [length_append, length_singleton] at hj
  rw [getElem?_append_left (by omega)] at ha
  by_cases hlast : j = l.length
  · have hbx : b = x := by
      rw [hlast, getElem?_concat_length] at hb
      exact (Option.some.inj hb).symm
    rw [hbx]
    exact hx a (mem_rtake_of_getElem? ha (by omega))
  · rw [getElem?_append_left (by omega)] at hb
    exact h i j a b hij hjn ha hb

end Recent

/-! ### Bounded maps -/

structure FifoMap (K V : Type*) [LinearOrder K] where
  capacity : ℕ
  order : List K
  map : OrdMap K V

namespace FifoMap

variable {K V : Type*} [LinearOrder K]

def new (capacity : ℕ) : FifoMap K V := ⟨capacity, [], OrdMap.empty⟩

/-- Beyond capacity the oldest key of the queue and its entry go. -/
def evict (m : FifoMap K V) : FifoMap K V :=
  if m.order.length > m.capacity then
    match m.order with
    | old :: order => { m with order := order, map := m.map.remove old }
    | [] => m
  else m

/-- A new key joins the queue; a known one keeps its place. -/
def add (m : FifoMap K V) (k : K) (v : V) : FifoMap K V :=
  let m' := if m.map.contains k then m else evict { m with order := m.order ++ [k] }
  { m' with map := m'.map.insert k v }

def contains (m : FifoMap K V) (k : K) : Bool := m.map.contains k

def get (m : FifoMap K V) (k : K) : Option V := m.map.get k

/-- Feeds a list of entries to the map. -/
def addAll (m : FifoMap K V) (l : List (K × V)) : FifoMap K V :=
  l.foldl (fun m e => m.add e.1 e.2) m

/-- The map stands for these entries, the oldest first. -/
structure Holds (m : FifoMap K V) (l : List (K × V)) : Prop where
  order : m.order = l.map Prod.fst
  nodup : (l.map Prod.fst).Nodup
  bound : l.length ≤ m.capacity
  get : ∀ k v, m.get k = some v ↔ (k, v) ∈ l

variable {m : FifoMap K V} {l : List (K × V)} {k : K} {v : V}

lemma holds_new (capacity : ℕ) : (new capacity : FifoMap K V).Holds [] where
  order := rfl
  nodup := nodup_nil
  bound := Nat.zero_le _
  get k v := by simp [new, FifoMap.get]

lemma Holds.contains_iff (h : m.Holds l) : m.contains k ↔ k ∈ l.map fst := by
  rw [contains, OrdMap.contains_iff, mem_map]
  constructor
  · rintro ⟨v, hv⟩
    exact ⟨(k, v), (h.get k v).mp hv, rfl⟩
  · rintro ⟨e, he, rfl⟩
    exact ⟨e.2, (h.get e.1 e.2).mpr he⟩

@[simp] lemma add_capacity (m : FifoMap K V) (k : K) (v : V) :
    (m.add k v).capacity = m.capacity := by
  unfold add evict
  simp only
  split_ifs
  · rfl
  · split <;> rfl
  · rfl

lemma get_insert_iff_mem {map : OrdMap K V} (hfresh : k ∉ l.map fst)
    (hget : ∀ k' v', k ≠ k' → (map.get k' = some v' ↔ (k', v') ∈ l)) (v : V) (k' : K) (v' : V) :
    (map.insert k v).get k' = some v' ↔ (k', v') ∈ l ++ [(k, v)] := by
  rw [OrdMap.get_insert, mem_append, mem_singleton, Prod.mk.injEq]
  by_cases hkk : k = k'
  · subst hkk
    have hnot : (k, v') ∉ l := fun hmem => hfresh (mem_map.mpr ⟨_, hmem, rfl⟩)
    simp [hnot, eq_comm]
  · rw [if_neg hkk, hget k' v' hkk]
    simp [Ne.symm hkk]

lemma Holds.add_room (h : m.Holds l) (hroom : l.length < m.capacity)
    (hk : m.map.contains k = false) (hfresh : k ∉ l.map fst)
    (hnodup : ((l ++ [(k, v)]).map fst).Nodup) : (m.add k v).Holds (l ++ [(k, v)]) := by
  have hadd : m.add k v = { m with order := m.order ++ [k], map := m.map.insert k v } := by
    have hno : ¬(m.order ++ [k]).length > m.capacity := by
      rw [h.order, length_append, length_map, length_singleton]
      omega
    simp only [FifoMap.add, hk, Bool.false_eq_true, if_false, evict, if_neg hno]
  rw [hadd]
  refine ⟨?_, hnodup, ?_, get_insert_iff_mem hfresh (fun k' v' _ => h.get k' v') v⟩
  · simp [h.order]
  · rw [length_append, length_singleton]
    exact hroom

lemma Holds.add_full {e : K × V} (h : m.Holds (e :: l)) (hfull : m.capacity ≤ l.length + 1)
    (hk : m.map.contains k = false) (hfresh : k ∉ l.map fst)
    (hnodup : ((e :: l ++ [(k, v)]).map fst).Nodup) :
    (m.add k v).Holds (l ++ [(k, v)]) := by
  have hbound := h.bound
  rw [length_cons] at hbound
  have horder : m.order = e.1 :: l.map fst := h.order
  have hadd : m.add k v = { m with order := l.map fst ++ [k],
                                   map := (m.map.remove e.1).insert k v } := by
    have hover : (e.1 :: (l.map fst ++ [k])).length > m.capacity := by
      rw [length_cons, length_append, length_map, length_singleton]
      omega
    simp only [FifoMap.add, hk, Bool.false_eq_true, if_false, evict, horder, cons_append,
      if_pos hover]
  rw [cons_append, map_cons, nodup_cons] at hnodup
  obtain ⟨hne, hrest⟩ := hnodup
  have hgone : e.1 ∉ l.map fst := by
    rw [map_append, mem_append, not_or] at hne
    exact hne.1
  rw [hadd]
  refine ⟨by simp, hrest, ?_, get_insert_iff_mem hfresh (fun k' v' _ => ?_) v⟩
  · rw [length_append, length_singleton]
    omega
  · by_cases he : e.1 = k'
    · have hnot : (k', v') ∉ l := fun hmem => hgone (he ▸ mem_map.mpr ⟨_, hmem, rfl⟩)
      simp [OrdMap.get_remove, he, hnot]
    · have hiff := h.get k' v'
      have hnee : (k', v') ≠ e := fun heq => he (by rw [← heq])
      rw [FifoMap.get, mem_cons, or_iff_right hnee] at hiff
      rw [OrdMap.get_remove_of_ne _ he, hiff]

/-- **A fresh key** is appended, and the entries beyond capacity are forgotten. -/
theorem Holds.add (h : m.Holds l) (hcap : 0 < m.capacity) (hk : m.contains k = false) (v : V) :
    (m.add k v).Holds (pushBounded m.capacity l (k, v)) := by
  have hfresh : k ∉ l.map fst := by
    rw [← h.contains_iff, hk]
    exact Bool.false_ne_true
  have hnodup : ((l ++ [(k, v)]).map fst).Nodup := by
    rw [map_append]
    exact h.nodup.append (nodup_singleton k) (disjoint_singleton.mpr hfresh)
  by_cases hroom : l.length < m.capacity
  · rw [pushBounded, if_neg (by rw [length_append, length_singleton]; omega)]
    exact h.add_room hroom hk hfresh hnodup
  · obtain ⟨e, t, rfl⟩ : ∃ e t, l = e :: t := by
      cases l with
      | nil => exact absurd hcap hroom
      | cons e t => exact ⟨e, t, rfl⟩
    rw [length_cons] at hroom
    rw [pushBounded, if_pos]
    · exact h.add_full (by omega) hk (fun hmem => hfresh (mem_cons_of_mem _ hmem)) hnodup
    · rw [length_append, length_singleton, length_cons]
      omega

/-! ### Feeding a list -/

@[simp] lemma addAll_capacity (m : FifoMap K V) (l : List (K × V)) :
    (m.addAll l).capacity = m.capacity := by
  induction l generalizing m with
  | nil => rfl
  | cons e l ih =>
    rw [addAll, foldl_cons, ← addAll, ih, add_capacity]

@[simp] lemma new_capacity (n : ℕ) : (new n : FifoMap K V).capacity = n := rfl

/-- A new map that is fed distinct keys, no more than fit, stands for what it was fed. -/
lemma holds_addAll_new {n : ℕ} (hnodup : (l.map fst).Nodup) (hlen : l.length ≤ n) :
    ((new n).addAll l).Holds l := by
  induction l using reverseRecOn with
  | nil => exact holds_new n
  | append_singleton l e ih =>
    rw [map_append, nodup_append] at hnodup
    rw [length_append, length_singleton] at hlen
    have hl := ih hnodup.1 (by omega)
    have hfresh : ((new n).addAll l).contains e.1 = false := by
      rw [← Bool.not_eq_true, hl.contains_iff]
      exact fun hmem => hnodup.2.2 _ hmem e.1 (by simp) rfl
    have hadd := hl.add (show 0 < ((new n).addAll l).capacity by
      rw [addAll_capacity, new_capacity]; omega) hfresh e.2
    have hpush : pushBounded n l e = l ++ [e] := by
      rw [pushBounded, if_neg]
      rw [length_append, length_singleton]
      omega
    rw [addAll_capacity, new_capacity, hpush] at hadd
    rw [addAll, foldl_append]
    exact hadd

lemma contains_add_of_lt (hroom : m.order.length < m.capacity) (a : K) (v : V) (k : K) :
    (m.add a v).contains k ↔ a = k ∨ m.contains k := by
  have hmap : (m.add a v).map = m.map.insert a v := by
    have hno : ¬(m.order ++ [a]).length > m.capacity := by
      rw [length_append, length_singleton]
      omega
    unfold add evict
    simp only [if_neg hno]
    split_ifs <;> rfl
  rw [contains, hmap, contains, OrdMap.contains_iff, OrdMap.contains_iff]
  simp only [OrdMap.get_insert]
  by_cases hak : a = k
  · simp [hak]
  · simp [hak]

lemma length_order_add_le (m : FifoMap K V) (k : K) (v : V) :
    (m.add k v).order.length ≤ m.order.length + 1 := by
  unfold add evict
  simp only
  split_ifs with h1 h2
  · omega
  · split
    · next old order horder =>
      have hlen := congrArg List.length horder
      rw [length_append, length_singleton, length_cons] at hlen
      simp only
      omega
    · simp
  · simp

lemma contains_addAll (hroom : m.order.length + l.length ≤ m.capacity) :
    (m.addAll l).contains k ↔ m.contains k ∨ k ∈ l.map fst := by
  induction l generalizing m with
  | nil => simp [addAll]
  | cons e l ih =>
    rw [length_cons] at hroom
    have hle := m.length_order_add_le e.1 e.2
    have hrest := ih (m := m.add e.1 e.2) (by rw [add_capacity]; omega)
    rw [addAll, foldl_cons, ← addAll, hrest, contains_add_of_lt (by omega), map_cons, mem_cons]
    constructor
    · rintro ((h | h) | h)
      · exact Or.inr (Or.inl h.symm)
      · exact Or.inl h
      · exact Or.inr (Or.inr h)
    · rintro (h | h | h)
      · exact Or.inl (Or.inr h)
      · exact Or.inl (Or.inl h.symm)
      · exact Or.inr h

end FifoMap

/-! ### Least recently used -/

/-- The most recently used entries come first. -/
structure LruMap (K V : Type*) where
  capacity : ℕ
  entries : List (K × V)

namespace LruMap

variable {K V : Type*} [DecidableEq K]

def insert (m : LruMap K V) (k : K) (v : V) : LruMap K V :=
  { m with entries := ((k, v) :: m.entries.filter fun e => decide (e.1 ≠ k)).take m.capacity }

/-- The value of a key, which counts as used. -/
def get (m : LruMap K V) (k : K) : Option V × LruMap K V :=
  match m.entries.find? fun e => decide (e.1 = k) with
  | some e => (some e.2, { m with entries := e :: m.entries.filter fun e => decide (e.1 ≠ k) })
  | none => (none, m)

def All (P : K → V → Prop) (m : LruMap K V) : Prop := ∀ e ∈ m.entries, P e.1 e.2

variable {m : LruMap K V} {P : K → V → Prop} {k : K} {v : V}

open LruMap

lemma All.insert (h : m.All P) (hv : P k v) : (m.insert k v).All P := by
  intro e he
  rcases mem_cons.mp (mem_of_mem_take he) with rfl | he
  · exact hv
  · exact h e (mem_of_mem_filter he)

lemma All.get (h : m.All P) (k : K) : (m.get k).2.All P := by
  unfold LruMap.get
  split
  · next e hfind =>
    intro x hx
    rcases mem_cons.mp hx with rfl | hx
    · exact h _ (mem_of_find?_eq_some hfind)
    · exact h x (mem_of_mem_filter hx)
  · exact h

lemma All.of_get (h : m.All P) (hget : (m.get k).1 = some v) : P k v := by
  unfold LruMap.get at hget
  split at hget
  · next e hfind =>
    have hmem := h e (mem_of_find?_eq_some hfind)
    have hk : e.1 = k := by simpa using find?_some hfind
    cases hget
    rwa [hk] at hmem
  · cases hget

/-! #### What is kept -/

/-- The key has the value, and only keys of the set have been used since it was. -/
def Holds (m : LruMap K V) (k : K) (v : V) (used : Finset K) : Prop :=
  ∃ before after, m.entries = before ++ (k, v) :: after ∧ ∀ e ∈ before, e.1 ∈ used

def Distinct (m : LruMap K V) : Prop := (m.entries.map Prod.fst).Nodup

variable {used : Finset K} {k' : K} {v' : V}

omit [DecidableEq K] in
lemma Holds.mono {used' : Finset K} (h : m.Holds k v used) (hsub : used ⊆ used') :
    m.Holds k v used' := by
  obtain ⟨before, after, heq, hmem⟩ := h
  exact ⟨before, after, heq, fun e he => hsub (hmem e he)⟩

lemma nodup_cons_filter {l : List (K × V)} (h : (l.map fst).Nodup) (e : K × V) :
    ((e :: l.filter fun x => decide (x.1 ≠ e.1)).map fst).Nodup := by
  rw [map_cons, nodup_cons]
  refine ⟨fun hmem => ?_, h.sublist (filter_sublist.map _)⟩
  obtain ⟨x, hx, heq⟩ := mem_map.mp hmem
  exact absurd heq (by simpa using (mem_filter.mp hx).2)

lemma Distinct.insert (h : m.Distinct) (k : K) (v : V) : (m.insert k v).Distinct :=
  (nodup_cons_filter h (k, v)).sublist ((take_sublist _ _).map _)

lemma Distinct.get (h : m.Distinct) (k : K) : (m.get k).2.Distinct := by
  unfold LruMap.get
  split
  · next e hfind =>
    have hk : e.1 = k := by simpa using find?_some hfind
    subst hk
    exact nodup_cons_filter h e
  · exact h

@[simp] lemma capacity_get (m : LruMap K V) (k : K) : (m.get k).2.capacity = m.capacity := by
  unfold get
  split <;> rfl

lemma get_get (m : LruMap K V) (k k' : K) : ((m.get k).2.get k').1 = (m.get k').1 := by
  have hfst : ∀ m : LruMap K V, (m.get k').1 =
      (m.entries.find? fun e => decide (e.1 = k')).map snd := by
    intro m
    unfold get
    split
    · next e hfind => rw [hfind, Option.map_some]
    · next hfind => rw [hfind, Option.map_none]
  rw [hfst, hfst]
  unfold get
  split
  · next e hfind =>
    have hk : e.1 = k := by simpa using find?_some hfind
    by_cases hk' : k = k'
    · rw [← hk', hfind, find?_cons_of_pos (by simpa using hk)]
    · rw [find?_cons_of_neg (by simpa [hk] using hk'), find?_filter]
      congr 2
      funext x
      by_cases hx : x.1 = k' <;> simp [hx, Ne.symm hk']
  · rfl

lemma find?_of_holds (hd : m.Distinct) (h : m.Holds k v used) :
    m.entries.find? (fun e => decide (e.1 = k)) = some (k, v) := by
  obtain ⟨before, after, heq, -⟩ := h
  rw [Distinct, heq, map_append, nodup_append] at hd
  rw [heq, find?_append, find?_eq_none.mpr, Option.none_or, find?_cons_of_pos (by simp)]
  intro e he
  simpa using hd.2.2 _ (mem_map_of_mem he) k (by simp)

lemma get_of_holds (hd : m.Distinct) (h : m.Holds k v used) : (m.get k).1 = some v := by
  rw [get, find?_of_holds hd h]

lemma holds_get_self (hget : (m.get k).1 = some v) : (m.get k).2.Holds k v ∅ := by
  unfold get at hget ⊢
  split at hget
  · next e hfind =>
    have hk : e.1 = k := by simpa using find?_some hfind
    cases hget
    subst hk
    exact ⟨[], m.entries.filter fun x => decide (x.1 ≠ e.1), rfl, by simp⟩
  · cases hget

lemma holds_insert_self (hcap : 0 < m.capacity) : (m.insert k v).Holds k v ∅ := by
  obtain ⟨n, hn⟩ : ∃ n, m.capacity = n + 1 := ⟨m.capacity - 1, by omega⟩
  refine ⟨[], (m.entries.filter fun e => decide (e.1 ≠ k)).take n, ?_, by simp⟩
  rw [insert, hn, take_succ_cons]
  rfl

lemma Holds.cons_filter (h : m.Holds k v used) {e : K × V} (he : e.1 ≠ k) :
    ∃ before after, e :: (m.entries.filter fun x => decide (x.1 ≠ e.1)) =
      before ++ (k, v) :: after ∧ ∀ x ∈ before, x.1 ∈ used ∪ {e.1} := by
  obtain ⟨before, after, heq, hmem⟩ := h
  refine ⟨e :: before.filter fun x => decide (x.1 ≠ e.1),
    after.filter fun x => decide (x.1 ≠ e.1), ?_, fun x hx => ?_⟩
  · rw [heq, filter_append, filter_cons_of_pos (by simpa using he.symm), cons_append]
  · rcases mem_cons.mp hx with rfl | hx
    · exact Finset.mem_union_right _ (Finset.mem_singleton_self _)
    · exact Finset.mem_union_left _ (hmem x (mem_of_mem_filter hx))

lemma Holds.get_of_ne (h : m.Holds k v used) (hne : k' ≠ k) :
    (m.get k').2.Holds k v (used ∪ {k'}) := by
  unfold get
  split
  · next e hfind =>
    have hk : e.1 = k' := by simpa using find?_some hfind
    subst hk
    exact h.cons_filter hne
  · exact h.mono Finset.subset_union_left

/-- **A key is forgotten** only when, with the one that is inserted, as many others were used since
as the map has room for. -/
lemma Holds.insert_of_ne (hd : m.Distinct) (h : m.Holds k v used) (hne : k' ≠ k) :
    (m.insert k' v').Holds k v (used ∪ {k'}) ∨ m.capacity ≤ (used ∪ {k'}).card := by
  have hnodup := nodup_cons_filter hd (k', v')
  obtain ⟨before, after, heq, hmem⟩ := h.cons_filter (e := (k', v')) hne
  by_cases hroom : before.length < m.capacity
  · refine .inl ⟨before, after.take (m.capacity - (before.length + 1)), ?_, hmem⟩
    obtain ⟨n, hn⟩ : ∃ n, m.capacity = before.length + (n + 1) :=
      ⟨m.capacity - (before.length + 1), by omega⟩
    have hsub : m.capacity - (before.length + 1) = n := by omega
    rw [insert]
    simp only at heq ⊢
    rw [heq, hsub, hn, take_length_add_append, take_succ_cons]
  · refine .inr ?_
    rw [heq, map_append, nodup_append] at hnodup
    have hcard := toFinset_card_of_nodup hnodup.1
    rw [length_map] at hcard
    have hsub : (before.map fst).toFinset ⊆ used ∪ {k'} := by
      intro x hx
      obtain ⟨e, he, rfl⟩ := mem_map.mp (mem_toFinset.mp hx)
      exact hmem e he
    have hle := Finset.card_le_card hsub
    omega

lemma exists_holds (hget : (m.get k).1 = some v) : ∃ used, m.Holds k v used := by
  unfold get at hget
  split at hget
  · next e hfind =>
    obtain ⟨hk, before, after, heq, -⟩ := find?_eq_some_iff_append.mp hfind
    have hk : e.1 = k := by simpa using hk
    cases hget
    subst hk
    exact ⟨(before.map fst).toFinset, before, after, heq, fun x hx =>
      mem_toFinset.mpr (mem_map_of_mem hx)⟩
  · cases hget

lemma length_cons_filter_le {l : List (K × V)} (e : K × V) (h : ∃ x ∈ l, x.1 = e.1) :
    (e :: l.filter fun x => decide (x.1 ≠ e.1)).length ≤ l.length := by
  obtain ⟨x, hx, hxe⟩ := h
  have hlt : (l.filter fun x => decide (x.1 ≠ e.1)).length < l.length :=
    length_filter_lt_length_iff_exists.mpr ⟨x, hx, by simpa using hxe⟩
  rw [length_cons]
  omega

lemma length_get_le (m : LruMap K V) (k : K) : (m.get k).2.entries.length ≤ m.entries.length := by
  unfold get
  split
  · next e hfind =>
    have hk : e.1 = k := by simpa using find?_some hfind
    subst hk
    exact length_cons_filter_le e ⟨e, mem_of_find?_eq_some hfind, rfl⟩
  · exact le_rfl

lemma Holds.insert_found (hbound : m.entries.length ≤ m.capacity) (h : m.Holds k v used)
    (hne : k' ≠ k) (hfound : ∃ e ∈ m.entries, e.1 = k') (v' : V) :
    (m.insert k' v').Holds k v (used ∪ {k'}) := by
  have hle := length_cons_filter_le (k', v') hfound
  have hall : (m.insert k' v').entries = (k', v') :: m.entries.filter fun e => decide (e.1 ≠ k') :=
    take_of_length_le (hle.trans hbound)
  obtain ⟨before, after, heq, hmem⟩ := h.cons_filter (e := (k', v')) hne
  exact ⟨before, after, hall.trans heq, hmem⟩

end LruMap

end RethBsc
