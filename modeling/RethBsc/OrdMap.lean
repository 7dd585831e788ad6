import Mathlib.Data.Finset.Card
import Mathlib.Data.Finset.Dedup
import Mathlib.Data.List.Induction
import Mathlib.Order.Basic

/-!
Finite maps kept as a list of entries in ascending key order.

The order of the entries is a field of the structure, so a map with a key twice, or out of
order, cannot be built, and two maps that answer every lookup alike are equal. This is
the shape of a B-tree map: iteration runs over `entries`.
-/

namespace RethBsc

open List

/-- A map from `K` to `V` with its entries in strictly ascending key order. -/
structure OrdMap (K V : Type*) [LinearOrder K] where
  entries : List (K × V)
  sorted : entries.Pairwise (fun a b => a.1 < b.1)

namespace OrdMap

variable {K V : Type*} [LinearOrder K]
  {m : OrdMap K V} {k k' : K} {v : V} {l : List (K × V)} {p : K × V → Bool}

lemma ext_entries {m' : OrdMap K V} (h : m.entries = m'.entries) : m = m' := by
  obtain ⟨l, hl⟩ := m
  obtain ⟨l', hl'⟩ := m'
  simp only at h
  subst h; rfl

instance [DecidableEq V] : DecidableEq (OrdMap K V) := fun m m' =>
  decidable_of_iff (m.entries = m'.entries) ⟨ext_entries, fun h => by rw [h]⟩

def empty : OrdMap K V := ⟨[], List.Pairwise.nil⟩

instance : Inhabited (OrdMap K V) := ⟨empty⟩

/-! ### Operations on entry lists -/

def lookup (k : K) : List (K × V) → Option V
  | [] => none
  | e :: l => if e.1 = k then some e.2 else lookup k l

/-- One pass: the first entry with a key not below `k` is replaced or preceded. -/
def insertEntry (k : K) (v : V) : List (K × V) → List (K × V)
  | [] => [(k, v)]
  | e :: l => if k < e.1 then (k, v) :: e :: l
      else if k = e.1 then (k, v) :: l else e :: insertEntry k v l

lemma mem_insertEntry {e : K × V} (h : e ∈ insertEntry k v l) : e = (k, v) ∨ e ∈ l := by
  induction l with
  | nil => simpa [insertEntry] using h
  | cons a l ih =>
      simp only [insertEntry] at h
      split_ifs at h
      · rcases mem_cons.mp h with h | h
        · exact Or.inl h
        · exact Or.inr h
      · rcases mem_cons.mp h with h | h
        · exact Or.inl h
        · exact Or.inr (mem_cons_of_mem _ h)
      · rcases mem_cons.mp h with h | h
        · exact Or.inr (by simp [h])
        · rcases ih h with h | h
          · exact Or.inl h
          · exact Or.inr (mem_cons_of_mem _ h)

lemma sorted_insertEntry (k : K) (v : V) (h : l.Pairwise (fun a b => a.1 < b.1)) :
    (insertEntry k v l).Pairwise (fun a b => a.1 < b.1) := by
  induction l with
  | nil => simp [insertEntry]
  | cons a l ih =>
      obtain ⟨ha, hl⟩ := pairwise_cons.mp h
      simp only [insertEntry]
      split_ifs with h1 h2
      · refine pairwise_cons.mpr ⟨fun b hb => ?_, h⟩
        rcases mem_cons.mp hb with rfl | hb
        · exact h1
        · exact lt_trans h1 (ha b hb)
      · subst h2
        exact pairwise_cons.mpr ⟨ha, hl⟩
      · refine pairwise_cons.mpr ⟨fun b hb => ?_, ih hl⟩
        rcases mem_insertEntry hb with rfl | hb
        · exact lt_of_le_of_ne (not_lt.mp h1) (Ne.symm h2)
        · exact ha b hb

lemma lookup_insertEntry (k k' : K) (v : V) (l : List (K × V)) :
    lookup k' (insertEntry k v l) = if k = k' then some v else lookup k' l := by
  induction l with
  | nil => simp [insertEntry, lookup]
  | cons a l ih =>
      by_cases hk : k = k'
      · subst hk
        simp only [insertEntry, if_true] at ih ⊢
        split_ifs with h1 h2
        · simp [lookup]
        · simp [lookup]
        · simp [lookup, Ne.symm h2, ih]
      · simp only [insertEntry, hk, if_false] at ih ⊢
        split_ifs with h1 h2
        · simp [lookup, hk]
        · subst h2; simp [lookup, hk]
        · simp [lookup, ih]

lemma lookup_eq_none_of_lt (h : ∀ e ∈ l, k < e.1) : lookup k l = none := by
  induction l with
  | nil => rfl
  | cons a l ih =>
      have ha := h a (by simp)
      simp [lookup, ne_of_gt ha, ih fun e he => h e (by simp [he])]

lemma lookup_eq_some_iff (hs : l.Pairwise (fun a b => a.1 < b.1)) :
    lookup k l = some v ↔ (k, v) ∈ l := by
  induction l with
  | nil => simp [lookup]
  | cons a l ih =>
      obtain ⟨ha, hl⟩ := pairwise_cons.mp hs
      by_cases h : a.1 = k
      · subst h
        constructor
        · intro hv
          simp only [lookup, if_true, Option.some.injEq] at hv
          subst hv; simp
        · intro hv
          rcases mem_cons.mp hv with hv | hv
          · rw [← hv]; simp [lookup]
          · exact absurd (ha _ hv) (lt_irrefl _)
      · have hne : (k, v) ≠ a := by rintro rfl; exact h rfl
        simp [lookup, h, ih hl, hne]

lemma lookup_filter (hs : l.Pairwise (fun a b => a.1 < b.1)) :
    lookup k (l.filter p) = (lookup k l).filter fun v => p (k, v) := by
  induction l with
  | nil => simp [lookup]
  | cons a l ih =>
      obtain ⟨ha, hl⟩ := pairwise_cons.mp hs
      by_cases h : a.1 = k
      · subst h
        have hnone : lookup a.1 (l.filter p) = none :=
          lookup_eq_none_of_lt fun e he => ha e (mem_of_mem_filter he)
        cases hp : p a <;> simp [lookup, hp, hnone, Option.filter]
      · cases hp : p a <;> simp [lookup, hp, h, ih hl]

/-! ### Maps -/

variable (m)

def get (k : K) : Option V := lookup k m.entries

def contains (k : K) : Bool := (m.get k).isSome

def insert (k : K) (v : V) : OrdMap K V :=
  ⟨insertEntry k v m.entries, sorted_insertEntry k v m.sorted⟩

/-- Keeps the entries that satisfy `p`. -/
def retain (p : K × V → Bool) : OrdMap K V := ⟨m.entries.filter p, m.sorted.filter p⟩

def remove (k : K) : OrdMap K V := m.retain fun e => decide (e.1 ≠ k)

def values : List V := m.entries.map Prod.snd

lemma get_insert (k k' : K) (v : V) : (m.insert k v).get k' = if k = k' then some v else m.get k' :=
  lookup_insertEntry k k' v m.entries

@[simp] lemma get_insert_self (k : K) (v : V) : (m.insert k v).get k = some v := by
  simp [get_insert]

lemma get_insert_of_ne (v : V) (h : k ≠ k') : (m.insert k v).get k' = m.get k' := by
  simp [get_insert, h]

lemma get_retain (p : K × V → Bool) (k : K) :
    (m.retain p).get k = (m.get k).filter fun v => p (k, v) :=
  lookup_filter m.sorted

lemma get_remove (k k' : K) : (m.remove k).get k' = if k = k' then none else m.get k' := by
  rw [remove, get_retain]
  by_cases h : k = k'
  · subst h; cases m.get k <;> simp [Option.filter]
  · cases hg : m.get k' <;> simp [Option.filter, h, Ne.symm h]

lemma get_remove_of_ne (h : k ≠ k') : (m.remove k).get k' = m.get k' := by
  simp [get_remove, h]

variable {m}

@[simp] lemma get_empty (k : K) : (empty : OrdMap K V).get k = none := rfl

lemma get_retain_eq_some : (m.retain p).get k = some v ↔ m.get k = some v ∧ p (k, v) := by
  rw [get_retain, Option.filter_eq_some_iff]

lemma get_remove_eq_some : (m.remove k).get k' = some v ↔ k ≠ k' ∧ m.get k' = some v := by
  rw [get_remove]
  split_ifs with h <;> simp [h]

lemma mem_entries : (k, v) ∈ m.entries ↔ m.get k = some v := (lookup_eq_some_iff m.sorted).symm

lemma mem_values : v ∈ m.values ↔ ∃ k, m.get k = some v := by
  simp only [values, mem_map, Prod.exists, exists_eq_right]
  exact exists_congr fun k => mem_entries

lemma contains_iff : m.contains k ↔ ∃ v, m.get k = some v := by
  rw [contains, Option.isSome_iff_exists]

/-! ### Maps from lists -/

/-- The map of a list of entries; a later entry replaces an earlier one with its key. -/
def ofList (l : List (K × V)) : OrdMap K V := l.foldl (fun m e => m.insert e.1 e.2) empty

lemma ofList_concat (l : List (K × V)) (e : K × V) :
    ofList (l ++ [e]) = (ofList l).insert e.1 e.2 := by
  simp [ofList]

lemma mem_of_get_ofList (h : (ofList l).get k = some v) : (k, v) ∈ l := by
  induction l using reverseRecOn with
  | nil => cases h
  | append_singleton l e ih =>
    rw [ofList_concat, get_insert] at h
    split_ifs at h with hk
    · cases h
      simp [← hk]
    · exact mem_append_left _ (ih h)

lemma exists_get_ofList (h : (k, v) ∈ l) : ∃ w, (ofList l).get k = some w := by
  induction l using reverseRecOn with
  | nil => cases h
  | append_singleton l e ih =>
    rw [ofList_concat, get_insert]
    split_ifs with hk
    · exact ⟨e.2, rfl⟩
    · rcases mem_append.mp h with h | h
      · exact ih h
      · rw [mem_singleton] at h
        exact absurd (congrArg Prod.fst h).symm hk

lemma foldl_insert_eq_ofList {α : Type*} (key : α → K) (value : α → V) (l : List α) :
    l.foldl (fun m e => m.insert (key e) (value e)) empty =
      ofList (l.map fun e => (key e, value e)) := by
  rw [ofList, foldl_map]

lemma get_ofList_of_nodup (hnodup : (l.map Prod.fst).Nodup) (h : (k, v) ∈ l) :
    (ofList l).get k = some v := by
  obtain ⟨w, hw⟩ := exists_get_ofList h
  have heq := inj_on_of_nodup_map hnodup (mem_of_get_ofList hw) h rfl
  rw [hw, (Prod.mk.inj heq).2]

/-! ### Entries up to their order -/

lemma nodup_keys (m : OrdMap K V) : (m.entries.map Prod.fst).Nodup := by
  rw [List.Nodup, pairwise_map]
  exact m.sorted.imp fun h => ne_of_lt h

lemma nodup_entries (m : OrdMap K V) : m.entries.Nodup := List.Nodup.of_map _ m.nodup_keys

lemma mem_keys : k ∈ m.entries.map Prod.fst ↔ m.contains k := by
  rw [contains_iff, mem_map]
  constructor
  · rintro ⟨e, he, rfl⟩
    exact ⟨e.2, mem_entries.mp he⟩
  · rintro ⟨v, hv⟩
    exact ⟨(k, v), mem_entries.mpr hv, rfl⟩

lemma notMem_remove (m : OrdMap K V) (k : K) (v : V) : (k, v) ∉ (m.remove k).entries := by
  rw [mem_entries, get_remove, if_pos rfl]
  exact Option.some_ne_none _ ∘ Eq.symm

lemma perm_cons_remove {m' : OrdMap K V}
    (h : ∀ k', m'.get k' = if k = k' then some v else m.get k') :
    m'.entries.Perm ((k, v) :: (m.remove k).entries) := by
  refine (perm_ext_iff_of_nodup (nodup_entries _)
    (nodup_cons.mpr ⟨m.notMem_remove k v, nodup_entries _⟩)).mpr fun e => ?_
  rw [mem_cons, mem_entries (k := e.1) (v := e.2), mem_entries (k := e.1) (v := e.2), h,
    get_remove, Prod.ext_iff]
  by_cases hk : k = e.1
  · simp [hk, eq_comm]
  · simp [hk, Ne.symm hk]

lemma perm_insert (m : OrdMap K V) (k : K) (v : V) :
    (m.insert k v).entries.Perm ((k, v) :: (m.remove k).entries) :=
  perm_cons_remove fun k' => m.get_insert k k' v

lemma perm_remove (h : m.get k = some v) : m.entries.Perm ((k, v) :: (m.remove k).entries) := by
  refine perm_cons_remove fun k' => ?_
  split_ifs with hk
  · rw [← hk, h]
  · rfl

lemma remove_of_get_eq_none (h : m.get k = none) : m.remove k = m := by
  refine ext_entries (filter_eq_self.mpr fun e he => ?_)
  have hne : e.1 ≠ k := by
    rintro rfl
    rw [mem_entries.mp he] at h
    cases h
  simpa using hne

/-! ### Counting entries -/

/-- The keys whose entry satisfies `p`. -/
def keysWhere (m : OrdMap K V) (p : K × V → Bool) : Finset K :=
  ((m.entries.filter p).map Prod.fst).toFinset

lemma mem_keysWhere : k ∈ m.keysWhere p ↔ ∃ v, m.get k = some v ∧ p (k, v) := by
  simp only [keysWhere, mem_toFinset, mem_map, mem_filter, Prod.exists,
    exists_and_right, exists_eq_right]
  exact exists_congr fun v => by rw [mem_entries]

lemma card_keysWhere (m : OrdMap K V) (p : K × V → Bool) :
    (m.keysWhere p).card = (m.entries.filter p).length := by
  rw [keysWhere, toFinset_card_of_nodup, length_map]
  exact (m.retain p).nodup_keys

end OrdMap

end RethBsc
