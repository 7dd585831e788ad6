import Mathlib.Data.List.Basic
import Mathlib.Control.Lawful

/-!
Programs over slices and buffers that may panic.

A computation returns a value, fails with an error, or panics. Reading a slice outside of its
range panics, and so does a copy into a slot of another width. A computation that is `of` some
`Except` value does not panic.
-/

namespace RethBsc

open List

/-- Fails with an error, or panics. -/
abbrev Panicky (ε : Type) := ExceptT ε Option

namespace Panicky

variable {ε α β : Type}

def of (x : Except ε α) : Panicky ε α := ExceptT.mk (some x)

def panics : Panicky ε α := ExceptT.mk none

/-- A value, or a panic. -/
def ofOption : Option α → Panicky ε α
  | none => panics
  | some a => of (.ok a)

@[simp] lemma of_ok_bind (a : α) (f : α → Panicky ε β) :
    (of (.ok a) : Panicky ε α) >>= f = f a := rfl

@[simp] lemma panics_bind (f : α → Panicky ε β) : (panics : Panicky ε α) >>= f = panics := rfl

variable {l : List α}

lemma mapM_of {f : α → Panicky ε β} {g : α → Except ε β} (h : ∀ a ∈ l, f a = of (g a)) :
    l.mapM f = of (l.mapM g) := by
  induction l with
  | nil => rfl
  | cons a l ih =>
    rw [forall_mem_cons] at h
    rw [mapM_cons, mapM_cons, h.1, ih h.2]
    cases g a with
    | error e => rfl
    | ok b =>
      rw [of_ok_bind]
      cases l.mapM g <;> rfl

/-! ### Reading -/

/-- The elements from one index to another. -/
def slice (l : List α) (start stop : ℕ) : Panicky ε (List α) :=
  if start ≤ stop ∧ stop ≤ l.length then of (.ok ((l.take stop).drop start)) else panics

lemma slice_of_le {start stop : ℕ} (h : start ≤ stop) (h' : stop ≤ l.length) :
    (slice l start stop : Panicky ε (List α)) = of (.ok ((l.take stop).drop start)) :=
  if_pos ⟨h, h'⟩

lemma slice_to_end {start : ℕ} (h : start ≤ l.length) :
    (slice l start l.length : Panicky ε (List α)) = of (.ok (l.drop start)) := by
  rw [slice_of_le h (Nat.le_refl _), take_length]

/-! ### Writing -/

/-- A copy into the slot of the given width at a position. -/
def writeAt (buffer : List α) (pos width : ℕ) (src : List α) : Panicky ε (List α) :=
  if pos + width ≤ buffer.length ∧ src.length = width then
    of (.ok (buffer.take pos ++ src ++ buffer.drop (pos + width)))
  else panics

lemma writeAt_front {front src : List α} {pos width rest : ℕ} (z : α) (hpos : front.length = pos) :
    (writeAt (front ++ List.replicate (width + rest) z) pos width src : Panicky ε (List α)) =
      if src.length = width then of (.ok (front ++ src ++ List.replicate rest z)) else panics := by
  subst hpos
  have hfits : front.length + width ≤ (front ++ List.replicate (width + rest) z).length := by
    rw [length_append, length_replicate]
    omega
  unfold writeAt
  by_cases hsrc : src.length = width
  · rw [if_pos ⟨hfits, hsrc⟩, if_pos hsrc, take_left, drop_length_add_append,
      drop_replicate, Nat.add_sub_cancel_left]
  · rw [if_neg fun h => hsrc h.2, if_neg hsrc]

lemma writeAt_fresh {src : List α} {width rest : ℕ} (z : α) :
    (writeAt (List.replicate (width + rest) z) 0 width src : Panicky ε (List α)) =
      if src.length = width then of (.ok (src ++ List.replicate rest z)) else panics := by
  have h : ([] : List α).length = 0 := length_nil
  simpa only [nil_append] using writeAt_front (ε := ε) z h

end Panicky

end RethBsc
