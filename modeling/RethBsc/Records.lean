import Mathlib.Data.List.Basic

/-!
Records of one width, written one after the other and read back by position.
-/

namespace RethBsc

/-- An encoding of fixed width, with its reader. -/
structure Codec (α β : Type) where
  width : ℕ
  encode : α → List β
  decode : List β → α
  length_encode : ∀ a, (encode a).length = width
  decode_encode : ∀ a, decode (encode a) = a

namespace Codec

variable {α β : Type} (codec : Codec α β)

attribute [simp] length_encode decode_encode

/-- The records of a list, one after the other. -/
def encodeAll (l : List α) : List β := l.flatMap codec.encode

@[simp] lemma encodeAll_nil : codec.encodeAll [] = [] := rfl

@[simp] lemma encodeAll_cons (a : α) (l : List α) :
    codec.encodeAll (a :: l) = codec.encode a ++ codec.encodeAll l := rfl

def record (bs : List β) (i : ℕ) : List β := (bs.drop (i * codec.width)).take codec.width

@[simp] lemma length_encodeAll (l : List α) :
    (codec.encodeAll l).length = l.length * codec.width := by
  induction l with
  | nil => simp
  | cons a l ih => simp [ih, Nat.succ_mul, Nat.add_comm]

lemma encodeAll_ne_nil (hwidth : 0 < codec.width) {l : List α} (hl : 0 < l.length) :
    codec.encodeAll l ≠ [] := by
  rw [← List.length_pos_iff, length_encodeAll]
  exact Nat.mul_pos hl hwidth

lemma record_encodeAll (l : List α) (i : ℕ) (hi : i < l.length) :
    codec.record (codec.encodeAll l) i = codec.encode l[i] := by
  induction l generalizing i with
  | nil => simp at hi
  | cons a l ih =>
    cases i with
    | zero => simp [record]
    | succ i =>
      have hdrop : (codec.encode a ++ codec.encodeAll l).drop ((i + 1) * codec.width) =
          (codec.encodeAll l).drop (i * codec.width) := by
        rw [Nat.succ_mul, Nat.add_comm, ← List.drop_drop, List.drop_left' (codec.length_encode a)]
      have htail := ih i (by simpa using hi)
      rw [record, encodeAll_cons, hdrop]
      exact htail

/-- **Records read back by position are the ones written.** -/
theorem map_record_encodeAll {γ : Type} (l : List α) (f : List β → γ) :
    (List.range l.length).map (fun i => f (codec.record (codec.encodeAll l) i)) =
      l.map fun a => f (codec.encode a) := by
  refine List.ext_getElem (by simp) fun i hi _ => ?_
  have hl : i < l.length := by simpa using hi
  simp [codec.record_encodeAll l i hl]

end Codec

end RethBsc
