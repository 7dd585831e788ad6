import Mathlib.Data.List.Forall2

/-!
Replaying a run against a queue.

A producer runs from some state and emits items; a checker runs the same steps, but takes each
item from the head of a queue and fails if it is not the one it expects. `Replays r c` says that
`c` succeeds exactly on the queues that begin with what the run `r` emitted, arrives at the same
state and leaves the rest. It is a statement about runs from one state; `Replays.bind` puts two
of them together.
-/

namespace RethBsc

open List

variable {σ τ β ε : Type*}

/-- The first run, then one that starts where it ended; what they emit is put together. -/
def emitThen (r : Except ε (σ × List τ)) (k : σ → Except ε (σ × List τ)) : Except ε (σ × List τ) :=
  match r with
  | .error e => .error e
  | .ok (s, out) => (k s).map fun e => (e.1, out ++ e.2)

variable {k : σ → Except ε (σ × List τ)}

lemma emitThen_eq_ok {r : Except ε (σ × List τ)} {s' : σ}
    {out : List τ} : emitThen r k = .ok (s', out) ↔
      ∃ s out1 out2, r = .ok (s, out1) ∧ k s = .ok (s', out2) ∧ out = out1 ++ out2 := by
  constructor
  · intro h
    rcases r with e | ⟨s, out1⟩
    · cases h
    · cases hk : k s with
      | error e =>
        rw [emitThen, hk] at h
        cases h
      | ok e =>
        rw [emitThen, hk] at h
        cases h
        exact ⟨s, out1, e.2, rfl, hk, rfl⟩
  · rintro ⟨s, out1, out2, rfl, hk, rfl⟩
    rw [emitThen, hk]
    rfl

/-- Every item that a run emits satisfies `P`. -/
def Emits (P : τ → Prop) (r : Except ε (σ × List τ)) : Prop :=
  ∀ s out, r = .ok (s, out) → ∀ item ∈ out, P item

lemma Emits.emitThen {P : τ → Prop} {r : Except ε (σ × List τ)} (hr : Emits P r)
    (hk : ∀ s, Emits P (k s)) : Emits P (emitThen r k) := by
  intro s' out h item hitem
  obtain ⟨s, out1, out2, hr', hk', rfl⟩ := emitThen_eq_ok.mp h
  rcases mem_append.mp hitem with hitem | hitem
  · exact hr s out1 hr' item hitem
  · exact hk s s' out2 hk' item hitem

lemma forall₂_append_left {m : τ → β → Prop} {out1 out2 : List τ} {taken : List β}
    (h : List.Forall₂ m (out1 ++ out2) taken) : ∃ taken1 taken2, List.Forall₂ m out1 taken1 ∧
      List.Forall₂ m out2 taken2 ∧ taken = taken1 ++ taken2 := by
  refine ⟨taken.take out1.length, taken.drop out1.length, ?_, ?_, (take_append_drop _ _).symm⟩
  · exact (forall₂_take_append _ _ _ h.flip).flip
  · exact (forall₂_drop_append _ _ _ h.flip).flip

/-- The checker `c` takes from its queue what the run `r` emits. -/
def Replays (m : τ → β → Prop) (r : Except ε (σ × List τ))
    (c : List β → Except ε (σ × List β)) : Prop :=
  ∀ q s' q', c q = .ok (s', q') ↔
    ∃ out taken, r = .ok (s', out) ∧ q = taken ++ q' ∧ List.Forall₂ m out taken

namespace Replays

variable {m : τ → β → Prop} {r : Except ε (σ × List τ)} {c : List β → Except ε (σ × List β)}

lemma pure (m : τ → β → Prop) (s : σ) :
    Replays m (.ok (s, []) : Except ε (σ × List τ)) fun q => .ok (s, q) := by
  intro q s' q'
  constructor
  · intro h
    cases h
    exact ⟨[], [], rfl, rfl, List.Forall₂.nil⟩
  · rintro ⟨out, taken, h, rfl, hm⟩
    cases h
    cases hm
    rfl

lemma error (m : τ → β → Prop) (e e' : ε) :
    Replays m (.error e : Except ε (σ × List τ)) fun _ => .error e' := by
  intro q s' q'
  constructor
  · intro h
    cases h
  · rintro ⟨out, taken, h, -⟩
    cases h

/-- Step after step: the queue that the first step leaves is the queue of the second. -/
lemma bind (hr : Replays m r c) {c' : σ → List β → Except ε (σ × List β)}
    (hk : ∀ s, Replays m (k s) (c' s)) :
    Replays m (emitThen r k) fun q => (c q).bind fun e => c' e.1 e.2 := by
  intro q s' q'
  constructor
  · intro h
    beta_reduce at h
    cases hc : c q with
    | error e =>
      rw [hc] at h
      cases h
    | ok e =>
      rw [hc] at h
      obtain ⟨out1, taken1, hrun1, rfl, hm1⟩ := (hr q e.1 e.2).mp hc
      obtain ⟨out2, taken2, hrun2, hq, hm2⟩ := (hk e.1 e.2 s' q').mp h
      refine ⟨out1 ++ out2, taken1 ++ taken2, ?_, ?_, rel_append hm1 hm2⟩
      · exact emitThen_eq_ok.mpr ⟨e.1, out1, out2, hrun1, hrun2, rfl⟩
      · rw [hq, append_assoc]
  · rintro ⟨out, taken, h, rfl, hm⟩
    obtain ⟨s, out1, out2, hrun1, hrun2, rfl⟩ := emitThen_eq_ok.mp h
    obtain ⟨taken1, taken2, hm1, hm2, rfl⟩ := forall₂_append_left hm
    have hc := (hr (taken1 ++ (taken2 ++ q')) s (taken2 ++ q')).mpr ⟨out1, taken1, hrun1, rfl, hm1⟩
    beta_reduce
    rw [append_assoc, hc]
    exact (hk s (taken2 ++ q') s' q').mpr ⟨out2, taken2, hrun2, rfl, hm2⟩

lemma usesUp_iff (hr : Replays m r c) {q : List β} {s' : σ} :
    c q = .ok (s', []) ↔ ∃ out, r = .ok (s', out) ∧ List.Forall₂ m out q := by
  rw [hr q s' []]
  constructor
  · rintro ⟨out, taken, hrun, hq, hm⟩
    rw [append_nil] at hq
    exact ⟨out, hrun, hq ▸ hm⟩
  · rintro ⟨out, hrun, hm⟩
    exact ⟨out, q, hrun, by rw [append_nil], hm⟩

end Replays

end RethBsc
