import Mathlib.Logic.Basic
import Mathlib.Tactic.TypeStar

/-!
Programs that ask their environment to perform operations.

A program returns a value, fails, or performs an operation and goes on with the answer. It says
nothing about what an operation does: that is a handler, which answers an operation and moves a
state on. One program can so be run against several handlers, and what relates two handlers
operation by operation relates the two runs of every program (`Prog.run_simulates`).

`Prog.Uses` speaks of every operation a program could ever perform, `Prog.Along` of those one run
performs, each in the state it is performed in, and `Prog.Returns` of a run that returns.
-/

namespace RethBsc

/-- A program over the operations `O`, answered in `A`, that fails with an `ε` or returns. -/
inductive Prog (O : Type) (A : O → Type) (ε α : Type) : Type
  | pure (a : α)
  | fail (e : ε)
  | op (o : O) (k : A o → Prog O A ε α)

namespace Prog

variable {O : Type} {A : O → Type} {ε α β : Type}

def bind : Prog O A ε α → (α → Prog O A ε β) → Prog O A ε β
  | .pure a, f => f a
  | .fail e, _ => .fail e
  | .op o k, f => .op o fun a => (k a).bind f

instance : Monad (Prog O A ε) where
  pure := Prog.pure
  bind := Prog.bind

def perform (o : O) : Prog O A ε (A o) := .op o .pure

def ofExcept : Except ε α → Prog O A ε α
  | .ok a => .pure a
  | .error e => .fail e

instance : MonadLift (Except ε) (Prog O A ε) := ⟨ofExcept⟩

/-- The program with its failure replaced; what it did before it failed stays done. -/
def mapError (f : ε → ε) : Prog O A ε α → Prog O A ε α
  | .pure a => .pure a
  | .fail e => .fail (f e)
  | .op o k => .op o fun a => (k a).mapError f

@[simp] lemma pure_eq (a : α) : (Prog.pure a : Prog O A ε α) = Pure.pure a := rfl

@[simp] lemma bind_eq (p : Prog O A ε α) (f : α → Prog O A ε β) : p.bind f = p >>= f := rfl

@[simp] lemma pure_bind' (a : α) (f : α → Prog O A ε β) : Pure.pure a >>= f = f a := rfl

@[simp] lemma fail_bind (e : ε) (f : α → Prog O A ε β) : Prog.fail e >>= f = .fail e := rfl

@[simp] lemma op_bind (o : O) (k : A o → Prog O A ε α) (f : α → Prog O A ε β) :
    Prog.op o k >>= f = .op o fun a => k a >>= f := rfl

@[simp] lemma liftM_eq (x : Except ε α) : (liftM x : Prog O A ε α) = ofExcept x := rfl

section Run

variable {σ τ : Type*}

/-- The run of a program from a state: its result and the state it ends in. -/
def run (h : (o : O) → σ → A o × σ) : Prog O A ε α → σ → Except ε α × σ
  | .pure a, s => (.ok a, s)
  | .fail e, s => (.error e, s)
  | .op o k, s => run h (k (h o s).1) (h o s).2

variable {h : (o : O) → σ → A o × σ} {s s' : σ}

@[simp] lemma run_op (o : O) (k : A o → Prog O A ε α) :
    run h (.op o k) s = run h (k (h o s).1) (h o s).2 := rfl

lemma run_bind (p : Prog O A ε α) (f : α → Prog O A ε β) : run h (p >>= f) s = match run h p s with
    | (.ok a, s1) => run h (f a) s1
    | (.error e, s1) => (.error e, s1) := by
  induction p generalizing s with
  | pure | fail => rfl
  | op o k ih => exact ih _

/-- The run from `s` returns `a` in the state `s'`. -/
def Returns (h : (o : O) → σ → A o × σ) (p : Prog O A ε α) (s : σ) (a : α) (s' : σ) : Prop :=
  run h p s = (.ok a, s')

variable {a : α}

@[simp] lemma returns_pure {b : α} :
    Returns h (Pure.pure a : Prog O A ε α) s b s' ↔ b = a ∧ s' = s := by
  change ((Except.ok a, s) : Except ε α × σ) = (.ok b, s') ↔ _
  grind

@[simp] lemma returns_fail {e : ε} {b : α} : ¬ Returns h (.fail e : Prog O A ε α) s b s' := by
  intro hr
  have h₁ := congrArg Prod.fst hr
  cases h₁

@[simp] lemma returns_op {o : O} {k : A o → Prog O A ε α} :
    Returns h (.op o k) s a s' ↔ Returns h (k (h o s).1) (h o s).2 a s' := Iff.rfl

@[simp] lemma returns_perform {o : O} {a : A o} :
    Returns h (perform o : Prog O A ε (A o)) s a s' ↔ h o s = (a, s') := by
  change ((Except.ok (h o s).1, (h o s).2) : Except ε (A o) × σ) = (.ok a, s') ↔ _
  grind

@[simp] lemma returns_bind {p : Prog O A ε α} {f : α → Prog O A ε β} {b : β} :
    Returns h (p >>= f) s b s' ↔ ∃ a s1, Returns h p s a s1 ∧ Returns h (f a) s1 b s' := by
  unfold Returns
  rw [run_bind]
  rcases run h p s with ⟨e | a, s1⟩
  · constructor
    · intro hr
      have := congrArg Prod.fst hr
      cases this
    · rintro ⟨a, s2, hr, -⟩
      have := congrArg Prod.fst hr
      cases this
  · constructor
    · exact fun hr => ⟨a, s1, rfl, hr⟩
    · rintro ⟨a', s2, hr, hf⟩
      cases hr
      exact hf

@[simp] lemma returns_ofExcept {x : Except ε α} :
    Returns h (ofExcept x : Prog O A ε α) s a s' ↔ x = .ok a ∧ s' = s := by
  cases x with
  | error e => simp [ofExcept]
  | ok b => simp [ofExcept, eq_comm]

@[simp] lemma returns_mapError {f : ε → ε} {p : Prog O A ε α} :
    Returns h (p.mapError f) s a s' ↔ Returns h p s a s' := by
  induction p generalizing s with
  | pure b => rfl
  | fail e => simp [mapError]
  | op o k ih => exact ih _

@[simp] lemma returns_ite_fail {c : Prop} [Decidable c] {e : ε} {q : Prog O A ε α} :
    Returns h (if c then .fail e else q) s a s' ↔ ¬ c ∧ Returns h q s a s' := by
  by_cases hc : c <;> simp [hc]

end Run

section Uses

/-- Every operation the program could perform, whatever the answers are, is one of `P`. -/
def Uses (P : O → Prop) : Prog O A ε α → Prop
  | .pure _ => True
  | .fail _ => True
  | .op o k => P o ∧ ∀ a, Uses P (k a)

/-- The program returns `b` for some answers. -/
def CanReturn : Prog O A ε α → α → Prop
  | .pure a, b => b = a
  | .fail _, _ => False
  | .op _ k, b => ∃ a, CanReturn (k a) b

variable {P : O → Prop} {b : α} {p : Prog O A ε α}
  {a : α} {o : O} {f : α → Prog O A ε β} {c : Prop} {q : Prog O A ε α}

@[simp] lemma canReturn_pure : CanReturn (Pure.pure a : Prog O A ε α) b ↔ b = a := Iff.rfl

@[simp] lemma not_canReturn_fail {e : ε} : ¬ CanReturn (.fail e : Prog O A ε α) b := id

@[simp] lemma canReturn_perform {b : A o} : CanReturn (perform o : Prog O A ε (A o)) b := ⟨b, rfl⟩

@[simp] lemma canReturn_ofExcept {x : Except ε α} :
    CanReturn (ofExcept x : Prog O A ε α) b ↔ x = .ok b := by
  cases x with
  | error e => simp [ofExcept]
  | ok a => simp [ofExcept, eq_comm]

@[simp] lemma canReturn_bind {b : β} :
    CanReturn (p >>= f) b ↔ ∃ a, CanReturn p a ∧ CanReturn (f a) b := by
  induction p with
  | pure | fail => simp
  | op o k ih =>
    have hk : CanReturn (.op o k >>= f) b ↔ ∃ x, CanReturn (k x >>= f) b := Iff.rfl
    simp only [hk, ih]
    constructor
    · rintro ⟨x, a, ha, hb⟩
      exact ⟨a, ⟨x, ha⟩, hb⟩
    · rintro ⟨a, ⟨x, ha⟩, hb⟩
      exact ⟨x, a, ha, hb⟩

lemma canReturn_ite [Decidable c] :
    CanReturn (if c then p else q) b ↔ (c ∧ CanReturn p b) ∨ (¬ c ∧ CanReturn q b) := by
  by_cases hc : c <;> simp [hc]

@[simp] lemma uses_pure (a : α) : Uses P (Pure.pure a : Prog O A ε α) := trivial

@[simp] lemma uses_fail (e : ε) : Uses P (.fail e : Prog O A ε α) := trivial

@[simp] lemma uses_perform : Uses P (perform o : Prog O A ε (A o)) ↔ P o :=
  ⟨fun h => h.1, fun h => ⟨h, fun _ => trivial⟩⟩

@[simp] lemma uses_ofExcept (x : Except ε α) : Uses P (ofExcept x : Prog O A ε α) := by
  cases x <;> trivial

@[simp] lemma uses_bind : Uses P (p >>= f) ↔ Uses P p ∧ ∀ a, CanReturn p a → Uses P (f a) := by
  induction p with
  | pure | fail => simp
  | op o k ih =>
    have hk : Uses P (.op o k >>= f) ↔ P o ∧ ∀ x, Uses P (k x >>= f) := Iff.rfl
    have hp : Uses P (.op o k) ↔ P o ∧ ∀ x, Uses P (k x) := Iff.rfl
    simp only [hk, hp, ih]
    constructor
    · rintro ⟨ho, h⟩
      exact ⟨⟨ho, fun x => (h x).1⟩, fun a ⟨x, ha⟩ => (h x).2 a ha⟩
    · rintro ⟨⟨ho, h⟩, hf⟩
      exact ⟨ho, fun x => ⟨h x, fun a ha => hf a ⟨x, ha⟩⟩⟩

@[simp] lemma uses_mapError {f : ε → ε} : Uses P (p.mapError f) ↔ Uses P p := by
  induction p with
  | pure | fail => rfl
  | op o k ih =>
    have hk : Uses P ((Prog.op o k).mapError f) ↔ P o ∧ ∀ x, Uses P ((k x).mapError f) := Iff.rfl
    have hp : Uses P (.op o k) ↔ P o ∧ ∀ x, Uses P (k x) := Iff.rfl
    rw [hk, hp]
    exact and_congr_right fun _ => forall_congr' ih

lemma uses_ite [Decidable c] : Uses P (if c then p else q) ↔ (c → Uses P p) ∧ (¬ c → Uses P q) := by
  by_cases hc : c <;> simp [hc]

lemma Returns.canReturn {σ : Type*} {h : (o : O) → σ → A o × σ} {s s' : σ}
    (hr : Returns h p s a s') : CanReturn p a := by
  induction p generalizing s with
  | pure b => exact (returns_pure.mp hr).1
  | fail e => exact (returns_fail hr).elim
  | op o k ih => exact ⟨(h o s).1, ih _ hr⟩

lemma Uses.mono {P' : O → Prop} (hp : Uses P p) (himp : ∀ o, P o → P' o) : Uses P' p := by
  induction p with
  | pure | fail => trivial
  | op o k ih => exact ⟨himp o hp.1, fun a => ih a (hp.2 a)⟩

end Uses

section Along

variable {σ τ : Type*} {h : (o : O) → σ → A o × σ} {Q : O → σ → Prop}

/-- Every operation that the run from `s` performs satisfies `Q` in the state it is performed
in. -/
def Along (h : (o : O) → σ → A o × σ) (Q : O → σ → Prop) : Prog O A ε α → σ → Prop
  | .pure _, _ => True
  | .fail _, _ => True
  | .op o k, s => Q o s ∧ Along h Q (k (h o s).1) (h o s).2

@[simp] lemma along_pure (a : α) (s : σ) : Along h Q (Pure.pure a : Prog O A ε α) s := trivial

@[simp] lemma along_fail (e : ε) (s : σ) : Along h Q (.fail e : Prog O A ε α) s := trivial

variable {s : σ} {p : Prog O A ε α}

@[simp] lemma along_perform {o : O} : Along h Q (perform o : Prog O A ε (A o)) s ↔ Q o s :=
  ⟨fun h => h.1, fun h => ⟨h, trivial⟩⟩

@[simp] lemma along_ofExcept (x : Except ε α) (s : σ) :
    Along h Q (ofExcept x : Prog O A ε α) s := by
  cases x <;> trivial

lemma Along.bind {f : α → Prog O A ε β} (hp : Along h Q p s)
    (hf : ∀ a s', Returns h p s a s' → Along h Q (f a) s') : Along h Q (p >>= f) s := by
  induction p generalizing s with
  | pure a => exact hf a s rfl
  | fail e => trivial
  | op o k ih => exact ⟨hp.1, ih _ hp.2 fun a s' hr => hf a s' hr⟩

lemma Uses.along {P : O → Prop} (hp : Uses P p) (himp : ∀ o s, P o → Q o s) (s : σ) :
    Along h Q p s := by
  induction p generalizing s with
  | pure | fail => trivial
  | op o k ih => exact ⟨himp o s hp.1, ih _ (hp.2 _) _⟩

lemma along_true (p : Prog O A ε α) (s : σ) : Along h (fun _ _ => True) p s := by
  induction p generalizing s with
  | pure | fail => trivial
  | op o k ih => exact ⟨trivial, ih _ _⟩

lemma Along.keeps {I : σ → Prop} (hI : ∀ o s, Q o s → I s → I (h o s).2) (hp : Along h Q p s)
    (hs : I s) : I (run h p s).2 := by
  induction p generalizing s with
  | pure | fail => exact hs
  | op o k ih => exact ih _ hp.2 (hI o s hp.1 hs)

lemma Uses.keeps {P : O → Prop} {I : σ → Prop} (hI : ∀ o s, P o → I s → I (h o s).2) (hp : Uses P p)
    (hs : I s) : I (run h p s).2 :=
  (hp.along (fun _ _ ho => ho) s : Along h (fun o _ => P o) p s).keeps hI hs

/-- If an operation that is not `Q` leaves a mark, and nothing removes it, then a run that ends
without the mark performed only operations of `Q`. -/
lemma along_of_unmarked {M : σ → Prop} (sticks : ∀ o s, M s → M (h o s).2)
    (marks : ∀ o s, ¬ Q o s → M (h o s).2) (hend : ¬ M (run h p s).2) : Along h Q p s := by
  induction p generalizing s with
  | pure | fail => trivial
  | op o k ih =>
    refine ⟨Classical.byContradiction fun hQ => hend ?_, ih _ hend⟩
    have htrue : Along h (fun _ _ => True) (k (h o s).1) (h o s).2 := along_true _ _
    have hmark := htrue.keeps (fun o s _ => sticks o s) (marks o s hQ)
    exact hmark

end Along

section Simulation

variable {σ τ : Type*} {h₁ : (o : O) → σ → A o × σ} {h₂ : (o : O) → τ → A o × τ}
  {R D : σ → τ → Prop} {Q₁ : O → σ → Prop} {Q₂ : O → τ → Prop} {p : Prog O A ε α} {s : σ} {t : τ}

/-- Once the two states are dead to each other they stay so, whatever the two runs still do. -/
lemma run_dead (left : ∀ o s t, Q₁ o s → D s t → D (h₁ o s).2 t)
    (right : ∀ o s t, Q₂ o t → D s t → D s (h₂ o t).2) {q : Prog O A ε α} (hp : Along h₁ Q₁ p s)
    (hq : Along h₂ Q₂ q t) (hD : D s t) : D (run h₁ p s).2 (run h₂ q t).2 :=
  hq.keeps (fun o t hQ h => right o _ t hQ h) (hp.keeps (fun o s hQ h => left o s t hQ h) hD)

variable (step : ∀ o s t, Q₁ o s → Q₂ o t → R s t → D (h₁ o s).2 (h₂ o t).2 ∨
    ((h₁ o s).1 = (h₂ o t).1 ∧ R (h₁ o s).2 (h₂ o t).2))
  (left : ∀ o s t, Q₁ o s → D s t → D (h₁ o s).2 t)
  (right : ∀ o s t, Q₂ o t → D s t → D s (h₂ o t).2)
include step left right

/-- Two handlers run one program. If from related states each operation has the same answer and
leads to related states, or leaves the states dead to each other, then so does the whole run. -/
theorem run_simulates (hp : Along h₁ Q₁ p s) (hq : Along h₂ Q₂ p t) (hR : R s t) :
    D (run h₁ p s).2 (run h₂ p t).2 ∨
      ((run h₁ p s).1 = (run h₂ p t).1 ∧ R (run h₁ p s).2 (run h₂ p t).2) := by
  induction p generalizing s t with
  | pure | fail => exact .inr ⟨rfl, hR⟩
  | op o k ih =>
    rw [run_op, run_op]
    rcases step o s t hp.1 hq.1 hR with hD | ⟨hans, hR'⟩
    · exact .inl (run_dead left right hp.2 hq.2 hD)
    · have hq' : Along h₂ Q₂ (k (h₁ o s).1) (h₂ o t).2 := hans ▸ hq.2
      rw [← hans]
      exact ih (h₁ o s).1 hp.2 hq' hR'

/-- What holds of every operation on the second side holds of it on the first, as long as the two
runs never become dead to each other. -/
theorem along_of_simulates {P1 : O → σ → Prop} {P2 : O → τ → Prop}
    (transfer : ∀ o s t, R s t → P2 o t → P1 o s)
    (hp : Along h₁ Q₁ p s) (hq : Along h₂ Q₂ p t) (hR : R s t) (hP : Along h₂ P2 p t)
    (halive : ¬ D (run h₁ p s).2 (run h₂ p t).2) : Along h₁ P1 p s := by
  induction p generalizing s t with
  | pure | fail => trivial
  | op o k ih =>
    rw [run_op, run_op] at halive
    refine ⟨transfer o s t hR hP.1, ?_⟩
    rcases step o s t hp.1 hq.1 hR with hD | ⟨hans, hR'⟩
    · exact (halive (run_dead left right hp.2 hq.2 hD)).elim
    · rw [← hans] at halive
      exact ih (h₁ o s).1 hp.2 (hans ▸ hq.2) hR' (hans ▸ hP.2) halive

end Simulation

end Prog

end RethBsc
