import Mathlib.Data.Finset.Card

/-!
Justification and finality by supermajority links, for arbitrary blocks and voters.

A link is a vote from a source block to a target block above it. Heights are justified one
link after another, starting at genesis; a justified height is finalized by a link to the
height right above it. Two finalized blocks on diverging branches force conflicting links,
and whoever voted for both can be blamed.
-/

namespace RethBsc

structure Link (B : Type*) where
  sourceHeight : ℕ
  source : B
  targetHeight : ℕ
  target : B

namespace Link

variable {B : Type*}

/-- The span of the first link strictly contains the span of the second. -/
def Encloses (a b : Link B) : Prop :=
  a.sourceHeight < b.sourceHeight ∧ b.targetHeight < a.targetHeight

/-- Two links nobody may vote for both of. -/
def Conflict (a b : Link B) : Prop :=
  a ≠ b ∧ (a.targetHeight = b.targetHeight ∨ a.Encloses b ∨ b.Encloses a)

/-- The link between two heights of a branch. -/
def along (block : ℕ → B) (j k : ℕ) : Link B := ⟨j, block j, k, block k⟩

end Link

section Justification

variable {B : Type*} {linked : Link B → Prop} {block : ℕ → B}

/-- Genesis is justified, and so is the target of a link from a justified source. -/
inductive Justified (linked : Link B → Prop) (block : ℕ → B) : ℕ → Prop
  | genesis : Justified linked block 0
  | link {j k : ℕ} (source : Justified linked block j) (lt : j < k)
      (votes : linked (Link.along block j k)) : Justified linked block k

/-- Finalized heights are justified and linked to the height right above. -/
structure Finalized (linked : Link B → Prop) (block : ℕ → B) (k : ℕ) : Prop where
  justified : Justified linked block k
  link : linked (Link.along block k (k + 1))

/-- On the way from genesis to a justified height some link passes over every height. -/
lemma Justified.exists_link_over {k x : ℕ} (h : Justified linked block k) (hx : x < k) :
    ∃ j t, j ≤ x ∧ x < t ∧ t ≤ k ∧ linked (Link.along block j t) := by
  induction h with
  | genesis => omega
  | link source lt votes ih =>
    rename_i j k
    by_cases hj : j ≤ x
    · exact ⟨j, k, hj, hx, le_refl k, votes⟩
    · obtain ⟨j', t, h1, h2, h3, h4⟩ := ih (by omega)
      exact ⟨j', t, h1, h2, by omega, h4⟩

/-- **Conflicting links.** A block finalized on one branch, and a justified height on
another branch that does not contain the block, leave two conflicting links. -/
theorem exists_conflict {linked1 linked2 : Link B → Prop} {block1 block2 : ℕ → B} {k1 k2 : ℕ}
    (h1 : Finalized linked1 block1 k1) (h2 : Justified linked2 block2 k2) (hpos : 0 < k1)
    (hle : k1 ≤ k2) (hne : block1 k1 ≠ block2 k1) :
    ∃ a b, linked1 a ∧ linked2 b ∧ a.Conflict b := by
  -- the link of the second branch that reaches `k1` or passes over it
  obtain ⟨j, t, hj, ht, -, hlink⟩ := h2.exists_link_over (x := k1 - 1) (by omega)
  obtain htk | htk | htk : t = k1 ∨ t = k1 + 1 ∨ k1 + 1 < t := by omega
  · -- same target height as the link that justified `k1`
    subst htk
    obtain ⟨j1, t1, -, hlt, hle1, hlink1⟩ := h1.justified.exists_link_over (x := t - 1) (by omega)
    have ht1 : t1 = t := by omega
    subst ht1
    refine ⟨_, _, hlink1, hlink, fun heq => hne ?_, Or.inl rfl⟩
    exact congrArg Link.target heq
  · -- same target height as the link that finalized `k1`, from another source
    subst htk
    refine ⟨_, _, h1.link, hlink, fun heq => ?_, Or.inl rfl⟩
    have hs : k1 = j := congrArg Link.sourceHeight heq
    omega
  · -- a span around the link that finalized `k1`
    have henc : (Link.along block2 j t).Encloses (Link.along block1 k1 (k1 + 1)) :=
      ⟨show j < k1 by omega, htk⟩
    refine ⟨_, _, h1.link, hlink, fun heq => ?_, Or.inr (Or.inr henc)⟩
    have hs : k1 = j := congrArg Link.sourceHeight heq
    omega

end Justification

section Quorums

variable {V B : Type*} [DecidableEq V]

/-- At least `q` of the members voted for the link. -/
def Supported (members : Finset V) (q : ℕ) (voted : V → Link B → Prop) (l : Link B) : Prop :=
  ∃ Q ⊆ members, q ≤ Q.card ∧ ∀ v ∈ Q, voted v l

lemma card_inter_quorums {members Q1 Q2 : Finset V} {q : ℕ} (h1 : Q1 ⊆ members)
    (h2 : Q2 ⊆ members) (hq1 : q ≤ Q1.card) (hq2 : q ≤ Q2.card) :
    2 * q - members.card ≤ (Q1 ∩ Q2).card := by
  have hsum := Finset.card_union_add_card_inter Q1 Q2
  have hunion : (Q1 ∪ Q2).card ≤ members.card := Finset.card_le_card (Finset.union_subset h1 h2)
  omega

/-- **Accountable safety.** Where two branches finalize blocks neither of which lies on the
other branch, the overlap of two quorums voted for conflicting links. -/
theorem accountable_safety {members : Finset V} {q : ℕ} {voted : V → Link B → Prop}
    {block1 block2 : ℕ → B} {k1 k2 : ℕ}
    (h1 : Finalized (Supported members q voted) block1 k1)
    (h2 : Finalized (Supported members q voted) block2 k2)
    (hpos1 : 0 < k1) (hpos2 : 0 < k2)
    (hne1 : k1 ≤ k2 → block1 k1 ≠ block2 k1) (hne2 : k2 ≤ k1 → block2 k2 ≠ block1 k2) :
    ∃ X ⊆ members, 2 * q - members.card ≤ X.card ∧
      ∀ v ∈ X, ∃ a b, voted v a ∧ voted v b ∧ a.Conflict b := by
  have hlinks : ∃ a b, Supported members q voted a ∧ Supported members q voted b ∧
      a.Conflict b := by
    rcases Nat.le_total k1 k2 with hle | hle
    · exact exists_conflict h1 h2.justified hpos1 hle (hne1 hle)
    · exact exists_conflict h2 h1.justified hpos2 hle (hne2 hle)
  obtain ⟨a, b, ⟨Q1, hQ1, hq1, hv₁⟩, ⟨Q2, hQ2, hq2, hv₂⟩, hab⟩ := hlinks
  refine ⟨Q1 ∩ Q2, fun v hv => hQ1 (Finset.mem_inter.mp hv).1,
    card_inter_quorums hQ1 hQ2 hq1 hq2, fun v hv => ?_⟩
  obtain ⟨hv1, hv2⟩ := Finset.mem_inter.mp hv
  exact ⟨a, b, hv₁ v hv1, hv₂ v hv2, hab⟩

end Quorums

end RethBsc
