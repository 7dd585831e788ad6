import Mathlib.Data.Multiset.Basic
import Mathlib.Data.Prod.Lex
import RethBsc.Chain

/-!
The choice between the current head and an incoming header.

`is_need_reorg` compares by justified number, total difficulty, height and time stamp, and
breaks ties between blocks of one proposer by hash, others by a random draw. All but the tie
break is the order of one lexicographic key. So whatever the order of arrival and the draws, the
head that is left has the largest key.
-/

namespace RethBsc

open List

/-! ### Keeping the larger of two -/

section Choice

variable {α β ε κ : Type*} [LinearOrder κ]

/-- One of two elements, with a key not below either. -/
structure Chooses (key : α → κ) (current incoming chosen : α) : Prop where
  mem : chosen = current ∨ chosen = incoming
  current_le : key current ≤ key chosen
  incoming_le : key incoming ≤ key chosen

/-- **A run of choices** ends at an element with the largest key. -/
theorem foldlM_chooses (key : α → κ) (item : β → α) (P : α → Prop) {step : α → β → Except ε α}
    (hstep : ∀ a b, P a → P (item b) → ∃ c, step a b = .ok c ∧ Chooses key a (item b) c)
    {a : α} {l : List β} (ha : P a) (hl : ∀ b ∈ l, P (item b)) :
    ∃ c, l.foldlM step a = .ok c ∧ c ∈ a :: l.map item ∧ ∀ x ∈ a :: l.map item, key x ≤ key c := by
  induction l generalizing a with
  | nil => exact ⟨a, rfl, by simp, by simp⟩
  | cons b l ih =>
    have hb := hl b mem_cons_self
    obtain ⟨next, hnext, hchoice⟩ := hstep a b ha hb
    have hP : P next := by
      rcases hchoice.mem with h | h
      · exact h ▸ ha
      · exact h ▸ hb
    obtain ⟨c, hc, hmem, hmax⟩ := ih hP fun b' hb' => hl b' (mem_cons_of_mem b hb')
    refine ⟨c, ?_, ?_, ?_⟩
    · rw [foldlM_cons, hnext]
      exact hc
    · rcases mem_cons.mp hmem with h | h
      · rcases hchoice.mem with h' | h'
        · simp [h, h']
        · simp [h, h']
      · simp [h]
    · intro x hx
      have hle := hmax next mem_cons_self
      rw [map_cons, mem_cons, mem_cons] at hx
      rcases hx with rfl | rfl | hx
      · exact hchoice.current_le.trans hle
      · exact hchoice.incoming_le.trans hle
      · exact hmax x (mem_cons_of_mem _ hx)

end Choice

/-! ### The rule -/

structure HeaderForForkchoice where
  header : Header
  td : Option ℕ
  justifiedNum : ℕ
  deriving DecidableEq

inductive HeadChoiceError
  | unknownTotalDifficulty (hash : B256) (number : ℕ)
  deriving DecidableEq

variable (deps : Deps) (spec : ChainSpec)

def headChoiceWithFastFinality (incoming current : HeaderForForkchoice) : Option Bool :=
  if !spec.isPlatoActiveAtBlock incoming.header.number &&
      !spec.isPlatoActiveAtBlock current.header.number then none
  else if incoming.justifiedNum ≠ current.justifiedNum then
    some (decide (incoming.justifiedNum > current.justifiedNum))
  else none

/-- `draw` tells whether the random number, if one is drawn, is below one half. -/
def headChoiceWithTd (draw : Bool) (incoming current : HeaderForForkchoice) :
    Except HeadChoiceError Bool :=
  match current.td, incoming.td with
  | none, _ => .error (.unknownTotalDifficulty (deps.hashSlow current.header) current.header.number)
  | some _, none =>
    .error (.unknownTotalDifficulty (deps.hashSlow incoming.header) incoming.header.number)
  | some currentTd, some incomingTd =>
    match compare incomingTd currentTd with
    | .gt => .ok true
    | .lt => .ok false
    | .eq =>
      if incoming.header.number < current.header.number then .ok true
      else if incoming.header.number > current.header.number then .ok false
      else if incoming.header.timestamp = current.header.timestamp then
        if incoming.header.beneficiary = current.header.beneficiary then
          .ok (decide (deps.hashSlow incoming.header < deps.hashSlow current.header))
        else .ok draw
      else .ok (decide (incoming.header.timestamp < current.header.timestamp))

def isNeedReorg (draw : Bool) (incoming current : HeaderForForkchoice) :
    Except HeadChoiceError Bool :=
  match headChoiceWithFastFinality spec incoming current with
  | some needReorg => .ok needReorg
  | none => headChoiceWithTd deps draw incoming current

/-- The head after a header has come in with a draw: `new_canonical_head`. -/
def newCanonicalHead (current : HeaderForForkchoice) (arrival : HeaderForForkchoice × Bool) :
    Except HeadChoiceError HeaderForForkchoice :=
  (isNeedReorg deps spec arrival.2 arrival.1 current).map fun needReorg =>
    if needReorg then arrival.1 else current

def headAfter (head : HeaderForForkchoice) (arrivals : List (HeaderForForkchoice × Bool)) :
    Except HeadChoiceError HeaderForForkchoice :=
  arrivals.foldlM (newCanonicalHead deps spec) head

namespace HeaderForForkchoice

/-- What the rule prefers: a larger justified number, then a larger total difficulty, then a
smaller number, then a smaller time stamp. -/
def key (h : HeaderForForkchoice) : ℕ ×ₗ ℕ ×ₗ ℕᵒᵈ ×ₗ ℕᵒᵈ :=
  toLex (h.justifiedNum, toLex (h.td.getD 0, toLex (OrderDual.toDual h.header.number,
    OrderDual.toDual h.header.timestamp)))

lemma key_lt_iff {a b : HeaderForForkchoice} : a.key < b.key ↔ a.justifiedNum < b.justifiedNum ∨
    a.justifiedNum = b.justifiedNum ∧ (a.td.getD 0 < b.td.getD 0 ∨
      a.td.getD 0 = b.td.getD 0 ∧ (b.header.number < a.header.number ∨
        a.header.number = b.header.number ∧ b.header.timestamp < a.header.timestamp)) := by
  simp [key, Prod.Lex.toLex_lt_toLex]

lemma key_eq_iff {a b : HeaderForForkchoice} : a.key = b.key ↔
    a.justifiedNum = b.justifiedNum ∧ a.td.getD 0 = b.td.getD 0 ∧
      a.header.number = b.header.number ∧ a.header.timestamp = b.header.timestamp := by
  simp [key]

end HeaderForForkchoice

open HeaderForForkchoice

/-- Between equal keys: the smaller hash of one proposer, else the draw. -/
def tieBreak (draw : Bool) (incoming current : HeaderForForkchoice) : Bool :=
  if incoming.header.beneficiary = current.header.beneficiary then
    decide (deps.hashSlow incoming.header < deps.hashSlow current.header)
  else draw

variable {deps spec} {incoming current : HeaderForForkchoice} {draw : Bool}

/-- **The rule is the order of the keys**, with the tie break between equal ones. -/
theorem isNeedReorg_eq (hplato : spec.isPlatoActiveAtBlock incoming.header.number)
    (hincoming : incoming.td.isSome) (hcurrent : current.td.isSome) :
    isNeedReorg deps spec draw incoming current = .ok (decide (current.key < incoming.key) ||
        decide (current.key = incoming.key) && tieBreak deps draw incoming current) := by
  obtain ⟨incomingTd, hi⟩ := Option.isSome_iff_exists.mp hincoming
  obtain ⟨currentTd, hc⟩ := Option.isSome_iff_exists.mp hcurrent
  simp only [key_lt_iff, key_eq_iff, hi, hc, Option.getD_some, isNeedReorg,
    headChoiceWithFastFinality, headChoiceWithTd, hplato, tieBreak]
  -- the components of the key, in their order
  rcases lt_trichotomy incoming.justifiedNum current.justifiedNum with hj | hj | hj
  · simp [hj.ne, hj.ne', hj.not_gt]
  · rcases lt_trichotomy incomingTd currentTd with htd | htd | htd
    · simp [hj, htd.ne', htd.not_gt, compare_lt_iff_lt.mpr htd]
    · rcases lt_trichotomy incoming.header.number current.header.number with hn | hn | hn
      · simp [hj, htd, hn, hn.ne']
      · rcases lt_trichotomy incoming.header.timestamp current.header.timestamp with ht | ht | ht
        · simp [hj, htd, hn, ht, ht.ne, ht.ne']
        · by_cases hben : incoming.header.beneficiary = current.header.beneficiary
          · simp [hj, htd, hn, ht, hben]
          · simp [hj, htd, hn, ht, hben]
        · simp [hj, htd, hn, ht.ne, ht.ne', ht.not_gt]
      · simp [hj, htd, hn.ne, hn.not_gt, hn]
    · simp [hj, htd, compare_gt_iff_gt.mpr htd]
  · simp [hj, hj.ne']

lemma newCanonicalHead_chooses (deps : Deps) (draw : Bool)
    (hplato : spec.isPlatoActiveAtBlock incoming.header.number)
    (hincoming : incoming.td.isSome) (hcurrent : current.td.isSome) :
    ∃ chosen, newCanonicalHead deps spec current (incoming, draw) = .ok chosen ∧
      Chooses key current incoming chosen := by
  rw [newCanonicalHead, isNeedReorg_eq hplato hincoming hcurrent]
  refine ⟨_, rfl, ?_⟩
  rcases lt_trichotomy current.key incoming.key with hlt | heq | hgt
  · simp only [hlt, decide_true, Bool.true_or, if_true]
    exact ⟨Or.inr rfl, hlt.le, le_refl _⟩
  · simp only [heq, lt_irrefl, decide_false, decide_true, Bool.false_or, Bool.true_and]
    split_ifs
    · exact ⟨Or.inr rfl, heq.le, le_refl _⟩
    · exact ⟨Or.inl rfl, le_refl _, heq.ge⟩
  · simp only [hgt.not_gt, hgt.ne', decide_false, Bool.false_or, Bool.false_and,
      Bool.false_eq_true, if_false]
    exact ⟨Or.inl rfl, le_refl _, hgt.le⟩

/-- A header of Plato whose total difficulty is known. -/
def Comparable (spec : ChainSpec) (h : HeaderForForkchoice) : Prop :=
  spec.isPlatoActiveAtBlock h.header.number = true ∧ h.td.isSome = true

lemma key_eq_of_isNeedReorg {a b : HeaderForForkchoice} {draw draw' : Bool}
    (ha : Comparable spec a) (hb : Comparable spec b)
    (hab : isNeedReorg deps spec draw a b = .ok true)
    (hba : isNeedReorg deps spec draw' b a = .ok true) :
    a.key = b.key ∧ a.header.beneficiary ≠ b.header.beneficiary := by
  rw [isNeedReorg_eq ha.1 ha.2 hb.2] at hab
  rw [isNeedReorg_eq hb.1 hb.2 ha.2] at hba
  have hab' := Except.ok.inj hab
  have hba' := Except.ok.inj hba
  simp only [Bool.or_eq_true, Bool.and_eq_true, decide_eq_true_eq] at hab' hba'
  rcases hab' with hlt | ⟨heq, htie⟩
  · rcases hba' with hgt | ⟨heq, -⟩
    · exact absurd hgt hlt.not_gt
    · exact absurd heq hlt.ne'
  · refine ⟨heq.symm, fun hben => ?_⟩
    rcases hba' with hgt | ⟨-, htie'⟩
    · exact absurd heq hgt.ne'
    · rw [tieBreak, if_pos hben, decide_eq_true_eq] at htie
      rw [tieBreak, if_pos hben.symm, decide_eq_true_eq] at htie'
      exact absurd htie' htie.not_gt

lemma headAfter_spec {head : HeaderForForkchoice} {arrivals : List (HeaderForForkchoice × Bool)}
    (hhead : Comparable spec head) (harrivals : ∀ e ∈ arrivals, Comparable spec e.1) :
    ∃ final, headAfter deps spec head arrivals = .ok final ∧ final ∈ head :: arrivals.map Prod.fst ∧
      ∀ h ∈ head :: arrivals.map Prod.fst, h.key ≤ final.key :=
  foldlM_chooses key Prod.fst (Comparable spec)
    (fun _ e hcurrent hincoming => newCanonicalHead_chooses deps e.2 hincoming.1 hincoming.2
      hcurrent.2) hhead harrivals

lemma headAfter_concat {head old new : HeaderForForkchoice}
    {before : List (HeaderForForkchoice × Bool)} {arrival : HeaderForForkchoice × Bool}
    (hold : headAfter deps spec head before = .ok old)
    (hnew : newCanonicalHead deps spec old arrival = .ok new) :
    headAfter deps spec head (before ++ [arrival]) = .ok new := by
  rw [headAfter, foldlM_append, ← headAfter, hold]
  change (foldlM (newCanonicalHead deps spec) old [arrival]) = .ok new
  rw [foldlM_cons, hnew]
  rfl

/-- **The fork choice does not depend on the order of arrival.** Whatever the order in which
Plato headers arrive, the first of them as the head to start from, and whatever is drawn, the
head that is left has the largest key of all; no arrival lowers the key of the head; and two
headers replace each other only if their keys are equal and their proposers differ. -/
theorem headAfter_maximal (deps : Deps) {M : Multiset HeaderForForkchoice}
    (hplato : ∀ h ∈ M, spec.isPlatoActiveAtBlock h.header.number = true)
    (htd : ∀ h ∈ M, h.td.isSome = true) :
    (∀ head arrivals, (head :: arrivals.map Prod.fst : Multiset HeaderForForkchoice) = M →
      (∃ final, headAfter deps spec head arrivals = .ok final ∧ final ∈ M ∧
        ∀ h ∈ M, h.key ≤ final.key) ∧
      ∀ before arrival after, arrivals = before ++ arrival :: after →
        ∃ old new, headAfter deps spec head before = .ok old ∧
          headAfter deps spec head (before ++ [arrival]) = .ok new ∧ old.key ≤ new.key) ∧
    ∀ a ∈ M, ∀ b ∈ M, ∀ draw draw', isNeedReorg deps spec draw a b = .ok true →
      isNeedReorg deps spec draw' b a = .ok true →
        a.key = b.key ∧ a.header.beneficiary ≠ b.header.beneficiary := by
  have hM : ∀ h ∈ M, Comparable spec h := fun h hh => ⟨hplato h hh, htd h hh⟩
  refine ⟨?_, fun a ha b hb draw draw' hab hba => key_eq_of_isNeedReorg (hM a ha) (hM b hb) hab hba⟩
  rintro head arrivals rfl
  have hhead : Comparable spec head := hM head mem_cons_self
  have harrivals : ∀ e ∈ arrivals, Comparable spec e.1 := fun e he =>
    hM e.1 (mem_cons_of_mem _ (mem_map_of_mem he))
  refine ⟨headAfter_spec hhead harrivals, ?_⟩
  rintro before arrival after rfl
  have hbefore : ∀ e ∈ before, Comparable spec e.1 := fun e he =>
    harrivals e (mem_append_left _ he)
  have harrival : Comparable spec arrival.1 := harrivals arrival (by simp)
  obtain ⟨old, hold, hmem, -⟩ := headAfter_spec hhead hbefore
  have holdc : Comparable spec old := by
    rcases mem_cons.mp hmem with rfl | hmem
    · exact hhead
    · obtain ⟨e, he, rfl⟩ := mem_map.mp hmem
      exact hbefore e he
  obtain ⟨new, hnew, hchoice⟩ :=
    newCanonicalHead_chooses deps arrival.2 harrival.1 harrival.2 holdc.2
  exact ⟨old, new, hold, headAfter_concat hold hnew, hchoice.current_le⟩

/-! ### Two headers -/

def heavyHead : HeaderForForkchoice := ⟨sampleHeader 4 0 1 0 [], some 9, 1⟩

def justifiedHead : HeaderForForkchoice := ⟨sampleHeader 3 0 2 0 [], some 7, 2⟩

/-- The header with the higher justified number replaces the heavier one. -/
theorem headAfter_maximal_two : ∃ final,
    headAfter (sampleDeps true) (sampleSpec (.block 0) .never .never) heavyHead
        [(justifiedHead, false)] = .ok final ∧
      justifiedHead.key ≤ final.key ∧ heavyHead.key ≤ final.key := by
  have hplato : ∀ h ∈ (([heavyHead, justifiedHead] : List _) : Multiset HeaderForForkchoice),
      (sampleSpec (.block 0) .never .never).isPlatoActiveAtBlock h.header.number = true := by
    intro h hh
    rcases mem_cons.mp hh with rfl | hh
    · decide
    · obtain rfl := mem_singleton.mp hh
      decide
  have htd : ∀ h ∈ (([heavyHead, justifiedHead] : List _) : Multiset HeaderForForkchoice),
      h.td.isSome = true := by
    intro h hh
    rcases mem_cons.mp hh with rfl | hh
    · rfl
    · obtain rfl := mem_singleton.mp hh
      rfl
  obtain ⟨⟨final, hfinal, -, hmax⟩, -⟩ :=
    (headAfter_maximal (sampleDeps true) hplato htd).1 heavyHead [(justifiedHead, false)] rfl
  exact ⟨final, hfinal, hmax _ (by simp), hmax _ (by simp)⟩

end RethBsc
