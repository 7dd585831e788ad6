import RethBsc.Liveness
import RethBsc.Record

/-!
When the validators of a checkpoint come into force.

A checkpoint is a block whose number is a multiple of the epoch length; the block
`minerHistoryCheckLen` above it puts the checkpoint's validators and turn length in force.
That block leaves a mark, the key `u64::MAX - number / epochLength` of the record, so that a
longer window does not switch a second time in the same epoch. The mark only names the
number of the epoch. When the epoch length changes, a later epoch can carry a number that is
still marked, and its checkpoint is then passed over: `Collides`.
-/

namespace RethBsc

open Snapshot Nat ForkCondition ChainSpec OrdMap

namespace Parlia

variable {parlia : Parlia} {header : Header} {epochLength : ℕ}

section

variable (hepoch : header.number % epochLength = 0)
include hepoch

lemma getValidatorBytesFromHeader_dvd {bytes : Bytes}
    (h : parlia.getValidatorBytesFromHeader header epochLength = some bytes) :
    (if parlia.spec.isLubanActiveAtBlock header.number then validatorBytesLenAfterLuban
      else validatorBytesLenBeforeLuban) ∣ bytes.length := by
  have hmult : isMultipleOf header.number epochLength := by
    simpa [isMultipleOf] using hepoch
  unfold getValidatorBytesFromHeader at h
  simp only [hmult, Bool.not_true, Bool.false_eq_true, if_false, Bool.true_and] at h
  split at h
  · cases h
  next hlen =>
  split at h
  · next hluban =>
    generalize (if parlia.spec.isBohrActiveAtTimestamp header.number header.timestamp
      then turnLengthSize else 0) = turnByte at h
    split at h
    · cases h
    next hcount =>
    obtain ⟨-, hmin⟩ := not_or.mp hcount
    cases h
    rw [if_pos hluban, slice, List.length_drop, List.length_take, min_eq_left (by omega),
      Nat.add_sub_cancel_left]
    exact dvd_mul_left _ _
  · next hluban =>
    split at h
    · cases h
    next hwhole =>
    cases h
    rw [if_neg hluban, slice, List.length_drop, List.length_take, min_eq_left (by omega)]
    simp only [isMultipleOf, Bool.not_eq_true', decide_eq_false_iff_not, not_not] at hwhole
    exact Nat.dvd_of_mod_eq_zero (by rwa [Nat.sub_right_comm])

lemma parseValidatorsFromHeader_ne_nil {info : ValidatorsInfo}
    (h : parlia.parseValidatorsFromHeader header epochLength = .ok info) :
    info.consensusAddrs ≠ [] := by
  unfold parseValidatorsFromHeader at h
  split at h
  · cases h
  · cases h
  next bytes hne hbytes =>
  have hdvd := getValidatorBytesFromHeader_dvd hepoch hbytes
  have hpos : 0 < bytes.length := List.length_pos_iff.mpr hne
  split_ifs at h hdvd with hluban
  · cases h
    have hcount : bytes.length / validatorBytesLenAfterLuban ≠ 0 :=
      (div_pos (le_of_dvd hpos hdvd) (by decide)).ne'
    simpa [parseValidatorsAfterLuban] using hcount
  · cases h
    have hcount : bytes.length / validatorBytesLenBeforeLuban ≠ 0 :=
      (div_pos (le_of_dvd hpos hdvd) (by decide)).ne'
    simpa [parseValidatorsBeforeLuban] using hcount

lemma getTurnLengthFromHeader_ne_none {turnLength : Option UInt8}
    (hbohr : parlia.spec.isBohrActiveAtTimestamp header.number header.timestamp)
    (h : parlia.getTurnLengthFromHeader header epochLength = .ok turnLength) :
    ∃ t, turnLength = some t := by
  have hmult : isMultipleOf header.number epochLength := by
    simpa [isMultipleOf] using hepoch
  unfold getTurnLengthFromHeader at h
  simp only [hmult, hbohr, Bool.not_true, Bool.or_false, Bool.false_eq_true, if_false] at h
  split_ifs at h
  exact ⟨_, (Except.ok.inj h).symm⟩

end

end Parlia

namespace Chain

variable {parlia : Parlia} {deps : Deps} (c : Chain parlia deps)

/-- Block `i + 1` sits `minerHistoryCheckLen` into its epoch. -/
def AtBoundary (i : ℕ) : Prop := (i + 1) % (c.snap i).epochNum = (c.snap i).minerHistoryCheckLen

/-- Blocks `i + 1` and `j + 1` belong to the same epoch of one length. -/
def SameEpoch (i j : ℕ) : Prop :=
  (c.snap j).epochNum = (c.snap i).epochNum ∧
    (j + 1) / (c.snap i).epochNum = (i + 1) / (c.snap i).epochNum

/-- The snapshot at height `j` has exactly the validators and the turn length of the
checkpoint at height `k`, read under the given epoch length. -/
def InForce (j k epochLength : ℕ) : Prop :=
  ∃ info turnLength,
    parlia.parseValidatorsFromHeader (c.header k) epochLength = .ok info ∧
    parlia.getTurnLengthFromHeader (c.header k) epochLength = .ok (some turnLength) ∧
    (c.snap j).validators = sortAddrs info.consensusAddrs ∧
    (c.snap j).validatorsMap = buildValidatorsMap info.consensusAddrs info.voteAddrs ∧
    (c.snap j).turnLength = some turnLength

/-- Nothing at the heights above `a` and up to `b` clears the key as finalized. -/
def Keeps (key a b : ℕ) : Prop := ∀ j, a < j → j ≤ b → c.clearedUpTo j < key

/-- The last switch before block `i + 1` happened at block `k + 1`. -/
def LastSwitch (k i : ℕ) : Prop :=
  k < i ∧ c.switchesAt k = true ∧ ∀ j, k < j → j < i → c.switchesAt j = false

/-- The mark of the last switch, made under another epoch length, is still there and reads
as the mark of the epoch of block `i + 1`. -/
def Collides (i : ℕ) : Prop :=
  ∃ k, c.LastSwitch k i ∧ (c.snap k).epochNum ≠ (c.snap i).epochNum ∧
    (k + 1) / (c.snap k).epochNum = (i + 1) / (c.snap i).epochNum ∧
    c.Keeps (Snapshot.epochKey (i + 1) (c.snap i).epochNum) (k + 1) (i + 1)

def MarksAbove : Prop := ∀ i < c.len, c.len < Snapshot.epochKey (i + 1) (c.snap i).epochNum

variable {c}

/-! ### Epoch lengths -/

lemma nextEpochNum_ge (isLorentz isMaxwell : Bool) (n e : ℕ) :
    e ≤ nextEpochNum isLorentz isMaxwell n e := by
  have hgrow : ∀ old new : ℕ, old ≤ new → ∀ b : Bool, ∀ m : ℕ,
      m ≤ if m = old && b then new else m := by
    intro old new hle b m
    cases b <;> by_cases hm : m = old <;> simp [hm, hle]
  unfold nextEpochNum
  simp only [Bool.and_assoc]
  exact (hgrow _ _ (by decide) _ e).trans (hgrow _ _ (by decide) _ _)

variable {i j : ℕ}

lemma epochNum_mono (hij : i ≤ j) (hj : j ≤ c.len) : (c.snap i).epochNum ≤ (c.snap j).epochNum := by
  induction j, hij using le_induction with
  | base => exact le_rfl
  | succ j _ ih =>
    obtain ⟨info, turnLength, -, happ⟩ := c.applied hj
    calc (c.snap i).epochNum ≤ (c.snap j).epochNum := ih (by omega)
      _ ≤ nextEpochNum _ _ _ (c.snap j).epochNum := nextEpochNum_ge _ _ _ _
      _ = (c.snap (j + 1)).epochNum := happ.epochNum.symm

lemma marksAbove_of_lt (h : c.len < 2 ^ 63) : c.MarksAbove := by
  intro i hi
  have hdiv := div_le_self (i + 1) (c.snap i).epochNum
  unfold epochKey u64Max
  omega

lemma SameEpoch.of_le {m : ℕ} (h : c.SameEpoch i j) (him : i ≤ m) (hmj : m ≤ j) (hj : j ≤ c.len) :
    c.SameEpoch i m := by
  have h1 := epochNum_mono him (hmj.trans hj)
  have h2 := epochNum_mono hmj hj
  have h3 : (i + 1) / (c.snap i).epochNum ≤ (m + 1) / (c.snap i).epochNum :=
    Nat.div_le_div_right (by omega)
  have h4 : (m + 1) / (c.snap i).epochNum ≤ (j + 1) / (c.snap i).epochNum :=
    Nat.div_le_div_right (by omega)
  have h5 := h.1
  have h6 := h.2
  exact ⟨by omega, by omega⟩

/-! ### The mark of an epoch -/

lemma contains_recorded_iff {key : ℕ} (hi : i < c.len) (hkey : c.len < key) :
    (c.recorded i).contains key ↔
      c.clearedUpTo (i + 1) < key ∧ (c.snap i).recentProposers.contains key := by
  have hne : key ≠ i + 1 := by omega
  have hget : ∀ v, (c.recorded i).get key = some v ↔
      c.clearedUpTo (i + 1) < key ∧ (c.snap i).recentProposers.get key = some v := by
    intro v
    rw [get_recorded_iff hi (by omega), if_neg hne, get_pruneProposers_iff]
    constructor
    · exact fun h => ⟨h.1, h.2.1⟩
    · exact fun h => ⟨h.1, h.2, fun hk => by omega⟩
  rw [contains_iff, contains_iff]
  constructor
  · rintro ⟨v, hv⟩
    exact ⟨((hget v).mp hv).1, v, ((hget v).mp hv).2⟩
  · rintro ⟨hlt, v, hv⟩
    exact ⟨v, (hget v).mpr ⟨hlt, hv⟩⟩

/-- **Where a mark comes from.** Under Bohr a key above all block numbers is on record
exactly when the last switch left it and nothing has cleared it since. -/
lemma contains_iff_lastSwitch (hbohr : ∀ j ≤ c.len, c.bohrAt j) {key : ℕ} (hi : i ≤ c.len)
    (hkey : c.len < key) :
    (c.snap i).recentProposers.contains key ↔ ∃ k, c.LastSwitch k i ∧
      key = epochKey (k + 1) (c.snap k).epochNum ∧ c.Keeps key (k + 1) i := by
  induction i with
  | zero =>
    rw [c.snap_zero.2.2.1]
    constructor
    · intro h; cases h
    · rintro ⟨k, hk, -⟩
      exact absurd hk.1 (not_lt_zero k)
  | succ i ih =>
    rcases record_succ (show i < c.len from hi) with ⟨hsw, hrec, -⟩ | ⟨hsw, -, hrec⟩ | ⟨-, hb, -⟩
    · rw [hrec, contains_recorded_iff hi hkey, ih (by omega)]
      constructor
      · rintro ⟨hlt, k, ⟨hki, hk, hlast⟩, hmark, hkeeps⟩
        refine ⟨k, ⟨by omega, hk, fun j hkj hj => ?_⟩, hmark, fun j hkj hj => ?_⟩
        · by_cases hji : j = i
          · rw [hji]; exact hsw
          · exact hlast j hkj (by omega)
        · by_cases hji : j = i + 1
          · rw [hji]; exact hlt
          · exact hkeeps j hkj (by omega)
      · rintro ⟨k, ⟨hki, hk, hlast⟩, hmark, hkeeps⟩
        have hne : k ≠ i := by rintro rfl; rw [hsw] at hk; cases hk
        refine ⟨hkeeps (i + 1) (by omega) le_rfl, k, ⟨by omega, hk, fun j hkj hj => ?_⟩, hmark,
          fun j hkj hj => hkeeps j hkj (by omega)⟩
        exact hlast j hkj (by omega)
    · -- the switch has left its own mark and nothing else
      have hget : (c.snap (i + 1)).recentProposers.contains key = true ↔
          key = epochKey (i + 1) (c.snap i).epochNum := by
        rw [contains_iff, hrec]
        simp only [get_insert, get_empty]
        constructor
        · rintro ⟨v, hv⟩
          split_ifs at hv with h
          exact h.symm
        · intro h
          exact ⟨0, by rw [if_pos h.symm]⟩
      rw [hget]
      constructor
      · intro h
        exact ⟨i, ⟨by omega, hsw, fun j hij hj => by omega⟩, h, fun j hij hj => by omega⟩
      · rintro ⟨k, ⟨hki, hk, hlast⟩, hmark, -⟩
        obtain rfl : k = i := by
          by_contra hne
          have hno := hlast i (by omega) (by omega)
          rw [hsw] at hno; cases hno
        exact hmark
    · rw [hbohr (i + 1) hi] at hb; cases hb

/-! ### Switches -/

/-- The checkpoint of the epoch that block `i + 1` belongs to. -/
def checkpointOf (c : Chain parlia deps) (i : ℕ) : ℕ :=
  (i + 1) / (c.snap i).epochNum * (c.snap i).epochNum

lemma SameEpoch.checkpointOf_eq (h : c.SameEpoch i j) : c.checkpointOf j = c.checkpointOf i := by
  rw [checkpointOf, checkpointOf, h.1, h.2]

lemma SameEpoch.epochKey_eq (h : c.SameEpoch i j) : epochKey (j + 1) (c.snap j).epochNum =
      epochKey (i + 1) (c.snap i).epochNum := by
  rw [epochKey, epochKey, h.1, h.2]

lemma AtBoundary.checkpointOf_eq (h : c.AtBoundary i) :
    i + 1 - (c.snap i).minerHistoryCheckLen = c.checkpointOf i := by
  have hdiv := div_add_mod' (i + 1) (c.snap i).epochNum
  rw [AtBoundary] at h
  rw [checkpointOf]
  omega

lemma AtBoundary.checkpointData (h : c.AtBoundary i) (hi : i < c.len) {info : ValidatorsInfo}
    {turnLength : Option UInt8}
    (hdata : parlia.checkpointData (c.snap i) (c.header (i + 1)) (ancestorOf c.header (i + 1)) =
      some (info, turnLength)) :
    parlia.parseValidatorsFromHeader (c.header (c.checkpointOf i)) (c.snap i).epochNum = .ok info ∧
    parlia.getTurnLengthFromHeader (c.header (c.checkpointOf i)) (c.snap i).epochNum =
      .ok turnLength := by
  have hnum : (c.header (i + 1)).number = i + 1 := c.header_number hi
  have hle : (c.snap i).minerHistoryCheckLen ≤ i + 1 := by
    rw [← h]
    exact mod_le _ _
  unfold Parlia.checkpointData at hdata
  simp only [hnum, succ_pos, true_and] at hdata
  rw [if_pos (show (i + 1) % _ = _ from h), ancestorOf, if_pos hle, h.checkpointOf_eq] at hdata
  simp only [Option.bind_eq_bind, Option.bind_some] at hdata
  obtain ⟨tl, htl, hdata⟩ := Option.bind_eq_some_iff.mp hdata
  obtain ⟨vi, hvi, hdata⟩ := Option.bind_eq_some_iff.mp hdata
  cases hdata
  exact ⟨toOption_eq_some hvi, toOption_eq_some htl⟩

lemma checkpointOf_mod (c : Chain parlia deps) (i : ℕ) :
    c.checkpointOf i % (c.snap i).epochNum = 0 := mul_mod_left _ _

lemma checkpointOf_le (c : Chain parlia deps) (i : ℕ) : c.checkpointOf i ≤ i + 1 :=
  div_mul_le_self _ _

/-- **When a block switches**: at a boundary, unless its epoch is marked under Bohr. -/
lemma switchesAt_iff_boundary (hi : i < c.len) :
    c.switchesAt i ↔ c.AtBoundary i ∧ (c.bohrAt (i + 1) →
      ¬(c.recorded i).contains (epochKey (i + 1) (c.snap i).epochNum)) := by
  obtain ⟨info, turnLength, hdata, -⟩ := c.applied hi
  have hnum : (c.header (i + 1)).number = i + 1 := c.header_number hi
  rw [bohrAt, hnum, switchesAt, hdata]
  simp only [switches, installs, hnum, Bool.and_eq_true, Bool.or_eq_true,
    Bool.not_eq_true', Bool.not_eq_true]
  rw [← Bool.not_eq_true (parlia.spec.isBohrActiveAtTimestamp _ _), ← imp_iff_not_or]
  refine and_congr_left fun _ => ?_
  constructor
  · intro hne
    by_contra hnot
    unfold Parlia.checkpointData at hdata
    simp only [hnum, succ_pos, true_and] at hdata
    rw [if_neg (show ¬(i + 1) % _ = _ from hnot)] at hdata
    cases hdata
    cases hne
  · intro hB
    have hepoch : (c.header (c.checkpointOf i)).number % (c.snap i).epochNum = 0 := by
      rw [c.header_number (by have := c.checkpointOf_le i; omega), checkpointOf_mod]
    have hne := Parlia.parseValidatorsFromHeader_ne_nil hepoch (hB.checkpointData hi hdata).1
    simpa using hne

lemma switchesAt_iff (hi : i < c.len) (hbohr : c.bohrAt (i + 1)) : c.switchesAt i ↔ c.AtBoundary i ∧
      ¬(c.recorded i).contains (epochKey (i + 1) (c.snap i).epochNum) := by
  rw [switchesAt_iff_boundary hi, imp_iff_right hbohr]

lemma switchesAt_eq_false_iff (hi : i < c.len) (hbohr : c.bohrAt (i + 1)) :
    c.switchesAt i = false ↔ (c.AtBoundary i →
      (c.recorded i).contains (epochKey (i + 1) (c.snap i).epochNum)) := by
  rw [← Bool.not_eq_true, switchesAt_iff hi hbohr, not_and, not_not]

lemma inForce_of_switchesAt (hbohr : ∀ j ≤ c.len, c.bohrAt j) (hi : i < c.len)
    (hsw : c.switchesAt i) : c.InForce (i + 1) (c.checkpointOf i) (c.snap i).epochNum := by
  have hB := ((switchesAt_iff hi (hbohr (i + 1) hi)).mp hsw).1
  obtain ⟨info, turnLength, hdata, happ⟩ := c.applied hi
  obtain ⟨hparse, hturn⟩ := hB.checkpointData hi hdata
  have hle : c.checkpointOf i ≤ c.len := (c.checkpointOf_le i).trans hi
  have hepoch : (c.header (c.checkpointOf i)).number % (c.snap i).epochNum = 0 := by
    rw [c.header_number hle, checkpointOf_mod]
  obtain ⟨t, rfl⟩ := Parlia.getTurnLengthFromHeader_ne_none hepoch (hbohr _ hle) hturn
  rw [switchesAt, hdata] at hsw
  obtain ⟨hvals, hmap, htl, -⟩ := happ.switched hsw
  exact ⟨info, t, hparse, hturn, hvals, hmap, htl⟩

lemma inForce_succ_iff {k e : ℕ} (hi : i < c.len) (hsw : c.switchesAt i = false) :
    c.InForce (i + 1) k e ↔ c.InForce i k e := by
  obtain ⟨info, turnLength, hdata, happ⟩ := c.applied hi
  rw [switchesAt, hdata] at hsw
  obtain ⟨hvals, hmap, htl, -⟩ := happ.kept hsw
  rw [InForce, InForce, hvals, hmap, htl]

/-! ### Checkpoints over a whole epoch -/

section

variable (hbohr : ∀ j ≤ c.len, c.bohrAt j)
include hbohr

/-- Once a checkpoint is in force it stays so to the end of its epoch: whatever switches in
the epoch reads the same checkpoint. -/
lemma inForce_of_sameEpoch (hij : i ≤ j) (hj : j < c.len)
    (hsame : c.SameEpoch i j) (h : c.InForce (i + 1) (c.checkpointOf i) (c.snap i).epochNum) :
    c.InForce (j + 1) (c.checkpointOf i) (c.snap i).epochNum := by
  induction j, hij using le_induction with
  | base => exact h
  | succ j hij ih =>
    have hbefore := ih (by omega) (hsame.of_le hij (by omega) (by omega))
    cases hsw : c.switchesAt (j + 1) with
    | false => exact (inForce_succ_iff hj hsw).mpr hbefore
    | true =>
      have hnow := inForce_of_switchesAt hbohr hj hsw
      rw [hsame.checkpointOf_eq, hsame.1] at hnow
      exact hnow

lemma contains_epochKey_succ (hi : i < c.len)
    (hB : c.AtBoundary i) : (c.snap (i + 1)).recentProposers.contains
      (epochKey (i + 1) (c.snap i).epochNum) := by
  rcases record_succ hi with ⟨hsw, hrec, -⟩ | ⟨-, -, hrec⟩ | ⟨-, hb, -⟩
  · rw [hrec]
    exact (switchesAt_eq_false_iff hi (hbohr (i + 1) hi)).mp hsw hB
  · rw [hrec, contains_iff]
    exact ⟨0, get_insert_self _ _ _⟩
  · rw [hbohr (i + 1) hi] at hb; cases hb

lemma switchesAt_eq_false_of_sameEpoch (hmarks : c.MarksAbove) (hij : i < j) (hj : j < c.len)
    (hB : c.AtBoundary i)
    (hsame : c.SameEpoch i j)
    (hkeeps : c.Keeps (epochKey (i + 1) (c.snap i).epochNum) (i + 1) (j + 1)) :
    c.switchesAt j = false := by
  have hkey := hmarks i (by omega)
  have hmarked : ∀ m, i + 1 ≤ m → m ≤ j → (c.snap m).recentProposers.contains
      (epochKey (i + 1) (c.snap i).epochNum) = true := by
    intro m him
    induction m, him using le_induction with
    | base => exact fun _ => contains_epochKey_succ hbohr (by omega) hB
    | succ m him ih =>
      intro hm
      have hrec : (c.recorded m).contains (epochKey (i + 1) (c.snap i).epochNum) :=
        (contains_recorded_iff (by omega) hkey).mpr
          ⟨hkeeps (m + 1) (by omega) (by omega), ih (by omega)⟩
      have hsm := hsame.of_le (show i ≤ m by omega) (by omega) (by omega)
      rcases record_succ (show m < c.len by omega) with ⟨-, h, -⟩ | ⟨hsw, -, -⟩ | ⟨-, hb, -⟩
      · rw [h]; exact hrec
      · have hno := ((switchesAt_iff (by omega) (hbohr (m + 1) (by omega))).mp hsw).2
        rw [hsm.epochKey_eq] at hno
        exact absurd hrec hno
      · rw [hbohr (m + 1) (by omega)] at hb; cases hb
  have hrec := (contains_recorded_iff hj hkey).mpr
    ⟨hkeeps (j + 1) (by omega) le_rfl, hmarked j (by omega) le_rfl⟩
  refine (switchesAt_eq_false_iff hj (hbohr (j + 1) hj)).mpr fun _ => ?_
  rw [hsame.epochKey_eq]
  exact hrec

lemma Collides.switchesAt_eq_false (hmarks : c.MarksAbove)
    (hi : i < c.len) (h : c.Collides i) : c.switchesAt i = false := by
  obtain ⟨k, hlast, -, hquot, hkeeps⟩ := h
  have hk := hlast.1
  have hmark : epochKey (i + 1) (c.snap i).epochNum = epochKey (k + 1) (c.snap k).epochNum := by
    rw [epochKey, epochKey, hquot]
  have hsnap := (contains_iff_lastSwitch hbohr (show i ≤ c.len by omega) (hmarks i hi)).mpr
    ⟨k, hlast, hmark, fun j hkj hj => hkeeps j hkj (by omega)⟩
  have hrec := (contains_recorded_iff hi (hmarks i hi)).mpr
    ⟨hkeeps (i + 1) (by omega) le_rfl, hsnap⟩
  exact (switchesAt_eq_false_iff hi (hbohr (i + 1) hi)).mpr fun _ => hrec

lemma collides_or_inForce (hmarks : c.MarksAbove)
    (hi : i < c.len) (hB : c.AtBoundary i) (hsw : c.switchesAt i = false) :
    c.Collides i ∨ c.InForce i (c.checkpointOf i) (c.snap i).epochNum := by
  have hrec := (switchesAt_eq_false_iff hi (hbohr (i + 1) hi)).mp hsw hB
  obtain ⟨hclear, hsnap⟩ := (contains_recorded_iff hi (hmarks i hi)).mp hrec
  obtain ⟨k, hlast, hmark, hkeeps⟩ :=
    (contains_iff_lastSwitch hbohr (show i ≤ c.len by omega) (hmarks i hi)).mp hsnap
  have hki := hlast.1
  have hquot : (k + 1) / (c.snap k).epochNum = (i + 1) / (c.snap i).epochNum := by
    have h1 := div_le_self (k + 1) (c.snap k).epochNum
    have h2 := div_le_self (i + 1) (c.snap i).epochNum
    have h3 := c.fits
    unfold epochKey at hmark
    omega
  by_cases hlen : (c.snap k).epochNum = (c.snap i).epochNum
  · -- the last switch belongs to the same epoch and read the same checkpoint
    right
    have hsame : c.SameEpoch k i := ⟨hlen.symm, by rw [hquot, hlen]⟩
    obtain ⟨m, rfl⟩ : ∃ m, i = m + 1 := ⟨i - 1, by omega⟩
    have hput := inForce_of_switchesAt hbohr (show k < c.len by omega) hlast.2.1
    have hstill := inForce_of_sameEpoch hbohr (show k ≤ m by omega) (by omega)
      (hsame.of_le (by omega) (by omega) (by omega)) hput
    rw [hsame.checkpointOf_eq, ← hlen]
    exact hstill
  · left
    refine ⟨k, hlast, hlen, hquot, fun j hkj hj => ?_⟩
    by_cases hji : j = i + 1
    · rw [hji]; exact hclear
    · exact hkeeps j hkj (by omega)

end

/-- **When a checkpoint takes effect.** Let `C` be a multiple of the epoch length and `i + 1`
the block `minerHistoryCheckLen` into its epoch. From that block to the end of the epoch the
snapshots have exactly the validators and the turn length of `C`, and (as long as finality
leaves its mark alone) no later block of the epoch switches, if and only if the mark of
a switch made under another epoch length does not collide with this epoch or `C` was in force
before. -/
theorem checkpoint_takes_effect_iff (hbohr : ∀ j ≤ c.len, c.bohrAt j = true)
    (hmarks : c.MarksAbove) {C i : ℕ} (hi : i < c.len) (hC : (c.snap i).epochNum ∣ C)
    (hCi : C ≤ i + 1) (hiC : i + 1 < C + (c.snap i).epochNum) (hB : c.AtBoundary i) :
    ((∀ j, i ≤ j → j < c.len → c.SameEpoch i j → c.InForce (j + 1) C (c.snap i).epochNum) ∧
      ∀ j, i < j → j < c.len → c.SameEpoch i j →
        c.Keeps (Snapshot.epochKey (i + 1) (c.snap i).epochNum) (i + 1) (j + 1) →
        c.switchesAt j = false) ↔
      ¬c.Collides i ∨ c.InForce i C (c.snap i).epochNum := by
  obtain rfl : C = c.checkpointOf i := by
    obtain ⟨q, rfl⟩ := hC
    have hdiv : (i + 1) / (c.snap i).epochNum = q :=
      Nat.div_eq_of_lt_le (by rwa [Nat.mul_comm]) (by rw [Nat.succ_mul, Nat.mul_comm]; exact hiC)
    rw [checkpointOf, hdiv, mul_comm]
  constructor
  · rintro ⟨hforce, -⟩
    by_contra hcon
    obtain ⟨hcol, hnot⟩ := not_or.mp hcon
    rw [not_not] at hcol
    have hafter := hforce i le_rfl hi ⟨rfl, rfl⟩
    exact hnot ((inForce_succ_iff hi (hcol.switchesAt_eq_false hbohr hmarks hi)).mp hafter)
  · intro hok
    have hafter : c.InForce (i + 1) (c.checkpointOf i) (c.snap i).epochNum := by
      cases hsw : c.switchesAt i with
      | true => exact inForce_of_switchesAt hbohr hi hsw
      | false =>
        refine (inForce_succ_iff hi hsw).mpr ?_
        rcases hok with hcol | hbefore
        · exact (collides_or_inForce hbohr hmarks hi hB hsw).resolve_left hcol
        · exact hbefore
    exact ⟨fun j hij hj hsame => inForce_of_sameEpoch hbohr hij hj hsame hafter,
      fun j hij hj hsame hkeeps =>
        switchesAt_eq_false_of_sameEpoch hbohr hmarks hij hj hB hsame hkeeps⟩

/-! ### A sole validator whose second checkpoint is passed over -/

/-- Bohr and Lorentz from genesis on, epochs of 200 blocks. -/
def lateParlia : Parlia := ⟨sampleSpec (.block 0) (.timestamp 0) (.timestamp 0), 200⟩

def soleListing (validator turnLength : UInt8) : Bytes :=
  [1] ++ List.replicate 19 0 ++ [validator] ++ List.replicate 48 0 ++ [turnLength]

/-- Block 200 lists validator 1 with turns of 101 blocks, block 500 lists validator 2. -/
def lateExtra (i : ℕ) : Bytes :=
  if i = 0 then soleListing 1 1
  else if i = 200 then soleListing 1 101
  else if i = 500 then soleListing 2 101
  else []

/-- Validator 1 signs every block. -/
def lateHeaders (i : ℕ) : Header :=
  sampleHeader i 0 1 (BitVec.ofNat 256 (8 * (i - 1) + 1)) (lateExtra i)

lemma late_isBohr (n t : ℕ) : lateParlia.spec.isBohrActiveAtTimestamp n t := by
  simp [lateParlia, sampleSpec, isBohrActiveAtTimestamp, isActiveAtTimestamp,
    activeAtBlock, activeAtTimestamp]

lemma late_isLorentz (n t : ℕ) : lateParlia.spec.isLorentzActiveAtTimestamp n t := by
  simp [lateParlia, sampleSpec, isLorentzActiveAtTimestamp,
    isActiveAtTimestamp, activeAtBlock, activeAtTimestamp]

lemma late_isMaxwell (n t : ℕ) : lateParlia.spec.isMaxwellActiveAtTimestamp n t = false := by
  simp [lateParlia, sampleSpec, isMaxwellActiveAtTimestamp, isActiveAtTimestamp, activeAtTimestamp]

/-- The epoch length grows after block 499. -/
lemma late_nextEpochNum (i : ℕ) (hi : i < 600) :
    nextEpochNum true false (i + 1) (if i < 499 then 200 else 500) =
      if i + 1 < 499 then 200 else 500 := by
  rw [nextEpochNum]
  rcases lt_trichotomy (i + 1) 499 with h | h | h
  · have hmod : ¬(i + 1 + 1) % 500 = 0 := by omega
    simp [isMultipleOf, lorentzEpochLength, defaultEpochLength, hmod, h, show i < 499 by omega]
  · obtain rfl : i = 498 := by omega
    rfl
  · simp [lorentzEpochLength, defaultEpochLength, h.not_gt, show ¬i < 499 by omega]

/-- The snapshot of the chain at height `i` from the switch at block 200 on: that switch has left
its mark, and nobody is on record for a later block. -/
structure LateOk (i : ℕ) (s : Snapshot) : Prop where
  blockNumber : s.blockNumber = i
  blockHash : s.blockHash = BitVec.ofNat 256 (8 * i + 1)
  validators : s.validators = [1]
  turnLength : s.turnLength = some 101
  epochNum : s.epochNum = if i < 499 then 200 else 500
  mark : s.recentProposers.get (u64Max - 1) = some 0
  below : ∀ k v, s.recentProposers.get k = some v → v ≠ 0 → k ≤ i

section Late

variable {s : Snapshot} (h : LateOk i s)
include h

lemma LateOk.minerHistoryCheckLen : s.minerHistoryCheckLen = 100 := by
  rw [Snapshot.minerHistoryCheckLen, turn, h.validators, h.turnLength]
  rfl

/-- The window is one block shorter than a turn. -/
lemma LateOk.allowed : (s.advance (sampleDeps true) (lateHeaders (i + 1))).overProposed
    (lateParlia.spec.isBohrActiveAtTimestamp (lateHeaders (i + 1)).number
      (lateHeaders (i + 1)).timestamp) 1 = false := by
  rw [late_isBohr, overProposed, if_pos rfl, ← Bool.not_eq_true]
  set adv := s.advance (sampleDeps true) (lateHeaders (i + 1))
  intro hsigned
  have hturn := (turn_le_card hsigned).2
  have hsub : adv.recentBlocks 1 ⊆ Finset.Ioc adv.leftBound (i + 1) := by
    intro k hk
    obtain ⟨hlow, hget⟩ := mem_recentBlocks.mp hk
    have hle := h.below k 1 (get_pruneProposers hget) (by decide)
    exact Finset.mem_Ioc.mpr ⟨hlow, by omega⟩
  have hcard := (Finset.card_le_card hsub).trans (card_window_le _)
  have hlen : adv.minerHistoryCheckLen = 100 := h.minerHistoryCheckLen
  have hlong : adv.turn = 101 :=
    congrArg (fun t : Option UInt8 => (t.map UInt8.toNat).getD 1) h.turnLength
  omega

/-- The only boundaries, blocks 300 and 600, belong to an epoch with number 1. -/
lemma LateOk.checkpointData (h200 : 200 ≤ i) (hi : i < 600) : ∃ info turnLength,
    lateParlia.checkpointData s (lateHeaders (i + 1)) (ancestorOf lateHeaders (i + 1)) =
      some (info, turnLength) ∧ lengthsAgree info.consensusAddrs info.voteAddrs ∧
    (info.consensusAddrs = [] ∨ (i + 1) / s.epochNum = 1) := by
  rw [Parlia.checkpointData, h.minerHistoryCheckLen, h.epochNum]
  by_cases h1 : i = 299
  · subst h1
    exact ⟨⟨[1], some [0]⟩, some 101, by decide +kernel, rfl, .inr rfl⟩
  by_cases h2 : i = 599
  · subst h2
    exact ⟨⟨[2], some [0]⟩, some 101, by decide +kernel, rfl, .inr rfl⟩
  refine ⟨⟨[], none⟩, none, if_neg ?_, rfl, .inl rfl⟩
  rintro ⟨-, hmod⟩
  change (i + 1) % _ = 100 at hmod
  split_ifs at hmod <;> omega

lemma LateOk.getVoteAttestationFromHeader (h200 : 200 ≤ i) :
    lateParlia.getVoteAttestationFromHeader (lateHeaders (i + 1)) s.epochNum (sampleDeps true) =
      .ok none := by
  rw [h.epochNum]
  by_cases h1 : i = 499
  · subst h1
    decide +kernel
  · rw [Parlia.getVoteAttestationFromHeader, if_pos]
    have hextra : lateExtra (i + 1) = [] := by
      simp [lateExtra, h1, show i + 1 ≠ 200 by omega]
    simp [lateHeaders, sampleHeader, hextra, extraVanityLen, extraSealLen]

/-- The mark outlives the next block, so that nothing is put in force. -/
lemma LateOk.get_record (hi : i < 600) :
    ((s.advance (sampleDeps true) (lateHeaders (i + 1))).record lateParlia.spec 1
      (lateHeaders (i + 1)) none).recentProposers.get (u64Max - 1) = some 0 := by
  have hnum : (lateHeaders (i + 1)).number = i + 1 := rfl
  rw [record_recentProposers, late_isMaxwell, clearFinalized, if_neg (by decide),
    get_insert_of_ne _ _ (by rw [hnum]; unfold u64Max; omega)]
  refine get_pruneProposers_iff.mpr ⟨h.mark, ?_⟩
  rw [h.minerHistoryCheckLen, hnum]
  rintro ⟨-, hk⟩
  unfold u64Max at hk
  omega

lemma LateOk.step (h200 : 200 ≤ i) (hi : i < 600) : ∃ s',
    lateParlia.applyHeader (sampleDeps true) s (lateHeaders (i + 1))
      (ancestorOf lateHeaders (i + 1)) = some s' ∧ LateOk (i + 1) s' := by
  obtain ⟨info, turnLength, hdata, hlen, hcases⟩ := h.checkpointData h200 hi
  obtain ⟨s', happly⟩ : ∃ s', s.apply (sampleDeps true) lateParlia.spec 1 (lateHeaders (i + 1))
      info.consensusAddrs info.voteAddrs none turnLength = .ok s' :=
    exists_apply_eq_ok (by rw [h.blockNumber]; rfl) (by rw [h.blockHash]; rfl)
      (by simp [h.validators]) h.allowed hlen
  have happ := apply_ok happly
  have hkept : s.switches (sampleDeps true) lateParlia.spec 1 (lateHeaders (i + 1))
      info.consensusAddrs none = false := by
    rw [switches, installs]
    rcases hcases with hinfo | hquot
    · rw [hinfo]
      rfl
    · have hkey : epochKey (lateHeaders (i + 1)).number s.epochNum = u64Max - 1 :=
        congrArg (u64Max - ·) hquot
      rw [late_isBohr, hkey, OrdMap.contains, h.get_record hi]
      simp
  obtain ⟨hvals, -, hturn, hrec⟩ := happ.kept hkept
  refine ⟨s', ?_, ⟨happ.blockNumber, happ.blockHash, hvals.trans h.validators,
    hturn.trans h.turnLength, ?_, hrec ▸ h.get_record hi, fun k v hk hv => ?_⟩⟩
  · rw [Parlia.applyHeader, hdata, h.getVoteAttestationFromHeader h200]
    exact congrArg Except.toOption happly
  · rw [happ.epochNum, late_isLorentz, late_isMaxwell, h.epochNum]
    exact late_nextEpochNum i hi
  · rcases happ.get_recentProposers hk with ⟨rfl, -⟩ | ⟨-, hold⟩ | hz
    · rfl
    · exact (h.below k v (get_pruneProposers hold) hv).trans (le_succ i)
    · exact absurd hz hv

end Late

/-- Block 200 switches, and the snapshots after it are as described. -/
lemma late_fold (h200 : 200 ≤ i) (hi : i ≤ 600) :
    ∃ s, lateParlia.fold (sampleDeps true) (branch lateHeaders i) = some s ∧ LateOk i s := by
  induction i, h200 using le_induction with
  | base =>
    have hfold : ((lateParlia.fold (sampleDeps true) (branch lateHeaders 200)).map fun s =>
        ((s.blockNumber, s.blockHash, s.validators), s.turnLength, s.epochNum,
          s.recentProposers.entries)) =
        some ((200, 1601, [1]), some 101, 200, [(u64Max - 1, 0)]) := by decide +kernel
    obtain ⟨s, hs, hfields⟩ := Option.map_eq_some_iff.mp hfold
    simp only [Prod.mk.injEq] at hfields
    obtain ⟨⟨hnum, hhash, hvals⟩, hturn, hepoch, hrec⟩ := hfields
    refine ⟨s, hs, hnum, hhash, hvals, hturn, hepoch, by rw [OrdMap.get, hrec]; rfl, ?_⟩
    intro k v hk hv
    rw [← mem_entries, hrec] at hk
    simp at hk
    exact absurd hk.2 hv
  | succ i h200 ih =>
    obtain ⟨s, hs, hok⟩ := ih (by omega)
    obtain ⟨s', hs', hok'⟩ := hok.step h200 (by omega)
    exact ⟨s', by rw [fold_branch_succ, hs, Option.bind_some, hs'], hok'⟩

lemma late_isSome : (lateParlia.fold (sampleDeps true) (branch lateHeaders 600)).isSome := by
  obtain ⟨s, hs, -⟩ := late_fold (i := 600) (by decide) le_rfl
  rw [hs]
  rfl

def lateChain : Chain lateParlia (sampleDeps true) :=
  Chain.ofFold _ _ lateHeaders 600 (by decide) late_isSome

lemma lateChain_last :
    (lateChain.snap 599).minerHistoryCheckLen = 100 ∧ (lateChain.snap 600).validators = [1] := by
  have hok (i : ℕ) (h200 : 200 ≤ i) (hi : i ≤ 600) : LateOk i (lateChain.snap i) := by
    obtain ⟨s, hs, hok⟩ := late_fold h200 hi
    rwa [Option.some.inj (hs.symm.trans (lateChain.fold_branch hi))] at hok
  exact ⟨(hok 599 (by decide) (by decide)).minerHistoryCheckLen,
    (hok 600 (by decide) le_rfl).validators⟩

lemma lateChain_first : (lateChain.snap 199).minerHistoryCheckLen = 0 := by
  decide +kernel

lemma lateChain_epochNum (hi : i ≤ 600) :
    (lateChain.snap i).epochNum = if i < 499 then 200 else 500 := by
  induction i with
  | zero => exact lateChain.snap_zero.2.2.2.2.2
  | succ i ih =>
    obtain ⟨info, turnLength, -, happ⟩ := lateChain.applied hi
    rw [happ.epochNum, late_isLorentz, late_isMaxwell, ih (by omega), lateChain.header_number hi]
    exact late_nextEpochNum i (by omega)

/-- What block 200 lists is in force until the end of its epoch. -/
theorem checkpoint_takes_effect_late : lateChain.InForce 399 200 200 := by
  have hepoch : (lateChain.snap 199).epochNum = 200 := lateChain_epochNum (by decide)
  have hbohr : ∀ j ≤ lateChain.len, lateChain.bohrAt j = true := fun j _ => late_isBohr _ _
  have hB : lateChain.AtBoundary 199 := by
    rw [AtBoundary, hepoch, lateChain_first]
  -- the epoch length has never been another one
  have hcol : ¬lateChain.Collides 199 := by
    rintro ⟨k, ⟨hk, -⟩, hne, -⟩
    rw [hepoch, lateChain_epochNum (show k ≤ 600 by omega), if_pos (by omega)] at hne
    exact hne rfl
  have hsame : lateChain.SameEpoch 199 398 := by
    rw [SameEpoch, hepoch, lateChain_epochNum (show 398 ≤ 600 by decide)]
    decide
  have heffect := (checkpoint_takes_effect_iff hbohr (marksAbove_of_lt (by decide))
    (show 199 < lateChain.len by decide) (show (lateChain.snap 199).epochNum ∣ 200 by rw [hepoch])
    le_rfl (by rw [hepoch]; decide) hB).mpr (Or.inl hcol)
  have hforce := heffect.1 398 (by decide) (by decide) hsame
  rw [hepoch] at hforce
  exact hforce

/-- **A checkpoint that never takes effect.** Block 200 switches under epochs of 200 blocks and
marks epoch 1. Before the next switch the epoch length grows to 500, so block 500 starts epoch
1 again: block 600, which should put the validator that block 500 lists in force, finds
its epoch marked and leaves validator 1 in place. -/
theorem checkpoint_passed_over :
    (∀ j ≤ lateChain.len, lateChain.bohrAt j = true) ∧ lateChain.MarksAbove ∧
    599 < lateChain.len ∧ (lateChain.snap 499).epochNum = 500 ∧
      (lateChain.snap 599).epochNum = 500 ∧
    lateChain.AtBoundary 599 ∧ lateChain.checkpointOf 599 = 500 ∧
    (lateParlia.parseValidatorsFromHeader (lateChain.header 500) 500).toOption.map
      ValidatorsInfo.consensusAddrs = some [2] ∧
    (lateChain.snap 600).validators = [1] ∧ ¬lateChain.InForce 600 500 500 := by
  obtain ⟨hlen, hvals⟩ := lateChain_last
  have hepoch : (lateChain.snap 599).epochNum = 500 := lateChain_epochNum (by decide)
  have hparse : (lateParlia.parseValidatorsFromHeader (lateChain.header 500) 500).toOption.map
      ValidatorsInfo.consensusAddrs = some [2] := by decide +kernel
  refine ⟨fun j _ => late_isBohr _ _, marksAbove_of_lt (by decide), by decide,
    lateChain_epochNum (by decide), hepoch, ?_, ?_, hparse, hvals, ?_⟩
  · rw [AtBoundary, hepoch, hlen]
  · rw [checkpointOf, hepoch]
  · rintro ⟨info, turnLength, hinfo, -, hforce, -⟩
    rw [hinfo] at hparse
    have haddrs : info.consensusAddrs = [2] := Option.some.inj hparse
    rw [hvals, haddrs] at hforce
    exact absurd hforce (by decide)

end Chain

end RethBsc
