import RethBsc.WindowSwitch
import RethBsc.VoteMonitor

/-!
The early judgement of the sender of a future vote.

The pool counts the blocks at which sets are switched by the window length of the head's
snapshot. Each switch happens at the window length of the set it replaces. Where that has been
the same over the last epoch, equal counts mean equal sets, on the head's branch and on every
branch that leaves it after the last checkpoint.
-/

namespace RethBsc.Chain

open Snapshot PoolEnv

variable {parlia : Parlia} {deps : Deps} {c c' : Chain parlia deps}

lemma snap_eq_of_agree {m : ℕ} (hagree : ∀ i ≤ m, c.header i = c'.header i) (hm : m ≤ c.len)
    (hm' : m ≤ c'.len) : c.snap m = c'.snap m := by
  have hbranch : branch c.header m = branch c'.header m := by
    clear hm hm'
    induction m with
    | zero => rw [branch, branch, hagree 0 le_rfl]
    | succ m ih => rw [branch, branch, hagree _ le_rfl, ih fun i hi => hagree i (by omega)]
  have hfold := c.fold_branch hm
  rw [hbranch, c'.fold_branch hm'] at hfold
  exact (Option.some.inj hfold).symm

/-- The set stays where no boundary is passed. -/
lemma validatorsMap_eq_of_not_boundary {a b : ℕ} (hab : a ≤ b) (hb : b ≤ c.len)
    (hnone : ∀ i, a ≤ i → i < b → ¬c.AtBoundary i) :
    (c.snap b).validatorsMap = (c.snap a).validatorsMap := by
  induction b, hab using Nat.le_induction with
  | base => rfl
  | succ b hab ih =>
    obtain ⟨info, turnLength, hdata, happ⟩ := c.applied hb
    have hsw : c.switchesAt b = false := by
      rw [← Bool.not_eq_true, switchesAt_iff_boundary hb]
      exact fun hsw => hnone b hab (by omega) hsw.1
    rw [switchesAt, hdata] at hsw
    rw [(happ.kept hsw).2.1, ih (by omega) fun i hi hib => hnone i hi (by omega)]

/-- A mark comes from a boundary that has been passed. -/
lemma exists_boundary_of_contains {i key : ℕ} (hi : i ≤ c.len) (hkey : c.len < key)
    (h : (c.snap i).recentProposers.contains key) :
    ∃ k < i, c.AtBoundary k ∧ key = epochKey (k + 1) (c.snap k).epochNum := by
  induction i with
  | zero =>
    rw [c.snap_zero.2.2.1] at h
    cases h
  | succ i ih =>
    have hold : (c.recorded i).contains key = true →
        ∃ k < i + 1, c.AtBoundary k ∧ key = epochKey (k + 1) (c.snap k).epochNum := by
      intro hrec
      obtain ⟨k, hk, hmark⟩ := ih (by omega) ((contains_recorded_iff hi hkey).mp hrec).2
      exact ⟨k, by omega, hmark⟩
    rcases record_succ hi with ⟨-, hrec, -⟩ | ⟨hsw, -, hrec⟩ | ⟨-, -, hrec⟩
    · exact hold (hrec ▸ h)
    · obtain ⟨v, hv⟩ := OrdMap.contains_iff.mp h
      rw [hrec, OrdMap.get_insert] at hv
      split_ifs at hv with hk
      · exact ⟨i, by omega, ((switchesAt_iff_boundary hi).mp hsw).1, hk.symm⟩
      · cases hv
    · obtain ⟨v, hv⟩ := OrdMap.contains_iff.mp h
      rw [hrec] at hv
      exact hold (OrdMap.contains_iff.mpr ⟨v, get_trimProposers hv⟩)

/-- A boundary that is the first of its epoch installs its checkpoint. -/
lemma validatorsMap_of_boundary {i : ℕ} (hi : i < c.len) (hmarks : c.MarksAbove)
    (hB : c.AtBoundary i) (hfirst : ∀ k < i, c.AtBoundary k → epochKey (k + 1) (c.snap k).epochNum ≠
        epochKey (i + 1) (c.snap i).epochNum) :
    ∃ info, parlia.parseValidatorsFromHeader (c.header (c.checkpointOf i)) (c.snap i).epochNum =
        .ok info ∧ (c.snap (i + 1)).validatorsMap =
          buildValidatorsMap info.consensusAddrs info.voteAddrs := by
  have hsw : c.switchesAt i := by
    refine (switchesAt_iff_boundary hi).mpr ⟨hB, fun _ hrec => ?_⟩
    obtain ⟨k, hk, hBk, hmark⟩ := exists_boundary_of_contains hi.le (hmarks i hi)
      ((contains_recorded_iff hi (hmarks i hi)).mp hrec).2
    exact hfirst k hk hBk hmark.symm
  obtain ⟨info, turnLength, hdata, happ⟩ := c.applied hi
  rw [switchesAt, hdata] at hsw
  exact ⟨info, (hB.checkpointData hi hdata).1, (happ.switched hsw).2.1⟩

/-! ### Counting switches -/

variable {epoch offset : ℕ}

/-- Equal counts leave a last switch, or the start of the stretch, after which no block of
either branch is counted. -/
lemma exists_last_swap {head parent : ℕ} (hepoch : 0 < epoch)
    (h : governingSetsDiffer head (parent + 1) epoch offset = false) :
    ∃ q, q ≤ head ∧ q ≤ parent ∧ min (head - epoch) parent ≤ q ∧
      (∀ n, q < n → n ≤ max head parent → n % epoch ≠ offset) ∧
      (q = min (head - epoch) parent ∨ q % epoch = offset) := by
  rw [governingSetsDiffer, max_eq_left (Nat.succ_le_of_lt hepoch)] at h
  have hmod := fun n => Nat.mod_lt n hepoch
  by_cases hoffset : epoch ≤ offset
  · refine ⟨_, by omega, by omega, le_rfl, fun n _ _ => ?_, .inl rfl⟩
    have := hmod n
    omega
  simp only [hoffset, if_false, Nat.add_sub_cancel, decide_eq_false_iff_not, not_not] at h
  by_cases hhead : offset ≤ head
  · rw [if_pos hhead] at h
    by_cases hparent : offset ≤ parent
    · rw [if_pos hparent, Nat.add_right_cancel_iff] at h
      have hh := Nat.div_add_mod (head - offset) epoch
      have hp := Nat.div_add_mod (parent - offset) epoch
      have hlt := hmod (head - offset)
      refine ⟨offset + epoch * ((head - offset) / epoch), by omega, by rw [h]; omega, by omega,
        fun n hn hle hcount => ?_, .inr ?_⟩
      · -- a counted block is no later than the last one
        have hdiv := Nat.div_add_mod n epoch
        have hquot : n / epoch ≤ (head - offset) / epoch := by
          have hsub : n / epoch = (n - offset) / epoch := by
            rw [show n - offset = epoch * (n / epoch) by omega, Nat.mul_div_cancel_left _ hepoch]
          rw [hsub]
          rcases le_max_iff.mp hle with hle | hle
          · exact Nat.div_le_div_right (by omega)
          · rw [h]
            exact Nat.div_le_div_right (by omega)
        have := Nat.mul_le_mul_left epoch hquot
        omega
      · rw [Nat.add_mul_mod_self_left, Nat.mod_eq_of_lt (by omega)]
    · rw [if_neg hparent] at h
      exact absurd h (Nat.succ_ne_zero _)
  · rw [if_neg hhead] at h
    have hparent : ¬offset ≤ parent := fun hparent => by
      rw [if_pos hparent] at h
      exact absurd h.symm (Nat.succ_ne_zero _)
    refine ⟨_, by omega, by omega, le_rfl, fun n _ hle => ?_, .inl rfl⟩
    rw [Nat.mod_eq_of_lt (by omega)]
    omega

/-- The head's branch and the branch of a target's parent, alike up to height `m`: one goes on
from the other, or they part at or after the last checkpoint of the head. The epoch length is
constant, and over the last epoch the window length is. -/
structure Branches (c c' : Chain parlia deps) (m epoch offset : ℕ) : Prop where
  agree : ∀ i ≤ m, c.header i = c'.header i
  fork : min c.len c'.len ≤ m ∨ c.len / epoch * epoch ≤ m
  steady : ∀ i ≤ c.len, (c.snap i).epochNum = epoch ∧
    (min (c.len - epoch) c'.len ≤ i → (c.snap i).minerHistoryCheckLen = offset)
  steady' : ∀ i ≤ c'.len, (c'.snap i).epochNum = epoch ∧
    (min (c.len - epoch) c'.len ≤ i → (c'.snap i).minerHistoryCheckLen = offset)
  small : c.len < 2 ^ 63 ∧ c'.len < 2 ^ 63

lemma epochNum_pos (c : Chain parlia deps) : 0 < (c.snap 0).epochNum := by
  rw [c.snap_zero.2.2.2.2.2]
  split_ifs with h
  · decide
  · exact Nat.pos_of_ne_zero h

/-- What holds of one branch from height `lo` on. -/
lemma validatorsMap_of_steady {lo q : ℕ} (hsmall : c.len < 2 ^ 63)
    (hsteady : ∀ i ≤ c.len, (c.snap i).epochNum = epoch ∧
      (lo ≤ i → (c.snap i).minerHistoryCheckLen = offset)) (hlo : lo ≤ q / epoch * epoch - 1)
    (hpos : 0 < q) (hq : q ≤ c.len) (hmod : q % epoch = offset) :
    ∃ info, parlia.parseValidatorsFromHeader (c.header (q / epoch * epoch)) epoch = .ok info ∧
      (c.snap q).validatorsMap = buildValidatorsMap info.consensusAddrs info.voteAddrs := by
  have hdiv := Nat.div_mul_le_self q epoch
  obtain ⟨i, rfl⟩ : ∃ i, q = i + 1 := ⟨q - 1, by omega⟩
  have hi := hsteady i (by omega)
  have hB : c.AtBoundary i := by rw [AtBoundary, hi.1, hi.2 (by omega), hmod]
  have hinfo := validatorsMap_of_boundary hq (marksAbove_of_lt hsmall) hB fun k hk hBk hkey => ?_
  · rwa [checkpointOf, hi.1] at hinfo
  · -- another boundary of the epoch would be this one
    have hk' := hsteady k (by omega)
    have h1 := Nat.div_le_self (k + 1) epoch
    have h2 := Nat.div_le_self (i + 1) epoch
    rw [epochKey, epochKey, hk'.1, hi.1] at hkey
    have hsame : (k + 1) / epoch = (i + 1) / epoch := by unfold u64Max at hkey; omega
    have hdivk := Nat.div_add_mod' (k + 1) epoch
    have hdivi := Nat.div_add_mod' (i + 1) epoch
    rw [AtBoundary, hk'.1, hk'.2 (by rw [← hsame] at hlo; omega)] at hBk
    rw [hsame] at hdivk
    omega

/-- Branches whose switches are counted alike have the same set. -/
lemma Branches.validatorsMap_eq {m : ℕ} (h : Branches c c' m epoch offset)
    (hcount : governingSetsDiffer c.len (c'.len + 1) epoch offset = false) :
    (c.snap c.len).validatorsMap = (c'.snap c'.len).validatorsMap := by
  have hepoch : 0 < epoch := (h.steady 0 (Nat.zero_le _)).1 ▸ c.epochNum_pos
  obtain ⟨q, hqc, hqc', hlo, hnone, hq⟩ := exists_last_swap hepoch hcount
  have hc := c.validatorsMap_eq_of_not_boundary hqc le_rfl fun i hi hlt hB => by
    rw [AtBoundary, (h.steady i hlt.le).1, (h.steady i hlt.le).2 (hlo.trans hi)] at hB
    exact hnone (i + 1) (by omega) (by omega) hB
  have hc' := c'.validatorsMap_eq_of_not_boundary hqc' le_rfl fun i hi hlt hB => by
    rw [AtBoundary, (h.steady' i hlt.le).1, (h.steady' i hlt.le).2 (hlo.trans hi)] at hB
    exact hnone (i + 1) (by omega) (by omega) hB
  rw [hc, hc']
  by_cases hqm : q ≤ m
  · rw [snap_eq_of_agree (fun i hi => h.agree i (hi.trans hqm)) hqc hqc']
  -- the branches have parted, and both install the checkpoint they share
  have hdiv := Nat.div_add_mod' c.len epoch
  have hmod := Nat.mod_lt c.len hepoch
  have hfork : c.len / epoch * epoch ≤ m := h.fork.resolve_left (by omega)
  have hmodq : q % epoch = offset := hq.resolve_left (by omega)
  have hquot : q / epoch = c.len / epoch :=
    Nat.div_eq_of_lt_le (by omega) (by rw [Nat.succ_mul]; omega)
  have hlast : min (c.len - epoch) c'.len ≤ q / epoch * epoch - 1 := by rw [hquot]; omega
  have hpos : 0 < q := by omega
  obtain ⟨info, hparse, hmap⟩ := validatorsMap_of_steady h.small.1 h.steady hlast hpos hqc hmodq
  obtain ⟨info', hparse', hmap'⟩ := validatorsMap_of_steady h.small.2 h.steady' hlast hpos hqc'
    hmodq
  rw [hquot, ← h.agree _ hfork] at hparse'
  rw [hquot, hparse', Except.ok.injEq] at hparse
  rw [hmap, hmap', hparse]

/-- **The judgement is right where the window length has not changed.** -/
theorem futureVoteSender_right {m epoch offset : ℕ} (h : Branches c c' m epoch offset)
    {env : PoolEnv} (hhead : env.headSnapshot deps = some (c.len, c.snap c.len))
    {vote : VoteEnvelope} (htarget : vote.data.targetNumber = c'.len + 1) {b : Bool}
    (hjudged : env.futureVoteSenderIsValidator deps vote = some b) :
    b = true ↔ ∃ info ∈ (c'.snap c'.len).validatorsMap.values,
      info.voteAddr = vote.voteAddress := by
  obtain ⟨hepoch, hoffset⟩ := h.steady c.len le_rfl
  rw [futureVoteSenderIsValidator_eq, hhead, Option.bind_some] at hjudged
  simp only [hepoch, hoffset (by omega), htarget] at hjudged
  split_ifs at hjudged with hempty hcount
  rw [← Option.some.inj hjudged, hasVoteAddr, h.validatorsMap_eq (by simpa using hcount)]
  simp

/-! ### A new vote key -/

/-- Bohr from genesis on, epochs of four blocks. -/
def rekeyParlia : Parlia := ⟨sampleSpec (.block 0) (.timestamp 0) .never, 4⟩

/-- The sole validator has vote key 7. Block 4 gives it vote key 9 and turns of two blocks. -/
def rekeyHeaders (i : ℕ) : Header :=
  let listing (key turnLength : UInt8) : Bytes :=
    [1] ++ List.replicate 19 0 ++ [1] ++ List.replicate 47 0 ++ [key, turnLength]
  sampleHeader i 0 1 (BitVec.ofNat 256 (8 * (i - 1) + 1))
    (if i = 0 then listing 7 1 else if i = 4 then listing 9 2 else [])

lemma rekey_folds : (rekeyParlia.fold (sampleDeps true) (branch rekeyHeaders 4)).isSome := by
  decide +kernel

/-- The chain up to one of the first heights. -/
def rekeyChain (len : Fin 5) : Chain rekeyParlia (sampleDeps true) :=
  .ofFold _ _ rekeyHeaders len ((Nat.le_of_lt_succ len.2).trans (by decide))
    (isSome_fold_of_le (Nat.le_of_lt_succ len.2) rekey_folds)

/-- A node whose head is at one of the heights. -/
def rekeyEnv (head : Fin 5) : PoolEnv where
  bestCanonicalBlockNumber := some head
  headerByHash := none
  headerByNumber n := some (rekeyHeaders n)
  snapshotProvider := some fun hash =>
    if hash = (sampleDeps true).hashSlow (rekeyHeaders head)
    then some ((rekeyChain head).snap head) else none

def rekeyVote (targetNumber : ℕ) : VoteEnvelope := ⟨7, 0, ⟨0, 0, targetNumber, 0⟩⟩

theorem futureVoteSender_right_rekey :
    ∃ info ∈ ((rekeyChain 2).snap 2).validatorsMap.values, info.voteAddr = 7 := by
  have h : Branches (rekeyChain 3) (rekeyChain 2) 2 4 0 :=
    ⟨fun _ _ => rfl, .inl (by decide), by decide +kernel, by decide +kernel, by decide⟩
  have hhead : (rekeyEnv 3).headSnapshot (sampleDeps true) = some (3, (rekeyChain 3).snap 3) := by
    decide +kernel
  have hjudged : (rekeyEnv 3).futureVoteSenderIsValidator (sampleDeps true) (rekeyVote 3) =
      some true := by decide +kernel
  exact (futureVoteSender_right h hhead rfl hjudged).mp rfl

/-- At block 4 the key that votes for block 4 is refused: the new turns move the counted
switch from block 4 to block 5. -/
theorem rekeyed_voter_refused :
    (rekeyEnv 4).futureVoteSenderIsValidator (sampleDeps true) (rekeyVote 4) = some false ∧
      PoolEnv.hasVoteAddr ((rekeyChain 4).snap 3) (rekeyVote 4).voteAddress = true := by
  decide +kernel

end RethBsc.Chain
