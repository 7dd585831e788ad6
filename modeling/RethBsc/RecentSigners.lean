import Mathlib.Order.Interval.Finset.Nat
import RethBsc.HeaderVerify
import RethBsc.Record

/-!
The recent-signer limit over whole runs.

In a stretch of blocks as long as the window of recent proposers, every block stays on
record until the stretch ends, unless a switch of the validator set under Bohr wipes the
record or finality clears it. So the count each signer passes is at least the number of its
blocks in the stretch, and nobody signs more than a turn. The counts are bytes: that they
never wrap is the invariant `RecordOk`.
-/

namespace RethBsc.Chain

open Finset Snapshot

variable {parlia : Parlia} {deps : Deps} {c : Chain parlia deps}

/-- Every header passes `verify_seal` on its parent's snapshot. -/
def SealVerified (c : Chain parlia deps) : Prop :=
  ∀ i < c.len, parlia.verifySeal deps (c.snap i) (c.header (i + 1)) = .ok ()

/-! ### Counts stay below a byte -/

/-- Nobody is on record in the window more often than a byte can count, and before Bohr
nobody is on record twice. -/
structure RecordOk (c : Chain parlia deps) (i : ℕ) : Prop where
  count : ∀ v, v ≠ 0 → ((c.snap i).recentBlocks v).card ≤ 255
  once : c.bohrAt i = false → ∀ v, v ≠ 0 → ∀ k l,
    (c.snap i).recentProposers.get k = some v → (c.snap i).recentProposers.get l = some v → k = l

variable {i : ℕ} {v : Address}

lemma card_lt_turn (hseal : c.SealVerified) (hi : i < c.len) (hrec : c.RecordOk i)
    (h0 : (c.header (i + 1)).beneficiary ≠ 0) :
    ((c.snap i).recentBlocks (c.header (i + 1)).beneficiary).card = 0 ∨
      ((c.snap i).recentBlocks (c.header (i + 1)).beneficiary).card < (c.snap i).turn := by
  have hsign := (Parlia.verifySeal_ok (hseal i hi)).2
  have hle := hrec.count _ h0
  by_contra hcon
  obtain ⟨hne, hturn⟩ := not_or.mp hcon
  have htrue : (c.snap i).signRecently (c.header (i + 1)).beneficiary :=
    signRecently_iff.mpr ⟨h0, hne, by omega⟩
  rw [hsign] at htrue
  cases htrue

lemma applied_switchesAt (hi : i < c.len) : ∃ (info : ValidatorsInfo) (turnLength : Option UInt8),
    Snapshot.Applied (c.snap i) (c.snap (i + 1)) deps parlia.spec (c.header (i + 1)).beneficiary
      (c.header (i + 1)) info.consensusAddrs info.voteAddrs (c.attestation i) turnLength ∧
    (c.snap i).switches deps parlia.spec (c.header (i + 1)).beneficiary (c.header (i + 1))
      info.consensusAddrs (c.attestation i) = c.switchesAt i := by
  obtain ⟨info, turnLength, hdata, happ⟩ := c.applied hi
  refine ⟨info, turnLength, happ, ?_⟩
  rw [switchesAt, hdata]

lemma get_pruneProposers_ne {k : ℕ} (hi : i < c.len) (hbohr : c.bohrAt (i + 1) = false) :
    ((c.snap i).pruneProposers (i + 1)).get k ≠ some (c.header (i + 1)).beneficiary := by
  obtain ⟨info, turnLength, -, happ⟩ := c.applied hi
  have hne := happ.get_pruneProposers_ne hbohr k
  rwa [c.header_number (show i + 1 ≤ c.len from hi)] at hne

lemma recordOk_zero : c.RecordOk 0 := by
  have hempty := c.snap_zero.2.2.1
  constructor
  · intro v hv
    have hnone : (c.snap 0).recentBlocks v = ∅ := by
      ext k
      simp [mem_recentBlocks, hempty]
    simp [hnone]
  · intro _ v _ k l hk
    simp [hempty] at hk

lemma once_succ (hi : i < c.len) (hrec : c.RecordOk i) (hpre : c.bohrAt i = false)
    (hbohr : c.bohrAt (i + 1) = false) (hv : v ≠ 0) {k l : ℕ}
    (hk : (c.snap (i + 1)).recentProposers.get k = some v)
    (hl : (c.snap (i + 1)).recentProposers.get l = some v) : k = l := by
  obtain ⟨info, turnLength, -, happ⟩ := c.applied hi
  have hnum : (c.header (i + 1)).number = i + 1 := c.header_number hi
  have hcases : ∀ m, (c.snap (i + 1)).recentProposers.get m = some v →
      (m = i + 1 ∧ v = (c.header (i + 1)).beneficiary) ∨
        ((c.snap i).pruneProposers (i + 1)).get m = some v := by
    intro m hm
    rcases happ.get_recentProposers hm with h | h | h
    · exact Or.inl ⟨h.1.trans hnum, h.2⟩
    · exact Or.inr (hnum ▸ h.2)
    · exact absurd h hv
  rcases hcases k hk with ⟨hk1, hk2⟩ | hk1 <;> rcases hcases l hl with ⟨hl1, hl2⟩ | hl1
  · rw [hk1, hl1]
  · exact absurd (hk2 ▸ hl1) (get_pruneProposers_ne hi hbohr)
  · exact absurd (hl2 ▸ hk1) (get_pruneProposers_ne hi hbohr)
  · exact hrec.once hpre v hv k l (get_pruneProposers hk1) (get_pruneProposers hl1)

lemma card_recentBlocks_succ_le (hi : i < c.len) (hsw : c.switchesAt i = false) (v : Address) :
    ((c.snap (i + 1)).recentBlocks v).card ≤ ((c.snap i).recentBlocks v).card +
      if v = (c.header (i + 1)).beneficiary then 1 else 0 := by
  obtain ⟨info, turnLength, happ, hsame⟩ := applied_switchesAt hi
  have hcard := happ.card_recentBlocks_le (hsame.trans hsw) v
  have hnum : (c.header (i + 1)).number = (c.snap i).blockNumber + 1 := by
    rw [c.header_number (show i + 1 ≤ c.len from hi), c.blockNumber (show i ≤ c.len by omega)]
  have hsub := card_le_card (recentBlocks_advance_subset deps hnum v)
  omega

lemma recentBlocks_succ_eq_empty (hi : i < c.len) (hbohr : c.bohrAt (i + 1))
    (hsw : c.switchesAt i) (hv : v ≠ 0) : (c.snap (i + 1)).recentBlocks v = ∅ := by
  obtain ⟨info, turnLength, happ, hsame⟩ := applied_switchesAt hi
  exact happ.recentBlocks_eq_empty hbohr (hsame.trans hsw) hv

/-- **One block keeps the counts below a byte.** -/
lemma recordOk_succ (hseal : c.SealVerified) (hstays : c.bohrAt i → c.bohrAt (i + 1))
    (hi : i < c.len) (hrec : c.RecordOk i) : c.RecordOk (i + 1) := by
  have honce : c.bohrAt (i + 1) = false → ∀ v, v ≠ 0 → ∀ k l,
      (c.snap (i + 1)).recentProposers.get k = some v →
      (c.snap (i + 1)).recentProposers.get l = some v → k = l := by
    intro hbohr v hv k l hk hl
    have hpre : c.bohrAt i = false := by
      cases h : c.bohrAt i with
      | false => rfl
      | true => rw [hstays h] at hbohr; cases hbohr
    exact once_succ hi hrec hpre hbohr hv hk hl
  refine ⟨fun v hv => ?_, honce⟩
  cases hbohr : c.bohrAt (i + 1) with
  | false =>
    have hone : ((c.snap (i + 1)).recentBlocks v).card ≤ 1 := by
      refine card_le_one.mpr fun k hk l hl => ?_
      exact honce hbohr v hv k l (mem_recentBlocks.mp hk).2 (mem_recentBlocks.mp hl).2
    omega
  | true =>
    cases hsw : c.switchesAt i with
    | true => simp [recentBlocks_succ_eq_empty hi hbohr hsw hv]
    | false =>
      have hle := hrec.count v hv
      have hcard := card_recentBlocks_succ_le hi hsw v
      split_ifs at hcard with hsigner
      · -- the signer had room in its turn, and a turn fits a byte
        have hroom := card_lt_turn hseal hi hrec (hsigner ▸ hv)
        rw [← hsigner] at hroom
        have hturn := (c.snap i).turn_le
        omega
      · omega

/-- **Counts stay below a byte along the whole chain.** -/
lemma recordOk (hseal : c.SealVerified)
    (hstays : ∀ i < c.len, c.bohrAt i → c.bohrAt (i + 1)) (hi : i ≤ c.len) :
    c.RecordOk i := by
  induction i with
  | zero => exact recordOk_zero
  | succ i ih => exact recordOk_succ hseal (hstays i hi) hi (ih (by omega))

/-! ### A stretch of the chain -/

/-- The blocks above `a` and up to `b` that `v` signed. -/
def signedIn (c : Chain parlia deps) (a b : ℕ) (v : Address) : Finset ℕ :=
  {i ∈ Finset.Ioc a b | (c.header i).beneficiary = v}

/-- As many blocks as the window of recent proposers spans. -/
def stretchLen (n t : ℕ) : ℕ := (n / 2 + 1) * t

/-- The `stretchLen n t` blocks above `a`: each is applied to a set of `n` validators with
turns of `t` blocks, and up to the last one no finality clears a block of the stretch and
no Bohr switch wipes the record. -/
structure Stretch (c : Chain parlia deps) (a n t : ℕ) : Prop where
  fits : a + stretchLen n t ≤ c.len
  size : ∀ i, a ≤ i → i < a + stretchLen n t → (c.snap i).validators.length = n
  turn : ∀ i, a ≤ i → i < a + stretchLen n t → (c.snap i).turn = t
  uncleared : ∀ i, a < i → i < a + stretchLen n t → c.clearedUpTo i ≤ a
  unswitched : ∀ i, a ≤ i → i + 1 < a + stretchLen n t → c.bohrAt (i + 1) = true →
    c.switchesAt i = false

namespace Stretch

variable {a n t : ℕ} (st : c.Stretch a n t)
include st

variable {i : ℕ}

lemma minerHistoryCheckLen_add_one (ha : a ≤ i) (hi : i < a + stretchLen n t) :
    (c.snap i).minerHistoryCheckLen + 1 = stretchLen n t := by
  rw [minerHistoryCheckLen, st.size i ha hi, st.turn i ha hi,
    wrappingSub_of_le (show 1 ≤ (n / 2 + 1) * t by unfold stretchLen at hi; omega)]
  unfold stretchLen at *
  omega

lemma get_pruneProposers_succ {k : ℕ} {v : Address} (hi : i < a + stretchLen n t) (hak : a < k)
    (hki : k ≤ i) (hget : (c.snap i).recentProposers.get k = some v) :
    ((c.snap i).pruneProposers (i + 1)).get k = some v := by
  have hlen := st.minerHistoryCheckLen_add_one (show a ≤ i by omega) hi
  have hfits := st.fits
  have hmax := c.fits
  refine get_pruneProposers_iff.mpr ⟨hget, ?_⟩
  rw [wrappingSucc]
  split_ifs <;> omega

/-- **Every block of the stretch stays on record.** -/
lemma get_recentProposers (ha : a ≤ i) (hi : i < a + stretchLen n t) :
    ∀ k, a < k → k ≤ i → (c.snap i).recentProposers.get k = some (c.header k).beneficiary := by
  have hfits := st.fits
  induction i, ha using Nat.le_induction with
  | base => intro k hak hka; omega
  | succ i ha ih =>
    intro k hak hki
    have hrecorded : (c.recorded i).get k = some (c.header k).beneficiary := by
      refine (get_recorded_iff (by omega) (by omega)).mpr ⟨?_, ?_⟩
      · have := st.uncleared (i + 1) (by omega) hi
        omega
      · split_ifs with hk
        · rw [hk]
        · exact st.get_pruneProposers_succ (by omega) hak (by omega)
            (ih (by omega) k hak (by omega))
    rcases record_succ (show i < c.len by omega) with ⟨-, h, -⟩ | ⟨h, hb, -⟩ | ⟨-, -, h⟩
    · rw [h]; exact hrecorded
    · rw [st.unswitched i ha hi hb] at h; cases h
    · -- a set of the same size trims nothing
      rw [h, st.size i ha (by omega), st.size (i + 1) (by omega) hi, trimProposers]
      simpa using hrecorded

lemma signedIn_subset (ha : a ≤ i) (hi : i < a + stretchLen n t) (v : Address) :
    c.signedIn a i v ⊆ (c.snap i).recentBlocks v := by
  intro k hk
  obtain ⟨hk, hv⟩ := mem_filter.mp hk
  obtain ⟨hak, hki⟩ := mem_Ioc.mp hk
  refine mem_recentBlocks.mpr ⟨?_, hv ▸ st.get_recentProposers ha hi k hak hki⟩
  have hlen := st.minerHistoryCheckLen_add_one ha hi
  have hfits := st.fits
  rw [leftBound, c.blockNumber (show i ≤ c.len by omega)]
  split_ifs <;> omega

end Stretch

lemma signedIn_succ_of_ne {a : ℕ} (h : (c.header (i + 1)).beneficiary ≠ v) :
    c.signedIn a (i + 1) v = c.signedIn a i v := by
  ext k
  simp only [signedIn, mem_filter, mem_Ioc]
  constructor
  · rintro ⟨⟨hak, hki⟩, hv⟩
    have hne : k ≠ i + 1 := by rintro rfl; exact h hv
    exact ⟨⟨hak, by omega⟩, hv⟩
  · rintro ⟨⟨hak, hki⟩, hv⟩
    exact ⟨⟨hak, by omega⟩, hv⟩

lemma card_signedIn_succ_le (c : Chain parlia deps) (a i : ℕ) (v : Address) :
    (c.signedIn a (i + 1) v).card ≤ (c.signedIn a i v).card + 1 := by
  have hsub : c.signedIn a (i + 1) v ⊆ insert (i + 1) (c.signedIn a i v) := by
    intro k hk
    simp only [signedIn, mem_filter, mem_Ioc, mem_insert] at hk ⊢
    obtain ⟨⟨hak, hki⟩, hv⟩ := hk
    by_cases hne : k = i + 1
    · exact Or.inl hne
    · exact Or.inr ⟨⟨hak, by omega⟩, hv⟩
  calc (c.signedIn a (i + 1) v).card
      ≤ (insert (i + 1) (c.signedIn a i v)).card := card_le_card hsub
    _ ≤ (c.signedIn a i v).card + 1 := card_insert_le _ _

@[simp] lemma signedIn_self (c : Chain parlia deps) (a : ℕ) (v : Address) :
    c.signedIn a a v = ∅ := by
  simp [signedIn]

namespace Stretch

variable {a n t : ℕ} (st : c.Stretch a n t)
include st

lemma card_signedIn_le (hrec : ∀ i ≤ c.len, c.RecordOk i) (hseal : c.SealVerified) {v : Address}
    (hv : v ≠ 0) {i : ℕ} (ha : a ≤ i) (hi : i ≤ a + stretchLen n t) :
    (c.signedIn a i v).card ≤ t := by
  have hfits := st.fits
  induction i, ha using Nat.le_induction with
  | base => simp
  | succ i ha ih =>
    have ih := ih (by omega)
    by_cases hsigner : (c.header (i + 1)).beneficiary = v
    · have hroom := card_lt_turn hseal (by omega) (hrec i (by omega)) (hsigner.symm ▸ hv)
      rw [hsigner, st.turn i ha (by omega)] at hroom
      have hsub := card_le_card (st.signedIn_subset ha (by omega) v)
      have hsucc := c.card_signedIn_succ_le a i v
      have hpos : t ≠ 0 := by
        rintro rfl
        simp only [stretchLen, Nat.mul_zero] at hi
        omega
      omega
    · rw [signedIn_succ_of_ne hsigner]
      exact ih

lemma card_signedIn_le_one {v : Address} {i : ℕ} (ha : a ≤ i) (hi : i ≤ a + stretchLen n t)
    (hpre : ∀ j ≤ i, c.bohrAt j = false) : (c.signedIn a i v).card ≤ 1 := by
  have hfits := st.fits
  induction i, ha using Nat.le_induction with
  | base => simp
  | succ i ha ih =>
    by_cases hsigner : (c.header (i + 1)).beneficiary = v
    · have hnone : c.signedIn a i v = ∅ := by
        rw [eq_empty_iff_forall_notMem]
        intro k hk
        obtain ⟨hk, hkv⟩ := mem_filter.mp hk
        obtain ⟨hak, hki⟩ := mem_Ioc.mp hk
        have hget := st.get_pruneProposers_succ (by omega) hak hki
          (st.get_recentProposers ha (by omega) k hak hki)
        rw [hkv, ← hsigner] at hget
        exact get_pruneProposers_ne (by omega) (hpre (i + 1) le_rfl) hget
      have hsucc := c.card_signedIn_succ_le a i v
      rw [hnone, card_empty] at hsucc
      exact hsucc
    · rw [signedIn_succ_of_ne hsigner]
      exact ih (by omega) fun j hj => hpre j (by omega)

end Stretch

/-- **The recent-signer limit over whole runs.** Where every block passed `verify_seal` and
`apply`, and Bohr once active stays active, a validator other than the zero address signs at
most a turn of any stretch, and nobody signs two blocks of a stretch that ends before Bohr. -/
theorem signedIn_stretch_le (hseal : c.SealVerified)
    (hstays : ∀ i < c.len, c.bohrAt i = true → c.bohrAt (i + 1) = true) {a n t : ℕ}
    (st : c.Stretch a n t) (v : Address) :
    (v ≠ 0 → (c.signedIn a (a + stretchLen n t) v).card ≤ t) ∧
    (c.bohrAt (a + stretchLen n t) = false → (c.signedIn a (a + stretchLen n t) v).card ≤ 1) := by
  constructor
  · intro hv
    exact st.card_signedIn_le (fun i hi => recordOk hseal hstays hi) hseal hv (by omega) le_rfl
  · intro hbohr
    refine st.card_signedIn_le_one (by omega) le_rfl fun j hj => ?_
    -- had Bohr been active below, it would still be
    by_contra hactive
    rw [Bool.not_eq_false] at hactive
    have hlast : ∀ m, j ≤ m → m ≤ c.len → c.bohrAt m = true := by
      intro m hjm
      induction m, hjm using Nat.le_induction with
      | base => exact fun _ => hactive
      | succ m _ ih => exact fun hm => hstays m hm (ih (by omega))
    rw [hlast _ hj st.fits] at hbohr
    cases hbohr

/-! ### Two validators with turns of one block -/

/-- Bohr from genesis on. -/
def pairParlia : Parlia := ⟨sampleSpec (.block 0) (.timestamp 0) .never, 200⟩

/-- The genesis header lists validators `low` and 2 and turns of one block; the blocks above
it come from the given signers. -/
def pairHeaders (low : ℕ) (signers : List ℕ) : ℕ → Header
  | 0 => sampleHeader 0 0 0 0 ([2] ++ (List.replicate 19 0 ++ [UInt8.ofNat low] ++
      List.replicate 48 0) ++ (List.replicate 19 0 ++ [2] ++ List.replicate 48 0) ++ [1])
  | i + 1 =>
    let signer := signers.getD i 0
    let inturn := if i % 2 = 0 then 2 else low
    { sampleHeader (i + 1) 0 signer (BitVec.ofNat 256 (8 * i + 1)) [] with
      difficulty := if signer = inturn then 2 else 1 }

def pairChain (low : ℕ) (signers : List ℕ) (fits : signers.length ≤ u64Max)
    (h : (pairParlia.fold (sampleDeps true)
      (branch (pairHeaders low signers) signers.length)).isSome) :
    Chain pairParlia (sampleDeps true) :=
  Chain.ofFold _ _ (pairHeaders low signers) signers.length fits h

def turnsChain : Chain pairParlia (sampleDeps true) :=
  pairChain 1 [2, 1, 2] (by decide) (by decide +kernel)

/-- Validator 1 signs block 1, which puts the validators of genesis in force once more, and
then block 2. -/
def reinstallingChain : Chain pairParlia (sampleDeps true) :=
  pairChain 1 [1, 1] (by decide) (by decide +kernel)

/-- The zero address signs blocks 2 and 3. -/
def zeroChain : Chain pairParlia (sampleDeps true) :=
  pairChain 0 [2, 0, 0] (by decide) (by decide +kernel)

lemma stretch_of_three {c : Chain pairParlia (sampleDeps true)} (hlen : c.len = 3)
    (h : ∀ i < 3, (c.snap (i + 1)).validators.length = 2 ∧ (c.snap (i + 1)).turn = 1 ∧
      c.clearedUpTo i = 0) (hswitch : c.switchesAt 1 = false) : c.Stretch 1 2 1 where
  fits := by rw [hlen]; decide
  size i ha hi := by
    obtain ⟨j, rfl⟩ : ∃ j, i = j + 1 := ⟨i - 1, by omega⟩
    exact (h j (by unfold stretchLen at hi; omega)).1
  turn i ha hi := by
    obtain ⟨j, rfl⟩ : ∃ j, i = j + 1 := ⟨i - 1, by omega⟩
    exact (h j (by unfold stretchLen at hi; omega)).2.1
  uncleared i ha hi := by
    rw [(h i (by unfold stretchLen at hi; omega)).2.2]
    omega
  unswitched i ha hi _ := by
    obtain rfl : i = 1 := by unfold stretchLen at hi; omega
    exact hswitch

/-- Each of the two validators signs at most one of the blocks 2 and 3. -/
theorem signedIn_stretch_le_turns : turnsChain.Stretch 1 2 1 ∧
    (turnsChain.signedIn 1 3 1).card ≤ 1 ∧ (turnsChain.signedIn 1 3 2).card ≤ 1 := by
  have hseal : turnsChain.SealVerified := by
    unfold SealVerified
    decide +kernel
  have hstays : ∀ i < turnsChain.len, turnsChain.bohrAt i = true →
      turnsChain.bohrAt (i + 1) = true :=
    fun i hi => bohrAt_succ hi (by revert i; decide +kernel)
  have st : turnsChain.Stretch 1 2 1 := stretch_of_three rfl (by decide +kernel) (by decide +kernel)
  exact ⟨st, (signedIn_stretch_le hseal hstays st 1).1 (by decide),
    (signedIn_stretch_le hseal hstays st 2).1 (by decide)⟩

/-- **Two ways past the limit.** Block 1 puts the same validators with the same turn length
in force again and thereby wipes the record (BEP-404), so validator 1 signs both blocks of
the stretch right above genesis. And the zero address, which is never counted, signs both
blocks of a stretch in which nothing switches. -/
theorem signs_beyond_turn :
    (reinstallingChain.SealVerified ∧ reinstallingChain.len = stretchLen 2 1 ∧
      (∀ i ≤ 2, (reinstallingChain.snap i).validators = [1, 2] ∧
        (reinstallingChain.snap i).turn = 1 ∧ reinstallingChain.maxwellAt i = false) ∧
      (reinstallingChain.signedIn 0 (0 + stretchLen 2 1) 1).card = 2) ∧
    (zeroChain.SealVerified ∧ zeroChain.Stretch 1 2 1 ∧
      (∀ i ≤ 3, (zeroChain.snap i).validators = [0, 2] ∧ zeroChain.maxwellAt i = false) ∧
      (zeroChain.signedIn 1 (1 + stretchLen 2 1) 0).card = 2) := by
  unfold SealVerified
  refine ⟨by decide +kernel, by decide +kernel, ?_, by decide +kernel⟩
  exact stretch_of_three rfl (by decide +kernel) (by decide +kernel)

end RethBsc.Chain
