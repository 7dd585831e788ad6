import RethBsc.WindowSwitch
import RethBsc.HeaderRoundTrip

/-!
The two epoch lengths of a block.

The producer writes validators where the number is a multiple of the parent snapshot's epoch
length; the header check asks for them where it is a multiple of the length that belongs to the
header's own time. The snapshot takes over a new length only with the block before a multiple of
it, so the two lengths differ for a while after a fork. Multiples of 1000 are multiples of 200 and
500, so Maxwell does no harm. A multiple of 500 need not be one of 200, and if Lorentz becomes
active exactly there, the parent's snapshot has not switched yet.
-/

namespace RethBsc

open Snapshot

namespace Chain

variable {parlia : Parlia} {deps : Deps} {c : Chain parlia deps} {i : ℕ}

def lorentzAt (c : Chain parlia deps) (i : ℕ) : Bool :=
  parlia.spec.isLorentzActiveAtTimestamp (c.header i).number (c.header i).timestamp

lemma epochNum_succ (hi : i + 1 ≤ c.len) : (c.snap (i + 1)).epochNum =
    nextEpochNum (c.lorentzAt (i + 1)) (c.maxwellAt (i + 1)) (i + 1) (c.snap i).epochNum := by
  obtain ⟨info, turnLength, -, happ⟩ := c.applied hi
  rw [happ.epochNum, lorentzAt, maxwellAt, c.header_number hi]

lemma nextEpochNum_cases (isLorentz isMaxwell : Bool) (n e : ℕ) :
    nextEpochNum isLorentz isMaxwell n e = e ∨
      nextEpochNum isLorentz isMaxwell n e = lorentzEpochLength ∧ isLorentz ∨
      nextEpochNum isLorentz isMaxwell n e = maxwellEpochLength ∧ isMaxwell := by
  unfold nextEpochNum
  cases isLorentz <;> cases isMaxwell <;> simp only [Bool.and_true, Bool.and_false] <;>
    split_ifs <;> simp_all

/-- A longer epoch is due to a block under the fork that brought it. -/
lemma epochNum_cases (hepoch : parlia.epoch = defaultEpochLength) (hi : i ≤ c.len) :
    (c.snap i).epochNum = defaultEpochLength ∨
      (c.snap i).epochNum = lorentzEpochLength ∧ (∃ j ≤ i, c.lorentzAt j) ∨
      (c.snap i).epochNum = maxwellEpochLength ∧ ∃ j ≤ i, c.maxwellAt j := by
  induction i with
  | zero =>
    left
    rw [c.snap_zero.2.2.2.2.2, hepoch]
    rfl
  | succ i ih =>
    rw [epochNum_succ hi]
    rcases nextEpochNum_cases (c.lorentzAt (i + 1)) (c.maxwellAt (i + 1)) (i + 1)
      (c.snap i).epochNum with h | ⟨h, hl⟩ | ⟨h, hm⟩
    · rw [h]
      rcases ih (by omega) with h | ⟨h, j, hj, hl⟩ | ⟨h, j, hj, hm⟩
      · exact .inl h
      · exact .inr (.inl ⟨h, j, by omega, hl⟩)
      · exact .inr (.inr ⟨h, j, by omega, hm⟩)
    · exact .inr (.inl ⟨h, i + 1, le_rfl, hl⟩)
    · exact .inr (.inr ⟨h, i + 1, le_rfl, hm⟩)

lemma epochNum_ne_default (hi : i + 1 ≤ c.len) (hl : c.lorentzAt (i + 1))
    (hmult : isMultipleOf (i + 1 + 1) lorentzEpochLength) :
    (c.snap (i + 1)).epochNum ≠ defaultEpochLength := by
  rw [epochNum_succ hi, nextEpochNum, hl, hmult]
  simp only [Bool.and_true, Bool.and_eq_true, decide_eq_true_eq]
  split_ifs <;> first | assumption | decide

/-- Unless Lorentz becomes active exactly at a multiple of 500 that is none of 200, wherever the
check asks for validators the producer writes them. -/
lemma isMultipleOf_epochNum {header : Header} (hepoch : parlia.epoch = defaultEpochLength)
    (hi : i ≤ c.len) (hnum : header.number = i + 1)
    (htime : ∀ j ≤ i, (c.header j).timestamp ≤ header.timestamp)
    (hfirst : (i + 1) % 1000 = 500 → parlia.getEpochLength header = lorentzEpochLength →
      c.lorentzAt i)
    (h : isMultipleOf header.number (parlia.getEpochLength header)) :
    isMultipleOf header.number (c.snap i).epochNum := by
  have active {fork : BscHardfork} {j : ℕ} (hj : j ≤ i)
      (hfork : parlia.spec.isActiveAtTimestamp fork (c.header j).number (c.header j).timestamp) :
      parlia.spec.isActiveAtTimestamp fork header.number header.timestamp :=
    ChainSpec.isActiveAtTimestamp_mono (by rw [c.header_number (hj.trans hi)]; omega)
      (htime j hj) hfork
  have hcases := epochNum_cases hepoch hi
  simp only [isMultipleOf, decide_eq_true_eq] at h ⊢
  unfold Parlia.getEpochLength at h hfirst
  split_ifs at h hfirst with hmaxwell hlorentz
  · rcases hcases with he | ⟨he, -⟩ | ⟨he, -⟩ <;> rw [he]
    · exact Nat.mod_eq_zero_of_dvd (dvd_trans (by decide) (Nat.dvd_of_mod_eq_zero h))
    · exact Nat.mod_eq_zero_of_dvd (dvd_trans (by decide) (Nat.dvd_of_mod_eq_zero h))
    · exact h
  · rcases hcases with he | ⟨he, -⟩ | ⟨-, j, hj, hm⟩
    · by_cases hhalf : (i + 1) % 1000 = 500
      · -- the block before a multiple of 500 under Lorentz has switched
        obtain ⟨k, rfl⟩ : ∃ k, i = k + 1 := ⟨i - 1, by omega⟩
        have hmult : isMultipleOf (k + 1 + 1) lorentzEpochLength := by
          rw [isMultipleOf, ← hnum, h]
          rfl
        exact absurd he (epochNum_ne_default hi (hfirst hhalf rfl) hmult)
      · rw [he, hnum]
        rw [hnum] at h
        unfold lorentzEpochLength at h
        unfold defaultEpochLength
        omega
    · rw [he, h]
    · exact absurd (active hj hm) hmaxwell
  · rcases hcases with he | ⟨-, j, hj, hl⟩ | ⟨-, j, hj, hm⟩
    · rw [he, ← hepoch, h]
    · exact absurd (active hj hl) hlorentz
    · exact absurd (active hj hm) hmaxwell

/-- **Epochs of producer and check.** Unless Lorentz becomes active exactly at a multiple of 500
that is none of 200, the check accepts what the producer builds on a snapshot of the chain. -/
theorem finalized_accepted {deps : VoteDeps} (c : Chain parlia deps.toDeps) {ε : Type}
    {sealHeader : SealHeader} {collect : Collector ε}
    {cache cache' : TurnLengthCache} {header built : Header} {blockTimestampMs : ℕ}
    {epochValidators : Option EpochValidators} (hepoch : parlia.epoch = defaultEpochLength)
    (hi : i ≤ c.len) (hnum : header.number = i + 1)
    (htime : ∀ j ≤ i, (c.header j).timestamp ≤ header.timestamp)
    (hfirst : (i + 1) % 1000 = 500 → parlia.getEpochLength header = lorentzEpochLength →
      c.lorentzAt i = true)
    (hluban : parlia.spec.isLubanActiveAtBlock header.number = true)
    (hextra : header.extraData.length ≤ extraVanityLen)
    (hvalid : ∀ validators voteAddresses, epochValidators = some (validators, voteAddresses) →
      0 < validators.length ∧ validators.length ≤ 255)
    (h : parlia.finalizeNewHeader deps sealHeader collect cache (c.snap i) header blockTimestampMs
      epochValidators = some (.ok (built, cache'))) :
    parlia.checkHeaderExtra built = .ok () := by
  obtain ⟨_, -, hn, ht, hlaid⟩ := Parlia.finalizeNewHeader_laid (fun _ => hluban) hextra
    (fun v a hva => (hvalid v a hva).2) h
  have hlength : parlia.getEpochLength built = parlia.getEpochLength header := by
    simp only [Parlia.getEpochLength, hn, ht]
  refine hlaid.checkHeaderExtra_ok ?_ (.inl (hn ▸ hluban)) fun hmult => ?_
  · rw [hn, hlength]
    exact isMultipleOf_epochNum hepoch hi hnum htime hfirst
  · obtain ⟨-, -, -, -, hsome, -⟩ := Parlia.finalizeNewHeader_ok h
    obtain ⟨validators, voteAddresses, rfl⟩ := hsome (hn ▸ hmult)
    simpa [Parlia.suppliedPairs] using (hvalid validators voteAddresses rfl).1

end Chain

/-! ### Lorentz from block 500 on -/

def halfwayParlia : Parlia := ⟨sampleSpec (.block 0) (.timestamp 0) (.timestamp 1500), 200⟩

def halfwayHeaders (i : ℕ) : Header :=
  sampleHeader i 0 1 (BitVec.ofNat 256 (8 * (i - 1) + 1))
    (if i % 200 = 0 then Chain.soleListing 1 1 else [])

lemma halfway_folds :
    (halfwayParlia.fold strokeDeps.toDeps (branch halfwayHeaders 499)).isSome := by
  decide +kernel

def halfwayChain : Chain halfwayParlia strokeDeps.toDeps :=
  Chain.ofFold _ _ halfwayHeaders 499 (by decide) halfway_folds

/-- Block `i + 1`, built without an attestation. -/
def halfwayBuilt (i : ℕ) : Option (Except SignerError (Header × TurnLengthCache)) :=
  halfwayParlia.finalizeNewHeader strokeDeps
    (fun _ _ => .ok ⟨List.replicate extraSealLen 7, length_buildSeal⟩)
    (fun _ => (.ok none : Except Unit (Option VoteAttestation))) ⟨1024, []⟩ (halfwayChain.snap i)
    { halfwayHeaders (i + 1) with extraData := [] } 0 (some ([1], [0]))

/-- The snapshot of block 499 has epochs of 200 blocks, so block 500 is built without
validators; the check has epochs of 500 blocks and refuses it. -/
theorem lorentz_start_refused : (halfwayChain.snap 499).validators = [1] ∧
    ((halfwayBuilt 499).bind Except.toOption).map (fun built =>
      halfwayParlia.checkHeaderExtra built.1) = some (.error (.invalidHeaderExtraLen 97)) := by
  decide +kernel

theorem finalized_accepted_checkpoint : ∃ built cache,
    halfwayBuilt 199 = some (.ok (built, cache)) ∧
      halfwayParlia.checkHeaderExtra built = .ok () := by
  obtain ⟨⟨built, cache⟩, h⟩ : ∃ r, halfwayBuilt 199 = some (.ok r) :=
    exists_ok_of_isSome (by decide +kernel)
  refine ⟨built, cache, h, Chain.finalized_accepted halfwayChain rfl (by decide) rfl
    (fun j hj => ?_) (by decide) rfl (by decide) (by rintro _ _ ⟨⟩; decide) h⟩
  show 3 * j ≤ 3 * 200
  omega

end RethBsc
