import RethBsc.HeaderVerify

/-!
Finality along one chain: what the accepted attestations make of the vote a snapshot keeps.

A header's attestation votes from the highest justified block to one of the header's last
ancestors. The vote of the snapshot either takes it over, when it finalizes its source or is
the first one, or only moves its target. `VoteOnChain` is what stays true through both
branches; `attested` says what one accepted attestation does.
-/

namespace RethBsc

open Snapshot Parlia

namespace Chain

variable {parlia : Parlia} {deps : Deps} {reader : HeaderReader}
  {snapshotProvider : Option (B256 → Option Snapshot)} {U : HeaderUniverse deps}
  (c : Chain parlia deps)

/-- A chain and a header reader within a universe of headers: a lookup by hash answers with
a header of that hash, and block 0 is the chain's genesis, whose parent is no header. -/
structure Within (U : HeaderUniverse deps) (reader : HeaderReader) : Prop where
  chain : ∀ i ≤ c.len, c.header i ∈ U.headers
  byHash : ∀ hash x, reader.byHash hash = some x → x ∈ U.headers ∧ deps.hashSlow x = hash
  canonical : ∀ x, reader.canonical 0 = some x → x = c.header 0
  root : ∀ x ∈ U.headers, deps.hashSlow x ≠ (c.header 0).parentHash

/-- Every header passes `verify_vote_attestation` on its parent's snapshot. -/
def Verified (reader : HeaderReader) (snapshotProvider : Option (B256 → Option Snapshot)) : Prop :=
  ∀ i < c.len, parlia.verifyVoteAttestation deps reader snapshotProvider (c.snap i)
    (c.header (i + 1)) (c.header i) = .ok ()

def PlatoFromFirstAttestation : Prop :=
  ∀ i < c.len, ∀ a, c.attestation i = some a → parlia.spec.isPlatoActiveAtBlock (i + 1) = true

/-- Every attestation votes from a lower to a higher block. -/
def Spanning : Prop :=
  ∀ i < c.len, ∀ a, c.attestation i = some a → a.data.sourceNumber < a.data.targetNumber

/-- The vote of the snapshot at height `i` is the initial one, or spans two blocks of the
chain below `i`. -/
def VoteOnChain (i : ℕ) : Prop :=
  let vote := (c.snap i).voteData
  vote = VoteData.default ∨ (vote.sourceNumber < vote.targetNumber ∧ vote.targetNumber < i ∧
      vote.sourceHash = deps.hashSlow (c.header vote.sourceNumber) ∧
      vote.targetHash = deps.hashSlow (c.header vote.targetNumber))

/-- What the accepted attestation of block `i + 1` is and does. -/
structure Attested (i : ℕ) (a : VoteAttestation) : Prop where
  sourceNumber : a.data.sourceNumber = (c.snap i).voteData.targetNumber
  sourceHash : a.data.sourceHash = deps.hashSlow (c.header a.data.sourceNumber)
  lt : a.data.sourceNumber < a.data.targetNumber
  le : a.data.targetNumber ≤ i
  targetHash : a.data.targetHash = deps.hashSlow (c.header a.data.targetNumber)
  voteData : (c.snap (i + 1)).voteData =
    if (c.snap i).voteData ≠ VoteData.default ∧ a.data.sourceNumber + 1 ≠ a.data.targetNumber then
      { (c.snap i).voteData with
        targetNumber := a.data.targetNumber, targetHash := a.data.targetHash }
    else a.data

variable {c} {i : ℕ} {x : Header} {a : VoteAttestation}

lemma Within.header_eq (hw : c.Within U reader) (hi : i ≤ c.len) {hash : B256}
    (hx : reader.byHash hash = some x) (hh : hash = deps.hashSlow (c.header i)) :
    x = c.header i := by
  obtain ⟨hxU, hxh⟩ := hw.byHash hash x hx
  exact U.collisionFree hxU (hw.chain i hi) (hxh.trans hh)

lemma Within.hash_inj (hw : c.Within U reader) {j : ℕ} (hi : i ≤ c.len) (hj : j ≤ c.len)
    (h : deps.hashSlow (c.header i) = deps.hashSlow (c.header j)) : i = j := by
  have heq := U.collisionFree (hw.chain i hi) (hw.chain j hj) h
  rw [← c.header_number hi, heq, c.header_number hj]

lemma Within.findTarget_ok (hw : c.Within U reader) {data : VoteData} {ancestor : Header}
    (depth : ℕ) (hi : i ≤ c.len)
    (h : findTarget deps reader data depth (c.header i) = .ok ancestor) :
    ∃ j ≤ i, i < j + depth ∧ ancestor = c.header j ∧ data.targetNumber = j ∧
      data.targetHash = deps.hashSlow (c.header j) := by
  induction depth generalizing i with
  | zero => cases h
  | succ depth ih =>
    rw [findTarget] at h
    split_ifs at h with hm
    · cases h
      rw [c.header_number hi] at hm
      exact ⟨i, le_refl i, by omega, rfl, hm.1.symm, hm.2.symm⟩
    · cases hp : reader.byHash (c.header i).parentHash with
      | none => rw [hp] at h; cases h
      | some x =>
        rw [hp] at h
        cases i with
        | zero =>
          obtain ⟨hxU, hxh⟩ := hw.byHash _ _ hp
          exact absurd hxh (hw.root x hxU)
        | succ i =>
          have hx := hw.header_eq (by omega) hp (c.header_parentHash (by omega))
          subst hx
          obtain ⟨j, hj, hd, hrest⟩ := ih (by omega) h
          exact ⟨j, by omega, by omega, hrest⟩

lemma wrappingSucc_of_lt {a b : ℕ} (h : a < b) (hb : b ≤ u64Max) : wrappingSucc a = a + 1 := by
  have : a ≠ u64Max := by omega
  simp [wrappingSucc, this]

lemma hasExistingAttestation_iff (hinv : c.VoteOnChain i) :
    hasExistingAttestation (c.snap i).voteData ↔ (c.snap i).voteData ≠ VoteData.default := by
  rcases hinv with hdef | ⟨hlt, -⟩
  · rw [hdef]; simp [hasExistingAttestation, VoteData.default]
  · have hne : (c.snap i).voteData.targetNumber ≠ 0 := by omega
    have hnd : (c.snap i).voteData ≠ VoteData.default := fun hd => by
      rw [hd] at hne; exact hne rfl
    simp [hasExistingAttestation, hne, hnd]

lemma voteData_of_none (hi : i < c.len) (ha : c.attestation i = none) :
    (c.snap (i + 1)).voteData = (c.snap i).voteData := by
  rw [c.voteData_succ hi, ha]; rfl

lemma Attested.voteOnChain (h : c.Attested i a) (hinv : c.VoteOnChain i) :
    c.VoteOnChain (i + 1) := by
  have hle := h.le
  have hlt := h.lt
  unfold VoteOnChain
  rw [h.voteData]
  refine Or.inr ?_
  split_ifs with hk
  · -- an old source with a new target
    rcases hinv with hdef | ⟨h1, h2, h3, h4⟩
    · exact absurd hdef hk.1
    · have hs := h.sourceNumber
      exact ⟨by simp only; omega, by simp only; omega, h3, h.targetHash⟩
  · exact ⟨hlt, by omega, h.sourceHash, h.targetHash⟩

/-! ### The source never falls

Whatever was signed: from Fermi on a vote may point back, but by three blocks at most, and the
source of the vote a snapshot keeps lies further down. -/

/-- Where source and target of the vote at height `i` lie, whatever was signed. -/
structure VoteBelow (c : Chain parlia deps) (i : ℕ) : Prop where
  hashes : (c.snap i).voteData = VoteData.default ∨ (c.snap i).voteData.sourceHash =
        deps.hashSlow (c.header (c.snap i).voteData.sourceNumber) ∧
      (c.snap i).voteData.targetHash = deps.hashSlow (c.header (c.snap i).voteData.targetNumber)
  le : (c.snap i).voteData.sourceNumber ≤ (c.snap i).voteData.targetNumber
  target : (c.snap i).voteData.targetNumber ≤ i
  source : (c.snap i).voteData.sourceNumber = 0 ∨ (c.snap i).voteData.sourceNumber + 2 ≤ i
  equal : (c.snap i).voteData.sourceNumber = (c.snap i).voteData.targetNumber →
    (c.snap i).voteData.sourceNumber = 0 ∨ (c.snap i).voteData.sourceNumber + 3 ≤ i

lemma VoteBelow.getJustifiedHeader_ok (hw : c.Within U reader) (hi : i ≤ c.len) (h : c.VoteBelow i)
    (hx : getJustifiedHeader reader (c.snap i) = .ok x) :
    ∃ k ≤ i, x = c.header k ∧ (k = (c.snap i).voteData.targetNumber ∨
      k = 0 ∧ (c.snap i).voteData.sourceNumber = (c.snap i).voteData.targetNumber) := by
  have hle := h.le
  have htarget := h.target
  unfold getJustifiedHeader at hx
  split_ifs at hx with hz
  · have heq : (c.snap i).voteData.sourceNumber = (c.snap i).voteData.targetNumber := by
      rcases h.hashes with hdef | ⟨hs, ht⟩
      · rw [hdef]; rfl
      · refine hw.hash_inj (by omega) (by omega) ?_
        rw [← hs, ← ht, hz.1, hz.2]
    split at hx
    · next g hg =>
      cases hx
      exact ⟨0, Nat.zero_le _, hw.canonical _ hg, Or.inr ⟨rfl, heq⟩⟩
    · cases hx
  · rcases h.hashes with hdef | ⟨-, ht⟩
    · rw [hdef] at hz
      exact absurd ⟨rfl, rfl⟩ hz
    · split at hx
      · next y hy =>
        cases hx
        exact ⟨_, htarget, hw.header_eq (by omega) hy ht, Or.inl rfl⟩
      · cases hx

section Accepted

variable (hw : c.Within U reader) (hv : c.Verified reader snapshotProvider)
  (hplato : c.PlatoFromFirstAttestation)

include hv hplato

lemma accepted (hi : i < c.len) (ha : c.attestation i = some a) :
    Parlia.AttestationOk parlia deps reader snapshotProvider (c.snap i) (c.header (i + 1))
      (c.header i) a := by
  obtain ⟨-, -, -, hget, -⟩ := applyHeader_eq_some (c.step i hi)
  have hon : parlia.attestationOn deps (c.snap i) (c.header (i + 1)) = some a := ha
  rw [hon] at hget
  refine verifyVoteAttestation_ok ?_ hget (hv i hi)
  rw [c.header_number hi]
  exact hplato i hi a ha

lemma spanning_of_signatures
    (hsig : ∀ sig data keys, deps.fastAggregateVerify sig (deps.voteDataHash data) keys →
      data.sourceNumber < data.targetNumber) : c.Spanning := by
  intro i hi a ha
  obtain ⟨⟨-, -, -, -, -, -, keys, sig, -, hver⟩, -⟩ := accepted hv hplato hi ha
  exact hsig sig a.data keys hver

include hw

/-- **What an accepted attestation does to the vote**: its target, one of the last three
ancestors, becomes the target, and the whole vote is taken over if it is the first one or its
source is the block before its target. -/
lemma voteData_of_accepted (hi : i < c.len) (ha : c.attestation i = some a) :
    a.data.targetNumber ≤ i ∧ i ≤ a.data.targetNumber + 2 ∧
    a.data.targetHash = deps.hashSlow (c.header a.data.targetNumber) ∧
    (c.snap (i + 1)).voteData = if hasExistingAttestation (c.snap i).voteData = true ∧
          wrappingSucc a.data.sourceNumber ≠ a.data.targetNumber then
        { (c.snap i).voteData with
          targetNumber := a.data.targetNumber, targetHash := a.data.targetHash }
      else a.data := by
  have hnum := c.header_number hi
  have hfit := c.fits
  obtain ⟨⟨ancestor, hanc, -⟩, -⟩ := accepted hv hplato hi ha
  obtain ⟨t, hti, hdepth, -, htn, hth⟩ := hw.findTarget_ok _ (by omega) hanc
  have hthree : parlia.attestationDepth (c.header (i + 1)) ≤ 3 := by
    unfold attestationDepth
    split_ifs <;> decide
  refine ⟨by omega, by omega, by rw [hth, htn], ?_⟩
  rw [c.voteData_succ hi, ha]
  have hpre : (!parlia.spec.isFermiActiveAtTimestamp (c.header (i + 1)).number
      (c.header (i + 1)).timestamp &&
      decide (wrappingSucc a.data.targetNumber ≠ (c.header (i + 1)).number ∨
        a.data.targetHash ≠ (c.header (i + 1)).parentHash)) = false := by
    cases hf : parlia.spec.isFermiActiveAtTimestamp (c.header (i + 1)).number
        (c.header (i + 1)).timestamp with
    | true => simp
    | false =>
      -- before Fermi the target is the parent
      simp only [attestationDepth, hf, Bool.false_eq_true, if_false] at hdepth
      obtain rfl : t = i := by omega
      have hts := wrappingSucc_of_lt (a := t) (b := t + 1) (by omega) (by omega)
      simp [hts, hnum, htn, hth, c.header_parentHash hi]
  simp only [updateVoteData, hpre, Bool.false_eq_true, if_false, Bool.and_eq_true,
    decide_eq_true_eq]

lemma VoteBelow.attested (hi : i < c.len) (h : c.VoteBelow i)
    (ha : c.attestation i = some a) : c.VoteBelow (i + 1) ∧
      (c.snap i).voteData.sourceNumber ≤ (c.snap (i + 1)).voteData.sourceNumber := by
  obtain ⟨-, justified, hjust, hsn, hsh⟩ := accepted hv hplato hi ha
  obtain ⟨hti, hit, hth, hvote⟩ := voteData_of_accepted hw hv hplato hi ha
  obtain ⟨k, hk, rfl, hwhere⟩ := h.getJustifiedHeader_ok hw hi.le hjust
  rw [c.header_number (show k ≤ c.len by omega)] at hsn
  have hfit := c.fits
  have hle := h.le
  have hsource := h.source
  have hequal := h.equal
  rw [wrappingSucc_of_lt (show a.data.sourceNumber < i + 1 by omega) (by omega)] at hvote
  by_cases hex : hasExistingAttestation (c.snap i).voteData = true
  · by_cases hcons : a.data.sourceNumber + 1 = a.data.targetNumber
    · -- the whole vote is taken over
      rw [if_neg fun hn => hn.2 hcons] at hvote
      refine ⟨⟨Or.inr ?_, ?_, ?_, ?_, ?_⟩, ?_⟩ <;> rw [hvote]
      · exact ⟨by rw [hsh, hsn], hth⟩
      all_goals omega
    · -- only the target moves
      rw [if_pos ⟨hex, hcons⟩] at hvote
      have hhash : (c.snap i).voteData.sourceHash =
          deps.hashSlow (c.header (c.snap i).voteData.sourceNumber) := by
        rcases h.hashes with hdef | hashes
        · rw [hdef] at hex
          cases hex
        · exact hashes.1
      refine ⟨⟨Or.inr ?_, ?_, ?_, ?_, ?_⟩, ?_⟩ <;> rw [hvote] <;> simp only
      · exact ⟨hhash, hth⟩
      all_goals omega
  · -- the first vote starts at genesis
    rw [if_neg fun hn => hex hn.1] at hvote
    simp only [hasExistingAttestation, decide_eq_true_eq, not_or, not_not] at hex
    refine ⟨⟨Or.inr ?_, ?_, ?_, ?_, ?_⟩, ?_⟩ <;> rw [hvote]
    · exact ⟨by rw [hsh, hsn], hth⟩
    all_goals omega

lemma VoteBelow.succ (hi : i < c.len) (h : c.VoteBelow i) : c.VoteBelow (i + 1) ∧
      (c.snap i).voteData.sourceNumber ≤ (c.snap (i + 1)).voteData.sourceNumber := by
  cases ha : c.attestation i with
  | none =>
    have hle := h.le
    have htarget := h.target
    have hsource := h.source
    have hequal := h.equal
    refine ⟨⟨?_, ?_, ?_, ?_, ?_⟩, ?_⟩ <;> rw [voteData_of_none hi ha]
    · exact h.hashes
    all_goals omega
  | some a => exact h.attested hw hv hplato hi ha

lemma voteBelow (hi : i ≤ c.len) : c.VoteBelow i := by
  induction i with
  | zero =>
    have h0 := c.snap_zero.2.2.2.1
    refine ⟨Or.inl h0, ?_, ?_, ?_, ?_⟩ <;> rw [h0] <;> simp [VoteData.default]
  | succ i ih => exact ((ih (by omega)).succ hw hv hplato hi).1

lemma sourceNumber_mono {j : ℕ} (hij : i ≤ j) (hj : j ≤ c.len) :
    (c.snap i).voteData.sourceNumber ≤ (c.snap j).voteData.sourceNumber := by
  induction j, hij using Nat.le_induction with
  | base => exact le_refl _
  | succ j hij ih =>
    have hbelow := voteBelow hw hv hplato (show j ≤ c.len by omega)
    calc (c.snap i).voteData.sourceNumber ≤ (c.snap j).voteData.sourceNumber := ih (by omega)
      _ ≤ (c.snap (j + 1)).voteData.sourceNumber := (hbelow.succ hw hv hplato hj).2

theorem attested (hspan : c.Spanning) (hi : i < c.len)
    (hinv : c.VoteOnChain i) (ha : c.attestation i = some a) : c.Attested i a := by
  obtain ⟨-, justified, hjust, hsn, hsh⟩ := accepted hv hplato hi ha
  obtain ⟨hle, -, hth, hvote⟩ := voteData_of_accepted hw hv hplato hi ha
  obtain ⟨k, hki, rfl, hk⟩ := (voteBelow hw hv hplato hi.le).getJustifiedHeader_ok hw hi.le hjust
  have hlt := hspan i hi a ha
  have hfit := c.fits
  -- the zero hashes stand for genesis, which the initial vote names as its target
  have hkt : k = (c.snap i).voteData.targetNumber := by
    rcases hinv with hdef | hinv
    · rw [hdef] at hk ⊢
      exact hk.elim id And.left
    · omega
  rw [c.header_number (by omega)] at hsn
  refine ⟨hsn.trans hkt, by rw [hsh, hsn], hlt, hle, hth, ?_⟩
  rw [hvote, wrappingSucc_of_lt hlt (by omega)]
  simp only [hasExistingAttestation_iff hinv]

lemma voteOnChain (hspan : c.Spanning) (hi : i ≤ c.len) : c.VoteOnChain i := by
  induction i with
  | zero => exact Or.inl c.snap_zero.2.2.2.1
  | succ i ih =>
    have hinv := ih (by omega)
    cases ha : c.attestation i with
    | none =>
      unfold VoteOnChain
      rw [voteData_of_none hi ha]
      rcases hinv with hdef | ⟨h1, h2, h3⟩
      · exact Or.inl hdef
      · exact Or.inr ⟨h1, by omega, h3⟩
    | some a => exact (attested hw hv hplato hspan hi hinv ha).voteOnChain hinv

end Accepted

/-- **Finality is monotone along a chain.** Every accepted attestation raises the target,
the source never falls, and the vote of a snapshot spans two blocks of its own chain. -/
theorem finality_monotone (hw : c.Within U reader) (hv : c.Verified reader snapshotProvider)
    (hplato : c.PlatoFromFirstAttestation)
    (hsig : ∀ sig data keys, deps.fastAggregateVerify sig (deps.voteDataHash data) keys = true →
      data.sourceNumber < data.targetNumber) :
    (∀ i < c.len, c.attestation i ≠ none →
      (c.snap i).voteData.targetNumber < (c.snap (i + 1)).voteData.targetNumber) ∧
    (∀ i j, i ≤ j → j ≤ c.len →
      (c.snap i).voteData.sourceNumber ≤ (c.snap j).voteData.sourceNumber) ∧
    (∀ i ≤ c.len, Snapshot.hasExistingAttestation (c.snap i).voteData = true →
      (c.snap i).voteData.sourceNumber < (c.snap i).voteData.targetNumber ∧
      (c.snap i).voteData.targetNumber < (c.snap i).blockNumber ∧
      (c.snap i).voteData.sourceHash = deps.hashSlow (c.header (c.snap i).voteData.sourceNumber) ∧
      (c.snap i).voteData.targetHash =
        deps.hashSlow (c.header (c.snap i).voteData.targetNumber)) := by
  have hspan := spanning_of_signatures hv hplato hsig
  have hinv := fun i (hi : i ≤ c.len) => voteOnChain hw hv hplato hspan hi
  refine ⟨fun i hi ha => ?_, fun i j hij hj => sourceNumber_mono hw hv hplato hij hj,
    fun i hi hex => ?_⟩
  · obtain ⟨a, ha⟩ := Option.ne_none_iff_exists'.mp ha
    have hstep := attested hw hv hplato hspan hi (hinv i (by omega)) ha
    have hs := hstep.sourceNumber
    have hlt := hstep.lt
    rw [hstep.voteData]
    split_ifs
    · simp only; omega
    · omega
  · rcases hinv i hi with hdef | ⟨h1, h2, h3, h4⟩
    · exact absurd hdef ((hasExistingAttestation_iff (hinv i hi)).mp hex)
    · exact ⟨h1, by rw [c.blockNumber hi]; exact h2, h3, h4⟩

end Chain

/-! ### Chains of a single validator -/

def soloParlia (plato : ForkCondition) : Parlia where
  epoch := defaultEpochLength
  spec := sampleSpec plato .never .never

/-- Headers of a branch: genesis lists one validator, and the blocks above carry the given
bytes between vanity and seal. -/
def soloHeaders (mark : ℕ) (extra : ℕ → Bytes) : ℕ → Header
  | 0 => sampleHeader 0 0 1 0 ([1] ++ (List.replicate 19 0 ++ [1]) ++ List.replicate 48 0)
  | 1 => sampleHeader 1 mark 1 1 (extra 1)
  | n + 2 => sampleHeader (n + 2) mark 1 (BitVec.ofNat 256 (8 * (n + 1) + mark + 1)) (extra (n + 2))

/-- Votes from genesis to block 1 and from block 1 to block 2, in blocks 2 and 3. -/
def soloVotes (mark : ℕ) : ℕ → Bytes
  | 2 => [0, 1, 1, UInt8.ofNat (9 + mark)]
  | 3 => [1, UInt8.ofNat (9 + mark), 2, UInt8.ofNat (17 + mark)]
  | _ => []

def soloReader (signs : Bool) (headers : List Header) : HeaderReader where
  byHash hash := headers.find? fun x => decide ((sampleDeps signs).hashSlow x = hash)
  canonical n := headers.find? fun x => decide (x.number = n)

def soloUniverse (signs : Bool) (headers : List Header) (h : ∀ x ∈ headers, ∀ y ∈ headers,
      (sampleDeps signs).hashSlow x = (sampleDeps signs).hashSlow y → x = y) :
    HeaderUniverse (sampleDeps signs) where
  headers := {x | x ∈ headers}
  collisionFree x hx y hy hxy := h x hx y hy hxy

lemma soloReader_within {plato : ForkCondition} {signs : Bool} {headers : List Header}
    (c : Chain (soloParlia plato) (sampleDeps signs))
    (h : ∀ x ∈ headers, ∀ y ∈ headers,
      (sampleDeps signs).hashSlow x = (sampleDeps signs).hashSlow y → x = y)
    (hc : ∀ i ≤ c.len, c.header i ∈ headers)
    (h0 : ∀ x ∈ headers, x.number = 0 → x = c.header 0)
    (hroot : ∀ x ∈ headers, (sampleDeps signs).hashSlow x ≠ (c.header 0).parentHash) :
    c.Within (soloUniverse signs headers h) (soloReader signs headers) where
  chain := hc
  byHash hash x hx := by
    have hp := List.find?_some hx
    exact ⟨List.mem_of_find?_eq_some hx, of_decide_eq_true hp⟩
  canonical x hx := by
    have hp := List.find?_some hx
    exact h0 x (List.mem_of_find?_eq_some hx) (of_decide_eq_true hp)
  root := hroot

/-- A provider that knows the snapshots of the first `n` blocks of a branch. -/
def soloProvider (signs : Bool) (plato : ForkCondition) (header : ℕ → Header) (n : ℕ)
    (hash : B256) : Option Snapshot :=
  (List.range n).findSome? fun i =>
    if (sampleDeps signs).hashSlow (header i) = hash
    then (soloParlia plato).fold (sampleDeps signs) (branch header i) else none

lemma solo_folds (mark : Fin 2) : ((soloParlia (.block 0)).fold (sampleDeps true)
    (branch (soloHeaders mark (soloVotes mark)) 4)).isSome := by
  revert mark
  decide +kernel

/-- Two branches of four blocks that both finalize their first block. -/
def soloChain (mark : Fin 2) : Chain (soloParlia (.block 0)) (sampleDeps true) :=
  Chain.ofFold _ _ (soloHeaders mark (soloVotes mark)) 4 (by decide) (solo_folds mark)

def soloBranches : List Header :=
  branch (soloHeaders 0 (soloVotes 0)) 4 ++ branch (soloHeaders 1 (soloVotes 1)) 4

lemma soloChain_within (mark : Fin 2) : (soloChain mark).Within
    (soloUniverse true soloBranches (by decide +kernel)) (soloReader true soloBranches) :=
  soloReader_within _ (by decide +kernel) (by revert mark; decide +kernel)
    (by revert mark; decide +kernel) (by revert mark; decide +kernel)

lemma soloChain_verified (mark : Fin 2) : (soloChain mark).Verified (soloReader true soloBranches)
    (some (soloProvider true (.block 0) (soloHeaders mark (soloVotes mark)) 4)) := by
  unfold Chain.Verified
  revert mark
  decide +kernel

lemma soloChain_plato (mark : Fin 2) : (soloChain mark).PlatoFromFirstAttestation :=
  fun i _ _ _ => decide_eq_true (Nat.zero_le (i + 1))

lemma solo_signature {signs : Bool} (sig : VoteSignature) (data : VoteData)
    (keys : List VoteAddress) (h : (sampleDeps signs).fastAggregateVerify sig
      ((sampleDeps signs).voteDataHash data) keys) :
    signs ∧ data.sourceNumber < data.targetNumber := by
  simp only [sampleDeps, Bool.and_eq_true, decide_eq_true_eq] at h
  refine ⟨h.1, ?_⟩
  by_contra hlt
  simp [hlt] at h

/-- Block 3 carries a vote that moves the target up, from block 1 to block 2. -/
theorem finality_monotone_solo : (soloChain 0).attestation 2 ≠ none ∧
    ((soloChain 0).snap 2).voteData.targetNumber <
      ((soloChain 0).snap 3).voteData.targetNumber := by
  have ha : (soloChain 0).attestation 2 ≠ none := by decide +kernel
  have hlen : 2 < (soloChain 0).len := by decide
  obtain ⟨hraise, -⟩ := Chain.finality_monotone (soloChain_within 0) (soloChain_verified 0)
    (soloChain_plato 0) fun sig data keys h => (solo_signature sig data keys h).2
  have hlt := hraise 2 hlen ha
  simp only [Nat.reduceAdd] at hlt
  exact ⟨ha, hlt⟩

end RethBsc
