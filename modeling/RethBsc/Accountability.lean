import RethBsc.Finality
import RethBsc.FinalityGadget

/-!
Accountable finality: conflicting finalized blocks convict a third of the validators.

An accepted attestation is a link of the finality gadget, supported by two thirds of the
validator set; the vote a snapshot keeps has a justified target and, unless its source is
genesis, a finalized source. The gadget's safety theorem then speaks about snapshots.
-/

namespace RethBsc

open VoteData List

/-- Two votes no validator may sign both of. -/
def VoteData.Conflicts (d d' : VoteData) : Prop :=
  d ≠ d' ∧ (d.targetNumber = d'.targetNumber ∨
    (d.sourceNumber < d'.sourceNumber ∧ d'.targetNumber < d.targetNumber) ∨
    (d'.sourceNumber < d.sourceNumber ∧ d.targetNumber < d'.targetNumber))

def VoteData.ofLink (l : Link B256) : VoteData :=
  ⟨l.sourceHeight, l.source, l.targetHeight, l.target⟩

section

variable {deps : Deps} (Signed : deps.PublicKey → VoteData → Prop)
  (validatorsMap : OrdMap Address ValidatorInfo)

def SignedBy (v : Address) (d : VoteData) : Prop :=
  ∃ info key, validatorsMap.get v = some info ∧
    deps.publicKeyFromBytes info.voteAddr = some key ∧ Signed key d

/-- As many validators as two quorums must share signed conflicting votes. -/
def Slashable (validators : List Address) : Prop :=
  ∃ X ⊆ validators.toFinset,
    2 * Parlia.atLeastVotes validators.length - validators.length ≤ X.card ∧
    ∀ v ∈ X, ∃ d d', SignedBy Signed validatorsMap v d ∧ SignedBy Signed validatorsMap v d' ∧
      d.Conflicts d'

end

/-! ### Quorums behind attestations -/

namespace Parlia

variable {deps : Deps} {validatorsMap : OrdMap Address ValidatorInfo}

lemma collectVoteAddrs_ok {set : ℕ} {l : List (Address × ℕ)} {voteAddrs : List VoteAddress}
    (h : collectVoteAddrs set validatorsMap l = .ok voteAddrs) :
    ∃ vs : List Address, vs.Sublist (l.map Prod.fst) ∧ vs.length = voteAddrs.length ∧
      ∀ v ∈ vs, ∃ info, validatorsMap.get v = some info ∧ info.voteAddr ∈ voteAddrs := by
  induction l generalizing voteAddrs with
  | nil =>
    cases h
    exact ⟨[], List.Sublist.refl _, rfl, by simp⟩
  | cons e l ih =>
    obtain ⟨v, i⟩ := e
    rw [collectVoteAddrs] at h
    split_ifs at h with hbit
    · obtain ⟨vs, hsub, hlen, hmem⟩ := ih h
      exact ⟨vs, hsub.cons v, hlen, hmem⟩
    · cases hg : validatorsMap.get v with
      | none => rw [hg] at h; cases h
      | some info =>
        rw [hg] at h
        obtain ⟨rest, hr, rfl⟩ := map_eq_ok h
        obtain ⟨vs, hsub, hlen, hmem⟩ := ih hr
        refine ⟨v :: vs, hsub.cons_cons v, by simp [hlen], fun w hw => ?_⟩
        rcases mem_cons.mp hw with rfl | hw
        · exact ⟨info, hg, by simp⟩
        · obtain ⟨info', hg', hm⟩ := hmem w hw
          exact ⟨info', hg', mem_cons_of_mem _ hm⟩

lemma mem_mapM {α β : Type} {f : α → Option β} {l : List α} {r : List β}
    (h : l.mapM f = some r) {a : α} (ha : a ∈ l) : ∃ b ∈ r, f a = some b := by
  rw [mapM_eq_some_iff] at h
  induction h with
  | nil => cases ha
  | cons hxy _ ih =>
    rcases mem_cons.mp ha with rfl | ha
    · exact ⟨_, mem_cons_self, hxy⟩
    · obtain ⟨b, hb, hfb⟩ := ih ha
      exact ⟨b, mem_cons_of_mem _ hb, hfb⟩

/-- **The quorum behind an attestation**: two thirds of the validators signed its vote. -/
theorem attestation_quorum {Signed : deps.PublicKey → VoteData → Prop} {preSnap : Snapshot}
    {set : ℕ} {voteAddrs : List VoteAddress} {pubkeys : List deps.PublicKey} {d : VoteData}
    (hnodup : preSnap.validators.Nodup)
    (hvotes : attestingVoteAddrs preSnap set = .ok voteAddrs)
    (hkeys : voteAddrs.mapM deps.publicKeyFromBytes = some pubkeys)
    (hsigned : ∀ k ∈ pubkeys, Signed k d) :
    ∃ Q ⊆ preSnap.validators.toFinset, atLeastVotes preSnap.validators.length ≤ Q.card ∧
      ∀ v ∈ Q, SignedBy Signed preSnap.validatorsMap v d := by
  unfold attestingVoteAddrs at hvotes
  simp only at hvotes
  split_ifs at hvotes with hcount
  split at hvotes
  · cases hvotes
  next addrs hcol =>
  split_ifs at hvotes with hlen
  cases hvotes
  obtain ⟨vs, hsub, hvlen, hmem⟩ := collectVoteAddrs_ok hcol
  rw [zipIdx_map_fst] at hsub
  have hcard : vs.toFinset.card = vs.length := toFinset_card_of_nodup (hnodup.sublist hsub)
  refine ⟨vs.toFinset, fun v hv => ?_, by omega, fun v hv => ?_⟩
  · rw [mem_toFinset] at hv ⊢
    exact hsub.subset hv
  · obtain ⟨info, hg, hin⟩ := hmem v (mem_toFinset.mp hv)
    obtain ⟨key, hkey, hf⟩ := mem_mapM hkeys hin
    exact ⟨info, key, hg, hf, hsigned key hkey⟩

end Parlia

/-! ### Snapshots and the finality gadget -/

/-- A chain from a genesis header that a node has verified, with one validator set all
along. -/
structure VerifiedChain (parlia : Parlia) (deps : Deps) (U : HeaderUniverse deps)
    (genesis : Header) (validators : List Address)
    (validatorsMap : OrdMap Address ValidatorInfo) where
  chain : Chain parlia deps
  start : chain.header 0 = genesis
  reader : HeaderReader
  snapshotByHash : B256 → Option Snapshot
  within : chain.Within U reader
  verified : chain.Verified reader (some snapshotByHash)
  constant : ∀ i ≤ chain.len,
    (chain.snap i).validators = validators ∧ (chain.snap i).validatorsMap = validatorsMap
  providerConstant : ∀ hash s, snapshotByHash hash = some s →
    s.validators = validators ∧ s.validatorsMap = validatorsMap

namespace VerifiedChain

variable {parlia : Parlia} {deps : Deps} {U : HeaderUniverse deps} {genesis : Header}
  {validators : List Address} {validatorsMap : OrdMap Address ValidatorInfo}
  {Signed : deps.PublicKey → VoteData → Prop}

def linked (deps : Deps) (validators : List Address)
    (validatorsMap : OrdMap Address ValidatorInfo) (Signed : deps.PublicKey → VoteData → Prop) :
    Link B256 → Prop :=
  Supported validators.toFinset (Parlia.atLeastVotes validators.length)
    fun v l => SignedBy Signed validatorsMap v (VoteData.ofLink l)

variable (w : VerifiedChain parlia deps U genesis validators validatorsMap)

def hashes (i : ℕ) : B256 := deps.hashSlow (w.chain.header i)

variable {i : ℕ}

lemma quorum (hnodup : validators.Nodup) (hplato : w.chain.PlatoFromFirstAttestation)
    (hagg : ∀ sig d keys, deps.fastAggregateVerify sig (deps.voteDataHash d) keys →
      ∀ k ∈ keys, Signed k d) (hi : i < w.chain.len) {a : VoteAttestation}
    (ha : w.chain.attestation i = some a) :
    ∃ Q ⊆ validators.toFinset, Parlia.atLeastVotes validators.length ≤ Q.card ∧
      ∀ v ∈ Q, SignedBy Signed validatorsMap v a.data := by
  obtain ⟨⟨ancestor, -, preSnap, hpre, voteAddrs, hvotes, keys, sig, hkeys, hver⟩, -⟩ :=
    Chain.accepted w.verified hplato hi ha
  have hset : preSnap.validators = validators ∧ preSnap.validatorsMap = validatorsMap := by
    unfold Parlia.preSnapshot at hpre
    simp only at hpre
    split at hpre
    · next s hs => cases hpre; exact w.providerConstant _ _ hs
    · cases hpre
  obtain ⟨hV, hM⟩ := hset
  have hq := Parlia.attestation_quorum (hV ▸ hnodup) hvotes hkeys (hagg sig a.data keys hver)
  rwa [hV, hM] at hq

/-- What the votes of a chain's snapshots mean in the gadget. -/
structure Sound (Signed : deps.PublicKey → VoteData → Prop) (i : ℕ) : Prop where
  target : Justified (linked deps validators validatorsMap Signed) w.hashes
    (w.chain.snap i).voteData.targetNumber
  source : (w.chain.snap i).voteData.sourceNumber ≠ 0 →
    Finalized (linked deps validators validatorsMap Signed) w.hashes
      (w.chain.snap i).voteData.sourceNumber

variable {w}

/-- One attestation justifies its target, and finalizes its source when the vote takes both
over, unless the source is genesis. -/
lemma Sound.attested {a : VoteAttestation} (hs : w.Sound Signed i) (h : w.chain.Attested i a)
    (hq : ∃ Q ⊆ validators.toFinset, Parlia.atLeastVotes validators.length ≤ Q.card ∧
      ∀ v ∈ Q, SignedBy Signed validatorsMap v a.data) : w.Sound Signed (i + 1) := by
  have hlink : linked deps validators validatorsMap Signed
      (Link.along w.hashes a.data.sourceNumber a.data.targetNumber) := by
    have hdata : ofLink (Link.along w.hashes a.data.sourceNumber a.data.targetNumber) = a.data := by
      unfold ofLink Link.along hashes
      simp only [← h.sourceHash, ← h.targetHash]
    simp only [linked, Supported, hdata]
    exact hq
  have hsource : Justified (linked deps validators validatorsMap Signed) w.hashes
      a.data.sourceNumber := by
    rw [h.sourceNumber]; exact hs.target
  have htarget := Justified.link hsource h.lt hlink
  by_cases hk : (w.chain.snap i).voteData ≠ default ∧ a.data.sourceNumber + 1 ≠ a.data.targetNumber
  · have hv := h.voteData
    rw [if_pos hk] at hv
    refine ⟨?_, ?_⟩ <;> rw [hv]
    · exact htarget
    · exact hs.source
  · have hv := h.voteData
    rw [if_neg hk] at hv
    refine ⟨?_, ?_⟩ <;> rw [hv]
    · exact htarget
    · intro hne
      have hsucc : a.data.sourceNumber + 1 = a.data.targetNumber := by
        by_contra hsucc
        refine hk ⟨fun hdef => hne ?_, hsucc⟩
        rw [h.sourceNumber, hdef]; rfl
      refine ⟨hsource, ?_⟩
      rw [hsucc]
      exact hlink

section

variable (hplato : w.chain.PlatoFromFirstAttestation)
include hplato

lemma sound (hnodup : validators.Nodup)
    (hagg : ∀ sig d keys, deps.fastAggregateVerify sig (deps.voteDataHash d) keys →
      ∀ k ∈ keys, Signed k d) (hspan : w.chain.Spanning) (hi : i ≤ w.chain.len) :
    w.Sound Signed i := by
  induction i with
  | zero =>
    have h0 := w.chain.snap_zero.2.2.2.1
    refine ⟨?_, ?_⟩ <;> rw [h0]
    · exact Justified.genesis
    · intro hne; exact absurd rfl hne
  | succ i ih =>
    have hs := ih (by omega)
    cases ha : w.chain.attestation i with
    | none =>
      have hv := Chain.voteData_of_none hi ha
      refine ⟨?_, ?_⟩ <;> rw [hv]
      · exact hs.target
      · exact hs.source
    | some a =>
      have hinv := Chain.voteOnChain w.within w.verified hplato hspan
        (show i ≤ w.chain.len by omega)
      exact hs.attested (Chain.attested w.within w.verified hplato hspan hi hinv ha)
        (w.quorum hnodup hplato hagg hi ha)

lemma spanning (hnodup : validators.Nodup) (hne : validators ≠ [])
    (hagg : ∀ sig d keys, deps.fastAggregateVerify sig (deps.voteDataHash d) keys →
      ∀ k ∈ keys, Signed k d)
    (hsigned : ∀ k d, Signed k d → d.sourceNumber < d.targetNumber) : w.chain.Spanning := by
  intro i hi a ha
  obtain ⟨Q, -, hcard, hQ⟩ := w.quorum hnodup hplato hagg hi ha
  have hpos : 0 < Q.card := by
    have := length_pos_iff.mpr hne
    unfold Parlia.atLeastVotes at hcard
    omega
  obtain ⟨v, hv⟩ := Finset.card_pos.mp hpos
  obtain ⟨info, key, -, -, hkey⟩ := hQ v hv
  exact hsigned key a.data hkey

lemma source_block (hspan : w.chain.Spanning)
    (hi : i ≤ w.chain.len) {b : Header} (hb : b ∈ U.headers)
    (hhash : deps.hashSlow b = (w.chain.snap i).voteData.sourceHash)
    (hne : (w.chain.snap i).voteData.sourceNumber ≠ 0) :
    (w.chain.snap i).voteData.sourceNumber ≤ w.chain.len ∧
      b = w.chain.header (w.chain.snap i).voteData.sourceNumber := by
  rcases Chain.voteOnChain w.within w.verified hplato hspan hi with hdef | ⟨h1, h2, h3, -⟩
  · rw [hdef] at hne; exact absurd rfl hne
  · have hle : (w.chain.snap i).voteData.sourceNumber ≤ w.chain.len := by omega
    exact ⟨hle, U.collisionFree hb (w.within.chain _ hle) (hhash.trans h3)⟩

end

end VerifiedChain

lemma VoteData.ofLink_conflicts {a b : Link B256} (h : a.Conflict b) :
    (ofLink a).Conflicts (ofLink b) := by
  obtain ⟨hne, hspan⟩ := h
  refine ⟨fun heq => hne ?_, hspan⟩
  obtain ⟨j, x, k, y⟩ := a
  obtain ⟨j', x', k', y'⟩ := b
  simp only [ofLink, mk.injEq] at heq
  obtain ⟨rfl, rfl, rfl, rfl⟩ := heq
  rfl

open VerifiedChain

/-- **Accountable finality.** If the votes of two snapshots, on chains with Plato active from
the first attestation on, have non-genesis sources neither of which is an ancestor of the
other, then enough validators signed conflicting votes. -/
theorem accountable_finality {parlia : Parlia} {deps : Deps} {U : HeaderUniverse deps}
    {genesis : Header} {validators : List Address}
    {validatorsMap : OrdMap Address ValidatorInfo}
    {Signed : deps.PublicKey → VoteData → Prop} (hnodup : validators.Nodup)
    (hagg : ∀ sig d keys, deps.fastAggregateVerify sig (deps.voteDataHash d) keys = true →
      ∀ k ∈ keys, Signed k d)
    (hsigned : ∀ k d, Signed k d → d.sourceNumber < d.targetNumber)
    (w₁ w₂ : VerifiedChain parlia deps U genesis validators validatorsMap)
    (hplato₁ : w₁.chain.PlatoFromFirstAttestation) (hplato₂ : w₂.chain.PlatoFromFirstAttestation)
    (i₁ i₂ : ℕ) (hi₁ : i₁ ≤ w₁.chain.len) (hi₂ : i₂ ≤ w₂.chain.len)
    (b₁ b₂ : Header) (hb₁ : b₁ ∈ U.headers) (hb₂ : b₂ ∈ U.headers)
    (hhash₁ : deps.hashSlow b₁ = (w₁.chain.snap i₁).voteData.sourceHash)
    (hhash₂ : deps.hashSlow b₂ = (w₂.chain.snap i₂).voteData.sourceHash)
    (hne₁ : (w₁.chain.snap i₁).voteData.sourceNumber ≠ 0)
    (hne₂ : (w₂.chain.snap i₂).voteData.sourceNumber ≠ 0)
    (hanc₁ : ∀ k ≤ (w₂.chain.snap i₂).voteData.sourceNumber, w₂.chain.header k ≠ b₁)
    (hanc₂ : ∀ k ≤ (w₁.chain.snap i₁).voteData.sourceNumber, w₁.chain.header k ≠ b₂) :
    Slashable Signed validatorsMap validators := by
  by_cases hV : validators = []
  · -- without validators there is nobody to blame, and nobody is asked for
    subst hV
    exact ⟨∅, by simp, by decide, by simp⟩
  have hspan1 := w₁.spanning hplato₁ hnodup hV hagg hsigned
  have hspan2 := w₂.spanning hplato₂ hnodup hV hagg hsigned
  have hfin1 := (sound hplato₁ hnodup hagg hspan1 hi₁).source hne₁
  have hfin2 := (sound hplato₂ hnodup hagg hspan2 hi₂).source hne₂
  obtain ⟨hlen1, heq1⟩ := source_block hplato₁ hspan1 hi₁ hb₁ hhash₁ hne₁
  obtain ⟨hlen2, heq2⟩ := source_block hplato₂ hspan2 hi₂ hb₂ hhash₂ hne₂
  obtain ⟨X, hX, hcard, hvotes⟩ := accountable_safety hfin1 hfin2
    (Nat.pos_of_ne_zero hne₁) (Nat.pos_of_ne_zero hne₂)
    (fun hle heq => hanc₁ _ hle (by
      rw [heq1]
      exact (U.collisionFree (w₁.within.chain _ hlen1) (w₂.within.chain _ (by omega)) heq).symm))
    (fun hle heq => hanc₂ _ hle (by
      rw [heq2]
      exact (U.collisionFree (w₂.within.chain _ hlen2) (w₁.within.chain _ (by omega)) heq).symm))
  rw [toFinset_card_of_nodup hnodup] at hcard
  refine ⟨X, hX, hcard, fun v hv => ?_⟩
  obtain ⟨a, b, ha, hb, hab⟩ := hvotes v hv
  exact ⟨_, _, ha, hb, ofLink_conflicts hab⟩

/-! ### Two branches of a single validator -/

def soloMap : OrdMap Address ValidatorInfo := buildValidatorsMap [1] (some [0])

/-- A verified chain of the single validator with address 1, next to a provider that answers
with the chain's own snapshots. -/
def soloVerified {plato : ForkCondition} {signs : Bool}
    (c : Chain (soloParlia plato) (sampleDeps signs)) {U : HeaderUniverse (sampleDeps signs)}
    {reader : HeaderReader} (within : c.Within U reader)
    (verified : c.Verified reader (some (soloProvider signs plato c.header c.len)))
    (constant : ∀ i ≤ c.len, (c.snap i).validators = [1] ∧ (c.snap i).validatorsMap = soloMap) :
    VerifiedChain (soloParlia plato) (sampleDeps signs) U (c.header 0) [1] soloMap where
  chain := c
  start := rfl
  reader := reader
  snapshotByHash := soloProvider signs plato c.header c.len
  within := within
  verified := verified
  constant := constant
  providerConstant hash s hs := by
    obtain ⟨i, hi, hs⟩ := List.exists_of_findSome?_eq_some hs
    rw [List.mem_range] at hi
    split_ifs at hs
    rw [c.fold_branch hi.le, Option.some.injEq] at hs
    exact hs ▸ constant i hi.le

lemma soloChain_constant (mark : Fin 2) : ∀ i ≤ (soloChain mark).len,
    ((soloChain mark).snap i).validators = [1] ∧
      ((soloChain mark).snap i).validatorsMap = soloMap := by
  revert mark
  decide +kernel

def soloSigned (signs : Bool) : (sampleDeps signs).PublicKey → VoteData → Prop :=
  fun _ d => signs = true ∧ d.sourceNumber < d.targetNumber

/-- Both branches finalize their block 1, and their validator is convicted. -/
theorem accountable_finality_solo : ((soloChain 0).snap 3).voteData.sourceNumber = 1 ∧
    ((soloChain 1).snap 3).voteData.sourceNumber = 1 ∧
    Slashable (soloSigned true) soloMap [1] := by
  refine ⟨by decide +kernel, by decide +kernel, ?_⟩
  exact accountable_finality (by decide) (fun sig d keys h _ _ => solo_signature sig d keys h)
    (fun _ _ h => h.2)
    (soloVerified (soloChain 0) (soloChain_within 0) (soloChain_verified 0) (soloChain_constant 0))
    (soloVerified (soloChain 1) (soloChain_within 1) (soloChain_verified 1) (soloChain_constant 1))
    (soloChain_plato 0) (soloChain_plato 1) 3 3 (by decide) (by decide)
    ((soloChain 0).header 1) ((soloChain 1).header 1)
    ((soloChain_within 0).chain 1 (by decide)) ((soloChain_within 1).chain 1 (by decide))
    (by decide +kernel) (by decide +kernel) (by decide +kernel) (by decide +kernel)
    (by decide +kernel) (by decide +kernel)

/-! ### Before Plato -/

/-- A vote from block 1 to itself, in block 2. -/
def lubanVotes (mark : ℕ) : ℕ → Bytes
  | 2 => [1, UInt8.ofNat (9 + mark), 1, UInt8.ofNat (9 + mark)]
  | _ => []

lemma luban_folds (mark : Fin 2) : ((soloParlia .never).fold (sampleDeps false)
    (branch (soloHeaders mark (lubanVotes mark)) 2)).isSome := by
  revert mark
  decide +kernel

/-- Two branches of two blocks under Luban without Plato, where nobody signs anything. -/
def lubanChain (mark : Fin 2) : Chain (soloParlia .never) (sampleDeps false) :=
  Chain.ofFold _ _ (soloHeaders mark (lubanVotes mark)) 2 (by decide) (luban_folds mark)

def lubanBranches : List Header :=
  branch (soloHeaders 0 (lubanVotes 0)) 2 ++ branch (soloHeaders 1 (lubanVotes 1)) 2

def lubanUniverse : HeaderUniverse (sampleDeps false) :=
  soloUniverse false lubanBranches (by decide +kernel)

lemma lubanChain_within (mark : Fin 2) :
    (lubanChain mark).Within lubanUniverse (soloReader false lubanBranches) :=
  soloReader_within _ _ (by revert mark; decide +kernel) (by revert mark; decide +kernel)
    (by revert mark; decide +kernel)

def lubanVerified (mark : Fin 2) :
    VerifiedChain (soloParlia .never) (sampleDeps false) lubanUniverse
      ((lubanChain 0).header 0) [1] soloMap :=
  soloVerified (lubanChain mark) (lubanChain_within mark)
    (by unfold Chain.Verified; revert mark; decide +kernel) (by revert mark; decide +kernel)

/-- **Before Plato nobody need have signed.** Headers pass the verification unread and the
snapshots still take their votes over: both branches finalize their block 1 without a
signature. -/
theorem not_slashable_before_plato :
    (∀ sig d keys, (sampleDeps false).fastAggregateVerify sig ((sampleDeps false).voteDataHash d)
      keys = true → ∀ k ∈ keys, soloSigned false k d) ∧
    (∀ k d, soloSigned false k d → d.sourceNumber < d.targetNumber) ∧
    (∀ mark, ((lubanVerified mark).chain.snap 2).voteData.sourceNumber = 1 ∧
      ((lubanVerified mark).chain.snap 2).voteData.sourceHash =
        (sampleDeps false).hashSlow ((lubanVerified mark).chain.header 1)) ∧
    (∀ k ≤ 1, (lubanVerified 1).chain.header k ≠ (lubanVerified 0).chain.header 1) ∧
    (∀ k ≤ 1, (lubanVerified 0).chain.header k ≠ (lubanVerified 1).chain.header 1) ∧
    ¬Slashable (soloSigned false) soloMap [1] := by
  refine ⟨fun sig d keys h _ _ => solo_signature sig d keys h, fun _ _ h => h.2,
    by decide +kernel, by decide +kernel, by decide +kernel, ?_⟩
  rintro ⟨X, -, hcard, hX⟩
  have hpos : 0 < X.card := lt_of_lt_of_le (by decide) hcard
  obtain ⟨v, hv⟩ := Finset.card_pos.mp hpos
  obtain ⟨d, d', ⟨info, key, -, -, hsig, -⟩, -⟩ := hX v hv
  cases hsig

end RethBsc
