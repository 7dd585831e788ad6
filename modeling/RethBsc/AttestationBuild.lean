import RethBsc.HeaderRoundTrip
import RethBsc.VotePoolSafety

/-!
How a producer assembles a vote attestation, and that verifiers accept it.

The producer looks for the closest ancestor with enough votes in its pool, takes one
signature for each validator that voted and sets the bit of its index, which counts from one.
The verifier looks for the target along the same ancestors and goes through the validators by
position, which counts from zero. What ties the two together is that a snapshot's map gives a
validator the position it has in the list.
-/

namespace RethBsc

open List Snapshot OrdMap ValidatorInfo

/-! ### Snapshots index their validators -/

/-- The map gives each validator its position in the list, counted from one. -/
def Snapshot.Indexed (s : Snapshot) : Prop :=
  ∀ v info, s.validatorsMap.get v = some info → ∃ i, s.validators[i]? = some v ∧ info.index = i + 1

section Indexed

variable {validators : List Address} {v : Address} {info : ValidatorInfo}

lemma get_foldl_number {l : List (Address × ℕ)} {m : OrdMap Address ValidatorInfo}
    (h : (l.foldl (fun m e => match m.get e.1 with
      | some info => m.insert e.1 { info with index := e.2 + 1 }
      | none => m) m).get v = some info) :
    (∃ i, (v, i) ∈ l ∧ info.index = i + 1) ∨ (m.get v = some info ∧ v ∉ l.map Prod.fst) := by
  induction l generalizing m with
  | nil => exact Or.inr ⟨h, by simp⟩
  | cons e l ih =>
    rw [foldl_cons] at h
    rcases ih h with ⟨i, hi, hindex⟩ | ⟨hget, hout⟩
    · exact Or.inl ⟨i, mem_cons_of_mem e hi, hindex⟩
    · by_cases hv : e.1 = v
      · subst hv
        cases hm : m.get e.1 with
        | none =>
          rw [hm] at hget
          simp [hm] at hget
        | some old =>
          simp only [hm, get_insert_self, Option.some.injEq] at hget
          exact Or.inl ⟨e.2, mem_cons_self, by rw [← hget]⟩
      · have hsame : m.get v = some info := by
          cases hm : m.get e.1 with
          | none => simpa [hm] using hget
          | some old => simpa [hm, get_insert_of_ne _ _ hv] using hget
        exact Or.inr ⟨hsame, by simp [Ne.symm hv, hout]⟩

lemma mem_of_get_foldl_insert {α : Type} (key : α → Address) (value : α → ValidatorInfo)
    {l : List α}
    (h : (l.foldl (fun m e => m.insert (key e) (value e)) empty).get v = some info) :
    ∃ e ∈ l, key e = v ∧ value e = info := by
  rw [foldl_insert_eq_ofList] at h
  obtain ⟨e, he, hkv⟩ := mem_map.mp (mem_of_get_ofList h)
  exact ⟨e, he, Prod.mk.inj hkv⟩

variable {votes : Option (List VoteAddress)}

theorem buildValidatorsMap_index (h : (buildValidatorsMap validators votes).get v = some info) :
    ∃ i, (sortAddrs validators)[i]? = some v ∧ info.index = i + 1 := by
  cases votes with
  | none =>
    obtain ⟨e, he, rfl, rfl⟩ := mem_of_get_foldl_insert Prod.fst
      (fun e : Address × ℕ => ⟨e.2 + 1, 0⟩) h
    exact ⟨e.2, mem_zipIdx_iff_getElem?.mp he, rfl⟩
  | some votes =>
    rcases get_foldl_number h with ⟨i, hi, hindex⟩ | ⟨hget, hout⟩
    · exact ⟨i, mem_zipIdx_iff_getElem?.mp hi, hindex⟩
    · -- every listed validator is also in the sorted list
      obtain ⟨e, he, rfl, -⟩ := mem_of_get_foldl_insert Prod.fst
        (fun e : Address × VoteAddress => ⟨0, e.2⟩) hget
      have hmem : e.1 ∈ sortAddrs validators :=
        (perm_insertionSort _ _).mem_iff.mpr (of_mem_zip he).1
      simp [hmem] at hout

lemma Snapshot.new_validatorsMap {n : ℕ} {hash : B256} {epoch : ℕ} {s : Snapshot}
    (h : new validators n hash epoch votes = some s) :
    s.validatorsMap = buildValidatorsMap validators votes := by
  unfold new at h
  split at h
  · cases h; rfl
  · cases h

lemma Snapshot.Reachable.indexed {deps : Deps} {spec : ChainSpec} {s : Snapshot}
    (h : Snapshot.Reachable deps spec s) : s.Indexed := by
  induction h with
  | new h =>
    obtain ⟨-, -, -, -, -, -, hvals⟩ := new_eq_some h
    intro v info hget
    rw [new_validatorsMap h] at hget
    rw [hvals]
    exact buildValidatorsMap_index hget
  | apply before h ih =>
    have happ := apply_ok h
    intro v info hget
    cases hswitch : switches _ _ _ _ _ _ _ with
    | false =>
      obtain ⟨hvals, hmap, -⟩ := happ.kept hswitch
      rw [hmap] at hget
      rw [hvals]
      exact ih v info hget
    | true =>
      obtain ⟨hvals, hmap, -⟩ := happ.switched hswitch
      rw [hmap] at hget
      rw [hvals]
      exact buildValidatorsMap_index hget

end Indexed

/-! ### The producer -/

/-- Why `assemble_vote_attestation` gives up. -/
inductive AssembleError
  | headerNotFound (blockHash : B256)
  | snapshotNotFound (blockHash : B256)
  | fetchVoteError (address : VoteAddress)
  | aggregateSignatureError
  | invalidAttestationVoteCount (got expected : ℕ)
  deriving DecidableEq

/-- What the producer reads. The order in which a hash map gives its values is not fixed. -/
structure ProducerEnv where
  reader : HeaderReader
  snapshotByHash : B256 → Option Snapshot
  fetchVotes : B256 → ℕ → List VoteEnvelope
  valuesOf : OrdMap Address ValidatorInfo → List ValidatorInfo

namespace Parlia

variable (parlia : Parlia) (deps : VoteDeps) (env : ProducerEnv)

/-- Source number and hash; genesis while nothing has been attested. -/
def justifiedSource (parentSnap : Snapshot) : Except AssembleError (ℕ × B256) :=
  if parentSnap.voteData.targetHash = 0 then
    match env.reader.canonical 0 with
    | some genesis => .ok (genesis.number, deps.hashSlow genesis)
    | none => .error (.headerNotFound 0)
  else .ok (parentSnap.voteData.targetNumber, parentSnap.voteData.targetHash)

/-- Looks for an ancestor with enough votes, the parent first. -/
def searchTarget (justifiedNumber : ℕ) :
    ℕ → Header → Except AssembleError (Option (Header × Snapshot × List VoteEnvelope))
  | 0, _ => .ok none
  | times + 1, target =>
    match env.snapshotByHash target.parentHash with
    | none => .error (.snapshotNotFound target.parentHash)
    | some snap =>
      let votes := env.fetchVotes (deps.hashSlow target) justifiedNumber
      if atLeastVotes snap.validators.length ≤ votes.length then .ok (some (target, snap, votes))
      else match env.reader.byHash target.parentHash with
        | none => .error (.headerNotFound target.parentHash)
        | some header =>
          if header.number ≤ justifiedNumber then .ok none
          else searchTarget justifiedNumber times header

def uniqueByAddr (infos : List ValidatorInfo) (votes : List VoteEnvelope) :
    List (VoteAddress × VoteSignature) :=
  votes.foldl (fun unique vote =>
    if infos.any (fun info => decide (info.voteAddr = vote.voteAddress)) &&
        (unique.lookup vote.voteAddress).isNone
    then unique ++ [(vote.voteAddress, vote.signature)] else unique) []

def orderedUnique (infos : List ValidatorInfo) (votes : List VoteEnvelope) :
    List (ℕ × VoteAddress × VoteSignature) :=
  infos.filterMap fun info =>
    ((uniqueByAddr infos votes).lookup info.voteAddr).map fun sig =>
      (info.index, info.voteAddr, sig)

/-- The bit of an index that counts from one; a `u64` shift wraps. -/
def voteBit (index : ℕ) : ℕ := 1 <<< (wrappingSub index 1 % 64)

def voteAddressSetOf (ordered : List (ℕ × VoteAddress × VoteSignature)) : ℕ :=
  ordered.foldl (fun set e => set ||| voteBit e.1) 0

/-- The attestation over the votes found for a target. -/
def attest (data : VoteData) (snap : Snapshot) (votes : List VoteEnvelope) :
    Except AssembleError (Option VoteAttestation) :=
  match votes.find? fun vote => decide (deps.voteDataHash vote.data ≠ deps.voteDataHash data) with
  | some vote => .error (.fetchVoteError vote.voteAddress)
  | none =>
    let ordered := orderedUnique (env.valuesOf snap.validatorsMap) votes
    if ordered.length < atLeastVotes snap.validators.length then .ok none
    else match ordered.mapM fun e => deps.signatureFromBytes e.2.2 with
      | none => .error .aggregateSignatureError
      | some sigs =>
        match deps.aggregate sigs with
        | none => .error .aggregateSignatureError
        | some aggregate =>
          let voteAddressSet := voteAddressSetOf ordered
          if bitSetCount voteAddressSet ≠ ordered.length then
            .error (.invalidAttestationVoteCount (bitSetCount voteAddressSet) ordered.length)
          else .ok (some ⟨voteAddressSet, deps.signatureToBytes aggregate, data, []⟩)

/-- What `assemble_vote_attestation` does after its guard, up to the write. -/
def collectAttestation (parentSnap : Snapshot) (parentHeader header : Header) :
    Except AssembleError (Option VoteAttestation) :=
  match justifiedSource deps env parentSnap with
  | .error e => .error e
  | .ok (justifiedNumber, justifiedHash) =>
    match searchTarget deps env justifiedNumber (parlia.attestationDepth header) parentHeader with
    | .error e => .error e
    | .ok none => .ok none
    | .ok (some (target, snap, votes)) =>
      attest deps env
        ⟨justifiedNumber, justifiedHash, target.number, deps.hashSlow target⟩ snap votes

/-! ### Signatures and bits -/

variable {parlia deps env}
  {infos : List ValidatorInfo} {votes : List VoteEnvelope} {snap parentSnap : Snapshot}
  {attestation : VoteAttestation} {header parentHeader : Header}

lemma mem_uniqueByAddr {e : VoteAddress × VoteSignature} (he : e ∈ uniqueByAddr infos votes) :
    ∃ vote ∈ votes, vote.voteAddress = e.1 ∧ vote.signature = e.2 := by
  unfold uniqueByAddr at he
  induction votes using reverseRecOn with
  | nil => cases he
  | append_singleton votes vote ih =>
    rw [foldl_append, foldl_cons, foldl_nil] at he
    split_ifs at he
    · rcases mem_append.mp he with he | he
      · obtain ⟨w, hw, hsame⟩ := ih he
        exact ⟨w, mem_append_left _ hw, hsame⟩
      · obtain rfl := mem_singleton.mp he
        exact ⟨vote, by simp, rfl, rfl⟩
    · obtain ⟨w, hw, hsame⟩ := ih he
      exact ⟨w, mem_append_left _ hw, hsame⟩

lemma mem_of_lookup_eq_some {l : List (VoteAddress × VoteSignature)} {addr : VoteAddress}
    {sig : VoteSignature} (h : l.lookup addr = some sig) : (addr, sig) ∈ l := by
  obtain ⟨before, after, rfl, -⟩ := lookup_eq_some_iff.mp h
  simp

lemma mem_orderedUnique {e : ℕ × VoteAddress × VoteSignature} (he : e ∈ orderedUnique infos votes) :
    (∃ info ∈ infos, info.index = e.1 ∧ info.voteAddr = e.2.1 ∧
      ((uniqueByAddr infos votes).lookup info.voteAddr).isSome) ∧
      ∃ vote ∈ votes, vote.voteAddress = e.2.1 ∧ vote.signature = e.2.2 := by
  obtain ⟨info, hinfo, hmap⟩ := mem_filterMap.mp he
  obtain ⟨sig, hlookup, rfl⟩ := Option.map_eq_some_iff.mp hmap
  exact ⟨⟨info, hinfo, rfl, rfl, by rw [hlookup]; rfl⟩,
    mem_uniqueByAddr (mem_of_lookup_eq_some hlookup)⟩

lemma exists_mem_orderedUnique {info : ValidatorInfo} (hinfo : info ∈ infos)
    (hvoted : ((uniqueByAddr infos votes).lookup info.voteAddr).isSome) :
    ∃ e ∈ orderedUnique infos votes, e.1 = info.index := by
  obtain ⟨sig, hlookup⟩ := Option.isSome_iff_exists.mp hvoted
  exact ⟨_, mem_filterMap.mpr ⟨info, hinfo, by rw [hlookup]; rfl⟩, rfl⟩

lemma map_orderedUnique (infos : List ValidatorInfo) (votes : List VoteEnvelope) :
    (orderedUnique infos votes).map (fun e => e.2.1) = (infos.filter fun info =>
      ((uniqueByAddr infos votes).lookup info.voteAddr).isSome).map voteAddr := by
  unfold orderedUnique
  generalize uniqueByAddr infos votes = unique
  induction infos with
  | nil => rfl
  | cons info infos ih =>
    cases hlookup : unique.lookup info.voteAddr with
    | none => simpa [filterMap_cons, filter_cons, hlookup] using ih
    | some sig => simpa [filterMap_cons, filter_cons, hlookup] using ih

lemma testBit_voteBit {i : ℕ} (hi : i < 64) (j : ℕ) :
    (voteBit (i + 1)).testBit j = decide (i = j) := by
  have hsub : wrappingSub (i + 1) 1 = i := by simp [wrappingSub]
  rw [voteBit, hsub, Nat.mod_eq_of_lt hi, Nat.one_shiftLeft, Nat.testBit_two_pow]

lemma testBit_voteAddressSetOf (ordered : List (ℕ × VoteAddress × VoteSignature)) (j : ℕ) :
    (voteAddressSetOf ordered).testBit j = ordered.any fun e => (voteBit e.1).testBit j := by
  have hfold : ∀ set, (ordered.foldl (fun set e => set ||| voteBit e.1) set).testBit j =
      (set.testBit j || ordered.any fun e => (voteBit e.1).testBit j) := by
    induction ordered with
    | nil => simp
    | cons e ordered ih => intro set; simp [ih, Nat.testBit_or, Bool.or_assoc]
  rw [voteAddressSetOf, hfold]
  simp

/-! ### Both sides name the same validators -/

section SameValidators

lemma collectVoteAddrs_eq {set : ℕ} {m : OrdMap Address ValidatorInfo} {l : List (Address × ℕ)}
    (h : ∀ e ∈ l, voteBitSetContains set e.2 = true → ∃ info, m.get e.1 = some info) :
    collectVoteAddrs set m l = .ok (((l.filter fun e => voteBitSetContains set e.2).map
      Prod.fst).filterMap fun v => (m.get v).map voteAddr) := by
  induction l with
  | nil => rfl
  | cons e l ih =>
    obtain ⟨v, i⟩ := e
    have hrest := ih fun x hx => h x (mem_cons_of_mem _ hx)
    cases hbit : voteBitSetContains set i with
    | false => simp [collectVoteAddrs, hbit, hrest]
    | true =>
      obtain ⟨info, hinfo⟩ := h (v, i) mem_cons_self hbit
      simp only [collectVoteAddrs, hbit, hinfo, hrest]
      simp [hbit, hinfo, Except.map]

variable {snap : Snapshot} {infos : List ValidatorInfo} (votes : List VoteEnvelope)
  (hindexed : snap.Indexed) (hlen : snap.validators.length ≤ 64)
  (hinfos : infos.Perm snap.validatorsMap.values)
include hindexed hlen hinfos

lemma contains_voteAddressSetOf (i : ℕ) :
    voteBitSetContains (voteAddressSetOf (orderedUnique infos votes)) i ↔
      ∃ v info, snap.validators[i]? = some v ∧ snap.validatorsMap.get v = some info ∧
        info.index = i + 1 ∧ ((uniqueByAddr infos votes).lookup info.voteAddr).isSome := by
  have hbound : ∀ {k : ℕ} {v : Address}, snap.validators[k]? = some v → k < 64 := fun h =>
    (List.getElem?_eq_some_iff.mp h).1.trans_le hlen
  rw [voteBitSetContains, testBit_voteAddressSetOf, Bool.and_eq_true, any_eq_true]
  constructor
  · rintro ⟨-, e, he, hbit⟩
    obtain ⟨⟨info, hinfo, hindex, -, hvoted⟩, -⟩ := mem_orderedUnique he
    obtain ⟨v, hget⟩ := mem_values.mp (hinfos.mem_iff.mp hinfo)
    obtain ⟨k, hk, hki⟩ := hindexed v info hget
    rw [← hindex, hki, testBit_voteBit (hbound hk), decide_eq_true_eq] at hbit
    subst hbit
    exact ⟨v, info, hk, hget, hki, hvoted⟩
  · rintro ⟨v, info, hi, hget, hindex, hvoted⟩
    have hinfo : info ∈ infos := hinfos.mem_iff.mpr (mem_values.mpr ⟨v, hget⟩)
    obtain ⟨e, he, hei⟩ := exists_mem_orderedUnique hinfo hvoted
    refine ⟨decide_eq_true (hbound hi), e, he, ?_⟩
    rw [hei, hindex, testBit_voteBit (hbound hi), decide_eq_true_eq]

lemma bitSetCount_le :
    bitSetCount (voteAddressSetOf (orderedUnique infos votes)) ≤ snap.validators.length := by
  have hsub : (List.range 64).filter (voteBitSetContains (voteAddressSetOf
      (orderedUnique infos votes))) ⊆ List.range snap.validators.length := by
    intro i hi
    obtain ⟨v, -, hv, -⟩ := (contains_voteAddressSetOf votes hindexed hlen hinfos i).mp
      (mem_filter.mp hi).2
    exact List.mem_range.mpr (List.getElem?_eq_some_iff.mp hv).1
  have hle := (subperm_of_subset (nodup_range.filter _) hsub).length_le
  rwa [length_range] at hle

/-- **The verifier finds the addresses whose signatures were aggregated**, in its own order. -/
theorem collectVoteAddrs_perm (hnodup : snap.validators.Nodup) :
    ∃ voteAddrs, collectVoteAddrs (voteAddressSetOf (orderedUnique infos votes))
        snap.validatorsMap snap.validators.zipIdx = .ok voteAddrs ∧
      voteAddrs.Perm ((orderedUnique infos votes).map fun e => e.2.1) := by
  have hcontains := contains_voteAddressSetOf votes hindexed hlen hinfos
  refine ⟨_, collectVoteAddrs_eq fun e he hbit => ?_, ?_⟩
  · obtain ⟨v, info, hv, hget, -⟩ := (hcontains e.2).mp hbit
    have he' : snap.validators[e.2]? = some e.1 := mem_zipIdx_iff_getElem?.mp he
    obtain rfl := Option.some.inj (he'.symm.trans hv)
    exact ⟨info, hget⟩
  set unique := uniqueByAddr infos votes with hunique
  let voted : Address × ValidatorInfo → Bool := fun e => (unique.lookup e.2.voteAddr).isSome
  -- positions with their bit set and entries that voted belong to the same validators
  have hkeys : ((snap.validators.zipIdx.filter fun e => voteBitSetContains
      (voteAddressSetOf (orderedUnique infos votes)) e.2).map Prod.fst).Perm
        ((snap.validatorsMap.entries.filter voted).map Prod.fst) := by
    refine (perm_ext_iff_of_nodup ?_ ?_).mpr fun v => ?_
    · refine (filter_sublist.map Prod.fst).nodup ?_
      rwa [zipIdx_map_fst]
    · exact (filter_sublist.map Prod.fst).nodup (nodup_keys _)
    simp only [mem_map, mem_filter]
    constructor
    · rintro ⟨⟨w, i⟩, ⟨hmem, hbit⟩, rfl⟩
      obtain ⟨v, info, hv, hget, -, hvoted⟩ := (hcontains i).mp hbit
      obtain rfl := Option.some.inj ((mem_zipIdx_iff_getElem?.mp hmem).symm.trans hv)
      exact ⟨(w, info), ⟨mem_entries.mpr hget, hvoted⟩, rfl⟩
    · rintro ⟨⟨w, info⟩, ⟨hmem, hvoted⟩, rfl⟩
      have hget := mem_entries.mp hmem
      obtain ⟨i, hi, hindex⟩ := hindexed w info hget
      exact ⟨(w, i), ⟨mem_zipIdx_iff_getElem?.mpr hi,
        (hcontains i).mpr ⟨w, info, hi, hget, hindex, hvoted⟩⟩, rfl⟩
  have hentries : ((snap.validatorsMap.entries.filter voted).map Prod.fst).filterMap
      (fun v => (snap.validatorsMap.get v).map voteAddr) =
        (snap.validatorsMap.entries.filter voted).map fun e => e.2.voteAddr := by
    rw [filterMap_map, ← filterMap_eq_map]
    refine filterMap_congr fun e he => ?_
    have hget := mem_entries.mp (mem_of_mem_filter he)
    simp [hget]
  refine (hkeys.filterMap _).trans ?_
  rw [hentries, map_orderedUnique, ← hunique]
  have hvalues : (infos.filter fun info => (unique.lookup info.voteAddr).isSome).Perm
      ((snap.validatorsMap.entries.filter voted).map Prod.snd) := by
    refine (hinfos.filter _).trans (List.Perm.of_eq ?_)
    rw [values, filter_map]
    rfl
  refine List.Perm.trans (List.Perm.of_eq ?_) (hvalues.map voteAddr).symm
  rw [map_map]
  rfl

end SameValidators

/-! ### The aggregate verifies -/

/-- What the BLS library guarantees: the aggregate of signatures that are valid on one message
is valid under their keys, in whatever order the keys come, and signatures survive being
written as bytes. -/
structure BlsAggregation (deps : VoteDeps) : Prop where
  aggregate_verifies : ∀ (hash : B256) (l : List (deps.PublicKey × deps.Signature))
    (aggregate : deps.Signature), (∀ e ∈ l, deps.verify e.2 hash e.1 = true) →
    deps.aggregate (l.map Prod.snd) = some aggregate →
    ∀ pubkeys, pubkeys.Perm (l.map Prod.fst) →
      deps.fastAggregateVerify aggregate hash pubkeys = true
  signatureFromBytes_toBytes : ∀ sig, deps.signatureFromBytes (deps.signatureToBytes sig) = some sig

lemma mapM_perm {α β : Type} {f : α → Option β} {l l' : List α} (h : l.Perm l') {ys' : List β}
    (hys' : l'.mapM f = some ys') : ∃ ys, l.mapM f = some ys ∧ ys.Perm ys' := by
  obtain ⟨ys, hys, hperm⟩ := perm_comp_forall₂ h (mapM_eq_some_iff.mp hys')
  exact ⟨ys, mapM_eq_some_iff.mpr hys, hperm⟩

variable {hash : B256} {data : VoteData} {U : HeaderUniverse deps.toDeps} {ε : Type}
  {collect : Collector ε}

lemma exists_keyed {ordered : List (ℕ × VoteAddress × VoteSignature)} {sigs : List deps.Signature}
    (hvalid : ∀ e ∈ ordered, ∃ pk sig, deps.publicKeyFromBytes e.2.1 = some pk ∧
      deps.signatureFromBytes e.2.2 = some sig ∧ deps.verify sig hash pk)
    (hsigs : ordered.mapM (fun e => deps.signatureFromBytes e.2.2) = some sigs) :
    ∃ l : List (deps.PublicKey × deps.Signature), l.map Prod.snd = sigs ∧
      (ordered.map fun e => e.2.1).mapM deps.publicKeyFromBytes = some (l.map Prod.fst) ∧
      ∀ e ∈ l, deps.verify e.2 hash e.1 := by
  induction ordered generalizing sigs with
  | nil =>
    cases hsigs
    exact ⟨[], rfl, rfl, by simp⟩
  | cons e ordered ih =>
    simp only [mapM_cons, Option.bind_eq_bind, Option.bind_eq_some_iff] at hsigs
    obtain ⟨sig, hsig, rest, hrest, hcons⟩ := hsigs
    cases hcons
    obtain ⟨pk, sig', hpk, hsig', hverify⟩ := hvalid e mem_cons_self
    obtain rfl := Option.some.inj (hsig.symm.trans hsig')
    obtain ⟨l, hl, hkeys, hall⟩ := ih (fun x hx => hvalid x (mem_cons_of_mem e hx)) hrest
    refine ⟨(pk, sig) :: l, by simp [hl], by simp [mapM_cons, hpk, hkeys], ?_⟩
    intro x hx
    rcases mem_cons.mp hx with rfl | hx
    · exact hverify
    · exact hall x hx

lemma verifyVoteEnvelope_eq_true {vote : VoteEnvelope} (h : verifyVoteEnvelope deps vote) :
    ∃ pk sig, deps.publicKeyFromBytes vote.voteAddress = some pk ∧
      deps.signatureFromBytes vote.signature = some sig ∧
      deps.verify sig (deps.voteDataHash vote.data) pk := by
  unfold verifyVoteEnvelope at h
  split at h
  · next pk sig hpk hsig => exact ⟨pk, sig, hpk, hsig, h⟩
  · cases h

lemma attest_eq_some (h : attest deps env data snap votes = .ok (some attestation)) :
    (∀ vote ∈ votes, deps.voteDataHash vote.data = deps.voteDataHash data) ∧
      atLeastVotes snap.validators.length ≤
        (orderedUnique (env.valuesOf snap.validatorsMap) votes).length ∧
      ∃ sigs aggregate, (orderedUnique (env.valuesOf snap.validatorsMap) votes).mapM
          (fun e => deps.signatureFromBytes e.2.2) = some sigs ∧
        deps.aggregate sigs = some aggregate ∧
        attestation = ⟨voteAddressSetOf (orderedUnique (env.valuesOf snap.validatorsMap) votes),
          deps.signatureToBytes aggregate, data, []⟩ := by
  unfold attest at h
  split at h
  · cases h
  next hsame =>
  simp only at h
  split at h
  · cases h
  next hfew =>
  split at h
  · cases h
  next sigs hsigs =>
  split at h
  · cases h
  next aggregate haggregate =>
  split at h
  · cases h
  refine ⟨fun vote hvote => ?_, not_lt.mp hfew, sigs, aggregate, hsigs, haggregate,
    (Option.some.inj (Except.ok.inj h)).symm⟩
  simpa using find?_eq_none.mp hsame vote hvote

/-- **An attestation over verified votes passes the count and signature checks.** -/
theorem attest_accepted (hbls : BlsAggregation deps)
    (hvalues : ∀ m, (env.valuesOf m).Perm m.values) (hindexed : snap.Indexed)
    (hnodup : snap.validators.Nodup) (hlen : snap.validators.length ≤ 64)
    (hsigned : ∀ vote ∈ votes, verifyVoteEnvelope deps vote)
    (h : attest deps env data snap votes = .ok (some attestation)) :
    attestation.data = data ∧ attestation.extra = [] ∧
      ∃ voteAddrs, attestingVoteAddrs snap attestation.voteAddressSet = .ok voteAddrs ∧
        checkAggregate deps.toDeps attestation voteAddrs = .ok () := by
  obtain ⟨hsame, hquorum, sigs, aggregate, hsigs, haggregate, rfl⟩ := attest_eq_some h
  refine ⟨rfl, rfl, ?_⟩
  obtain ⟨voteAddrs, hcollect, hperm⟩ := collectVoteAddrs_perm votes hindexed hlen
    (hvalues snap.validatorsMap) hnodup
  have henough : ¬voteAddrs.length < atLeastVotes snap.validators.length := by
    rw [hperm.length_eq, length_map]
    exact not_lt.mpr hquorum
  have hcount := bitSetCount_le votes hindexed hlen (hvalues snap.validatorsMap)
  refine ⟨voteAddrs, ?_, ?_⟩
  · simp only [attestingVoteAddrs, gt_iff_lt, if_neg (not_lt.mpr hcount), hcollect, if_neg henough]
  -- every aggregated signature is that of a verified vote on this data
  have hvalid : ∀ e ∈ orderedUnique (env.valuesOf snap.validatorsMap) votes, ∃ pk sig,
      deps.publicKeyFromBytes e.2.1 = some pk ∧ deps.signatureFromBytes e.2.2 = some sig ∧
        deps.verify sig (deps.voteDataHash data) pk = true := by
    intro e he
    obtain ⟨-, vote, hvote, haddr, hsig⟩ := mem_orderedUnique he
    rw [← haddr, ← hsig, ← hsame vote hvote]
    exact verifyVoteEnvelope_eq_true (hsigned vote hvote)
  obtain ⟨l, hl, hkeys, hall⟩ := exists_keyed hvalid hsigs
  obtain ⟨pubkeys, hpubkeys, hpks⟩ := mapM_perm hperm hkeys
  have hverify := hbls.aggregate_verifies (deps.voteDataHash data) l aggregate hall
    (by rw [hl]; exact haggregate) pubkeys hpks
  simp only [checkAggregate, hpubkeys, hbls.signatureFromBytes_toBytes, hverify, if_true]

/-! ### Target and source -/

lemma findTarget_of_searchTarget
    (hreader : ∀ hash header, env.reader.byHash hash = some header → header ∈ U.headers)
    {justifiedNumber times : ℕ} {start target : Header} (hstart : start ∈ U.headers)
    (h : searchTarget deps env justifiedNumber times start = .ok (some (target, snap, votes)))
    (data : VoteData) (hnumber : data.targetNumber = target.number)
    (hhash : data.targetHash = deps.hashSlow target) :
    target ∈ U.headers ∧ findTarget deps.toDeps env.reader data times start = .ok target ∧
      env.snapshotByHash target.parentHash = some snap ∧
      votes = env.fetchVotes (deps.hashSlow target) justifiedNumber := by
  induction times generalizing start with
  | zero => cases h
  | succ times ih =>
    rw [searchTarget] at h
    split at h
    · cases h
    next s hsnap =>
    simp only at h
    split at h
    · -- enough votes for this one
      obtain ⟨rfl, rfl, rfl⟩ : start = target ∧ s = snap ∧
          env.fetchVotes (deps.hashSlow start) justifiedNumber = votes := by
        simpa using h
      exact ⟨hstart, by rw [findTarget, if_pos ⟨hnumber.symm, hhash.symm⟩], hsnap, rfl⟩
    split at h
    · cases h
    next header hheader =>
    split at h
    · cases h
    obtain ⟨hmem, hfind, hrest⟩ := ih (hreader _ _ hheader) h
    refine ⟨hmem, ?_, hrest⟩
    rw [findTarget]
    split
    · next hmatch =>
      -- an earlier header with the target's hash is the target
      rw [U.collisionFree hstart hmem (hmatch.2.trans hhash)]
    · simp only [hheader, hfind]

/-- The block the snapshot's vote names is known to the node, or there has been no vote. -/
def SourceKnown (deps : VoteDeps) (reader : HeaderReader) (snap : Snapshot) : Prop :=
  if snap.voteData.targetHash = 0 then snap.voteData.sourceHash = 0
  else ∃ header, reader.byHash snap.voteData.targetHash = some header ∧
    header.number = snap.voteData.targetNumber ∧ deps.hashSlow header = snap.voteData.targetHash

lemma getJustifiedHeader_of_justifiedSource {number : ℕ}
    (hknown : SourceKnown deps env.reader parentSnap)
    (h : justifiedSource deps env parentSnap = .ok (number, hash)) :
    ∃ justified, getJustifiedHeader env.reader parentSnap = .ok justified ∧
      number = justified.number ∧ hash = deps.hashSlow justified := by
  unfold justifiedSource at h
  unfold SourceKnown at hknown
  by_cases htarget : parentSnap.voteData.targetHash = 0
  · rw [if_pos htarget] at h hknown
    cases hgenesis : env.reader.canonical 0 with
    | none => rw [hgenesis] at h; cases h
    | some genesis =>
      rw [hgenesis] at h
      cases h
      exact ⟨genesis, by simp [getJustifiedHeader, hknown, htarget, hgenesis], rfl, rfl⟩
  · rw [if_neg htarget] at h hknown
    obtain ⟨header, hheader, hnumber, hhash⟩ := hknown
    cases h
    refine ⟨header, ?_, hnumber.symm, hhash.symm⟩
    rw [getJustifiedHeader, if_neg fun hzero => htarget hzero.2, hheader]

lemma assembleVoteAttestation_ok
    {assembled : Header} (h : parlia.assembleVoteAttestation deps collect header = .ok assembled) :
    assembled = header.append (attestationPart deps (parlia.attached collect header)) := by
  rw [← assembleOrKeep_eq, assembleOrKeep, h]

lemma attached_eq_some (h : parlia.attached collect header = some attestation) :
    collect header = .ok (some attestation) := by
  unfold attached at h
  split_ifs at h
  cases hcollect : collect header with
  | error e => rw [hcollect] at h; cases h
  | ok result =>
    rw [hcollect] at h
    exact congrArg Except.ok h

lemma collectAttestation_eq_some
    (h : parlia.collectAttestation deps env parentSnap parentHeader header =
      .ok (some attestation)) :
    ∃ number hash target snap votes, justifiedSource deps env parentSnap = .ok (number, hash) ∧
      searchTarget deps env number (parlia.attestationDepth header) parentHeader =
        .ok (some (target, snap, votes)) ∧
      attest deps env ⟨number, hash, target.number, deps.hashSlow target⟩ snap votes =
        .ok (some attestation) := by
  unfold collectAttestation at h
  split at h
  · cases h
  next number hash hsource =>
  split at h
  · cases h
  · cases h
  next target snap votes hsearch => exact ⟨number, hash, target, snap, votes, hsource, hsearch, h⟩

/-! ### Producer and verifier agree -/

lemma verifyVoteAttestation_of_collected (hbls : BlsAggregation deps) {prepared : Header}
    (hvalues : ∀ m, (env.valuesOf m).Perm m.values)
    (hsnaps : ∀ hash snap, env.snapshotByHash hash = some snap →
      snap.Indexed ∧ snap.validators.Nodup ∧ snap.validators.length ≤ 64)
    (hvotes : ∀ hash number, ∀ vote ∈ env.fetchVotes hash number, verifyVoteEnvelope deps vote)
    (hreader : ∀ hash header, env.reader.byHash hash = some header → header ∈ U.headers)
    (hparent : parentHeader ∈ U.headers) (hknown : SourceKnown deps env.reader parentSnap)
    (hdepth : parlia.attestationDepth header = parlia.attestationDepth prepared)
    (hcollect : parlia.collectAttestation deps env parentSnap parentHeader prepared =
      .ok (some attestation))
    (hread : parlia.getVoteAttestationFromHeader header parentSnap.epochNum deps.toDeps =
      .ok (some attestation)) :
    parlia.verifyVoteAttestation deps.toDeps env.reader (some env.snapshotByHash) parentSnap header
      parentHeader = .ok () := by
  obtain ⟨number, hash, target, snap, votes, hsource, hsearch, hattest⟩ :=
    collectAttestation_eq_some hcollect
  obtain ⟨justified, hjustified, hnumber, hhash⟩ :=
    getJustifiedHeader_of_justifiedSource hknown hsource
  obtain ⟨-, hfind, hsnap, hfetched⟩ := findTarget_of_searchTarget hreader hparent hsearch
    ⟨number, hash, target.number, deps.hashSlow target⟩ rfl rfl
  obtain ⟨hindexed, hnodup, hlen⟩ := hsnaps _ _ hsnap
  obtain ⟨hdata, hextra, voteAddrs, haddrs, haggregate⟩ := attest_accepted hbls hvalues hindexed
    hnodup hlen (fun vote hvote => hvotes _ _ vote (hfetched ▸ hvote)) hattest
  have hshort : ¬attestation.extra.length > maxAttestationExtraLength := by simp [hextra]
  have hagree : ¬(attestation.data.sourceNumber ≠ justified.number ∨
      attestation.data.sourceHash ≠ deps.hashSlow justified) := by
    simp [hdata, hnumber, hhash]
  have hpre : preSnapshot (some env.snapshotByHash) target = .ok snap := by
    simp only [preSnapshot, hsnap]
  unfold verifyVoteAttestation
  split
  · rfl
  · rw [← hdata, ← hdepth] at hfind
    simp only [hread, if_neg hshort, hfind, hjustified, bind, Except.bind, if_neg hagree, hpre,
      haddrs, haggregate]

lemma verifyVoteAttestation_of_none
    (hread : parlia.getVoteAttestationFromHeader header parentSnap.epochNum deps.toDeps =
      .ok none) :
    parlia.verifyVoteAttestation deps.toDeps env.reader (some env.snapshotByHash) parentSnap header
      parentHeader = .ok () := by
  unfold verifyVoteAttestation
  split
  · rfl
  · simp only [hread]

/-- **Verifiers accept what the producer attests.** If a prepared header is given an
attestation and sealed, the attestation is accepted against the same parent snapshot and
lookups, for every order in which the validators' map gives its values. -/
theorem assembled_accepted (hbls : BlsAggregation deps) (hrlp : AttestationRlp deps)
    {heap : VoteHeap} {pool : VotePool heap}
    {E : EnvelopeUniverse deps} {view : ChainView} {U : HeaderUniverse deps.toDeps}
    {sealHeader : SealHeader} {cache : TurnLengthCache} {parentSnap : Snapshot}
    {difficulty blockTimestampMs : ℕ} {epochValidators : Option EpochValidators}
    {parentHeader header assembled result : Header}
    (hpool : pool.Reachable deps E view)
    (hfetch : env.fetchVotes = pool.fetchVoteByBlockHashAndSourceNumber)
    (hvalues : ∀ m, (env.valuesOf m).Perm m.values)
    (hsnaps : ∀ hash snap, env.snapshotByHash hash = some snap →
      Snapshot.Reachable deps.toDeps parlia.spec snap ∧ snap.validators.Nodup ∧
        snap.validators.length ≤ 64)
    (hreader : ∀ hash header, env.reader.byHash hash = some header → header ∈ U.headers)
    (hparent : parentHeader ∈ U.headers) (hknown : SourceKnown deps env.reader parentSnap)
    (hextra : header.extraData.length ≤ extraVanityLen)
    (hsome : isMultipleOf header.number parentSnap.epochNum = true → epochValidators.isSome = true)
    (hcount : ∀ validators voteAddresses, epochValidators = some (validators, voteAddresses) →
      validators.length ≤ 255)
    (hassembled : parlia.assembleVoteAttestation deps
      (parlia.collectAttestation deps env parentSnap parentHeader)
      (parlia.preparedHeader cache parentSnap difficulty blockTimestampMs epochValidators header) =
        .ok assembled)
    (hsealed : parlia.sealExtra sealHeader assembled = .ok result) :
    parlia.verifyVoteAttestation deps.toDeps env.reader (some env.snapshotByHash) parentSnap result
      parentHeader = .ok () := by
  obtain ⟨hn, -⟩ := Prod.mk.inj (parlia.preparedHeader_position cache parentSnap difficulty
    blockTimestampMs epochValidators header)
  obtain rfl := assembleVoteAttestation_ok hassembled
  obtain ⟨sealData, hseal, rfl⟩ := sealExtra_ok hsealed
  rw [Header.append_append]
  cases hluban : parlia.spec.isLubanActiveAtBlock header.number with
  | false =>
    -- no attestation is read before Luban
    refine verifyVoteAttestation_of_none ?_
    simp [getVoteAttestationFromHeader, hn, hluban]
  | true =>
  generalize hatt : parlia.attached (parlia.collectAttestation deps env parentSnap parentHeader)
    (parlia.preparedHeader cache parentSnap difficulty blockTimestampMs epochValidators header) =
      attestation
  have hread : parlia.getVoteAttestationFromHeader ((parlia.preparedHeader cache parentSnap
      difficulty blockTimestampMs epochValidators header).append
        (attestationPart deps attestation ++ sealData)) parentSnap.epochNum deps.toDeps =
          .ok attestation :=
    (laid_prepared (fun _ => hluban)
      (fun hepoch => Prod.exists.mp (Option.isSome_iff_exists.mp (hsome hepoch))) hextra hcount deps
      cache difficulty blockTimestampMs hseal fun _ => hluban).getVoteAttestation hrlp
  cases attestation with
  | none => exact verifyVoteAttestation_of_none hread
  | some attestation =>
    refine verifyVoteAttestation_of_collected hbls hvalues (fun hash snap hsnap => ?_)
      (fun hash number vote hvote => ?_) hreader hparent hknown rfl (attached_eq_some hatt) hread
    · obtain ⟨hreach, hrest⟩ := hsnaps hash snap hsnap
      exact ⟨hreach.indexed, hrest⟩
    · rw [hfetch] at hvote
      exact (hpool.ok.mem_fetch (mem_of_mem_filter hvote)).2.2

end Parlia

/-! A block on top of two others, with one vote for its parent. -/

/-- Every key signs with the zero signature, and so do all of them together. -/
def attestDeps : VoteDeps :=
  { strokeDeps with
    fastAggregateVerify := fun (sig : VoteSignature) _ _ => decide (sig = 0) }

lemma attestDeps_rlp : Parlia.AttestationRlp attestDeps :=
  ⟨strokeDeps_rlp.decode_encode, strokeDeps_rlp.encode_ne_nil⟩

lemma attestDeps_bls : Parlia.BlsAggregation attestDeps where
  aggregate_verifies hash l aggregate hall haggregate pubkeys _ := by
    obtain ⟨e, he, rfl⟩ := mem_map.mp (mem_of_mem_head? haggregate)
    exact hall e he
  signatureFromBytes_toBytes _ := rfl

/-- Blocks 0, 1 and 2, with the hashes 1, 9 and 17. -/
def attestHeaders : List Header :=
  [sampleHeader 0 0 1 0 [], sampleHeader 1 0 1 1 [], sampleHeader 2 0 1 9 []]

def attestReader : HeaderReader where
  byHash hash := attestHeaders.find? fun x => decide (attestDeps.hashSlow x = hash)
  canonical n := attestHeaders.find? fun x => decide (x.number = n)

def attestUniverse : HeaderUniverse attestDeps.toDeps where
  headers := {x | x ∈ attestHeaders}
  collisionFree := by
    have h : ∀ x ∈ attestHeaders, ∀ y ∈ attestHeaders,
        attestDeps.hashSlow x = attestDeps.hashSlow y → x = y := by decide +kernel
    exact fun x hx y hy hxy => h x hx y hy hxy

/-- Luban, Plato and Fermi from genesis on. -/
def attestParlia : Parlia where
  spec :=
    { chainId := 56
      bscForkActivation
        | .luban => .block 0
        | .plato => .block 0
        | .fermi => .timestamp 0
        | _ => .never
      london := .block 0
      prague := .never }
  epoch := 200

/-- The snapshot of block 1, with a single validator. -/
def attestSnap : Snapshot := (Snapshot.new [1] 1 9 200 none).getD default

variable (target : B256)

/-- The snapshot of block 2, if block 2 carries a vote for the block with the given hash. -/
def attestParent : Snapshot :=
  ((attestSnap.apply attestDeps.toDeps attestParlia.spec 1 (sampleHeader 2 0 1 9 []) []
    none (some ⟨1, 0, ⟨0, 1, 1, target⟩, []⟩) none).toOption).getD default

def attestSnapshots (target hash : B256) : Option Snapshot :=
  if hash = 9 then some attestSnap else if hash = 17 then some (attestParent target) else none

def attestVote : VoteEnvelope := ⟨0, 0, ⟨1, target, 2, 17⟩⟩

def attestPoolEnv : PoolEnv where
  bestCanonicalBlockNumber := some 2
  headerByHash := some attestReader.byHash
  headerByNumber := attestReader.canonical
  snapshotProvider := some (attestSnapshots target)

def attestNode : PoolNode (MinHeap.sortedList VoteData.targetNumber) :=
  PoolNode.new.putVote attestDeps (attestPoolEnv target) (attestVote target)

def attestEnv : ProducerEnv where
  reader := attestReader
  snapshotByHash := attestSnapshots target
  fetchVotes := (attestNode target).pool.fetchVoteByBlockHashAndSourceNumber
  valuesOf := OrdMap.values

def attestBuilt : Option Header := do
  let prepared := attestParlia.preparedHeader ⟨1024, []⟩ (attestParent target) 2 0 none
    { sampleHeader 3 0 1 17 [] with extraData := [] }
  let assembled ← (attestParlia.assembleVoteAttestation attestDeps
    (attestParlia.collectAttestation attestDeps (attestEnv target) (attestParent target)
      (sampleHeader 2 0 1 9 [])) prepared).toOption
  (attestParlia.sealExtra
    (fun _ _ => .ok ⟨List.replicate extraSealLen 7, length_buildSeal⟩) assembled).toOption

/-- If the parent's snapshot records a vote for a block the node does not hold, the producer
attests from that block and the verifier does not find it. -/
theorem unknown_source_rejected : ((attestBuilt 5).map fun built =>
    (attestParlia.getVoteAttestationFromHeader built 200 attestDeps.toDeps,
      attestParlia.verifyVoteAttestation attestDeps.toDeps attestReader
        (some (attestSnapshots 5)) (attestParent 5) built (sampleHeader 2 0 1 9 []))) =
      some (.ok (some ⟨1, 0, ⟨1, 5, 2, 17⟩, []⟩), .error (.unknownHeader 5)) := by
  decide +kernel

lemma attestParent_reachable :
    Snapshot.Reachable attestDeps.toDeps attestParlia.spec (attestParent 9) := by
  have hnew : new [1] 1 9 200 none = some attestSnap := rfl
  have happly : (attestSnap.apply attestDeps.toDeps attestParlia.spec 1 (sampleHeader 2 0 1 9 []) []
      none (some ⟨1, 0, ⟨0, 1, 1, 9⟩, []⟩) none).toOption.isSome = true := by decide +kernel
  obtain ⟨s, hs⟩ := Option.isSome_iff_exists.mp happly
  have hparent : attestParent 9 = s := by rw [attestParent, hs]; rfl
  rw [hparent]
  exact .apply (.new hnew) (toOption_eq_some hs)

def attestView : ChainView where
  header := attestReader.byHash
  snapshot := attestSnapshots 9
  genesis := (attestReader.canonical 0).map fun g => (g.number, attestDeps.hashSlow g)

def attestEnvelopes : EnvelopeUniverse attestDeps where
  envelopes := {attestVote 9}
  collisionFree := Set.injOn_singleton _ _

lemma attestPoolEnv_agrees : (attestPoolEnv 9).Agrees attestDeps.toDeps attestView where
  header _ _ h := h
  snapshot _ _ _ h hs := by cases h; exact hs
  genesis g h := by
    have hg : attestView.genesis = ((attestPoolEnv 9).headerByNumber 0).map fun g =>
      (g.number, attestDeps.hashSlow g) := rfl
    rw [hg, h]
    rfl

lemma attestSnapshots_reachable (hash : B256) (snap : Snapshot)
    (h : (attestEnv 9).snapshotByHash hash = some snap) :
    Snapshot.Reachable attestDeps.toDeps attestParlia.spec snap ∧ snap.validators.Nodup ∧
      snap.validators.length ≤ 64 := by
  have h' : attestSnapshots 9 hash = some snap := h
  unfold attestSnapshots at h'
  split_ifs at h'
  · cases h'
    have hnew : new [1] 1 9 200 none = some attestSnap := rfl
    exact ⟨.new hnew, by decide +kernel, by decide +kernel⟩
  · cases h'
    exact ⟨attestParent_reachable, by decide +kernel, by decide +kernel⟩

lemma attestParent_known : Parlia.SourceKnown attestDeps (attestEnv 9).reader (attestParent 9) := by
  have htarget : (attestParent 9).voteData.targetHash = 9 := by decide +kernel
  have hnumber : (attestParent 9).voteData.targetNumber = 1 := by decide +kernel
  have hheader : attestReader.byHash 9 = some (sampleHeader 1 0 1 1 []) := by decide +kernel
  have hhash : attestDeps.hashSlow (sampleHeader 1 0 1 1 []) = 9 := by decide +kernel
  unfold Parlia.SourceKnown
  rw [htarget, hnumber, if_neg (by decide)]
  exact ⟨_, hheader, rfl, hhash⟩

/-- With the vote recorded for block 1 itself, block 3 carries an attestation and is accepted. -/
theorem assembled_accepted_one : ∃ built : Header,
    attestParlia.getVoteAttestationFromHeader built 200 attestDeps.toDeps =
        .ok (some ⟨1, 0, ⟨1, 9, 2, 17⟩, []⟩) ∧
      attestParlia.verifyVoteAttestation attestDeps.toDeps attestReader (some (attestSnapshots 9))
        (attestParent 9) built (sampleHeader 2 0 1 9 []) = .ok () := by
  have hread : ((attestBuilt 9).map fun built =>
      attestParlia.getVoteAttestationFromHeader built 200 attestDeps.toDeps) =
        some (.ok (some ⟨1, 0, ⟨1, 9, 2, 17⟩, []⟩)) := by decide +kernel
  obtain ⟨built, hbuilt, hatt⟩ := Option.map_eq_some_iff.mp hread
  refine ⟨built, hatt, ?_⟩
  simp only [attestBuilt, Option.bind_eq_bind, Option.bind_eq_some_iff] at hbuilt
  obtain ⟨assembled, hassembled, hsealed⟩ := hbuilt
  have hpool : (attestNode 9).pool.Reachable attestDeps attestEnvelopes attestView :=
    VotePool.Reachable.putVote attestPoolEnv_agrees VotePool.Reachable.new
      (Set.mem_singleton (attestVote 9))
  have hvalues : ∀ m, ((attestEnv 9).valuesOf m).Perm m.values := fun _ => List.Perm.refl _
  have hreader : ∀ hash header, (attestEnv 9).reader.byHash hash = some header →
      header ∈ attestUniverse.headers := by
    intro hash header h
    simp only [attestEnv, attestReader] at h
    exact mem_of_find?_eq_some h
  have hparent : sampleHeader 2 0 1 9 [] ∈ attestUniverse.headers := by
    have hmem : sampleHeader 2 0 1 9 [] ∈ attestHeaders := by decide +kernel
    exact hmem
  exact Parlia.assembled_accepted attestDeps_bls attestDeps_rlp hpool
    (by simp only [attestEnv]) hvalues attestSnapshots_reachable hreader hparent attestParent_known
        (Nat.zero_le _)
    (fun hepoch => absurd hepoch (by decide +kernel)) (by rintro _ _ ⟨⟩)
    (toOption_eq_some hassembled) (toOption_eq_some hsealed)

end RethBsc
