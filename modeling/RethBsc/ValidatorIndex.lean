import RethBsc.AttestationBuild
import RethBsc.SystemTransactions

/-!
Which validator an index stands for.

A checkpoint header lists addresses with vote addresses in any order. The snapshot sorts the
addresses and keeps each vote address with the address it was listed with, under an index that
counts positions from one. Producer, verifier and reward distribution turn indexes and positions
into bits and back.
-/

namespace RethBsc

open List Parlia

section Sets

variable {validators : List Address} {votes : Option (List VoteAddress)} {v : Address}

lemma voteAddr_foldl_number (l : List (Address × ℕ)) (m : OrdMap Address ValidatorInfo) :
    ((l.foldl (fun m e => match m.get e.1 with
      | some info => m.insert e.1 { info with index := e.2 + 1 }
      | none => m) m).get v).map ValidatorInfo.voteAddr = (m.get v).map ValidatorInfo.voteAddr := by
  induction l generalizing m with
  | nil => rfl
  | cons e l ih =>
    rw [foldl_cons, ih]
    cases hm : m.get e.1 with
    | none => rfl
    | some info =>
      rw [OrdMap.get_insert]
      split_ifs with hv
      · rw [← hv, hm]
        rfl
      · rfl

/-- The vote address a validator is listed with, zero where none are. -/
def ListedWith (validators : List Address) (votes : Option (List VoteAddress)) (v : Address)
    (voteAddr : VoteAddress) : Prop :=
  match votes with
  | none => voteAddr = 0
  | some votes => (v, voteAddr) ∈ validators.zip votes

lemma exists_get_foldl_insert {α : Type} (key : α → Address) (value : α → ValidatorInfo)
    {l : List α} {e : α} (he : e ∈ l) : ∃ info,
    (l.foldl (fun m e => m.insert (key e) (value e)) OrdMap.empty).get (key e) = some info := by
  rw [OrdMap.foldl_insert_eq_ofList]
  exact OrdMap.exists_get_ofList (mem_map_of_mem (f := fun e => (key e, value e)) he)

lemma exists_get_buildValidatorsMap (hlen : lengthsAgree validators votes)
    (hv : v ∈ validators) : ∃ info, (buildValidatorsMap validators votes).get v = some info ∧
      ListedWith validators votes v info.voteAddr := by
  cases votes with
  | none =>
    obtain ⟨i, hi⟩ := mem_iff_getElem?.mp ((perm_sortAddrs validators).mem_iff.mpr hv)
    have hmem : (v, i) ∈ (sortAddrs validators).zipIdx := mem_zipIdx_iff_getElem?.mpr hi
    obtain ⟨info, hinfo⟩ := exists_get_foldl_insert Prod.fst
      (fun e : Address × ℕ => ⟨e.2 + 1, 0⟩) hmem
    obtain ⟨e, -, -, rfl⟩ := mem_of_get_foldl_insert Prod.fst
      (fun e : Address × ℕ => ⟨e.2 + 1, 0⟩) hinfo
    exact ⟨_, hinfo, rfl⟩
  | some votes =>
    have hzip : v ∈ (validators.zip votes).map Prod.fst := by
      rwa [map_fst_zip (of_decide_eq_true hlen).le]
    obtain ⟨e, he, rfl⟩ := mem_map.mp hzip
    obtain ⟨listed, hlisted⟩ := exists_get_foldl_insert Prod.fst
      (fun e : Address × VoteAddress => ⟨0, e.2⟩) he
    obtain ⟨e', he', hkey, rfl⟩ := mem_of_get_foldl_insert Prod.fst
      (fun e : Address × VoteAddress => ⟨0, e.2⟩) hlisted
    have hkept := voteAddr_foldl_number (v := e.1) (sortAddrs validators).zipIdx
      ((validators.zip votes).foldl (fun m e => m.insert e.1 ⟨0, e.2⟩) OrdMap.empty)
    rw [hlisted, Option.map_some, Option.map_eq_some_iff] at hkept
    obtain ⟨info, hinfo, hvote⟩ := hkept
    refine ⟨info, hinfo, ?_⟩
    rw [ListedWith, hvote, ← hkey]
    exact he'

lemma pairwise_lt_sortAddrs (hnodup : validators.Nodup) :
    (sortAddrs validators).Pairwise (· < ·) := by
  have hsorted := pairwise_insertionSort (· ≤ ·) validators
  have hne := (perm_sortAddrs validators).nodup_iff.mpr hnodup
  exact (hsorted.and hne).imp fun h => lt_of_le_of_ne h.1 h.2

end Sets

namespace Parlia

variable {parlia : Parlia} {header : Header} {epochLength : ℕ} {info : ValidatorsInfo}

lemma parseValidatorsFromHeader_voteAddrs
    (h : parlia.parseValidatorsFromHeader header epochLength = .ok info) :
    lengthsAgree info.consensusAddrs info.voteAddrs ∧
      (info.voteAddrs = none ↔ parlia.spec.isLubanActiveAtBlock header.number = false) := by
  unfold parseValidatorsFromHeader at h
  split at h
  · cases h
  · cases h
  split_ifs at h with hluban
  · obtain rfl := Except.ok.inj h
    simp [parseValidatorsAfterLuban, lengthsAgree, hluban]
  · obtain rfl := Except.ok.inj h
    simp [parseValidatorsBeforeLuban, lengthsAgree, hluban]

end Parlia

/-- A checkpoint header with distinct validators, and what it is read as. -/
structure Checkpoint (parlia : Parlia) where
  header : Header
  epochLength : ℕ
  info : ValidatorsInfo
  parsed : parlia.parseValidatorsFromHeader header epochLength = .ok info
  distinct : info.consensusAddrs.Nodup

namespace Snapshot

/-- The snapshots that checkpoints and applies lead to, each with the checkpoint that installed its
set. An apply is handed the validators of a checkpoint or none. -/
inductive FromCheckpoints (parlia : Parlia) (deps : Deps) : Checkpoint parlia → Snapshot → Prop
  | new {c : Checkpoint parlia} {n epoch : ℕ} {hash : B256} {s : Snapshot}
      (h : Snapshot.new c.info.consensusAddrs n hash epoch c.info.voteAddrs = some s) :
      FromCheckpoints parlia deps c s
  | keep {c : Checkpoint parlia} {s s' : Snapshot} {validator : Address} {header : Header}
      {attestation : Option VoteAttestation} {turnLength : Option UInt8}
      (before : FromCheckpoints parlia deps c s)
      (h : s.apply deps parlia.spec validator header [] none attestation turnLength = .ok s') :
      FromCheckpoints parlia deps c s'
  | handed {c next : Checkpoint parlia} {s s' : Snapshot} {validator : Address} {header : Header}
      {attestation : Option VoteAttestation} {turnLength : Option UInt8}
      (before : FromCheckpoints parlia deps c s)
      (h : s.apply deps parlia.spec validator header next.info.consensusAddrs next.info.voteAddrs
        attestation turnLength = .ok s') :
      FromCheckpoints parlia deps (if s.switches deps parlia.spec validator header
        next.info.consensusAddrs attestation then next else c) s'

variable {parlia : Parlia} {deps : Deps} {c : Checkpoint parlia} {s : Snapshot}

/-- The set in force is the one its checkpoint lists. -/
lemma FromCheckpoints.installed (h : FromCheckpoints parlia deps c s) :
    s.validators = sortAddrs c.info.consensusAddrs ∧
      s.validatorsMap = buildValidatorsMap c.info.consensusAddrs c.info.voteAddrs := by
  induction h with
  | new h => exact ⟨(new_eq_some h).2.2.2.2.2.2, new_validatorsMap h⟩
  | @keep c s s' validator header attestation turnLength before h ih =>
    have hsw : s.switches deps parlia.spec validator header [] attestation = false := by
      simp [switches, installs]
    obtain ⟨hvals, hmap, -⟩ := (apply_ok h).kept hsw
    rw [hvals, hmap]
    exact ih
  | @handed c next s s' validator header attestation turnLength before h ih =>
    cases hsw : s.switches deps parlia.spec validator header next.info.consensusAddrs
        attestation with
    | false =>
      obtain ⟨hvals, hmap, -⟩ := (apply_ok h).kept hsw
      rw [hvals, hmap]
      exact ih
    | true =>
      obtain ⟨hvals, hmap, -⟩ := (apply_ok h).switched hsw
      exact ⟨hvals, hmap⟩

end Snapshot

/-! ### Bits -/

lemma filter_zipIdx {l : List Address} {i : ℕ} {v : Address} (k : ℕ) (h : l[i]? = some v) :
    ((l.zipIdx k).filter fun e => decide (k + i = e.2)) = [(v, k + i)] := by
  induction l generalizing i k with
  | nil => cases h
  | cons a l ih =>
    rw [zipIdx_cons, filter_cons]
    cases i with
    | zero =>
      obtain rfl := Option.some.inj h
      have hrest : (l.zipIdx (k + 1)).filter (fun e => decide (k + 0 = e.2)) = [] := by
        rw [filter_eq_nil_iff]
        intro e he
        have := le_snd_of_mem_zipIdx he
        simp only [decide_eq_true_eq]
        omega
      rw [if_pos (by simp), hrest]
      rfl
    | succ i =>
      rw [if_neg (by simp), show k + (i + 1) = k + 1 + i by omega]
      exact ih (k + 1) h

namespace Parlia

lemma voteBitSetContains_voteBit {i : ℕ} (hi : i < 64) (j : ℕ) :
    voteBitSetContains (voteBit (i + 1)) j = decide (i = j) := by
  rw [voteBitSetContains, testBit_voteBit hi]
  by_cases hij : i = j
  · simp [← hij, hi]
  · simp [hij]

lemma bitSetCount_voteBit {i : ℕ} (hi : i < 64) : bitSetCount (voteBit (i + 1)) = 1 := by
  have hrange : (List.range 64).filter (fun j => decide (i = j)) = [i] := by
    revert i
    decide
  rw [bitSetCount, funext (voteBitSetContains_voteBit hi), hrange]
  rfl

end Parlia

/-- Bit `i` stands for a validator and its vote address: to the producer, who sets it for the
index `i + 1`, and in an attestation that has no other bit to the verifier and to the reward
distribution. -/
structure Snapshot.BitNames (s : Snapshot) (i : ℕ) (v : Address) (voteAddr : VoteAddress) :
    Prop where
  produced : ∀ j, (Parlia.voteBit (i + 1)).testBit j = decide (i = j)
  verified : Parlia.collectVoteAddrs (Parlia.voteBit (i + 1)) s.validatorsMap s.validators.zipIdx =
    .ok [voteAddr]
  rewarded : ∀ (World : Type) (ctx : ExecutorCtx World) (attestation : VoteAttestation)
    (target parent parentHeader : Header) (weights : OrdMap Address ℕ),
    ctx.reader.byHash attestation.data.targetHash = some target →
    ctx.reader.byHash target.parentHash = some parent →
    ctx.snapshotByHash (ctx.deps.hashSlow parent) = some s →
    attestation.voteAddressSet = Parlia.voteBit (i + 1) →
    ctx.processAttestation attestation parentHeader weights =
      .ok (ExecutorCtx.addWeight weights v 1)

lemma Snapshot.bitNames {s : Snapshot} {i : ℕ} {v : Address} {info : ValidatorInfo}
    (hlen : s.validators.length ≤ 64) (hi : s.validators[i]? = some v)
    (hget : s.validatorsMap.get v = some info) : s.BitNames i v info.voteAddr := by
  have hlt := (List.getElem?_eq_some_iff.mp hi).1
  have hbit := fun e : Address × ℕ =>
    voteBitSetContains_voteBit (hlt.trans_le hlen) e.2
  have hnamed : s.validators.zipIdx.filter (fun e =>
      voteBitSetContains (voteBit (i + 1)) e.2) = [(v, i)] := by
    rw [funext hbit]
    simpa using filter_zipIdx 0 hi
  refine ⟨testBit_voteBit (hlt.trans_le hlen), ?_, ?_⟩
  · rw [collectVoteAddrs_eq, hnamed]
    · simp [hget]
    · intro e he hset
      have hmem : e ∈ [(v, i)] := hnamed ▸ mem_filter.mpr ⟨he, hset⟩
      rw [mem_singleton.mp hmem]
      exact ⟨info, hget⟩
  · intro World ctx attestation target parent parentHeader weights htarget hparent hsnap hset
    have hcount := bitSetCount_voteBit (hlt.trans_le hlen)
    unfold ExecutorCtx.processAttestation
    simp only [htarget, hparent, hsnap, hset, hcount, hnamed]
    rw [if_neg (by omega), if_neg (by simp; omega)]
    rfl

/-- **Indexes stand for the validators of the checkpoint in force**, whatever order it lists
them in. -/
theorem Snapshot.validators_indexed {parlia : Parlia} {deps : Deps} {c : Checkpoint parlia}
    {s : Snapshot} (h : FromCheckpoints parlia deps c s) :
    (c.info.voteAddrs = none ↔ parlia.spec.isLubanActiveAtBlock c.header.number = false) ∧
      s.validators.Pairwise (· < ·) ∧ s.validators.Perm c.info.consensusAddrs ∧
      (∀ v, s.validatorsMap.contains v = true ↔ v ∈ s.validators) ∧
      ∀ i v, s.validators[i]? = some v → ∃ voteAddr,
        s.validatorsMap.get v = some ⟨i + 1, voteAddr⟩ ∧
        ListedWith c.info.consensusAddrs c.info.voteAddrs v voteAddr ∧
        (s.validators.length ≤ 64 → s.BitNames i v voteAddr) := by
  obtain ⟨hvals, hmap⟩ := h.installed
  obtain ⟨hagree, hluban⟩ := parseValidatorsFromHeader_voteAddrs c.parsed
  have hsorted := pairwise_lt_sortAddrs c.distinct
  have hnodup : (sortAddrs c.info.consensusAddrs).Nodup := hsorted.imp fun hlt => hlt.ne
  have hperm := perm_sortAddrs c.info.consensusAddrs
  refine ⟨hluban, hvals ▸ hsorted, hvals ▸ hperm, fun v => ?_, fun i v hi => ?_⟩
  · rw [hvals, hmap, OrdMap.contains_iff]
    constructor
    · rintro ⟨x, hx⟩
      obtain ⟨i, hi, -⟩ := buildValidatorsMap_index hx
      exact mem_of_getElem? hi
    · intro hv
      obtain ⟨x, hx, -⟩ := exists_get_buildValidatorsMap hagree (hperm.mem_iff.mp hv)
      exact ⟨x, hx⟩
  · have hi' : (sortAddrs c.info.consensusAddrs)[i]? = some v := hvals ▸ hi
    obtain ⟨x, hx, hlisted⟩ := exists_get_buildValidatorsMap hagree
      (hperm.mem_iff.mp (mem_of_getElem? hi'))
    obtain ⟨k, hk, hindex⟩ := buildValidatorsMap_index hx
    obtain rfl : k = i :=
      (List.getElem?_inj (List.getElem?_eq_some_iff.mp hk).1 hnodup).mp (hk.trans hi'.symm)
    have hget : s.validatorsMap.get v = some x := by rw [hmap, hx]
    exact ⟨x.voteAddr, by rw [hget, ← hindex], hlisted, fun hlen => bitNames hlen hi hget⟩

/-- A checkpoint that lists validator 2 before validator 1. -/
def unsortedCheckpoint : Header :=
  let record (validator vote : UInt8) : Bytes :=
    List.replicate 19 0 ++ [validator] ++ List.replicate 47 0 ++ [vote]
  sampleHeader 0 0 1 0 ([2] ++ record 2 5 ++ record 1 6)

theorem Snapshot.validators_indexed_unsorted : ∃ c s,
    FromCheckpoints (soloParlia .never) (sampleDeps true) c s ∧ c.header = unsortedCheckpoint ∧
      s.validators = [1, 2] ∧ s.validatorsMap.get 1 = some ⟨1, 6⟩ ∧
      ListedWith c.info.consensusAddrs c.info.voteAddrs 1 6 ∧ s.BitNames 0 1 6 := by
  let s := ((soloParlia .never).genesisSnapshot (sampleDeps true) unsortedCheckpoint).getD default
  have hs : (soloParlia .never).genesisSnapshot (sampleDeps true) unsortedCheckpoint = some s := by
    decide +kernel
  obtain ⟨info, parsed, hnew⟩ := genesisSnapshot_eq_some hs
  have hvals : s.validators = [1, 2] := by decide +kernel
  have hget : s.validatorsMap.get 1 = some ⟨1, 6⟩ := by decide +kernel
  have distinct : info.consensusAddrs.Nodup := by
    rw [← (perm_sortAddrs _).nodup_iff, ← (Snapshot.new_eq_some hnew).2.2.2.2.2.2, hvals]
    decide
  let c : Checkpoint (soloParlia .never) := ⟨unsortedCheckpoint, _, info, parsed, distinct⟩
  have hfrom : FromCheckpoints (soloParlia .never) (sampleDeps true) c s := .new hnew
  obtain ⟨-, -, -, -, hindex⟩ := validators_indexed hfrom
  obtain ⟨voteAddr, hvote, hlisted, hbit⟩ := hindex 0 1 (by rw [hvals]; rfl)
  obtain rfl : voteAddr = 6 := by
    rw [hget] at hvote
    exact (ValidatorInfo.mk.inj (Option.some.inj hvote)).2.symm
  exact ⟨c, s, hfrom, rfl, hvals, hget, hlisted, hbit (by rw [hvals]; decide)⟩

end RethBsc
