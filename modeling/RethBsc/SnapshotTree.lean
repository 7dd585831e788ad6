import RethBsc.Chain

/-!
The snapshots of a tree of headers.

A branch runs from a header back to block 0 along parent hashes. Where no two headers share
a hash, a hash names at most one branch, so `IsFold` gives it at most one snapshot: the fold
of `apply` over its ancestors, with checkpoints read from the branch itself.
-/

namespace RethBsc

open Parlia

variable {parlia : Parlia} {deps : Deps} {U : HeaderUniverse deps}

/-- Headers of the universe from the newest back to block 0, each on top of the next. -/
def IsBranch (U : HeaderUniverse deps) : List Header → Prop
  | [] => False
  | [genesis] => genesis ∈ U.headers ∧ genesis.number = 0
  | header :: parent :: rest =>
    header ∈ U.headers ∧ header.parentHash = deps.hashSlow parent ∧ IsBranch U (parent :: rest)

def IsFold (parlia : Parlia) (U : HeaderUniverse deps) (hash : B256) (s : Snapshot) : Prop :=
  ∃ header rest, IsBranch U (header :: rest) ∧ deps.hashSlow header = hash ∧
    parlia.fold deps (header :: rest) = some s

variable {header : Header} {rest : List Header} {s' s : Snapshot} {hash : B256}

lemma IsBranch.head_mem (h : IsBranch U (header :: rest)) : header ∈ U.headers := by
  cases rest with
  | nil | cons => exact h.1

lemma fold_block (h : parlia.fold deps (header :: rest) = some s) :
    s.blockHash = deps.hashSlow header ∧ s.blockNumber = rest.length ∧
      header.number = rest.length := by
  induction rest generalizing header s with
  | nil =>
    rw [fold] at h
    split_ifs at h with hzero
    obtain ⟨info, -, hnew⟩ := genesisSnapshot_eq_some h
    obtain ⟨hnum, hhash, -⟩ := Snapshot.new_eq_some hnew
    exact ⟨hhash, hnum, hzero⟩
  | cons parent rest ih =>
    rw [fold] at h
    obtain ⟨s0, hs0, happly⟩ := Option.bind_eq_some_iff.mp h
    obtain ⟨-, hnum, -⟩ := ih hs0
    obtain ⟨info, turnLength, -, -, happ⟩ := applyHeader_eq_some happly
    have hlen := happ.number
    have hblock := happ.blockNumber
    refine ⟨happ.blockHash, ?_, ?_⟩
    · rw [List.length_cons]; omega
    · rw [List.length_cons]; omega

lemma IsFold.blockHash_eq (h : IsFold parlia U hash s) : s.blockHash = hash := by
  obtain ⟨header, rest, -, rfl, hfold⟩ := h
  exact (fold_block hfold).1

lemma IsFold.self (h : IsFold parlia U hash s) : IsFold parlia U s.blockHash s := by
  rw [h.blockHash_eq]
  exact h

lemma IsBranch.eq_of_hash_eq {x y : Header} {xs ys : List Header} (hx : IsBranch U (x :: xs))
    (hy : IsBranch U (y :: ys)) (hlen : xs.length = ys.length)
    (hhash : deps.hashSlow x = deps.hashSlow y) : x :: xs = y :: ys := by
  induction xs generalizing x y ys with
  | nil =>
    obtain rfl := List.eq_nil_of_length_eq_zero hlen.symm
    rw [U.collisionFree hx.head_mem hy.head_mem hhash]
  | cons x' xs ih =>
    cases ys with
    | nil => cases hlen
    | cons y' ys =>
      obtain rfl := U.collisionFree hx.head_mem hy.head_mem hhash
      have hparent : deps.hashSlow x' = deps.hashSlow y' := by
        rw [← hx.2.1, hy.2.1]
      rw [ih hx.2.2 hy.2.2 (by simpa using hlen) hparent]

/-- **A hash has at most one fold.** -/
theorem IsFold.unique (h : IsFold parlia U hash s) (h' : IsFold parlia U hash s') : s = s' := by
  obtain ⟨x, xs, hx, hhash, hfold⟩ := h
  obtain ⟨y, ys, hy, hhash', hfold'⟩ := h'
  have hxy := U.collisionFree hx.head_mem hy.head_mem (hhash.trans hhash'.symm)
  have hlen : xs.length = ys.length := by
    rw [← (fold_block hfold).2.2, ← (fold_block hfold').2.2, hxy]
  rw [hx.eq_of_hash_eq hy hlen (hhash.trans hhash'.symm), hfold'] at hfold
  exact (Option.some.inj hfold).symm

lemma isFold_genesis {genesis : Header} (hmem : genesis ∈ U.headers) (hzero : genesis.number = 0)
    (h : parlia.genesisSnapshot deps genesis = some s) :
    IsFold parlia U (deps.hashSlow genesis) s :=
  ⟨genesis, [], ⟨hmem, hzero⟩, rfl, by rw [fold, if_pos hzero, h]⟩

lemma applyHeader_mono {ancient ancient' : ℕ → Option Header}
    (h : parlia.applyHeader deps s header ancient = some s')
    (hanc : ∀ k a, k ≤ header.number → ancient k = some a → ancient' k = some a) :
    parlia.applyHeader deps s header ancient' = some s' := by
  unfold applyHeader at h ⊢
  obtain ⟨data, hdata, h⟩ := Option.bind_eq_some_iff.mp h
  refine Option.bind_eq_some_iff.mpr ⟨data, ?_, h⟩
  unfold checkpointData at hdata ⊢
  simp only at hdata ⊢
  split_ifs at hdata ⊢ with hboundary
  · obtain ⟨checkpoint, hcheckpoint, hdata⟩ := Option.bind_eq_some_iff.mp hdata
    have hle : s.minerHistoryCheckLen ≤ header.number := by
      rw [← hboundary.2]
      exact Nat.mod_le _ _
    exact Option.bind_eq_some_iff.mpr ⟨checkpoint, hanc _ _ hle hcheckpoint, hdata⟩
  · exact hdata

/-- **One block further.** A block applied to a fold gives the fold of its own hash, if the
ancestors it reads are the ones on its branch. -/
theorem IsFold.applyHeader {ancient : ℕ → Option Header} (h : IsFold parlia U s.blockHash s)
    (hmem : header ∈ U.headers) (happly : parlia.applyHeader deps s header ancient = some s')
    (hanc : ∀ branch, IsBranch U (header :: branch) → ∀ k a, k < (header :: branch).length →
      ancient k = some a → (header :: branch)[k]? = some a) :
    IsFold parlia U (deps.hashSlow header) s' := by
  obtain ⟨parent, rest, hbranch, hhash, hfold⟩ := h
  obtain ⟨info, turnLength, -, -, happ⟩ := applyHeader_eq_some happly
  have hbranch' : IsBranch U (header :: parent :: rest) := by
    refine ⟨hmem, ?_, hbranch⟩
    rw [happ.parent, hhash]
  have hnum : header.number = rest.length + 1 := by
    rw [happ.number, (fold_block hfold).2.1]
  refine ⟨header, parent :: rest, hbranch', rfl, ?_⟩
  rw [fold, hfold]
  refine applyHeader_mono happly fun k a hk ha => hanc _ hbranch' k a ?_ ha
  rw [List.length_cons, List.length_cons]
  omega

end RethBsc
