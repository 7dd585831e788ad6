import Mathlib.Order.Interval.Finset.Nat
import RethBsc.Chain

/-!
The window of recent fork hashes.

Every block drops the one key that leaves the window, and a switch those that a shorter turn
leaves outside. The trimming at a switch takes the size of the set it replaces, so a smaller set
keeps the keys of the larger one's window. No later block drops them.
-/

namespace RethBsc.Snapshot

variable {s s' : Snapshot} {deps : Deps} {spec : ChainSpec} {validator : Address}
  {header : Header} {newValidators : List Address} {voteAddrs : Option (List VoteAddress)}
  {attestation : Option VoteAttestation} {turnLength : Option UInt8}

/-- The fork hashes belong to blocks of the window. -/
def ForkHashesWithin (s : Snapshot) : Prop :=
  ∀ k v, s.recentForkHashes.get k = some v →
    k ≤ s.blockNumber ∧ s.blockNumber < k + s.versionHistoryCheckLen

/-- What a block leaves, with the trimming of a switch; without one it trims nothing. -/
lemma recentForkHashes_apply (h : s.apply deps spec validator header newValidators voteAddrs
    attestation turnLength = .ok s') : s'.recentForkHashes = trimForkHashes header.number
      s.versionHistoryCheckLen (s.validators.length * s'.turn) (s.rollForkHashes header) := by
  unfold apply at h
  simp only at h
  split_ifs at h
  · cases h
    rfl
  · cases h
    have hlen : s.versionHistoryCheckLen - s.validators.length * s.turn = 0 := Nat.sub_self _
    change s.rollForkHashes header = trimForkHashes _ _ (s.validators.length * s.turn) _
    rw [trimForkHashes, hlen]
    rfl

lemma get_trimForkHashes {n old new k : ℕ} {v : String} {m : OrdMap ℕ String}
    (h : (trimForkHashes n old new m).get k = some v) :
    m.get k = some v ∧ ∀ i, new ≤ i → i < old → n - i ≠ k := by
  have hfold : ∀ (l : List ℕ) (m : OrdMap ℕ String),
      (l.foldl (fun m i => m.remove (n - i)) m).get k = some v →
        m.get k = some v ∧ ∀ i ∈ l, n - i ≠ k := by
    intro l
    induction l with
    | nil => exact fun m hget => ⟨hget, by simp⟩
    | cons i l ih =>
      intro m hget
      obtain ⟨hrest, hne⟩ := ih _ hget
      obtain ⟨hi, hget⟩ := OrdMap.get_remove_eq_some.mp hrest
      exact ⟨hget, List.forall_mem_cons.mpr ⟨hi, hne⟩⟩
  obtain ⟨hget, hne⟩ := hfold _ _ h
  exact ⟨hget, fun i hnew hold => hne i (List.mem_range'_1.mpr ⟨hnew, by omega⟩)⟩

lemma get_rollForkHashes {k : ℕ} {v : String} (hk : k ≠ header.number)
    (h : (s.rollForkHashes header).get k = some v) : s.recentForkHashes.get k = some v ∧
      ¬(s.versionHistoryCheckLen ≤ header.number ∧
        k = header.number - s.versionHistoryCheckLen) := by
  unfold rollForkHashes at h
  simp only at h
  have hkept : OrdMap.get (if s.versionHistoryCheckLen ≤ header.number
      then s.recentForkHashes.remove (header.number - s.versionHistoryCheckLen)
      else s.recentForkHashes) k = some v := by
    by_cases hlong : extraVanityLen ≤ header.extraData.length
    · rwa [if_pos hlong, OrdMap.get_insert_of_ne _ _ (Ne.symm hk)] at h
    · rwa [if_neg hlong] at h
  split_ifs at hkept with hle
  · obtain ⟨hne, hget⟩ := OrdMap.get_remove_eq_some.mp hkept
    exact ⟨hget, fun hleft => hne hleft.2.symm⟩
  · exact ⟨hkept, fun hleft => hle hleft.1⟩

/-- The snapshots that applies lead to if no switch narrows the window by more than the shorter
turn does. -/
inductive Widening (deps : Deps) (spec : ChainSpec) : Snapshot → Prop
  | new {validators : List Address} {n : ℕ} {hash : B256} {epoch : ℕ}
      {votes : Option (List VoteAddress)} {s : Snapshot}
      (h : Snapshot.new validators n hash epoch votes = some s) : Widening deps spec s
  | apply {s s' : Snapshot} {validator : Address} {header : Header}
      {newValidators : List Address} {voteAddrs : Option (List VoteAddress)}
      {attestation : Option VoteAttestation} {turnLength : Option UInt8}
      (before : Widening deps spec s)
      (h : s.apply deps spec validator header newValidators voteAddrs attestation turnLength =
        .ok s')
      (wide : s.validators.length * min s.turn s'.turn ≤ s'.versionHistoryCheckLen)
      (turn : 0 < s'.turn) : Widening deps spec s'

lemma Widening.turn_pos (h : Widening deps spec s) : 0 < s.turn := by
  cases h with
  | new h => rw [turn, (new_eq_some h).2.2.2.2.1]; decide
  | apply _ _ _ turn => exact turn

lemma ForkHashesWithin.apply (hs : s.ForkHashesWithin)
    (h : s.apply deps spec validator header newValidators voteAddrs attestation turnLength = .ok s')
    (wide : s.validators.length * min s.turn s'.turn ≤ s'.versionHistoryCheckLen)
    (hturn : 0 < min s.turn s'.turn) : s'.ForkHashesWithin := by
  have happ := apply_ok h
  have hnum := happ.number
  have hpos := Nat.mul_pos (List.length_pos_of_mem happ.member) hturn
  rw [← Nat.mul_min_mul_left] at wide hpos
  have hold : s.versionHistoryCheckLen = s.validators.length * s.turn := rfl
  intro k v hget
  rw [recentForkHashes_apply h] at hget
  obtain ⟨hget, htrim⟩ := get_trimForkHashes hget
  rw [happ.blockNumber]
  by_cases hk : k = header.number
  · omega
  obtain ⟨hget, hdropped⟩ := get_rollForkHashes hk hget
  obtain ⟨hle, hlt⟩ := hs k v hget
  -- the distance of the key is below both lengths
  have hkept := htrim (header.number - k)
  omega

/-- **The fork hashes stay in their window** as long as no switch narrows it otherwise. -/
theorem forkHashes_within (h : Widening deps spec s) :
    s.ForkHashesWithin ∧ s.recentForkHashes.entries.length ≤ s.versionHistoryCheckLen := by
  have hwithin : s.ForkHashesWithin := by
    induction h with
    | new h =>
      unfold Snapshot.new at h
      split at h
      · cases h
        exact fun k v hget => by cases hget
      · cases h
    | apply before h wide turn ih => exact ih.apply h wide (lt_min before.turn_pos turn)
  refine ⟨hwithin, ?_⟩
  have hsub : (s.recentForkHashes.entries.map Prod.fst).toFinset ⊆
      Finset.Icc (s.blockNumber + 1 - s.versionHistoryCheckLen) s.blockNumber := by
    intro k hk
    obtain ⟨e, he, rfl⟩ := List.mem_map.mp (List.mem_toFinset.mp hk)
    obtain ⟨hle, hlt⟩ := hwithin e.1 e.2 (OrdMap.mem_entries.mp he)
    rw [Finset.mem_Icc]
    omega
  have hcard := Finset.card_le_card hsub
  rw [List.toFinset_card_of_nodup (OrdMap.nodup_keys _), List.length_map, Nat.card_Icc] at hcard
  omega

/-- Two validators at genesis. -/
def forkStart : Snapshot := (Snapshot.new [1, 2] 0 0 200 none).getD default

/-- The next block, of the given validator, with validators to put in force. -/
def forkNext (s : Snapshot) (validator : ℕ) (newValidators : List Address) :
    Except ApplyError Snapshot :=
  s.apply (sampleDeps true) (sampleSpec .never .never .never) (Fin.ofNat _ validator)
    (sampleHeader (s.blockNumber + 1) 0 validator s.blockHash []) newValidators none none none

/-- Three validators take over from two. -/
theorem forkHashes_within_next : ∃ s s', forkNext forkStart 1 [] = .ok s ∧
    forkNext s 2 [1, 2, 3] = .ok s' ∧ s'.versionHistoryCheckLen = 3 ∧
    s'.recentForkHashes.entries.length = 2 ∧ s'.ForkHashesWithin := by
  let s := (forkNext forkStart 1 []).toOption.getD default
  let s' := (forkNext s 2 [1, 2, 3]).toOption.getD default
  have hs : forkNext forkStart 1 [] = .ok s := by decide +kernel
  have hs' : forkNext s 2 [1, 2, 3] = .ok s' := by decide +kernel
  have hnew : Snapshot.new [1, 2] 0 0 200 none = some forkStart := by decide +kernel
  have hstep := Widening.apply (.new hnew) hs (by decide +kernel) (by decide +kernel)
  exact ⟨s, s', hs, hs', by decide +kernel, by decide +kernel,
    (forkHashes_within (.apply hstep hs' (by decide +kernel) (by decide +kernel))).1⟩

/-- One validator takes over from two, and the hash of the block before stays. -/
theorem forkHash_left_behind : ((forkNext forkStart 1 []).toOption.bind fun s =>
    (forkNext s 2 [1]).toOption).map (fun s =>
      (s.blockNumber, s.versionHistoryCheckLen, s.recentForkHashes.entries.map Prod.fst)) =
        some (2, 1, [1, 2]) := by
  decide +kernel

end RethBsc.Snapshot
