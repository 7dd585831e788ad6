import RethBsc.HeaderRoundTrip

/-!
The turn length of an epoch block, as producer and importer see it.

The importer asks the validator contract in the parent's state. The producer asks
`TURN_LENGTH_CACHE` and falls back on the parent's snapshot, which still has the turn length
of the previous epoch. The cache is filled by the blocks this process executed, by those it
sealed, and by the producer itself.
-/

namespace RethBsc

inductive TurnLengthError
  | callFailed
  /-- "Failed to decode system contract output" -/
  | decodeFailed
  /-- The answer does not fit a byte. -/
  | overflow
  deriving DecidableEq

/-- The turn length call of the validator contract: `eth_call` in a state, and what its output
decodes to. -/
structure TurnLengthContract (State : Type) where
  ethCall : State → Option Bytes
  unpackDataIntoTurnLength : Bytes → Option ℕ

def TurnLengthCache.new : TurnLengthCache := ⟨1024, []⟩

namespace Parlia

variable {State : Type} (parlia : Parlia) (contract : TurnLengthContract State)

def getTurnLength (state : State) (headerNumber headerTimestamp : ℕ) :
    Except TurnLengthError UInt8 :=
  if parlia.spec.isBohrActiveAtTimestamp headerNumber headerTimestamp then
    match contract.ethCall state with
    | none => .error .callFailed
    | some bz =>
      match contract.unpackDataIntoTurnLength bz with
      | none => .error .decodeFailed
      | some n => if n < 256 then .ok (UInt8.ofNat n) else .error .overflow
  else .ok defaultTurnLength

/-- What `check_new_block` expects of the header, read from the parent's state. -/
def expectedTurnLength (snap : Snapshot) (parentState : State) (header parentHeader : Header) :
    Except TurnLengthError (Option UInt8) :=
  if isMultipleOf header.number snap.epochNum &&
      parlia.spec.isBohrActiveAtTimestamp header.number header.timestamp then
    (parlia.getTurnLength contract parentState parentHeader.number parentHeader.timestamp).map some
  else .ok none

/-- The turn length that is remembered for a block, before an epoch block from Bohr on.
`post_check_new_block` has the snapshot after the block, `finalize_new_block` its parent's. -/
def pendingTurnLength (snap : Snapshot) (state : State) (number timestamp : ℕ) :
    Except TurnLengthError (Option UInt8) :=
  if isMultipleOf (number + 1) snap.epochNum &&
      parlia.spec.isBohrActiveAtTimestamp number timestamp then
    (parlia.getTurnLength contract state number timestamp).map some
  else .ok none

/-- `post_check_new_block` and `finalize_payload` insert under the hash of the block. -/
def rememberTurnLength (deps : Deps) (cache : TurnLengthCache) (header : Header) :
    Option UInt8 → TurnLengthCache
  | some turnLength => cache.insert (deps.hashSlow header) turnLength
  | none => cache

variable {parlia contract} {deps : Deps} {cache : TurnLengthCache} {parentSnap : Snapshot}
  {header parent : Header}

lemma prepareTurnLength_epoch (cache : TurnLengthCache)
    (hepoch : isMultipleOf header.number parentSnap.epochNum)
    (hbohr : parlia.spec.isBohrActiveAtTimestamp header.number header.timestamp) :
    parlia.prepareTurnLength cache parentSnap header =
      (header.append [chosenTurnLength cache parentSnap header.parentHash],
        (cache.get header.parentHash).2.insert header.parentHash
          (chosenTurnLength cache parentSnap header.parentHash)) := by
  simp [prepareTurnLength, chosenTurnLength, hepoch, hbohr]

lemma prepareTurnLength_skip (cache : TurnLengthCache)
    (h : ¬(isMultipleOf header.number parentSnap.epochNum ∧
      parlia.spec.isBohrActiveAtTimestamp header.number header.timestamp)) :
    parlia.prepareTurnLength cache parentSnap header = (header, cache) := by
  rw [prepareTurnLength, if_pos]
  rw [Bool.or_eq_true, Bool.not_eq_true', Bool.not_eq_true', ← Bool.not_eq_true, ← Bool.not_eq_true]
  exact Decidable.not_and_iff_or_not.mp h

variable {expected : UInt8}

lemma expectedTurnLength_eq_some {state : State}
    (h : parlia.expectedTurnLength contract parentSnap state header parent = .ok (some expected)) :
    isMultipleOf header.number parentSnap.epochNum ∧
      parlia.spec.isBohrActiveAtTimestamp header.number header.timestamp ∧
      parlia.getTurnLength contract state parent.number parent.timestamp = .ok expected := by
  rw [expectedTurnLength] at h
  split at h
  · next hif =>
    rw [Bool.and_eq_true] at hif
    refine ⟨hif.1, hif.2, ?_⟩
    obtain ⟨t, hget, ⟨⟩⟩ := map_eq_ok h
    exact hget
  · cases h

lemma pendingTurnLength_eq_some {snap : Snapshot} {state : State} {number timestamp : ℕ}
    {turnLength : UInt8}
    (h : parlia.pendingTurnLength contract snap state number timestamp = .ok (some turnLength)) :
    parlia.getTurnLength contract state number timestamp = .ok turnLength := by
  rw [pendingTurnLength] at h
  split at h
  · obtain ⟨t, hget, ⟨⟩⟩ := map_eq_ok h
    exact hget
  · cases h

/-! ### The cache over a process's life -/

/-- The producer's fallback, used where the cache has no entry for the parent, is what the
contract says in the parent's state. -/
def FallbackCurrent (parlia : Parlia) (contract : TurnLengthContract State) (deps : Deps)
    (postState : Header → State) (cache : TurnLengthCache) (parentSnap : Snapshot)
    (parent : Header) : Prop :=
  (cache.get (deps.hashSlow parent)).1 = none → ∀ turnLength,
    parlia.getTurnLength contract (postState parent) parent.number parent.timestamp =
        .ok turnLength →
      parentSnap.turnLength.getD defaultTurnLength = turnLength

/-- The caches a process can have, if its calls of `prepare_turn_length` for Bohr epoch blocks
satisfy `Guard`. The state after a block is a function of its header, which has the state root. -/
inductive CacheReached (parlia : Parlia) (contract : TurnLengthContract State) (deps : Deps)
    (postState : Header → State) (U : HeaderUniverse deps)
    (Guard : TurnLengthCache → Snapshot → Header → Prop) : TurnLengthCache → Prop
  | start : CacheReached parlia contract deps postState U Guard TurnLengthCache.new
  /-- A block was imported, or built and sealed. -/
  | executed {cache : TurnLengthCache} {snap : Snapshot} {header : Header}
      {turnLength : Option UInt8} :
      CacheReached parlia contract deps postState U Guard cache → header ∈ U.headers →
      parlia.pendingTurnLength contract snap (postState header) header.number header.timestamp =
        .ok turnLength →
      CacheReached parlia contract deps postState U Guard
        (rememberTurnLength deps cache header turnLength)
  | prepared {cache : TurnLengthCache} {parentSnap : Snapshot} {parent header : Header} :
      CacheReached parlia contract deps postState U Guard cache → parent ∈ U.headers →
      header.parentHash = deps.hashSlow parent →
      (isMultipleOf header.number parentSnap.epochNum = true →
        parlia.spec.isBohrActiveAtTimestamp header.number header.timestamp = true →
        Guard cache parentSnap parent) →
      CacheReached parlia contract deps postState U Guard
        (parlia.prepareTurnLength cache parentSnap header).2

section Run

variable {postState : Header → State} {U : HeaderUniverse deps}

def EntrySound (parlia : Parlia) (contract : TurnLengthContract State)
    (postState : Header → State) (U : HeaderUniverse deps) (hash : B256) (turnLength : UInt8) :
    Prop :=
  ∀ block ∈ U.headers, deps.hashSlow block = hash → ∀ answer,
    parlia.getTurnLength contract (postState block) block.number block.timestamp = .ok answer →
      turnLength = answer

section

variable (hcache : cache.All (EntrySound parlia contract postState U))
include hcache

lemma chosenTurnLength_eq_iff (hparent : parent ∈ U.headers) {answer : UInt8}
    (hanswer : parlia.getTurnLength contract (postState parent) parent.number parent.timestamp =
      .ok answer) :
    chosenTurnLength cache parentSnap (deps.hashSlow parent) = answer ↔
      FallbackCurrent parlia contract deps postState cache parentSnap parent := by
  unfold chosenTurnLength FallbackCurrent
  cases hget : (cache.get (deps.hashSlow parent)).1 with
  | some turnLength =>
    have hentry : turnLength = answer := hcache.of_get hget parent hparent rfl answer hanswer
    simp [hentry]
  | none =>
    rw [Option.none_or]
    constructor
    · rintro hchosen - turnLength hturn
      rw [hanswer] at hturn
      cases hturn
      exact hchosen
    · intro hfallback
      exact hfallback rfl answer hanswer

lemma all_rememberTurnLength {snap : Snapshot} {turnLength : Option UInt8}
    (hmem : header ∈ U.headers)
    (hpending : parlia.pendingTurnLength contract snap (postState header) header.number
      header.timestamp = .ok turnLength) :
    (rememberTurnLength deps cache header turnLength).All
      (EntrySound parlia contract postState U) := by
  cases turnLength with
  | none => exact hcache
  | some turnLength =>
    refine hcache.insert ?_
    intro block hblock hhash answer hanswer
    obtain rfl := U.collisionFree hblock hmem hhash
    rw [pendingTurnLength_eq_some hpending] at hanswer
    exact Except.ok.inj hanswer

lemma all_prepareTurnLength (hparent : parent ∈ U.headers)
    (hhash : header.parentHash = deps.hashSlow parent)
    (hfallback : isMultipleOf header.number parentSnap.epochNum →
      parlia.spec.isBohrActiveAtTimestamp header.number header.timestamp →
      FallbackCurrent parlia contract deps postState cache parentSnap parent) :
    (parlia.prepareTurnLength cache parentSnap header).2.All
      (EntrySound parlia contract postState U) := by
  by_cases hboth : isMultipleOf header.number parentSnap.epochNum = true ∧
      parlia.spec.isBohrActiveAtTimestamp header.number header.timestamp = true
  · rw [prepareTurnLength_epoch cache hboth.1 hboth.2, hhash]
    refine (hcache.get _).insert ?_
    intro block hblock hhash' answer hanswer
    obtain rfl := U.collisionFree hblock hparent hhash'
    exact (chosenTurnLength_eq_iff hcache hblock hanswer).mpr (hfallback hboth.1 hboth.2)
  · rw [prepareTurnLength_skip cache hboth]
    exact hcache

end

lemma CacheReached.all (h : CacheReached parlia contract deps postState U
      (FallbackCurrent parlia contract deps postState) cache) :
    cache.All (EntrySound parlia contract postState U) := by
  induction h with
  | start =>
    intro e he
    cases he
  | executed _ hmem hpending ih => exact all_rememberTurnLength ih hmem hpending
  | prepared _ hparent hhash hfallback ih => exact all_prepareTurnLength ih hparent hhash hfallback

/-- **The appended turn length.** In a process whose fallback was current whenever it was used,
`prepare_turn_length` appends the turn length the importer expects exactly if the fallback is
current or not used. -/
theorem prepareTurnLength_expected_iff {expected : UInt8}
    (hcache : CacheReached parlia contract deps postState U
      (FallbackCurrent parlia contract deps postState) cache)
    (hparent : parent ∈ U.headers) (hhash : header.parentHash = deps.hashSlow parent)
    (hexpected : parlia.expectedTurnLength contract parentSnap (postState parent) header parent =
      .ok (some expected)) :
    (parlia.prepareTurnLength cache parentSnap header).1.extraData =
        header.extraData ++ [expected] ↔
      FallbackCurrent parlia contract deps postState cache parentSnap parent := by
  obtain ⟨hepoch, hbohr, hanswer⟩ := expectedTurnLength_eq_some hexpected
  rw [prepareTurnLength_epoch cache hepoch hbohr, hhash,
    ← chosenTurnLength_eq_iff hcache.all hparent hanswer]
  simp [Header.append]

end Run

end Parlia

/-! ### A restart before an epoch block -/

def turnContract : TurnLengthContract UInt8 where
  ethCall stored := some [stored]
  unpackDataIntoTurnLength bz := bz.head?.map UInt8.toNat

def turnParent : Header := sampleHeader 199 0 1 0 []

def turnHeader : Header := sampleHeader 200 0 1 1593 []

def turnUniverse : HeaderUniverse (sampleDeps true) where
  headers := {turnParent}
  collisionFree := Set.injOn_singleton _ _

/-- After a restart the cache is empty. The contract has moved from 3 to 4, and the producer
writes the 3 of its snapshot. -/
theorem restart_appends_stale :
    Parlia.CacheReached (buildParlia (.block 0)) turnContract (sampleDeps true) (fun _ => 4)
        turnUniverse (fun _ _ _ => True) TurnLengthCache.new ∧
      (buildParlia (.block 0)).expectedTurnLength turnContract buildSnap 4 turnHeader turnParent =
        .ok (some 4) ∧
      ((buildParlia (.block 0)).prepareTurnLength TurnLengthCache.new buildSnap
        turnHeader).1.extraData = turnHeader.extraData ++ [3] :=
  ⟨.start, by decide +kernel, by decide +kernel⟩

/-- Without the restart the parent's execution left the 4 in the cache. -/
theorem prepareTurnLength_expected_four : ((buildParlia (.block 0)).prepareTurnLength
        (Parlia.rememberTurnLength (sampleDeps true) TurnLengthCache.new turnParent (some 4))
        buildSnap turnHeader).1.extraData = turnHeader.extraData ++ [4] := by
  have hpending : (buildParlia (.block 0)).pendingTurnLength turnContract buildSnap 4
      turnParent.number turnParent.timestamp = .ok (some 4) := by decide +kernel
  have hhit : ((Parlia.rememberTurnLength (sampleDeps true) TurnLengthCache.new turnParent
      (some 4)).get ((sampleDeps true).hashSlow turnParent)).1 = some 4 := by decide +kernel
  have hcache : Parlia.CacheReached (buildParlia (.block 0)) turnContract (sampleDeps true)
      (fun _ => 4) turnUniverse (Parlia.FallbackCurrent (buildParlia (.block 0)) turnContract
        (sampleDeps true) fun _ => 4) (Parlia.rememberTurnLength (sampleDeps true)
          TurnLengthCache.new turnParent (some 4)) :=
    .executed .start (Set.mem_singleton turnParent) hpending
  refine (Parlia.prepareTurnLength_expected_iff hcache (Set.mem_singleton turnParent)
    (by decide +kernel) (by decide +kernel)).mpr ?_
  intro hmiss
  rw [hhit] at hmiss
  cases hmiss

end RethBsc
