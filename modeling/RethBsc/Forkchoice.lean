import RethBsc.Finality

/-!
The safe and finalized blocks a node reports to its execution engine with a new head.

The finalized block is the source of the head's snapshot, unless votes for the head itself
are already in the pool: when the head's parent is justified and a quorum voted from it to
the head, the parent is reported early. The pool is a parameter of every report, since votes
come and go between heads.
-/

namespace RethBsc

structure ForkchoiceState where
  headBlockHash : B256
  safeBlockHash : B256
  finalizedBlockHash : B256
  deriving DecidableEq

namespace Parlia

variable (parlia : Parlia) (deps : Deps) (snapshotProvider : Option (B256 → Option Snapshot))
  (fetchVoteByBlockHash : B256 → List VoteEnvelope) (canonical : ℕ → Option Header)

def eligibleVotes (justifiedNumber : ℕ) (header : Header) : ℕ :=
  (fetchVoteByBlockHash (deps.hashSlow header)).countP fun vote =>
    decide (vote.data.sourceNumber = justifiedNumber) &&
      decide (vote.data.targetNumber = header.number)

/-- Whether pooled votes finalize the head's parent before a block carries them. The quorum
is the one of the parent's snapshot. -/
def finalizedEarly (snapshotByHash : B256 → Option Snapshot) (snap : Snapshot) (header : Header) :
    Bool :=
  decide (0 < header.number) && decide (header.number - 1 = snap.voteData.targetNumber) &&
    match snapshotByHash header.parentHash with
    | none => false
    | some parentSnap => !parentSnap.validators.isEmpty &&
        decide (atLeastVotes parentSnap.validators.length ≤
          eligibleVotes deps fetchVoteByBlockHash snap.voteData.targetNumber header)

variable (header : Header)

def getFinalizedNumberAndHash : Option (ℕ × B256) :=
  if !parlia.spec.isPlatoActiveAtBlock header.number then none
  else do
    let snapshotByHash ← snapshotProvider
    let snap ← snapshotByHash (deps.hashSlow header)
    if finalizedEarly deps fetchVoteByBlockHash snapshotByHash snap header then
      some (snap.voteData.targetNumber, snap.voteData.targetHash)
    else some (snap.voteData.sourceNumber, snap.voteData.sourceHash)

lemma finalizedEarly_nil (snapshotByHash : B256 → Option Snapshot) (snap : Snapshot)
    (header : Header) : finalizedEarly deps (fun _ => []) snapshotByHash snap header = false := by
  unfold finalizedEarly eligibleVotes
  rw [Bool.and_eq_false_iff]
  right
  split
  · rfl
  · next parentSnap _ =>
    cases hv : parentSnap.validators with
    | nil => rfl
    | cons v vs =>
      have hquorum : 0 < atLeastVotes (vs.length + 1) := by unfold atLeastVotes; omega
      simp [hquorum.ne']

/-- The block a vote must cite as its source; genesis while nothing is justified. -/
def justifiedPairOf (vote : VoteData) (genesis : Option (ℕ × B256)) : Option (ℕ × B256) :=
  if vote.targetHash = 0 then genesis else some (vote.targetNumber, vote.targetHash)

def getJustifiedNumberAndHash : Option (ℕ × B256) :=
  if !parlia.spec.isLubanActiveAtBlock header.number then none
  else do
    let snapshotByHash ← snapshotProvider
    let snap ← snapshotByHash (deps.hashSlow header)
    justifiedPairOf snap.voteData ((canonical 0).map fun g => (g.number, deps.hashSlow g))

/-- The finalized block `update_forkchoice` reports for a head; zero where none is found. -/
def finalizedReport : ℕ × B256 :=
  (parlia.getFinalizedNumberAndHash deps snapshotProvider fetchVoteByBlockHash header).getD (0, 0)

/-- What `update_forkchoice` sends to the engine once it has settled on a head. -/
def forkchoiceState (head : Header) : ForkchoiceState where
  headBlockHash := deps.hashSlow head
  safeBlockHash :=
    ((parlia.getJustifiedNumberAndHash deps snapshotProvider canonical head).getD (0, 0)).2
  finalizedBlockHash := (parlia.finalizedReport deps snapshotProvider fetchVoteByBlockHash head).2

/-- The report is an early one: the head has a snapshot, and pooled votes finalize its parent. -/
def ReportsEarly : Prop :=
  parlia.spec.isPlatoActiveAtBlock header.number ∧ ∃ snapshotByHash ∈ snapshotProvider,
    ∃ snap ∈ snapshotByHash (deps.hashSlow header),
      finalizedEarly deps fetchVoteByBlockHash snapshotByHash snap header

/-- No finalized block is found: Plato is not active, or there is no snapshot of the head. -/
def ReportsNone : Prop :=
  parlia.spec.isPlatoActiveAtBlock header.number → ∀ snapshotByHash ∈ snapshotProvider,
    snapshotByHash (deps.hashSlow header) = none

end Parlia

namespace Chain

variable {parlia : Parlia} {deps : Deps} {reader : HeaderReader}
  {verifyProvider : Option (B256 → Option Snapshot)} {U : HeaderUniverse deps}
  {c : Chain parlia deps} {snapshotProvider : Option (B256 → Option Snapshot)}
  {votes : B256 → List VoteEnvelope}

/-- Snapshots the provider has are those of the chain; it may lack some, or be missing itself. -/
def Provides (c : Chain parlia deps) (snapshotProvider : Option (B256 → Option Snapshot)) : Prop :=
  ∀ snapshotByHash ∈ snapshotProvider, ∀ i ≤ c.len,
    ∀ s ∈ snapshotByHash (deps.hashSlow (c.header i)), s = c.snap i

lemma targetNumber_of_finalizedEarly {snapshotByHash : B256 → Option Snapshot} {i : ℕ}
    (hi : i ≤ c.len)
    (h : Parlia.finalizedEarly deps votes snapshotByHash (c.snap i) (c.header i)) :
    (c.snap i).voteData.targetNumber + 1 = i := by
  simp only [Parlia.finalizedEarly, Bool.and_eq_true, decide_eq_true_eq, c.header_number hi] at h
  omega

variable (votes) in
/-- What is reported for a head of the chain: nothing, its parent, or the source of its
snapshot. -/
lemma finalizedReport_cases (hp : c.Provides snapshotProvider) {i : ℕ} (hi : i ≤ c.len) :
    let n := (parlia.finalizedReport deps snapshotProvider votes (c.header i)).1
    let missing := parlia.ReportsNone deps snapshotProvider (c.header i)
    let early := parlia.ReportsEarly deps snapshotProvider votes (c.header i)
    missing ∧ ¬early ∧ n = 0 ∨ ¬missing ∧ early ∧ n + 1 = i ∧ n = (c.snap i).voteData.targetNumber ∨
      ¬missing ∧ ¬early ∧ n = (c.snap i).voteData.sourceNumber := by
  unfold Parlia.ReportsNone Parlia.ReportsEarly Parlia.finalizedReport
    Parlia.getFinalizedNumberAndHash
  by_cases hplato : parlia.spec.isPlatoActiveAtBlock (c.header i).number
  · cases snapshotProvider with
    | none => simp [hplato]
    | some snapshotByHash =>
      cases hs : snapshotByHash (deps.hashSlow (c.header i)) with
      | none => simp [hplato, hs]
      | some snap =>
        obtain rfl := hp _ rfl i hi snap hs
        by_cases he : Parlia.finalizedEarly deps votes snapshotByHash (c.snap i) (c.header i)
        · have ht := targetNumber_of_finalizedEarly hi he
          simp [hplato, hs, he, ht]
        · simp [hplato, hs, he]
  · simp [hplato]

/-- **When the reported finalized block falls back.** Of two heads on one chain, the later one is
reported with a finalized number that is no lower exactly if it has a snapshot to report from (or
nothing was finalized before), and an early report for the earlier head is repeated or caught up
with. Sources of snapshots alone never fall. -/
theorem finalized_le_iff (hw : c.Within U reader) (hv : c.Verified reader verifyProvider)
    (hplato : c.PlatoFromFirstAttestation)
    {snapshotProvider₁ snapshotProvider₂ : Option (B256 → Option Snapshot)}
    (hp₁ : c.Provides snapshotProvider₁) (hp₂ : c.Provides snapshotProvider₂)
    (votes₁ votes₂ : B256 → List VoteEnvelope) {i j : ℕ} (hij : i ≤ j) (hj : j ≤ c.len) :
    (parlia.finalizedReport deps snapshotProvider₁ votes₁ (c.header i)).1 ≤
        (parlia.finalizedReport deps snapshotProvider₂ votes₂ (c.header j)).1 ↔
      (parlia.ReportsNone deps snapshotProvider₂ (c.header j) →
        (parlia.finalizedReport deps snapshotProvider₁ votes₁ (c.header i)).1 = 0) ∧
      (parlia.ReportsEarly deps snapshotProvider₁ votes₁ (c.header i) →
        ¬parlia.ReportsNone deps snapshotProvider₂ (c.header j) →
        parlia.ReportsEarly deps snapshotProvider₂ votes₂ (c.header j) ∨
          i ≤ (c.snap j).voteData.sourceNumber + 1) := by
  have hmono := sourceNumber_mono hw hv hplato hij hj
  have hle := (voteBelow hw hv hplato hj).le
  rcases finalizedReport_cases votes₂ hp₂ hj with
    ⟨hnone, -, h₂⟩ | ⟨hsome, hearly, hj', h₂⟩ | ⟨hsome, hlate, h₂⟩
  · -- nothing is found for the later head, and zero is reported
    rw [h₂, Nat.le_zero]
    exact ⟨fun h => ⟨fun _ => h, fun _ hsome => absurd hnone hsome⟩, fun h => h.1 hnone⟩
  · -- the later report is an early one, of the block before its head
    refine ⟨fun _ => ⟨fun hnone => absurd hnone hsome, fun _ _ => .inl hearly⟩, fun _ => ?_⟩
    rcases finalizedReport_cases votes₁ hp₁ (hij.trans hj) with
      ⟨-, -, h₁⟩ | ⟨-, -, hi, -⟩ | ⟨-, -, h₁⟩ <;> omega
  · rcases finalizedReport_cases votes₁ hp₁ (hij.trans hj) with
      ⟨-, hlate₁, h₁⟩ | ⟨-, hearly₁, hi, -⟩ | ⟨-, hlate₁, h₁⟩
    · exact ⟨fun _ => ⟨fun hnone => absurd hnone hsome, fun he => absurd he hlate₁⟩,
        fun _ => by omega⟩
    · refine ⟨fun hle' => ⟨fun hnone => absurd hnone hsome, fun _ _ => .inr (by omega)⟩,
        fun h => ?_⟩
      have hcaught := (h.2 hearly₁ hsome).resolve_left hlate
      omega
    · -- a source was reported, and the later source is no lower
      exact ⟨fun _ => ⟨fun hnone => absurd hnone hsome, fun he => absurd he hlate₁⟩,
        fun _ => by omega⟩

end Chain

/-! ### A report that falls back -/

/-- The vote of the single validator from block 2 to block 3, and no other. -/
def soloPool (hash : B256) : List VoteEnvelope :=
  if hash = (sampleDeps true).hashSlow ((soloChain 0).header 3) then
    [⟨0, 0, ⟨2, (sampleDeps true).hashSlow ((soloChain 0).header 2), 3, hash⟩⟩]
  else []

def soloSnapshots : B256 → Option Snapshot := soloProvider true (.block 0) (soloChain 0).header 5

lemma soloChain_provides : (soloChain 0).Provides (some soloSnapshots) := by
  have h : ∀ i ≤ (soloChain 0).len,
      soloSnapshots ((sampleDeps true).hashSlow ((soloChain 0).header i)) =
        some ((soloChain 0).snap i) := by decide +kernel
  rintro _ ⟨⟩ i hi s hs
  rw [h i hi, Option.mem_some_iff] at hs
  exact hs.symm

/-- Block 2 votes from a block 9 that there is not; blocks 4 and 5 vote from block 1 to
block 3 and from block 3 to block 4. -/
def unreadVotes : ℕ → Bytes
  | 2 => [9, 0, 1, 9]
  | 4 => [1, 9, 3, 25]
  | 5 => [3, 25, 4, 33]
  | _ => []

/-- Five blocks, with Plato active from block 3 on. -/
def unreadChain : Chain (soloParlia (.block 3)) (sampleDeps true) :=
  Chain.ofFold _ _ (soloHeaders 0 unreadVotes) 5 (by decide) (by decide +kernel)

def unreadSnapshots : B256 → Option Snapshot := soloProvider true (.block 3) unreadChain.header 6

/-- **The report falls back**, for three reasons. Block 3 of the first chain justifies its parent
and is voted for, so block 2 is reported as finalized; block 4 is built without an
attestation, and with the very same pool the report returns to block 1. In the second chain
nobody has verified the attestation of block 2, which comes before Plato: its source is
reported for block 3, and given up with the first verified vote that finalizes a block. Where the
snapshot of the head is missing, nothing is reported as finalized at all. -/
theorem finalized_falls_back : ((soloChain 0).Verified (soloReader true soloBranches)
        (some (soloProvider true (.block 0) (soloHeaders 0 (soloVotes 0)) 4)) ∧
      (soloChain 0).Provides (some soloSnapshots) ∧
      (soloParlia (.block 0)).getFinalizedNumberAndHash (sampleDeps true) (some soloSnapshots)
        soloPool ((soloChain 0).header 3) =
          some (2, (sampleDeps true).hashSlow ((soloChain 0).header 2)) ∧
      (soloParlia (.block 0)).getFinalizedNumberAndHash (sampleDeps true) (some soloSnapshots)
        soloPool ((soloChain 0).header 4) =
          some (1, (sampleDeps true).hashSlow ((soloChain 0).header 1)) ∧
      ((soloParlia (.block 0)).forkchoiceState (sampleDeps true) (some soloSnapshots) soloPool
        (soloReader true soloBranches).canonical ((soloChain 0).header 4)).finalizedBlockHash =
          (sampleDeps true).hashSlow ((soloChain 0).header 1)) ∧
    (unreadChain.Verified (soloReader true (branch (soloHeaders 0 unreadVotes) 5))
        (some unreadSnapshots) ∧
      (∀ i ≤ unreadChain.len, unreadSnapshots ((sampleDeps true).hashSlow (unreadChain.header i)) =
        some (unreadChain.snap i)) ∧
      (soloParlia (.block 3)).getFinalizedNumberAndHash (sampleDeps true) (some unreadSnapshots)
        (fun _ => []) (unreadChain.header 3) = some (9, 0) ∧
      (soloParlia (.block 3)).getFinalizedNumberAndHash (sampleDeps true) (some unreadSnapshots)
        (fun _ => []) (unreadChain.header 5) =
          some (3, (sampleDeps true).hashSlow (unreadChain.header 3))) ∧
    (soloParlia (.block 0)).finalizedReport (sampleDeps true) (some fun _ => none) soloPool
      ((soloChain 0).header 4) = (0, 0) := by
  have hverified : unreadChain.Verified (soloReader true (branch (soloHeaders 0 unreadVotes) 5))
      (some unreadSnapshots) := by
    unfold Chain.Verified
    decide +kernel
  refine ⟨⟨soloChain_verified 0, soloChain_provides, ?_, ?_, ?_⟩, ⟨hverified, ?_, ?_, ?_⟩, ?_⟩ <;>
    decide +kernel

/-- The two reports of that chain, judged by the criterion. -/
theorem finalized_le_iff_solo :
    ((soloParlia (.block 0)).finalizedReport (sampleDeps true) (some soloSnapshots) soloPool
        ((soloChain 0).header 3)).1 = 2 ∧
    (2 ≤ ((soloParlia (.block 0)).finalizedReport (sampleDeps true) (some soloSnapshots) soloPool
        ((soloChain 0).header 4)).1 ↔
      ((soloParlia (.block 0)).ReportsNone (sampleDeps true) (some soloSnapshots)
        ((soloChain 0).header 4) → 2 = 0) ∧
      ((soloParlia (.block 0)).ReportsEarly (sampleDeps true) (some soloSnapshots) soloPool
          ((soloChain 0).header 3) →
        ¬(soloParlia (.block 0)).ReportsNone (sampleDeps true) (some soloSnapshots)
          ((soloChain 0).header 4) →
        (soloParlia (.block 0)).ReportsEarly (sampleDeps true) (some soloSnapshots) soloPool
            ((soloChain 0).header 4) ∨
          3 ≤ ((soloChain 0).snap 4).voteData.sourceNumber + 1)) := by
  have hlen : 4 ≤ (soloChain 0).len := by decide
  have hfirst : ((soloParlia (.block 0)).finalizedReport (sampleDeps true) (some soloSnapshots)
      soloPool ((soloChain 0).header 3)).1 = 2 := by decide +kernel
  have h := Chain.finalized_le_iff (soloChain_within 0) (soloChain_verified 0) (soloChain_plato 0)
    soloChain_provides soloChain_provides soloPool soloPool (show 3 ≤ 4 by omega) hlen
  rw [hfirst] at h
  exact ⟨hfirst, h⟩

end RethBsc
