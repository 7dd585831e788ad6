import Mathlib.Data.Set.Function
import RethBsc.SnapshotStep

/-!
Chains of headers and the snapshots folded along them.

`applyHeader` is one round of the loop that rebuilds snapshots: it reads the checkpoint
`minerHistoryCheckLen` blocks back where an epoch switches, the attestation of the header
itself, and applies the block. `fold` runs it from the genesis header over a branch, and a
`Chain` is a branch for which it succeeds, with the snapshot of every height.
-/

namespace RethBsc

namespace Parlia

variable (parlia : Parlia) (deps : Deps)

/-- The snapshot `init_genesis_snapshot` starts from. -/
def genesisSnapshot (genesis : Header) : Option Snapshot := do
  let info ← (parlia.parseValidatorsFromHeader genesis parlia.epoch).toOption
  Snapshot.new info.consensusAddrs 0 (deps.hashSlow genesis) parlia.epoch info.voteAddrs

/-- The validators and turn length a block puts in force; none unless the block sits
`minerHistoryCheckLen` into its epoch. `ancient k` is the `k`-th ancestor of the header. -/
def checkpointData (s : Snapshot) (header : Header) (ancient : ℕ → Option Header) :
    Option (ValidatorsInfo × Option UInt8) :=
  let checkLen := s.minerHistoryCheckLen
  if 0 < header.number ∧ header.number % s.epochNum = checkLen then do
    let checkpoint ← ancient checkLen
    let turnLength ← (parlia.getTurnLengthFromHeader checkpoint s.epochNum).toOption
    let info ← (parlia.parseValidatorsFromHeader checkpoint s.epochNum).toOption
    some (info, turnLength)
  else some (⟨[], none⟩, none)

/-- One round of the loop of `try_rebuild`. -/
def applyHeader (s : Snapshot) (header : Header) (ancient : ℕ → Option Header) :
    Option Snapshot := do
  let data ← parlia.checkpointData s header ancient
  let attestation ← (parlia.getVoteAttestationFromHeader header s.epochNum deps).toOption
  (s.apply deps parlia.spec header.beneficiary header data.1.consensusAddrs data.1.voteAddrs
    attestation data.2).toOption

/-- The snapshot of a branch, whose headers are listed from the newest back to genesis. -/
def fold : List Header → Option Snapshot
  | [] => none
  | [genesis] => if genesis.number = 0 then parlia.genesisSnapshot deps genesis else none
  | header :: parent :: rest => do
    let s ← fold (parent :: rest)
    parlia.applyHeader deps s header fun k => (header :: parent :: rest)[k]?

def attestationOn (s : Snapshot) (header : Header) : Option VoteAttestation :=
  (parlia.getVoteAttestationFromHeader header s.epochNum deps).toOption.getD none

variable {parlia deps}

theorem applyHeader_eq_some {s s' : Snapshot} {header : Header} {ancient : ℕ → Option Header}
    (h : parlia.applyHeader deps s header ancient = some s') :
    ∃ info turnLength, parlia.checkpointData s header ancient = some (info, turnLength) ∧
      parlia.getVoteAttestationFromHeader header s.epochNum deps =
        .ok (parlia.attestationOn deps s header) ∧
      Snapshot.Applied s s' deps parlia.spec header.beneficiary header info.consensusAddrs
        info.voteAddrs (parlia.attestationOn deps s header) turnLength := by
  unfold applyHeader at h
  obtain ⟨⟨info, turnLength⟩, hdata, h⟩ := Option.bind_eq_some_iff.mp h
  obtain ⟨att, hatt, h⟩ := Option.bind_eq_some_iff.mp h
  have hok : parlia.getVoteAttestationFromHeader header s.epochNum deps = .ok att :=
    toOption_eq_some hatt
  have hon : parlia.attestationOn deps s header = att := by
    rw [attestationOn, hatt, Option.getD_some]
  have happ := Snapshot.apply_ok (toOption_eq_some h)
  exact ⟨info, turnLength, hdata, hon ▸ hok, hon ▸ happ⟩

lemma genesisSnapshot_eq_some {genesis : Header} {s : Snapshot}
    (h : parlia.genesisSnapshot deps genesis = some s) :
    ∃ info, parlia.parseValidatorsFromHeader genesis parlia.epoch = .ok info ∧
      Snapshot.new info.consensusAddrs 0 (deps.hashSlow genesis) parlia.epoch info.voteAddrs =
        some s := by
  unfold genesisSnapshot at h
  obtain ⟨info, hinfo, h⟩ := Option.bind_eq_some_iff.mp h
  exact ⟨info, toOption_eq_some hinfo, h⟩

end Parlia

/-! ### Chains -/

/-- The `k`-th ancestor of the block at height `i`. -/
def ancestorOf (header : ℕ → Header) (i k : ℕ) : Option Header :=
  if k ≤ i then some (header (i - k)) else none

/-- A chain of applied blocks: the headers and the snapshots up to height `len`. Block
numbers are `u64`. -/
structure Chain (parlia : Parlia) (deps : Deps) where
  len : ℕ
  fits : len ≤ u64Max
  header : ℕ → Header
  snap : ℕ → Snapshot
  genesisNumber : (header 0).number = 0
  genesis : parlia.genesisSnapshot deps (header 0) = some (snap 0)
  step : ∀ i < len, parlia.applyHeader deps (snap i) (header (i + 1))
    (ancestorOf header (i + 1)) = some (snap (i + 1))

namespace Chain

variable {parlia : Parlia} {deps : Deps} (c : Chain parlia deps)

/-- The attestation of the block at height `i + 1`. -/
def attestation (i : ℕ) : Option VoteAttestation :=
  parlia.attestationOn deps (c.snap i) (c.header (i + 1))

variable {i : ℕ}

lemma applied (hi : i < c.len) : ∃ info turnLength,
    parlia.checkpointData (c.snap i) (c.header (i + 1)) (ancestorOf c.header (i + 1)) =
      some (info, turnLength) ∧
    Snapshot.Applied (c.snap i) (c.snap (i + 1)) deps parlia.spec (c.header (i + 1)).beneficiary
      (c.header (i + 1)) info.consensusAddrs info.voteAddrs (c.attestation i) turnLength := by
  obtain ⟨info, turnLength, hdata, -, happ⟩ := Parlia.applyHeader_eq_some (c.step i hi)
  exact ⟨info, turnLength, hdata, happ⟩

lemma snap_zero : (c.snap 0).blockNumber = 0 ∧ (c.snap 0).blockHash = deps.hashSlow (c.header 0) ∧
    (c.snap 0).recentProposers = OrdMap.empty ∧ (c.snap 0).voteData = VoteData.default ∧
    (c.snap 0).turnLength = some defaultTurnLength ∧
    (c.snap 0).epochNum = (if parlia.epoch = 0 then defaultEpochLength else parlia.epoch) := by
  obtain ⟨info, -, hnew⟩ := Parlia.genesisSnapshot_eq_some c.genesis
  obtain ⟨h1, h2, h3, h4, h5, h6, -⟩ := Snapshot.new_eq_some hnew
  exact ⟨h1, h2, h3, h4, h5, h6⟩

lemma block (hi : i ≤ c.len) :
    (c.snap i).blockNumber = i ∧ (c.snap i).blockHash = deps.hashSlow (c.header i) := by
  induction i with
  | zero => exact ⟨c.snap_zero.1, c.snap_zero.2.1⟩
  | succ i ih =>
    obtain ⟨info, turnLength, -, happ⟩ := c.applied hi
    rw [happ.blockNumber, happ.number, (ih (by omega)).1]
    exact ⟨rfl, happ.blockHash⟩

lemma blockNumber (hi : i ≤ c.len) : (c.snap i).blockNumber = i := (c.block hi).1

lemma header_number (hi : i ≤ c.len) : (c.header i).number = i := by
  cases i with
  | zero => exact c.genesisNumber
  | succ i =>
    obtain ⟨info, turnLength, -, happ⟩ := c.applied hi
    rw [happ.number, c.blockNumber (by omega)]

lemma header_parentHash (hi : i < c.len) :
    (c.header (i + 1)).parentHash = deps.hashSlow (c.header i) := by
  obtain ⟨info, turnLength, -, happ⟩ := c.applied hi
  rw [happ.parent, (c.block (by omega)).2]

lemma voteData_succ (hi : i < c.len) : (c.snap (i + 1)).voteData =
    Snapshot.updateVoteData parlia.spec (c.header (i + 1)) (c.attestation i)
      (c.snap i).voteData := by
  obtain ⟨info, turnLength, -, happ⟩ := c.applied hi
  exact happ.voteData

end Chain

/-! ### Chains and folds -/

structure HeaderUniverse (deps : Deps) where
  headers : Set Header
  collisionFree : Set.InjOn deps.hashSlow headers

/-- The headers from height `i` back to genesis. -/
def branch (header : ℕ → Header) : ℕ → List Header
  | 0 => [header 0]
  | i + 1 => header (i + 1) :: branch header i

lemma branch_getElem? (header : ℕ → Header) (i k : ℕ) :
    (branch header i)[k]? = ancestorOf header i k := by
  induction i generalizing k with
  | zero => cases k <;> simp [branch, ancestorOf]
  | succ i ih =>
    cases k with
    | zero => simp [branch, ancestorOf]
    | succ k =>
      rw [branch, List.getElem?_cons_succ, ih]
      simp [ancestorOf]

lemma fold_branch_succ (parlia : Parlia) (deps : Deps) (header : ℕ → Header) (i : ℕ) :
    parlia.fold deps (branch header (i + 1)) = (parlia.fold deps (branch header i)).bind fun s =>
      parlia.applyHeader deps s (header (i + 1)) (ancestorOf header (i + 1)) := by
  have hb : ∃ parent rest, branch header i = parent :: rest := by
    cases i <;> exact ⟨_, _, rfl⟩
  obtain ⟨parent, rest, hb⟩ := hb
  have hanc : (fun k => (header (i + 1) :: branch header i)[k]?) = ancestorOf header (i + 1) := by
    funext k
    rw [← branch_getElem?, branch]
  rw [branch, hb, Parlia.fold, ← hb, hanc]
  rfl

namespace Chain

variable {parlia : Parlia} {deps : Deps}

/-- **The snapshots of a chain are the folds of its branches.** -/
theorem fold_branch (c : Chain parlia deps) {i : ℕ} (hi : i ≤ c.len) :
    parlia.fold deps (branch c.header i) = some (c.snap i) := by
  induction i with
  | zero => simp [branch, Parlia.fold, c.genesisNumber, c.genesis]
  | succ i ih => rw [fold_branch_succ, ih (by omega), Option.bind_some, c.step i hi]

lemma isSome_fold_of_le {header : ℕ → Header} {i j : ℕ} (hij : i ≤ j)
    (h : (parlia.fold deps (branch header j)).isSome) :
    (parlia.fold deps (branch header i)).isSome := by
  induction j, hij using Nat.le_induction with
  | base => exact h
  | succ j hij ih =>
    refine ih ?_
    rw [fold_branch_succ] at h
    cases hf : parlia.fold deps (branch header j) with
    | none => rw [hf] at h; exact h
    | some s => rfl

def ofFold (parlia : Parlia) (deps : Deps) (header : ℕ → Header) (len : ℕ) (fits : len ≤ u64Max)
    (h : (parlia.fold deps (branch header len)).isSome) : Chain parlia deps where
  len := len
  fits := fits
  header := header
  snap i := (parlia.fold deps (branch header i)).getD default
  genesisNumber := by
    have h0 := isSome_fold_of_le (Nat.zero_le len) h
    by_contra hne
    simp [branch, Parlia.fold, hne] at h0
  genesis := by
    have h0 := isSome_fold_of_le (Nat.zero_le len) h
    simp only [branch, Parlia.fold] at h0 ⊢
    split_ifs at h0 ⊢ with hz
    · obtain ⟨s, hs⟩ := Option.isSome_iff_exists.mp h0
      rw [hs]; rfl
    · simp at h0
  step i hi := by
    obtain ⟨s, hs⟩ := Option.isSome_iff_exists.mp (isSome_fold_of_le (show i ≤ len by omega) h)
    obtain ⟨s', hs'⟩ := Option.isSome_iff_exists.mp (isSome_fold_of_le (show i + 1 ≤ len from hi) h)
    have hstep := hs'
    rw [fold_branch_succ, hs, Option.bind_some] at hstep
    rw [hs, hs', Option.getD_some, Option.getD_some, hstep]

end Chain

/-! ### Sample headers -/

/-- Attestations whose vote is spelled out in four bytes, signed by the first validator. -/
def sampleAttestation : Bytes → Option VoteAttestation
  | [s, sh, t, th] => some ⟨1, 0, ⟨s.toNat, BitVec.ofNat 256 sh.toNat, t.toNat,
      BitVec.ofNat 256 th.toNat⟩, []⟩
  | _ => none

/-- Hashes that tell heights and branches apart, and seals whose last byte is their signer;
if `signs`, every vote whose source lies below its target is signed by everyone. -/
def sampleDeps (signs : Bool) : Deps where
  hashSlow h := BitVec.ofNat 256 (8 * h.number + h.gasUsed + 1)
  voteDataHash d := if d.sourceNumber < d.targetNumber then 1 else 0
  hashWithChainId _ _ := 0
  decodeAttestation := sampleAttestation
  PublicKey := VoteAddress
  Signature := VoteSignature
  publicKeyFromBytes := some
  signatureFromBytes := some
  fastAggregateVerify _ hash _ := signs && decide (hash = 1)
  recoverEcdsa _ _ signer := some (Fin.ofNat _ signer.toNat)

/-- Luban from genesis on, three later forks as given, and no others. -/
def sampleSpec (plato bohr lorentz : ForkCondition) : ChainSpec where
  chainId := 56
  bscForkActivation
    | .luban => .block 0
    | .plato => plato
    | .bohr => bohr
    | .lorentz => lorentz
    | _ => .never
  london := .block 0
  prague := .never

/-- A header with the given bytes between vanity and seal; `mark` tells branches apart. -/
def sampleHeader (number mark proposer : ℕ) (parentHash : B256) (extra : Bytes) : Header where
  parentHash := parentHash
  ommersHash := 0
  beneficiary := Fin.ofNat _ proposer
  stateRoot := 0
  transactionsRoot := 0
  receiptsRoot := 0
  logsBloom := 0
  difficulty := 1
  number := number
  gasLimit := 0
  gasUsed := mark
  timestamp := 3 * number
  extraData := List.replicate extraVanityLen 0 ++ extra ++
    (List.replicate 64 0 ++ [UInt8.ofNat proposer])
  mixHash := 0
  nonce := 0
  baseFeePerGas := none
  withdrawalsRoot := none
  blobGasUsed := none
  excessBlobGas := none
  parentBeaconBlockRoot := none
  requestsHash := none
  blockAccessListHash := none
  slotNumber := none

end RethBsc
