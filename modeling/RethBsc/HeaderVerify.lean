import RethBsc.Chain

/-!
The checks a header passes against its parent's snapshot: the vote attestation it carries
and its seal.

The header reader and the snapshot provider of the node are parameters. `AttestationOk`
collects what an accepted attestation has been checked for, so that nothing later unfolds
the verification.
-/

namespace RethBsc

structure GotExpected (α : Type) where
  got : α
  expected : α
  deriving DecidableEq

inductive BscBlockValidationError
  | tooLargeAttestationExtraLen (extraLen : ℕ)
  | invalidAttestationTarget (blockNumber : GotExpected ℕ) (blockHash : GotExpected B256)
  | invalidAttestationSource (blockNumber : GotExpected ℕ) (blockHash : GotExpected B256)
  | invalidAttestationVoteCount (count : GotExpected ℕ)
  | invalidAttestationSignature
  | wrongHeaderSigner (blockNumber : ℕ) (signer : GotExpected Address)
  | signerUnauthorized (blockNumber : ℕ) (proposer : Address)
  | signerOverLimit (proposer : Address)
  | invalidDifficulty (difficulty : ℕ)
  | parliaConsensusError (error : ParliaConsensusError)
  | unexpectedSystemTx
  | unexpectedNormalTx
  deriving DecidableEq

inductive BlockExecutionError
  | validation (error : BscBlockValidationError)
  | unknownHeader (blockHash : B256)
  | voteAddrNotFoundInSnap (address : Address)
  | failedToSignSystemTransaction (error : String)
  | globalSignerNotInitializedForMiningMode
  | msg (text : String)
  /-- What the database or the EVM reports. -/
  | other
  /-- The source divides by a turn length of zero, or a number does not fit its type. -/
  | panic
  deriving DecidableEq

abbrev ExecResult : Type → Type := Except BlockExecutionError

def maxAttestationExtraLength : ℕ := 256
def kAncestorGenerationDepth : ℕ := 3
def diffInturn : ℕ := 2
def diffNoturn : ℕ := 1

/-- The header cache with its fallback on the node's database. -/
structure HeaderReader where
  byHash : B256 → Option Header
  canonical : ℕ → Option Header

namespace Parlia

variable (parlia : Parlia) (deps : Deps) (reader : HeaderReader)
  (snapshotProvider : Option (B256 → Option Snapshot))

/-! ### Votes -/

def voteBitSetContains (voteAddressSet i : ℕ) : Bool := decide (i < 64) && voteAddressSet.testBit i

def bitSetCount (voteAddressSet : ℕ) : ℕ :=
  ((List.range 64).filter (voteBitSetContains voteAddressSet)).length

def collectVoteAddrs (voteAddressSet : ℕ) (validatorsMap : OrdMap Address ValidatorInfo) :
    List (Address × ℕ) → ExecResult (List VoteAddress)
  | [] => .ok []
  | (v, i) :: rest =>
    if !voteBitSetContains voteAddressSet i then
      collectVoteAddrs voteAddressSet validatorsMap rest
    else match validatorsMap.get v with
      | none => .error (.voteAddrNotFoundInSnap v)
      | some info =>
        (collectVoteAddrs voteAddressSet validatorsMap rest).map (info.voteAddr :: ·)

/-- Two thirds of the validators, rounded up. -/
def atLeastVotes (validatorsCount : ℕ) : ℕ := (validatorsCount * 2 + 2) / 3

/-- The vote addresses an attestation names, if they are enough. -/
def attestingVoteAddrs (preSnap : Snapshot) (voteAddressSet : ℕ) : ExecResult (List VoteAddress) :=
  let validatorsCount := preSnap.validators.length
  if bitSetCount voteAddressSet > validatorsCount then
    .error (.validation
      (.invalidAttestationVoteCount ⟨bitSetCount voteAddressSet, validatorsCount⟩))
  else match collectVoteAddrs voteAddressSet preSnap.validatorsMap preSnap.validators.zipIdx with
    | .error e => .error e
    | .ok voteAddrs =>
      if voteAddrs.length < atLeastVotes validatorsCount then
        .error (.validation
          (.invalidAttestationVoteCount ⟨voteAddrs.length, atLeastVotes validatorsCount⟩))
      else .ok voteAddrs

def checkAggregate (attestation : VoteAttestation) (voteAddrs : List VoteAddress) :
    ExecResult Unit :=
  match voteAddrs.mapM deps.publicKeyFromBytes,
    deps.signatureFromBytes attestation.aggSignature with
  | some pubkeys, some sig =>
    if deps.fastAggregateVerify sig (deps.voteDataHash attestation.data) pubkeys then .ok ()
    else .error (.validation .invalidAttestationSignature)
  | _, _ => .error (.validation .invalidAttestationSignature)

/-! ### Source and target -/

/-- Looks for the target among the first `depth` ancestors, the parent first. -/
def findTarget (data : VoteData) : ℕ → Header → ExecResult Header
  | 0, ancestor => .error (.validation (.invalidAttestationTarget
      ⟨data.targetNumber, ancestor.number⟩ ⟨data.targetHash, deps.hashSlow ancestor⟩))
  | depth + 1, ancestor =>
    if ancestor.number = data.targetNumber ∧ deps.hashSlow ancestor = data.targetHash then
      .ok ancestor
    else match reader.byHash ancestor.parentHash with
      | none => .error (.unknownHeader ancestor.parentHash)
      | some ancestor => findTarget data depth ancestor

/-- The highest justified header; genesis while the snapshot has no attestation. -/
def getJustifiedHeader (snap : Snapshot) : ExecResult Header :=
  if snap.voteData.sourceHash = 0 ∧ snap.voteData.targetHash = 0 then
    match reader.canonical 0 with
    | some genesis => .ok genesis
    | none => .error (.unknownHeader 0)
  else match reader.byHash snap.voteData.targetHash with
    | some header => .ok header
    | none => .error (.unknownHeader snap.voteData.targetHash)

def preSnapshot (ancestor : Header) : ExecResult Snapshot :=
  match snapshotProvider with
  | none => .error (.msg "Snapshot provider is not available")
  | some snapshotByHash =>
    match snapshotByHash ancestor.parentHash with
    | some snap => .ok snap
    | none => .error (.msg "Failed to get pre snapshot from snapshot provider")

def attestationDepth (header : Header) : ℕ :=
  if parlia.spec.isFermiActiveAtTimestamp header.number header.timestamp
  then kAncestorGenerationDepth else 1

def verifyVoteAttestation (snap : Snapshot) (header parent : Header) : ExecResult Unit :=
  if !parlia.spec.isPlatoActiveAtBlock header.number then .ok ()
  else match parlia.getVoteAttestationFromHeader header snap.epochNum deps with
  | .error e => .error (.validation (.parliaConsensusError e))
  | .ok none => .ok ()
  | .ok (some attestation) =>
    if attestation.extra.length > maxAttestationExtraLength then
      .error (.validation (.tooLargeAttestationExtraLen maxAttestationExtraLength))
    else do
      let ancestor ← findTarget deps reader attestation.data (parlia.attestationDepth header) parent
      let justified ← getJustifiedHeader reader snap
      if attestation.data.sourceNumber ≠ justified.number ∨
          attestation.data.sourceHash ≠ deps.hashSlow justified then
        .error (.validation (.invalidAttestationSource
          ⟨attestation.data.sourceNumber, justified.number⟩
          ⟨attestation.data.sourceHash, deps.hashSlow justified⟩))
      else do
        let preSnap ← preSnapshot snapshotProvider ancestor
        let voteAddrs ← attestingVoteAddrs preSnap attestation.voteAddressSet
        checkAggregate deps attestation voteAddrs

/-! ### Seals -/

def verifySeal (snap : Snapshot) (header : Header) : ExecResult Unit :=
  match parlia.recoverProposer header deps with
  | .error e => .error (.validation (.parliaConsensusError e))
  | .ok proposer =>
    if proposer ≠ header.beneficiary then
      .error (.validation (.wrongHeaderSigner header.number ⟨proposer, header.beneficiary⟩))
    else if !snap.validators.contains proposer then
      .error (.validation (.signerUnauthorized header.number proposer))
    else if snap.signRecently proposer then
      .error (.validation (.signerOverLimit proposer))
    else match snap.isInturn proposer with
      | none => .error .panic
      | some inturn =>
        if (inturn && decide (header.difficulty ≠ diffInturn)) ||
            (!inturn && decide (header.difficulty ≠ diffNoturn)) then
          .error (.validation (.invalidDifficulty header.difficulty))
        else .ok ()

end Parlia

/-! ### What an accepted header has been checked for -/

namespace Parlia

variable {parlia : Parlia} {deps : Deps} {reader : HeaderReader}
  {snapshotProvider : Option (B256 → Option Snapshot)}

structure AttestationOk (parlia : Parlia) (deps : Deps) (reader : HeaderReader)
    (snapshotProvider : Option (B256 → Option Snapshot)) (snap : Snapshot)
    (header parent : Header) (attestation : VoteAttestation) : Prop where
  target : ∃ ancestor, findTarget deps reader attestation.data (parlia.attestationDepth header)
    parent = .ok ancestor ∧ ∃ preSnap, preSnapshot snapshotProvider ancestor = .ok preSnap ∧
      ∃ voteAddrs, attestingVoteAddrs preSnap attestation.voteAddressSet = .ok voteAddrs ∧
        ∃ pubkeys sig, voteAddrs.mapM deps.publicKeyFromBytes = some pubkeys ∧
          deps.fastAggregateVerify sig (deps.voteDataHash attestation.data) pubkeys = true
  source : ∃ justified, getJustifiedHeader reader snap = .ok justified ∧
    attestation.data.sourceNumber = justified.number ∧
    attestation.data.sourceHash = deps.hashSlow justified

variable {attestation : VoteAttestation} {snap : Snapshot} {header : Header}

lemma checkAggregate_eq_ok {voteAddrs : List VoteAddress}
    (h : checkAggregate deps attestation voteAddrs = .ok ()) :
    ∃ pubkeys sig, voteAddrs.mapM deps.publicKeyFromBytes = some pubkeys ∧
      deps.fastAggregateVerify sig (deps.voteDataHash attestation.data) pubkeys := by
  unfold checkAggregate at h
  split at h
  · next pubkeys sig hkeys hsig =>
    split_ifs at h with hv
    exact ⟨pubkeys, sig, hkeys, hv⟩
  · cases h

/-- **Inversion of `verify_vote_attestation`** from Plato on. -/
theorem verifyVoteAttestation_ok {parent : Header}
    (hplato : parlia.spec.isPlatoActiveAtBlock header.number)
    (hatt : parlia.getVoteAttestationFromHeader header snap.epochNum deps = .ok (some attestation))
    (h : parlia.verifyVoteAttestation deps reader snapshotProvider snap header parent = .ok ()) :
    AttestationOk parlia deps reader snapshotProvider snap header parent attestation := by
  unfold verifyVoteAttestation at h
  simp only [hplato, hatt, Bool.not_true, Bool.false_eq_true, if_false] at h
  split_ifs at h with hlen
  obtain ⟨ancestor, hanc, h⟩ := bind_eq_ok h
  obtain ⟨justified, hjust, h⟩ := bind_eq_ok h
  split_ifs at h with hsrc
  obtain ⟨preSnap, hpre, h⟩ := bind_eq_ok h
  obtain ⟨voteAddrs, hvotes, h⟩ := bind_eq_ok h
  have hkeys := checkAggregate_eq_ok h
  rw [not_or, not_not, not_not] at hsrc
  exact ⟨⟨ancestor, hanc, preSnap, hpre, voteAddrs, hvotes, hkeys⟩, justified, hjust, hsrc⟩

theorem verifySeal_ok (h : parlia.verifySeal deps snap header = .ok ()) :
    header.beneficiary ∈ snap.validators ∧ snap.signRecently header.beneficiary = false := by
  unfold verifySeal at h
  split at h
  · cases h
  next proposer hrec =>
  split_ifs at h with hne hmem hrecent
  rw [not_not] at hne
  subst hne
  exact ⟨by simpa using hmem, by simpa using hrecent⟩

end Parlia

end RethBsc
