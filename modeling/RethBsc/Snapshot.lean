import Mathlib.Data.List.Sort
import RethBsc.OrdMap
import RethBsc.HeaderExtra

/-!
The Parlia snapshot and the step that carries it over one block.

A snapshot is what the consensus rules remember of a chain at a block: the validator set
and its turn length, who proposed the recent blocks, the latest attested vote and the
recent fork hashes. `apply` follows the source paragraph by paragraph; each paragraph is a
definition of its own.
-/

namespace RethBsc

def defaultEpochLength : ℕ := 200
def lorentzEpochLength : ℕ := 500
def maxwellEpochLength : ℕ := 1000
def defaultTurnLength : UInt8 := 1

def defaultBlockInterval : ℕ := 3000
def lorentzBlockInterval : ℕ := 1500
def maxwellBlockInterval : ℕ := 750
def fermiBlockInterval : ℕ := 450

structure ValidatorInfo where
  /-- One-based position in the sorted validator list. -/
  index : ℕ
  voteAddr : VoteAddress
  deriving DecidableEq

structure Snapshot where
  epochNum : ℕ
  blockNumber : ℕ
  blockHash : B256
  validators : List Address
  validatorsMap : OrdMap Address ValidatorInfo
  recentProposers : OrdMap ℕ Address
  voteData : VoteData
  turnLength : Option UInt8
  blockInterval : ℕ
  recentForkHashes : OrdMap ℕ String
  deriving DecidableEq, Inhabited

/-- Why `apply` gives no snapshot. The source answers `None` in the first three cases and
panics on its length assertion in the last. -/
inductive ApplyError
  | nonContinuous | unauthorized | overProposed | lengthMismatch
  deriving DecidableEq

/-! ### Validator sets -/

variable (validators : List Address)

def sortAddrs : List Address := validators.insertionSort (· ≤ ·)

lemma perm_sortAddrs : (sortAddrs validators).Perm validators := List.perm_insertionSort _ _

/-- The assertion that validators and vote addresses come in equal numbers. -/
def lengthsAgree (voteAddrs : Option (List VoteAddress)) : Bool :=
  match voteAddrs with
  | some votes => decide (validators.length = votes.length)
  | none => true

/-- The index of every validator in the sorted list, beside the vote address it was listed
with (zero where the header carries none). -/
def buildValidatorsMap (voteAddrs : Option (List VoteAddress)) : OrdMap Address ValidatorInfo :=
  match voteAddrs with
  | some votes =>
    let listed := (validators.zip votes).foldl (fun m e => m.insert e.1 ⟨0, e.2⟩) OrdMap.empty
    (sortAddrs validators).zipIdx.foldl (fun m e =>
      match m.get e.1 with
      | some info => m.insert e.1 { info with index := e.2 + 1 }
      | none => m) listed
  | none =>
    (sortAddrs validators).zipIdx.foldl (fun m e => m.insert e.1 ⟨e.2 + 1, 0⟩) OrdMap.empty

namespace Snapshot

/-- `none` where the length assertion fails. -/
def new (validators : List Address) (blockNumber : ℕ) (blockHash : B256) (epochNum : ℕ)
    (voteAddrs : Option (List VoteAddress)) : Option Snapshot :=
  if lengthsAgree validators voteAddrs then
    some
      { epochNum := if epochNum = 0 then defaultEpochLength else epochNum
        blockNumber := blockNumber
        blockHash := blockHash
        validators := sortAddrs validators
        validatorsMap := buildValidatorsMap validators voteAddrs
        recentProposers := OrdMap.empty
        voteData := VoteData.default
        turnLength := some defaultTurnLength
        blockInterval := defaultBlockInterval
        recentForkHashes := OrdMap.empty }
  else none

variable (s : Snapshot)

/-- The turn length as a number, one where it is missing. -/
def turn : ℕ := (s.turnLength.map UInt8.toNat).getD 1

/-- Number of blocks to look back when checking proposer history. -/
def minerHistoryCheckLen : ℕ := wrappingSub ((s.validators.length / 2 + 1) * s.turn) 1

def versionHistoryCheckLen : ℕ := s.validators.length * s.turn

/-- Blocks up to this one have left the window of recent proposers. -/
def leftBound : ℕ :=
  if s.blockNumber > s.minerHistoryCheckLen then s.blockNumber - s.minerHistoryCheckLen else 0

/-- One entry of the count: a `u8` that is created at zero and wraps. -/
def countProposer (leftBound : ℕ) (counts : OrdMap Address UInt8) (e : ℕ × Address) :
    OrdMap Address UInt8 :=
  if e.1 ≤ leftBound ∨ e.2 = 0 then counts
  else counts.insert e.2 ((counts.get e.2).getD 0 + 1)

def countRecentProposers : OrdMap Address UInt8 :=
  s.recentProposers.entries.foldl (countProposer s.leftBound) OrdMap.empty

def signRecentlyByCounts (validator : Address) (counts : OrdMap Address UInt8) : Bool :=
  match counts.get validator with
  | some times => decide (s.turn ≤ times.toNat)
  | none => false

def signRecently (validator : Address) : Bool :=
  s.signRecentlyByCounts validator s.countRecentProposers

/-- `none` where the source divides by zero. -/
def inturnValidator : Option Address :=
  if s.turn = 0 then none
  else s.validators[(s.blockNumber + 1) / s.turn % s.validators.length]?

def isInturn (proposer : Address) : Option Bool :=
  s.inturnValidator.map fun v => decide (v = proposer)

def getFinalizedNumber : ℕ := if s.voteData.sourceNumber > 0 then s.voteData.sourceNumber else 0

/-! ### Attestations -/

/-- Whether a vote is the one a snapshot starts with. -/
def hasExistingAttestation (vote : VoteData) : Bool :=
  decide (vote.sourceNumber ≠ 0 ∨ vote.sourceHash ≠ 0 ∨ vote.targetNumber ≠ 0 ∨ vote.targetHash ≠ 0)

/-- The vote a snapshot keeps once a header's attestation has been taken into account. -/
def updateVoteData (spec : ChainSpec) (header : Header) (attestation : Option VoteAttestation)
    (vote : VoteData) : VoteData :=
  match attestation with
  | none => vote
  | some att =>
    if !spec.isFermiActiveAtTimestamp header.number header.timestamp &&
        decide (wrappingSucc att.data.targetNumber ≠ header.number ∨
          att.data.targetHash ≠ header.parentHash) then vote
    else if hasExistingAttestation vote &&
        decide (wrappingSucc att.data.sourceNumber ≠ att.data.targetNumber) then
      { vote with targetNumber := att.data.targetNumber, targetHash := att.data.targetHash }
    else att.data

def updateAttestation (spec : ChainSpec) (header : Header)
    (attestation : Option VoteAttestation) : Snapshot :=
  { s with voteData := updateVoteData spec header attestation s.voteData }

/-! ### One block -/

/-- The recent proposers without the block that leaves the window. -/
def pruneProposers (blockNumber : ℕ) : OrdMap ℕ Address :=
  let limit := wrappingSucc s.minerHistoryCheckLen
  if limit ≤ blockNumber then s.recentProposers.remove (blockNumber - limit)
  else s.recentProposers

/-- The recent fork hashes, without the block that leaves their window and with the one of
the header: the last four vanity bytes. -/
def rollForkHashes (header : Header) : OrdMap ℕ String :=
  let versionLimit := s.versionHistoryCheckLen
  let kept := if versionLimit ≤ header.number
    then s.recentForkHashes.remove (header.number - versionLimit) else s.recentForkHashes
  if extraVanityLen ≤ header.extraData.length then
    kept.insert header.number
      (hexEncode (slice header.extraData (extraVanityLen - 4) extraVanityLen))
  else kept

/-- The snapshot moved onto the block, before anything is checked. -/
def advance (deps : Deps) (header : Header) : Snapshot :=
  { s with
    blockHash := deps.hashSlow header
    blockNumber := header.number
    recentProposers := s.pruneProposers header.number
    recentForkHashes := s.rollForkHashes header }

/-- The proposer test. From Bohr on it is the recent-signer limit; before, no proposer may
appear among the recent ones at all. -/
def overProposed (isBohr : Bool) (validator : Address) : Bool :=
  if isBohr then s.signRecently validator else s.recentProposers.values.contains validator

/-- BEP-524: from Maxwell on, entries up to the latest finalized block are dropped. -/
def clearFinalized (isMaxwell : Bool) (finalized : ℕ) (recents : OrdMap ℕ Address) :
    OrdMap ℕ Address :=
  if isMaxwell then recents.retain fun e => !decide (e.1 ≤ finalized) else recents

def nextBlockInterval (isFermi isMaxwell isLorentz : Bool) : ℕ :=
  if isFermi then fermiBlockInterval
  else if isMaxwell then maxwellBlockInterval
  else if isLorentz then lorentzBlockInterval
  else s.blockInterval

/-- The epoch length from the next block on. It grows only right before a block that starts
an epoch of the new length. -/
def nextEpochNum (isLorentz isMaxwell : Bool) (blockNumber epochNum : ℕ) : ℕ :=
  let e := if epochNum = defaultEpochLength && isLorentz &&
    isMultipleOf (blockNumber + 1) lorentzEpochLength then lorentzEpochLength else epochNum
  if e = lorentzEpochLength && isMaxwell &&
    isMultipleOf (blockNumber + 1) maxwellEpochLength then maxwellEpochLength else e

/-- The key that marks an epoch as switched, far above every block number. -/
def epochKey (blockNumber epochLength : ℕ) : ℕ := u64Max - blockNumber / epochLength

/-- Before Bohr a smaller set forgets the proposers its shorter window no longer covers. -/
def trimProposers (blockNumber oldLen newLen : ℕ) (recents : OrdMap ℕ Address) : OrdMap ℕ Address :=
  let oldLimit := oldLen / 2 + 1
  let newLimit := newLen / 2 + 1
  (List.range (oldLimit - newLimit)).foldl
    (fun m i => m.remove (wrappingSub (wrappingSub blockNumber newLimit) i)) recents

def trimForkHashes (blockNumber oldLen newLen : ℕ) (hashes : OrdMap ℕ String) : OrdMap ℕ String :=
  (List.range' newLen (oldLen - newLen)).foldl (fun m i => m.remove (blockNumber - i)) hashes

/-- Whether a checkpoint's validators are put in force. -/
def installs (isBohr : Bool) (key : ℕ) (newValidators : List Address)
    (recents : OrdMap ℕ Address) : Bool :=
  !newValidators.isEmpty && (!isBohr || !recents.contains key)

/-- Puts the validators of a checkpoint in force. From Bohr on this clears the recent
proposers and leaves the mark of the epoch (BEP-404). -/
def install (original : Snapshot) (isBohr : Bool) (key : ℕ) (newValidators : List Address)
    (voteAddrs : Option (List VoteAddress)) (turnLength : Option UInt8) : Snapshot :=
  let snap := { s with turnLength := turnLength.or s.turnLength }
  { snap with
    recentProposers :=
      if isBohr then OrdMap.empty.insert key 0
      else trimProposers s.blockNumber s.validators.length newValidators.length s.recentProposers
    recentForkHashes := trimForkHashes s.blockNumber original.versionHistoryCheckLen
      snap.versionHistoryCheckLen s.recentForkHashes
    validators := sortAddrs newValidators
    validatorsMap := buildValidatorsMap newValidators voteAddrs }

/-- The snapshot with an accepted block recorded, before a validator set change. -/
def record (spec : ChainSpec) (validator : Address) (header : Header)
    (attestation : Option VoteAttestation) : Snapshot :=
  let isMaxwell := spec.isMaxwellActiveAtTimestamp header.number header.timestamp
  let isLorentz := spec.isLorentzActiveAtTimestamp header.number header.timestamp
  let isFermi := spec.isFermiActiveAtTimestamp header.number header.timestamp
  let snap := s.updateAttestation spec header attestation
  { snap with
    recentProposers := clearFinalized isMaxwell snap.getFinalizedNumber
      (snap.recentProposers.insert header.number validator)
    blockInterval := snap.nextBlockInterval isFermi isMaxwell isLorentz
    epochNum := nextEpochNum isLorentz isMaxwell header.number snap.epochNum }

/-- Apply the next block to the snapshot. -/
def apply (deps : Deps) (spec : ChainSpec) (validator : Address) (header : Header)
    (newValidators : List Address) (voteAddrs : Option (List VoteAddress))
    (attestation : Option VoteAttestation) (turnLength : Option UInt8) :
    Except ApplyError Snapshot :=
  if s.blockNumber + 1 ≠ header.number ∨ s.blockHash ≠ header.parentHash then
    .error .nonContinuous
  else
    let isBohr := spec.isBohrActiveAtTimestamp header.number header.timestamp
    let moved := s.advance deps header
    if !moved.validators.contains validator then .error .unauthorized
    else if moved.overProposed isBohr validator then .error .overProposed
    else
      let snap := moved.record spec validator header attestation
      let key := epochKey header.number s.epochNum
      if installs isBohr key newValidators snap.recentProposers then
        if lengthsAgree newValidators voteAddrs then
          .ok (snap.install s isBohr key newValidators voteAddrs turnLength)
        else .error .lengthMismatch
      else .ok snap

end Snapshot

end RethBsc
