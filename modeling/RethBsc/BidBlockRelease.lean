import RethBsc.BidBlockSeal

/-!
The sidecars of a builder's block, from its submission to the peers.

Four functions look at a sidecar: the check on arrival, the check of its proofs before the block
is announced, the last change of the header, after which the hash of the block is written into
every sidecar, and the check a peer makes of what it receives. Each looks at other fields.
-/

namespace RethBsc

open List BidDeps

/-- Proofs of blobs, and the hashes of the blobs a transaction names. -/
structure KzgDeps where
  /-- `BlobTransactionSidecar::validate`, of blobs, commitments, proofs and versioned hashes. -/
  validate : List Bytes → List Bytes → List Bytes → List B256 → Bool
  blobVersionedHashes : Transaction → List B256

namespace KzgDeps

variable (kzg : KzgDeps)

def isValid (sidecar : BscBlobTransactionSidecar) (tx : TransactionSigned) : Bool :=
  kzg.validate sidecar.blobs sidecar.commitments sidecar.proofs
    (kzg.blobVersionedHashes tx.transaction)

end KzgDeps

/-! ### The proofs -/

inductive BlobKzgError
  | missingSidecar (txIndex : ℕ)
  | invalid (txIndex : ℕ)
  deriving DecidableEq

/-- The loop over the user transactions, with the index of the next one and of the next
sidecar. -/
def checkBlobKzg (kzg : KzgDeps) (sidecars : List BscBlobTransactionSidecar) :
    List TransactionSigned → ℕ → ℕ → Except BlobKzgError Unit
  | [], _, _ => .ok ()
  | tx :: txs, txIndex, sidecarIndex =>
    if tx.transaction.txType ≠ .eip4844 then
      checkBlobKzg kzg sidecars txs (txIndex + 1) sidecarIndex
    else
      match sidecars[sidecarIndex]? with
      | none => .error (.missingSidecar txIndex)
      | some sidecar =>
        if !kzg.isValid sidecar tx then .error (.invalid txIndex)
        else checkBlobKzg kzg sidecars txs (txIndex + 1) (sidecarIndex + 1)

def validateBidBlockBlobKzg (kzg : KzgDeps) (txs : List TransactionSigned)
    (sidecars : List BscBlobTransactionSidecar) (systemTxStart : ℕ) : Except BlobKzgError Unit :=
  checkBlobKzg kzg sidecars (txs.take (min systemTxStart txs.length)) 0 0

/-! ### The release -/

/-- The block with the votes that have come in since, and the hash it has then. Failures to
collect votes or to seal leave the header as it was, but the hash is written all the same. -/
def SealDeps.refreshAndResealBidBlock (deps : SealDeps) (sealing : Sealing) (parentSnap : Snapshot)
    (block : BscBlock) : BscBlock :=
  let header := deps.parlia.refreshVoteAttestationAndSeal deps.toVoteDeps sealing.sealHeader
    sealing.collect parentSnap block.header
  { block with
    header := header
    sidecars := block.sidecars.map fun sidecars =>
      sidecars.map fun sidecar => { sidecar with blockHash := deps.hashSlow header } }

/-! ### The peers -/

/-- The block that peers decode: the version of a sidecar is not encoded. -/
def BscBlock.decoded (block : BscBlock) : BscBlock :=
  { block with
    sidecars := block.sidecars.map fun sidecars =>
      sidecars.map fun sidecar => { sidecar with version := 0 } }

def blobAvailabilityWindow : ℕ := 1572480

def blobTxs (index : ℕ) : List TransactionSigned → List (ℕ × TransactionSigned)
  | [] => []
  | tx :: txs =>
    if tx.transaction.txType = .eip4844 then (index, tx) :: blobTxs (index + 1) txs
    else blobTxs (index + 1) txs

def blobsOf (sidecars : List BscBlobTransactionSidecar) : ℕ :=
  (sidecars.map fun sidecar => sidecar.blobs.length).sum

inductive DataAvailabilityError
  | sidecarsBeforeCancun
  | countMismatch (expected got : ℕ)
  | tooManyBlobs (found permitted : ℕ)
  | unsupportedVersion (txIndex : ℕ)
  | blockMetadataMismatch (txIndex : ℕ)
  | transactionMetadataMismatch (txIndex : ℕ)
  | invalidSidecar (txIndex : ℕ)
  deriving DecidableEq

namespace SealDeps

variable (deps : SealDeps) (kzg : KzgDeps)

def checkSidecar (header : Header) (txIndex : ℕ) (tx : TransactionSigned)
    (sidecar : BscBlobTransactionSidecar) : Except DataAvailabilityError Unit :=
  if sidecar.version ≠ 0 then .error (.unsupportedVersion txIndex)
  else if ¬(sidecar.blockNumber = header.number ∧ sidecar.blockHash = deps.hashSlow header) then
    .error (.blockMetadataMismatch txIndex)
  else if ¬(sidecar.txIndex = txIndex ∧ sidecar.txHash = deps.txHash tx) then
    .error (.transactionMetadataMismatch txIndex)
  else if !kzg.isValid sidecar tx then .error (.invalidSidecar txIndex)
  else .ok ()

def checkPairs (header : Header) : List (ℕ × TransactionSigned) →
    List BscBlobTransactionSidecar → Except DataAvailabilityError Unit
  | (txIndex, tx) :: txs, sidecar :: sidecars => do
    deps.checkSidecar kzg header txIndex tx sidecar
    checkPairs header txs sidecars
  | _, _ => .ok ()

/-- The block as it is kept; an old block is kept without its sidecars. -/
def validateAt (block : BscBlock) (now : ℕ) : Except DataAvailabilityError BscBlock :=
  let header := block.header
  let sidecars := block.sidecars.getD []
  let cancun := (deps.parlia.spec.bscForkActivation .cancun).activeAtTimestamp header.timestamp
  if !cancun then
    if sidecars.isEmpty then .ok block else .error .sidecarsBeforeCancun
  else if blobAvailabilityWindow < now - header.timestamp then .ok { block with sidecars := none }
  else
    let txs := blobTxs 0 block.transactions
    let blobCount := blobsOf sidecars
    let maxBlobs := if cancun then cancunMaxBlobCount else 0
    if sidecars.length ≠ txs.length then .error (.countMismatch txs.length sidecars.length)
    else if maxBlobs < blobCount then .error (.tooManyBlobs blobCount maxBlobs)
    else if sidecars.isEmpty then .ok block
    else (deps.checkPairs kzg header txs sidecars).map fun _ => block

end SealDeps

/-! ### What each check says -/

section

variable {deps : SealDeps} {kzg : KzgDeps} {header : Header} {txs : List TransactionSigned}
  {sidecars : List BscBlobTransactionSidecar}

/-- What the check on arrival makes sure of. -/
def Matches (txHash : TransactionSigned → B256) (tx : ℕ × TransactionSigned)
    (sidecar : BscBlobTransactionSidecar) : Prop :=
  sidecar.txHash = txHash tx.2 ∧ sidecar.txIndex = tx.1

variable {k index : ℕ}

lemma drop_eq_cons_of_getElem? {α : Type} {l : List α} {a : α} (h : l[k]? = some a) :
    l.drop k = a :: l.drop (k + 1) := by
  obtain ⟨hk, rfl⟩ := List.getElem?_eq_some_iff.mp h
  exact drop_eq_getElem_cons hk

lemma BidDeps.checkSidecars_eq_ok {deps : BidDeps} {maxBlobCount count used : ℕ}
    (h : deps.checkSidecars header sidecars maxBlobCount txs index k count = .ok used)
    (hcount : count ≤ maxBlobCount) :
    ∃ front, sidecars.drop k = front ++ sidecars.drop used ∧ used = k + front.length ∧
      List.Forall₂ (Matches deps.txHash) (blobTxs index txs) front ∧
      count + blobsOf front ≤ maxBlobCount := by
  induction txs generalizing index k count with
  | nil =>
    cases h
    exact ⟨[], rfl, rfl, .nil, hcount⟩
  | cons tx txs ih =>
    rw [checkSidecars] at h
    by_cases htype : tx.transaction.txType = .eip4844
    · simp only [htype, ne_eq, not_true_eq_false, if_false] at h
      split_ifs at h
      split at h
      · cases h
      · next sidecar hsidecar =>
        split_ifs at h with _ hhash hindex hmax
        obtain ⟨front, hdrop, hused, hmatch, hle⟩ := ih h (not_lt.mp hmax)
        refine ⟨sidecar :: front, ?_, ?_, ?_, ?_⟩
        · rw [drop_eq_cons_of_getElem? hsidecar, hdrop, cons_append]
        · rw [hused, length_cons]
          omega
        · rw [blobTxs, if_pos htype]
          exact .cons ⟨hhash, hindex⟩ hmatch
        · simp only [blobsOf, map_cons, sum_cons] at hle ⊢
          omega
    · rw [if_pos htype] at h
      rw [blobTxs, if_neg htype]
      exact ih h hcount

lemma BidDeps.validateBidBlockBlobSidecars_eq_ok {deps : BidDeps} {start : ℕ}
    (h : deps.validateBidBlockBlobSidecars header txs sidecars start = .ok ()) :
    List.Forall₂ (Matches deps.txHash) (blobTxs 0 (txs.take start)) sidecars ∧
      blobsOf sidecars ≤ if (deps.spec.bscForkActivation .cancun).activeAtTimestamp
        header.timestamp then cancunMaxBlobCount else 0 := by
  obtain ⟨used, hused, h⟩ := bind_eq_ok h
  obtain ⟨front, hdrop, hlen, hmatch, hle⟩ := checkSidecars_eq_ok hused (Nat.zero_le _)
  split_ifs at h with hall
  have hfront : sidecars = front := by
    rw [not_not.mp hall, drop_length, append_nil, drop_zero] at hdrop
    exact hdrop
  subst hfront
  exact ⟨hmatch, by simpa using hle⟩

lemma checkBlobKzg_eq_ok {front rest : List BscBlobTransactionSidecar}
    {R : ℕ × TransactionSigned → BscBlobTransactionSidecar → Prop}
    (h : checkBlobKzg kzg sidecars txs index k = .ok ()) (hdrop : sidecars.drop k = front ++ rest)
    (hpairs : List.Forall₂ R (blobTxs index txs) front) :
    List.Forall₂ (fun tx sidecar => R tx sidecar ∧ kzg.isValid sidecar tx.2 = true)
      (blobTxs index txs) front := by
  induction txs generalizing index k front with
  | nil =>
    cases hpairs
    exact .nil
  | cons tx txs ih =>
    rw [checkBlobKzg] at h
    by_cases htype : tx.transaction.txType = .eip4844
    · simp only [htype, ne_eq, not_true_eq_false, if_false] at h
      rw [blobTxs, if_pos htype] at hpairs ⊢
      cases hpairs with
      | @cons _ sidecar _ front hR hpairs =>
        have hsidecar : sidecars[k]? = some sidecar := by
          have hhead := congrArg (fun l => l[0]?) hdrop
          simpa using hhead
        rw [hsidecar] at h
        simp only at h
        split_ifs at h with hvalid
        have hrest : sidecars.drop (k + 1) = front ++ rest := by
          rw [drop_eq_cons_of_getElem? hsidecar, cons_append] at hdrop
          exact (List.cons.inj hdrop).2
        exact .cons ⟨hR, by simpa using hvalid⟩ (ih h hrest hpairs)
    · rw [if_pos htype] at h
      rw [blobTxs, if_neg htype] at hpairs ⊢
      exact ih h hdrop hpairs

lemma SealDeps.checkPairs_eq_ok_iff {pairs : List (ℕ × TransactionSigned)}
    (hlen : pairs.length = sidecars.length) : deps.checkPairs kzg header pairs sidecars = .ok () ↔
      List.Forall₂ (fun tx sidecar => deps.checkSidecar kzg header tx.1 tx.2 sidecar = .ok ())
        pairs sidecars := by
  induction pairs generalizing sidecars with
  | nil =>
    obtain rfl := length_eq_zero_iff.mp hlen.symm
    exact iff_of_true rfl .nil
  | cons tx pairs ih =>
    obtain ⟨sidecar, rest, rfl⟩ := exists_cons_of_length_eq_add_one hlen.symm
    rw [checkPairs, forall₂_cons, ← ih (Nat.succ.inj hlen)]
    cases deps.checkSidecar kzg header tx.1 tx.2 sidecar with
    | error e => exact iff_of_false (fun h => by cases h) fun h => by cases h.1
    | ok _ => exact (and_iff_right rfl).symm

lemma blobTxs_append (index : ℕ) (front back : List TransactionSigned) :
    blobTxs index (front ++ back) = blobTxs index front ++ blobTxs (index + front.length) back := by
  induction front generalizing index with
  | nil => rfl
  | cons tx front ih =>
    rw [cons_append, blobTxs, blobTxs, ih, length_cons,
      show index + 1 + front.length = index + (front.length + 1) by omega]
    split_ifs <;> rfl

lemma blobTxs_eq_nil_iff :
    blobTxs index txs = [] ↔ ∀ tx ∈ txs, tx.transaction.txType ≠ .eip4844 := by
  induction txs generalizing index with
  | nil => exact iff_of_true rfl (forall_mem_nil _)
  | cons tx txs ih =>
    rw [blobTxs, forall_mem_cons, ← @ih (index + 1)]
    by_cases htype : tx.transaction.txType = .eip4844
    · simp [htype]
    · simp [htype]

end

/-! ### What a released block carries -/

lemma Parlia.refreshVoteAttestationAndSeal_sameButExtra {ε : Type} (parlia : Parlia)
    (deps : VoteDeps) (sealHeader : SealHeader)
    (collect : Collector ε) (parentSnap : Snapshot)
    (header : Header) : header.SameButExtra
      (parlia.refreshVoteAttestationAndSeal deps sealHeader collect parentSnap header) := by
  unfold refreshVoteAttestationAndSeal
  simp only
  generalize (if isMultipleOf header.number parentSnap.epochNum = true then _ else extraVanityLen)
    = attestationStart
  split_ifs
  · exact .refl _
  · exact .refl _
  · exact .refl _
  · split
    · exact .refl _
    · next assembled hassembled =>
      split
      · exact .refl _
      · next resealed hsealed =>
        have hbase : header.SameButExtra
            { header with extraData := header.extraData.take attestationStart } := rfl
        exact (hbase.trans (parlia.assembleVoteAttestation_sameButExtra hassembled)).trans
          (parlia.sealExtra_sameButExtra hsealed)

namespace SealDeps

variable {deps : SealDeps} {kzg : KzgDeps} {decoded : DecodedBidBlock} {parent : Header}
  {snap : Snapshot} {sealing : Sealing} {validator : Address} {gasLimit blockTimestampMs : ℕ}
  {vanity : Bytes} {epochValidators : Option EpochValidators} {task : BidBlockTask}

section

variable (h : deps.simulateBidBlock sealing decoded parent snap validator gasLimit vanity
    blockTimestampMs epochValidators = .ok task)
include h

lemma simulateBidBlock_position : task.block.header.number = decoded.header.number ∧
      task.block.header.timestamp = decoded.header.timestamp := by
  obtain ⟨-, -, hfinal, -⟩ := simulateBidBlock_eq_ok h
  obtain ⟨difficulty, -, hbuilt⟩ := finalize_eq_ok hfinal
  rw [mevTaggedHeader_eq] at hbuilt
  rw [hbuilt]
  exact ⟨rfl, rfl⟩

lemma transactions_simulateBidBlock :
    task.block.transactions.take task.systemTxStart = decoded.txs.take task.systemTxStart ∧
      ((∀ tx ∈ task.block.transactions.drop task.systemTxStart, tx.transaction.txType ≠ .eip4844) ↔
        ∀ tx ∈ decoded.txs.drop task.systemTxStart, tx.transaction.txType ≠ .eip4844) := by
  obtain ⟨hpayload, hsign, -⟩ := simulateBidBlock_eq_ok h
  have hstart := (verifyBidBlockPayload_eq_ok hpayload).start_le
  obtain ⟨hasked, htake, hdrop⟩ := bindSignBidBlockSystemTxs_eq_ok hstart hsign
  rw [hasked] at hdrop
  have htypes := congrArg (List.map Transaction.txType) hdrop
  simp only [map_map, Function.comp_def, (withChainId_keeps _).1] at htypes
  refine ⟨htake, ?_⟩
  rw [← forall_mem_map (f := fun tx : TransactionSigned => tx.transaction.txType)
      (P := (· ≠ .eip4844)), htypes, forall_mem_map]

end

/-- Peers take the sidecars of a submission: they say the height of the block, and belong to all
its transactions with blobs. Before Cancun there are none. -/
def Available (deps : SealDeps) (decoded : DecodedBidBlock) (start : ℕ) : Prop :=
  if (deps.parlia.spec.bscForkActivation .cancun).activeAtTimestamp decoded.header.timestamp then
    (∀ sidecar ∈ decoded.sidecars, sidecar.blockNumber = decoded.header.number) ∧
      ∀ tx ∈ decoded.txs.drop start, tx.transaction.txType ≠ .eip4844
  else decoded.sidecars = []

lemma sidecars_of_simulateBidBlock
    (h : deps.simulateBidBlock sealing decoded parent snap validator gasLimit vanity
      blockTimestampMs epochValidators = .ok task) :
    List.Forall₂ (Matches deps.txHash) (blobTxs 0 (decoded.txs.take task.systemTxStart))
        decoded.sidecars ∧
      blobsOf decoded.sidecars ≤ (if (deps.parlia.spec.bscForkActivation .cancun).activeAtTimestamp
        decoded.header.timestamp then cancunMaxBlobCount else 0) ∧
      task.block.sidecars.getD [] = decoded.sidecars := by
  obtain ⟨hpayload, -, -, -, hsidecars⟩ := simulateBidBlock_eq_ok h
  obtain ⟨hmatch, hcount⟩ := validateBidBlockBlobSidecars_eq_ok
    (verifyBidBlockPayload_eq_ok hpayload).sidecars
  refine ⟨hmatch, hcount, ?_⟩
  rw [hsidecars]
  cases decoded.sidecars <;> rfl

lemma validateAt_always_iff {block : BscBlock} (hcount : blobsOf (block.sidecars.getD []) ≤
      if (deps.parlia.spec.bscForkActivation .cancun).activeAtTimestamp block.header.timestamp
      then cancunMaxBlobCount else 0) :
    (∀ now, ∃ kept, deps.validateAt kzg block now = .ok kept) ↔
      if (deps.parlia.spec.bscForkActivation .cancun).activeAtTimestamp block.header.timestamp then
        List.Forall₂
          (fun tx sidecar => deps.checkSidecar kzg block.header tx.1 tx.2 sidecar = .ok ())
          (blobTxs 0 block.transactions) (block.sidecars.getD [])
      else block.sidecars.getD [] = [] := by
  unfold validateAt
  simp only
  cases hactive : (deps.parlia.spec.bscForkActivation .cancun).activeAtTimestamp
      block.header.timestamp with
  | false => cases block.sidecars.getD [] <;> simp
  | true =>
    rw [hactive, if_pos rfl] at hcount
    have hmany : ¬ cancunMaxBlobCount < blobsOf (block.sidecars.getD []) := not_lt.mpr hcount
    simp only [Bool.not_true, Bool.false_eq_true, if_false, if_true, hmany]
    constructor
    · intro h
      obtain ⟨kept, hkept⟩ := h 0
      rw [if_neg (by omega)] at hkept
      split_ifs at hkept with hlen hnil
      · rw [List.isEmpty_iff] at hnil
        rw [hnil, length_nil] at hlen
        rw [hnil, length_eq_zero_iff.mp (not_not.mp hlen).symm]
        exact .nil
      · obtain ⟨_, hpairs, -⟩ := map_eq_ok hkept
        exact (checkPairs_eq_ok_iff (not_not.mp hlen).symm).mp hpairs
    · intro hpairs now
      rw [if_neg (not_not.mpr hpairs.length_eq.symm),
        (checkPairs_eq_ok_iff hpairs.length_eq).mpr hpairs]
      split_ifs <;> exact ⟨_, rfl⟩

lemma checkSidecar_eq_ok_iff {header : Header} {txIndex : ℕ} {tx : TransactionSigned}
    {sidecar : BscBlobTransactionSidecar} :
    deps.checkSidecar kzg header txIndex tx sidecar = .ok () ↔ sidecar.version = 0 ∧
      (sidecar.blockNumber = header.number ∧ sidecar.blockHash = deps.hashSlow header) ∧
      (sidecar.txIndex = txIndex ∧ sidecar.txHash = deps.txHash tx) ∧
      kzg.isValid sidecar tx = true := by
  unfold checkSidecar
  split_ifs <;> simp_all

lemma sidecars_refreshAndResealBidBlock (deps : SealDeps) (resealing : Sealing) (snap : Snapshot)
    (block : BscBlock) :
    (deps.refreshAndResealBidBlock resealing snap block).sidecars.getD [] =
      (block.sidecars.getD []).map fun sidecar => { sidecar with
        blockHash :=
          deps.hashSlow (deps.refreshAndResealBidBlock resealing snap block).header } := by
  unfold refreshAndResealBidBlock
  cases block.sidecars <;> rfl

/-- The check before the release also finds the sidecars in order, whatever hash they are given. -/
lemma valid_of_validateBidBlockBlobKzg {txs : List TransactionSigned} {start : ℕ} {hash : B256}
    {sidecars : List BscBlobTransactionSidecar}
    (h : validateBidBlockBlobKzg kzg txs
      (sidecars.map fun sidecar => { sidecar with blockHash := hash }) start = .ok ())
    (hmatch : List.Forall₂ (Matches deps.txHash) (blobTxs 0 (txs.take start)) sidecars) :
    List.Forall₂ (fun tx sidecar => Matches deps.txHash tx sidecar ∧
      kzg.isValid sidecar tx.2 = true) (blobTxs 0 (txs.take start)) sidecars := by
  rw [validateBidBlockBlobKzg, ← take_eq_take_min] at h
  have hpairs := checkBlobKzg_eq_ok (R := Matches deps.txHash) h (append_nil _).symm
    (by rwa [drop_zero, forall₂_map_right_iff])
  rwa [drop_zero, forall₂_map_right_iff] at hpairs

lemma sidecars_decoded (block : BscBlock) : block.decoded.sidecars.getD [] =
    (block.sidecars.getD []).map fun sidecar => { sidecar with version := 0 } := by
  unfold BscBlock.decoded
  cases block.sidecars <;> rfl

/-- **A released block is available** to every peer at every time, exactly if its sidecars say what
peers ask for. -/
theorem released_bid_available (deps : SealDeps) (kzg : KzgDeps) {decoded : DecodedBidBlock}
    {parent : Header} {snap : Snapshot} {sealing resealing : Sealing} {validator : Address}
    {gasLimit blockTimestampMs : ℕ} {vanity : Bytes} {epochValidators : Option EpochValidators}
    {task : BidBlockTask}
    (hsim : deps.simulateBidBlock sealing decoded parent snap validator gasLimit vanity
      blockTimestampMs epochValidators = .ok task)
    (hkzg : validateBidBlockBlobKzg kzg
      (deps.refreshAndResealBidBlock resealing snap task.block).transactions
      ((deps.refreshAndResealBidBlock resealing snap task.block).sidecars.getD [])
      task.systemTxStart = .ok ()) :
    (∀ now, ∃ kept, deps.validateAt kzg
      (deps.refreshAndResealBidBlock resealing snap task.block).decoded now = .ok kept) ↔
        deps.Available decoded task.systemTxStart := by
  obtain ⟨hnumber, htime⟩ := simulateBidBlock_position hsim
  obtain ⟨hmatch, hcount, hsidecars⟩ := sidecars_of_simulateBidBlock hsim
  obtain ⟨huser, hsystem⟩ := transactions_simulateBidBlock hsim
  set released := deps.refreshAndResealBidBlock resealing snap task.block
  -- the header that is released, at the height and time of the submission
  have hextra : task.block.header.SameButExtra released.header :=
    deps.parlia.refreshVoteAttestationAndSeal_sameButExtra deps.toVoteDeps resealing.sealHeader
      resealing.collect snap task.block.header
  have hheader : released.header.number = decoded.header.number ∧
      released.header.timestamp = decoded.header.timestamp := by
    rw [← hnumber, ← htime]
    exact ⟨(congrArg Header.number hextra :), (congrArg Header.timestamp hextra :)⟩
  have hpatched : released.sidecars.getD [] = decoded.sidecars.map fun sidecar =>
      { sidecar with blockHash := deps.hashSlow released.header } := by
    rw [← hsidecars]
    exact sidecars_refreshAndResealBidBlock deps resealing snap task.block
  have hreceived : released.decoded.sidecars.getD [] = decoded.sidecars.map fun sidecar =>
      { sidecar with blockHash := deps.hashSlow released.header, version := 0 } := by
    rw [sidecars_decoded, hpatched, map_map]
    rfl
  rw [hpatched] at hkzg
  have hvalid := valid_of_validateBidBlockBlobKzg hkzg (huser ▸ hmatch)
  rw [show released.transactions.take task.systemTxStart = _ from huser] at hvalid
  have hcounted : blobsOf (released.decoded.sidecars.getD []) = blobsOf decoded.sidecars := by
    rw [hreceived]
    simp [blobsOf, Function.comp_def]
  have htxs : blobTxs 0 released.decoded.transactions =
      blobTxs 0 (decoded.txs.take task.systemTxStart) ++
        blobTxs (0 + (task.block.transactions.take task.systemTxStart).length)
          (task.block.transactions.drop task.systemTxStart) := by
    rw [← huser, ← blobTxs_append, take_append_drop]
    rfl
  rw [validateAt_always_iff (by rw [hcounted]; exact hheader.2 ▸ hcount), htxs, hreceived]
  unfold Available
  rw [← hsystem, ← blobTxs_eq_nil_iff, show released.decoded.header = released.header from rfl,
    hheader.2]
  split_ifs
  · rw [forall₂_map_right_iff]
    constructor
    · intro hpairs
      -- as many transactions as sidecars: those of the user
      have hnone := hpairs.length_eq.trans hvalid.length_eq.symm
      rw [length_append, Nat.add_eq_left, length_eq_zero_iff] at hnone
      rw [hnone, append_nil] at hpairs
      refine ⟨((forall₂_and_left (R := fun _ _ => True) _ _).mp
        (hpairs.flip.imp fun sidecar tx h => ?_)).1, hnone⟩
      exact ⟨(checkSidecar_eq_ok_iff.mp h).2.1.1.trans hheader.1, trivial⟩
    · rintro ⟨hheight, hnone⟩
      rw [hnone, append_nil]
      refine ((forall₂_and_left _ _).mpr ⟨hheight, hvalid.flip⟩).flip.imp ?_
      rintro tx sidecar ⟨hheight, ⟨hhash, hindex⟩, hkzg⟩
      exact checkSidecar_eq_ok_iff.mpr
        ⟨rfl, ⟨hheight.trans hheader.1.symm, rfl⟩, ⟨hindex, hhash⟩, hkzg⟩
  · exact map_eq_nil_iff

end SealDeps

/-! ### A bid with a blob -/

def releaseSpec : ChainSpec :=
  { sampleSpec .never .never .never with
    bscForkActivation := fun
      | .luban => .block 0
      | .lorentz => .timestamp 0
      | .cancun => .timestamp 0
      | _ => .never }

/-- Every proof is right. -/
def releaseKzg : KzgDeps := ⟨fun _ _ _ _ => true, fun _ => [1]⟩

def blobTxBytes : Bytes :=
  [0x03, 0xf8, 0x45, 0x38, 0x80, 0x01, 0x01, 0x82, 0x52, 0x08, 0x94] ++
    Address.asSlice (Fin.ofNat _ 0x42) ++ [0x80, 0x80, 0xc0, 0x01, 0xe1, 0xa0] ++
    List.replicate 32 1 ++ [0x01, 0x01, 0x01]

def blobTx : TransactionSigned :=
  ⟨⟨.eip4844, some 56, 0, 21000, 1, some 1, some (Fin.ofNat _ 0x42), 0, [],
    [0xc0, 0x01, 0xe1, 0xa0] ++ List.replicate 32 1⟩, signatureBytes 1 1 true⟩

def releaseDeps : SealDeps :=
  { sealingDeps with
    decoders := sampleDecoders [(blobTxBytes, blobTx)]
    parlia := ⟨releaseSpec, 200⟩ }

def releaseParent : Header := { sealingParent with blobGasUsed := some 0, excessBlobGas := some 0 }

/-- Block 101 with one blob, whose sidecar says any height. -/
def releaseBid (blockNumber : ℕ) : BidBlock where
  header := { sealingBid.header with
    withdrawalsRoot := some emptyWithdrawalsHash
    blobGasUsed := some dataGasPerBlob
    excessBlobGas := some 0 }
  transactions := [blobTxBytes, depositTxBytes]
  sidecars := [⟨[[1]], [[2]], [[3]], blockNumber, 0, 0, 0, 0⟩]

def releaseDecoded (blockNumber : ℕ) : DecodedBidBlock :=
  ⟨Fin.ofNat _ 9, (releaseBid blockNumber).header,
    [blobTx, depositTx .legacy none none []], 0, (releaseBid blockNumber).sidecars, 0, 0, 0⟩

def releaseTask (blockNumber : ℕ) : Except SimulateBidBlockError BidBlockTask :=
  releaseDeps.simulateBidBlock sampleSealing (releaseDecoded blockNumber) releaseParent
    sealingSnap (Fin.ofNat _ 7) 10000000 [] (calculateMillisecondTimestamp sealingBid.header) none

def releaseBlock (task : BidBlockTask) : BscBlock :=
  releaseDeps.refreshAndResealBidBlock sampleSealing sealingSnap task.block

def releaseChecked (task : BidBlockTask) : Except BlobKzgError Unit :=
  validateBidBlockBlobKzg releaseKzg (releaseBlock task).transactions
    ((releaseBlock task).sidecars.getD []) task.systemTxStart

/-- What a peer says to the block when it is new. -/
def releaseReceived (task : BidBlockTask) : Except DataAvailabilityError BscBlock :=
  releaseDeps.validateAt releaseKzg (releaseBlock task).decoded (releaseBlock task).header.timestamp

/-- The submission is decoded and passes every check of the validator. -/
def ReleasePasses (blockNumber : ℕ) (task : BidBlockTask) : Prop :=
  releaseDeps.bid.toDecodedBidBlock (releaseBid blockNumber) (Fin.ofNat _ 9) =
      .ok (releaseDecoded blockNumber) ∧
    releaseDeps.preSealVerifyBidBlock 0 (releaseDecoded blockNumber) releaseParent
      sealingSnap (Fin.ofNat _ 7) 10000000 = .ok (1, 1) ∧
    releaseTask blockNumber = .ok task ∧ releaseChecked task = .ok ()

lemma exists_ok_of_toOption_map {ε α β : Type} {f : α → β} {x : Except ε α} {b : β}
    (h : x.toOption.map f = some b) : ∃ a, x = .ok a ∧ f a = b := by
  obtain ⟨a, ha, hb⟩ := Option.map_eq_some_iff.mp h
  exact ⟨a, toOption_eq_some ha, hb⟩

/-- A sidecar of the right height: the block is taken by peers at any time. -/
theorem released_bid_available_sample : ∃ task, ReleasePasses 101 task ∧
    ∀ now, ∃ kept, releaseDeps.validateAt releaseKzg (releaseBlock task).decoded now =
      .ok kept := by
  have hsealed : (releaseTask 101).toOption.map (fun task =>
      (task.systemTxStart, releaseChecked task)) = some (1, .ok ()) := by decide +kernel
  obtain ⟨task, htask, hpair⟩ := exists_ok_of_toOption_map hsealed
  obtain ⟨hstart, hkzg⟩ := Prod.mk.inj hpair
  have havailable : releaseDeps.Available (releaseDecoded 101) task.systemTxStart := by
    rw [hstart, SealDeps.Available, if_pos (by decide +kernel)]
    exact ⟨by decide +kernel, by decide +kernel⟩
  refine ⟨task, ⟨by decide +kernel, by decide +kernel, htask, hkzg⟩, ?_⟩
  unfold releaseTask at htask
  unfold releaseChecked at hkzg
  unfold releaseBlock at hkzg ⊢
  exact (releaseDeps.released_bid_available releaseKzg htask hkzg).mpr havailable

/-- A sidecar of another height passes every check of the validator; no peer takes the block it
broadcasts. -/
theorem released_bid_refused : ∃ task, ReleasePasses 102 task ∧
    releaseReceived task = .error (.blockMetadataMismatch 0) := by
  have hheight : (releaseTask 102).toOption.map (fun task =>
      (releaseChecked task, releaseReceived task)) =
        some (.ok (), .error (.blockMetadataMismatch 0)) := by decide +kernel
  obtain ⟨task, htask, hpair⟩ := exists_ok_of_toOption_map hheight
  obtain ⟨hkzg, hreceived⟩ := Prod.mk.inj hpair
  exact ⟨task, ⟨by decide +kernel, by decide +kernel, htask, hkzg⟩, hreceived⟩

end RethBsc
