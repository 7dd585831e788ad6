import RethBsc.CometBft
import RethBsc.HeaderExtra
import RethBsc.RlpReader

/-!
The double-sign evidence precompile (address 0x68).

Evidence is a chain id and two headers as bytes. Two headers of one number on one parent, with
different seals that recover to one address, convict the address. Chain id, difficulty, number and
base fee are integers of any size, kept as their bytes; the fields from the base fee on may be
missing, but only all from one of them on. Hashing and recovery are fields of `EvidenceDeps`.
-/

namespace RethBsc.DoubleSign

open Reader

def extraSealLength : ℕ := 65

def maxBlockNumberBytes : ℕ := 32

def doubleSignEvidenceValidationBase : ℕ := 10000

def doubleSignEvidenceValidatePerByteGas : ℕ := 16

/-! ### Integers and arrays -/

/-- An integer as its bytes, most significant first and without leading zeros. -/
structure RlpBigInt where
  bytes : Bytes
  canonical : bytes.head? ≠ some 0
  deriving DecidableEq

namespace RlpBigInt

def value (n : RlpBigInt) : ℕ := Rlp.ofTrimmed n.bytes

def ofNat (n : ℕ) : RlpBigInt := ⟨Rlp.trimmedBytes n, head?_trimmedBytes n⟩

def byteLen (n : RlpBigInt) : ℕ := n.bytes.length

def decode : Reader RlpBigInt := do
  let bs ← payload false
  if h : bs.head? ≠ some 0 then pure ⟨bs, h⟩ else throw .leadingZero

def encode (n : RlpBigInt) : Bytes := Rlp.encodeBytes n.bytes

end RlpBigInt

abbrev FixedBytes (n : ℕ) := { bytes : Bytes // bytes.length = n }

namespace FixedBytes

def decode (n : ℕ) : Reader (FixedBytes n) := do
  let bs ← payload false
  if h : bs.length = n then pure ⟨bs, h⟩ else throw .unexpectedLength

def encode {n : ℕ} (a : FixedBytes n) : Bytes := Rlp.encodeBytes a.val

end FixedBytes

/-! ### Evidence -/

structure DoubleSignEvidence where
  chainId : RlpBigInt
  headerBytes1 : Bytes
  headerBytes2 : Bytes
  deriving DecidableEq

structure Header where
  parentHash : FixedBytes 32
  uncleHash : FixedBytes 32
  coinbase : FixedBytes 20
  root : FixedBytes 32
  txHash : FixedBytes 32
  receiptHash : FixedBytes 32
  bloom : FixedBytes 256
  difficulty : RlpBigInt
  number : RlpBigInt
  gasLimit : ℕ
  gasUsed : ℕ
  time : ℕ
  extra : Bytes
  mixDigest : FixedBytes 32
  nonce : FixedBytes 8
  baseFee : Option RlpBigInt
  withdrawalsHash : Option (FixedBytes 32)
  blobGasUsed : Option ℕ
  excessBlobGas : Option ℕ
  parentBeaconRoot : Option (FixedBytes 32)
  requestsHash : Option (FixedBytes 32)
  blockAccessListHash : Option (FixedBytes 32)
  slotNumber : Option ℕ
  deriving DecidableEq

def DoubleSignEvidence.decode : Reader DoubleSignEvidence := list do
  let chainId ← RlpBigInt.decode
  let headerBytes1 ← payload false
  let headerBytes2 ← payload false
  pure ⟨chainId, headerBytes1, headerBytes2⟩

/-- The fields from the base fee on, each if there is something left, up to the end of the
payload. -/
def Header.tail (header : Header) : Reader Header := do
  let baseFee ← optional RlpBigInt.decode
  let withdrawalsHash ← optional (FixedBytes.decode 32)
  let blobGasUsed ← optional (uint 8)
  let excessBlobGas ← optional (uint 8)
  let parentBeaconRoot ← optional (FixedBytes.decode 32)
  let requestsHash ← optional (FixedBytes.decode 32)
  let blockAccessListHash ← optional (FixedBytes.decode 32)
  let slotNumber ← optional (uint 8)
  let rest ← get
  if !rest.isEmpty then throw .unexpectedLength
  else pure { header with
    baseFee := baseFee
    withdrawalsHash := withdrawalsHash
    blobGasUsed := blobGasUsed
    excessBlobGas := excessBlobGas
    parentBeaconRoot := parentBeaconRoot
    requestsHash := requestsHash
    blockAccessListHash := blockAccessListHash
    slotNumber := slotNumber }

def Header.fields : Reader Header := do
  let parentHash ← FixedBytes.decode 32
  let uncleHash ← FixedBytes.decode 32
  let coinbase ← FixedBytes.decode 20
  let root ← FixedBytes.decode 32
  let txHash ← FixedBytes.decode 32
  let receiptHash ← FixedBytes.decode 32
  let bloom ← FixedBytes.decode 256
  let difficulty ← RlpBigInt.decode
  let number ← RlpBigInt.decode
  let gasLimit ← uint 8
  let gasUsed ← uint 8
  let time ← uint 8
  let extra ← payload false
  let mixDigest ← FixedBytes.decode 32
  let nonce ← FixedBytes.decode 8
  Header.tail ⟨parentHash, uncleHash, coinbase, root, txHash, receiptHash, bloom, difficulty,
    number, gasLimit, gasUsed, time, extra, mixDigest, nonce, none, none, none, none, none, none,
    none, none⟩

def Header.decode : Reader Header := do
  let body ← payload true
  liftM ((Header.fields body).map Prod.fst)

/-! ### The seal hash -/

/-- A field that may be missing: the empty string stands for none. -/
def encodeOptional {α : Type} (encode : α → Bytes) : Option α → Bytes
  | some a => encode a
  | none => [0x80]

def sealPayload (header : Header) (chainId : RlpBigInt) : Bytes :=
  chainId.encode ++ header.parentHash.encode ++ header.uncleHash.encode ++ header.coinbase.encode ++
  header.root.encode ++ header.txHash.encode ++ header.receiptHash.encode ++ header.bloom.encode ++
  header.difficulty.encode ++ header.number.encode ++ Rlp.encodeUint header.gasLimit ++
  Rlp.encodeUint header.gasUsed ++ Rlp.encodeUint header.time ++
  Rlp.encodeBytes (header.extra.take (header.extra.length - extraSealLength)) ++
  header.mixDigest.encode ++ header.nonce.encode ++
  match header.parentBeaconRoot with
  | none => []
  | some parentBeaconRoot =>
    encodeOptional RlpBigInt.encode header.baseFee ++
    encodeOptional FixedBytes.encode header.withdrawalsHash ++
    encodeOptional Rlp.encodeUint header.blobGasUsed ++
    encodeOptional Rlp.encodeUint header.excessBlobGas ++ parentBeaconRoot.encode ++
    match header.requestsHash with
    | none => []
    | some requestsHash => requestsHash.encode

/-- What the precompile takes from other crates. -/
structure EvidenceDeps where
  keccak256 : Bytes → B256
  /-- `secp256k1::ecrecover`: the signer of a digest, as a word, from the 64 bytes of the signature
  and the recovery id. -/
  ecrecover : Bytes → UInt8 → B256 → Option (FixedBytes 32)

variable (deps : EvidenceDeps)

def sealHash (header : Header) (chainId : RlpBigInt) : B256 :=
  deps.keccak256 (encodeList (sealPayload header chainId))

/-! ### The precompile -/

inductive PrecompileOutput
  | success (gasUsed : ℕ) (output : Bytes) (reservoir : ℕ)
  | revert (gasUsed : ℕ) (output : Bytes) (reservoir : ℕ)
  | halt (reason : PrecompileHalt) (reservoir : ℕ)
  deriving DecidableEq

/-- The last 65 bytes of the extra data. -/
def Header.sig (header : Header) : Bytes :=
  header.extra.drop (header.extra.length - extraSealLength)

def Header.recover (chainId : RlpBigInt) (header : Header) : Option (FixedBytes 32) :=
  deps.ecrecover (header.sig.take 64) (byteAt header.sig 64) (sealHash deps header chainId)

/-- The signer, and the number of the headers in 32 bytes. -/
def encodeResult (addr : FixedBytes 32) (number : RlpBigInt) : Bytes :=
  addr.val.drop 12 ++ (List.replicate (maxBlockNumberBytes - number.byteLen) 0 ++ number.bytes)

/-- The checks on two decoded headers. -/
def verifyHeaders (chainId : RlpBigInt) (header1 header2 : Header)
    (cost reservoir : ℕ) : PrecompileOutput :=
  let invalid := .halt BscPrecompileError.doubleSignInvalidEvidence.halt reservoir
  if header1.number.byteLen > maxBlockNumberBytes ∨
      header2.number.byteLen > maxBlockNumberBytes then invalid
  else if header1.number ≠ header2.number then invalid
  else if header1.parentHash ≠ header2.parentHash then invalid
  else if header1.extra.length < extraSealLength ∨ header2.extra.length < extraSealLength then
    invalid
  else if header1.sig = header2.sig then invalid
  else if sealHash deps header1 chainId = sealHash deps header2 chainId then invalid
  else match header1.recover deps chainId with
  | none => .revert cost [] reservoir
  | some addr1 =>
    match header2.recover deps chainId with
    | none => .revert cost [] reservoir
    | some addr2 =>
      if addr1 ≠ addr2 then invalid
      else .success cost (encodeResult addr1 header1.number) reservoir

def evidenceCost (inputLength perByteGas : ℕ) : ℕ :=
  min u64Max (doubleSignEvidenceValidationBase + min u64Max (inputLength * perByteGas))

def doubleSignEvidenceValidationRunInner (input : Bytes)
    (gasLimit reservoir perByteGas : ℕ) : PrecompileOutput :=
  let cost := evidenceCost input.length perByteGas
  if cost > gasLimit then .halt .outOfGas reservoir
  else match decodeExact DoubleSignEvidence.decode input with
  | .error _ => .revert cost [] reservoir
  | .ok evidence =>
    match decodeExact Header.decode evidence.headerBytes1 with
    | .error _ => .revert cost [] reservoir
    | .ok header1 =>
      match decodeExact Header.decode evidence.headerBytes2 with
      | .error _ => .revert cost [] reservoir
      | .ok header2 => verifyHeaders deps evidence.chainId header1 header2 cost reservoir

def doubleSignEvidenceValidationRun (input : Bytes) (gasLimit reservoir : ℕ) : PrecompileOutput :=
  doubleSignEvidenceValidationRunInner deps input gasLimit reservoir 0

def doubleSignEvidenceValidationRunJenner (input : Bytes)
    (gasLimit reservoir : ℕ) : PrecompileOutput :=
  doubleSignEvidenceValidationRunInner deps input gasLimit reservoir
    doubleSignEvidenceValidatePerByteGas

/-! ### What a success says -/

structure DoubleSigned (deps : EvidenceDeps) (chainId : RlpBigInt) (header1 header2 : Header)
    (addr : FixedBytes 32) : Prop where
  number : header1.number = header2.number
  width : header1.number.byteLen ≤ maxBlockNumberBytes
  parentHash : header1.parentHash = header2.parentHash
  sealed1 : extraSealLength ≤ header1.extra.length
  sealed2 : extraSealLength ≤ header2.extra.length
  sigs : header1.sig ≠ header2.sig
  hashes : sealHash deps header1 chainId ≠ sealHash deps header2 chainId
  signer1 : header1.recover deps chainId = some addr
  signer2 : header2.recover deps chainId = some addr

/-- **The checks pass exactly for headers that convict a signer.** -/
lemma verifyHeaders_eq_success {deps : EvidenceDeps} {chainId : RlpBigInt}
    {header1 header2 : Header} {cost reservoir gasUsed r : ℕ} {output : Bytes} :
    verifyHeaders deps chainId header1 header2 cost reservoir = .success gasUsed output r ↔
      ∃ addr, DoubleSigned deps chainId header1 header2 addr ∧ gasUsed = cost ∧ r = reservoir ∧
        output = encodeResult addr header1.number := by
  unfold verifyHeaders
  constructor
  · intro h
    simp only at h
    split at h
    · cases h
    next hwidth =>
    split at h
    · cases h
    next hnumber =>
    split at h
    · cases h
    next hparent =>
    split at h
    · cases h
    next hsealed =>
    split at h
    · cases h
    next hsigs =>
    split at h
    · cases h
    next hhashes =>
    split at h
    · cases h
    next addr1 hsigner1 =>
    split at h
    · cases h
    next addr2 hsigner2 =>
    split at h
    · cases h
    next haddr =>
    cases h
    rw [not_or, not_lt, not_lt] at hwidth hsealed
    rw [not_not] at hnumber hparent haddr
    exact ⟨addr1, ⟨hnumber, hwidth.1, hparent, hsealed.1, hsealed.2, hsigs, hhashes, hsigner1,
      haddr ▸ hsigner2⟩, rfl, rfl, rfl⟩
  · rintro ⟨addr, h, rfl, rfl, rfl⟩
    have hwidth := h.width
    have hsealed1 := h.sealed1
    have hsealed2 := h.sealed2
    simp only
    rw [if_neg, if_neg, if_neg, if_neg, if_neg h.sigs, if_neg h.hashes, h.signer1, h.signer2]
    · simp
    · omega
    · exact not_not.mpr h.parentHash
    · exact not_not.mpr h.number
    · rw [← h.number]
      omega

end RethBsc.DoubleSign
