import RethBsc.HeaderValidation
import RethBsc.Rlp

/-!
What the seal of a header signs.

`encode_header_with_chain_id` writes the fields of a header as an RLP list, without the last 65
bytes of the extra data. The fields from the base fee on are written only if the parent beacon
root is zero, with defaults where they are missing, and the two newest fields are not written at
all. So the bytes determine the header only among headers that pass the checks; for those they
do.
-/

namespace RethBsc

open List

variable (rlp : Rlp)

/-- The bytes of a word of `w` bytes, most significant first. -/
def fixedBytes {w : ℕ} (v : BitVec (8 * w)) : Bytes := wordBytes w v.toNat

lemma fixedBytes_injective {w : ℕ} : Function.Injective (fixedBytes (w := w)) := by
  intro u v huv
  have hnat := congrArg beNat huv
  rw [fixedBytes, fixedBytes, beNat_wordBytes_of_lt (toNat_lt_pow u),
    beNat_wordBytes_of_lt (toNat_lt_pow v)] at hnat
  exact BitVec.eq_of_toNat_eq hnat

lemma Address.asSlice_injective : Function.Injective Address.asSlice :=
  Function.LeftInverse.injective Address.fromSlice_asSlice

namespace Rlp

def b256 : FieldCode B256 := rlp.bytes.comap (fixedBytes (w := 32)) fixedBytes_injective
def bloom : FieldCode (BitVec 2048) := rlp.bytes.comap (fixedBytes (w := 256)) fixedBytes_injective
def b64 : FieldCode (BitVec 64) := rlp.bytes.comap (fixedBytes (w := 8)) fixedBytes_injective
def address : FieldCode Address := rlp.bytes.comap Address.asSlice Address.asSlice_injective

end Rlp

def signedExtraData (header : Header) : Bytes :=
  header.extraData.take (header.extraData.length - extraSealLen)

def baseFields (header : Header) (chainId : ℕ) : List Bytes :=
  [rlp.uint.encode chainId, rlp.b256.encode header.parentHash, rlp.b256.encode header.ommersHash,
    rlp.address.encode header.beneficiary, rlp.b256.encode header.stateRoot,
    rlp.b256.encode header.transactionsRoot, rlp.b256.encode header.receiptsRoot,
    rlp.bloom.encode header.logsBloom, rlp.uint.encode header.difficulty,
    rlp.uint.encode header.number, rlp.uint.encode header.gasLimit,
    rlp.uint.encode header.gasUsed, rlp.uint.encode header.timestamp,
    rlp.bytes.encode (signedExtraData header), rlp.b256.encode header.mixHash,
    rlp.b64.encode header.nonce]

def cancunFields (header : Header) : List Bytes :=
  match header.parentBeaconBlockRoot with
  | none => []
  | some parentBeaconBlockRoot =>
    if parentBeaconBlockRoot = 0 then
      [rlp.uint.encode (header.baseFeePerGas.getD 0),
        rlp.b256.encode (header.withdrawalsRoot.getD 0),
        rlp.uint.encode (header.blobGasUsed.getD 0), rlp.uint.encode (header.excessBlobGas.getD 0),
        rlp.b256.encode parentBeaconBlockRoot] ++
      match header.requestsHash with
      | some requestsHash => [rlp.b256.encode requestsHash]
      | none => []
    else []

def payload (header : Header) (chainId : ℕ) : Bytes :=
  (baseFields rlp header chainId ++ cancunFields rlp header).flatten

/-- The `payload_length` that `rlp_header` adds up. -/
def rlpHeader (header : Header) (chainId : ℕ) : ℕ :=
  rlp.uint.length chainId + rlp.b256.length header.parentHash + rlp.b256.length header.ommersHash +
  rlp.address.length header.beneficiary + rlp.b256.length header.stateRoot +
  rlp.b256.length header.transactionsRoot + rlp.b256.length header.receiptsRoot +
  rlp.bloom.length header.logsBloom + rlp.uint.length header.difficulty +
  rlp.uint.length header.number + rlp.uint.length header.gasLimit +
  rlp.uint.length header.gasUsed + rlp.uint.length header.timestamp +
  rlp.bytes.length (signedExtraData header) + rlp.b256.length header.mixHash +
  rlp.b64.length header.nonce +
  match header.parentBeaconBlockRoot with
  | none => 0
  | some parentBeaconBlockRoot =>
    if parentBeaconBlockRoot = 0 then
      rlp.uint.length (header.baseFeePerGas.getD 0) +
      rlp.b256.length (header.withdrawalsRoot.getD 0) +
      rlp.uint.length (header.blobGasUsed.getD 0) + rlp.uint.length (header.excessBlobGas.getD 0) +
      rlp.b256.length parentBeaconBlockRoot +
      match header.requestsHash with
      | some requestsHash => rlp.b256.length requestsHash
      | none => 0
    else 0

def encodeHeaderWithChainId (header : Header) (chainId : ℕ) : Bytes :=
  rlp.listHead.encode (rlpHeader rlp header chainId) ++ payload rlp header chainId

variable {rlp}

/-- **The announced length** is the length of what is written. -/
lemma length_payload (header : Header) (chainId : ℕ) :
    (payload rlp header chainId).length = rlpHeader rlp header chainId := by
  unfold payload rlpHeader baseFields cancunFields
  cases header.parentBeaconBlockRoot with
  | none => simp [FieldCode.length_encode, Nat.add_assoc]
  | some root =>
    by_cases hroot : root = 0
    · cases header.requestsHash with
      | none => simp [hroot, FieldCode.length_encode, Nat.add_assoc]
      | some hash => simp [hroot, FieldCode.length_encode, Nat.add_assoc]
    · simp only [if_neg hroot]
      simp [FieldCode.length_encode, Nat.add_assoc]

/-! ### The signed bytes determine the header -/

/-- The values of a header are in the range of their types: `u64` and `U256` numbers, and sizes
that fit `usize`. -/
structure Header.InRange (rlp : Rlp) (header : Header) (chainId : ℕ) : Prop where
  difficulty : header.difficulty < 2 ^ 256
  number : header.number < 2 ^ 64
  gasLimit : header.gasLimit < 2 ^ 64
  timestamp : header.timestamp < 2 ^ 64
  excessBlobGas : header.excessBlobGas.getD 0 < 2 ^ 64
  extraData : header.extraData.length < 2 ^ 64
  payload : rlpHeader rlp header chainId < 2 ^ 64

namespace Rlp

lemma u64_fits (rlp : Rlp) {n : ℕ} (h : n < 2 ^ 64) : rlp.uint.Fits n := rlp.uint_fits n (by omega)

lemma b256_fits (rlp : Rlp) (hash : B256) : rlp.b256.Fits hash :=
  rlp.bytes_fits _ (by rw [fixedBytes, length_wordBytes]; decide)

lemma bloom_fits (rlp : Rlp) (bloom : BitVec 2048) : rlp.bloom.Fits bloom :=
  rlp.bytes_fits _ (by rw [fixedBytes, length_wordBytes]; decide)

lemma b64_fits (rlp : Rlp) (nonce : BitVec 64) : rlp.b64.Fits nonce :=
  rlp.bytes_fits _ (by rw [fixedBytes, length_wordBytes]; decide)

lemma address_fits (rlp : Rlp) (a : Address) : rlp.address.Fits a :=
  rlp.bytes_fits _ (by rw [Address.asSlice, length_wordBytes]; decide)

end Rlp

variable {parlia : Parlia} {chainId : ℕ} {header header₁ header₂ : Header}

lemma Parlia.checkHeaderExtra_seal (h : parlia.checkHeaderExtra header = .ok ()) :
    extraSealLen ≤ header.extraData.length := by
  obtain ⟨_, hlen, _⟩ := bind_eq_ok h
  unfold checkHeaderExtraLen at hlen
  simp only at hlen
  split at hlen
  · cases hlen
  · split at hlen
    · cases hlen
    · omega

lemma exists_seal (h : extraSealLen ≤ header.extraData.length) :
    ∃ sig : Bytes, sig.length = extraSealLen ∧
      header.extraData = signedExtraData header ++ sig := by
  refine ⟨header.extraData.drop (header.extraData.length - extraSealLen), ?_, ?_⟩
  · rw [length_drop]
    omega
  · rw [signedExtraData, take_append_drop]

lemma cancunFields_eq (rlp : Rlp) (h : UnsealedOk parlia.spec header)
    (hbohr : parlia.spec.isBohrActiveAtTimestamp header.number header.timestamp)
    (hcancun : parlia.spec.isCancunActiveAtTimestamp header.number header.timestamp) :
    ∃ used excess, header.baseFeePerGas = some 0 ∧
      header.withdrawalsRoot = some emptyWithdrawalsHash ∧ header.blobGasUsed = some used ∧
      header.excessBlobGas = some excess ∧ header.parentBeaconBlockRoot = some 0 ∧
      used ≤ maxDataGasPerBlockDencun ∧
      cancunFields rlp header = [rlp.uint.encode 0, rlp.b256.encode emptyWithdrawalsHash,
        rlp.uint.encode used, rlp.uint.encode excess, rlp.b256.encode 0] ++
          (header.requestsHash.map rlp.b256.encode).toList := by
  have hlondon : parlia.spec.london.activeAtBlock header.number := (Bool.and_eq_true_iff.mp hbohr).1
  have hfee := h.baseFee
  have hroot := h.withdrawals
  have hblobs := h.blobs
  have hbeacon := h.beaconRoot
  rw [hlondon, if_pos rfl] at hfee
  rw [hcancun, if_pos rfl] at hroot hblobs
  rw [hbohr, if_pos rfl] at hbeacon
  obtain ⟨used, excess, hused, hexcess, -, hmax, -, -⟩ := hblobs
  refine ⟨used, excess, hfee, hroot, hused, hexcess, hbeacon, hmax, ?_⟩
  rw [cancunFields, hbeacon]
  cases header.requestsHash <;> simp [hfee, hroot, hused, hexcess]

/-- A header that passes the checks with Bohr and Cancun active. -/
structure SealChecked (rlp : Rlp) (parlia : Parlia) (header : Header) (chainId : ℕ) : Prop where
  range : header.InRange rlp chainId
  fields : validateUnsealedHeaderFields parlia header = .ok ()
  extra : parlia.checkHeaderExtra header = .ok ()
  bohr : parlia.spec.isBohrActiveAtTimestamp header.number header.timestamp = true
  cancun : parlia.spec.isCancunActiveAtTimestamp header.number header.timestamp = true

lemma SealChecked.unsealedOk (h : SealChecked rlp parlia header chainId) :
    UnsealedOk parlia.spec header := validateUnsealedHeaderFields_ok_iff.mp h.fields

lemma payload_eq_of_encode_eq (h1 : header₁.InRange rlp chainId) (h2 : header₂.InRange rlp chainId)
    (heq : encodeHeaderWithChainId rlp header₁ chainId =
      encodeHeaderWithChainId rlp header₂ chainId) :
    payload rlp header₁ chainId = payload rlp header₂ chainId :=
  (rlp.listHead.decodable (rlp.listHead_fits _ h1.payload) (rlp.listHead_fits _ h2.payload) heq).2

variable {requests1 requests2 : Option B256}

lemma requestsHash_eq (hsome : requests1.isSome = requests2.isSome)
    (heq : ((requests1.map rlp.b256.encode).toList).flatten =
      ((requests2.map rlp.b256.encode).toList).flatten) : requests1 = requests2 := by
  cases requests1 with
  | none => cases requests2 with
    | none => rfl
    | some hash2 => cases hsome
  | some hash1 => cases requests2 with
    | none => cases hsome
    | some hash2 =>
      have happ : rlp.b256.encode hash1 ++ [] = rlp.b256.encode hash2 ++ [] := by simpa using heq
      rw [(rlp.b256.decodable (rlp.b256_fits _) (rlp.b256_fits _) happ).1]

def signedValues (header : Header) : B256 × B256 × Address × B256 × B256 × B256 × BitVec 2048 ×
    ℕ × ℕ × ℕ × ℕ × ℕ × Bytes × B256 × BitVec 64 :=
  (header.parentHash, header.ommersHash, header.beneficiary, header.stateRoot,
    header.transactionsRoot, header.receiptsRoot, header.logsBloom, header.difficulty,
    header.number, header.gasLimit, header.gasUsed, header.timestamp, signedExtraData header,
    header.mixHash, header.nonce)

def Rlp.signedCode (rlp : Rlp) : FieldCode (B256 × B256 × Address × B256 × B256 × B256 ×
    BitVec 2048 × ℕ × ℕ × ℕ × ℕ × ℕ × Bytes × B256 × BitVec 64) :=
  rlp.b256.prod <| rlp.b256.prod <| rlp.address.prod <| rlp.b256.prod <| rlp.b256.prod <|
    rlp.b256.prod <| rlp.bloom.prod <| rlp.uint.prod <| rlp.uint.prod <| rlp.uint.prod <|
    rlp.uint.prod <| rlp.uint.prod <| rlp.bytes.prod <| rlp.b256.prod rlp.b64

lemma payload_eq (header : Header) (chainId : ℕ) : payload rlp header chainId =
    rlp.uint.encode chainId ++
      (rlp.signedCode.encode (signedValues header) ++ (cancunFields rlp header).flatten) := by
  simp [payload, baseFields, Rlp.signedCode, signedValues, FieldCode.prod]

lemma SealChecked.signedCode_fits (h : SealChecked rlp parlia header chainId) :
    rlp.signedCode.Fits (signedValues header) :=
  ⟨rlp.b256_fits _, rlp.b256_fits _, rlp.address_fits _, rlp.b256_fits _, rlp.b256_fits _,
    rlp.b256_fits _, rlp.bloom_fits _, rlp.uint_fits _ h.range.difficulty,
    rlp.u64_fits h.range.number, rlp.u64_fits h.range.gasLimit,
    rlp.u64_fits (lt_of_le_of_lt h.unsealedOk.gas h.range.gasLimit),
    rlp.u64_fits h.range.timestamp,
    rlp.bytes_fits _ ((length_take_le' _ _).trans_lt h.range.extraData), rlp.b256_fits _,
    rlp.b64_fits _⟩

lemma cancunFields_inj {used1 excess1 used2 excess2 : ℕ}
    (hused1 : used1 ≤ maxDataGasPerBlockDencun) (hused2 : used2 ≤ maxDataGasPerBlockDencun)
    (hexcess1 : excess1 < 2 ^ 64) (hexcess2 : excess2 < 2 ^ 64)
    (hsome : requests1.isSome = requests2.isSome)
    (heq : ([rlp.uint.encode 0, rlp.b256.encode emptyWithdrawalsHash, rlp.uint.encode used1,
        rlp.uint.encode excess1, rlp.b256.encode 0] ++
          (requests1.map rlp.b256.encode).toList).flatten =
      ([rlp.uint.encode 0, rlp.b256.encode emptyWithdrawalsHash, rlp.uint.encode used2,
        rlp.uint.encode excess2, rlp.b256.encode 0] ++
          (requests2.map rlp.b256.encode).toList).flatten) :
    used1 = used2 ∧ excess1 = excess2 ∧ requests1 = requests2 := by
  have hlt : maxDataGasPerBlockDencun < 2 ^ 64 := by decide
  simp only [cons_append, nil_append, flatten_cons] at heq
  have heq := append_cancel_left (append_cancel_left heq)
  obtain ⟨hused, heq⟩ := rlp.uint.decodable (rlp.u64_fits (lt_of_le_of_lt hused1 hlt))
    (rlp.u64_fits (lt_of_le_of_lt hused2 hlt)) heq
  obtain ⟨hexcess, heq⟩ := rlp.uint.decodable (rlp.u64_fits hexcess1) (rlp.u64_fits hexcess2) heq
  exact ⟨hused, hexcess, requestsHash_eq hsome (append_cancel_left heq)⟩

/-- **The signed bytes determine everything but the seal.** -/
theorem eq_of_encode_eq (h1 : SealChecked rlp parlia header₁ chainId)
    (h2 : SealChecked rlp parlia header₂ chainId)
    (heq : encodeHeaderWithChainId rlp header₁ chainId =
      encodeHeaderWithChainId rlp header₂ chainId) :
    header₂ = { header₁ with extraData := header₂.extraData } ∧
      signedExtraData header₁ = signedExtraData header₂ := by
  have ok1 := h1.unsealedOk
  have ok2 := h2.unsealedOk
  obtain ⟨used1, excess1, hfee1, hroot1, hused1, hexcess1, hbeacon1, hmax1, htail1⟩ :=
    cancunFields_eq rlp ok1 h1.bohr h1.cancun
  obtain ⟨used2, excess2, hfee2, hroot2, hused2, hexcess2, hbeacon2, hmax2, htail2⟩ :=
    cancunFields_eq rlp ok2 h2.bohr h2.cancun
  have hpayload := payload_eq_of_encode_eq h1.range h2.range heq
  rw [payload_eq, payload_eq] at hpayload
  obtain ⟨hvalues, htail⟩ := rlp.signedCode.decodable h1.signedCode_fits h2.signedCode_fits
    (append_cancel_left hpayload)
  simp only [signedValues, Prod.mk.injEq] at hvalues
  obtain ⟨hparent, hommers, hbeneficiary, hstate, htransactions, hreceipts, hbloom, hdifficulty,
    hnumber, hlimit, hgas, htimestamp, hextra, hmix, hnonce⟩ := hvalues
  have hfit1 := h1.range.excessBlobGas
  have hfit2 := h2.range.excessBlobGas
  rw [hexcess1] at hfit1
  rw [hexcess2] at hfit2
  rw [htail1, htail2] at htail
  -- which of the headers has a requests hash is decided by number and time stamp
  obtain ⟨rfl, rfl, hrequests⟩ := cancunFields_inj hmax1 hmax2 hfit1 hfit2
    (by rw [ok1.requests, ok2.requests, hnumber, htimestamp]) htail
  refine ⟨?_, hextra⟩
  exact Header.ext hparent.symm hommers.symm hbeneficiary.symm hstate.symm htransactions.symm
    hreceipts.symm hbloom.symm hdifficulty.symm hnumber.symm hlimit.symm hgas.symm htimestamp.symm
    rfl hmix.symm hnonce.symm (hfee2.trans hfee1.symm) (hroot2.trans hroot1.symm)
    (hused2.trans hused1.symm) (hexcess2.trans hexcess1.symm) (hbeacon2.trans hbeacon1.symm)
    hrequests.symm (ok2.accessList.trans ok1.accessList.symm) (ok2.slot.trans ok1.slot.symm)

/-- **The seal covers the header.** Two checked headers with the same signed bytes are the same up
to their seals, and the announced length is the length of what is written. -/
theorem seal_covers_header (rlp : Rlp) (parlia : Parlia) (chainId : ℕ) :
    (∀ header₁ header₂, SealChecked rlp parlia header₁ chainId →
      SealChecked rlp parlia header₂ chainId →
      encodeHeaderWithChainId rlp header₁ chainId = encodeHeaderWithChainId rlp header₂ chainId →
      ∃ signed seal₁ seal₂, seal₁.length = extraSealLen ∧ seal₂.length = extraSealLen ∧
        header₁.extraData = signed ++ seal₁ ∧
        header₂ = { header₁ with extraData := signed ++ seal₂ }) ∧
    ∀ header, (payload rlp header chainId).length = rlpHeader rlp header chainId := by
  refine ⟨fun header₁ header₂ h1 h2 heq => ?_, fun header => length_payload header chainId⟩
  obtain ⟨hheader, hsigned⟩ := eq_of_encode_eq h1 h2 heq
  obtain ⟨seal₁, hlen1, hextra1⟩ := exists_seal (Parlia.checkHeaderExtra_seal h1.extra)
  obtain ⟨seal₂, hlen2, hextra2⟩ := exists_seal (Parlia.checkHeaderExtra_seal h2.extra)
  refine ⟨signedExtraData header₁, seal₁, seal₂, hlen1, hlen2, hextra1, ?_⟩
  rw [hsigned, ← hextra2]
  exact hheader

/-- The sample chain with Bohr and Cancun from genesis on. -/
def cancunParlia : Parlia where
  spec := { sampleSpec (.block 0) (.timestamp 0) .never with
    bscForkActivation
      | .luban => .block 0
      | .plato => .block 0
      | .bohr => .timestamp 0
      | .cancun => .timestamp 0
      | _ => .never }
  epoch := 200

/-- The header of block one there, with a seal that ends in the given byte. -/
def cancunHeader (mark : ℕ) : Header :=
  { sampleHeader 1 0 mark 0 [] with
    beneficiary := 0
    ommersHash := emptyOmmerRootHash
    baseFeePerGas := some 0
    withdrawalsRoot := some emptyWithdrawalsHash
    blobGasUsed := some 0
    excessBlobGas := some 0
    parentBeaconBlockRoot := some 0 }

lemma cancunHeader_sealChecked (mark : ℕ) (hmark : mark < 2) :
    SealChecked Rlp.standard cancunParlia (cancunHeader mark) 56 := by
  interval_cases mark <;>
    exact ⟨⟨by decide, by decide, by decide, by decide, by decide, by decide, by decide +kernel⟩,
      by decide +kernel, by decide +kernel, by decide, by decide⟩

theorem seal_covers_header_two : SealChecked Rlp.standard cancunParlia (cancunHeader 0) 56 ∧
      SealChecked Rlp.standard cancunParlia (cancunHeader 1) 56 ∧
      cancunHeader 0 ≠ cancunHeader 1 ∧
      ∃ signed seal₁ seal₂, seal₁.length = extraSealLen ∧ seal₂.length = extraSealLen ∧
        (cancunHeader 0).extraData = signed ++ seal₁ ∧
        cancunHeader 1 = { cancunHeader 0 with extraData := signed ++ seal₂ } := by
  have h0 := cancunHeader_sealChecked 0 (by decide)
  have h1 := cancunHeader_sealChecked 1 (by decide)
  have hbytes : encodeHeaderWithChainId Rlp.standard (cancunHeader 0) 56 =
      encodeHeaderWithChainId Rlp.standard (cancunHeader 1) 56 := by decide +kernel
  refine ⟨h0, h1, fun heq => ?_,
    (seal_covers_header Rlp.standard cancunParlia 56).1 _ _ h0 h1 hbytes⟩
  have hextra := congrArg Header.extraData heq
  revert hextra
  decide

end RethBsc
