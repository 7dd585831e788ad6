import RethBsc.DoubleSign
import RethBsc.SealPreimage

/-!
Double-sign evidence made of the client's own headers.

The precompile has its own header, its own decoder and its own seal hash. On a header that the
client accepts they agree with the client's, as long as the forks that add fields are active in the
order of the fields: then the fields that are there come before those that are missing, so that the
decoder finds each in its place. So whoever the client takes for the signer of two headers of one
number on one parent is convicted by them, and nobody is convicted otherwise.
-/

namespace RethBsc.DoubleSign

open Reader Rlp List DoubleSign.Header Reads

/-! ### The header on the wire -/

/-- A field that is left out if it is missing. -/
def present {α : Type} (encode : α → Bytes) (value : Option α) : Bytes := (value.map encode).getD []

variable (header : RethBsc.Header)

/-- The fields that a header has from the base fee on. -/
def encodeTail : Bytes :=
  present Rlp.encodeUint header.baseFeePerGas ++
  (present Rlp.standard.b256.encode header.withdrawalsRoot ++
  (present Rlp.encodeUint header.blobGasUsed ++
  (present Rlp.encodeUint header.excessBlobGas ++
  (present Rlp.standard.b256.encode header.parentBeaconBlockRoot ++
  (present Rlp.standard.b256.encode header.requestsHash ++
  (present Rlp.standard.b256.encode header.blockAccessListHash ++
  present Rlp.encodeUint header.slotNumber))))))

def encodeFields : Bytes :=
  Rlp.standard.b256.encode header.parentHash ++ (Rlp.standard.b256.encode header.ommersHash ++
  (Rlp.standard.address.encode header.beneficiary ++ (Rlp.standard.b256.encode header.stateRoot ++
  (Rlp.standard.b256.encode header.transactionsRoot ++
  (Rlp.standard.b256.encode header.receiptsRoot ++ (Rlp.standard.bloom.encode header.logsBloom ++
  (Rlp.encodeUint header.difficulty ++ (Rlp.encodeUint header.number ++
  (Rlp.encodeUint header.gasLimit ++ (Rlp.encodeUint header.gasUsed ++
  (Rlp.encodeUint header.timestamp ++ (Rlp.encodeBytes header.extraData ++
  (Rlp.standard.b256.encode header.mixHash ++ (Rlp.standard.b64.encode header.nonce ++
  encodeTail header))))))))))))))

def encodeHeader : Bytes := encodeList (encodeFields header)

def DoubleSignEvidence.encode (evidence : DoubleSignEvidence) : Bytes :=
  encodeList (evidence.chainId.encode ++
    (Rlp.encodeBytes evidence.headerBytes1 ++ Rlp.encodeBytes evidence.headerBytes2))

def evidenceOf (chainId : ℕ) (header1 header2 : RethBsc.Header) : DoubleSignEvidence :=
  ⟨.ofNat chainId, encodeHeader header1, encodeHeader header2⟩

/-! ### The header of the precompile -/

def FixedBytes.ofWord {w : ℕ} (v : BitVec (8 * w)) : FixedBytes w :=
  ⟨fixedBytes v, length_wordBytes _ _⟩

def FixedBytes.ofAddress (a : Address) : FixedBytes 20 := ⟨a.asSlice, a.length_asSlice⟩

def Header.ofConsensus : Header where
  parentHash := .ofWord (w := 32) header.parentHash
  uncleHash := .ofWord (w := 32) header.ommersHash
  coinbase := .ofAddress header.beneficiary
  root := .ofWord (w := 32) header.stateRoot
  txHash := .ofWord (w := 32) header.transactionsRoot
  receiptHash := .ofWord (w := 32) header.receiptsRoot
  bloom := .ofWord (w := 256) header.logsBloom
  difficulty := .ofNat header.difficulty
  number := .ofNat header.number
  gasLimit := header.gasLimit
  gasUsed := header.gasUsed
  time := header.timestamp
  extra := header.extraData
  mixDigest := .ofWord (w := 32) header.mixHash
  nonce := .ofWord (w := 8) header.nonce
  baseFee := header.baseFeePerGas.map .ofNat
  withdrawalsHash := header.withdrawalsRoot.map (.ofWord (w := 32))
  blobGasUsed := header.blobGasUsed
  excessBlobGas := header.excessBlobGas
  parentBeaconRoot := header.parentBeaconBlockRoot.map (.ofWord (w := 32))
  requestsHash := header.requestsHash.map (.ofWord (w := 32))
  blockAccessListHash := header.blockAccessListHash.map (.ofWord (w := 32))
  slotNumber := header.slotNumber

/-! ### Reading values back -/

variable {n chainId : ℕ} {consensus : RethBsc.Header}

lemma reads_fixedBytes (hn : n < 2 ^ 64) (a : FixedBytes n) :
    Reads (FixedBytes.decode n) a.encode a := by
  intro r
  rw [FixedBytes.encode, FixedBytes.decode, bind_apply, reads_payload (a.property.symm ▸ hn)]
  change (if h : a.val.length = n then pure ⟨a.val, h⟩ else throw .unexpectedLength :
    Reader (FixedBytes n)) r = _
  rw [dif_pos a.property]
  rfl

lemma reads_bigInt {n : RlpBigInt} (hn : n.bytes.length < 2 ^ 64) :
    Reads RlpBigInt.decode n.encode n := by
  intro r
  rw [RlpBigInt.encode, RlpBigInt.decode, bind_apply, reads_payload hn]
  change (if h : n.bytes.head? ≠ some 0 then pure ⟨n.bytes, h⟩ else throw .leadingZero :
    Reader RlpBigInt) r = _
  rw [dif_pos n.canonical]
  rfl

lemma encode_ofNat (hn : n < 2 ^ 256) : (RlpBigInt.ofNat n).encode = encodeUint n :=
  (encodeUint_eq hn).symm

lemma byteLen_ofNat (hn : n < 2 ^ 256) : (RlpBigInt.ofNat n).byteLen ≤ 32 :=
  length_trimmedBytes_le (by rwa [show 256 ^ 32 = 2 ^ 256 from rfl])

lemma reads_ofNat (hn : n < 2 ^ 256) : Reads RlpBigInt.decode (encodeUint n) (.ofNat n) := by
  have hlen : (RlpBigInt.ofNat n).bytes.length ≤ 32 := byteLen_ofNat hn
  rw [← encode_ofNat hn]
  exact reads_bigInt (by omega)

lemma reads_u64 (hn : n < 2 ^ 64) : Reads (uint 8) (encodeUint n) n :=
  reads_uint (by rwa [show 256 ^ 8 = 2 ^ 64 from rfl]) (by decide)

lemma encodeUint_ne_nil (n : ℕ) : encodeUint n ≠ [] := by
  rw [encodeUint]
  split_ifs <;> exact cons_ne_nil _ _

/-! ### The decoder on a header of the client -/

/-- The fields that a header has come before those that are missing, and the two newest are. -/
structure Positional (header : RethBsc.Header) : Prop where
  withdrawals : header.baseFeePerGas = none → header.withdrawalsRoot = none
  blobGasUsed : header.withdrawalsRoot = none → header.blobGasUsed = none
  excessBlobGas : header.blobGasUsed = none → header.excessBlobGas = none
  beaconRoot : header.excessBlobGas = none → header.parentBeaconBlockRoot = none
  requests : header.parentBeaconBlockRoot = none → header.requestsHash = none
  accessList : header.blockAccessListHash = none
  slot : header.slotNumber = none

namespace Positional

variable {consensus : RethBsc.Header} (h : Positional consensus)
include h

lemma after_excessBlobGas (hnone : consensus.excessBlobGas = none) :
    consensus.parentBeaconBlockRoot = none ∧ consensus.requestsHash = none :=
  ⟨h.beaconRoot hnone, h.requests (h.beaconRoot hnone)⟩

lemma after_blobGasUsed (hnone : consensus.blobGasUsed = none) :
    consensus.excessBlobGas = none ∧ consensus.parentBeaconBlockRoot = none ∧
      consensus.requestsHash = none :=
  ⟨h.excessBlobGas hnone, h.after_excessBlobGas (h.excessBlobGas hnone)⟩

lemma after_withdrawals (hnone : consensus.withdrawalsRoot = none) :
    consensus.blobGasUsed = none ∧ consensus.excessBlobGas = none ∧
      consensus.parentBeaconBlockRoot = none ∧ consensus.requestsHash = none :=
  ⟨h.blobGasUsed hnone, h.after_blobGasUsed (h.blobGasUsed hnone)⟩

lemma after_baseFee (hnone : consensus.baseFeePerGas = none) :
    consensus.withdrawalsRoot = none ∧ consensus.blobGasUsed = none ∧
      consensus.excessBlobGas = none ∧ consensus.parentBeaconBlockRoot = none ∧
      consensus.requestsHash = none :=
  ⟨h.withdrawals hnone, h.after_withdrawals (h.withdrawals hnone)⟩

end Positional

/-- The numbers of a header fit the types of the precompile's header. -/
structure Fits (header : RethBsc.Header) : Prop where
  difficulty : header.difficulty < 2 ^ 256
  number : header.number < 2 ^ 64
  gasLimit : header.gasLimit < 2 ^ 64
  gasUsed : header.gasUsed < 2 ^ 64
  timestamp : header.timestamp < 2 ^ 64
  baseFee : ∀ fee ∈ header.baseFeePerGas, fee < 2 ^ 256
  blobGasUsed : ∀ used ∈ header.blobGasUsed, used < 2 ^ 64
  excessBlobGas : ∀ excess ∈ header.excessBlobGas, excess < 2 ^ 64

lemma b256_encode (hash : B256) :
    standard.b256.encode hash = (FixedBytes.ofWord (w := 32) hash).encode := rfl

lemma b256_encode_ne_nil (hash : B256) : standard.b256.encode hash ≠ [] := by
  rw [b256_encode]
  exact encodeBytes_ne_nil _

lemma reads_b256 (hash : B256) : Reads (FixedBytes.decode 32) (standard.b256.encode hash)
    (.ofWord (w := 32) hash) := by
  rw [b256_encode]
  exact reads_fixedBytes (by decide) _

section Accepted

variable (hpos : Positional consensus) (hfits : Fits consensus)
include hpos hfits

lemma readsAll_tail (header : Header) : ReadsAll (tail header) (encodeTail consensus) { header with
      baseFee := (ofConsensus consensus).baseFee
      withdrawalsHash := (ofConsensus consensus).withdrawalsHash
      blobGasUsed := (ofConsensus consensus).blobGasUsed
      excessBlobGas := (ofConsensus consensus).excessBlobGas
      parentBeaconRoot := (ofConsensus consensus).parentBeaconRoot
      requestsHash := (ofConsensus consensus).requestsHash
      blockAccessListHash := (ofConsensus consensus).blockAccessListHash
      slotNumber := (ofConsensus consensus).slotNumber } := by
  have hfitFee := hfits.baseFee
  have hfitUsed := hfits.blobGasUsed
  have hfitExcess := hfits.excessBlobGas
  unfold encodeTail ofConsensus
  simp only
  rw [hpos.accessList, hpos.slot]
  -- at the first missing field nothing is left, and all the others are missing too
  cases hfee : consensus.baseFeePerGas with
  | none =>
    obtain ⟨hroot, hused, hexcess, hbeacon, hrequests⟩ := hpos.after_baseFee hfee
    rw [hroot, hused, hexcess, hbeacon, hrequests]
    rfl
  | some fee =>
  refine bind_all (optional (reads_ofNat (hfitFee fee hfee)) (encodeUint_ne_nil fee)) ?_
  cases hroot : consensus.withdrawalsRoot with
  | none =>
    obtain ⟨hused, hexcess, hbeacon, hrequests⟩ := hpos.after_withdrawals hroot
    rw [hused, hexcess, hbeacon, hrequests]
    rfl
  | some root =>
  refine bind_all (optional (reads_b256 root) (b256_encode_ne_nil root)) ?_
  cases hused : consensus.blobGasUsed with
  | none =>
    obtain ⟨hexcess, hbeacon, hrequests⟩ := hpos.after_blobGasUsed hused
    rw [hexcess, hbeacon, hrequests]
    rfl
  | some used =>
  refine bind_all (optional (reads_u64 (hfitUsed used hused)) (encodeUint_ne_nil used)) ?_
  cases hexcess : consensus.excessBlobGas with
  | none =>
    obtain ⟨hbeacon, hrequests⟩ := hpos.after_excessBlobGas hexcess
    rw [hbeacon, hrequests]
    rfl
  | some excess =>
  refine bind_all (optional (reads_u64 (hfitExcess excess hexcess)) (encodeUint_ne_nil excess)) ?_
  cases hbeacon : consensus.parentBeaconBlockRoot with
  | none =>
    rw [hpos.requests hbeacon]
    rfl
  | some parent =>
  refine bind_all (optional (reads_b256 parent) (b256_encode_ne_nil parent)) ?_
  cases consensus.requestsHash with
  | none => rfl
  | some requests =>
  refine bind_all (optional (reads_b256 requests) (b256_encode_ne_nil requests)) ?_
  rfl

lemma readsAll_fields (hextra : consensus.extraData.length < 2 ^ 64) :
    ReadsAll fields (encodeFields consensus) (.ofConsensus consensus) := by
  unfold encodeFields fields
  refine bind_all (reads_b256 _) ?_
  refine bind_all (reads_b256 _) ?_
  refine bind_all (reads_fixedBytes (by decide) (.ofAddress consensus.beneficiary)) ?_
  refine bind_all (reads_b256 _) ?_
  refine bind_all (reads_b256 _) ?_
  refine bind_all (reads_b256 _) ?_
  refine bind_all (reads_fixedBytes (by decide) (.ofWord (w := 256) consensus.logsBloom)) ?_
  refine bind_all (reads_ofNat hfits.difficulty) ?_
  refine bind_all (reads_ofNat (hfits.number.trans (by decide))) ?_
  refine bind_all (reads_u64 hfits.gasLimit) ?_
  refine bind_all (reads_u64 hfits.gasUsed) ?_
  refine bind_all (reads_u64 hfits.timestamp) ?_
  refine bind_all (reads_payload hextra) ?_
  refine bind_all (reads_b256 _) ?_
  refine bind_all (reads_fixedBytes (by decide) (.ofWord (w := 8) consensus.nonce)) ?_
  exact readsAll_tail hpos hfits _

/-- **The decoder finds the client's header.** -/
lemma decode_encodeHeader (hextra : consensus.extraData.length < 2 ^ 64)
    (hlen : (encodeFields consensus).length < 2 ^ 64) :
    decodeExact decode (encodeHeader consensus) = .ok (.ofConsensus consensus) := by
  refine decodeExact_of_readsAll (all ?_)
  intro r
  rw [decode, bind_apply, encodeHeader, reads_payload_list hlen]
  change (liftM ((fields (encodeFields consensus)).map Prod.fst) : Reader Header) r = _
  rw [readsAll_fields hpos hfits hextra]
  rfl

/-! ### The two seal hashes -/

omit hpos hfits in
lemma exists_of_ne_none {α β : Type} {a : Option α} {b : Option β} (h : a = none → b = none)
    (hb : b.isSome) : ∃ x, a = some x := by
  cases a with
  | none =>
    rw [h rfl] at hb
    cases hb
  | some x => exact ⟨x, rfl⟩

lemma sealPayload_ofConsensus (hchain : chainId < 2 ^ 256)
    (hzero : ∀ root ∈ consensus.parentBeaconBlockRoot, root = 0) :
    sealPayload (.ofConsensus consensus) (.ofNat chainId) = payload standard consensus chainId := by
  have hfitFee := hfits.baseFee
  unfold sealPayload payload baseFields cancunFields ofConsensus
  simp only
  rw [encode_ofNat hchain, encode_ofNat hfits.difficulty,
    encode_ofNat (hfits.number.trans (by decide))]
  cases hbeacon : consensus.parentBeaconBlockRoot with
  | none =>
    simp only [append_nil, flatten_cons, flatten_nil, append_assoc]
    rfl
  | some root =>
    obtain ⟨excess, hexcess⟩ := exists_of_ne_none hpos.beaconRoot (by rw [hbeacon]; rfl)
    obtain ⟨used, hused⟩ := exists_of_ne_none hpos.excessBlobGas (by rw [hexcess]; rfl)
    obtain ⟨withdrawals, hroot⟩ := exists_of_ne_none hpos.blobGasUsed (by rw [hused]; rfl)
    obtain ⟨fee, hfee⟩ := exists_of_ne_none hpos.withdrawals (by rw [hroot]; rfl)
    have hfeeBytes := encode_ofNat (hfitFee fee hfee)
    simp only [if_pos (hzero root hbeacon), hexcess, hused, hroot, hfee, Option.map_some,
      Option.getD_some, encodeOptional, hfeeBytes]
    cases consensus.requestsHash with
    | none =>
      simp only [Option.map_none, append_nil, flatten_append, flatten_cons,
        flatten_nil, append_assoc]
      rfl
    | some requests =>
      simp only [Option.map_some, append_nil, flatten_append, flatten_cons,
        flatten_nil, append_assoc]
      rfl

end Accepted

/-! ### Headers that the client accepts -/

/-- A header that the client accepts, whose values are in the range of their types. -/
structure Acceptable (parlia : Parlia) (header : RethBsc.Header) : Prop where
  range : header.InRange Rlp.standard parlia.spec.chainId
  fields : validateUnsealedHeaderFields parlia header = .ok ()
  extra : parlia.checkHeaderExtra header = .ok ()

variable {parlia : Parlia} {consensus : RethBsc.Header}

section

variable (h : Acceptable parlia consensus)
include h

lemma Acceptable.unsealedOk : UnsealedOk parlia.spec consensus :=
  validateUnsealedHeaderFields_ok_iff.mp h.fields

lemma Acceptable.positional
    (horder : parlia.spec.ForksInOrder consensus.number consensus.timestamp) :
    Positional consensus := by
  have hok := h.unsealedOk
  have hfee := hok.baseFee
  have hroot := hok.withdrawals
  have hblobs := hok.blobs
  have hbeacon := hok.beaconRoot
  have hrequests := hok.requests
  have hlondon : parlia.spec.isCancunActiveAtTimestamp consensus.number consensus.timestamp = true →
      parlia.spec.london.activeAtBlock consensus.number = true :=
    fun hcancun => (Bool.and_eq_true_iff.mp hcancun).1
  refine ⟨fun hnone => ?_, fun hnone => ?_, fun hnone => ?_, fun hnone => ?_, fun hnone => ?_,
    hok.accessList, hok.slot⟩
  · rw [hfee] at hnone
    split_ifs at hnone with hactive
    rw [hroot, if_neg fun hcancun => hactive (hlondon hcancun)]
  · rw [hroot] at hnone
    split_ifs at hnone with hcancun
    rw [if_neg hcancun] at hblobs
    exact hblobs.2
  · split_ifs at hblobs with hcancun
    · obtain ⟨used, excess, hfields⟩ := hblobs
      rw [hfields.used] at hnone
      cases hnone
    · exact hblobs.1
  · split_ifs at hblobs with hcancun
    · obtain ⟨used, excess, hfields⟩ := hblobs
      rw [hfields.excess] at hnone
      cases hnone
    · rw [hbeacon, if_neg fun hbohr => hcancun (horder.bohr hbohr)]
  · rw [hbeacon] at hnone
    split_ifs at hnone with hbohr
    rw [← Option.not_isSome_iff_eq_none, hrequests]
    exact fun hprague => hbohr (horder.prague hprague)

lemma Acceptable.fits : Fits consensus := by
  have hok := h.unsealedOk
  have hrange := h.range
  have hfee := hok.baseFee
  have hblobs := hok.blobs
  refine ⟨hrange.difficulty, hrange.number, hrange.gasLimit, hok.gas.trans_lt hrange.gasLimit,
    hrange.timestamp, fun fee hmem => ?_, fun used hmem => ?_, fun excess hmem => ?_⟩
  · rw [hfee] at hmem
    split_ifs at hmem
    · cases hmem
      decide
    · cases hmem
  · split_ifs at hblobs
    · obtain ⟨used', excess, hfields⟩ := hblobs
      have hmax := hfields.max
      rw [hfields.used] at hmem
      cases hmem
      exact hmax.trans_lt (by decide)
    · rw [hblobs.2] at hmem
      cases hmem
  · have hfit := hrange.excessBlobGas
    rwa [hmem] at hfit

lemma Acceptable.beaconRoot_eq_zero : ∀ root ∈ consensus.parentBeaconBlockRoot, root = 0 := by
  intro root hroot
  rw [h.unsealedOk.beaconRoot] at hroot
  split_ifs at hroot
  · exact (Option.some.inj hroot).symm
  · cases hroot

lemma Acceptable.sealHash_eq (hpos : Positional consensus)
    (hchain : chainId < 2 ^ 256) (deps : EvidenceDeps) :
    sealHash deps (.ofConsensus consensus) (.ofNat chainId) =
      deps.keccak256 (encodeHeaderWithChainId standard consensus chainId) := by
  rw [sealHash, sealPayload_ofConsensus hpos h.fits hchain h.beaconRoot_eq_zero, encodeList,
    length_payload]
  rfl

end

/-! ### Signers -/

/-- The client's hash of what is signed, by a hash function. -/
def sealingDeps (deps : EvidenceDeps) (clientDeps : Deps) : Deps :=
  { clientDeps with
    hashWithChainId := fun header chainId =>
      deps.keccak256 (encodeHeaderWithChainId Rlp.standard header chainId) }

def addressWord (a : Address) : FixedBytes 32 :=
  ⟨List.replicate 12 0 ++ a.asSlice, by
    rw [List.length_append, List.length_replicate, Address.asSlice, length_wordBytes]
    rfl⟩

def RecoversAlike (deps : EvidenceDeps) (clientDeps : Deps) (recid : UInt8) : Prop :=
  ∀ digest sig, deps.ecrecover sig recid digest =
    (clientDeps.recoverEcdsa digest sig recid).map addressWord

def recoveryId : UInt8 := byteAt header.extraData (header.extraData.length - 1)

def sealBytes : Bytes := header.extraData.drop (header.extraData.length - extraSealLen)

lemma recover_ofConsensus {deps : EvidenceDeps} {clientDeps : Deps} {signer : Address}
    (hpos : Positional consensus) (haccepted : Acceptable parlia consensus)
    (hchain : parlia.spec.chainId < 2 ^ 256)
    (halike : RecoversAlike deps clientDeps (recoveryId consensus))
    (h : parlia.recoverProposer consensus (sealingDeps deps clientDeps) = .ok signer) :
    (ofConsensus consensus).recover deps (.ofNat parlia.spec.chainId) =
      some (addressWord signer) := by
  unfold Parlia.recoverProposer at h
  simp only at h
  split at h
  · cases h
  next hlen =>
  split at h
  next proposer hrecover =>
    cases h
    unfold recover
    have hoffset : consensus.extraData.length - extraSealLen + extraSealLen - 1 =
        consensus.extraData.length - 1 := by omega
    have htake : (ofConsensus consensus).sig.take 64 =
        slice consensus.extraData (consensus.extraData.length - extraSealLen)
          (consensus.extraData.length - extraSealLen + extraSealLen - 1) := by
      rw [slice, drop_take, Nat.add_sub_assoc (by decide), Nat.add_sub_cancel_left]
      rfl
    have hbyte : byteAt (ofConsensus consensus).sig 64 = recoveryId consensus := by
      have hindex : consensus.extraData.length - extraSealLen + 64 =
          consensus.extraData.length - 1 := hoffset
      rw [recoveryId, byteAt, byteAt, getD_eq_getElem?_getD, getD_eq_getElem?_getD,
        ← hindex, ← getElem?_drop]
      rfl
    rw [hoffset] at htake hrecover
    have hclient : clientDeps.recoverEcdsa
        (deps.keccak256 (encodeHeaderWithChainId standard consensus parlia.spec.chainId))
        (slice consensus.extraData (consensus.extraData.length - extraSealLen)
          (consensus.extraData.length - 1)) (recoveryId consensus) = some signer := hrecover
    rw [haccepted.sealHash_eq hpos hchain, htake, hbyte, halike, hclient, Option.map_some]
  · cases h

/-! ### The precompile on evidence of the client's headers -/

lemma length_le_encodeBytes (bs : Bytes) : bs.length ≤ (encodeBytes bs).length := by
  rw [encodeBytes]
  split_ifs
  · exact le_rfl
  · rw [length_append]
    omega

lemma length_le_encodeList (bs : Bytes) : bs.length ≤ (encodeList bs).length := by
  rw [encodeList, length_append]
  omega

lemma decode_encodeEvidence {evidence : DoubleSignEvidence}
    (hlen : evidence.encode.length < 2 ^ 64) :
    decodeExact DoubleSignEvidence.decode evidence.encode = .ok evidence := by
  set body := evidence.chainId.encode ++
    (encodeBytes evidence.headerBytes1 ++ encodeBytes evidence.headerBytes2) with hbody
  have hbodyLen : body.length < 2 ^ 64 := (length_le_encodeList body).trans_lt hlen
  have hparts := hbodyLen
  rw [hbody, length_append, length_append] at hparts
  have hchain : evidence.chainId.bytes.length ≤ evidence.chainId.encode.length :=
    length_le_encodeBytes _
  have hfirst := length_le_encodeBytes evidence.headerBytes1
  have hsecond := length_le_encodeBytes evidence.headerBytes2
  refine decodeExact_of_readsAll (all (reads_list hbodyLen ?_))
  refine bind (reads_bigInt (by omega)) ?_
  refine bind (reads_payload (by omega)) ?_
  exact last (reads_payload (by omega)) _

lemma beNat_eq_ofTrimmed (bs : Bytes) : beNat bs = ofTrimmed bs := by
  induction bs using reverseRecOn with
  | nil => rfl
  | append_singleton bs b ih =>
    rw [beNat] at ih
    rw [beNat, foldl_append, ih, ofTrimmed, ofTrimmed, reverse_append,
      reverse_singleton, singleton_append, map_cons, Nat.ofDigits_cons]
    exact Nat.add_comm _ _

lemma beNat_replicate_append (n : ℕ) (bs : Bytes) :
    beNat (List.replicate n 0 ++ bs) = beNat bs := by
  induction n with
  | zero => rfl
  | succ n ih => exact ih

lemma length_encodeFields_lt {header1 header2 : RethBsc.Header}
    (hlen : (evidenceOf chainId header1 header2).encode.length < 2 ^ 64) :
    (encodeFields header1).length < 2 ^ 64 ∧ (encodeFields header2).length < 2 ^ 64 := by
  have hbody := (length_le_encodeList _).trans_lt hlen
  rw [length_append, length_append] at hbody
  have hfirst := (length_le_encodeList (encodeFields header1)).trans
    (length_le_encodeBytes (encodeHeader header1))
  have hsecond := (length_le_encodeList (encodeFields header2)).trans
    (length_le_encodeBytes (encodeHeader header2))
  change _ ≤ (encodeBytes (evidenceOf chainId header1 header2).headerBytes1).length at hfirst
  change _ ≤ (encodeBytes (evidenceOf chainId header1 header2).headerBytes2).length at hsecond
  omega

lemma encodeResult_eq (addr : FixedBytes 32) {number : RlpBigInt}
    (h : number.byteLen ≤ maxBlockNumberBytes) :
    ∃ height : Bytes, encodeResult addr number = addr.val.drop 12 ++ height ∧
      height.length = 32 ∧ beNat height = number.value := by
  refine ⟨_, rfl, ?_, ?_⟩
  · have hwidth : number.bytes.length ≤ 32 := h
    rw [length_append, length_replicate]
    unfold RlpBigInt.byteLen maxBlockNumberBytes
    omega
  · rw [beNat_replicate_append, beNat_eq_ofTrimmed]
    rfl

variable {deps : EvidenceDeps}

lemma runInner_eq_success_iff {input : Bytes} {gasLimit reservoir perByteGas gasUsed r : ℕ}
    {output : Bytes} : doubleSignEvidenceValidationRunInner deps input gasLimit reservoir
      perByteGas = .success gasUsed output r ↔ evidenceCost input.length perByteGas ≤ gasLimit ∧
    ∃ evidence header1 header2, decodeExact DoubleSignEvidence.decode input = .ok evidence ∧
      decodeExact decode evidence.headerBytes1 = .ok header1 ∧
      decodeExact decode evidence.headerBytes2 = .ok header2 ∧
      verifyHeaders deps evidence.chainId header1 header2 (evidenceCost input.length perByteGas)
        reservoir = .success gasUsed output r := by
  unfold doubleSignEvidenceValidationRunInner
  simp only
  constructor
  · intro h
    split at h
    · cases h
    next hgas =>
    split at h
    · cases h
    next evidence hevidence =>
    split at h
    · cases h
    next header1 hheader1 =>
    split at h
    · cases h
    next header2 hheader2 =>
    exact ⟨not_lt.mp hgas, evidence, header1, header2, hevidence, hheader1, hheader2, h⟩
  · rintro ⟨hgas, evidence, header1, header2, hevidence, hheader1, hheader2, h⟩
    rw [if_neg (not_lt.mpr hgas), hevidence]
    simp only
    rw [hheader1]
    simp only
    rw [hheader2]
    exact h

/-! ### Sound and complete -/

/-- Two headers of one number on one parent that the client accepts, sealed by one signer with
different seals over different hashes. -/
structure SealedTwice (deps : EvidenceDeps) (clientDeps : Deps) (parlia : Parlia)
    (header1 header2 : RethBsc.Header) (signer : Address) : Prop where
  chainId : parlia.spec.chainId < 2 ^ 64
  accepted1 : Acceptable parlia header1
  accepted2 : Acceptable parlia header2
  number : header1.number = header2.number
  parentHash : header1.parentHash = header2.parentHash
  seals : sealBytes header1 ≠ sealBytes header2
  hashes : (sealingDeps deps clientDeps).hashWithChainId header1 parlia.spec.chainId ≠
    (sealingDeps deps clientDeps).hashWithChainId header2 parlia.spec.chainId
  signer1 : parlia.recoverProposer header1 (sealingDeps deps clientDeps) = .ok signer
  signer2 : parlia.recoverProposer header2 (sealingDeps deps clientDeps) = .ok signer

/-- The precompile decodes an encoded header, and to one with the client's seal hash. -/
def DecodesAlike (deps : EvidenceDeps) (clientDeps : Deps) (parlia : Parlia)
    (header : RethBsc.Header) : Prop :=
  ∃ decoded, decodeExact Header.decode (encodeHeader header) = .ok decoded ∧
    sealHash deps decoded (.ofNat parlia.spec.chainId) =
      (sealingDeps deps clientDeps).hashWithChainId header parlia.spec.chainId

lemma SealedTwice.doubleSigned {clientDeps : Deps} {header1 header2 : RethBsc.Header}
    {signer : Address} (h : SealedTwice deps clientDeps parlia header1 header2 signer)
    (hpos1 : Positional header1) (hpos2 : Positional header2)
    (halike1 : RecoversAlike deps clientDeps (recoveryId header1))
    (halike2 : RecoversAlike deps clientDeps (recoveryId header2)) :
    DoubleSigned deps (.ofNat parlia.spec.chainId) (.ofConsensus header1) (.ofConsensus header2)
      (addressWord signer) where
  number := congrArg RlpBigInt.ofNat h.number
  width := byteLen_ofNat (h.accepted1.range.number.trans (by decide))
  parentHash := congrArg (FixedBytes.ofWord (w := 32)) h.parentHash
  sealed1 := Parlia.checkHeaderExtra_seal h.accepted1.extra
  sealed2 := Parlia.checkHeaderExtra_seal h.accepted2.extra
  sigs := h.seals
  hashes := by
    have hchain := h.chainId.trans (by decide : 2 ^ 64 < 2 ^ 256)
    rw [h.accepted1.sealHash_eq hpos1 hchain, h.accepted2.sealHash_eq hpos2 hchain]
    exact h.hashes
  signer1 := recover_ofConsensus hpos1 h.accepted1 (h.chainId.trans (by decide)) halike1 h.signer1
  signer2 := recover_ofConsensus hpos2 h.accepted2 (h.chainId.trans (by decide)) halike2 h.signer2

/-- **Double-sign evidence is sound, and complete while the forks are in order.** A success names a
signer to whom both seals recover, over different hashes of headers of one number on one parent, and
the number. Two headers of the client sealed by one signer make evidence that names the signer, if
at each of them Bohr is active only with Cancun and Prague only with Bohr: the precompile decodes
them and computes the client's seal hashes. -/
theorem evidence_sound_complete (deps : EvidenceDeps) :
    (∀ input gasLimit reservoir perByteGas gasUsed output r,
      doubleSignEvidenceValidationRunInner deps input gasLimit reservoir perByteGas =
        .success gasUsed output r →
      ∃ evidence header1 header2 addr height,
        decodeExact DoubleSignEvidence.decode input = .ok evidence ∧
        decodeExact Header.decode evidence.headerBytes1 = .ok header1 ∧
        decodeExact Header.decode evidence.headerBytes2 = .ok header2 ∧
        DoubleSigned deps evidence.chainId header1 header2 addr ∧
        output = addr.val.drop 12 ++ height ∧ height.length = 32 ∧
        beNat height = header1.number.value) ∧
    ∀ clientDeps parlia header1 header2 signer gasLimit reservoir perByteGas,
      SealedTwice deps clientDeps parlia header1 header2 signer →
      RecoversAlike deps clientDeps (recoveryId header1) →
      RecoversAlike deps clientDeps (recoveryId header2) →
      parlia.spec.ForksInOrder header1.number header1.timestamp →
      parlia.spec.ForksInOrder header2.number header2.timestamp →
      (evidenceOf parlia.spec.chainId header1 header2).encode.length < 2 ^ 64 →
      evidenceCost (evidenceOf parlia.spec.chainId header1 header2).encode.length perByteGas ≤
        gasLimit →
      DecodesAlike deps clientDeps parlia header1 ∧ DecodesAlike deps clientDeps parlia header2 ∧
      ∃ height, doubleSignEvidenceValidationRunInner deps
          (evidenceOf parlia.spec.chainId header1 header2).encode gasLimit reservoir perByteGas =
        .success
          (evidenceCost (evidenceOf parlia.spec.chainId header1 header2).encode.length perByteGas)
          (signer.asSlice ++ height) reservoir ∧
        height.length = 32 ∧ beNat height = header1.number := by
  constructor
  · intro input gasLimit reservoir perByteGas gasUsed output r h
    obtain ⟨-, evidence, header1, header2, hevidence, hheader1, hheader2, hverify⟩ :=
      runInner_eq_success_iff.mp h
    obtain ⟨addr, hsigned, -, -, rfl⟩ := verifyHeaders_eq_success.mp hverify
    obtain ⟨height, hout, hlength, hvalue⟩ := encodeResult_eq addr hsigned.width
    exact ⟨evidence, header1, header2, addr, height, hevidence, hheader1, hheader2, hsigned, hout,
      hlength, hvalue⟩
  · intro clientDeps parlia header1 header2 signer gasLimit reservoir perByteGas h halike1 halike2
      horder1 horder2 hlen hgas
    have hpos1 := h.accepted1.positional horder1
    have hpos2 := h.accepted2.positional horder2
    have hchain := h.chainId.trans (by decide : 2 ^ 64 < 2 ^ 256)
    obtain ⟨hlen1, hlen2⟩ := length_encodeFields_lt hlen
    have hdecode1 := decode_encodeHeader hpos1 h.accepted1.fits h.accepted1.range.extraData hlen1
    have hdecode2 := decode_encodeHeader hpos2 h.accepted2.fits h.accepted2.range.extraData hlen2
    refine ⟨⟨_, hdecode1, h.accepted1.sealHash_eq hpos1 hchain deps⟩,
      ⟨_, hdecode2, h.accepted2.sealHash_eq hpos2 hchain deps⟩, ?_⟩
    have hsigned := h.doubleSigned hpos1 hpos2 halike1 halike2
    obtain ⟨height, hout, hlength, hvalue⟩ := encodeResult_eq (addressWord signer) hsigned.width
    have hword : (addressWord signer).val.drop 12 = signer.asSlice :=
      drop_left' (length_replicate ..)
    rw [hword] at hout
    refine ⟨height, ?_, hlength, hvalue.trans (Rlp.ofTrimmed_trimmedBytes _)⟩
    refine runInner_eq_success_iff.mpr
      ⟨hgas, _, _, _, decode_encodeEvidence hlen, hdecode1, hdecode2, ?_⟩
    exact verifyHeaders_eq_success.mpr ⟨_, hsigned, rfl, rfl, hout.symm⟩

/-! ### Headers of chains with their forks in order and out of order -/

/-- Signatures that spell out the digest and the signer. -/
def plainRecover (digest : B256) (sig : Bytes) : Option Address :=
  if sig.take 32 = B256.asSlice digest then some (.fromSlice (slice sig 32 52)) else none

/-- A hash that adds up the bytes, and signatures that spell out what they are of. -/
def plainDeps : EvidenceDeps where
  keccak256 bs := BitVec.ofNat 256 (bs.map UInt8.toNat).sum
  ecrecover sig _ digest := (plainRecover digest sig).map addressWord

def plainClientDeps : Deps :=
  { sampleDeps false with recoverEcdsa := fun digest sig _ => plainRecover digest sig }

lemma plain_recoversAlike (recid : UInt8) : RecoversAlike plainDeps plainClientDeps recid :=
  fun _ _ => rfl

/-- A header on the chain with id 56, sealed by signer 7. -/
def sealPlain : RethBsc.Header :=
  { header with
    extraData := signedExtraData header ++
      (B256.asSlice (plainDeps.keccak256 (encodeHeaderWithChainId Rlp.standard header 56)) ++
        (Address.asSlice (Fin.ofNat _ 7) ++ List.replicate 13 0)) }

/-- A header of block one where Cancun and Bohr are active, for one of two states. -/
def orderedHeader (mark : ℕ) : RethBsc.Header :=
  sealPlain { cancunHeader 0 with stateRoot := BitVec.ofNat 256 mark }

/-- The chain where Bohr is active from genesis on and Cancun never. -/
def bohrParlia : Parlia := ⟨sampleSpec (.block 0) (.timestamp 0) .never, 200⟩

def bohrHeader (mark : ℕ) : RethBsc.Header :=
  sealPlain { cancunHeader 0 with
    stateRoot := BitVec.ofNat 256 mark
    withdrawalsRoot := none
    blobGasUsed := none
    excessBlobGas := none }

lemma headers_acceptable (mark : ℕ) (hmark : mark < 2) :
    Acceptable cancunParlia (orderedHeader mark) ∧ Acceptable bohrParlia (bohrHeader mark) := by
  interval_cases mark <;> constructor <;>
    exact ⟨⟨by decide, by decide, by decide, by decide, by decide, by decide +kernel,
      by decide +kernel⟩, by decide +kernel, by decide +kernel⟩

lemma orderedHeader_sealedTwice : SealedTwice plainDeps plainClientDeps cancunParlia
    (orderedHeader 0) (orderedHeader 1) (Fin.ofNat _ 7) :=
  ⟨by decide, (headers_acceptable 0 (by decide)).1, (headers_acceptable 1 (by decide)).1, rfl,
    rfl, by decide +kernel, by decide +kernel, by decide +kernel, by decide +kernel⟩

/-- Two headers of one signer where Cancun and Bohr are active convict the signer. -/
theorem evidence_sound_complete_ordered : ∃ height, doubleSignEvidenceValidationRunInner plainDeps
        (evidenceOf 56 (orderedHeader 0) (orderedHeader 1)).encode 100000 0 16 =
      .success (evidenceCost (evidenceOf 56 (orderedHeader 0) (orderedHeader 1)).encode.length 16)
        (Address.asSlice (Fin.ofNat _ 7) ++ height) 0 ∧ height.length = 32 ∧ beNat height = 1 := by
  obtain ⟨-, -, h⟩ := (evidence_sound_complete plainDeps).2 plainClientDeps cancunParlia
    (orderedHeader 0) (orderedHeader 1) (Fin.ofNat _ 7) 100000 0 16 orderedHeader_sealedTwice
    (plain_recoversAlike _) (plain_recoversAlike _) ⟨fun _ => by decide, fun h => by cases h⟩
    ⟨fun _ => by decide, fun h => by cases h⟩ (by decide +kernel) (by decide +kernel)
  exact h

/-- **Where Bohr is active without Cancun, a signer goes free.** The precompile takes the beacon
root of the headers for a withdrawals root, and so hashes less than the seals are over. -/
theorem evidence_out_of_order :
    SealedTwice plainDeps plainClientDeps bohrParlia (bohrHeader 0) (bohrHeader 1) (Fin.ofNat _ 7) ∧
    (∀ recid, RecoversAlike plainDeps plainClientDeps recid) ∧
    (evidenceOf 56 (bohrHeader 0) (bohrHeader 1)).encode.length < 2 ^ 64 ∧
    evidenceCost (evidenceOf 56 (bohrHeader 0) (bohrHeader 1)).encode.length 16 ≤ 100000 ∧
    doubleSignEvidenceValidationRunInner plainDeps
        (evidenceOf 56 (bohrHeader 0) (bohrHeader 1)).encode 100000 0 16 =
      .revert (evidenceCost (evidenceOf 56 (bohrHeader 0) (bohrHeader 1)).encode.length 16)
        [] 0 := by
  have hsealed : SealedTwice plainDeps plainClientDeps bohrParlia (bohrHeader 0) (bohrHeader 1)
      (Fin.ofNat _ 7) :=
    ⟨by decide, (headers_acceptable 0 (by decide)).2, (headers_acceptable 1 (by decide)).2, rfl,
      rfl, by decide +kernel, by decide +kernel, by decide +kernel, by decide +kernel⟩
  exact ⟨hsealed, plain_recoversAlike, by decide +kernel, by decide +kernel, by decide +kernel⟩

end RethBsc.DoubleSign
