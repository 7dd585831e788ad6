import RethBsc.HeaderBuild

/-!
What a producer writes into the extra data is what the readers find there.

Both sides meet at one description: 32 vanity bytes, the epoch part, the attestation and 65
seal bytes. The builder produces extra data of this form, and each reader is proved against
the form alone.
-/

namespace RethBsc

open List Header UInt8 Nat VoteAddress

/-! ### Slices -/

lemma slice_append_append (a m b : Bytes) {start stop : ℕ} (hstart : start = a.length)
    (hstop : stop = a.length + m.length) : slice (a ++ (m ++ b)) start stop = m := by
  subst hstart hstop
  rw [slice, take_length_add_append, drop_left, take_left]

lemma byteAt_append_cons (a : Bytes) (x : UInt8) (b : Bytes) {i : ℕ} (hi : i = a.length) :
    byteAt (a ++ x :: b) i = x := by
  subst hi
  simp [byteAt]

/-! ### The form of the extra data -/

namespace Parlia

variable (parlia : Parlia)

/-- What an epoch block carries between vanity and attestation. -/
def epochPart (header : Header) (pairs : List (Address × VoteAddress)) (turnLength : UInt8) :
    Bytes :=
  if parlia.spec.isLubanActiveAtBlock header.number then
    UInt8.ofNat pairs.length :: (validatorCodec.encodeAll pairs ++
      if parlia.spec.isBohrActiveAtTimestamp header.number header.timestamp then [turnLength]
      else [])
  else addressCodec.encodeAll (pairs.map Prod.fst)

/-- The encoding of an attestation, nothing if there is none. -/
def attestationPart (deps : VoteDeps) (attestation : Option VoteAttestation) : Bytes :=
  (attestation.map deps.encodeAttestation).getD []

/-- The extra data of a header, read as its parts. -/
structure Laid (deps : VoteDeps) (epochLength : ℕ) (header : Header)
    (pairs : List (Address × VoteAddress)) (turnLength : UInt8)
    (attestation : Option VoteAttestation) : Prop where
  parts : ∃ vanity sealData : Bytes, vanity.length = extraVanityLen ∧
    sealData.length = extraSealLen ∧
    header.extraData = vanity ++ ((if isMultipleOf header.number epochLength then
      parlia.epochPart header pairs turnLength else []) ++
        (attestationPart deps attestation ++ sealData))
  count : isMultipleOf header.number epochLength = true → pairs.length ≤ 255
  luban : attestation.isSome = true → parlia.spec.isLubanActiveAtBlock header.number = true
  forks : parlia.spec.isBohrActiveAtTimestamp header.number header.timestamp = true →
    parlia.spec.isLubanActiveAtBlock header.number = true

lemma isMultipleOf_mul (n k : ℕ) : isMultipleOf (n * k) k = true :=
  decide_eq_true (mul_mod_left _ _)

/-! ### Validator records -/

lemma parseValidatorsAfterLuban_encodeAll (pairs : List (Address × VoteAddress)) :
    parseValidatorsAfterLuban (validatorCodec.encodeAll pairs) =
      ⟨pairs.map Prod.fst, some (pairs.map Prod.snd)⟩ := by
  have hcount : (validatorCodec.encodeAll pairs).length / validatorBytesLenAfterLuban =
      pairs.length := by
    rw [Codec.length_encodeAll]
    exact Nat.mul_div_cancel _ (by decide)
  have haddrs := validatorCodec.map_record_encodeAll pairs
    fun r => Address.fromSlice (r.take addressLength)
  have hvotes := validatorCodec.map_record_encodeAll pairs fun r => fromSlice (r.drop addressLength)
  have hfst : ∀ e : Address × VoteAddress,
      Address.fromSlice ((validatorCodec.encode e).take addressLength) = e.1 :=
    fun e => congrArg Prod.fst (validatorCodec.decode_encode e)
  have hsnd : ∀ e : Address × VoteAddress,
      fromSlice ((validatorCodec.encode e).drop addressLength) = e.2 :=
    fun e => congrArg Prod.snd (validatorCodec.decode_encode e)
  simp only [hfst] at haddrs
  simp only [hsnd] at hvotes
  simp only [parseValidatorsAfterLuban, hcount]
  exact congrArg₂ ValidatorsInfo.mk haddrs (congrArg some hvotes)

lemma parseValidatorsBeforeLuban_encodeAll (validators : List Address) :
    parseValidatorsBeforeLuban (addressCodec.encodeAll validators) = ⟨validators, none⟩ := by
  have hcount : (addressCodec.encodeAll validators).length / validatorBytesLenBeforeLuban =
      validators.length := by
    rw [Codec.length_encodeAll]
    exact Nat.mul_div_cancel _ (by decide)
  have haddrs := addressCodec.map_record_encodeAll validators Address.fromSlice
  have hdecode : ∀ a, Address.fromSlice (addressCodec.encode a) = a := addressCodec.decode_encode
  simp only [hdecode, map_id'] at haddrs
  simp only [parseValidatorsBeforeLuban, hcount]
  exact congrArg₂ ValidatorsInfo.mk haddrs rfl

/-- The encoding of attestations is read back, and is never empty. -/
structure AttestationRlp (deps : VoteDeps) : Prop where
  decode_encode : ∀ a, deps.decodeAttestation (deps.encodeAttestation a) = some a
  encode_ne_nil : ∀ a, deps.encodeAttestation a ≠ []

variable {parlia} {deps : VoteDeps} {epochLength : ℕ} {header : Header}
  {pairs : List (Address × VoteAddress)} {turnLength : UInt8} {attestation : Option VoteAttestation}

namespace Laid

variable (h : parlia.Laid deps epochLength header pairs turnLength attestation)

include h

lemma attestation_eq_none (hluban : parlia.spec.isLubanActiveAtBlock header.number = false) :
    attestation = none := by
  rw [← Option.not_isSome_iff_eq_none]
  intro hsome
  rw [h.luban hsome] at hluban
  cases hluban

lemma extraData_of_not_epoch (hepoch : isMultipleOf header.number epochLength = false) :
    ∃ vanity sealData : Bytes, vanity.length = extraVanityLen ∧ sealData.length = extraSealLen ∧
      header.extraData = vanity ++ (attestationPart deps attestation ++ sealData) := by
  obtain ⟨vanity, sealData, hv, hs, hextra⟩ := h.parts
  exact ⟨vanity, sealData, hv, hs, by simpa [hepoch] using hextra⟩

/-! ### The readers -/

lemma getValidatorBytes_of_not_epoch (hepoch : isMultipleOf header.number epochLength = false) :
    parlia.getValidatorBytesFromHeader header epochLength = none := by
  obtain ⟨vanity, sealData, hv, hs, hextra⟩ := h.extraData_of_not_epoch hepoch
  unfold getValidatorBytesFromHeader
  cases hluban : parlia.spec.isLubanActiveAtBlock header.number with
  | true => simp [hepoch]
  | false =>
    -- there is no attestation before Luban, so nothing lies between vanity and seal
    rw [h.attestation_eq_none hluban] at hextra
    simp [hextra, attestationPart, hv, hs]

section Before

variable (hepoch : isMultipleOf header.number epochLength)
  (hluban : parlia.spec.isLubanActiveAtBlock header.number = false)

include hepoch hluban

lemma extraData_of_epoch_before :
    ∃ vanity sealData : Bytes, vanity.length = extraVanityLen ∧ sealData.length = extraSealLen ∧
      header.extraData.length = extraVanityLen +
        (pairs.length * validatorBytesLenBeforeLuban + extraSealLen) ∧
      header.extraData = vanity ++ (addressCodec.encodeAll (pairs.map Prod.fst) ++ sealData) := by
  obtain ⟨vanity, sealData, hv, hs, hextra⟩ := h.parts
  rw [h.attestation_eq_none hluban] at hextra
  simp only [hepoch, if_true, epochPart, hluban, attestationPart] at hextra
  have hwidth : addressCodec.width = validatorBytesLenBeforeLuban := rfl
  exact ⟨vanity, sealData, hv, hs, by simp [hextra, hv, hs, hwidth], hextra⟩

variable (hpos : 0 < pairs.length)
include hpos

lemma getValidatorBytes_before : parlia.getValidatorBytesFromHeader header epochLength =
      some (addressCodec.encodeAll (pairs.map Prod.fst)) := by
  obtain ⟨vanity, sealData, hv, -, hlen, hextra⟩ := h.extraData_of_epoch_before hepoch hluban
  have hwidth : addressCodec.width = validatorBytesLenBeforeLuban := rfl
  have hbytes : 0 < pairs.length * validatorBytesLenBeforeLuban := mul_pos hpos (by decide)
  have hrest : header.extraData.length - extraVanityLen - extraSealLen =
      pairs.length * validatorBytesLenBeforeLuban := by omega
  have hslice : slice header.extraData extraVanityLen (header.extraData.length - extraSealLen) =
      addressCodec.encodeAll (pairs.map Prod.fst) := by
    have hstop : header.extraData.length - extraSealLen =
        vanity.length + (addressCodec.encodeAll (pairs.map Prod.fst)).length := by
      rw [hlen, hv, Codec.length_encodeAll, length_map, hwidth]
      omega
    rw [hstop, hextra]
    exact slice_append_append _ _ _ hv.symm rfl
  have hlong : ¬header.extraData.length ≤ extraVanityLen + extraSealLen := by omega
  simp only [getValidatorBytesFromHeader, if_neg hlong, hluban, hepoch, hrest, hslice,
    isMultipleOf_mul]
  rfl

lemma checkHeaderExtra_of_epoch_before
    (hmult : isMultipleOf header.number (parlia.getEpochLength header)) :
    parlia.checkHeaderExtra header = .ok () := by
  obtain ⟨-, -, -, -, hlen, -⟩ := h.extraData_of_epoch_before hepoch hluban
  have hvanity : ¬header.extraData.length < extraVanityLen := by omega
  have hseal : ¬header.extraData.length < extraVanityLen + extraSealLen := by omega
  have hrest : header.extraData.length - extraVanityLen - extraSealLen =
      pairs.length * validatorBytesLenBeforeLuban := by omega
  have hcount : ¬(pairs.length * validatorBytesLenBeforeLuban /
      validatorBytesLenBeforeLuban = 0 ∨ isMultipleOf (pairs.length *
        validatorBytesLenBeforeLuban) validatorBytesLenBeforeLuban = false) := by
    rw [isMultipleOf_mul, Nat.mul_div_cancel _ (by decide)]
    simpa using hpos.ne'
  have hbytes : parlia.getValidatorLenFromHeader header ≠ 0 := by
    simp only [getValidatorLenFromHeader, hmult, hluban, hrest]
    exact (mul_pos hpos (by decide)).ne'
  simp only [checkHeaderExtra, checkHeaderExtraLen, if_neg hvanity, if_neg hseal, hmult,
    hluban, hrest, if_neg hcount, hbytes]
  rfl

end Before

section After

variable (hepoch : isMultipleOf header.number epochLength)
  (hluban : parlia.spec.isLubanActiveAtBlock header.number)

include hepoch hluban

lemma extraData_of_epoch_after : ∃ vanity turn sealData : Bytes, vanity.length = extraVanityLen ∧
      sealData.length = extraSealLen ∧
      turn = (if parlia.spec.isBohrActiveAtTimestamp header.number header.timestamp
        then [turnLength] else []) ∧
      (if parlia.spec.isBohrActiveAtTimestamp header.number header.timestamp
        then turnLengthSize else 0) = turn.length ∧
      (byteAt header.extraData extraVanityLen).toNat = pairs.length ∧
      header.extraData.length = extraVanityLen + (pairs.length * validatorBytesLenAfterLuban +
        (turn.length + ((attestationPart deps attestation).length + extraSealLen)) + 1) ∧
      header.extraData = vanity ++ ofNat pairs.length ::
        (validatorCodec.encodeAll pairs ++ (turn ++ (attestationPart deps attestation ++ sealData)))
      := by
  obtain ⟨vanity, sealData, hv, hs, hextra⟩ := h.parts
  simp only [hepoch, if_true, epochPart, hluban, cons_append, append_assoc] at hextra
  refine ⟨vanity, _, sealData, hv, hs, rfl, by split_ifs <;> rfl, ?_, ?_, hextra⟩
  · have hlt : pairs.length < 256 := lt_succ_of_le (h.count hepoch)
    rw [hextra, byteAt_append_cons _ _ _ hv.symm, toNat_ofNat_of_lt' hlt]
  · have hwidth : validatorCodec.width = validatorBytesLenAfterLuban := rfl
    rw [hextra]
    simp [hv, hs, hwidth]

variable (hpos : 0 < pairs.length)
include hpos

lemma getValidatorBytes_after : parlia.getValidatorBytesFromHeader header epochLength =
      some (validatorCodec.encodeAll pairs) := by
  obtain ⟨vanity, turn, sealData, hv, -, -, hturn, hcount, hlen, hextra⟩ :=
    h.extraData_of_epoch_after hepoch hluban
  have hbytes : 0 < pairs.length * validatorBytesLenAfterLuban := mul_pos hpos (by decide)
  have hslice : slice header.extraData (extraVanityLen + validatorNumberSize)
      (extraVanityLen + validatorNumberSize + pairs.length * validatorBytesLenAfterLuban) =
        validatorCodec.encodeAll pairs := by
    have hfront : header.extraData = (vanity ++ [ofNat pairs.length]) ++
        (validatorCodec.encodeAll pairs ++
          (turn ++ (attestationPart deps attestation ++ sealData))) := by
      simp [hextra]
    have hstart : extraVanityLen + validatorNumberSize =
        (vanity ++ [ofNat pairs.length]).length := by simp [hv, validatorNumberSize]
    rw [hfront]
    refine slice_append_append _ _ _ hstart ?_
    rw [hstart, Codec.length_encodeAll]
    rfl
  have hlong : ¬header.extraData.length ≤ extraVanityLen + extraSealLen := by omega
  have henough : ¬(pairs.length = 0 ∨ header.extraData.length < extraVanityLen +
      validatorNumberSize + pairs.length * validatorBytesLenAfterLuban + extraSealLen +
        turn.length) := by
    simp only [validatorNumberSize]
    omega
  simp only [getValidatorBytesFromHeader, if_neg hlong, hluban, hepoch, if_true, Bool.not_true,
    Bool.false_eq_true, if_false, hcount, hturn, if_neg henough, hslice]

lemma checkHeaderExtra_of_epoch_after
    (hmult : isMultipleOf header.number (parlia.getEpochLength header)) :
    parlia.checkHeaderExtra header = .ok () := by
  obtain ⟨-, turn, -, -, -, -, -, hcount, hlen, -⟩ := h.extraData_of_epoch_after hepoch hluban
  have hindex : extraVanityLen + validatorNumberSize - 1 = extraVanityLen := rfl
  have hvanity : ¬header.extraData.length < extraVanityLen := by omega
  have hseal : ¬header.extraData.length < extraVanityLen + extraSealLen := by omega
  have henough : ¬(pairs.length = 0 ∨ header.extraData.length < extraVanityLen +
      validatorNumberSize + extraSealLen + pairs.length * validatorBytesLenAfterLuban) := by
    simp only [validatorNumberSize]
    omega
  have hbytes : parlia.getValidatorLenFromHeader header ≠ 0 := by
    simp only [getValidatorLenFromHeader, hmult, hluban, hindex, hcount]
    exact (mul_pos hpos (by decide)).ne'
  simp only [checkHeaderExtra, checkHeaderExtraLen, if_neg hvanity, if_neg hseal, hmult,
    hluban, hindex, hcount, if_neg henough, hbytes]
  rfl

end After

omit h in
lemma parseValidators_of_bytes {valBytes : Bytes}
    (hbytes : parlia.getValidatorBytesFromHeader header epochLength = some valBytes)
    (hne : valBytes ≠ []) : parlia.parseValidatorsFromHeader header epochLength =
      .ok (if parlia.spec.isLubanActiveAtBlock header.number
        then parseValidatorsAfterLuban valBytes else parseValidatorsBeforeLuban valBytes) := by
  unfold parseValidatorsFromHeader
  rw [hbytes]
  split
  · next hnone => cases hnone
  · next hnil => exact absurd (Option.some.inj hnil) hne
  · next bs _ hbs =>
    cases hbs
    split <;> rfl

lemma parseValidators_of_epoch (hepoch : isMultipleOf header.number epochLength)
    (hpos : 0 < pairs.length) :
    parlia.parseValidatorsFromHeader header epochLength = .ok ⟨pairs.map Prod.fst,
      if parlia.spec.isLubanActiveAtBlock header.number then some (pairs.map Prod.snd)
      else none⟩ := by
  cases hluban : parlia.spec.isLubanActiveAtBlock header.number with
  | true =>
    rw [parseValidators_of_bytes (h.getValidatorBytes_after hepoch hluban hpos)
      (validatorCodec.encodeAll_ne_nil (by decide) hpos), hluban,
      parseValidatorsAfterLuban_encodeAll]
    rfl
  | false =>
    rw [parseValidators_of_bytes (h.getValidatorBytes_before hepoch hluban hpos)
      (addressCodec.encodeAll_ne_nil (by decide) (by simpa using hpos)), hluban,
      parseValidatorsBeforeLuban_encodeAll]
    rfl

lemma parseValidators_of_not_epoch (hepoch : isMultipleOf header.number epochLength = false) :
    parlia.parseValidatorsFromHeader header epochLength =
      .error (.invalidHeaderExtraLen header.extraData.length) := by
  rw [parseValidatorsFromHeader, h.getValidatorBytes_of_not_epoch hepoch]

lemma getTurnLength (hepoch : isMultipleOf header.number epochLength) :
    parlia.getTurnLengthFromHeader header epochLength =
      .ok (if parlia.spec.isBohrActiveAtTimestamp header.number header.timestamp
        then some turnLength else none) := by
  cases hbohr : parlia.spec.isBohrActiveAtTimestamp header.number header.timestamp with
  | false => simp [getTurnLengthFromHeader, hbohr]
  | true =>
    obtain ⟨vanity, turn, sealData, hv, -, hturn, -, hcount, hlen, hextra⟩ :=
      h.extraData_of_epoch_after hepoch (h.forks hbohr)
    rw [hbohr, if_pos rfl] at hturn
    subst hturn
    rw [length_singleton] at hlen
    have hbyte : byteAt header.extraData
        (extraVanityLen + 1 + pairs.length * validatorBytesLenAfterLuban) = turnLength := by
      have hfront : header.extraData = (vanity ++ ofNat pairs.length ::
          validatorCodec.encodeAll pairs) ++
            turnLength :: (attestationPart deps attestation ++ sealData) := by
        simp [hextra]
      rw [hfront]
      refine byteAt_append_cons _ _ _ ?_
      rw [length_append, length_cons, Codec.length_encodeAll, hv, add_assoc, add_comm 1]
      rfl
    have hlong : ¬header.extraData.length ≤ extraVanityLen + extraSealLen := by omega
    have hpos : ¬header.extraData.length ≤
        extraVanityLen + 1 + pairs.length * validatorBytesLenAfterLuban := by omega
    simp only [getTurnLengthFromHeader, hepoch, hbohr, Bool.not_true, Bool.or_self,
      Bool.false_eq_true, if_false, if_neg hlong, hcount, if_neg hpos, hbyte, if_true]

lemma rawAttestationData_eq (hluban : parlia.spec.isLubanActiveAtBlock header.number) :
    parlia.rawAttestationData header epochLength = attestationPart deps attestation := by
  cases hepoch : isMultipleOf header.number epochLength with
  | false =>
    obtain ⟨vanity, sealData, hv, hs, hextra⟩ := h.extraData_of_not_epoch hepoch
    have hstop : header.extraData.length - extraSealLen =
        vanity.length + (attestationPart deps attestation).length := by
      rw [hextra, length_append, length_append, hs]
      omega
    simp only [rawAttestationData, hepoch, Bool.not_false, if_true]
    rw [hstop, hextra]
    exact slice_append_append _ _ _ hv.symm rfl
  | true =>
    obtain ⟨vanity, turn, sealData, hv, hs, -, hturn, hcount, -, hextra⟩ :=
      h.extraData_of_epoch_after hepoch hluban
    have hwidth : validatorCodec.width = validatorBytesLenAfterLuban := rfl
    have hfront : header.extraData = (vanity ++ ofNat pairs.length ::
        (validatorCodec.encodeAll pairs ++ turn)) ++
          (attestationPart deps attestation ++ sealData) := by
      simp [hextra]
    have hstart : extraVanityLen + validatorNumberSize +
        pairs.length * validatorBytesLenAfterLuban + turn.length = (vanity ++
          ofNat pairs.length :: (validatorCodec.encodeAll pairs ++ turn)).length := by
      rw [length_append, length_cons, length_append, Codec.length_encodeAll, hv,
        hwidth, validatorNumberSize]
      omega
    have hstop : header.extraData.length - extraSealLen = (vanity ++
        ofNat pairs.length :: (validatorCodec.encodeAll pairs ++ turn)).length +
          (attestationPart deps attestation).length := by
      simp only [hfront, length_append, hs]
      omega
    have hindex : extraVanityLen + validatorNumberSize - 1 = extraVanityLen := rfl
    simp only [rawAttestationData, hepoch, Bool.not_true, Bool.false_eq_true, if_false, hindex,
      hcount, hturn]
    rw [hstop, hstart, hfront]
    exact slice_append_append _ _ _ rfl rfl

lemma getVoteAttestation (hrlp : AttestationRlp deps) :
    parlia.getVoteAttestationFromHeader header epochLength deps.toDeps = .ok attestation := by
  unfold getVoteAttestationFromHeader
  cases hluban : parlia.spec.isLubanActiveAtBlock header.number with
  | false => simp [h.attestation_eq_none hluban]
  | true =>
    rw [h.rawAttestationData_eq hluban]
    cases hatt : attestation with
    | none => simp [attestationPart]
    | some a =>
      -- the encoding makes the extra data longer than vanity and seal
      have hraw : attestationPart deps (some a) = deps.encodeAttestation a := rfl
      have hpos : 0 < (attestationPart deps attestation).length := by
        rw [hatt, hraw]
        exact length_pos_iff.mpr (hrlp.encode_ne_nil a)
      obtain ⟨vanity, sealData, hv, hs, hextra⟩ := h.parts
      have hlong : ¬header.extraData.length ≤ extraVanityLen + extraSealLen := by
        simp only [hextra, length_append, hv, hs]
        omega
      simp only [if_neg hlong, Bool.not_true, Bool.false_eq_true, if_false, hraw]
      split
      · next hnil => exact absurd hnil (hrlp.encode_ne_nil a)
      · rw [hrlp.decode_encode a]

lemma le_length_extraData : extraVanityLen + extraSealLen ≤ header.extraData.length := by
  obtain ⟨vanity, sealData, hv, hs, hextra⟩ := h.parts
  simp only [hextra, length_append, hv, hs]
  omega

lemma checkHeaderExtra_of_not_epoch
    (hmult : isMultipleOf header.number (parlia.getEpochLength header) = false)
    (hwritten : parlia.spec.isLubanActiveAtBlock header.number ∨
      isMultipleOf header.number epochLength = false) :
    parlia.checkHeaderExtra header = .ok () := by
  have hlen := h.le_length_extraData
  have hvanity : ¬header.extraData.length < extraVanityLen := by omega
  have hzero : parlia.getValidatorLenFromHeader header = 0 := by
    cases hluban : parlia.spec.isLubanActiveAtBlock header.number with
    | true => simp [getValidatorLenFromHeader, hmult, hluban]
    | false =>
      obtain ⟨vanity, sealData, hv, hs, hextra⟩ :=
        h.extraData_of_not_epoch (hwritten.resolve_left (by simp [hluban]))
      rw [h.attestation_eq_none hluban] at hextra
      simp [getValidatorLenFromHeader, hmult, hluban, hextra, attestationPart, hv, hs]
  simp [checkHeaderExtra, checkHeaderExtraLen, hvanity, not_lt.mpr hlen, hmult, hzero]
  rfl

/-- The check accepts what is laid out with its own epochs, and from Luban on also what is laid
out with others, if validators are written wherever it asks for them. -/
lemma checkHeaderExtra_ok (hasked : isMultipleOf header.number (parlia.getEpochLength header) →
      isMultipleOf header.number epochLength)
    (hwritten : parlia.spec.isLubanActiveAtBlock header.number ∨
      epochLength = parlia.getEpochLength header)
    (hcount : isMultipleOf header.number epochLength → 0 < pairs.length) :
    parlia.checkHeaderExtra header = .ok () := by
  cases hmult : isMultipleOf header.number (parlia.getEpochLength header) with
  | false =>
    exact h.checkHeaderExtra_of_not_epoch hmult
      (hwritten.imp_right fun hsame => by rw [hsame, hmult])
  | true =>
    have hepoch := hasked hmult
    cases hluban : parlia.spec.isLubanActiveAtBlock header.number with
    | true => exact h.checkHeaderExtra_of_epoch_after hepoch hluban (hcount hepoch) hmult
    | false => exact h.checkHeaderExtra_of_epoch_before hepoch hluban (hcount hepoch) hmult

end Laid

/-! ### The pairs written -/

/-- The vote addresses that go with the validators: zeros on the block Luban activates at. -/
def votesFor (parlia : Parlia) (number : ℕ) (validators : List Address)
    (voteAddresses : List VoteAddress) : List VoteAddress :=
  if parlia.spec.isLubanTransitionAtBlock number then List.replicate validators.length 0
  else voteAddresses

def writtenPairs (parlia : Parlia) (number : ℕ) (validators : List Address)
    (voteAddresses : List VoteAddress) : List (Address × VoteAddress) :=
  (sortAddrs validators).map fun v => (v, ((voteMap
    (parlia.spec.isLubanTransitionAtBlock number) validators voteAddresses).get v).getD 0)

variable {validators : List Address} {voteAddresses : List VoteAddress}

lemma get_voteMap {number : ℕ} (hnodup : validators.Nodup) {i : ℕ} (hi : i < validators.length) :
    (voteMap (parlia.spec.isLubanTransitionAtBlock number) validators voteAddresses).get
      validators[i] = some ((parlia.votesFor number validators voteAddresses).getD i 0) := by
  unfold voteMap votesFor
  split_ifs
  · rw [OrdMap.foldl_insert_eq_ofList, OrdMap.get_ofList_of_nodup (v := 0)]
    · simp [hi]
    · simpa [Function.comp_def] using hnodup
    · exact mem_map.mpr ⟨_, getElem_mem hi, rfl⟩
  · rw [OrdMap.foldl_insert_eq_ofList]
    refine OrdMap.get_ofList_of_nodup (by simpa [Function.comp_def] using hnodup) ?_
    refine mem_map.mpr ⟨(validators[i], i), ?_, rfl⟩
    rw [mem_zipIdx_iff_getElem?]
    simp [hi]

/-- **The pairs written are the given ones**, each validator with its vote address. -/
theorem writtenPairs_perm (number : ℕ) (hnodup : validators.Nodup)
    (hlen : voteAddresses.length = validators.length) :
    (parlia.writtenPairs number validators voteAddresses).Perm
      (validators.zip (parlia.votesFor number validators voteAddresses)) := by
  have hvotes : (parlia.votesFor number validators voteAddresses).length = validators.length := by
    unfold votesFor
    split_ifs
    · simp
    · exact hlen
  have hzip : validators.map (fun v => (v, ((voteMap
      (parlia.spec.isLubanTransitionAtBlock number) validators voteAddresses).get v).getD 0)) =
        validators.zip (parlia.votesFor number validators voteAddresses) := by
    refine ext_getElem (by simp [hvotes]) fun i hi _ => ?_
    have hiv : i < validators.length := by simpa using hi
    have hil : i < (parlia.votesFor number validators voteAddresses).length := hvotes ▸ hiv
    simp [get_voteMap hnodup hiv, hil]
  rw [← hzip]
  exact (perm_sortAddrs validators).map _

@[simp] lemma map_fst_writtenPairs (number : ℕ) (validators : List Address)
    (voteAddresses : List VoteAddress) :
    (parlia.writtenPairs number validators voteAddresses).map Prod.fst = sortAddrs validators := by
  simp [writtenPairs, Function.comp_def]

@[simp] lemma length_writtenPairs (number : ℕ) (validators : List Address)
    (voteAddresses : List VoteAddress) :
    (parlia.writtenPairs number validators voteAddresses).length = validators.length := by
  rw [writtenPairs, length_map]
  exact (perm_sortAddrs validators).length_eq

/-! ### The builder writes this form -/

/-- The turn length `prepare_turn_length` writes. -/
def chosenTurnLength (cache : TurnLengthCache) (parentSnap : Snapshot) (parentHash : B256) :
    UInt8 :=
  ((cache.get parentHash).1.or parentSnap.turnLength).getD defaultTurnLength

/-- The attestation that is appended to a prepared header. -/
def attached {ε : Type} (parlia : Parlia) (collect : Collector ε)
    (header : Header) : Option VoteAttestation :=
  if !parlia.spec.isLubanActiveAtBlock header.number || decide (header.number < 3) then none
  else (collect header).toOption.join

def preparedHeader (parlia : Parlia) (cache : TurnLengthCache) (parentSnap : Snapshot)
    (difficulty blockTimestampMs : ℕ) (epochValidators : Option EpochValidators)
    (header : Header) : Header :=
  (parlia.prepareTurnLength cache parentSnap (parlia.prepareValidators parentSnap epochValidators
    (parlia.startHeader difficulty blockTimestampMs header))).1

variable {ε : Type} {sealHeader : SealHeader}
  {collect : Collector ε} {cache cache' : TurnLengthCache}
  {parentSnap : Snapshot} {difficulty blockTimestampMs : ℕ}
  {epochValidators : Option EpochValidators} {built : Header} {sealData : Bytes}

lemma startHeader_extraData (hextra : header.extraData.length ≤ extraVanityLen) :
    (parlia.startHeader difficulty blockTimestampMs header).extraData.length = extraVanityLen := by
  simp only [startHeader, setMillisecondPartOfTimestamp]
  split_ifs with _ hshort hshort <;> simp at hshort ⊢ <;> omega

lemma startHeader_position (difficulty blockTimestampMs : ℕ) (header : Header) :
    (parlia.startHeader difficulty blockTimestampMs header).position = header.position ∧
      (parlia.startHeader difficulty blockTimestampMs header).parentHash = header.parentHash := by
  simp only [startHeader, setMillisecondPartOfTimestamp]
  split_ifs <;> exact ⟨rfl, rfl⟩

lemma assembleOrKeep_eq (collect : Collector ε)
    (header : Header) : parlia.assembleOrKeep deps collect header =
      header.append (attestationPart deps (parlia.attached collect header)) := by
  have hnil : header.append [] = header := header.append_nil
  unfold assembleOrKeep assembleVoteAttestation attached
  split_ifs with hguard
  · exact hnil.symm
  · cases hcollect : collect header with
    | error e => exact hnil.symm
    | ok result =>
      cases result with
      | none => exact hnil.symm
      | some a => rfl

lemma attached_luban (hsome : (parlia.attached collect header).isSome) :
    parlia.spec.isLubanActiveAtBlock header.number := by
  by_contra hluban
  rw [attached, if_pos (by simp [hluban])] at hsome
  cases hsome

lemma sealExtra_ok {result : Header} (h : parlia.sealExtra sealHeader header = .ok result) :
    ∃ sealData : Bytes, sealData.length = extraSealLen ∧ result = header.append sealData := by
  unfold sealExtra at h
  simp only at h
  split at h
  · cases h
  · next sealData _ =>
    cases h
    refine ⟨sealData.1, sealData.2, ?_⟩
    simp [append, extraSealLen]

/-- The pairs written for the validators supplied, none if there are none. -/
def suppliedPairs (parlia : Parlia) (number : ℕ) (epochValidators : Option EpochValidators) :
    List (Address × VoteAddress) :=
  parlia.writtenPairs number (epochValidators.getD ([], [])).1 (epochValidators.getD ([], [])).2

lemma finalizeNewHeader_ok
    (h : parlia.finalizeNewHeader deps sealHeader collect cache parentSnap header blockTimestampMs
      epochValidators = some (.ok (built, cache'))) :
    ∃ (difficulty : ℕ) (sealData : Bytes),
      calculateDifficulty parentSnap header.beneficiary = some difficulty ∧
      sealData.length = extraSealLen ∧
      (isMultipleOf header.number parentSnap.epochNum →
        ∃ validators voteAddresses, epochValidators = some (validators, voteAddresses)) ∧
      let prepared := parlia.preparedHeader cache parentSnap difficulty blockTimestampMs
        epochValidators header
      built = prepared.append (attestationPart deps (parlia.attached collect prepared) ++ sealData)
      := by
  unfold finalizeNewHeader at h
  obtain ⟨difficulty, hdiff, h⟩ := Option.bind_eq_some_iff.mp h
  obtain ⟨hnumber, -⟩ := Prod.mk.inj
    (parlia.startHeader_position difficulty blockTimestampMs header).1
  simp only [assembleOrKeep_eq, hnumber] at h
  split_ifs at h with hmissing
  · cases h
  · obtain ⟨result, hseal, heq⟩ := map_eq_ok (Option.some.inj h)
    obtain ⟨sealData, hlen, rfl⟩ := sealExtra_ok hseal
    cases heq
    refine ⟨difficulty, sealData, hdiff, hlen, fun hepoch => ?_, append_append _ _ _⟩
    cases hvals : epochValidators with
    | some vals => exact ⟨vals.1, vals.2, rfl⟩
    | none => simp [hepoch, hvals] at hmissing

lemma prepareValidators_position (snap : Snapshot) (epochValidators : Option EpochValidators)
    (header : Header) :
    (parlia.prepareValidators snap epochValidators header).position = header.position := by
  unfold prepareValidators
  split
  · rfl
  · split
    · rfl
    · split <;> rfl

lemma prepareTurnLength_position (cache : TurnLengthCache) (snap : Snapshot) (header : Header) :
    (parlia.prepareTurnLength cache snap header).1.position = header.position := by
  unfold prepareTurnLength
  split <;> rfl

lemma preparedHeader_position (cache : TurnLengthCache) (parentSnap : Snapshot)
    (difficulty blockTimestampMs : ℕ) (epochValidators : Option EpochValidators)
    (header : Header) :
    (parlia.preparedHeader cache parentSnap difficulty blockTimestampMs epochValidators
      header).position = header.position := by
  rw [preparedHeader, prepareTurnLength_position, prepareValidators_position,
    (startHeader_position ..).1]

section Laying

variable (hforks : parlia.spec.isBohrActiveAtTimestamp header.number header.timestamp →
  parlia.spec.isLubanActiveAtBlock header.number)
include hforks

variable (hsome : isMultipleOf header.number parentSnap.epochNum →
  ∃ validators voteAddresses, epochValidators = some (validators, voteAddresses))
include hsome

lemma preparedHeader_eq (cache : TurnLengthCache) (difficulty blockTimestampMs : ℕ) :
    parlia.preparedHeader cache parentSnap difficulty blockTimestampMs epochValidators header =
      (parlia.startHeader difficulty blockTimestampMs header).append
        (if isMultipleOf header.number parentSnap.epochNum then
          parlia.epochPart header (parlia.suppliedPairs header.number epochValidators)
            (chosenTurnLength cache parentSnap header.parentHash)
        else []) := by
  obtain ⟨hposition, hparent⟩ := parlia.startHeader_position difficulty blockTimestampMs header
  obtain ⟨hnumber, htimestamp⟩ := Prod.mk.inj hposition
  cases hepoch : isMultipleOf header.number parentSnap.epochNum with
  | false =>
    simp [preparedHeader, prepareValidators, prepareTurnLength, hnumber, hepoch]
  | true =>
    obtain ⟨validators, voteAddresses, rfl⟩ := hsome hepoch
    cases hluban : parlia.spec.isLubanActiveAtBlock header.number with
    | false =>
      have hbohr : parlia.spec.isBohrActiveAtTimestamp header.number header.timestamp = false := by
        by_contra hb
        rw [hforks (by simpa using hb)] at hluban
        cases hluban
      simp [preparedHeader, prepareValidators, prepareTurnLength, epochPart, suppliedPairs, hnumber,
        htimestamp, hepoch, hluban, hbohr]
    | true =>
      cases hbohr : parlia.spec.isBohrActiveAtTimestamp header.number header.timestamp <;>
      simp [preparedHeader, prepareValidators, prepareTurnLength, epochPart, suppliedPairs,
        writtenPairs, chosenTurnLength, hnumber, htimestamp, hparent, hepoch, hluban, hbohr,
        (perm_sortAddrs validators).length_eq]

variable (hextra : header.extraData.length ≤ extraVanityLen)
  (hcount : ∀ validators voteAddresses, epochValidators = some (validators, voteAddresses) →
    validators.length ≤ 255)
include hextra hcount

lemma laid_prepared (deps : VoteDeps) (cache : TurnLengthCache) (difficulty blockTimestampMs : ℕ)
    (hseal : sealData.length = extraSealLen)
    (hluban : attestation.isSome → parlia.spec.isLubanActiveAtBlock header.number) :
    parlia.Laid deps parentSnap.epochNum
      ((parlia.preparedHeader cache parentSnap difficulty blockTimestampMs epochValidators
        header).append (attestationPart deps attestation ++ sealData))
      (parlia.suppliedPairs header.number epochValidators)
      (chosenTurnLength cache parentSnap header.parentHash) attestation := by
  obtain ⟨hn, ht⟩ := Prod.mk.inj (parlia.preparedHeader_position cache parentSnap difficulty
    blockTimestampMs epochValidators header)
  have hpart : ∀ bs pairs turnLength, parlia.epochPart ((parlia.preparedHeader cache parentSnap
      difficulty blockTimestampMs epochValidators header).append bs) pairs turnLength =
        parlia.epochPart header pairs turnLength := fun _ _ _ => by
    simp only [epochPart, number_append, timestamp_append, hn, ht]
  refine ⟨⟨(parlia.startHeader difficulty blockTimestampMs header).extraData, sealData,
    startHeader_extraData hextra, hseal, ?_⟩, ?_, ?_, ?_⟩
  · have hfront := congrArg extraData
      (preparedHeader_eq hforks hsome cache difficulty blockTimestampMs)
    rw [extraData_append] at hfront
    rw [hpart, number_append, hn, extraData_append, hfront, append_assoc]
  · intro hepoch
    rw [number_append, hn] at hepoch
    obtain ⟨validators, voteAddresses, rfl⟩ := hsome hepoch
    simpa [suppliedPairs] using hcount validators voteAddresses rfl
  · rwa [number_append, hn]
  · rwa [number_append, timestamp_append, hn, ht]

omit hsome in
lemma finalizeNewHeader_laid
    (h : parlia.finalizeNewHeader deps sealHeader collect cache parentSnap header blockTimestampMs
      epochValidators = some (.ok (built, cache'))) :
    ∃ difficulty, calculateDifficulty parentSnap header.beneficiary = some difficulty ∧
      built.number = header.number ∧ built.timestamp = header.timestamp ∧
      parlia.Laid deps parentSnap.epochNum built
        (parlia.suppliedPairs header.number epochValidators)
        (chosenTurnLength cache parentSnap header.parentHash)
        (parlia.attached collect (parlia.preparedHeader cache parentSnap difficulty
          blockTimestampMs epochValidators header)) := by
  obtain ⟨difficulty, sealData, hdiff, hseal, hsome, rfl⟩ := finalizeNewHeader_ok h
  obtain ⟨hn, ht⟩ := Prod.mk.inj (parlia.preparedHeader_position cache parentSnap difficulty
    blockTimestampMs epochValidators header)
  refine ⟨difficulty, hdiff, hn, ht, laid_prepared hforks hsome hextra hcount deps cache
    difficulty blockTimestampMs hseal fun hatt => ?_⟩
  have hluban := attached_luban hatt
  rwa [hn] at hluban

end Laying

/-- **What is built is read back.** If Bohr is active only where Luban is and the incoming
extra data is no longer than the vanity, a built header passes the checks of its extra data;
on epoch blocks the readers return the address-sorted pairs that were supplied, the turn
length and the attestation, and on other blocks only the attestation. -/
theorem finalizeNewHeader_roundTrip {ε : Type} {sealHeader : SealHeader}
    {collect : Collector ε} {cache cache' : TurnLengthCache}
    {parentSnap : Snapshot} {blockTimestampMs : ℕ} {epochValidators : Option EpochValidators}
    {built : Header} (hrlp : AttestationRlp deps)
    (hforks : parlia.spec.isBohrActiveAtTimestamp header.number header.timestamp = true →
      parlia.spec.isLubanActiveAtBlock header.number = true)
    (hextra : header.extraData.length ≤ extraVanityLen)
    (hsame : parentSnap.epochNum = parlia.getEpochLength header)
    (hvalid : ∀ validators voteAddresses, epochValidators = some (validators, voteAddresses) →
      validators.Nodup ∧ 0 < validators.length ∧ validators.length ≤ 255 ∧
        voteAddresses.length = validators.length)
    (h : parlia.finalizeNewHeader deps sealHeader collect cache parentSnap header blockTimestampMs
      epochValidators = some (.ok (built, cache'))) :
    parlia.checkHeaderExtra built = .ok () ∧
      (∃ difficulty, calculateDifficulty parentSnap header.beneficiary = some difficulty ∧
        parlia.getVoteAttestationFromHeader built parentSnap.epochNum deps.toDeps =
          .ok (parlia.attached collect (parlia.preparedHeader cache parentSnap difficulty
            blockTimestampMs epochValidators header))) ∧
      (isMultipleOf header.number parentSnap.epochNum = false →
        parlia.parseValidatorsFromHeader built parentSnap.epochNum =
          .error (.invalidHeaderExtraLen built.extraData.length) ∧
        parlia.getTurnLengthFromHeader built parentSnap.epochNum = .ok none) ∧
      (isMultipleOf header.number parentSnap.epochNum = true →
        ∃ validators voteAddresses, epochValidators = some (validators, voteAddresses) ∧
          (∃ pairs : List (Address × VoteAddress),
            pairs.Perm (validators.zip (parlia.votesFor header.number validators voteAddresses)) ∧
            (pairs.map Prod.fst).Pairwise (· ≤ ·) ∧
            parlia.parseValidatorsFromHeader built parentSnap.epochNum = .ok ⟨pairs.map Prod.fst,
              if parlia.spec.isLubanActiveAtBlock header.number then some (pairs.map Prod.snd)
              else none⟩) ∧
          parlia.getTurnLengthFromHeader built parentSnap.epochNum =
            .ok (if parlia.spec.isBohrActiveAtTimestamp header.number header.timestamp
              then some (chosenTurnLength cache parentSnap header.parentHash) else none)) := by
  obtain ⟨difficulty, hdiff, hn, ht, hlaid⟩ := finalizeNewHeader_laid hforks hextra
    (fun v a hva => (hvalid v a hva).2.2.1) h
  have hlength : parlia.getEpochLength built = parlia.getEpochLength header := by
    simp only [getEpochLength, hn, ht]
  obtain ⟨-, -, -, -, hsome, -⟩ := finalizeNewHeader_ok h
  have hpos : isMultipleOf header.number parentSnap.epochNum = true →
      0 < (parlia.suppliedPairs header.number epochValidators).length := by
    intro hepoch
    obtain ⟨validators, voteAddresses, rfl⟩ := hsome hepoch
    simpa [suppliedPairs] using (hvalid validators voteAddresses rfl).2.1
  refine ⟨hlaid.checkHeaderExtra_ok (hlength ▸ hsame ▸ id)
    (.inr (hsame.trans hlength.symm)) (hn ▸ hpos),
    ⟨difficulty, hdiff, hlaid.getVoteAttestation hrlp⟩, fun hepoch => ?_, fun hepoch => ?_⟩
  · rw [← hn] at hepoch
    refine ⟨hlaid.parseValidators_of_not_epoch hepoch, ?_⟩
    simp [getTurnLengthFromHeader, hepoch]
  · obtain ⟨validators, voteAddresses, rfl⟩ := hsome hepoch
    obtain ⟨hnodup, -, -, hlen⟩ := hvalid validators voteAddresses rfl
    have hpairs := hpos hepoch
    rw [← hn] at hepoch
    refine ⟨validators, voteAddresses, rfl,
      ⟨_, parlia.writtenPairs_perm header.number hnodup hlen, ?_, ?_⟩, ?_⟩
    · rw [map_fst_writtenPairs]
      exact pairwise_insertionSort _ _
    · rw [← hn]
      exact hn ▸ hlaid.parseValidators_of_epoch hepoch hpairs
    · rw [← hn, ← ht]
      exact hlaid.getTurnLength hepoch

end Parlia

/-! A concrete encoding of attestations: their numbers as strokes, then the extra bytes. -/

def strokes (n : ℕ) : Bytes := List.replicate n 1 ++ [0]

def readStrokes : Bytes → Option (ℕ × Bytes)
  | [] => none
  | b :: bs => if b = 0 then some (0, bs) else (readStrokes bs).map fun r => (r.1 + 1, r.2)

lemma readStrokes_strokes (n : ℕ) (bs : Bytes) : readStrokes (strokes n ++ bs) = some (n, bs) := by
  induction n with
  | zero => rfl
  | succ n ih =>
    have hcons : strokes (n + 1) ++ bs = 1 :: (strokes n ++ bs) := rfl
    rw [hcons, readStrokes, if_neg (by decide), ih]
    rfl

def strokeAttestation (a : VoteAttestation) : Bytes :=
  strokes a.voteAddressSet ++ (strokes a.aggSignature.toNat ++ (strokes a.data.sourceNumber ++
    (strokes a.data.sourceHash.toNat ++ (strokes a.data.targetNumber ++
      (strokes a.data.targetHash.toNat ++ a.extra)))))

def readAttestation (bs : Bytes) : Option VoteAttestation := do
  let (voteAddressSet, bs) ← readStrokes bs
  let (aggSignature, bs) ← readStrokes bs
  let (sourceNumber, bs) ← readStrokes bs
  let (sourceHash, bs) ← readStrokes bs
  let (targetNumber, bs) ← readStrokes bs
  let (targetHash, bs) ← readStrokes bs
  return ⟨voteAddressSet, BitVec.ofNat _ aggSignature, ⟨sourceNumber, BitVec.ofNat _ sourceHash,
    targetNumber, BitVec.ofNat _ targetHash⟩, bs⟩

def strokeDeps : VoteDeps :=
  { sampleDeps true with
    decodeAttestation := readAttestation
    envelopeHash := fun vote => BitVec.ofNat 256 vote.data.targetNumber
    verify := fun (sig : VoteSignature) _ _ => decide (sig = 0)
    aggregate := List.head?
    signatureToBytes := id
    encodeAttestation := strokeAttestation }

lemma strokeDeps_rlp : Parlia.AttestationRlp strokeDeps where
  decode_encode a := by
    simp [strokeDeps, strokeAttestation, readAttestation, readStrokes_strokes]
  encode_ne_nil a := by simp [strokeDeps, strokeAttestation, strokes]

/-- Luban as given, Bohr from genesis on. -/
def buildParlia (luban : ForkCondition) : Parlia where
  spec :=
    { chainId := 56
      bscForkActivation
        | .luban => luban
        | .bohr => .timestamp 0
        | _ => .never
      london := .block 0
      prague := .never }
  epoch := 200

lemma length_buildSeal : (List.replicate extraSealLen (7 : UInt8)).length = extraSealLen :=
  length_replicate

/-- Two validators, epochs of 200 blocks and a turn length of 3. -/
def buildSnap : Snapshot :=
  { (Snapshot.new [1, 2] 199 0 200 none).getD default with turnLength := some 3 }

def buildAttestation : VoteAttestation := ⟨3, 0, ⟨197, 2, 198, 3⟩, []⟩

/-- Builds a block with an attestation on top of the snapshot's block. -/
def buildHeader (luban : ForkCondition) (number : ℕ) (extra : Bytes) :
    Option (Except SignerError (Header × TurnLengthCache)) :=
  (buildParlia luban).finalizeNewHeader strokeDeps
    (fun _ _ => .ok ⟨List.replicate extraSealLen 7, length_buildSeal⟩)
    (fun _ => (.ok (some buildAttestation) : Except Unit (Option VoteAttestation))) ⟨1024, []⟩
    buildSnap { sampleHeader number 0 1 0 [] with extraData := extra } 0
    (some ([2, 1], [20, 10]))

/-- Bohr without Luban appends a turn length that the checks do not expect, and incoming extra
data beyond the vanity is read as part of the attestation. -/
theorem built_not_read_back : (((buildHeader .never 200 []).bind Except.toOption).map fun built =>
        (buildParlia .never).checkHeaderExtra built.1) =
      some (.error (.invalidHeaderExtraLen 138)) ∧
    (((buildHeader (.block 0) 201 (List.replicate 33 0)).bind Except.toOption).map fun built =>
        (buildParlia (.block 0)).getVoteAttestationFromHeader built.1 200 strokeDeps.toDeps) ≠
      some (.ok (some buildAttestation)) := by
  decide +kernel

/-- An epoch block with two validators, its turn length and an attestation. -/
theorem finalizeNewHeader_roundTrip_two : ∃ (built : Header) (cache' : TurnLengthCache),
    buildHeader (.block 0) 200 [] = some (.ok (built, cache')) ∧
      (buildParlia (.block 0)).checkHeaderExtra built = .ok () ∧
      (buildParlia (.block 0)).getTurnLengthFromHeader built 200 = .ok (some 3) := by
  obtain ⟨⟨built, cache'⟩, hbuilt⟩ : ∃ r, buildHeader (.block 0) 200 [] = some (.ok r) :=
    exists_ok_of_isSome (by decide +kernel)
  obtain ⟨hcheck, -, -, hread⟩ := Parlia.finalizeNewHeader_roundTrip strokeDeps_rlp
    (fun _ => by decide +kernel) (by decide) (by decide +kernel)
    (by rintro _ _ ⟨⟩; decide) hbuilt
  obtain ⟨-, -, -, -, hturn⟩ := hread (by decide +kernel)
  exact ⟨built, cache', hbuilt, hcheck, hturn.trans (by decide +kernel)⟩

end RethBsc
