import RethBsc.Primitives

/-!
The function selectors, error selectors, event topics and derived words of the CAS20
precompiles, as the literals the client carries.

A function selector is a value of its own type, so that a dispatcher is a `match` over it; the
four bytes of a call are looked up in the table of codes. What no precompile matches on is no
selector at all and reverts like one that the addressed precompile does not know.
-/

namespace RethBsc.Cas20

/-- The function selectors, `SEL_*` in the source. -/
inductive Selector
  | burnRole | defaultAdminRole | domainSeparator | maxCompositeChildren | maxUiMultiplier
  | metadataRole | mintReceiverScope | mintRole | minCompositeChildren | operatorRole | pauseRole
  | seizeExemptScope | seizeReceiverScope | seizeRole | transferExecutorScope
  | transferReceiverScope | transferSenderScope | unpauseRole | wadPrecision | activate
  | activationAdmin | allowance | announce | approve | balanceOf | balanceOfUi | batchMint | burn
  | burnWithMemo | cancelUiMultiplier | checkActivated | compositeChildIds | contractUri
  | createCas20 | createComposite | createPolicy | createPolicyWithAccounts | currency | deactivate
  | decimals | effectiveAt | eip712Domain | extraMetadata | finalizeUpdateAdmin | fromUiAmount
  | getCas20Address | getRoleAdmin | grantRole | hasRole | isActivated | isAnnouncementIdUsed
  | isAuthorized | isCas20 | isCas20Initialized | isPaused | mint | mintWithMemo | multiplier | name
  | newUiMultiplier | nonces | pause | pausedFeatures | pendingPolicyAdmin | permit | policyAdmin
  | policyExists | policyId | renounceAdmin | renounceLastAdmin | renounceRole | revokeRole
  | scaledBalanceOf | seizeWithMemo | setRoleAdmin | stageUpdateAdmin | supplyCap
  | supportsInterface | symbol | toRawBalance | toScaledBalance | toUiAmount | totalSupply
  | totalSupplyUi | transfer | transferFrom | transferFromWithMemo | transferFromWithMemoFormat
  | transferWithMemo | transferWithMemoFormat | uiMultiplier | unpause | updateAllowlist
  | updateBlocklist | updateComposite | updateContractUri | updateExtraMetadata | updateMultiplier
  | updateName | updateParam | updatePolicy | updateSupplyCap | updateSymbol | updateUiMultiplier
  | variantOf
  deriving DecidableEq

def Selector.code : Selector → BitVec 32
  | .burnRole => 0xb930908f
  | .defaultAdminRole => 0xa217fddf
  | .domainSeparator => 0x3644e515
  | .maxCompositeChildren => 0x54309870
  | .maxUiMultiplier => 0x785c0cf0
  | .metadataRole => 0x38841782
  | .mintReceiverScope => 0x6e5b013d
  | .mintRole => 0xe9a9c850
  | .minCompositeChildren => 0xb3ae29f7
  | .operatorRole => 0xf5b541a6
  | .pauseRole => 0x389ed267
  | .seizeExemptScope => 0xfeb346ec
  | .seizeReceiverScope => 0xb31da27f
  | .seizeRole => 0x3c7e9ba5
  | .transferExecutorScope => 0x724e9c53
  | .transferReceiverScope => 0x210f521b
  | .transferSenderScope => 0xd116fc21
  | .unpauseRole => 0x309756fb
  | .wadPrecision => 0x664808a8
  | .activate => 0x59db6e85
  | .activationAdmin => 0xf851a440
  | .allowance => 0xdd62ed3e
  | .announce => 0x595135dd
  | .approve => 0x095ea7b3
  | .balanceOf => 0x70a08231
  | .balanceOfUi => 0x437a9958
  | .batchMint => 0x68573107
  | .burn => 0x42966c68
  | .burnWithMemo => 0x38f23b0b
  | .cancelUiMultiplier => 0x2c97a0f0
  | .checkActivated => 0xde5bfd9b
  | .compositeChildIds => 0x7c40df74
  | .contractUri => 0xe8a3d485
  | .createCas20 => 0xa6e2e6f3
  | .createComposite => 0x6fdd1491
  | .createPolicy => 0xca5d55f6
  | .createPolicyWithAccounts => 0xa2d3044f
  | .currency => 0xe5a6b10f
  | .deactivate => 0x22eee84c
  | .decimals => 0x313ce567
  | .effectiveAt => 0x97a4064f
  | .eip712Domain => 0x84b0196e
  | .extraMetadata => 0x4ddf9da0
  | .finalizeUpdateAdmin => 0x33031a9c
  | .fromUiAmount => 0x65cd9b3c
  | .getCas20Address => 0x8d34473b
  | .getRoleAdmin => 0x248a9ca3
  | .grantRole => 0x2f2ff15d
  | .hasRole => 0x91d14854
  | .isActivated => 0xba87af80
  | .isAnnouncementIdUsed => 0xc0da474e
  | .isAuthorized => 0x55a1179e
  | .isCas20 => 0x95bc0b5a
  | .isCas20Initialized => 0xdd90c132
  | .isPaused => 0xbc61e733
  | .mint => 0x40c10f19
  | .mintWithMemo => 0xe44f0b12
  | .multiplier => 0x1b3ed722
  | .name => 0x06fdde03
  | .newUiMultiplier => 0xdc767007
  | .nonces => 0x7ecebe00
  | .pause => 0xa290249c
  | .pausedFeatures => 0xde9997e3
  | .pendingPolicyAdmin => 0x017548b7
  | .permit => 0xd505accf
  | .policyAdmin => 0x09dd0a47
  | .policyExists => 0x330f5637
  | .policyId => 0xdb3de624
  | .renounceAdmin => 0xefdb7fa3
  | .renounceLastAdmin => 0x6f79e3d7
  | .renounceRole => 0x36568abe
  | .revokeRole => 0xd547741f
  | .scaledBalanceOf => 0x1da24f3e
  | .seizeWithMemo => 0xf916d81b
  | .setRoleAdmin => 0x1e4e0091
  | .stageUpdateAdmin => 0x1d7ae695
  | .supplyCap => 0x8f770ad0
  | .supportsInterface => 0x01ffc9a7
  | .symbol => 0x95d89b41
  | .toRawBalance => 0x0ca06c44
  | .toScaledBalance => 0x04f04c99
  | .toUiAmount => 0x3248d4ff
  | .totalSupply => 0x18160ddd
  | .totalSupplyUi => 0x9bea6429
  | .transfer => 0xa9059cbb
  | .transferFrom => 0x23b872dd
  | .transferFromWithMemo => 0x929c2539
  | .transferFromWithMemoFormat => 0xa3cbabd7
  | .transferWithMemo => 0x95777d59
  | .transferWithMemoFormat => 0xaaa7dcce
  | .uiMultiplier => 0xa60bf13d
  | .unpause => 0x8b93dd63
  | .updateAllowlist => 0x3388fb5b
  | .updateBlocklist => 0x5c4e51b8
  | .updateComposite => 0xbfe142c0
  | .updateContractUri => 0x7e5b1e24
  | .updateExtraMetadata => 0xb2851ef5
  | .updateMultiplier => 0x5ffe6146
  | .updateName => 0x84da92a7
  | .updateParam => 0xac431751
  | .updatePolicy => 0xadf9c4ea
  | .updateSupplyCap => 0xe5a97f07
  | .updateSymbol => 0x537f5312
  | .updateUiMultiplier => 0x628e600f
  | .variantOf => 0x82cfdd52

/-- The selectors in the order of their declaration. -/
def Selector.all : List Selector := (List.range 105).map ofNat

example (s : Selector) : s ∈ Selector.all := by cases s <;> decide

/-- The selector that the first four bytes of a call spell. -/
def Selector.ofInput (input : Bytes) : Option Selector :=
  all.find? fun s => s.code.toNat == beNat (input.take 4)

/-- The selectors of the custom errors, `ERR_*` in the source. -/
inductive ErrorCode
  | acBadConfirmation | acUnauthorized | accountNotSeizable | alreadyActivated
  | announcementIdAlreadyUsed | announcementInProgress | batchSizeTooLarge
  | childPoliciesOutsideOfRange | contractPaused | delegateCallNotAllowed | effectiveAtInPast
  | effectiveAtTooFar | emptyBatch | emptyFeatureSet | expiredSignature | featureNotActivated
  | incompatiblePolicyType | initCallFailed | insufficientAllowance | insufficientBalance
  | internalCallFailed | internalCallMalformed | invalidApprover | invalidChildPolicy
  | invalidCurrency | invalidDecimals | invalidFormatId | invalidMetadataKey | invalidMultiplier
  | invalidReceiver | invalidSender | invalidSigner | invalidSpender | invalidSupplyCap
  | invalidValue | invalidVariant | lastAdminCannotRenounce | lengthMismatch | missingRequiredField
  | noPendingAdmin | nonPayable | notSoleAdmin | panic | policyForbids | policyNotFound
  | policyNotFoundId | staticCallNotAllowed | supplyCapExceeded | tokenAlreadyExists | uiMulMissing
  | uiMulExists | unauthorized | unauthorizedAddr | unknownParam | unsupportedScope
  | unsupportedVersion | zeroAddress
  deriving DecidableEq

def ErrorCode.code : ErrorCode → BitVec 32
  | .acBadConfirmation => 0x6697b232
  | .acUnauthorized => 0xe2517d3f
  | .accountNotSeizable => 0x91dbbc8d
  | .alreadyActivated => 0x866b0041
  | .announcementIdAlreadyUsed => 0xd10b3c9e
  | .announcementInProgress => 0x5c5f0829
  | .batchSizeTooLarge => 0x083e2f67
  | .childPoliciesOutsideOfRange => 0x697ec868
  | .contractPaused => 0xfd8c4245
  | .delegateCallNotAllowed => 0x0d89438e
  | .effectiveAtInPast => 0x14119cf6
  | .effectiveAtTooFar => 0x1ce214fa
  | .emptyBatch => 0xc2e5347d
  | .emptyFeatureSet => 0x4861ff45
  | .expiredSignature => 0xbd2a913c
  | .featureNotActivated => 0xb9b2a425
  | .incompatiblePolicyType => 0xf1011ef5
  | .initCallFailed => 0x4eae0860
  | .insufficientAllowance => 0x192b9e4e
  | .insufficientBalance => 0xdb42144d
  | .internalCallFailed => 0xb288a127
  | .internalCallMalformed => 0x4e2f143e
  | .invalidApprover => 0x8bc146c4
  | .invalidChildPolicy => 0x46508ef6
  | .invalidCurrency => 0x997c1de8
  | .invalidDecimals => 0xca950391
  | .invalidFormatId => 0xab95b961
  | .invalidMetadataKey => 0x86ea3abb
  | .invalidMultiplier => 0x6f12f3dc
  | .invalidReceiver => 0x9cfea583
  | .invalidSender => 0x4c14f64c
  | .invalidSigner => 0x7ba5ffb5
  | .invalidSpender => 0x4e15efda
  | .invalidSupplyCap => 0x0a3780ce
  | .invalidValue => 0x0a5a6041
  | .invalidVariant => 0xf10e8e43
  | .lastAdminCannotRenounce => 0x361513e7
  | .lengthMismatch => 0xab8b67c6
  | .missingRequiredField => 0x4a43ae87
  | .noPendingAdmin => 0xb4539afa
  | .nonPayable => 0x6fb1b0e9
  | .notSoleAdmin => 0x2a98e73b
  | .panic => 0x4e487b71
  | .policyForbids => 0xa43fec12
  | .policyNotFound => 0x720caa4f
  | .policyNotFoundId => 0xcccad523
  | .staticCallNotAllowed => 0xbeaba5b7
  | .supplyCapExceeded => 0x4b344b11
  | .tokenAlreadyExists => 0x15ef3a57
  | .uiMulMissing => 0xa7d6a5ca
  | .uiMulExists => 0x4481a68e
  | .unauthorized => 0x82b42900
  | .unauthorizedAddr => 0x8e4a23d6
  | .unknownParam => 0x97b88354
  | .unsupportedScope => 0xcdd98a4a
  | .unsupportedVersion => 0xc0d8b4e0
  | .zeroAddress => 0xd92e233d

/-- The event topics, `TOPIC_*` in the source. -/
inductive Topic
  | transfer | approval | roleGranted | roleRevoked | roleAdminChanged | seized | lastAdminRenounced
  | policyUpdated | paused | unpaused | supplyCapUpdated | nameUpdated | symbolUpdated
  | contractUriUpdated | eip712DomainChanged | memo | memoFormatDeclared | multiplierUpdated
  | announcement | endAnnouncement | extraMetadataUpdated | uiMultiplierUpdated
  | uiMultiplierUpdateCancelled | policyCreated | policyAdminStaged | policyAdminUpdated
  | compositePolicyUpdated | allowlistUpdated | blocklistUpdated | cas20Created | featureActivated
  | featureDeactivated | adminChanged | paramChange
  deriving DecidableEq

def Topic.hash : Topic → B256
  | .transfer =>
    0xddf252ad1be2c89b69c2b068fc378daa952ba7f163c4a11628f55a4df523b3ef
  | .approval =>
    0x8c5be1e5ebec7d5bd14f71427d1e84f3dd0314c0f7b2291e5b200ac8c7c3b925
  | .roleGranted =>
    0x2f8788117e7eff1d82e926ec794901d17c78024a50270940304540a733656f0d
  | .roleRevoked =>
    0xf6391f5c32d9c69d2a47ea670b442974b53935d1edc7fd64eb21e047a839171b
  | .roleAdminChanged =>
    0xbd79b86ffe0ab8e8776151514217cd7cacd52c909f66475c3af44e129f0b00ff
  | .seized =>
    0xa9aec5d8b86e2fa2fd6ac3af62f2622e3dfdab1967d4cbbb56a5df7d74cb887c
  | .lastAdminRenounced =>
    0xe8d3a9872e7ca325571ff1e4c51ddd69090a0345240cc605ccde365ec867cc67
  | .policyUpdated =>
    0x8b4790f7ff717fc8f60f07ae099e47ef318dc04b37ae98056b50a22b79056626
  | .paused =>
    0x3e849708b13f20dd0b87a503523c305e7604cd7e8f855e7a5ebe21397dfd7146
  | .unpaused =>
    0x086a815e5123cf1af5cb7a82f8b052bf96c622204c98b2f4f9782bf77f753c57
  | .supplyCapUpdated =>
    0x6d14f44808ce024f263432bc38d019a9951fbe674e9898b54844dbc8dc09c23a
  | .nameUpdated =>
    0x74321da206c1b9fa34367f7ece59ca49371dcd13820b9a5c3767ae1ecceed51a
  | .symbolUpdated =>
    0x64e8b5c6dcea43dd79766bb3b8af7c45968d12b68c960cf2da23856f34d598d4
  | .contractUriUpdated =>
    0xa5d4097edda6d87cb9329af83fb3712ef77eeb13738ffe43cc35a4ce305ad962
  | .eip712DomainChanged =>
    0x0a6387c9ea3628b88a633bb4f3b151770f70085117a15f9bf3787cda53f13d31
  | .memo =>
    0x6989f5818dcfd11f8cd53b27c94cec33dae1589735f03e639cba54553a1825e8
  | .memoFormatDeclared =>
    0x18d9dee6045d4b076f44c903257054dec63c9c2ba01b56b909fad8a35e6d17be
  | .multiplierUpdated =>
    0x4dbe4840d7465bd162f67814cea0b519567a2e0e578bcde61e7f4ced361e5a3d
  | .announcement =>
    0xccebf8218a62875909564adef86a6f4df81503cb617221e793357d62f8e813f7
  | .endAnnouncement =>
    0x96d64dafe2c790596430196b982ad1da3221cb3b0f4e6e2df77f2e4f71a90037
  | .extraMetadataUpdated =>
    0xd7bb345be29e78d635203d40fe0567e7ef19d5cd5cc5fcd25f768b8063e82aa1
  | .uiMultiplierUpdated =>
    0x2205df4534432b2f60654a3fdb48737ffdaf3e9edb1a498bd985bc026b15b055
  | .uiMultiplierUpdateCancelled =>
    0x883856335ba5f60c18b9817c4505d3c7d3f6223dcf39516b30c508c46a5e1cad
  | .policyCreated =>
    0x718d87917f0c4cfd1263707ef0e77c656ed8d8bfaca06152bdb0b8094142ec27
  | .policyAdminStaged =>
    0xdbf3b34a4c956c56ca05cd4b8f9293a4347ad61994445a4b89817d4a19561136
  | .policyAdminUpdated =>
    0x98925cfb1bc09c5b43dd0dd56d3d95aa04fb3300927580cc588c3f5dd58c15e1
  | .compositePolicyUpdated =>
    0x4ff6adaab31b0df87aa7b8b7320c52b8b3b5eede3bf28a6baaaa8b8b7e1d6363
  | .allowlistUpdated =>
    0x18c46532f90187ba11e436e21da087b684801d7f0787f2043f26f079c91e9ef0
  | .blocklistUpdated =>
    0x2ff63c102b1b9fd7f5d39f83039c5d6aaf50a414a4f2def2704e41be2628f1e3
  | .cas20Created =>
    0xc0c726edbec4bf665160de37131bd2309460ebd49941b2e3b6704a74c7900365
  | .featureActivated =>
    0x8c7a0ecdbb8d96e867e43ec1aef80027976ee493c18bef399fa799ed19752451
  | .featureDeactivated =>
    0x15bf65a782c3258c63268ba9d7aed710cf9f9315d3687d9a4632ccdad7926c84
  | .adminChanged =>
    0x4eb572e99196bed0270fbd5b17a948e19c3f50a97838cb0d2a75a823ff8e6c50
  | .paramChange =>
    0xf1ce9b2cbf50eeb05769a29e2543fd350cab46894a7dd9978a12d534bb20e633

def roleDefaultAdmin : B256 := 0

def roleMint : B256 := 0x154c00819833dac601ee5ddded6fda79d9d8b506b911b3dbd54cdb95fe6c3686

def roleBurn : B256 := 0xe97b137254058bd94f28d2f3eb79e2d34074ffb488d042e3bc958e0a57d2fa22

def roleSeize : B256 := 0x3469b8b0d89e9604f8510ed143f74a8336d22955d4f83e23bf53d9414e27f432

def rolePause : B256 := 0x139c2898040ef16910dc9f44dc697df79363da767d8bc92f2e310312b816e46d

def roleUnpause : B256 := 0x265b220c5a8891efdd9e1b1b7fa72f257bd5169f8d87e319cf3dad6ff52b94ae

def roleMetadata : B256 := 0x6bd6b5318a46e5fff572d5e4258a20774aab40cc35ac7680654b9081fcc82f80

def roleOperator : B256 := 0x97667070c54ef182b0f5858b034beac1b6f3089aa2d3188bb1e8929f4fa9b929

def scopeTransferSender : B256 := 0xb81736c875ab819dd97f59f2a6542cfb731ad52b4ae15a6f24df2fb02b0327f5

def scopeTransferReceiver : B256 :=
  0x8a4b3fa2d8b921852bc0089c6ef0958aa6961897be36fd731330fe2cd23f8363

def scopeTransferExecutor : B256 :=
  0x10be5173aff2a44e748bd9acd8b19fe34689581398a9db7ba2fb671e786ff7d8

def scopeMintReceiver : B256 := 0xa0d5ae037e66a09119acf080a1d807abb9b6d03b6b9130eb19f7c1e6bdb8ffc8

def scopeSeizeExempt : B256 := 0xedb5da348cfb67af08746d3afd1be81034b50d5c8576f31aff688f39dfd540ed

def scopeSeizeReceiver : B256 := 0xbf15b19caf5c77422c038bc25f26b8b815c3a14f6d04c6616076b81bcfe07b3d

def featureAsset : B256 := 0xaad5cc684994ec8b24b61a18b11c81e15b4e634dc316384aecaa401ee0744e83

def featureStablecoin : B256 := 0x397796e401b7a4d873181dea7977d9e27050faf36d281f9dc858416a405d2b75

def featurePolicyRegistry : B256 :=
  0xcc84b168b7eedbce699f3234b0a635f610f4aa826d72cc6a19f5b9a264557edf

def domainTypehash : B256 := 0x8b73c3c69bb8fe3d512ecc4cf759cc79239f7b179b0ffacaa9a75d522b39400f

def permitTypehash : B256 := 0x6e71edae12b1b97f4d1f60370fef10105fa2faae0126114a169c64845d6126c9

/-- `keccak256(0xEF)`, the code hash every initialized CAS20 account carries. -/
def markerCodeHash : B256 := 0x309b8896ee4c1ff7ec1966155373dee42663b6b40c3fedc70ba501684848d2a3

end RethBsc.Cas20
