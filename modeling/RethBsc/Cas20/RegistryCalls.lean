import RethBsc.Cas20.TokenCalls

/-!
What the entry points of the policy registry do, as actions on the registry.

Each write of the registry's storage changes one field of `World.registry`; a call that returns in
the ideal run was permitted and has led to the registry of its action (`Administrates`).
-/

namespace RethBsc.Cas20

open Prog RegistryAction World List Function

/-! ### Packed words -/

section Words

lemma wordAdmin_packPolicy (a : Address) : wordAdmin (packPolicy a) = a := by
  have hword : packPolicy a &&& BitVec.ofNat 256 (2 ^ 160 - 1) = addrKey a := by
    apply BitVec.eq_of_toNat_eq
    have hor : (addrKey a ||| existsBit).toNat = a.val ||| 2 ^ 255 := by
      rw [BitVec.toNat_or, toNat_addrKey]
      rfl
    rw [packPolicy, BitVec.toNat_and, hor, toNat_addrKey, BitVec.toNat_ofNat]
    rw [Nat.mod_eq_of_lt (by decide : 2 ^ 160 - 1 < 2 ^ 256), Nat.and_two_pow_sub_one_eq_mod,
      Nat.or_mod_two_pow]
    have hhigh : 2 ^ 255 % 2 ^ 160 = 0 := by decide
    rw [hhigh, Nat.or_zero, Nat.mod_eq_of_lt a.isLt]
  rw [wordAdmin, hword, Address.fromWord_addrKey]

@[simp] lemma idKey_inj {x y : U64} : idKey x = idKey y ↔ x = y := wU64_inj

lemma packChildren_zero (kids : List U64) : packChildren kids 0 =
    (if 0 < kids.length then wU64 (kids.getD 0 0) <<< (0 * 64) else 0) |||
    (if 1 < kids.length then wU64 (kids.getD 1 0) <<< (1 * 64) else 0) |||
    (if 2 < kids.length then wU64 (kids.getD 2 0) <<< (2 * 64) else 0) |||
    (if 3 < kids.length then wU64 (kids.getD 3 0) <<< (3 * 64) else 0) := by
  simp only [packChildren, List.range, List.range.loop, List.foldl]
  split_ifs <;> simp

lemma childLane_or (x y : U256) (i : ℕ) :
    childLane (x ||| y) i = childLane x i ||| childLane y i := by
  ext j hj
  simp [childLane]

lemma childLane_shift (k : U64) {i j : ℕ} (hi : i < 4) :
    childLane (wU64 k <<< (j * 64)) i = if i = j then k else 0 := by
  have hmod : i % 4 = i := Nat.mod_eq_of_lt hi
  apply BitVec.eq_of_getLsbD_eq
  intro b hb
  simp only [childLane, wU64, hmod, BitVec.getLsbD_setWidth, BitVec.getLsbD_ushiftRight,
    BitVec.getLsbD_shiftLeft, hb, decide_true, Bool.true_and]
  rcases lt_trichotomy i j with h | rfl | h
  · have hlow : i * 64 + b < j * 64 := by omega
    simp [hlow, h.ne]
  · have hin : i * 64 + b < 256 := by omega
    have hb' : b < 256 := by omega
    simp [hin, hb, hb']
  · have hout : ¬ i * 64 + b - j * 64 < 64 := by omega
    rw [if_neg h.ne', BitVec.getLsbD_of_ge k _ (not_lt.mp hout)]
    simp

lemma childLane_packChildren {kids : List U64} (hlen : kids.length ≤ compositeMaxChildren) {i : ℕ}
    (hi : i < kids.length) : childLane (packChildren kids 0) i = kids.getD i 0 := by
  have hi4 : i < 4 := hi.trans_le hlen
  have hlane : ∀ j, childLane (if j < kids.length then wU64 (kids.getD j 0) <<< (j * 64) else 0) i =
      if i = j then kids.getD i 0 else 0 := by
    intro j
    by_cases hj : i = j
    · subst hj
      rw [if_pos hi, childLane_shift _ hi4]
    · rw [if_neg hj]
      split_ifs
      · rw [childLane_shift _ hi4, if_neg hj]
      · simp [childLane]
  rw [packChildren_zero]
  simp only [childLane_or]
  rw [hlane 0, hlane 1, hlane 2, hlane 3]
  have hcases : i = 0 ∨ i = 1 ∨ i = 2 ∨ i = 3 := by omega
  rcases hcases with rfl | rfl | rfl | rfl <;> simp

end Words

section Writes

variable {w : World} {v : U256} {id : U64} {a : Address}

lemma childrenOf_set {k : Slot} {o : ℕ} (hk : k.layout = some (.policy, o))
    (ho : o ≠ slotChildren) (x : Address) : (w.set x k v).childrenOf = w.childrenOf := by
  have hne : ∀ k', k'.layout = some (Namespace.policy, slotChildren) → k' ≠ k := by
    rintro k' hk' rfl
    rw [hk] at hk'
    cases hk'
    exact ho rfl
  funext id
  simp only [childrenOf]
  rw [storage_set_of_ne (hne _ rfl)]
  congr 1
  refine map_congr_left fun i _ => ?_
  rw [storage_set_of_ne (hne _ rfl)]

lemma registry_set {k : Slot} {o : ℕ} (hk : k.layout = some (.policy, o)) (ho : o ≠ slotChildren)
    (x : Address) :
    (w.set x k v).registry = { (w.set x k v).registry with children := w.childrenOf } := by
  rw [← childrenOf_set hk ho x]
  rfl

lemma registry_setCounter {n : ℕ} (h : n < 2 ^ 64) :
    (w.set policyRegistryAddress (polSlot slotCounter) (BitVec.ofNat 256 n)).registry =
      { w.registry with counter := n } := by
  refine Eq.trans (registry_set rfl (by decide) _) ?_
  simp only [registry, Registry.mk.injEq, storage_set]
  simpa +decide [polSlot, mappingSlot] using h

lemma registry_setPolicyAdmin (id : U64) (a : Address) :
    (w.set policyRegistryAddress (mappingSlot (polSlot slotPolicies) (idKey id))
      (packPolicy a)).registry = w.registry.setAdmin id a := by
  refine Eq.trans (registry_set rfl (by decide) _) ?_
  simp only [registry, Registry.mk.injEq, Registry.setAdmin, storage_set]
  simp +decide [polSlot, mappingSlot, funext_iff, update_apply]
  refine ⟨fun x => ?_, fun x => ?_⟩
  · by_cases hx : x = id <;> simp [hx, wordExists, packPolicy, existsBit]
  · by_cases hx : x = id <;> simp [hx, wordAdmin_packPolicy]

lemma registry_setPendingAdmin (id : U64) (a : Address) :
    (w.set policyRegistryAddress (mappingSlot (polSlot slotPendingAdmins) (idKey id))
      (addrKey a)).registry = w.registry.setPending id a := by
  refine Eq.trans (registry_set rfl (by decide) _) ?_
  simp only [registry, Registry.mk.injEq, Registry.setPending, storage_set]
  simp +decide [polSlot, mappingSlot, funext_iff, update_apply]
  intro x
  split <;> simp [Address.fromWord_addrKey]

lemma registry_setMember (id : U64) (a : Address) (inSet : Bool) : (w.set policyRegistryAddress
      (mappingSlot (mappingSlot (polSlot slotMembers) (idKey id)) (addrKey a))
      (if inSet then 1 else 0)).registry = w.registry.setMember id a inSet := by
  refine Eq.trans (registry_set rfl (by decide) _) ?_
  simp only [registry, Registry.mk.injEq, Registry.setMember, storage_set]
  simp +decide [polSlot, mappingSlot, funext_iff, update_apply]
  intro x b
  by_cases hx : x = id <;> by_cases hb : b = a <;> cases inSet <;> simp [hx, hb]

lemma registry_setChildren {w' : World} {kids : List U64} (hpos : 0 < kids.length)
    (hlen : kids.length ≤ compositeMaxChildren) (id : U64)
    (hw' : w' = (w.set policyRegistryAddress (mappingSlot (polSlot slotChildren) (idKey id))
      (BitVec.ofNat 256 kids.length)).set policyRegistryAddress
      (.hash [] (mappingSlot (polSlot slotChildren) (idKey id)) 0) (packChildren kids 0)) :
    w'.registry = w.registry.setKids id kids := by
  have hcap : compositeMaxChildren = 4 := rfl
  have hself : w'.childrenOf id = kids := by
    have hcount : (BitVec.ofNat 256 kids.length).toNat % 2 ^ 64 = kids.length := by
      rw [BitVec.toNat_ofNat]
      omega
    have hstored : w'.storage policyRegistryAddress
        (mappingSlot (polSlot slotChildren) (idKey id)) = BitVec.ofNat 256 kids.length := by
      rw [hw', storage_set_of_ne (by simp [mappingSlot, polSlot]), storage_set_self]
    simp only [childrenOf, hstored, hcount]
    rw [if_neg (by omega)]
    refine ext_getElem (by simp) fun i hi _ => ?_
    have hik : i < kids.length := by simpa using hi
    have hword : Slot.add (.hash [] (mappingSlot (polSlot slotChildren) (idKey id)) 0) (i / 4) =
        .hash [] (mappingSlot (polSlot slotChildren) (idKey id)) 0 := by
      rw [Nat.div_eq_of_lt (by omega : i < 4)]
      rfl
    rw [getElem_map, getElem_range, hword, hw', storage_set_self,
      childLane_packChildren hlen hik, getD_eq_getElem?_getD, getElem?_eq_getElem hik,
      Option.getD_some]
  have hother : ∀ x, x ≠ id → w'.childrenOf x = w.childrenOf x := by
    intro x hx
    have hcount : w'.storage policyRegistryAddress (mappingSlot (polSlot slotChildren) (idKey x)) =
        w.storage policyRegistryAddress (mappingSlot (polSlot slotChildren) (idKey x)) := by
      rw [hw', storage_set_of_ne (by simp [mappingSlot, polSlot]), storage_set_of_ne (by simp [hx])]
    simp only [childrenOf, hcount]
    congr 1
    refine map_congr_left fun i _ => ?_
    rw [hw', storage_set_of_ne (by simp [Slot.add, hx]),
      storage_set_of_ne (by simp [Slot.add, mappingSlot, polSlot])]
  have hkids : w'.childrenOf = update w.childrenOf id kids := by
    funext x
    by_cases hx : x = id
    · rw [hx, hself, update_self]
    · rw [hother x hx, update_of_ne hx]
  simp only [registry, Registry.setKids, Registry.mk.injEq, hkids]
  simp +decide [hw', storage_set, polSlot, mappingSlot]

end Writes

/-! ### Routines -/

section Routines

variable {env : Env} {ctx : Ctx} {w w' : World} {id : U64} {a : Address} {u : Unit} {ptype n : ℕ}

@[simp] lemma returns_setCounter : Yields env (setCounter n) w u w' ↔
      w' = w.set policyRegistryAddress (polSlot slotCounter) (BitVec.ofNat 256 n) :=
  returns_putWord

@[simp] lemma returns_setPolicyAdmin : Yields env (setPolicyAdmin id a) w u w' ↔
      w' = w.set policyRegistryAddress (mappingSlot (polSlot slotPolicies) (idKey id))
        (packPolicy a) := by
  simp [setPolicyAdmin]

@[simp] lemma returns_setPendingAdmin : Yields env (setPendingAdmin id a) w u w' ↔
      w' = w.set policyRegistryAddress (mappingSlot (polSlot slotPendingAdmins) (idKey id))
        (addrKey a) := by
  simp [setPendingAdmin]

@[simp] lemma returns_setMember {inSet : Bool} : Yields env (setMember id a inSet) w u w' ↔
      w' = w.set policyRegistryAddress
        (mappingSlot (mappingSlot (polSlot slotMembers) (idKey id)) (addrKey a))
        (if inSet then 1 else 0) := by
  simp [setMember, memberSlot]

@[simp] lemma returns_requirePolicyExists : Yields env (requirePolicyExists id) w u w' ↔
      w.registry.knows id ∧ w' = w := by
  simp [requirePolicyExists]

@[simp] lemma returns_requirePolicyAdmin : Yields env (requirePolicyAdmin ctx id) w u w' ↔
      w.registry.Administers ctx.caller id ∧ w' = w := by
  simp [requirePolicyAdmin, Registry.Administers, and_assoc]

def World.SameNotes (w' w : World) : Prop := w'.renounced = w.renounced ∧ w'.wrapped = w.wrapped

lemma returns_ensureInitialized (h : Yields env ensureInitialized w n w') :
    n = w.registry.seeded.counter ∧ w'.registry = w.registry.seeded ∧ w'.SameNotes w := by
  simp only [ensureInitialized, returns_bind, returns_counter] at h
  obtain ⟨c, _, ⟨rfl, rfl⟩, h⟩ := h
  unfold Registry.seeded
  split_ifs at h ⊢ with hc
  · obtain ⟨rfl, rfl⟩ := returns_pure.mp h
    exact ⟨rfl, rfl, rfl, rfl⟩
  · simp only [returns_bind, returns_setPolicyAdmin, returns_setCounter, returns_pure] at h
    obtain ⟨_, _, rfl, _, _, rfl, _, _, rfl, rfl, rfl⟩ := h
    refine ⟨rfl, ?_, rfl, rfl⟩
    rw [registry_setCounter (by decide), registry_setPolicyAdmin, registry_setPolicyAdmin]

lemma returns_nextPolicyId (h : Yields env (nextPolicyId ptype) w id w') :
    id = w.registry.nextId ptype ∧ w.registry.seeded.counter < counterMax ∧
      w'.registry = { w.registry.seeded with counter := w.registry.seeded.counter + 1 } ∧
      w'.SameNotes w := by
  simp only [nextPolicyId, returns_bind, returns_reject, returns_setCounter, returns_pure] at h
  obtain ⟨c, w1, hinit, _, _, ⟨hmax, rfl⟩, _, _, rfl, rfl, rfl⟩ := h
  obtain ⟨rfl, hreg, hnotes⟩ := returns_ensureInitialized hinit
  have hlt : w.registry.seeded.counter < counterMax := not_le.mp hmax
  refine ⟨rfl, hlt, ?_, hnotes⟩
  rw [registry_setCounter (by simp only [counterMax] at hlt; omega), hreg]

lemma returns_setMembers {inSet : Bool} {accounts : List B256}
    (h : Yields env (setMembers id inSet accounts) w u w') :
    ∃ addrs, accounts.mapM addressFromWord = some addrs ∧
      w'.registry = w.registry.enroll id inSet addrs ∧ w'.SameNotes w := by
  induction accounts generalizing w with
  | nil =>
    simp only [setMembers, returns_pure] at h
    obtain ⟨-, rfl⟩ := h
    exact ⟨[], rfl, rfl, rfl, rfl⟩
  | cons x rest ih =>
    simp only [setMembers, liftM_eq, returns_bind, returns_ofExcept, returns_setMember] at h
    obtain ⟨addr, _, ⟨haddr, rfl⟩, _, _, rfl, hrest⟩ := h
    obtain ⟨addrs, haddrs, hreg, hnotes⟩ := ih hrest
    rw [orRevert_eq_ok] at haddr
    refine ⟨addr :: addrs, ?_, ?_, hnotes⟩
    · simp only [mapM_cons, haddr, haddrs]
      rfl
    · rw [hreg, registry_setMember]
      rfl

variable {kids : List U64}

lemma returns_requireChildrenExist (h : Yields env (requireChildrenExist kids) w u w') :
    (∀ k ∈ kids, w.registry.knows k) ∧ w' = w := by
  induction kids generalizing w with
  | nil => simpa [requireChildrenExist] using h
  | cons k rest ih =>
    simp only [requireChildrenExist, returns_bind, returns_requirePolicyExists] at h
    obtain ⟨_, w1, ⟨hk, rfl⟩, hrest⟩ := h
    obtain ⟨hall, rfl⟩ := ih hrest
    exact ⟨forall_mem_cons.mpr ⟨hk, hall⟩, rfl⟩

lemma returns_requireChildrenEligible (h : Yields env (requireChildrenEligible kids) w u w') :
    (∀ k ∈ kids, isSentinelPolicy k = false ∧ isComposite k = false) ∧ w' = w := by
  induction kids generalizing w with
  | nil => simpa [requireChildrenEligible] using h
  | cons k rest ih =>
    simp only [requireChildrenEligible, returns_bind, returns_reject] at h
    obtain ⟨_, w1, ⟨hk, rfl⟩, hrest⟩ := h
    obtain ⟨hall, rfl⟩ := ih hrest
    exact ⟨forall_mem_cons.mpr ⟨by simpa using hk, hall⟩, rfl⟩

/-- The ids of a list of words. -/
def readKids (words : List B256) : Except Cas20Err (List U64) :=
  words.mapM fun w => orRevert (u64FromWord w)

lemma length_readKids {words : List B256} (h : readKids words = .ok kids) :
    kids.length = words.length := by
  induction words generalizing kids with
  | nil =>
    cases h
    rfl
  | cons x rest ih =>
    rw [readKids, mapM_cons] at h
    obtain ⟨k, -, h⟩ := bind_eq_ok h
    obtain ⟨out, hrest, ⟨⟩⟩ := bind_eq_ok h
    simpa using ih hrest

lemma returns_validateChildren {words : List B256}
    (h : Yields env (validateChildren words) w kids w') :
    readKids words = .ok kids ∧ w.registry.ValidKids kids ∧ w' = w := by
  simp only [validateChildren, liftM_eq, returns_bind, returns_reject, returns_ofExcept,
    returns_pure] at h
  obtain ⟨_, _, ⟨hlen, rfl⟩, kids, _, ⟨hkids, rfl⟩, _, _, hexist, _, _, heligible, rfl, rfl⟩ := h
  obtain ⟨hknown, rfl⟩ := returns_requireChildrenExist hexist
  obtain ⟨helig, rfl⟩ := returns_requireChildrenEligible heligible
  have hsame := length_readKids hkids
  refine ⟨hkids, ⟨?_, ?_, fun k hk => ⟨hknown k hk, helig k hk⟩⟩, rfl⟩
  · omega
  · omega

lemma returns_setChildren (hpos : 0 < kids.length) (hlen : kids.length ≤ compositeMaxChildren)
    (h : Yields env (setChildren id kids) w u w') :
    w'.registry = w.registry.setKids id kids ∧ w'.SameNotes w := by
  have hwords : List.range ((compositeMaxChildren + 3) / 4) = [0] := rfl
  simp only [setChildren, childrenSlot, returns_bind, returns_mapSlot, returns_putWord,
    returns_stringDataRoot, hwords, writeChildren] at h
  obtain ⟨_, _, ⟨rfl, rfl⟩, _, _, rfl, _, _, ⟨rfl, rfl⟩, h⟩ := h
  rw [if_neg (by omega)] at h
  simp only [returns_bind, returns_putWord, returns_pure] at h
  obtain ⟨_, _, rfl, -, rfl⟩ := h
  exact ⟨registry_setChildren hpos hlen id rfl, rfl, rfl⟩

end Routines

/-! ### Entry points -/

def RegistryAction.ofCall (args : Bytes) : Selector → Except Cas20Err RegistryAction
  | .createPolicy => do
    return .create (← readWord args 1).toNat (← readAddress args 0) []
  | .createPolicyWithAccounts => do
    let accounts ← readWordArray args 2
    return .create (← readWord args 1).toNat (← readAddress args 0)
      (← orRevert (accounts.mapM addressFromWord))
  | .createComposite => do
    return .compose (← readWord args 1).toNat (← readAddress args 0)
      (← readKids (← readWordArray args 2))
  | .updateComposite =>
    do return .recompose (← readU64 args 0) (← readKids (← readWordArray args 1))
  | .updateAllowlist | .updateBlocklist => do
    let accounts ← readWordArray args 2
    return .enroll (← readU64 args 0) ((← readWord args 1).toNat == 1)
      (← orRevert (accounts.mapM addressFromWord))
  | .stageUpdateAdmin => do return .stage (← readU64 args 0) (← readAddress args 1)
  | .finalizeUpdateAdmin => do return .finalize (← readU64 args 0)
  | .renounceAdmin => do return .renounce (← readU64 args 0)
  | _ => .ok .look

/-- The registry carries the action out. -/
structure Administrates (ctx : Ctx) (act : RegistryAction) (w w' : World) : Prop where
  permits : w.registry.Permits ctx.caller act
  registry : w'.registry = w.registry.apply ctx.caller act
  notes : w'.SameNotes w

section Entries

variable {env : Env} {ctx : Ctx} {args : Bytes} {w w' : World} {out : Bytes}

def Carries (ctx : Ctx) (args : Bytes) (sel : Selector) (w w' : World) : Prop :=
  ∃ act, RegistryAction.ofCall args sel = .ok act ∧ Administrates ctx act w w'

lemma le_of_isEnumWord {word : B256} {n : ℕ} (h : isEnumWord word n) : word.toNat ≤ n := by
  simp only [isEnumWord, Bool.and_eq_true, decide_eq_true_eq] at h
  exact h.2

lemma registry_issue {ptype : ℕ} {id : U64} {w1 : World} (admin : Address)
    (hid : id = w.registry.nextId ptype)
    (hreg : w1.registry = { w.registry.seeded with counter := w.registry.seeded.counter + 1 }) :
    (w1.set policyRegistryAddress (mappingSlot (polSlot slotPolicies) (idKey id))
      (packPolicy admin)).registry = w.registry.issue ptype admin := by
  rw [registry_setPolicyAdmin, hreg, hid]
  rfl

lemma carries_createPolicy (h : Yields env (createPolicy ctx args false) w out w') :
    Carries ctx args .createPolicy w w' := by
  simp [createPolicy, emitPolicyCreated, emitPolicyAdminUpdated, readAccounts, whenever] at h
  obtain ⟨admin, h1, word, h2, htype, hadmin, hsimple, id, w1, hnext, rfl, -⟩ := h
  obtain ⟨hid, hmax, hreg, hnotes⟩ := returns_nextPolicyId hnext
  refine ⟨.create word.toNat admin [], by simp only [ofCall, h1, h2]; rfl, ?_, ?_, hnotes⟩
  · exact ⟨le_of_isEnumWord htype, hadmin, hsimple, hmax⟩
  · exact registry_issue admin hid hreg

lemma carries_createPolicyWithAccounts (h : Yields env (createPolicy ctx args true) w out w') :
    Carries ctx args .createPolicyWithAccounts w w' := by
  simp [createPolicy, emitPolicyCreated, emitPolicyAdminUpdated, emitMembersUpdated, readAccounts,
    whenever] at h
  obtain ⟨admin, h1, word, h2, htype, hadmin, hsimple, accounts, ⟨h3, -⟩, id, w1, hnext, ⟨_, hset⟩,
    -⟩ := h
  obtain ⟨hid, hmax, hreg, hnotes⟩ := returns_nextPolicyId hnext
  obtain ⟨addrs, h4, henroll, hnotes'⟩ := returns_setMembers hset
  rw [registry_issue admin hid hreg, hid] at henroll
  refine ⟨.create word.toNat admin addrs, ?_, ?_, henroll, hnotes'.1.trans hnotes.1,
    hnotes'.2.trans hnotes.2⟩
  · simp only [ofCall, h1, h2, h3, Bind.bind, Except.bind, h4, orRevert]
    rfl
  · exact ⟨le_of_isEnumWord htype, hadmin, hsimple, hmax⟩

lemma carries_createComposite (h : Yields env (createCompositePolicy ctx args) w out w') :
    Carries ctx args .createComposite w w' := by
  simp [createCompositePolicy, emitPolicyCreated, emitPolicyAdminUpdated, emitCompositeUpdated] at h
  obtain ⟨admin, h1, word, h2, htype, hadmin, hcomp, words, h3, kids, w1, hvalid, id, w2, hnext,
    ⟨_, hset⟩, -⟩ := h
  obtain ⟨h4, hkids, rfl⟩ := returns_validateChildren hvalid
  obtain ⟨hid, hmax, hreg, hnotes⟩ := returns_nextPolicyId hnext
  obtain ⟨hchildren, hnotes'⟩ := returns_setChildren (two_pos.trans_le hkids.1) hkids.2.1 hset
  rw [registry_issue admin hid hreg, hid] at hchildren
  refine ⟨.compose word.toNat admin kids, ?_, ?_, hchildren, hnotes'.1.trans hnotes.1,
    hnotes'.2.trans hnotes.2⟩
  · simp only [ofCall, h1, h2, h3, Bind.bind, Except.bind, h4]
    rfl
  · exact ⟨le_of_isEnumWord htype, hadmin, hcomp, hkids, hmax⟩

lemma carries_updateComposite (h : Yields env (updateComposite ctx args) w out w') :
    Carries ctx args .updateComposite w w' := by
  simp [updateComposite, emitCompositeUpdated] at h
  obtain ⟨id, h1, hknown, hcomp, hadmin, words, h2, kids, w1, hvalid, ⟨_, hset⟩, -⟩ := h
  obtain ⟨h3, hkids, rfl⟩ := returns_validateChildren hvalid
  obtain ⟨hchildren, hnotes⟩ := returns_setChildren (two_pos.trans_le hkids.1) hkids.2.1 hset
  refine ⟨.recompose id kids, ?_, ⟨⟨hknown, hadmin⟩, hcomp, hkids⟩, hchildren, hnotes⟩
  simp only [ofCall, h1, h2, Bind.bind, Except.bind, h3]
  rfl

lemma carries_updateMembers {wantType : ℕ} {sel : Selector}
    (hsel : sel = .updateAllowlist ∨ sel = .updateBlocklist)
    (htype : wantType = typeAllowlist ∨ wantType = typeBlocklist)
    (h : Yields env (updateMembers ctx args wantType) w out w') :
    Carries ctx args sel w w' := by
  simp [updateMembers, emitMembersUpdated] at h
  obtain ⟨id, h1, word, h2, -, accounts, h3, -, hid, hadmin, -, ⟨_, hset⟩, -⟩ := h
  obtain ⟨addrs, h4, henroll, hnotes⟩ := returns_setMembers hset
  refine ⟨.enroll id (word.toNat == 1) addrs, ?_, ⟨hadmin, ?_⟩, henroll, hnotes⟩
  · rcases hsel with rfl | rfl <;>
      simp only [ofCall, h1, h2, h3, Bind.bind, Except.bind, h4, orRevert] <;> rfl
  · rcases htype with rfl | rfl <;> simp +decide [isComposite, hid]

lemma carries_stageUpdateAdmin (h : Yields env (stageUpdateAdmin ctx args) w out w') :
    Carries ctx args .stageUpdateAdmin w w' := by
  simp [stageUpdateAdmin] at h
  obtain ⟨id, h1, newAdmin, h2, hadmin, rfl, -⟩ := h
  refine ⟨.stage id newAdmin, by simp only [ofCall, h1, h2]; rfl, hadmin, ?_, rfl, rfl⟩
  exact registry_setPendingAdmin id newAdmin

lemma carries_finalizeUpdateAdmin (h : Yields env (finalizeUpdateAdmin ctx args) w out w') :
    Carries ctx args .finalizeUpdateAdmin w w' := by
  simp [finalizeUpdateAdmin, emitPolicyAdminUpdated] at h
  obtain ⟨id, h1, hknown, hpending, hcaller, rfl, -⟩ := h
  refine ⟨.finalize id, by simp only [ofCall, h1]; rfl, ⟨hknown, hpending, hcaller⟩, ?_,
    rfl, rfl⟩
  rw [registry_setPendingAdmin, registry_setPolicyAdmin]
  rfl

lemma carries_renounceAdmin (h : Yields env (renounceAdmin ctx args) w out w') :
    Carries ctx args .renounceAdmin w w' := by
  simp [renounceAdmin, emitPolicyAdminUpdated] at h
  obtain ⟨id, h1, hadmin, rfl, -⟩ := h
  refine ⟨.renounce id, by simp only [ofCall, h1]; rfl, hadmin, ?_, rfl, rfl⟩
  rw [registry_setPendingAdmin, registry_setPolicyAdmin]
  rfl

lemma returns_policyWrite {body : Routine Bytes} (h : Yields env (policyWrite ctx body) w out w') :
    Yields env body w out w' := by
  simp only [policyWrite, returns_bind, returns_reject,
    returns_of_reads (uses_ensureFeatureActivated featurePolicyRegistry)] at h
  obtain ⟨_, _, ⟨-, rfl⟩, _, _, ⟨-, rfl⟩, h⟩ := h
  exact h

lemma carries_look {sel : Selector} {r : Routine Bytes} (hsel : ofCall args sel = .ok .look)
    (hr : Uses (Op.Within true 0 fun _ => False) r) (h : Yields env r w out w') :
    Carries ctx args sel w w' := by
  obtain ⟨-, rfl⟩ := (returns_of_reads hr).mp h
  exact ⟨.look, hsel, trivial, rfl, rfl, rfl⟩

/-- A call to the registry carries out the action of its data. -/
theorem carries_runPolicy {data : Bytes} (h : Yields env (runPolicy env ctx data) w out w') :
    ∃ sel, selectorOf data = .ok sel ∧ Carries ctx (data.drop 4) sel w w' := by
  simp only [runPolicy, liftM_eq, returns_bind, returns_ofExcept] at h
  obtain ⟨sel, _, ⟨hsel, rfl⟩, h⟩ := h
  refine ⟨sel, hsel, ?_⟩
  cases sel
  case createPolicy => exact carries_createPolicy (returns_policyWrite h)
  case createPolicyWithAccounts => exact carries_createPolicyWithAccounts (returns_policyWrite h)
  case createComposite => exact carries_createComposite (returns_policyWrite h)
  case updateComposite => exact carries_updateComposite (returns_policyWrite h)
  case updateAllowlist =>
    exact carries_updateMembers (.inl rfl) (.inl rfl) (returns_policyWrite h)
  case updateBlocklist =>
    exact carries_updateMembers (.inr rfl) (.inr rfl) (returns_policyWrite h)
  case stageUpdateAdmin => exact carries_stageUpdateAdmin (returns_policyWrite h)
  case finalizeUpdateAdmin => exact carries_finalizeUpdateAdmin (returns_policyWrite h)
  case renounceAdmin => exact carries_renounceAdmin (returns_policyWrite h)
  all_goals
    exact carries_look rfl (by simp [policyDispatch, policyAdminOf, pendingPolicyAdminOf, uses_ite])
      h

end Entries

end RethBsc.Cas20
