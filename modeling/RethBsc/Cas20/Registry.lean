import RethBsc.Cas20.Registries

/-!
The policy registry without its storage layout.

`authorized` is the registry's answer on an account: membership for a simple policy, some or every
child for a composite one. It fails only where the nesting of composites exceeds the depth it is
given. In a `Sound` registry, which is what every call keeps, the children of a composite are
simple, so that two levels are enough and the answer is `verdict`.
-/

namespace RethBsc.Cas20

open Function

structure Registry where
  /-- The counter of the next policy. -/
  counter : ℕ
  /-- The exists bit of the policy word. -/
  created : U64 → Bool
  admin : U64 → Address
  pending : U64 → Address
  member : U64 → Address → Bool
  children : U64 → List U64

namespace Registry

variable (r : Registry)

/-- The list of a simple policy: of those let in, or of those kept out. -/
def lists (id : U64) (a : Address) : Bool :=
  if idType id = typeAllowlist then r.member id a else !r.member id a

def authorized (a : Address) : ℕ → U64 → Option Bool
  | 0, _ => none
  | depth + 1, id =>
    if ¬ idWellFormed id then some false
    else if id = alwaysAllow then some true
    else if id = alwaysBlock then some false
    else if idType id = typeUnion then (r.children id).anyM (authorized a depth)
    else if idType id = typeIntersect then (r.children id).allM (authorized a depth)
    else some (r.lists id a)

/-- The policy bound to a scope lets the account through; nothing bound lets everyone through. -/
def allows (depth : ℕ) (id : U64) (a : Address) : Option Bool :=
  if id = 0 then some true else r.authorized a depth id

/-- The policy can be bound: it is a sentinel or has been created. -/
def knows (id : U64) : Bool := idWellFormed id && (isSentinelPolicy id || r.created id)

/-! ### What calls do to it -/

def setAdmin (id : U64) (a : Address) : Registry :=
  { r with created := Function.update r.created id true, admin := Function.update r.admin id a }

def setPending (id : U64) (a : Address) : Registry :=
  { r with pending := Function.update r.pending id a }

def setMember (id : U64) (a : Address) (inSet : Bool) : Registry :=
  { r with member := Function.update r.member id (Function.update (r.member id) a inSet) }

def enroll (r : Registry) (id : U64) (inSet : Bool) : List Address → Registry
  | [] => r
  | a :: rest => enroll (r.setMember id a inSet) id inSet rest

def setKids (id : U64) (kids : List U64) : Registry :=
  { r with children := Function.update r.children id kids }

/-- The two sentinels are entered before the first policy. -/
def seeded : Registry :=
  if r.counter ≥ firstId then r
  else { (r.setAdmin alwaysAllow 0).setAdmin alwaysBlock 0 with counter := firstId }

def nextId (ptype : ℕ) : U64 := policyIdOf ptype r.seeded.counter

/-- A new policy. -/
def issue (ptype : ℕ) (admin : Address) : Registry :=
  ({ r.seeded with counter := r.seeded.counter + 1 } : Registry).setAdmin (r.nextId ptype) admin

end Registry

/-- What one call does to the registry; `look` is any call that leaves it alone. -/
inductive RegistryAction
  | look
  | create (ptype : ℕ) (admin : Address) (accounts : List Address)
  | compose (ptype : ℕ) (admin : Address) (kids : List U64)
  | recompose (id : U64) (kids : List U64)
  | enroll (id : U64) (inSet : Bool) (accounts : List Address)
  | stage (id : U64) (newAdmin : Address)
  /-- By the staged admin. -/
  | finalize (id : U64)
  | renounce (id : U64)

namespace Registry

variable (r : Registry) (caller : Address)

def apply : RegistryAction → Registry
  | .look => r
  | .create ptype admin accounts => (r.issue ptype admin).enroll (r.nextId ptype) true accounts
  | .compose ptype admin kids => (r.issue ptype admin).setKids (r.nextId ptype) kids
  | .recompose id kids => r.setKids id kids
  | .enroll id inSet accounts => r.enroll id inSet accounts
  | .stage id newAdmin => r.setPending id newAdmin
  | .finalize id => (r.setAdmin id caller).setPending id 0
  | .renounce id => (r.setAdmin id 0).setPending id 0

def Administers (id : U64) : Prop := r.knows id = true ∧ r.admin id ≠ 0 ∧ r.admin id = caller

def ValidKids (kids : List U64) : Prop :=
  compositeMinChildren ≤ kids.length ∧ kids.length ≤ compositeMaxChildren ∧
    ∀ k ∈ kids, r.knows k = true ∧ isSentinelPolicy k = false ∧ isComposite k = false

def Permits : RegistryAction → Prop
  | .look => True
  | .create ptype admin _ =>
    ptype ≤ typeIntersect ∧ admin ≠ 0 ∧ isComposite (policyIdOf ptype 0) = false ∧
      r.seeded.counter < counterMax
  | .compose ptype admin kids =>
    ptype ≤ typeIntersect ∧ admin ≠ 0 ∧ isComposite (policyIdOf ptype 0) = true ∧
      r.ValidKids kids ∧ r.seeded.counter < counterMax
  | .recompose id kids => r.Administers caller id ∧ isComposite id = true ∧ r.ValidKids kids
  | .enroll id _ _ => r.Administers caller id ∧ isComposite id = false
  | .stage id _ => r.Administers caller id
  | .finalize id => r.knows id = true ∧ r.pending id ≠ 0 ∧ r.pending id = caller
  | .renounce id => r.Administers caller id

def empty : Registry where
  counter := 0
  created _ := false
  admin _ := 0
  pending _ := 0
  member _ _ := false
  children _ := []

/-! ### What every call keeps -/

def place (id : U64) : ℕ := id.toNat % 2 ^ 56

/-- Created policies are numbered below the counter, composites have two to four children, and the
children are created simple policies. The sentinels never have an admin. -/
structure Sound : Prop where
  counter_le : r.counter ≤ counterMax
  numbered : ∀ id, r.created id = true → idWellFormed id = true ∧ place id < r.counter
  arity : ∀ id, r.created id = true → isComposite id = true →
    compositeMinChildren ≤ (r.children id).length ∧ (r.children id).length ≤ compositeMaxChildren
  kids : ∀ id, ∀ k ∈ r.children id,
    r.created k = true ∧ isSentinelPolicy k = false ∧ isComposite k = false
  sentinels : ∀ id, isSentinelPolicy id = true → r.admin id = 0 ∧ r.pending id = 0

section Invariant

variable {r caller} {ptype c : ℕ} {id : U64} {a admin : Address}

lemma sound_empty : empty.Sound where
  counter_le := Nat.zero_le _
  numbered _ h := absurd h Bool.false_ne_true
  arity _ h := absurd h Bool.false_ne_true
  kids _ _ h := absurd h List.not_mem_nil
  sentinels _ _ := ⟨rfl, rfl⟩

section

variable (ht : ptype ≤ typeIntersect)
include ht

lemma toNat_policyIdOf (hc : c < counterMax) : (policyIdOf ptype c).toNat = ptype * 2 ^ 56 + c := by
  simp only [typeIntersect, counterMax] at ht hc
  rw [policyIdOf, BitVec.toNat_ofNat]
  omega

lemma idType_policyIdOf (hc : c < counterMax) : idType (policyIdOf ptype c) = ptype := by
  rw [idType, toNat_policyIdOf ht hc]
  simp only [counterMax] at hc
  omega

lemma place_policyIdOf (hc : c < counterMax) : place (policyIdOf ptype c) = c := by
  rw [place, toNat_policyIdOf ht hc]
  simp only [counterMax] at hc
  omega

lemma isComposite_policyIdOf (hc : c < counterMax) :
    isComposite (policyIdOf ptype c) = isComposite (policyIdOf ptype 0) := by
  simp only [isComposite, idType_policyIdOf ht hc,
    idType_policyIdOf ht (by decide : 0 < counterMax)]

end

lemma created_of_knows (h : r.knows id) (hs : isSentinelPolicy id = false) : r.created id := by
  simp only [knows, hs, Bool.false_or, Bool.and_eq_true] at h
  exact h.2

variable {x : U64}

lemma created_setAdmin (h : r.created x) (id : U64) (a : Address) :
    (r.setAdmin id a).created x := by
  by_cases hx : x = id
  · simp [setAdmin, hx]
  · simpa [setAdmin, hx] using h

lemma created_seeded (h : r.created x) : r.seeded.created x := by
  unfold seeded
  split
  · exact h
  · exact created_setAdmin (created_setAdmin h alwaysAllow 0) alwaysBlock 0

open Registry

lemma Sound.setAdmin (h : r.Sound) (hid : idWellFormed id ∧ place id < r.counter)
    (hkids : isComposite id → compositeMinChildren ≤ (r.children id).length ∧
      (r.children id).length ≤ compositeMaxChildren)
    (ha : isSentinelPolicy id → a = 0) : (r.setAdmin id a).Sound := by
  have hcreated : ∀ x, (r.setAdmin id a).created x = true → x = id ∨ r.created x := by
    intro x hx
    by_cases hxid : x = id
    · exact .inl hxid
    · simp only [Registry.setAdmin, update_of_ne hxid] at hx
      exact .inr hx
  refine ⟨h.counter_le, fun x hx => ?_, fun x hx hc => ?_, fun x k hk => ?_, fun x hx => ?_⟩
  · rcases hcreated x hx with rfl | hx
    · exact hid
    · exact h.numbered x hx
  · rcases hcreated x hx with rfl | hx
    · exact hkids hc
    · exact h.arity x hx hc
  · exact ⟨created_setAdmin (h.kids x k hk).1 _ _, (h.kids x k hk).2⟩
  · by_cases hxid : x = id
    · subst hxid
      simpa [setAdmin, ha hx] using (h.sentinels x hx).2
    · simpa [Registry.setAdmin, update_of_ne hxid] using h.sentinels x hx

lemma Sound.setPending (h : r.Sound) (ha : isSentinelPolicy id → a = 0) :
    (r.setPending id a).Sound := by
  refine ⟨h.counter_le, h.numbered, h.arity, h.kids, fun x hx => ?_⟩
  by_cases hxid : x = id
  · subst hxid
    simpa [setPending, ha hx] using (h.sentinels x hx).1
  · simpa [Registry.setPending, update_of_ne hxid] using h.sentinels x hx

lemma Sound.withCounter (h : r.Sound) {n : ℕ} (hle : r.counter ≤ n) (hmax : n ≤ counterMax) :
    ({ r with counter := n } : Registry).Sound :=
  ⟨hmax, fun id hid => ⟨(h.numbered id hid).1, (h.numbered id hid).2.trans_le hle⟩, h.arity, h.kids,
    h.sentinels⟩

lemma firstId_le_seeded : firstId ≤ r.seeded.counter := by
  unfold seeded
  split
  · assumption
  · exact le_rfl

lemma Sound.seeded (h : r.Sound) : r.seeded.Sound := by
  unfold Registry.seeded
  split_ifs with hc
  · exact h
  · have hstart : ({ r with counter := firstId } : Registry).Sound :=
      h.withCounter (by omega) (by decide)
    have hallow : idWellFormed alwaysAllow = true ∧ place alwaysAllow < firstId := by decide
    have hblock : idWellFormed alwaysBlock = true ∧ place alwaysBlock < firstId := by decide
    exact (hstart.setAdmin hallow (absurd · (by decide)) fun _ => rfl).setAdmin hblock
      (absurd · (by decide)) fun _ => rfl

lemma Sound.created_nextId (h : r.Sound) (ht : ptype ≤ typeIntersect)
    (hc : r.seeded.counter < counterMax) : r.created (r.nextId ptype) = false := by
  by_contra hne
  have hnum := (h.seeded.numbered _ (created_seeded (by simpa using hne))).2
  rw [nextId, place_policyIdOf ht hc] at hnum
  exact lt_irrefl _ hnum

lemma Sound.issue (h : r.Sound) (ht : ptype ≤ typeIntersect) (hc : r.seeded.counter < counterMax)
    (hkids : isComposite (policyIdOf ptype 0) →
      compositeMinChildren ≤ (r.children (r.nextId ptype)).length ∧
        (r.children (r.nextId ptype)).length ≤ compositeMaxChildren) (admin : Address) :
    (r.issue ptype admin).Sound := by
  have hsent : isSentinelPolicy (r.nextId ptype) = false := by
    by_contra hne
    have hplace : place (r.nextId ptype) < firstId := by
      simp only [isSentinelPolicy, Bool.or_eq_true, decide_eq_true_eq, Bool.not_eq_false] at hne
      rcases hne with hne | hne <;> rw [hne] <;> decide
    rw [nextId, place_policyIdOf ht hc] at hplace
    exact absurd firstId_le_seeded (not_le.mpr hplace)
  have hnext := h.seeded.withCounter (Nat.le_succ _) hc
  have hchildren : r.seeded.children = r.children := by
    unfold Registry.seeded
    split <;> rfl
  refine hnext.setAdmin ⟨?_, ?_⟩ (fun hcomp => ?_) (by simp [hsent])
  · simpa [idWellFormed, nextId, idType_policyIdOf ht hc] using ht
  · rw [nextId, place_policyIdOf ht hc]
    exact Nat.lt_succ_self _
  · rw [nextId, isComposite_policyIdOf ht hc] at hcomp
    exact hchildren ▸ hkids hcomp

/-- The two differ at most in their members. -/
structure SameRest (r r' : Registry) : Prop where
  counter : r'.counter = r.counter
  created : r'.created = r.created
  admin : r'.admin = r.admin
  pending : r'.pending = r.pending
  children : r'.children = r.children

lemma Sound.of_sameRest {r' : Registry} (h : r.Sound) (hs : r.SameRest r') : r'.Sound := by
  refine ⟨?_, fun id => ?_, fun id => ?_, fun id => ?_, fun id => ?_⟩
  · exact hs.counter ▸ h.counter_le
  · rw [hs.created, hs.counter]
    exact h.numbered id
  · rw [hs.created, hs.children]
    exact h.arity id
  · rw [hs.created, hs.children]
    exact h.kids id
  · rw [hs.admin, hs.pending]
    exact h.sentinels id

lemma sameRest_enroll (id : U64) (inSet : Bool) (accounts : List Address) :
    r.SameRest (r.enroll id inSet accounts) := by
  induction accounts generalizing r with
  | nil => exact ⟨rfl, rfl, rfl, rfl, rfl⟩
  | cons a rest ih =>
    have hrest : (r.setMember id a inSet).SameRest (r.enroll id inSet (a :: rest)) := ih
    exact ⟨hrest.counter, hrest.created, hrest.admin, hrest.pending, hrest.children⟩

lemma member_enroll_of_ne (hx : x ≠ id) (inSet : Bool) (accounts : List Address) :
    (r.enroll id inSet accounts).member x = r.member x := by
  induction accounts generalizing r with
  | nil => rfl
  | cons a rest ih =>
    have hset : (r.setMember id a inSet).member x = r.member x := update_of_ne hx _ _
    rw [enroll, ih, hset]

lemma Sound.setKids (h : r.Sound) {kids : List U64} (hk : r.ValidKids kids) (id : U64) :
    (r.setKids id kids).Sound := by
  refine ⟨h.counter_le, h.numbered, fun x hx hc => ?_, fun x k hmem => ?_, h.sentinels⟩
  · by_cases hxid : x = id
    · subst hxid
      simpa [Registry.setKids] using ⟨hk.1, hk.2.1⟩
    · simpa [Registry.setKids, update_of_ne hxid] using h.arity x hx hc
  · by_cases hxid : x = id
    · subst hxid
      simp only [Registry.setKids, update_self] at hmem
      obtain ⟨hknown, hs, hc⟩ := hk.2.2 k hmem
      exact ⟨created_of_knows hknown hs, hs, hc⟩
    · simp only [Registry.setKids, update_of_ne hxid] at hmem
      exact h.kids x k hmem

lemma setKids_issue (kids : List U64) : (r.issue ptype admin).setKids (r.nextId ptype) kids =
      (r.setKids (r.nextId ptype) kids).issue ptype admin := by
  have hseed : (r.setKids (r.nextId ptype) kids).seeded =
    r.seeded.setKids (r.nextId ptype) kids := by
    unfold seeded setKids
    split <;> rfl
  have hnext : (r.setKids (r.nextId ptype) kids).nextId ptype = r.nextId ptype := by
    rw [nextId, hseed]
    rfl
  simp only [issue, hseed, hnext]
  rfl

lemma Sound.administers (h : r.Sound) (ha : r.Administers caller id) :
    isSentinelPolicy id = false := by
  by_contra hne
  exact ha.2.1 (h.sentinels id (by simpa using hne)).1

lemma Sound.readmin (h : r.Sound) (hid : r.created id) (hs : isSentinelPolicy id = false)
    (a b : Address) : ((r.setAdmin id a).setPending id b).Sound :=
  (h.setAdmin (h.numbered id hid) (h.arity id hid) (by simp [hs])).setPending (by simp [hs])

/-- Whatever the registry carries out keeps it sound. -/
theorem Sound.apply (h : r.Sound) {act : RegistryAction} (hp : r.Permits caller act) :
    (r.apply caller act).Sound := by
  cases act with
  | look => exact h
  | create ptype admin accounts =>
    obtain ⟨ht, -, hc, hmax⟩ := hp
    exact (h.issue ht hmax (by simp [hc]) admin).of_sameRest (sameRest_enroll _ _ _)
  | compose ptype admin kids =>
    obtain ⟨ht, -, hc, hkids, hmax⟩ := hp
    rw [Registry.apply, setKids_issue]
    have hseed : (r.setKids (r.nextId ptype) kids).seeded.counter = r.seeded.counter := by
      unfold Registry.seeded Registry.setKids
      split <;> rfl
    have hnext : (r.setKids (r.nextId ptype) kids).nextId ptype = r.nextId ptype := by
      rw [nextId, hseed, nextId]
    refine (h.setKids hkids _).issue ht (hseed ▸ hmax) (fun _ => ?_) admin
    rw [hnext]
    simpa [Registry.setKids] using ⟨hkids.1, hkids.2.1⟩
  | recompose id kids => exact h.setKids hp.2.2 id
  | enroll id inSet accounts => exact h.of_sameRest (sameRest_enroll _ _ _)
  | stage id newAdmin => exact h.setPending (by simp [h.administers hp])
  | finalize id =>
    have hs : isSentinelPolicy id = false := by
      by_contra hne
      exact hp.2.1 (h.sentinels id (by simpa using hne)).2
    exact h.readmin (created_of_knows hp.1 hs) hs caller 0
  | renounce id =>
    exact h.readmin (created_of_knows hp.1 (h.administers hp)) (h.administers hp) 0 0

/-! ### What stays for ever -/

lemma created_issue (h : r.created x) (ptype : ℕ) (admin : Address) :
    (r.issue ptype admin).created x :=
  created_setAdmin (r := { r.seeded with counter := r.seeded.counter + 1 }) (created_seeded h) _ _

theorem created_apply (h : r.created x) (act : RegistryAction) :
    (r.apply caller act).created x := by
  cases act with
  | create ptype admin accounts =>
    rw [apply, (sameRest_enroll _ _ _).created]
    exact created_issue h ptype admin
  | compose ptype admin kids => exact created_issue h ptype admin
  | enroll id inSet accounts =>
    rw [apply, (sameRest_enroll _ _ _).created]
    exact h
  | finalize id => exact created_setAdmin h id caller
  | renounce id => exact created_setAdmin h id 0
  | _ => exact h

/-- The policy has given up its admin and will not get another. -/
def Retired (r : Registry) (id : U64) : Prop :=
  r.created id = true ∧ r.admin id = 0 ∧ r.pending id = 0

structure Fixed (r r' : Registry) (id : U64) : Prop where
  retired : r'.Retired id
  member : r'.member id = r.member id
  children : r'.children id = r.children id

lemma Retired.not_administers (h : r.Retired id) (ha : r.Administers caller x) : id ≠ x := by
  rintro rfl
  exact ha.2.1 h.2.1

lemma fixed_issue (h : r.Sound) (hr : r.Retired id) (ht : ptype ≤ typeIntersect)
    (hc : r.seeded.counter < counterMax) (admin : Address) :
    id ≠ r.nextId ptype ∧ r.Fixed (r.issue ptype admin) id := by
  have hne : id ≠ r.nextId ptype := by
    rintro rfl
    exact absurd (hr.1.symm.trans (h.created_nextId ht hc)) (by decide)
  -- the sentinels are entered without an admin
  have hseed : r.seeded.admin id = 0 ∧ r.seeded.pending id = 0 ∧ r.seeded.member = r.member ∧
      r.seeded.children = r.children := by
    unfold seeded
    split
    · exact ⟨hr.2.1, hr.2.2, rfl, rfl⟩
    · refine ⟨?_, hr.2.2, rfl, rfl⟩
      simp only [setAdmin, update_apply]
      split
      · rfl
      · split
        · rfl
        · exact hr.2.1
  refine ⟨hne, ⟨created_issue hr.1 ptype admin, ?_, hseed.2.1⟩, ?_, ?_⟩
  · simpa [issue, setAdmin, update_of_ne hne] using hseed.1
  · exact congrFun hseed.2.2.1 id
  · exact congrFun hseed.2.2.2 id

lemma Fixed.of_sameRest {r' r'' : Registry} (h : r.Fixed r' id) (hs : r'.SameRest r'')
    (hmember : r''.member id = r'.member id) : r.Fixed r'' id := by
  refine ⟨?_, hmember.trans h.member, ?_⟩
  · rw [Retired, hs.created, hs.admin, hs.pending]
    exact h.retired
  · rw [hs.children]
    exact h.children

lemma Retired.fixed_setAdmin (hr : r.Retired id) (hne : id ≠ x) (a : Address) :
    r.Fixed ((r.setAdmin x a).setPending x 0) id := by
  refine ⟨⟨created_setAdmin hr.1 x a, ?_, ?_⟩, rfl, rfl⟩
  · simpa [setAdmin, setPending, update_of_ne hne] using hr.2.1
  · simpa [setAdmin, setPending, update_of_ne hne] using hr.2.2

/-- No call changes the admin, the members or the children of a retired policy. -/
theorem Retired.fixed_apply (h : r.Sound) (hr : r.Retired id) {act : RegistryAction}
    (hp : r.Permits caller act) : r.Fixed (r.apply caller act) id := by
  cases act with
  | look => exact ⟨hr, rfl, rfl⟩
  | create ptype admin accounts =>
    obtain ⟨ht, -, -, hmax⟩ := hp
    obtain ⟨hne, hf⟩ := fixed_issue h hr ht hmax admin
    exact hf.of_sameRest (sameRest_enroll _ true accounts) (member_enroll_of_ne hne _ _)
  | compose ptype admin kids =>
    obtain ⟨ht, -, -, -, hmax⟩ := hp
    obtain ⟨hne, hf⟩ := fixed_issue h hr ht hmax admin
    refine ⟨hf.retired, hf.member, ?_⟩
    simpa [apply, setKids, update_of_ne hne] using hf.children
  | recompose x kids =>
    have hne := hr.not_administers hp.1
    exact ⟨hr, rfl, by simp [apply, setKids, update_of_ne hne]⟩
  | enroll x inSet accounts =>
    have hne := hr.not_administers hp.1
    exact Fixed.of_sameRest ⟨hr, rfl, rfl⟩ (sameRest_enroll x inSet accounts)
      (member_enroll_of_ne hne _ _)
  | stage x newAdmin =>
    have hne := hr.not_administers hp
    exact ⟨⟨hr.1, hr.2.1, by simpa [apply, setPending, update_of_ne hne] using hr.2.2⟩, rfl, rfl⟩
  | finalize x =>
    have hne : id ≠ x := by
      rintro rfl
      exact hp.2.1 hr.2.2
    exact hr.fixed_setAdmin hne caller
  | renounce x => exact hr.fixed_setAdmin (hr.not_administers hp) 0

lemma retired_renounce (h : r.Sound) (hp : r.Permits caller (.renounce id)) :
    (r.apply caller (.renounce id)).Retired id := by
  have hcreated := created_of_knows hp.1 (h.administers hp)
  exact ⟨created_setAdmin hcreated id 0, by simp [apply, setAdmin,
    setPending], by simp [apply, setPending]⟩

end Invariant

/-! ### What the answer is -/

/-- The meaning of a policy: membership for a simple one, the union or the intersection of the
children's memberships for a composite one. -/
def verdict (id : U64) (a : Address) : Bool :=
  if ¬ idWellFormed id then false
  else if id = alwaysAllow then true
  else if id = alwaysBlock then false
  else if idType id = typeUnion then (r.children id).any fun k => r.lists k a
  else if idType id = typeIntersect then (r.children id).all fun k => r.lists k a
  else r.lists id a

section Meaning

variable {r} {a : Address} {id : U64}

lemma anyM_allM_eq {ask : U64 → Option Bool} {f : U64 → Bool} {kids : List U64}
    (h : ∀ k ∈ kids, ask k = some (f k)) :
    kids.anyM ask = some (kids.any f) ∧ kids.allM ask = some (kids.all f) := by
  induction kids with
  | nil => exact ⟨rfl, rfl⟩
  | cons k rest ih =>
    obtain ⟨hany, hall⟩ := ih fun x hx => h x (List.mem_cons_of_mem _ hx)
    rw [List.anyM, List.allM, h k List.mem_cons_self, List.any_cons, List.all_cons]
    cases f k with
    | false => exact ⟨hany, rfl⟩
    | true => exact ⟨rfl, hall⟩

lemma authorized_simple (hwf : idWellFormed id = true) (hs : isSentinelPolicy id = false)
    (hc : isComposite id = false) (depth : ℕ) :
    r.authorized a (depth + 1) id = some (r.lists id a) := by
  simp only [isSentinelPolicy, Bool.or_eq_false_iff, decide_eq_false_iff_not] at hs
  simp only [isComposite, Bool.or_eq_false_iff, decide_eq_false_iff_not] at hc
  simp [authorized, hwf, hs, hc]

/-- Two levels are enough for every policy, and the answer is its meaning. -/
theorem Sound.authorized_eq (h : r.Sound) (a : Address) (depth : ℕ) (id : U64) :
    r.authorized a (depth + 2) id = some (r.verdict id a) := by
  have hkids : ∀ k ∈ r.children id, r.authorized a (depth + 1) k = some (r.lists k a) := by
    intro k hk
    obtain ⟨hcreated, hs, hc⟩ := h.kids id k hk
    exact authorized_simple (h.numbered k hcreated).1 hs hc depth
  unfold authorized verdict
  split_ifs
  · rfl
  · rfl
  · exact (anyM_allM_eq hkids).1
  · exact (anyM_allM_eq hkids).2
  · rfl
  · rfl

end Meaning

end Registry

end RethBsc.Cas20
