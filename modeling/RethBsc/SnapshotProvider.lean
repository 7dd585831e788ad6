import RethBsc.BoundedMap
import RethBsc.SnapshotTree

/-!
The snapshot provider: a cache over a database over the headers.

A snapshot that is neither cached nor persisted is rebuilt: the provider walks back along
parent hashes to a block whose snapshot it has, or to block 0, and applies the headers in
between. Headers come from an in-memory cache or, failing that, from the database, which
resolves a hash to a number and the number to the header that owns it now; in the middle of
a reorganization that can be a sibling.
-/

namespace RethBsc

open Option List

/-- Number of blocks after which snapshots are persisted. -/
def checkpointInterval : ℕ := 1024

/-- What a call to the provider finds: the headers, the database codec of snapshots, and
whether a write transaction commits. -/
structure ProviderEnv where
  parlia : Parlia
  deps : Deps
  /-- `get_header_by_hash_from_cache`. -/
  headerCache : B256 → Option Header
  /-- The table `HeaderNumbers`. -/
  headerNumbers : B256 → Option ℕ
  /-- The table `Headers`. -/
  headers : ℕ → Option Header
  Blob : Type
  compress : Snapshot → Blob
  decompress : Blob → Option Snapshot
  commits : Snapshot → Bool

/-- The cache by hash and the table `ParliaSnapshotsByHash`. -/
structure ProviderState (env : ProviderEnv) where
  cache : LruMap B256 Snapshot
  db : B256 → Option env.Blob

namespace ProviderEnv

variable (env : ProviderEnv) (st : ProviderState env)

/-! ### Storage -/

def queryDbByHash (hash : B256) : Option Snapshot := (st.db hash).bind env.decompress

/-- `none` where the transaction fails. -/
def persistToDb (snap : Snapshot) : Option (ProviderState env) :=
  if env.commits snap then
    some { st with db := Function.update st.db snap.blockHash (some (env.compress snap)) }
  else none

def insertCacheOnly (snap : Snapshot) : ProviderState env :=
  { st with cache := st.cache.insert snap.blockHash snap }

/-- `DbSnapshotProvider::snapshot_by_hash`: the cache, then the database. -/
def storedSnapshot (hash : B256) : Option Snapshot × ProviderState env :=
  match st.cache.get hash with
  | (some snap, cache) => (some snap, { st with cache := cache })
  | (none, cache) =>
    match env.queryDbByHash { st with cache := cache } hash with
    | some snap => (some snap, { st with cache := cache.insert hash snap })
    | none => (none, { st with cache := cache })

def insert (snap : Snapshot) : ProviderState env :=
  let st' := env.insertCacheOnly st snap
  if isMultipleOf snap.blockNumber checkpointInterval then (env.persistToDb st' snap).getD st'
  else st'

/-! ### Headers -/

/-- In-memory cache first, database as fallback. -/
def getHeaderByHash (hash : B256) : Option Header :=
  (env.headerCache hash).or ((env.headerNumbers hash).bind env.headers)

/-- Walk ancestors by parent hash. -/
def findAncientHeader : ℕ → Header → Option Header
  | 0, header => some header
  | steps + 1, header =>
    ((env.getHeaderByHash header.parentHash).filter fun parent =>
      decide (env.deps.hashSlow parent = header.parentHash)).bind (findAncientHeader steps)

/-! ### Rebuilding -/

def initGenesisSnapshot (genesis : Header) : Option Snapshot × ProviderState env :=
  match env.parlia.genesisSnapshot env.deps genesis with
  | some snap => (some snap, env.insert st snap)
  | none => (none, st)

/-- The walk back to a stored snapshot, which returns it with the hashes to apply, oldest
first. `none` where it takes more steps than `fuel`. -/
def walkBack : ℕ → B256 → ProviderState env → List B256 →
    Option (Option (Snapshot × List B256) × ProviderState env)
  | 0, _, _, _ => none
  | fuel + 1, hash, st, hashes =>
    match env.getHeaderByHash hash with
    | none => some (none, st)
    | some parent =>
      let st' := if parent.number = 0 then (env.initGenesisSnapshot st parent).2 else st
      match env.storedSnapshot st' hash with
      | (some snap, st'') => some (some (snap, hashes), st'')
      | (none, st'') => walkBack fuel parent.parentHash st'' (hash :: hashes)

/-- Applies the headers of the hashes one by one, caching every snapshot and persisting those
at checkpoint intervals. -/
def applyHashes : List B256 → Snapshot → ProviderState env → Option Snapshot × ProviderState env
  | [], snap, st => (some snap, st)
  | hash :: hashes, snap, st =>
    match env.getHeaderByHash hash with
    | none => (none, st)
    | some header =>
      match env.parlia.applyHeader env.deps snap header
          (fun steps => env.findAncientHeader steps header) with
      | none => (none, st)
      | some snap' =>
        let st' := env.insertCacheOnly st snap'
        if isMultipleOf snap'.blockNumber checkpointInterval then
          match env.persistToDb st' snap' with
          | none => (none, st')
          | some st'' => applyHashes hashes snap' st''
        else applyHashes hashes snap' st'

def tryRebuild (fuel : ℕ) (target : Header) (st : ProviderState env) :
    Option (Option Snapshot × ProviderState env) :=
  (env.walkBack fuel target.parentHash st [env.deps.hashSlow target]).map fun
    | (some (base, hashes), st') => env.applyHashes hashes base st'
    | (none, st') => (none, st')

/-- `EnhancedDbSnapshotProvider::snapshot_by_hash`. -/
def snapshotByHash (fuel : ℕ) (hash : B256) (st : ProviderState env) :
    Option (Option Snapshot × ProviderState env) :=
  match env.storedSnapshot st hash with
  | (some snap, st') => some (some snap, st')
  | (none, st') =>
    match env.getHeaderByHash hash with
    | none => some (none, st')
    | some target =>
      if target.number = 0 then some (env.initGenesisSnapshot st' target)
      else (env.tryRebuild fuel target st').map fun
        | (some snap, st'') => (some snap, env.insert st'' snap)
        | (none, st'') => (none, st'')

/-! ### Soundness -/

/-- Every stored snapshot is the fold of the hash it is stored under. -/
structure Sound (U : HeaderUniverse env.deps) (st : ProviderState env) : Prop where
  cache : st.cache.All (IsFold env.parlia U)
  db : ∀ hash snap, env.queryDbByHash st hash = some snap → IsFold env.parlia U hash snap

/-- The headers come from the universe, and what is written to the database can be read. -/
structure Faithful (U : HeaderUniverse env.deps) : Prop where
  headers : ∀ hash header, env.getHeaderByHash hash = some header → header ∈ U.headers
  roundTrip : ∀ snap, env.decompress (env.compress snap) = some snap

/-- The header whose snapshot a call for this hash answers with. -/
def resolve (hash : B256) : Option Header :=
  (env.getHeaderByHash hash).bind fun target =>
    if target.number = 0 then some target else env.getHeaderByHash (env.deps.hashSlow target)

/-- Parents are found at lower heights. -/
def Descends : Prop :=
  ∀ hash header parent, env.getHeaderByHash hash = some header →
    env.getHeaderByHash header.parentHash = some parent → parent.number < header.number

variable {env st} {U : HeaderUniverse env.deps}

namespace Sound

lemma storedSnapshot (h : env.Sound U st) (hash : B256) :
    env.Sound U (env.storedSnapshot st hash).2 ∧
      ∀ snap, (env.storedSnapshot st hash).1 = some snap → IsFold env.parlia U hash snap := by
  have hcache : (st.cache.get hash).2.All (IsFold env.parlia U) := h.cache.get hash
  unfold ProviderEnv.storedSnapshot
  split
  · next snap cache hget =>
    rw [hget] at hcache
    refine ⟨⟨hcache, h.db⟩, fun snap' hsnap => ?_⟩
    cases hsnap
    exact h.cache.of_get (by rw [hget])
  · next cache hget =>
    rw [hget] at hcache
    split
    · next snap hdb =>
      have hfold := h.db hash snap hdb
      refine ⟨⟨hcache.insert hfold, h.db⟩, fun snap' hsnap => ?_⟩
      cases hsnap
      exact hfold
    · exact ⟨⟨hcache, h.db⟩, fun snap hsnap => by cases hsnap⟩

variable {snap : Snapshot}

lemma insertCacheOnly (h : env.Sound U st) (hsnap : IsFold env.parlia U snap.blockHash snap) :
    env.Sound U (env.insertCacheOnly st snap) :=
  ⟨h.cache.insert hsnap, h.db⟩

lemma persistToDb (henv : env.Faithful U) (h : env.Sound U st)
    (hsnap : IsFold env.parlia U snap.blockHash snap) {st' : ProviderState env}
    (hst' : env.persistToDb st snap = some st') : env.Sound U st' := by
  unfold ProviderEnv.persistToDb at hst'
  split_ifs at hst'
  cases hst'
  refine ⟨h.cache, fun hash snap' hget => ?_⟩
  simp only [queryDbByHash] at hget
  by_cases hh : hash = snap.blockHash
  · subst hh
    rw [Function.update_self, bind_some, henv.roundTrip] at hget
    cases hget
    exact hsnap
  · rw [Function.update_of_ne hh] at hget
    exact h.db hash snap' hget

lemma insert (henv : env.Faithful U) (h : env.Sound U st)
    (hsnap : IsFold env.parlia U snap.blockHash snap) : env.Sound U (env.insert st snap) := by
  have hcached := h.insertCacheOnly hsnap
  unfold ProviderEnv.insert
  simp only
  split_ifs
  · cases hp : env.persistToDb (env.insertCacheOnly st snap) snap with
    | none => exact hcached
    | some st' => exact hcached.persistToDb henv hsnap hp
  · exact hcached

lemma initGenesisSnapshot (henv : env.Faithful U) (h : env.Sound U st) {genesis : Header}
    (hmem : genesis ∈ U.headers) (hzero : genesis.number = 0) :
    env.Sound U (env.initGenesisSnapshot st genesis).2 ∧
      ∀ snap, (env.initGenesisSnapshot st genesis).1 = some snap →
        IsFold env.parlia U (env.deps.hashSlow genesis) snap := by
  unfold ProviderEnv.initGenesisSnapshot
  split
  · next snap hgen =>
    have hfold := isFold_genesis hmem hzero hgen
    refine ⟨h.insert henv hfold.self, fun snap' hsnap => ?_⟩
    cases hsnap
    exact hfold
  · exact ⟨h, fun snap hsnap => by cases hsnap⟩

lemma walkBack (henv : env.Faithful U) (h : env.Sound U st) {fuel : ℕ} {hash : B256}
    {hashes : List B256} {res : Option (Snapshot × List B256)} {st' : ProviderState env}
    (hwalk : env.walkBack fuel hash st hashes = some (res, st')) :
    env.Sound U st' ∧ ∀ base hashes', res = some (base, hashes') →
      IsFold env.parlia U base.blockHash base ∧ hashes <:+ hashes' := by
  induction fuel generalizing hash st hashes with
  | zero => cases hwalk
  | succ fuel ih =>
    rw [ProviderEnv.walkBack] at hwalk
    split at hwalk
    · cases hwalk
      exact ⟨h, fun base hashes' hres => by cases hres⟩
    next parent hparent =>
    simp only at hwalk
    -- block 0 makes its own snapshot first
    have hst : env.Sound U
        (if parent.number = 0 then (env.initGenesisSnapshot st parent).2 else st) := by
      split_ifs with hzero
      · exact (h.initGenesisSnapshot henv (henv.headers _ _ hparent) hzero).1
      · exact h
    obtain ⟨hsound, hfold⟩ := hst.storedSnapshot hash
    split at hwalk
    · next snap st'' hstored =>
      cases hwalk
      rw [hstored] at hsound hfold
      refine ⟨hsound, fun base hashes' hres => ?_⟩
      cases hres
      have hbase := hfold _ rfl
      exact ⟨hbase.self, suffix_refl _⟩
    · next st'' hstored =>
      rw [hstored] at hsound
      obtain ⟨hsound', hres⟩ := ih hsound hwalk
      refine ⟨hsound', fun base hashes' hb => ?_⟩
      obtain ⟨hbase, hsuffix⟩ := hres base hashes' hb
      exact ⟨hbase, (suffix_cons _ _).trans hsuffix⟩

end Sound

lemma findAncientHeader_branch (henv : env.Faithful U) {header a : Header} {branch : List Header}
    {k : ℕ} (hbranch : IsBranch U (header :: branch)) (hk : k < (header :: branch).length)
    (ha : env.findAncientHeader k header = some a) : (header :: branch)[k]? = some a := by
  induction k generalizing header branch with
  | zero => exact ha
  | succ k ih =>
    cases branch with
    | nil => simp at hk
    | cons parent branch =>
      rw [findAncientHeader] at ha
      obtain ⟨found, hfound, ha⟩ := bind_eq_some_iff.mp ha
      obtain ⟨hlookup, hhash⟩ := filter_eq_some_iff.mp hfound
      simp only [decide_eq_true_eq] at hhash
      have heq : found = parent := U.collisionFree (henv.headers _ _ hlookup) hbranch.2.2.head_mem
        (hhash.trans hbranch.2.1)
      rw [heq] at ha
      rw [getElem?_cons_succ]
      exact ih hbranch.2.2 (by simpa using hk) ha

/-- **Applying hashes** keeps the store sound, and every snapshot on the way is the fold of its
own block; the last block is the one the last hash resolves to. -/
lemma Sound.applyHashes (henv : env.Faithful U) (h : env.Sound U st) (hashes : List B256)
    {snap : Snapshot} (hsnap : IsFold env.parlia U snap.blockHash snap) :
    env.Sound U (env.applyHashes hashes snap st).2 ∧
      ∀ snap', (env.applyHashes hashes snap st).1 = some snap' →
        IsFold env.parlia U snap'.blockHash snap' ∧
        ∀ last ∈ hashes.getLast?, ∃ header, env.getHeaderByHash last = some header ∧
          snap'.blockHash = env.deps.hashSlow header := by
  induction hashes generalizing snap st with
  | nil =>
    refine ⟨h, fun snap' hres => ?_⟩
    cases hres
    exact ⟨hsnap, fun last hlast => by cases hlast⟩
  | cons hash hashes ih =>
    rw [ProviderEnv.applyHashes]
    split
    · exact ⟨h, fun snap' hres => by cases hres⟩
    next header hheader =>
    split
    · exact ⟨h, fun snap' hres => by cases hres⟩
    next snap' happly =>
    have hfold : IsFold env.parlia U (env.deps.hashSlow header) snap' :=
      hsnap.applyHeader (henv.headers _ _ hheader) happly
        fun branch hbranch k a hk ha => findAncientHeader_branch henv hbranch hk ha
    have hself := hfold.self
    have hcached := h.insertCacheOnly hself
    -- whatever follows, the last block is this one or a later one
    have hrest : ∀ st', env.Sound U st' → env.Sound U (env.applyHashes hashes snap' st').2 ∧
        ∀ snap'', (env.applyHashes hashes snap' st').1 = some snap'' →
          IsFold env.parlia U snap''.blockHash snap'' ∧
          ∀ last ∈ (hash :: hashes).getLast?, ∃ header, env.getHeaderByHash last = some header ∧
            snap''.blockHash = env.deps.hashSlow header := by
      intro st' hst'
      obtain ⟨hsound, hres⟩ := ih hst' hself
      refine ⟨hsound, fun snap'' hs => ⟨(hres snap'' hs).1, fun last hlast => ?_⟩⟩
      cases hashes with
      | nil =>
        cases hs
        cases hlast
        exact ⟨header, hheader, hfold.blockHash_eq⟩
      | cons hash' hashes' =>
        rw [getLast?_cons_cons] at hlast
        exact (hres snap'' hs).2 last hlast
    simp only
    split_ifs
    · split
      · exact ⟨hcached, fun snap'' hres => by cases hres⟩
      next st' hpersist => exact hrest st' (hcached.persistToDb henv hself hpersist)
    · exact hrest _ hcached

variable {fuel : ℕ} {hash : B256} {answer : Option Snapshot} {st' : ProviderState env}

lemma Sound.tryRebuild (henv : env.Faithful U) (h : env.Sound U st) {target : Header}
    (hrebuild : env.tryRebuild fuel target st = some (answer, st')) :
    env.Sound U st' ∧ ∀ snap, answer = some snap → IsFold env.parlia U snap.blockHash snap ∧
      ∃ header, env.getHeaderByHash (env.deps.hashSlow target) = some header ∧
        snap.blockHash = env.deps.hashSlow header := by
  rw [ProviderEnv.tryRebuild] at hrebuild
  obtain ⟨⟨res, st1⟩, hwalk, hres⟩ := map_eq_some_iff.mp hrebuild
  obtain ⟨hst1, hbase⟩ := h.walkBack henv hwalk
  cases res with
  | none =>
    cases hres
    exact ⟨hst1, fun snap hsnap => by cases hsnap⟩
  | some res =>
    obtain ⟨base, hashes⟩ := res
    obtain ⟨hfold, hsuffix⟩ := hbase base hashes rfl
    obtain ⟨hsound, happlied⟩ := hst1.applyHashes henv hashes hfold
    simp only at hres
    rw [hres] at hsound happlied
    refine ⟨hsound, fun snap hsnap => ?_⟩
    obtain ⟨hself, hlast⟩ := happlied snap hsnap
    refine ⟨hself, hlast _ ?_⟩
    obtain ⟨front, rfl⟩ := hsuffix
    exact getLast?_concat

lemma Sound.snapshotByHash (henv : env.Faithful U) (h : env.Sound U st)
    (hcall : env.snapshotByHash fuel hash st = some (answer, st')) :
    env.Sound U st' ∧ ∀ snap, answer = some snap → IsFold env.parlia U snap.blockHash snap ∧
      ((env.storedSnapshot st hash).1.isSome ∧ snap.blockHash = hash ∨
        (env.storedSnapshot st hash).1 = none ∧ ∃ header, env.resolve hash = some header ∧
            snap.blockHash = env.deps.hashSlow header) := by
  obtain ⟨hst1, hstored⟩ := h.storedSnapshot hash
  rw [ProviderEnv.snapshotByHash] at hcall
  split at hcall
  · next snap st1 hget =>
    rw [hget] at hst1 hstored
    cases hcall
    refine ⟨hst1, fun snap' hsnap => ?_⟩
    cases hsnap
    have hfold := hstored _ rfl
    rw [hget]
    exact ⟨hfold.self, Or.inl ⟨rfl, hfold.blockHash_eq⟩⟩
  next st1 hget =>
  rw [hget] at hst1 ⊢
  split at hcall
  · cases hcall
    exact ⟨hst1, fun snap hsnap => by cases hsnap⟩
  next target htarget =>
  have hres : env.resolve hash = if target.number = 0 then some target
      else env.getHeaderByHash (env.deps.hashSlow target) := by
    rw [resolve, htarget, bind_some]
  split_ifs at hcall hres with hzero
  · obtain ⟨hsound, hfold⟩ := hst1.initGenesisSnapshot henv (henv.headers _ _ htarget) hzero
    rw [some.inj hcall] at hsound hfold
    refine ⟨hsound, fun snap hsnap => ?_⟩
    have hgen := hfold snap hsnap
    exact ⟨hgen.self, Or.inr ⟨rfl, target, hres, hgen.blockHash_eq⟩⟩
  · obtain ⟨⟨rebuilt, st2⟩, hrebuild, hans⟩ := map_eq_some_iff.mp hcall
    obtain ⟨hst2, hfold⟩ := hst1.tryRebuild henv hrebuild
    cases rebuilt with
    | none =>
      cases hans
      exact ⟨hst2, fun snap hsnap => by cases hsnap⟩
    | some snap =>
      cases hans
      obtain ⟨hself, header, hheader, hhash⟩ := hfold snap rfl
      refine ⟨hst2.insert henv hself, fun snap' hsnap => ?_⟩
      cases hsnap
      exact ⟨hself, Or.inr ⟨rfl, header, hres.trans hheader, hhash⟩⟩

/-! ### Termination -/

lemma walkBack_isSome (hdesc : env.Descends) {hashes : List B256} (hpos : 0 < fuel)
    (hfuel : ∀ parent, env.getHeaderByHash hash = some parent → parent.number + 1 < fuel) :
    (env.walkBack fuel hash st hashes).isSome := by
  induction fuel generalizing hash st hashes with
  | zero => omega
  | succ fuel ih =>
    rw [walkBack]
    split
    · rfl
    next parent hparent =>
    have hlt := hfuel parent hparent
    simp only
    split
    · rfl
    · refine ih (by omega) fun parent' hparent' => ?_
      have hdown := hdesc hash parent parent' hparent hparent'
      omega

lemma snapshotByHash_isSome (hdesc : env.Descends)
    (hfuel : ∀ target, env.getHeaderByHash hash = some target → target.number < fuel) :
    (env.snapshotByHash fuel hash st).isSome := by
  rw [snapshotByHash]
  split
  · rfl
  split
  · rfl
  next target htarget =>
  have hlt := hfuel target htarget
  split_ifs
  · rfl
  · rw [tryRebuild, isSome_map, isSome_map]
    refine walkBack_isSome hdesc (by omega) fun parent hparent => ?_
    have hdown := hdesc hash target parent htarget hparent
    omega

/-! ### Consistency -/

/-- **Consistency of the provider.** A call returns and leaves the store sound. What it answers
with, if anything, is the one fold of the hash if and only if the hash was in the store or
resolves to a header with that hash; so the answer does not depend on what else is stored. -/
theorem snapshotByHash_isFold_iff (henv : env.Faithful U) (hst : env.Sound U st) (hash : B256) :
    (env.Descends → ∀ fuel,
      (∀ target, env.getHeaderByHash hash = some target → target.number < fuel) →
      (env.snapshotByHash fuel hash st).isSome) ∧
    ∀ fuel answer st', env.snapshotByHash fuel hash st = some (answer, st') →
      env.Sound U st' ∧ ∀ snap, answer = some snap →
        ((∀ snap', IsFold env.parlia U hash snap' ↔ snap' = snap) ↔
          (env.storedSnapshot st hash).1.isSome ∨
            ∃ header, env.resolve hash = some header ∧ env.deps.hashSlow header = hash) := by
  refine ⟨fun hdesc fuel hfuel => snapshotByHash_isSome hdesc hfuel,
    fun fuel answer st' hcall => ?_⟩
  obtain ⟨hsound, hanswer⟩ := hst.snapshotByHash henv hcall
  refine ⟨hsound, fun snap hsnap => ?_⟩
  obtain ⟨hself, hwhere⟩ := hanswer snap hsnap
  -- the answer is the fold of its own block, so the question is which block that is
  have hiff : (∀ snap', IsFold env.parlia U hash snap' ↔ snap' = snap) ↔ snap.blockHash = hash := by
    constructor
    · intro h
      exact ((h snap).mpr rfl).blockHash_eq
    · rintro rfl snap'
      exact ⟨fun h => h.unique hself, fun h => h ▸ hself⟩
  rw [hiff]
  rcases hwhere with ⟨hstored, hhash⟩ | ⟨hnone, header, hres, hhash⟩
  · exact ⟨fun _ => Or.inl hstored, fun _ => hhash⟩
  · rw [hhash]
    constructor
    · intro h
      exact Or.inr ⟨header, hres, h⟩
    · rintro (hstored | ⟨header', hres', hhash'⟩)
      · rw [hnone] at hstored
        cases hstored
      · rw [hres] at hres'
        rwa [some.inj hres']

end ProviderEnv

/-! ### A database in the middle of a reorganization -/

/-- Block 0 lists one validator. -/
def reorgGenesis : Header :=
  sampleHeader 0 0 1 0 ([1] ++ (List.replicate 19 0 ++ [1]) ++ List.replicate 48 0)

/-- Block 1, one for each mark. -/
def reorgBlock (mark : ℕ) : Header :=
  sampleHeader 1 mark 1 ((sampleDeps true).hashSlow reorgGenesis) []

def reorgUniverse : HeaderUniverse (sampleDeps true) where
  headers := {x | x ∈ [reorgGenesis, reorgBlock 0, reorgBlock 1]}
  collisionFree := by
    have h : ∀ x ∈ [reorgGenesis, reorgBlock 0, reorgBlock 1],
        ∀ y ∈ [reorgGenesis, reorgBlock 0, reorgBlock 1],
          (sampleDeps true).hashSlow x = (sampleDeps true).hashSlow y → x = y := by decide +kernel
    exact fun x hx y hy => h x hx y hy

/-- No header is cached. The numbers of all three are known, and the second block 1 owns its
height now. -/
def reorgEnv : ProviderEnv where
  parlia := ⟨sampleSpec .never .never .never, defaultEpochLength⟩
  deps := sampleDeps true
  headerCache _ := none
  headerNumbers hash := ([reorgGenesis, reorgBlock 0, reorgBlock 1].find? fun x =>
    decide ((sampleDeps true).hashSlow x = hash)).map Header.number
  headers n := [reorgGenesis, reorgBlock 1].find? fun x => decide (x.number = n)
  Blob := Snapshot
  compress := id
  decompress := some
  commits _ := true

/-- Nothing is cached or persisted. -/
def reorgState : ProviderState reorgEnv := ⟨⟨2048, []⟩, fun _ => none⟩

lemma reorgEnv_mem {hash : B256} {header : Header}
    (h : reorgEnv.getHeaderByHash hash = some header) : header ∈ [reorgGenesis, reorgBlock 1] := by
  obtain ⟨n, -, hn⟩ := bind_eq_some_iff.mp h
  have hfind : ([reorgGenesis, reorgBlock 1].find? fun x => decide (x.number = n)) =
    some header := hn
  exact mem_of_find?_eq_some hfind

lemma reorgEnv_faithful : reorgEnv.Faithful reorgUniverse where
  headers hash header h := by
    have hmem := reorgEnv_mem h
    simp only [mem_cons, not_mem_nil, or_false] at hmem
    rcases hmem with rfl | rfl
    · exact mem_cons_self
    · exact mem_cons_of_mem _ (mem_cons_of_mem _ mem_cons_self)
  roundTrip _ := rfl

lemma reorgEnv_descends : reorgEnv.Descends := by
  intro hash header parent hheader hparent
  have h : ∀ x ∈ [reorgGenesis, reorgBlock 1],
      ∀ y ∈ reorgEnv.getHeaderByHash x.parentHash, y.number < x.number := by decide +kernel
  exact h header (reorgEnv_mem hheader) parent hparent

lemma reorgState_sound : reorgEnv.Sound reorgUniverse reorgState where
  cache e he := by cases he
  db hash snap h := by cases h

/-- Asked for the block that owns its height, the provider answers with the fold. -/
theorem snapshotByHash_isFold_owner : ∃ snap st',
    reorgEnv.snapshotByHash 2 (reorgEnv.deps.hashSlow (reorgBlock 1)) reorgState =
      some (some snap, st') ∧ reorgEnv.Sound reorgUniverse st' ∧
    ∀ snap', IsFold reorgEnv.parlia reorgUniverse (reorgEnv.deps.hashSlow (reorgBlock 1)) snap' ↔
      snap' = snap := by
  obtain ⟨hreturns, hanswers⟩ := ProviderEnv.snapshotByHash_isFold_iff reorgEnv_faithful
    reorgState_sound (reorgEnv.deps.hashSlow (reorgBlock 1))
  have hfuel : ∀ target ∈ reorgEnv.getHeaderByHash (reorgEnv.deps.hashSlow (reorgBlock 1)),
      target.number < 2 := by decide +kernel
  obtain ⟨⟨answer, st'⟩, hcall⟩ := isSome_iff_exists.mp (hreturns reorgEnv_descends 2 hfuel)
  have hsome : ((reorgEnv.snapshotByHash 2 (reorgEnv.deps.hashSlow (reorgBlock 1))
      reorgState).map fun r => r.1.isSome) = some true := by decide +kernel
  rw [hcall, map_some, some.injEq] at hsome
  obtain ⟨snap, rfl⟩ := isSome_iff_exists.mp hsome
  obtain ⟨hsound, hiff⟩ := hanswers 2 _ st' hcall
  have hres : (reorgEnv.resolve (reorgEnv.deps.hashSlow (reorgBlock 1))).map
      reorgEnv.deps.hashSlow = some (reorgEnv.deps.hashSlow (reorgBlock 1)) := by decide +kernel
  exact ⟨snap, st', hcall, hsound, (hiff snap rfl).mpr (Or.inr (map_eq_some_iff.mp hres))⟩

/-- **The sibling that owns the height is not checked.** Asked for the first block 1, the
provider answers with the snapshot of the second, though the first has a fold of its own. -/
theorem answers_for_sibling :
    reorgEnv.Faithful reorgUniverse ∧ reorgEnv.Sound reorgUniverse reorgState ∧
    (∃ snap, IsFold reorgEnv.parlia reorgUniverse (reorgEnv.deps.hashSlow (reorgBlock 0)) snap) ∧
    ∃ snap st', reorgEnv.snapshotByHash 2 (reorgEnv.deps.hashSlow (reorgBlock 0)) reorgState =
        some (some snap, st') ∧
      snap.blockHash = reorgEnv.deps.hashSlow (reorgBlock 1) ∧
      ¬IsFold reorgEnv.parlia reorgUniverse (reorgEnv.deps.hashSlow (reorgBlock 0)) snap := by
  refine ⟨reorgEnv_faithful, reorgState_sound, ?_, ?_⟩
  · have hfold : (reorgEnv.parlia.fold reorgEnv.deps [reorgBlock 0, reorgGenesis]).isSome := by
      decide +kernel
    obtain ⟨snap, hsnap⟩ := isSome_iff_exists.mp hfold
    have hbranch : IsBranch reorgUniverse [reorgBlock 0, reorgGenesis] :=
      ⟨mem_cons_of_mem _ mem_cons_self, rfl, mem_cons_self, rfl⟩
    exact ⟨snap, reorgBlock 0, [reorgGenesis], hbranch, rfl, hsnap⟩
  · have hanswer : ((reorgEnv.snapshotByHash 2 (reorgEnv.deps.hashSlow (reorgBlock 0))
        reorgState).map fun r => r.1.map Snapshot.blockHash) =
        some (some (reorgEnv.deps.hashSlow (reorgBlock 1))) := by decide +kernel
    obtain ⟨⟨answer, st'⟩, hcall, hblock⟩ := map_eq_some_iff.mp hanswer
    obtain ⟨snap, rfl, hhash⟩ := map_eq_some_iff.mp hblock
    refine ⟨snap, st', hcall, hhash, fun hfold => ?_⟩
    have hne : reorgEnv.deps.hashSlow (reorgBlock 1) ≠ reorgEnv.deps.hashSlow (reorgBlock 0) := by
      decide +kernel
    exact hne (hhash.symm.trans hfold.blockHash_eq)

end RethBsc
