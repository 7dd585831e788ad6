import RethBsc.BoundedMap
import RethBsc.HeadChoice

/-!
Where the fork choice takes total difficulties from.

The engine is asked for the difficulty of a block by its hash, and its answers are kept, also the
answer that it does not know the block. If the question for an incoming block fails, the
difficulty is put together from the one of its parent; if it is answered with nothing, it is not.
-/

namespace RethBsc

abbrev TdCache := LruMap B256 (Option ℕ)

def TdCache.new : TdCache := ⟨128, []⟩

/-- The answers of the engine during one call, by number and hash. -/
abbrev QueryTd := ℕ → B256 → Except String (Option ℕ)

inductive ReorgError
  | internal (text : String)
  | headChoice (error : HeadChoiceError)
  deriving DecidableEq

def headerTd (queryTd : QueryTd) (cache : TdCache) (number : ℕ) (hash : B256) :
    Except ReorgError (Option ℕ) × TdCache :=
  match cache.get hash with
  | (some td, cache) => (.ok td, cache)
  | (none, cache) =>
    match queryTd number hash with
    | .error e => (.error (.internal e), cache)
    | .ok td => (.ok td, cache.insert hash td)

section

variable (deps : Deps)

/-- The difficulty of an incoming header, from its parent if the question for it fails. -/
def incomingTd (queryTd : QueryTd) (cache : TdCache) (incoming : Header) :
    Except ReorgError (Option ℕ) × TdCache :=
  match headerTd queryTd cache incoming.number (deps.hashSlow incoming) with
  | (.ok td, cache) => (.ok td, cache)
  | (.error _, cache) =>
    match headerTd queryTd cache (wrappingSub incoming.number 1) incoming.parentHash with
    | (.error e, cache) => (.error e, cache)
    | (.ok td, cache) => (.ok (td.map fun td => td + incoming.difficulty), cache)

def headerTdFcu (queryTd : QueryTd) (cache : TdCache) (incoming current : Header) :
    Except ReorgError (Option ℕ × Option ℕ) × TdCache :=
  match headerTd queryTd cache current.number (deps.hashSlow current) with
  | (.error e, cache) => (.error e, cache)
  | (.ok currentTd, cache) =>
    match incomingTd deps queryTd cache incoming with
    | (.error e, cache) => (.error e, cache)
    | (.ok incomingTd, cache) => (.ok (incomingTd, currentTd), cache)

/-- A child of the current head is heavier than it. -/
def monotonicTd (incoming current : Header) (incomingTd currentTd : Option ℕ) : Option ℕ :=
  if incoming.parentHash = deps.hashSlow current then
    match incomingTd, currentTd with
    | some inTd, some curTd =>
      if inTd ≤ curTd then some (curTd + incoming.difficulty) else some inTd
    | _, _ => incomingTd
  else incomingTd

variable (spec : ChainSpec) (justified : Header → Option (ℕ × B256))

/-- A header with what the rule wants to know of it. `justified` is
`get_justified_number_and_hash`. -/
def forForkchoice (header : Header) (td : Option ℕ) : HeaderForForkchoice :=
  ⟨header, td, ((justified header).map Prod.fst).getD 0⟩

/-- One call of `is_need_reorg`, with the answers it gets. -/
structure ReorgCall where
  incoming : Header
  current : Header
  queryTd : QueryTd
  draw : Bool

/-- `BscForkChoiceEngine::is_need_reorg`. -/
def engineIsNeedReorg (cache : TdCache) (call : ReorgCall) : Except ReorgError Bool × TdCache :=
  match headerTdFcu deps call.queryTd cache call.incoming call.current with
  | (.error e, cache) => (.error e, cache)
  | (.ok (incomingTd, currentTd), cache) =>
    let incomingTd := monotonicTd deps call.incoming call.current incomingTd currentTd
    let incoming := forForkchoice justified call.incoming incomingTd
    let current := forForkchoice justified call.current currentTd
    ((isNeedReorg deps spec call.draw incoming current).mapError .headChoice, cache)

def tdCacheAfter (calls : List ReorgCall) : TdCache :=
  calls.foldl (fun cache call => (engineIsNeedReorg deps spec justified cache call).2) .new

end

/-! ### What the engine is asked -/

/-- The engine is asked for a block that the cache does not have. -/
def headerTdAsks (cache : TdCache) (number : ℕ) (hash : B256) : List (ℕ × B256) :=
  if (cache.get hash).1.isNone then [(number, hash)] else []

def incomingTdAsks (deps : Deps) (queryTd : QueryTd) (cache : TdCache) (incoming : Header) :
    List (ℕ × B256) :=
  headerTdAsks cache incoming.number (deps.hashSlow incoming) ++
    match headerTd queryTd cache incoming.number (deps.hashSlow incoming) with
    | (.ok _, _) => []
    | (.error _, cache) =>
      headerTdAsks cache (wrappingSub incoming.number 1) incoming.parentHash

/-- The questions a call of `is_need_reorg` puts to the engine. -/
def ReorgCall.asks (deps : Deps) (cache : TdCache) (call : ReorgCall) : List (ℕ × B256) :=
  headerTdAsks cache call.current.number (deps.hashSlow call.current) ++
    match headerTd call.queryTd cache call.current.number (deps.hashSlow call.current) with
    | (.error _, _) => []
    | (.ok _, cache) => incomingTdAsks deps call.queryTd cache call.incoming

/-! ### What the cache can hold -/

/-- The engine never gives a wrong difficulty. It may know no answer, or fail. -/
def Truthful (td : B256 → ℕ) (queryTd : QueryTd) : Prop :=
  ∀ number hash answer, queryTd number hash = .ok (some answer) → answer = td hash

/-- The cache holds true difficulties, and does not take a block of `asked` for unknown. -/
def TdCache.Sound (td : B256 → ℕ) (asked : List B256) (cache : TdCache) : Prop :=
  cache.All fun hash answer => (∀ t, answer = some t → t = td hash) ∧ (answer = none → hash ∉ asked)

section

variable {td : B256 → ℕ} {asked : List B256} {queryTd : QueryTd} {cache : TdCache}
  {deps : Deps} {spec : ChainSpec} {justified : Header → Option (ℕ × B256)}
  {incoming current : Header}

/-- None of these questions for a block of `asked` is answered with nothing. -/
def InTime (asked : List B256) (queryTd : QueryTd) (questions : List (ℕ × B256)) : Prop :=
  ∀ q ∈ questions, q.2 ∈ asked → queryTd q.1 q.2 ≠ .ok none

lemma inTime_append {qs qs' : List (ℕ × B256)} : InTime asked queryTd (qs ++ qs') ↔
    InTime asked queryTd qs ∧ InTime asked queryTd qs' := by
  simp [InTime, or_imp, forall_and]

section

variable (h : cache.Sound td asked)
include h

lemma TdCache.Sound.headerTd (htrue : Truthful td queryTd) {number : ℕ} {hash : B256}
    (hknown : InTime asked queryTd (headerTdAsks cache number hash)) :
    (RethBsc.headerTd queryTd cache number hash).2.Sound td asked := by
  have hget := LruMap.All.get h hash
  unfold RethBsc.headerTd
  cases hhit : cache.get hash with
  | mk hit cache' =>
    rw [hhit] at hget
    cases hit with
    | some answer => exact hget
    | none =>
      cases hquery : queryTd number hash with
      | error e => exact hget
      | ok answer =>
        refine LruMap.All.insert hget
          ⟨fun t ht => htrue number hash t (ht ▸ hquery), fun hnone hmem => ?_⟩
        exact hknown (number, hash) (by simp [headerTdAsks, hhit]) hmem (hnone ▸ hquery)

/-- A block of `asked` is answered from the cache with its true difficulty, or missed by it. -/
lemma TdCache.Sound.headerTd_or_missed (queryTd : QueryTd) (number : ℕ) {hash : B256}
    (hasked : hash ∈ asked) :
    ∃ cache' : TdCache, cache'.Sound td asked ∧
      (RethBsc.headerTd queryTd cache number hash = (.ok (some (td hash)), cache') ∨
        cache.get hash = (none, cache')) := by
  have hget := LruMap.All.get h hash
  unfold RethBsc.headerTd
  cases hhit : cache.get hash with
  | mk hit cache' =>
    rw [hhit] at hget
    refine ⟨cache', hget, ?_⟩
    cases hit with
    | none => exact .inr rfl
    | some answer =>
      have hentry := LruMap.All.of_get h (k := hash) (v := answer) (by rw [hhit])
      cases answer with
      | none => exact absurd hasked (hentry.2 rfl)
      | some t => exact .inl (by simp [hentry.1 t rfl])

lemma TdCache.Sound.headerTd_known {number : ℕ} {hash : B256} (hasked : hash ∈ asked)
    (hquery : queryTd number hash = .ok (some (td hash))) :
    ∃ cache' : TdCache, cache'.Sound td asked ∧
      RethBsc.headerTd queryTd cache number hash = (.ok (some (td hash)), cache') := by
  obtain ⟨cache', hcache', hhit | hmiss⟩ := h.headerTd_or_missed queryTd number hasked
  · exact ⟨cache', hcache', hhit⟩
  · exact ⟨cache'.insert hash (some (td hash)), LruMap.All.insert hcache' (by simp),
      by simp [RethBsc.headerTd, hmiss, hquery]⟩

lemma TdCache.Sound.incomingTd (htrue : Truthful td queryTd)
    (hknown : InTime asked queryTd (incomingTdAsks deps queryTd cache incoming)) :
    (RethBsc.incomingTd deps queryTd cache incoming).2.Sound td asked := by
  obtain ⟨hfirst, hparent⟩ := inTime_append.mp hknown
  have hsound := h.headerTd htrue hfirst
  unfold RethBsc.incomingTd
  cases hi : RethBsc.headerTd queryTd cache incoming.number (deps.hashSlow incoming) with
  | mk answer cache1 =>
    rw [hi] at hsound hparent
    cases answer with
    | ok answer => exact hsound
    | error e =>
      have hsound1 := hsound.headerTd htrue hparent
      dsimp only
      cases hp : RethBsc.headerTd queryTd cache1 (wrappingSub incoming.number 1)
          incoming.parentHash with
      | mk answer cache2 =>
        rw [hp] at hsound1
        cases answer <;> exact hsound1

lemma TdCache.Sound.engineIsNeedReorg {call : ReorgCall} (htrue : Truthful td call.queryTd)
    (hknown : InTime asked call.queryTd (call.asks deps cache)) :
    (RethBsc.engineIsNeedReorg deps spec justified cache call).2.Sound td asked := by
  obtain ⟨hfirst, hrest⟩ := inTime_append.mp hknown
  have hcurrent := h.headerTd htrue hfirst
  unfold RethBsc.engineIsNeedReorg headerTdFcu
  cases hc : RethBsc.headerTd call.queryTd cache call.current.number
      (deps.hashSlow call.current) with
  | mk currentTd cache1 =>
    rw [hc] at hcurrent hrest
    cases currentTd with
    | error e => exact hcurrent
    | ok currentTd =>
      have hincoming := hcurrent.incomingTd htrue hrest
      dsimp only
      cases hi : RethBsc.incomingTd deps call.queryTd cache1 call.incoming with
      | mk incomingTd cache2 =>
        rw [hi] at hincoming
        cases incomingTd <;> exact hincoming

end

/-- No call of a history asks for a block of `asked` before it is known. -/
def AskedInTime (deps : Deps) (spec : ChainSpec) (justified : Header → Option (ℕ × B256))
    (td : B256 → ℕ) (asked : List B256) : TdCache → List ReorgCall → Prop
  | _, [] => True
  | cache, call :: calls =>
    (Truthful td call.queryTd ∧ InTime asked call.queryTd (call.asks deps cache)) ∧
      AskedInTime deps spec justified td asked
        (engineIsNeedReorg deps spec justified cache call).2 calls

lemma sound_foldl {calls : List ReorgCall} (h : cache.Sound td asked)
    (hcalls : AskedInTime deps spec justified td asked cache calls) :
    (calls.foldl (fun cache call =>
      (engineIsNeedReorg deps spec justified cache call).2) cache).Sound td asked := by
  induction calls generalizing cache with
  | nil => exact h
  | cons call calls ih => exact ih (h.engineIsNeedReorg hcalls.1.1 hcalls.1.2) hcalls.2

/-- The engine knows the incoming block, or fails on it and knows its parent. -/
def IncomingKnown (deps : Deps) (td : B256 → ℕ) (queryTd : QueryTd) (incoming : Header) : Prop :=
  queryTd incoming.number (deps.hashSlow incoming) = .ok (some (td (deps.hashSlow incoming))) ∨
    (∃ e, queryTd incoming.number (deps.hashSlow incoming) = .error e) ∧
      queryTd (wrappingSub incoming.number 1) incoming.parentHash =
        .ok (some (td incoming.parentHash))

lemma TdCache.Sound.incomingTd_known (h : cache.Sound td asked)
    (hasked : deps.hashSlow incoming ∈ asked) (hparent : incoming.parentHash ∈ asked)
    (hlink : td (deps.hashSlow incoming) = td incoming.parentHash + incoming.difficulty)
    (hknown : IncomingKnown deps td queryTd incoming) :
    (RethBsc.incomingTd deps queryTd cache incoming).1 =
      .ok (some (td (deps.hashSlow incoming))) := by
  unfold RethBsc.incomingTd
  rcases hknown with hquery | ⟨⟨e, hquery⟩, hpquery⟩
  · obtain ⟨cache', -, hi⟩ := h.headerTd_known hasked hquery
    rw [hi]
  · obtain ⟨cache', hcache', hi | hmiss⟩ := h.headerTd_or_missed queryTd incoming.number hasked
    · rw [hi]
    · obtain ⟨cache'', -, hp⟩ := hcache'.headerTd_known hparent hpquery
      simp only [RethBsc.headerTd, hmiss, hquery] at hp ⊢
      rw [hp]
      simp [hlink]

lemma monotonicTd_true
    (hlink : td (deps.hashSlow incoming) = td incoming.parentHash + incoming.difficulty)
    (hdifficulty : 0 < incoming.difficulty) :
    monotonicTd deps incoming current (some (td (deps.hashSlow incoming)))
      (some (td (deps.hashSlow current))) = some (td (deps.hashSlow incoming)) := by
  unfold monotonicTd
  split
  · next hchild =>
    have hlt : ¬ td (deps.hashSlow incoming) ≤ td (deps.hashSlow current) := by
      rw [hlink, hchild]
      omega
    simp [hlt]
  · rfl

end

lemma isNeedReorg_ok (deps : Deps) (spec : ChainSpec) (draw : Bool)
    (incoming current : HeaderForForkchoice) {inTd curTd : ℕ} (hin : incoming.td = some inTd)
    (hcur : current.td = some curTd) :
    ∃ answer, isNeedReorg deps spec draw incoming current = .ok answer := by
  unfold isNeedReorg
  split
  · exact ⟨_, rfl⟩
  · unfold headChoiceWithTd
    rw [hin, hcur]
    dsimp only
    split
    · exact ⟨_, rfl⟩
    · exact ⟨_, rfl⟩
    · split_ifs <;> exact ⟨_, rfl⟩

/-- The fork choice decides as the rule does on the true difficulties, if the engine knows the
current head, knows the incoming block (or fails on it and knows its parent), and was never asked
for one of the three before it knew it. -/
theorem reorg_decided_on_true_td (deps : Deps) (spec : ChainSpec)
    (justified : Header → Option (ℕ × B256)) (td : B256 → ℕ) (calls : List ReorgCall)
    (call : ReorgCall)
    (hcalls : AskedInTime deps spec justified td
      [deps.hashSlow call.current, deps.hashSlow call.incoming, call.incoming.parentHash]
        .new calls)
    (hcurrent : call.queryTd call.current.number (deps.hashSlow call.current) =
      .ok (some (td (deps.hashSlow call.current))))
    (hincoming : IncomingKnown deps td call.queryTd call.incoming)
    (hlink : td (deps.hashSlow call.incoming) =
      td call.incoming.parentHash + call.incoming.difficulty)
    (hdifficulty : 0 < call.incoming.difficulty) :
    ∃ answer,
      (engineIsNeedReorg deps spec justified (tdCacheAfter deps spec justified calls) call).1 =
        .ok answer ∧
      isNeedReorg deps spec call.draw
        (forForkchoice justified call.incoming (some (td (deps.hashSlow call.incoming))))
        (forForkchoice justified call.current (some (td (deps.hashSlow call.current)))) =
        .ok answer := by
  have hsound : (tdCacheAfter deps spec justified calls).Sound td _ :=
    sound_foldl (fun _ he => (List.not_mem_nil he).elim) hcalls
  obtain ⟨cache1, hsound1, hcur⟩ := hsound.headerTd_known (by simp) hcurrent
  have hin : (incomingTd deps call.queryTd cache1 call.incoming).1 =
      .ok (some (td (deps.hashSlow call.incoming))) :=
    hsound1.incomingTd_known (by simp) (by simp) hlink hincoming
  obtain ⟨answer, hanswer⟩ := isNeedReorg_ok deps spec call.draw
    (forForkchoice justified call.incoming (some (td (deps.hashSlow call.incoming))))
    (forForkchoice justified call.current (some (td (deps.hashSlow call.current)))) rfl rfl
  refine ⟨answer, ?_, hanswer⟩
  unfold engineIsNeedReorg headerTdFcu
  rw [hcur]
  dsimp only
  cases hi : incomingTd deps call.queryTd cache1 call.incoming with
  | mk result cache2 =>
    rw [hi] at hin
    obtain rfl : result = _ := hin
    simp only [monotonicTd_true hlink hdifficulty, hanswer]
    rfl

/-! ### A head and its child -/

def knownHead : Header := sampleHeader 3 0 1 17 []

def knownChild : Header := sampleHeader 4 0 2 25 []

def sampleTd (hash : B256) : ℕ := if hash = 33 then 8 else 7

def allKnown : QueryTd := fun _ hash => .ok (some (sampleTd hash))

/-- The engine does not know the child yet. -/
def childUnknown : QueryTd := fun _ hash => .ok (if hash = 33 then none else some (sampleTd hash))

def childCall (queryTd : QueryTd) : ReorgCall := ⟨knownChild, knownHead, queryTd, false⟩

/-- A call for the head before its child is known, which does not ask for the child. -/
def headCall : ReorgCall := ⟨knownHead, knownHead, childUnknown, false⟩

theorem reorg_decided_on_true_td_child : ∃ answer,
      (engineIsNeedReorg (sampleDeps true) (sampleSpec .never .never .never) (fun _ => none)
        (tdCacheAfter (sampleDeps true) (sampleSpec .never .never .never) (fun _ => none)
          [headCall, childCall allKnown]) (childCall allKnown)).1 = .ok answer ∧
      isNeedReorg (sampleDeps true) (sampleSpec .never .never .never) false
        ⟨knownChild, some 8, 0⟩ ⟨knownHead, some 7, 0⟩ = .ok answer := by
  have htrue : ∀ queryTd ∈ [allKnown, childUnknown], Truthful sampleTd queryTd := by
    intro queryTd hmem number hash answer h
    rcases List.mem_pair.mp hmem with rfl | rfl
    · exact (Option.some.inj (Except.ok.inj h)).symm
    · by_cases hchild : hash = 33 <;> simp_all [childUnknown]
  exact reorg_decided_on_true_td (sampleDeps true) (sampleSpec .never .never .never)
    (fun _ => none) sampleTd [headCall, childCall allKnown] (childCall allKnown)
    ⟨⟨htrue _ (by simp [headCall]), by unfold InTime; decide +kernel⟩,
      ⟨htrue _ (by simp [childCall]), by unfold InTime; decide +kernel⟩, trivial⟩ rfl (.inl rfl) rfl
    (by decide)

/-- The engine knows the head and thus the parent of the incoming block, and the fork choice fails
all the same. After that it fails on the block even once the engine knows it. -/
theorem unknown_td_remembered : childUnknown 3 knownChild.parentHash = .ok (some 7) ∧
    (engineIsNeedReorg (sampleDeps true) (sampleSpec .never .never .never) (fun _ => none)
      .new (childCall childUnknown)).1 = .error (.headChoice (.unknownTotalDifficulty 33 4)) ∧
    (engineIsNeedReorg (sampleDeps true) (sampleSpec .never .never .never) (fun _ => none)
      (tdCacheAfter (sampleDeps true) (sampleSpec .never .never .never) (fun _ => none)
        [childCall childUnknown]) (childCall allKnown)).1 =
        .error (.headChoice (.unknownTotalDifficulty 33 4)) := by
  refine ⟨rfl, ?_, ?_⟩ <;> decide +kernel

end RethBsc
