import RethBsc.OrdMap
import RethBsc.Primitives
import Mathlib.Logic.Function.Basic

/-!
Evidence of bad bid blocks that other validators have sealed.

The tracker has one record for a sealer: when it was last seen, and whether it was ever seen in the
cabinet. The refreshed record outlives the sighting that showed the sealer in the cabinet, so that
a sealer that has left counts as one for longer than the window.
-/

namespace RethBsc

open OrdMap List Function

/-- In nanoseconds. -/
def evidenceWindow : ℕ := 24 * 60 * 60 * 10 ^ 9

def majorityThreshold (validators : ℕ) : ℕ := validators / 2 + 1

inductive ValidatorRole
  | none | candidate | cabinet
  deriving DecidableEq

structure Sighting where
  time : ℕ
  cabinet : Bool

structure BadBidBlockTracker where
  seen : OrdMap Address (OrdMap Address Sighting) := .empty

def resolveSealerRole : ValidatorRole → Bool → Option ValidatorRole
  | .none, true => some .candidate
  | .none, false => none
  | role, _ => some role

/-- An evidence, and what the service finds out about it when it takes it from the queue. -/
structure Finding where
  builder : Address
  sealer : Address
  hash : B256
  number : ℕ
  /-- `enabled` and `bid_block_enabled` of the configuration, if there is one. -/
  config : Option (Bool × Bool)
  allowed : Bool
  /-- `validator_role_at_parent`, if the state of the parent can be opened and read. -/
  roleAtParent : Option (ValidatorRole × ℕ × ℕ)
  inParentSnapshot : Bool
  now : ℕ

structure EvidenceRevoke where
  builder : Address
  reason : String
  hash : B256
  number : ℕ

/-- The role the sealer is counted with, and the sizes of the cabinet and of the validator set. -/
def Finding.counted (f : Finding) : Option (ValidatorRole × ℕ × ℕ) := do
  let (enabled, bidBlockEnabled) ← f.config
  guard (enabled && bidBlockEnabled)
  guard f.allowed
  let (role, cabinetCount, totalCount) ← f.roleAtParent
  let role ← resolveSealerRole role f.inParentSnapshot
  return (role, cabinetCount, totalCount)

/-- The sealer may seal on the parent, by the contract or by the snapshot. -/
def Finding.Authorized (f : Finding) : Prop :=
  f.inParentSnapshot ∨ ∃ role counts, f.roleAtParent = some (role, counts) ∧ role ≠ .none

lemma Finding.authorized_of_counted {f : Finding} {found : ValidatorRole × ℕ × ℕ}
    (h : f.counted = some found) : f.Authorized := by
  unfold counted at h
  unfold Authorized
  rcases hrole : f.roleAtParent with _ | ⟨_ | _ | _, counts⟩ <;>
    cases hsnap : f.inParentSnapshot <;> simp_all [resolveSealerRole]

namespace BadBidBlockTracker

def sightings (t : BadBidBlockTracker) (builder : Address) : OrdMap Address Sighting :=
  (t.seen.get builder).getD .empty

/-- The records of one builder with a new sighting. -/
def refresh (sightings : OrdMap Address Sighting) (sealer : Address) (cabinet : Bool) (now : ℕ) :
    OrdMap Address Sighting :=
  let previous := sightings.get sealer
  let sightings := sightings.insert sealer ⟨now, previous.any (·.cabinet) || cabinet⟩
  sightings.retain fun e => decide (now - e.2.time < evidenceWindow)

/-- The numbers of cabinet members and of all validators seen, and the tracker. -/
def add (t : BadBidBlockTracker) (builder sealer : Address) (cabinet : Bool) (now : ℕ) :
    (ℕ × ℕ) × BadBidBlockTracker :=
  let sightings := refresh (t.sightings builder) sealer cabinet now
  let total := sightings.entries.length
  let cabinet := (sightings.entries.filter (·.2.cabinet)).length
  ((cabinet, total), ⟨t.seen.insert builder sightings⟩)

def clear (t : BadBidBlockTracker) (builder : Address) : BadBidBlockTracker :=
  ⟨t.seen.remove builder⟩

/-- One turn of `run_evidence_service`. -/
def serve (t : BadBidBlockTracker) (f : Finding) : Option EvidenceRevoke × BadBidBlockTracker :=
  match f.counted with
  | none => (none, t)
  | some (role, cabinetCount, totalCount) =>
    let ((cabinetVotes, totalVotes), t) := t.add f.builder f.sealer (role == .cabinet) f.now
    let cabinetThreshold := majorityThreshold cabinetCount
    let totalThreshold := majorityThreshold totalCount
    if cabinetVotes < cabinetThreshold ∧ totalVotes < totalThreshold then (none, t)
    else
      (some ⟨f.builder, s!"bad BidBlocks from {cabinetVotes}/{cabinetThreshold} cabinet and " ++
        s!"{totalVotes}/{totalThreshold} total validators", f.hash, f.number⟩, t.clear f.builder)

/-! ### What was seen -/

structure Seen where
  sealer : Address
  cabinet : Bool
  time : ℕ

/-- The sealers with such a sighting inside the window. -/
def sealersWithin (now : ℕ) (p : Seen → Bool) (h : List Seen) : Finset Address :=
  ((h.filter fun e => p e && decide (now - e.time < evidenceWindow)).map (·.sealer)).toFinset

/-- No sealer is seen outside the cabinet after it was seen in it; the latest is first. -/
def NoDemotion (h : List Seen) : Prop :=
  h.Pairwise fun e e' => e'.sealer = e.sealer → e'.cabinet → e.cabinet

/-- The sightings of each builder since it was last cleared, at the time of the last one. -/
inductive Reports : BadBidBlockTracker → (Address → List Seen) → ℕ → Prop
  | new : Reports {} (fun _ => []) 0
  | add {t hist T} (builder : Address) (e : Seen) (h : Reports t hist T) (hT : T ≤ e.time) :
      Reports (t.add builder e.sealer e.cabinet e.time).2
        (update hist builder (e :: hist builder)) e.time
  | clear {t hist T} (builder : Address) (h : Reports t hist T) :
      Reports (t.clear builder) (update hist builder []) T

variable {m : OrdMap Address Sighting} {h : List Seen} {T now : ℕ} {a : Address} {p : Seen → Bool}
  {e : Seen} {t : BadBidBlockTracker} {b : Address} {hist : Address → List Seen}

lemma mem_sealersWithin : a ∈ sealersWithin now p h ↔
    ∃ e ∈ h, p e ∧ now - e.time < evidenceWindow ∧ e.sealer = a := by
  simp [sealersWithin, and_assoc]

/-- The records of a builder stand for its history. -/
structure Kept (m : OrdMap Address Sighting) (h : List Seen) (T : ℕ) : Prop where
  past : ∀ e ∈ h, e.time ≤ T
  seen : ∀ a s, m.get a = some s →
    ∃ e ∈ h, e.sealer = a ∧ e.time = s.time ∧ (NoDemotion h → s.cabinet → e.cabinet)
  kept : ∀ e ∈ h, T - e.time < evidenceWindow →
    ∃ s, m.get e.sealer = some s ∧ e.time ≤ s.time ∧ (e.cabinet → s.cabinet)

lemma Kept.mono (hk : Kept m h T) (hT : T ≤ now) : Kept m h now where
  past e he := (hk.past e he).trans hT
  seen := hk.seen
  kept e he hlt := hk.kept e he (by omega)

lemma get_refresh {c : Bool} {s : Sighting} : (refresh m b c now).get a = some s ↔
    (if b = a then ⟨now, (m.get b).any (·.cabinet) || c⟩ = s else m.get a = some s) ∧
      now - s.time < evidenceWindow := by
  rw [refresh, get_retain_eq_some, get_insert]
  split_ifs <;> simp

lemma Kept.add (hk : Kept m h T) (hT : T ≤ e.time) :
    Kept (refresh m e.sealer e.cabinet e.time) (e :: h) e.time := by
  have hself : e.time - e.time < evidenceWindow := by rw [Nat.sub_self]; decide
  refine ⟨forall_mem_cons.mpr ⟨le_rfl, fun e' he' => (hk.past e' he').trans hT⟩,
    fun a s hs => ?_, fun e' he' hlt => ?_⟩
  · rw [get_refresh] at hs
    split_ifs at hs with hsealer
    · obtain ⟨rfl, -⟩ := hs
      refine ⟨e, mem_cons_self, hsealer, rfl, fun hdem hc => ?_⟩
      obtain ⟨hnew, hold⟩ := pairwise_cons.mp hdem
      rcases (Bool.or_eq_true _ _).mp hc with hprev | hc
      · obtain ⟨s, hget, hc⟩ := (Option.any_eq_true _ _).mp hprev
        obtain ⟨e', he', hs', -, hcab⟩ := hk.seen _ s hget
        exact hnew e' he' hs' (hcab hold hc)
      · exact hc
    · obtain ⟨e', he', hs', ht, hcab⟩ := hk.seen a s hs.1
      exact ⟨e', mem_cons_of_mem _ he', hs', ht, fun hdem => hcab hdem.of_cons⟩
  · have hold := fun hmem => hk.kept e' hmem (by omega)
    simp only [get_refresh]
    rcases mem_cons.mp he' with rfl | hmem
    · exact ⟨_, ⟨if_pos rfl |>.mpr rfl, hself⟩, le_rfl, fun hc => by simp [hc]⟩
    · obtain ⟨s, hget, hle, hc⟩ := hold hmem
      split_ifs with hsealer
      · refine ⟨_, ⟨rfl, hself⟩, (hk.past e' hmem).trans hT, fun hc' => ?_⟩
        simp [hsealer, hget, hc hc']
      · exact ⟨s, ⟨hget, by omega⟩, hle, hc⟩

/-- What `add` answers, where the records stand for the history. -/
lemma votes_add (hk : Kept (t.sightings b) h T) (hT : T ≤ e.time) :
    let votes := (t.add b e.sealer e.cabinet e.time).1
    votes.2 = (sealersWithin e.time (fun _ => true) (e :: h)).card ∧
    (NoDemotion (e :: h) → votes.1 = (sealersWithin e.time (·.cabinet) (e :: h)).card) := by
  have hk' := hk.add hT
  have hin : ∀ a s, (refresh (t.sightings b) e.sealer e.cabinet e.time).get a = some s →
      e.time - s.time < evidenceWindow := fun a s hs => (get_refresh.mp hs).2
  simp only [BadBidBlockTracker.add]
  generalize refresh _ _ _ _ = m at hk' hin ⊢
  rw [← card_keysWhere, ← filter_true m.entries, ← card_keysWhere]
  refine ⟨congrArg _ (Finset.ext fun a => ?_), fun hdem => congrArg _ (Finset.ext fun a => ?_)⟩ <;>
    rw [mem_keysWhere, mem_sealersWithin] <;> constructor
  · rintro ⟨s, hget, -⟩
    obtain ⟨e', he', hs, ht, -⟩ := hk'.seen a s hget
    exact ⟨e', he', rfl, ht ▸ hin a s hget, hs⟩
  · rintro ⟨e', he', -, hlt, rfl⟩
    obtain ⟨s, hget, -⟩ := hk'.kept e' he' hlt
    exact ⟨s, hget, rfl⟩
  · rintro ⟨s, hget, hc⟩
    obtain ⟨e', he', hs, ht, hcab⟩ := hk'.seen a s hget
    exact ⟨e', he', hcab hdem hc, ht ▸ hin a s hget, hs⟩
  · rintro ⟨e', he', hc, hlt, rfl⟩
    obtain ⟨s, hget, -, hcab⟩ := hk'.kept e' he' hlt
    exact ⟨s, hget, hcab hc⟩

lemma Reports.kept (h : Reports t hist T) (b : Address) : Kept (t.sightings b) (hist b) T := by
  induction h with
  | new => exact ⟨by simp, fun a s hs => (Option.some_ne_none s hs.symm).elim, by simp⟩
  | add builder e h hT ih =>
    simp only [sightings, BadBidBlockTracker.add, get_insert]
    by_cases hb : builder = b
    · subst hb
      rw [if_pos rfl, update_self]
      exact ih.add hT
    · rw [if_neg hb, update_of_ne (Ne.symm hb)]
      exact ih.mono hT
  | clear builder h ih =>
    simp only [sightings, BadBidBlockTracker.clear, get_remove]
    by_cases hb : builder = b
    · subst hb
      rw [if_pos rfl, update_self]
      exact ⟨by simp, by simp, by simp⟩
    · rw [if_neg hb, update_of_ne (Ne.symm hb)]
      exact ih

/-- **Evidence counts the sealers of the window**, and the cabinet members among them while no
sealer is seen to leave the cabinet. The service counts authorized sealers, and it revokes a
builder when one of the two majorities is reached. -/
theorem evidence_counts (t : BadBidBlockTracker) (hist : Address → List Seen) (T : ℕ)
    (h : Reports t hist T) :
    (∀ builder e, T ≤ e.time →
      let votes := (t.add builder e.sealer e.cabinet e.time).1
      votes.2 = (sealersWithin e.time (fun _ => true) (e :: hist builder)).card ∧
      (NoDemotion (e :: hist builder) →
        votes.1 = (sealersWithin e.time (·.cabinet) (e :: hist builder)).card)) ∧
    ∀ f : Finding, T ≤ f.now → f.counted = none ∧ t.serve f = (none, t) ∨
      ∃ role cabinetCount totalCount, f.counted = some (role, cabinetCount, totalCount) ∧
        f.Authorized ∧
        let found := ⟨f.sealer, role == .cabinet, f.now⟩ :: hist f.builder
        ((t.serve f).1 = none ∧ Reports (t.serve f).2 (update hist f.builder found) f.now ∨
          ∃ reason, (t.serve f).1 = some ⟨f.builder, reason, f.hash, f.number⟩ ∧
          Reports (t.serve f).2 (update hist f.builder []) f.now ∧
          (NoDemotion found →
            majorityThreshold cabinetCount ≤ (sealersWithin f.now (·.cabinet) found).card ∨
            majorityThreshold totalCount ≤ (sealersWithin f.now (fun _ => true) found).card)) := by
  refine ⟨fun builder e hT => votes_add (h.kept builder) hT, fun f hT => ?_⟩
  unfold serve
  rcases hf : f.counted with _ | ⟨role, cabinetCount, totalCount⟩
  · exact .inl ⟨rfl, rfl⟩
  · obtain ⟨htotal, hcabinet⟩ :=
      votes_add (e := ⟨f.sealer, role == .cabinet, f.now⟩) (h.kept f.builder) hT
    have hadd := h.add f.builder ⟨f.sealer, role == .cabinet, f.now⟩ hT
    refine .inr ⟨role, cabinetCount, totalCount, rfl, f.authorized_of_counted hf, ?_⟩
    dsimp only at htotal hcabinet hadd ⊢
    split_ifs with hlt
    · exact .inl ⟨rfl, hadd⟩
    · refine .inr ⟨_, rfl, by simpa using hadd.clear f.builder, fun hdem => ?_⟩
      rw [← htotal, ← hcabinet hdem]
      exact (not_and_or.mp hlt).imp not_lt.mp not_lt.mp

/-- A sealer of the cabinet that has left it is seen again when the window has passed. -/
theorem demoted_sealer_counts : ∃ t hist T, Reports t hist T ∧ T ≤ evidenceWindow ∧
    (t.add 1 2 false evidenceWindow).1.1 = 1 ∧
    sealersWithin evidenceWindow (·.cabinet) (⟨2, false, evidenceWindow⟩ :: hist 1) = ∅ ∧
    (t.serve ⟨1, 2, 3, 4, some (true, true), true, some (.candidate, 1, 21), true,
      evidenceWindow⟩).1.isSome :=
  ⟨_, _, _, .add 1 ⟨2, true, 0⟩ .new le_rfl, by decide, by decide +kernel, by decide +kernel,
    by decide +kernel⟩

/-- Sealer 2 is seen as a candidate and then in the cabinet, sealer 3 as a candidate. -/
def spreadTracker : BadBidBlockTracker :=
  (((add {} 1 2 false 0).2.add 1 2 true 5).2.add 1 3 false 6).2

/-- When sealer 4 is seen in the cabinet, the sightings of sealer 2 are a window old: one cabinet
member and two validators count, and the builder is revoked. -/
theorem evidence_counts_spread :
    let now := evidenceWindow + 5
    let found : List Seen := [⟨4, true, now⟩, ⟨3, false, 6⟩, ⟨2, true, 5⟩, ⟨2, false, 0⟩]
    (spreadTracker.add 1 4 true now).1 = (1, 2) ∧ (sealersWithin now (·.cabinet) found).card = 1 ∧
      ∃ reason, (spreadTracker.serve ⟨1, 4, 7, 8, some (true, true), true, some (.cabinet, 1, 3),
          false, now⟩).1 = some ⟨1, reason, 7, 8⟩ ∧
        (majorityThreshold 1 ≤ (sealersWithin now (·.cabinet) found).card ∨
          majorityThreshold 3 ≤ (sealersWithin now (fun _ => true) found).card) := by
  intro now found
  have hreports : Reports spreadTracker _ 6 := .add 1 ⟨3, false, 6⟩ (.add 1 ⟨2, true, 5⟩
    (.add 1 ⟨2, false, 0⟩ .new le_rfl) (by decide)) (by decide)
  have hdem : NoDemotion found := by unfold NoDemotion; decide
  obtain ⟨hadd, hserve⟩ := evidence_counts _ _ _ hreports
  have hvotes : (spreadTracker.add 1 4 true now).1 = (1, 2) := by decide +kernel
  have hcabinet := (hadd 1 ⟨4, true, now⟩ (by decide)).2 hdem
  rw [hvotes] at hcabinet
  refine ⟨hvotes, hcabinet.symm, ?_⟩
  rcases hserve ⟨1, 4, 7, 8, some (true, true), true, some (.cabinet, 1, 3), false, now⟩
    (by decide) with h | ⟨role, cabinetCount, totalCount, hcounted, -, h | ⟨reason, hrevoke, -, h⟩⟩
  · exact absurd h.1 (by decide)
  · exact absurd h.1 (by decide +kernel)
  · cases hcounted
    exact ⟨reason, hrevoke, h hdem⟩

end BadBidBlockTracker

end RethBsc
