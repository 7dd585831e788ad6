import Mathlib.Data.List.Induction
import Mathlib.Order.Nat

/-!
The gate in front of the recoveries of ancestors.

A recovery holds one of a few slots while it runs, and loses the slot when it has been silent for
too long. A slot belongs to the generation of a permit, not to a place in the list. An operation
reads the clock before it takes the lock or stores a stamp: an event carries the reading it works
with, which may be older than the readings of the events before it.
-/

namespace RethBsc

open List Function

structure InFlight where
  generation : ℕ
  headNum : ℕ
  lastProgress : ℕ

structure GateState where
  nextGeneration : ℕ
  inFlight : List InFlight

/-- Times are nanoseconds since the epoch of the gate. -/
structure RecoveryGate where
  capacity : ℕ
  idleTimeout : ℕ

def asMillis (nanos : ℕ) : ℕ := nanos / 1000000

/-- `RecoveryPermit::record_progress`: the stamp is shared with the slot, if it is still held. -/
def GateState.recordProgress (now generation : ℕ) (state : GateState) : GateState :=
  { state with
    inFlight := state.inFlight.map fun f =>
      if f.generation = generation then { f with lastProgress := asMillis now } else f }

/-- `RecoveryPermit::drop`. -/
def GateState.drop (generation : ℕ) (state : GateState) : GateState :=
  { state with inFlight := state.inFlight.filter (·.generation ≠ generation) }

inductive GateEvent
  | tryAcquire (now headNum : ℕ)
  | recordProgress (now generation : ℕ)
  | drop (generation : ℕ)

/-- The gate, the permits that are alive, and the clock reading of the last report of each. -/
structure GateRun where
  state : GateState
  alive : List ℕ
  reported : ℕ → ℕ

namespace RecoveryGate

variable (gate : RecoveryGate)

/-- With `MAX_CONCURRENT_RECOVERIES` and `RECOVERY_IDLE_TIMEOUT`. -/
def newRecoveryGate : RecoveryGate := ⟨3, 60 * 1000000000⟩

/-- The slots that have not gone silent. -/
def retained (now : ℕ) (state : GateState) : GateState :=
  { state with
    inFlight := state.inFlight.filter fun f =>
      asMillis now - f.lastProgress < asMillis gate.idleTimeout }

def tryAcquire (now headNum : ℕ) (state : GateState) : Except ℕ ℕ × GateState :=
  let state := gate.retained now state
  if gate.capacity ≤ state.inFlight.length then
    (.error ((state.inFlight.map InFlight.headNum).min?.getD headNum), state)
  else
    let generation := state.nextGeneration + 1
    (.ok generation, ⟨generation, state.inFlight ++ [⟨generation, headNum, asMillis now⟩]⟩)

def step (r : GateRun) : GateEvent → GateRun
  | .tryAcquire now headNum =>
    match gate.tryAcquire now headNum r.state with
    | (.error _, state) => { r with state }
    | (.ok generation, state) => ⟨state, generation :: r.alive, update r.reported generation now⟩
  | .recordProgress now generation =>
    ⟨r.state.recordProgress now generation, r.alive, update r.reported generation now⟩
  | .drop generation =>
    ⟨r.state.drop generation, r.alive.filter (· ≠ generation), r.reported⟩

def start : GateRun := ⟨⟨0, []⟩, [], fun _ => 0⟩

def run (events : List GateEvent) : GateRun := events.foldl gate.step start

lemma step_tryAcquire (r : GateRun) (now headNum : ℕ) : gate.step r (.tryAcquire now headNum) =
      let state := gate.retained now r.state
      let generation := state.nextGeneration + 1
      if gate.capacity ≤ state.inFlight.length then { r with state }
      else ⟨⟨generation, state.inFlight ++ [⟨generation, headNum, asMillis now⟩]⟩,
        generation :: r.alive, update r.reported generation now⟩ := by
  simp only [step, tryAcquire]
  split_ifs <;> rfl

/-- Every slot is held by a permit that is alive, at the stamp of its last report. -/
structure Held (r : GateRun) : Prop where
  bound : r.state.inFlight.length ≤ gate.capacity
  alive : ∀ f ∈ r.state.inFlight, f.generation ∈ r.alive
  nodup : r.alive.Nodup
  handedOut : ∀ g ∈ r.alive, g ≤ r.state.nextGeneration
  stamped : ∀ f ∈ r.state.inFlight, f.lastProgress = asMillis (r.reported f.generation)

variable {gate} {r : GateRun}

lemma Held.step (h : gate.Held r) (e : GateEvent) : gate.Held (gate.step r e) := by
  obtain ⟨hbound, halive, hnodup, hold, hstamped⟩ := h
  cases e with
  | tryAcquire now headNum =>
    rw [step_tryAcquire]
    have hle := r.state.inFlight.length_filter_le fun f =>
      asMillis now - f.lastProgress < asMillis gate.idleTimeout
    dsimp only [retained]
    split_ifs with hfull
    · constructor <;> grind
    · constructor <;> grind
  | recordProgress now generation =>
    simp only [RecoveryGate.step, GateState.recordProgress]
    constructor <;> grind
  | drop generation =>
    simp only [RecoveryGate.step, GateState.drop]
    constructor <;> grind

variable (gate) in
lemma held_run (events : List GateEvent) : gate.Held (gate.run events) := by
  refine foldlRecOn events gate.step ?_ fun r h e _ => h.step e
  constructor <;> simp [start]

/-- With room for all of them, every call is granted a permit. -/
lemma length_alive_acquire (calls : List (ℕ × ℕ))
    (hroom : r.state.inFlight.length + calls.length ≤ gate.capacity) :
    ((calls.map fun c => GateEvent.tryAcquire c.1 c.2).foldl gate.step r).alive.length =
      r.alive.length + calls.length := by
  induction calls generalizing r with
  | nil => rfl
  | cons c calls ih =>
    have hlive : (gate.retained c.1 r.state).inFlight.length ≤ r.state.inFlight.length :=
      length_filter_le _ _
    rw [length_cons] at hroom
    have hfull : ¬gate.capacity ≤ (gate.retained c.1 r.state).inFlight.length := by omega
    rw [map_cons, foldl_cons, step_tryAcquire, if_neg hfull, ih]
    · simp only [length_cons]
      omega
    · simp only [length_append, length_singleton]
      omega

variable (gate) in
/-- Whenever a slot is asked for, the last report of the permit is younger than the idle timeout by
a millisecond, by the readings of the clock. -/
def Prompt (g : ℕ) (events : List GateEvent) : Prop :=
  ∀ earlier now headNum later, events = earlier ++ .tryAcquire now headNum :: later →
    g ∈ (gate.run earlier).alive →
      now + 1000000 ≤ (gate.run earlier).reported g + asMillis gate.idleTimeout * 1000000

lemma holds_of_prompt {g : ℕ} (hidle : 0 < asMillis gate.idleTimeout) {events : List GateEvent}
    (h : gate.Prompt g events) (halive : g ∈ (gate.run events).alive) :
    ∃ f ∈ (gate.run events).state.inFlight, f.generation = g := by
  induction events using reverseRecOn with
  | nil => cases halive
  | append_singleton events e ih =>
    have hholds := ih fun earlier now headNum later heq =>
      h earlier now headNum (later ++ [e]) (by simp [heq])
    have hheld := held_run gate events
    rw [run, foldl_append, ← run, foldl_cons, foldl_nil] at halive ⊢
    cases e with
    | tryAcquire now headNum =>
      have hlive (hg : g ∈ (gate.run events).alive) :
          ∃ f ∈ (gate.retained now (gate.run events).state).inFlight, f.generation = g := by
        obtain ⟨f, hf, rfl⟩ := hholds hg
        have hp := h events now headNum [] rfl hg
        refine ⟨f, mem_filter.mpr ⟨hf, ?_⟩, rfl⟩
        rw [hheld.stamped f hf, decide_eq_true_eq]
        unfold asMillis at hidle hp ⊢
        omega
      rw [step_tryAcquire] at halive ⊢
      dsimp only at halive ⊢
      split_ifs at halive ⊢
      · exact hlive halive
      · rcases mem_cons.mp halive with rfl | hg
        · exact ⟨_, mem_append_right _ mem_cons_self, rfl⟩
        · obtain ⟨f, hf, hgen⟩ := hlive hg
          exact ⟨f, mem_append_left _ hf, hgen⟩
    | recordProgress now generation =>
      obtain ⟨f, hf, rfl⟩ := hholds halive
      exact ⟨_, mem_map_of_mem hf, by split_ifs <;> rfl⟩
    | drop generation =>
      simp only [step, GateState.drop] at halive ⊢
      grind

/-- **The gate.** However the events interleave and whatever the clock says, no more slots are held
than there are, all of them by permits that are alive, no two of which have one generation; to drop
a permit frees no slot of another; and once no permit is alive, as many calls as there are slots
succeed. A permit that reports in time, less a millisecond, keeps its slot. -/
theorem gate_slots (gate : RecoveryGate) (events : List GateEvent) :
    let r := gate.run events
    r.state.inFlight.length ≤ gate.capacity ∧ (∀ f ∈ r.state.inFlight, f.generation ∈ r.alive) ∧
      r.alive.Nodup ∧
      (∀ g, ∀ f ∈ r.state.inFlight, f.generation ≠ g → f ∈ (r.state.drop g).inFlight) ∧
      (r.alive = [] → ∀ calls : List (ℕ × ℕ), calls.length ≤ gate.capacity →
        (gate.run (events ++ calls.map fun c => .tryAcquire c.1 c.2)).alive.length = calls.length) ∧
      (0 < asMillis gate.idleTimeout → ∀ g ∈ r.alive, gate.Prompt g events →
        ∃ f ∈ r.state.inFlight, f.generation = g) := by
  intro r
  obtain ⟨hbound, halive, hnodup, -⟩ := held_run gate events
  refine ⟨hbound, halive, hnodup,
    fun g f hf hne => mem_filter.mpr ⟨hf, decide_eq_true hne⟩, fun hnone calls hcalls => ?_,
    fun hidle g hg hprompt => holds_of_prompt hidle hprompt hg⟩
  have hnone : (gate.run events).alive = [] := hnone
  have hfree : (gate.run events).state.inFlight = [] :=
    eq_nil_iff_forall_not_mem.mpr fun f hf => by simpa [hnone] using halive f hf
  rw [run, foldl_append, ← run, length_alive_acquire calls (by simpa [hfree] using hcalls), hnone]
  exact Nat.zero_add _

/-- A permit that asks once for its slot and reports once, and a second one after it. -/
theorem gate_slots_two : ∃ f ∈ (newRecoveryGate.run [.tryAcquire 0 100,
    .recordProgress 30000000000 1, .tryAcquire 80000000000 101]).state.inFlight,
      f.generation = 1 := by
  refine (gate_slots newRecoveryGate _).2.2.2.2.2 (by decide) 1 (by decide) ?_
  rintro (_ | ⟨_, _ | ⟨_, _ | ⟨_, _ | _⟩⟩⟩) now headNum later heq halive <;> cases heq
  · exact absurd halive (by decide)
  · decide

/-- Both stamp and reading are cut to milliseconds, so a report loses its slot before the timeout
is over; and a permit that is granted on an old reading of the clock loses it at once. -/
theorem slot_reclaimed_early :
    (newRecoveryGate.run [.tryAcquire 999999 100, .tryAcquire 60000000000 101]).alive = [2, 1] ∧
    (newRecoveryGate.run [.tryAcquire 999999 100, .tryAcquire 60000000000 101]).state.inFlight.map
      InFlight.generation = [2] ∧ 60000000000 - 999999 < newRecoveryGate.idleTimeout ∧
    (newRecoveryGate.run [.tryAcquire 60000000000 100, .tryAcquire 0 101,
      .tryAcquire 60000000001 102]).alive = [3, 2, 1] ∧
    (newRecoveryGate.run [.tryAcquire 60000000000 100, .tryAcquire 0 101,
      .tryAcquire 60000000001 102]).state.inFlight.map InFlight.generation = [1, 3] := by
  decide

end RecoveryGate

end RethBsc
