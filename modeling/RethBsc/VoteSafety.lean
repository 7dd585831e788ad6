import RethBsc.VoteJournal

/-!
Slashing safety of the node's own votes over whole runs of the journal.

A run is a list of events: requests to write a vote, with what the file system makes of
them, crashes in the middle of an append, and restarts. While every append succeeds, the file
and the memory both stand for the votes accepted so far (`Recorded`), a restart changes
nothing, and a new vote is compatible with the last 512.
-/

namespace RethBsc

open List

inductive JournalEvent
  | write (env : VoteEnvelope) (memOnly : Bool) (io : AppendIo)
  /-- The process dies in an append that leaves this many characters, and restarts. -/
  | crash (env : VoteEnvelope) (kept : ℕ)
  | restart

/-- The journal and the votes for which `write_vote` returned `Ok`, oldest first. -/
structure JournalRun where
  journal : VoteJournal
  accepted : List VoteEnvelope

namespace JournalRun

variable (codec : VoteCodec)

def start : JournalRun := ⟨VoteJournal.new codec [], []⟩

def exec (run : JournalRun) : JournalEvent → JournalRun
  | .write env memOnly io =>
    let out := run.journal.writeVote codec env memOnly io
    ⟨out.2, if out.1.isOk then run.accepted ++ [env] else run.accepted⟩
  | .crash env kept =>
    ⟨VoteJournal.new codec (run.journal.writeVote codec env false (.failed kept)).2.file,
      run.accepted⟩
  | .restart => ⟨VoteJournal.new codec run.journal.file, run.accepted⟩

def execAll (run : JournalRun) (events : List JournalEvent) : JournalRun :=
  events.foldl (exec codec) run

end JournalRun

/-- Restarts, and requests for proper votes that go to the file and do not fail in the append. -/
def JournalEvent.Undisturbed : JournalEvent → Prop
  | .write env memOnly io => env.data.Spans ∧ memOnly = false ∧ (io = .written ∨ io = .openFailed)
  | .crash _ _ => False
  | .restart => True

/-- What the memory keeps of the accepted votes. -/
def recentEntries (accepted : List VoteEnvelope) : List (ℕ × VoteData) :=
  (accepted.map fun env => (env.data.targetNumber, env.data)).rtake maxRecentEntries

/-- File and memory stand for the accepted votes, and those close to each other are
compatible. -/
structure Recorded (codec : VoteCodec) (run : JournalRun) : Prop where
  file : run.journal.file = run.accepted.flatMap (lineOf codec)
  texts : ∀ env ∈ run.accepted, (codec.toText env).isSome = true
  spans : ∀ env ∈ run.accepted, env.data.Spans
  capacity : run.journal.lru.capacity = maxRecentEntries
  lru : run.journal.lru.Holds (recentEntries run.accepted)
  compatible : PairwiseWithin maxRecentEntries (fun e l => Compatible e.data l.data) run.accepted

namespace Recorded

variable {codec : VoteCodec} {run : JournalRun}

lemma start (codec : VoteCodec) : Recorded codec (JournalRun.start codec) where
  file := rfl
  texts env h := by simp [JournalRun.start] at h
  spans env h := by simp [JournalRun.start] at h
  capacity := rfl
  lru := by
    rw [show recentEntries (JournalRun.start codec).accepted = [] from rtake_nil _]
    exact FifoMap.holds_new _
  compatible _ _ _ _ _ _ h := by cases h

lemma holds_loadFromDisk (hcodec : codec.Lawful) (h : Recorded codec run) :
    (loadFromDisk codec run.journal.file).Holds (recentEntries run.accepted) := by
  have hrecords : journalRecords codec run.journal.file = run.accepted.map VoteEnvelope.data := by
    have hread := journalRecords_flatMap hcodec h.texts []
    rw [append_nil] at hread
    rw [h.file, hread]
    simp [journalRecords, textLines, linesFrom]
  have hentries : ((run.accepted.map VoteEnvelope.data).rtake maxRecentEntries).map
      (fun vd => (vd.targetNumber, vd)) = recentEntries run.accepted := by
    simp [recentEntries, rtake, map_drop, Function.comp_def]
  rw [loadFromDisk, hrecords, foldl_pushBounded]
  simp only [hentries]
  have hbound := h.lru.bound
  rw [h.capacity] at hbound
  exact FifoMap.holds_addAll_new h.lru.nodup hbound

lemma restart (hcodec : codec.Lawful) (h : Recorded codec run) :
    Recorded codec (run.exec codec .restart) where
  file := h.file
  texts := h.texts
  spans := h.spans
  capacity := by
    show (loadFromDisk codec run.journal.file).capacity = maxRecentEntries
    rw [loadFromDisk, FifoMap.addAll_capacity, FifoMap.new_capacity]
  lru := h.holds_loadFromDisk hcodec
  compatible := h.compatible

lemma compatible_of_mem (h : Recorded codec run) {env : VoteEnvelope} (henv : env.data.Spans)
    (hrules : underRules run.journal.lru env.data.sourceNumber env.data.targetNumber)
    {e : VoteEnvelope} (he : e ∈ run.accepted.rtake maxRecentEntries) :
    Compatible e.data env.data := by
  have hentry : (e.data.targetNumber, e.data) ∈ recentEntries run.accepted := by
    have hmap : recentEntries run.accepted = (run.accepted.rtake maxRecentEntries).map
        fun env => (env.data.targetNumber, env.data) := by
      simp [recentEntries, rtake, map_drop]
    rw [hmap]
    exact mem_map.mpr ⟨e, he, rfl⟩
  have hget := (h.lru.get _ _).mpr hentry
  exact compatible_of_underRules hget (h.spans e (mem_of_mem_drop he)) henv hrules

lemma append (h : Recorded codec run) {env : VoteEnvelope} (henv : env.data.Spans)
    (htext : (codec.toText env).isSome)
    (hrules : underRules run.journal.lru env.data.sourceNumber env.data.targetNumber) :
    Recorded codec ⟨⟨run.journal.lru.add env.data.targetNumber env.data,
      run.journal.file ++ lineOf codec env⟩, run.accepted ++ [env]⟩ where
  file := by simp [h.file]
  texts e he := by
    rcases mem_append.mp he with he | he
    · exact h.texts e he
    · rw [mem_singleton.mp he]; exact htext
  spans e he := by
    rcases mem_append.mp he with he | he
    · exact h.spans e he
    · rw [mem_singleton.mp he]; exact henv
  capacity := by simp [h.capacity]
  lru := by
    have hfresh : run.journal.lru.contains env.data.targetNumber = false := by
      simp only [underRules, Bool.and_eq_true, Bool.not_eq_true'] at hrules
      exact hrules.1.1
    have hadd := h.lru.add (by rw [h.capacity]; decide) hfresh env.data
    rw [h.capacity, recentEntries, pushBounded_rtake] at hadd
    simpa [recentEntries] using hadd
  compatible := h.compatible.concat fun e he => h.compatible_of_mem henv hrules he

/-- **One event** keeps the run recorded. -/
lemma exec (hcodec : codec.Lawful) (h : Recorded codec run) {event : JournalEvent}
    (hevent : event.Undisturbed) : Recorded codec (run.exec codec event) := by
  cases event with
  | restart => exact h.restart hcodec
  | crash env kept => exact absurd hevent id
  | write env memOnly io =>
    obtain ⟨henv, rfl, hio⟩ := hevent
    rw [JournalRun.exec]
    rcases run.journal.writeVote_cases codec env false io with
      ⟨hres, hj⟩ | ⟨hrules, ⟨hmem, -⟩ | ⟨-, htext, ⟨-, hw⟩ | ⟨kept, hkept, -⟩⟩⟩
    · simp only [hres, hj, Bool.false_eq_true, if_false]
      exact h
    · cases hmem
    · simp only [hw]
      exact h.append henv htext hrules
    · rcases hio with rfl | rfl <;> cases hkept

/-- **Whole runs** stay recorded. -/
lemma execAll (hcodec : codec.Lawful) (h : Recorded codec run) {events : List JournalEvent}
    (hevents : ∀ event ∈ events, event.Undisturbed) :
    Recorded codec (run.execAll codec events) := by
  induction events generalizing run with
  | nil => exact h
  | cons event events ih =>
    have hnext := h.exec hcodec (hevents event (by simp))
    exact ih hnext fun e he => hevents e (mem_cons_of_mem _ he)

end Recorded

/-- **Slashing safety over whole runs.** In every run of requests and restarts in which no
append fails, two accepted votes with fewer than 512 accepted ones between them are
compatible. -/
theorem accepted_votes_compatible {codec : VoteCodec} (hcodec : codec.Lawful)
    {events : List JournalEvent} (hevents : ∀ event ∈ events, event.Undisturbed) {i j : ℕ}
    {earlier later : VoteEnvelope} (hij : i < j) (hbetween : j - i - 1 < maxRecentEntries)
    (hi : ((JournalRun.start codec).execAll codec events).accepted[i]? = some earlier)
    (hj : ((JournalRun.start codec).execAll codec events).accepted[j]? = some later) :
    Compatible earlier.data later.data := by
  have hrec := (Recorded.start codec).execAll hcodec hevents
  exact hrec.compatible i j earlier later hij (by omega) hi hj

/-! ### Votes as tallies -/

def tally (n : ℕ) : Text := List.replicate n 'i' ++ [';']

def readTally : Text → Option (ℕ × Text)
  | [] => none
  | ch :: rest =>
    if ch = ';' then some (0, rest)
    else if ch = 'i' then (readTally rest).map fun r => (r.1 + 1, r.2)
    else none

lemma readTally_tally (n : ℕ) (rest : Text) : readTally (tally n ++ rest) = some (n, rest) := by
  induction n with
  | zero => rfl
  | succ n ih =>
    rw [tally, replicate_succ, cons_append, ← tally, cons_append, readTally,
      if_neg (by decide), if_pos rfl, ih]
    rfl

/-- A vote as six tallies between brackets. -/
def tallyText (env : VoteEnvelope) : Text :=
  '<' :: (tally env.voteAddress.toNat ++ (tally env.signature.toNat ++
    (tally env.data.sourceNumber ++ (tally env.data.sourceHash.toNat ++
    (tally env.data.targetNumber ++ (tally env.data.targetHash.toNat ++ ['>']))))))

def readVote : Text → Option VoteEnvelope
  | '<' :: text => do
    let (voteAddress, text) ← readTally text
    let (signature, text) ← readTally text
    let (sourceNumber, text) ← readTally text
    let (sourceHash, text) ← readTally text
    let (targetNumber, text) ← readTally text
    let (targetHash, text) ← readTally text
    if text = ['>'] then
      some ⟨BitVec.ofNat _ voteAddress, BitVec.ofNat _ signature,
        ⟨sourceNumber, BitVec.ofNat _ sourceHash, targetNumber, BitVec.ofNat _ targetHash⟩⟩
    else none
  | _ => none

def tallyCodec : VoteCodec := ⟨fun env => some (tallyText env), readVote⟩

lemma tallyText_chars {env : VoteEnvelope} {ch : Char} (h : ch ∈ tallyText env) :
    ch = '<' ∨ ch = 'i' ∨ ch = ';' ∨ ch = '>' := by
  simp only [tallyText, tally, mem_cons, mem_append, mem_replicate, not_mem_nil, or_false] at h
  tauto

lemma tallyCodec_lawful : tallyCodec.Lawful where
  roundTrip env text h := by
    cases h
    simp [tallyCodec, tallyText, readVote, readTally_tally]
  oneLine env text h := by
    cases h
    constructor
    · intro hmem
      rcases tallyText_chars hmem with h | h | h | h <;> cases h
    · intro hmem
      rcases tallyText_chars hmem with h | h | h | h <;> cases h
  nonempty env text h := by
    cases h
    exact cons_ne_nil _ _

def sampleVote (source target : ℕ) (targetHash : B256) : VoteEnvelope :=
  ⟨0, 0, ⟨source, 0, target, targetHash⟩⟩

/-- A request that the file system serves. -/
def requestVote (source target : ℕ) (targetHash : B256) : JournalEvent :=
  .write (sampleVote source target targetHash) false .written

def acceptedVotes (events : List JournalEvent) : List VoteEnvelope :=
  ((JournalRun.start tallyCodec).execAll tallyCodec events).accepted

/-- Two votes with a restart between them. -/
theorem accepted_votes_compatible_tally : Compatible ⟨1, 0, 2, 5⟩ ⟨2, 0, 3, 6⟩ := by
  have hevents : ∀ event ∈ [requestVote 1 2 5, .restart, requestVote 2 3 6], event.Undisturbed := by
    simp only [mem_cons, not_mem_nil, or_false, forall_eq_or_imp, forall_eq]
    simp [requestVote, sampleVote, JournalEvent.Undisturbed, VoteData.Spans, u64Max]
  have haccepted : acceptedVotes [requestVote 1 2 5, .restart, requestVote 2 3 6] =
      [sampleVote 1 2 5, sampleVote 2 3 6] := by decide +kernel
  rw [acceptedVotes] at haccepted
  have hfirst : ((JournalRun.start tallyCodec).execAll tallyCodec
      [requestVote 1 2 5, .restart, requestVote 2 3 6]).accepted[0]? = some (sampleVote 1 2 5) := by
    rw [haccepted]; rfl
  have hsecond : ((JournalRun.start tallyCodec).execAll tallyCodec
      [requestVote 1 2 5, .restart, requestVote 2 3 6]).accepted[1]? = some (sampleVote 2 3 6) := by
    rw [haccepted]; rfl
  exact accepted_votes_compatible tallyCodec_lawful hevents (by decide) (by decide) hfirst hsecond

/-- **Votes that are accepted all the same.** A vote enclosed by one whose target lies
more than eleven blocks above it, or near the end of the number range, passes the forward
window. In memory-only mode, or above what a failed append left behind, a restart forgets a
vote and its target is accepted again. -/
theorem accepts_slashable_votes : (acceptedVotes [requestVote 90 200 0, requestVote 100 150 0] =
        [sampleVote 90 200 0, sampleVote 100 150 0] ∧
      (sampleVote 90 200 0).data.Encloses (sampleVote 100 150 0).data ∧
      200 ≤ 150 + maliciousVoteSlashScope) ∧
    (acceptedVotes [requestVote (u64Max - 20) u64Max 0, requestVote (u64Max - 10) (u64Max - 5) 0] =
        [sampleVote (u64Max - 20) u64Max 0, sampleVote (u64Max - 10) (u64Max - 5) 0] ∧
      (sampleVote (u64Max - 20) u64Max 0).data.Encloses
        (sampleVote (u64Max - 10) (u64Max - 5) 0).data) ∧
    acceptedVotes [.write (sampleVote 1 2 0) true .written, .restart,
        .write (sampleVote 1 2 1) true .written] = [sampleVote 1 2 0, sampleVote 1 2 1] ∧
    acceptedVotes [.write (sampleVote 1 2 0) false (.failed 1), requestVote 2 3 0, .restart,
        requestVote 2 3 1] = [sampleVote 2 3 0, sampleVote 2 3 1] := by
  decide +kernel

end RethBsc
