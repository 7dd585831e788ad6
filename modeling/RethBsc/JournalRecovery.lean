import RethBsc.VoteSafety

/-!
Crash safety of the vote journal.

An append that fails or dies may leave part of its line at the end of the file. The journal
reads such a file back well enough: the leftover is one more line, readable or not. What it
does not survive is the next append, which continues the leftover, so that a vote written
and synced in full sits on a line nobody can read. As long as every append starts at the
start of a line, every accepted vote among the last 512 records is found again.
-/

namespace RethBsc

open List

/-- The file is empty or ends with a line end. -/
def LineStart (file : Text) : Prop := file = [] ∨ file.getLast? = some '\n'

instance (file : Text) : Decidable (LineStart file) := inferInstanceAs (Decidable (_ ∨ _))

/-- The record an event leaves in the file, whole or in part, and whether the vote was
accepted; none if the file stays as it is. -/
def leftBy (codec : VoteCodec) (journal : VoteJournal) : JournalEvent → List (VoteEnvelope × Bool)
  | .write env memOnly io =>
    let out := journal.writeVote codec env memOnly io
    if out.2.file = journal.file then [] else [(env, out.1.isOk)]
  | .crash env kept =>
    if (journal.writeVote codec env false (.failed kept)).2.file = journal.file then []
    else [(env, false)]
  | .restart => []

/-- A run with the records it has left in the file, oldest first. -/
structure LoggedRun extends JournalRun where
  log : List (VoteEnvelope × Bool)

namespace LoggedRun

variable (codec : VoteCodec)

def start : LoggedRun := ⟨JournalRun.start codec, []⟩

def exec (run : LoggedRun) (event : JournalEvent) : LoggedRun :=
  ⟨run.toJournalRun.exec codec event, run.log ++ leftBy codec run.journal event⟩

def execAll (run : LoggedRun) (events : List JournalEvent) : LoggedRun :=
  events.foldl (exec codec) run

end LoggedRun

/-- The event goes to the file, and what it leaves there starts on a line of its own. -/
def JournalEvent.SafeAt (codec : VoteCodec) (journal : VoteJournal) (event : JournalEvent) : Prop :=
  (∀ env io, event ≠ .write env true io) ∧
    (leftBy codec journal event ≠ [] → LineStart journal.file)

def SafeRun (codec : VoteCodec) : LoggedRun → List JournalEvent → Prop
  | _, [] => True
  | run, event :: events => event.SafeAt codec run.journal ∧
    SafeRun codec (run.exec codec event) events

/-- The file is the whole lines of the log, the last of which may be torn. -/
structure Legible (codec : VoteCodec) (run : LoggedRun) (whole : List (VoteEnvelope × Bool))
    (torn : Text) : Prop where
  file : run.journal.file = (whole.map Prod.fst).flatMap (lineOf codec) ++ torn
  texts : ∀ env ∈ whole.map Prod.fst, (codec.toText env).isSome = true
  log : torn = [] ∧ run.log = whole ∨
    torn ≠ [] ∧ '\n' ∉ torn ∧ ∃ env, run.log = whole ++ [(env, false)]
  accepted : run.accepted = (run.log.filter Prod.snd).map Prod.fst

namespace Legible

variable {codec : VoteCodec} {run : LoggedRun} {whole : List (VoteEnvelope × Bool)} {torn : Text}

lemma start (codec : VoteCodec) : Legible codec (LoggedRun.start codec) [] [] where
  file := rfl
  texts env h := by simp at h
  log := Or.inl ⟨rfl, rfl⟩
  accepted := rfl

lemma torn_eq_nil (h : Legible codec run whole torn) (hstart : LineStart run.journal.file) :
    torn = [] ∧ run.log = whole := by
  rcases h.log with hlog | ⟨hne, hnl, -⟩
  · exact hlog
  · exfalso
    have hfile : run.journal.file ≠ [] := by
      rw [h.file]
      simp [hne]
    have hlast := hstart.resolve_left hfile
    rw [h.file, getLast?_append_of_ne_nil _ hne] at hlast
    exact hnl (mem_of_getLast? hlast)

lemma append_whole (h : Legible codec run whole torn) (hstart : LineStart run.journal.file)
    {env : VoteEnvelope} (htext : (codec.toText env).isSome) (lru : VoteDataLru) (ok : Bool) :
    Legible codec ⟨⟨⟨lru, run.journal.file ++ lineOf codec env⟩,
        if ok then run.accepted ++ [env] else run.accepted⟩, run.log ++ [(env, ok)]⟩
      (whole ++ [(env, ok)]) [] := by
  obtain ⟨rfl, hlog⟩ := h.torn_eq_nil hstart
  refine ⟨?_, fun e he => ?_, Or.inl ⟨rfl, by rw [hlog]⟩, ?_⟩
  · simp [h.file]
  · rw [map_append, mem_append] at he
    rcases he with he | he
    · exact h.texts e he
    · simp only [map_cons, map_nil, mem_singleton] at he
      rw [he]; exact htext
  · cases ok <;> simp [h.accepted]

lemma append_part (h : Legible codec run whole torn) (hstart : LineStart run.journal.file)
    {env : VoteEnvelope} (htext : (codec.toText env).isSome) (hcodec : codec.Lawful)
    (lru : VoteDataLru) {kept : ℕ} (hne : (lineOf codec env).take kept ≠ []) :
    ∃ whole' torn', Legible codec ⟨⟨⟨lru, run.journal.file ++ (lineOf codec env).take kept⟩,
      run.accepted⟩, run.log ++ [(env, false)]⟩ whole' torn' := by
  by_cases hall : (lineOf codec env).length ≤ kept
  · rw [take_of_length_le hall]
    exact ⟨_, _, h.append_whole hstart htext lru false⟩
  · -- the line end is missing
    obtain ⟨text, htext'⟩ := Option.isSome_iff_exists.mp htext
    have hline : lineOf codec env = text ++ ['\n'] := by rw [lineOf, htext', Option.getD_some]
    rw [hline, length_append, length_singleton] at hall
    have htake : (lineOf codec env).take kept = text.take kept := by
      rw [hline, take_append_of_le_length (by omega)]
    rw [htake] at hne
    obtain ⟨rfl, hlog⟩ := h.torn_eq_nil hstart
    refine ⟨whole, text.take kept, ?_, h.texts, Or.inr ⟨hne, ?_, env, by rw [hlog]⟩, ?_⟩
    · simp [h.file, htake]
    · exact fun hmem => (hcodec.oneLine env text htext').1 (mem_of_mem_take hmem)
    · simp [h.accepted]

lemma take_ne_nil {file line : Text} {kept : ℕ} (h : file ++ line.take kept ≠ file) :
    line.take kept ≠ [] := by
  intro hnil
  rw [hnil, append_nil] at h
  exact h rfl

/-- **One safe event** keeps the file legible. -/
lemma exec (hcodec : codec.Lawful) (h : Legible codec run whole torn) {event : JournalEvent}
    (hsafe : event.SafeAt codec run.journal) :
    ∃ whole' torn', Legible codec (run.exec codec event) whole' torn' := by
  obtain ⟨hdisk, hstart⟩ := hsafe
  cases event with
  | restart =>
    refine ⟨whole, torn, h.file, h.texts, ?_, ?_⟩
    · simpa [LoggedRun.exec, leftBy] using h.log
    · simpa [LoggedRun.exec, leftBy, JournalRun.exec] using h.accepted
  | crash env kept =>
    simp only [leftBy] at hstart
    simp only [LoggedRun.exec, JournalRun.exec, leftBy]
    split_ifs at hstart ⊢ with hfile
    · rw [hfile, append_nil]
      exact ⟨whole, torn, h.file, h.texts, h.log, h.accepted⟩
    · have hline := hstart (by simp)
      rcases run.journal.writeVote_cases codec env false (.failed kept) with
        ⟨-, hj⟩ | ⟨-, ⟨hmem, -⟩ | ⟨-, htext, ⟨hio, -⟩ | ⟨k, hk, hw⟩⟩⟩
      · rw [hj] at hfile
        exact absurd rfl hfile
      · cases hmem
      · cases hio
      · cases hk
        rw [hw] at hfile ⊢
        exact h.append_part hline htext hcodec _ (take_ne_nil hfile)
  | write env memOnly io =>
    cases memOnly with
    | true => exact absurd rfl (hdisk env io)
    | false =>
      simp only [leftBy] at hstart
      simp only [LoggedRun.exec, JournalRun.exec, leftBy]
      rcases run.journal.writeVote_cases codec env false io with
        ⟨hres, hj⟩ | ⟨-, ⟨hmem, -⟩ | ⟨-, htext, ⟨-, hw⟩ | ⟨kept, -, hw⟩⟩⟩
      · simp only [hres, hj, if_true, Bool.false_eq_true, if_false, append_nil]
        exact ⟨whole, torn, h.file, h.texts, h.log, h.accepted⟩
      · cases hmem
      · have hgrew : ¬run.journal.file ++ lineOf codec env = run.journal.file := by
          simp [lineOf]
        rw [hw, if_neg hgrew] at hstart
        rw [hw, if_neg hgrew]
        exact ⟨_, _, h.append_whole (hstart (by simp)) htext _ true⟩
      · have hres :
            (Except.error JournalError.append : Except JournalError Unit).isOk = false := rfl
        simp only [hw, hres, Bool.false_eq_true, if_false] at hstart ⊢
        split_ifs at hstart ⊢ with hfile
        · rw [append_nil]
          exact ⟨whole, torn, hfile.trans h.file, h.texts, h.log, h.accepted⟩
        · exact h.append_part (hstart (by simp)) htext hcodec _ (take_ne_nil hfile)

/-- **Safe runs** leave a legible file. -/
lemma execAll (hcodec : codec.Lawful) (h : Legible codec run whole torn)
    {events : List JournalEvent} (hsafe : SafeRun codec run events) :
    ∃ whole' torn', Legible codec (run.execAll codec events) whole' torn' := by
  induction events generalizing run whole torn with
  | nil => exact ⟨whole, torn, h⟩
  | cons event events ih =>
    obtain ⟨whole', torn', hnext⟩ := h.exec hcodec hsafe.1
    exact ih hnext hsafe.2

lemma journalRecords (hcodec : codec.Lawful) (h : Legible codec run whole torn) :
    ∃ extra, journalRecords codec run.journal.file =
        (whole.map Prod.fst).map VoteEnvelope.data ++ extra ∧
      whole.length + extra.length ≤ run.log.length := by
  rw [h.file, journalRecords_flatMap hcodec h.texts]
  refine ⟨_, rfl, ?_⟩
  rcases h.log with ⟨rfl, hlog⟩ | ⟨-, hnl, env, hlog⟩
  · simp [hlog, RethBsc.journalRecords, textLines, linesFrom]
  · -- a text without a line end is one line at most
    have hline : (textLines torn).length ≤ 1 := by
      rw [textLines, linesFrom_of_notMem hnl]
      split_ifs <;> simp
    have hone : (RethBsc.journalRecords codec torn).length ≤ 1 :=
      calc (RethBsc.journalRecords codec torn).length ≤ (textLines torn).length :=
            length_filterMap_le _ _
        _ ≤ 1 := hline
    rw [hlog, length_append, length_singleton]
    omega

end Legible

lemma underRules_loadFromDisk {codec : VoteCodec} {file : Text} {i : ℕ} {vd : VoteData}
    (hi : (journalRecords codec file)[i]? = some vd)
    (hrecent : (journalRecords codec file).length ≤ i + maxRecentEntries) (source : ℕ) :
    (loadFromDisk codec file).contains vd.targetNumber ∧
      underRules (loadFromDisk codec file) source vd.targetNumber = false := by
  have hmem : vd ∈ (journalRecords codec file).rtake maxRecentEntries :=
    mem_rtake_of_getElem? hi hrecent
  have hlen : ((journalRecords codec file).rtake maxRecentEntries).length ≤ maxRecentEntries := by
    rw [rtake, length_drop]
    omega
  have hcontains : (loadFromDisk codec file).contains vd.targetNumber := by
    rw [loadFromDisk, foldl_pushBounded, FifoMap.contains_addAll]
    · right
      rw [map_map, mem_map]
      exact ⟨vd, hmem, rfl⟩
    · rw [length_map]
      exact (Nat.zero_add _).le.trans hlen
  refine ⟨hcontains, ?_⟩
  rw [underRules, hcontains]
  rfl

/-- **Crash safety where appends start on a line of their own.** In every run in which each
event that leaves something in the file finds the file empty or at a line end, and that is not
in memory-only mode, the accepted votes are the accepted records of the log, and each one
among the last 512 records is found by the next load, after which its target is refused. -/
theorem accepted_votes_survive {codec : VoteCodec} (hcodec : codec.Lawful)
    {events : List JournalEvent} (hsafe : SafeRun codec (LoggedRun.start codec) events) :
    ((LoggedRun.start codec).execAll codec events).accepted =
      (((LoggedRun.start codec).execAll codec events).log.filter Prod.snd).map Prod.fst ∧
    ∀ i env, ((LoggedRun.start codec).execAll codec events).log[i]? = some (env, true) →
      ((LoggedRun.start codec).execAll codec events).log.length ≤ i + maxRecentEntries →
      let lru := loadFromDisk codec ((LoggedRun.start codec).execAll codec events).journal.file
      lru.contains env.data.targetNumber = true ∧
        ∀ source, underRules lru source env.data.targetNumber = false := by
  obtain ⟨whole, torn, h⟩ := (Legible.start codec).execAll hcodec hsafe
  generalize (LoggedRun.start codec).execAll codec events = run at h
  refine ⟨h.accepted, fun i env hi hrecent => ?_⟩
  obtain ⟨extra, hrecords, hlen⟩ := h.journalRecords hcodec
  -- an accepted record is never the torn one
  have hwhole : whole[i]? = some (env, true) := by
    rcases h.log with ⟨-, hlog⟩ | ⟨-, -, last, hlog⟩
    · rwa [hlog] at hi
    · rw [hlog] at hi
      by_cases hlt : i < whole.length
      · rwa [getElem?_append_left hlt] at hi
      · rw [getElem?_append_right (by omega)] at hi
        cases hd : i - whole.length with
        | zero => rw [hd] at hi; cases hi
        | succ n => rw [hd] at hi; simp at hi
  have hget : (journalRecords codec run.journal.file)[i]? = some env.data := by
    have hlt := (List.getElem?_eq_some_iff.mp hwhole).1
    rw [hrecords, getElem?_append_left (by simpa using hlt)]
    simp [hwhole]
  have hshort : (journalRecords codec run.journal.file).length ≤ i + maxRecentEntries := by
    rw [hrecords, length_append, length_map, length_map]
    omega
  exact ⟨(underRules_loadFromDisk hget hshort 0).1,
    fun source => (underRules_loadFromDisk hget hshort source).2⟩

/-! ### A vote between two crashes -/

/-- A vote, a crash that leaves nothing, a vote, and a crash that tears its line. -/
def crashEvents : List JournalEvent :=
  [requestVote 1 2 5, .crash (sampleVote 2 3 0) 0, requestVote 2 3 6, .crash (sampleVote 3 4 0) 2]

/-- Both votes are found again. -/
theorem accepted_votes_survive_crashes :
    let lru := loadFromDisk tallyCodec
      ((LoggedRun.start tallyCodec).execAll tallyCodec crashEvents).journal.file
    underRules lru 1 2 = false ∧ underRules lru 2 3 = false := by
  have hsafe : SafeRun tallyCodec (LoggedRun.start tallyCodec) crashEvents := by
    refine ⟨⟨?_, ?_⟩, ⟨?_, ?_⟩, ⟨?_, ?_⟩, ⟨?_, ?_⟩, trivial⟩
    all_goals first
      | (intro env io h; cases h)
      | decide +kernel
  have hlog : ((LoggedRun.start tallyCodec).execAll tallyCodec crashEvents).log =
      [(sampleVote 1 2 5, true), (sampleVote 2 3 6, true), (sampleVote 3 4 0, false)] := by
    decide +kernel
  have hsurvive := (accepted_votes_survive tallyCodec_lawful hsafe).2
  rw [hlog] at hsurvive
  exact ⟨(hsurvive 0 (sampleVote 1 2 5) rfl (by decide)).2 1,
    (hsurvive 1 (sampleVote 2 3 6) rfl (by decide)).2 2⟩

/-- The file after a crash that leaves the first character of its line, and a vote. -/
def gluedFile : Text :=
  ((JournalRun.start tallyCodec).execAll tallyCodec
    [.crash (sampleVote 1 2 0) 1, requestVote 2 3 0]).journal.file

/-- **A synced vote that is lost.** A crash leaves the first character of a line. The next
vote is written and synced in full, but on that line: after a restart its target is free, and
a second vote for it is accepted. -/
theorem forgets_synced_vote :
    acceptedVotes [.crash (sampleVote 1 2 0) 1, requestVote 2 3 0] = [sampleVote 2 3 0] ∧
    (loadFromDisk tallyCodec gluedFile).contains 3 = false ∧
    underRules (loadFromDisk tallyCodec gluedFile) 2 3 = true ∧
    acceptedVotes [.crash (sampleVote 1 2 0) 1, requestVote 2 3 0, .restart, requestVote 2 3 1] =
      [sampleVote 2 3 0, sampleVote 2 3 1] := by
  decide +kernel

end RethBsc
