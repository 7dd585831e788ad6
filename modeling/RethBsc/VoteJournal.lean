import RethBsc.BoundedMap
import RethBsc.Primitives

/-!
The journal of the node's own votes.

A vote is checked against the votes the journal remembers, appended to a file as one line,
and then remembered under its target number. A restart reads the last lines of the file
back. The file is kept here as the text it holds: what the journal writes is ASCII, so a
prefix of a line is text too.
-/

namespace RethBsc

open List

def maxRecentEntries : ℕ := 512
def maliciousVoteSlashScope : ℕ := 256
/-- Upper bound window for forward-looking rule checks. -/
def upperLimitOfVoteBlockNumber : ℕ := 11

abbrev Text := List Char

/-- What the journal takes from `serde_json`: the text of a vote, and the vote of a text. -/
structure VoteCodec where
  toText : VoteEnvelope → Option Text
  fromText : Text → Option VoteEnvelope

/-- Texts read back as what they were written for, and fit on a line. -/
structure VoteCodec.Lawful (codec : VoteCodec) : Prop where
  roundTrip : ∀ env text, codec.toText env = some text → codec.fromText text = some env
  oneLine : ∀ env text, codec.toText env = some text → '\n' ∉ text ∧ '\r' ∉ text
  nonempty : ∀ env text, codec.toText env = some text → text ≠ []

/-! ### Lines of a text -/

/-- `BufRead::lines`, with the part of the current line that has been read: line ends are
dropped, and what follows the last one is a line unless it is empty. -/
def linesFrom (pending : Text) : Text → List Text
  | [] => if pending = [] then [] else [pending]
  | ch :: rest =>
    if ch = '\n' then
      (if pending.getLast? = some '\r' then pending.dropLast else pending) :: linesFrom [] rest
    else linesFrom (pending ++ [ch]) rest

def textLines (text : Text) : List Text := linesFrom [] text

lemma linesFrom_append_newline {pending line : Text} (rest : Text) (hn : '\n' ∉ line)
    (hr : (pending ++ line).getLast? ≠ some '\r') :
    linesFrom pending (line ++ '\n' :: rest) = (pending ++ line) :: linesFrom [] rest := by
  induction line generalizing pending with
  | nil =>
    rw [append_nil] at hr
    simp [linesFrom, hr]
  | cons ch line ih =>
    rw [mem_cons, not_or] at hn
    obtain ⟨hch, hline⟩ := hn
    rw [cons_append, linesFrom, if_neg (Ne.symm hch), ih hline (by simpa using hr)]
    simp

lemma linesFrom_of_notMem {pending line : Text} (hn : '\n' ∉ line) :
    linesFrom pending line = if pending ++ line = [] then [] else [pending ++ line] := by
  induction line generalizing pending with
  | nil => simp [linesFrom]
  | cons ch line ih =>
    rw [mem_cons, not_or] at hn
    obtain ⟨hch, hline⟩ := hn
    rw [linesFrom, if_neg (Ne.symm hch), ih hline]
    simp

/-! ### The rules -/

abbrev VoteDataLru := FifoMap ℕ VoteData

/-- The votes of a file, in the order of its lines. Empty and unreadable lines are skipped. -/
def journalRecords (codec : VoteCodec) (file : Text) : List VoteData :=
  (textLines file).filterMap fun line =>
    if line.isEmpty then none else (codec.fromText line).map VoteEnvelope.data

def loadFromDisk (codec : VoteCodec) (file : Text) : VoteDataLru :=
  let buf := (journalRecords codec file).foldl (pushBounded maxRecentEntries) []
  (FifoMap.new maxRecentEntries).addAll (buf.map fun vd => (vd.targetNumber, vd))

def lineOf (codec : VoteCodec) (env : VoteEnvelope) : Text := (codec.toText env).getD [] ++ ['\n']

lemma journalRecords_flatMap {codec : VoteCodec} (hcodec : codec.Lawful) {l : List VoteEnvelope}
    (hl : ∀ env ∈ l, (codec.toText env).isSome) (rest : Text) :
    journalRecords codec (l.flatMap (lineOf codec) ++ rest) =
      l.map VoteEnvelope.data ++ journalRecords codec rest := by
  induction l with
  | nil => simp
  | cons env l ih =>
    have hrest := ih fun e he => hl e (mem_cons_of_mem _ he)
    obtain ⟨text, htext⟩ := Option.isSome_iff_exists.mp (hl env (by simp))
    obtain ⟨hn, hr⟩ := hcodec.oneLine env text htext
    have hne := hcodec.nonempty env text htext
    have hlast : ([] ++ text).getLast? ≠ some '\r' := fun h =>
      hr (mem_of_getLast? (by simpa using h))
    have hread : codec.fromText text = some env := hcodec.roundTrip env text htext
    unfold journalRecords textLines at hrest ⊢
    rw [flatMap_cons, lineOf, htext, Option.getD_some, append_assoc, append_assoc,
      singleton_append, linesFrom_append_newline _ hn hlast, nil_append,
      filterMap_cons, hrest]
    simp [hne, hread]

/-- Whether a remembered vote at this height has a source the test refuses. -/
def conflictsAt (lru : VoteDataLru) (refuses : ℕ → Bool) (n : ℕ) : Bool :=
  match lru.get n with
  | some vd => refuses vd.sourceNumber
  | none => false

def backwardStart (sourceNumber targetNumber : ℕ) : ℕ :=
  let blockNumber := min (sourceNumber + 1) u64Max
  if wrappingAdd blockNumber maliciousVoteSlashScope < targetNumber
  then targetNumber - maliciousVoteSlashScope else blockNumber

/-- The rules of a vote. The forward window is lost where its upper bound wraps; a bound of
exactly `u64::MAX`, on which the source loops forever, is scanned once. -/
def underRules (lru : VoteDataLru) (sourceNumber targetNumber : ℕ) : Bool :=
  let start := backwardStart sourceNumber targetNumber
  let next := wrappingAdd targetNumber 1
  let upper := wrappingAdd targetNumber upperLimitOfVoteBlockNumber
  !lru.contains targetNumber &&
  !(List.range' start (targetNumber - start)).any
    (conflictsAt lru fun source => decide (source > sourceNumber)) &&
  !(List.range' next (upper + 1 - next)).any
    (conflictsAt lru fun source => decide (source < sourceNumber))

/-! ### Writing a vote -/

structure VoteJournal where
  lru : VoteDataLru
  file : Text

inductive JournalError
  | violatesRules | serialize | openFile | append
  deriving DecidableEq

/-- How the file system answers an append: the file cannot be opened, the line is written
and synced, or the write fails and this many characters of it stay (none where the rollback
succeeds). -/
inductive AppendIo
  | openFailed
  | written
  | failed (kept : ℕ)
  deriving DecidableEq

namespace VoteJournal

variable (codec : VoteCodec)

def new (file : Text) : VoteJournal := ⟨loadFromDisk codec file, file⟩

/-- Append a vote to the journal and update the in-memory cache. The height is claimed
once a write was attempted. -/
def writeVote (journal : VoteJournal) (env : VoteEnvelope) (memOnly : Bool) (io : AppendIo) :
    Except JournalError Unit × VoteJournal :=
  if !underRules journal.lru env.data.sourceNumber env.data.targetNumber then
    (.error .violatesRules, journal)
  else
    let claimed := journal.lru.add env.data.targetNumber env.data
    if memOnly then (.ok (), { journal with lru := claimed })
    else
      match codec.toText env with
      | none => (.error .serialize, journal)
      | some text =>
        let line := text ++ ['\n']
        match io with
        | .openFailed => (.error .openFile, journal)
        | .written => (.ok (), ⟨claimed, journal.file ++ line⟩)
        | .failed kept => (.error .append, ⟨claimed, journal.file ++ line.take kept⟩)

variable {codec} {journal : VoteJournal} {env : VoteEnvelope} {memOnly : Bool} {io : AppendIo}

/-- **What a write can do**: fail and change nothing, claim the height in memory, append the
line, or claim the height with part of the line left in the file. -/
lemma writeVote_cases (codec : VoteCodec) (journal : VoteJournal) (env : VoteEnvelope)
    (memOnly : Bool) (io : AppendIo) :
    ((journal.writeVote codec env memOnly io).1.isOk = false ∧
      (journal.writeVote codec env memOnly io).2 = journal) ∨
    (underRules journal.lru env.data.sourceNumber env.data.targetNumber ∧
      (memOnly ∧ journal.writeVote codec env memOnly io =
        (.ok (), ⟨journal.lru.add env.data.targetNumber env.data, journal.file⟩) ∨
      memOnly = false ∧ (codec.toText env).isSome ∧
        (io = .written ∧ journal.writeVote codec env memOnly io = (.ok (),
          ⟨journal.lru.add env.data.targetNumber env.data, journal.file ++ lineOf codec env⟩) ∨
        ∃ kept, io = .failed kept ∧ journal.writeVote codec env memOnly io = (.error .append,
          ⟨journal.lru.add env.data.targetNumber env.data,
            journal.file ++ (lineOf codec env).take kept⟩)))) := by
  unfold writeVote
  cases hrules : underRules journal.lru env.data.sourceNumber env.data.targetNumber with
  | false => exact Or.inl ⟨rfl, rfl⟩
  | true =>
    cases memOnly with
    | true => exact Or.inr ⟨rfl, Or.inl ⟨rfl, rfl⟩⟩
    | false =>
      cases htext : codec.toText env with
      | none => exact Or.inl ⟨rfl, rfl⟩
      | some text =>
        have hline : lineOf codec env = text ++ ['\n'] := by rw [lineOf, htext, Option.getD_some]
        rw [hline]
        cases io with
        | openFailed => exact Or.inl ⟨rfl, rfl⟩
        | written => exact Or.inr ⟨rfl, Or.inr ⟨rfl, rfl, Or.inl ⟨rfl, rfl⟩⟩⟩
        | failed kept => exact Or.inr ⟨rfl, Or.inr ⟨rfl, rfl, Or.inr ⟨kept, rfl, rfl⟩⟩⟩

end VoteJournal

/-! ### What the rules guarantee -/

def VoteData.Encloses (outer inner : VoteData) : Prop :=
  outer.sourceNumber < inner.sourceNumber ∧ inner.targetNumber < outer.targetNumber

instance (outer inner : VoteData) : Decidable (outer.Encloses inner) :=
  inferInstanceAs (Decidable (_ ∧ _))

/-- A later vote does not fall on the target of an earlier one, does not enclose one whose
target lies within the slashing scope below, and is not enclosed by one whose target lies
within the forward window above. -/
structure Compatible (earlier later : VoteData) : Prop where
  target_ne : earlier.targetNumber ≠ later.targetNumber
  not_encloses : later.targetNumber ≤ earlier.targetNumber + maliciousVoteSlashScope →
    ¬later.Encloses earlier
  not_enclosed : earlier.targetNumber ≤ later.targetNumber + upperLimitOfVoteBlockNumber →
    later.targetNumber + upperLimitOfVoteBlockNumber ≤ u64Max → ¬earlier.Encloses later

/-- A vote over block numbers, as a request carries it. -/
def VoteData.Spans (vd : VoteData) : Prop :=
  vd.sourceNumber < vd.targetNumber ∧ vd.targetNumber ≤ u64Max

lemma not_refuses_of_any_eq_false {lru : VoteDataLru} {refuses : ℕ → Bool} {a b n : ℕ}
    {vd : VoteData} (h : (range' a (b - a)).any (conflictsAt lru refuses) = false)
    (han : a ≤ n) (hnb : n < b) (hget : lru.get n = some vd) : refuses vd.sourceNumber = false := by
  rw [any_eq_false] at h
  have hn := h n (by rw [mem_range'_1]; omega)
  simpa [conflictsAt, hget] using hn

lemma backwardStart_le {source target n : ℕ} (hspan : source < target) (htarget : target ≤ u64Max)
    (hn : source < n) (hscope : target ≤ n + maliciousVoteSlashScope) :
    backwardStart source target ≤ n := by
  have hmin : min (source + 1) u64Max = source + 1 := by omega
  unfold backwardStart
  simp only [hmin]
  split_ifs
  · omega
  · omega

/-- **The rules against one remembered vote.** -/
lemma compatible_of_underRules {lru : VoteDataLru} {earlier later : VoteData}
    (hget : lru.get earlier.targetNumber = some earlier) (he : earlier.Spans) (hl : later.Spans)
    (h : underRules lru later.sourceNumber later.targetNumber) :
    Compatible earlier later := by
  simp only [underRules, Bool.and_eq_true, Bool.not_eq_true'] at h
  obtain ⟨⟨hcontains, hback⟩, hforward⟩ := h
  refine ⟨?_, ?_, ?_⟩
  · intro heq
    rw [← heq, FifoMap.contains, OrdMap.contains, ← FifoMap.get, hget] at hcontains
    cases hcontains
  · rintro hscope ⟨henc, hlt⟩
    have hstart := backwardStart_le hl.1 hl.2 (henc.trans he.1) hscope
    have hno := not_refuses_of_any_eq_false hback hstart hlt hget
    simp only [gt_iff_lt, decide_eq_false_iff_not] at hno
    exact hno henc
  · rintro hupper hfits ⟨henc, hlt⟩
    have hnext : wrappingAdd later.targetNumber 1 = later.targetNumber + 1 := by
      unfold wrappingAdd
      unfold u64Max upperLimitOfVoteBlockNumber at hfits
      omega
    have hup : wrappingAdd later.targetNumber upperLimitOfVoteBlockNumber =
        later.targetNumber + upperLimitOfVoteBlockNumber := by
      unfold wrappingAdd
      unfold u64Max at hfits
      omega
    rw [hnext, hup] at hforward
    have hno := not_refuses_of_any_eq_false hforward (show later.targetNumber + 1 ≤ _ from hlt)
      (by omega) hget
    simp only [decide_eq_false_iff_not] at hno
    exact hno henc

end RethBsc
