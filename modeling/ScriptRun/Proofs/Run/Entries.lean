import ScriptRun.Proofs.Run.Page

/-!
# Entries of a log

Between two starts a log is told of lines of output and of ends of runs, in any order and number,
while its clock moves on. Each of them puts one entry into the file. The file, the counter of lines
and the recent lines that are kept in memory are changed separately, and agree all the same
(`Desk.Agrees`): one note keeps that, so does a run of notes, and a start establishes it again.
-/

namespace ScriptRun.Run.Log

open Files Status

/-- What a log in use is told, and what happens to its clock. -/
inductive Note where
  | write (stream text : Text)
  | finish (result : Text)
  | observe (event : Event)
  | advance (seconds : Number)

inductive Step where
  | start (file : Text) (argv : List Text)
  | note (n : Note)

/-- A log, the files in memory that it writes, and the clock that it reads. -/
structure Desk where
  log : Log
  files : Memory
  clock : Time.Clock

/-- The clock after a note. A clock that cannot be moved stays as it is. -/
def Note.clock (n : Note) (c : Time.Clock) : Time.Clock :=
  match n with
  | .advance seconds => (c.advance seconds).toOption.getD c
  | _ => c

namespace Desk

/-- Takes a step: whether it succeeds, and what is there afterwards. -/
def take (d : Desk) : Step → Except Fault Unit × Desk
  | .start file argv =>
    let (done, log, files) := d.log.start file argv d.clock.now d.files
    (done, { d with log, files })
  | .note (.write stream text) =>
    let (done, log, files) := d.log.write d.clock.now stream text d.files
    (done, { d with log, files })
  | .note (.finish result) =>
    let (done, log, files) := d.log.finish d.clock.now result d.files
    (done, { d with log, files })
  | .note (.observe event) =>
    let (done, log, files) := d.log.observe d.clock.now event d.files
    (done, { d with log, files })
  | .note (.advance seconds) => (.ok (), { d with clock := (Note.advance seconds).clock d.clock })

def follow (d : Desk) (steps : List Step) : Desk := steps.foldl (fun d s => (d.take s).2) d

theorem follow_append (d : Desk) (steps more : List Step) :
    d.follow (steps ++ more) = (d.follow steps).follow more :=
  List.foldl_append

end Desk

/-! ### What a note puts into the file -/

inductive Entry where
  | line (stream text : Text)
  | ending (result : Text)

/-- The entry that a note adds, if it adds one. -/
def Note.adds? : Note → Option Entry
  | .write stream text | .observe (.logLine stream text) => some (.line stream text)
  | .finish result => some (.ending result)
  | .observe event => (result? event).map .ending
  | .advance _ => none

theorem adds?_observe_eq_none_iff (event : Event) :
    (Note.observe event).adds? = none ↔
      event.isTerminal = false ∧ ∀ stream text, event ≠ .logLine stream text := by
  cases event with
  | logLine stream text => exact iff_of_false nofun fun h => h.2 stream text rfl
  | statusChange | mockLocationStarted | mockLocationStopped => exact iff_of_true rfl ⟨rfl, nofun⟩
  | runComplete | runAborted | spawnFailed | readinessTimedOut =>
    exact iff_of_false nofun fun h => Bool.noConfusion h.1

/-- A line of output made safe, with a mark in front if it is one of the error stream. -/
def marked (stream text : Text) : Text :=
  (if stream = "stderr".toList then "! ".toList else []) ++
    Text.sanitized Text.defaultLogLimit text

def Note.line? (n : Note) : Option Text :=
  match n.adds? with
  | some (.line stream text) => some (marked stream text)
  | _ => none

/-- An entry as it stands in the file of a log that began at some time and has so many lines. -/
def Entry.text (began : Option Time.Moment) (count : Nat) (now : Time.Moment) : Entry → Text
  | .line stream text =>
    "[".toList ++ now.clockText ++ "] ".toList ++ marked stream text ++ "\n".toList
  | .ending result =>
    footer { directory := [], keep := none, started := began, linesLogged := count } result now

/-- The entries that notes add, from a clock and a number of lines on. -/
def entriesFrom (began : Option Time.Moment) : Time.Clock → Nat → List Note → List Text
  | _, _, [] => []
  | clock, count, n :: rest =>
    (n.adds?.map (Entry.text began count clock.now)).toList ++
      entriesFrom began (n.clock clock) (count + n.line?.toList.length) rest

/-- A file after more texts were added to it; it is made if there is anything to add. -/
def added (content : Option Text) (more : List Text) : Option Text :=
  more.foldl (fun content text => some (content.getD [] ++ text)) content

theorem added_some (content : Text) (more : List Text) :
    added (some content) more = some (content ++ more.flatten) := by
  induction more generalizing content with
  | nil => simp [added]
  | cons text more ih =>
    refine (ih (content ++ text)).trans ?_
    rw [List.flatten_cons, List.append_assoc]

theorem added_append (content : Option Text) (more further : List Text) :
    added content (more ++ further) = added (added content more) further :=
  List.foldl_append

theorem shown_eq_marked (stream text : Text) : shown stream text = marked stream text := by
  unfold shown marked
  by_cases h : stream = "stderr".toList
  · rw [if_pos h]
    exact if_pos h
  · rw [if_neg h]
    exact if_neg h

theorem entry_line_text (began : Option Time.Moment) (count : Nat) (now : Time.Moment)
    (stream text : Text) :
    (Entry.line stream text).text began count now = stamped now (shown stream text) := by
  simp [Entry.text, stamped, shown_eq_marked]

/-! ### What a note changes -/

/-- The log after a line of output, if there was one. -/
def counting (log : Log) (line? : Option Text) : Log :=
  line?.elim log fun line =>
    { log with
      linesLogged := log.linesLogged + 1
      lines := kept log.keep (log.lines ++ [line]) }

namespace Desk

def entryText? (d : Desk) (n : Note) : Option Text :=
  n.adds?.map (Entry.text d.log.started d.log.linesLogged d.clock.now)

def noted (d : Desk) (n : Note) : Desk :=
  { log := d.log.counting n.line?
    files := (d.entryText? n).elim d.files fun text =>
      d.files.set d.log.path ((d.files.get? d.log.path).getD [] ++ text)
    clock := n.clock d.clock }

/-- A note is always taken, and adds at most one entry. -/
theorem take_note (d : Desk) (n : Note) : d.take (.note n) = (.ok (), d.noted n) := by
  have hline (stream text : Text) :
      d.log.write d.clock.now stream text d.files =
        (.ok (), d.log.counting (some (marked stream text)),
          d.files.set d.log.path ((d.files.get? d.log.path).getD [] ++
            Entry.text d.log.started d.log.linesLogged d.clock.now (.line stream text))) := by
    rw [entry_line_text, ← shown_eq_marked]
    rfl
  cases n with
  | write stream text =>
    simp only [take, hline]
    rfl
  | finish result => rfl
  | advance seconds => rfl
  | observe event =>
    cases event with
    | logLine stream text =>
      simp only [take, observe, hline]
      rfl
    | statusChange | mockLocationStarted | mockLocationStopped | runComplete | runAborted
    | spawnFailed | readinessTimedOut => rfl

/-- A note changes neither where the log is kept nor when it began, and no other file. -/
theorem noted_keeps (d : Desk) (n : Note) :
    (d.noted n).log.path = d.log.path ∧ (d.noted n).log.keep = d.log.keep ∧
      (d.noted n).log.started = d.log.started ∧
      ∀ other, other ≠ d.log.path → (d.noted n).files.get? other = d.files.get? other := by
  have hlog : (d.noted n).log.path = d.log.path ∧ (d.noted n).log.keep = d.log.keep ∧
      (d.noted n).log.started = d.log.started := by
    unfold noted counting
    rcases n.line? with _ | line <;> exact ⟨rfl, rfl, rfl⟩
  refine ⟨hlog.1, hlog.2.1, hlog.2.2, fun other hother => ?_⟩
  unfold noted
  rcases d.entryText? n with _ | text
  · rfl
  · exact d.files.get?_set_of_ne _ hother.symm

end Desk

/-! ### Keeping the recent lines -/

theorem kept_append (keep : Option Nat) (lines more : List Text) :
    kept keep (kept keep lines ++ more) = kept keep (lines ++ more) := by
  rcases keep with _ | n
  · rfl
  · have hkept (l : List Text) : kept (some n) l = (l.reverse.take n).reverse :=
      List.rtake_eq_reverse_take_reverse l n
    simp only [hkept, List.reverse_append, List.reverse_reverse, List.take_append, List.take_take]
    congr 3
    omega

theorem kept_suffix (keep : Option Nat) (lines : List Text) : kept keep lines <:+ lines := by
  rcases keep with _ | n
  · exact List.suffix_rfl
  · exact List.drop_suffix ..

theorem length_kept (n : Nat) (lines : List Text) :
    (kept (some n) lines).length = min n lines.length := by
  simp only [kept, List.length_drop]
  omega

/-! ### Agreement -/

namespace Desk

/-- The file holds a text, the counter counts some lines, and of these the recent ones are kept. -/
structure Agrees (d : Desk) (content : Option Text) (lines : List Text) : Prop where
  content : d.files.get? d.log.path = content
  count : d.log.linesLogged = lines.length
  kept : d.log.lines = kept d.log.keep lines

variable {d : Desk} {content : Option Text} {lines : List Text}

theorem Agrees.note (h : d.Agrees content lines) (n : Note) :
    (d.noted n).Agrees (added content (d.entryText? n).toList) (lines ++ n.line?.toList) := by
  obtain ⟨hpath, hkeep, -, -⟩ := d.noted_keeps n
  refine ⟨?_, ?_, ?_⟩
  · rw [hpath, noted]
    rcases d.entryText? n with _ | text
    · exact h.content
    · rw [← h.content]
      exact d.files.get?_set_self _
  · rw [noted, List.length_append, ← h.count]
    rcases n.line? with _ | line <;> rfl
  · rw [hkeep, noted]
    rcases n.line? with _ | line
    · rw [Option.toList_none, List.append_nil]
      exact h.kept
    · rw [Option.toList_some, ← kept_append, ← h.kept]
      rfl

/-- Notes keep the agreement, and change no other file. -/
theorem Agrees.notes (h : d.Agrees content lines) (notes : List Note) :
    (d.follow (notes.map .note)).Agrees
        (added content (entriesFrom d.log.started d.clock lines.length notes))
        (lines ++ notes.filterMap Note.line?) ∧
      ∀ other, other ≠ d.log.path →
        (d.follow (notes.map .note)).files.get? other = d.files.get? other := by
  induction notes generalizing d content lines with
  | nil =>
    refine ⟨?_, fun _ _ => rfl⟩
    rw [List.filterMap_nil, List.append_nil]
    exact h
  | cons n notes ih =>
    obtain ⟨hpath, -, hstarted, hfiles⟩ := d.noted_keeps n
    obtain ⟨hrest, hrestFiles⟩ := ih (h.note n)
    have hfollow : d.follow ((n :: notes).map .note) = (d.noted n).follow (notes.map .note) := by
      rw [follow, List.map_cons, List.foldl_cons, take_note]
      rfl
    have hlines : (n :: notes).filterMap Note.line? =
        n.line?.toList ++ notes.filterMap Note.line? := by
      rw [List.filterMap_cons]
      rcases n.line? with _ | line <;> rfl
    rw [hstarted, List.length_append, ← added_append, List.append_assoc, ← hlines, entryText?,
      h.count] at hrest
    rw [hfollow]
    refine ⟨hrest, fun other hother => ?_⟩
    exact (hrestFiles other (hpath ▸ hother)).trans (hfiles other hother)

/-- A start is always taken. The file holds the header then and no line is counted or kept; what the
file held before, if it was there, has become the file of the log before. -/
theorem take_start (d : Desk) (file : Text) (argv : List Text) :
    ∃ after : Desk, d.take (.start file argv) = (.ok (), after) ∧
      after.log = d.log.begun d.clock.now ∧ after.clock = d.clock ∧
      after.Agrees (some (header file argv d.clock.now)) [] ∧
      after.files.get? d.log.previousPath =
        (d.files.get? d.log.path).or (d.files.get? d.log.previousPath) ∧
      ∀ other, other ≠ d.log.path → other ≠ d.log.previousPath →
        after.files.get? other = d.files.get? other := by
  obtain ⟨files, hdone, hheader, hprevious, hothers⟩ :=
    (d.log.begun d.clock.now).startFile_memory file argv d.clock.now d.files
  refine ⟨⟨d.log.begun d.clock.now, files, d.clock⟩, ?_, rfl, rfl, ⟨hheader, rfl, ?_⟩, hprevious,
    hothers⟩
  · simp only [take, start, hdone]
  · exact (List.suffix_nil.1 (kept_suffix _ [])).symm

/-- A step succeeds, and changes neither where the log is kept nor any file but the two of it. -/
theorem take_keeps (d : Desk) (s : Step) :
    (d.take s).1 = .ok () ∧ (d.take s).2.log.path = d.log.path ∧
      (d.take s).2.log.keep = d.log.keep ∧
      ∀ other, other ≠ d.log.path → other ≠ d.log.previousPath →
        (d.take s).2.files.get? other = d.files.get? other := by
  cases s with
  | start file argv =>
    obtain ⟨after, htake, hlog, -, -, -, hothers⟩ := d.take_start file argv
    rw [htake, hlog]
    exact ⟨rfl, rfl, rfl, hothers⟩
  | note n =>
    obtain ⟨hpath, hkeep, -, hfiles⟩ := d.noted_keeps n
    rw [take_note]
    exact ⟨rfl, hpath, hkeep, fun other hother _ => hfiles other hother⟩

theorem follow_keeps (d : Desk) (steps : List Step) :
    (d.follow steps).log.path = d.log.path ∧ (d.follow steps).log.keep = d.log.keep ∧
      ∀ other, other ≠ d.log.path → other ≠ d.log.previousPath →
        (d.follow steps).files.get? other = d.files.get? other := by
  induction steps generalizing d with
  | nil => exact ⟨rfl, rfl, fun _ _ _ => rfl⟩
  | cons s steps ih =>
    obtain ⟨-, hpath, hkeep, hfiles⟩ := d.take_keeps s
    obtain ⟨hrestPath, hrestKeep, hrestFiles⟩ := ih (d.take s).2
    have hprevious : (d.take s).2.log.previousPath = d.log.previousPath :=
      congrArg (· ++ ".1".toList) hpath
    refine ⟨hrestPath.trans hpath, hrestKeep.trans hkeep, fun other hne hne' => ?_⟩
    exact (hrestFiles other (hpath ▸ hne) (hprevious ▸ hne')).trans (hfiles other hne hne')

/-- What is to be seen of a log that keeps so many recent lines. -/
structure Tells (d : Desk) (keep : Nat) (path : Text) (content : Option Text)
    (lines : List Text) : Prop where
  content : d.files.get? path = content
  count : d.log.linesLogged = lines.length
  recent : d.log.recent none <:+ lines
  length_recent : (d.log.recent none).length = min keep d.log.linesLogged

theorem Agrees.tells (h : d.Agrees content lines) {keep : Nat} {path : Text}
    (hpath : d.log.path = path) (hkeep : d.log.keep = some keep) :
    d.Tells keep path content lines := by
  have hrecent : d.log.recent none = Log.kept (some keep) lines := by
    rw [← hkeep]
    exact h.kept
  refine ⟨hpath ▸ h.content, h.count, ?_, ?_⟩
  · rw [hrecent]
    exact kept_suffix ..
  · rw [hrecent, h.count]
    exact length_kept ..

end Desk

/-- The file of a log, the counter and the recent lines agree over every history, whatever the files
were at first. Every step succeeds. From a start up to the next the file holds the header and one
entry for each line of output and each end of a run, in order: a line is one line of the file
whatever is in it, and events that are neither put nothing there. The counter tells how many lines
there are since, and the last of them are kept. A start makes the file the one of the log before, if
it was there, and no other file is changed. -/
theorem entries_agree (directory : Text) (keep : Nat) (files : Memory) (clock : Time.Clock) :
    let desk : Desk := ⟨{ directory, keep := some keep }, files, clock⟩
    let path := desk.log.path
    let previous := desk.log.previousPath
    (∀ notes : List Note,
      let after := desk.follow (notes.map .note)
      after.Tells keep path (added (files.get? path) (entriesFrom none clock 0 notes))
          (notes.filterMap Note.line?) ∧
        after.files.get? previous = files.get? previous) ∧
      (∀ (before : List Step) (file : Text) (argv : List Text) (notes : List Note),
        let d := desk.follow before
        let after := desk.follow (before ++ .start file argv :: notes.map .note)
        let now := d.clock.now
        after.Tells keep path
            (some (header file argv now ++ (entriesFrom (some now) d.clock 0 notes).flatten))
            (notes.filterMap Note.line?) ∧
          after.files.get? previous = (d.files.get? path).or (d.files.get? previous)) ∧
      (∀ steps s, ((desk.follow steps).take s).1 = .ok ()) ∧
      (∀ steps other,
        other = path ∨ other = previous ∨
          (desk.follow steps).files.get? other = files.get? other) ∧
      (∀ began count now stream text, ((Entry.line stream text).text began count now).IsLine) ∧
      (∀ event, (Note.observe event).adds? = none ↔
        event.isTerminal = false ∧ ∀ stream text, event ≠ .logLine stream text) := by
  intro desk path previous
  refine ⟨fun notes => ?_, fun before file argv notes => ?_, fun steps s => (Desk.take_keeps _ s).1,
    fun steps other => ?_, fun began count now stream text => ?_, adds?_observe_eq_none_iff⟩
  · have hagrees : desk.Agrees (files.get? path) [] :=
      ⟨rfl, rfl, (List.suffix_nil.1 (kept_suffix _ [])).symm⟩
    obtain ⟨hafter, hfiles⟩ := hagrees.notes notes
    obtain ⟨hpath, hkeep, -⟩ := desk.follow_keeps (notes.map .note)
    exact ⟨hafter.tells hpath hkeep, hfiles previous desk.log.path_ne_previousPath.symm⟩
  · intro d after now
    obtain ⟨hpath, hkeep, -⟩ := desk.follow_keeps before
    obtain ⟨started, htake, hlog, hclock, hagrees, hprevious, -⟩ := d.take_start file argv
    obtain ⟨htells, hfiles⟩ := hagrees.notes notes
    obtain ⟨hlastPath, hlastKeep, -⟩ := started.follow_keeps (notes.map .note)
    have hafter : after = started.follow (notes.map .note) := by
      simp only [after, Desk.follow_append]
      rw [Desk.follow, List.foldl_cons, htake]
      rfl
    have hstartedPath : started.log.path = path := (congrArg Log.path hlog).trans hpath
    have hdPrevious : d.log.previousPath = previous := congrArg (· ++ ".1".toList) hpath
    rw [hlog, hclock, added_some] at htells
    rw [hpath, hdPrevious] at hprevious
    rw [hafter]
    refine ⟨htells.tells (hlastPath.trans hstartedPath) ?_, ?_⟩
    · exact hlastKeep.trans ((congrArg Log.keep hlog).trans hkeep)
    · rw [hfiles previous (hstartedPath ▸ desk.log.path_ne_previousPath.symm), hprevious]
  · obtain ⟨-, -, hfiles⟩ := desk.follow_keeps steps
    by_cases hpath : other = path
    · exact .inl hpath
    · by_cases hprevious : other = previous
      · exact .inr (.inl hprevious)
      · exact .inr (.inr (hfiles other hpath hprevious))
  · rw [entry_line_text]
    exact isLine_stamped ..

end ScriptRun.Run.Log
