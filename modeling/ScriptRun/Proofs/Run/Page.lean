import Mathlib
import ScriptRun.Proofs.Files.Memory
import ScriptRun.Proofs.Status.Ending
import ScriptRun.Proofs.Text.Visible
import ScriptRun.Run.Journal

/-!
# Pages of a log

A page is what one log file is to show of one run: a header, a line for every line of output that
was heard, and a footer as soon as an event has ended the run. So the file, every word of the command,
every line and, once the run has ended, its result and the number of its lines stand on the page
(`Page.file_infix_text` and the lemmas that follow it).

A journal in memory writes pages. Hearing an event adds to an open page what the event says
(`Journal.Shows.observe`), and beginning a page moves the file of the page before aside
(`Journal.shows_begin`).
-/

namespace ScriptRun.Run

open Files Status

theorem Log.isLine_stamped (now : Time.Moment) (stream text : Text) :
    (stamped now (shown stream text)).IsLine := by
  have hline := Text.isUnbroken_sanitized Text.defaultLogLimit text
  have hshown : (shown stream text).IsUnbroken := by
    unfold shown
    simp only
    split
    · exact Text.isUnbroken_cons.2 ⟨rfl, Text.isUnbroken_cons.2 ⟨rfl, hline⟩⟩
    · exact hline
  refine ⟨'[' :: now.clockText ++ ']' :: ' ' :: shown stream text, by simp [stamped], ?_⟩
  simp only [List.cons_append, Text.isUnbroken_append, Text.isUnbroken_cons, hshown,
    now.isUnbroken_clockText, and_true, true_and]
  decide

/-- What a log file is to show of a run: what the run was of, when it began, and the events of it
with the times at which they were heard. -/
structure Page where
  file : Text
  argv : List Text
  began : Time.Moment
  notes : List (Time.Moment × Event) := []

namespace Page

def events (p : Page) : List Event := p.notes.map Prod.snd

/-- The line that an event puts on a page, if it is a line of output. -/
def line? : Time.Moment × Event → Option Text
  | (now, .logLine stream text) => some (Log.stamped now (Log.shown stream text))
  | _ => none

def lines (p : Page) : List Text := p.notes.filterMap line?

/-- What an event puts at the end of a page with some lines: a footer, if it ends the run. -/
def closing (began : Time.Moment) (count : Nat) : Time.Moment × Event → Text
  | (now, event) =>
    match Log.result? event with
    | none => []
    | some result =>
      Log.footer
        { directory := [], keep := none, started := some began, linesLogged := count } result now

/-- The footer that the last event of a page puts there. -/
def footer (p : Page) : Text := (p.notes.getLast?.map (closing p.began p.lines.length)).getD []

def text (p : Page) : Text := Log.header p.file p.argv p.began ++ p.lines.flatten ++ p.footer

/-- Whether nothing on a page has ended the run. -/
def IsOpen (p : Page) : Prop := ∀ event ∈ p.events, event.isTerminal = false

def note (p : Page) (now : Time.Moment) (event : Event) : Page :=
  { p with notes := p.notes ++ [(now, event)] }

/-- A page with more events of one moment. -/
def noteAll (p : Page) (now : Time.Moment) (events : List Event) : Page :=
  events.foldl (fun p event => p.note now event) p

variable (p : Page) (now : Time.Moment)

theorem events_note (event : Event) : (p.note now event).events = p.events ++ [event] :=
  List.map_append ..

theorem events_noteAll (events : List Event) :
    (p.noteAll now events).events = p.events ++ events := by
  induction events generalizing p with
  | nil => exact (List.append_nil _).symm
  | cons event events ih =>
    refine (ih (p.note now event)).trans ?_
    rw [events_note, List.append_assoc, List.singleton_append]

def request : Text × List Text := (p.file, p.argv)

theorem request_noteAll (events : List Event) : (p.noteAll now events).request = p.request := by
  induction events generalizing p with
  | nil => rfl
  | cons event events ih => exact ih (p.note now event)

theorem isSome_result? (event : Event) : (Log.result? event).isSome = event.isTerminal := by
  cases event <;> rfl

theorem closing_eq_nil_iff {began : Time.Moment} {count : Nat} {event : Event} :
    closing began count (now, event) = [] ↔ event.isTerminal = false := by
  rw [← isSome_result?, closing]
  cases Log.result? event <;> simp [Log.footer]

/-- A page has a footer exactly if its last event ends the run. -/
theorem footer_ne_nil_iff {p : Page} :
    p.footer ≠ [] ↔ ∃ event, p.events.getLast? = some event ∧ event.isTerminal = true := by
  rw [events, List.getLast?_map, footer]
  rcases p.notes.getLast? with _ | ⟨now, event⟩
  · simp
  · simp [closing_eq_nil_iff]

theorem footer_of_isOpen {p : Page} (h : p.IsOpen) : p.footer = [] := by
  by_contra hfooter
  obtain ⟨event, hlast, hterminal⟩ := footer_ne_nil_iff.1 hfooter
  rw [h event (List.mem_of_getLast? hlast)] at hterminal
  exact absurd hterminal (by decide)

theorem lines_note (event : Event) :
    (p.note now event).lines = p.lines ++ (line? (now, event)).toList := by
  rw [lines, note, List.filterMap_append, ← lines]
  cases hline : line? (now, event) <;> simp [hline]

theorem footer_note (event : Event) :
    (p.note now event).footer = closing p.began (p.note now event).lines.length (now, event) := by
  simp only [footer, note, List.getLast?_concat, Option.map_some, Option.getD_some]

/-- What an event adds to a page that is open. -/
theorem text_note {p : Page} (h : p.IsOpen) (event : Event) :
    (p.note now event).text =
      p.text ++ ((line? (now, event)).getD [] ++ (p.note now event).footer) := by
  have hline : ((line? (now, event)).toList).flatten = (line? (now, event)).getD [] := by
    cases line? (now, event) <;> simp
  rw [text, text, footer_of_isOpen h, lines_note, List.flatten_append, hline, List.append_nil]
  simp only [List.append_assoc]
  rfl

/-! ### What stands on a page -/

theorem header_infix_text : Log.header p.file p.argv p.began <:+: p.text := by
  rw [text, List.append_assoc]
  exact (List.prefix_append _ _).isInfix

theorem file_infix_text : p.file <:+: p.text :=
  (Log.file_infix_header p.file p.argv p.began).trans p.header_infix_text

theorem word_infix_text {p : Page} {word : Text} (h : word ∈ p.argv) : word <:+: p.text :=
  (Log.word_infix_header h p.file p.began).trans p.header_infix_text

theorem line_infix_text {p : Page} {line : Text} (h : line ∈ p.lines) : line <:+: p.text := by
  have hlines : line <:+: p.lines.flatten := List.infix_of_mem_flatten h
  rw [text]
  exact hlines.trans ((List.suffix_append _ _).isInfix.trans (List.prefix_append _ _).isInfix)

theorem footer_suffix_text : p.footer <:+ p.text := List.suffix_append ..

/-- What an event that ended the run tells of it stands on the page, with the number of lines. -/
theorem result_infix_text {p : Page} {now : Time.Moment} {event : Event} {result : Text}
    (hlast : p.notes.getLast? = some (now, event)) (hresult : Log.result? event = some result) :
    result <:+: p.text ∧ Text.ofNat p.lines.length <:+: p.text := by
  have hfooter : p.footer = Log.footer
      { directory := [], keep := none, started := some p.began, linesLogged := p.lines.length }
      result now := by
    rw [footer, hlast, Option.map_some, Option.getD_some, closing, hresult]
  have hend := p.footer_suffix_text.isInfix
  rw [hfooter] at hend
  exact ⟨(Log.result_infix_footer _ _ _).trans hend, (Log.count_infix_footer _ _ _).trans hend⟩

end Page

theorem Log.path_ne_previousPath (log : Log) : log.path ≠ log.previousPath := by
  intro h
  have hlength := congrArg List.length h
  rw [previousPath, List.length_append] at hlength
  have hsuffix : ".1".toList.length = 2 := rfl
  omega

/-- Starting a log in memory succeeds. The file holds the header then, and what it held before, if
it was there, has become the file of the log before; no other file is changed. -/
theorem Log.startFile_memory (log : Log) (file : Text) (argv : List Text) (now : Time.Moment)
    (m : Memory) :
    ∃ after : Memory, (log.startFile file argv now).outcome m = (.ok (), after) ∧
      after.get? log.path = some (header file argv now) ∧
      after.get? log.previousPath = (m.get? log.path).or (m.get? log.previousPath) ∧
      ∀ other, other ≠ log.path → other ≠ log.previousPath → after.get? other = m.get? other := by
  have hpaths := log.path_ne_previousPath
  rcases hold : m.get? log.path with _ | content
  · obtain ⟨ensured, hensured, hsame⟩ := Memory.exists_ensureDirectory log.directory m
    refine ⟨ensured.set log.path (header file argv now), ?_, ensured.get?_set_self _, ?_, ?_⟩
    · simp only [startFile, Action.outcome, EStateM.run, bind, EStateM.bind, get, getThe,
        MonadStateOf.get, EStateM.get, Store.contains, hold, Option.isSome_none, Bool.false_eq_true,
        if_false, hensured]
      rfl
    · rw [ensured.get?_set_of_ne _ hpaths, hsame, Option.none_or]
    · intro other hpath _
      rw [ensured.get?_set_of_ne _ hpath.symm, hsame]
  · obtain ⟨ensured, hensured, hsame⟩ := Memory.exists_ensureDirectory log.directory
      ((m.erase log.path).set log.previousPath content)
    refine ⟨ensured.set log.path (header file argv now), ?_, ensured.get?_set_self _, ?_, ?_⟩
    · simp only [startFile, Action.outcome, EStateM.run, bind, EStateM.bind, get, getThe,
        MonadStateOf.get, EStateM.get, Store.contains, hold, Option.isSome_some, if_true,
        Memory.rename_eq hold, hensured]
      rfl
    · rw [ensured.get?_set_of_ne _ hpaths, hsame, Memory.get?_set_self, Option.some_or]
    · intro other hpath hprevious
      rw [ensured.get?_set_of_ne _ hpath.symm, hsame, Memory.get?_set_of_ne _ _ hprevious.symm,
        Memory.get?_erase_of_ne _ hpath.symm]

/-! ### Journals in memory -/

namespace Journal

/-- A journal keeps its log in the directory of a given one. -/
def IsAt (j : Journal Memory) (log : Log) : Prop :=
  ∃ current, j.log = some current ∧ current.path = log.path

/-- A journal shows a page in the place of a log. -/
structure Shows (j : Journal Memory) (log : Log) (p : Page) : Prop where
  writing : ∃ current, j.log = some current ∧ current.path = log.path ∧
    current.started = some p.began ∧ current.linesLogged = p.lines.length
  content : j.store.get? log.path = some p.text

variable {j : Journal Memory} {log : Log} {p : Page}

/-- Beginning a page succeeds, shows it, and moves what the log was before aside. -/
theorem shows_begin (h : j.IsAt log) (file : Text) (argv : List Text) :
    (j.begin file argv).1 = .ok () ∧
      (j.begin file argv).2.Shows log { file, argv, began := j.clock.now } ∧
      (j.begin file argv).2.clock = j.clock ∧
      ∀ content, j.store.get? log.path = some content →
        (j.begin file argv).2.store.get? log.previousPath = some content := by
  obtain ⟨current, hlog, hpath⟩ := h
  have hprevious : current.previousPath = log.previousPath := by
    rw [Log.previousPath, Log.previousPath, hpath]
  obtain ⟨after, hdone, hheader, hmoved, -⟩ :=
    (current.begun j.clock.now).startFile_memory file argv j.clock.now j.store
  have hbegin : j.begin file argv =
      (.ok (), { j with log := some (current.begun j.clock.now), store := after }) := by
    simp only [begin, hlog, Log.start, hdone]
  rw [hbegin]
  refine ⟨rfl, ⟨⟨_, rfl, hpath, rfl, rfl⟩, ?_⟩, rfl, fun content hcontent => ?_⟩
  · rw [← hpath]
    refine hheader.trans ?_
    simp [Page.text, Page.lines, Page.footer]
  · have hcurrent : j.store.get? (current.begun j.clock.now).path = some content := by
      rw [← hcontent, ← hpath]
      rfl
    rw [hcurrent, Option.some_or] at hmoved
    rw [← hprevious]
    exact hmoved

/-- A journal in memory never fails to begin a page. -/
theorem begin_memory (j : Journal Memory) (file : Text) (argv : List Text) :
    (j.begin file argv).1 = .ok () := by
  rcases hlog : j.log with _ | current
  · simp only [begin, hlog]
  · exact (shows_begin ⟨current, hlog, rfl⟩ file argv).1

/-- Writing to the log of a journal leaves the log before alone. -/
theorem previous_set {current : Log} (hpath : current.path = log.path) (content : Text) :
    (j.store.set current.path content).get? log.previousPath =
      j.store.get? log.previousPath := by
  rw [hpath, Memory.get?_set_of_ne _ _ log.path_ne_previousPath]

/-- A journal that has added to its file, and nothing else to what it shows of a page. -/
theorem Shows.append (h : j.Shows log p) {current next : Log} (hlog : j.log = some current)
    {q : Page} (hpath : next.path = current.path) (hstarted : next.started = some q.began)
    (hcount : next.linesLogged = q.lines.length) {more : Text} (htext : q.text = p.text ++ more) :
    Shows { j with
      log := some next
      store := j.store.set current.path ((j.store.get? current.path).getD [] ++ more) } log q := by
  obtain ⟨⟨other, hother, hcurrent, -, -⟩, hcontent⟩ := h
  obtain rfl := Option.some.inj (hlog.symm.trans hother)
  refine ⟨⟨next, rfl, hpath.trans hcurrent, hstarted, hcount⟩, ?_⟩
  rw [htext, hcurrent, hcontent]
  exact Memory.get?_set_self ..

/-- Hearing an event adds to an open page what the event says. -/
theorem Shows.observe (h : j.Shows log p) (hopen : p.IsOpen) (event : Event) :
    (j.observe event).Shows log (p.note j.clock.now event) ∧
      (j.observe event).clock = j.clock ∧
      (j.observe event).store.get? log.previousPath = j.store.get? log.previousPath := by
  obtain ⟨current, hlog, hpath, hstarted, hcount⟩ := h.writing
  have htext := Page.text_note j.clock.now hopen event
  have hlines := p.lines_note j.clock.now event
  have hfooter := p.footer_note j.clock.now event
  rw [hlines] at hfooter
  by_cases hline : ∃ stream text, event = .logLine stream text
  · obtain ⟨stream, text, rfl⟩ := hline
    have hobserve : j.observe (.logLine stream text) =
        { j with
          log := some { current with
            linesLogged := current.linesLogged + 1
            lines := Log.kept current.keep (current.lines ++ [Log.shown stream text]) }
          store := j.store.set current.path ((j.store.get? current.path).getD [] ++
            Log.stamped j.clock.now (Log.shown stream text)) } := by
      simp only [Journal.observe, hlog]
      rfl
    rw [hobserve]
    refine ⟨h.append hlog ?_ ?_ ?_ ?_, rfl, previous_set hpath _⟩
    · rfl
    · exact hstarted
    · rw [hlines, List.length_append, hcount]
      rfl
    · rw [htext, hfooter]
      exact congrArg (p.text ++ ·) (List.append_nil _)
  · have hnoline : Page.line? (j.clock.now, event) = none := by
      cases event <;> first | rfl | exact absurd ⟨_, _, rfl⟩ hline
    rw [hnoline, Option.toList_none, List.append_nil] at hlines hfooter
    rw [hnoline, Option.getD_none, List.nil_append, hfooter, ← hcount] at htext
    have hobserve : j.observe event =
        { j with
          log := some current
          store := (Log.result? event).elim j.store fun result =>
            j.store.set current.path ((j.store.get? current.path).getD [] ++
              current.footer result j.clock.now) } := by
      simp only [Journal.observe, hlog]
      cases event <;> first | rfl | exact absurd ⟨_, _, rfl⟩ hline
    rw [hobserve]
    rcases hresult : Log.result? event with _ | result
    · have hsame := hcount.trans (congrArg List.length hlines.symm)
      refine ⟨⟨⟨current, rfl, hpath, hstarted, hsame⟩, ?_⟩, rfl, rfl⟩
      rw [htext, Page.closing, hresult, List.append_nil]
      exact h.content
    · refine ⟨h.append hlog rfl ?_ ?_ ?_, rfl, previous_set hpath _⟩
      · exact hstarted
      · rw [hlines, hcount]
      · rw [htext, Page.closing, hresult]
        simp only [Log.footer, hstarted]

/-- Hearing events of which only the last may end the run. -/
theorem Shows.observeAll (h : j.Shows log p) {events : List Event}
    (hopen : events ≠ [] → p.IsOpen)
    (hbefore : ∀ event ∈ events.dropLast, event.isTerminal = false) :
    (events.foldl (fun j event => j.observe event) j).Shows log (p.noteAll j.clock.now events) ∧
      (events.foldl (fun j event => j.observe event) j).store.get? log.previousPath =
        j.store.get? log.previousPath := by
  induction events generalizing j p with
  | nil => exact ⟨h, rfl⟩
  | cons event events ih =>
    have hthis := hopen (List.cons_ne_nil _ _)
    obtain ⟨hnext, hclock, hprevious⟩ := h.observe hthis event
    have hrest := ih hnext ?_ ?_
    · rw [hclock] at hrest
      exact ⟨hrest.1, hrest.2.trans hprevious⟩
    · -- the event is not the last one, so the page is still open
      intro hmore other hother
      rw [Page.events_note] at hother
      rcases List.mem_append.1 hother with hin | hin
      · exact hthis other hin
      · rw [List.mem_singleton.1 hin]
        refine hbefore event ?_
        rw [List.dropLast_cons_of_ne_nil hmore]
        exact List.mem_cons_self
    · intro other hother
      refine hbefore other ?_
      rw [List.dropLast_cons_of_ne_nil fun hnil => by simp [hnil] at hother]
      exact List.mem_cons_of_mem _ hother

end Journal

end ScriptRun.Run
