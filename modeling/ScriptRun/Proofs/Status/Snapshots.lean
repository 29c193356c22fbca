import ScriptRun.Proofs.Status.Ending
import ScriptRun.Proofs.Status.Transcript
import ScriptRun.Proofs.Status.Updates

/-!
# The snapshots that an engine publishes

The lines that an engine handles are determined by the operations: those that a chunk completes and,
when the tool exits, what the two buffers still hold, in each case up to a line that is refused
(`Engine.transcript`). Each line offers the table at most one record, and the engine publishes the
table whenever it takes one. So the published tables are the history of the table under what the
lines offer (`Chronicles`), and what holds of every such history holds of them.
-/

namespace ScriptRun.Status

def Event.table? : Event → Option Table
  | .statusChange table => some table
  | _ => none

/-- The index of the command that a reading reports as passed. -/
def Reading.passedIndex? : Reading → Option Nat
  | .passed index _ _ => some index
  | _ => none

def passedBy? (line : Text) : Option Nat :=
  match classify line with
  | .ok found => found.reading.passedIndex?
  | .error _ => none

/-- Whether a line is refused for a number with too many digits. -/
def isRefused (line : Text) : Bool := !(classify line).isOk

/-- Lines up to the first one that is refused, which is still handled. -/
def upToRefusal : List (Stream × Text) → List (Stream × Text)
  | [] => []
  | h :: rest => if isRefused h.2 then [h] else h :: upToRefusal rest

/-- The records that lines offer to the table, in order. -/
def offersOf (handled : List (Stream × Text)) : List Record :=
  handled.filterMap fun h => offeredBy? h.2

/-- One more than the index of the last command that lines report as passed, or zero. -/
def cursorAfter (handled : List (Stream × Text)) : Nat :=
  ((handled.filterMap fun h => passedBy? h.2).getLast?.map (· + 1)).getD 0

namespace Engine

/-- The lines that an operation makes an engine handle. -/
def handled (e : Engine) : Operation → List (Stream × Text)
  | .chunk stream chunk =>
    if e.isActive then upToRefusal (((e.buffer stream).feed chunk).1.map (stream, ·)) else []
  | .exited _ =>
    if e.isActive then
      upToRefusal (e.stdout.flush.1.map (.stdout, ·) ++ e.stderr.flush.1.map (.stderr, ·))
    else []
  | .stop | .spawnFailed _ | .readinessTimedOut .. => []

/-- The lines that operations make an engine handle. -/
def transcript (e : Engine) : List Operation → List (Stream × Text)
  | [] => []
  | op :: ops => e.handled op ++ (e.perform op).engine.transcript ops

theorem handled_of_ended {e : Engine} (h : ¬e.isActive = true) (op : Operation) :
    e.handled op = [] := by
  cases op with
  | chunk stream chunk => exact if_neg h
  | exited code => exact if_neg h
  | stop => rfl
  | spawnFailed reason => rfl
  | readinessTimedOut port timeout => rfl

end Engine

theorem upToRefusal_append_of_refused {lines : List (Stream × Text)}
    (h : ∃ line ∈ lines, isRefused line.2 = true) (more : List (Stream × Text)) :
    upToRefusal (lines ++ more) = upToRefusal lines := by
  induction lines with
  | nil => simp at h
  | cons first rest ih =>
    rw [List.cons_append, upToRefusal, upToRefusal]
    by_cases hfirst : isRefused first.2 = true
    · rw [if_pos hfirst, if_pos hfirst]
    · obtain ⟨line, hline, hrefused⟩ := h
      rcases List.mem_cons.1 hline with rfl | hrest
      · exact absurd hrefused hfirst
      · rw [if_neg hfirst, if_neg hfirst, ih ⟨line, hrest, hrefused⟩]

theorem upToRefusal_append_of_not_refused {lines : List (Stream × Text)}
    (h : ∀ line ∈ lines, isRefused line.2 = false) (more : List (Stream × Text)) :
    upToRefusal (lines ++ more) = lines ++ upToRefusal more := by
  induction lines with
  | nil => rfl
  | cons first rest ih =>
    rw [List.cons_append, upToRefusal, h first List.mem_cons_self,
      ih fun line hline => h line (List.mem_cons_of_mem first hline)]
    rfl

/-! ### Lines that are refused -/

namespace Engine

theorem isOk_handleLine (e : Engine) (stream : Stream) (line : Text) :
    (e.handleLine stream line).1.isOk = !isRefused line := by
  unfold handleLine isRefused
  cases classify line with
  | ok found => rfl
  | error fault => rfl

theorem isOk_handleLines (e : Engine) (stream : Stream) (lines : List Text) :
    (e.handleLines stream lines).1.isOk = lines.all fun line => !isRefused line := by
  induction lines generalizing e with
  | nil => rfl
  | cons line rest ih =>
    have hline := e.isOk_handleLine stream line
    rw [handleLines, List.all_cons, ← hline]
    rcases e.handleLine stream line with ⟨_ | _, effect⟩
    · rfl
    · exact ih effect.engine

theorem isOk_flush (e : Engine) (stream : Stream) :
    (e.flush stream).1.isOk = (e.buffer stream).flush.1.all fun line => !isRefused line :=
  isOk_handleLines _ stream _

theorem buffer_flush_of_ne (e : Engine) {stream other : Stream} (h : other ≠ stream) :
    (e.flush stream).2.engine.buffer other = e.buffer other := by
  have hhandles := (e.withBuffer stream (e.buffer stream).flush.2).handles_handleLines stream
    (e.buffer stream).flush.1
  have hbuffer := hhandles.buffer other
  rwa [buffer_withBuffer, if_neg h] at hbuffer

end Engine

/-! ### What one line publishes -/

namespace Engine

theorem tables_setStatus (e : Engine) (index : Nat) (state : CommandState) (message : Text)
    (durationMs : Option Int) :
    (e.setStatus index state message durationMs).events.filterMap Event.table? =
      e.table.history [⟨index, state, some message, durationMs⟩] := by
  have happly := e.table.apply_eq ⟨index, state, some message, durationMs⟩
  dsimp only at happly
  rw [setStatus, happly, Table.history_cons]
  cases e.table.admits index state with
  | true => rfl
  | false => rfl

theorem tables_act (e : Engine) (r : Reading) :
    (e.act r).events.filterMap Event.table? = e.table.history r.record?.toList := by
  cases r with
  | running index name => exact tables_setStatus e index .running _ none
  | passed index name ms => exact tables_setStatus e index .passed _ (some ms)
  | failed index name => exact tables_setStatus e index .failed _ none
  | locationStarted points => rfl
  | locationStopped => rfl
  | unmatched => rfl

theorem tables_report (e : Engine) (stream : Stream) (line : Text) :
    (e.report stream line).events.filterMap Event.table? = [] := by
  unfold report
  split
  · rfl
  · rfl

theorem tables_handleLine (e : Engine) (stream : Stream) (line : Text) :
    (e.handleLine stream line).2.events.filterMap Event.table? =
      e.table.history (offeredBy? line).toList := by
  unfold handleLine
  rcases hclassify : classify line with fault | found
  · have hoffered : offeredBy? line = none := by rw [offeredBy?, hclassify]
    rw [hoffered]
    exact tables_report e stream line
  · simp only [Effect.andThen]
    rw [List.filterMap_append, tables_report, List.nil_append, tables_act, table_report,
      offeredBy?_of_classify hclassify]

theorem currentIndex_act (e : Engine) (r : Reading) :
    (e.act r).engine.currentIndex = (r.passedIndex?.map (· + 1)).getD e.currentIndex := by
  cases r with
  | running index name => rw [act, engine_setStatus]; rfl
  | passed index name ms => rfl
  | failed index name => rw [act, engine_setStatus]; rfl
  | locationStarted points => rfl
  | locationStopped => rfl
  | unmatched => rfl

theorem currentIndex_report (e : Engine) (stream : Stream) (line : Text) :
    (e.report stream line).engine.currentIndex = e.currentIndex := by
  unfold report
  split
  · rfl
  · rfl

theorem currentIndex_handleLine (e : Engine) (stream : Stream) (line : Text) :
    (e.handleLine stream line).2.engine.currentIndex =
      ((passedBy? line).map (· + 1)).getD e.currentIndex := by
  unfold handleLine passedBy?
  cases classify line with
  | error fault => exact currentIndex_report e stream line
  | ok found =>
    simp only [Effect.andThen]
    rw [currentIndex_act, currentIndex_report]

end Engine

theorem offersOf_append_singleton (handled : List (Stream × Text)) (stream : Stream)
    (line : Text) :
    offersOf (handled ++ [(stream, line)]) = offersOf handled ++ (offeredBy? line).toList := by
  rw [offersOf, offersOf, List.filterMap_append]
  cases h : offeredBy? line with
  | none => simp [h]
  | some r => simp [h]

theorem cursorAfter_append_singleton (handled : List (Stream × Text)) (stream : Stream)
    (line : Text) :
    cursorAfter (handled ++ [(stream, line)]) =
      ((passedBy? line).map (· + 1)).getD (cursorAfter handled) := by
  rw [cursorAfter, cursorAfter, List.filterMap_append]
  cases h : passedBy? line with
  | none => simp [h]
  | some index => simp [h]

/-! ### Whole runs -/

/-- An engine has handled some lines, and the tables that it has published are their history. -/
structure Chronicles (file : Text) (handled : List (Stream × Text)) (e : Engine)
    (events : List Event) : Prop where
  transcribes : Transcribes file handled e events
  snapshots : events.filterMap Event.table? = ({ file } : Table).history (offersOf handled)
  cursor : e.currentIndex = cursorAfter handled

namespace Chronicles

variable {file : Text} {handled : List (Stream × Text)} {e : Engine} {events : List Event}

theorem new (file : Text) (limit : Nat) : Chronicles file [] (Engine.new file limit) [] :=
  ⟨Transcribes.new file limit, rfl, rfl⟩

theorem handleLine (h : Chronicles file handled e events) (stream : Stream) (line : Text) :
    Chronicles file (handled ++ [(stream, line)]) (e.handleLine stream line).2.engine
      (events ++ (e.handleLine stream line).2.events) := by
  refine ⟨h.transcribes.handleLine stream line, ?_, ?_⟩
  · rw [List.filterMap_append, h.snapshots, Engine.tables_handleLine, offersOf_append_singleton,
      Table.history_append, h.transcribes.table]
    rfl
  · rw [Engine.currentIndex_handleLine, cursorAfter_append_singleton, h.cursor]

/-- Only the table, the counters, the cursor and the events matter. -/
theorem congr {e' : Engine} (h : Chronicles file handled e events) (htable : e'.table = e.table)
    (hseen : e'.linesSeen = e.linesSeen) (hsuppressed : e'.linesSuppressed = e.linesSuppressed)
    (hcursor : e'.currentIndex = e.currentIndex) : Chronicles file handled e' events :=
  ⟨h.transcribes.congr htable hseen hsuppressed, h.snapshots, hcursor.trans h.cursor⟩

theorem withBuffer (h : Chronicles file handled e events) (stream : Stream) (b : LineBuffer) :
    Chronicles file handled (e.withBuffer stream b) events := by
  cases stream with
  | stdout => exact h.congr rfl rfl rfl rfl
  | stderr => exact h.congr rfl rfl rfl rfl

/-- Lines are handled up to one that is refused. -/
theorem handleLines (h : Chronicles file handled e events) (stream : Stream) (lines : List Text) :
    Chronicles file (handled ++ upToRefusal (lines.map (stream, ·)))
      (e.handleLines stream lines).2.engine (events ++ (e.handleLines stream lines).2.events) := by
  induction lines generalizing e events handled with
  | nil => simpa [Engine.handleLines, upToRefusal] using h
  | cons line rest ih =>
    have hstep := h.handleLine stream line
    have hanswer : isRefused line = !(e.handleLine stream line).1.isOk := by
      rw [e.isOk_handleLine stream line, Bool.not_not]
    rw [Engine.handleLines, List.map_cons, upToRefusal, hanswer]
    generalize e.handleLine stream line = effect at hstep
    obtain ⟨_ | _, effect⟩ := effect
    · exact hstep
    · have hrest := ih hstep
      rw [List.append_assoc, List.append_assoc] at hrest
      exact hrest

/-- What a buffer still holds is handled. -/
theorem flush (h : Chronicles file handled e events) (stream : Stream) :
    Chronicles file (handled ++ upToRefusal ((e.buffer stream).flush.1.map (stream, ·)))
      (e.flush stream).2.engine (events ++ (e.flush stream).2.events) :=
  (h.withBuffer stream _).handleLines stream _

/-- The end of the run is no change of the table. -/
theorem conclude (h : Chronicles file handled e events) (outcome : Outcome)
    (exitCode : Option Int) {event : Event} (hevent : event.isTerminal = true) :
    Chronicles file handled (e.conclude outcome exitCode event).engine (events ++ [event]) := by
  obtain ⟨hline, htable⟩ : (∀ stream, event.lineOf? stream = none) ∧ event.table? = none := by
    cases event <;> simp_all [Event.isTerminal, Event.lineOf?, Event.table?]
  refine ⟨h.transcribes.conclude outcome exitCode event hline, ?_, h.cursor⟩
  rw [List.filterMap_append, h.snapshots, List.filterMap_cons_none htable, List.filterMap_nil,
    List.append_nil]

theorem processExited (h : Chronicles file handled e events) (hactive : e.isActive = true)
    (code : Int) :
    Chronicles file (handled ++ e.handled (.exited code)) (e.processExited code).2.engine
      (events ++ (e.processExited code).2.events) := by
  have hout := h.flush .stdout
  have hanswer := e.isOk_flush .stdout
  have hkept := e.buffer_flush_of_ne (show Stream.stderr ≠ .stdout by decide)
  have hhandled : e.handled (.exited code) = upToRefusal
      ((e.buffer .stdout).flush.1.map (.stdout, ·) ++
        (e.buffer .stderr).flush.1.map (.stderr, ·)) :=
    if_pos hactive
  rw [Engine.processExited, if_pos hactive, hhandled]
  generalize e.flush .stdout = flushed at hout hanswer hkept ⊢
  obtain ⟨fault | _, first⟩ := flushed
  · obtain ⟨line, hline, hrefused⟩ := List.all_eq_false.1 hanswer.symm
    rw [upToRefusal_append_of_refused
      ⟨(.stdout, line), List.mem_map_of_mem hline, by simpa using hrefused⟩]
    exact hout
  · have haccepted : ∀ line ∈ (e.buffer .stdout).flush.1.map ((.stdout : Stream), ·),
        isRefused line.2 = false := fun line hline => by
      obtain ⟨t, ht, rfl⟩ := List.mem_map.1 hline
      simpa using List.all_eq_true.1 hanswer.symm t ht
    have hwhole := upToRefusal_append_of_not_refused haccepted []
    rw [List.append_nil, upToRefusal, List.append_nil] at hwhole
    have herr := hout.flush .stderr
    rw [hkept, hwhole, List.append_assoc, List.append_assoc] at herr
    rw [upToRefusal_append_of_not_refused haccepted]
    simp only at herr ⊢
    generalize first.engine.flush .stderr = flushed at herr ⊢
    obtain ⟨fault | _, second⟩ := flushed
    · exact herr
    · have hdone := herr.conclude .completed (some code)
        (show (Event.runComplete code).isTerminal = true from rfl)
      rw [List.append_assoc] at hdone
      exact hdone

theorem perform (h : Chronicles file handled e events) (op : Operation) :
    Chronicles file (handled ++ e.handled op) (e.perform op).engine
      (events ++ (e.perform op).events) := by
  by_cases hactive : e.isActive = true
  · cases op with
    | chunk stream chunk =>
      rw [Engine.handled, if_pos hactive, Engine.perform, Engine.feed, if_pos hactive]
      exact (h.withBuffer stream _).handleLines stream _
    | exited code => exact h.processExited hactive code
    | stop =>
      have hcleared : Chronicles file handled e.cleared events := h.congr rfl rfl rfl rfl
      rw [Engine.handled, List.append_nil, Engine.perform, Engine.stop, if_pos hactive]
      exact hcleared.conclude .aborted e.exitCode (show Event.runAborted.isTerminal = true from rfl)
    | spawnFailed reason =>
      rw [Engine.handled, List.append_nil, Engine.perform, Engine.spawnFailed, if_pos hactive]
      exact h.conclude .spawnFailed e.exitCode
        (show (Event.spawnFailed reason).isTerminal = true from rfl)
    | readinessTimedOut port timeout =>
      rw [Engine.handled, List.append_nil, Engine.perform, Engine.readinessTimedOut,
        if_pos hactive]
      exact h.conclude .readinessTimedOut e.exitCode
        (show (Event.readinessTimedOut port timeout).isTerminal = true from rfl)
  · rw [Engine.handled_of_ended hactive, List.append_nil,
      (e.isStep_perform op).idle fun h => hactive (Engine.isActive_iff.2 h), List.append_nil]
    exact h

theorem performAll (h : Chronicles file handled e events) (ops : List Operation) :
    Chronicles file (handled ++ e.transcript ops) (e.performAll ops).engine
      (events ++ (e.performAll ops).events) := by
  induction ops generalizing e events handled with
  | nil => simpa [Engine.performAll, Engine.transcript] using h
  | cons op ops ih =>
    have hrest := ih (h.perform op)
    rwa [List.append_assoc, List.append_assoc] at hrest

end Chronicles

/-- The tables that an engine publishes are the faithful history of its table. Whatever is done with
a new engine, the operations make it handle certain lines; the published tables are those right
after the accepted ones of the updates that these lines offer, and as many. The last of them is the
table of the engine, which is empty as long as there is none. Neighbours, the empty table before the
first included, differ in one index at most, a command that has ended in one of them has ended in
all later ones, and no later operation changes what has been published. The cursor is one more than
the index of the last command that a line has reported as passed, and zero before there is any. -/
theorem snapshots_faithful (file : Text) (limit : Nat) (ops : List Operation) :
    let empty : Table := { file }
    let handled := (Engine.new file limit).transcript ops
    let updates := empty.updates (offersOf handled)
    ∃ (events : List Event) (e : Engine),
      (∀ {σ : Type} (observe : Event → σ → σ) (heard : σ),
        (⟨Engine.new file limit, heard⟩ : Live σ).performAll (.observing observe) ops =
          ⟨e, events.foldl (fun heard event => observe event heard) heard⟩) ∧
      e.linesSeen = handled.length ∧
      (∀ stream, events.filterMap (Event.lineOf? stream) =
        (linesOf stream handled).filter (isLogged stream)) ∧
      events.filterMap Event.table? = (updates.filter (·.1)).map (·.2) ∧
      (events.filterMap Event.table?).length = updates.countP (·.1) ∧
      (empty :: events.filterMap Event.table?).getLast? = some e.table ∧
      (empty :: events.filterMap Event.table?).IsChain (fun earlier later =>
        ∃ index : Int, ∀ other, other ≠ index → later.get? other = earlier.get? other) ∧
      (events.filterMap Event.table?).Pairwise (fun earlier later =>
        ∀ index, earlier.hasEnded index → later.hasEnded index) ∧
      e.currentIndex = ((handled.filterMap fun h => passedBy? h.2).getLast?.map (· + 1)).getD 0 ∧
      ∀ more : List Operation, ∃ later : List Event,
        ((⟨Engine.new file limit, #[]⟩ : Live (Array Event)).performAll Listener.recorder
          (ops ++ more)).heard.toList = events ++ later := by
  intro empty handled updates
  obtain ⟨htranscribes, hsnapshots, hcursor⟩ := (Chronicles.new file limit).performAll ops
  rw [List.nil_append, List.nil_append] at hsnapshots
  rw [List.nil_append] at htranscribes hcursor
  refine ⟨((Engine.new file limit).performAll ops).events,
    ((Engine.new file limit).performAll ops).engine, fun observe heard => ?_,
    htranscribes.linesSeen, htranscribes.logged, hsnapshots, ?_, ?_, ?_, ?_, hcursor,
    fun more => ?_⟩
  · rw [Live.performAll_eq (Listener.isQuiet_observing observe)]
    rfl
  · rw [hsnapshots, Table.history, List.length_map, List.countP_eq_length_filter]
  · rw [hsnapshots, Table.getLast?_history, htranscribes.table]
    rfl
  · rw [hsnapshots]
    exact Table.isChain_history empty _
  · rw [hsnapshots]
    exact Table.history_pairwise_hasEnded empty _
  · refine ⟨(((Engine.new file limit).performAll ops).engine.performAll more).events, ?_⟩
    rw [Live.performAll_eq Listener.isQuiet_recorder, Live.after, Listener.hearAll_recorder,
      Engine.performAll_append]
    simp [Effect.andThen]

end ScriptRun.Status
