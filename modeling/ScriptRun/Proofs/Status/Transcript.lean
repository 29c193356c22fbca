import ScriptRun.Proofs.Status.Effect
import ScriptRun.Proofs.Status.Table

/-!
# What an engine knows of the lines it has handled

A transcript is the list of the lines that an engine has handled, each with its stream, in order.
What the engine has done can be read off it: the table holds what the lines have offered to it, the
counters count them, and the log lines of each stream are those of the transcript that are not build
chatter.

The transcript does not say how the lines came to be, so all of this holds for every way in which
the output arrives. `Transcribes.handleLine` is the step.
-/

namespace ScriptRun.Status

/-- What a reading says of a command, as a record for the table. -/
def Reading.record? : Reading → Option Record
  | .running index name => some ⟨index, .running, some ("Running: ".toList ++ name), none⟩
  | .passed index name ms => some ⟨index, .passed, some ("Passed: ".toList ++ name), some ms⟩
  | .failed index name => some ⟨index, .failed, some ("Failed: ".toList ++ name), none⟩
  | .locationStarted _ | .locationStopped | .unmatched => none

theorem Reading.map_index_record? (r : Reading) : r.record?.map (·.index) = r.index? := by
  cases r <;> rfl

def offeredBy? (line : Text) : Option Record :=
  match classify line with
  | .ok found => found.reading.record?
  | .error _ => none

theorem offeredBy?_of_classify {line : Text} {found : Classification}
    (h : classify line = .ok found) : offeredBy? line = found.reading.record? := by
  rw [offeredBy?, h]

/-- Whether a line of a stream goes to the log. -/
def isLogged (stream : Stream) (line : Text) : Bool := !(stream = .stderr && isNoise line)

theorem isLogged_stdout : isLogged .stdout = fun _ => true := by
  funext line
  rfl

theorem isLogged_stderr : isLogged .stderr = fun line => !isNoise line := by
  funext line
  rfl

def Event.lineOf? (stream : Stream) : Event → Option Text
  | .logLine name line => if name = stream.name then some line else none
  | _ => none

def linesOf (stream : Stream) (handled : List (Stream × Text)) : List Text :=
  (handled.filter fun h => h.1 = stream).map (·.2)

theorem linesOf_append (stream : Stream) (handled more : List (Stream × Text)) :
    linesOf stream (handled ++ more) = linesOf stream handled ++ linesOf stream more := by
  simp only [linesOf, List.filter_append, List.map_append]

theorem linesOf_cons (stream other : Stream) (line : Text) (handled : List (Stream × Text)) :
    linesOf stream ((other, line) :: handled) =
      (if other = stream then [line] else []) ++ linesOf stream handled := by
  by_cases h : other = stream
  · simp [linesOf, h]
  · simp [linesOf, h]

theorem linesOf_map_pair (stream other : Stream) (lines : List Text) :
    linesOf stream (lines.map (other, ·)) = if other = stream then lines else [] := by
  induction lines with
  | nil => split <;> rfl
  | cons line lines ih =>
    rw [List.map_cons, linesOf_cons, ih]
    by_cases h : other = stream
    · rw [if_pos h, if_pos h, if_pos h, List.singleton_append]
    · rw [if_neg h, if_neg h, if_neg h, List.nil_append]

namespace Engine

/-! ### What acting on a reading changes -/

theorem engine_setStatus (e : Engine) (index : Nat) (state : CommandState) (message : Text)
    (durationMs : Option Int) :
    (e.setStatus index state message durationMs).engine =
      { e with table := e.table.offer ⟨index, state, some message, durationMs⟩ } := by
  unfold setStatus Table.offer Table.apply
  split
  · rename_i table h
    split at h
    · rename_i hadmits
      rw [if_pos hadmits, ← (Prod.mk.inj h).2]
      rfl
    · exact absurd (Prod.mk.inj h).1 (by simp)
  · rename_i table h
    split at h
    · exact absurd (Prod.mk.inj h).1 (by simp)
    · rename_i hadmits
      rw [if_neg hadmits]

theorem lineOf?_setStatus (e : Engine) (index : Nat) (state : CommandState) (message : Text)
    (durationMs : Option Int) (stream : Stream) :
    (e.setStatus index state message durationMs).events.filterMap (Event.lineOf? stream) = [] := by
  unfold setStatus
  split <;> rfl

theorem table_act (e : Engine) (r : Reading) :
    (e.act r).engine.table = r.record?.elim e.table e.table.offer := by
  cases r with
  | running index name => rw [act, engine_setStatus]; rfl
  | passed index name ms => simp only [act, engine_setStatus]; rfl
  | failed index name => rw [act, engine_setStatus]; rfl
  | locationStarted points => rfl
  | locationStopped => rfl
  | unmatched => rfl

theorem counts_act (e : Engine) (r : Reading) :
    (e.act r).engine.linesSeen = e.linesSeen ∧
      (e.act r).engine.linesSuppressed = e.linesSuppressed := by
  cases r with
  | running index name => rw [act, engine_setStatus]; exact ⟨rfl, rfl⟩
  | passed index name ms => simp only [act, engine_setStatus, and_self]
  | failed index name => rw [act, engine_setStatus]; exact ⟨rfl, rfl⟩
  | locationStarted points => exact ⟨rfl, rfl⟩
  | locationStopped => exact ⟨rfl, rfl⟩
  | unmatched => exact ⟨rfl, rfl⟩

theorem lineOf?_act (e : Engine) (r : Reading) (stream : Stream) :
    (e.act r).events.filterMap (Event.lineOf? stream) = [] := by
  cases r with
  | running index name => exact lineOf?_setStatus e _ _ _ _ stream
  | passed index name ms => exact lineOf?_setStatus e _ _ _ _ stream
  | failed index name => exact lineOf?_setStatus e _ _ _ _ stream
  | locationStarted points => rfl
  | locationStopped => rfl
  | unmatched => rfl

theorem table_report (e : Engine) (stream : Stream) (line : Text) :
    (e.report stream line).engine.table = e.table := by
  unfold report
  split <;> rfl

theorem counts_report (e : Engine) (stream : Stream) (line : Text) :
    (e.report stream line).engine.linesSeen = e.linesSeen + 1 ∧
      (e.report stream line).engine.linesSuppressed =
        e.linesSuppressed + if isLogged stream line then 0 else 1 := by
  unfold report isLogged
  split
  · rename_i h
    simp only [h, Bool.not_true, Bool.false_eq_true, if_false, and_self]
  · rename_i h
    simp only [publish, h, Bool.not_false, if_true, Nat.add_zero, and_self]

theorem lineOf?_report (e : Engine) (stream other : Stream) (line : Text) :
    (e.report stream line).events.filterMap (Event.lineOf? other) =
      if stream = other ∧ isLogged stream line then [line] else [] := by
  have hname : stream.name = other.name ↔ stream = other := by
    cases stream <;> cases other <;> decide
  unfold report isLogged
  split
  · rename_i h
    rw [if_neg (by simp [h])]
    rfl
  · rename_i h
    by_cases hstream : stream = other
    · subst hstream
      rw [if_pos ⟨rfl, by simp only [h, Bool.not_false]⟩]
      simp [publish, Event.lineOf?]
    · simp [publish, Event.lineOf?, hname, hstream]

end Engine

/-! ### Reading a transcript -/

/-- An engine has handled the lines of a transcript, and has published events while doing so. -/
structure Transcribes (file : Text) (handled : List (Stream × Text)) (e : Engine)
    (events : List Event) : Prop where
  table : e.table = ({ file } : Table).offered (handled.filterMap fun h => offeredBy? h.2)
  linesSeen : e.linesSeen = handled.length
  linesSuppressed : e.linesSuppressed = handled.countP fun h => !isLogged h.1 h.2
  logged : ∀ stream, events.filterMap (Event.lineOf? stream) =
    (linesOf stream handled).filter (isLogged stream)

namespace Transcribes

variable {file : Text} {handled : List (Stream × Text)} {e : Engine} {events : List Event}

theorem new (file : Text) (limit : Nat) : Transcribes file [] (Engine.new file limit) [] :=
  ⟨rfl, rfl, rfl, fun _ => rfl⟩

/-- Handling one more line. -/
theorem handleLine (h : Transcribes file handled e events) (stream : Stream) (line : Text) :
    Transcribes file (handled ++ [(stream, line)]) (e.handleLine stream line).2.engine
      (events ++ (e.handleLine stream line).2.events) := by
  obtain ⟨htable, hseen, hsuppressed, hlogged⟩ := h
  obtain ⟨hreportSeen, hreportSuppressed⟩ := e.counts_report stream line
  have hreportTable := e.table_report stream line
  -- what reporting the line adds to the log
  have hreportLogged : ∀ other,
      (events ++ (e.report stream line).events).filterMap (Event.lineOf? other) =
        (linesOf other (handled ++ [(stream, line)])).filter (isLogged other) := by
    intro other
    rw [List.filterMap_append, hlogged, Engine.lineOf?_report, linesOf_append, List.filter_append,
      show [(stream, line)] = [line].map (stream, ·) from rfl, linesOf_map_pair]
    by_cases hstream : stream = other
    · subst hstream
      by_cases hline : isLogged stream line
      · simp [hline]
      · simp [hline]
    · simp [hstream]
  have hcount : (handled ++ [(stream, line)]).countP (fun h => !isLogged h.1 h.2) =
      e.linesSuppressed + if isLogged stream line then 0 else 1 := by
    rw [List.countP_append, hsuppressed]
    by_cases hline : isLogged stream line
    · simp [hline]
    · simp [hline]
  unfold Engine.handleLine
  rcases hclassify : classify line with fault | found
  · have hoffered : offeredBy? line = none := by rw [offeredBy?, hclassify]
    refine ⟨?_, ?_, ?_, hreportLogged⟩
    · rw [hreportTable, htable, List.filterMap_append]
      simp [hoffered]
    · rw [hreportSeen, hseen, List.length_append, List.length_singleton]
    · rw [hreportSuppressed, hcount]
  · have hoffered := offeredBy?_of_classify hclassify
    obtain ⟨hactSeen, hactSuppressed⟩ :=
      (e.report stream line).engine.counts_act found.reading
    refine ⟨?_, ?_, ?_, fun other => ?_⟩
    · simp only [Effect.andThen]
      rw [Engine.table_act, hreportTable, htable, List.filterMap_append]
      cases hrecord : found.reading.record? with
      | none => simp [hoffered, hrecord]
      | some r => simp [hoffered, hrecord, Table.offered]
    · simp only [Effect.andThen]
      rw [hactSeen, hreportSeen, hseen, List.length_append, List.length_singleton]
    · simp only [Effect.andThen]
      rw [hactSuppressed, hreportSuppressed, hcount]
    · simp only [Effect.andThen]
      rw [← List.append_assoc, List.filterMap_append, Engine.lineOf?_act, List.append_nil,
        hreportLogged]

/-- Handling more lines, if none is refused. -/
theorem handleLines (h : Transcribes file handled e events) (stream : Stream) {lines : List Text}
    (hlines : ∀ line ∈ lines, ∃ found, classify line = .ok found) :
    (e.handleLines stream lines).1 = .ok () ∧
      Transcribes file (handled ++ lines.map (stream, ·)) (e.handleLines stream lines).2.engine
        (events ++ (e.handleLines stream lines).2.events) := by
  induction lines generalizing e events handled with
  | nil => exact ⟨rfl, by simpa [Engine.handleLines] using h⟩
  | cons line rest ih =>
    obtain ⟨found, hfound⟩ := hlines line List.mem_cons_self
    have hline : (e.handleLine stream line).1 = .ok () := by
      rw [Engine.handleLine, hfound]
    have hstep := h.handleLine stream line
    rw [Engine.handleLines]
    generalize e.handleLine stream line = effect at hline hstep
    obtain ⟨answer, effect⟩ := effect
    obtain rfl : answer = .ok () := hline
    obtain ⟨hanswer, hrest⟩ := ih hstep fun l hl => hlines l (List.mem_cons_of_mem line hl)
    refine ⟨hanswer, ?_⟩
    simpa [Effect.andThen, List.append_assoc] using hrest

/-- Only the table, the counters and the events matter. -/
theorem congr {e' : Engine} (h : Transcribes file handled e events) (htable : e'.table = e.table)
    (hseen : e'.linesSeen = e.linesSeen) (hsuppressed : e'.linesSuppressed = e.linesSuppressed) :
    Transcribes file handled e' events :=
  ⟨htable.trans h.table, hseen.trans h.linesSeen, hsuppressed.trans h.linesSuppressed, h.logged⟩

theorem withBuffer (h : Transcribes file handled e events) (stream : Stream) (b : LineBuffer) :
    Transcribes file handled (e.withBuffer stream b) events := by
  cases stream with
  | stdout => exact h.congr rfl rfl rfl
  | stderr => exact h.congr rfl rfl rfl

/-- Handling what is left in a buffer, if none of it is refused. The other buffer stays. -/
theorem flush (h : Transcribes file handled e events) (stream : Stream)
    (hlines : ∀ line ∈ (e.buffer stream).flush.1, ∃ found, classify line = .ok found) :
    ∃ effect, e.flush stream = (.ok (), effect) ∧
      Transcribes file (handled ++ (e.buffer stream).flush.1.map (stream, ·)) effect.engine
        (events ++ effect.events) ∧
      ∀ other, other ≠ stream → effect.engine.buffer other = e.buffer other := by
  obtain ⟨hanswer, hdone⟩ :=
    (h.withBuffer stream (e.buffer stream).flush.2).handleLines stream hlines
  have hhandles := (e.withBuffer stream (e.buffer stream).flush.2).handles_handleLines stream
    (e.buffer stream).flush.1
  refine ⟨(e.flush stream).2, Prod.ext hanswer rfl, hdone, fun other hother => ?_⟩
  have hbuffer := hhandles.buffer other
  rw [Engine.buffer_withBuffer, if_neg hother] at hbuffer
  exact hbuffer

/-- The end of the run adds no line. -/
theorem conclude (h : Transcribes file handled e events) (outcome : Outcome)
    (exitCode : Option Int) (event : Event) (hevent : ∀ stream, event.lineOf? stream = none) :
    Transcribes file handled (e.conclude outcome exitCode event).engine (events ++ [event]) := by
  refine ⟨h.table, h.linesSeen, h.linesSuppressed, fun stream => ?_⟩
  rw [List.filterMap_append, h.logged stream, List.filterMap_cons_none (hevent stream),
    List.filterMap_nil, List.append_nil]

end Transcribes

end ScriptRun.Status
