import ScriptRun.Proofs.Status.ShortLines
import ScriptRun.Proofs.Status.Transcript
import ScriptRun.Proofs.Text.Framing

/-!
# From the pipes to the status table

The two pipes of a tool deliver their bytes in chunks that arrive in some order. Whatever the chunks
and the order, the engine handles exactly the reference lines of each stream, in their order:
between two deliveries the lines of a stream that were handled, and its buffer, are what one feed of
all its bytes so far gives (`Delivered`), and the exit of the tool flushes the rest.

How the lines of the two streams are interleaved does depend on the deliveries. The table does not,
as long as no command is reported on in both streams (`offered_handled`).
-/

namespace ScriptRun.Status

open Text

/-- What the pipes of a tool deliver, chunk by chunk, in the order in which the chunks arrive. -/
abbrev Deliveries := List (Stream × List UInt8)

def bytesOf (stream : Stream) (deliveries : Deliveries) : List UInt8 :=
  (deliveries.filter fun d => d.1 = stream).flatMap (·.2)

theorem bytesOf_append_singleton (stream : Stream) (past : Deliveries) (d : Stream × List UInt8) :
    bytesOf stream (past ++ [d]) =
      bytesOf stream past ++ if d.1 = stream then d.2 else [] := by
  by_cases h : d.1 = stream
  · simp [bytesOf, h]
  · simp [bytesOf, h]

/-- The lines of a finished stream of bytes, read as a whole. -/
def referenceLines (limit : Nat) (bytes : List UInt8) : List Text :=
  outputLines limit (Utf8.readWhole bytes)

/-- Some of the lines reports on an index. -/
def Names (index : Nat) (lines : List Text) : Prop :=
  ∃ line ∈ lines, ∃ found, classify line = .ok found ∧ found.reading.index? = some index

/-- A live engine takes deliveries in order and then the exit code of the tool. The first line that
is refused ends this. -/
def Live.run {σ : Type} (l : Listener σ) (s : Live σ) (code : Int) :
    Deliveries → Except NumeralTooLong Bool × Live σ
  | [] => s.processExited l code
  | (stream, bytes) :: rest =>
    match s.feed l stream (.bytes bytes) with
    | (.ok (), s) => s.run l code rest
    | (.error e, s) => (.error e, s)

/-! ### Lines that report on an index -/

theorem names_iff {index : Nat} {lines : List Text} :
    Names index lines ↔ Table.about index (lines.filterMap offeredBy?) ≠ [] := by
  constructor
  · rintro ⟨line, hline, found, hfound, hindex⟩
    rw [← Reading.map_index_record?] at hindex
    obtain ⟨r, hr, hrindex⟩ := Option.map_eq_some_iff.1 hindex
    have hoffered : offeredBy? line = some r := by rw [offeredBy?_of_classify hfound, hr]
    have hmem : r ∈ Table.about index (lines.filterMap offeredBy?) :=
      List.mem_filter.2 ⟨List.mem_filterMap.2 ⟨line, hline, hoffered⟩, by simpa using hrindex⟩
    exact List.ne_nil_of_mem hmem
  · intro h
    obtain ⟨r, hr⟩ := List.exists_mem_of_ne_nil _ h
    obtain ⟨hmem, hrindex⟩ := List.mem_filter.1 hr
    obtain ⟨line, hline, hoffered⟩ := List.mem_filterMap.1 hmem
    rcases hclassify : classify line with fault | found
    · rw [offeredBy?, hclassify] at hoffered
      exact absurd hoffered (by simp)
    · rw [offeredBy?_of_classify hclassify] at hoffered
      refine ⟨line, hline, found, hclassify, ?_⟩
      rw [← Reading.map_index_record?, hoffered, Option.map_some]
      simpa using hrindex

/-- The offers about an index that only one stream reports on are those of that stream. -/
theorem about_handled {index : Nat} {stream : Stream} {handled : List (Stream × Text)}
    (h : ∀ other, other ≠ stream → ¬Names index (linesOf other handled)) :
    Table.about index (handled.filterMap fun h => offeredBy? h.2) =
      Table.about index ((linesOf stream handled).filterMap offeredBy?) := by
  induction handled with
  | nil => rfl
  | cons first rest ih =>
    obtain ⟨other, line⟩ := first
    have hrest := ih fun s hs hnames => by
      obtain ⟨l, hl, hfound⟩ := hnames
      exact h s hs ⟨l, by rw [linesOf_cons]; exact List.mem_append_right _ hl, hfound⟩
    rw [linesOf_cons, List.filterMap_append, Table.about_append, ← hrest, ← List.singleton_append,
      List.filterMap_append, Table.about_append]
    congr 1
    by_cases hstream : other = stream
    · rw [if_pos hstream]
      rfl
    · rw [if_neg hstream]
      -- the line belongs to another stream, so it does not report on the index
      have hquiet : ¬Names index [line] := fun hnames => by
        obtain ⟨l, hl, hfound⟩ := hnames
        refine h other hstream ⟨l, ?_, hfound⟩
        rw [linesOf_cons, if_pos rfl]
        exact List.mem_append_left _ hl
      rw [names_iff, not_not] at hquiet
      exact hquiet

/-- If no index is reported on in both streams, their lines may be taken one stream after the other.
-/
theorem offered_handled {out err : List Text} {handled : List (Stream × Text)} (file : Text)
    (hout : linesOf .stdout handled = out) (herr : linesOf .stderr handled = err)
    (hdisjoint : ∀ index, ¬(Names index out ∧ Names index err)) :
    ({ file } : Table).offered (handled.filterMap fun h => offeredBy? h.2) =
      ({ file } : Table).offered ((out ++ err).filterMap offeredBy?) := by
  refine Table.offered_eq_of_filter_eq file fun index => ?_
  rw [List.filterMap_append, Table.about_append]
  by_cases h : Names index err
  · have hnot : ¬Names index out := fun hnames => hdisjoint index ⟨hnames, h⟩
    have hhandled : Table.about index (handled.filterMap fun h => offeredBy? h.2) =
        Table.about index (err.filterMap offeredBy?) := by
      rw [← herr]
      refine about_handled fun other hother => ?_
      cases other with
      | stdout => rwa [hout]
      | stderr => exact absurd rfl hother
    rw [names_iff, not_not] at hnot
    rw [hhandled, hnot, List.nil_append]
  · have hhandled : Table.about index (handled.filterMap fun h => offeredBy? h.2) =
        Table.about index (out.filterMap offeredBy?) := by
      rw [← hout]
      refine about_handled fun other hother => ?_
      cases other with
      | stdout => exact absurd rfl hother
      | stderr => rwa [herr]
    rw [names_iff, not_not] at h
    rw [hhandled, h, List.append_nil]

/-! ### Between deliveries -/

/-- The engine of an active run after some deliveries: of each stream it has handled the lines that
its bytes so far complete, and buffers the rest. -/
structure Delivered (file : Text) (limit : Nat) (past : Deliveries) (handled : List (Stream × Text))
    (e : Engine) (events : List Event) : Prop where
  transcribes : Transcribes file handled e events
  active : e.isActive = true
  framed : ∀ stream, ({ limit } : LineBuffer).feed (.bytes (bytesOf stream past)) =
    (linesOf stream handled, e.buffer stream)

/-- No line that a buffer hands out is refused, if its limit is one that numbers keep. -/
theorem classify_feed {limit : Nat} (hpos : 1 ≤ limit) (hlimit : limit ≤ Decimal.digitLimit)
    (bytes : List UInt8) {line : Text}
    (h : line ∈ (({ limit } : LineBuffer).feed (.bytes bytes)).1) :
    ∃ found, classify line = .ok found := by
  refine classify_outputLines hpos hlimit (t := Utf8.decode bytes) ?_
  rw [← LineBuffer.feed_bytes_flush]
  exact List.mem_append_left _ h

theorem classify_referenceLines {limit : Nat} (hpos : 1 ≤ limit)
    (hlimit : limit ≤ Decimal.digitLimit) (bytes : List UInt8) {line : Text}
    (h : line ∈ referenceLines limit bytes) : ∃ found, classify line = .ok found :=
  classify_outputLines hpos hlimit h

namespace Delivered

variable {file : Text} {limit : Nat} {past : Deliveries} {handled : List (Stream × Text)}
  {e : Engine} {events : List Event}

theorem new (file : Text) (limit : Nat) :
    Delivered file limit [] [] (Engine.new file limit) [] := by
  refine ⟨Transcribes.new file limit, rfl, fun stream => ?_⟩
  have hnil : ({ limit } : LineBuffer).feed (.bytes []) = ([], { limit }) :=
    LineBuffer.feedText_nil (LineBuffer.isSettled_new limit)
  cases stream with
  | stdout => exact hnil
  | stderr => exact hnil

/-- What is left of a stream when the tool exits completes its reference lines. -/
theorem flush_eq (h : Delivered file limit past handled e events) (stream : Stream) :
    linesOf stream handled ++ (e.buffer stream).flush.1 =
      referenceLines limit (bytesOf stream past) := by
  have hflush := LineBuffer.feed_bytes_flush limit (bytesOf stream past)
  rw [h.framed stream, Utf8.decode_eq_readWhole] at hflush
  exact hflush

/-- One more delivery. -/
theorem feed (h : Delivered file limit past handled e events) (hpos : 1 ≤ limit)
    (hlimit : limit ≤ Decimal.digitLimit) (stream : Stream) (bytes : List UInt8) :
    (e.feed stream (.bytes bytes)).1 = .ok () ∧ ∃ handled',
      Delivered file limit (past ++ [(stream, bytes)]) handled'
        (e.feed stream (.bytes bytes)).2.engine
        (events ++ (e.feed stream (.bytes bytes)).2.events) := by
  obtain ⟨lines, b, hfed⟩ : ∃ lines b, (e.buffer stream).feed (.bytes bytes) = (lines, b) :=
    ⟨_, _, rfl⟩
  have hstream : ({ limit } : LineBuffer).feed (.bytes (bytesOf stream past ++ bytes)) =
      (linesOf stream handled ++ lines, b) := by
    rw [LineBuffer.feed_bytes_append, h.framed stream, hfed]
  have hlines : ∀ line ∈ lines, ∃ found, classify line = .ok found := fun line hline => by
    refine classify_feed hpos hlimit (bytesOf stream past ++ bytes) ?_
    rw [hstream]
    exact List.mem_append_right _ hline
  obtain ⟨hanswer, hdone⟩ := (h.transcribes.withBuffer stream b).handleLines stream hlines
  have hhandles := (e.withBuffer stream b).handles_handleLines stream lines
  have hfeed : e.feed stream (.bytes bytes) = (e.withBuffer stream b).handleLines stream lines := by
    rw [Engine.feed, if_pos h.active, hfed]
  rw [hfeed]
  refine ⟨hanswer, _, hdone, ?_, fun other => ?_⟩
  · have hactive := h.active
    rwa [Engine.isActive, hhandles.outcome, Engine.outcome_withBuffer]
  · rw [bytesOf_append_singleton, linesOf_append, linesOf_map_pair, hhandles.buffer,
      Engine.buffer_withBuffer]
    by_cases hother : stream = other
    · subst hother
      rw [if_pos rfl, if_pos rfl, if_pos rfl, hstream]
    · rw [if_neg hother, if_neg hother, if_neg fun h => hother h.symm, List.append_nil,
        List.append_nil, h.framed other]

/-- The exit of the tool. -/
theorem processExited (h : Delivered file limit past handled e events) (hpos : 1 ≤ limit)
    (hlimit : limit ≤ Decimal.digitLimit) (code : Int) :
    ∃ handled' more e', e.processExited code = (.ok true, ⟨more ++ [.runComplete code], e'⟩) ∧
      Transcribes file handled' e' (events ++ (more ++ [.runComplete code])) ∧
      ∀ stream, linesOf stream handled' = referenceLines limit (bytesOf stream past) := by
  have hlines : ∀ stream, ∀ line ∈ (e.buffer stream).flush.1,
      ∃ found, classify line = .ok found := fun stream line hline => by
    refine classify_referenceLines hpos hlimit (bytesOf stream past) ?_
    rw [← h.flush_eq stream]
    exact List.mem_append_right _ hline
  obtain ⟨first, hout, hfirst, hbuffer⟩ := h.transcribes.flush .stdout (hlines .stdout)
  -- the buffer of the diagnostics is still the one before
  have hkept : first.engine.buffer .stderr = e.buffer .stderr := hbuffer .stderr (by decide)
  obtain ⟨second, herr, hsecond, -⟩ := hfirst.flush .stderr (hkept ▸ hlines .stderr)
  have hdone := hsecond.conclude .completed (some code) (.runComplete code) fun _ => rfl
  refine ⟨handled ++ (e.buffer .stdout).flush.1.map (.stdout, ·) ++
      (first.engine.buffer .stderr).flush.1.map (.stderr, ·), first.events ++ second.events,
    (second.engine.conclude .completed (some code) (.runComplete code)).engine, ?_, ?_,
    fun stream => ?_⟩
  · rw [Engine.processExited, if_pos h.active, hout]
    simp only [herr]
    rfl
  · rw [← List.append_assoc, ← List.append_assoc]
    exact hdone
  · rw [linesOf_append, linesOf_append, linesOf_map_pair, linesOf_map_pair, hkept,
      ← h.flush_eq stream]
    cases stream with
    | stdout => simp
    | stderr => simp

end Delivered

/-! ### The whole run -/

/-- What a run hears and leaves behind, from any state between two deliveries. -/
theorem Delivered.run {file : Text} {limit : Nat} {past : Deliveries}
    {handled : List (Stream × Text)} {s : Live (Array Event)}
    (h : Delivered file limit past handled s.engine s.heard.toList) (hpos : 1 ≤ limit)
    (hlimit : limit ≤ Decimal.digitLimit) (code : Int) (rest : Deliveries) :
    ∃ handled' events e, s.run Listener.recorder code rest = (.ok true, ⟨e, events.toArray⟩) ∧
      Transcribes file handled' e events ∧
      (∀ stream, linesOf stream handled' = referenceLines limit (bytesOf stream (past ++ rest))) ∧
      events.getLast? = some (.runComplete code) := by
  have hquiet := Listener.isQuiet_recorder
  induction rest generalizing s past handled with
  | nil =>
    obtain ⟨handled', more, e', hexited, hdone, hlines⟩ := h.processExited hpos hlimit code
    refine ⟨handled', _, e', ?_, hdone, ?_, ?_⟩
    · rw [Live.run, Live.processExited_eq hquiet, hexited, Live.after, Listener.hearAll_recorder]
      simp
    · rwa [List.append_nil]
    · rw [← List.append_assoc, List.getLast?_concat]
  | cons d rest ih =>
    obtain ⟨stream, bytes⟩ := d
    obtain ⟨hanswer, handled', hdone⟩ := h.feed hpos hlimit stream bytes
    have hheard : (s.heard ++ (s.engine.feed stream (.bytes bytes)).2.events.toArray).toList =
        s.heard.toList ++ (s.engine.feed stream (.bytes bytes)).2.events := by simp
    rw [← hheard] at hdone
    rw [Live.run, Live.feed_eq hquiet, hanswer, ← List.singleton_append, ← List.append_assoc,
      Live.after, Listener.hearAll_recorder]
    exact ih hdone

theorem countP_handled (handled : List (Stream × Text)) :
    handled.length = (linesOf .stdout handled).length + (linesOf .stderr handled).length ∧
      handled.countP (fun h => !isLogged h.1 h.2) = (linesOf .stderr handled).countP isNoise := by
  induction handled with
  | nil => exact ⟨rfl, rfl⟩
  | cons first rest ih =>
    obtain ⟨stream, line⟩ := first
    obtain ⟨hlength, hcount⟩ := ih
    rw [linesOf_cons, linesOf_cons, List.length_cons, List.countP_cons, hlength, hcount]
    cases stream with
    | stdout =>
      simp [isLogged]
      omega
    | stderr =>
      by_cases hline : isNoise line
      · simp [isLogged, hline]
        omega
      · simp [isLogged, hline]
        omega

/-- No line is lost, repeated or put in another place between the pipes and the table. However the
output is cut into chunks, and in whatever order those of the two streams arrive, the log lines of
each stream are its reference lines, without the build chatter of the diagnostics, and the
completion of the run is the last event. If no command is reported on in both streams, the table is
that of the reference lines. -/
theorem interleaving_irrelevant (file : Text) (limit : Nat) (hpos : 1 ≤ limit)
    (hlimit : limit ≤ 4300) (code : Int) (out err : List UInt8) (deliveries : Deliveries)
    (hout : bytesOf .stdout deliveries = out) (herr : bytesOf .stderr deliveries = err) :
    let outLines := referenceLines limit out
    let errLines := referenceLines limit err
    ∃ (events : List Event) (e : Engine),
      (⟨Engine.new file limit, #[]⟩ : Live (Array Event)).run Listener.recorder code deliveries =
        (.ok true, ⟨e, events.toArray⟩) ∧
      events.filterMap (Event.lineOf? .stdout) = outLines ∧
      events.filterMap (Event.lineOf? .stderr) = errLines.filter (fun line => !isNoise line) ∧
      e.linesSeen = outLines.length + errLines.length ∧
      e.linesSuppressed = errLines.countP isNoise ∧
      events.getLast? = some (.runComplete code) ∧
      ((∀ index, ¬(Names index outLines ∧ Names index errLines)) →
        e.table = ({ file } : Table).offered ((outLines ++ errLines).filterMap offeredBy?) ∧
        ∀ index : Nat,
          (e.table.contains index ↔ Names index (outLines ++ errLines)) ∧
          e.table.get? index =
            Table.lastWord (Table.about index ((outLines ++ errLines).filterMap offeredBy?))) := by
  intro outLines errLines
  have hnew : Delivered file limit [] [] (Engine.new file limit) (#[] : Array Event).toList :=
    Delivered.new file limit
  obtain ⟨handled, events, e, hrun, htranscribes, hlines, hlast⟩ :=
    Delivered.run (s := ⟨Engine.new file limit, #[]⟩) hnew hpos hlimit code deliveries
  obtain ⟨htable, hseen, hsuppressed, hlogged⟩ := htranscribes
  have houtLines : linesOf .stdout handled = outLines := by
    rw [hlines, List.nil_append, hout]
  have herrLines : linesOf .stderr handled = errLines := by
    rw [hlines, List.nil_append, herr]
  obtain ⟨hlength, hcount⟩ := countP_handled handled
  refine ⟨events, e, hrun, ?_, ?_, ?_, ?_, hlast, fun hdisjoint => ?_⟩
  · rw [hlogged .stdout, houtLines, isLogged_stdout, List.filter_true]
  · rw [hlogged .stderr, herrLines, isLogged_stderr]
  · rw [hseen, hlength, houtLines, herrLines]
  · rw [hsuppressed, hcount, herrLines]
  · rw [offered_handled file houtLines herrLines hdisjoint] at htable
    have hget : ∀ index : Nat, e.table.get? index =
        Table.lastWord (Table.about index ((outLines ++ errLines).filterMap offeredBy?)) :=
      fun index => by rw [htable, Table.get?_offered]
    refine ⟨htable, fun index => ⟨?_, hget index⟩⟩
    rw [Table.contains, hget index, names_iff, Option.isSome_iff_ne_none, ne_eq,
      Table.lastWord_eq_none_iff]

/-- Output that reports on one command and diagnostics that report on another, each in two chunks.
-/
def mixedDeliveries : Deliveries :=
  let out := Utf8.encode "✓ [0] launchApp (5ms)\n".toList
  let err := Utf8.encode "warning: slow\r\n❌ [1] tapOn".toList
  [(.stdout, out.take 1), (.stderr, err.take 14), (.stdout, out.drop 1), (.stderr, err.drop 14)]

/-- The cuts are inside the check mark and between a carriage return and its line feed. -/
theorem mixedDeliveries_run :
    ∃ (events : List Event) (e : Engine),
      (⟨Engine.new [] 80, #[]⟩ : Live (Array Event)).run Listener.recorder 1 mixedDeliveries =
        (.ok true, ⟨e, events.toArray⟩) ∧
      e.linesSeen = 3 ∧ e.linesSuppressed = 1 ∧
      e.table.get? 0 = some ⟨0, .passed, some "Passed: launchApp".toList, some 5⟩ ∧
      e.table.get? 1 = some ⟨1, .failed, some "Failed: tapOn".toList, none⟩ := by
  have hout : (referenceLines 80 (bytesOf .stdout mixedDeliveries)).filterMap offeredBy? =
      [⟨0, .passed, some "Passed: launchApp".toList, some 5⟩] := by decide +kernel
  have herr : (referenceLines 80 (bytesOf .stderr mixedDeliveries)).filterMap offeredBy? =
      [⟨1, .failed, some "Failed: tapOn".toList, none⟩] := by decide +kernel
  have hcounts : (referenceLines 80 (bytesOf .stdout mixedDeliveries)).length = 1 ∧
      (referenceLines 80 (bytesOf .stderr mixedDeliveries)).length = 2 ∧
      (referenceLines 80 (bytesOf .stderr mixedDeliveries)).countP isNoise = 1 := by
    decide +kernel
  obtain ⟨events, e, hrun, -, -, hseen, hsuppressed, -, htable⟩ :=
    interleaving_irrelevant [] 80 (by decide) (by decide) 1 _ _ mixedDeliveries rfl rfl
  have hdisjoint : ∀ index, ¬(Names index (referenceLines 80 (bytesOf .stdout mixedDeliveries)) ∧
      Names index (referenceLines 80 (bytesOf .stderr mixedDeliveries))) := by
    rintro index ⟨hfirst, hsecond⟩
    rw [names_iff, hout] at hfirst
    rw [names_iff, herr] at hsecond
    simp [Table.about] at hfirst hsecond
    omega
  obtain ⟨-, hget⟩ := htable hdisjoint
  rw [List.filterMap_append, hout, herr] at hget
  refine ⟨events, e, hrun, ?_, ?_, (hget 0).2, (hget 1).2⟩
  · rw [hseen, hcounts.1, hcounts.2.1]
  · rw [hsuppressed, hcounts.2.2]

end ScriptRun.Status
