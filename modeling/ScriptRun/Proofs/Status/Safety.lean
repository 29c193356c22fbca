import ScriptRun.Proofs.Status.Interruption
import ScriptRun.Proofs.Status.ShortLines
import ScriptRun.Proofs.Status.Updates
import ScriptRun.Proofs.Text.LineLimit

/-!
# No output makes an engine fail

A line is refused only for a number with too many digits, and the buffers hand out no line that is
longer than their limit. The limit of a buffer never changes, so as long as it is not above the one
of numbers, nothing that the tool prints is refused, in whatever chunks and encodings it comes and
whatever else is done with the engine. This does not depend on the listener either.
-/

namespace ScriptRun.Status

variable {σ : Type} {l : Listener σ}

def Engine.HasLimit (limit : Nat) (e : Engine) : Prop := ∀ stream, (e.buffer stream).limit = limit

theorem Engine.HasLimit.congr {limit : Nat} {e e' : Engine} (h : e.HasLimit limit)
    (hstdout : e'.stdout = e.stdout) (hstderr : e'.stderr = e.stderr) : e'.HasLimit limit := by
  intro stream
  rw [← h stream]
  cases stream with
  | stdout => exact congrArg LineBuffer.limit hstdout
  | stderr => exact congrArg LineBuffer.limit hstderr

theorem Engine.HasLimit.withBuffer {limit : Nat} {e : Engine} (h : e.HasLimit limit)
    (stream : Stream) {b : LineBuffer} (hb : b.limit = limit) :
    (e.withBuffer stream b).HasLimit limit := by
  intro other
  rw [Engine.buffer_withBuffer]
  split
  · exact hb
  · exact h other

namespace Live

/-! ### The limit of the buffers -/

theorem hasLimit_stop {limit : Nat} {s : Live σ} (h : s.engine.HasLimit limit) :
    (s.stop l).2.engine.HasLimit limit := by
  unfold stop
  split
  · intro stream
    rw [← h stream]
    cases stream <;> rfl
  · exact h

theorem hasLimit_publish {limit : Nat} {s : Live σ} (h : s.engine.HasLimit limit) (event : Event) :
    (s.publish l event).engine.HasLimit limit := by
  unfold publish
  simp only
  split
  · exact hasLimit_stop h
  · exact h

theorem hasLimit_setStatus {limit : Nat} {s : Live σ} (h : s.engine.HasLimit limit) (index : Nat)
    (state : CommandState) (message : Text) (durationMs : Option Int) :
    (s.setStatus l index state message durationMs).engine.HasLimit limit := by
  unfold setStatus
  split
  · apply hasLimit_publish
    exact h.congr rfl rfl
  · exact h

theorem hasLimit_act {limit : Nat} {s : Live σ} (h : s.engine.HasLimit limit) (r : Reading) :
    (s.act l r).engine.HasLimit limit := by
  cases r with
  | running index name => exact hasLimit_setStatus h index .running _ none
  | passed index name ms => exact (hasLimit_setStatus h index .passed _ _).congr rfl rfl
  | failed index name => exact hasLimit_setStatus h index .failed _ none
  | locationStarted points => exact hasLimit_publish h _
  | locationStopped => exact hasLimit_publish h _
  | unmatched => exact h

theorem hasLimit_report {limit : Nat} {s : Live σ} (h : s.engine.HasLimit limit) (stream : Stream)
    (line : Text) : (s.report l stream line).engine.HasLimit limit := by
  unfold report
  simp only
  split
  · exact h.congr rfl rfl
  · apply hasLimit_publish
    exact h.congr rfl rfl

theorem hasLimit_handleLine {limit : Nat} {s : Live σ} (h : s.engine.HasLimit limit)
    (stream : Stream) (line : Text) :
    (s.handleLine l stream line).2.engine.HasLimit limit := by
  unfold handleLine
  cases classify line with
  | ok found => exact hasLimit_act (hasLimit_report h stream line) found.reading
  | error fault => exact hasLimit_report h stream line

/-! ### Lines within the limit -/

/-- Lines that are short enough are all handled. -/
theorem handleLines_ok {limit : Nat} (hlimit : limit ≤ Decimal.digitLimit) {s : Live σ}
    (h : s.engine.HasLimit limit) (stream : Stream) {lines : List Text}
    (hlines : ∀ line ∈ lines, line.length ≤ limit) :
    ∃ after, s.handleLines l stream lines = (.ok (), after) ∧ after.engine.HasLimit limit := by
  induction lines generalizing s with
  | nil => exact ⟨s, rfl, h⟩
  | cons line rest ih =>
    obtain ⟨hline, hrest⟩ := List.forall_mem_cons.1 hlines
    obtain ⟨found, hfound⟩ := classify_eq_ok (Nat.le_trans hline hlimit)
    have hhandled := hasLimit_handleLine (l := l) h stream line
    have hanswer : (s.handleLine l stream line).1 = .ok () := by
      rw [handleLine, hfound]
    obtain ⟨after, hafter, hkept⟩ := ih hhandled hrest
    refine ⟨after, ?_, hkept⟩
    rw [handleLines]
    generalize s.handleLine l stream line = handled at hanswer hafter
    obtain ⟨answer, handled⟩ := handled
    obtain rfl : answer = .ok () := hanswer
    exact hafter

theorem feed_ok {limit : Nat} (hpos : 1 ≤ limit) (hlimit : limit ≤ Decimal.digitLimit)
    {s : Live σ} (h : s.engine.HasLimit limit) (stream : Stream) (chunk : Chunk) :
    ∃ after, s.feed l stream chunk = (.ok (), after) ∧ after.engine.HasLimit limit := by
  have hbuffer := h stream
  have hlines : ∀ line ∈ ((s.engine.buffer stream).feed chunk).1, line.length ≤ limit := by
    intro line hline
    rw [← hbuffer]
    exact LineBuffer.length_le_of_mem_feed (by omega) hline
  have hkept := h.withBuffer stream ((LineBuffer.limit_feed _ chunk).trans hbuffer)
  unfold feed
  split
  · cases stream with
    | stdout => exact handleLines_ok hlimit (s := ⟨_, s.heard⟩) hkept .stdout hlines
    | stderr => exact handleLines_ok hlimit (s := ⟨_, s.heard⟩) hkept .stderr hlines
  · exact ⟨s, rfl, h⟩

theorem flush_ok {limit : Nat} (hpos : 1 ≤ limit) (hlimit : limit ≤ Decimal.digitLimit)
    {s : Live σ} (h : s.engine.HasLimit limit) (stream : Stream) :
    ∃ after, s.flush l stream = (.ok (), after) ∧ after.engine.HasLimit limit := by
  have hbuffer := h stream
  have hlines : ∀ line ∈ (s.engine.buffer stream).flush.1, line.length ≤ limit := by
    intro line hline
    rw [← hbuffer]
    exact LineBuffer.length_le_of_mem_flush (by omega) hline
  have hkept : (s.engine.withBuffer stream (s.engine.buffer stream).flush.2).HasLimit limit :=
    h.withBuffer stream hbuffer
  cases stream with
  | stdout => exact handleLines_ok hlimit (s := ⟨_, s.heard⟩) hkept .stdout hlines
  | stderr => exact handleLines_ok hlimit (s := ⟨_, s.heard⟩) hkept .stderr hlines

/-- An exit completes an active run. -/
theorem processExited_ok {limit : Nat} (hpos : 1 ≤ limit) (hlimit : limit ≤ Decimal.digitLimit)
    {s : Live σ} (h : s.engine.HasLimit limit) (hactive : s.engine.isActive = true) (code : Int) :
    ∃ spoken : Live σ, spoken.engine.HasLimit limit ∧ s.processExited l code =
      (.ok true, spoken.conclude l .completed (some code) (.runComplete code)) := by
  obtain ⟨first, hout, hfirst⟩ := flush_ok (l := l) hpos hlimit h .stdout
  obtain ⟨second, herr, hsecond⟩ := flush_ok (l := l) hpos hlimit hfirst .stderr
  refine ⟨second, hsecond, ?_⟩
  rw [processExited, if_pos hactive, hout]
  simp only [herr]

theorem hasLimit_perform {limit : Nat} (hpos : 1 ≤ limit) (hlimit : limit ≤ Decimal.digitLimit)
    {s : Live σ} (h : s.engine.HasLimit limit) (op : Operation) :
    (s.perform l op).2.engine.HasLimit limit := by
  by_cases hactive : s.engine.isActive = true
  · cases op with
    | chunk stream chunk =>
      obtain ⟨after, hfed, hafter⟩ := feed_ok (l := l) hpos hlimit h stream chunk
      rw [perform, hfed]
      exact hafter
    | exited code =>
      obtain ⟨spoken, hspoken, hexited⟩ := processExited_ok (l := l) hpos hlimit h hactive code
      rw [perform, hexited]
      exact hspoken.congr rfl rfl
    | stop => exact hasLimit_stop h
    | spawnFailed reason =>
      rw [perform, spawnFailed, if_pos hactive]
      exact h.congr rfl rfl
    | readinessTimedOut port timeout =>
      rw [perform, readinessTimedOut, if_pos hactive]
      exact h.congr rfl rfl
  · have hended : s.engine.outcome ≠ none := fun hnone => hactive (Engine.isActive_iff.2 hnone)
    rw [perform_of_ended l hended]
    exact h

theorem hasLimit_performAll {limit : Nat} (hpos : 1 ≤ limit)
    (hlimit : limit ≤ Decimal.digitLimit) {s : Live σ} (h : s.engine.HasLimit limit)
    (ops : List Operation) : (s.performAll l ops).engine.HasLimit limit := by
  induction ops generalizing s with
  | nil => exact h
  | cons op ops ih => exact ih (hasLimit_perform hpos hlimit h op)

end Live

/-- Nothing that a tool prints makes an engine fail. Whatever was done with it before, in whatever
order, and whatever its listener answers, a chunk is taken and an exit is handled: every line that
either of them hands out is within the limit, so that none of its runs of digits is too long for a
number. No record has a negative index, and an exit completes an active run and says so last. -/
theorem output_accepted (l : Listener σ) (heard : σ) (file : Text) (limit : Nat) (hpos : 1 ≤ limit)
    (hlimit : limit ≤ 4300) (ops : List Operation) :
    let s := (⟨Engine.new file limit, (heard, [])⟩ : Live _).performAll l.traced ops
    (∀ stream chunk, (s.feed l.traced stream chunk).1 = .ok () ∧
      ∀ line ∈ ((s.engine.buffer stream).feed chunk).1,
        line.length ≤ limit ∧ FewDigits (normalizedLine line)) ∧
    (∀ stream, ∀ line ∈ (s.engine.buffer stream).flush.1,
      line.length ≤ limit ∧ FewDigits (normalizedLine line)) ∧
    (∀ index, s.engine.table.contains index = true → 0 ≤ index) ∧
    ∀ code, (s.processExited l.traced code).1 = .ok s.engine.isActive ∧
      (s.engine.isActive = true → ∃ ended, s.processExited l.traced code = (.ok true, ended) ∧
        ended.engine.outcome = some .completed ∧ ended.engine.exitCode = some code ∧
        ended.heard.2.getLast? = some (.runComplete code)) := by
  intro s
  have hnew : (Engine.new file limit).HasLimit limit := by
    intro stream
    cases stream <;> rfl
  have hs : s.engine.HasLimit limit := Live.hasLimit_performAll hpos hlimit hnew ops
  have hshort : ∀ {line : Text}, line.length ≤ limit →
      line.length ≤ limit ∧ FewDigits (normalizedLine line) := by
    intro line hline
    refine ⟨hline, FewDigits.of_length_le ?_⟩
    exact Nat.le_trans (length_normalizedLine_le line) (Nat.le_trans hline hlimit)
  refine ⟨fun stream chunk => ⟨?_, fun line hline => ?_⟩, fun stream line hline => ?_,
    fun index hindex => ?_, fun code => ?_⟩
  · obtain ⟨after, hfed, -⟩ := Live.feed_ok (l := l.traced) hpos hlimit hs stream chunk
    rw [hfed]
  · apply hshort
    rw [← hs stream]
    exact LineBuffer.length_le_of_mem_feed (by rw [hs stream]; omega) hline
  · apply hshort
    rw [← hs stream]
    exact LineBuffer.length_le_of_mem_flush (by rw [hs stream]; omega) hline
  · by_contra hneg
    rw [Table.contains, Table.get?_of_neg _ (by omega)] at hindex
    exact absurd hindex (by decide)
  · by_cases hactive : s.engine.isActive = true
    · obtain ⟨spoken, -, hexited⟩ := Live.processExited_ok (l := l.traced) hpos hlimit hs hactive code
      rw [hexited, hactive]
      refine ⟨rfl, fun _ => ⟨_, rfl, rfl, rfl, ?_⟩⟩
      exact List.getLast?_concat
    · refine ⟨?_, fun h => absurd h hactive⟩
      rw [Live.processExited, if_neg hactive, eq_false_of_ne_true hactive]

/-- A number that is longer than the lines of a run may be. -/
theorem output_accepted_cut_number :
    let s := (⟨Engine.new [] 4, ((), [])⟩ : Live _).performAll hasty.traced
      [.chunk .stdout (.text "✓ [".toList), .chunk .stderr (.bytes [0x31, 0x32])]
    1 ≤ 4 ∧ 4 ≤ 4300 ∧
    (s.feed hasty.traced .stdout (.text "123456".toList)).1 = .ok () ∧
    ∃ ended, s.processExited hasty.traced 7 = (.ok true, ended) ∧
      ended.engine.outcome = some .completed ∧ ended.engine.exitCode = some 7 ∧
      ended.heard.2.getLast? = some (.runComplete 7) := by
  intro s
  obtain ⟨hfeed, -, -, hexit⟩ := output_accepted hasty () [] 4 (by decide) (by decide)
    [.chunk .stdout (.text "✓ [".toList), .chunk .stderr (.bytes [0x31, 0x32])]
  have hactive : s.engine.isActive = true := by decide +kernel
  exact ⟨by decide, by decide, (hfeed .stdout _).1, (hexit 7).2 hactive⟩

end ScriptRun.Status
