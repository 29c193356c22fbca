import ScriptRun.Proofs.Json.FieldOrder
import ScriptRun.Proofs.Status.Sequence

/-!
# Records are appended

What a writer records comes to the end of its file, one line for each record, and what was there
stays. Nothing in a record ends a line, so the lines of the file are the old ones and then the
records in order, and from the line of a record it is read back up to the order of its fields. All a
record of plain data can fail by is a number with too many digits.
-/

namespace ScriptRun.Status.EventFile

open Text Files

/-! ### Records of plain data -/

/-- What a step asks a writer to record: a type, a level and data. -/
def Step.request? (f : EventFile) : Step → Option (Text × Text × Json)
  | .emitted type level data => some (type, level, data)
  | .observed event =>
    if f.records event then some (event.type, EventFile.level event, event.data) else none
  | .opened _ | .named _ | .advanced _ => none

/-- Whether the data that a step brings are plain. -/
def Step.IsPlain : Step → Prop
  | .emitted _ _ data => data.IsPlain
  | .observed event => event.data.IsPlain
  | .opened _ | .named _ | .advanced _ => True

def Step.isOpening : Step → Bool
  | .opened _ => true
  | .emitted .. | .observed _ | .named _ | .advanced _ => false

theorem isPlain_ofText? (text : Option Text) : (Json.ofText? text).IsPlain := by
  cases text with
  | none => exact .null
  | some t => exact .str t

/-- A record of plain data is plain if its number can be written. -/
theorem isPlain_payload {f : EventFile} {data : Json} (hdata : data.IsPlain)
    (hnumber : Decimal.isWritable f.sequence = true) (now : Time.Moment) (type level : Text) :
    (f.payload now type level data).IsPlain := by
  have hshown : (if data.truthy then data else .obj []).IsPlain := by
    split
    · exact hdata
    · exact .obj List.nodup_nil (fun _ h => absurd h List.not_mem_nil)
  have hnames : ["schema_version".toList, "sequence".toList, "timestamp".toList, "type".toList,
      "level".toList, "session_id".toList, "data".toList].Nodup := by decide
  rw [payload, Json.record]
  refine .obj (by simpa only [List.map_cons, List.map_nil] using hnames) fun field hfield => ?_
  simp only [List.map_cons, List.map_nil, List.mem_cons, List.not_mem_nil, or_false] at hfield
  obtain rfl | rfl | rfl | rfl | rfl | rfl | rfl := hfield
  · exact .int (by decide +kernel)
  · exact .int hnumber
  · exact .str _
  · exact .str _
  · exact .str _
  · exact isPlain_ofText? _
  · exact hshown

theorem isWritable_sequence {f : EventFile} {now : Time.Moment} {type level : Text} {data : Json}
    (h : isWritable (f.payload now type level data) = true) :
    Decimal.isWritable f.sequence = true := by
  rw [payload, Json.record, Json.isWritable_obj] at h
  exact (isWritable.eq_1 _).symm.trans (h ("sequence".toList, .int f.sequence) (by simp))

/-! ### Lines -/

/-- A record stays on its line, as text and as bytes. -/
theorem staysOnLine_text (record : Json) : ∀ c ∈ record.text .record, c ≠ '\n' ∧ c ≠ '\r' := by
  intro c hc
  have hlow := Json.hasNoControl_render 0 record c hc
  constructor <;> rintro rfl <;> exact absurd hlow (by decide)

/-- From the line of a plain record it is read back. -/
theorem read?_recordBytes {record : Json} (h : record.IsPlain) :
    ∃ value, Json.read? (Utf8.decode (recordBytes record)) = some value ∧ value.Alike record := by
  refine ⟨record.settled, ?_, Json.alike_settled h⟩
  rw [recordBytes, Utf8.decode_encode, Json.read?_text h.isWritable]

theorem byteLines_append_joined {before : List UInt8}
    (hbefore : before = [] ∨ before.getLast? = some 10) {lines : List (List UInt8)}
    (hlines : ∀ line ∈ lines, StaysOnLine line) :
    byteLines (before ++ joined lines) = byteLines before ++ lines := by
  rw [byteLines_append (endsLine_of_feed hbefore _), byteLines_joined hlines]

/-! ### One record -/

section Emitting

variable {f : EventFile} {t : Files.Tree} (now : Time.Moment) (type level : Text) (data : Json)

theorem emit_of_isWritable (hfile : t.IsStorable f.path)
    (hwritable : isWritable (f.next.payload now type level data) = true) :
    ∃ t', f.emit now type level data t = (.ok f.next.sequence, f.next, t') ∧
      t'.bytes f.path = .ok (t.content (Tree.placeOf f.path) ++
        joined [recordBytes (f.next.payload now type level data)]) := by
  obtain ⟨t', hstore⟩ := hfile
    (· ++ (recordBytes (f.next.payload now type level data) ++ [10]))
  refine ⟨t', emit_of_store hwritable hstore, ?_⟩
  rw [Tree.bytes_store hstore, joined, List.flatMap_singleton]

theorem emit_of_not_isWritable
    (hwritable : isWritable (f.next.payload now type level data) = false) :
    f.emit now type level data t = (.error .unwritable, f.next, t) := by
  rw [next] at hwritable
  rw [emit]
  dsimp only
  rw [hwritable]
  rfl

end Emitting

/-! ### Steps -/

namespace Recording

/-- The record that a step asks for, whether or not it can be written. -/
def asked (r : Recording) (step : Step) : Option Json :=
  r.writer.bind fun f => (step.request? f).map fun (type, level, data) =>
    f.next.payload r.now type level data

/-- The records that steps ask for, in order. -/
def requests (path : Text) : Recording → List Step → List Json
  | _, [] => []
  | r, step :: rest => (r.asked step).toList ++ requests path (r.perform path step).1 rest

/-- A writer writes to the file at a path, and nothing is in its way. -/
structure Writes (path : Text) (r : Recording) (f : EventFile) : Prop where
  writer : r.writer = some f
  samePath : f.path = path
  storable : r.tree.IsStorable path

/-- The writer goes on writing to the file, and these records have come to its end. -/
structure Adds (path : Text) (r : Recording) (f : EventFile) (records : List Json)
    (r' : Recording) : Prop where
  writes : ∃ g, r'.Writes path g ∧ g.keepsLogLines = f.keepsLogLines
  content : r'.content path = r.content path ++ joined (records.map recordBytes)

variable {path : Text} {r r' r'' : Recording} {f : EventFile}

theorem afterRecord_fst {α : Type} (r : Recording) (done : Mark)
    (result : Except Fault α × EventFile × Files.Tree) :
    (r.afterRecord done result).1 = { r with tree := result.2.2, writer := some result.2.1 } := by
  obtain ⟨_ | _, f, t⟩ := result <;> rfl

theorem Writes.adds_nil (h : r.Writes path f) {g : EventFile} (hwriter : r'.writer = some g)
    (hpath : g.path = f.path) (hkeeps : g.keepsLogLines = f.keepsLogLines)
    (htree : r'.tree = r.tree) : Adds path r f [] r' := by
  refine ⟨⟨g, ⟨hwriter, hpath.trans h.samePath, htree ▸ h.storable⟩, hkeeps⟩, ?_⟩
  rw [content, content, htree]
  exact (List.append_nil _).symm

theorem Writes.adds_emit (h : r.Writes path f) (type level : Text) (data : Json) :
    let result := f.emit r.now type level data r.tree
    Adds path r f ([f.next.payload r.now type level data].filter isWritable)
      { r with tree := result.2.2, writer := some result.2.1 } := by
  obtain ⟨hwriter, rfl, hfile⟩ := h
  intro result
  cases hwritable : isWritable (f.next.payload r.now type level data) with
  | true =>
    obtain ⟨t', hemitted, hbytes⟩ := emit_of_isWritable r.now type level data hfile hwritable
    have hresult : result = (.ok f.next.sequence, f.next, t') := hemitted
    rw [hresult, List.filter_cons_of_pos hwritable, List.filter_nil]
    exact ⟨⟨f.next, ⟨rfl, rfl, Tree.isStorable_of_bytes hbytes⟩, rfl⟩, Tree.content_of_bytes hbytes⟩
  | false =>
    have hresult : result = (.error .unwritable, f.next, r.tree) :=
      emit_of_not_isWritable r.now type level data hwritable
    rw [hresult, List.filter_cons_of_neg (by simp [hwritable]), List.filter_nil]
    exact Writes.adds_nil ⟨hwriter, rfl, hfile⟩ rfl rfl rfl rfl

/-- One step adds the record that it asks for, if that can be written. -/
theorem Writes.adds_perform (h : r.Writes path f) {step : Step} (hstep : step.isOpening = false) :
    Adds path r f ((r.asked step).toList.filter isWritable) (r.perform path step).1 := by
  have hwriter := h.writer
  cases step with
  | opened keepsLogLines => exact absurd hstep (by simp [Step.isOpening])
  | emitted type level data =>
    rw [asked, hwriter, Recording.perform, hwriter]
    dsimp only
    rw [afterRecord_fst]
    exact h.adds_emit type level data
  | observed event =>
    rw [asked, hwriter, Recording.perform, hwriter]
    dsimp only
    rw [afterRecord_fst, Option.bind_some, Step.request?]
    cases hrecords : f.records event with
    | true =>
      rw [observe_of_records hrecords, if_pos rfl, Option.map_some, Option.toList_some,
        Prod.map_snd, id]
      exact h.adds_emit event.type (level event) event.data
    | false =>
      rw [observe_of_not_records hrecords, if_neg Bool.false_ne_true, Option.map_none,
        Option.toList_none, List.filter_nil]
      exact h.adds_nil rfl rfl rfl rfl
  | named session =>
    rw [asked, hwriter]
    exact h.adds_nil (congrArg (Option.map _) hwriter) rfl rfl rfl
  | advanced now =>
    rw [asked, hwriter]
    exact h.adds_nil hwriter rfl rfl rfl

theorem Adds.trans {records more : List Json} (h : Adds path r f records r') {g : EventFile}
    (hkeeps : g.keepsLogLines = f.keepsLogLines) (h' : Adds path r' g more r'') :
    Adds path r f (records ++ more) r'' := by
  obtain ⟨⟨g', hwrites, hsame⟩, hcontent⟩ := h'
  refine ⟨⟨g', hwrites, hsame.trans hkeeps⟩, ?_⟩
  rw [hcontent, h.content, List.map_append, joined, joined, joined, List.flatMap_append,
    List.append_assoc]

/-- Steps add the records that they ask for, as far as these can be written. -/
theorem Writes.adds_performAll (h : r.Writes path f) {steps : List Step}
    (hsteps : ∀ step ∈ steps, step.isOpening = false) :
    Adds path r f ((requests path r steps).filter isWritable) (performAll path r steps).1 := by
  induction steps generalizing r f with
  | nil => exact h.adds_nil h.writer rfl rfl rfl
  | cons step rest ih =>
    obtain ⟨hstep, hrest⟩ := List.forall_mem_cons.mp hsteps
    have hfirst := h.adds_perform hstep
    obtain ⟨g, hwrites, hkeeps⟩ := hfirst.writes
    rw [requests, List.filter_append]
    exact hfirst.trans hkeeps (ih hwrites hrest)

/-- A record that plain data ask for is plain, if it can be written at all. -/
theorem plain_of_asked {step : Step} (hstep : step.IsPlain) {record : Json}
    (hrecord : r.asked step = some record) (hwritable : isWritable record = true) :
    record.IsPlain := by
  obtain ⟨g, -, hasked⟩ := Option.bind_eq_some_iff.mp hrecord
  obtain ⟨⟨type, level, data⟩, hrequest, rfl⟩ := Option.map_eq_some_iff.mp hasked
  have hdata : data.IsPlain := by
    cases step with
    | emitted type' level' data' =>
      obtain ⟨-, -, rfl⟩ : type' = type ∧ level' = level ∧ data' = data := by
        simpa [Step.request?] using hrequest
      exact hstep
    | observed event =>
      obtain ⟨-, -, -, rfl⟩ : g.records event = true ∧ event.type = type ∧
          EventFile.level event = level ∧ event.data = data := by
        simpa [Step.request?] using hrequest
      exact hstep
    | opened keepsLogLines => exact absurd hrequest (by simp [Step.request?])
    | named session => exact absurd hrequest (by simp [Step.request?])
    | advanced now => exact absurd hrequest (by simp [Step.request?])
  exact isPlain_payload hdata (isWritable_sequence hwritable) _ _ _

theorem plain_of_requests {steps : List Step} (hsteps : ∀ step ∈ steps, step.IsPlain) :
    ∀ record ∈ (requests path r steps).filter isWritable, record.IsPlain := by
  induction steps generalizing r with
  | nil => exact fun _ h => absurd h List.not_mem_nil
  | cons step rest ih =>
    obtain ⟨hstep, hrest⟩ := List.forall_mem_cons.mp hsteps
    intro record hrecord
    rw [requests, List.filter_append, List.mem_append] at hrecord
    rcases hrecord with hfirst | hmore
    · obtain ⟨hasked, hwritable⟩ := List.mem_filter.mp hfirst
      exact plain_of_asked hstep (Option.mem_toList.mp hasked) hwritable
    · exact ih hrest record hmore

/-- What a writer is told next is added, if the data are plain and the next number can be written.
-/
theorem Writes.next (h : r.Writes path f) (hnumber : Decimal.isWritable f.next.sequence = true) :
    (∀ type level data, data.IsPlain → ∃ t',
      f.emit r.now type level data r.tree = (.ok f.next.sequence, f.next, t') ∧
      t'.content (Tree.placeOf path) =
        r.content path ++ joined [recordBytes (f.next.payload r.now type level data)]) ∧
    ∀ event, f.records event = true → event.data.IsPlain → ∃ t',
      f.observe r.now event r.tree = (.ok (), f.next, t') ∧
      t'.content (Tree.placeOf path) = r.content path ++
        joined [recordBytes (f.next.payload r.now event.type (level event) event.data)] := by
  obtain ⟨-, rfl, hfile⟩ := h
  have hemit : ∀ (type level : Text) (data : Json), data.IsPlain → ∃ t',
      f.emit r.now type level data r.tree = (.ok f.next.sequence, f.next, t') ∧
      t'.content (Tree.placeOf f.path) =
        r.content f.path ++ joined [recordBytes (f.next.payload r.now type level data)] := by
    intro type level data hdata
    obtain ⟨t', hemitted, hbytes⟩ := emit_of_isWritable r.now type level data hfile
      (isPlain_payload hdata hnumber r.now type level).isWritable
    exact ⟨t', hemitted, Tree.content_of_bytes hbytes⟩
  refine ⟨hemit, fun event hrecords hdata => ?_⟩
  obtain ⟨t', hemitted, hcontent⟩ := hemit event.type (level event) event.data hdata
  refine ⟨t', ?_, hcontent⟩
  rw [observe_of_records hrecords, hemitted]
  rfl

end Recording

/-- A writer only appends. After it was told to record plain data and events of plain data, its file
is what it was and then one line for each record, in order; no record holds a line end, and each is
read back from its line up to the order of its fields. At any time the next record is added if its
number can be written; a line of output is recorded only if that is wanted, and any other event
always. -/
theorem records_appended {r : Recording} {f : EventFile} (hwriter : r.writer = some f)
    (hfile : r.tree.IsStorable f.path)
    (hbefore : r.content f.path = [] ∨ (r.content f.path).getLast? = some 10) {steps : List Step}
    (hsteps : ∀ step ∈ steps, step.isOpening = false) (hplain : ∀ step ∈ steps, step.IsPlain) :
    let run := (Recording.performAll f.path r steps).1
    let records := (Recording.requests f.path r steps).filter isWritable
    run.content f.path = r.content f.path ++ joined (records.map recordBytes) ∧
    byteLines (run.content f.path) = byteLines (r.content f.path) ++ records.map recordBytes ∧
    (∀ record ∈ records, (∀ c ∈ record.text .record, c ≠ '\n' ∧ c ≠ '\r') ∧
      ∃ value, Json.read? (Utf8.decode (recordBytes record)) = some value ∧ value.Alike record) ∧
    ∃ g, run.writer = some g ∧
      (∀ event, g.records event = false ↔
        f.keepsLogLines = false ∧ ∃ stream text, event = .logLine stream text) ∧
      (∀ event, g.records event = false →
        g.observe run.now event run.tree = (.ok (), g, run.tree)) ∧
      (Decimal.isWritable g.next.sequence = true →
        (∀ type level data, data.IsPlain → ∃ t',
          g.emit run.now type level data run.tree = (.ok g.next.sequence, g.next, t') ∧
          t'.content (Tree.placeOf f.path) = run.content f.path ++
            joined [recordBytes (g.next.payload run.now type level data)]) ∧
        ∀ event, g.records event = true → event.data.IsPlain → ∃ t',
          g.observe run.now event run.tree = (.ok (), g.next, t') ∧
          t'.content (Tree.placeOf f.path) = run.content f.path ++
            joined [recordBytes (g.next.payload run.now event.type (level event) event.data)]) := by
  intro run records
  have hwrites : r.Writes f.path f := ⟨hwriter, rfl, hfile⟩
  obtain ⟨⟨g, hafter, hkeeps⟩, hcontent⟩ := hwrites.adds_performAll hsteps
  have hlines : ∀ line ∈ records.map recordBytes, StaysOnLine line := by
    intro line hline
    obtain ⟨record, -, rfl⟩ := List.mem_map.mp hline
    exact staysOnLine_recordBytes record
  refine ⟨hcontent, ?_, fun record hrecord => ⟨staysOnLine_text record, ?_⟩, g, hafter.writer,
    fun event => ?_, fun event hrecords => observe_of_not_records hrecords _ _, hafter.next⟩
  · rw [hcontent]
    exact byteLines_append_joined hbefore hlines
  · exact read?_recordBytes (Recording.plain_of_requests hplain record hrecord)
  · rw [← hkeeps]
    cases event <;> simp [EventFile.records]

/-- Data that a careless writer would break a line with. -/
def brokenText : Json :=
  .record [("text", .str ['a', '\r', '\n', '"', '\\', '\x00', '\u2028', 'é']), ("count", .int (-7))]

theorem isPlain_brokenText : brokenText.IsPlain := by
  refine .obj (by decide) fun field hfield => ?_
  simp only [List.map_cons, List.map_nil, List.mem_cons, List.not_mem_nil, or_false] at hfield
  obtain rfl | rfl := hfield
  · exact .str _
  · exact .int (by decide +kernel)

theorem records_appended_brokenText :
    let f : EventFile := { path := localPath, sequence := 4 }
    let r : Recording := { tree := holding [123, 125, 10], now := newYear, writer := some f }
    let steps : List Step :=
      [.observed (.logLine "stdout".toList ['x']), .emitted ['t'] "info".toList brokenText]
    let record := f.next.payload newYear ['t'] "info".toList brokenText
    let run := (Recording.performAll localPath r steps).1
    r.tree.IsStorable localPath ∧ (r.content localPath).getLast? = some 10 ∧
      (∀ step ∈ steps, step.isOpening = false) ∧ (∀ step ∈ steps, step.IsPlain) ∧
      byteLines (run.content localPath) = [[123, 125], recordBytes record] ∧
      ∃ value, Json.read? (Utf8.decode (recordBytes record)) = some value ∧ value.Alike record := by
  intro f r steps record run
  have hbytes : r.tree.bytes localPath = .ok [123, 125, 10] := rfl
  have hfile : r.tree.IsStorable localPath := Tree.isStorable_of_bytes hbytes
  have hsteps : ∀ step ∈ steps, step.isOpening = false := by simp [steps, Step.isOpening]
  have hplain : ∀ step ∈ steps, step.IsPlain := by
    refine List.forall_mem_cons.mpr ⟨?_, List.forall_mem_singleton.mpr isPlain_brokenText⟩
    refine .obj (by decide) fun field hfield => ?_
    simp only [List.map_cons, List.map_nil, List.mem_cons, List.not_mem_nil, or_false] at hfield
    obtain rfl | rfl := hfield <;> exact .str _
  have hrecords : (Recording.requests localPath r steps).filter isWritable = [record] := by
    have hasked : Recording.requests localPath r steps = [record] := rfl
    rw [hasked]
    exact List.filter_cons_of_pos (show isWritable record = true by decide +kernel)
  obtain ⟨-, hlines, hread, -⟩ :=
    records_appended (f := f) (r := r) rfl hfile (.inr rfl) hsteps hplain
  rw [show f.path = localPath from rfl, hrecords] at hlines hread
  exact ⟨hfile, rfl, hsteps, hplain, hlines, (hread record List.mem_cons_self).2⟩

end ScriptRun.Status.EventFile
