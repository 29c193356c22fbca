import ScriptRun.Proofs.Files.Growth
import ScriptRun.Proofs.Status.Records

/-!
# The numbers in an event file

A program opens an event file, records what it likes, and may open the file again. The numbers in
the file are told by what became of the steps: a writer takes the next number for every record, also
for one that cannot be written, and after an opening the numbers go on from the last one in the
file. So they always grow, and a number is left out exactly where a record failed and the next one
was written by the same writer. All this needs the last line to be within the end of the file that
is searched when the file is opened; after a longer line the numbers begin again with one.
-/

namespace ScriptRun.Status.EventFile

open Text Files

/-! ### What becomes of the numbers -/

/-- What a step does to an event file. -/
inductive Mark where
  | idle
  | opened
  | written
  | failed
  deriving DecidableEq, Repr

/-- The numbers that are written, if the writer has taken `taken` numbers and `last` is the last one
in the file. -/
def numbering : (taken last : Int) → List Mark → List Int
  | _, _, [] => []
  | taken, last, .idle :: rest => numbering taken last rest
  | _, last, .opened :: rest => numbering last last rest
  | taken, _, .written :: rest => (taken + 1) :: numbering (taken + 1) (taken + 1) rest
  | taken, last, .failed :: rest => numbering (taken + 1) last rest

/-- Whether no writer writes a record after one that failed. The argument tells whether the writer
has failed since its last record. -/
def isGapless : Bool → List Mark → Bool
  | _, [] => true
  | failed, .idle :: rest => isGapless failed rest
  | _, .opened :: rest => isGapless false rest
  | failed, .written :: rest => !failed && isGapless false rest
  | _, .failed :: rest => isGapless true rest

/-- A count of numbers after a number. -/
def following (last : Int) (count : Nat) : List Int :=
  (List.range count).map fun i : Nat => last + 1 + i

theorem length_numbering (taken last : Int) (marks : List Mark) :
    (numbering taken last marks).length = marks.count .written := by
  fun_induction numbering taken last marks <;> simp_all

theorem following_succ (last : Int) (count : Nat) :
    following last (count + 1) = (last + 1) :: following (last + 1) count := by
  rw [following, List.range_succ_eq_map, List.map_cons, List.map_map, following]
  refine congrArg₂ List.cons (by simp) (List.map_congr_left fun i _ => ?_)
  simp only [Function.comp_apply]
  omega

/-- The numbers that are written are beyond the last one, and grow. -/
theorem numbering_pairwise {taken last : Int} (h : last ≤ taken) (marks : List Mark) :
    (∀ n ∈ numbering taken last marks, last < n) ∧
      (numbering taken last marks).Pairwise (· < ·) := by
  fun_induction numbering taken last marks with
  | case1 => simp
  | case2 taken last rest ih => exact ih h
  | case3 taken last rest ih => exact ih (Int.le_refl last)
  | case4 last taken rest ih =>
    obtain ⟨hbeyond, hgrow⟩ := ih (Int.le_refl _)
    refine ⟨List.forall_mem_cons.mpr ⟨by omega, fun n hn => ?_⟩,
      List.pairwise_cons.mpr ⟨hbeyond, hgrow⟩⟩
    have := hbeyond n hn
    omega
  | case5 taken last rest ih => exact ih (by omega)

/-- No number is left out exactly if no writer goes on after a failure. -/
theorem numbering_eq_following_iff {taken last : Int} (h : last ≤ taken) (marks : List Mark) :
    numbering taken last marks = following last (marks.count .written) ↔
      isGapless (last != taken) marks = true := by
  fun_induction numbering taken last marks with
  | case1 => exact iff_of_true rfl rfl
  | case2 taken last rest ih => simpa [isGapless] using ih h
  | case3 taken last rest ih => simpa [isGapless] using ih (Int.le_refl last)
  | case4 last taken rest ih =>
    have hrest := ih (Int.le_refl _)
    rw [List.count_cons_self, following_succ, List.cons.injEq, isGapless, Bool.and_eq_true]
    by_cases heq : last = taken
    · subst heq
      simpa using hrest
    · have hne : taken + 1 ≠ last + 1 := by omega
      simp [heq, hne]
  | case5 taken last rest ih =>
    have hfailed : (last != taken + 1) = true := by
      rw [bne_iff_ne]
      omega
    have hrest := ih (by omega)
    rw [hfailed] at hrest
    simpa [isGapless] using hrest

-- A record that failed leaves its number out, unless the file is opened before the next one.
example : numbering 0 0 [.opened, .written, .failed, .written, .failed, .opened, .written] =
    [1, 3, 4] := rfl

/-! ### Writing and opening -/

/-- The writer after it has taken the next number. -/
def next (f : EventFile) : EventFile := { f with sequence := f.sequence + 1 }

/-- What becomes of a record: it stands at the end of the file with the next number, or the files
are as before. -/
inductive Emits (f : EventFile) (t : Files.Tree) : Except Fault Int × EventFile × Files.Tree → Prop
  | written {line : List UInt8} {t' : Files.Tree} : StaysOnLine line →
    numberOf line = some (.int f.next.sequence) →
    t'.bytes f.path = .ok (t.content (Tree.placeOf f.path) ++ (line ++ [10])) →
    Emits f t (.ok f.next.sequence, f.next, t')
  | failed (fault : Fault) : Emits f t (.error fault, f.next, t)

theorem emits_emit (f : EventFile) (now : Time.Moment) (type level : Text) (data : Json)
    (t : Files.Tree) : Emits f t (f.emit now type level data t) := by
  rw [emit]
  dsimp only
  split_ifs with hwritable
  · split
    · rename_i t' hstore
      refine .written (staysOnLine_recordBytes _) (numberOf_recordBytes hwritable) ?_
      rw [Tree.bytes_store hstore, encode_recordLine]
      rfl
    · exact .failed _
  · exact .failed _

theorem emit_of_store {f : EventFile} {now : Time.Moment} {type level : Text} {data : Json}
    {t t' : Files.Tree} (hwritable : isWritable (f.next.payload now type level data) = true)
    (hstore : t.store f.path (· ++ (recordBytes (f.next.payload now type level data) ++ [10])) =
      .ok t') : f.emit now type level data t = (.ok f.next.sequence, f.next, t') := by
  rw [← encode_recordLine] at hstore
  simp only [next] at hwritable hstore ⊢
  rw [emit]
  dsimp only
  rw [if_pos hwritable, hstore]

/-- What becomes of an opening: the file goes on from the number in its last line if it can be read,
and from zero if not. -/
inductive Opens (path : Text) (t : Files.Tree) : Except Fault EventFile × Files.Tree → Prop
  | unread {f : EventFile} {t' : Files.Tree} : t.Grows t' → f.path = path → f.sequence = 0 →
    (∀ content, t'.bytes path ≠ .ok content) → Opens path t (.ok f, t')
  | read {f : EventFile} {t' : Files.Tree} {content : List UInt8} : t.Grows t' → f.path = path →
    t'.bytes path = .ok content → lastSequence content = .ok f.sequence → Opens path t (.ok f, t')
  | failed {t' : Files.Tree} (fault : Fault) : t.Grows t' → Opens path t (.error fault, t')

theorem opens_openAt (path : Text) (keepsLogLines : Bool) (t : Files.Tree) :
    Opens path t (openAt path keepsLogLines t) := by
  have hgrows := Tree.grows_ensureDirectory (directoryOf path) t
  rw [openAt]
  generalize (Tree.ensureDirectory (directoryOf path)).outcome t = made at hgrows ⊢
  obtain ⟨fault | made, t'⟩ := made
  · exact .failed _ hgrows
  · rw [resume]
    cases hbytes : t'.bytes path with
    | error cause => exact .unread hgrows rfl rfl (by simp [hbytes])
    | ok content =>
      dsimp only
      cases hlast : lastSequence content with
      | error fault => exact .failed _ hgrows
      | ok sequence => exact .read hgrows rfl hbytes hlast

/-- Whether an event is recorded. -/
def records (f : EventFile) : Event → Bool
  | .logLine .. => f.keepsLogLines
  | _ => true

/-- What becomes of an event: its record is tried, or nothing happens. -/
inductive Observes (f : EventFile) (t : Files.Tree) (recorded : Bool) :
    Except Fault Unit × EventFile × Files.Tree → Prop
  | written {n : Int} {f' : EventFile} {t' : Files.Tree} : recorded = true →
    Emits f t (.ok n, f', t') → Observes f t recorded (.ok (), f', t')
  | failed {fault : Fault} {f' : EventFile} {t' : Files.Tree} : recorded = true →
    Emits f t (.error fault, f', t') → Observes f t recorded (.error fault, f', t')
  | ignored : recorded = false → Observes f t recorded (.ok (), f, t)

theorem observe_of_records {f : EventFile} {event : Event} (h : f.records event = true)
    (now : Time.Moment) (t : Files.Tree) :
    f.observe now event t =
      Prod.map (Except.map fun _ => ()) id (f.emit now event.type (level event) event.data t) := by
  rw [observe.eq_def]
  generalize f.emit now event.type (level event) event.data t = result
  obtain ⟨fault | n, f', t'⟩ := result
  all_goals
    cases event
    case logLine =>
      have hkeeps : f.keepsLogLines = true := h
      rw [hkeeps]
      rfl
    all_goals rfl

theorem observe_of_not_records {f : EventFile} {event : Event} (h : f.records event = false)
    (now : Time.Moment) (t : Files.Tree) : f.observe now event t = (.ok (), f, t) := by
  cases event
  case logLine =>
    have hkeeps : f.keepsLogLines = false := h
    rw [observe.eq_def, hkeeps]
  all_goals cases h

theorem observes_observe (f : EventFile) (now : Time.Moment) (event : Event) (t : Files.Tree) :
    Observes f t (f.records event) (f.observe now event t) := by
  cases hrecorded : f.records event with
  | true =>
    have hemits := emits_emit f now event.type (level event) event.data t
    rw [observe_of_records hrecorded]
    generalize f.emit now event.type (level event) event.data t = result at hemits ⊢
    obtain ⟨fault | n, f', t'⟩ := result
    · exact .failed rfl hemits
    · exact .written rfl hemits
  | false =>
    rw [observe_of_not_records hrecorded]
    exact .ignored rfl

/-! ### One step -/

inductive Step where
  | opened (keepsLogLines : Bool)
  | emitted (type level : Text) (data : Json)
  | observed (event : Event)
  | named (session : Option Text)
  | advanced (now : Time.Moment)

/-- A program with its event file: the files, the time, and the writer, once there is one. -/
structure Recording where
  tree : Files.Tree
  now : Time.Moment
  writer : Option EventFile := none

namespace Recording

/-- After an opening. One that fails leaves the writer that there is. -/
def afterOpening (r : Recording) : Except Fault EventFile × Files.Tree → Recording × Mark
  | (.ok f, tree) => ({ r with tree, writer := some f }, .opened)
  | (.error _, tree) => ({ r with tree }, .idle)

/-- After the writer was told to record something; the mark is for the case that nothing failed. -/
def afterRecord {α : Type} (r : Recording) (done : Mark) :
    Except Fault α × EventFile × Files.Tree → Recording × Mark
  | (.ok _, f, tree) => ({ r with tree, writer := some f }, done)
  | (.error _, f, tree) => ({ r with tree, writer := some f }, .failed)

/-- A step, and what it does to the file at a path. Without a writer nothing is recorded. -/
def perform (path : Text) (r : Recording) : Step → Recording × Mark
  | .opened keepsLogLines => r.afterOpening (openAt path keepsLogLines r.tree)
  | .emitted type level data =>
    match r.writer with
    | none => (r, .idle)
    | some f => r.afterRecord .written (f.emit r.now type level data r.tree)
  | .observed event =>
    match r.writer with
    | none => (r, .idle)
    | some f =>
      r.afterRecord (if f.records event then .written else .idle) (f.observe r.now event r.tree)
  | .named session => ({ r with writer := r.writer.map ({ · with session }) }, .idle)
  | .advanced now => ({ r with now }, .idle)

def performAll (path : Text) : Recording → List Step → Recording × List Mark
  | r, [] => (r, [])
  | r, step :: rest =>
    let (next, mark) := r.perform path step
    let (final, marks) := performAll path next rest
    (final, mark :: marks)

def content (r : Recording) (path : Text) : List UInt8 := r.tree.content (Tree.placeOf path)

/-- The last line of the event file is within the end that is searched for it. -/
def LastLineFits (r : Recording) (path : Text) : Prop :=
  ∀ line ∈ (byteLines (r.content path)).getLast?, line.length < tailSize

/-- The last line is so whenever the file is opened. -/
def LastLinesFit (path : Text) : Recording → List Step → Prop
  | _, [] => True
  | r, step :: rest =>
    (∀ keepsLogLines, step = .opened keepsLogLines → r.LastLineFits path) ∧
      LastLinesFit path (r.perform path step).1 rest

/-- How many numbers the writer has taken. -/
def taken (r : Recording) : Int := (r.writer.map (·.sequence)).getD 0

/-- The event file shows these numbers, and the writer, if there is one, writes to it. -/
structure Shows (path : Text) (r : Recording) (numbers : List Int) : Prop where
  lines : ∃ lines, r.content path = joined lines ∧ (∀ line ∈ lines, StaysOnLine line) ∧
    lines.map numberOf = numbers.map fun n => some (.int n)
  readable : r.content path = [] ∨ r.tree.bytes path = .ok (r.content path)
  writes : ∀ f ∈ r.writer, f.path = path

/-- The number at the end of the file; zero if there is none. -/
def lastOf (numbers : List Int) : Int := numbers.getLast?.getD 0

/-- What a step with a mark makes of the numbers of the file and of the number that the writer has
taken. -/
inductive Advances (path : Text) (r : Recording) (numbers : List Int) : Recording × Mark → Prop
  | idle {r' : Recording} : r'.Shows path numbers → r'.taken = r.taken →
    Advances path r numbers (r', .idle)
  | opened {r' : Recording} : r'.Shows path numbers → r'.taken = lastOf numbers →
    Advances path r numbers (r', .opened)
  | written {r' : Recording} : r'.Shows path (numbers ++ [r.taken + 1]) → r'.taken = r.taken + 1 →
    Advances path r numbers (r', .written)
  | failed {r' : Recording} : r'.Shows path numbers → r'.taken = r.taken + 1 →
    Advances path r numbers (r', .failed)

variable {path : Text} {r : Recording} {numbers : List Int}

theorem Shows.emits (h : r.Shows path numbers) {f f' : EventFile} (hf : r.writer = some f)
    {outcome : Except Fault Int} {tree : Files.Tree} (hemits : Emits f r.tree (outcome, f', tree)) :
    Advances path r numbers
      ({ r with tree, writer := some f' }, if outcome.isOk then .written else .failed) := by
  have hpath := h.writes f hf
  have htaken : f.next.sequence = r.taken + 1 := by rw [taken, hf]; rfl
  have hwrites : ∀ g ∈ some f.next, g.path = path := by
    rintro g hg
    rw [← Option.some.inj hg]
    exact hpath
  cases hemits with
  | @written line _ hline hnumber hbytes =>
    obtain ⟨lines, hlines, hstays, hnumbers⟩ := h.lines
    rw [hpath] at hbytes
    have hcontent := Tree.content_of_bytes hbytes
    refine .written ⟨⟨lines ++ [line], ?_, ?_, ?_⟩, .inr ?_, hwrites⟩ htaken
    · rw [joined_append_singleton, ← hlines]
      exact hcontent
    · exact List.forall_mem_append.mpr ⟨hstays, by simpa using hline⟩
    · simp only [List.map_append, List.map_cons, List.map_nil, hnumbers, hnumber, htaken]
    · rw [content, hcontent]
      exact hbytes
  | failed fault => exact .failed ⟨h.lines, h.readable, hwrites⟩ htaken

theorem lastSequence_lastOf {lines : List (List UInt8)}
    (hstays : ∀ line ∈ lines, StaysOnLine line)
    (hnumbers : lines.map numberOf = numbers.map fun n => some (.int n))
    (hfits : ∀ line ∈ lines.getLast?, line.length < tailSize) :
    lastSequence (joined lines) = .ok (lastOf numbers) := by
  obtain rfl | ⟨lines, line, rfl⟩ := List.eq_nil_or_concat' lines
  · obtain rfl : numbers = [] := by simpa using hnumbers.symm
    rfl
  · obtain rfl | ⟨numbers, n, rfl⟩ := List.eq_nil_or_concat' numbers
    · simp at hnumbers
    · simp only [List.map_append, List.map_cons, List.map_nil] at hnumbers
      obtain ⟨-, hnumber⟩ := List.append_inj' hnumbers rfl
      have hlast : lastOf (numbers ++ [n]) = n := by simp [lastOf]
      rw [hlast]
      exact lastSequence_joined (hstays line (by simp)) (hfits line (by simp))
        (List.cons.inj hnumber).1

/-- Directories that are made change nothing in the file. -/
theorem Shows.grows (h : r.Shows path numbers) {tree : Files.Tree} (hgrows : r.tree.Grows tree)
    {writer : Option EventFile} (hwriter : ∀ f ∈ writer, f.path = path) :
    Shows path { r with tree, writer } numbers := by
  have hcontent : Recording.content { r with tree, writer } path = r.content path :=
    hgrows.content_eq _
  refine ⟨?_, ?_, hwriter⟩
  · rw [hcontent]
    exact h.lines
  · rw [hcontent]
    exact h.readable.imp_right hgrows.bytes_eq

theorem Shows.opens (h : r.Shows path numbers) (hfits : r.LastLineFits path) {f : EventFile}
    {tree : Files.Tree} (hopens : Opens path r.tree (.ok f, tree)) :
    Advances path r numbers ({ r with tree, writer := some f }, .opened) := by
  obtain ⟨lines, hlines, hstays, hnumbers⟩ := h.lines
  rw [LastLineFits, hlines, byteLines_joined hstays] at hfits
  have hlast := lastSequence_lastOf hstays hnumbers hfits
  rw [← hlines] at hlast
  have hwrites : f.path = path → ∀ g ∈ some f, g.path = path := by
    rintro hpath g hg
    rwa [← Option.some.inj hg]
  cases hopens with
  | unread hgrows hpath hzero hunread =>
    refine .opened (h.grows hgrows (hwrites hpath)) (hzero.trans ?_)
    -- a file with records can be read, so this one has none
    obtain hempty | hbytes := h.readable
    · rw [hempty] at hlast
      exact Except.ok.inj hlast
    · exact absurd (hgrows.bytes_eq hbytes) (hunread _)
  | @read _ _ content hgrows hpath hbytes hsequence =>
    refine .opened (h.grows hgrows (hwrites hpath)) ?_
    have hcontent : r.content path = content := by
      rw [Recording.content, ← hgrows.content_eq, Tree.content_of_bytes hbytes]
    rw [hcontent, hsequence] at hlast
    exact Except.ok.inj hlast

/-- What a step does to the numbers is told by its mark. -/
theorem Shows.perform (h : r.Shows path numbers) (step : Step)
    (hfits : ∀ keepsLogLines, step = .opened keepsLogLines → r.LastLineFits path) :
    Advances path r numbers (r.perform path step) := by
  cases step with
  | opened keepsLogLines =>
    have hopens := opens_openAt path keepsLogLines r.tree
    rw [Recording.perform]
    generalize openAt path keepsLogLines r.tree = result at hopens ⊢
    obtain ⟨fault | f, tree⟩ := result
    · cases hopens with
      | failed _ hgrows => exact .idle (h.grows hgrows h.writes) rfl
    · exact h.opens (hfits keepsLogLines rfl) hopens
  | emitted type level data =>
    rw [Recording.perform]
    cases hf : r.writer with
    | none => exact .idle h rfl
    | some f =>
      dsimp only
      have hemits := emits_emit f r.now type level data r.tree
      generalize f.emit r.now type level data r.tree = result at hemits ⊢
      obtain ⟨fault | n, f', tree⟩ := result
      · exact h.emits hf hemits
      · exact h.emits hf hemits
  | observed event =>
    rw [Recording.perform]
    cases hf : r.writer with
    | none => exact .idle h rfl
    | some f =>
      dsimp only
      have hobserves := observes_observe f r.now event r.tree
      generalize f.observe r.now event r.tree = result at hobserves ⊢
      cases hobserves with
      | written hrecorded hemits =>
        rw [if_pos hrecorded]
        exact h.emits hf hemits
      | failed hrecorded hemits => exact h.emits hf hemits
      | ignored hrecorded =>
        rw [if_neg (by simp [hrecorded])]
        refine .idle ⟨h.lines, h.readable, fun g hg => h.writes g (hf ▸ hg)⟩ ?_
        rw [taken, taken, hf]
  | named session =>
    refine .idle ⟨h.lines, h.readable, fun g hg => ?_⟩ ?_
    · obtain ⟨f, hf, rfl⟩ := Option.map_eq_some_iff.mp hg
      exact h.writes f hf
    · rw [taken, taken, Option.map_map]
      rfl
  | advanced now => exact .idle ⟨h.lines, h.readable, h.writes⟩ rfl

/-- What a run does to the numbers is told by its marks. -/
theorem Shows.performAll (h : r.Shows path numbers) (steps : List Step)
    (hfits : LastLinesFit path r steps) :
    (performAll path r steps).1.Shows path
      (numbers ++ numbering r.taken (lastOf numbers) (performAll path r steps).2) := by
  induction steps generalizing r numbers with
  | nil => simpa [Recording.performAll, numbering] using h
  | cons step rest ih =>
    obtain ⟨hstep, hrest⟩ := hfits
    have hadvances := h.perform step hstep
    rw [Recording.performAll]
    generalize r.perform path step = result at hadvances hrest ⊢
    cases hadvances with
    | @idle next hshows htaken =>
      have hnumbers := ih hshows hrest
      rw [htaken] at hnumbers
      exact hnumbers
    | @opened next hshows htaken =>
      have hnumbers := ih hshows hrest
      rw [htaken] at hnumbers
      exact hnumbers
    | @written next hshows htaken =>
      have hnumbers := ih hshows hrest
      have hlast : lastOf (numbers ++ [r.taken + 1]) = r.taken + 1 := by simp [lastOf]
      rw [htaken, hlast, List.append_assoc] at hnumbers
      exact hnumbers
    | @failed next hshows htaken =>
      have hnumbers := ih hshows hrest
      rw [htaken] at hnumbers
      exact hnumbers

end Recording

/-! ### A whole run -/

/-- The numbers in an event file that a program starts are the ones that its steps tell: one for
every record that was written, always growing, and `1, 2, …` exactly if no writer goes on after a
failure. -/
theorem numbers_of_run (path : Text) (t : Files.Tree) (now : Time.Moment) (steps : List Step)
    (hnew : t.content (Tree.placeOf path) = [])
    (hfits : Recording.LastLinesFit path { tree := t, now } steps) :
    let run := Recording.performAll path { tree := t, now } steps
    let numbers := numbering 0 0 run.2
    (byteLines (run.1.content path)).map numberOf = numbers.map (fun n => some (.int n)) ∧
      numbers.length = run.2.count .written ∧
      numbers.Pairwise (· < ·) ∧
      (numbers = following 0 numbers.length ↔ isGapless false run.2 = true) := by
  intro run numbers
  have hstart : Recording.Shows path { tree := t, now } [] :=
    ⟨⟨[], hnew, by simp, rfl⟩, .inl hnew, by simp⟩
  obtain ⟨lines, hlines, hstays, hnumbers⟩ := (hstart.performAll steps hfits).lines
  refine ⟨?_, length_numbering 0 0 run.2, (numbering_pairwise (Int.le_refl 0) run.2).2, ?_⟩
  · rw [hlines, byteLines_joined hstays]
    exact hnumbers
  · rw [length_numbering]
    exact numbering_eq_following_iff (Int.le_refl 0) run.2

/-! ### A file that is opened again -/

def localPath : Text := "events.jsonl".toList

def holding (bytes : List UInt8) : Files.Tree := { nodes := [([localPath], .file bytes false)] }

def newYear : Time.Moment := .ofCivil { year := 2025, month := 1, day := 1 }

/-- A record is written, the file is opened again, and another record is written. -/
def reopening (data : Json) : List Step :=
  [.opened false, .emitted ['t'] "info".toList data,
    .opened false, .emitted ['t'] "info".toList .null]

def localRecord (sequence : Int) (data : Json) : List UInt8 :=
  recordBytes (payload { path := localPath, sequence } newYear ['t'] "info".toList data)

theorem perform_emitted {f : EventFile} (hf : f.path = localPath) {t t' : Files.Tree} {data : Json}
    (hwritable : isWritable (f.next.payload newYear ['t'] "info".toList data) = true)
    (hstore : t.store localPath
      (· ++ (recordBytes (f.next.payload newYear ['t'] "info".toList data) ++ [10])) = .ok t') :
    Recording.perform localPath { tree := t, now := newYear, writer := some f }
        (.emitted ['t'] "info".toList data) =
      ({ tree := t', now := newYear, writer := some f.next }, .written) := by
  rw [Recording.perform]
  dsimp only
  rw [emit_of_store hwritable (by rw [hf]; exact hstore)]
  rfl

theorem staysOnLine_localRecord (sequence : Int) (data : Json) :
    StaysOnLine (localRecord sequence data) := staysOnLine_recordBytes _

theorem content_holding (bytes : List UInt8) (now : Time.Moment) (writer : Option EventFile) :
    Recording.content { tree := holding bytes, now, writer } localPath = bytes := rfl

theorem store_holding (lines : List (List UInt8)) (line : List UInt8) :
    (holding (joined lines)).store localPath (· ++ (line ++ [10])) =
      .ok (holding (joined (lines ++ [line]))) := by
  rw [joined_append_singleton]
  rfl

theorem openAt_holding {bytes : List UInt8} {n : Int} (hlast : lastSequence bytes = .ok n) :
    openAt localPath false (holding bytes) =
      (.ok { path := localPath, sequence := n }, holding bytes) := by
  have hopen : openAt localPath false (holding bytes) =
    resume localPath false (.ok (), holding bytes) := rfl
  have hbytes : (holding bytes).bytes localPath = .ok bytes := rfl
  rw [hopen, resume, hbytes]
  dsimp only
  rw [hlast]

section Reopening

variable {data : Json}
  (hwritable : isWritable (payload { path := localPath, sequence := 1 } newYear ['t']
    "info".toList data) = true)
include hwritable

theorem perform_first :
    Recording.perform localPath
        (Recording.perform localPath { tree := {}, now := newYear } (.opened false)).1
        (.emitted ['t'] "info".toList data) =
      ({ tree := holding (joined [localRecord 1 data]), now := newYear
         writer := some ({ path := localPath } : EventFile).next }, .written) := by
  have hopened : Recording.perform localPath { tree := {}, now := newYear } (.opened false) =
      ({ tree := {}, now := newYear, writer := some { path := localPath } }, .opened) := rfl
  have hstore : ({} : Files.Tree).store localPath (· ++ (localRecord 1 data ++ [10])) =
      .ok (holding (joined [localRecord 1 data])) := by
    rw [joined, List.flatMap_singleton]
    rfl
  rw [hopened]
  exact perform_emitted (f := { path := localPath }) rfl hwritable hstore

/-- The second record gets the number after the one that is found in the file. -/
theorem performAll_reopening {n : Int}
    (hnext : isWritable (payload { path := localPath, sequence := n + 1 } newYear ['t']
      "info".toList .null) = true)
    (hlast : lastSequence (joined [localRecord 1 data]) = .ok n) :
    Recording.performAll localPath { tree := {}, now := newYear } (reopening data) =
      ({ tree := holding (joined [localRecord 1 data, localRecord (n + 1) .null])
         now := newYear, writer := some { path := localPath, sequence := n + 1 } },
        [.opened, .written, .opened, .written]) := by
  have hreopened : Recording.perform localPath
      { tree := holding (joined [localRecord 1 data]), now := newYear
        writer := some ({ path := localPath } : EventFile).next } (.opened false) =
      ({ tree := holding (joined [localRecord 1 data]), now := newYear
         writer := some { path := localPath, sequence := n } }, .opened) := by
    rw [Recording.perform, openAt_holding hlast]
    rfl
  have hsecond := perform_emitted (f := { path := localPath, sequence := n }) rfl hnext
    (store_holding [localRecord 1 data] (localRecord (n + 1) .null))
  simp only [reopening, Recording.performAll, perform_first hwritable, hreopened, hsecond]
  rfl

theorem lastLinesFit_reopening (hlength : (localRecord 1 data).length < tailSize) :
    Recording.LastLinesFit localPath { tree := {}, now := newYear } (reopening data) := by
  refine ⟨fun _ _ => ?_, nofun, fun _ _ => ?_, nofun, trivial⟩
  · have hempty : byteLines (Recording.content { tree := {}, now := newYear } localPath) = [] := rfl
    simp [Recording.LastLineFits, hempty]
  · rw [perform_first hwritable, Recording.LastLineFits, content_holding,
      byteLines_joined (by simp [staysOnLine_localRecord])]
    simpa using hlength

end Reopening

theorem numbers_of_run_reopening :
    let run := Recording.performAll localPath { tree := {}, now := newYear } (reopening .null)
    ({} : Files.Tree).content (Tree.placeOf localPath) = [] ∧
      Recording.LastLinesFit localPath { tree := {}, now := newYear } (reopening .null) ∧
      (byteLines (run.1.content localPath)).map numberOf = [some (.int 1), some (.int 2)] := by
  have hwritable : isWritable (payload { path := localPath, sequence := 1 } newYear ['t']
      "info".toList .null) = true := by decide +kernel
  have hlength : (localRecord 1 .null).length < tailSize := by
    rw [localRecord, recordBytes, text_payload]
    decide +kernel
  have hfits := lastLinesFit_reopening hwritable hlength
  have hlast : lastSequence (joined ([] ++ [localRecord 1 .null])) = .ok 1 :=
    lastSequence_joined (staysOnLine_localRecord 1 .null) hlength (numberOf_recordBytes hwritable)
  have hrun := performAll_reopening hwritable (by decide +kernel) hlast
  have hnumbers := (numbers_of_run localPath {} newYear (reopening .null) rfl hfits).1
  rw [hrun] at hnumbers ⊢
  exact ⟨rfl, hfits, hnumbers⟩

theorem numbers_begin_again :
    let run := Recording.performAll localPath { tree := {}, now := newYear }
      (reopening (letters 5000))
    run.2.count .written = 2 ∧
      (byteLines (run.1.content localPath)).map numberOf = [some (.int 1), some (.int 1)] := by
  intro run
  have hwritable : isWritable (payload { path := localPath, sequence := 1 } newYear ['t']
      "info".toList (letters 5000)) = true := by decide +kernel
  have hnext : isWritable (payload { path := localPath, sequence := 0 + 1 } newYear ['t']
      "info".toList .null) = true := by decide +kernel
  have hlast : lastSequence (joined [localRecord 1 (letters 5000)]) = .ok 0 := by
    rw [joined, List.flatMap_singleton]
    exact lastSequence_letters (by decide +kernel) (by decide +kernel)
  have hrun : run = _ := performAll_reopening hwritable hnext hlast
  rw [hrun]
  refine ⟨rfl, ?_⟩
  rw [content_holding, byteLines_joined (by simp [staysOnLine_localRecord]), List.map_cons,
    List.map_singleton, localRecord, localRecord, numberOf_recordBytes hwritable,
    numberOf_recordBytes hnext]
  rfl

end ScriptRun.Status.EventFile
