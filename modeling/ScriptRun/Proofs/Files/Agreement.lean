import ScriptRun.Proofs.Files.Memory
import ScriptRun.Proofs.Files.Names

/-!
# Files in memory stand for files on disk

A caller that reads, writes, extends, looks for and renames files of one directory cannot tell files
in memory from those on disk by an answer, apart from one thing: a text with carriage returns comes
back from disk with unified line ends. The two stores go side by side because each name has the
encoding of its text in memory as its bytes on disk, or neither has it.
-/

namespace ScriptRun.Files

open Text

/-! ### What a caller does and sees -/

/-- The classes of failures that a caller can tell apart. -/
inductive Fault.Kind where
  | absent
  | present
  | noDirectory
  | directory
  | unsuitable
  | undecodable
  | refused
  deriving DecidableEq, Repr

def Fault.kind : Fault → Fault.Kind
  | .missing _ | .system .notFound _ _ => .absent
  | .system .alreadyExists _ _ => .present
  | .system .notDirectory _ _ => .noDirectory
  | .system .isDirectory _ _ => .directory
  | .system .embeddedNull _ _ => .unsuitable
  | .system _ _ _ => .refused
  | .undecodable _ => .undecodable

inductive Answer where
  | text (content : Text)
  | truth (holds : Bool)
  | done
  | failed (kind : Fault.Kind)
  deriving DecidableEq, Repr

def Answer.unified : Answer → Answer
  | .text content => .text (unifyLineEnds content)
  | other => other

def Answer.ofOutcome {σ α : Type} (told : α → Answer) : Except Fault α × σ → Answer × σ
  | (.ok value, s) => (told value, s)
  | (.error fault, s) => (.failed fault.kind, s)

inductive Step where
  | read (name : FileName)
  | write (name : FileName) (content : Text)
  | append (name : FileName) (content : Text)
  | contains (name : FileName)
  | rename (name target : FileName)

/-- The text that a step brings into a store. -/
def Step.written : Step → Text
  | .write _ content | .append _ content => content
  | .read _ | .contains _ | .rename _ _ => []

section

variable {σ : Type} [Store σ]

def Step.run (s : σ) : Step → Answer × σ
  | .read name => Answer.ofOutcome .text ((Store.read name.text).outcome s)
  | .write name content => Answer.ofOutcome (fun _ => .done) ((Store.write name.text content).outcome s)
  | .append name content => Answer.ofOutcome (fun _ => .done) ((Store.append name.text content).outcome s)
  | .contains name => (.truth (Store.contains s name.text), s)
  | .rename name target =>
    Answer.ofOutcome (fun _ => .done) ((Store.rename name.text target.text).outcome s)

def Step.runAll (s : σ) : List Step → List Answer × σ
  | [] => ([], s)
  | step :: rest =>
    let (answer, s) := step.run s
    let (answers, s) := Step.runAll s rest
    (answer :: answers, s)

end

/-! ### The two stores side by side -/

/-- The files on disk are the ones in memory, each with its text encoded. -/
structure Mirrors (m : Memory) (t : Tree) : Prop where
  /-- A name has the bytes of its text, or none in either store. -/
  files : ∀ name : FileName, t.HasFile name ((m.get? name.text).map Utf8.encode)
  /-- Nothing else is on disk. -/
  flat : t.IsFlat
  /-- Nothing else is in memory. -/
  named : ∀ path content, m.get? path = some content → ∃ name : FileName, path = name.text

namespace Mirrors

variable {m : Memory} {t : Tree}

theorem empty : Mirrors {} {} where
  files name := by
    rw [Tree.HasFile, Tree.at?, name.isGiven_place]
    rfl
  flat _ h := absurd h List.not_mem_nil
  named _ _ h := nomatch h

theorem congr {m' : Memory} (h : Mirrors m t) (hsame : ∀ path, m'.get? path = m.get? path) :
    Mirrors m' t where
  files name := by
    rw [hsame]
    exact h.files name
  flat := h.flat
  named path content hcontent := h.named path content (hsame path ▸ hcontent)

theorem put (h : Mirrors m t) (name : FileName) (content : Text) :
    Mirrors (m.set name.text content) (t.put name.place (.file (Utf8.encode content) false)) where
  files other := by
    by_cases hother : name.text = other.text
    · rw [Tree.HasFile, ← hother, ← FileName.place_inj.mpr hother, m.get?_set_self,
        Tree.at?_put_self name.isGiven_place]
      rfl
    · have hplace : other.place ≠ name.place := fun heq => hother (FileName.place_inj.mp heq).symm
      rw [Tree.HasFile, m.get?_set_of_ne content hother, Tree.at?_put_of_ne hplace]
      exact h.files other
  flat := h.flat.put name _
  named path other hpath := by
    by_cases hsame : name.text = path
    · exact ⟨name, hsame.symm⟩
    · rw [m.get?_set_of_ne content hsame] at hpath
      exact h.named path other hpath

theorem moved (h : Mirrors m t) {name target : FileName} {content : Text}
    (hcontent : m.get? name.text = some content) (hne : name.text ≠ target.text) :
    Mirrors ((m.erase name.text).set target.text content) (t.moved name.place target.place) where
  files other := by
    rw [Tree.HasFile, h.flat.at?_moved hne]
    split_ifs with htarget hname
    · rw [htarget, Memory.get?_set_self, h.files name, hcontent]
    · rw [hname, Memory.get?_set_of_ne _ _ hne.symm, m.get?_erase_self]
      rfl
    · rw [Memory.get?_set_of_ne _ _ (Ne.symm htarget), m.get?_erase_of_ne (Ne.symm hname)]
      exact h.files other
  flat := h.flat.moved name target
  named path other hpath := by
    by_cases htarget : target.text = path
    · exact ⟨target, htarget.symm⟩
    · rw [Memory.get?_set_of_ne _ _ htarget] at hpath
      by_cases hname : name.text = path
      · exact ⟨name, hname.symm⟩
      · rw [m.get?_erase_of_ne hname] at hpath
        exact h.named path other hpath

/-! ### One step -/

/-- What the two stores answer to a step, and what they are after it. -/
def Agree (inMemory : Answer × Memory) (onDisk : Answer × Tree) : Prop :=
  onDisk.1 = inMemory.1.unified ∧ Mirrors inMemory.2 onDisk.2

theorem read (h : Mirrors m t) (name : FileName) :
    Agree ((Step.read name).run m) ((Step.read name).run t) := by
  rw [Step.run, Step.run, m.outcome_read, (h.files name).outcome_read]
  cases m.get? name.text with
  | none => exact ⟨rfl, h⟩
  | some content => exact ⟨rfl, h⟩

theorem contains (h : Mirrors m t) (name : FileName) :
    Agree ((Step.contains name).run m) ((Step.contains name).run t) := by
  refine ⟨congrArg Answer.truth ?_, h⟩
  refine (h.files name).contains_eq.trans ?_
  rw [Option.isSome_map]
  rfl

theorem write (h : Mirrors m t) (name : FileName) (content : Text) :
    Agree ((Step.write name content).run m) ((Step.write name content).run t) := by
  have hdisk := (h.files name).outcome_writeText fun _ => Utf8.encode content
  have hrun : (Step.write name content).run t =
      (.done, t.put name.place (.file (Utf8.encode content) false)) :=
    congrArg (Answer.ofOutcome fun _ => .done) hdisk
  rw [hrun]
  exact ⟨rfl, h.put name content⟩

theorem append (h : Mirrors m t) (name : FileName) (content : Text) :
    Agree ((Step.append name content).run m) ((Step.append name content).run t) := by
  have hdisk := (h.files name).outcome_writeText fun old => old ++ Utf8.encode content
  have hbytes : ((m.get? name.text).map Utf8.encode).getD [] ++ Utf8.encode content =
      Utf8.encode ((m.get? name.text).getD [] ++ content) := by
    rw [Utf8.encode_append]
    cases m.get? name.text <;> rfl
  rw [hbytes] at hdisk
  have hrun : (Step.append name content).run t = (.done, t.put name.place
      (.file (Utf8.encode ((m.get? name.text).getD [] ++ content)) false)) :=
    congrArg (Answer.ofOutcome fun _ => .done) hdisk
  rw [hrun]
  exact ⟨rfl, h.put name _⟩

theorem rename (h : Mirrors m t) (name target : FileName) :
    Agree ((Step.rename name target).run m) ((Step.rename name target).run t) := by
  rw [Step.run, Step.run, m.outcome_rename, (h.files name).outcome_rename (h.files target)]
  cases hcontent : m.get? name.text with
  | none => exact ⟨rfl, h⟩
  | some content =>
    by_cases hsame : name.text = target.text
    · rw [if_neg (by simp), if_pos hsame]
      refine ⟨rfl, h.congr ?_⟩
      rw [← hsame]
      exact Memory.get?_set_erase hcontent
    · rw [if_neg (by simp), if_neg hsame]
      exact ⟨rfl, h.moved hcontent hsame⟩

theorem step (h : Mirrors m t) (step : Step) : Agree (step.run m) (step.run t) := by
  cases step with
  | read name => exact h.read name
  | write name content => exact h.write name content
  | append name content => exact h.append name content
  | contains name => exact h.contains name
  | rename name target => exact h.rename name target

/-! ### A whole run -/

theorem run (h : Mirrors m t) (steps : List Step) :
    (Step.runAll t steps).1 = (Step.runAll m steps).1.map Answer.unified ∧
      Mirrors (Step.runAll m steps).2 (Step.runAll t steps).2 := by
  induction steps generalizing m t with
  | nil => exact ⟨rfl, h⟩
  | cons step rest ih =>
    obtain ⟨hanswer, hafter⟩ := h.step step
    obtain ⟨hanswers, hend⟩ := ih hafter
    exact ⟨congrArg₂ List.cons hanswer hanswers, hend⟩

end Mirrors

/-! ### Texts without carriage returns -/

def Memory.IsUnified (m : Memory) : Prop :=
  ∀ path content, m.get? path = some content → '\r' ∉ content

namespace Memory.IsUnified

variable {m : Memory}

theorem set (h : m.IsUnified) (path : Text) {content : Text} (hcontent : '\r' ∉ content) :
    (m.set path content).IsUnified := by
  intro other found hfound
  by_cases hpath : path = other
  · rw [← hpath, m.get?_set_self, Option.some.injEq] at hfound
    exact hfound ▸ hcontent
  · rw [m.get?_set_of_ne _ hpath] at hfound
    exact h other found hfound

theorem erase (h : m.IsUnified) (path : Text) : (m.erase path).IsUnified := by
  intro other found hfound
  by_cases hpath : path = other
  · rw [← hpath, m.get?_erase_self] at hfound
    cases hfound
  · rw [m.get?_erase_of_ne hpath] at hfound
    exact h other found hfound

/-- Such a text is answered alike by both stores, and stays such. -/
theorem step (h : m.IsUnified) {step : Step} (hwritten : '\r' ∉ step.written) :
    (step.run m).1.unified = (step.run m).1 ∧ (step.run m).2.IsUnified := by
  cases step with
  | read name =>
    rw [Step.run, m.outcome_read]
    cases hcontent : m.get? name.text with
    | none => exact ⟨rfl, h⟩
    | some content =>
      exact ⟨congrArg Answer.text (unifyLineEnds_of_not_mem (h _ _ hcontent)), h⟩
  | write name content => exact ⟨rfl, h.set name.text hwritten⟩
  | append name content =>
    refine ⟨rfl, h.set name.text (List.not_mem_append ?_ hwritten)⟩
    cases hold : m.get? name.text with
    | none => exact List.not_mem_nil
    | some old => exact h _ _ hold
  | contains name => exact ⟨rfl, h⟩
  | rename name target =>
    rw [Step.run, m.outcome_rename]
    cases hcontent : m.get? name.text with
    | none => exact ⟨rfl, h⟩
    | some content => exact ⟨rfl, (h.erase name.text).set target.text (h _ _ hcontent)⟩

theorem run (h : m.IsUnified) {steps : List Step} (hwritten : ∀ step ∈ steps, '\r' ∉ step.written) :
    (Step.runAll m steps).1.map Answer.unified = (Step.runAll m steps).1 := by
  induction steps generalizing m with
  | nil => rfl
  | cons step rest ih =>
    obtain ⟨hanswer, hafter⟩ := h.step (hwritten step List.mem_cons_self)
    have hanswers := ih hafter fun other hother => hwritten other (List.mem_cons_of_mem _ hother)
    exact congrArg₂ List.cons hanswer hanswers

end Memory.IsUnified

/-! ### From empty stores on -/

/-- Whatever is done to files of one directory that is empty at first, the files on disk answer as
the files in memory do, except that a text is read from disk with unified line ends, and in the end
the files on disk are those in memory. If no carriage return was written, all answers are the same. -/
theorem stores_agree (steps : List Step) :
    let inMemory := Step.runAll ({} : Memory) steps
    let onDisk := Step.runAll ({} : Tree) steps
    onDisk.1 = inMemory.1.map Answer.unified ∧
      Mirrors inMemory.2 onDisk.2 ∧
      ((∀ step ∈ steps, '\r' ∉ step.written) → onDisk.1 = inMemory.1) := by
  intro inMemory onDisk
  obtain ⟨hanswers, hend⟩ := Mirrors.empty.run steps
  refine ⟨hanswers, hend, fun hwritten => hanswers.trans ?_⟩
  have hnone : ({} : Memory).IsUnified := fun _ _ h => nomatch h
  exact hnone.run hwritten

def draftName : FileName := { text := "a".toList }

def finalName : FileName := { text := "b".toList }

/-- A draft is begun by appending and replaces a file, which is then given its own name. -/
def publication : List Step :=
  [.read draftName, .append draftName "x\n".toList, .append draftName "y".toList,
    .write finalName "old".toList, .rename draftName finalName, .rename finalName finalName,
    .read finalName, .contains draftName, .rename draftName finalName]

theorem stores_agree_on_publication :
    (∀ step ∈ publication, '\r' ∉ step.written) ∧
      (Step.runAll ({} : Tree) publication).1 =
        [.failed .absent, .done, .done, .done, .done, .done, .text "x\ny".toList, .truth false,
          .failed .absent] := by
  have hwritten : ∀ step ∈ publication, '\r' ∉ step.written := by decide
  obtain ⟨-, -, hsame⟩ := stores_agree publication
  exact ⟨hwritten, (hsame hwritten).trans (by decide)⟩

/-- A carriage return before a line feed is read back from memory, but not from disk. -/
theorem return_unified_on_disk :
    let steps : List Step := [.write draftName "x\r\ny".toList, .read draftName]
    (Step.runAll ({} : Memory) steps).1 = [.done, .text "x\r\ny".toList] ∧
      (Step.runAll ({} : Tree) steps).1 = [.done, .text "x\ny".toList] ∧
      (Step.runAll ({} : Tree) steps).1 ≠ (Step.runAll ({} : Memory) steps).1 := by
  decide +kernel

end ScriptRun.Files
