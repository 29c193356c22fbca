import ScriptRun.CommandLine.Scripts
import ScriptRun.Proofs.Text.Decoding
import ScriptRun.Proofs.Text.Lines

/-!
# Scripts with any line ends

A carriage return ends a line of a script, alone or with the line feed after it, and so does the
line feed that a text file is read with in its place. Which of them a script is written with
therefore makes no difference to it: the list of commands that is printed for a file is the one of
the text that was saved to it.
-/

namespace ScriptRun.Text

theorem lines_return {rest : Text} (h : rest.head? ≠ some '\n') :
    lines ('\r' :: rest) = [] :: lines rest := by
  refine (lines.eq_3 '\r' rest fun _ _ hrest => h (by rw [hrest]; rfl)).trans ?_
  exact if_pos (by decide)

/-- A line ends at the same characters after line ends were unified. -/
theorem lines_unifyLineEnds (t : Text) : lines (unifyLineEnds t) = lines t := by
  fun_induction unifyLineEnds t with
  | case1 => rfl
  | case2 rest ih => exact congrArg ([] :: ·) ih
  | case3 rest hrest ih =>
    have hhead : rest.head? ≠ some '\n' := by
      intro hhead
      obtain ⟨more, rfl⟩ := List.head?_eq_some_iff.mp hhead
      exact hrest more rfl
    rw [lines_return hhead, ← ih]
    rfl
  | case4 c rest hpair hreturn ih =>
    have hc : c ≠ '\r' := fun h => hreturn h
    rw [lines.eq_3 c _ fun _ hsame => absurd hsame hc,
      lines.eq_3 c _ fun _ hsame => absurd hsame hc, ih]

end ScriptRun.Text

namespace ScriptRun.Script

open Text

theorem parse_unifyLineEnds (t : Text) : parse (unifyLineEnds t) = parse t := by
  rw [parse, lines_unifyLineEnds, parse]

end ScriptRun.Script

namespace ScriptRun.CommandLine

open Text Script

/-- The world after more was printed. -/
def World.shows (w : World) (t : Text) : World := { w with printed := w.printed ++ t }

theorem World.shows_append (w : World) (s t : Text) : w.shows (s ++ t) = (w.shows s).shows t := by
  rw [shows, shows, shows, List.append_assoc]

theorem run_say (t : Text) (w : World) : (say t).run w = .ok () (w.shows (t ++ ['\n'])) := by
  show EStateM.Result.ok () { w with printed := w.printed ++ t ++ ['\n'] } = _
  rw [World.shows, List.append_assoc]

theorem run_bind_ok {α β : Type} {m : Act α} {f : α → Act β} {w w' : World} {a : α}
    (h : m.run w = .ok a w') : (m >>= f).run w = (f a).run w' := by
  show EStateM.bind m f w = f a w'
  rw [EStateM.bind, show m w = .ok a w' from h]

theorem run_forM_say {α : Type} (shown : α → Text) (items : List α) (w : World) :
    (items.forM fun a => say (shown a)).run w =
      .ok () (w.shows (items.flatMap fun a => shown a ++ ['\n'])) := by
  induction items generalizing w with
  | nil =>
    show EStateM.Result.ok () w = .ok () { w with printed := w.printed ++ [] }
    rw [List.append_nil]
  | cons a items ih =>
    refine (run_bind_ok (run_say (shown a) w)).trans ((ih _).trans ?_)
    rw [← World.shows_append, List.flatMap_cons]

/-- The list of commands as it is printed. -/
def listing (json : Bool) (file : Text) (commands : List Command) : Text :=
  if json then
    Json.text .report
      (.record [("file", .str file), ("commands", .arr (commands.map listedJson))]) ++ ['\n']
  else if commands.isEmpty then "no commands".toList ++ ['\n']
  else commands.flatMap fun c => listedText c ++ ['\n']

theorem run_listCommands {json : Bool} {file t : Text} {w : World}
    (h : scriptText w.tree file = .ok t) :
    (listCommands json file).run w = .ok 0 (w.shows (listing json file (indexText t))) := by
  have hget : (get : Act World).run w = .ok w w := rfl
  rw [listCommands, run_bind_ok hget, h]
  cases json with
  | true => exact run_bind_ok (run_say _ w)
  | false =>
    cases hcommands : indexText t with
    | nil =>
      simp only [hcommands]
      exact run_bind_ok (run_say "no commands".toList w)
    | cons c rest =>
      simp only [hcommands]
      exact run_bind_ok (run_forM_say listedText (c :: rest) w)

theorem scriptText_of_bytes {tree : Files.Tree} {file t : Text}
    (h : tree.bytes file = .ok (Utf8.encode t)) : scriptText tree file = .ok (unifyLineEnds t) := by
  rw [scriptText, h]
  show Except.ok (unifyLineEnds (Utf8.decode (Utf8.encode t))) = _
  rw [Utf8.decode_encode]

/-- A script is read alike with and without unified line ends. So once a text was saved, the list of
commands that is printed for the file is the list of that text, and an index means the same command
in both. -/
theorem saved_script_listed (t : Text) :
    parse (unifyLineEnds t) = parse t ∧
      ∀ (file : Text) (w : World), w.tree.bytes file = .ok (Utf8.encode t) →
        ∃ saved, scriptText w.tree file = .ok saved ∧
          (∀ index, commandWithIndex? saved index = commandWithIndex? t index) ∧
          ∀ json, (listCommands json file).run w =
            .ok 0 (w.shows (listing json file (indexText t))) := by
  refine ⟨parse_unifyLineEnds t, fun file w hfile => ?_⟩
  have hindex : indexText (unifyLineEnds t) = indexText t :=
    congrArg Document.index (parse_unifyLineEnds t)
  refine ⟨unifyLineEnds t, scriptText_of_bytes hfile, fun index => ?_, fun json => ?_⟩
  · exact congrArg (withIndex? index) hindex
  · rw [run_listCommands (scriptText_of_bytes hfile), hindex]

/-- A script with each of the line ends. -/
def mixedScript : Text := "x\r\n---\r- a\r\r\n- b\n".toList

/-- A world with that script and nothing else. -/
def mixedWorld : World where
  tree := ⟨[(["a.yaml".toList], .file (Utf8.encode mixedScript) false)]⟩
  environment := []
  ports := { isFree := fun _ => true, accepts := fun _ => false }

theorem mixed_script_listed :
    mixedWorld.tree.bytes "a.yaml".toList = .ok (Utf8.encode mixedScript) ∧
      (listCommands false "a.yaml".toList).run mixedWorld =
        .ok 0 (mixedWorld.shows "[0] line 3: a\n[1] line 5: b\n".toList) := by
  have hfile : mixedWorld.tree.bytes "a.yaml".toList = .ok (Utf8.encode mixedScript) := by decide
  obtain ⟨-, -, -, hlisted⟩ := (saved_script_listed mixedScript).2 _ mixedWorld hfile
  have hlisting : listing false "a.yaml".toList (indexText mixedScript) =
      "[0] line 3: a\n[1] line 5: b\n".toList := by decide
  exact ⟨hfile, by rw [hlisted false, hlisting]⟩

end ScriptRun.CommandLine
