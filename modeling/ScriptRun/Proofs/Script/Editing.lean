import ScriptRun.Proofs.Script.Numbering

/-!
# How an inserted line moves the commands

Indices are positions among the command lines, so a line that is put into a script moves exactly the
commands below it: by one line, and by one index if the new line is a command line. In the header
nothing but line numbers moves. Both hold as long as the command region keeps its beginning, that
is, unless the new line is the first separator (`commands_insert`).
-/

namespace ScriptRun.Script

open Text

/-! ### Where the command region begins -/

theorem separatorLine?_append (above below : List Text) :
    separatorLine? (above ++ below) =
      (separatorLine? above).or ((separatorLine? below).map (· + above.length)) :=
  List.findIdx?_append

theorem separatorLine?_cons_of_ne {line : Text} (h : trim line ≠ separator) (below : List Text) :
    separatorLine? (line :: below) = (separatorLine? below).map (· + 1) := by
  rw [separatorLine?, List.findIdx?_cons, if_neg (by simpa using h), separatorLine?]

theorem lt_of_separatorLine?_eq_some {lines : List Text} {n : Nat}
    (h : separatorLine? lines = some n) : n < lines.length := by
  obtain ⟨above, line, below, rfl, rfl, -, -⟩ := exists_of_separatorLine?_eq_some h
  simp

theorem commandStart_ofLines_of_eq_some {lines : List Text} {n : Nat}
    (h : separatorLine? lines = some n) : (ofLines lines).commandStart = n + 1 := by
  rw [Document.commandStart, ofLines]
  simp only [h]

theorem commands_ofLines (lines : List Text) :
    (ofLines lines).commands = commands lines (ofLines lines).commandStart := rfl

/-- Two scripts with a separator on the same line, or both with none. -/
theorem commandStart_congr {lines others : List Text}
    (h : separatorLine? lines = separatorLine? others) :
    (ofLines lines).commandStart = (ofLines others).commandStart := by
  rw [Document.commandStart, Document.commandStart, ofLines, ofLines]
  simp only [h]

/-- A line in the command region is not the first separator, unless there was none before. -/
theorem separatorLine?_insert_below {above below : List Text} {line : Text}
    (hstart : (ofLines (above ++ below)).commandStart ≤ above.length)
    (hline : (separatorLine? (above ++ below)).isSome ∨ trim line ≠ separator) :
    separatorLine? (above ++ line :: below) = separatorLine? (above ++ below) := by
  cases habove : separatorLine? above with
  | some n =>
    rw [separatorLine?_append, separatorLine?_append, habove, Option.some_or, Option.some_or]
  | none =>
    rcases hfound : separatorLine? (above ++ below) with _ | n
    · rw [hfound] at hline
      have hne : trim line ≠ separator := hline.resolve_left (by simp)
      rw [separatorLine?_append, habove, Option.none_or, Option.map_eq_none_iff] at hfound
      rw [separatorLine?_append, habove, Option.none_or, separatorLine?_cons_of_ne hne, hfound]
      rfl
    · -- the separator would stand below the position, and the region begin after it
      rw [commandStart_ofLines_of_eq_some hfound] at hstart
      rw [separatorLine?_append, habove, Option.none_or, Option.map_eq_some_iff] at hfound
      obtain ⟨m, -, rfl⟩ := hfound
      omega

theorem separatorLine?_insert_above {above below : List Text} {line : Text} {n : Nat}
    (hfound : separatorLine? (above ++ below) = some n) (hn : above.length ≤ n)
    (hne : trim line ≠ separator) :
    separatorLine? (above ++ line :: below) = some (n + 1) := by
  have habove : separatorLine? above = none := by
    refine Option.eq_none_iff_forall_ne_some.2 fun m hm => ?_
    rw [separatorLine?_append, hm, Option.some_or, Option.some.injEq] at hfound
    have := lt_of_separatorLine?_eq_some hm
    omega
  rw [separatorLine?_append, habove, Option.none_or] at hfound ⊢
  rw [separatorLine?_cons_of_ne hne]
  obtain ⟨m, hm, hsum⟩ := Option.map_eq_some_iff.1 hfound
  rw [hm, Option.map_some, Option.map_some, Option.some.injEq]
  omega

/-! ### The commands of the edited lines -/

/-- The commands of two parts of a script, if the command region begins in the first part. -/
theorem commands_append {above below : List Text} {start : Nat} (h : start ≤ above.length) :
    commands (above ++ below) start =
      commands above start ++
        commandsFrom ((commands above start).length) above.length below := by
  have hnumber : (start : Int) + ((above.drop start).length : Int) = above.length := by
    rw [List.length_drop]
    omega
  rw [commands, List.drop_append_of_le_length h, commandsFrom_append, hnumber, commands,
    length_commandsFrom, Nat.zero_add]

theorem filter_lt_commands {above below : List Text} {start : Nat} (h : start ≤ above.length) :
    (commands (above ++ below) start).filter (fun c => c.lineNumber < (above.length : Int)) =
      commands above start := by
  rw [commands_append h, List.filter_append, List.filter_eq_self.2, List.filter_eq_nil_iff.2,
    List.append_nil]
  · intro c hc
    have := (lineNumber_of_mem hc).1
    simpa using this
  · intro c hc
    obtain ⟨hge, hlt⟩ := lineNumber_of_mem hc
    rw [List.length_drop] at hlt
    simpa using by omega

theorem filter_le_commands {above below : List Text} {start : Nat} (h : start ≤ above.length) :
    (commands (above ++ below) start).filter (fun c => (above.length : Int) ≤ c.lineNumber) =
      commandsFrom ((commands above start).length) above.length below := by
  rw [commands_append h, List.filter_append, List.filter_eq_nil_iff.2, List.nil_append,
    List.filter_eq_self.2]
  · intro c hc
    have := (lineNumber_of_mem hc).1
    simpa using this
  · intro c hc
    obtain ⟨hge, hlt⟩ := lineNumber_of_mem hc
    rw [List.length_drop] at hlt
    simpa using by omega

/-- A line in the command region. -/
theorem commands_insert_below {above below : List Text} {start : Nat} (h : start ≤ above.length)
    (line : Text) :
    commands (above ++ line :: below) start =
      commands above start ++
        ((commandName? line).map fun name =>
          (⟨(commands above start).length, above.length, line, name⟩ : Command)).toList ++
        (commandsFrom ((commands above start).length) above.length below).map
          (Command.raised (if isCommandLine line then 1 else 0) 1) := by
  rw [commands_append h, commandsFrom_cons, commandsFrom_add, List.append_assoc]

/-- A line above the command region. -/
theorem commands_insert_above {above below : List Text} {start : Nat} (h : above.length ≤ start)
    (line : Text) :
    commands (above ++ line :: below) (start + 1) =
      (commands (above ++ below) start).map (Command.raised 0 1) := by
  have hdrop : (above ++ line :: below).drop (start + 1) = (above ++ below).drop start := by
    rw [List.drop_append, List.drop_append, List.drop_eq_nil_of_le h,
      List.drop_eq_nil_of_le (Nat.le_succ_of_le h), Nat.succ_sub h, List.drop_succ_cons]
  rw [commands, commands, hdrop, ← commandsFrom_add, Int.natCast_succ]

/-! ### Lines as text -/

/-- The text of lines that each end in a line feed. -/
def ended (lines : List Text) : Text := lines.flatMap (· ++ ['\n'])

theorem lines_append_lineFeed {line : Text} (h : ∀ c ∈ line, isLineEnd c = false) (rest : Text) :
    Text.lines (line ++ '\n' :: rest) = line :: Text.lines rest := by
  induction line with
  | nil => rfl
  | cons c line ih =>
    have hc := h c List.mem_cons_self
    have hreturn : c ≠ '\r' := by
      rintro rfl
      exact absurd hc (by decide)
    have hrest := ih fun other hother => h other (List.mem_cons_of_mem c hother)
    rw [List.cons_append, Text.lines.eq_3 _ _ fun _ hsame => absurd hsame hreturn, hc, hrest]
    rfl

theorem lines_ended {lines : List Text} (h : ∀ line ∈ lines, ∀ c ∈ line, isLineEnd c = false) :
    Text.lines (ended lines) = lines := by
  induction lines with
  | nil => rfl
  | cons line rest ih =>
    rw [ended, List.flatMap_cons, ← ended, List.append_assoc, List.singleton_append,
      lines_append_lineFeed (h line List.mem_cons_self),
      ih fun other hother => h other (List.mem_cons_of_mem line hother)]

theorem parse_ended {lines : List Text} (h : ∀ line ∈ lines, ∀ c ∈ line, isLineEnd c = false) :
    parse (ended lines) = ofLines lines := by
  rw [parse, lines_ended h]

/-- A line is put between the lines `above` and `below` of a script. In the command region, unless
it becomes the first separator, it leaves the commands above it as they are and moves those below it
by one line, and by one index if it is a command line itself; then it is a new command whose index
is the number of those above it. In the header, unless it is a separator, it moves all commands by
one line. Taking it out again gives the script as it was. The lines may be given as a text. -/
theorem commands_insert (above below : List Text) (line : Text) :
    let script := ofLines (above ++ below)
    let edited := ofLines (above ++ line :: below)
    let position := above.length
    let older := script.commands.filter (fun c => c.lineNumber < (position : Int))
    let later := script.commands.filter (fun c => (position : Int) ≤ c.lineNumber)
    (script.commandStart ≤ position → script.hasSeparator ∨ trim line ≠ separator →
      edited.separatorLine = script.separatorLine ∧
      edited.commands =
        older ++
          ((commandName? line).map fun name =>
            (⟨older.length, position, line, name⟩ : Command)).toList ++
          later.map fun c =>
            { c with
              index := c.index + if isCommandLine line then 1 else 0
              lineNumber := c.lineNumber + 1 }) ∧
    (∀ n, script.separatorLine = some n → position ≤ n → trim line ≠ separator →
      edited.separatorLine = some (n + 1) ∧
      edited.commands = script.commands.map fun c => { c with lineNumber := c.lineNumber + 1 }) ∧
    ofLines ((above ++ line :: below).eraseIdx position) = script ∧
    ((∀ other ∈ above ++ line :: below, ∀ c ∈ other, isLineEnd c = false) →
      parse (ended (above ++ below)) = script ∧ parse (ended (above ++ line :: below)) = edited) := by
  intro script edited position older later
  refine ⟨fun hstart hline => ?_, fun n hfound hn hne => ?_, ?_, fun hends => ⟨?_, ?_⟩⟩
  · have hseparator := separatorLine?_insert_below hstart hline
    have hkept := commandStart_congr hseparator
    refine ⟨hseparator, ?_⟩
    have holder : older = commands above script.commandStart := filter_lt_commands hstart
    have hlater : later = commandsFrom ((commands above script.commandStart).length) above.length
      below := filter_le_commands hstart
    rw [commands_ofLines, hkept, commands_insert_below hstart, holder, hlater]
    rfl
  · have hseparator := separatorLine?_insert_above hfound hn hne
    refine ⟨hseparator, ?_⟩
    rw [commands_ofLines, commandStart_ofLines_of_eq_some hseparator,
      commands_insert_above (Nat.le_succ_of_le hn), commands_ofLines,
      commandStart_ofLines_of_eq_some hfound]
    rfl
  · rw [List.eraseIdx_append_of_length_le (Nat.le_refl _), Nat.sub_self, List.eraseIdx_cons_zero]
  · refine parse_ended fun other hother => hends other ?_
    rcases List.mem_append.1 hother with h | h
    · exact List.mem_append_left _ h
    · exact List.mem_append_right _ (List.mem_cons_of_mem line h)
  · exact parse_ended hends

/-- A command line put between two others, and a line put into the header above them. -/
theorem commands_insert_between :
    let header := "app: demo".toList
    let launch := "- launchApp".toList
    let back := "  - back".toList
    let script := ofLines ([header, separator, launch] ++ [back])
    script.commands = [⟨0, 2, launch, "launchApp".toList⟩, ⟨1, 3, back, "back".toList⟩] ∧
    (ofLines ([header, separator, launch] ++ "-tapOn: OK".toList :: [back])).commands =
      [⟨0, 2, launch, "launchApp".toList⟩, ⟨1, 3, "-tapOn: OK".toList, "tapOn".toList⟩,
        ⟨2, 4, back, "back".toList⟩] ∧
    (ofLines ([header] ++ "- tags".toList :: [separator, launch, back])).commands =
      [⟨0, 3, launch, "launchApp".toList⟩, ⟨1, 4, back, "back".toList⟩] := by
  intro header launch back script
  have hscript : script.commands =
      [⟨0, 2, launch, "launchApp".toList⟩, ⟨1, 3, back, "back".toList⟩] := by decide +kernel
  obtain ⟨hregion, -⟩ := commands_insert [header, separator, launch] [back] "-tapOn: OK".toList
  obtain ⟨-, hheader, -⟩ := commands_insert [header] [separator, launch, back] "- tags".toList
  obtain ⟨-, hbelow⟩ := hregion (by decide +kernel) (Or.inl (by decide +kernel))
  obtain ⟨-, habove⟩ := hheader 1 (by decide +kernel) (by decide) (by decide +kernel)
  refine ⟨hscript, ?_, ?_⟩
  · rw [hbelow]
    show ((script.commands.filter _) ++ _ ++ (script.commands.filter _).map _) = _
    rw [hscript]
    decide +kernel
  · rw [habove]
    show script.commands.map _ = _
    rw [hscript]
    rfl

end ScriptRun.Script
