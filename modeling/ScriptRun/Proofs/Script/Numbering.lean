import Mathlib.Data.List.Nodup
import ScriptRun.Script.Document

/-!
# Command indices and command lines

The commands of a script stand in the order of their lines, each once, and are numbered without
gaps. So an index and a line number each single out a command, and both look-ups find it
(`lookups_invert_indexText`).

A list of lines is indexed by a recursion that carries the next index and the next line number. What
it gives for two parts of a list, and for other numbers to begin with, is said once
(`commandsFrom_append`, `commandsFrom_add`); facts on edits of a script rest on these two as well.
-/

namespace ScriptRun.Script

open Text

def isCommandLine (line : Text) : Bool := (commandName? line).isSome

/-- A command with other numbers: its index and its line number are raised. -/
def Command.raised (index : Nat) (lineNumber : Int) (c : Command) : Command :=
  { c with index := c.index + index, lineNumber := c.lineNumber + lineNumber }

/-! ### The recursion over the lines -/

theorem commandsFrom_cons (index : Nat) (lineNumber : Int) (line : Text) (rest : List Text) :
    commandsFrom index lineNumber (line :: rest) =
      ((commandName? line).map fun name => (⟨index, lineNumber, line, name⟩ : Command)).toList ++
        commandsFrom (index + if isCommandLine line then 1 else 0) (lineNumber + 1) rest := by
  rw [commandsFrom, isCommandLine]
  cases commandName? line with
  | none => rfl
  | some name => rfl

theorem length_commandsFrom (index : Nat) (lineNumber : Int) (lines : List Text) :
    (commandsFrom index lineNumber lines).length = lines.countP isCommandLine := by
  induction lines generalizing index lineNumber with
  | nil => rfl
  | cons line rest ih =>
    rw [commandsFrom_cons, List.length_append, ih, List.countP_cons, isCommandLine]
    cases commandName? line with
    | none => simp
    | some name => simp [Nat.add_comm]

theorem commandsFrom_append (index : Nat) (lineNumber : Int) (lines more : List Text) :
    commandsFrom index lineNumber (lines ++ more) =
      commandsFrom index lineNumber lines ++
        commandsFrom (index + lines.countP isCommandLine) (lineNumber + lines.length) more := by
  induction lines generalizing index lineNumber with
  | nil => simp [commandsFrom]
  | cons line rest ih =>
    have hindex : index + (if isCommandLine line then 1 else 0) + rest.countP isCommandLine =
        index + (line :: rest).countP isCommandLine := by
      rw [List.countP_cons]
      omega
    have hnumber : lineNumber + 1 + (rest.length : Int) =
        lineNumber + ((line :: rest).length : Int) := by
      rw [List.length_cons]
      omega
    rw [List.cons_append, commandsFrom_cons, ih, hindex, hnumber, commandsFrom_cons,
      List.append_assoc]

theorem commandsFrom_add (index raise : Nat) (lineNumber further : Int) (lines : List Text) :
    commandsFrom (index + raise) (lineNumber + further) lines =
      (commandsFrom index lineNumber lines).map (Command.raised raise further) := by
  induction lines generalizing index lineNumber with
  | nil => rfl
  | cons line rest ih =>
    have hindex : index + raise + (if isCommandLine line then 1 else 0) =
        index + (if isCommandLine line then 1 else 0) + raise := by omega
    have hnumber : lineNumber + further + 1 = lineNumber + 1 + further := by omega
    rw [commandsFrom_cons, commandsFrom_cons, List.map_append, hindex, hnumber, ih]
    cases commandName? line with
    | none => rfl
    | some name => rfl

/-- The commands are the command lines, each with its own number and with the number of command
lines before it. -/
theorem mem_commandsFrom_iff {index : Nat} {lineNumber : Int} {lines : List Text} {c : Command} :
    c ∈ commandsFrom index lineNumber lines ↔
      ∃ k : Nat, lines[k]? = some c.line ∧ commandName? c.line = some c.name ∧
        c.lineNumber = lineNumber + k ∧ c.index = index + (lines.take k).countP isCommandLine := by
  induction lines generalizing index lineNumber with
  | nil => simp [commandsFrom]
  | cons line rest ih =>
    rw [commandsFrom_cons, List.mem_append, ih]
    constructor
    · rintro (hhead | ⟨k, hline, hname, hnumber, hindex⟩)
      · obtain ⟨name, hname, rfl⟩ := Option.map_eq_some_iff.1 (Option.mem_toList.1 hhead)
        exact ⟨0, rfl, hname, by simp, by simp⟩
      · refine ⟨k + 1, hline, hname, by omega, ?_⟩
        rw [hindex, List.take_succ_cons, List.countP_cons]
        omega
    · rintro ⟨k, hline, hname, hnumber, hindex⟩
      cases k with
      | zero =>
        left
        obtain rfl : line = c.line := by simpa using hline
        obtain ⟨i, n, line, name⟩ := c
        obtain rfl : n = lineNumber := by simpa using hnumber
        obtain rfl : i = index := hindex
        simp [hname]
      | succ k =>
        right
        refine ⟨k, hline, hname, by omega, ?_⟩
        rw [hindex, List.take_succ_cons, List.countP_cons]
        omega

theorem lineNumber_of_mem {index : Nat} {lineNumber : Int} {lines : List Text} {c : Command}
    (h : c ∈ commandsFrom index lineNumber lines) :
    lineNumber ≤ c.lineNumber ∧ c.lineNumber < lineNumber + lines.length := by
  obtain ⟨k, hline, -, hnumber, -⟩ := mem_commandsFrom_iff.1 h
  have hlt := (List.getElem?_eq_some_iff.1 hline).1
  omega

theorem lineNumbers_ascend (index : Nat) (lineNumber : Int) (lines : List Text) :
    (commandsFrom index lineNumber lines).Pairwise (·.lineNumber < ·.lineNumber) := by
  induction lines generalizing index lineNumber with
  | nil => exact List.Pairwise.nil
  | cons line rest ih =>
    rw [commandsFrom_cons]
    refine List.pairwise_append.2 ⟨?_, ih _ _, fun c hc d hd => ?_⟩
    · cases commandName? line with
      | none => exact List.Pairwise.nil
      | some name => exact List.pairwise_singleton _ _
    · obtain ⟨name, -, rfl⟩ := Option.map_eq_some_iff.1 (Option.mem_toList.1 hc)
      have hlater := (lineNumber_of_mem hd).1
      show lineNumber < d.lineNumber
      omega

theorem map_index_commandsFrom (index : Nat) (lineNumber : Int) (lines : List Text) :
    (commandsFrom index lineNumber lines).map (·.index) =
      List.range' index (lines.countP isCommandLine) := by
  induction lines generalizing index lineNumber with
  | nil => rfl
  | cons line rest ih =>
    rw [commandsFrom_cons, List.map_append, ih, List.countP_cons, isCommandLine]
    cases commandName? line with
    | none => rfl
    | some name => simp [List.range'_succ]

/-! ### Look-ups among numbered commands -/

/-- Commands that a look-up by index or by line can tell apart: the indices count from zero, and the
line numbers ascend. -/
structure IsNumbered (cs : List Command) : Prop where
  indices : cs.map (·.index) = List.range cs.length
  ascending : cs.Pairwise (·.lineNumber < ·.lineNumber)

theorem isNumbered_commands (lines : List Text) (start : Nat) :
    IsNumbered (commands lines start) := by
  refine ⟨?_, lineNumbers_ascend 0 start _⟩
  rw [commands, map_index_commandsFrom, length_commandsFrom, List.range_eq_range']

namespace IsNumbered

variable {cs : List Command}

theorem index_getElem (h : IsNumbered cs) {k : Nat} (hk : k < cs.length) : cs[k].index = k := by
  have hget := congrArg (·[k]?) h.indices
  simpa [hk] using hget

/-- No two commands share a line. -/
theorem eq_of_lineNumber (h : IsNumbered cs) {c d : Command} (hc : c ∈ cs) (hd : d ∈ cs)
    (heq : c.lineNumber = d.lineNumber) : c = d := by
  have hnodup : (cs.map (·.lineNumber)).Nodup :=
    List.pairwise_map.2 (h.ascending.imp fun hlt => Int.ne_of_lt hlt)
  exact List.inj_on_of_nodup_map hnodup hc hd heq

theorem onLine?_eq_some_iff (h : IsNumbered cs) {lineNumber : Int} {c : Command} :
    onLine? lineNumber cs = some c ↔ c ∈ cs ∧ c.lineNumber = lineNumber := by
  constructor
  · intro hfound
    exact ⟨List.mem_of_find?_eq_some hfound, by simpa using List.find?_some hfound⟩
  · rintro ⟨hc, hnumber⟩
    obtain ⟨d, hfound⟩ : ∃ d, onLine? lineNumber cs = some d :=
      Option.isSome_iff_exists.1 (List.find?_isSome.2 ⟨c, hc, by simpa using hnumber⟩)
    have hd : d.lineNumber = lineNumber := by simpa using List.find?_some hfound
    rw [hfound, h.eq_of_lineNumber (List.mem_of_find?_eq_some hfound) hc (hd.trans hnumber.symm)]

theorem onLine?_lineNumber (h : IsNumbered cs) {c : Command} (hc : c ∈ cs) :
    onLine? c.lineNumber cs = some c :=
  h.onLine?_eq_some_iff.2 ⟨hc, rfl⟩

theorem withIndex?_index (h : IsNumbered cs) {c : Command} (hc : c ∈ cs) :
    withIndex? c.index cs = some c := by
  obtain ⟨k, hk, rfl⟩ := List.getElem_of_mem hc
  rw [h.index_getElem hk, withIndex?, if_pos (Int.natCast_nonneg k), Int.toNat_natCast,
    List.getElem?_eq_getElem hk]

end IsNumbered

theorem withIndex?_eq_none_iff {index : Int} {cs : List Command} :
    withIndex? index cs = none ↔ index < 0 ∨ (cs.length : Int) ≤ index := by
  rw [withIndex?]
  by_cases hneg : 0 ≤ index
  · rw [if_pos hneg, List.getElem?_eq_none_iff]
    omega
  · rw [if_neg hneg]
    simp
    omega

/-! ### The command region of a text -/

/-- The command region of lines begins after the first separator, or with the first line of all if
there is no separator. -/
def StartsAt (lines : List Text) (start : Nat) : Prop :=
  (start = 0 ∧ ∀ line ∈ lines, trim line ≠ separator) ∨
    ∃ above line below, lines = above ++ line :: below ∧ start = above.length + 1 ∧
      trim line = separator ∧ ∀ other ∈ above, trim other ≠ separator

theorem separatorLine?_eq_none_iff {lines : List Text} :
    separatorLine? lines = none ↔ ∀ line ∈ lines, trim line ≠ separator := by
  simp [separatorLine?, List.findIdx?_eq_none_iff]

theorem exists_of_separatorLine?_eq_some {lines : List Text} {n : Nat}
    (h : separatorLine? lines = some n) :
    ∃ above line below, lines = above ++ line :: below ∧ above.length = n ∧
      trim line = separator ∧ ∀ other ∈ above, trim other ≠ separator := by
  obtain ⟨hn, hline, habove⟩ := List.findIdx?_eq_some_iff_getElem.1 h
  refine ⟨lines.take n, lines[n], lines.drop (n + 1), ?_, List.length_take_of_le (Nat.le_of_lt hn),
    by simpa using hline, fun other hother => ?_⟩
  · rw [← List.drop_eq_getElem_cons hn, List.take_append_drop]
  · obtain ⟨k, hk, rfl⟩ := List.getElem_of_mem hother
    rw [List.length_take_of_le (Nat.le_of_lt hn)] at hk
    simpa using habove k hk

theorem commandStart_ofLines (lines : List Text) :
    StartsAt lines (ofLines lines).commandStart := by
  rw [Document.commandStart, ofLines]
  cases h : separatorLine? lines with
  | none => exact Or.inl ⟨rfl, separatorLine?_eq_none_iff.1 h⟩
  | some n =>
    obtain ⟨above, line, below, hlines, hlength, hline, habove⟩ :=
      exists_of_separatorLine?_eq_some h
    exact Or.inr ⟨above, line, below, hlines, by rw [hlength], hline, habove⟩

theorem index_ofLines (lines : List Text) : (ofLines lines).index = (ofLines lines).commands := rfl

theorem mem_commands_iff {lines : List Text} {start : Nat} {c : Command} :
    c ∈ commands lines start ↔
      ∃ k : Nat, start ≤ k ∧ lines[k]? = some c.line ∧ commandName? c.line = some c.name ∧
        c.lineNumber = k ∧ c.index = ((lines.take k).drop start).countP isCommandLine := by
  rw [commands, mem_commandsFrom_iff]
  constructor
  · rintro ⟨k, hline, hname, hnumber, hindex⟩
    rw [List.getElem?_drop] at hline
    refine ⟨start + k, Nat.le_add_right start k, hline, hname, by omega, ?_⟩
    rw [hindex, Nat.zero_add, List.drop_take, Nat.add_sub_cancel_left]
  · rintro ⟨k, hstart, hline, hname, hnumber, hindex⟩
    refine ⟨k - start, ?_, hname, by omega, ?_⟩
    · rw [List.getElem?_drop, Nat.add_sub_cancel' hstart, hline]
    · rw [hindex, Nat.zero_add, List.drop_take]

theorem onLine?_commands_eq_none_iff {lines : List Text} {start : Nat} {n : Int} :
    onLine? n (commands lines start) = none ↔
      n < start ∨ (lines.length : Int) ≤ n ∨
        ∃ line, lines[n.toNat]? = some line ∧ commandName? line = none := by
  have hnumbered := isNumbered_commands lines start
  constructor
  · intro hnone
    by_contra hcommand
    rw [not_or, not_or, not_exists] at hcommand
    obtain ⟨hstart, hend, hnamed⟩ := hcommand
    have hlt : n.toNat < lines.length := by omega
    have hline := List.getElem?_eq_getElem hlt
    obtain ⟨name, hname⟩ : ∃ name, commandName? lines[n.toNat] = some name :=
      Option.ne_none_iff_exists'.1 fun h => hnamed _ ⟨hline, h⟩
    -- the line is a command line of the region, so the look-up finds its command
    have hmem : (⟨((lines.take n.toNat).drop start).countP isCommandLine, n, lines[n.toNat], name⟩ :
        Command) ∈ commands lines start :=
      mem_commands_iff.2 ⟨n.toNat, by omega, hline, hname, by dsimp only; omega, rfl⟩
    rw [hnumbered.onLine?_eq_some_iff.2 ⟨hmem, rfl⟩] at hnone
    exact absurd hnone (by simp)
  · intro hout
    refine Option.eq_none_iff_forall_ne_some.2 fun c hfound => ?_
    obtain ⟨hc, hn⟩ := hnumbered.onLine?_eq_some_iff.1 hfound
    obtain ⟨k, hstart, hline, hname, hnumber, -⟩ := mem_commands_iff.1 hc
    have hlt := (List.getElem?_eq_some_iff.1 hline).1
    rcases hout with hheader | hbeyond | ⟨line, hother, hunnamed⟩
    · omega
    · omega
    · obtain rfl : k = n.toNat := by omega
      rw [hline] at hother
      rw [← Option.some.inj hother, hname] at hunnamed
      exact absurd hunnamed (by simp)

/-- The commands of a text are exactly the command lines of its command region, once each, in the
order of their lines and numbered from zero, and reading the text gives the same commands. A look-up
by index finds the command with that index for the numbers below their count and nothing for any
other number; a look-up by line finds the one command on that line, and nothing if the line is in
the header, beyond the text, or no command line. For each command both look-ups give it back. -/
theorem lookups_invert_indexText (t : Text) :
    let lines := Text.lines t
    let start := (parse t).commandStart
    let cs := indexText t
    StartsAt lines start ∧
    (∀ c, c ∈ cs ↔
      ∃ k : Nat, start ≤ k ∧ lines[k]? = some c.line ∧ commandName? c.line = some c.name ∧
        c.lineNumber = k ∧ c.index = ((lines.take k).drop start).countP isCommandLine) ∧
    cs.Pairwise (·.lineNumber < ·.lineNumber) ∧
    cs.map (·.index) = List.range cs.length ∧
    (parse t).index = (parse t).commands ∧
    (∀ k : Nat, commandWithIndex? t k = cs[k]?) ∧
    (∀ k : Int, commandWithIndex? t k = none ↔ k < 0 ∨ (cs.length : Int) ≤ k) ∧
    (∀ (n : Int) (c : Command), commandAtLine? t n = some c ↔ c ∈ cs ∧ c.lineNumber = n) ∧
    (∀ n : Int, commandAtLine? t n = none ↔
      n < start ∨ (lines.length : Int) ≤ n ∨
        ∃ line, lines[n.toNat]? = some line ∧ commandName? line = none) ∧
    ∀ c ∈ cs, commandAtLine? t c.lineNumber = some c ∧ commandWithIndex? t c.index = some c := by
  intro lines start cs
  have hnumbered : IsNumbered cs := isNumbered_commands lines start
  have hatLine : ∀ (n : Int) (c : Command),
      commandAtLine? t n = some c ↔ c ∈ cs ∧ c.lineNumber = n :=
    fun n c => hnumbered.onLine?_eq_some_iff
  refine ⟨commandStart_ofLines lines, fun c => mem_commands_iff, hnumbered.ascending,
    hnumbered.indices, index_ofLines lines, fun k => ?_, fun k => withIndex?_eq_none_iff, hatLine,
    fun n => onLine?_commands_eq_none_iff,
    fun c hc => ⟨hnumbered.onLine?_lineNumber hc, hnumbered.withIndex?_index hc⟩⟩
  rw [commandWithIndex?, withIndex?, if_pos (Int.natCast_nonneg k), Int.toNat_natCast]

end ScriptRun.Script
