import ScriptRun.Proofs.Script.Numbering
import ScriptRun.Proofs.Text.Runs

/-!
# List items

A line whose first character other than white space is a dash is a list item. Command lines are
found by their name and ambiguous lines by the dash at the beginning of their content, and the two
readings part the list items of the command region: each of them is found by exactly one, except for
a line of three dashes, which neither finds (`list_items_parted`).
-/

namespace ScriptRun.Script

open Text

/-- A line on which a dash comes first, after white space if there is any. -/
def IsListItem (line : Text) : Prop := line.find? (fun c => !isBlank c) = some '-'

/-- A line that is written as a list item with a name: white space, a dash, white space, the name,
and something that does not go on with the name. -/
def IsNamed (line name : Text) : Prop :=
  ∃ indent gap rest, (∀ c ∈ indent, isBlank c = true) ∧ (∀ c ∈ gap, isBlank c = true) ∧
    IsRun isWord name ∧ Breaks isWord rest ∧ line = indent ++ '-' :: (gap ++ (name ++ rest))

/-! ### The two readings of a line -/

theorem trimStart_append_dash {indent : Text} (h : ∀ c ∈ indent, isBlank c = true) (after : Text) :
    trimStart (indent ++ '-' :: after) = '-' :: after :=
  dropWhile_append_of_breaks h (breaks_cons.2 (by decide))

theorem commandName?_eq_some_iff {line name : Text} :
    commandName? line = some name ↔ IsNamed line name := by
  constructor
  · intro h
    unfold commandName? at h
    split at h
    · rename_i after hdash
      dsimp only at h
      split at h
      · cases h
      · rename_i hne
        rw [List.isEmpty_iff] at hne
        obtain ⟨hname, hrest, hafter⟩ := span_eq_iff.1 ⟨hne, rfl, rfl⟩
        rw [Option.some.inj h] at hname hafter
        refine ⟨line.takeWhile isBlank, List.takeWhile isBlank after, _,
          fun c hc => List.mem_takeWhile_imp hc, fun c hc => List.mem_takeWhile_imp hc, hname, hrest,
          ?_⟩
        rw [← hafter, trimStart, List.takeWhile_append_dropWhile, ← hdash, trimStart,
          List.takeWhile_append_dropWhile]
    · cases h
  · rintro ⟨indent, gap, rest, hindent, hgap, hname, hrest, rfl⟩
    have hafter : trimStart (gap ++ (name ++ rest)) = name ++ rest :=
      dropWhile_append_of_breaks hgap (hname.breaks_append isBlank_excludes_isWord.symm rest)
    rw [commandName?, trimStart_append_dash hindent]
    simp only [hafter, takeWhile_append_of_breaks hname.2 hrest]
    exact if_neg (by simpa using hname.1)

theorem isListItem_iff {line : Text} : IsListItem line ↔ (trimStart line).head? = some '-' := by
  rw [IsListItem, List.find?_not_eq_head?_dropWhile, trimStart]

/-- White space is taken off the end of a text up to a character that is none. -/
theorem trimEnd_cons {c : Char} (hc : isBlank c = false) (t : Text) :
    trimEnd (c :: t) = c :: trimEnd t := by
  rw [trimEnd, trimEnd, List.reverse_cons, List.dropWhile_append]
  split
  · rename_i hblank
    rw [List.isEmpty_iff] at hblank
    rw [hblank, List.dropWhile_cons_of_neg (by simp [hc])]
    rfl
  · rw [List.reverse_append]
    rfl

/-- The content of a line begins with a dash exactly if the line is a list item. -/
theorem startsWith_trim_iff {line : Text} :
    startsWith ['-'] (trim line) = true ↔ IsListItem line := by
  have hstart : Breaks isBlank (trimStart line) := breaks_dropWhile isBlank line
  rw [startsWith_eq_true_iff, isListItem_iff, trim]
  cases htrim : trimStart line with
  | nil => simp [trimEnd]
  | cons c rest =>
    rw [htrim] at hstart
    rw [trimEnd_cons (breaks_cons.1 hstart)]
    simp [eq_comm]

theorem IsNamed.isListItem {line name : Text} (h : IsNamed line name) : IsListItem line := by
  obtain ⟨indent, gap, rest, hindent, -, -, -, rfl⟩ := h
  rw [isListItem_iff, trimStart_append_dash hindent]
  rfl

/-- A line of three dashes has no name, because the second dash is neither white space nor part of a
word. -/
theorem IsNamed.trim_ne_separator {line name : Text} (h : IsNamed line name) :
    trim line ≠ separator := by
  obtain ⟨indent, gap, rest, hindent, hgap, hname, -, rfl⟩ := h
  intro hseparator
  rw [trim, trimStart_append_dash hindent, trimEnd_cons (by decide), separator,
    List.cons.injEq] at hseparator
  obtain ⟨more, hmore⟩ := hseparator.2 ▸ isPrefix_trimEnd (gap ++ (name ++ rest))
  cases gap with
  | nil =>
    cases name with
    | nil => exact hname.1 rfl
    | cons c name =>
      have hc := hname.2 c List.mem_cons_self
      rw [← (List.cons.inj hmore).1] at hc
      revert hc
      decide
  | cons c gap =>
    have hc := hgap c List.mem_cons_self
    rw [← (List.cons.inj hmore).1] at hc
    revert hc
    decide

/-- A line is ambiguous if it is a list item without a name, and no line of three dashes. -/
theorem isAmbiguous_iff {line : Text} :
    isAmbiguous line = true ↔
      IsListItem line ∧ trim line ≠ separator ∧ commandName? line = none := by
  rw [isAmbiguous, Bool.and_eq_true, Bool.and_eq_true, startsWith_trim_iff, bne_iff_ne,
    Option.isNone_iff_eq_none, and_assoc]

/-- Every list item has a name or is ambiguous, except for a line of three dashes. -/
theorem isCommandLine_or_isAmbiguous_iff {line : Text} :
    isCommandLine line = true ∨ isAmbiguous line = true ↔
      IsListItem line ∧ trim line ≠ separator := by
  rw [isAmbiguous_iff, isCommandLine]
  cases hname : commandName? line with
  | none => simp
  | some name =>
    have hnamed := commandName?_eq_some_iff.1 hname
    simp [hnamed.isListItem, hnamed.trim_ne_separator]

/-! ### The lines that are found -/

theorem mem_ambiguousFrom_iff {first n : Nat} {lines : List Text} :
    n ∈ ambiguousFrom first lines ↔
      ∃ k, n = first + k ∧ ∃ line, lines[k]? = some line ∧ isAmbiguous line = true := by
  induction lines generalizing first with
  | nil => simp [ambiguousFrom]
  | cons line rest ih =>
    have hcons : n ∈ ambiguousFrom first (line :: rest) ↔
        n = first ∧ isAmbiguous line = true ∨ n ∈ ambiguousFrom (first + 1) rest := by
      rw [ambiguousFrom]
      split
      · rename_i hline
        simp [hline]
      · rename_i hline
        simp [hline]
    rw [hcons, ih]
    constructor
    · rintro (⟨rfl, hline⟩ | ⟨k, rfl, hfound⟩)
      · exact ⟨0, rfl, line, rfl, hline⟩
      · exact ⟨k + 1, by omega, hfound⟩
    · rintro ⟨_ | k, rfl, other, hother, hambiguous⟩
      · obtain rfl : line = other := Option.some.inj hother
        exact .inl ⟨rfl, hambiguous⟩
      · exact .inr ⟨k, by omega, other, hother, hambiguous⟩

theorem ambiguousFrom_ascend (first : Nat) (lines : List Text) :
    (ambiguousFrom first lines).Pairwise (· < ·) := by
  induction lines generalizing first with
  | nil => exact List.Pairwise.nil
  | cons line rest ih =>
    rw [ambiguousFrom]
    split
    · refine List.pairwise_cons.2 ⟨fun n hn => ?_, ih _⟩
      obtain ⟨k, rfl, -⟩ := mem_ambiguousFrom_iff.1 hn
      omega
    · exact ih _

section Script

variable {lines : List Text}

theorem mem_ambiguous_iff {n : Nat} :
    n ∈ (ofLines lines).ambiguous ↔
      (ofLines lines).commandStart ≤ n ∧ ∃ line, lines[n]? = some line ∧ isAmbiguous line = true := by
  have hambiguous : (ofLines lines).ambiguous =
      ambiguousFrom (ofLines lines).commandStart (lines.drop (ofLines lines).commandStart) := rfl
  rw [hambiguous, mem_ambiguousFrom_iff]
  constructor
  · rintro ⟨k, rfl, line, hline, hfound⟩
    exact ⟨Nat.le_add_right .., line, by rwa [List.getElem?_drop] at hline, hfound⟩
  · rintro ⟨hstart, line, hline, hfound⟩
    refine ⟨n - (ofLines lines).commandStart, by omega, line, ?_, hfound⟩
    rwa [List.getElem?_drop, Nat.add_sub_cancel' hstart]

theorem exists_command_iff {n : Int} {name : Text} :
    (∃ c ∈ (ofLines lines).commands, c.lineNumber = n ∧ c.name = name) ↔
      ∃ k : Nat, n = k ∧ (ofLines lines).commandStart ≤ k ∧
        ∃ line, lines[k]? = some line ∧ commandName? line = some name := by
  have hcommands : (ofLines lines).commands = commands lines (ofLines lines).commandStart := rfl
  rw [hcommands]
  constructor
  · rintro ⟨c, hc, rfl, rfl⟩
    obtain ⟨k, hstart, hline, hname, hnumber, -⟩ := mem_commands_iff.1 hc
    exact ⟨k, hnumber, hstart, c.line, hline, hname⟩
  · rintro ⟨k, rfl, hstart, line, hline, hname⟩
    exact ⟨⟨_, k, line, name⟩, mem_commands_iff.2 ⟨k, hstart, hline, hname, rfl, rfl⟩, rfl, rfl⟩

/-- The numbers of the command lines. -/
theorem mem_map_lineNumber_iff {n : Int} :
    n ∈ (ofLines lines).commands.map (·.lineNumber) ↔
      ∃ k : Nat, n = k ∧ (ofLines lines).commandStart ≤ k ∧
        ∃ line, lines[k]? = some line ∧ isCommandLine line = true := by
  rw [List.mem_map]
  constructor
  · rintro ⟨c, hc, hnumber⟩
    obtain ⟨k, hk, hstart, line, hline, hname⟩ := exists_command_iff.1 ⟨c, hc, hnumber, rfl⟩
    exact ⟨k, hk, hstart, line, hline, Option.isSome_iff_exists.2 ⟨_, hname⟩⟩
  · rintro ⟨k, hk, hstart, line, hline, hfound⟩
    obtain ⟨name, hname⟩ := Option.isSome_iff_exists.1 hfound
    obtain ⟨c, hc, hnumber, -⟩ := exists_command_iff.2 ⟨k, hk, hstart, line, hline, hname⟩
    exact ⟨c, hc, hnumber⟩

/-- The numbers of the ambiguous lines. -/
theorem mem_map_ambiguous_iff {n : Int} :
    n ∈ (ofLines lines).ambiguous.map Int.ofNat ↔
      ∃ k : Nat, n = k ∧ (ofLines lines).commandStart ≤ k ∧
        ∃ line, lines[k]? = some line ∧ isAmbiguous line = true := by
  simp only [List.mem_map, mem_ambiguous_iff, Int.ofNat_eq_natCast, eq_comm (b := n), and_comm]

/-- A line is found by one of the readings at most. -/
theorem named_disjoint_ambiguous :
    ((ofLines lines).commands.map (·.lineNumber)).Disjoint
      ((ofLines lines).ambiguous.map Int.ofNat) := by
  intro n hnamed hambiguous
  obtain ⟨k, rfl, -, line, hline, hcommand⟩ := mem_map_lineNumber_iff.1 hnamed
  obtain ⟨k', hk, -, other, hother, hfound⟩ := mem_map_ambiguous_iff.1 hambiguous
  obtain rfl : k = k' := Int.ofNat_inj.1 hk
  obtain rfl : line = other := Option.some.inj (hline.symm.trans hother)
  rw [isCommandLine, (isAmbiguous_iff.1 hfound).2.2] at hcommand
  cases hcommand

/-- A list item of the command region is found by one of the readings at least. -/
theorem mem_named_or_ambiguous_iff {n : Int} :
    (n ∈ (ofLines lines).commands.map (·.lineNumber) ∨
        n ∈ (ofLines lines).ambiguous.map Int.ofNat) ↔
      ∃ k : Nat, n = k ∧ (ofLines lines).commandStart ≤ k ∧
        ∃ line, lines[k]? = some line ∧ IsListItem line ∧ trim line ≠ separator := by
  rw [mem_map_lineNumber_iff, mem_map_ambiguous_iff]
  simp only [← isCommandLine_or_isAmbiguous_iff, and_or_left, exists_or]

end Script

/-- The commands and the ambiguous lines of a script part the list items of its command region: no
line is found twice, and together they are found exactly on the lines of the region that begin with
a dash after their white space and are no lines of three dashes. A line is a command line with a
name exactly if it is written as white space, a dash, white space, the name as a run of word
characters, and something that begins with no word character. -/
theorem list_items_parted (t : Text) :
    let lines := Text.lines t
    let script := parse t
    let named := script.commands.map (·.lineNumber)
    let ambiguous := script.ambiguous.map Int.ofNat
    named.Disjoint ambiguous ∧ named.Nodup ∧ ambiguous.Nodup ∧
    (∀ n, n ∈ named ∨ n ∈ ambiguous ↔
      ∃ k : Nat, n = k ∧ script.commandStart ≤ k ∧
        ∃ line, lines[k]? = some line ∧ IsListItem line ∧ trim line ≠ separator) ∧
    (∀ (k : Nat) (name : Text), (∃ c ∈ script.commands, c.lineNumber = k ∧ c.name = name) ↔
      script.commandStart ≤ k ∧ ∃ line, lines[k]? = some line ∧ IsNamed line name) ∧
    ∀ line name, commandName? line = some name ↔ IsNamed line name := by
  intro lines script named ambiguous
  refine ⟨named_disjoint_ambiguous, ?_, ?_, fun n => mem_named_or_ambiguous_iff, fun k name => ?_,
    fun line name => commandName?_eq_some_iff⟩
  · exact List.pairwise_map.2
      ((isNumbered_commands lines script.commandStart).ascending.imp fun hlt => Int.ne_of_lt hlt)
  · exact List.pairwise_map.2
      ((ambiguousFrom_ascend _ _).imp fun hlt heq => Nat.ne_of_lt hlt (Int.ofNat_inj.1 heq))
  · refine exists_command_iff.trans ⟨?_, ?_⟩
    · rintro ⟨k', hk, hstart, line, hline, hname⟩
      obtain rfl : k = k' := Int.ofNat_inj.1 hk
      exact ⟨hstart, line, hline, commandName?_eq_some_iff.1 hname⟩
    · rintro ⟨hstart, line, hline, hname⟩
      exact ⟨k, rfl, hstart, line, hline, commandName?_eq_some_iff.2 hname⟩

end ScriptRun.Script
