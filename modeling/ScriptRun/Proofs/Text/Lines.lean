import Mathlib.Data.List.Basic
import ScriptRun.Text.Lines

/-!
# Parts of a text, line ends and pieces

How splitting a text, unifying its line ends and cutting its lines go together with appending to it.
A text that goes on only changes its last part, and a line that goes on only changes what stays of
it after its whole pieces.
-/

namespace ScriptRun.Text

/-! ### Splitting at a character -/

theorem splitAt_ne_nil (c : Char) (t : Text) : splitAt c t ≠ [] := by
  cases t with
  | nil => simp [splitAt]
  | cons x rest =>
    rw [splitAt]
    split
    · simp
    · split <;> simp

theorem splitAt_cons_self (c : Char) (rest : Text) :
    splitAt c (c :: rest) = [] :: splitAt c rest := by
  rw [splitAt, if_pos rfl]

/-- A character at which the text is not split joins the first part. -/
theorem splitAt_cons_of_ne {c x : Char} (hx : x ≠ c) {rest first : Text} {parts : List Text}
    (hrest : splitAt c rest = first :: parts) : splitAt c (x :: rest) = (x :: first) :: parts := by
  rw [splitAt, if_neg hx, hrest]

/-- A text in which the character does not occur is one part. -/
theorem splitAt_of_not_mem {c : Char} {t : Text} (h : c ∉ t) : splitAt c t = [t] := by
  induction t with
  | nil => rfl
  | cons x rest ih =>
    simp only [List.mem_cons, not_or] at h
    exact splitAt_cons_of_ne (Ne.symm h.1) (ih h.2)

/-- A part holds characters of the text, but never the one at which the text is split. -/
theorem mem_of_mem_splitAt {c x : Char} {t part : Text} (hpart : part ∈ splitAt c t)
    (hx : x ∈ part) : x ∈ t ∧ x ≠ c := by
  induction t generalizing part with
  | nil =>
    simp only [splitAt, List.mem_singleton] at hpart
    simp [hpart] at hx
  | cons y rest ih =>
    by_cases hy : y = c
    · rw [hy, splitAt_cons_self] at hpart
      rcases List.mem_cons.1 hpart with rfl | hrest
      · simp at hx
      · exact ⟨List.mem_cons_of_mem _ (ih hrest hx).1, (ih hrest hx).2⟩
    · obtain ⟨first, parts, hparts⟩ := List.exists_cons_of_ne_nil (splitAt_ne_nil c rest)
      rw [splitAt_cons_of_ne hy hparts] at hpart
      have hin : x = y ∨ ∃ p ∈ splitAt c rest, x ∈ p := by
        rcases List.mem_cons.1 hpart with rfl | hmore
        · exact (List.mem_cons.1 hx).imp_right fun h => ⟨first, by simp [hparts], h⟩
        · exact Or.inr ⟨part, by simp [hparts, hmore], hx⟩
      rcases hin with rfl | ⟨p, hp, hxp⟩
      · exact ⟨List.mem_cons_self, hy⟩
      · exact ⟨List.mem_cons_of_mem _ (ih hp hxp).1, (ih hp hxp).2⟩

/-- The last part of a text and the first part of what comes after it are one part. -/
theorem splitAt_append {c : Char} {s t last first : Text} {parts more : List Text}
    (hs : splitAt c s = parts ++ [last]) (ht : splitAt c t = first :: more) :
    splitAt c (s ++ t) = parts ++ (last ++ first) :: more := by
  induction s generalizing parts last with
  | nil =>
    obtain ⟨rfl, rfl⟩ : parts = [] ∧ last = [] := by
      cases parts with
      | nil => simpa [splitAt, eq_comm] using hs
      | cons part rest => simp [splitAt] at hs
    simpa using ht
  | cons x rest ih =>
    by_cases hx : x = c
    · rw [hx, splitAt_cons_self] at hs
      rw [hx, List.cons_append, splitAt_cons_self]
      cases parts with
      | nil => simp [splitAt_ne_nil] at hs
      | cons part parts =>
        simp only [List.cons_append, List.cons.injEq] at hs
        rw [ih hs.2, ← hs.1, List.cons_append]
    · obtain ⟨head, tail, hrest⟩ := List.exists_cons_of_ne_nil (splitAt_ne_nil c rest)
      rw [splitAt_cons_of_ne hx hrest] at hs
      rw [List.cons_append]
      cases parts with
      | nil =>
        simp only [List.nil_append, List.cons.injEq] at hs
        obtain ⟨rfl, rfl⟩ := hs
        exact splitAt_cons_of_ne hx (ih (show _ = [] ++ [head] from hrest))
      | cons part parts =>
        simp only [List.cons_append, List.cons.injEq] at hs
        obtain ⟨rfl, rfl⟩ := hs
        exact splitAt_cons_of_ne hx (ih (show _ = (head :: parts) ++ [last] from hrest))

/-! ### Unifying line ends -/

/-- No carriage return is left. -/
theorem return_not_mem_unifyLineEnds (t : Text) : '\r' ∉ unifyLineEnds t := by
  fun_induction unifyLineEnds t with
  | case1 => simp
  | case2 rest ih => simpa using ih
  | case3 rest hrest ih => simpa using ih
  | case4 c rest hpair hreturn ih =>
    simp only [List.mem_cons, not_or]
    exact ⟨fun h => hreturn h.symm, ih⟩

/-- A text without carriage returns is left alone. -/
theorem unifyLineEnds_of_not_mem {t : Text} (h : '\r' ∉ t) : unifyLineEnds t = t := by
  fun_induction unifyLineEnds t with
  | case1 => rfl
  | case2 rest ih => simp at h
  | case3 rest hrest ih => simp at h
  | case4 c rest hpair hreturn ih =>
    simp only [List.mem_cons, not_or] at h
    rw [ih h.2]

theorem unifyLineEnds_return {t : Text} (h : t.head? ≠ some '\n') :
    unifyLineEnds ('\r' :: t) = '\n' :: unifyLineEnds t := by
  rw [unifyLineEnds]
  rintro rest rfl
  simp at h

theorem unifyLineEnds_cons_of_ne {c : Char} (hc : c ≠ '\r') (t : Text) :
    unifyLineEnds (c :: t) = c :: unifyLineEnds t := by
  rw [unifyLineEnds]
  · rintro rest rfl
    exact fun _ => hc rfl
  · exact hc

/-- Line ends are unified on both sides of a cut that does not go through a line end. -/
theorem unifyLineEnds_append {s t : Text} (h : s.getLast? ≠ some '\r' ∨ t.head? ≠ some '\n') :
    unifyLineEnds (s ++ t) = unifyLineEnds s ++ unifyLineEnds t := by
  have htail : ∀ {c : Char} {rest : Text}, (c :: rest).getLast? ≠ some '\r' ∨ t.head? ≠ some '\n' →
      rest.getLast? ≠ some '\r' ∨ t.head? ≠ some '\n' := by
    intro c rest hcut
    refine hcut.imp_left fun hlast => ?_
    cases rest with
    | nil => simp
    | cons y more => simpa using hlast
  fun_induction unifyLineEnds s with
  | case1 => rfl
  | case2 rest ih =>
    rw [List.cons_append, List.cons_append, unifyLineEnds, ih (htail (htail h)), List.cons_append]
  | case3 rest hrest ih =>
    have hhead : (rest ++ t).head? ≠ some '\n' := by
      cases rest with
      | nil => simpa using h
      | cons y more =>
        intro hy
        simp only [List.cons_append, List.head?_cons, Option.some.injEq] at hy
        exact hrest more (by rw [hy])
    rw [List.cons_append, unifyLineEnds_return hhead, ih (htail h), List.cons_append]
  | case4 c rest hpair hreturn ih =>
    rw [List.cons_append, unifyLineEnds_cons_of_ne (fun hc => hreturn hc), ih (htail h),
      List.cons_append]

/-! ### Cutting a line -/

/-- A size of zero cuts nothing. -/
theorem overflow_of_le {size : Nat} {line : Text} (h : line.length ≤ size ∨ size = 0) :
    overflow size line = ([], line) := by
  rw [overflow, if_pos h]

theorem overflow_of_not_le {size : Nat} {line : Text} (h : ¬(line.length ≤ size ∨ size = 0)) :
    overflow size line =
      (line.take size :: (overflow size (line.drop size)).1,
        (overflow size (line.drop size)).2) := by
  rw [overflow, if_neg h]

/-- What stays of a line is its end. -/
theorem overflow_suffix (size : Nat) (line : Text) : (overflow size line).2 <:+ line := by
  fun_induction overflow size line with
  | case1 line h => exact List.suffix_rfl
  | case2 line h more ih => exact ih.trans (List.drop_suffix size line)

/-- What stays of a line needs no more cutting. -/
theorem length_overflow_le (size : Nat) (line : Text) :
    (overflow size line).2.length ≤ size ∨ size = 0 := by
  fun_induction overflow size line with
  | case1 line h => exact h
  | case2 line h more ih => exact ih

/-- Something stays of a line that has something. -/
theorem overflow_eq_nil_iff {size : Nat} {line : Text} :
    (overflow size line).2 = [] ↔ line = [] := by
  fun_induction overflow size line with
  | case1 line h => exact Iff.rfl
  | case2 line h more ih =>
    have hdrop : line.drop size ≠ [] := by
      intro hnil
      rw [List.drop_eq_nil_iff] at hnil
      exact h (Or.inl hnil)
    have hline : line ≠ [] := by
      rintro rfl
      exact h (Or.inl (Nat.zero_le size))
    exact iff_of_false (fun hnil => hdrop (ih.1 hnil)) hline

/-- Whole pieces may be taken off a line before the rest of it is known. -/
theorem pieces_append (size : Nat) (line more : Text) :
    pieces size (line ++ more) =
      (overflow size line).1 ++ pieces size ((overflow size line).2 ++ more) := by
  fun_induction overflow size line with
  | case1 line h => rfl
  | case2 line h rest ih =>
    have hlong : ¬((line ++ more).length ≤ size ∨ size = 0) := by
      simp only [List.length_append]
      omega
    have hsize : size ≤ line.length := by omega
    rw [pieces, if_neg hlong, List.take_append_of_le_length hsize,
      List.drop_append_of_le_length hsize, ih, List.cons_append]

/-- The same of the whole pieces of a line that goes on. -/
theorem overflow_append (size : Nat) (line more : Text) :
    overflow size (line ++ more) =
      ((overflow size line).1 ++ (overflow size ((overflow size line).2 ++ more)).1,
        (overflow size ((overflow size line).2 ++ more)).2) := by
  fun_induction overflow size line with
  | case1 line h => rfl
  | case2 line h rest ih =>
    have hlong : ¬((line ++ more).length ≤ size ∨ size = 0) := by
      simp only [List.length_append]
      omega
    have hsize : size ≤ line.length := by omega
    rw [overflow_of_not_le hlong, List.take_append_of_le_length hsize,
      List.drop_append_of_le_length hsize, ih, List.cons_append]

/-- The pieces of a line, put together, are the line. -/
theorem flatten_pieces (size : Nat) (line : Text) : (pieces size line).flatten = line := by
  fun_induction pieces size line with
  | case1 line h => simp
  | case2 line h ih => rw [List.flatten_cons, ih, List.take_append_drop]

/-- No piece is longer than the size, if there is one. -/
theorem length_le_of_mem_pieces {size : Nat} (hsize : size ≠ 0) {line piece : Text}
    (hpiece : piece ∈ pieces size line) : piece.length ≤ size := by
  fun_induction pieces size line with
  | case1 line h =>
    rw [List.mem_singleton.1 hpiece]
    exact h.resolve_right hsize
  | case2 line h ih =>
    rcases List.mem_cons.1 hpiece with rfl | hrest
    · exact List.length_take_le size line
    · exact ih hrest

end ScriptRun.Text
