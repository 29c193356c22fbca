import ScriptRun.Proofs.Text.Visible

/-!
# The form of a logged line

Making a line safe for a log gives visible characters and tabs only. Such a text goes through
unchanged, up to the cut at the limit, and a line that was cut and marked is cut again at the same
place. So a logged line that is logged again stays as it is.
-/

namespace ScriptRun.Text

theorem IsShown.ne {t : Text} (h : IsShown t) {c : Char} (hc : c ∈ t) (hidden : Char)
    (hhidden : isPrintable hidden = false) (htab : hidden ≠ '\t') : c ≠ hidden := by
  rintro rfl
  obtain hprintable | htab' := h c hc
  · rw [hhidden] at hprintable
    cases hprintable
  · exact htab htab'

theorem chompLineEnds_of_isShown {t : Text} (h : IsShown t) : chompLineEnds t = t := by
  have hkept : t.reverse.dropWhile (fun c => c = '\r' || c = '\n') = t.reverse := by
    refine List.dropWhile_eq_self_iff.mpr fun hlength => ?_
    have hlast : t.reverse[0] ∈ t := List.mem_reverse.mp (List.getElem_mem hlength)
    have hreturn := h.ne hlast '\r' rfl (by decide)
    have hfeed := h.ne hlast '\n' rfl (by decide)
    simp only [hreturn, hfeed, decide_false, Bool.or_self, Bool.false_eq_true, not_false_eq_true]
  rw [chompLineEnds, hkept, List.reverse_reverse]

theorem flatMap_safeChar_of_isShown {t : Text} (h : IsShown t) : t.flatMap safeChar = t := by
  induction t with
  | nil => rfl
  | cons c rest ih =>
    obtain ⟨hc, hrest⟩ := List.forall_mem_cons.mp h
    have hself : safeChar c = [c] := by
      rw [safeChar, if_pos (by simpa [or_comm] using hc)]
    rw [List.flatMap_cons, hself, ih hrest]
    rfl

/-- A text of visible characters and tabs is only cut. -/
theorem sanitized_of_isShown {t : Text} (h : IsShown t) (limit : Int) :
    sanitized limit t = truncated limit t := by
  have hfilter : t.filter (· != '\x00') = t :=
    List.filter_eq_self.mpr fun c hc => bne_iff_ne.mpr (h.ne hc _ rfl (by decide))
  have hescape : escape ∉ t := fun hc => h.ne hc _ rfl (by decide) rfl
  rw [sanitized, chompLineEnds_of_isShown h, hfilter, stripEscapes_of_not_mem hescape,
    flatMap_safeChar_of_isShown h]

theorem truncated_of_le {limit : Int} {t : Text} (h : 0 < limit → t.length ≤ limit) :
    truncated limit t = t := by
  rw [truncated, if_neg]
  rintro ⟨hpositive, hlong⟩
  have := h hpositive
  omega

theorem length_truncated_le {limit : Int} (hpositive : 0 < limit) (t : Text) :
    (truncated limit t).length ≤ limit + truncationMark.length := by
  unfold truncated
  split_ifs with hlong
  · rw [List.length_append, List.length_take]
    omega
  · omega

theorem truncated_truncated (limit : Int) (t : Text) :
    truncated limit (truncated limit t) = truncated limit t := by
  by_cases hlong : 0 < limit ∧ limit < t.length
  · have hlength : (t.take limit.toNat).length = limit.toNat := by
      rw [List.length_take]
      omega
    have hcut : truncated limit t = t.take limit.toNat ++ truncationMark := if_pos hlong
    have hlonger : 0 < limit ∧ limit < (truncated limit t).length := by
      rw [hcut, List.length_append, hlength]
      have hmark : 0 < truncationMark.length := by decide
      omega
    -- the mark begins at the limit, so the second cut takes off exactly the mark
    rw [truncated, if_pos hlonger, hcut, List.take_left' hlength]
  · have hwhole : truncated limit t = t := if_neg hlong
    rw [hwhole, hwhole]

/-- A logged line consists of visible characters and tabs and holds nothing that ends a line, no NUL
and no escape character. It is as long as the limit and the mark at most, is not changed by being
logged again, and is the line itself if that was visible and no longer than the limit. -/
theorem sanitized_is_normal_form (limit : Int) (line : Text) :
    let logged := sanitized limit line
    (∀ c ∈ logged, (isPrintable c = true ∨ c = '\t') ∧
      c ≠ '\x00' ∧ c ≠ escape ∧ isLineEnd c = false) ∧
      (0 < limit → logged.length ≤ limit + truncationMark.length) ∧
      sanitized limit logged = logged ∧
      ((∀ c ∈ line, isPrintable c = true ∨ c = '\t') → (0 < limit → line.length ≤ limit) →
        logged = line) := by
  intro logged
  have hshown : IsShown logged := isShown_sanitized limit line
  refine ⟨fun c hc => ⟨hshown c hc, hshown.ne hc _ rfl (by decide), hshown.ne hc _ rfl (by decide),
    isUnbroken_of_isShown hshown c hc⟩, fun hpositive => length_truncated_le hpositive _, ?_, ?_⟩
  · rw [sanitized_of_isShown hshown]
    exact truncated_truncated limit _
  · intro hline hlength
    exact (sanitized_of_isShown hline limit).trans (truncated_of_le hlength)

/-- A line is cut after its escape sequence was taken out, and then stays. -/
theorem sanitized_is_normal_form_marked :
    sanitized 3 "ab\x1b[31mc\x07d".toList = "abc...[truncated]".toList ∧
      ("abc...[truncated]".toList.length : Int) ≤ 3 + truncationMark.length ∧
      sanitized 3 "abc...[truncated]".toList = "abc...[truncated]".toList ∧
      sanitized 3 "a\tb".toList = "a\tb".toList := by
  have hcut : sanitized 3 "ab\x1b[31mc\x07d".toList = "abc...[truncated]".toList := by decide
  obtain ⟨-, hlength, hstays, -⟩ := sanitized_is_normal_form 3 "ab\x1b[31mc\x07d".toList
  obtain ⟨-, -, -, hwhole⟩ := sanitized_is_normal_form 3 "a\tb".toList
  have hshown : ∀ c ∈ "a\tb".toList, isPrintable c = true ∨ c = '\t' := by simp [isPrintable]
  rw [hcut] at hlength hstays
  exact ⟨hcut, hlength (by decide), hstays, hwhole hshown fun _ => by decide⟩

end ScriptRun.Text
