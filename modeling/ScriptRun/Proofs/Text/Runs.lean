import Mathlib.Data.List.Forall2
import Mathlib.Data.List.TakeWhile
import ScriptRun.Text.CharClass
import ScriptRun.Text.Escape
import ScriptRun.Text.Search

/-!
# Runs of characters, and where a pattern fits

A reader that takes all it can of a class of characters takes a run of them up to a character of
another class. Whether it took too much never shows as long as the classes that follow each other in
a pattern have no character in common.

A position in a text is given by what begins there, a suffix of the text. The further left the
position is, the longer is the suffix, so that the first position at which a pattern fits is the one
whose suffix has all others as suffixes.
-/

namespace ScriptRun.Text

variable {α : Type} {cls : Char → Bool}

/-! ### Runs -/

/-- A run of characters of a class, at least one. -/
def IsRun (cls : Char → Bool) (t : Text) : Prop := t ≠ [] ∧ ∀ c ∈ t, cls c = true

/-- What comes next is not of a class. -/
def Breaks (cls : Char → Bool) (t : Text) : Prop := ∀ c, t.head? = some c → cls c = false

theorem breaks_nil (cls : Char → Bool) : Breaks cls [] := by
  intro c hc
  simp at hc

theorem breaks_cons {c : Char} {t : Text} : Breaks cls (c :: t) ↔ cls c = false := by
  simp [Breaks]

/-- No character of one class is in the other. -/
def Excludes (cls other : Char → Bool) : Prop := ∀ c, cls c = true → other c = false

theorem Excludes.symm {other : Char → Bool} (h : Excludes cls other) : Excludes other cls := by
  intro c hc
  by_contra hboth
  rw [h c (eq_true_of_ne_false hboth)] at hc
  exact Bool.false_ne_true hc

theorem IsRun.breaks_append {other : Char → Bool} {run : Text} (h : IsRun cls run)
    (hexcludes : Excludes cls other) (rest : Text) : Breaks other (run ++ rest) := by
  obtain ⟨hne, hall⟩ := h
  cases run with
  | nil => exact absurd rfl hne
  | cons c run => exact breaks_cons.2 (hexcludes c (hall c List.mem_cons_self))

theorem breaks_dropWhile (cls : Char → Bool) (t : Text) : Breaks cls (t.dropWhile cls) := by
  induction t with
  | nil => exact breaks_nil cls
  | cons c t ih =>
    rw [List.dropWhile_cons]
    split
    · exact ih
    · rename_i hc
      exact breaks_cons.2 (eq_false_of_ne_true hc)

theorem takeWhile_append_of_breaks {run rest : Text} (hrun : ∀ c ∈ run, cls c = true)
    (hrest : Breaks cls rest) : (run ++ rest).takeWhile cls = run := by
  rw [List.takeWhile_append_of_pos hrun]
  cases rest with
  | nil => simp
  | cons c rest => simp [breaks_cons.1 hrest]

theorem dropWhile_append_of_breaks {run rest : Text} (hrun : ∀ c ∈ run, cls c = true)
    (hrest : Breaks cls rest) : (run ++ rest).dropWhile cls = rest := by
  rw [List.dropWhile_append_of_pos hrun]
  cases rest with
  | nil => rfl
  | cons c rest => simp [breaks_cons.1 hrest]

/-- A text is parted in one way only into a run and a rest that does not go on with it. -/
theorem span_eq_iff {t run rest : Text} :
    (run ≠ [] ∧ t.takeWhile cls = run ∧ t.dropWhile cls = rest) ↔
      IsRun cls run ∧ Breaks cls rest ∧ t = run ++ rest := by
  constructor
  · rintro ⟨hne, rfl, rfl⟩
    have hall : ∀ c ∈ t.takeWhile cls, cls c = true := fun c hc => List.mem_takeWhile_imp hc
    exact ⟨⟨hne, hall⟩, breaks_dropWhile cls t, List.takeWhile_append_dropWhile.symm⟩
  · rintro ⟨⟨hne, hall⟩, hrest, rfl⟩
    exact ⟨hne, takeWhile_append_of_breaks hall hrest, dropWhile_append_of_breaks hall hrest⟩

theorem startsWith_eq_true_iff {lead t : Text} :
    startsWith lead t = true ↔ ∃ rest, t = lead ++ rest := by
  rw [startsWith, Option.isSome_iff_exists]
  simp only [dropLead?_eq_some]

/-- Nothing is cut off a text in which a character does not occur. -/
theorem takeWhile_of_not_mem {c : Char} {t : Text} (h : c ∉ t) :
    t.takeWhile (fun x => decide (x ≠ c)) = t := by
  rw [List.takeWhile_eq_self_iff]
  intro x hx
  exact decide_eq_true fun hsame => h (hsame ▸ hx)

/-! ### Classes without common characters -/

/-- The code points of white space beyond ASCII. -/
def wideBlanks : List Nat :=
  [0x85, 0xa0, 0x1680, 0x2028, 0x2029, 0x202f, 0x205f, 0x3000] ++ List.range' 0x2000 11

theorem isBlank_cases {c : Char} (h : isBlank c = true) :
    c.toNat ≤ 0x20 ∨ c.toNat ∈ wideBlanks := by
  simp only [isBlank, Bool.or_eq_true, Bool.and_eq_true, decide_eq_true_eq, beq_iff_eq] at h
  simp only [wideBlanks, List.mem_append, List.mem_cons, List.not_mem_nil, List.mem_range'_1]
  omega

theorem isBlank_excludes_isWord : Excludes isBlank isWord := by
  intro c h
  have hwide : ∀ n ∈ wideBlanks, 0x80 ≤ n ∧ inRanges n wordRanges = false := by decide +kernel
  unfold isWord
  rcases isBlank_cases h with hascii | hmem
  · rw [if_pos (by omega)]
    simp only [Bool.or_eq_false_iff, Bool.and_eq_false_iff, decide_eq_false_iff_not,
      beq_eq_false_iff_ne]
    omega
  · obtain ⟨hhigh, hword⟩ := hwide _ hmem
    rw [if_neg (by omega), hword]

theorem isBlank_excludes_isDigit : Excludes isBlank isDigit := by
  intro c h
  have hwide : ∀ n ∈ wideBlanks,
      0x80 ≤ n ∧ zeroDigits.find? (fun z => z ≤ n && n ≤ z + 9) = none := by decide +kernel
  unfold isDigit digitValue?
  rcases isBlank_cases h with hascii | hmem
  · simp only
    rw [if_pos (by omega), if_neg]
    · rfl
    · simp only [Bool.and_eq_true, decide_eq_true_eq]
      omega
  · obtain ⟨hhigh, hnone⟩ := hwide _ hmem
    simp only
    rw [if_neg (by omega), hnone]
    rfl

/-- A letter is in no case white space. -/
theorem isBlank_of_sameLetter {letter c : Char} (hletter : isBlank (lowerAscii letter) = false)
    (h : sameLetter letter c = true) : isBlank c = false := by
  by_contra hblank
  have hblank : isBlank c = true := eq_true_of_ne_false hblank
  have hcode := isBlank_cases hblank
  have hsmall : lowerAscii c = c := by
    unfold lowerAscii
    rw [if_neg]
    rintro ⟨hlow, hhigh⟩
    have hlow : 0x41 ≤ c.toNat := hlow
    have hhigh : c.toNat ≤ 0x5a := hhigh
    have hwide : ∀ n ∈ wideBlanks, 0x80 ≤ n := by decide
    rcases hcode with hascii | hmem
    · omega
    · have := hwide _ hmem
      omega
  have hspecial : c.toNat ≠ 0x17f ∧ c.toNat ≠ 0x212a ∧ c.toNat ≠ 0x130 ∧ c.toNat ≠ 0x131 := by
    have hwide : ∀ n ∈ wideBlanks, n ≠ 0x17f ∧ n ≠ 0x212a ∧ n ≠ 0x130 ∧ n ≠ 0x131 := by decide
    rcases hcode with hascii | hmem
    · omega
    · exact hwide _ hmem
  simp only [sameLetter, hsmall, Bool.or_eq_true, Bool.and_eq_true, beq_iff_eq, hspecial,
    and_false, or_false] at h
  rw [h, hletter] at hblank
  exact absurd hblank (by decide)

/-- Texts alike but for the case of their letters. -/
def SameLetters (lead t : Text) : Prop := List.Forall₂ (fun p c => sameLetter p c = true) lead t

theorem SameLetters.breaks_append {letter : Char} {lead t : Text}
    (h : SameLetters (letter :: lead) t) (hletter : isBlank (lowerAscii letter) = false)
    (rest : Text) : Breaks isBlank (t ++ rest) := by
  cases h with
  | cons hfirst _ => exact breaks_cons.2 (isBlank_of_sameLetter hletter hfirst)

theorem dropLeadAnyCase?_eq_some_iff {lead t rest : Text} :
    dropLeadAnyCase? lead t = some rest ↔ ∃ found, SameLetters lead found ∧ t = found ++ rest := by
  induction lead generalizing t with
  | nil => simp [dropLeadAnyCase?, SameLetters]
  | cons letter lead ih =>
    cases t with
    | nil => simp [dropLeadAnyCase?, SameLetters, List.forall₂_cons_left_iff]
    | cons c t =>
      rw [dropLeadAnyCase?]
      split
      · rename_i hc
        rw [ih]
        constructor
        · rintro ⟨found, hfound, rfl⟩
          exact ⟨c :: found, .cons hc hfound, rfl⟩
        · rintro ⟨_ | ⟨d, found⟩, hfound, ht⟩
          · cases hfound
          · cases hfound with
            | cons _ hrest => exact ⟨found, hrest, (List.cons.inj ht).2⟩
      · rename_i hc
        constructor
        · intro h
          exact absurd h (by simp)
        · rintro ⟨_ | ⟨d, found⟩, hfound, ht⟩
          · cases hfound
          · cases hfound with
            | cons hd _ =>
              rw [← (List.cons.inj ht).1] at hd
              exact absurd hd hc

/-! ### Positions -/

/-- Something fits at some position of a text. -/
def Somewhere (fits : Text → Prop) (t : Text) : Prop := ∃ s, s <:+ t ∧ fits s

/-- The first position of a text at which something fits, as what begins there. -/
def FirstAt (fits : Text → Prop) (t s : Text) : Prop :=
  s <:+ t ∧ fits s ∧ ∀ other, other <:+ t → fits other → other <:+ s

/-- The last position of a text at which something fits, as what begins there. -/
def LastAt (fits : Text → Prop) (t s : Text) : Prop :=
  s <:+ t ∧ fits s ∧ ∀ other, other <:+ t → fits other → s <:+ other

theorem FirstAt.congr {fits other : Text → Prop} {t s : Text} (h : FirstAt fits t s)
    (hsame : ∀ s, s <:+ t → (fits s ↔ other s)) : FirstAt other t s := by
  obtain ⟨hs, hfits, hfirst⟩ := h
  refine ⟨hs, (hsame s hs).1 hfits, ?_⟩
  intro s' hs' hfits'
  exact hfirst s' hs' ((hsame s' hs').2 hfits')

theorem firstAt_of_leftmost? {read : Text → Option α} {t : Text} {a : α}
    (h : leftmost? read t = some a) :
    ∃ s, read s = some a ∧ FirstAt (fun s => (read s).isSome) t s := by
  induction t with
  | nil =>
    rw [leftmost?] at h
    refine ⟨[], h, List.suffix_refl [], Option.isSome_iff_exists.2 ⟨a, h⟩, ?_⟩
    intro other hother _
    exact hother
  | cons c rest ih =>
    rw [leftmost?] at h
    rcases Option.or_eq_some_iff.1 h with hread | ⟨hnone, hrest⟩
    · refine ⟨c :: rest, hread, List.suffix_refl _, Option.isSome_iff_exists.2 ⟨a, hread⟩, ?_⟩
      intro other hother _
      exact hother
    · obtain ⟨s, hread, hs, hsome, hfirst⟩ := ih hrest
      refine ⟨s, hread, hs.trans (List.suffix_cons c rest), hsome, ?_⟩
      intro other hother hfits
      rcases List.suffix_cons_iff.1 hother with rfl | hlater
      · rw [hnone] at hfits
        exact absurd hfits Bool.false_ne_true
      · exact hfirst other hlater hfits

/-- A search from the left finds the first position at which something fits, if there is one. -/
theorem leftmost?_cases {read : Text → Option α} {fits : Text → Prop} {t : Text}
    (hfits : ∀ s, s <:+ t → ((read s).isSome ↔ fits s)) :
    (leftmost? read t = none ∧ ¬Somewhere fits t) ∨
      ∃ a s, leftmost? read t = some a ∧ read s = some a ∧ FirstAt fits t s := by
  cases hfound : leftmost? read t with
  | none =>
    refine .inl ⟨rfl, ?_⟩
    rintro ⟨s, hs, hs'⟩
    rw [← hfits s hs, leftmost?_eq_none_iff.1 hfound s hs] at hs'
    exact Bool.false_ne_true hs'
  | some a =>
    obtain ⟨s, hread, hfirst⟩ := firstAt_of_leftmost? hfound
    exact .inr ⟨a, s, rfl, hread, hfirst.congr hfits⟩

theorem lastAt_of_rightmost? {read : Text → Option α} {t : Text} {a : α}
    (h : rightmost? read t = some a) :
    ∃ s, read s = some a ∧ LastAt (fun s => (read s).isSome) t s := by
  induction t with
  | nil =>
    rw [rightmost?] at h
    refine ⟨[], h, List.suffix_refl [], Option.isSome_iff_exists.2 ⟨a, h⟩, ?_⟩
    intro other _ _
    exact List.nil_suffix
  | cons c rest ih =>
    rw [rightmost?] at h
    rcases Option.or_eq_some_iff.1 h with hrest | ⟨hnone, hread⟩
    · obtain ⟨s, hread, hs, hsome, hlast⟩ := ih hrest
      refine ⟨s, hread, hs.trans (List.suffix_cons c rest), hsome, ?_⟩
      intro other hother hfits
      rcases List.suffix_cons_iff.1 hother with rfl | hlater
      · exact hs.trans (List.suffix_cons c rest)
      · exact hlast other hlater hfits
    · refine ⟨c :: rest, hread, List.suffix_refl _, Option.isSome_iff_exists.2 ⟨a, hread⟩, ?_⟩
      intro other hother hfits
      rcases List.suffix_cons_iff.1 hother with rfl | hlater
      · exact List.suffix_refl _
      · rw [rightmost?_eq_none_iff.1 hnone other hlater] at hfits
        exact absurd hfits Bool.false_ne_true

theorem LastAt.congr {fits other : Text → Prop} {t s : Text} (h : LastAt fits t s)
    (hsame : ∀ s, fits s ↔ other s) : LastAt other t s := by
  obtain ⟨hs, hfits, hlast⟩ := h
  refine ⟨hs, (hsame s).1 hfits, ?_⟩
  intro s' hs' hfits'
  exact hlast s' hs' ((hsame s').2 hfits')

/-- What begins with a character that does not occur in the first part begins in the second. -/
theorem suffix_of_suffix_append {c : Char} {s first second : Text}
    (h : c :: s <:+ first ++ second) (hc : c ∉ first) : c :: s <:+ second := by
  induction first with
  | nil => exact h
  | cons x first ih =>
    rw [List.mem_cons, not_or] at hc
    rcases List.suffix_cons_iff.1 h with hwhole | hlater
    · exact absurd (List.cons.inj hwhole).1 hc.1
    · exact ih hlater hc.2

/-! ### What is left of a text -/

theorem stripFrom_sublist (skip : Nat) (t : Text) : (stripFrom skip t).Sublist t := by
  fun_induction stripFrom skip t with
  | case1 => exact List.Sublist.refl _
  | case2 skip c rest ih => exact ih.cons c
  | case3 rest n hn ih => exact ih.cons escape
  | case4 rest hn ih => exact ih.cons_cons escape
  | case5 c rest hc ih => exact ih.cons_cons c

theorem isPrefix_trimEnd (t : Text) : trimEnd t <+: t := by
  have h := List.dropWhile_suffix (l := t.reverse) isBlank
  rw [← List.reverse_prefix, List.reverse_reverse] at h
  exact h

end ScriptRun.Text
