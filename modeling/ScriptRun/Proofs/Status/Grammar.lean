import ScriptRun.Proofs.Text.Runs
import ScriptRun.Status.Classification

/-!
# What the readers of a line read

Each pattern of a line is written down as what stands at the beginning of a text, part by part. The
readers try one way only to part a text, and take as much as they can for every part. The patterns
leave open how far a part goes. Both agree on where a pattern fits, and what a reader gives is the
one way to fit it in which the name is a whole word.
-/

namespace ScriptRun.Status

open Text

/-! ### Patterns -/

/-- At the beginning of a text: `[`, digits, `]`, white space, characters of a word, and the rest. -/
def IndexedAt (s digits name rest : Text) : Prop :=
  IsRun isDigit digits ∧ IsRun isWord name ∧
    ∃ blanks, IsRun isBlank blanks ∧ s = '[' :: (digits ++ ']' :: (blanks ++ (name ++ rest)))

/-- The same after a mark and white space. -/
def MarkedAt (marks : List Char) (s digits name rest : Text) : Prop :=
  ∃ mark ∈ marks, ∃ blanks after, IsRun isBlank blanks ∧ s = mark :: (blanks ++ after) ∧
    IndexedAt after digits name rest

/-- At the beginning of a text: digits and `ms` in parentheses. -/
def DurationAt (s digits : Text) : Prop :=
  IsRun isDigit digits ∧ ∃ rest, s = '(' :: (digits ++ 'm' :: 's' :: ')' :: rest)

def ellipsis : Text := ['.', '.', '.']

/-- A command that goes on: an index and a name, and three points at the end. -/
def RunningAt (s digits name : Text) : Prop :=
  ∃ rest, IndexedAt s digits name rest ∧ ellipsis <:+ rest

/-- A command that has passed: a check mark, an index and a name, and somewhere after them a
duration. -/
def PassedAt (s digits name : Text) : Prop :=
  ∃ rest, MarkedAt [checkMark] s digits name rest ∧ ∃ u duration, u <:+ rest ∧ DurationAt u duration

/-- The marks of a command that has failed. -/
def crosses : List Char := [redCross, ballotCross]

/-- A route that was loaded: a pin, and the number of its points between the words for it. -/
def LoadedAt (s digits : Text) : Prop :=
  IsRun isDigit digits ∧ ∃ gap₁ loaded gap₂ gap₃ gps gap₄ points rest,
    (∀ gap ∈ [gap₁, gap₂, gap₃, gap₄], IsRun isBlank gap) ∧
    SameLetters "Loaded".toList loaded ∧ SameLetters "GPS".toList gps ∧
    SameLetters "points".toList points ∧
    s = pin :: (gap₁ ++ (loaded ++ (gap₂ ++ (digits ++ (gap₃ ++ (gps ++
      (gap₄ ++ (points ++ rest))))))))

/-- A phrase that ends a mocked location. -/
def StoppedAt (s : Text) : Prop :=
  ∃ phrase rest, s = phrase ++ rest ∧
    (SameLetters "stopGps".toList phrase ∨ SameLetters "stopMockLocation".toList phrase ∨
      ∃ gps blanks stopped, SameLetters "GPS".toList gps ∧ IsRun isBlank blanks ∧
        SameLetters "stopped".toList stopped ∧ phrase = gps ++ (blanks ++ stopped))

/-! ### Readers -/

theorem digits?_eq_some_iff {t digits rest : Text} :
    digits? t = some (digits, rest) ↔
      IsRun isDigit digits ∧ Breaks isDigit rest ∧ t = digits ++ rest := by
  rw [← span_eq_iff]
  unfold digits?
  simp only [List.isEmpty_iff]
  constructor
  · intro h
    split at h
    · exact absurd h (by simp)
    · rename_i hne
      obtain ⟨rfl, rfl⟩ := Prod.mk.inj (Option.some.inj h)
      exact ⟨hne, rfl, rfl⟩
  · rintro ⟨hne, rfl, rfl⟩
    rw [if_neg hne]

theorem blanks?_eq_some_iff {t rest : Text} :
    blanks? t = some rest ↔
      ∃ blanks, IsRun isBlank blanks ∧ Breaks isBlank rest ∧ t = blanks ++ rest := by
  cases t with
  | nil =>
    constructor
    · intro h
      exact absurd h (by simp [blanks?])
    · rintro ⟨blanks, hblanks, -, ht⟩
      exact absurd (List.append_eq_nil_iff.1 ht.symm).1 hblanks.1
  | cons c t =>
    rw [blanks?, trimStart]
    constructor
    · intro h
      split at h
      · rename_i hc
        obtain rfl := Option.some.inj h
        refine ⟨c :: t.takeWhile isBlank, ⟨by simp, ?_⟩, breaks_dropWhile isBlank t, ?_⟩
        · intro d hd
          rcases List.mem_cons.1 hd with rfl | htaken
          · exact hc
          · exact List.mem_takeWhile_imp htaken
        · rw [List.cons_append, List.takeWhile_append_dropWhile]
      · exact absurd h (by simp)
    · rintro ⟨_ | ⟨d, blanks⟩, ⟨hne, hblanks⟩, hrest, ht⟩
      · exact absurd rfl hne
      · obtain ⟨rfl, rfl⟩ := List.cons.inj ht
        obtain ⟨hc, hmore⟩ := List.forall_mem_cons.1 hblanks
        rw [if_pos hc, List.append_eq, dropWhile_append_of_breaks hmore hrest]

/-- An index is read with the whole word after it. -/
theorem indexed?_eq_some_iff {s digits name rest : Text} :
    indexed? s = some (digits, name, rest) ↔
      IndexedAt s digits name rest ∧ Breaks isWord rest := by
  constructor
  · intro h
    unfold indexed? at h
    split at h
    · obtain ⟨⟨found, after⟩, hdigits, h⟩ := Option.bind_eq_some_iff.1 h
      obtain ⟨hrun, -, hs⟩ := digits?_eq_some_iff.1 hdigits
      simp only at h
      split at h
      · obtain ⟨word, hblanks, h⟩ := Option.bind_eq_some_iff.1 h
        obtain ⟨blanks, hblank, -, hafter⟩ := blanks?_eq_some_iff.1 hblanks
        simp only [List.isEmpty_iff] at h
        split at h
        · exact absurd h (by simp)
        · rename_i hne
          obtain ⟨rfl, rfl, rfl⟩ : _ = digits ∧ _ = name ∧ _ = rest := by
            simpa only [Option.some.injEq, Prod.mk.injEq] using h
          obtain ⟨hname, hbreaks, hword⟩ := span_eq_iff.1 ⟨hne, rfl, rfl⟩
          exact ⟨⟨hrun, hname, blanks, hblank, by rw [hs, hafter, ← hword]⟩, hbreaks⟩
      · exact absurd h (by simp)
    · exact absurd h (by simp)
  · rintro ⟨⟨hdigits, hname, blanks, hblanks, rfl⟩, hbreaks⟩
    have hread : digits? (digits ++ ']' :: (blanks ++ (name ++ rest))) =
        some (digits, ']' :: (blanks ++ (name ++ rest))) :=
      digits?_eq_some_iff.2 ⟨hdigits, breaks_cons.2 rfl, rfl⟩
    have hskip : blanks? (blanks ++ (name ++ rest)) = some (name ++ rest) :=
      blanks?_eq_some_iff.2
        ⟨blanks, hblanks, hname.breaks_append isBlank_excludes_isWord.symm rest, rfl⟩
    obtain ⟨hne, htake, hdrop⟩ := span_eq_iff.2 ⟨hname, hbreaks, rfl⟩
    unfold indexed?
    simp only [hread, Option.bind_eq_bind, Option.bind_some, hskip, htake, hdrop, List.isEmpty_iff,
      if_neg hne]

theorem marked?_eq_some_iff {marks : List Char} {s digits name rest : Text} :
    marked? marks s = some (digits, name, rest) ↔
      MarkedAt marks s digits name rest ∧ Breaks isWord rest := by
  constructor
  · intro h
    cases s with
    | nil => exact absurd h (by simp [marked?])
    | cons mark s =>
      rw [marked?] at h
      split at h
      · rename_i hmark
        obtain ⟨after, hblanks, hindexed⟩ := Option.bind_eq_some_iff.1 h
        obtain ⟨blanks, hblank, -, rfl⟩ := blanks?_eq_some_iff.1 hblanks
        obtain ⟨hat, hbreaks⟩ := indexed?_eq_some_iff.1 hindexed
        exact ⟨⟨mark, List.contains_iff_mem.1 hmark, blanks, after, hblank, rfl, hat⟩, hbreaks⟩
      · exact absurd h (by simp)
  · rintro ⟨⟨mark, hmark, blanks, after, hblanks, rfl, hat⟩, hbreaks⟩
    have hbracket : Breaks isBlank after := by
      obtain ⟨-, -, -, -, rfl⟩ := hat
      exact breaks_cons.2 rfl
    have hskip := blanks?_eq_some_iff.2 ⟨blanks, hblanks, hbracket, rfl⟩
    rw [marked?, if_pos (List.contains_iff_mem.2 hmark), hskip, Option.bind_some]
    exact indexed?_eq_some_iff.2 ⟨hat, hbreaks⟩

theorem durationAt?_eq_some_iff {s digits : Text} :
    durationAt? s = some digits ↔ DurationAt s digits := by
  constructor
  · intro h
    unfold durationAt? at h
    split at h
    · obtain ⟨⟨found, after⟩, hdigits, h⟩ := Option.bind_eq_some_iff.1 h
      obtain ⟨hrun, -, hs⟩ := digits?_eq_some_iff.1 hdigits
      simp only at h
      split at h
      · rename_i hunit
        obtain ⟨rest, rfl⟩ := startsWith_eq_true_iff.1 hunit
        obtain rfl := Option.some.inj h
        exact ⟨hrun, rest, by rw [hs]; rfl⟩
      · exact absurd h (by simp)
    · exact absurd h (by simp)
  · rintro ⟨hdigits, rest, rfl⟩
    have hread : digits? (digits ++ 'm' :: 's' :: ')' :: rest) =
        some (digits, 'm' :: 's' :: ')' :: rest) :=
      digits?_eq_some_iff.2 ⟨hdigits, breaks_cons.2 rfl, rfl⟩
    have hunit : startsWith ['m', 's', ')'] ('m' :: 's' :: ')' :: rest) = true :=
      startsWith_eq_true_iff.2 ⟨rest, rfl⟩
    unfold durationAt?
    simp only [hread, Option.bind_eq_bind, Option.bind_some, hunit, if_true]

theorem loadedAt?_eq_some_iff {s digits : Text} :
    loadedAt? s = some digits ↔ LoadedAt s digits := by
  constructor
  · intro h
    cases s with
    | nil => exact absurd h (by simp [loadedAt?])
    | cons c s =>
      rw [loadedAt?] at h
      split at h
      · rename_i hpin
        obtain ⟨_, h₁, h⟩ := Option.bind_eq_some_iff.1 h
        obtain ⟨_, h₂, h⟩ := Option.bind_eq_some_iff.1 h
        obtain ⟨_, h₃, h⟩ := Option.bind_eq_some_iff.1 h
        obtain ⟨⟨found, _⟩, h₄, h⟩ := Option.bind_eq_some_iff.1 h
        obtain ⟨_, h₅, h⟩ := Option.bind_eq_some_iff.1 h
        obtain ⟨_, h₆, h⟩ := Option.bind_eq_some_iff.1 h
        obtain ⟨_, h₇, h⟩ := Option.bind_eq_some_iff.1 h
        obtain ⟨rest, h₈, h⟩ := Option.bind_eq_some_iff.1 h
        obtain rfl := Option.some.inj h
        -- the parts are put together again from the right
        obtain ⟨points, hpoints, rfl⟩ := dropLeadAnyCase?_eq_some_iff.1 h₈
        obtain ⟨gap₄, hgap₄, -, rfl⟩ := blanks?_eq_some_iff.1 h₇
        obtain ⟨gps, hgps, rfl⟩ := dropLeadAnyCase?_eq_some_iff.1 h₆
        obtain ⟨gap₃, hgap₃, -, rfl⟩ := blanks?_eq_some_iff.1 h₅
        obtain ⟨hdigits, -, rfl⟩ := digits?_eq_some_iff.1 h₄
        obtain ⟨gap₂, hgap₂, -, rfl⟩ := blanks?_eq_some_iff.1 h₃
        obtain ⟨loaded, hloaded, rfl⟩ := dropLeadAnyCase?_eq_some_iff.1 h₂
        obtain ⟨gap₁, hgap₁, -, rfl⟩ := blanks?_eq_some_iff.1 h₁
        refine ⟨hdigits, gap₁, loaded, gap₂, gap₃, gps, gap₄, points, rest, ?_, hloaded, hgps,
          hpoints, by rw [hpin]⟩
        simpa using ⟨hgap₁, hgap₂, hgap₃, hgap₄⟩
      · exact absurd h (by simp)
  · rintro ⟨hdigits, gap₁, loaded, gap₂, gap₃, gps, gap₄, points, rest, hgaps, hloaded, hgps,
      hpoints, rfl⟩
    have hskip : ∀ gap ∈ [gap₁, gap₂, gap₃, gap₄], ∀ t, Breaks isBlank t →
        blanks? (gap ++ t) = some t := by
      intro gap hgap t ht
      exact blanks?_eq_some_iff.2 ⟨gap, hgaps gap hgap, ht, rfl⟩
    have hlead : ∀ {lead found} (t : Text), SameLetters lead found →
        dropLeadAnyCase? lead (found ++ t) = some t := by
      intro lead found t hfound
      exact dropLeadAnyCase?_eq_some_iff.2 ⟨found, hfound, rfl⟩
    have hread : ∀ t, digits? (digits ++ (gap₃ ++ t)) = some (digits, gap₃ ++ t) := by
      intro t
      have hgap₃ := hgaps gap₃ (by simp)
      exact digits?_eq_some_iff.2
        ⟨hdigits, hgap₃.breaks_append isBlank_excludes_isDigit t, rfl⟩
    have hdigit := hdigits.breaks_append isBlank_excludes_isDigit.symm
    rw [loadedAt?, if_pos rfl]
    simp only [hskip gap₁ (by simp) _ (hloaded.breaks_append rfl _), hlead _ hloaded,
      hskip gap₂ (by simp) _ (hdigit _), hread, hskip gap₃ (by simp) _ (hgps.breaks_append rfl _),
      hlead _ hgps, hskip gap₄ (by simp) _ (hpoints.breaks_append rfl _), hlead _ hpoints,
      Option.bind_eq_bind, Option.bind_some]

theorem stoppedAt?_eq_some_iff {s : Text} : stoppedAt? s = some () ↔ StoppedAt s := by
  have hphrase : ∀ lead, (dropLeadAnyCase? lead s).isSome = true ↔
      ∃ phrase rest, s = phrase ++ rest ∧ SameLetters lead phrase := by
    intro lead
    rw [Option.isSome_iff_exists]
    simp only [dropLeadAnyCase?_eq_some_iff]
    constructor
    · rintro ⟨rest, phrase, hphrase, hs⟩
      exact ⟨phrase, rest, hs, hphrase⟩
    · rintro ⟨phrase, rest, hs, hphrase⟩
      exact ⟨rest, phrase, hphrase, hs⟩
  unfold stoppedAt?
  constructor
  · intro h
    split at h
    · rename_i hone
      rw [Bool.or_eq_true, hphrase, hphrase] at hone
      rcases hone with ⟨phrase, rest, hs, hgps⟩ | ⟨phrase, rest, hs, hmock⟩
      · exact ⟨phrase, rest, hs, .inl hgps⟩
      · exact ⟨phrase, rest, hs, .inr (.inl hmock)⟩
    · obtain ⟨_, h₁, h⟩ := Option.bind_eq_some_iff.1 h
      obtain ⟨_, h₂, h⟩ := Option.bind_eq_some_iff.1 h
      obtain ⟨rest, h₃, -⟩ := Option.bind_eq_some_iff.1 h
      obtain ⟨stopped, hstopped, rfl⟩ := dropLeadAnyCase?_eq_some_iff.1 h₃
      obtain ⟨blanks, hblanks, -, rfl⟩ := blanks?_eq_some_iff.1 h₂
      obtain ⟨gps, hgps, rfl⟩ := dropLeadAnyCase?_eq_some_iff.1 h₁
      refine ⟨gps ++ (blanks ++ stopped), rest, by simp only [List.append_assoc], ?_⟩
      exact .inr (.inr ⟨gps, blanks, stopped, hgps, hblanks, hstopped, rfl⟩)
  · rintro ⟨phrase, rest, hs, h⟩
    split
    · rfl
    · rename_i hnone
      rw [Bool.or_eq_true, hphrase, hphrase, not_or] at hnone
      rcases h with hgps | hmock | ⟨gps, blanks, stopped, hgps, hblanks, hstopped, rfl⟩
      · exact absurd ⟨phrase, rest, hs, hgps⟩ hnone.1
      · exact absurd ⟨phrase, rest, hs, hmock⟩ hnone.2
      · have hbreaks : Breaks isBlank (stopped ++ rest) := hstopped.breaks_append rfl rest
        have h₁ : dropLeadAnyCase? "GPS".toList s = some (blanks ++ (stopped ++ rest)) :=
          dropLeadAnyCase?_eq_some_iff.2 ⟨gps, hgps, by rw [hs]; simp only [List.append_assoc]⟩
        have h₂ := blanks?_eq_some_iff.2 ⟨blanks, hblanks, hbreaks, rfl⟩
        have h₃ : dropLeadAnyCase? "stopped".toList (stopped ++ rest) = some rest :=
          dropLeadAnyCase?_eq_some_iff.2 ⟨stopped, hstopped, rfl⟩
        simp only [h₁, h₂, h₃, Option.bind_eq_bind, Option.bind_some]

/-! ### Whole words -/

/-- The name after an index goes on to the end of the word. -/
theorem IndexedAt.whole {s digits name rest : Text} (h : IndexedAt s digits name rest) :
    ∃ more after, rest = more ++ after ∧ (∀ c ∈ more, isWord c = true) ∧
      IndexedAt s digits (name ++ more) after ∧ Breaks isWord after := by
  obtain ⟨hdigits, ⟨hne, hname⟩, blanks, hblanks, rfl⟩ := h
  have hmore : ∀ c ∈ rest.takeWhile isWord, isWord c = true := fun c hc => List.mem_takeWhile_imp hc
  refine ⟨rest.takeWhile isWord, rest.dropWhile isWord, List.takeWhile_append_dropWhile.symm, hmore,
    ⟨hdigits, ⟨by simp [hne], ?_⟩, blanks, hblanks, ?_⟩, breaks_dropWhile isWord rest⟩
  · intro c hc
    rcases List.mem_append.1 hc with hin | hin
    · exact hname c hin
    · exact hmore c hin
  · rw [List.append_assoc, List.takeWhile_append_dropWhile]

theorem MarkedAt.whole {marks : List Char} {s digits name rest : Text}
    (h : MarkedAt marks s digits name rest) :
    ∃ more after, rest = more ++ after ∧ (∀ c ∈ more, isWord c = true) ∧
      MarkedAt marks s digits (name ++ more) after ∧ Breaks isWord after := by
  obtain ⟨mark, hmark, blanks, t, hblanks, rfl, hat⟩ := h
  obtain ⟨more, after, hrest, hmore, hwhole, hbreaks⟩ := hat.whole
  exact ⟨more, after, hrest, hmore, ⟨mark, hmark, blanks, t, hblanks, rfl, hwhole⟩, hbreaks⟩

theorem IndexedAt.rest_suffix {s digits name rest : Text} (h : IndexedAt s digits name rest) :
    rest <:+ s := by
  obtain ⟨-, -, blanks, -, rfl⟩ := h
  exact ⟨'[' :: (digits ++ ']' :: (blanks ++ name)), by simp⟩

theorem MarkedAt.rest_suffix {marks : List Char} {s digits name rest : Text}
    (h : MarkedAt marks s digits name rest) : rest <:+ s := by
  obtain ⟨mark, -, blanks, after, -, rfl, hat⟩ := h
  exact hat.rest_suffix.trans ⟨mark :: blanks, rfl⟩

theorem IndexedAt.isInfix_digits {s digits name rest : Text} (h : IndexedAt s digits name rest) :
    digits <:+: s := by
  obtain ⟨-, -, blanks, -, rfl⟩ := h
  exact ⟨['['], ']' :: (blanks ++ (name ++ rest)), by simp⟩

theorem MarkedAt.isInfix_digits {marks : List Char} {s digits name rest : Text}
    (h : MarkedAt marks s digits name rest) : digits <:+: s := by
  obtain ⟨mark, -, blanks, after, -, rfl, hat⟩ := h
  exact hat.isInfix_digits.trans ⟨mark :: blanks, [], by simp⟩

theorem MarkedAt.isRun_digits {marks : List Char} {s digits name rest : Text}
    (h : MarkedAt marks s digits name rest) : IsRun isDigit digits := by
  obtain ⟨mark, -, blanks, after, -, -, hat⟩ := h
  exact hat.1

theorem DurationAt.isInfix_digits {s digits : Text} (h : DurationAt s digits) : digits <:+: s := by
  obtain ⟨-, rest, rfl⟩ := h
  exact ⟨['('], 'm' :: 's' :: ')' :: rest, by simp⟩

theorem LoadedAt.isInfix_digits {s digits : Text} (h : LoadedAt s digits) : digits <:+: s := by
  obtain ⟨-, gap₁, loaded, gap₂, gap₃, gps, gap₄, points, rest, -, -, -, -, rfl⟩ := h
  exact ⟨pin :: (gap₁ ++ (loaded ++ gap₂)), gap₃ ++ (gps ++ (gap₄ ++ (points ++ rest))), by simp⟩

/-! ### Commands that go on, and that have passed -/

theorem endsInEllipsis_eq_true_iff {t : Text} :
    endsInEllipsis t = true ↔ '\n' ∉ t ∧ ellipsis <:+ t := by
  have hend : startsWith ['.', '.', '.'] t.reverse = true ↔ ellipsis <:+ t := by
    rw [startsWith_eq_true_iff, ← List.reverse_prefix]
    constructor
    · rintro ⟨rest, ht⟩
      exact ⟨rest, ht.symm⟩
    · rintro ⟨rest, ht⟩
      exact ⟨rest, ht.symm⟩
  rw [endsInEllipsis, Bool.and_eq_true, hend, Bool.not_eq_true', ← Bool.not_eq_true,
    List.contains_iff_mem]

theorem runningAt?_eq_some_iff {s digits name : Text} :
    runningAt? s = some (digits, name) ↔
      ∃ rest, IndexedAt s digits name rest ∧ Breaks isWord rest ∧ '\n' ∉ rest ∧
        ellipsis <:+ rest := by
  unfold runningAt?
  constructor
  · intro h
    obtain ⟨⟨found, word, rest⟩, hindexed, h⟩ := Option.bind_eq_some_iff.1 h
    obtain ⟨hat, hbreaks⟩ := indexed?_eq_some_iff.1 hindexed
    simp only at h
    split at h
    · rename_i hend
      obtain ⟨rfl, rfl⟩ := Prod.mk.inj (Option.some.inj h)
      exact ⟨rest, hat, hbreaks, endsInEllipsis_eq_true_iff.1 hend⟩
    · exact absurd h (by simp)
  · rintro ⟨rest, hat, hbreaks, hend⟩
    simp only [indexed?_eq_some_iff.2 ⟨hat, hbreaks⟩, Option.bind_eq_bind, Option.bind_some,
      endsInEllipsis_eq_true_iff.2 hend, if_true]

theorem passedAt?_eq_some_iff {s digits name duration : Text} :
    passedAt? s = some (digits, name, duration) ↔
      ∃ rest, MarkedAt [checkMark] s digits name rest ∧ Breaks isWord rest ∧
        rightmost? durationAt? (rest.takeWhile (· ≠ '\n')) = some duration := by
  unfold passedAt?
  constructor
  · intro h
    obtain ⟨⟨found, word, rest⟩, hmarked, h⟩ := Option.bind_eq_some_iff.1 h
    obtain ⟨hat, hbreaks⟩ := marked?_eq_some_iff.1 hmarked
    obtain ⟨last, hlast, h⟩ := Option.bind_eq_some_iff.1 h
    obtain ⟨rfl, rfl, rfl⟩ : _ = digits ∧ _ = name ∧ _ = duration := by
      simpa only [Option.some.injEq, Prod.mk.injEq] using h
    exact ⟨rest, hat, hbreaks, hlast⟩
  · rintro ⟨rest, hat, hbreaks, hlast⟩
    simp only [marked?_eq_some_iff.2 ⟨hat, hbreaks⟩, Option.bind_eq_bind, Option.bind_some, hlast]

theorem isSome_durationAt?_iff {s : Text} :
    (durationAt? s).isSome ↔ ∃ digits, DurationAt s digits := by
  rw [Option.isSome_iff_exists]
  simp only [durationAt?_eq_some_iff]

theorem isSome_loadedAt?_iff {s : Text} :
    (loadedAt? s).isSome ↔ ∃ digits, LoadedAt s digits := by
  rw [Option.isSome_iff_exists]
  simp only [loadedAt?_eq_some_iff]

theorem isSome_stoppedAt?_iff {s : Text} : (stoppedAt? s).isSome ↔ StoppedAt s := by
  rw [← stoppedAt?_eq_some_iff, Option.isSome_iff_exists]
  constructor
  · rintro ⟨⟨⟩, hread⟩
    exact hread
  · intro hread
    exact ⟨(), hread⟩

/-- The line ends in three points as soon as what follows an index does. -/
theorem somewhere_runningAt_iff {t : Text} :
    Somewhere (fun s => ∃ digits name, RunningAt s digits name) t ↔
      ellipsis <:+ t ∧ Somewhere (fun s => ∃ digits name rest, IndexedAt s digits name rest) t := by
  constructor
  · rintro ⟨s, hs, digits, name, rest, hat, hend⟩
    exact ⟨(hend.trans hat.rest_suffix).trans hs, s, hs, digits, name, rest, hat⟩
  · rintro ⟨hend, s, hs, digits, name, rest, hat⟩
    refine ⟨s, hs, digits, name, rest, hat, ?_⟩
    obtain ⟨hdigits, hname, blanks, hblanks, rfl⟩ := hat
    have hpoint : '.' ∉ '[' :: (digits ++ ']' :: (blanks ++ name)) := by
      have hdigit : '.' ∉ digits := fun h => Bool.false_ne_true (hdigits.2 _ h)
      have hblank : '.' ∉ blanks := fun h => Bool.false_ne_true (hblanks.2 _ h)
      have hword : '.' ∉ name := fun h => Bool.false_ne_true (hname.2 _ h)
      simp [hdigit, hblank, hword]
    refine suffix_of_suffix_append ?_ hpoint
    rcases List.suffix_or_suffix_of_suffix hend hs with hlong | hshort
    · simpa [ellipsis] using hlong
    · -- a bracket is not one of the points
      have hbracket := hshort.subset List.mem_cons_self
      exact absurd hbracket (by decide)

theorem isSome_marked?_iff {marks : List Char} {s : Text} :
    (marked? marks s).isSome ↔ ∃ digits name rest, MarkedAt marks s digits name rest := by
  constructor
  · intro h
    obtain ⟨⟨digits, name, rest⟩, hread⟩ := Option.isSome_iff_exists.1 h
    exact ⟨digits, name, rest, (marked?_eq_some_iff.1 hread).1⟩
  · rintro ⟨digits, name, rest, hat⟩
    obtain ⟨more, after, -, -, hwhole, hbreaks⟩ := hat.whole
    exact Option.isSome_iff_exists.2 ⟨_, marked?_eq_some_iff.2 ⟨hwhole, hbreaks⟩⟩

theorem isSome_runningAt?_iff {s : Text} (hline : '\n' ∉ s) :
    (runningAt? s).isSome ↔ ∃ digits name, RunningAt s digits name := by
  constructor
  · intro h
    obtain ⟨⟨digits, name⟩, hread⟩ := Option.isSome_iff_exists.1 h
    obtain ⟨rest, hat, -, -, hend⟩ := runningAt?_eq_some_iff.1 hread
    exact ⟨digits, name, rest, hat, hend⟩
  · rintro ⟨digits, name, rest, hat, hend⟩
    obtain ⟨more, after, rfl, hmore, hwhole, hbreaks⟩ := hat.whole
    have hafter : ellipsis <:+ after :=
      suffix_of_suffix_append hend fun h => Bool.false_ne_true (hmore _ h)
    refine Option.isSome_iff_exists.2 ⟨(digits, name ++ more), ?_⟩
    refine runningAt?_eq_some_iff.2 ⟨after, hwhole, hbreaks, ?_, hafter⟩
    exact fun h => hline (hwhole.rest_suffix.subset h)

/-- The reader of a passed command finds one wherever there is one, for a duration after some
characters of a word comes after the whole of it. -/
theorem isSome_passedAt?_iff {s : Text} (hline : '\n' ∉ s) :
    (passedAt? s).isSome ↔ ∃ digits name, PassedAt s digits name := by
  constructor
  · intro h
    obtain ⟨⟨digits, name, duration⟩, hread⟩ := Option.isSome_iff_exists.1 h
    obtain ⟨rest, hat, -, hlast⟩ := passedAt?_eq_some_iff.1 hread
    obtain ⟨u, hu, hsuffix, -⟩ := lastAt_of_rightmost? hlast
    rw [takeWhile_of_not_mem fun h => hline (hat.rest_suffix.subset h)] at hsuffix
    exact ⟨digits, name, rest, hat, u, duration, hsuffix, durationAt?_eq_some_iff.1 hu⟩
  · rintro ⟨digits, name, rest, hat, u, duration, hu, hduration⟩
    obtain ⟨more, after, rfl, hmore, hwhole, hbreaks⟩ := hat.whole
    have hafter : u <:+ after := by
      obtain ⟨hdigits, tail, rfl⟩ := hduration
      exact suffix_of_suffix_append hu fun h => Bool.false_ne_true (hmore _ h)
    cases hlast : rightmost? durationAt? after with
    | none =>
      have hnone := rightmost?_eq_none_iff.1 hlast u hafter
      rw [durationAt?_eq_some_iff.2 hduration] at hnone
      exact absurd hnone (by simp)
    | some last =>
      refine Option.isSome_iff_exists.2 ⟨(digits, name ++ more, last), ?_⟩
      refine passedAt?_eq_some_iff.2 ⟨after, hwhole, hbreaks, ?_⟩
      rw [takeWhile_of_not_mem fun h => hline (hwhole.rest_suffix.subset h), hlast]

end ScriptRun.Status
