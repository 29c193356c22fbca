import ScriptRun.Proofs.Status.ShortLines

/-!
# The grammar of a line

Every rule has a pattern, and it fits a line in which the pattern fits somewhere. The first rule that
fits decides what the line says (`readBy_fits`); it says it with the numbers and the name that stand
at the first position at which the pattern fits. Two of the patterns exclude each other, because no
mark of a result may stand in a line about a command that goes on.
-/

namespace ScriptRun.Status

open Text

/-- The pattern of a rule fits at the beginning of a text. -/
def Rule.FitsAt : Rule → Text → Prop
  | .running, s => ∃ digits name, RunningAt s digits name
  | .passed, s => ∃ digits name, PassedAt s digits name
  | .failed, s => ∃ digits name rest, MarkedAt crosses s digits name rest
  | .locationStarted, s => ∃ digits, LoadedAt s digits
  | .locationStopped, s => StoppedAt s

/-- What a rule is about stands in a text. -/
def Rule.Fits (t : Text) : Rule → Prop
  | .running => (∀ mark ∈ checkMark :: crosses, mark ∉ t) ∧ ellipsis <:+ t ∧
      Somewhere (fun s => ∃ digits name rest, IndexedAt s digits name rest) t
  | .passed => Somewhere Rule.passed.FitsAt t
  | .failed => Somewhere Rule.failed.FitsAt t
  | .locationStarted => Somewhere Rule.locationStarted.FitsAt t
  | .locationStopped => Somewhere Rule.locationStopped.FitsAt t

/-- What a reading says stands in a text: the index and the whole of the name at the first position
at which the pattern fits, and after them the last of the durations. -/
def Reading.StandsIn (t : Text) : Reading → Prop
  | .running index name => ∃ s digits rest, FirstAt Rule.running.FitsAt t s ∧
      IndexedAt s digits name rest ∧ Breaks isWord rest ∧ index = digitsValue digits
  | .passed index name durationMs => ∃ s digits rest u duration,
      FirstAt Rule.passed.FitsAt t s ∧
      MarkedAt [checkMark] s digits name rest ∧ Breaks isWord rest ∧ index = digitsValue digits ∧
      LastAt (fun u => ∃ duration, DurationAt u duration) rest u ∧ DurationAt u duration ∧
      durationMs = digitsValue duration
  | .failed index name => ∃ s digits rest, FirstAt Rule.failed.FitsAt t s ∧
      MarkedAt crosses s digits name rest ∧ Breaks isWord rest ∧ index = digitsValue digits
  | .locationStarted points => ∃ s digits, FirstAt Rule.locationStarted.FitsAt t s ∧
      LoadedAt s digits ∧ points = digitsValue digits
  | .locationStopped | .unmatched => True

/-! ### One rule -/

theorem any_mark_iff {t : Text} :
    (t.any fun c => c = checkMark || c = redCross || c = ballotCross) = true ↔
      ∃ mark ∈ checkMark :: crosses, mark ∈ t := by
  rw [List.any_eq_true]
  constructor
  · rintro ⟨c, hc, hmark⟩
    exact ⟨c, by simpa [crosses, or_assoc] using hmark, hc⟩
  · rintro ⟨c, hmark, hc⟩
    exact ⟨c, hc, by simpa [crosses, or_assoc] using hmark⟩

/-- A rule reads something exactly in the lines in which its pattern fits. -/
theorem Rule.read_cases {t : Text} (hline : '\n' ∉ t) (hfew : FewDigits t) (rule : Rule) :
    (rule.read t = .ok none ∧ ¬rule.Fits t) ∨
      ∃ reading, rule.read t = .ok (some reading) ∧ rule.Fits t ∧ reading.kind = rule.kind ∧
        reading.StandsIn t := by
  have hlater : ∀ s, s <:+ t → '\n' ∉ s := fun s hs h => hline (hs.subset h)
  cases rule with
  | running =>
    rw [Rule.read, Rule.Fits]
    by_cases hmarked : (t.any fun c => c = checkMark || c = redCross || c = ballotCross) = true
    · obtain ⟨mark, hmark, hmem⟩ := any_mark_iff.1 hmarked
      rw [if_pos hmarked]
      exact .inl ⟨rfl, fun h => h.1 mark hmark hmem⟩
    · have hplain : ∀ mark ∈ checkMark :: crosses, mark ∉ t := by
        intro mark hmark hmem
        exact hmarked (any_mark_iff.2 ⟨mark, hmark, hmem⟩)
      rw [if_neg hmarked, ← somewhere_runningAt_iff]
      rcases leftmost?_cases fun s hs => isSome_runningAt?_iff (hlater s hs) with
        ⟨hnone, hno⟩ | ⟨⟨digits, name⟩, s, hsome, hread, hfirst⟩
      · rw [hnone]
        exact .inl ⟨rfl, fun h => hno h.2⟩
      · obtain ⟨rest, hat, hbreaks, -⟩ := runningAt?_eq_some_iff.1 hread
        have hnumber := hfew.number_eq hfirst.1 hat.isInfix_digits hat.1
        rw [hsome]
        simp only [hnumber]
        exact .inr ⟨_, rfl, ⟨hplain, s, hfirst.1, hfirst.2.1⟩, rfl,
          s, digits, rest, hfirst, hat, hbreaks, rfl⟩
  | passed =>
    rw [Rule.read, Rule.Fits]
    rcases leftmost?_cases fun s hs => isSome_passedAt?_iff (hlater s hs) with
      ⟨hnone, hno⟩ | ⟨⟨digits, name, duration⟩, s, hsome, hread, hfirst⟩
    · rw [hnone]
      exact .inl ⟨rfl, hno⟩
    · obtain ⟨rest, hat, hbreaks, hlast⟩ := passedAt?_eq_some_iff.1 hread
      have hrest := hat.rest_suffix.trans hfirst.1
      rw [takeWhile_of_not_mem (hlater rest hrest)] at hlast
      obtain ⟨u, hu, hlast⟩ := lastAt_of_rightmost? hlast
      have hduration := durationAt?_eq_some_iff.1 hu
      have hlastAt : LastAt (fun u => ∃ duration, DurationAt u duration) rest u :=
        hlast.congr fun _ => isSome_durationAt?_iff
      have hindex := hfew.number_eq hfirst.1 hat.isInfix_digits hat.isRun_digits
      have hms := hfew.number_eq (hlast.1.trans hrest) hduration.isInfix_digits hduration.1
      rw [hsome]
      simp only [hindex, hms]
      exact .inr ⟨_, rfl, ⟨s, hfirst.1, hfirst.2.1⟩, rfl, s, digits, rest, u, duration, hfirst, hat,
        hbreaks, rfl, hlastAt, hduration, rfl⟩
  | failed =>
    rw [Rule.read, Rule.Fits]
    rcases leftmost?_cases fun s _ => isSome_marked?_iff with
      ⟨hnone, hno⟩ | ⟨⟨digits, name, rest⟩, s, hsome, hread, hfirst⟩
    · rw [hnone]
      exact .inl ⟨rfl, hno⟩
    · obtain ⟨hat, hbreaks⟩ := marked?_eq_some_iff.1 hread
      have hnumber := hfew.number_eq hfirst.1 hat.isInfix_digits hat.isRun_digits
      rw [hsome]
      simp only [hnumber]
      exact .inr ⟨_, rfl, ⟨s, hfirst.1, hfirst.2.1⟩, rfl, s, digits, rest, hfirst, hat, hbreaks, rfl⟩
  | locationStarted =>
    rw [Rule.read, Rule.Fits]
    rcases leftmost?_cases fun s _ => isSome_loadedAt?_iff with
      ⟨hnone, hno⟩ | ⟨digits, s, hsome, hread, hfirst⟩
    · rw [hnone]
      exact .inl ⟨rfl, hno⟩
    · have hat := loadedAt?_eq_some_iff.1 hread
      have hnumber := hfew.number_eq hfirst.1 hat.isInfix_digits hat.1
      rw [hsome]
      simp only [hnumber]
      exact .inr ⟨_, rfl, ⟨s, hfirst.1, hfirst.2.1⟩, rfl, s, digits, hfirst, hat, rfl⟩
  | locationStopped =>
    rw [Rule.read, Rule.Fits]
    rcases leftmost?_cases fun s _ => isSome_stoppedAt?_iff with
      ⟨hnone, hno⟩ | ⟨⟨⟩, s, hsome, hread, hfirst⟩
    · rw [hnone]
      exact .inl ⟨rfl, hno⟩
    · rw [hsome]
      exact .inr ⟨_, rfl, ⟨s, hfirst.1, hfirst.2.1⟩, rfl, trivial⟩

/-! ### Rules in order -/

theorem Rule.kind_injective {rule other : Rule} (h : rule.kind = other.kind) : rule = other := by
  cases rule <;> cases other <;> first | rfl | exact absurd h (by decide)

theorem Rule.kind_ne_unmatched (rule : Rule) : rule.kind ≠ .unmatched := by
  cases rule <;> decide

/-- The kind of a reading is that of the first rule that fits. -/
theorem readBy_fits {t : Text} (hline : '\n' ∉ t) (hfew : FewDigits t) {rules : List Rule}
    (hrules : rules.Nodup) :
    ∃ reading, readBy t rules = .ok reading ∧ reading.StandsIn t ∧
      (∀ rule, reading.kind = rule.kind ↔
        rule ∈ rules ∧ rule.Fits t ∧ ∀ earlier ∈ rules.takeWhile (· ≠ rule), ¬earlier.Fits t) ∧
      (reading.kind = .unmatched ↔ ∀ rule ∈ rules, ¬rule.Fits t) := by
  induction rules with
  | nil =>
    refine ⟨.unmatched, rfl, trivial, ?_, by simp [Reading.kind]⟩
    intro rule
    exact iff_of_false rule.kind_ne_unmatched.symm (by simp)
  | cons first rest ih =>
    obtain ⟨hfresh, hrest⟩ := List.nodup_cons.1 hrules
    rw [readBy]
    rcases first.read_cases hline hfew with ⟨hread, hno⟩ | ⟨reading, hread, hfits, hkind, hstands⟩
    · obtain ⟨reading, hreading, hstands, hkinds, hunmatched⟩ := ih hrest
      rw [hread]
      refine ⟨reading, hreading, hstands, ?_, ?_⟩
      · intro rule
        rw [hkinds rule]
        by_cases hsame : first = rule
        · subst hsame
          exact iff_of_false (fun h => hfresh h.1) (fun h => hno h.2.1)
        · rw [List.takeWhile_cons_of_pos (by simpa using hsame)]
          simp [hno, Ne.symm hsame]
      · rw [hunmatched]
        simp [hno]
    · rw [hread]
      refine ⟨reading, rfl, hstands, ?_, ?_⟩
      · intro rule
        rw [hkind]
        by_cases hsame : first = rule
        · subst hsame
          simp [hfits]
        · rw [List.takeWhile_cons_of_pos (by simpa using hsame)]
          refine iff_of_false (fun h => hsame (Rule.kind_injective h)) ?_
          rintro ⟨-, -, hearlier⟩
          exact hearlier first List.mem_cons_self hfits
      · rw [hkind]
        refine iff_of_false first.kind_ne_unmatched ?_
        intro hnone
        exact hnone first List.mem_cons_self hfits

theorem MarkedAt.exists_mem {marks : List Char} {s digits name rest t : Text}
    (h : MarkedAt marks s digits name rest) (hs : s <:+ t) : ∃ mark ∈ marks, mark ∈ t := by
  obtain ⟨mark, hmark, blanks, after, -, rfl, -⟩ := h
  exact ⟨mark, hmark, hs.subset List.mem_cons_self⟩

/-- A line about a command that goes on says nothing of a result. -/
theorem Rule.not_running_of_result {t : Text} (h : Rule.passed.Fits t ∨ Rule.failed.Fits t) :
    ¬Rule.running.Fits t := by
  rintro ⟨hmarks, -⟩
  rcases h with ⟨s, hs, digits, name, rest, hat, -⟩ | ⟨s, hs, digits, name, rest, hat⟩
  · obtain ⟨mark, hmark, hmem⟩ := hat.exists_mem hs
    exact hmarks mark (List.mem_cons.2 (.inl (List.mem_singleton.1 hmark))) hmem
  · obtain ⟨mark, hmark, hmem⟩ := hat.exists_mem hs
    exact hmarks mark (List.mem_cons_of_mem _ hmark) hmem

/-- What a line says is told by its patterns alone. It is about a command that goes on if it has no
mark of a result, ends in three points and has an index with a name. It is about a command that has
passed, or else one that has failed, if a mark of that result stands before an index with a name,
and for a passed one a duration after them. Only without any of these it is about a mocked location.
The index and the name are those at the first position at which the pattern fits, the name goes on to
the end of the word, and the duration is the last one. -/
theorem classify_grammar (line : Text) (hline : '\n' ∉ line)
    (hfew : FewDigits (normalizedLine line)) :
    let t := normalizedLine line
    ∃ reading, classify line = .ok ⟨t, reading⟩ ∧ reading.StandsIn t ∧
      (reading.kind = .running ↔ Rule.running.Fits t) ∧
      (reading.kind = .passed ↔ Rule.passed.Fits t) ∧
      (reading.kind = .failed ↔ ¬Rule.passed.Fits t ∧ Rule.failed.Fits t) ∧
      (reading.kind = .locationStarted ↔
        (∀ rule ∈ [Rule.running, .passed, .failed], ¬rule.Fits t) ∧ Rule.locationStarted.Fits t) ∧
      (reading.kind = .locationStopped ↔
        (∀ rule ∈ [Rule.running, .passed, .failed, .locationStarted], ¬rule.Fits t) ∧
          Rule.locationStopped.Fits t) ∧
      (reading.kind = .unmatched ↔ ∀ rule : Rule, ¬rule.Fits t) := by
  intro t
  have hsubset : t ⊆ line := by
    intro c hc
    exact (stripFrom_sublist 0 line).subset ((isPrefix_trimEnd _).subset hc)
  obtain ⟨reading, hread, hstands, hkinds, hunmatched⟩ :=
    readBy_fits (fun h => hline (hsubset h)) hfew (show Rule.all.Nodup by decide)
  have hall : ∀ rule, rule ∈ Rule.all := by
    intro rule
    cases rule <;> decide
  have hfirst : ∀ rule earlier, Rule.all.takeWhile (· ≠ rule) = earlier →
      (reading.kind = rule.kind ↔ rule.Fits t ∧ ∀ other ∈ earlier, ¬other.Fits t) := by
    rintro rule earlier rfl
    rw [hkinds, and_iff_right (hall rule)]
  have hresult : Rule.passed.Fits t ∨ Rule.failed.Fits t → ¬Rule.running.Fits t :=
    Rule.not_running_of_result
  refine ⟨reading, ?_, hstands, ?_, ?_, ?_, ?_, ?_, ?_⟩
  · rw [classify, classifyBy, hread]
    rfl
  · rw [show LineKind.running = Rule.running.kind from rfl, hfirst .running [] rfl]
    exact and_iff_left (by simp)
  · rw [show LineKind.passed = Rule.passed.kind from rfl, hfirst .passed [.running] rfl,
      List.forall_mem_singleton]
    exact and_iff_left_of_imp fun h => hresult (.inl h)
  · rw [show LineKind.failed = Rule.failed.kind from rfl, hfirst .failed [.running, .passed] rfl,
      List.forall_mem_cons, List.forall_mem_singleton]
    constructor
    · rintro ⟨hfits, -, hpassed⟩
      exact ⟨hpassed, hfits⟩
    · rintro ⟨hpassed, hfits⟩
      exact ⟨hfits, hresult (.inr hfits), hpassed⟩
  · rw [show LineKind.locationStarted = Rule.locationStarted.kind from rfl,
      hfirst .locationStarted [.running, .passed, .failed] rfl, and_comm]
  · rw [show LineKind.locationStopped = Rule.locationStopped.kind from rfl,
      hfirst .locationStopped [.running, .passed, .failed, .locationStarted] rfl, and_comm]
  · rw [hunmatched]
    exact ⟨fun h rule => h rule (hall rule), fun h rule _ => h rule⟩

/-- A line with a mark that fits nothing, two that fit, and two durations. -/
def crowdedLine : Text :=
  "\x1b[32m✓ [3] ✓ [07]  tapOn2... ✓ [9] back (5ms) \x1b[0m(77ms) ".toList

theorem classify_grammar_crowdedLine :
    '\n' ∉ crowdedLine ∧ FewDigits (normalizedLine crowdedLine) ∧
      classify crowdedLine = .ok ⟨normalizedLine crowdedLine, .passed 7 "tapOn2".toList 77⟩ ∧
      (Reading.passed 7 "tapOn2".toList 77).StandsIn (normalizedLine crowdedLine) ∧
      Rule.passed.Fits (normalizedLine crowdedLine) := by
  have hline : '\n' ∉ crowdedLine := by decide
  have hfew : FewDigits (normalizedLine crowdedLine) :=
    FewDigits.of_length_le (by decide +kernel)
  have hread : classify crowdedLine =
      .ok ⟨normalizedLine crowdedLine, .passed 7 "tapOn2".toList 77⟩ := by decide +kernel
  obtain ⟨reading, hreading, hstands, -, hpassed, -⟩ := classify_grammar crowdedLine hline hfew
  obtain rfl : reading = .passed 7 "tapOn2".toList 77 := by
    rw [hread] at hreading
    simpa using hreading.symm
  exact ⟨hline, hfew, hread, hstands, hpassed.1 rfl⟩

end ScriptRun.Status
