import Mathlib.Data.List.Basic
import ScriptRun.CommandLine.GlobalFlags

/-!
# Where global flags stand

A command line is made of global options, each with its value if it has one, of other words, and
perhaps of a configuration flag at the end that has no value. The options come first, whatever stood
between them, and nothing else changes its place (`flags_first`).

What is a value and what is a flag is decided from the left, so a value may itself look like a flag.
It is decided in the same way when the options stand in front, so putting them there once is enough.
-/

namespace ScriptRun.CommandLine

/-- A global flag with all that belongs to it. -/
inductive GlobalOption where
  | json
  | v
  | verbose
  | configIs (path : Text)
  | config (value : Text)

def GlobalOption.words : GlobalOption → List Text
  | .json => ["--json".toList]
  | .v => ["-v".toList]
  | .verbose => ["--verbose".toList]
  | .configIs path => ["--config=".toList ++ path]
  | .config value => ["--config".toList, value]

def IsFlag (word : Text) : Prop := ∃ o : GlobalOption, o.words.head? = some word

/-- The words of global options and other words, both in order, put together in any way that does
not part an option from its value. -/
inductive Interleaves : List GlobalOption → List Text → List Text → Prop
  | nil : Interleaves [] [] []
  | option {options : List GlobalOption} {others words : List Text} (o : GlobalOption) :
    Interleaves options others words → Interleaves (o :: options) others (o.words ++ words)
  | word {options : List GlobalOption} {others words : List Text} (w : Text) :
    Interleaves options others words → Interleaves options (w :: others) (w :: words)

theorem exists_option {word : Text} (h : isGlobalFlag word = true) :
    ∃ o : GlobalOption, o.words = [word] := by
  simp only [isGlobalFlag, Bool.or_eq_true, decide_eq_true_eq, Text.startsWith,
    Option.isSome_iff_exists, Text.dropLead?_eq_some] at h
  obtain ((rfl | rfl) | rfl) | ⟨path, rfl⟩ := h
  · exact ⟨.json, rfl⟩
  · exact ⟨.v, rfl⟩
  · exact ⟨.verbose, rfl⟩
  · exact ⟨.configIs path, rfl⟩

theorem isFlag_iff {word : Text} :
    IsFlag word ↔ isGlobalFlag word = true ∨ word = configFlag := by
  constructor
  · rintro ⟨o, ho⟩
    cases o with
    | config value => exact .inr (Option.some.inj ho).symm
    | _ =>
      obtain rfl := Option.some.inj ho
      exact .inl rfl
  · intro h
    rcases h with h | rfl
    · obtain ⟨o, ho⟩ := exists_option h
      exact ⟨o, by rw [ho]; rfl⟩
    · exact ⟨.config [], rfl⟩

instance (word : Text) : Decidable (IsFlag word) := decidable_of_iff _ isFlag_iff.symm

/-! ### One part at a time -/

theorem divided_cons_of_isGlobalFlag {word : Text} (h : isGlobalFlag word = true)
    (rest : List Text) : divided (word :: rest) = (word :: (divided rest).1, (divided rest).2) := by
  rw [divided.eq_def]
  simp only [if_pos h]

theorem divided_cons_of_not_isFlag {word : Text} (h : ¬IsFlag word) (rest : List Text) :
    divided (word :: rest) = ((divided rest).1, word :: (divided rest).2) := by
  rw [isFlag_iff, not_or] at h
  rw [divided.eq_def]
  simp only [if_neg h.1, if_neg h.2]

theorem divided_option (o : GlobalOption) (rest : List Text) :
    divided (o.words ++ rest) = (o.words ++ (divided rest).1, (divided rest).2) := by
  cases o with
  | config value =>
    rw [divided.eq_def]
    rfl
  | _ => exact divided_cons_of_isGlobalFlag rfl rest

namespace Interleaves

variable {options : List GlobalOption} {others words : List Text}

/-- What an interleaving is divided into, whatever follows it. -/
theorem divided_append (h : Interleaves options others words) (hothers : ∀ w ∈ others, ¬IsFlag w)
    (ending : List Text) :
    divided (words ++ ending) =
      (options.flatMap GlobalOption.words ++ (divided ending).1, others ++ (divided ending).2) := by
  induction h with
  | nil => rfl
  | option o h ih =>
    rw [List.append_assoc, divided_option, ih hothers, List.flatMap_cons, List.append_assoc]
  | word w h ih =>
    obtain ⟨hw, hothers⟩ := List.forall_mem_cons.mp hothers
    rw [List.cons_append, divided_cons_of_not_isFlag hw, ih hothers, List.cons_append]

theorem perm (h : Interleaves options others words) :
    (options.flatMap GlobalOption.words ++ others).Perm words := by
  induction h with
  | nil => exact .nil
  | option o h ih =>
    rw [List.flatMap_cons, List.append_assoc]
    exact ih.append_left o.words
  | word w h ih => exact List.perm_middle.trans (ih.cons w)

/-- The options may stand in front of all other words. -/
theorem options_first (options : List GlobalOption) (others : List Text) :
    Interleaves options others (options.flatMap GlobalOption.words ++ others) := by
  induction options with
  | cons o options ih =>
    rw [List.flatMap_cons, List.append_assoc]
    exact ih.option o
  | nil =>
    induction others with
    | nil => exact .nil
    | cons w others ih => exact ih.word w

end Interleaves

/-- The ways in which a command line ends after its last option or word. -/
def IsEnding (ending : List Text) : Prop := ending = [] ∨ ending = [configFlag]

theorem divided_ending {ending : List Text} (h : IsEnding ending) : divided ending = ([], ending) := by
  rcases h with rfl | rfl
  · rfl
  · rfl

theorem withFlagsFirst_append {options : List GlobalOption} {others words ending : List Text}
    (h : Interleaves options others words) (hothers : ∀ w ∈ others, ¬IsFlag w)
    (hending : IsEnding ending) :
    withFlagsFirst (words ++ ending) =
      options.flatMap GlobalOption.words ++ others ++ ending := by
  simp only [withFlagsFirst, h.divided_append hothers, divided_ending hending, List.append_nil,
    List.append_assoc]

/-- Every command line is an interleaving and an ending. -/
theorem exists_interleaves (words : List Text) :
    ∃ options others front ending, Interleaves options others front ∧
      (∀ w ∈ others, ¬IsFlag w) ∧ IsEnding ending ∧ words = front ++ ending := by
  fun_induction divided words with
  | case1 =>
    exact ⟨[], [], [], [], .nil, List.forall_mem_nil _, .inl rfl, rfl⟩
  | case2 word rest hflag _ _ _ ih =>
    obtain ⟨options, others, front, ending, h, hothers, hending, rfl⟩ := ih
    obtain ⟨o, ho⟩ := exists_option hflag
    refine ⟨o :: options, others, o.words ++ front, ending, h.option o, hothers, hending, ?_⟩
    rw [ho, List.singleton_append, List.cons_append]
  | case3 =>
    exact ⟨[], [], [], [configFlag], .nil, List.forall_mem_nil _, .inr rfl, rfl⟩
  | case4 value rest _ _ _ _ ih =>
    obtain ⟨options, others, front, ending, h, hothers, hending, rfl⟩ := ih
    exact ⟨.config value :: options, others, _, ending, h.option (.config value), hothers, hending,
      rfl⟩
  | case5 word rest hflag hconfig _ _ _ ih =>
    obtain ⟨options, others, front, ending, h, hothers, hending, rfl⟩ := ih
    have hword : ¬IsFlag word := by
      rw [isFlag_iff, not_or]
      exact ⟨hflag, hconfig⟩
    exact ⟨options, word :: others, word :: front, ending, h.word word,
      List.forall_mem_cons.mpr ⟨hword, hothers⟩, hending, rfl⟩

/-- However global options stand among other words, they come first, and then the other words, both
in their order. Of any command line nothing is lost or added, a flag at its end that lacks its value
stays there, and putting the options first once more changes nothing. -/
theorem flags_first :
    (∀ options others words ending, Interleaves options others words →
      (∀ w ∈ others, ¬IsFlag w) → IsEnding ending →
      withFlagsFirst (words ++ ending) =
        options.flatMap GlobalOption.words ++ others ++ ending) ∧
    ∀ words : List Text,
      (∃ options others front ending, words = front ++ ending ∧
        Interleaves options others front ∧ (∀ w ∈ others, ¬IsFlag w) ∧ IsEnding ending ∧
        withFlagsFirst words = options.flatMap GlobalOption.words ++ others ++ ending) ∧
      (withFlagsFirst words).Perm words ∧
      withFlagsFirst (withFlagsFirst words) = withFlagsFirst words := by
  constructor
  · intro options others words ending h hothers hending
    exact withFlagsFirst_append h hothers hending
  · intro words
    obtain ⟨options, others, front, ending, h, hothers, hending, rfl⟩ := exists_interleaves words
    have hfirst := withFlagsFirst_append h hothers hending
    refine ⟨⟨options, others, front, ending, rfl, h, hothers, hending, hfirst⟩, ?_, ?_⟩
    · rw [hfirst]
      exact h.perm.append_right ending
    · rw [hfirst]
      exact withFlagsFirst_append (.options_first options others) hothers hending

/-- A value that looks like a flag, and a flag at the end that has no value. -/
theorem flags_first_flag_as_value :
    let others := ["run".toList, "a.yaml".toList]
    (∀ w ∈ others, ¬IsFlag w) ∧
      withFlagsFirst ["run".toList, "--config".toList, "--json".toList, "a.yaml".toList,
        "-v".toList, "--config".toList] =
      ["--config".toList, "--json".toList, "-v".toList, "run".toList, "a.yaml".toList,
        "--config".toList] := by
  intro others
  have hothers : ∀ w ∈ others, ¬IsFlag w := by decide
  have h : Interleaves [.config "--json".toList, .v] others _ :=
    .word _ (.option _ (.word _ (.option _ .nil)))
  exact ⟨hothers, flags_first.1 _ _ _ _ h hothers (.inr rfl)⟩

end ScriptRun.CommandLine
