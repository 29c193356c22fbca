import ScriptRun.Proofs.Run.Entries

/-!
# The recent lines of a log

A log keeps the last lines that it was told since it was started, and hands out the last ones of
these. A count of zero is the exception: it cuts nothing off, and so it gives all lines.
-/

namespace ScriptRun.Run.Log

open Files

/-- The lines that a log was told since it was started last. -/
def linesSince (steps : List Step) : List Text :=
  steps.foldl (fun lines s =>
    match s with
    | .start .. => []
    | .note n => lines ++ n.line?.toList) []

theorem linesSince_concat_note (steps : List Step) (n : Note) :
    linesSince (steps ++ [.note n]) = linesSince steps ++ n.line?.toList := by
  rw [linesSince, List.foldl_concat]
  rfl

theorem linesSince_concat_start (steps : List Step) (file : Text) (argv : List Text) :
    linesSince (steps ++ [.start file argv]) = [] := by
  rw [linesSince, List.foldl_concat]

/-- After every history the lines since the last start are counted, and the last of them kept. -/
theorem exists_agrees_follow (d : Desk) (hcount : d.log.linesLogged = 0) (hlines : d.log.lines = [])
    (steps : List Step) : ∃ content, (d.follow steps).Agrees content (linesSince steps) := by
  induction steps using List.reverseRecOn with
  | nil => exact ⟨_, rfl, hcount, hlines.trans (List.suffix_nil.1 (kept_suffix _ [])).symm⟩
  | append_singleton steps s ih =>
    obtain ⟨content, hagrees⟩ := ih
    rw [Desk.follow_append]
    cases s with
    | start file argv =>
      obtain ⟨after, htake, -, -, hafter, -⟩ := (d.follow steps).take_start file argv
      rw [linesSince_concat_start, Desk.follow, List.foldl_cons, htake]
      exact ⟨_, hafter⟩
    | note n =>
      rw [linesSince_concat_note, Desk.follow, List.foldl_cons, Desk.take_note]
      exact ⟨_, hagrees.note n⟩

theorem recent_succ (log : Log) (k : Nat) :
    log.recent (some (k + 1 : Nat)) = kept (some (k + 1)) (log.recent none) := by
  simp only [recent, kept]
  split
  · rw [Nat.sub_eq_zero_of_le (by omega), List.drop_zero]
  · rw [if_pos (by omega), Int.toNat_natCast]

theorem recent_zero (log : Log) : log.recent (some 0) = log.recent none := by
  simp only [recent]
  split <;> rfl

/-- Whatever a log was told, it keeps the last of the lines since it was started, and a positive
count gives the last of these, that many or all of them; a larger count gives more at the front. A
count of zero gives all. -/
theorem recent_is_last (directory : Text) (keep : Nat) (files : Memory) (clock : Time.Clock)
    (steps : List Step) :
    let log := (Desk.follow ⟨{ directory, keep := some keep }, files, clock⟩ steps).log
    log.recent none <:+ linesSince steps ∧
      (log.recent none).length = min keep (linesSince steps).length ∧
      (∀ k : Nat,
        (log.recent (some (k + 1 : Nat))).length = min (k + 1) (log.recent none).length ∧
          log.recent (some (k + 1 : Nat)) <:+ log.recent none) ∧
      (∀ j more : Nat,
        log.recent (some (j + 1 : Nat)) <:+ log.recent (some (j + more + 1 : Nat))) ∧
      log.recent (some 0) = log.recent none := by
  intro log
  obtain ⟨content, hagrees⟩ :=
    exists_agrees_follow ⟨{ directory, keep := some keep }, files, clock⟩ rfl rfl steps
  obtain ⟨-, hkeep, -⟩ :=
    Desk.follow_keeps ⟨{ directory, keep := some keep }, files, clock⟩ steps
  have hrecent : log.recent none = kept (some keep) (linesSince steps) :=
    hagrees.kept.trans (congrArg (kept · _) hkeep)
  refine ⟨?_, ?_, fun k => ⟨?_, ?_⟩, fun j more => ?_, log.recent_zero⟩
  · rw [hrecent]
    exact kept_suffix ..
  · rw [hrecent]
    exact length_kept ..
  · rw [recent_succ]
    exact length_kept ..
  · rw [recent_succ]
    exact kept_suffix ..
  · rw [recent_succ, recent_succ]
    refine List.suffix_of_suffix_length_le (kept_suffix ..) (kept_suffix ..) ?_
    rw [length_kept, length_kept]
    omega

/-- The last none of one line are asked for, and the line is given. -/
theorem recent_zero_gives_line :
    let log := (Desk.follow ⟨{ directory := "logs".toList, keep := some 3 }, {}, {}⟩
      [.start "a.yaml".toList ["tool".toList], .note (.write "stdout".toList "a".toList)]).log
    log.recent none = ["a".toList] ∧
      (log.recent (some 0)).length ≠ min 0 (log.recent none).length := by
  decide

end ScriptRun.Run.Log
