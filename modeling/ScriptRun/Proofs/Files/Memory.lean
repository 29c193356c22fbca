import Mathlib
import ScriptRun.Files.Memory

/-!
# What is under a path in memory

The content of a path after an operation on files in memory, for the path of the operation and for
every other one.
-/

namespace ScriptRun.Files.Memory

variable (m : Memory) {path other : Text} (content : Text)

theorem get?_set_self : (m.set path content).get? path = some content :=
  lookup_put_self path content m.files

theorem get?_set_of_ne (h : other ≠ path) : (m.set other content).get? path = m.get? path :=
  lookup_put_of_ne h content m.files

theorem get?_erase_of_ne (h : other ≠ path) : (m.erase other).get? path = m.get? path := by
  obtain ⟨files, directories⟩ := m
  show lookup path (remove other files) = lookup path files
  induction files with
  | nil => rfl
  | cons f rest ih =>
    obtain ⟨name, old⟩ := f
    by_cases hname : name = other
    · rw [remove, List.filter_cons_of_neg (by simp [hname]), lookup,
        if_neg fun hpath => h (hname.symm.trans hpath)]
      exact ih
    · rw [remove, List.filter_cons_of_pos (by simpa using hname), lookup, lookup]
      split
      · rfl
      · exact ih

theorem get?_erase_self : (m.erase path).get? path = none := by
  obtain ⟨files, directories⟩ := m
  show lookup path (remove path files) = none
  induction files with
  | nil => rfl
  | cons f rest ih =>
    obtain ⟨name, old⟩ := f
    by_cases hname : name = path
    · rw [remove, List.filter_cons_of_neg (by simp [hname])]
      exact ih
    · rw [remove, List.filter_cons_of_pos (by simpa using hname), lookup, if_neg hname]
      exact ih

/-- A text that is taken away and put back is where it was. -/
theorem get?_set_erase {m : Memory} {path content : Text} (h : m.get? path = some content)
    (other : Text) : ((m.erase path).set path content).get? other = m.get? other := by
  by_cases hpath : path = other
  · rw [← hpath, get?_set_self, h]
  · rw [get?_set_of_ne _ _ hpath, get?_erase_of_ne _ hpath]

/-- Making a directory in memory leaves all files alone. -/
theorem exists_ensureDirectory (directory : Text) (m : Memory) :
    ∃ after : Memory, (Store.ensureDirectory directory : Action Memory Unit) m = .ok () after ∧
      ∀ path, after.get? path = m.get? path := by
  by_cases hthere : m.directories.contains directory = true
  · refine ⟨m, ?_, fun _ => rfl⟩
    exact congrArg (EStateM.Result.ok ()) (if_pos hthere)
  · refine ⟨{ m with directories := m.directories ++ [directory] }, ?_, fun _ => rfl⟩
    exact congrArg (EStateM.Result.ok ()) (if_neg hthere)

/-- Renaming a file in memory, if it is there. -/
theorem rename_eq {m : Memory} {path content : Text} (h : m.get? path = some content)
    (target : Text) :
    (Store.rename path target : Action Memory Unit) m =
      .ok () ((m.erase path).set target content) := by
  simp only [Store.rename, bind, EStateM.bind, get, getThe, MonadStateOf.get, EStateM.get, h]
  rfl

theorem outcome_read (path : Text) :
    (Store.read path : Action Memory Text).outcome m =
      ((m.get? path).elim (.error (.missing path)) .ok, m) := by
  simp only [Store.read, Action.outcome, EStateM.run, bind, EStateM.bind, get, getThe,
    MonadStateOf.get, EStateM.get]
  cases m.get? path <;> rfl

theorem outcome_rename (path target : Text) :
    (Store.rename path target : Action Memory Unit).outcome m =
      (m.get? path).elim (.error (.missing path), m)
        fun content => (.ok (), (m.erase path).set target content) := by
  rw [Action.outcome, EStateM.run]
  cases h : m.get? path with
  | none =>
    simp only [Store.rename, bind, EStateM.bind, get, getThe, MonadStateOf.get, EStateM.get, h]
    rfl
  | some content =>
    rw [rename_eq h]
    rfl

end ScriptRun.Files.Memory
