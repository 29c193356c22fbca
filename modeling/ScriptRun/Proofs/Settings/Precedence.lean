import Mathlib.Data.List.Basic
import ScriptRun.Proofs.Settings.Loading

/-!
# The order of the sources of settings

A setting has its default unless the settings file gives it a value. The command of the tool and the
directory for runs are overridden by a variable that is not empty (`Follows`).

An empty variable counts as not set, with one exception: while `LSE_RUN_DIR` is empty the default
directory for runs is empty as well (`load_precedence`).
-/

namespace ScriptRun

/-! ### Variables -/

namespace Environment

variable (env : Environment) {env' : Environment} {name other : String} (value : Text)

def set (name : String) : Environment := (name.toList, value) :: env

def unset (name : String) : Environment := env.filter fun v => v.1 ≠ name.toList

theorem get?_set_self (name : String) : (env.set value name).get? name = some value := by
  rw [get?, set, List.find?_cons_of_pos (by simp)]
  rfl

theorem get?_set_of_ne (h : other ≠ name) : (env.set value name).get? other = env.get? other := by
  have hne : name.toList ≠ other.toList := fun heq => h (String.toList_injective heq).symm
  rw [get?, set, List.find?_cons_of_neg (by simpa using hne), ← get?]

theorem get?_unset_self (name : String) : (env.unset name).get? name = none := by
  rw [get?, Option.map_eq_none_iff, List.find?_eq_none]
  intro v hv
  simpa using (List.mem_filter.1 hv).2

theorem get?_unset_of_ne (h : other ≠ name) : (env.unset name).get? other = env.get? other := by
  have hne : name.toList ≠ other.toList := fun heq => h (String.toList_injective heq).symm
  unfold get? unset
  rw [List.find?_filter]
  refine congrArg (Option.map _) (congrArg (List.find? · env) (funext fun v => ?_))
  by_cases hv : v.1 = other.toList
  · simp [hv, hne.symm]
  · simp [hv]

theorem given?_congr {env : Environment} (h : env.get? name = env'.get? name) :
    env.given? name = env'.given? name := by
  rw [given?, given?, h]

/-- An empty variable is not given. -/
theorem given?_set_nil (name other : String) :
    (env.set [] name).given? other = (env.unset name).given? other := by
  by_cases h : other = name
  · subst h
    rw [given?, given?, get?_set_self, get?_unset_self]
    rfl
  · exact given?_congr ((env.get?_set_of_ne [] h).trans (env.get?_unset_of_ne h).symm)

end Environment

namespace Settings

open Text
open Yaml (Value)

/-! ### Settings by name -/

/-- The value of a setting other than the command of the tool. -/
def value? (s : Settings) (name : Text) : Option Value :=
  if name = "run_dir".toList then some s.runDir
  else if name = "cwd".toList then some s.cwd
  else if name = "readiness_timeout_s".toList then some s.readinessTimeout
  else if name = "inspector_base_port".toList then some s.inspectorPort
  else if name = "device_cache_ttl_s".toList then some s.deviceListSeconds
  else if name = "recent_log_lines".toList then some s.recentLines
  else if name = "gps_control_path".toList then some s.gpsControlPath
  else none

/-- The value that the pairs of a mapping give a name: that of the last pair, if there are
several. -/
def assigned? : List (Value × Value) → Text → Option Value
  | [], _ => none
  | p :: rest, name => (assigned? rest name).or (if p.1.text? = some name then some p.2 else none)

theorem set_toolCommand (s : Settings) (value : Value) :
    s.set "tool_command".toList value =
      (command value).map fun argv => { s with toolCommand := argv } := by
  rw [set, if_pos rfl]
  cases command value <;> rfl

theorem toolCommand_set {s s' : Settings} {name : Text} {value : Value}
    (h : s.set name value = .ok s') :
    if name = "tool_command".toList then command value = .ok s'.toolCommand
    else s'.toolCommand = s.toolCommand := by
  by_cases hname : name = "tool_command".toList
  · subst hname
    rw [set_toolCommand] at h
    obtain ⟨argv, hargv, rfl⟩ := map_eq_ok_iff.1 h
    rw [if_pos rfl, hargv]
  · rw [if_neg hname]
    unfold set at h
    rw [if_neg hname] at h
    repeat' split at h
    all_goals
      cases h
      try rfl

/-- A setting that is given a value has it, and all others are left alone. -/
theorem value?_set {s s' : Settings} {name : Text} {value : Value}
    (h : s.set name value = .ok s') {other : Text} (hother : other ≠ "tool_command".toList) :
    s'.value? other = if name = other then some value else s.value? other := by
  by_cases hname : name = "tool_command".toList
  · subst hname
    rw [set_toolCommand] at h
    obtain ⟨argv, -, rfl⟩ := map_eq_ok_iff.1 h
    rw [if_neg hother.symm]
    rfl
  · unfold set at h
    rw [if_neg hname] at h
    unfold value?
    -- each of the other names sets one field, which is read under that name only
    repeat' split at h
    all_goals cases h
    all_goals
      by_cases heq : name = other
      · subst other name
        rw [if_pos rfl]
        rfl
      · subst name
        simp only [if_neg heq, Ne.symm heq, if_false]

/-! ### Settings of a mapping -/

/-- Gives the setting that a pair names the value of the pair. -/
def setPair (s : Settings) (p : Value × Value) : Except Fault Settings :=
  match p.1 with
  | .str name => s.set name p.2
  | _ => .error .unnamedKey

theorem ofPairs_of_unknown?_eq_none {pairs : List (Value × Value)} (h : unknown? pairs = none)
    (env : Environment) : ofPairs env pairs = pairs.foldlM setPair (default env) := by
  rw [ofPairs, h]
  rfl

theorem foldlM_of_ofPairs {env : Environment} {pairs : List (Value × Value)} {s : Settings}
    (h : ofPairs env pairs = .ok s) : pairs.foldlM setPair (default env) = .ok s := by
  cases hunknown : unknown? pairs with
  | none => rw [← ofPairs_of_unknown?_eq_none hunknown, h]
  | some fault =>
    rw [ofPairs, hunknown] at h
    cases h

theorem exists_of_setPair {s s' : Settings} {p : Value × Value} (h : s.setPair p = .ok s') :
    ∃ name, p.1.text? = some name ∧ s.set name p.2 = .ok s' := by
  unfold setPair at h
  split at h
  · next name hname => exact ⟨name, by rw [hname]; rfl, h⟩
  · cases h

/-- After all pairs were set, every setting has the value that they give it, or the one before. -/
theorem value?_foldlM {pairs : List (Value × Value)} {s s' : Settings}
    (h : pairs.foldlM setPair s = .ok s') {name : Text} (hname : name ≠ "tool_command".toList) :
    s'.value? name = (assigned? pairs name).or (s.value? name) := by
  induction pairs generalizing s with
  | nil =>
    cases h
    rfl
  | cons p rest ih =>
    rw [List.foldlM_cons] at h
    obtain ⟨middle, hset, hrest⟩ := bind_eq_ok_iff.1 h
    obtain ⟨key, hkey, hset⟩ := exists_of_setPair hset
    rw [ih hrest, value?_set hset hname, assigned?, hkey, Option.or_assoc]
    by_cases heq : key = name
    · simp [heq]
    · simp [heq]

theorem toolCommand_foldlM {pairs : List (Value × Value)} {s s' : Settings}
    (h : pairs.foldlM setPair s = .ok s') :
    match assigned? pairs "tool_command".toList with
    | some value => command value = .ok s'.toolCommand
    | none => s'.toolCommand = s.toolCommand := by
  induction pairs generalizing s with
  | nil =>
    cases h
    rfl
  | cons p rest ih =>
    rw [List.foldlM_cons] at h
    obtain ⟨middle, hset, hrest⟩ := bind_eq_ok_iff.1 h
    obtain ⟨key, hkey, hset⟩ := exists_of_setPair hset
    have hkept := toolCommand_set hset
    have hrest := ih hrest
    rw [assigned?, hkey]
    cases hassigned : assigned? rest "tool_command".toList with
    | some value =>
      rw [hassigned] at hrest
      exact hrest
    | none =>
      rw [hassigned] at hrest
      dsimp only at hrest
      rw [Option.none_or, hrest]
      by_cases htool : key = "tool_command".toList
      · rw [if_pos htool] at hkept
        rw [if_pos (congrArg some htool)]
        exact hkept
      · rw [if_neg htool] at hkept
        rw [if_neg fun heq => htool (Option.some.inj heq)]
        exact hkept

theorem command_ne_nil {value : Value} {argv : List Text} (h : command value = .ok argv) :
    argv ≠ [] := by
  have hwords {found : List Text}
      (hfound : (if found.isEmpty then .error .commandEmpty else .ok found : Except Fault _) =
        .ok argv) : argv ≠ [] := by
    split at hfound
    · cases hfound
    · next hempty =>
      rw [← Except.ok.inj hfound]
      exact fun hnil => hempty (List.isEmpty_iff.2 hnil)
  unfold command at h
  dsimp only at h
  split at h
  · split at h
    · exact hwords h
    · cases h
  · split at h
    · exact hwords h
    · cases h
  · cases h

/-- A mapping of which settings can be made: its keys name settings, and what it gives as the
command of the tool is one. -/
structure AreSettings (pairs : List (Value × Value)) : Prop where
  known : ∀ p ∈ pairs, ¬IsUnknownKey p.1
  command : ∀ p ∈ pairs, p.1 = .str "tool_command".toList → ∃ argv, command p.2 = .ok argv

theorem exists_set_iff (s : Settings) {name : Text} (hname : name ∈ names) (value : Value) :
    (∃ s', s.set name value = .ok s') ↔
      (name = "tool_command".toList → ∃ argv, command value = .ok argv) := by
  constructor
  · rintro ⟨s', h⟩ htool
    have hkept := toolCommand_set h
    rw [if_pos htool] at hkept
    exact ⟨_, hkept⟩
  · intro hcommand
    by_cases htool : name = "tool_command".toList
    · obtain ⟨argv, hargv⟩ := hcommand htool
      rw [htool, set_toolCommand, hargv]
      exact ⟨_, rfl⟩
    · unfold set
      rw [if_neg htool]
      repeat' split
      all_goals try exact ⟨_, rfl⟩
      simp_all [names]

theorem exists_foldlM_iff {pairs : List (Value × Value)} (hknown : ∀ p ∈ pairs, ¬IsUnknownKey p.1)
    (s : Settings) : (∃ s', pairs.foldlM setPair s = .ok s') ↔
      ∀ p ∈ pairs, p.1 = .str "tool_command".toList → ∃ argv, command p.2 = .ok argv := by
  induction pairs generalizing s with
  | nil => exact iff_of_true ⟨s, rfl⟩ fun p hp => absurd hp List.not_mem_nil
  | cons p rest ih =>
    obtain ⟨hp, hrest⟩ := List.forall_mem_cons.1 hknown
    obtain ⟨key, value⟩ := p
    obtain ⟨name, hname, rfl⟩ : ∃ name ∈ names, key = .str name := by
      simpa only [IsUnknownKey, not_forall, not_not, exists_prop] using hp
    have hset : (∃ middle, s.setPair (.str name, value) = .ok middle) ↔ _ :=
      exists_set_iff s hname value
    rw [List.foldlM_cons, List.forall_mem_cons]
    simp only [bind_eq_ok_iff, Value.str.injEq, ← hset]
    constructor
    · rintro ⟨s', middle, hmiddle, hs'⟩
      exact ⟨⟨middle, hmiddle⟩, (ih hrest middle).1 ⟨s', hs'⟩⟩
    · rintro ⟨⟨middle, hmiddle⟩, hcommands⟩
      obtain ⟨s', hs'⟩ := (ih hrest middle).2 hcommands
      exact ⟨s', middle, hmiddle, hs'⟩

theorem unknown?_of_known {pairs : List (Value × Value)} (hknown : ∀ p ∈ pairs, ¬IsUnknownKey p.1) :
    unknown? pairs = none := by
  unfold unknown?
  extract_lets unknown
  have hnil : unknown = [] := by
    refine List.filter_eq_nil_iff.2 fun key hkey => ?_
    obtain ⟨p, hp, rfl⟩ := List.mem_map.1 hkey
    split
    · next name hname =>
      have hnamed := hknown p hp
      rw [hname, isUnknownKey_str, not_not] at hnamed
      simpa using hnamed
    · next hne => exact absurd (fun name _ => hne name) (hknown p hp)
  rw [hnil]
  rfl

theorem exists_ofPairs_iff (env : Environment) (pairs : List (Value × Value)) :
    (∃ s, ofPairs env pairs = .ok s) ↔ AreSettings pairs := by
  have hcheck := keyCheck_unknown? pairs
  rcases hunknown : unknown? pairs with _ | fault
  · rw [hunknown] at hcheck
    cases hcheck with
    | known hknown =>
      rw [ofPairs_of_unknown?_eq_none hunknown, exists_foldlM_iff hknown]
      exact ⟨fun h => ⟨hknown, h⟩, fun h => h.command⟩
  · have hfault : ofPairs env pairs = .error fault := by rw [ofPairs, hunknown]
    constructor
    · rintro ⟨s, h⟩
      rw [hfault] at h
      cases h
    · rintro ⟨hknown, -⟩
      rw [unknown?_of_known hknown] at hunknown
      cases hunknown

/-! ### The sources -/

/-- The pairs of the settings file; none if there is no file. -/
def source (tree : Files.Tree) (env : Environment) (path : Option Text) :
    Except LoadFault (List (Value × Value)) :=
  match chosenFile tree env path with
  | some file => filePairs tree file
  | none => .ok []

/-- The value that the settings file gives a setting. -/
def fileValue? (tree : Files.Tree) (env : Environment) (path : Option Text) (name : String) :
    Option Value :=
  (source tree env path).toOption.bind (assigned? · name.toList)

theorem load_eq (tree : Files.Tree) (env : Environment) (path : Option Text) :
    load tree env path = (do
      let pairs ← source tree env path
      let s ← (ofPairs env pairs).mapError .settings
      override env s) := by
  unfold load source
  dsimp only
  cases chosenFile tree env path with
  | none => rfl
  | some file =>
    dsimp only
    cases filePairs tree file with
    | error fault => rfl
    | ok pairs =>
      dsimp only [bind, Except.bind]
      cases ofPairs env pairs with
      | error fault => rfl
      | ok s => rfl

/-- What the environment makes of settings. -/
theorem override_eq_ok_iff {env : Environment} {s s' : Settings} :
    override env s = .ok s' ↔
      ∃ argv,
        (match env.given? "LSE_TOOL" with
          | some tool => command (.str tool) = .ok argv
          | none => argv = s.toolCommand) ∧
        s' = { s with
          toolCommand := argv
          runDir := ((env.given? "LSE_RUN_DIR").map Value.str).getD s.runDir } := by
  unfold override
  generalize env.given? "LSE_RUN_DIR" = dir
  cases env.given? "LSE_TOOL" with
  | none =>
    constructor
    · intro h
      cases dir <;> cases h <;> exact ⟨_, rfl, rfl⟩
    · rintro ⟨argv, htool, h⟩
      rw [h, htool]
      cases dir <;> rfl
  | some tool =>
    dsimp only
    cases command (.str tool) with
    | error fault => exact iff_of_false (fun h => nomatch h) fun ⟨argv, h, _⟩ => nomatch h
    | ok argv =>
      constructor
      · intro h
        cases dir <;> cases h <;> exact ⟨_, rfl, rfl⟩
      · rintro ⟨argv', htool, h⟩
        rw [h, ← Except.ok.inj htool]
        cases dir <;> rfl

/-- What the order of the sources says of settings: what the environment gives counts more than what
the file gives, and that more than the default. -/
structure Follows (env : Environment) (given? : String → Option Value) (s : Settings) : Prop where
  command : match env.given? "LSE_TOOL", given? "tool_command" with
    | some tool, _ => command (.str tool) = .ok s.toolCommand
    | none, some value => command value = .ok s.toolCommand
    | none, none => s.toolCommand = ["lumi-tester".toList]
  runDir : s.runDir = match env.given? "LSE_RUN_DIR", given? "run_dir" with
    | some dir, _ => .str dir
    | none, some value => value
    | none, none => .str (if env.get? "LSE_RUN_DIR" = some [] then [] else "/tmp".toList)
  other : ∀ name ∉ ["tool_command", "run_dir"],
    s.value? name.toList = (given? name).or ((default []).value? name.toList)

theorem value?_runDir (s : Settings) : s.value? "run_dir".toList = some s.runDir := rfl

/-- Two settings that differ in what the environment may override agree otherwise. -/
theorem value?_congr {s s' : Settings} {argv : List Text} {dir : Value}
    (h : s' = { s with toolCommand := argv, runDir := dir }) {name : Text}
    (hname : name ≠ "run_dir".toList) : s'.value? name = s.value? name := by
  subst h
  unfold value?
  rw [if_neg hname, if_neg hname]

theorem default_runDir {env : Environment} (h : env.given? "LSE_RUN_DIR" = none) :
    (default env).runDir =
      .str (if env.get? "LSE_RUN_DIR" = some [] then [] else "/tmp".toList) := by
  unfold Environment.given? at h
  unfold default
  dsimp only
  cases hget : env.get? "LSE_RUN_DIR" with
  | none => rfl
  | some t =>
    rw [hget] at h
    dsimp only [Option.bind] at h
    split at h
    · next hempty => rw [List.isEmpty_iff.1 hempty, if_pos rfl, Option.getD_some]
    · cases h

section Sources

variable {tree : Files.Tree} {env : Environment} {path : Option Text}

theorem follows_of_load {s : Settings} (h : load tree env path = .ok s) :
    Follows env (fileValue? tree env path) s := by
  rw [load_eq] at h
  obtain ⟨pairs, hsource, h⟩ := bind_eq_ok_iff.1 h
  obtain ⟨made, hmade, h⟩ := bind_eq_ok_iff.1 h
  have hfold := foldlM_of_ofPairs (mapError_eq_ok_iff.1 hmade)
  obtain ⟨argv, htool, hs⟩ := override_eq_ok_iff.1 h
  have hfile (name : String) :
      fileValue? tree env path name = assigned? pairs name.toList := by
    rw [fileValue?, hsource]
    rfl
  constructor
  · have hcommand := toolCommand_foldlM hfold
    rw [← hfile] at hcommand
    cases hvariable : env.given? "LSE_TOOL" with
    | some tool =>
      rw [hvariable] at htool
      rw [hs]
      exact htool
    | none =>
      rw [hvariable] at htool
      dsimp only at htool
      rw [hs, htool]
      cases hvalue : fileValue? tree env path "tool_command" with
      | some value =>
        rw [hvalue] at hcommand
        exact hcommand
      | none =>
        rw [hvalue] at hcommand
        exact hcommand
  · have hne : "run_dir".toList ≠ "tool_command".toList := by decide
    have hdir := value?_foldlM hfold hne
    rw [← hfile, value?_runDir, value?_runDir] at hdir
    rw [hs]
    cases hvariable : env.given? "LSE_RUN_DIR" with
    | some dir => rfl
    | none =>
      cases hvalue : fileValue? tree env path "run_dir" with
      | some value =>
        rw [hvalue] at hdir
        exact Option.some.inj hdir
      | none =>
        rw [hvalue] at hdir
        exact (Option.some.inj hdir).trans (default_runDir hvariable)
  · intro name hname
    rw [List.mem_cons, List.mem_singleton, not_or] at hname
    have htool : name.toList ≠ "tool_command".toList := fun h => hname.1 (String.toList_injective h)
    have hdir : name.toList ≠ "run_dir".toList := fun h => hname.2 (String.toList_injective h)
    have hdefault : default env =
        { default [] with
          toolCommand := (default env).toolCommand
          runDir := (default env).runDir } := rfl
    rw [hfile, value?_congr hs hdir, value?_foldlM hfold htool, value?_congr hdefault hdir]

theorem toolCommand_ne_nil {s : Settings} {given? : String → Option Value}
    (h : Follows env given? s) : s.toolCommand ≠ [] := by
  have hcommand := h.command
  split at hcommand
  · exact command_ne_nil hcommand
  · exact command_ne_nil hcommand
  · rw [hcommand]
    exact List.cons_ne_nil _ _

theorem exists_override_iff (s : Settings) : (∃ s', override env s = .ok s') ↔
    ∀ tool, env.given? "LSE_TOOL" = some tool → ∃ argv, command (.str tool) = .ok argv := by
  simp only [override_eq_ok_iff]
  cases env.given? "LSE_TOOL" with
  | none => exact iff_of_true ⟨_, _, rfl, rfl⟩ fun tool h => nomatch h
  | some tool =>
    constructor
    · rintro ⟨s', argv, hcommand, -⟩ tool' htool
      rw [← Option.some.inj htool]
      exact ⟨argv, hcommand⟩
    · intro h
      obtain ⟨argv, hargv⟩ := h tool rfl
      exact ⟨_, argv, hargv, rfl⟩

theorem exists_load_iff : (∃ s, load tree env path = .ok s) ↔
    ∃ pairs, source tree env path = .ok pairs ∧ AreSettings pairs ∧
      ∀ tool, env.given? "LSE_TOOL" = some tool → ∃ argv, command (.str tool) = .ok argv := by
  simp only [load_eq, bind_eq_ok_iff, mapError_eq_ok_iff, ← exists_ofPairs_iff env]
  constructor
  · rintro ⟨s, pairs, hpairs, made, hmade, hs⟩
    exact ⟨pairs, hpairs, ⟨made, hmade⟩, (exists_override_iff made).1 ⟨s, hs⟩⟩
  · rintro ⟨pairs, hpairs, ⟨made, hmade⟩, htool⟩
    obtain ⟨s, hs⟩ := (exists_override_iff made).2 htool
    exact ⟨s, pairs, hpairs, made, hmade, hs⟩

end Sources

/-! ### Empty variables -/

def withRunDir (s : Settings) (dir : Value) : Settings := { s with runDir := dir }

theorem set_withRunDir (s : Settings) (dir : Value) (name : Text) (value : Value) :
    (s.withRunDir dir).set name value =
      (s.set name value).map (withRunDir · (if name = "run_dir".toList then value else dir)) := by
  by_cases hname : name = "tool_command".toList
  · have hne : "tool_command".toList ≠ "run_dir".toList := by decide
    rw [hname, set_toolCommand, set_toolCommand, if_neg hne]
    cases command value <;> rfl
  · unfold set
    rw [if_neg hname, if_neg hname]
    repeat' split
    all_goals rfl

theorem setPair_withRunDir (s : Settings) (dir : Value) (p : Value × Value) :
    (s.withRunDir dir).setPair p =
      (s.setPair p).map
        (withRunDir · (if p.1.text? = some "run_dir".toList then p.2 else dir)) := by
  unfold setPair
  cases p.1 with
  | str name => simp only [set_withRunDir, Value.text?, Option.some_inj]
  | _ => rfl

theorem foldlM_withRunDir (pairs : List (Value × Value)) (s : Settings) (dir : Value) :
    pairs.foldlM setPair (s.withRunDir dir) =
      (pairs.foldlM setPair s).map
        (withRunDir · ((assigned? pairs "run_dir".toList).getD dir)) := by
  induction pairs generalizing s dir with
  | nil => rfl
  | cons p rest ih =>
    rw [List.foldlM_cons, List.foldlM_cons, setPair_withRunDir, assigned?]
    cases s.setPair p with
    | error fault => rfl
    | ok middle =>
      refine (ih middle _).trans ?_
      cases assigned? rest "run_dir".toList with
      | some value => rfl
      | none => split <;> rfl

/-- The environment only gives the settings of a mapping their default directory for runs. -/
theorem ofPairs_withRunDir (env env' : Environment) (pairs : List (Value × Value)) :
    ofPairs env' pairs = (ofPairs env pairs).map
      (withRunDir · ((assigned? pairs "run_dir".toList).getD (default env').runDir)) := by
  cases hunknown : unknown? pairs with
  | some fault =>
    rw [ofPairs, ofPairs, hunknown]
    rfl
  | none =>
    rw [ofPairs_of_unknown?_eq_none hunknown, ofPairs_of_unknown?_eq_none hunknown,
      ← foldlM_withRunDir]
    rfl

section Variables

variable {env env' : Environment}

theorem override_withRunDir (htool : env'.given? "LSE_TOOL" = env.given? "LSE_TOOL")
    (hdir : env.given? "LSE_RUN_DIR" = none) (hdir' : env'.given? "LSE_RUN_DIR" = none)
    (s : Settings) (dir : Value) :
    override env' (s.withRunDir dir) = (override env s).map (withRunDir · dir) := by
  unfold override
  rw [htool, hdir, hdir']
  cases env.given? "LSE_TOOL" with
  | none => rfl
  | some tool =>
    dsimp only
    cases command (.str tool) <;> rfl

theorem source_congr (hconfig : env'.given? "LSE_CONFIG" = env.given? "LSE_CONFIG")
    (tree : Files.Tree) (path : Option Text) : source tree env' path = source tree env path := by
  rw [source, source, chosenFile, chosenFile, hconfig]

/-- While `LSE_RUN_DIR` is empty or not set, all that loading takes from it is the default directory
for runs. -/
theorem load_withRunDir (hconfig : env'.given? "LSE_CONFIG" = env.given? "LSE_CONFIG")
    (htool : env'.given? "LSE_TOOL" = env.given? "LSE_TOOL")
    (hdir : env.given? "LSE_RUN_DIR" = none) (hdir' : env'.given? "LSE_RUN_DIR" = none)
    (tree : Files.Tree) (path : Option Text) :
    load tree env' path = (load tree env path).map
      (withRunDir · ((fileValue? tree env path "run_dir").getD (default env').runDir)) := by
  rw [load_eq, load_eq, source_congr hconfig, fileValue?]
  cases source tree env path with
  | error fault => rfl
  | ok pairs =>
    dsimp only [bind, Except.bind]
    rw [ofPairs_withRunDir env env' pairs]
    cases ofPairs env pairs with
    | error fault => rfl
    | ok made => exact override_withRunDir htool hdir hdir' made _

theorem load_congr (hconfig : env'.given? "LSE_CONFIG" = env.given? "LSE_CONFIG")
    (htool : env'.given? "LSE_TOOL" = env.given? "LSE_TOOL")
    (hdir : env'.get? "LSE_RUN_DIR" = env.get? "LSE_RUN_DIR") (tree : Files.Tree)
    (path : Option Text) : load tree env' path = load tree env path := by
  have hdefault : default env' = default env := by rw [default, default, hdir]
  have hofPairs (pairs : List (Value × Value)) : ofPairs env' pairs = ofPairs env pairs := by
    rw [ofPairs, ofPairs, hdefault]
  have hoverride (s : Settings) : override env' s = override env s := by
    rw [override, override, htool, Environment.given?_congr hdir]
  simp only [load_eq, source_congr hconfig, hofPairs, hoverride]

end Variables

/-! ### The order -/

/-- Where loaded settings come from. There are settings exactly if the pairs of the file are settings
and the variable for the tool, unless it is empty, holds a command; and then they follow the order
of the sources. An empty variable is as good as none, but an empty `LSE_RUN_DIR` makes the directory
for runs empty if the file names none. Files whose reading runs out of the stack are left out. -/
theorem load_precedence (tree : Files.Tree) (env : Environment) (path : Option Text) :
    ((∃ s, load tree env path = .ok s) ↔
      ∃ pairs, source tree env path = .ok pairs ∧ AreSettings pairs ∧
        ∀ tool, env.given? "LSE_TOOL" = some tool → ∃ argv, command (.str tool) = .ok argv) ∧
    (∀ s, load tree env path = .ok s →
      Follows env (fileValue? tree env path) s ∧ s.toolCommand ≠ []) ∧
    load tree (env.set [] "LSE_CONFIG") path = load tree (env.unset "LSE_CONFIG") path ∧
    load tree (env.set [] "LSE_TOOL") path = load tree (env.unset "LSE_TOOL") path ∧
    load tree (env.set [] "LSE_RUN_DIR") path =
      (load tree (env.unset "LSE_RUN_DIR") path).map
        (withRunDir · ((fileValue? tree (env.unset "LSE_RUN_DIR") path "run_dir").getD
          (.str []))) := by
  have hgiven (name other : String) := env.given?_set_nil name other
  have hget (name : String) (hne : "LSE_RUN_DIR" ≠ name) :
      (env.set [] name).get? "LSE_RUN_DIR" = (env.unset name).get? "LSE_RUN_DIR" := by
    rw [env.get?_set_of_ne [] hne, env.get?_unset_of_ne hne]
  refine ⟨exists_load_iff, fun s h => ?_, ?_, ?_, ?_⟩
  · have hfollows := follows_of_load h
    exact ⟨hfollows, toolCommand_ne_nil hfollows⟩
  · exact load_congr (hgiven _ _) (hgiven _ _) (hget _ (by decide)) tree path
  · exact load_congr (hgiven _ _) (hgiven _ _) (hget _ (by decide)) tree path
  · have hunset : (env.unset "LSE_RUN_DIR").given? "LSE_RUN_DIR" = none := by
      rw [Environment.given?, env.get?_unset_self]
      rfl
    have hempty : (default (env.set [] "LSE_RUN_DIR")).runDir = .str [] := by
      rw [default, env.get?_set_self]
      rfl
    rw [load_withRunDir (hgiven _ _) (hgiven _ _) hunset ((hgiven _ _).trans hunset), hempty]

/-- Without a file, the directory for runs is empty while its variable is, and not the default. -/
theorem empty_run_directory :
    load ⟨[]⟩ (Environment.set [] [] "LSE_RUN_DIR") none =
      .ok ((default []).withRunDir (.str [])) ∧
    load ⟨[]⟩ (Environment.unset [] "LSE_RUN_DIR") none = .ok (default []) ∧
    load ⟨[]⟩ (Environment.set [] [] "LSE_RUN_DIR") none ≠
      load ⟨[]⟩ (Environment.unset [] "LSE_RUN_DIR") none := by
  refine ⟨rfl, rfl, fun h => ?_⟩
  have hsession := congrArg (·.toOption.bind sessionDir?) h
  revert hsession
  decide

def directoryTree : Files.Tree :=
  ⟨[(["lse.yaml".toList], .file (Utf8.encode "cwd: w\n".toList) false)]⟩

/-- An environment with a tool, and with an empty directory for runs. -/
def toolEnvironment : Environment := [("LSE_TOOL".toList, "x y".toList), ("LSE_RUN_DIR".toList, [])]

theorem eq_str_of_text? {value : Value} {t : Text} (h : value.text? = some t) : value = .str t := by
  cases value <;> cases h
  rfl

theorem source_directory :
    source directoryTree toolEnvironment none = .ok [(.str "cwd".toList, .str "w".toList)] := by
  have hbytes : directoryTree.bytes defaultFile = .ok (Utf8.encode "cwd: w\n".toList) := by
    decide
  have hpieces : Files.textPieces pieceSize (Utf8.encode "cwd: w\n".toList) =
      (["cwd: w\n".toList], none) :=
    Files.textPieces_of_block (by decide) (by decide) rfl rfl rfl (by decide) (by decide)
  have htexts : (filePairs directoryTree defaultFile).toOption.map
      (·.map fun p => (p.1.text?, p.2.text?)) = some [(some "cwd".toList, some "w".toList)] := by
    rw [filePairs, fileValue, hbytes]
    dsimp only
    rw [hpieces]
    decide +kernel
  obtain ⟨pairs, hpairs, hmap⟩ := Option.map_eq_some_iff.1 htexts
  obtain ⟨p, rfl, htext⟩ := List.map_eq_singleton_iff.1 hmap
  have hpair : p = (.str "cwd".toList, .str "w".toList) :=
    Prod.ext (eq_str_of_text? (Prod.mk.inj htext).1) (eq_str_of_text? (Prod.mk.inj htext).2)
  have hchosen : chosenFile directoryTree toolEnvironment none = some defaultFile := by decide
  rw [source, hchosen]
  dsimp only
  cases hresult : filePairs directoryTree defaultFile with
  | error fault =>
    rw [hresult] at hpairs
    cases hpairs
  | ok pairs =>
    rw [hresult] at hpairs
    rw [Option.some.inj hpairs, hpair]

theorem load_precedence_directory : ∃ s,
    load directoryTree toolEnvironment none = .ok s ∧ s.toolCommand = ["x".toList, "y".toList] ∧
      s.runDir = .str [] ∧ s.cwd = .str "w".toList ∧ s.inspectorPort = .int 9333 := by
  obtain ⟨hexists, hfollows, -⟩ := load_precedence directoryTree toolEnvironment none
  have hfile (name : String) : fileValue? directoryTree toolEnvironment none name =
      assigned? [(.str "cwd".toList, .str "w".toList)] name.toList := by
    rw [fileValue?, source_directory]
    rfl
  have hsettings : AreSettings [(.str "cwd".toList, .str "w".toList)] := by
    constructor
    · intro p hp
      rw [List.mem_singleton.1 hp, isUnknownKey_str]
      decide
    · intro p hp htool
      rw [List.mem_singleton.1 hp] at htool
      exact absurd (Value.str.inj htool) (by decide)
  have htool (tool : Text) (h : toolEnvironment.given? "LSE_TOOL" = some tool) :
      ∃ argv, command (.str tool) = .ok argv := by
    cases h
    exact ⟨["x".toList, "y".toList], rfl⟩
  obtain ⟨s, hs⟩ := hexists.2 ⟨_, source_directory, hsettings, htool⟩
  obtain ⟨hcommand, hdir, hother⟩ := (hfollows s hs).1
  have hcwd := hother "cwd" (by decide)
  have hport := hother "inspector_base_port" (by decide)
  rw [hfile] at hdir hcwd hport
  exact ⟨s, hs, (Except.ok.inj hcommand).symm, hdir, Option.some.inj hcwd, Option.some.inj hport⟩

end Settings

end ScriptRun
