import ScriptRun.CommandLine.Program
import ScriptRun.Proofs.Files.Pieces
import ScriptRun.Proofs.Script.LineEnds
import ScriptRun.Proofs.Yaml.Construction

/-!
# How the loading of settings fails

Most faults in the settings end the program with a message. The others are those of a key that is no
text, of an escape for a number that is no code point, and of a scalar that is not of the kind of
its tag (`Unhandled`); with them the program breaks off.

The stack has no bound here. A settings file whose collections are nested too deeply for it, or in
which a mapping is the value of its own value key, is outside of what is said.
-/

namespace ScriptRun.CommandLine

open Text

/-! ### Faults in the settings at the command line -/

theorem isReported_document (file : Text) (fault : Yaml.Fault) :
    isReported (.document file fault) = fault.isHandled := by
  cases fault <;> rfl

def errorLine (message : Text) : Text :=
  Json.text .report (.record [("error", .str message)]) ++ ['\n']

theorem run_refuse (exitCode : Int) (message : Text) (w : World) :
    (refuse exitCode message).run w = .ok exitCode (w.shows (errorLine message)) :=
  run_bind_ok (run_say _ w)

theorem program_of_load_error {words : List Text} {i : Invocation} {w : World}
    {fault : Settings.LoadFault} (hwords : Invocation.ofWords words = .ok i)
    (h : Settings.load w.tree w.environment i.config = .error fault) :
    program words w =
      if isReported fault then
        (.exited misused, w.shows (errorLine ("config: ".toList ++ fault.message)))
      else (.broken (.settings fault), w) := by
  have hget : (get : Act World).run w = .ok w w := rfl
  unfold program
  rw [hwords]
  dsimp only
  rw [invoke, run_bind_ok hget, h]
  dsimp only
  cases isReported fault with
  | true => rw [if_pos rfl, if_pos rfl, run_refuse]
  | false => rfl

end ScriptRun.CommandLine

namespace ScriptRun.Settings

open Yaml (Value)
open CommandLine Text

/-! ### The command of the tool -/

theorem fails_command (value : Value) :
    Fails (fun fault => isReported (.settings fault)) (command value) := by
  have hunsuitable : isReported (.settings (unsuitable value)) := by
    unfold unsuitable
    split <;> rfl
  have hwords (argv : List Text) : Fails (fun fault => isReported (.settings fault))
      (if argv.isEmpty then .error .commandEmpty else .ok argv) := by
    split
    · exact .error rfl
    · exact .ok argv
  unfold command
  dsimp only
  split
  · split
    · exact hwords _
    · exact .error rfl
  · split
    · exact hwords _
    · exact .error hunsuitable
  · exact .error hunsuitable

theorem fails_set (s : Settings) (name : Text) (value : Value) :
    Fails (fun fault => isReported (.settings fault)) (s.set name value) := by
  unfold set
  split
  · exact (fails_command value).bind fun argv _ => .ok _
  · repeat' split
    all_goals first
      | exact .ok _
      | exact .error rfl

/-! ### Keys -/

def IsUnknownKey (key : Value) : Prop := ∀ name ∈ names, key ≠ .str name

/-- What the keys of a mapping are, and the fault that is found in them. -/
inductive KeyCheck (pairs : List (Value × Value)) : Option Fault → Prop where
  | known (h : ∀ p ∈ pairs, ¬IsUnknownKey p.1) : KeyCheck pairs none
  | named {found : List Text} (hsorted : found.Pairwise (nameLe · ·))
    (hfound : ∀ name, name ∈ found ↔ name ∉ names ∧ ∃ p ∈ pairs, p.1 = .str name)
    (htexts : ∀ p ∈ pairs, p.1.text? ≠ none) : KeyCheck pairs (some (.unknownKeys found))
  | unnamed (h : ∃ p ∈ pairs, p.1.text? = none) : KeyCheck pairs (some .unnamedKey)

theorem isUnknownKey_str (name : Text) : IsUnknownKey (.str name) ↔ name ∉ names := by
  constructor
  · intro h hname
    exact h name hname rfl
  · rintro h name' hname' heq
    injection heq with heq
    exact h (heq ▸ hname')

theorem isUnknownKey_of_text?_eq_none {key : Value} (h : key.text? = none) : IsUnknownKey key := by
  rintro name - rfl
  cases h

theorem mapM_text? (keys : List Value) :
    (∃ found, keys = found.map Value.str ∧ keys.mapM Value.text? = some found) ∨
      (∃ key ∈ keys, key.text? = none) ∧ keys.mapM Value.text? = none := by
  induction keys with
  | nil => exact .inl ⟨[], rfl, rfl⟩
  | cons key rest ih =>
    rw [List.mapM_cons]
    cases hkey : key.text? with
    | none => exact .inr ⟨⟨key, List.mem_cons_self .., hkey⟩, rfl⟩
    | some name =>
      have hstr : key = .str name := by
        cases key <;> cases hkey
        rfl
      rcases ih with ⟨found, hrest, hmapM⟩ | ⟨⟨key', hmem, hnone⟩, hmapM⟩
      · exact .inl ⟨name :: found, by rw [hstr, hrest, List.map_cons], by rw [hmapM]; rfl⟩
      · exact .inr ⟨⟨key', List.mem_cons_of_mem _ hmem, hnone⟩, by rw [hmapM]; rfl⟩

theorem pairwise_mergeSort_nameLe (found : List Text) :
    (found.mergeSort nameLe).Pairwise (nameLe · ·) := by
  refine List.pairwise_mergeSort (fun a b c hab hbc => ?_) (fun a b => ?_) found
  · simp only [nameLe, Bool.not_eq_true', decide_eq_false_iff_not] at hab hbc ⊢
    exact List.le_trans (α := Char) hab hbc
  · simp only [nameLe, Bool.or_eq_true, Bool.not_eq_true', decide_eq_false_iff_not]
    exact List.le_total (α := Char) a b

theorem keyCheck_unknown? (pairs : List (Value × Value)) : KeyCheck pairs (unknown? pairs) := by
  unfold unknown?
  extract_lets unknown
  have hunknown (key : Value) : key ∈ unknown ↔ IsUnknownKey key ∧ ∃ p ∈ pairs, p.1 = key := by
    rw [List.mem_filter, List.mem_map, and_comm]
    refine and_congr_left fun _ => ?_
    split
    · simp [isUnknownKey_str]
    · next hkey => exact iff_of_true rfl fun name _ => hkey name
  split
  · next hempty =>
    refine .known fun p hp hkey => ?_
    have hmem := (hunknown p.1).2 ⟨hkey, p, hp, rfl⟩
    rw [List.isEmpty_iff.1 hempty] at hmem
    cases hmem
  · rcases mapM_text? unknown with ⟨found, hfound, hmapM⟩ | ⟨⟨key, hkey, hnone⟩, hmapM⟩
    · rw [hmapM]
      have hmem (name : Text) : name ∈ found ↔ .str name ∈ unknown := by simp [hfound]
      refine .named (pairwise_mergeSort_nameLe found) (fun name => ?_) fun p hp hnone => ?_
      · rw [(List.mergeSort_perm found nameLe).mem_iff, hmem, hunknown, isUnknownKey_str]
      · have hp := (hunknown p.1).2 ⟨isUnknownKey_of_text?_eq_none hnone, p, hp, rfl⟩
        rw [hfound] at hp
        obtain ⟨name, -, hname⟩ := List.mem_map.1 hp
        rw [← hname] at hnone
        cases hnone
    · rw [hmapM]
      obtain ⟨-, p, hp, rfl⟩ := (hunknown key).1 hkey
      exact .unnamed ⟨p, hp, hnone⟩

theorem unknown?_of_unnamed {pairs : List (Value × Value)} (h : ∃ p ∈ pairs, p.1.text? = none) :
    unknown? pairs = some .unnamedKey := by
  obtain ⟨p, hp, hnone⟩ := h
  have hcheck := keyCheck_unknown? pairs
  generalize unknown? pairs = result at hcheck ⊢
  cases hcheck with
  | known hknown => exact absurd (isUnknownKey_of_text?_eq_none hnone) (hknown p hp)
  | named _ _ htexts => exact absurd hnone (htexts p hp)
  | unnamed => rfl

/-- What can be wrong with the pairs of a mapping: with a key that is no text, or anything of which
a message is made. -/
theorem fails_ofPairs (env : Environment) (pairs : List (Value × Value)) :
    Fails (fun fault => isReported (.settings fault) ∨
      fault = .unnamedKey ∧ ∃ p ∈ pairs, p.1.text? = none) (ofPairs env pairs) := by
  unfold ofPairs
  split
  · next fault hunknown =>
    have hcheck := keyCheck_unknown? pairs
    rw [hunknown] at hcheck
    cases hcheck with
    | named => exact .error (.inl rfl)
    | unnamed h => exact .error (.inr ⟨rfl, h⟩)
  · refine .foldlM (fun s p hp => ?_) _
    split
    · exact (fails_set s _ p.2).imp fun _ => .inl
    · next hkey =>
      refine .error (.inr ⟨rfl, p, hp, ?_⟩)
      unfold Value.text?
      split
      · next name hname => exact absurd hname (hkey name)
      · rfl

/-! ### The settings file -/

/-- What makes loading fail with a fault of which no message is made, as long as the stack does not
run out. -/
inductive Unhandled (tree : Files.Tree) (env : Environment) (path : Option Text) :
    LoadFault → Prop where
  /-- A key of the mapping in the settings file is no text. -/
  | key {file : Text} {pairs : List (Value × Value)}
    (hfile : chosenFile tree env path = some file) (hvalue : fileValue tree file = .ok (.map pairs))
    (hkey : ∃ p ∈ pairs, p.1.text? = none) : Unhandled tree env path (.settings .unnamedKey)
  /-- The settings file has an escape for a number that is no code point. -/
  | escape {file message : Text} {bytes : List UInt8}
    (hfile : chosenFile tree env path = some file) (hbytes : tree.bytes file = .ok bytes)
    (h : Yaml.HasLargeEscape (Files.textPieces pieceSize bytes).1.flatten) :
    Unhandled tree env path (.document file (.tooLarge message))
  /-- A scalar of the document in the settings file is not of the kind of its tag. -/
  | scalar {file : Text} {bytes : List UInt8} {d : Yaml.Document} {fault : Yaml.Fault}
    (hfile : chosenFile tree env path = some file) (hbytes : tree.bytes file = .ok bytes)
    (hread : Yaml.Document.ofPieces? (Files.textPieces pieceSize bytes).1
      (Files.textPieces pieceSize bytes).2 = .ok (some d))
    (h : d.HasMisfit fault) : Unhandled tree env path (.document file fault)

theorem isReported_of_unhandled {tree : Files.Tree} {env : Environment} {path : Option Text}
    {fault : LoadFault} (h : Unhandled tree env path fault) : isReported fault = false := by
  cases h with
  | key => rfl
  | escape => rfl
  | scalar _ _ _ h => rw [isReported_document, h.isHandled_eq_false]

/-- Whether a fault of loading is one of which a message is made, or has one of these causes. -/
def IsExplained (tree : Files.Tree) (env : Environment) (path : Option Text) (fault : LoadFault) :
    Prop :=
  isReported fault ∨ Unhandled tree env path fault

section File

variable {tree : Files.Tree} {env : Environment} {path : Option Text} {file : Text}

theorem fails_fileValue (hfile : chosenFile tree env path = some file) :
    Fails (IsExplained tree env path) (fileValue tree file) := by
  unfold fileValue
  split
  · exact .error (.inl rfl)
  · next bytes hbytes =>
    refine .mapError fun fault hload => ?_
    rcases Yaml.allows_or_hasMisfit_of_load hload with hallows | ⟨d, hread, hmisfit⟩
    · rcases hallows with hhandled | ⟨⟨message, rfl⟩, hescape⟩
      · exact .inl ((isReported_document file fault).trans hhandled)
      · exact .inr (.escape hfile hbytes hescape)
    · exact .inr (.scalar hfile hbytes hread hmisfit)

theorem fails_filePairs (hfile : chosenFile tree env path = some file) :
    Fails (IsExplained tree env path) (filePairs tree file) := by
  unfold filePairs
  refine .bind (fails_fileValue hfile) fun value _ => ?_
  split
  · exact .ok []
  · split
    · exact .ok _
    · exact .error (.inl rfl)

theorem filePairs_of_fileValue {pairs : List (Value × Value)}
    (h : fileValue tree file = .ok (.map pairs)) : filePairs tree file = .ok pairs := by
  unfold filePairs
  rw [h]
  cases pairs with
  | nil => rfl
  | cons p rest => rfl

theorem fileValue_of_filePairs {pairs : List (Value × Value)} (hne : pairs ≠ [])
    (h : filePairs tree file = .ok pairs) : fileValue tree file = .ok (.map pairs) := by
  unfold filePairs at h
  cases hvalue : fileValue tree file with
  | error fault =>
    rw [hvalue] at h
    cases h
  | ok value =>
    rw [hvalue] at h
    dsimp only [bind, Except.bind] at h
    split at h
    · exact absurd (Except.ok.inj h).symm hne
    · split at h
      · rw [Except.ok.inj h]
      · cases h

theorem load_of_unknown? {pairs : List (Value × Value)} {fault : Fault}
    (hfile : chosenFile tree env path = some file) (hvalue : fileValue tree file = .ok (.map pairs))
    (h : unknown? pairs = some fault) : load tree env path = .error (.settings fault) := by
  have hofPairs : ofPairs env pairs = .error fault := by rw [ofPairs, h]
  unfold load
  rw [hfile]
  dsimp only
  rw [filePairs_of_fileValue hvalue]
  dsimp only [bind, Except.bind]
  rw [hofPairs]

end File

/-! ### Loading -/

theorem fails_override (env : Environment) (s : Settings) :
    Fails (fun fault => isReported fault) (override env s) := by
  unfold override
  dsimp only
  split
  · split
    · exact .ok _
    · next hfault => exact .error (fails_command _ _ hfault)
  · exact .ok _

theorem fails_load (tree : Files.Tree) (env : Environment) (path : Option Text) :
    Fails (IsExplained tree env path) (load tree env path) := by
  have hoverride (s : Settings) : Fails (IsExplained tree env path) (override env s) :=
    (fails_override env s).imp fun _ => .inl
  unfold load
  dsimp only
  split
  · next file hfile =>
    refine .bind (fails_filePairs hfile) fun pairs hpairs => ?_
    split
    · exact hoverride _
    · next fault hfault =>
      rcases fails_ofPairs env pairs fault hfault with hreported | ⟨rfl, hkey⟩
      · exact .error (.inl hreported)
      · have hne : pairs ≠ [] := by
          rintro rfl
          obtain ⟨p, hp, -⟩ := hkey
          cases hp
        exact .error (.inr (.key hfile (fileValue_of_filePairs hne hpairs) hkey))
  · exact hoverride _

/-- How loading fails; that it may run out of the stack is left out. It is without a message exactly
in the cases of `Unhandled`. Keys that name no setting are found before any setting is looked at, and
are named in order if all keys are texts; with a key that is no text there is no message. A message
ends the program with the exit code of a command that was used wrongly, and without one it breaks
off. -/
theorem load_failures (tree : Files.Tree) (env : Environment) (path : Option Text) :
    (∀ fault, load tree env path = .error fault →
      (isReported fault = false ↔ Unhandled tree env path fault)) ∧
    (∀ file pairs, chosenFile tree env path = some file →
      fileValue tree file = .ok (.map pairs) → (∃ p ∈ pairs, IsUnknownKey p.1) →
      ((∀ p ∈ pairs, p.1.text? ≠ none) → ∃ found, found.Pairwise (nameLe · ·) ∧
        (∀ name, name ∈ found ↔ name ∉ names ∧ ∃ p ∈ pairs, p.1 = .str name) ∧
        load tree env path = .error (.settings (.unknownKeys found)) ∧
        (LoadFault.settings (.unknownKeys found)).message =
          "Unknown config keys: ".toList ++ Text.join [',', ' '] found) ∧
      ((∃ p ∈ pairs, p.1.text? = none) → load tree env path = .error (.settings .unnamedKey))) ∧
    ∀ words i w fault, Invocation.ofWords words = .ok i → w.tree = tree → w.environment = env →
      i.config = path → load tree env path = .error fault →
      program words w =
        if isReported fault then
          (.exited misused, w.shows (errorLine ("config: ".toList ++ fault.message)))
        else (.broken (.settings fault), w) := by
  refine ⟨fun fault hload => ⟨fun hreported => ?_, isReported_of_unhandled⟩, ?_, ?_⟩
  · exact (fails_load tree env path fault hload).resolve_left (by simp [hreported])
  · rintro file pairs hfile hvalue ⟨p, hp, hunknown⟩
    refine ⟨fun htexts => ?_, fun hkey => load_of_unknown? hfile hvalue (unknown?_of_unnamed hkey)⟩
    have hcheck := keyCheck_unknown? pairs
    generalize hresult : unknown? pairs = result at hcheck
    cases hcheck with
    | known hknown => exact absurd hunknown (hknown p hp)
    | named hsorted hfound =>
      exact ⟨_, hsorted, hfound, load_of_unknown? hfile hvalue hresult, rfl⟩
    | unnamed hkey =>
      obtain ⟨q, hq, hnone⟩ := hkey
      exact absurd hnone (htexts q hq)
  · rintro words i w fault hwords rfl rfl rfl hload
    exact program_of_load_error hwords hload

/-! ### A key that is an integer -/

/-- A settings file with one pair, whose key is an integer. -/
def integerKeyTree : Files.Tree :=
  ⟨[(["c.yaml".toList], .file (Utf8.encode "1: a\n".toList) false)]⟩

theorem fileValue_integerKey :
    ∃ pairs, fileValue integerKeyTree "c.yaml".toList = .ok (.map pairs) ∧
      ∃ p ∈ pairs, p.1.text? = none := by
  have hbytes : integerKeyTree.bytes "c.yaml".toList = .ok (Utf8.encode "1: a\n".toList) := by
    decide
  have hpieces : Files.textPieces pieceSize (Utf8.encode "1: a\n".toList) =
      (["1: a\n".toList], none) :=
    Files.textPieces_of_block (by decide) (by decide) rfl rfl rfl (by decide) (by decide)
  have hunnamed : (filePairs integerKeyTree "c.yaml".toList).toOption.any
      (·.any fun p => p.1.text?.isNone) = true := by
    rw [filePairs, fileValue, hbytes]
    dsimp only
    rw [hpieces]
    decide +kernel
  obtain ⟨pairs, hpairs, hany⟩ := (Option.any_eq_true ..).1 hunnamed
  obtain ⟨p, hp, hnone⟩ := List.any_eq_true.1 hany
  have hfilePairs : filePairs integerKeyTree "c.yaml".toList = .ok pairs := by
    cases hresult : filePairs integerKeyTree "c.yaml".toList with
    | error fault =>
      rw [hresult] at hpairs
      cases hpairs
    | ok pairs' =>
      rw [hresult] at hpairs
      rw [Option.some.inj hpairs]
  exact ⟨pairs, fileValue_of_filePairs (List.ne_nil_of_mem hp) hfilePairs, p, hp,
    Option.isNone_iff_eq_none.1 hnone⟩

theorem integer_key_unreported :
    (∃ pairs, fileValue integerKeyTree "c.yaml".toList = .ok (.map pairs) ∧
      ∃ p ∈ pairs, IsUnknownKey p.1) ∧
    load integerKeyTree [] (some "c.yaml".toList) = .error (.settings .unnamedKey) ∧
    isReported (.settings .unnamedKey) = false := by
  obtain ⟨pairs, hvalue, p, hp, hnone⟩ := fileValue_integerKey
  refine ⟨⟨pairs, hvalue, p, hp, isUnknownKey_of_text?_eq_none hnone⟩, ?_, rfl⟩
  exact load_of_unknown? rfl hvalue (unknown?_of_unnamed ⟨p, hp, hnone⟩)

/-- A world with that file and nothing else. -/
def integerKeyWorld : World where
  tree := integerKeyTree
  environment := []
  ports := { isFree := fun _ => true, accepts := fun _ => false }

theorem load_failures_integer_key :
    program ["--config".toList, "c.yaml".toList, "devices".toList] integerKeyWorld =
      (.broken (.settings (.settings .unnamedKey)), integerKeyWorld) := by
  obtain ⟨pairs, hvalue, p, hp, hnone⟩ := fileValue_integerKey
  obtain ⟨-, hkeys, hprogram⟩ := load_failures integerKeyTree [] (some "c.yaml".toList)
  have hload := (hkeys _ pairs rfl hvalue ⟨p, hp, isUnknownKey_of_text?_eq_none hnone⟩).2
    ⟨p, hp, hnone⟩
  exact hprogram _ { config := some "c.yaml".toList } integerKeyWorld _ rfl rfl rfl rfl hload

end ScriptRun.Settings
