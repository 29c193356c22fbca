import Mathlib
import ScriptRun.Files.Tree

/-!
# What operations on a tree leave alone

Every path names a place, whether or not there is anything: only the names in the path decide.
Making directories puts them where nothing was, so that a file keeps its bytes and the paths that
lead to it. Storing a file changes the bytes at the place of its path, and the path leads there
afterwards.
-/

namespace ScriptRun.Files.Tree

/-! ### Looking up -/

theorem lookup_place_self (p : Place) (node : Node) (nodes : List (Place × Node)) :
    lookup p (place p node nodes) = some node := by
  induction nodes with
  | nil => simp [place, lookup]
  | cons entry rest ih =>
    by_cases h : entry.1 = p <;> simp [place, lookup, h, ih]

theorem lookup_place_of_ne {p q : Place} (hq : q ≠ p) (node : Node) (nodes : List (Place × Node)) :
    lookup q (place p node nodes) = lookup q nodes := by
  induction nodes with
  | nil => simp [place, lookup, hq.symm]
  | cons entry rest ih =>
    by_cases h : entry.1 = p
    · simp [place, lookup, h, hq.symm]
    · simp [place, lookup, h, ih]

theorem at?_put_self {p : Place} (hp : isGiven p = false) (t : Tree) (node : Node) :
    (t.put p node).at? p = some node := by
  simp [at?, put, hp, lookup_place_self]

theorem at?_put_of_ne {p q : Place} (hq : q ≠ p) (t : Tree) (node : Node) :
    (t.put p node).at? q = t.at? q := by
  simp [at?, put, lookup_place_of_ne hq]

theorem isGiven_of_at? {t : Tree} {p : Place} (h : t.at? p ≠ some .directory) :
    isGiven p = false := by
  rw [Bool.eq_false_iff]
  intro hgiven
  exact h (by rw [at?, if_pos hgiven])

/-! ### The place of a path -/

/-- The place that names lead to from another. -/
def walk (p : Place) : List Text → Place
  | [] => p
  | name :: rest =>
    if name = [] ∨ name = ['.'] then walk p rest
    else if name = ['.', '.'] then walk (above p) rest
    else walk (p ++ [name]) rest

def startOf (path : Text) : Place := if path.head? = some '/' then [root] else []

def namesOf (path : Text) : List Text := withoutTrailing (Text.splitAt '/' path)

def endingOf (path : Text) : Ending :=
  match (namesOf path).getLast? with
  | none => .dots
  | some last =>
    if last = ['.'] ∨ last = ['.', '.'] then .dots
    else if (namesOf path).length < (Text.splitAt '/' path).length then .slash else .plain

def placeOf (path : Text) : Place := walk (startOf path) (namesOf path)

/-- The bytes of the file at a place; there are none if there is no file. -/
def content (t : Tree) (p : Place) : List UInt8 :=
  match t.at? p with
  | some (.file bytes _) => bytes
  | _ => []

theorem walk_of_follow {t : Tree} {p q : Place} {names : List Text} {node : Option Node}
    (h : t.follow p names = .ok (q, node)) : walk p names = q := by
  fun_induction follow t p names with
  | case1 p =>
    simp only [Except.ok.injEq, Prod.mk.injEq] at h
    exact h.1
  | case2 p name rest _ hname ih => rw [walk, if_pos hname, ih h]
  | case3 p rest _ hname ih => rw [walk, if_neg hname, if_pos rfl, ih h]
  | case5 p name _ hname hdots next _ _ =>
    simp only [Except.ok.injEq, Prod.mk.injEq] at h
    rw [walk, if_neg hname, if_neg hdots]
    exact h.1
  | case7 p name rest _ hname hdots _ next _ _ ih =>
    rw [walk, if_neg hname, if_neg hdots]
    exact ih h
  | case4 => cases h
  | case6 => cases h
  | case8 => cases h
  | case9 => cases h

/-! ### Directories and files that stay -/

/-- Directories stay directories, and where something was something is. -/
structure Keeps (t t' : Tree) : Prop where
  directory : ∀ p, t.at? p = some .directory → t'.at? p = some .directory
  present : ∀ p, t.at? p ≠ none → t'.at? p ≠ none

/-- A path that leads somewhere goes on to lead there. -/
theorem Keeps.follow_eq {t t' : Tree} (hkeeps : t.Keeps t') {p q : Place} {names : List Text}
    {node : Option Node} (h : t.follow p names = .ok (q, node)) :
    t'.follow p names = .ok (q, t'.at? q) := by
  fun_induction follow t p names with
  | case1 p =>
    simp only [Except.ok.injEq, Prod.mk.injEq] at h
    rw [Tree.follow, h.1]
  | case2 p name rest hp hname ih =>
    rw [Tree.follow, hkeeps.directory p hp]
    simp only [if_pos hname]
    exact ih h
  | case3 p rest hp hname ih =>
    rw [Tree.follow, hkeeps.directory p hp]
    simp only [if_neg hname, if_true]
    exact ih h
  | case5 p name hp hname hdots next _ hlong =>
    simp only [Except.ok.injEq, Prod.mk.injEq] at h
    rw [Tree.follow, hkeeps.directory p hp]
    simp only [if_neg hname, if_neg hdots, if_neg hlong]
    rw [← h.1]
    cases hnext : t'.at? (p ++ [name]) with
    | none => rfl
    | some found => exact congrArg (fun found => Except.ok (next, found)) hnext
  | case7 p name rest hp hname hdots hlong next found hfound ih =>
    rw [Tree.follow, hkeeps.directory p hp]
    simp only [if_neg hname, if_neg hdots, if_neg hlong]
    obtain ⟨found', hfound'⟩ : ∃ found', t'.at? (p ++ [name]) = some found' :=
      Option.ne_none_iff_exists'.mp
        (hkeeps.present next (by rw [hfound]; exact Option.some_ne_none _))
    rw [hfound']
    exact ih h
  | case4 => cases h
  | case6 => cases h
  | case8 => cases h
  | case9 => cases h

theorem at?_of_follow {t : Tree} {p q : Place} {names : List Text} {node : Option Node}
    (h : t.follow p names = .ok (q, node)) : node = t.at? q := by
  have hself : t.Keeps t := ⟨fun _ h => h, fun _ h => h⟩
  rw [hself.follow_eq h] at h
  simp only [Except.ok.injEq, Prod.mk.injEq, true_and] at h
  exact h.symm

/-! ### Paths that lead somewhere -/

theorem locate_eq_ok {t : Tree} {path : Text} {found : Target} :
    t.locate path = .ok found ↔
      path.contains '\x00' = false ∧ path.isEmpty = false ∧
        t.follow (startOf path) (namesOf path) = .ok (found.place, found.node) ∧
        found.ending = endingOf path := by
  have hlocate : t.locate path =
      if path.contains '\x00' then .error .embeddedNull
      else if path.isEmpty then .error .notFound
      else do
        let reached ← t.follow (startOf path) (namesOf path)
        return ⟨reached.1, reached.2, endingOf path⟩ := rfl
  obtain ⟨p, node, ending⟩ := found
  rw [hlocate]
  split_ifs with hnul hempty
  · simp_all
  · simp_all
  · cases t.follow (startOf path) (namesOf path) with
    | error cause => simp [bind, Except.bind]
    | ok reached =>
      simp only [bind, Except.bind, pure, Except.pure, Except.ok.injEq, Target.mk.injEq, hnul,
        hempty, true_and, Prod.ext_iff, and_assoc, eq_comm]

theorem resolve_eq_ok {t : Tree} {path : Text} {found : Target} :
    t.resolve path = .ok found ↔ t.locate path = .ok found ∧ isUnnameable found = false := by
  rw [resolve]
  cases t.locate path with
  | error cause => simp [bind, Except.bind]
  | ok reached =>
    simp only [bind, Except.bind, pure, Except.pure]
    split_ifs with hname
    · simp only [Except.ok.injEq, false_iff, not_and]
      rintro rfl
      simp [hname]
    · simp only [Except.ok.injEq]
      constructor
      · rintro rfl
        exact ⟨rfl, Bool.eq_false_iff.mpr hname⟩
      · exact fun h => h.1

/-- A path that leads somewhere leads to the place that it names. -/
theorem placeOf_of_resolve {t : Tree} {path : Text} {found : Target}
    (h : t.resolve path = .ok found) :
    found.place = placeOf path ∧ found.node = t.at? (placeOf path) := by
  obtain ⟨-, -, hfollow, -⟩ := locate_eq_ok.mp (resolve_eq_ok.mp h).1
  have hplace : found.place = placeOf path := (walk_of_follow hfollow).symm
  exact ⟨hplace, hplace ▸ at?_of_follow hfollow⟩

theorem Keeps.resolve_eq {t t' : Tree} (hkeeps : t.Keeps t') {path : Text} {found : Target}
    (h : t.resolve path = .ok found) :
    t'.resolve path = .ok { found with node := t'.at? found.place } := by
  obtain ⟨hlocate, hname⟩ := resolve_eq_ok.mp h
  obtain ⟨hnul, hempty, hfollow, hending⟩ := locate_eq_ok.mp hlocate
  exact resolve_eq_ok.mpr
    ⟨locate_eq_ok.mpr ⟨hnul, hempty, hkeeps.follow_eq hfollow, hending⟩, hname⟩

theorem bytes_eq_ok {t : Tree} {path : Text} {bytes : List UInt8} :
    t.bytes path = .ok bytes ↔
      ∃ found executable, t.resolve path = .ok found ∧
        found.node = some (.file bytes executable) ∧ found.ending = .plain := by
  rw [Tree.bytes, stat]
  cases t.resolve path with
  | error cause => simp [bind, Except.bind]
  | ok found =>
    obtain ⟨place, node, ending⟩ := found
    simp only [bind, Except.bind, pure, Except.pure]
    rcases node with - | (- | ⟨old, - | -⟩) <;> cases ending <;> simp

/-! ### Storing a file -/

/-- Storing what may be stored at a place keeps all directories. -/
theorem keeps_put_file {t : Tree} {p : Place} (hp : t.at? p ≠ some .directory)
    (bytes : List UInt8) (executable : Bool) : t.Keeps (t.put p (.file bytes executable)) := by
  constructor
  · intro q hq
    have hne : q ≠ p := fun h => hp (h ▸ hq)
    rw [at?_put_of_ne hne, hq]
  · intro q hq
    by_cases h : q = p
    · rw [h, at?_put_self (isGiven_of_at? hp)]
      exact Option.some_ne_none _
    · rwa [at?_put_of_ne h]

/-- A stored file has the bytes computed from those that were at its place. -/
theorem bytes_store {t t' : Tree} {path : Text} {update : List UInt8 → List UInt8}
    (h : t.store path update = .ok t') :
    t'.bytes path = .ok (update (t.content (placeOf path))) := by
  rw [store] at h
  cases hfound : t.resolve path with
  | error cause => simp [hfound, bind, Except.bind] at h
  | ok found =>
    obtain ⟨hplace, hnode⟩ := placeOf_of_resolve hfound
    have hstored : ∀ executable, t.at? (placeOf path) ≠ some .directory → found.ending = .plain →
        t.put found.place (.file (update (t.content (placeOf path))) executable) = t' →
        t'.bytes path = .ok (update (t.content (placeOf path))) := by
      rintro executable hdirectory hending rfl
      rw [hplace]
      refine bytes_eq_ok.mpr ⟨_, executable, (keeps_put_file hdirectory _ _).resolve_eq hfound, ?_,
        hending⟩
      rw [hplace]
      exact at?_put_self (isGiven_of_at? hdirectory) t _
    simp only [hfound, bind, Except.bind, pure, Except.pure] at h
    split at h
    · rename_i old executable hending hfile
      rw [hnode] at hfile
      refine hstored executable (by simp [hfile]) hending ?_
      rw [content, hfile]
      exact Except.ok.inj h
    · rename_i hending hnone
      rw [hnode] at hnone
      refine hstored false (by simp [hnone]) hending ?_
      rw [content, hnone]
      exact Except.ok.inj h
    · cases h

/-- A file can be stored under a path, whatever its bytes are. -/
def IsStorable (t : Tree) (path : Text) : Prop := ∀ update, ∃ t', t.store path update = .ok t'

theorem isStorable_of_bytes {t : Tree} {path : Text} {bytes : List UInt8}
    (h : t.bytes path = .ok bytes) : t.IsStorable path := by
  intro update
  obtain ⟨⟨place, node, ending⟩, executable, hfound, hnode, hending⟩ := bytes_eq_ok.mp h
  obtain rfl : node = some (.file bytes executable) := hnode
  obtain rfl : ending = .plain := hending
  refine ⟨t.put place (.file (update bytes) executable), ?_⟩
  rw [store, hfound]
  rfl

theorem content_of_bytes {t : Tree} {path : Text} {bytes : List UInt8}
    (h : t.bytes path = .ok bytes) : t.content (placeOf path) = bytes := by
  obtain ⟨found, executable, hfound, hnode, -⟩ := bytes_eq_ok.mp h
  rw [(placeOf_of_resolve hfound).2] at hnode
  rw [content, hnode]

/-! ### Making directories -/

/-- Directories may have come where nothing was, and that is all. -/
def Grows (t t' : Tree) : Prop :=
  ∀ p, t'.at? p = t.at? p ∨ t.at? p = none ∧ t'.at? p = some .directory

theorem Grows.refl (t : Tree) : t.Grows t := fun _ => .inl rfl

theorem Grows.trans {t t' t'' : Tree} (h : t.Grows t') (h' : t'.Grows t'') : t.Grows t'' := by
  intro p
  obtain heq | ⟨hnone, hdirectory⟩ := h p
  · obtain heq' | ⟨hnone', hdirectory'⟩ := h' p
    · exact .inl (heq'.trans heq)
    · exact .inr ⟨heq ▸ hnone', hdirectory'⟩
  · obtain heq' | ⟨hnone', -⟩ := h' p
    · exact .inr ⟨hnone, heq'.trans hdirectory⟩
    · exact absurd (hdirectory.symm.trans hnone') (Option.some_ne_none _)

theorem Grows.at?_eq {t t' : Tree} (h : t.Grows t') {p : Place} (hp : t.at? p ≠ none) :
    t'.at? p = t.at? p := by
  obtain heq | ⟨hnone, -⟩ := h p
  · exact heq
  · exact absurd hnone hp

theorem Grows.keeps {t t' : Tree} (h : t.Grows t') : t.Keeps t' := by
  constructor
  · intro p hp
    rw [h.at?_eq (by rw [hp]; exact Option.some_ne_none _), hp]
  · intro p hp
    rwa [h.at?_eq hp]

theorem Grows.content_eq {t t' : Tree} (h : t.Grows t') (p : Place) :
    t'.content p = t.content p := by
  obtain heq | ⟨hnone, hdirectory⟩ := h p
  · rw [content, heq, content]
  · rw [content, hdirectory, content, hnone]

theorem Grows.bytes_eq {t t' : Tree} (h : t.Grows t') {path : Text} {bytes : List UInt8}
    (hbytes : t.bytes path = .ok bytes) : t'.bytes path = .ok bytes := by
  obtain ⟨found, executable, hfound, hnode, hending⟩ := bytes_eq_ok.mp hbytes
  obtain ⟨hplace, hat⟩ := placeOf_of_resolve hfound
  refine bytes_eq_ok.mpr ⟨_, executable, h.keeps.resolve_eq hfound, ?_, hending⟩
  rw [hnode] at hat
  rw [hplace, h.at?_eq (by rw [← hat]; exact Option.some_ne_none _), hat]

theorem grows_put_directory {t : Tree} {p : Place} (hp : t.at? p = none) :
    t.Grows (t.put p .directory) := by
  intro q
  by_cases h : q = p
  · have hgiven : isGiven p = false := isGiven_of_at? (show t.at? p ≠ _ by simp [hp])
    exact .inr ⟨h ▸ hp, h ▸ at?_put_self hgiven t .directory⟩
  · exact .inl (at?_put_of_ne h t .directory)

theorem grows_makeDirectory {t t' : Tree} {path : Text} (h : t.makeDirectory path = .ok t') :
    t.Grows t' := by
  rw [makeDirectory] at h
  cases hfound : t.resolve path with
  | error cause => simp [hfound, bind, Except.bind] at h
  | ok found =>
    obtain ⟨hplace, hnode⟩ := placeOf_of_resolve hfound
    simp only [hfound, bind, Except.bind, pure, Except.pure] at h
    cases hnone : found.node with
    | some node => simp [hnone] at h
    | none =>
      simp only [hnone, Except.ok.injEq] at h
      rw [← h, hplace]
      exact grows_put_directory (hnode ▸ hnone)

theorem grows_ensureMade (path : Text) (t : Tree) : t.Grows (ensureMade path t).2 := by
  rw [ensureMade]
  split
  · rename_i t' h
    exact grows_makeDirectory h
  · split_ifs
    · exact .refl t
    · exact .refl t

theorem grows_makeDirectories (depth : Nat) (path : Text) (t : Tree) :
    t.Grows (makeDirectories depth path t).2 := by
  induction depth generalizing path t with
  | zero => exact .refl t
  | succ depth ih =>
    rw [makeDirectories]
    generalize (if (Path.name path).isEmpty then Path.parent path else path) = cut
    split_ifs with hdone hdot
    · exact grows_ensureMade path t
    all_goals
      have habove := ih (Path.parent cut) t
      generalize makeDirectories depth (Path.parent cut) t = above at habove
      obtain ⟨⟨cause, failed⟩ | made, t'⟩ := above
    · cases cause <;> exact habove
    · exact habove
    · cases cause
      case alreadyExists => exact habove.trans (grows_ensureMade path t')
      all_goals exact habove
    · exact habove.trans (grows_ensureMade path t')

theorem grows_ensureDirectory (path : Text) (t : Tree) :
    t.Grows ((ensureDirectory path).outcome t).2 := by
  have hmade := grows_makeDirectories (path.length + 1) path t
  have hstate : ((ensureDirectory path).outcome t).2 =
      (makeDirectories (path.length + 1) path t).2 := by
    simp only [ensureDirectory, Action.outcome, EStateM.run, bind, EStateM.bind, get, getThe,
      MonadStateOf.get, EStateM.get, modify, modifyGet, MonadStateOf.modifyGet, EStateM.modifyGet]
    generalize makeDirectories (path.length + 1) path t = result
    obtain ⟨⟨cause, failed⟩ | made, t'⟩ := result <;> rfl
  rw [hstate]
  exact hmade

end ScriptRun.Files.Tree
