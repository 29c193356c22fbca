import ScriptRun.Proofs.Files.Growth
import ScriptRun.Proofs.Text.Lines

/-!
# Directories above a path

A path that leads somewhere leads through its directory, so the directory that holds a file is there
and making it again changes nothing.
-/

namespace ScriptRun

namespace Text

theorem splitAt_append_cons_self (c : Char) (s t : Text) :
    splitAt c (s ++ c :: t) = splitAt c s ++ splitAt c t := by
  have hs := List.dropLast_append_getLast (splitAt_ne_nil c s)
  rw [splitAt_append hs.symm (splitAt_cons_self c t), List.append_nil]
  conv_rhs => rw [← hs]
  simp

theorem splitAt_replicate_append (c : Char) (count : Nat) {t : Text} (ht : c ∉ t) :
    splitAt c (List.replicate count c ++ t) = List.replicate count [] ++ [t] := by
  induction count with
  | zero => exact splitAt_of_not_mem ht
  | succ count ih =>
    rw [List.replicate_succ, List.cons_append, splitAt_cons_self, ih]
    rfl

theorem getLast_splitAt_ne_nil {c : Char} {t : Text} (ht : t ≠ []) (hlast : t.getLast? ≠ some c) :
    ∃ parts last, splitAt c t = parts ++ [last] ∧ last ≠ [] := by
  obtain ⟨front, x, rfl⟩ := (List.eq_nil_or_concat' t).resolve_left ht
  have hx : x ≠ c := by simpa using hlast
  have hsingle : splitAt c [x] = [[x]] := splitAt_of_not_mem (by simpa using hx.symm)
  have hfront := List.dropLast_append_getLast (splitAt_ne_nil c front)
  exact ⟨_, _, splitAt_append hfront.symm hsingle, by simp⟩

end Text

namespace Files

/-! ### The parts of a path -/

namespace Path

theorem rdropWhile_append_name (path : Text) : path.rdropWhile (· ≠ '/') ++ name path = path :=
  List.rdropWhile_append_rtakeWhile

theorem cut_fst (path : Text) : (cut path).1 = path.rdropWhile (· ≠ '/') := by
  have hlength := congrArg List.length (rdropWhile_append_name path)
  rw [List.length_append] at hlength
  have htake : (cut path).1 = path.take (path.length - (name path).length) := rfl
  exact htake.trans ((congrArg (List.take _) (rdropWhile_append_name path).symm).trans
    (List.take_left' (by omega)))

theorem not_mem_name (path : Text) : '/' ∉ name path := fun h => by
  simpa using List.mem_rtakeWhile_imp (p := fun c : Char => decide (c ≠ '/')) (l := path) h

theorem getLast?_rdropWhile_ne {t : Text} {p : Char → Bool} {c : Char} (hc : p c = true) :
    (t.rdropWhile p).getLast? ≠ some c := by
  intro hlast
  have hne : t.rdropWhile p ≠ [] := by
    intro hnil
    rw [hnil] at hlast
    cases hlast
  rw [List.getLast?_eq_some_getLast hne, Option.some.injEq] at hlast
  exact List.rdropWhile_last_not p t hne (by rw [hlast, hc])

theorem eq_slash_of_name_eq_nil {front : Text} {c : Char} (h : name (front ++ [c]) = []) :
    c = '/' := by
  by_contra hc
  have hkept : name (front ++ [c]) = name front ++ [c] :=
    List.rtakeWhile_concat_pos _ _ _ (by simpa using hc)
  exact List.append_ne_nil_of_right_ne_nil _ (List.cons_ne_nil c []) (hkept.symm.trans h)

/-- A path is a directory, slashes, and a name. Only slashes from the root and a bare name have no
directory before the slashes. -/
theorem exists_parts (path : Text) :
    ∃ bare count, path = bare ++ (List.replicate count '/' ++ name path) ∧
      bare.getLast? ≠ some '/' ∧ (bare ≠ [] → 0 < count) ∧
      parent path = if bare = [] then List.replicate count '/' else bare := by
  have hslashes : (cut path).1.rtakeWhile (· = '/') =
      List.replicate ((cut path).1.rtakeWhile (· = '/')).length '/' :=
    List.eq_replicate_of_mem fun c hc => by simpa using List.mem_rtakeWhile_imp hc
  have hsplit : (cut path).1.rdropWhile (· = '/') ++ (cut path).1.rtakeWhile (· = '/') =
    (cut path).1 := List.rdropWhile_append_rtakeWhile
  have hbare : ((cut path).1.rdropWhile (· = '/')).getLast? ≠ some '/' :=
    getLast?_rdropWhile_ne (by decide)
  have hparent : parent path = if ((cut path).1.rdropWhile (· = '/')).isEmpty then (cut path).1
    else (cut path).1.rdropWhile (· = '/') := rfl
  rw [hslashes] at hsplit
  generalize ((cut path).1.rtakeWhile (· = '/')).length = count at hsplit
  generalize (cut path).1.rdropWhile (· = '/') = bare at hsplit hbare hparent
  refine ⟨bare, count, ?_, hbare, fun hne => ?_, ?_⟩
  · rw [← List.append_assoc, hsplit, cut_fst]
    exact (rdropWhile_append_name path).symm
  · -- what stands before the last name ends in a slash
    refine Nat.pos_of_ne_zero ?_
    rintro rfl
    rw [List.replicate_zero, List.append_nil, cut_fst] at hsplit
    obtain ⟨front, c, rfl⟩ := (List.eq_nil_or_concat' bare).resolve_left hne
    have hc : c ≠ '/' := by simpa using hbare
    have hlast : (path.rdropWhile (· ≠ '/')).getLast? = some c := by
      rw [← hsplit, List.getLast?_concat]
    exact getLast?_rdropWhile_ne (by simpa using hc) hlast
  · rw [hparent, ← hsplit]
    cases bare with
    | nil => rfl
    | cons c rest => rfl

/-- The directory above a path ends in a name, or it is the root. -/
theorem parent_parent {path : Text} (h : name (parent path) = []) :
    parent (parent path) = parent path := by
  obtain ⟨bare, count, -, hlast, -, hparent⟩ := exists_parts path
  rw [hparent] at h ⊢
  split_ifs at h ⊢ with hbare
  · simp [parent, cut]
  · obtain ⟨front, c, rfl⟩ := (List.eq_nil_or_concat' bare).resolve_left hbare
    rw [eq_slash_of_name_eq_nil h] at hlast
    exact absurd (List.getLast?_concat) hlast

end Path

/-! ### Following a path -/

namespace Tree

variable {t : Tree}

/-- No name on the way to a place is too long. -/
def IsNameable (p : Place) : Prop := ∀ name ∈ p, isTooLong name = false

theorem IsNameable.above {p : Place} (h : IsNameable p) : IsNameable (above p) := by
  have hdots : isTooLong ['.', '.'] = false := by decide
  have hroot : isTooLong root = false := by decide
  unfold Tree.above
  split
  · simpa [IsNameable] using hdots
  · split_ifs
    · simpa [IsNameable] using hroot
    · exact List.forall_mem_append.mpr ⟨h, by simpa using hdots⟩
    · exact fun name hname => h name (List.mem_of_mem_dropLast hname)

/-- A name that is followed by more leads from a directory to a place. -/
inductive Leads (t : Tree) (p : Place) (name : Text) : Place → Prop
  | here : name = [] ∨ name = ['.'] → Leads t p name p
  | up : ¬(name = [] ∨ name = ['.']) → name = ['.', '.'] → Leads t p name (above p)
  | down : ¬(name = [] ∨ name = ['.']) → name ≠ ['.', '.'] → isTooLong name = false →
    t.at? (p ++ [name]) ≠ none → Leads t p name (p ++ [name])

theorem Leads.isNameable {p q : Place} {name : Text} (h : t.Leads p name q) (hp : IsNameable p) :
    IsNameable q := by
  cases h with
  | here => exact hp
  | up => exact hp.above
  | down _ _ hshort => exact List.forall_mem_append.mpr ⟨hp, by simpa using hshort⟩

theorem Leads.follow_eq {p q : Place} {name : Text} (h : t.Leads p name q)
    (hp : t.at? p = some .directory) (rest : List Text) :
    t.follow p (name :: rest) = t.follow q rest := by
  rw [follow]
  simp only [hp]
  cases h with
  | here hskip => rw [if_pos hskip]
  | up hskip hdots => rw [if_neg hskip, if_pos hdots]
  | down hskip hdots hshort hpresent =>
    obtain ⟨node, hnode⟩ := Option.ne_none_iff_exists'.mp hpresent
    simp only [if_neg hskip, if_neg hdots, hshort, Bool.and_false, Bool.false_eq_true, if_false,
      hnode]

theorem at?_of_follow_cons {p : Place} {name : Text} {rest : List Text}
    {reached : Place × Option Node} (h : t.follow p (name :: rest) = .ok reached) :
    t.at? p = some .directory := by
  rw [follow] at h
  split at h
  · assumption
  · cases h
  · cases h

theorem exists_leads {p : Place} {name : Text} {rest : List Text} (hrest : rest ≠ [])
    {reached : Place × Option Node} (h : t.follow p (name :: rest) = .ok reached) :
    ∃ q, t.Leads p name q ∧ t.follow q rest = .ok reached := by
  have hdirectory := at?_of_follow_cons h
  rw [follow] at h
  simp only [hdirectory] at h
  split_ifs at h with hskip hdots hlong
  · exact ⟨p, .here hskip, h⟩
  · exact ⟨above p, .up hskip hdots, h⟩
  · have hshort : isTooLong name = false := by
      simpa [List.isEmpty_iff, hrest] using hlong
    split at h
    · exact absurd rfl hrest
    · cases h
    · rename_i node hnode
      refine ⟨p ++ [name], .down hskip hdots hshort ?_, h⟩
      rw [hnode]
      exact Option.some_ne_none _

/-- Names that are followed by more lead to a directory. -/
theorem follow_append {p : Place} {names more : List Text} {reached : Place × Option Node}
    (hp : IsNameable p) (hmore : more ≠ []) (h : t.follow p (names ++ more) = .ok reached) :
    ∃ q, t.follow p names = .ok (q, some .directory) ∧ IsNameable q := by
  induction names generalizing p with
  | nil =>
    obtain ⟨name, rest, rfl⟩ := List.exists_cons_of_ne_nil hmore
    refine ⟨p, ?_, hp⟩
    rw [follow, at?_of_follow_cons h]
  | cons name rest ih =>
    obtain ⟨q, hleads, hq⟩ := exists_leads (List.append_ne_nil_of_right_ne_nil rest hmore) h
    rw [hleads.follow_eq (at?_of_follow_cons h)]
    exact ih (hleads.isNameable hp) hq

/-! ### The directory of a path -/

theorem withoutTrailing_concat_nil (names : List Text) :
    withoutTrailing (names ++ [[]]) = withoutTrailing names := by
  rw [withoutTrailing, List.reverse_append, List.reverse_singleton, List.singleton_append,
    List.dropWhile_cons_of_pos rfl, withoutTrailing]

theorem withoutTrailing_concat (names : List Text) {name : Text} (hname : name ≠ []) :
    withoutTrailing (names ++ [name]) = names ++ [name] := by
  have hkept : name.isEmpty = false := by simpa [List.isEmpty_eq_false_iff] using hname
  rw [withoutTrailing, List.reverse_append, List.reverse_singleton, List.singleton_append,
    List.dropWhile_cons_of_neg (by simp [hkept]), List.reverse_cons, List.reverse_reverse]

theorem isNameable_startOf (path : Text) : IsNameable (startOf path) := by
  have hroot : isTooLong root = false := by decide
  unfold startOf
  split_ifs
  · simpa [IsNameable] using hroot
  · simp [IsNameable]

theorem stat_eq_directory_iff {path : Text} :
    t.stat path = .ok .directory ↔
      ∃ found, t.resolve path = .ok found ∧ found.node = some .directory := by
  rw [stat]
  cases t.resolve path with
  | error cause => simp [bind, Except.bind]
  | ok found =>
    obtain ⟨place, node, ending⟩ := found
    simp only [bind, Except.bind, pure, Except.pure]
    rcases node with - | (- | ⟨bytes, executable⟩) <;> cases ending <;> simp

theorem stat_eq_directory {path : Text} {p : Place}
    (hnul : path.contains '\x00' = false) (hempty : path ≠ [])
    (hp : t.follow (startOf path) (namesOf path) = .ok (p, some .directory))
    (hshort : IsNameable p) :
    t.stat path = .ok .directory := by
  have hname : isUnnameable ⟨p, some .directory, endingOf path⟩ = false := by
    rw [isUnnameable]
    cases hlast : p.getLast? with
    | none => rfl
    | some last => exact hshort last (List.mem_of_getLast? hlast)
  exact stat_eq_directory_iff.mpr ⟨_, resolve_eq_ok.mpr
    ⟨locate_eq_ok.mpr ⟨hnul, by simpa using hempty, hp, rfl⟩, hname⟩, rfl⟩

/-- The working directory is there. -/
theorem stat_dot (t : Tree) : t.stat ['.'] = .ok .directory := by
  have hself : t.at? [] = some .directory := rfl
  refine stat_eq_directory rfl (List.cons_ne_nil _ _) ?_ (isNameable_startOf ['.'])
  change t.follow [] [['.']] = .ok ([], some .directory)
  rw [follow, hself]
  rfl

/-- Slashes alone are the root. -/
theorem stat_replicate (t : Tree) {count : Nat} (hcount : 0 < count) :
    t.stat (List.replicate count '/') = .ok .directory := by
  have hsplit : Text.splitAt '/' (List.replicate count '/') = List.replicate (count + 1) [] := by
    have hparts := Text.splitAt_replicate_append '/' count (t := []) (by simp)
    rwa [List.append_nil, ← List.replicate_succ'] at hparts
  have hnames : namesOf (List.replicate count '/') = [] := by
    rw [namesOf, hsplit, withoutTrailing, List.reverse_replicate]
    simp
  have hstart : startOf (List.replicate count '/') = [root] := by
    obtain ⟨rest, rfl⟩ := Nat.exists_eq_add_one_of_ne_zero hcount.ne'
    rfl
  refine stat_eq_directory (by simp) (by simpa using hcount.ne') ?_
    (isNameable_startOf (List.replicate count '/'))
  rw [hnames, hstart]
  rfl

/-- A path that leads somewhere by its last name has a directory, or is a bare name. -/
theorem stat_parent {path : Text} {found : Target} (h : t.locate path = .ok found)
    (hname : Path.name path ≠ []) :
    Path.parent path = [] ∨ t.stat (Path.parent path) = .ok .directory := by
  obtain ⟨hnul, -, hfollow, -⟩ := locate_eq_ok.mp h
  obtain ⟨bare, count, hpath, hlast, hcount, hparent⟩ := Path.exists_parts path
  rw [hparent]
  split_ifs with hbare
  · obtain rfl | hpositive := Nat.eq_zero_or_pos count
    · exact .inl rfl
    · exact .inr (stat_replicate t hpositive)
  · right
    obtain ⟨slashes, rfl⟩ := Nat.exists_eq_add_one_of_ne_zero (hcount hbare).ne'
    rw [List.replicate_succ, List.cons_append] at hpath
    have hsplit : Text.splitAt '/' path =
        Text.splitAt '/' bare ++ (List.replicate slashes [] ++ [Path.name path]) := by
      conv_lhs => rw [hpath]
      rw [Text.splitAt_append_cons_self, Text.splitAt_replicate_append _ _ (Path.not_mem_name path)]
    have hnames : namesOf path =
        Text.splitAt '/' bare ++ (List.replicate slashes [] ++ [Path.name path]) := by
      rw [namesOf, hsplit, ← List.append_assoc, withoutTrailing_concat _ hname]
    have hbareNames : namesOf bare = Text.splitAt '/' bare := by
      obtain ⟨parts, last, hparts, hne⟩ := Text.getLast_splitAt_ne_nil hbare hlast
      rw [namesOf, hparts, withoutTrailing_concat _ hne]
    have hstart : startOf path = startOf bare := by
      obtain ⟨c, rest, rfl⟩ := List.exists_cons_of_ne_nil hbare
      rw [startOf, startOf, hpath]
      rfl
    rw [hnames, hstart] at hfollow
    obtain ⟨p, hp, hshort⟩ := follow_append (isNameable_startOf bare) (by simp) hfollow
    rw [← hbareNames] at hp
    refine stat_eq_directory ?_ hbare hp hshort
    rw [hpath] at hnul
    simp only [List.contains_eq_mem, decide_eq_false_iff_not, List.mem_append, not_or] at hnul ⊢
    exact hnul.1

/-! ### Making a directory that is there -/

theorem length_withoutTrailing_le (names : List Text) :
    (withoutTrailing names).length ≤ names.length := by
  have hsublist := (List.dropWhile_sublist (·.isEmpty) (l := names.reverse)).length_le
  rw [List.length_reverse] at hsublist
  rwa [withoutTrailing, List.length_reverse]

theorem name_ne_nil_of_plain {path : Text} (h : endingOf path = .plain) : Path.name path ≠ [] := by
  intro hname
  obtain rfl | ⟨front, c, rfl⟩ := List.eq_nil_or_concat' path
  · cases h
  · obtain rfl := Path.eq_slash_of_name_eq_nil hname
    have hlength : (namesOf (front ++ ['/'])).length <
        (Text.splitAt '/' (front ++ ['/'])).length := by
      have hfront := length_withoutTrailing_le (Text.splitAt '/' front)
      have hempty : Text.splitAt '/' [] = [[]] := rfl
      rw [namesOf, Text.splitAt_append_cons_self, hempty, withoutTrailing_concat_nil,
        List.length_append]
      exact Nat.lt_succ_of_le hfront
    rw [endingOf] at h
    split at h
    · cases h
    · split_ifs at h

theorem ensureMade_of_directory {path : Text} (h : t.stat path = .ok .directory) :
    ensureMade path t = (.ok (), t) := by
  obtain ⟨found, hfound, hnode⟩ := stat_eq_directory_iff.mp h
  have hmade : t.makeDirectory path = .error .alreadyExists := by
    rw [makeDirectory, hfound]
    simp only [bind, Except.bind, hnode]
  have hdirectory : t.isDirectory path = true := by rw [isDirectory, h]
  rw [ensureMade, hmade]
  exact if_pos hdirectory

/-- A directory that is there is not made again. Either it has a name, or it is the root. -/
theorem makeDirectories_of_directory {path : Text} (h : t.stat path = .ok .directory)
    (hname : Path.name path = [] → Path.parent path = path) (depth : Nat) :
    makeDirectories (depth + 1) path t = (.ok (), t) := by
  obtain ⟨found, hfound, -⟩ := stat_eq_directory_iff.mp h
  have hcut : (if (Path.name path).isEmpty then Path.parent path else path) = path := by
    split_ifs with hempty
    · exact hname (by simpa using hempty)
    · rfl
  have hdone : ((Path.parent path).isEmpty || (Path.name path).isEmpty ||
      t.contains (Path.parent path)) = true := by
    by_cases hempty : Path.name path = []
    · simp [hempty]
    · obtain hnone | hparent := stat_parent (resolve_eq_ok.mp hfound).1 hempty
      · simp [hnone]
      · simp [contains, hparent, Except.toBool]
  rw [makeDirectories, hcut]
  exact (if_pos hdone).trans (ensureMade_of_directory h)

theorem outcome_ensureDirectory {path : Text} (h : t.stat path = .ok .directory)
    (hname : Path.name path = [] → Path.parent path = path) :
    (ensureDirectory path).outcome t = (.ok (), t) := by
  have hmade := makeDirectories_of_directory h hname path.length
  simp only [ensureDirectory, Action.outcome, EStateM.run, bind, EStateM.bind, get, getThe,
    MonadStateOf.get, EStateM.get, modify, modifyGet, MonadStateOf.modifyGet, EStateM.modifyGet,
    hmade]
  rfl

end Tree

end Files

end ScriptRun
