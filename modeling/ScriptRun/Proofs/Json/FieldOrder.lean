import ScriptRun.Proofs.Json.RoundTrip

/-!
# Values up to the order of their fields

An object stands for what its names give, so two objects are alike if every name gives alike values
in both. A record is read back as a value that is alike to the one that was written, if that is
plain: without floats and without a name that occurs twice in an object.
-/

namespace ScriptRun.Json

open Status.EventFile

/-- The same value up to the order of the fields of objects. -/
inductive Alike : Json → Json → Prop
  | null : Alike .null .null
  | bool (b : Bool) : Alike (.bool b) (.bool b)
  | int (n : Int) : Alike (.int n) (.int n)
  | str (t : Text) : Alike (.str t) (.str t)
  | arr {items items' : List Json} : List.Forall₂ Alike items items' →
    Alike (.arr items) (.arr items')
  | obj {fields fields' : List (Text × Json)} :
    (∀ name, Option.Rel Alike (field? name fields) (field? name fields')) →
    Alike (.obj fields) (.obj fields')

/-- A value of texts, truth values, nulls and integers that can be written, and of lists and objects
of such values. -/
inductive IsPlain : Json → Prop
  | null : IsPlain .null
  | bool (b : Bool) : IsPlain (.bool b)
  | int {n : Int} : Decimal.isWritable n = true → IsPlain (.int n)
  | str (t : Text) : IsPlain (.str t)
  | arr {items : List Json} : (∀ item ∈ items, IsPlain item) → IsPlain (.arr items)
  | obj {fields : List (Text × Json)} : (fields.map (·.1)).Nodup → (∀ f ∈ fields, IsPlain f.2) →
    IsPlain (.obj fields)

theorem IsPlain.isWritable {value : Json} (h : IsPlain value) : isWritable value = true := by
  induction h with
  | null => rfl
  | bool b => rfl
  | int hn => exact (isWritable.eq_1 _).trans hn
  | str t => rfl
  | arr _ ih => exact (isWritable_arr _).mpr ih
  | obj _ _ ih => exact (isWritable_obj _).mpr ih

/-! ### The value of a name -/

theorem field?_setField (name other : Text) (value : Json) (fields : List (Text × Json)) :
    field? name (setField other value fields) =
      if other = name then some value else field? name fields := by
  induction fields with
  | nil => rfl
  | cons f rest ih =>
    obtain ⟨first, old⟩ := f
    by_cases hfirst : first = other
    · subst hfirst
      by_cases hname : first = name <;> simp [setField, field?, hname]
    · by_cases hname : first = name
      · subst hname
        simp [setField, field?, hfirst, Ne.symm hfirst]
      · simp [setField, field?, hfirst, hname, ih]

theorem field?_eq_none {name : Text} {fields : List (Text × Json)}
    (h : name ∉ fields.map (·.1)) : field? name fields = none := by
  induction fields with
  | nil => rfl
  | cons f rest ih =>
    rw [List.map_cons, List.mem_cons, not_or] at h
    rw [field?, if_neg (Ne.symm h.1), ih h.2]

theorem field?_eq_some_iff {name : Text} {value : Json} {fields : List (Text × Json)}
    (hnames : (fields.map (·.1)).Nodup) :
    field? name fields = some value ↔ (name, value) ∈ fields := by
  induction fields with
  | nil => simp [field?]
  | cons f rest ih =>
    obtain ⟨first, old⟩ := f
    obtain ⟨hfirst, hrest⟩ := List.nodup_cons.mp hnames
    by_cases hname : first = name
    · subst hname
      have hother : (first, value) ∉ rest := fun h => hfirst (List.mem_map.mpr ⟨_, h, rfl⟩)
      simp [field?, hother, eq_comm]
    · simp [field?, hname, Ne.symm hname, ih hrest]

/-- If no name occurs twice, the order of the fields does not matter. -/
theorem field?_perm {fields fields' : List (Text × Json)} (h : fields.Perm fields')
    (hnames : (fields.map (·.1)).Nodup) (name : Text) :
    field? name fields = field? name fields' := by
  have hnames' : (fields'.map (·.1)).Nodup := (h.map _).nodup_iff.mp hnames
  refine Option.ext fun value => ?_
  rw [field?_eq_some_iff hnames, field?_eq_some_iff hnames', h.mem_iff]

theorem field?_map (g : Json → Json) (name : Text) (fields : List (Text × Json)) :
    field? name (fields.map fun f => (f.1, g f.2)) = (field? name fields).map g := by
  induction fields with
  | nil => rfl
  | cons f rest ih => by_cases h : f.1 = name <;> simp [field?, h, ih]

/-- Setting fields whose names differ gives each of them its value. -/
theorem field?_foldl_setField {fields : List (Text × Json)} (hnames : (fields.map (·.1)).Nodup)
    (made : List (Text × Json)) (name : Text) :
    field? name (fields.foldl (fun made f => setField f.1 f.2 made) made) =
      (field? name fields).or (field? name made) := by
  induction fields generalizing made with
  | nil => rfl
  | cons f rest ih =>
    obtain ⟨hfirst, hrest⟩ := List.nodup_cons.mp hnames
    rw [List.foldl_cons, ih hrest, field?_setField, field?]
    by_cases hname : f.1 = name
    · subst hname
      simp [field?_eq_none hfirst]
    · simp [hname]

/-! ### What is read back -/

/-- What is read back of a plain value is alike to it. -/
theorem alike_settled {value : Json} (h : IsPlain value) : Alike value.settled value := by
  induction h with
  | null => exact .null
  | bool b => exact .bool b
  | int hn => exact .int _
  | str t => exact .str t
  | @arr items _ ih =>
    rw [settled, settledItems_eq_map]
    exact .arr (List.forall₂_map_left_iff.mpr (List.forall₂_same.mpr ih))
  | @obj fields hnames _ ih =>
    have hsame : (settledFields fields).map (·.1) = fields.map (·.1) := by
      rw [settledFields_eq_map, List.map_map]
      rfl
    have hperm : (byName (settledFields fields)).Perm (settledFields fields) :=
      List.mergeSort_perm _ _
    have hordered : ((byName (settledFields fields)).map (·.1)).Nodup := by
      rw [(hperm.map _).nodup_iff, hsame]
      exact hnames
    rw [settled, ofFields]
    refine .obj fun name => ?_
    rw [field?_foldl_setField hordered, field?_perm hperm hordered, settledFields_eq_map,
      field?_map, field?, Option.or_none]
    cases hvalue : field? name fields with
    | none => exact .none
    | some value => exact .some (ih (name, value) ((field?_eq_some_iff hnames).mp hvalue))

end ScriptRun.Json
