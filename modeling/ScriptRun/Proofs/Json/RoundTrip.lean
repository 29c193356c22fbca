import ScriptRun.Proofs.Json.Tokens
import ScriptRun.Status.EventFile

/-!
# Records read back

A value written as a record, on one line with the fields of an object in the order of their names,
is read as the same value, up to that order, and of two fields of one name the later one counts.
Nothing in the text of a record is a control character, so a record stays on one line.
-/

namespace ScriptRun.Json

open Text Status.EventFile

/-! ### Values one inside the other -/

/-- What holds of a value if it holds of what is inside holds of all values. -/
theorem induction {P : Json → Prop} (null : P .null) (bool : ∀ b, P (.bool b))
    (int : ∀ n, P (.int n)) (float : ∀ x, P (.float x)) (str : ∀ t, P (.str t))
    (arr : ∀ items, (∀ item ∈ items, P item) → P (.arr items))
    (obj : ∀ fields, (∀ f ∈ fields, P f.2) → P (.obj fields)) (value : Json) : P value :=
  @Json.rec P (fun items => ∀ item ∈ items, P item) (fun fields => ∀ f ∈ fields, P f.2)
    (fun f => P f.2) null bool int float str arr obj (fun _ h => absurd h List.not_mem_nil)
    (fun _ _ hitem hrest => List.forall_mem_cons.mpr ⟨hitem, hrest⟩)
    (fun _ h => absurd h List.not_mem_nil)
    (fun _ _ hfield hrest => List.forall_mem_cons.mpr ⟨hfield, hrest⟩) (fun _ _ h => h) value

/-! ### What is read -/

def byName {α : Type} (fields : List (Text × α)) : List (Text × α) :=
  fields.mergeSort fun a b => nameLe a.1 b.1

mutual

/-- The value that the text of a value as a record stands for. -/
def settled : Json → Json
  | .null => .null
  | .bool b => .bool b
  | .int n => .int n
  | .float x => .float x
  | .str t => .str t
  | .arr items => .arr (settledItems items)
  | .obj fields => ofFields (byName (settledFields fields))

def settledItems : List Json → List Json
  | [] => []
  | item :: rest => settled item :: settledItems rest

def settledFields : List (Text × Json) → List (Text × Json)
  | [] => []
  | (name, value) :: rest => (name, settled value) :: settledFields rest

end

/-- A text is read as a value, whatever follows that does not go on with a number. -/
def ReadsAs (t : Text) (value : Json) : Prop :=
  ∀ fuel rest, t.length < fuel → EndsNumber rest → readValue? fuel (t ++ rest) = some (value, rest)

/-! ### Values that hold no others -/

theorem readValue?_of_readAtom? {fuel : Nat} {t : Text} {found : Json × Text}
    (h : readAtom? t = some found) : readValue? (fuel + 1) t = some found := by
  rw [readValue?.eq_def]
  simp only
  split
  -- No word and no number begins with a quote, a bracket or a brace.
  · rename_i rest
    exact absurd (h.symm.trans (show readAtom? ('"' :: rest) = none from rfl)) (by simp)
  · rename_i rest
    exact absurd (h.symm.trans (show readAtom? ('[' :: rest) = none from rfl)) (by simp)
  · rename_i rest
    exact absurd (h.symm.trans (show readAtom? ('\x7b' :: rest) = none from rfl)) (by simp)
  · exact h

theorem ReadsAs.of_readAtom? {t : Text} {value : Json}
    (h : ∀ rest, EndsNumber rest → readAtom? (t ++ rest) = some (value, rest)) :
    ReadsAs t value := by
  intro fuel rest hfuel hrest
  obtain ⟨fuel, rfl⟩ := Nat.exists_eq_add_one_of_ne_zero (Nat.ne_of_gt (Nat.zero_lt_of_lt hfuel))
  exact readValue?_of_readAtom? (h rest hrest)

theorem readsAs_ofInt {n : Int} (hn : Decimal.isWritable n = true) : ReadsAs (ofInt n) (.int n) :=
  .of_readAtom? fun _ hrest => readAtom?_ofInt hn hrest

theorem readsAs_floatText (x : Float) : ReadsAs (floatText x) (.float x) :=
  .of_readAtom? fun _ hrest => readAtom?_floatText x hrest

theorem readsAs_strText (t : Text) : ReadsAs (strText false t) (.str t) := by
  intro fuel rest hfuel hrest
  obtain ⟨fuel, rfl⟩ := Nat.exists_eq_add_one_of_ne_zero (Nat.ne_of_gt (Nat.zero_lt_of_lt hfuel))
  rw [strText, List.append_assoc, List.cons_append, readValue?.eq_2, List.singleton_append,
    readStr?_flatMap (by rw [List.length_append]; omega)]
  rfl

/-! ### Lists and objects -/

/-- What is read as a value begins with none of the characters that a reader looks for first. -/
theorem ReadsAs.exists_cons {t : Text} {value : Json} (h : ReadsAs t value) :
    ∃ c more, t = c :: more ∧ isSpace c = false ∧ c ≠ ']' := by
  have hread := h (t.length + 1) [] (Nat.lt_succ_self _) (by simp [EndsNumber])
  rw [List.append_nil] at hread
  have hunread : ∀ c more fuel, isSpace c = true ∨ c = ']' →
      readValue? (fuel + 1) (c :: more) = none := by
    intro c more fuel hc
    simp only [isSpace, Bool.or_eq_true, decide_eq_true_eq] at hc
    obtain (((rfl | rfl) | rfl) | rfl) | rfl := hc
    all_goals
      simp [readValue?, readAtom?, words, dropLead?, readNumber?, Decimal.isPlainDigit]
  cases t with
  | nil => exact absurd hread (by simp [readValue?, readAtom?, words, dropLead?, readNumber?])
  | cons c more =>
    refine ⟨c, more, rfl, Bool.eq_false_iff.mpr fun hspace => ?_, fun hbracket => ?_⟩
    · exact Option.some_ne_none _ (hread.symm.trans (hunread c more _ (.inl hspace)))
    · exact Option.some_ne_none _ (hread.symm.trans (hunread c more _ (.inr hbracket)))

theorem skipSpace_cons {c : Char} (hc : isSpace c = false) (t : Text) :
    skipSpace (c :: t) = c :: t := by
  simp [skipSpace, hc]

theorem ReadsAs.skipSpace_append {t : Text} {value : Json} (h : ReadsAs t value) (rest : Text) :
    skipSpace (' ' :: (t ++ rest)) = t ++ rest := by
  obtain ⟨c, more, rfl, hc, -⟩ := h.exists_cons
  change skipSpace (c :: (more ++ rest)) = _
  exact skipSpace_cons hc _

theorem endsNumber_cons {c : Char} (hc : c = ',' ∨ c = ']' ∨ c = '\x7d') (rest : Text) :
    EndsNumber (c :: rest) := by
  rintro d hd
  obtain rfl : c = d := Option.some.inj hd
  obtain rfl | rfl | rfl := hc <;> decide

theorem join_cons_append (t next : Text) (more : List Text) (rest : Text) :
    join [',', ' '] (t :: next :: more) ++ rest =
      t ++ ',' :: ' ' :: (join [',', ' '] (next :: more) ++ rest) := by
  simp [join]

theorem length_join_cons (t next : Text) (more : List Text) :
    (join [',', ' '] (t :: next :: more)).length =
      t.length + 2 + (join [',', ' '] (next :: more)).length := by
  rw [join, List.length_append, List.length_append]
  · rfl
  · exact List.cons_ne_nil _ _

theorem exists_join_cons (c : Char) (t : Text) (more : List Text) (rest : Text) :
    ∃ tail, join [',', ' '] ((c :: t) :: more) ++ rest = c :: tail := by
  cases more with
  | nil => exact ⟨_, rfl⟩
  | cons next more => exact ⟨_, rfl⟩

theorem skipSpace_join {c : Char} (hc : isSpace c = false) (t : Text) (more : List Text)
    (rest : Text) :
    skipSpace (join [',', ' '] ((c :: t) :: more) ++ rest) =
      join [',', ' '] ((c :: t) :: more) ++ rest := by
  obtain ⟨tail, htail⟩ := exists_join_cons c t more rest
  rw [htail, skipSpace_cons hc]

theorem readItems?_last {t : Text} {value : Json} (h : ReadsAs t value) {fuel : Nat}
    (hfuel : t.length < fuel) (rest : Text) :
    readItems? (fuel + 1) (t ++ ']' :: rest) = some ([value], rest) := by
  rw [readItems?, h fuel _ hfuel (endsNumber_cons (by simp) rest)]
  rfl

theorem readItems?_more {t : Text} {value : Json} (h : ReadsAs t value) {fuel : Nat}
    (hfuel : t.length < fuel) {tail rest : Text} {items : List Json}
    (hskip : skipSpace tail = tail) (htail : readItems? fuel tail = some (items, rest)) :
    readItems? (fuel + 1) (t ++ ',' :: ' ' :: tail) = some (value :: items, rest) := by
  have hcomma : skipSpace (',' :: ' ' :: tail) = ',' :: ' ' :: tail := skipSpace_cons rfl _
  have hblank : skipSpace (' ' :: tail) = tail := hskip
  rw [readItems?, h fuel _ hfuel (endsNumber_cons (by simp) _)]
  simp only [bind, Option.bind, hcomma, hblank, htail]

/-- Items that are read one by one are read together. -/
theorem readItems?_join {depth : Nat} {items : List Json} (hne : items ≠ [])
    (hitems : ∀ item ∈ items, ReadsAs (render .record depth item) (settled item)) {fuel : Nat}
    (hfuel : (join [',', ' '] (items.map (render .record depth))).length + 1 < fuel)
    (rest : Text) :
    readItems? fuel (join [',', ' '] (items.map (render .record depth)) ++ ']' :: rest) =
      some (items.map settled, rest) := by
  induction items generalizing fuel with
  | nil => exact absurd rfl hne
  | cons item items ih =>
    obtain ⟨fuel, rfl⟩ := Nat.exists_eq_add_one_of_ne_zero (show fuel ≠ 0 by omega)
    have hitem := hitems item (List.mem_cons_self ..)
    cases items with
    | nil => exact readItems?_last hitem (Nat.lt_of_succ_lt_succ hfuel) rest
    | cons next items =>
      obtain ⟨c, t, hnext, hc, -⟩ := (hitems next (by simp)).exists_cons
      simp only [List.map_cons, length_join_cons] at hfuel
      have htail := ih (List.cons_ne_nil _ _)
        (fun item h => hitems item (List.mem_cons_of_mem _ h)) (show _ < fuel by
          rw [List.map_cons]; omega)
      rw [List.map_cons, List.map_cons, join_cons_append]
      refine readItems?_more hitem (by omega) ?_ htail
      rw [hnext, skipSpace_join hc]

def fieldText (depth : Nat) (field : Text × Json) : Text :=
  strText false field.1 ++ ':' :: ' ' :: render .record depth field.2

/-- After a field comes the closing brace, or a comma and more fields. -/
theorem readFields?_field {depth : Nat} {field : Text × Json} {read : Json}
    (h : ReadsAs (render .record depth field.2) read) {fuel : Nat}
    (hfuel : (render .record depth field.2).length < fuel) {rest : Text} (hrest : EndsNumber rest) :
    (∀ after, skipSpace rest = '\x7d' :: after →
      readFields? (fuel + 1) (fieldText depth field ++ rest) = some ([(field.1, read)], after)) ∧
    ∀ tail fields after, skipSpace rest = ',' :: tail →
      readFields? fuel (skipSpace tail) = some (fields, after) →
      readFields? (fuel + 1) (fieldText depth field ++ rest) =
        some ((field.1, read) :: fields, after) := by
  have hsplit : fieldText depth field ++ rest =
      '"' :: (field.1.flatMap (charText false) ++
        '"' :: ':' :: ' ' :: (render .record depth field.2 ++ rest)) := by
    simp [fieldText, strText]
  have hcolon : skipSpace (':' :: ' ' :: (render .record depth field.2 ++ rest)) =
      ':' :: ' ' :: (render .record depth field.2 ++ rest) := skipSpace_cons rfl _
  rw [hsplit, readFields?, readStr?_flatMap (by rw [List.length_append]; omega)]
  constructor
  · intro after hafter
    simp only [bind, Option.bind, hcolon, h.skipSpace_append, h fuel rest hfuel hrest, hafter]
  · intro tail fields after hafter hmore
    simp only [bind, Option.bind, hcolon, h.skipSpace_append, h fuel rest hfuel hrest, hafter,
      hmore]

theorem readFields?_last {depth : Nat} {field : Text × Json} {read : Json}
    (h : ReadsAs (render .record depth field.2) read) {fuel : Nat}
    (hfuel : (render .record depth field.2).length < fuel) (rest : Text) :
    readFields? (fuel + 1) (fieldText depth field ++ '\x7d' :: rest) =
      some ([(field.1, read)], rest) :=
  (readFields?_field h hfuel (endsNumber_cons (by simp) rest)).1 rest (skipSpace_cons rfl _)

theorem readFields?_more {depth : Nat} {field : Text × Json} {read : Json}
    (h : ReadsAs (render .record depth field.2) read) {fuel : Nat}
    (hfuel : (render .record depth field.2).length < fuel) {tail rest : Text}
    {fields : List (Text × Json)} (hskip : skipSpace tail = tail)
    (htail : readFields? fuel tail = some (fields, rest)) :
    readFields? (fuel + 1) (fieldText depth field ++ ',' :: ' ' :: tail) =
      some ((field.1, read) :: fields, rest) := by
  have hblank : skipSpace (' ' :: tail) = tail := hskip
  refine (readFields?_field h hfuel (endsNumber_cons (by simp) _)).2 (' ' :: tail) fields rest
    (skipSpace_cons rfl _) ?_
  rw [hblank, htail]

/-- Fields that are read one by one are read together. -/
theorem readFields?_join {depth : Nat} {fields : List (Text × Json)} (hne : fields ≠ [])
    (hfields : ∀ f ∈ fields, ReadsAs (render .record depth f.2) (settled f.2)) {fuel : Nat}
    (hfuel : (join [',', ' '] (fields.map (fieldText depth))).length + 1 < fuel) (rest : Text) :
    readFields? fuel (join [',', ' '] (fields.map (fieldText depth)) ++ '\x7d' :: rest) =
      some (fields.map fun f => (f.1, settled f.2), rest) := by
  induction fields generalizing fuel with
  | nil => exact absurd rfl hne
  | cons field fields ih =>
    obtain ⟨fuel, rfl⟩ := Nat.exists_eq_add_one_of_ne_zero (show fuel ≠ 0 by omega)
    have hfield := hfields field (List.mem_cons_self ..)
    have hlength : (render .record depth field.2).length < (fieldText depth field).length := by
      simp only [fieldText, List.length_append, List.length_cons]
      omega
    cases fields with
    | nil =>
      simp only [List.map_cons, List.map_nil, join] at hfuel ⊢
      exact readFields?_last hfield (by omega) rest
    | cons next fields =>
      simp only [List.map_cons, length_join_cons] at hfuel
      have htail := ih (List.cons_ne_nil _ _)
        (fun f h => hfields f (List.mem_cons_of_mem _ h)) (show _ < fuel by
          rw [List.map_cons]; omega)
      rw [List.map_cons, List.map_cons, join_cons_append]
      refine readFields?_more hfield (by omega) ?_ htail
      exact skipSpace_join rfl _ _ _

/-! ### Values -/

theorem renderItems_eq_map (s : Style) (depth : Nat) (items : List Json) :
    renderItems s depth items = items.map (render s depth) := by
  induction items with
  | nil => rw [renderItems, List.map_nil]
  | cons item rest ih => rw [renderItems, List.map_cons, ih]

theorem renderFields_eq_map (s : Style) (depth : Nat) (fields : List (Text × Json)) :
    renderFields s depth fields = fields.map fun f =>
      (f.1, strText s.asciiOnly f.1 ++ ':' :: ' ' :: render s depth f.2) := by
  induction fields with
  | nil => rw [renderFields, List.map_nil]
  | cons field rest ih => rw [renderFields, List.map_cons, ih]

theorem enclosed_none (depth : Nat) (opening closing : Char) (items : List Text) :
    enclosed none depth opening closing items =
      opening :: (join [',', ' '] items ++ [closing]) := by
  cases items with
  | nil => rfl
  | cons item items => simp [enclosed, lineBreak, between]

theorem settledItems_eq_map (items : List Json) : settledItems items = items.map settled := by
  induction items with
  | nil => rw [settledItems, List.map_nil]
  | cons item rest ih => rw [settledItems, List.map_cons, ih]

theorem settledFields_eq_map (fields : List (Text × Json)) :
    settledFields fields = fields.map fun f => (f.1, settled f.2) := by
  induction fields with
  | nil => rw [settledFields, List.map_nil]
  | cons field rest ih => rw [settledFields, List.map_cons, ih]

theorem byName_map {α β : Type} (fields : List (Text × α)) (g : Text × α → Text × β)
    (hg : ∀ f, (g f).1 = f.1) : byName (fields.map g) = (byName fields).map g :=
  (List.map_mergeSort fun a _ b _ => by rw [hg, hg]).symm

theorem mem_byName {α : Type} {f : Text × α} {fields : List (Text × α)} :
    f ∈ byName fields ↔ f ∈ fields :=
  (List.mergeSort_perm fields _).mem_iff

theorem render_arr (depth : Nat) (items : List Json) :
    render .record depth (.arr items) =
      '[' :: (join [',', ' '] (items.map (render .record (depth + 1))) ++ [']']) := by
  rw [render, renderItems_eq_map]
  exact enclosed_none ..

theorem render_obj (depth : Nat) (fields : List (Text × Json)) :
    render .record depth (.obj fields) =
      '\x7b' :: (join [',', ' '] ((byName fields).map (fieldText (depth + 1))) ++ ['\x7d']) := by
  have hsorted := byName_map fields (fun f => (f.1, fieldText (depth + 1) f)) fun _ => rfl
  have htexts : (byName (fields.map fun f => (f.1, fieldText (depth + 1) f))).map (·.2) =
      (byName fields).map (fieldText (depth + 1)) := by
    rw [hsorted, List.map_map]
    rfl
  rw [render, renderFields_eq_map, ← htexts]
  exact enclosed_none ..

theorem ReadsAs.arr {depth : Nat} {items : List Json}
    (hitems : ∀ item ∈ items, ReadsAs (render .record (depth + 1) item) (settled item)) :
    ReadsAs (render .record depth (.arr items)) (settled (.arr items)) := by
  intro fuel rest hfuel hrest
  rw [render_arr] at hfuel ⊢
  simp only [List.length_cons, List.length_append, List.length_nil] at hfuel
  obtain ⟨fuel, rfl⟩ := Nat.exists_eq_add_one_of_ne_zero (show fuel ≠ 0 by omega)
  rw [settled, settledItems_eq_map, List.cons_append, List.append_assoc, List.singleton_append,
    readValue?.eq_3]
  cases items with
  | nil => rfl
  | cons item items =>
    obtain ⟨c, t, hitem, hc, hclosing⟩ := (hitems item (List.mem_cons_self ..)).exists_cons
    have hread := readItems?_join (List.cons_ne_nil _ _) hitems (show _ < fuel by omega) rest
    have hskip := skipSpace_join hc t (items.map (render .record (depth + 1))) (']' :: rest)
    obtain ⟨tail, htail⟩ := exists_join_cons c t (items.map (render .record (depth + 1)))
      (']' :: rest)
    rw [List.map_cons, hitem, htail] at hread
    rw [List.map_cons, hitem, hskip, htail]
    split
    · rename_i h
      exact absurd (List.cons.inj h).1 hclosing
    · rw [hread]
      rfl

theorem ReadsAs.obj {depth : Nat} {fields : List (Text × Json)}
    (hfields : ∀ f ∈ fields, ReadsAs (render .record (depth + 1) f.2) (settled f.2)) :
    ReadsAs (render .record depth (.obj fields)) (settled (.obj fields)) := by
  intro fuel rest hfuel hrest
  rw [render_obj] at hfuel ⊢
  simp only [List.length_cons, List.length_append, List.length_nil] at hfuel
  obtain ⟨fuel, rfl⟩ := Nat.exists_eq_add_one_of_ne_zero (show fuel ≠ 0 by omega)
  have hsorted : byName (settledFields fields) =
      (byName fields).map fun f => (f.1, settled f.2) := by
    rw [settledFields_eq_map]
    exact byName_map fields _ fun _ => rfl
  rw [settled, hsorted, List.cons_append, List.append_assoc, List.singleton_append,
    readValue?.eq_4]
  have hordered := fun f (h : f ∈ byName fields) => hfields f (mem_byName.mp h)
  generalize byName fields = ordered at *
  cases ordered with
  | nil => rfl
  | cons field ordered =>
    have hread := readFields?_join (List.cons_ne_nil _ _) hordered (show _ < fuel by omega) rest
    have hquote : fieldText (depth + 1) field = '"' :: (fieldText (depth + 1) field).tail := rfl
    have hskip := skipSpace_join (show isSpace '"' = false from rfl)
      (fieldText (depth + 1) field).tail (ordered.map (fieldText (depth + 1))) ('\x7d' :: rest)
    obtain ⟨tail, htail⟩ := exists_join_cons '"' (fieldText (depth + 1) field).tail
      (ordered.map (fieldText (depth + 1))) ('\x7d' :: rest)
    rw [List.map_cons, hquote, htail] at hread
    rw [List.map_cons, hquote, hskip, htail]
    split
    · rename_i h
      exact absurd (List.cons.inj h).1 (by decide)
    · rw [hread]
      rfl

theorem isWritable_arr (items : List Json) :
    isWritable (.arr items) = true ↔ ∀ item ∈ items, isWritable item = true := by
  rw [isWritable.eq_2]
  induction items with
  | nil => simp [areWritable]
  | cons item rest ih => rw [areWritable, Bool.and_eq_true, ih, List.forall_mem_cons]

theorem isWritable_obj (fields : List (Text × Json)) :
    isWritable (.obj fields) = true ↔ ∀ f ∈ fields, isWritable f.2 = true := by
  rw [isWritable.eq_3]
  induction fields with
  | nil => simp [haveWritable]
  | cons f rest ih => rw [haveWritable, Bool.and_eq_true, ih, List.forall_mem_cons]

/-- A value whose integers can be written is read back. -/
theorem readsAs_render (depth : Nat) {value : Json} (h : isWritable value = true) :
    ReadsAs (render .record depth value) (settled value) := by
  induction value using Json.induction generalizing depth with
  | null => exact .of_readAtom? fun _ _ => rfl
  | bool b => cases b <;> exact .of_readAtom? fun _ _ => rfl
  | int n => exact readsAs_ofInt ((isWritable.eq_1 n).symm.trans h)
  | float x => exact readsAs_floatText x
  | str t => exact readsAs_strText t
  | arr items ih =>
    rw [isWritable_arr] at h
    exact .arr fun item hitem => ih item hitem (depth + 1) (h item hitem)
  | obj fields ih =>
    rw [isWritable_obj] at h
    exact .obj fun f hf => ih f hf (depth + 1) (h f hf)

/-- The text of a record is read back. -/
theorem read?_text {value : Json} (h : isWritable value = true) :
    read? (value.text .record) = some value.settled := by
  have hread := readsAs_render 0 h
  obtain ⟨c, more, htext, hc, -⟩ := hread.exists_cons
  have hvalue := hread ((render .record 0 value).length + 1) [] (Nat.lt_succ_self _)
    (by simp [EndsNumber])
  rw [List.append_nil] at hvalue
  have hskip : skipSpace (render .record 0 value) = render .record 0 value := by
    rw [htext]
    exact skipSpace_cons hc more
  rw [read?, text, hskip]
  simp only [hvalue, bind, Option.bind]
  rfl

/-! ### On one line -/

def HasNoControl (t : Text) : Prop := ∀ c ∈ t, 0x20 ≤ c.toNat

instance (t : Text) : Decidable (HasNoControl t) :=
  List.decidableBAll (fun c : Char => 0x20 ≤ c.toNat) t

theorem HasNoControl.append {s t : Text} (hs : HasNoControl s) (ht : HasNoControl t) :
    HasNoControl (s ++ t) :=
  List.forall_mem_append.mpr ⟨hs, ht⟩

theorem HasNoControl.cons {c : Char} (hc : 0x20 ≤ c.toNat) {t : Text} (ht : HasNoControl t) :
    HasNoControl (c :: t) :=
  List.forall_mem_cons.mpr ⟨hc, ht⟩

theorem hasNoControl_of_digits {t : Text} (ht : ∀ c ∈ t, Decimal.isPlainDigit c = true) :
    HasNoControl t := by
  intro c hc
  have hdigit := ht c hc
  simp only [Decimal.isPlainDigit, Bool.and_eq_true, decide_eq_true_eq] at hdigit
  have hzero : '0'.toNat ≤ c.toNat := hdigit.1
  exact Nat.le_trans (by decide) hzero

theorem hasNoControl_ofInt (n : Int) : HasNoControl (ofInt n) := by
  have hdigits := fun n => hasNoControl_of_digits fun c hc => Decimal.isPlainDigit_of_mem_ofNat
    (n := n) hc
  cases n with
  | ofNat n => exact hdigits n
  | negSucc n => exact .cons (by decide) (hdigits (n + 1))

theorem hasNoControl_exponentText (e : Int) : HasNoControl (Decimal.exponentText e) := by
  rw [Decimal.exponentText]
  refine .cons (by decide) (.cons ?_ ?_)
  · split_ifs <;> decide
  · exact hasNoControl_of_digits fun _ hc => Decimal.isPlainDigit_of_mem_padded hc

theorem hasNoControl_isFloat {t digits : Text} {shift : Int} (ht : Decimal.IsFloat t digits shift) :
    HasNoControl t := by
  have hwhole : ∀ {t}, Decimal.IsWhole t → HasNoControl t := fun h =>
    hasNoControl_of_digits fun _ hc => h.isPlainDigit hc
  have hfraction : ∀ {t}, Decimal.IsFraction t → HasNoControl t := by
    rintro t ⟨digits, rfl, -, hdigits⟩
    exact .cons (by decide) (hasNoControl_of_digits hdigits)
  cases ht with
  | fraction hw hf => exact (hwhole hw).append (hfraction hf)
  | exponent e hw => exact (hwhole hw).append (hasNoControl_exponentText _)
  | both e hw hf => exact (hwhole hw).append ((hfraction hf).append (hasNoControl_exponentText e))

theorem hasNoControl_floatText (x : Float) : HasNoControl (floatText x) := by
  rw [floatText]
  split_ifs with hnan hinf hnegative
  · decide
  · decide
  · decide
  · obtain ⟨negative, mantissa, exponent, hparts⟩ :=
      Decimal.ofFloat_finite (Bool.eq_false_iff.mpr hnan) (Bool.eq_false_iff.mpr hinf)
    obtain ⟨numeral, digits, shift, htext, hnumeral, -⟩ := Decimal.exactText_finite hparts
    rw [htext]
    refine .append ?_ (hasNoControl_isFloat hnumeral)
    split_ifs <;> decide

theorem hasNoControl_charText (c : Char) : HasNoControl (charText false c) := by
  have hunit : ∀ n < 0x20, HasNoControl (unitEscape n) := by decide
  unfold charText
  split_ifs with _ _ _ _ _ _ _ hcontrol hwide
  · decide
  · decide
  · decide
  · decide
  · decide
  · decide
  · decide
  · exact hunit _ hcontrol
  · simp at hwide
  · exact .cons (Nat.not_lt.mp hcontrol) fun _ h => absurd h List.not_mem_nil

theorem hasNoControl_strText (t : Text) : HasNoControl (strText false t) := by
  refine .append (.cons (by decide) fun c hc => ?_) (by decide)
  obtain ⟨d, -, hd⟩ := List.mem_flatMap.mp hc
  exact hasNoControl_charText d c hd

theorem hasNoControl_join {texts : List Text} (htexts : ∀ t ∈ texts, HasNoControl t) :
    HasNoControl (join [',', ' '] texts) := by
  induction texts with
  | nil => exact fun _ h => absurd h List.not_mem_nil
  | cons t rest ih =>
    obtain ⟨ht, hrest⟩ := List.forall_mem_cons.mp htexts
    cases rest with
    | nil => exact ht
    | cons next rest => exact (ht.append (by decide)).append (ih hrest)

/-- There are no control characters in a record. -/
theorem hasNoControl_render (depth : Nat) (value : Json) :
    HasNoControl (render .record depth value) := by
  induction value using Json.induction generalizing depth with
  | null => exact (by decide : HasNoControl "null".toList)
  | bool b => cases b <;> rw [render] <;> decide
  | int n => exact hasNoControl_ofInt n
  | float x => exact hasNoControl_floatText x
  | str t => exact hasNoControl_strText t
  | arr items ih =>
    rw [render_arr]
    refine .cons (by decide) (.append (hasNoControl_join fun t ht => ?_) (by decide))
    obtain ⟨item, hitem, rfl⟩ := List.mem_map.mp ht
    exact ih item hitem (depth + 1)
  | obj fields ih =>
    rw [render_obj]
    refine .cons (by decide) (.append (hasNoControl_join fun t ht => ?_) (by decide))
    obtain ⟨f, hf, rfl⟩ := List.mem_map.mp ht
    exact (hasNoControl_strText f.1).append
      (.cons (by decide) (.cons (by decide) (ih f (mem_byName.mp hf) (depth + 1))))

end ScriptRun.Json
