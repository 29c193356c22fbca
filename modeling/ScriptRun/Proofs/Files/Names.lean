import ScriptRun.Proofs.Files.Parents
import ScriptRun.Proofs.Text.Decoding

/-!
# Files under bare names

A bare name leads from the working directory to the place of that name and nowhere else, so that all
operations on files under bare names can be told by what stands at their places.
-/

namespace ScriptRun.Files

open Text

/-- A name that a file in the working directory may have. -/
structure FileName where
  text : Text
  nonempty : text ≠ [] := by decide
  noSlash : '/' ∉ text := by decide
  noNull : '\x00' ∉ text := by decide
  notDot : text ≠ ['.'] := by decide
  notDots : text ≠ ['.', '.'] := by decide
  short : Tree.isTooLong text = false := by decide

namespace FileName

variable (name : FileName)

def place : Place := [name.text]

theorem place_inj {name other : FileName} : name.place = other.place ↔ name.text = other.text := by
  simp [place]

/-- Among bare names only the same name is below a name. -/
theorem isPrefixOf_place (name other : FileName) :
    name.place.isPrefixOf other.place = decide (name.text = other.text) := by
  simp [place, List.isPrefixOf, Bool.beq_eq_decide_eq]

theorem splitAt_text : Text.splitAt '/' name.text = [name.text] :=
  Text.splitAt_of_not_mem name.noSlash

theorem namesOf_text : Tree.namesOf name.text = [name.text] := by
  rw [Tree.namesOf, splitAt_text]
  exact Tree.withoutTrailing_concat [] name.nonempty

theorem endingOf_text : Tree.endingOf name.text = .plain := by
  rw [Tree.endingOf, namesOf_text, splitAt_text]
  simp [name.notDot, name.notDots]

theorem startOf_text : Tree.startOf name.text = [] := by
  refine if_neg fun hslash => ?_
  exact name.noSlash (List.mem_of_mem_head? hslash)

theorem isGiven_place : Tree.isGiven name.place = false := by
  have hroot : name.text ≠ Tree.root := fun h => name.noSlash (h ▸ List.mem_singleton_self '/')
  simp [Tree.isGiven, place, hroot, name.notDots]

theorem parent_text : Path.parent name.text = [] := by
  obtain ⟨bare, count, hpath, -, hcount, hparent⟩ := Path.exists_parts name.text
  have hnone : count = 0 := by
    by_contra hslashes
    refine name.noSlash ?_
    rw [hpath]
    simp [hslashes]
  rw [hparent, if_pos (by_contra fun hbare => (hcount hbare).ne' hnone), hnone, List.replicate_zero]

end FileName

namespace Tree

variable (t : Tree) (name : FileName)

theorem follow_name : t.follow [] [name.text] = .ok (name.place, t.at? name.place) := by
  have hstart : t.at? [] = some .directory := rfl
  have hdot : ¬(name.text = [] ∨ name.text = ['.']) := not_or.2 ⟨name.nonempty, name.notDot⟩
  rw [follow, hstart]
  dsimp only
  rw [if_neg hdot, if_neg name.notDots]
  have hplace : [] ++ [name.text] = name.place := rfl
  simp only [hplace, List.isEmpty_nil, Bool.not_true, Bool.false_and, Bool.false_eq_true, if_false]
  cases hat : t.at? name.place with
  | none => rfl
  | some node => simp only [follow, hat]

theorem locate_name : t.locate name.text = .ok ⟨name.place, t.at? name.place, .plain⟩ := by
  refine locate_eq_ok.mpr ⟨by simpa using name.noNull, by simpa using name.nonempty, ?_,
    name.endingOf_text.symm⟩
  rw [name.startOf_text, name.namesOf_text, follow_name]

theorem isUnnameable_name (node : Option Node) :
    isUnnameable ⟨name.place, node, .plain⟩ = false := name.short

theorem resolve_name : t.resolve name.text = .ok ⟨name.place, t.at? name.place, .plain⟩ :=
  resolve_eq_ok.mpr ⟨locate_name t name, isUnnameable_name name _⟩

/-! ### Operations -/

/-- Under a name is a file of the given bytes that is not for execution, or there is nothing. -/
def HasFile (old : Option (List UInt8)) : Prop :=
  t.at? name.place = old.map fun bytes => .file bytes false

theorem outcome_change (path : Text) (target : Option Text) (f : Tree → Except Cause Tree) :
    (change path target f).outcome t =
      match f t with
      | .ok t' => (.ok (), t')
      | .error cause => (.error (.system cause path target), t) := by
  simp only [change, Action.outcome, EStateM.run, bind, EStateM.bind, get, getThe,
    MonadStateOf.get, EStateM.get]
  cases f t <;> rfl

namespace HasFile

variable {t name} {old : Option (List UInt8)}

theorem stat_eq (h : t.HasFile name old) :
    t.stat name.text = old.elim (.error .notFound) fun bytes => .ok (.file bytes false) := by
  rw [stat, resolve_name, h]
  cases old <;> rfl

theorem bytes_eq (h : t.HasFile name old) :
    t.bytes name.text = old.elim (.error .notFound) .ok := by
  rw [Tree.bytes, h.stat_eq]
  cases old <;> rfl

theorem contains_eq (h : t.HasFile name old) : t.contains name.text = old.isSome := by
  rw [contains, h.stat_eq]
  cases old <;> rfl

theorem store_eq (h : t.HasFile name old) (update : List UInt8 → List UInt8) :
    t.store name.text update = .ok (t.put name.place (.file (update (old.getD [])) false)) := by
  rw [store, resolve_name, h]
  cases old <;> rfl

theorem renamed_eq (h : t.HasFile name old) {target : FileName} {other : Option (List UInt8)}
    (htarget : t.HasFile target other) :
    t.renamed name.text target.text =
      if old.isNone then .error .notFound
      else if name.text = target.text then .ok t
      else .ok (t.moved name.place target.place) := by
  have hnull : target.text.contains '\x00' = false := by simpa using target.noNull
  rw [renamed, hnull]
  simp only [locate_name, bind, Except.bind, pure, Except.pure, isUnnameable_name]
  rw [h, htarget]
  cases old with
  | none => rfl
  | some bytes =>
    by_cases hsame : name.text = target.text
    · simp [FileName.place_inj, hsame]
    · cases other <;> simp [FileName.place_inj, hsame]

theorem outcome_read {content : Option Text} (h : t.HasFile name (content.map Utf8.encode)) :
    (Store.read name.text : Action Tree Text).outcome t =
      (content.elim (.error (.system .notFound name.text none)) fun c => .ok (unifyLineEnds c), t) := by
  simp only [Store.read, readText, Action.outcome, EStateM.run, bind, EStateM.bind, get, getThe,
    MonadStateOf.get, EStateM.get, h.bytes_eq]
  cases content with
  | none => rfl
  | some c =>
    simp only [Option.map_some, Option.elim_some, Utf8.decode?_encode]
    rfl

theorem outcome_writeText (h : t.HasFile name old) (update : List UInt8 → List UInt8) :
    (writeText name.text update).outcome t =
      (.ok (), t.put name.place (.file (update (old.getD [])) false)) := by
  -- a bare name needs no directory to be made
  have hchange : (writeText name.text update).outcome t =
      (change name.text none (·.store name.text update)).outcome t := by
    rw [writeText, name.parent_text]
    rfl
  rw [hchange, outcome_change, h.store_eq]

theorem outcome_rename {target : FileName} {old other : Option (List UInt8)}
    (h : t.HasFile name old) (htarget : t.HasFile target other) :
    (Store.rename name.text target.text : Action Tree Unit).outcome t =
      if old.isNone then (.error (.system .notFound name.text (some target.text)), t)
      else if name.text = target.text then (.ok (), t)
      else (.ok (), t.moved name.place target.place) := by
  refine (outcome_change _ _ _ _).trans ?_
  rw [h.renamed_eq htarget]
  split_ifs <;> rfl

end HasFile

/-! ### Trees of bare names -/

variable {t name}

/-- The nodes of the tree stand under bare names. -/
def IsFlat (t : Tree) : Prop := ∀ node ∈ t.nodes, ∃ name : FileName, node.1 = name.place

theorem mem_place {p : Place} {node : Node} {nodes : List (Place × Node)} {entry : Place × Node}
    (h : entry ∈ place p node nodes) : entry = (p, node) ∨ entry ∈ nodes := by
  induction nodes with
  | nil => exact .inl (List.mem_singleton.mp h)
  | cons first rest ih =>
    rw [place] at h
    split_ifs at h with hfirst
    · obtain rfl | hrest := List.mem_cons.mp h
      · exact .inl rfl
      · exact .inr (List.mem_cons_of_mem _ hrest)
    · obtain rfl | hrest := List.mem_cons.mp h
      · exact .inr List.mem_cons_self
      · exact (ih hrest).imp_right (List.mem_cons_of_mem _)

theorem IsFlat.put (h : t.IsFlat) (name : FileName) (node : Node) :
    (t.put name.place node).IsFlat := by
  intro entry hentry
  obtain rfl | hold := mem_place hentry
  · exact ⟨name, rfl⟩
  · exact h entry hold

theorem IsFlat.moved (h : t.IsFlat) (name target : FileName) :
    (t.moved name.place target.place).IsFlat := by
  intro entry hentry
  obtain ⟨old, hold, rfl⟩ := List.mem_map.mp hentry
  obtain ⟨other, hother⟩ := h old (List.mem_of_mem_filter hold)
  simp only [hother, FileName.isPrefixOf_place]
  split_ifs
  · exact ⟨target, rfl⟩
  · exact ⟨other, hother⟩

/-- Moving leaves nothing at the source and puts at the target what was at the source. -/
theorem lookup_moved {target : FileName} (hne : name.text ≠ target.text) (other : FileName)
    {nodes : List (Place × Node)} (h : IsFlat ⟨nodes⟩) :
    lookup other.place ((Tree.mk nodes).moved name.place target.place).nodes =
      if other.text = target.text then lookup name.place nodes
      else if other.text = name.text then none
      else lookup other.place nodes := by
  induction nodes with
  | nil => simp [Tree.moved, lookup]
  | cons first rest ih =>
    obtain ⟨here, hhere⟩ := h first List.mem_cons_self
    have hrest := ih fun entry hentry => h entry (List.mem_cons_of_mem _ hentry)
    simp only [Tree.moved] at hrest ⊢
    obtain ⟨place, node⟩ := first
    obtain rfl : place = here.place := hhere
    -- a node at the target is replaced, and one at the source comes to stand at the target
    by_cases hreplaced : target.text = here.text
    · rw [List.filter_cons_of_neg (by simp [FileName.isPrefixOf_place, hreplaced]), hrest]
      simp only [lookup, FileName.place_inj, ← hreplaced]
      grind
    · rw [List.filter_cons_of_pos (by simp [FileName.isPrefixOf_place, hreplaced]), List.map_cons]
      have hdropped : target.place ++ here.place.drop name.place.length = target.place := rfl
      simp only [FileName.isPrefixOf_place, decide_eq_true_eq, hdropped]
      by_cases hmoved : name.text = here.text
      · rw [if_pos hmoved, lookup, hrest]
        simp only [lookup, FileName.place_inj, ← hmoved]
        grind
      · rw [if_neg hmoved, lookup, hrest]
        simp only [lookup, FileName.place_inj]
        grind

theorem IsFlat.at?_moved {target : FileName} (h : t.IsFlat) (hne : name.text ≠ target.text)
    (other : FileName) :
    (t.moved name.place target.place).at? other.place =
      if other.text = target.text then t.at? name.place
      else if other.text = name.text then none
      else t.at? other.place := by
  simp only [at?, FileName.isGiven_place, Bool.false_eq_true, if_false]
  exact lookup_moved hne other h

end Tree

end ScriptRun.Files
