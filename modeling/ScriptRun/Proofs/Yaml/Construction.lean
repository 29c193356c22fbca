import Mathlib
import ScriptRun.Proofs.Yaml.Composition
import ScriptRun.Proofs.Yaml.Misfits
import ScriptRun.Yaml.Load

/-!
# What can be wrong with the values of a document

Merge keys change the nodes of a document while its values are found, but only in ways that make no
node a misfit: a scalar keeps its text, a mapping stays a mapping, and the only tag that is changed
becomes that of a text (`Node.Derives`). So a fault of which no message is made is that of a node of
the document itself (`explains_of_graph`).
-/

set_option mvcgen.warning false

namespace ScriptRun.Yaml

open Text Std.Do

/-- How a node may differ from the node of the document that it was. -/
structure Node.Derives (node original : Node) : Prop where
  tag : node.tag = original.tag ∨ node.tag = stdTag "str"
  scalar {t : Text} (h : node.content = .scalar t) : original.content = .scalar t
  mapping {pairs : List (Nat × Nat)} (h : node.content = .mapping pairs) :
    ∃ pairs, original.content = .mapping pairs

theorem Node.Derives.refl (node : Node) : node.Derives node :=
  ⟨.inl rfl, id, fun h => ⟨_, h⟩⟩

namespace Document

/-- Whether a document has a node with a fault of which no message is made. -/
def HasMisfit (d : Document) (fault : Fault) : Prop :=
  ∃ n kind, kindOf? scalarKinds (nodeAt d.nodes n).tag = some kind ∧
    (nodeAt d.nodes n).IsMisfit d.nodes kind fault

theorem HasMisfit.isHandled_eq_false {d : Document} {fault : Fault} (h : d.HasMisfit fault) :
    fault.isHandled = false := by
  obtain ⟨n, kind, -, hmisfit⟩ := h
  exact hmisfit.isHandled_eq_false

/-- Whether a fault can be found in the nodes of a document. -/
def Explains (d : Document) (fault : Fault) : Prop := fault.isHandled ∨ d.HasMisfit fault

def IsMapping (d : Document) (n : Nat) : Prop :=
  ∃ pairs, (nodeAt d.nodes n).content = .mapping pairs

end Document

/-- Whether nodes are those of a document, as far as values tell. -/
def Builder.DerivesFrom (d : Document) (s : Builder) : Prop :=
  ∀ n, (nodeAt s.nodes n).Derives (nodeAt d.nodes n)

/-- The text of a misfit is not the kind of text that any node may be given. -/
theorem Misfit.ne_str {kind : ScalarKind} {t : Text} {fault : Fault} (h : Misfit kind t fault) :
    kind ≠ .str := by
  cases h <;> decide

theorem hasMisfit_of_derived {d : Document} {s : Builder} {n : Nat} {kind : ScalarKind}
    {fault : Fault} (hs : s.DerivesFrom d)
    (hkind : kindOf? scalarKinds (nodeAt s.nodes n).tag = some kind)
    (h : (nodeAt s.nodes n).IsMisfit s.nodes kind fault) : d.HasMisfit fault := by
  have hstr : kind ≠ .str := by
    cases h with
    | scalar _ h => exact h.ne_str
    | mapping hkind _ => rw [hkind]; decide
  have htag : (nodeAt s.nodes n).tag = (nodeAt d.nodes n).tag := by
    refine (hs n).tag.resolve_right fun htag => hstr ?_
    rw [htag] at hkind
    exact (Option.some.inj hkind).symm
  refine ⟨n, kind, htag ▸ hkind, ?_⟩
  cases h with
  | scalar ht h =>
    refine .scalar ?_ h
    rcases ht with hscalar | ⟨⟨pairs, hmapping⟩, m, hscalar⟩
    · exact .inl ((hs n).scalar hscalar)
    · exact .inr ⟨(hs n).mapping hmapping, m, (hs m).scalar hscalar⟩
  | mapping hkind hmapping =>
    obtain ⟨pairs, hpairs⟩ := (hs n).mapping hmapping
    exact .mapping hkind hpairs

theorem nodeAt_modify (nodes : Array Node) (n m : Nat) (f : Node → Node) :
    nodeAt (nodes.modify n f) m =
      if n = m ∧ n < nodes.size then f (nodeAt nodes m) else nodeAt nodes m := by
  simp only [nodeAt, Array.getD_eq_getD_getElem?, Array.getElem?_modify]
  by_cases hnm : n = m
  · subst hnm
    by_cases hn : n < nodes.size
    · simp [hn]
    · simp [hn]
  · simp [hnm]

/-- A change that keeps a node what it was in the document keeps all nodes so. -/
theorem Builder.DerivesFrom.modify {d : Document} {s : Builder} {n : Nat} {f : Node → Node}
    (hs : s.DerivesFrom d)
    (hf : ∀ node, node.Derives (nodeAt d.nodes n) → (f node).Derives (nodeAt d.nodes n)) :
    Builder.DerivesFrom d { s with nodes := s.nodes.modify n f } := by
  intro m
  rw [nodeAt_modify]
  split
  · next hnm => exact hnm.1 ▸ hf _ (hnm.1 ▸ hs m)
  · exact hs m

theorem fails_problem {d : Document} {α : Type} {p : Problem} :
    Fails d.Explains (.error (.problem p) : Except Fault α) :=
  .error (.inl rfl)

namespace Build

/-- A step that leaves the nodes those of a document, and stops only with a fault that can be found
in them. -/
abbrev Builds (d : Document) {α : Type} (m : Build α) : Prop :=
  ⦃fun s => ⌜s.DerivesFrom d⌝⦄ m
    ⦃post⟨fun _ s => ⌜s.DerivesFrom d⌝, fun fault _ => ⌜d.Explains fault⌝⟩⦄

variable {d : Document} {α β : Type}

@[spec] theorem builds_ofExcept {e : Except Fault α} (h : Fails d.Explains e) :
    Builds d (ofExcept e) := by
  unfold ofExcept
  mvcgen
  case vc2 fault he _ _ => exact h fault he

/-! ### Lists of nodes -/

theorem builds_mapM {f : α → Build β} (h : ∀ a, Builds d (f a)) (items : List α) :
    Builds d (items.mapM f) := by
  induction items with
  | nil =>
    rw [List.mapM_nil]
    mvcgen
  | cons a rest ih =>
    rw [List.mapM_cons]
    mvcgen [h, ih]

theorem builds_foldlM {f : β → α → Build β} (h : ∀ b a, Builds d (f b a)) (b : β) (items : List α) :
    Builds d (items.foldlM f b) := by
  induction items generalizing b with
  | nil =>
    rw [List.foldlM_nil]
    mvcgen
  | cons a rest ih =>
    rw [List.foldlM_cons]
    mvcgen [h, ih, -Spec.foldlM_list]

theorem builds_forM {f : α → Build PUnit} (h : ∀ a, Builds d (f a)) (items : List α) :
    Builds d (items.forM f) := by
  induction items with
  | nil =>
    show Builds d (pure PUnit.unit : Build PUnit)
    mvcgen
  | cons a rest ih =>
    show Builds d (f a >>= fun _ => rest.forM f)
    mvcgen [h, ih]

variable (d)

/-! ### Steps -/

@[spec] theorem nodeOf_spec (n : Nat) :
    ⦃fun s => ⌜s.DerivesFrom d⌝⦄ nodeOf n
      ⦃post⟨fun node s => ⌜s.DerivesFrom d ∧ node.Derives (nodeAt d.nodes n)⌝,
        fun fault _ => ⌜d.Explains fault⌝⟩⦄ := by
  unfold nodeOf
  mvcgen
  case vc1 s h => exact ⟨h, h n⟩

@[spec] theorem builds_pairsOf (n : Nat) : Builds d (pairsOf n) := by
  unfold pairsOf
  mvcgen
  case vc2 h => exact h.1
  case vc3 h => exact h.1

@[spec] theorem builds_setValue (n : Nat) (value : Vertex) : Builds d (setValue n value) := by
  unfold setValue
  mvcgen

@[spec] theorem builds_scalarOf? (n : Nat) : Builds d (scalarOf? n) := by
  unfold scalarOf?
  mvcgen

theorem builds_change {n : Nat} {f : Node → Node}
    (hf : ∀ node, node.Derives (nodeAt d.nodes n) → (f node).Derives (nodeAt d.nodes n)) :
    Builds d (change n f) := by
  unfold change
  mvcgen
  case vc1 s hs t => exact hs.modify hf

theorem builds_setPairs {n : Nat} (hn : d.IsMapping n) (pairs : List (Nat × Nat)) :
    Builds d (setPairs n pairs) := by
  unfold setPairs
  exact builds_change d fun node h => ⟨h.tag, nofun, fun _ => hn⟩

@[spec] theorem builds_meet (n : Nat) : Builds d (meet n) := by
  unfold meet
  mvcgen
  case vc2 s hs _ _ kind _ _ hkind =>
    refine (fails_scalarValue s.nodes kind _).imp fun fault => Or.imp_right ?_
    exact hasMisfit_of_derived hs hkind
  case vc5 => exact fails_problem

/-! ### Merging -/

@[spec] theorem builds_notMergeable (start : Mark) (expected : String) (node : Node) :
    Builds d (notMergeable start expected node : Build α) := by
  unfold notMergeable
  mvcgen
  case vc2 => exact fun _ _ => fails_problem

theorem builds_takenOver {resolve : Nat → Build Unit}
    (hresolve : ∀ n, d.IsMapping n → Builds d (resolve n)) (start : Mark) (n : Nat) :
    Builds d (takenOver resolve start n) := by
  unfold takenOver
  mvcgen [hresolve, builds_foldlM, -Spec.foldlM_list]
  case vc2.a hcontent _ h => exact h.2.mapping hcontent
  case vc7.a hcontent _ h => exact h.2.mapping hcontent
  all_goals exact And.left ‹_›

theorem builds_resolveMerges (depth : Nat) {n : Nat} (hn : d.IsMapping n) :
    Builds d (resolveMerges depth n) := by
  induction depth generalizing n with
  | zero =>
    unfold resolveMerges
    mvcgen
  | succ depth ih =>
    have hsetPairs := builds_setPairs d hn
    have htakenOver (start : Mark) (m : Nat) : Builds d (takenOver (resolveMerges depth) start m) :=
      builds_takenOver d (fun _ => ih) start m
    unfold resolveMerges
    mvcgen [builds_foldlM, hsetPairs, htakenOver, builds_change, -Spec.foldlM_list]
    case vc8.hf => exact fun node h => ⟨.inr rfl, h.scalar, h.mapping⟩
    all_goals exact And.left ‹_›

/-! ### Filling -/

@[spec] theorem builds_distinctPairs (n : Nat) : Builds d (distinctPairs n) := by
  unfold distinctPairs
  mvcgen [builds_mapM, builds_resolveMerges]
  case vc2.hn hcontent _ h => exact h.2.mapping hcontent
  all_goals first
    | exact And.left ‹_›
    | exact fun _ _ _ => fails_problem

@[spec] theorem builds_singlePairs (task : String) (n : Nat) : Builds d (singlePairs task n) := by
  unfold singlePairs
  mvcgen [builds_mapM]
  all_goals first
    | exact And.left ‹_›
    | exact fun _ _ _ => fails_problem

@[spec] theorem builds_fill (n : Nat) (kind : CollectionKind) : Builds d (fill n kind) := by
  unfold fill
  mvcgen [builds_forM]
  all_goals first
    | exact And.left ‹_›
    | exact fun _ _ _ => fails_problem

theorem builds_fillFrom (count next : Nat) : Builds d (fillFrom count next) := by
  induction count generalizing next with
  | zero =>
    unfold fillFrom
    mvcgen
  | succ count ih =>
    unfold fillFrom
    mvcgen [ih]

end Build

theorem explains_of_graph {d : Document} {fault : Fault} (h : d.graph = .error fault) :
    d.Explains fault := by
  have hbuilds : Build.Builds d (do Build.meet d.root; Build.fillFrom (d.nodes.size + 1) 0) := by
    mvcgen [Build.builds_fillFrom]
  have hrun := triple_iff.1 hbuilds (.ofDocument d) fun n => .refl _
  unfold Document.graph at h
  dsimp only [EStateM.run] at h
  split at h
  · cases h
  · next hstep =>
    obtain rfl := Except.error.inj h
    rw [hstep] at hrun
    exact hrun

/-- What can be wrong with a document or with the values in it. -/
theorem allows_or_hasMisfit_of_load {pieces : List Text} {stops : Option Utf8.Misread}
    {fault : Fault} (h : load pieces stops = .error fault) :
    Source.Allows ⟨pieces.flatten⟩ fault ∨
      ∃ d, Document.ofPieces? pieces stops = .ok (some d) ∧ d.HasMisfit fault := by
  unfold load at h
  cases hread : Document.ofPieces? pieces stops with
  | error fault' =>
    rw [hread] at h
    obtain rfl := Except.error.inj h
    exact .inl (allows_of_ofPieces? hread)
  | ok read =>
    rw [hread] at h
    cases read with
    | none => cases h
    | some d =>
      replace h : d.value = .error fault := h
      unfold Document.value at h
      cases hgraph : d.graph with
      | ok graph =>
        rw [hgraph] at h
        cases h
      | error fault' =>
        rw [hgraph] at h
        obtain rfl := Except.error.inj h
        exact (explains_of_graph hgraph).imp .inl fun hmisfit => ⟨d, rfl, hmisfit⟩

end ScriptRun.Yaml
