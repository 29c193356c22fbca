import ScriptRun.Proofs.Faults
import ScriptRun.Proofs.Yaml.Fetching
import ScriptRun.Yaml.Graph

/-!
# Scalars that are not of the kind of their tag

A scalar whose tag asks for a truth value, a number or a timestamp may have another text. Mostly a
message tells so. The texts for which none is made are listed here (`Misfit`), and there are no
others (`fails_value`).
-/

namespace ScriptRun.Yaml

open Text

/-- A text that is not of a kind, and the fault of which no message is made. -/
inductive Misfit : ScalarKind → Text → Fault → Prop where
  /-- A truth value is one of six words. -/
  | truth {t : Text} (h : ∀ w ∈ Scalar.truthWords, w.1.toList ≠ lower t) :
    Misfit .bool t .unknownTruth
  /-- An integer has more than a sign and underscores. -/
  | integer {t : Text} (h : (Decimal.splitSign (t.filter (· ≠ '_'))).2 = []) :
    Misfit .int t .emptyNumber
  /-- A float has more than underscores. -/
  | float {t : Text} (h : ∀ c ∈ t, c = '_') : Misfit .float t .emptyNumber
  /-- The places of a float by sixties have values that are floats. -/
  | sixties {t message : Text} {place : Nat}
    (hplace : place < (splitAt ':' (Decimal.splitSign (lower (t.filter (· ≠ '_')))).2).length)
    (h : Decimal.ofInt? (Nat.pow 60 place : Nat) = none) : Misfit .float t (.tooLarge message)
  /-- A timestamp has the form of one. -/
  | timestamp {t : Text} (h : Timestamp.ofText? (Scalar.withoutLineFeed t) = none) :
    Misfit .timestamp t .noTimestamp

theorem Misfit.isHandled_eq_false {kind : ScalarKind} {t : Text} {fault : Fault}
    (h : Misfit kind t fault) : fault.isHandled = false := by
  cases h <;> rfl

/-- A fault of which a message is made, or the one of a text that is not of a kind. -/
def IsHandledOrMisfit (kind : ScalarKind) (t : Text) (fault : Fault) : Prop :=
  fault.isHandled ∨ Misfit kind t fault

/-! ### Numbers -/

theorem fails_readBase (base : Nat) (t : Text) : Fails (·.isHandled) (readBase base t) := by
  unfold readBase
  dsimp only
  split
  · exact .error rfl
  · exact .ok _

theorem fails_readDecimal (t : Text) : Fails (·.isHandled) (readDecimal t) := by
  unfold readDecimal
  split
  · exact .ok _
  · exact .error rfl
  · exact .error rfl

theorem fails_readFloatPart (t : Text) : Fails (·.isHandled) (readFloatPart t) := by
  unfold readFloatPart
  split
  · exact .ok _
  · exact .error rfl

theorem fails_readInt (t : Text) : Fails (IsHandledOrMisfit .int t) (readInt t) := by
  have hhandled {α : Type} {e : Except Fault α} (h : Fails (·.isHandled) e) :
      Fails (IsHandledOrMisfit .int t) e := h.imp fun _ => .inl
  unfold readInt
  dsimp only
  split
  · next hempty => exact .bind (.error (.inr (.integer hempty))) fun n _ => .ok _
  · exact .ok _
  · exact .bind (hhandled (fails_readBase 2 _)) fun n _ => .ok _
  · exact .bind (hhandled (fails_readBase 16 _)) fun n _ => .ok _
  · exact .bind (hhandled (fails_readBase 8 _)) fun n _ => .ok _
  · split
    · exact .bind (hhandled (.mapM fails_readDecimal _)) fun parts _ => .ok _
    · exact .bind (hhandled (fails_readDecimal _)) fun n _ => .ok _

/-- Whether a fault is that of a place of a float by sixties, of so many from a place on. -/
def IsTooLarge (place count : Nat) (fault : Fault) : Prop :=
  (∃ message, fault = .tooLarge message) ∧
    ∃ k < count, Decimal.ofInt? (Nat.pow 60 (place + k) : Nat) = none

theorem fails_sixtiethsFrom (place : Nat) (sum : Float) (digits : List Float) :
    Fails (IsTooLarge place digits.length) (sixtiethsFrom place sum digits) := by
  induction digits generalizing place sum with
  | nil => exact .ok sum
  | cons digit rest ih =>
    unfold sixtiethsFrom
    split
    · refine (ih _ _).imp fun fault hlater => ?_
      obtain ⟨hfault, k, hk, hnone⟩ := hlater
      refine ⟨hfault, k + 1, Nat.succ_lt_succ hk, ?_⟩
      rwa [show place + (k + 1) = place + 1 + k by omega]
    · next hnone => exact .error ⟨⟨_, rfl⟩, 0, Nat.succ_pos _, hnone⟩

theorem length_of_mapM_ok {α β ε : Type} {f : α → Except ε β} {items : List α} {results : List β}
    (h : items.mapM f = .ok results) : items.length = results.length := by
  induction items generalizing results with
  | nil =>
    obtain rfl := Except.ok.inj h
    rfl
  | cons a rest ih =>
    rw [List.mapM_cons] at h
    cases ha : f a with
    | error e =>
      rw [ha] at h
      cases h
    | ok b =>
      cases hrest : rest.mapM f with
      | error e =>
        rw [ha, hrest] at h
        cases h
      | ok bs =>
        rw [ha, hrest] at h
        obtain rfl := Except.ok.inj h
        rw [List.length_cons, List.length_cons, ih hrest]

theorem lower_eq_nil {t : Text} (h : lower t = []) : t = [] := by
  cases t with
  | nil => rfl
  | cons c rest =>
    simp only [lower, lowerAfter] at h
    split at h
    · cases h
    · split at h <;> cases h

theorem fails_readFloat (t : Text) : Fails (IsHandledOrMisfit .float t) (readFloat t) := by
  have hhandled {α : Type} {e : Except Fault α} (h : Fails (·.isHandled) e) :
      Fails (IsHandledOrMisfit .float t) e := h.imp fun _ => .inl
  unfold readFloat
  dsimp only
  split
  · next hempty =>
    have hlines : ∀ c ∈ t, c = '_' := by
      simpa using lower_eq_nil (List.isEmpty_iff.1 hempty)
    exact .bind (.error (.inr (.float hlines))) nofun
  · split
    · exact .ok _
    · split
      · exact .ok _
      · split
        · refine .bind (hhandled (.mapM fails_readFloatPart _)) fun parts hparts => ?_
          refine .bind ((fails_sixtiethsFrom 0 0.0 parts.reverse).imp ?_) fun x _ => .ok _
          rintro _ ⟨⟨message, rfl⟩, place, hplace, hnone⟩
          rw [List.length_reverse, ← length_of_mapM_ok hparts] at hplace
          rw [Nat.zero_add] at hnone
          exact .inr (.sixties hplace hnone)
        · exact .bind (hhandled (fails_readFloatPart _)) fun x _ => .ok _

/-! ### Scalars -/

theorem fails_readBinary (start : Mark) (t : Text) :
    Fails (·.isHandled) (readBinary start t) := by
  unfold readBinary
  split
  · exact .error rfl
  · split
    · exact .ok _
    · exact .error rfl

/-- What can be wrong with a scalar of a kind. -/
theorem fails_value (kind : ScalarKind) (start : Mark) (t : Text) :
    Fails (IsHandledOrMisfit kind t) (kind.value start t) := by
  cases kind with
  | null => exact .ok _
  | bool =>
    unfold ScalarKind.value
    dsimp only
    split
    · exact .ok _
    · next hnone => exact .error (.inr (.truth (by simpa using hnone)))
  | int => exact (fails_readInt t).map _
  | float => exact (fails_readFloat t).map _
  | str => exact .ok _
  | binary => exact (fails_readBinary start t).imp fun _ => .inl
  | timestamp =>
    unfold ScalarKind.value
    dsimp only
    split
    · next hnone => exact .error (.inr (.timestamp hnone))
    · split
      · exact .error (.inl rfl)
      · exact .ok _

/-- Whether a node has a text: its own, or if it is a mapping that of a scalar among the nodes,
which a value key of the mapping leads to. -/
def Node.HasText (nodes : Array Node) (node : Node) (t : Text) : Prop :=
  node.content = .scalar t ∨
    (∃ pairs, node.content = .mapping pairs) ∧ ∃ n, (nodeAt nodes n).content = .scalar t

theorem hasText_of_scalarText {nodes : Array Node} {mappings : Nat} {node : Node} {t : Text}
    (h : scalarText nodes mappings node = .ok t) : node.HasText nodes t := by
  induction mappings generalizing node with
  | zero => cases h
  | succ mappings ih =>
    unfold scalarText at h
    split at h
    · next hcontent =>
      obtain rfl := Except.ok.inj h
      exact .inl hcontent
    · cases h
    · next pairs hcontent =>
      split at h
      · refine .inr ⟨⟨pairs, hcontent⟩, ?_⟩
        rcases ih h with hscalar | ⟨-, hscalar⟩
        · exact ⟨_, hscalar⟩
        · exact hscalar
      · cases h

theorem fails_scalarText (nodes : Array Node) (mappings : Nat) (node : Node) :
    Fails (·.isHandled) (scalarText nodes mappings node) := by
  induction mappings generalizing node with
  | zero => exact .error rfl
  | succ mappings ih =>
    unfold scalarText
    split
    · exact .ok _
    · exact .error rfl
    · split
      · exact ih _
      · exact .error rfl

/-- A node whose tag asks for a kind of scalar that its text is not, or that it is not, with the
fault of which no message is made. -/
inductive Node.IsMisfit (nodes : Array Node) (node : Node) (kind : ScalarKind) : Fault → Prop where
  | scalar {t : Text} {fault : Fault} (ht : node.HasText nodes t) (h : Misfit kind t fault) :
    IsMisfit nodes node kind fault
  | mapping {pairs : List (Nat × Nat)} (hkind : kind = .timestamp)
    (h : node.content = .mapping pairs) : IsMisfit nodes node kind .timestampMapping

theorem Node.IsMisfit.isHandled_eq_false {nodes : Array Node} {node : Node} {kind : ScalarKind}
    {fault : Fault} (h : node.IsMisfit nodes kind fault) : fault.isHandled = false := by
  cases h with
  | scalar _ h => exact h.isHandled_eq_false
  | mapping => rfl

/-- What can be wrong with a node whose tag is one of a scalar. -/
theorem fails_scalarValue (nodes : Array Node) (kind : ScalarKind) (node : Node) :
    Fails (fun fault => fault.isHandled ∨ node.IsMisfit nodes kind fault)
      (scalarValue nodes kind node) := by
  unfold scalarValue
  refine .bind ((fails_scalarText _ _ _).imp fun _ => .inl) fun t ht => ?_
  have hvalue : Fails (fun fault => fault.isHandled ∨ node.IsMisfit nodes kind fault)
      (kind.value node.start t) :=
    (fails_value kind node.start t).imp fun fault hfault =>
      hfault.imp_right (.scalar (hasText_of_scalarText ht))
  split
  · next pairs hcontent => exact .error (.inr (.mapping rfl hcontent))
  · exact hvalue

end ScriptRun.Yaml
