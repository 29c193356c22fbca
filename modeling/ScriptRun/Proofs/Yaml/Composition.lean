import Mathlib
import ScriptRun.Proofs.Yaml.Tokens
import ScriptRun.Yaml.Document

/-!
# What can be wrong with a document

The nodes of a document are read from its tokens, and whatever else is wrong there is a problem with
a message. So a document is not read for no other reason than those of the lexer
(`allows_of_ofPieces?`).
-/

set_option mvcgen.warning false

namespace ScriptRun.Yaml

open Text Std.Do

namespace Read

/-- A step that goes on reading the text that the lexer was given, and stops only with a fault that
can be found in it. -/
abbrev Follows (source : Source) {α : Type} (m : Read α) : Prop :=
  ⦃fun s => ⌜s.lexer.Within source⌝⦄ m
    ⦃post⟨fun _ s => ⌜s.lexer.Within source⌝, fun fault _ => ⌜source.Allows fault⌝⟩⦄

variable {source : Source} {α : Type}

theorem follows_lex {step : Lex α} (h : Lex.Reads source step) : Follows source (lex step) := by
  unfold lex
  mvcgen
  case vc1 s hs _ _ hrun _ =>
    have hstep := triple_iff.1 h s.lexer hs
    rw [show step s.lexer = .ok _ _ from hrun] at hstep
    exact hstep
  case vc2 s hs _ _ hrun _ =>
    have hstep := triple_iff.1 h s.lexer hs
    rw [show step s.lexer = .error _ _ from hrun] at hstep
    exact hstep

variable (source)

@[spec] theorem follows_peek : Follows source peek := follows_lex (Lex.reads_peekToken source)

@[spec] theorem follows_next : Follows source next := follows_lex (Lex.reads_nextToken source)

@[spec] theorem follows_stopWith (context : Option (Text × Option Mark)) (problem : Text)
    (mark : Mark) : Follows source (stopWith context problem mark : Read α) := by
  unfold stopWith
  mvcgen
  exact .inl rfl

@[spec] theorem follows_stopDeep : Follows source (stopDeep : Read α) := by
  unfold stopDeep
  mvcgen

@[spec] theorem follows_add (node : Node) : Follows source (add node) := by
  unfold add
  mvcgen

@[spec] theorem follows_addEmpty (mark : Mark) : Follows source (addEmpty mark) :=
  follows_add source _

@[spec] theorem follows_fullTag (start mark : Mark) (handle : Option Text) (suffix : Text) :
    Follows source (fullTag start mark handle suffix) := by
  unfold fullTag
  mvcgen

@[spec] theorem follows_properties : Follows source properties := by
  unfold properties
  mvcgen

@[spec] theorem follows_addAnchored (p : Properties) (node : Node) :
    Follows source (addAnchored p node) := by
  unfold addAnchored
  mvcgen

@[spec] theorem follows_addSequence (p : Properties) (start : Mark) {items : Read (List Nat)}
    (h : Follows source items) : Follows source (addSequence p start items) := by
  unfold addSequence
  mvcgen [h]

@[spec] theorem follows_addMapping (p : Properties) (start : Mark)
    {pairs : Read (List (Nat × Nat))} (h : Follows source pairs) :
    Follows source (addMapping p start pairs) := by
  unfold addMapping
  mvcgen [h]

/-- What is said of the functions that read nested nodes, for a bound on the tokens. -/
structure FollowsNested (k : Nat) : Prop where
  node (position : Position) : Follows source (node k position)
  nodeAfter (before : Placed) (position : Position) (isEnd : Token → Bool) :
    Follows source (nodeAfter k before position isEnd)
  entries (expected : Entries) : Follows source (entries k expected)
  flowValue (isEnd : Token → Bool) : Follows source (flowValue k isEnd)
  pairs (expected : Pairs) : Follows source (pairs k expected)

section

variable {source} {k : Nat} (ih : FollowsNested source k)

include ih

theorem FollowsNested.node_succ (position : Position) :
    Follows source (Read.node (k + 1) position) := by
  obtain ⟨hnode, hafter, hentries, hvalue, hpairs⟩ := ih
  unfold Read.node
  mvcgen [hentries, hpairs]

theorem FollowsNested.nodeAfter_succ (before : Placed) (position : Position)
    (isEnd : Token → Bool) : Follows source (Read.nodeAfter (k + 1) before position isEnd) := by
  have hnode := ih.node
  unfold Read.nodeAfter
  mvcgen [hnode]

theorem FollowsNested.flowValue_succ (isEnd : Token → Bool) :
    Follows source (Read.flowValue (k + 1) isEnd) := by
  have hafter := ih.nodeAfter
  unfold Read.flowValue
  mvcgen [hafter]

theorem FollowsNested.entries_succ (expected : Entries) :
    Follows source (Read.entries (k + 1) expected) := by
  obtain ⟨hnode, hafter, hentries, hvalue, hpairs⟩ := ih
  cases expected with
  | block start =>
    unfold Read.entries
    mvcgen [hafter, hentries]
  | indentless =>
    unfold Read.entries
    mvcgen [hafter, hentries]
  | flow start first =>
    unfold Read.entries
    mvcgen [hnode, hafter, hvalue, hentries]

theorem FollowsNested.pairs_succ (expected : Pairs) :
    Follows source (Read.pairs (k + 1) expected) := by
  obtain ⟨hnode, hafter, hentries, hvalue, hpairs⟩ := ih
  cases expected with
  | block start =>
    unfold Read.pairs
    mvcgen [hafter, hpairs]
  | flow start first =>
    unfold Read.pairs
    mvcgen [hnode, hafter, hvalue, hpairs]

end

theorem followsNested (k : Nat) : FollowsNested source k := by
  induction k with
  | zero =>
    constructor
    · intro position
      unfold Read.node
      mvcgen
    · intro before position isEnd
      unfold Read.nodeAfter
      mvcgen
    · intro expected
      unfold Read.entries
      mvcgen
    · intro isEnd
      unfold Read.flowValue
      mvcgen
    · intro expected
      unfold Read.pairs
      mvcgen
  | succ k ih =>
    exact ⟨ih.node_succ, ih.nodeAfter_succ, ih.entries_succ, ih.flowValue_succ, ih.pairs_succ⟩

@[spec] theorem follows_node (k : Nat) (position : Position) : Follows source (node k position) :=
  (followsNested source k).node position

/-! ### Documents -/

@[spec] theorem follows_directives (k : Nat) (versionSeen : Bool) :
    Follows source (directives k versionSeen) := by
  induction k generalizing versionSeen with
  | zero =>
    unfold directives
    mvcgen
  | succ k ih =>
    unfold directives
    mvcgen [ih]

@[spec] theorem follows_skipEnds (k : Nat) : Follows source (skipEnds k) := by
  induction k with
  | zero =>
    unfold skipEnds
    mvcgen
  | succ k ih =>
    unfold skipEnds
    mvcgen [ih]

@[spec] theorem follows_markedStart (k : Nat) : Follows source (markedStart k) := by
  unfold markedStart
  mvcgen

@[spec] theorem follows_markedContent (k : Nat) : Follows source (markedContent k) := by
  unfold markedContent
  mvcgen

theorem follows_document (k : Nat) : Follows source (document k) := by
  unfold document
  mvcgen

end Read

/-- A lexer that is made stands at the beginning of the text, and a message tells why none is made.
-/
theorem lexer_ofPieces (pieces : List Text) (stops : Option Utf8.Misread) :
    match Lexer.ofPieces pieces stops with
    | .ok lexer => lexer.Within ⟨pieces.flatten⟩
    | .error fault => fault.isHandled := by
  have hbegin :
      match (do
        checkAllowed 0 (pieces.take 2).flatten
        return {
          rest := (pieces.take 2).flatten, later := pieces.drop 2, stops
          bound := pieces.foldl (fun n piece => n + piece.length) 8 } : Except Fault Lexer) with
      | .ok lexer => lexer.Within ⟨pieces.flatten⟩
      | .error fault => fault.isHandled := by
    cases hchecked : checkAllowed 0 (pieces.take 2).flatten with
    | error fault => exact Lex.isHandled_of_checkAllowed hchecked
    | ok =>
      show (pieces.take 2).flatten ++ (pieces.drop 2).flatten <:+ pieces.flatten
      rw [← List.flatten_append, List.take_append_drop]
  -- The pieces and what stops them are told apart as the definition does.
  rcases pieces with _ | ⟨first, _ | ⟨second, more⟩⟩ <;> cases stops
  · exact hbegin
  · rfl
  · exact hbegin
  · rfl
  · exact hbegin
  · exact hbegin

/-- What can be wrong with a text before anything is known of its nodes. -/
theorem allows_of_ofPieces? {pieces : List Text} {stops : Option Utf8.Misread} {fault : Fault}
    (h : Document.ofPieces? pieces stops = .error fault) :
    Source.Allows ⟨pieces.flatten⟩ fault := by
  have hlexer := lexer_ofPieces pieces stops
  unfold Document.ofPieces? at h
  cases hmade : Lexer.ofPieces pieces stops with
  | error fault' =>
    rw [hmade] at h hlexer
    obtain rfl : fault' = fault := by simpa [bind, Except.bind] using h
    exact .inl hlexer
  | ok lexer =>
    rw [hmade] at h hlexer
    have hrun := triple_iff.1 (Read.follows_document ⟨pieces.flatten⟩ (8 * lexer.bound))
      { lexer } hlexer
    simp only [bind, Except.bind, EStateM.run] at h
    split at h
    · cases h
    · next hdocument =>
      rw [hdocument] at hrun
      obtain rfl := Except.error.inj h
      exact hrun

end ScriptRun.Yaml
