import ScriptRun.Yaml.Graph

/-!
# Loading a document

The values of a document form a graph, and what they are used for needs trees. A collection is
unfolded in every place where it stands, and cut where it stands inside itself. One in which nothing
is cut is unfolded only once.
-/

namespace ScriptRun.Yaml

open Text

/-- A step of unfolding, with the trees that are known. -/
abbrev Unfold := StateM (Array (Option Value))

namespace Unfold

/-- Remembers the tree of a node if nothing is cut in it, which the answer tells too. -/
def remember (n : Nat) (value : Value) (whole : Bool) : Unfold (Value × Bool) := do
  if whole then modify fun trees => trees.setIfInBounds n (some value)
  return (value, whole)

/-- The tree of a node inside the nodes `above`, and whether nothing is cut in it. The first argument
bounds the depth. -/
def tree (graph : Graph) : Nat → List Nat → Nat → Unfold (Value × Bool)
  | 0, _, _ => return (.null, true)
  | depth + 1, above, n => do
    if let some value := (← get).getD n none then return (value, true)
    let inside (part : Nat) : Unfold (Value × Bool) := tree graph depth (n :: above) part
    match graph.getD n none with
    | none => return (.null, true)
    | some (.scalar value) => return (value, true)
    | some (.list items) =>
      if above.contains n then return (.listAgain, false)
      let parts ← items.mapM inside
      remember n (.list (parts.map (·.1))) (parts.all (·.2))
    | some (.pairs items) =>
      if above.contains n then return (.listAgain, false)
      let parts ← items.mapM fun (name, value) => do return (← inside name, ← inside value)
      remember n (.list (parts.map fun (name, value) => .pair name.1 value.1))
        (parts.all fun (name, value) => name.2 && value.2)
    | some (.map pairs) =>
      if above.contains n then return (.mapAgain, false)
      let parts ← pairs.mapM fun (key, value) => do return (← inside key, ← inside value)
      remember n (.map (parts.map fun (key, value) => (key.1, value.1)))
        (parts.all fun (_, value) => value.2)
    | some (.set members) =>
      let parts ← members.mapM inside
      remember n (.set (Members.ordered (parts.map (·.1)))) true

end Unfold

/-- The value of a document. If it is a mapping, the values in it are unfolded each for itself. -/
def Document.value (d : Document) : Except Fault Value := do
  let graph ← d.graph
  let tree (n : Nat) : Unfold Value := do return (← Unfold.tree graph (d.nodes.size + 1) [] n).1
  let unfold : Unfold Value :=
    match graph.getD d.root none with
    | some (.map pairs) => do
      return .map (← pairs.mapM fun (key, value) => do return (← tree key, ← tree value))
    | _ => tree d.root
  return (unfold.run (Array.replicate d.nodes.size none)).1

/-- The value of the document in a text that is given in pieces; null if there is none. -/
def load (pieces : List Text) (stops : Option Utf8.Misread) : Except Fault Value := do
  match ← Document.ofPieces? pieces stops with
  | none => return .null
  | some d => d.value

end ScriptRun.Yaml
