import ScriptRun.Yaml.Value

/-!
# The order of the members of a set

Numbers in a set are shown in the order of their places in a table, whose size is a power of two. A
number is led to its place by its residue modulo `2 ^ 61 - 1`, so that equal numbers of different
kinds are led to the same one. If that is taken, the places next to it are tried, and then others
farther away. A set that holds other values than numbers is shown in the order of the document.
-/

namespace ScriptRun.Yaml.Members

/-- The modulus of the residues. The powers of two repeat after 61 of them. -/
def modulus : Nat := Nat.pow 2 61 - 1

/-- A residue with a sign, as a number of 64 bits. Minus one is kept free. -/
def word (negative : Bool) (residue : Nat) : Nat :=
  if !negative || residue = 0 then residue
  else if residue = 1 then Nat.pow 2 64 - 2
  else Nat.pow 2 64 - residue

/-- What leads a number to its place; none for other values. -/
def lead? : Value → Option Nat
  | .int n => some (word (n < 0) (n.natAbs % modulus))
  | .bool b => some (if b then 1 else 0)
  | .float x =>
    match Decimal.Parts.ofFloat x with
    | .nan => none
    | .infinite negative => some (word negative 314159)
    | .finite negative mantissa exponent =>
      some (word negative (mantissa * Nat.pow 2 (exponent % 61).toNat % modulus))
  | _ => none

/-- The size of the table of some number of members. -/
def tableSize (count : Nat) : Nat := if count < 5 then 8 else Nat.pow 2 ((2 * count).log2 + 1)

/-- The first free place from a place on. The first argument bounds the places tried. -/
def freePlace (size : Nat) (taken : List Nat) : Nat → Nat → Nat → Nat
  | 0, place, _ => place
  | rounds + 1, place, rest =>
    let run := if place + 9 < size then 10 else 1
    match (List.range run).find? fun k => !taken.contains (place + k) with
    | some k => place + k
    | none =>
      let rest := rest / 32
      freePlace size taken rounds ((place * 5 + 1 + rest) % size) rest

/-- The places of numbers that are put into a table one after the other. -/
def places (size : Nat) : List Nat → List Nat → List Nat
  | _, [] => []
  | taken, lead :: rest =>
    let place := freePlace size taken (size + 16) (lead % size) lead
    place :: places size (place :: taken) rest

/-- The distinct members of a set in the order in which they are shown. -/
def ordered (members : List Value) : List Value :=
  match members.mapM lead? with
  | none => members
  | some leads =>
    let placed := (places (tableSize members.length) [] leads).zip members
    (placed.mergeSort fun a b => a.1 ≤ b.1).map (·.2)

end ScriptRun.Yaml.Members
