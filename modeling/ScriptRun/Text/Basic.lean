/-!
# Texts

A text is a list of Unicode characters: lengths, positions and cuts count characters. The decimal
numerals that go into messages and arguments are texts too.
-/

namespace ScriptRun

/-- A text, counted and cut by characters. -/
abbrev Text := List Char

namespace Text

def ofNat (n : Nat) : Text := Nat.toDigits 10 n

/-- The decimal numeral of an integer, with a sign only when it is negative. -/
def ofInt : Int → Text
  | .ofNat n => ofNat n
  | .negSucc n => '-' :: ofNat (n + 1)

/-- A numeral padded on the left with zeros to at least `width` characters. -/
def padded (width n : Nat) : Text :=
  let digits := ofNat n
  List.replicate (width - digits.length) '0' ++ digits

/-- A lower-case hexadecimal numeral of at least `width` digits. -/
def hex (width n : Nat) : Text :=
  let digits := Nat.toDigits 16 n
  List.replicate (width - digits.length) '0' ++ digits

/-- A text padded on the right with spaces to at least `width` characters. -/
def alignLeft (width : Nat) (t : Text) : Text := t ++ List.replicate (width - t.length) ' '

/-- A text padded on the left with spaces to at least `width` characters. -/
def alignRight (width : Nat) (t : Text) : Text := List.replicate (width - t.length) ' ' ++ t

theorem length_alignLeft (width : Nat) (t : Text) :
    (alignLeft width t).length = max width t.length := by
  simp [alignLeft]; omega

theorem length_alignRight (width : Nat) (t : Text) :
    (alignRight width t).length = max width t.length := by
  simp [alignRight]; omega

def join (separator : Text) : List Text → Text
  | [] => []
  | [t] => t
  | t :: rest => t ++ separator ++ join separator rest

theorem join_cons_cons (separator t u : Text) (rest : List Text) :
    join separator (t :: u :: rest) = t ++ separator ++ join separator (u :: rest) := rfl

/-- Every part stands whole in the text that is joined from it and others. -/
theorem infix_join {separator part : Text} {parts : List Text} (h : part ∈ parts) :
    part <:+: join separator parts := by
  induction parts with
  | nil => cases h
  | cons t rest ih =>
    cases rest with
    | nil =>
      obtain rfl := List.mem_singleton.1 h
      exact List.infix_rfl
    | cons u rest =>
      rw [join_cons_cons, List.append_assoc]
      rcases List.mem_cons.1 h with rfl | hrest
      · exact (List.prefix_append part _).isInfix
      · exact (ih hrest).trans ((List.suffix_append _ _).trans (List.suffix_append _ _)).isInfix

/-- So does what follows a label in one of the parts. -/
theorem infix_join_of_labelled {separator t : Text} {parts : List Text} (label : Text)
    (h : label ++ t ∈ parts) : t <:+: join separator parts :=
  (List.suffix_append label t).isInfix.trans (infix_join h)

/-- The parts of a text between the occurrences of one character; always at least one part. -/
def splitAt (c : Char) : Text → List Text
  | [] => [[]]
  | x :: rest =>
    if x = c then [] :: splitAt c rest
    else match splitAt c rest with
      | [] => [[x]]
      | part :: parts => (x :: part) :: parts

/-- The text after a leading part, if the text begins with it. -/
def dropLead? : Text → Text → Option Text
  | [], t => some t
  | _ :: _, [] => none
  | p :: lead, c :: t => if p = c then dropLead? lead t else none

theorem dropLead?_eq_some {lead t rest : Text} : dropLead? lead t = some rest ↔ t = lead ++ rest := by
  induction lead generalizing t with
  | nil => simp [dropLead?, eq_comm]
  | cons p lead ih =>
    cases t with
    | nil => simp [dropLead?]
    | cons c t => by_cases h : p = c <;> simp [dropLead?, h, ih, eq_comm]

def startsWith (lead t : Text) : Bool := (dropLead? lead t).isSome

def occursIn (part : Text) : Text → Bool
  | [] => part.isEmpty
  | c :: rest => startsWith part (c :: rest) || occursIn part rest

end Text

end ScriptRun
