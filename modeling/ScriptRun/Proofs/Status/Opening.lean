import ScriptRun.Proofs.Files.Parents
import ScriptRun.Proofs.Status.Sequence

/-!
# Opening an event file that is there

Opening a file that can be read changes no file. The writer goes on from the number in the last line
of the file, if all of that line is in the end that is searched, and from zero if the line shows no
number. Only an infinite number keeps the file from being opened, as long as the stack does not run
out over a line that is nested too deeply.
-/

namespace ScriptRun.Status.EventFile

open Text Files

/-! ### What a last line shows -/

/-- What stands for a number and cannot be made an integer. -/
inductive IsNoNumber : Json → Prop
  | null : IsNoNumber .null
  | list (items : List Json) : IsNoNumber (.arr items)
  | object (fields : List (Text × Json)) : IsNoNumber (.obj fields)
  | word {t : Text} {fault : Decimal.IntFault} : Decimal.readInt t = .error fault →
    IsNoNumber (.str t)
  | notANumber {x : Float} : Decimal.Parts.ofFloat x = .nan → IsNoNumber (.float x)

/-- A line shows no number: it holds no value, or one that is no object, or an object without a
number that can be made an integer. -/
inductive ShowsNone (line : List UInt8) : Prop
  | unreadable : Json.read? (Utf8.decode line) = none → ShowsNone line
  | noObject {value : Json} : Json.read? (Utf8.decode line) = some value →
    (∀ fields, value ≠ .obj fields) → ShowsNone line
  | missing {fields : List (Text × Json)} : Json.read? (Utf8.decode line) = some (.obj fields) →
    Json.field? "sequence".toList fields = none → ShowsNone line
  | unusable {number : Json} : numberOf line = some number → IsNoNumber number → ShowsNone line

def ShowsInfinite (line : List UInt8) : Prop :=
  ∃ x negative, numberOf line = some (.float x) ∧ Decimal.Parts.ofFloat x = .infinite negative

/-- What the number in a line is taken for. -/
def resumption (line : List UInt8) : Except Fault Int :=
  ((numberOf line).map sequenceOf).getD (.ok 0)

theorem resumption_of_none {line : List UInt8} (h : numberOf line = none) :
    resumption line = .ok 0 := by
  rw [resumption, h]
  rfl

theorem resumption_of_some {line : List UInt8} {number : Json} (h : numberOf line = some number) :
    resumption line = sequenceOf number := by
  rw [resumption, h]
  rfl

theorem lastSequence_eq (content : List UInt8) :
    lastSequence content =
      ((byteLines (ending content)).getLast?.map resumption).getD (.ok 0) := by
  rw [lastSequence]
  cases (byteLines (ending content)).getLast? with
  | none => rfl
  | some line =>
    rw [Option.map_some, Option.getD_some, resumption, numberOf]
    dsimp only
    cases Json.read? (Utf8.decode line) with
    | none => rfl
    | some value =>
      rw [Option.bind_some]
      dsimp only
      cases value.get? "sequence".toList <;> rfl

theorem sequenceOf_of_isNoNumber {number : Json} (h : IsNoNumber number) :
    sequenceOf number = .ok 0 := by
  cases h with
  | null => rfl
  | list items => rfl
  | object fields => rfl
  | word hfault => rw [sequenceOf, hfault]
  | notANumber hnan =>
    rw [sequenceOf, truncate, hnan]
    rfl

theorem resumption_of_showsNone {line : List UInt8} (h : ShowsNone line) :
    resumption line = .ok 0 := by
  cases h with
  | unreadable hread =>
    apply resumption_of_none
    rw [numberOf, hread]
    rfl
  | @noObject value hread hobject =>
    apply resumption_of_none
    rw [numberOf, hread, Option.bind_some]
    cases value with
    | obj fields => exact absurd rfl (hobject fields)
    | _ => rfl
  | missing hread hfield =>
    apply resumption_of_none
    rw [numberOf, hread]
    exact hfield
  | unusable hnumber hno => exact (resumption_of_some hnumber).trans (sequenceOf_of_isNoNumber hno)

theorem resumption_of_showsInfinite {line : List UInt8} (h : ShowsInfinite line) :
    resumption line = .error .infiniteSequence := by
  obtain ⟨x, negative, hnumber, hinfinite⟩ := h
  rw [resumption_of_some hnumber, sequenceOf, truncate, hinfinite]
  rfl

/-- Every other number can be made an integer. -/
theorem exists_resumption {line : List UInt8} (h : ¬ShowsInfinite line) :
    ∃ n, resumption line = .ok n := by
  cases hnumber : numberOf line with
  | none => exact ⟨0, resumption_of_none hnumber⟩
  | some number =>
    rw [resumption_of_some hnumber]
    cases number with
    | null | bool | int | arr | obj => exact ⟨_, rfl⟩
    | str t =>
      rw [sequenceOf]
      cases Decimal.readInt t <;> exact ⟨_, rfl⟩
    | float x =>
      rw [sequenceOf, truncate]
      cases hparts : Decimal.Parts.ofFloat x with
      | infinite negative => exact absurd ⟨x, negative, hnumber, hparts⟩ h
      | nan | finite => exact ⟨_, rfl⟩

/-! ### The directory of the file -/

section Opening

variable {path : Text} {content : List UInt8} {t : Files.Tree}

theorem outcome_ensureDirectory_directoryOf (h : t.bytes path = .ok content) :
    (Tree.ensureDirectory (directoryOf path)).outcome t = (.ok (), t) := by
  obtain ⟨found, _, hfound, -, hplain⟩ := Tree.bytes_eq_ok.mp h
  obtain ⟨hlocate, -⟩ := Tree.resolve_eq_ok.mp hfound
  obtain ⟨-, -, -, hending⟩ := Tree.locate_eq_ok.mp hlocate
  have hname := Tree.name_ne_nil_of_plain (hending.symm.trans hplain)
  rw [directoryOf]
  split_ifs with hempty
  · exact Tree.outcome_ensureDirectory (Tree.stat_dot t) fun hdot => absurd hdot (by decide)
  · have hparent := (Tree.stat_parent hlocate hname).resolve_left (by simpa using hempty)
    exact Tree.outcome_ensureDirectory hparent Path.parent_parent

theorem openAt_of_bytes (h : t.bytes path = .ok content) (keepsLogLines : Bool) :
    openAt path keepsLogLines t =
      ((lastSequence content).map ({ path, keepsLogLines, sequence := · }), t) := by
  rw [openAt, outcome_ensureDirectory_directoryOf h, resume, h]
  dsimp only
  cases lastSequence content <;> rfl

theorem openAt_of_lastLine (h : t.bytes path = .ok content) (keepsLogLines : Bool)
    {line : List UInt8} (hline : (byteLines (ending content)).getLast? = some line) :
    openAt path keepsLogLines t =
      ((resumption line).map ({ path, keepsLogLines, sequence := · }), t) := by
  rw [openAt_of_bytes h, lastSequence_eq, hline]
  rfl

/-! ### Opening the file -/

/-- An event file that can be read is opened unless the end of it shows an infinite number, and no
file is changed. A last line that is all in the end of the file decides the number. A line that is
nested so deeply that reading it runs out of the stack is left out of this. -/
theorem openAt_readable (h : t.bytes path = .ok content) (keepsLogLines : Bool) :
    let opened (n : Int) : Except Fault EventFile × Files.Tree :=
      (.ok { path, keepsLogLines, sequence := n }, t)
    let failed : Except Fault EventFile × Files.Tree := (.error .infiniteSequence, t)
    ((∃ line ∈ (byteLines (ending content)).getLast?, ShowsInfinite line) →
      openAt path keepsLogLines t = failed) ∧
    ((¬∃ line ∈ (byteLines (ending content)).getLast?, ShowsInfinite line) →
      ∃ n, openAt path keepsLogLines t = opened n) ∧
    ∀ before after line, LastLine content before after line → after.length ≤ tailSize →
      (∀ n, numberOf line = some (.int n) → openAt path keepsLogLines t = opened n) ∧
      (ShowsNone line → openAt path keepsLogLines t = opened 0) ∧
      (ShowsInfinite line → openAt path keepsLogLines t = failed) := by
  intro opened failed
  refine ⟨?_, ?_, ?_⟩
  · rintro ⟨line, hline, hinfinite⟩
    rw [openAt_of_lastLine h keepsLogLines hline, resumption_of_showsInfinite hinfinite]
    rfl
  · intro hfinite
    cases hline : (byteLines (ending content)).getLast? with
    | none =>
      refine ⟨0, ?_⟩
      rw [openAt_of_bytes h, lastSequence_eq, hline]
      rfl
    | some line =>
      obtain ⟨n, hn⟩ := exists_resumption fun hinfinite => hfinite ⟨line, hline, hinfinite⟩
      refine ⟨n, ?_⟩
      rw [openAt_of_lastLine h keepsLogLines hline, hn]
      rfl
  · intro before after line hlast hfits
    rw [openAt_of_lastLine h keepsLogLines (hlast.getLast?_ending hfits)]
    refine ⟨fun n hn => ?_, fun hnone => ?_, fun hinfinite => ?_⟩
    · rw [resumption_of_some hn]
      rfl
    · rw [resumption_of_showsNone hnone]
      rfl
    · rw [resumption_of_showsInfinite hinfinite]
      rfl

end Opening

/-! ### A file with one number -/

/-- A line with nothing but a number. -/
def numberLine (number : Text) : List UInt8 :=
  Utf8.encode ("\x7b\"sequence\": ".toList ++ (number ++ ['\x7d']))

def numberFile (number : Text) : List UInt8 := numberLine number ++ [10]

theorem lastLine_numberFile (number : Text) (h : Json.HasNoControl number) :
    LastLine (numberFile number) [] (numberFile number) (numberLine number) := by
  have hline : StaysOnLine (numberLine number) :=
    staysOnLine_encode (.append (by decide) (.append h (by decide)))
  exact .of_staysOnLine hline (endsLine_of_feed (.inl rfl) _)

section Reading

variable {t : Text} {number : Json} (h : Json.ReadsAs t number)
include h

theorem readFields?_number {fuel : Nat} (hfuel : t.length < fuel) :
    Json.readFields? (fuel + 1) ('"' :: ("sequence\": ".toList ++ (t ++ ['\x7d']))) =
      some ([("sequence".toList, number)], []) := by
  have hname : Json.readStr? (("sequence\": ".toList ++ (t ++ ['\x7d'])).length + 1)
      ("sequence\": ".toList ++ (t ++ ['\x7d'])) =
        some ("sequence".toList, ':' :: ' ' :: (t ++ ['\x7d'])) := rfl
  have hcolon : Json.skipSpace (':' :: ' ' :: (t ++ ['\x7d'])) = ':' :: ' ' :: (t ++ ['\x7d']) :=
    Json.skipSpace_cons rfl _
  have hbrace : Json.skipSpace ['\x7d'] = ['\x7d'] := Json.skipSpace_cons rfl []
  have hnumber := h fuel ['\x7d'] hfuel (Json.endsNumber_cons (by simp) [])
  rw [Json.readFields?, hname]
  simp only [bind, Option.bind, hcolon, h.skipSpace_append, hnumber, hbrace]

theorem numberOf_numberLine : numberOf (numberLine t) = some number := by
  have hsplit : "\x7b\"sequence\": ".toList ++ (t ++ ['\x7d']) =
      '\x7b' :: '"' :: ("sequence\": ".toList ++ (t ++ ['\x7d'])) := rfl
  have hfields {fuel : Nat} (hfuel : t.length < fuel) := readFields?_number h hfuel
  have hlength : t.length ≤ ("sequence\": ".toList ++ (t ++ ['\x7d'])).length := by
    rw [List.length_append, List.length_append]
    omega
  rw [numberOf, numberLine, Utf8.decode_encode, hsplit]
  generalize "sequence\": ".toList ++ (t ++ ['\x7d']) = rest at hfields hlength
  have hquote : Json.skipSpace ('"' :: rest) = '"' :: rest := Json.skipSpace_cons rfl rest
  have hbrace : Json.skipSpace ('\x7b' :: '"' :: rest) = '\x7b' :: '"' :: rest :=
    Json.skipSpace_cons rfl _
  have hvalue : Json.readValue? (rest.length + 3) ('\x7b' :: '"' :: rest) =
      some (.obj [("sequence".toList, number)], []) := by
    rw [Json.readValue?.eq_4, hquote]
    exact congrArg (Option.map fun found => (Json.ofFields found.1, found.2))
      (hfields (Nat.lt_succ_of_le hlength))
  rw [Json.read?, hbrace]
  simp only [List.length_cons, hvalue, bind, Option.bind]
  rfl

end Reading

theorem openAt_readable_seven :
    (holding (numberFile ['7'])).bytes localPath = .ok (numberFile ['7']) ∧
      openAt localPath false (holding (numberFile ['7'])) =
        (.ok { path := localPath, sequence := 7 }, holding (numberFile ['7'])) := by
  have hbytes : (holding (numberFile ['7'])).bytes localPath = .ok (numberFile ['7']) := rfl
  have hnumber : numberOf (numberLine ['7']) = some (.int 7) :=
    numberOf_numberLine (Json.readsAs_ofInt (n := 7) (by decide +kernel))
  have hlast := lastLine_numberFile ['7'] (by decide)
  have hopened := (openAt_readable hbytes false).2.2 _ _ _ hlast (by decide)
  exact ⟨hbytes, hopened.1 7 hnumber⟩

theorem infinite_number_fails :
    (holding (numberFile "Infinity".toList)).bytes localPath =
        .ok (numberFile "Infinity".toList) ∧
      openAt localPath false (holding (numberFile "Infinity".toList)) =
        (.error .infiniteSequence, holding (numberFile "Infinity".toList)) := by
  have hread : Json.ReadsAs "Infinity".toList (.float (Decimal.Parts.infinite false).toFloat) :=
    .of_readAtom? fun _ _ => rfl
  have hinfinite : ShowsInfinite (numberLine "Infinity".toList) :=
    ⟨_, false, numberOf_numberLine hread, by decide⟩
  have hlast := lastLine_numberFile "Infinity".toList (by decide)
  refine ⟨rfl, ?_⟩
  rw [openAt_of_lastLine rfl false (hlast.getLast?_ending (by decide)),
    resumption_of_showsInfinite hinfinite]
  rfl

end ScriptRun.Status.EventFile
