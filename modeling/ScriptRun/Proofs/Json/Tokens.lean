import ScriptRun.Json.Printer
import ScriptRun.Json.Reader
import ScriptRun.Proofs.Decimal.RoundTrip

/-!
# Written tokens read back

Each token of a value written with its characters as they are (a quoted text, an integer, a float or
a word) is read as what it was, whatever follows it. After a number only a digit, a point or an `e`
could be taken for a part of it.
-/

namespace ScriptRun.Json

open Text

/-! ### Quoted texts -/

theorem unit?_hex {n : Nat} (hn : n < 0x20) (rest : Text) :
    unit? (hex 4 n ++ rest) = some (n, rest) := by
  interval_cases n <;> rfl

theorem escapedUnit?_hex {n : Nat} (hn : n < 0x20) (rest : Text) :
    escapedUnit? (hex 4 n ++ rest) = some (Char.ofNat n, rest) := by
  have hhigh : isHigh n = false := by simp [isHigh]; omega
  have hlow : isLow n = false := by simp [isLow]; omega
  simp [escapedUnit?, unit?_hex hn, hhigh, hlow]

/-- One written character and what it is read as. -/
theorem readStr?_charText (fuel : Nat) (c : Char) (rest : Text) :
    readStr? (fuel + 1) (charText false c ++ rest) =
      (readStr? fuel rest).bind fun (t, rest) => some (c :: t, rest) := by
  unfold charText
  split_ifs with hquote hslash hfeed hreturn htab hform hback hcontrol
  · subst hquote; rfl
  · subst hslash; rfl
  · subst hfeed; rfl
  · subst hreturn; rfl
  · subst htab; rfl
  · obtain rfl : c = '\x0c' := Char.toNat_inj.mp hform
    rfl
  · obtain rfl : c = '\x08' := Char.toNat_inj.mp hback
    rfl
  · change readStr? (fuel + 1) ('\\' :: 'u' :: (hex 4 c.toNat ++ rest)) = _
    rw [readStr?, escapedUnit?_hex hcontrol, Char.ofNat_toNat]
    rfl
  · simp_all
  · change readStr? (fuel + 1) (c :: rest) = _
    rw [readStr?.eq_6 _ _ _ hquote (fun _ h => absurd h hslash) (fun _ _ h => absurd h hslash)]
    simp only [hcontrol, hslash, decide_false, Bool.or_self, Bool.false_eq_true, if_false]
    rfl

/-- A written text is read back up to its closing quote. -/
theorem readStr?_flatMap {fuel : Nat} {t : Text}
    (hfuel : (t.flatMap (charText false)).length < fuel) (rest : Text) :
    readStr? fuel (t.flatMap (charText false) ++ '"' :: rest) = some (t, rest) := by
  induction t generalizing fuel with
  | nil =>
    obtain ⟨fuel, rfl⟩ := Nat.exists_eq_add_one_of_ne_zero (Nat.ne_of_gt hfuel)
    rfl
  | cons c t ih =>
    have hlength : 0 < (charText false c).length := by
      rw [List.length_pos_iff]
      unfold charText
      simp only [Bool.false_and, Bool.false_eq_true, if_false]
      split_ifs <;> simp [unitEscape]
    rw [List.flatMap_cons, List.length_append] at hfuel
    obtain ⟨fuel, rfl⟩ := Nat.exists_eq_add_one_of_ne_zero (show fuel ≠ 0 by omega)
    rw [List.flatMap_cons, List.append_assoc, readStr?_charText, ih (by omega)]
    rfl

/-! ### Numbers -/

/-- Texts that do not go on with a number. -/
def EndsNumber (rest : Text) : Prop :=
  ∀ c ∈ rest.head?, Decimal.isPlainDigit c = false ∧ c ≠ '.' ∧ c ≠ 'e' ∧ c ≠ 'E'

/-- The digits before a point: a zero, or as many as there are. -/
def leadingDigits (t : Text) : Text :=
  match t with
  | '0' :: _ => ['0']
  | _ => t.takeWhile Decimal.isPlainDigit

/-- What is read after the digits before a point. -/
def numberAfter (negative : Bool) (whole rest : Text) : Option (Json × Text) :=
  match fraction? rest, exponent? rest with
  | some (digits, rest), _ =>
    let shift : Int := digits.length
    match exponent? rest with
    | some (e, rest) =>
      some (.float (Decimal.ofScientific negative (whole ++ digits) (e - shift)), rest)
    | none => some (.float (Decimal.ofScientific negative (whole ++ digits) (-shift)), rest)
  | none, some (e, rest) => some (.float (Decimal.ofScientific negative whole e), rest)
  | none, none =>
    if Decimal.digitLimit < whole.length then none
    else
      let n : Int := Decimal.plainValue whole
      some (.int (if negative then -n else n), rest)

theorem readNumber?_eq (negative : Bool) (t : Text) :
    readNumber? negative t =
      if (leadingDigits t).isEmpty then none
      else numberAfter negative (leadingDigits t) (t.drop (leadingDigits t).length) := rfl

theorem takeWhile_digits {digits rest : Text}
    (hdigits : ∀ c ∈ digits, Decimal.isPlainDigit c = true)
    (hrest : ∀ c ∈ rest.head?, Decimal.isPlainDigit c = false) :
    (digits ++ rest).takeWhile Decimal.isPlainDigit = digits ∧
      (digits ++ rest).dropWhile Decimal.isPlainDigit = rest := by
  rw [List.takeWhile_append_of_pos hdigits, List.dropWhile_append_of_pos hdigits]
  cases rest with
  | nil => simp
  | cons c rest => simp [hrest c rfl]

theorem leadingDigits_append {whole rest : Text} (hwhole : Decimal.IsWhole whole)
    (hrest : ∀ c ∈ rest.head?, Decimal.isPlainDigit c = false) :
    leadingDigits (whole ++ rest) = whole := by
  obtain rfl | ⟨hne, hhead, hdigits⟩ := hwhole
  · rfl
  · obtain ⟨c, more, rfl⟩ := List.exists_cons_of_ne_nil hne
    have hzero : c ≠ '0' := fun h => hhead (congrArg some h)
    have htake := (takeWhile_digits hdigits hrest).1
    rw [leadingDigits]
    · exact htake
    · intro _ h
      exact hzero (List.cons.inj h).1

theorem readNumber?_append {negative : Bool} {whole rest : Text} (hwhole : Decimal.IsWhole whole)
    (hrest : ∀ c ∈ rest.head?, Decimal.isPlainDigit c = false) :
    readNumber? negative (whole ++ rest) = numberAfter negative whole rest := by
  have hempty : whole.isEmpty = false := List.isEmpty_eq_false_iff.mpr hwhole.ne_nil
  simp only [readNumber?_eq, leadingDigits_append hwhole hrest, hempty, List.drop_left,
    Bool.false_eq_true, if_false]

theorem fraction?_of_ends {rest : Text} (hrest : EndsNumber rest) : fraction? rest = none := by
  cases rest with
  | nil => rfl
  | cons c rest =>
    have hpoint := (hrest c rfl).2.1
    simp [fraction?, hpoint]

theorem exponent?_of_ends {rest : Text} (hrest : EndsNumber rest) : exponent? rest = none := by
  cases rest with
  | nil => rfl
  | cons c rest =>
    obtain ⟨-, -, hlower, hupper⟩ := hrest c rfl
    simp [exponent?, hlower, hupper]

theorem fraction?_append {fraction rest : Text} (hfraction : Decimal.IsFraction fraction)
    (hrest : ∀ c ∈ rest.head?, Decimal.isPlainDigit c = false) :
    fraction? (fraction ++ rest) = some (fraction.tail, rest) := by
  obtain ⟨digits, rfl, hne, hdigits⟩ := hfraction
  obtain ⟨htake, hdrop⟩ := takeWhile_digits hdigits hrest
  simp [fraction?, htake, hdrop, hne]

theorem exponent?_append (e : Int) {rest : Text}
    (hrest : ∀ c ∈ rest.head?, Decimal.isPlainDigit c = false) :
    exponent? (Decimal.exponentText e ++ rest) = some (e, rest) := by
  obtain ⟨htake, hdrop⟩ := takeWhile_digits
    (fun c (hc : c ∈ padded 2 e.natAbs) => Decimal.isPlainDigit_of_mem_padded hc) hrest
  have hempty : (padded 2 e.natAbs).isEmpty = false := by
    rw [List.isEmpty_eq_false_iff, padded]
    exact List.append_ne_nil_of_right_ne_nil _ (Decimal.ofNat_ne_nil _)
  rw [Decimal.exponentText]
  split_ifs with hnegative
  · simp only [List.cons_append, exponent?, true_or, if_true, Decimal.splitSign, htake, hdrop, hempty,
      Bool.false_eq_true, if_false, Decimal.plainValue_padded]
    congr 2
    omega
  · simp only [List.cons_append, exponent?, true_or, if_true, Decimal.splitSign, htake, hdrop, hempty,
      Bool.false_eq_true, if_false, Decimal.plainValue_padded]
    congr 2
    omega

theorem EndsNumber.digit {rest : Text} (hrest : EndsNumber rest) :
    ∀ c ∈ rest.head?, Decimal.isPlainDigit c = false := fun c hc => (hrest c hc).1

theorem head?_isFraction_append {fraction : Text} (hfraction : Decimal.IsFraction fraction)
    (rest : Text) : ∀ c ∈ (fraction ++ rest).head?, Decimal.isPlainDigit c = false := by
  obtain ⟨digits, rfl, -, -⟩ := hfraction
  rintro c hc
  obtain rfl : '.' = c := Option.some.inj hc
  rfl

theorem head?_exponentText_append (e : Int) (rest : Text) :
    ∀ c ∈ (Decimal.exponentText e ++ rest).head?, Decimal.isPlainDigit c = false := by
  rintro c hc
  obtain rfl : 'e' = c := Option.some.inj hc
  rfl

theorem fraction?_exponentText_append (e : Int) (rest : Text) :
    fraction? (Decimal.exponentText e ++ rest) = none := rfl

/-- A numeral that shows that it is of a float is read by its digits. -/
theorem readNumber?_float (negative : Bool) {t digits : Text} {shift : Int}
    (ht : Decimal.IsFloat t digits shift) {rest : Text} (hrest : EndsNumber rest) :
    readNumber? negative (t ++ rest) =
      some (.float (Decimal.ofScientific negative digits shift), rest) := by
  cases ht with
  | @fraction whole fraction hwhole hfraction =>
    rw [List.append_assoc,
      readNumber?_append hwhole (head?_isFraction_append hfraction rest), numberAfter,
      fraction?_append hfraction hrest.digit]
    simp only [exponent?_of_ends hrest]
  | exponent e hwhole =>
    rw [List.append_assoc, readNumber?_append hwhole (head?_exponentText_append shift rest),
      numberAfter, fraction?_exponentText_append, exponent?_append shift hrest.digit]
  | @both whole fraction e hwhole hfraction =>
    rw [List.append_assoc, List.append_assoc,
      readNumber?_append hwhole (head?_isFraction_append hfraction _), numberAfter,
      fraction?_append hfraction (head?_exponentText_append e rest)]
    simp only [exponent?_append e hrest.digit]

theorem readNumber?_ofNat {negative : Bool} {n : Nat} (hn : n < Nat.pow 10 Decimal.digitLimit)
    {rest : Text} (hrest : EndsNumber rest) :
    readNumber? negative (ofNat n ++ rest) = some (.int (if negative then -n else n), rest) := by
  have hlength : ¬Decimal.digitLimit < (ofNat n).length :=
    Nat.not_lt.mpr (Decimal.length_ofNat_le (by decide) hn)
  rw [readNumber?_append (Decimal.isWhole_ofNat n) hrest.digit, numberAfter,
    fraction?_of_ends hrest, exponent?_of_ends hrest]
  simp only [hlength, if_false, Decimal.plainValue_ofNat]

/-! ### Words and numbers -/

/-- No word begins like a number. -/
theorem readAtom?_whole {whole : Text} (hwhole : Decimal.IsWhole whole) (rest : Text) :
    readAtom? (whole ++ rest) = readNumber? false (whole ++ rest) ∧
      readAtom? ('-' :: whole ++ rest) = readNumber? true (whole ++ rest) := by
  obtain ⟨c, more, rfl⟩ := List.exists_cons_of_ne_nil hwhole.ne_nil
  have hdigit := hwhole.isPlainDigit (List.mem_cons_self ..)
  have hother : ∀ d, Decimal.isPlainDigit d = false → d ≠ c := by
    rintro d hd rfl
    rw [hdigit] at hd
    exact absurd hd (by decide)
  have hcapital := hother 'I' rfl
  have hminus := hother '-' rfl
  constructor
  · have hwords : words.findSome? (fun w =>
        (dropLead? w.1.toList (c :: more ++ rest)).map (w.2, ·)) = none := by
      simp [words, dropLead?, hother 'n' rfl, hother 't' rfl, hother 'f' rfl, hother 'N' rfl,
        hcapital, hminus]
    rw [readAtom?, hwords]
    intro _ h
    exact hminus (List.cons.inj h).1.symm
  · simp [readAtom?, words, dropLead?, hcapital]

/-- An integer with few enough digits is read as itself. -/
theorem readAtom?_ofInt {n : Int} (hn : Decimal.isWritable n = true) {rest : Text}
    (hrest : EndsNumber rest) : readAtom? (ofInt n ++ rest) = some (.int n, rest) := by
  rw [Decimal.isWritable, decide_eq_true_eq] at hn
  cases n with
  | ofNat n =>
    rw [ofInt, (readAtom?_whole (Decimal.isWhole_ofNat n) rest).1,
      readNumber?_ofNat (show n < _ from hn) hrest]
    rfl
  | negSucc n =>
    rw [ofInt, (readAtom?_whole (Decimal.isWhole_ofNat _) rest).2,
      readNumber?_ofNat (show n + 1 < _ from hn) hrest]
    rfl

/-- A float is read as itself. -/
theorem readAtom?_floatText (x : Float) {rest : Text} (hrest : EndsNumber rest) :
    readAtom? (floatText x ++ rest) = some (.float x, rest) := by
  have hback := Decimal.Parts.toFloat_ofFloat x
  rw [floatText]
  split_ifs with hnan hinf hnegative
  · rw [Decimal.ofFloat_of_isNaN hnan] at hback
    rw [← hback]
    rfl
  · rw [Decimal.ofFloat_of_isInf hinf, decide_eq_true hnegative] at hback
    rw [← hback]
    rfl
  · rw [Decimal.ofFloat_of_isInf hinf, decide_eq_false hnegative] at hback
    rw [← hback]
    rfl
  · obtain ⟨negative, mantissa, exponent, hparts⟩ :=
      Decimal.ofFloat_finite (Bool.eq_false_iff.mpr hnan) (Bool.eq_false_iff.mpr hinf)
    obtain ⟨numeral, digits, shift, htext, hnumeral, hvalue⟩ :=
      Decimal.ofScientific_exactText hparts
    obtain ⟨whole, more, rfl, hwhole⟩ := hnumeral.exists_whole
    have hread := readNumber?_float negative hnumeral hrest
    rw [hvalue] at hread
    rw [htext, ← hread]
    cases negative with
    | false =>
      simp only [Bool.false_eq_true, if_false, List.nil_append, List.append_assoc]
      exact (readAtom?_whole hwhole _).1
    | true =>
      simp only [if_true, List.cons_append, List.append_assoc]
      exact (readAtom?_whole hwhole _).2

end ScriptRun.Json
