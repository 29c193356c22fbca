import Mathlib.Data.List.Basic
import ScriptRun.Text.Utf8

/-!
# Decoding by whole characters

The decoder takes one byte at a time. Here is what it computes on bytes that are all there: at each
position the bytes of one character are taken together, and where there is no character, the longest
beginning of one becomes a single replacement character, or the one byte that begins none does. The
ranges of the bytes are those of the table of well-formed sequences.

`decode_eq_readWhole` says that the machine agrees with this reading, and `decode_encode` that it
undoes the encoding; `decode?_encode` says the same of strict decoding.
-/

namespace ScriptRun.Text.Utf8

/-- The range of a byte inside a character that nothing narrows. -/
def inner : Nat × Nat := (0x80, 0xbf)

/-- The ranges of the bytes that make one character together with a first byte; none for a byte that
begins no character. -/
def followers? (first : UInt8) : Option (List (Nat × Nat)) :=
  let b := first.toNat
  if b < 0x80 then some []
  else if 0xc2 ≤ b ∧ b ≤ 0xdf then some [inner]
  else if b = 0xe0 then some [(0xa0, 0xbf), inner]
  else if b = 0xed then some [(0x80, 0x9f), inner]
  else if 0xe1 ≤ b ∧ b ≤ 0xef then some [inner, inner]
  else if b = 0xf0 then some [(0x90, 0xbf), inner, inner]
  else if 0xf1 ≤ b ∧ b ≤ 0xf3 then some [inner, inner, inner]
  else if b = 0xf4 then some [(0x80, 0x8f), inner, inner]
  else none

/-- The bytes at the beginning that lie in the ranges, one after another. -/
def fitting : List (Nat × Nat) → List UInt8 → List UInt8
  | (lo, hi) :: ranges, b :: bytes =>
    if lo ≤ b.toNat ∧ b.toNat ≤ hi then b :: fitting ranges bytes else []
  | _, _ => []

/-- The mark in a first byte that so many bytes come after it. -/
def leadMark : Nat → Nat
  | 0 => 0
  | 1 => 0xc0
  | 2 => 0xe0
  | _ => 0xf0

/-- What a first byte contributes to the value of a character with so many bytes after it. -/
def leadValue (first : UInt8) (more : Nat) : Nat := first.toNat - leadMark more

/-- Six more bits from each byte. -/
def withBytes (value : Nat) (bytes : List UInt8) : Nat :=
  bytes.foldl (fun v b => v * 64 + (b.toNat - 0x80)) value

/-- The text of bytes, read by whole characters. -/
def readWhole : List UInt8 → Text
  | [] => []
  | first :: bytes =>
    match followers? first with
    | none => '\ufffd' :: readWhole bytes
    | some ranges =>
      let more := fitting ranges bytes
      let c := if more.length = ranges.length then
          Char.ofNat (withBytes (leadValue first ranges.length) more)
        else '\ufffd'
      c :: readWhole (bytes.drop more.length)
termination_by bytes => bytes.length
decreasing_by
  · simp
  · simp only [List.length_drop, List.length_cons]
    omega

/-! ### The machine agrees -/

/-- The text that a decoder gives for the bytes that are left. -/
def Decoder.textOf (d : Decoder) (bytes : List UInt8) : Text :=
  ((d.run bytes).1 ++ (d.run bytes).2.finish).map replaced

theorem Decoder.textOf_cons (d : Decoder) (b : UInt8) (bytes : List UInt8) :
    d.textOf (b :: bytes) = (d.step b).1.map replaced ++ (d.step b).2.textOf bytes := by
  simp [Decoder.textOf, Decoder.run]

/-- A first byte outside every character. -/
theorem textOf_start_of_none {b : UInt8} (h : followers? b = none) (bytes : List UInt8) :
    Decoder.start.textOf (b :: bytes) = '\ufffd' :: Decoder.start.textOf bytes := by
  have hlead : lead b = ([.error .startByte], .start) := by
    unfold followers? at h
    unfold lead
    grind
  rw [Decoder.textOf_cons, Decoder.step, hlead]
  rfl

/-- The two bytes with which a surrogate would begin count for one fault each. -/
theorem textOf_surrogate (bytes : List UInt8) :
    Decoder.surrogate.textOf bytes = '\ufffd' :: '\ufffd' :: Decoder.start.textOf bytes := by
  cases bytes with
  | nil => rfl
  | cons b rest =>
    rw [Decoder.textOf_cons, Decoder.textOf_cons]
    rfl

/-- A byte that breaks off a character is looked at again. -/
theorem textOf_lead (b : UInt8) (bytes : List UInt8) :
    (Except.error Fault.continuation :: (lead b).1).map replaced ++ (lead b).2.textOf bytes =
      '\ufffd' :: Decoder.start.textOf (b :: bytes) := by
  rw [Decoder.textOf_cons]
  rfl

section Fitting

variable {seen value lo hi : Nat} {b : UInt8} (h : lo ≤ b.toNat ∧ b.toNat ≤ hi)

include h

theorem step_last : (Decoder.continuing seen 1 value lo hi).step b =
    ([.ok (Char.ofNat (value * 64 + (b.toNat - 0x80)))], .start) := by
  simp only [Decoder.step, if_pos h, Nat.le_refl, if_true]

theorem step_inner (n : Nat) : (Decoder.continuing seen (n + 2) value lo hi).step b =
    ([], .continuing (seen + 1) (n + 1) (value * 64 + (b.toNat - 0x80)) 0x80 0xbf) := by
  simp only [Decoder.step, if_pos h]
  rw [if_neg (by omega)]
  rfl

end Fitting

/-- Inside a character the machine takes the bytes that fit. A byte that does not fit ends it as one
fault, also where a surrogate would begin. -/
theorem textOf_continuing (seen value lo hi n : Nat) (bytes : List UInt8) :
    (Decoder.continuing seen (n + 1) value lo hi).textOf bytes =
      (if (fitting ((lo, hi) :: List.replicate n inner) bytes).length = n + 1 then
          Char.ofNat (withBytes value (fitting ((lo, hi) :: List.replicate n inner) bytes))
        else '\ufffd') ::
        Decoder.start.textOf
          (bytes.drop (fitting ((lo, hi) :: List.replicate n inner) bytes).length) := by
  induction bytes generalizing seen value lo hi n with
  | nil => simp [fitting, Decoder.textOf, Decoder.run, Decoder.finish, replaced]
  | cons b rest ih =>
    rw [Decoder.textOf_cons]
    by_cases hfits : lo ≤ b.toNat ∧ b.toNat ≤ hi
    · have hmore : fitting ((lo, hi) :: List.replicate n inner) (b :: rest) =
          b :: fitting (List.replicate n inner) rest := by
        rw [fitting, if_pos hfits]
      rw [hmore, List.length_cons, List.drop_succ_cons]
      cases n with
      | zero =>
        rw [step_last hfits]
        simp [fitting, withBytes, replaced]
      | succ n =>
        rw [step_inner hfits, List.map_nil, List.nil_append, ih, ← inner, ← List.replicate_succ]
        simp only [Nat.add_right_cancel_iff, withBytes, List.foldl_cons]
    · have hmore : fitting ((lo, hi) :: List.replicate n inner) (b :: rest) = [] := by
        rw [fitting, if_neg hfits]
      rw [hmore, List.length_nil, List.drop_zero, if_neg (Nat.succ_ne_zero n).symm]
      by_cases hsurrogate : hi = 0x9f ∧ 0xa0 ≤ b.toNat ∧ b.toNat ≤ 0xbf
      · have hstep : (Decoder.continuing seen (n + 1) value lo hi).step b = ([], .surrogate) := by
          simp only [Decoder.step, if_neg hfits, if_pos hsurrogate]
        have hnone : followers? b = none := by
          unfold followers?
          grind
        rw [hstep, textOf_start_of_none hnone, List.map_nil, List.nil_append, textOf_surrogate]
      · have hstep : (Decoder.continuing seen (n + 1) value lo hi).step b =
            (.error .continuation :: (lead b).1, (lead b).2) := by
          simp only [Decoder.step, if_neg hfits, if_neg hsurrogate]
        rw [hstep, textOf_lead]

/-- A first byte that needs no others. -/
theorem lead_of_followers_nil {b : UInt8} (h : followers? b = some []) :
    lead b = ([.ok (Char.ofNat b.toNat)], .start) := by
  unfold followers? at h
  unfold lead
  grind

/-- A first byte that needs others: what it contributes, and the ranges of the others. -/
theorem lead_of_followers_cons {b : UInt8} {range : Nat × Nat} {ranges : List (Nat × Nat)}
    (h : followers? b = some (range :: ranges)) :
    ranges = List.replicate ranges.length inner ∧
      lead b = ([], .continuing 1 (ranges.length + 1) (leadValue b (ranges.length + 1))
        range.1 range.2) := by
  unfold followers? at h
  unfold lead
  grind [leadValue, leadMark, inner]

theorem textOf_start (bytes : List UInt8) : Decoder.start.textOf bytes = readWhole bytes := by
  fun_induction readWhole bytes with
  | case1 => rfl
  | case2 first bytes hnone ih => rw [textOf_start_of_none hnone, ih]
  | case3 first bytes ranges hranges more c ih =>
    rw [← ih]
    cases ranges with
    | nil =>
      have hmore : more = [] := by simp [more, fitting]
      rw [Decoder.textOf_cons, Decoder.step, lead_of_followers_nil hranges]
      simp [c, hmore, withBytes, leadValue, leadMark, replaced]
    | cons range ranges =>
      obtain ⟨hinner, hlead⟩ := lead_of_followers_cons hranges
      rw [Decoder.textOf_cons, Decoder.step, hlead, List.map_nil, List.nil_append,
        textOf_continuing, ← hinner]
      rfl

/-- The decoder reads finished bytes by whole characters. -/
theorem decode_eq_readWhole (bytes : List UInt8) : decode bytes = readWhole bytes :=
  textOf_start bytes

/-! ### Decoding undoes encoding -/

theorem toNat_byte {n : Nat} (h : n < 256) : (UInt8.ofNat n).toNat = n := by
  rw [UInt8.toNat_ofNat', Nat.mod_eq_of_lt h]

/-- Bytes that lie in their ranges all fit. -/
theorem fitting_cons {lo hi : Nat} {ranges : List (Nat × Nat)} {b : UInt8} {more : List UInt8}
    (hb : lo ≤ b.toNat ∧ b.toNat ≤ hi) (hmore : fitting ranges more = more) :
    fitting ((lo, hi) :: ranges) (b :: more) = b :: more := by
  rw [fitting, if_pos hb, hmore]

/-- The bytes of a character: a first one, others that lie in the ranges that it calls for, and the
value that they make together. -/
theorem exists_bytes (c : Char) : ∃ first more ranges, String.utf8EncodeChar c = first :: more ∧
    followers? first = some ranges ∧ more.length = ranges.length ∧ fitting ranges more = more ∧
    Char.ofNat (withBytes (leadValue first ranges.length) more) = c := by
  have hc : c.toNat < 0xd800 ∨ 0xdfff < c.toNat ∧ c.toNat < 0x110000 := c.valid
  have hchar : ∀ {n}, n = c.toNat → Char.ofNat n = c := by
    rintro n rfl
    exact Char.ofNat_toNat c
  have hinner : ∀ {b : UInt8} {k : Nat}, b.toNat = k → 0x80 ≤ k ∧ k ≤ 0xbf →
      0x80 ≤ b.toNat ∧ b.toNat ≤ 0xbf := by
    rintro b k rfl h
    exact h
  unfold String.utf8EncodeChar
  simp only [Char.toNat_val]
  generalize hn : c.toNat = n at *
  split_ifs with h1 h2 h3
  · have hb := toNat_byte (show n < 256 by omega)
    have hranges : followers? (UInt8.ofNat n) = some [] := by
      simp only [followers?, hb]
      rw [if_pos (by omega)]
    exact ⟨_, [], [], rfl, hranges, rfl, rfl, hchar (by simp [withBytes, leadValue, leadMark, hb])⟩
  · have hb := toNat_byte (show n / 64 % 0x20 + 0xc0 < 256 by omega)
    have hb1 := toNat_byte (show n % 0x40 + 0x80 < 256 by omega)
    have hranges : followers? (UInt8.ofNat (n / 64 % 0x20 + 0xc0)) = some [inner] := by
      simp only [followers?, hb]
      rw [if_neg (by omega), if_pos (by omega)]
    refine ⟨_, _, _, rfl, hranges, rfl, fitting_cons (hinner hb1 (by omega)) rfl, hchar ?_⟩
    simp only [withBytes, leadValue, leadMark, List.foldl, List.length, hb, hb1]
    omega
  · have hb := toNat_byte (show n / 4096 % 0x10 + 0xe0 < 256 by omega)
    have hb1 := toNat_byte (show n / 64 % 0x40 + 0x80 < 256 by omega)
    have hb2 := toNat_byte (show n % 0x40 + 0x80 < 256 by omega)
    -- The second byte is narrowed from below after the first one of this length, and from above
    -- where the surrogates are.
    obtain ⟨lo, hi, hranges, hsecond⟩ : ∃ lo hi,
        followers? (UInt8.ofNat (n / 4096 % 0x10 + 0xe0)) = some [(lo, hi), inner] ∧
          lo ≤ n / 64 % 0x40 + 0x80 ∧ n / 64 % 0x40 + 0x80 ≤ hi := by
      simp only [followers?, hb]
      rw [if_neg (by omega), if_neg (by omega)]
      split_ifs with h4 h5 h6
      · exact ⟨_, _, rfl, by omega⟩
      · exact ⟨_, _, rfl, by omega⟩
      · exact ⟨_, _, rfl, by omega⟩
      all_goals omega
    refine ⟨_, _, _, rfl, hranges, rfl, fitting_cons (by rw [hb1]; exact hsecond)
      (fitting_cons (hinner hb2 (by omega)) rfl), hchar ?_⟩
    simp only [withBytes, leadValue, leadMark, List.foldl, List.length, hb, hb1, hb2]
    omega
  · have hb := toNat_byte (show n / 262144 % 0x08 + 0xf0 < 256 by omega)
    have hb1 := toNat_byte (show n / 4096 % 0x40 + 0x80 < 256 by omega)
    have hb2 := toNat_byte (show n / 64 % 0x40 + 0x80 < 256 by omega)
    have hb3 := toNat_byte (show n % 0x40 + 0x80 < 256 by omega)
    obtain ⟨lo, hi, hranges, hsecond⟩ : ∃ lo hi,
        followers? (UInt8.ofNat (n / 262144 % 0x08 + 0xf0)) = some [(lo, hi), inner, inner] ∧
          lo ≤ n / 4096 % 0x40 + 0x80 ∧ n / 4096 % 0x40 + 0x80 ≤ hi := by
      simp only [followers?, hb]
      rw [if_neg (by omega), if_neg (by omega), if_neg (by omega), if_neg (by omega),
        if_neg (by omega)]
      split_ifs with h4 h5 h6
      · exact ⟨_, _, rfl, by omega⟩
      · exact ⟨_, _, rfl, by omega⟩
      · exact ⟨_, _, rfl, by omega⟩
      all_goals omega
    refine ⟨_, _, _, rfl, hranges, rfl, fitting_cons (by rw [hb1]; exact hsecond)
      (fitting_cons (hinner hb2 (by omega)) (fitting_cons (hinner hb3 (by omega)) rfl)), hchar ?_⟩
    simp only [withBytes, leadValue, leadMark, List.foldl, List.length, hb, hb1, hb2, hb3]
    omega

theorem encode_append (s t : Text) : encode (s ++ t) = encode s ++ encode t := List.flatMap_append

/-- Inside a character the machine takes the missing bytes, if they all fit. -/
theorem run_continuing {seen value lo hi n : Nat} {bytes : List UInt8}
    (hfits : fitting ((lo, hi) :: List.replicate n inner) bytes = bytes)
    (hlength : bytes.length = n + 1) :
    (Decoder.continuing seen (n + 1) value lo hi).run bytes =
      ([.ok (Char.ofNat (withBytes value bytes))], .start) := by
  induction bytes generalizing seen value lo hi n with
  | nil => cases hlength
  | cons b rest ih =>
    rw [fitting] at hfits
    split_ifs at hfits with hb
    have hrest := (List.cons.inj hfits).2
    cases n with
    | zero =>
      obtain rfl : rest = [] := List.eq_nil_of_length_eq_zero (Nat.succ.inj hlength)
      rw [Decoder.run, step_last hb]
      rfl
    | succ n =>
      rw [Decoder.run, step_inner hb, ih hrest (Nat.succ.inj hlength)]
      simp only [withBytes, List.foldl_cons, List.nil_append]

theorem run_encodeChar (c : Char) :
    Decoder.start.run (String.utf8EncodeChar c) = ([.ok c], .start) := by
  obtain ⟨first, more, ranges, hbytes, hranges, hlength, hfits, hvalue⟩ := exists_bytes c
  rw [hbytes, Decoder.run, Decoder.step]
  cases ranges with
  | nil =>
    obtain rfl : more = [] := List.eq_nil_of_length_eq_zero hlength
    rw [lead_of_followers_nil hranges, ← hvalue]
    simp [Decoder.run, withBytes, leadValue, leadMark]
  | cons range ranges =>
    obtain ⟨hinner, hlead⟩ := lead_of_followers_cons hranges
    rw [hinner] at hfits
    rw [hlead, run_continuing hfits hlength, ← hvalue]
    rfl

/-- The bytes of a text are taken as its characters, without a fault. -/
theorem run_encode (t : Text) : Decoder.start.run (encode t) = (t.map .ok, .start) := by
  induction t with
  | nil => rfl
  | cons c t ih =>
    rw [encode, List.flatMap_cons, Decoder.run_append, run_encodeChar]
    rw [encode] at ih
    simp only [ih, List.map_cons, List.singleton_append]

theorem map_replaced_ok (t : Text) : (t.map .ok).map replaced = t := by
  rw [List.map_map]
  exact List.map_id t

/-- The bytes of a text decode to the text. -/
theorem decode_encode (t : Text) : decode (encode t) = t := by
  simp only [decode, run_encode, Decoder.finish, List.append_nil, map_replaced_ok]

/-- A byte without a fault is taken by strict decoding as it is by the machine. -/
theorem decodeFrom_cons {d next : Decoder} {b : UInt8} {first : Text}
    (hstep : d.step b = (first.map .ok, next)) (position : Nat) (before : UInt8)
    (bytes : List UInt8) :
    decodeFrom d position before (b :: bytes) =
      (decodeFrom next (position + 1) b bytes).map fun rest => (first ++ rest.1, rest.2) := by
  have hsurrogate : d ≠ .surrogate := by
    rintro rfl
    cases first <;> cases (Prod.mk.inj hstep).1
  have htake : decodeFrom d position before (b :: bytes) = do
      let rest ← decodeFrom next (position + 1) b bytes
      return ((first.map .ok).map replaced ++ rest.1, rest.2) := by
    rw [decodeFrom.eq_3 _ _ _ _ _ hsurrogate, hstep]
    cases first <;> rfl
  rw [htake, map_replaced_ok]
  cases decodeFrom next (position + 1) b bytes <;> rfl

/-- Strict decoding finds no fault where the machine finds none. -/
theorem exists_decodeFrom {d d' : Decoder} {bytes : List UInt8} {t : Text}
    (h : d.run bytes = (t.map .ok, d')) (position : Nat) (before : UInt8) :
    ∃ last, decodeFrom d position before bytes = .ok (t, ⟨d', last⟩) := by
  induction bytes generalizing d t position before with
  | nil =>
    obtain ⟨hitems, rfl⟩ := Prod.mk.inj h
    obtain rfl : t = [] := List.map_eq_nil_iff.1 hitems.symm
    exact ⟨before, by rw [decodeFrom]⟩
  | cons b rest ih =>
    obtain ⟨hitems, hrest⟩ := Prod.mk.inj h
    obtain ⟨first, more, rfl, hfirst, hmore⟩ := List.map_eq_append_iff.1 hitems.symm
    obtain ⟨last, hlast⟩ := ih (Prod.ext hmore.symm hrest) (position + 1) b
    exact ⟨last, by rw [decodeFrom_cons (Prod.ext hfirst.symm rfl), hlast]; rfl⟩

/-- The bytes of a text are strictly decoded to the text. -/
theorem decode?_encode (t : Text) : decode? (encode t) = .ok t := by
  obtain ⟨last, hlast⟩ := exists_decodeFrom (run_encode t) 0 0
  have hdecoded : ({} : Partial).decode? (encode t) = .ok (t, ⟨.start, last⟩) := hlast
  rw [decode?, hdecoded]
  rfl

end ScriptRun.Text.Utf8
