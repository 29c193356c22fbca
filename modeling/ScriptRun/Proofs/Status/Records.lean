import ScriptRun.Proofs.Json.RoundTrip
import ScriptRun.Proofs.Text.Decoding

/-!
# The lines of an event file

A record takes one line of the file, and the number that it was written with is read from that line.
The number in the last line is found if the line, with its line feed, is no longer than the part of
the file that is searched.
-/

namespace ScriptRun.Status.EventFile

open Text

/-! ### Lines of bytes -/

/-- Bytes that end no line. -/
def StaysOnLine (bytes : List UInt8) : Prop := ∀ b ∈ bytes, b ≠ 10 ∧ b ≠ 13

theorem byteLines_cons {b : UInt8} (hb : b ≠ 10 ∧ b ≠ 13) (rest : List UInt8) :
    byteLines (b :: rest) =
      match byteLines rest with
      | [] => [[b]]
      | line :: more => (b :: line) :: more :=
  (byteLines.eq_3 _ _ fun _ h _ => hb.2 h).trans (if_neg (by simp [hb]))

/-- A byte that ends a line, unless it is the first of the two that end one together. -/
theorem byteLines_end {b : UInt8} (hb : b = 10 ∨ b = 13) {rest : List UInt8}
    (hrest : b = 13 → rest.head? ≠ some 10) : byteLines (b :: rest) = [] :: byteLines rest := by
  rw [byteLines.eq_3, if_pos hb]
  rintro more h rfl
  exact hrest h rfl

theorem byteLines_append_feed {line : List UInt8} (hline : StaysOnLine line) (rest : List UInt8) :
    byteLines (line ++ 10 :: rest) = line :: byteLines rest := by
  induction line with
  | nil => rfl
  | cons b line ih =>
    obtain ⟨hb, hline⟩ := List.forall_mem_cons.mp hline
    rw [List.cons_append, byteLines_cons hb, ih hline]

theorem byteLines_ne_nil {bytes : List UInt8} (h : bytes ≠ []) : byteLines bytes ≠ [] := by
  fun_cases byteLines bytes with
  | case1 => exact absurd rfl h
  | case2 => exact List.cons_ne_nil _ _
  | case3 => exact List.cons_ne_nil _ _
  | case4 => exact List.cons_ne_nil _ _
  | case5 => exact List.cons_ne_nil _ _

/-- The bytes end a line, so that the next ones begin another. -/
def EndsLine (before after : List UInt8) : Prop :=
  ∀ b ∈ before.getLast?, b = 10 ∨ b = 13 ∧ after.head? ≠ some 10

theorem EndsLine.of_suffix {before rest after : List UInt8} (h : EndsLine before after)
    (hrest : rest <:+ before) : EndsLine rest after := by
  obtain ⟨front, rfl⟩ := hrest
  intro b hb
  refine h b ?_
  rw [List.getLast?_append, hb]
  rfl

theorem endsLine_of_feed {before : List UInt8} (h : before = [] ∨ before.getLast? = some 10)
    (after : List UInt8) : EndsLine before after := by
  intro b hb
  obtain rfl | hlast := h
  · cases hb
  · exact .inl (Option.some.inj (hb.symm.trans hlast))

theorem endsLine_singleton {b : UInt8} (hb : b = 10 ∨ b = 13) {after : List UInt8}
    (hafter : b = 13 → after.head? ≠ some 10) : EndsLine [b] after := by
  intro c hc
  obtain rfl : b = c := Option.some.inj hc
  exact hb.imp_right fun h => ⟨h, hafter h⟩

theorem EndsLine.append_left {before after : List UInt8} (h : EndsLine before after)
    (hbefore : before ≠ []) (front : List UInt8) : EndsLine (front ++ before) after := by
  obtain ⟨init, c, rfl⟩ := (List.eq_nil_or_concat' before).resolve_left hbefore
  intro b hb
  rw [← List.append_assoc, List.getLast?_concat] at hb
  exact h b (by rwa [List.getLast?_concat])

theorem byteLines_append {before after : List UInt8} (h : EndsLine before after) :
    byteLines (before ++ after) = byteLines before ++ byteLines after := by
  fun_induction byteLines before with
  | case1 => rfl
  | case2 rest ih => exact congrArg ([] :: ·) (ih (h.of_suffix ⟨[13, 10], rfl⟩))
  | case3 b rest hpair hend ih =>
    have hhead : b = 13 → (rest ++ after).head? ≠ some 10 := by
      rintro rfl
      cases rest with
      | nil => exact ((h 13 rfl).resolve_left (by decide)).2
      | cons c rest => exact fun hc => hpair rest rfl (congrArg (· :: rest) (Option.some.inj hc))
    rw [List.cons_append, byteLines_end hend hhead, ih (h.of_suffix (List.suffix_cons b rest)),
      List.cons_append]
  | case4 b rest _ hend hlines =>
    -- only no bytes have no lines, and this byte ends none
    obtain rfl : rest = [] := by_contra fun hne => byteLines_ne_nil hne hlines
    exact absurd ((h b rfl).imp_right And.left) hend
  | case5 b rest _ hend _ _ hlines ih =>
    rw [List.cons_append, byteLines_cons (not_or.mp hend),
      ih (h.of_suffix (List.suffix_cons b rest)), hlines]
    rfl

/-- Lines with a line feed after each. -/
def joined (lines : List (List UInt8)) : List UInt8 := lines.flatMap (· ++ [10])

theorem joined_append_singleton (lines : List (List UInt8)) (line : List UInt8) :
    joined (lines ++ [line]) = joined lines ++ (line ++ [10]) := by
  simp [joined]

theorem byteLines_joined {lines : List (List UInt8)} (hlines : ∀ line ∈ lines, StaysOnLine line) :
    byteLines (joined lines) = lines := by
  induction lines with
  | nil => rfl
  | cons line lines ih =>
    obtain ⟨hline, hlines⟩ := List.forall_mem_cons.mp hlines
    have hsplit : joined (line :: lines) = line ++ 10 :: joined lines := by simp [joined]
    rw [hsplit, byteLines_append_feed hline, ih hlines]

theorem ending_append {before after : List UInt8} (h : after.length ≤ tailSize) :
    ending (before ++ after) =
      (before.reverse.take (tailSize - after.length)).reverse ++ after := by
  rw [ending, List.reverse_append, List.take_append, List.take_of_length_le (by simpa using h),
    List.reverse_append, List.reverse_reverse, List.length_reverse]

/-- The last line of a file, with the bytes that it takes there and what stands before them. -/
structure LastLine (content before after line : List UInt8) : Prop where
  split : content = before ++ after
  begins : EndsLine before after
  only : byteLines after = [line]

theorem LastLine.append_left {front content before after line : List UInt8}
    (h : LastLine content before after line) (hfront : EndsLine front content) :
    LastLine (front ++ content) (front ++ before) after line := by
  obtain ⟨rfl, hbegins, honly⟩ := h
  refine ⟨(List.append_assoc ..).symm, ?_, honly⟩
  by_cases hbefore : before = []
  · rw [hbefore, List.append_nil]
    rwa [hbefore] at hfront
  · exact hbegins.append_left hbefore front

/-- A file that is not empty has a last line, so that what is said of last lines is said of all such
files. -/
theorem exists_lastLine {content : List UInt8} (h : content ≠ []) :
    ∃ before after line, LastLine content before after line := by
  fun_induction byteLines content with
  | case1 => exact absurd rfl h
  | case2 rest ih =>
    by_cases hrest : rest = []
    · exact ⟨[], _, [], rfl, nofun, by rw [hrest]; rfl⟩
    · obtain ⟨before, after, line, hlast⟩ := ih hrest
      have hends : EndsLine [13, 10] rest := endsLine_of_feed (.inr rfl) rest
      exact ⟨_, after, line, hlast.append_left hends⟩
  | case3 b rest hpair hend ih =>
    have hhead : b = 13 → rest.head? ≠ some 10 := by
      rintro rfl hten
      obtain ⟨more, rfl⟩ := List.head?_eq_some_iff.mp hten
      exact hpair more rfl rfl
    by_cases hrest : rest = []
    · exact ⟨[], _, [], rfl, nofun, by rw [byteLines_end hend hhead, hrest]; rfl⟩
    · obtain ⟨before, after, line, hlast⟩ := ih hrest
      exact ⟨_, after, line, hlast.append_left (endsLine_singleton hend hhead)⟩
  | case4 b rest _ hend hlines =>
    exact ⟨[], _, [b], rfl, nofun, by rw [byteLines_cons (not_or.mp hend), hlines]⟩
  | case5 b rest _ hend _ _ hlines ih =>
    have hrest : rest ≠ [] := by
      rintro rfl
      cases hlines
    obtain ⟨before, after, line, rfl, hbegins, honly⟩ := ih hrest
    by_cases hbefore : before = []
    · subst hbefore
      rw [List.nil_append]
      exact ⟨[], _, b :: line, rfl, nofun, by rw [byteLines_cons (not_or.mp hend), honly]⟩
    · exact ⟨_, after, line, rfl, hbegins.append_left hbefore [b], honly⟩

theorem LastLine.of_staysOnLine {before line : List UInt8} (hline : StaysOnLine line)
    (hbefore : EndsLine before (line ++ [10])) :
    LastLine (before ++ (line ++ [10])) before (line ++ [10]) line :=
  ⟨rfl, hbefore, byteLines_append_feed hline []⟩

/-- The last line of a file is the last line of its end, if it is all there. -/
theorem LastLine.getLast?_ending {content before after line : List UInt8}
    (h : LastLine content before after line) (hfits : after.length ≤ tailSize) :
    (byteLines (ending content)).getLast? = some line := by
  have hsuffix : (before.reverse.take (tailSize - after.length)).reverse <:+ before := by
    simpa using List.reverse_suffix.mpr
      (List.take_prefix (tailSize - after.length) before.reverse)
  rw [h.split, ending_append hfits, byteLines_append (h.begins.of_suffix hsuffix), h.only,
    List.getLast?_concat]

theorem endsLine_joined (lines : List (List UInt8)) (after : List UInt8) :
    EndsLine (joined lines) after := by
  refine endsLine_of_feed ?_ after
  obtain rfl | ⟨lines, line, rfl⟩ := List.eq_nil_or_concat' lines
  · exact .inl rfl
  · rw [joined_append_singleton, ← List.append_assoc]
    exact .inr List.getLast?_concat

/-! ### The number of a record -/

/-- The number that a line of an event file shows. -/
def numberOf (line : List UInt8) : Option Json :=
  (Json.read? (Utf8.decode line)).bind (·.get? "sequence".toList)

theorem lastSequence_joined {lines : List (List UInt8)} {last : List UInt8}
    (hlast : StaysOnLine last) (hfits : last.length < tailSize) {n : Int}
    (hn : numberOf last = some (.int n)) :
    lastSequence (joined (lines ++ [last])) = .ok n := by
  obtain ⟨value, hread, hvalue⟩ := Option.bind_eq_some_iff.mp hn
  have hend : (last ++ [10]).length ≤ tailSize := by
    rw [List.length_append]
    exact hfits
  rw [lastSequence, joined_append_singleton,
    (LastLine.of_staysOnLine hlast (endsLine_joined lines _)).getLast?_ending hend]
  simp only [hread, hvalue]
  rfl

def recordBytes (payload : Json) : List UInt8 := Utf8.encode (payload.text .record)

theorem encode_recordLine (payload : Json) :
    Utf8.encode (recordLine payload) = recordBytes payload ++ [10] := by
  rw [recordLine, Utf8.encode, List.flatMap_append]
  rfl

theorem le_of_mem_utf8EncodeChar {c : Char} (hc : 0x20 ≤ c.toNat) {b : UInt8}
    (hb : b ∈ String.utf8EncodeChar c) : 0x20 ≤ b.toNat := by
  have hbyte : ∀ n, 0x20 ≤ n → n < 256 → 0x20 ≤ (UInt8.ofNat n).toNat := by
    intro n hlow hhigh
    rwa [Utf8.toNat_byte hhigh]
  have hvalid : c.toNat < 0xd800 ∨ 0xdfff < c.toNat ∧ c.toNat < 0x110000 := c.valid
  unfold String.utf8EncodeChar at hb
  simp only [Char.toNat_val] at hb
  generalize c.toNat = n at *
  split_ifs at hb with h1 h2 h3 <;> simp only [List.mem_cons, List.not_mem_nil, or_false] at hb
  · rw [hb]
    exact hbyte n hc (by omega)
  · obtain rfl | rfl := hb <;> exact hbyte _ (by omega) (by omega)
  · obtain rfl | rfl | rfl := hb <;> exact hbyte _ (by omega) (by omega)
  · obtain rfl | rfl | rfl | rfl := hb <;> exact hbyte _ (by omega) (by omega)

theorem staysOnLine_encode {t : Text} (ht : Json.HasNoControl t) : StaysOnLine (Utf8.encode t) := by
  intro b hb
  obtain ⟨c, hc, hbyte⟩ := List.mem_flatMap.mp hb
  have hlow := le_of_mem_utf8EncodeChar (ht c hc) hbyte
  constructor <;> rintro rfl <;> exact absurd hlow (by decide)

theorem staysOnLine_recordBytes (payload : Json) : StaysOnLine (recordBytes payload) :=
  staysOnLine_encode (Json.hasNoControl_render 0 payload)

/-- The fields of a record in the order in which they are written. -/
theorem byName_record {α : Type} (version sequence timestamp type level session data : α) :
    Json.byName [("schema_version".toList, version), ("sequence".toList, sequence),
        ("timestamp".toList, timestamp), ("type".toList, type), ("level".toList, level),
        ("session_id".toList, session), ("data".toList, data)] =
      [("data".toList, data), ("level".toList, level), ("schema_version".toList, version),
        ("sequence".toList, sequence), ("session_id".toList, session),
        ("timestamp".toList, timestamp), ("type".toList, type)] := by
  simp +decide [Json.byName, List.mergeSort, List.MergeSort.Internal.splitInTwo, Json.nameLe]

theorem numberOf_recordBytes {f : EventFile} {now : Time.Moment} {type level : Text} {data : Json}
    (h : isWritable (f.payload now type level data) = true) :
    numberOf (recordBytes (f.payload now type level data)) = some (.int f.sequence) := by
  rw [numberOf, recordBytes, Utf8.decode_encode, Json.read?_text h, payload, Json.record]
  simp only [List.map_cons, List.map_nil, Json.settled, Json.settledFields, byName_record]
  rfl

/-! ### A last line that is too long -/

/-- What stands in a record after its data. -/
def recordEnd (f : EventFile) (now : Time.Moment) (type level : Text) : Text :=
  [("level".toList, Json.str level), ("schema_version".toList, .int 1),
    ("sequence".toList, .int f.sequence), ("session_id".toList, .ofText? f.session),
    ("timestamp".toList, .str now.isoText), ("type".toList, .str type)].flatMap
      (fun field => ',' :: ' ' :: Json.fieldText 1 field) ++ ['\x7d']

/-- A record begins with its data. -/
theorem text_payload (f : EventFile) (now : Time.Moment) (type level : Text) (data : Json) :
    (f.payload now type level data).text .record =
      "\x7b\"data\": ".toList ++ (Json.render .record 1 (if data.truthy then data else .obj []) ++
        f.recordEnd now type level) := by
  rw [Json.text, payload, Json.record, Json.render_obj]
  simp only [List.map_cons, List.map_nil, byName_record, recordEnd, join, List.flatMap_cons,
    List.flatMap_nil, List.cons_append, List.append_assoc, List.nil_append]
  rfl

theorem hasNoControl_recordEnd (f : EventFile) (now : Time.Moment) (type level : Text) :
    Json.HasNoControl (f.recordEnd now type level) := by
  have hrecord : Json.HasNoControl ((f.payload now type level .null).text .record) :=
    Json.hasNoControl_render 0 _
  rw [text_payload] at hrecord
  intro c hc
  exact hrecord c (by simp [hc])

theorem ending_replicate (before : List UInt8) (b : UInt8) {after : List UInt8} {count : Nat}
    (hafter : after.length ≤ tailSize) (hcount : tailSize ≤ count + after.length) :
    ending (before ++ (List.replicate count b ++ after)) =
      List.replicate (tailSize - after.length) b ++ after := by
  have hlength : tailSize - after.length ≤ (List.replicate count b).reverse.length := by
    rw [List.length_reverse, List.length_replicate]
    omega
  rw [← List.append_assoc, ending_append hafter, List.reverse_append,
    List.take_append_of_le_length hlength, List.reverse_replicate, List.take_replicate,
    List.reverse_replicate, Nat.min_eq_left (by omega)]

theorem encode_replicate (count : Nat) :
    Utf8.encode (List.replicate count 'a') = List.replicate count 97 := by
  induction count with
  | zero => rfl
  | succ count ih => exact congrArg (97 :: ·) ih

/-- Of a line with a long run of letters only the end is searched, and that is no record. -/
theorem lastSequence_replicate (before : List UInt8) {after : Text} {count : Nat}
    (hcontrol : Json.HasNoControl after) (hafter : (Utf8.encode after ++ [10]).length < tailSize)
    (hcount : tailSize ≤ count + (Utf8.encode after ++ [10]).length) :
    lastSequence (before ++ (Utf8.encode (List.replicate count 'a') ++
      (Utf8.encode after ++ [10]))) = .ok 0 := by
  obtain ⟨rest, hrest⟩ := Nat.exists_eq_add_one_of_ne_zero
    (show tailSize - (Utf8.encode after ++ [10]).length ≠ 0 by omega)
  have hline : List.replicate (rest + 1) 97 ++ (Utf8.encode after ++ [10]) =
      Utf8.encode ('a' :: (List.replicate rest 'a' ++ after)) ++ [10] := by
    rw [← List.cons_append, ← List.replicate_succ, Utf8.encode_append, encode_replicate,
      List.append_assoc]
  have hstays : StaysOnLine (Utf8.encode ('a' :: (List.replicate rest 'a' ++ after))) := by
    refine staysOnLine_encode (.cons (by decide) (.append (fun c hc => ?_) hcontrol))
    rw [List.eq_of_mem_replicate hc]
    decide
  rw [encode_replicate, lastSequence, ending_replicate before 97 (Nat.le_of_lt hafter) hcount,
    hrest, hline, byteLines_append_feed hstays, byteLines, List.getLast?_singleton]
  dsimp only
  rw [Utf8.decode_encode]
  rfl

/-- Data with a run of letters. -/
def letters (count : Nat) : Json := .record [("text", .str (List.replicate count 'a'))]

theorem render_letters (count : Nat) : Json.render .record 1 (letters count) =
    "\x7b\"text\": \"".toList ++ (List.replicate count 'a' ++ ['"', '\x7d']) := by
  have hletters : (List.replicate count 'a').flatMap (Json.charText false) =
      List.replicate count 'a' := by
    induction count with
    | zero => rfl
    | succ count ih => exact congrArg ('a' :: ·) ih
  have hsingle : Json.byName [("text".toList, Json.str (List.replicate count 'a'))] =
      [("text".toList, .str (List.replicate count 'a'))] := List.mergeSort_singleton _
  have hvalue : Json.render .record 2 (.str (List.replicate count 'a')) =
      '"' :: (List.replicate count 'a' ++ ['"']) :=
    congrArg ('"' :: · ++ ['"']) hletters
  rw [letters, Json.record, List.map_cons, List.map_nil, Json.render_obj, hsingle, List.map_cons,
    List.map_nil, join, Json.fieldText, hvalue]
  simp [Json.strText, Json.charText]

/-- A writer does not find the number of a record with too many letters. -/
theorem lastSequence_letters {f : EventFile} {now : Time.Moment} {type level : Text} {count : Nat}
    (hcount : tailSize ≤ count)
    (hend : (Utf8.encode ('"' :: '\x7d' :: f.recordEnd now type level)).length + 1 < tailSize) :
    lastSequence (recordBytes (f.payload now type level (letters count)) ++ [10]) = .ok 0 := by
  have htext : (f.payload now type level (letters count)).text .record =
      "\x7b\"data\": \x7b\"text\": \"".toList ++ (List.replicate count 'a' ++
        ('"' :: '\x7d' :: f.recordEnd now type level)) := by
    have htruthy : (letters count).truthy = true := rfl
    rw [text_payload, if_pos htruthy, render_letters]
    simp
  have hcontrol := hasNoControl_recordEnd f now type level
  rw [recordBytes, htext, Utf8.encode_append, Utf8.encode_append, List.append_assoc,
    List.append_assoc]
  exact lastSequence_replicate _ (.cons (by decide) (.cons (by decide) hcontrol))
    (by simpa using hend) (by omega)

end ScriptRun.Status.EventFile
