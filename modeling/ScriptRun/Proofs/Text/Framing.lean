import ScriptRun.Proofs.Text.Decoding
import ScriptRun.Proofs.Text.Lines
import ScriptRun.Text.LineBuffer

/-!
# Framing does not depend on chunks

A line buffer keeps three things between chunks: an unfinished character, a held carriage return,
and what stays of a line after its whole pieces. The first belongs to the decoder, which takes one
byte at a time. For the other two, a text is parted at its line ends, and one more text only changes
the last part: `framed_append` says what this means for the lines that are handed out, and
`outputLines_append` for the lines of a finished stream. Together they give that the lines of a
stream are its reference lines, however it is cut into chunks.
-/

namespace ScriptRun

namespace Text

/-! ### Parts that go on -/

theorem handOut_cons {limit : Nat} {line : Text} {parts : List Text} (h : parts ≠ []) :
    handOut limit (line :: parts) =
      (pieces limit line ++ (handOut limit parts).1, (handOut limit parts).2) := by
  cases parts with
  | nil => exact absurd rfl h
  | cons part rest => rfl

/-- The last part goes on: with it the parts give what they give without it, and then what the rest
of it gives together with what comes after. -/
theorem handOut_append (limit : Nat) (parts : List Text) (last first : Text) (more : List Text) :
    handOut limit (parts ++ (last ++ first) :: more) =
      ((handOut limit (parts ++ [last])).1 ++
          (handOut limit (((handOut limit (parts ++ [last])).2 ++ first) :: more)).1,
        (handOut limit (((handOut limit (parts ++ [last])).2 ++ first) :: more)).2) := by
  induction parts with
  | nil =>
    cases more with
    | nil => exact overflow_append limit last first
    | cons part more =>
      simp only [List.nil_append, handOut, pieces_append limit last first, List.append_assoc]
  | cons line parts ih =>
    rw [List.cons_append, List.cons_append, handOut_cons (by simp), handOut_cons (by simp), ih]
    simp only [List.append_assoc]

/-- What the parts of a finished stream between its line ends give: every part is a line, except for
an empty one at the end. -/
def handOutAll (limit : Nat) : List Text → List Text
  | [] => []
  | [last] => if last = [] then [] else pieces limit last
  | line :: parts => pieces limit line ++ handOutAll limit parts

theorem handOutAll_cons {limit : Nat} {line : Text} {parts : List Text} (h : parts ≠ []) :
    handOutAll limit (line :: parts) = pieces limit line ++ handOutAll limit parts := by
  cases parts with
  | nil => exact absurd rfl h
  | cons part rest => rfl

theorem outputLines_eq_handOutAll (limit : Nat) (t : Text) :
    outputLines limit t = handOutAll limit (splitAt '\n' (unifyLineEnds t)) := by
  have hparts : ∀ parts : List Text,
      (if parts.getLast? = some [] then parts.dropLast else parts).flatMap (pieces limit) =
        handOutAll limit parts := by
    intro parts
    induction parts with
    | nil => rfl
    | cons line parts ih =>
      cases parts with
      | nil =>
        by_cases hline : line = []
        · simp [handOutAll, hline]
        · simp [handOutAll, hline]
      | cons part rest =>
        rw [handOutAll_cons (by simp), ← ih, List.getLast?_cons_cons, List.dropLast_cons_cons]
        split
        · rw [List.flatMap_cons]
        · rw [List.flatMap_cons]
  exact hparts _

/-- The lines of a finished stream, when its parts so far have been handed out already. -/
theorem handOutAll_append (limit : Nat) (parts : List Text) (last first : Text)
    (more : List Text) :
    handOutAll limit (parts ++ (last ++ first) :: more) =
      (handOut limit (parts ++ [last])).1 ++
        handOutAll limit (((handOut limit (parts ++ [last])).2 ++ first) :: more) := by
  induction parts with
  | nil =>
    cases more with
    | nil =>
      simp only [List.nil_append, handOutAll, handOut]
      by_cases hlast : last = []
      · subst hlast
        rw [overflow_of_le (Or.inl (Nat.zero_le limit))]
        simp only [List.nil_append]
      · have hrest : (overflow limit last).2 ++ first ≠ [] := by
          simp [overflow_eq_nil_iff, hlast]
        rw [if_neg (by simp [hlast]), if_neg hrest, pieces_append]
    | cons part more =>
      simp only [List.nil_append, handOut, handOutAll, pieces_append limit last first,
        List.append_assoc]
  | cons line parts ih =>
    rw [List.cons_append, List.cons_append, handOutAll_cons (by simp), handOut_cons (by simp), ih,
      List.append_assoc]

/-- What is left of parts belongs to the last one. -/
theorem handOut_suffix (limit : Nat) (parts : List Text) (last : Text) :
    (handOut limit (parts ++ [last])).2 <:+ last := by
  induction parts with
  | nil => exact overflow_suffix limit last
  | cons line parts ih =>
    rw [List.cons_append, handOut_cons (by simp)]
    exact ih

theorem length_handOut_le (limit : Nat) (parts : List Text) :
    (handOut limit parts).2.length ≤ limit ∨ limit = 0 := by
  induction parts with
  | nil => exact Or.inl (Nat.zero_le limit)
  | cons line parts ih =>
    cases parts with
    | nil => exact length_overflow_le limit line
    | cons part rest => exact ih

/-! ### A held carriage return -/

theorem settled_append_heldReturn (t : Text) : settled t ++ heldReturn t = t := by
  unfold settled heldReturn
  split
  · rename_i h
    exact List.dropLast_append_getLast? '\r' h
  · exact List.append_nil t

/-- What stands before a held carriage return has its line ends unified whatever comes after. -/
theorem unifyLineEnds_settled (s t : Text) :
    unifyLineEnds (s ++ t) = unifyLineEnds (settled s) ++ unifyLineEnds (heldReturn s ++ t) := by
  have hcut : (settled s).getLast? ≠ some '\r' ∨ (heldReturn s ++ t).head? ≠ some '\n' := by
    unfold settled heldReturn
    split
    · exact Or.inr (by simp)
    · rename_i h
      exact Or.inl h
  rw [← unifyLineEnds_append hcut, ← List.append_assoc, settled_append_heldReturn]

/-- Another text decides whether a carriage return is held, unless it is empty. -/
theorem heldReturn_append {s t : Text} (ht : t ≠ []) : heldReturn (s ++ t) = heldReturn t := by
  unfold heldReturn
  rw [List.getLast?_append_of_ne_nil s ht]

theorem settled_append {s t : Text} (ht : t ≠ []) : settled (s ++ t) = s ++ settled t := by
  unfold settled
  rw [List.getLast?_append_of_ne_nil s ht, List.dropLast_append_of_ne_nil ht]
  split <;> rfl

theorem settled_append_of_not_mem {t : Text} (h : '\r' ∉ t) (s : Text) :
    settled (t ++ heldReturn s) = t ∧ heldReturn (t ++ heldReturn s) = heldReturn s := by
  have hlast : t.getLast? ≠ some '\r' := fun hr => h (List.mem_of_getLast? hr)
  by_cases hs : s.getLast? = some '\r'
  · have hheld : heldReturn s = ['\r'] := if_pos hs
    rw [hheld]
    exact ⟨by simp [settled], by simp [heldReturn]⟩
  · have hheld : heldReturn s = [] := if_neg hs
    rw [hheld, List.append_nil]
    exact ⟨if_neg hlast, if_neg hlast⟩

/-! ### One more text -/

/-- The parts of a text before its held carriage return, and how they go on with any other text:
what the parts leave goes on in the same way. -/
theorem exists_parts (limit : Nat) (s : Text) :
    ∃ parts last rest,
      framed limit s = ((handOut limit (parts ++ [last])).1, rest ++ heldReturn s) ∧
      rest = (handOut limit (parts ++ [last])).2 ∧ '\r' ∉ rest ∧ '\n' ∉ rest ∧
      ∀ t, ∃ first more, splitAt '\n' (unifyLineEnds (s ++ t)) = parts ++ (last ++ first) :: more ∧
        splitAt '\n' (unifyLineEnds (rest ++ heldReturn s ++ t)) = (rest ++ first) :: more := by
  obtain ⟨parts, last, hparts⟩ :=
    (List.eq_nil_or_concat (splitAt '\n' (unifyLineEnds (settled s)))).resolve_left
      (splitAt_ne_nil _ _)
  rw [List.concat_eq_append] at hparts
  have hmem : ∀ x ∈ (handOut limit (parts ++ [last])).2,
      x ∈ unifyLineEnds (settled s) ∧ x ≠ '\n' := fun x hx =>
    mem_of_mem_splitAt (by rw [hparts]; simp) ((handOut_suffix limit parts last).subset hx)
  have hreturn : '\r' ∉ (handOut limit (parts ++ [last])).2 := fun h =>
    return_not_mem_unifyLineEnds _ (hmem _ h).1
  have hfeed : '\n' ∉ (handOut limit (parts ++ [last])).2 := fun h => (hmem _ h).2 rfl
  generalize hrest : (handOut limit (parts ++ [last])).2 = rest at hreturn hfeed
  refine ⟨parts, last, rest, by rw [framed, hparts, hrest], hrest.symm, hreturn, hfeed, fun t => ?_⟩
  obtain ⟨first, more, hmore⟩ :=
    List.exists_cons_of_ne_nil (splitAt_ne_nil '\n' (unifyLineEnds (heldReturn s ++ t)))
  refine ⟨first, more, ?_, ?_⟩
  · rw [unifyLineEnds_settled]
    exact splitAt_append hparts hmore
  · obtain ⟨hsettled, hheld⟩ := settled_append_of_not_mem hreturn s
    rw [unifyLineEnds_settled, hsettled, hheld, unifyLineEnds_of_not_mem hreturn]
    exact splitAt_append (show splitAt '\n' rest = [] ++ [rest] from splitAt_of_not_mem hfeed) hmore

/-- An unfinished line gives nothing as long as nothing comes after it. -/
theorem framed_pending (limit : Nat) (s : Text) :
    framed limit (framed limit s).2 = ([], (framed limit s).2) := by
  obtain ⟨parts, last, rest, hframed, hrest, hreturn, hfeed, -⟩ := exists_parts limit s
  have hshort := length_handOut_le limit (parts ++ [last])
  rw [← hrest] at hshort
  obtain ⟨hsettled, hheld⟩ := settled_append_of_not_mem hreturn s
  rw [hframed, framed, hsettled, hheld, unifyLineEnds_of_not_mem hreturn, splitAt_of_not_mem hfeed,
    handOut, overflow_of_le hshort]

/-- A text in two parts is framed as the first and then, with what is left of it, the second. -/
theorem framed_append (limit : Nat) (s t : Text) :
    framed limit (s ++ t) =
      ((framed limit s).1 ++ (framed limit ((framed limit s).2 ++ t)).1,
        (framed limit ((framed limit s).2 ++ t)).2) := by
  by_cases ht : t = []
  · rw [ht, List.append_nil, List.append_nil, framed_pending, List.append_nil]
  · obtain ⟨parts, last, rest, hframed, hrest, -, -, hparts⟩ := exists_parts limit s
    obtain ⟨first, more, hwhole, hafter⟩ := hparts (settled t)
    have hleft : framed limit (s ++ t) =
        ((handOut limit (parts ++ (last ++ first) :: more)).1,
          (handOut limit (parts ++ (last ++ first) :: more)).2 ++ heldReturn t) := by
      rw [framed, settled_append ht, heldReturn_append ht, hwhole]
    have hright : framed limit (rest ++ heldReturn s ++ t) =
        ((handOut limit ((rest ++ first) :: more)).1,
          (handOut limit ((rest ++ first) :: more)).2 ++ heldReturn t) := by
      rw [framed, settled_append ht, heldReturn_append ht, hafter]
    rw [hframed, hleft, hright, handOut_append, ← hrest]

/-- The lines of a finished stream whose first part is framed already. -/
theorem outputLines_append (limit : Nat) (s t : Text) :
    outputLines limit (s ++ t) =
      (framed limit s).1 ++ outputLines limit ((framed limit s).2 ++ t) := by
  obtain ⟨parts, last, rest, hframed, hrest, -, -, hparts⟩ := exists_parts limit s
  obtain ⟨first, more, hwhole, hafter⟩ := hparts t
  rw [outputLines_eq_handOutAll, outputLines_eq_handOutAll, hframed, hwhole, hafter,
    handOutAll_append, ← hrest]

end Text

namespace LineBuffer

open Text

/-! ### Chunks -/

/-- Nothing that is buffered is ready to be handed out. -/
def IsSettled (b : LineBuffer) : Prop := framed b.limit b.pending = ([], b.pending)

theorem isSettled_new (limit : Nat) : ({ limit } : LineBuffer).IsSettled := by
  simp [IsSettled, framed, settled, heldReturn, unifyLineEnds, splitAt, handOut, overflow]

theorem isSettled_feedText (b : LineBuffer) (t : Text) : (b.feedText t).2.IsSettled :=
  framed_pending b.limit (b.pending ++ t)

theorem isSettled_feed (b : LineBuffer) (chunk : Chunk) : (b.feed chunk).2.IsSettled := by
  cases chunk with
  | bytes bytes => exact isSettled_feedText _ _
  | text t => exact isSettled_feedText b t

theorem feedText_append (b : LineBuffer) (s t : Text) :
    b.feedText (s ++ t) =
      ((b.feedText s).1 ++ ((b.feedText s).2.feedText t).1, ((b.feedText s).2.feedText t).2) := by
  simp only [feedText, ← List.append_assoc, framed_append b.limit (b.pending ++ s) t]

/-- A chunk of bytes in two parts is fed as the first and then the second, wherever the cut is. -/
theorem feed_bytes_append (b : LineBuffer) (xs ys : List UInt8) :
    b.feed (.bytes (xs ++ ys)) =
      ((b.feed (.bytes xs)).1 ++ ((b.feed (.bytes xs)).2.feed (.bytes ys)).1,
        ((b.feed (.bytes xs)).2.feed (.bytes ys)).2) := by
  simp only [feed, Utf8.Decoder.run_append, List.map_append, feedText_append]
  rfl

theorem feed_text_append (b : LineBuffer) (s t : Text) :
    b.feed (.text (s ++ t)) =
      ((b.feed (.text s)).1 ++ ((b.feed (.text s)).2.feed (.text t)).1,
        ((b.feed (.text s)).2.feed (.text t)).2) :=
  feedText_append b s t

theorem feedAll_cons (b : LineBuffer) (chunk : Chunk) (chunks : List Chunk) :
    b.feedAll (chunk :: chunks) =
      ((b.feed chunk).1 ++ ((b.feed chunk).2.feedAll chunks).1,
        ((b.feed chunk).2.feedAll chunks).2) :=
  rfl

/-- A stream in chunks of one kind is fed as a whole. -/
theorem feedAll_eq_feed_flatten {α : Type} (kind : List α → Chunk)
    (hnil : ∀ b : LineBuffer, b.IsSettled → b.feed (kind []) = ([], b))
    (happend : ∀ (b : LineBuffer) (xs ys : List α), b.feed (kind (xs ++ ys)) =
      ((b.feed (kind xs)).1 ++ ((b.feed (kind xs)).2.feed (kind ys)).1,
        ((b.feed (kind xs)).2.feed (kind ys)).2))
    {b : LineBuffer} (hb : b.IsSettled) (chunks : List (List α)) :
    b.feedAll (chunks.map kind) = b.feed (kind chunks.flatten) := by
  induction chunks generalizing b with
  | nil => exact (hnil b hb).symm
  | cons chunk chunks ih =>
    rw [List.map_cons, feedAll_cons, List.flatten_cons, happend,
      ih (isSettled_feed b (kind chunk))]

theorem feedText_nil {b : LineBuffer} (hb : b.IsSettled) : b.feedText [] = ([], b) := by
  rw [feedText, List.append_nil, hb]

theorem feedAll_bytes {b : LineBuffer} (hb : b.IsSettled) (chunks : List (List UInt8)) :
    b.feedAll (chunks.map .bytes) = b.feed (.bytes chunks.flatten) :=
  feedAll_eq_feed_flatten .bytes (fun _ h => feedText_nil h) feed_bytes_append hb chunks

/-- The cut is between the two characters of a line end. -/
example : ({ limit := 3 } : LineBuffer).feedAll
    [.bytes [0x61, 0x62, 0x0d], .bytes [0x0a, 0x63, 0x64, 0x65, 0x66]] =
      (["ab".toList, "cde".toList], { limit := 3, pending := "f".toList }) := by
  decide +kernel

theorem feedAll_text {b : LineBuffer} (hb : b.IsSettled) (chunks : List Text) :
    b.feedAll (chunks.map .text) = b.feed (.text chunks.flatten) :=
  feedAll_eq_feed_flatten .text (fun _ h => feedText_nil h) feed_text_append hb chunks

/-! ### The lines of a finished stream -/

theorem feed_bytes_flush (limit : Nat) (bytes : List UInt8) :
    (({ limit } : LineBuffer).feed (.bytes bytes)).1 ++
        (({ limit } : LineBuffer).feed (.bytes bytes)).2.flush.1 =
      outputLines limit (Utf8.decode bytes) := by
  simp only [feed, feedText, flush, Utf8.decode, List.map_append, List.nil_append]
  exact (outputLines_append limit _ _).symm

theorem feed_text_flush (limit : Nat) (t : Text) :
    (({ limit } : LineBuffer).feed (.text t)).1 ++
        (({ limit } : LineBuffer).feed (.text t)).2.flush.1 =
      outputLines limit t := by
  have h := outputLines_append limit t []
  rw [List.append_nil, List.append_nil] at h
  simp only [feed, feedText, flush, Utf8.Decoder.finish, List.map_nil, List.append_nil,
    List.nil_append, h]

/-! ### Flush and clear -/

inductive Use where
  | feed (chunk : Chunk)
  | flush
  | clear

def use (b : LineBuffer) : Use → LineBuffer
  | .feed chunk => (b.feed chunk).2
  | .flush => b.flush.2
  | .clear => b.clear

theorem limit_use (b : LineBuffer) (u : Use) : (b.use u).limit = b.limit := by
  cases u with
  | feed chunk => cases chunk <;> rfl
  | flush => rfl
  | clear => rfl

theorem limit_foldl_use (b : LineBuffer) (uses : List Use) :
    (uses.foldl use b).limit = b.limit := by
  induction uses generalizing b with
  | nil => rfl
  | cons u uses ih => rw [List.foldl_cons, ih, limit_use]

/-- Where a stream is cut into chunks shows neither in the lines that are handed out nor in what is
left, and the lines of all chunks and of a flush after them are the lines of the finished stream. A
buffer that was flushed or cleared, whatever was done with it before, is a new one. -/
theorem chunking_irrelevant (limit : Nat) :
    (∀ chunks : List (List UInt8),
      let chunked := ({ limit } : LineBuffer).feedAll (chunks.map .bytes)
      let whole := ({ limit } : LineBuffer).feed (.bytes chunks.flatten)
      chunked = whole ∧
        chunked.1 ++ chunked.2.flush.1 = outputLines limit (Utf8.readWhole chunks.flatten)) ∧
    (∀ chunks : List Text,
      let chunked := ({ limit } : LineBuffer).feedAll (chunks.map .text)
      let whole := ({ limit } : LineBuffer).feed (.text chunks.flatten)
      chunked = whole ∧ chunked.1 ++ chunked.2.flush.1 = outputLines limit chunks.flatten) ∧
    ∀ uses : List Use,
      (uses.foldl use { limit }).flush.2 = { limit } ∧
        (uses.foldl use { limit }).clear = { limit } := by
  refine ⟨fun chunks => ?_, fun chunks => ?_, fun uses => ?_⟩
  · simp only [feedAll_bytes (isSettled_new limit)]
    exact ⟨trivial, by rw [feed_bytes_flush, Utf8.decode_eq_readWhole]⟩
  · simp only [feedAll_text (isSettled_new limit)]
    exact ⟨trivial, feed_text_flush limit _⟩
  · simp only [flush, clear, limit_foldl_use, and_self]

end LineBuffer

end ScriptRun
