import ScriptRun.Proofs.Text.Framing
import ScriptRun.Proofs.Text.LineLimit

/-!
# What a line buffer holds and hands out

What is handed out are parts of a text between its line ends, cut to the limit, so no line holds a
line end. What stays is the last of the parts, cut as well, with the carriage return that may still
belong to a line feed. However long a line without an end gets, no more than this is kept of it
(`tail_bounded`).
-/

namespace ScriptRun

namespace Text

/-- A line of streamed output: no line end is in it, and it is no longer than the limit. -/
structure IsShortLine (limit : Nat) (line : Text) : Prop where
  noFeed : '\n' ∉ line
  noReturn : '\r' ∉ line
  length_le : line.length ≤ limit

/-- What may stay of a stream: a short line, and a carriage return after it that waits. -/
def IsTail (limit : Nat) (t : Text) : Prop :=
  ∃ line, IsShortLine limit line ∧ (t = line ∨ t = line ++ ['\r'])

theorem isTail_nil (limit : Nat) : IsTail limit [] :=
  ⟨[], ⟨List.not_mem_nil, List.not_mem_nil, Nat.zero_le limit⟩, .inl rfl⟩

/-! ### Pieces are made of parts -/

theorem subset_of_mem_pieces {size : Nat} {line piece : Text} (h : piece ∈ pieces size line) :
    piece ⊆ line := by
  intro c hc
  rw [← flatten_pieces size line]
  exact List.mem_flatten_of_mem h hc

theorem subset_of_mem_overflow {size : Nat} {line piece : Text}
    (h : piece ∈ (overflow size line).1) : piece ⊆ line := by
  fun_induction overflow size line with
  | case1 line _ => exact absurd h List.not_mem_nil
  | case2 line _ more ih =>
    rcases List.mem_cons.1 h with rfl | hrest
    · exact List.take_subset size line
    · exact List.Subset.trans (ih hrest) (List.drop_subset size line)

theorem subset_of_mem_handOut {limit : Nat} {parts : List Text} {line : Text}
    (h : line ∈ (handOut limit parts).1) : ∃ part ∈ parts, line ⊆ part := by
  fun_induction handOut limit parts with
  | case1 => exact absurd h List.not_mem_nil
  | case2 last => exact ⟨last, List.mem_cons_self, subset_of_mem_overflow h⟩
  | case3 first parts hparts more ih =>
    rcases List.mem_append.1 h with hpiece | hrest
    · exact ⟨first, List.mem_cons_self, subset_of_mem_pieces hpiece⟩
    · obtain ⟨part, hpart, hsubset⟩ := ih hrest
      exact ⟨part, List.mem_cons_of_mem _ hpart, hsubset⟩

/-- What is cut from a part between line ends holds none. -/
theorem isShortLine_of_subset {limit : Nat} {t part line : Text}
    (hpart : part ∈ splitAt '\n' (unifyLineEnds t)) (hline : line ⊆ part)
    (hlength : line.length ≤ limit) : IsShortLine limit line where
  noFeed h := (mem_of_mem_splitAt hpart (hline h)).2 rfl
  noReturn h := return_not_mem_unifyLineEnds t (mem_of_mem_splitAt hpart (hline h)).1
  length_le := hlength

theorem isShortLine_of_mem_framed {limit : Nat} (hlimit : limit ≠ 0) {t line : Text}
    (h : line ∈ (framed limit t).1) : IsShortLine limit line := by
  obtain ⟨part, hpart, hsubset⟩ := subset_of_mem_handOut h
  exact isShortLine_of_subset hpart hsubset (length_le_of_mem_handOut hlimit h)

theorem isShortLine_of_mem_outputLines {limit : Nat} (hlimit : limit ≠ 0) {t line : Text}
    (h : line ∈ outputLines limit t) : IsShortLine limit line := by
  obtain ⟨part, hfinished, hline⟩ := List.mem_flatMap.1 h
  have hpart : part ∈ splitAt '\n' (unifyLineEnds t) := by
    split at hfinished
    · exact List.dropLast_subset _ hfinished
    · exact hfinished
  exact isShortLine_of_subset hpart (subset_of_mem_pieces hline)
    (length_le_of_mem_pieces hlimit hline)

theorem isTail_framed {limit : Nat} (hlimit : limit ≠ 0) (t : Text) :
    IsTail limit (framed limit t).2 := by
  obtain ⟨parts, last, rest, hframed, hrest, hreturn, hfeed, -⟩ := exists_parts limit t
  have hlength := (length_handOut_le limit (parts ++ [last])).resolve_right hlimit
  rw [← hrest] at hlength
  refine ⟨rest, ⟨hfeed, hreturn, hlength⟩, ?_⟩
  rw [hframed, heldReturn]
  split
  · exact .inr rfl
  · exact .inl (List.append_nil rest)

end Text

namespace LineBuffer

open Text

def handedOut (b : LineBuffer) : Use → List Text
  | .feed chunk => (b.feed chunk).1
  | .flush => b.flush.1
  | .clear => []

section Use

variable {b : LineBuffer} (hlimit : b.limit ≠ 0)

include hlimit

theorem isTail_feed (chunk : Chunk) : IsTail b.limit (b.feed chunk).2.pending := by
  cases chunk with
  | bytes bytes => exact isTail_framed hlimit _
  | text t => exact isTail_framed hlimit _

/-- No use leaves more than a tail, whatever was there before. -/
theorem isTail_use (u : Use) : IsTail b.limit (b.use u).pending := by
  cases u with
  | feed chunk => exact isTail_feed hlimit chunk
  | flush => exact isTail_nil b.limit
  | clear => exact isTail_nil b.limit

theorem isShortLine_of_mem_handedOut {u : Use} {line : Text} (h : line ∈ b.handedOut u) :
    IsShortLine b.limit line := by
  cases u with
  | feed chunk =>
    cases chunk with
    | bytes bytes => exact isShortLine_of_mem_framed hlimit h
    | text t => exact isShortLine_of_mem_framed hlimit h
  | flush => exact isShortLine_of_mem_outputLines hlimit h
  | clear => exact absurd h List.not_mem_nil

theorem isTail_foldl_use (hb : IsTail b.limit b.pending) (uses : List Use) :
    IsTail b.limit (uses.foldl use b).pending := by
  induction uses generalizing b with
  | nil => exact hb
  | cons u uses ih =>
    have hrest := ih (b := b.use u) (by rwa [limit_use]) (by rw [limit_use]; exact isTail_use hlimit u)
    rwa [limit_use] at hrest

end Use

/-- Whatever was done with a buffer, it holds a line without line ends that is no longer than the
limit, and perhaps a carriage return after it; and every line that it hands out next is such a line
too. Nothing is left after a flush or when the buffer is cleared. -/
theorem tail_bounded {limit : Nat} (hlimit : 1 ≤ limit) (uses : List Use) :
    let b := uses.foldl use { limit }
    IsTail limit b.pending ∧ (∀ u, ∀ line ∈ b.handedOut u, IsShortLine limit line) ∧
      b.flush.2.pending = [] ∧ b.clear.pending = [] := by
  intro b
  have hpositive : limit ≠ 0 := Nat.one_le_iff_ne_zero.1 hlimit
  have hb : b.limit = limit := limit_foldl_use { limit } uses
  have htail : IsTail limit b.pending :=
    isTail_foldl_use (b := { limit }) hpositive (isTail_nil limit) uses
  refine ⟨htail, fun u line hline => ?_, rfl, rfl⟩
  rw [← hb] at hpositive ⊢
  exact isShortLine_of_mem_handedOut hpositive hline

/-- A line end comes in two chunks of different kinds, and a line without an end outgrows the
limit. -/
theorem tail_bounded_mixed_chunks :
    let uses := [Use.feed (.bytes [0x61, 0x62, 0x0d]), .feed (.text "\ncdefg\r".toList)]
    let b := uses.foldl use { limit := 3 }
    b.pending = "fg\r".toList ∧ IsTail 3 b.pending ∧ b.handedOut .flush = ["fg".toList] ∧
      IsShortLine 3 "fg".toList := by
  intro uses b
  obtain ⟨htail, hlines, -⟩ := tail_bounded (show 1 ≤ 3 by decide) uses
  have hlast : b.handedOut .flush = ["fg".toList] := by decide +kernel
  refine ⟨by decide +kernel, htail, hlast, hlines .flush _ ?_⟩
  show _ ∈ b.handedOut .flush
  rw [hlast]
  exact List.mem_cons_self

end LineBuffer

end ScriptRun
