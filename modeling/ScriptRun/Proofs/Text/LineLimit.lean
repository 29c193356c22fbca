import ScriptRun.Proofs.Text.Lines
import ScriptRun.Text.LineBuffer

/-!
# No line is longer than the limit

Whatever is handed out, a finished line, a piece of one that goes on or what is left at the end, has
been cut to the limit.
-/

namespace ScriptRun

namespace Text

theorem length_le_of_mem_overflow {size : Nat} {line piece : Text}
    (h : piece ∈ (overflow size line).1) : piece.length ≤ size := by
  fun_induction overflow size line with
  | case1 line _ => exact absurd h List.not_mem_nil
  | case2 line _ more ih =>
    rcases List.mem_cons.1 h with rfl | hrest
    · exact List.length_take_le size line
    · exact ih hrest

theorem length_le_of_mem_handOut {limit : Nat} (hlimit : limit ≠ 0) {parts : List Text}
    {line : Text} (h : line ∈ (handOut limit parts).1) : line.length ≤ limit := by
  fun_induction handOut limit parts with
  | case1 => exact absurd h List.not_mem_nil
  | case2 last => exact length_le_of_mem_overflow h
  | case3 first parts hparts more ih =>
    rcases List.mem_append.1 h with hpiece | hrest
    · exact length_le_of_mem_pieces hlimit hpiece
    · exact ih hrest

end Text

namespace LineBuffer

open Text

theorem length_le_of_mem_feed {b : LineBuffer} (hlimit : b.limit ≠ 0) {chunk : Chunk} {line : Text}
    (h : line ∈ (b.feed chunk).1) : line.length ≤ b.limit := by
  cases chunk with
  | bytes bytes => exact length_le_of_mem_handOut hlimit h
  | text t => exact length_le_of_mem_handOut hlimit h

theorem length_le_of_mem_flush {b : LineBuffer} (hlimit : b.limit ≠ 0) {line : Text}
    (h : line ∈ b.flush.1) : line.length ≤ b.limit := by
  obtain ⟨part, -, hpart⟩ := List.mem_flatMap.1 h
  exact length_le_of_mem_pieces hlimit hpart

theorem limit_feed (b : LineBuffer) (chunk : Chunk) : (b.feed chunk).2.limit = b.limit := by
  cases chunk <;> rfl

end LineBuffer

end ScriptRun
