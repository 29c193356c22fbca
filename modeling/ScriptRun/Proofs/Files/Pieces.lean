import Mathlib.Tactic.Common
import ScriptRun.Files.Reading

/-!
# Files of one block

A file of no more bytes than a block is fetched at once, and if its text is shorter than a piece,
the text is the only piece.
-/

namespace ScriptRun.Files

open Text

namespace Reading

theorem take_fetchSize {bytes : List UInt8} (h : bytes.length ≤ blockSize) (density : Float)
    (wanted : Nat) : bytes.take (fetchSize density wanted) = bytes :=
  List.take_of_length_le (Nat.le_trans h (Nat.le_max_left ..))

/-- Nothing is left to fetch, and the bytes so far end with a character. -/
structure AtEnd (r : Reading) : Prop where
  unread : r.unread = []
  decoding : r.decoding.decoder = .start
  waits : r.waits = false

theorem fetch_block {r : Reading} {t ready : Text} {decoding : Utf8.Partial} (wanted : Nat)
    (hne : r.unread ≠ []) (hshort : r.unread.length ≤ blockSize)
    (h : r.decoding.decode? r.unread = .ok (t, decoding)) (hwhole : decoding.decoder = .start)
    (hready : unified r.waits t = (ready, false)) :
    ∃ r' : Reading, r.fetch wanted = .ok (true, r') ∧ r'.AtEnd ∧ r'.ready = ready := by
  unfold fetch
  rw [take_fetchSize hshort]
  dsimp only
  rw [if_neg (by simpa using hne), h, List.drop_length]
  exact ⟨_, rfl, ⟨rfl, hwhole, congrArg Prod.snd hready⟩, congrArg Prod.fst hready⟩

theorem fetch_end {r : Reading} (h : r.AtEnd) (wanted : Nat) :
    ∃ r' : Reading, r.fetch wanted = .ok (false, r') ∧ r'.AtEnd ∧ r'.ready = [] := by
  unfold fetch
  rw [h.unread, take_fetchSize (Nat.zero_le _)]
  simp only [List.isEmpty_nil, if_true, Utf8.Partial.finish?, h.decoding, h.waits]
  exact ⟨_, rfl, ⟨rfl, h.decoding, rfl⟩, rfl⟩

theorem AtEnd.read {r : Reading} (h : r.AtEnd) (blocks : Nat) {wanted : Nat}
    (hready : r.ready.length < wanted) :
    ∃ r' : Reading, r.read (blocks + 1) wanted = .ok (r.ready, r') ∧ r'.AtEnd ∧ r'.ready = [] := by
  unfold Reading.read
  rw [List.take_of_length_le (Nat.le_of_lt hready)]
  dsimp only
  rw [if_neg (Nat.not_le.2 hready)]
  obtain ⟨r', hfetch, hend, hempty⟩ :=
    fetch_end (r := { r with ready := r.ready.drop wanted }) ⟨h.unread, h.decoding, h.waits⟩
      (wanted - r.ready.length)
  rw [hfetch]
  exact ⟨r', rfl, hend, hempty⟩

theorem AtEnd.pieces {r : Reading} (h : r.AtEnd) (hready : r.ready = []) {size : Nat}
    (hsize : 0 < size) (count : Nat) : pieces size (count + 1) r = ([], none) := by
  have hshort : r.ready.length < size := by rwa [hready]
  obtain ⟨r', hread, -⟩ := h.read (r.unread.length + 1) hshort
  rw [Reading.pieces, hread, hready]

end Reading

theorem textPieces_of_block {size : Nat} {bytes : List UInt8} {t ready : Text}
    {decoding : Utf8.Partial} (hne : bytes ≠ []) (hshort : bytes.length ≤ Reading.blockSize)
    (h : ({} : Utf8.Partial).decode? bytes = .ok (t, decoding)) (hwhole : decoding.decoder = .start)
    (hready : Reading.unified false t = (ready, false)) (hfull : ready ≠ [])
    (hsize : ready.length < size) : textPieces size bytes = ([ready], none) := by
  have hpos : 0 < size := Nat.zero_lt_of_lt hsize
  obtain ⟨fetched, hfetch, hend, hfetched⟩ :=
    Reading.fetch_block (r := { unread := bytes }) size hne hshort h hwhole hready
  obtain ⟨r, hrest, hend', hempty⟩ := hend.read bytes.length (by rwa [hfetched])
  have hread : Reading.read (bytes.length + 2) size { unread := bytes } = .ok (ready, r) := by
    rw [Reading.read, List.take_nil, List.drop_nil]
    simp only [List.length_nil, Nat.sub_zero, if_neg (Nat.not_le.2 hpos), hfetch]
    dsimp only [bind, Except.bind]
    rw [if_pos rfl, hrest, hfetched]
    rfl
  obtain ⟨count, hcount : bytes.length = count + 1⟩ :=
    Nat.exists_eq_succ_of_ne_zero (mt List.eq_nil_of_length_eq_zero hne)
  rw [textPieces, Reading.pieces, hread, hcount]
  cases ready with
  | nil => exact absurd rfl hfull
  | cons c rest =>
    exact congrArg (fun pieces => ((c :: rest) :: pieces.1, pieces.2))
      (hend'.pieces hempty hpos count)

end ScriptRun.Files
