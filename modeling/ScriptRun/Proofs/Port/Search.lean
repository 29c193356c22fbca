import Mathlib.Data.Int.Range
import Mathlib.Data.Set.Basic
import Mathlib.Order.Bounds.Basic
import ScriptRun.Port.Search

/-!
# The least free port

A scan tries ports in order and stops at the first that is free, so it has tried all ports from the
first on up to the one that it found, or all of the range if it found none. With the range cut at
the highest port, the port that is found is the least free one of the range
(`findFree_least`).
-/

namespace ScriptRun.Port

theorem range_cons {first last : Int} (h : first < last) :
    Int.range first last = first :: Int.range (first + 1) last := by
  obtain ⟨count, hcount⟩ : ∃ count : Nat, (last - first).toNat = count + 1 :=
    ⟨(last - first - 1).toNat, by omega⟩
  have hrest : (last - (first + 1)).toNat = count := by omega
  rw [Int.range, Int.range, hcount, hrest, List.range_succ_eq_map, List.map_cons, List.map_map]
  refine congrArg₂ List.cons (add_zero first) (List.map_congr_left fun k _ => ?_)
  rw [Function.comp_apply, Int.natCast_succ]
  omega

theorem range_of_le {first last : Int} (h : last ≤ first) : Int.range first last = [] := by
  rw [Int.range, Int.toNat_eq_zero.2 (by omega)]
  rfl

variable (isFree : Int → Bool)

/-- The free ports from one to another, both included. -/
def freePorts (first last : Int) : Set Int := {p | first ≤ p ∧ p ≤ last ∧ isFree p = true}

/-- How a scan of the ports from one to another ends: at the least of them that is free, or after
all of them. -/
inductive Scanned (first last : Int) : Option Int × List Int → Prop
  | found {p : Int} (h : IsLeast (freePorts isFree first last) p) :
      Scanned first last (some p, Int.range first (p + 1))
  | none (h : freePorts isFree first last = ∅) :
      Scanned first last (none, Int.range first (last + 1))

variable {isFree}

theorem freePorts_eq_empty_iff {first last : Int} :
    freePorts isFree first last = ∅ ↔ ∀ p, first ≤ p → p ≤ last → isFree p = false := by
  rw [Set.eq_empty_iff_forall_notMem]
  refine forall_congr' fun p => ?_
  rw [freePorts, Set.mem_ofPred_eq, not_and, not_and, Bool.not_eq_true]

/-- A port that is not free may stand in front. -/
theorem Scanned.cons {first last : Int} {found : Option Int} {tried : List Int}
    (h : Scanned isFree (first + 1) last (found, tried)) (htaken : isFree first = false)
    (hlast : first ≤ last) : Scanned isFree first last (found, first :: tried) := by
  have hports : freePorts isFree first last = freePorts isFree (first + 1) last := by
    ext p
    refine ⟨fun ⟨hfirst, hp, hfree⟩ => ⟨?_, hp, hfree⟩, fun ⟨hfirst, hp⟩ => ⟨by omega, hp⟩⟩
    have hne : p ≠ first := by
      rintro rfl
      rw [htaken] at hfree
      cases hfree
    omega
  cases h with
  | @found p hleast =>
    have hp := hleast.1.1
    rw [← range_cons (by omega)]
    exact .found (hports ▸ hleast)
  | none hempty =>
    rw [← range_cons (by omega)]
    exact .none (hports ▸ hempty)

theorem scanned_scan (isFree : Int → Bool) (first : Int) (count : Nat) :
    Scanned isFree first (first + count - 1) (scan isFree first count) := by
  induction count generalizing first with
  | zero =>
    rw [scan, ← range_of_le (show first + (0 : Nat) - 1 + 1 ≤ first by simp)]
    refine .none (freePorts_eq_empty_iff.2 fun p hfirst hlast => ?_)
    omega
  | succ count ih =>
    rw [scan]
    split
    · next hfree =>
      have hleast : IsLeast (freePorts isFree first (first + (count + 1 : Nat) - 1)) first :=
        ⟨⟨le_rfl, by omega, hfree⟩, fun p hp => hp.1⟩
      have htried : [first] = Int.range first (first + 1) := by
        rw [range_cons (by omega), range_of_le le_rfl]
      rw [htried]
      exact .found hleast
    · next htaken =>
      have hrest := ih (first + 1)
      rw [show first + 1 + (count : Int) - 1 = first + (count + 1 : Nat) - 1 by omega] at hrest
      exact hrest.cons (Bool.eq_false_of_not_eq_true htaken) (by omega)

section Search

variable (isFree) {first final : Int} {last : Option Int}

theorem findFree_of_invalid (hfinal : last.getD (first + span) = final)
    (h : ¬((1 ≤ first ∧ first ≤ highest) ∧ first ≤ final)) :
    findFree isFree first last = (.error (.invalidRange first final), []) := by
  have hrange : first ≤ 0 ∨ highest < first ∨ final < first := by omega
  rw [findFree, hfinal]
  exact if_pos hrange

theorem findFree_of_valid (hfinal : last.getD (first + span) = final)
    (h : (1 ≤ first ∧ first ≤ highest) ∧ first ≤ final) :
    (∃ p, IsLeast (freePorts isFree first (min final highest)) p ∧
      findFree isFree first last = (.ok p, Int.range first (p + 1))) ∨
    (freePorts isFree first (min final highest) = ∅ ∧ findFree isFree first last =
      (.error (.noneFree first final), Int.range first (min final highest + 1))) := by
  have hrange : ¬(first ≤ 0 ∨ highest < first ∨ final < first) := by omega
  have hscanned := scanned_scan isFree first (min final highest - first + 1).toNat
  rw [show first + ((min final highest - first + 1).toNat : Int) - 1 = min final highest by omega]
    at hscanned
  simp only [findFree, hfinal, if_neg hrange]
  generalize scan isFree first (min final highest - first + 1).toNat = answer at hscanned
  cases hscanned with
  | found hleast => exact .inl ⟨_, hleast, rfl⟩
  | none hempty => exact .inr ⟨hempty, rfl⟩

end Search

/-- The search gives the least free port of its range, cut at the highest port, and fails only if
the range is none of ports or holds no free one. It tries the ports of the range in order and once
each, up to the one that it gives, and none of a range that it refuses. -/
theorem findFree_least (isFree : Int → Bool) (first : Int) (last : Option Int) :
    let final := last.getD (first + 100)
    let top := min final 65535
    let valid := (1 ≤ first ∧ first ≤ 65535) ∧ first ≤ final
    let found := (findFree isFree first last).1
    let tried := (findFree isFree first last).2
    ((∃ low high, found = .error (.invalidRange low high)) ↔ ¬valid) ∧
    (∀ p, found = .ok p ↔ valid ∧ IsLeast (freePorts isFree first top) p) ∧
    ((∃ low high, found = .error (.noneFree low high)) ↔
      valid ∧ ∀ p, first ≤ p → p ≤ top → isFree p = false) ∧
    tried = (match found with
      | .ok p => Int.range first (p + 1)
      | .error (.invalidRange ..) => []
      | .error (.noneFree ..) => Int.range first (top + 1)) ∧
    ∀ p ∈ tried, first ≤ p ∧ p ≤ 65535 := by
  intro final top valid found tried
  by_cases hvalid : valid
  · have hfinal : last.getD (first + span) = final := rfl
    have htop : min final highest = top := rfl
    rcases htop ▸ findFree_of_valid isFree hfinal hvalid with ⟨p, hleast, h⟩ | ⟨hempty, h⟩
    · have hfound : found = .ok p := congrArg Prod.fst h
      have htried : tried = Int.range first (p + 1) := congrArg Prod.snd h
      rw [hfound, htried]
      refine ⟨by simp [hvalid], fun q => ?_, ?_, rfl, fun q hq => ?_⟩
      · constructor
        · rintro ⟨⟩
          exact ⟨hvalid, hleast⟩
        · rintro ⟨-, hq⟩
          rw [hleast.unique hq]
      · refine iff_of_false (by simp) fun ⟨_, htaken⟩ => ?_
        obtain ⟨hfirst, htop, hfree⟩ := hleast.1
        rw [htaken p hfirst htop] at hfree
        cases hfree
      · have hp : p ≤ top := hleast.1.2.1
        have hq := Int.mem_range_iff.1 hq
        omega
    · have hfound : found = .error (.noneFree first final) := congrArg Prod.fst h
      have htried : tried = Int.range first (top + 1) := congrArg Prod.snd h
      rw [hfound, htried]
      refine ⟨by simp [hvalid], fun q => ?_, ?_, rfl, fun q hq => ?_⟩
      · refine iff_of_false (by simp) fun ⟨_, hleast⟩ => ?_
        exact Set.eq_empty_iff_forall_notMem.1 hempty q hleast.1
      · exact iff_of_true ⟨_, _, rfl⟩ ⟨hvalid, freePorts_eq_empty_iff.1 hempty⟩
      · have hq := Int.mem_range_iff.1 hq
        omega
  · have h := findFree_of_invalid isFree rfl hvalid
    have hfound : found = .error (.invalidRange first final) := congrArg Prod.fst h
    have htried : tried = [] := congrArg Prod.snd h
    rw [hfound, htried]
    simp [hvalid]

/-- At the highest port the range ends. -/
example : findFree (fun p => p = 65535) 65533 none = (.ok 65535, [65533, 65534, 65535]) := by
  decide

end ScriptRun.Port
