import Mathlib
import ScriptRun.Proofs.Status.Updates

/-!
# What calls leave in a table

A call reports the state of a command by any integer. A negative one is refused, and all others are
offers, so that the record of an index can be told from the calls for it alone: the last of them that
ends the command, or the last of all if none does (`get?_called`). Two sequences that agree on this
for every index leave the same table (`called_eq_of_lastAbout`). That calls for different commands
commute and that repeating them changes nothing are cases of it.
-/

namespace ScriptRun.Status

/-- A report on a command, by any integer. -/
structure Call where
  index : Int
  state : CommandState
  message : Option Text := none
  durationMs : Option Int := none
  deriving DecidableEq, Repr

namespace Call

def record (c : Call) : Record := ⟨c.index.toNat, c.state, c.message, c.durationMs⟩

def about (index : Int) (calls : List Call) : List Call := calls.filter fun c => c.index = index

/-- The last call for an index that ends the command, or else the last one for it. -/
def lastAbout (index : Int) (calls : List Call) : Option Call :=
  (((about index calls).filter fun c => c.state.isTerminal).getLast?).or
    (about index calls).getLast?

def offer? (c : Call) : Option Record := if 0 ≤ c.index then some c.record else none

theorem about_append (index : Int) (calls more : List Call) :
    about index (calls ++ more) = about index calls ++ about index more :=
  List.filter_append ..

theorem lastAbout_eq_none_iff {index : Int} {calls : List Call} :
    lastAbout index calls = none ↔ ∀ c ∈ calls, c.index ≠ index := by
  rw [lastAbout, Option.or_eq_none_iff, List.getLast?_eq_none_iff, List.getLast?_eq_none_iff]
  constructor
  · rintro ⟨-, hnone⟩ c hc
    simpa using List.filter_eq_nil_iff.1 hnone c hc
  · intro h
    have hnone : about index calls = [] :=
      List.filter_eq_nil_iff.2 fun c hc => by simpa using h c hc
    rw [hnone]
    exact ⟨rfl, rfl⟩

/-- Calls that are repeated add nothing to what they say. -/
theorem lastAbout_append_self (index : Int) (calls : List Call) :
    lastAbout index (calls ++ calls) = lastAbout index calls := by
  simp only [lastAbout, about_append, List.filter_append, List.getLast?_append, Option.or_self]

theorem lastAbout_congr {index : Int} {calls others : List Call}
    (h : about index calls = about index others) :
    lastAbout index calls = lastAbout index others := by
  rw [lastAbout, lastAbout, h]

/-- The offers about an index are those of the calls for it. -/
theorem about_offers (index : Nat) (calls : List Call) :
    Table.about index (calls.filterMap offer?) = (about index calls).map record := by
  induction calls with
  | nil => rfl
  | cons c calls ih =>
    have hcons : about index (c :: calls) = about index [c] ++ about index calls :=
      about_append _ [c] calls
    rw [hcons, List.map_append, ← ih, ← List.singleton_append, List.filterMap_append,
      Table.about_append]
    congr 1
    by_cases hindex : c.index = index
    · have hoffer : c.offer? = some c.record := if_pos (by omega)
      have hrecord : c.record.index = index := by
        rw [record, hindex, Int.toNat_natCast]
      simp [about, Table.about, hindex, hoffer, hrecord]
    · have hother : ∀ r, c.offer? = some r → r.index ≠ index := by
        intro r hr
        unfold offer? at hr
        split at hr
        · rename_i hpos
          obtain rfl := Option.some.inj hr
          simp only [record]
          omega
        · exact absurd hr (by simp)
      cases hoffer : c.offer? with
      | none => simp [about, Table.about, hindex, hoffer]
      | some r => simp [about, Table.about, hindex, hoffer, hother r hoffer]

theorem lastWord_offers (index : Nat) (calls : List Call) :
    Table.lastWord (Table.about index (calls.filterMap offer?)) =
      (lastAbout index calls).map record := by
  have hstate : (fun r : Record => r.state.isTerminal) ∘ record = fun c => c.state.isTerminal := rfl
  rw [about_offers, Table.lastWord, lastAbout, List.filter_map, hstate, List.getLast?_map,
    List.getLast?_map, Option.map_or]

end Call

namespace Table

def call (t : Table) (c : Call) : Bool × Table :=
  t.apply c.index c.state c.message c.durationMs

def called (t : Table) (calls : List Call) : Table := calls.foldl (fun t c => (t.call c).2) t

theorem called_append (t : Table) (calls more : List Call) :
    t.called (calls ++ more) = (t.called calls).called more :=
  List.foldl_append

theorem call_eq (t : Table) (c : Call) :
    t.call c = (t.admits c.index c.state, c.offer?.elim t t.offer) := by
  by_cases hpos : 0 ≤ c.index
  · have hindex : c.index = c.record.index := (Int.toNat_of_nonneg hpos).symm
    have hoffer : c.offer? = some c.record := if_pos hpos
    rw [call, hoffer, hindex]
    exact t.apply_eq c.record
  · have hrefused : t.admits c.index c.state = false := by
      rw [admits, decide_eq_false hpos, Bool.false_and]
    have hoffer : c.offer? = none := if_neg hpos
    rw [call, apply, hrefused, hoffer]
    rfl

theorem called_eq_offered (t : Table) (calls : List Call) :
    t.called calls = t.offered (calls.filterMap Call.offer?) := by
  induction calls generalizing t with
  | nil => rfl
  | cons c calls ih =>
    rw [called, List.foldl_cons, ← called, ih, call_eq]
    cases hoffer : c.offer? with
    | none =>
      rw [List.filterMap_cons_none hoffer]
      rfl
    | some r =>
      rw [List.filterMap_cons_some hoffer]
      rfl

theorem get?_called (file : Text) (calls : List Call) (index : Int) :
    (({ file } : Table).called calls).get? index =
      if 0 ≤ index then (Call.lastAbout index calls).map Call.record else none := by
  rw [called_eq_offered]
  by_cases hpos : 0 ≤ index
  · obtain ⟨n, rfl⟩ := Int.eq_ofNat_of_zero_le hpos
    rw [if_pos hpos, get?_offered, Call.lastWord_offers]
  · rw [if_neg hpos, get?_of_neg _ (by omega)]

/-- Calls that say the same of every command leave the same table. -/
theorem called_eq_of_lastAbout (file : Text) {calls others : List Call}
    (h : ∀ index, Call.lastAbout index calls = Call.lastAbout index others) :
    ({ file } : Table).called calls = ({ file } : Table).called others := by
  rw [called_eq_offered, called_eq_offered]
  refine offered_eq_of_filter_eq file fun index => ?_
  rw [Call.lastWord_offers, Call.lastWord_offers, h]

theorem ascending_called (file : Text) (calls : List Call) :
    Ascending (({ file } : Table).called calls).records := by
  rw [called_eq_offered]
  have hnone : Ascending ({ file } : Table).records := List.Pairwise.nil
  exact ascending_offered hnone _

theorem admits_eq_false_iff {t : Table} {index : Int} {state : CommandState} :
    t.admits index state = false ↔
      index < 0 ∨ t.hasEnded index = true ∧ state.isTerminal = false := by
  rw [admits, hasEnded, Bool.and_eq_false_iff, decide_eq_false_iff_not, Int.not_le]
  cases t.stateOf? index with
  | none => simp
  | some old => simp

/-- A call that is refused changes nothing. -/
theorem call_of_refused {t : Table} {c : Call} (h : (t.call c).1 = false) : (t.call c).2 = t := by
  unfold call apply at h ⊢
  split at h
  · exact absurd h (by simp)
  · rename_i hrefused
    rw [if_neg hrefused]

theorem get?_call_of_ne (t : Table) (c : Call) {index : Int} (h : index ≠ c.index) :
    (t.call c).2.get? index = t.get? index := by
  rw [call_eq]
  cases hoffer : c.offer? with
  | none => rfl
  | some r =>
    unfold Call.offer? at hoffer
    split at hoffer
    · rename_i hpos
      obtain rfl := Option.some.inj hoffer
      have hindex : (c.record.index : Int) = c.index := Int.toNat_of_nonneg hpos
      exact get?_offer_of_ne t c.record (by rwa [hindex])
    · exact absurd hoffer (by simp)

theorem find?_of_mem {records : List Record} (h : Ascending records) {r : Record}
    (hr : r ∈ records) : find? r.index records = some r := by
  induction records with
  | nil => exact absurd hr List.not_mem_nil
  | cons first rest ih =>
    obtain ⟨hfirst, hrest⟩ := List.pairwise_cons.1 h
    rcases List.mem_cons.1 hr with rfl | hlater
    · exact find?_head r rest
    · have := hfirst r hlater
      rw [find?, if_neg (by omega), ih hrest hlater]

theorem mem_of_find? {records : List Record} {r : Record} {index : Nat}
    (h : find? index records = some r) : r ∈ records ∧ r.index = index := by
  induction records with
  | nil => exact absurd h (by simp [find?])
  | cons first rest ih =>
    rw [find?] at h
    split at h
    · rename_i hindex
      obtain rfl := Option.some.inj h
      exact ⟨List.mem_cons_self, hindex⟩
    · obtain ⟨hmem, hindex⟩ := ih h
      exact ⟨List.mem_cons_of_mem first hmem, hindex⟩

theorem sum_count (t : Table) : (CommandState.all.map t.count).sum = t.size := by
  unfold count size
  induction t.records with
  | nil => rfl
  | cons r rest ih =>
    simp only [CommandState.all, List.map_cons, List.map_nil, List.sum_cons, List.sum_nil,
      List.countP_cons, List.length_cons] at ih ⊢
    cases r.state <;> simp <;> omega

/-- A table is determined by the calls for each index alone: it has a record of every index that is
not negative and that a call has named, and it is that of the last call that has ended the command,
or of the last one if none has. A call is refused only for a negative index, or if it would bring
back a command that has ended, and changes nothing then; otherwise it changes the record of its index
only, so that calls for different commands commute. The records stand in the order of their indices,
and the same calls once more change nothing. -/
theorem called_determined (file : Text) (calls : List Call) :
    let t := ({ file } : Table).called calls
    (∀ index, t.contains index = true ↔ 0 ≤ index ∧ ∃ c ∈ calls, c.index = index) ∧
    (∀ index, t.get? index =
      if 0 ≤ index then (Call.lastAbout index calls).map Call.record else none) ∧
    (∀ c, ((t.call c).1 = false ↔
        c.index < 0 ∨ t.hasEnded c.index = true ∧ c.state.isTerminal = false) ∧
      ((t.call c).1 = false → (t.call c).2 = t) ∧
      ∀ index, index ≠ c.index → (t.call c).2.get? index = t.get? index) ∧
    (∀ c d, c.index ≠ d.index →
      ((t.call c).2.call d).1 = (t.call d).1 ∧
        ((t.call c).2.call d).2 = ((t.call d).2.call c).2) ∧
    t.records.Pairwise (·.index < ·.index) ∧
    (∀ r, r ∈ t.records ↔ t.get? r.index = some r) ∧
    (∀ index r, t.get? index = some r → r.index = index) ∧
    t.size = t.records.length ∧ (CommandState.all.map t.count).sum = t.size ∧
    t.called calls = t := by
  intro t
  have hget : ∀ index, t.get? index =
      if 0 ≤ index then (Call.lastAbout index calls).map Call.record else none :=
    get?_called file calls
  have hascending := ascending_called file calls
  refine ⟨fun index => ?_, hget, fun c => ⟨?_, ?_, ?_⟩, fun c d hne => ⟨?_, ?_⟩, hascending,
    fun r => ⟨?_, ?_⟩, fun index r h => ?_, rfl, t.sum_count, ?_⟩
  · rw [contains, hget]
    by_cases hpos : 0 ≤ index
    · rw [if_pos hpos, Option.isSome_map, Option.isSome_iff_ne_none, ne_eq,
        Call.lastAbout_eq_none_iff, and_iff_right hpos]
      simp
    · rw [if_neg hpos]
      exact iff_of_false Bool.false_ne_true fun h => hpos h.1
  · rw [call_eq]
    exact admits_eq_false_iff
  · exact call_of_refused
  · intro index hother
    exact get?_call_of_ne t c hother
  · have hsame : (t.call c).2.get? d.index = t.get? d.index := get?_call_of_ne t c (Ne.symm hne)
    rw [call_eq, call_eq t d]
    simp only [admits, stateOf?, hsame]
  · have hswap : t.called [c, d] = t.called [d, c] := by
      rw [← called_append, ← called_append]
      refine called_eq_of_lastAbout file fun index => Call.lastAbout_congr ?_
      rw [Call.about_append, Call.about_append]
      congr 1
      by_cases hc : c.index = index
      · have hd : d.index ≠ index := fun hd => hne (hc.trans hd.symm)
        simp [Call.about, hc, hd]
      · simp [Call.about, List.filter_cons, hc]
    exact hswap
  · intro hr
    rw [get?_natCast, find?_of_mem hascending hr]
  · intro h
    rw [get?_natCast] at h
    exact (mem_of_find? h).1
  · have hpos : 0 ≤ index := by
      by_contra hneg
      rw [hget, if_neg hneg] at h
      exact absurd h (by simp)
    obtain ⟨n, rfl⟩ := Int.eq_ofNat_of_zero_le hpos
    rw [get?_natCast] at h
    rw [(mem_of_find? h).2]
  · rw [← called_append]
    exact called_eq_of_lastAbout file fun index => Call.lastAbout_append_self index calls

end Table

end ScriptRun.Status
