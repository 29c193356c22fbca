import Mathlib.Data.List.Induction
import ScriptRun.Status.Table

/-!
# What a table holds after updates

A record is offered to a table, which takes it unless it would bring back a command that has ended.
`get?_offered` tells the record of an index after any offers from the offers alone: the last one
that ends the command, or the last of all if none does. Since the records stand in the order of
their indices, a table is known when the record of every index is, so that offers for different
commands may come in any order (`offered_eq_of_filter_eq`).
-/

namespace ScriptRun.Status

namespace Table

/-! ### Records in the order of their indices -/

def Ascending (records : List Record) : Prop := records.Pairwise (·.index < ·.index)

theorem find?_insert (new : Record) (records : List Record) (index : Nat) :
    find? index (insert new records) =
      if new.index = index then some new else find? index records := by
  induction records with
  | nil => simp only [insert, find?]
  | cons r rest ih =>
    rw [insert]
    split
    · rw [find?]
    · split
      · rename_i hsame
        rw [find?, find?, ← hsame]
        split
        · rfl
        · rfl
      · rename_i hother
        rw [find?, find?, ih]
        split
        · rename_i hr
          rw [if_neg (by omega)]
        · rfl

theorem mem_insert {new r : Record} {records : List Record} (h : r ∈ insert new records) :
    r = new ∨ r ∈ records := by
  induction records with
  | nil => simpa [insert] using h
  | cons first rest ih =>
    rw [insert] at h
    split at h
    · exact List.mem_cons.1 h
    · split at h
      · exact (List.mem_cons.1 h).imp_right (List.mem_cons_of_mem first)
      · rcases List.mem_cons.1 h with rfl | hrest
        · exact Or.inr List.mem_cons_self
        · exact (ih hrest).imp_right (List.mem_cons_of_mem first)

theorem ascending_insert {records : List Record} (h : Ascending records) (new : Record) :
    Ascending (insert new records) := by
  induction records with
  | nil => exact List.pairwise_singleton _ new
  | cons first rest ih =>
    obtain ⟨hfirst, hrest⟩ := List.pairwise_cons.1 h
    rw [insert]
    split
    · rename_i hlt
      refine List.pairwise_cons.2 ⟨fun r hr => ?_, h⟩
      rcases List.mem_cons.1 hr with rfl | hmore
      · exact hlt
      · exact Nat.lt_trans hlt (hfirst r hmore)
    · split
      · rename_i hsame
        exact List.pairwise_cons.2 ⟨fun r hr => hsame ▸ hfirst r hr, hrest⟩
      · refine List.pairwise_cons.2 ⟨fun r hr => ?_, ih hrest⟩
        rcases mem_insert hr with rfl | hmore
        · omega
        · exact hfirst r hmore

theorem find?_eq_none_of_lt {records : List Record} {index : Nat}
    (h : ∀ r ∈ records, index < r.index) : find? index records = none := by
  induction records with
  | nil => rfl
  | cons first rest ih =>
    have hfirst := h first List.mem_cons_self
    rw [find?, if_neg (by omega), ih fun r hr => h r (List.mem_cons_of_mem first hr)]

theorem head_le_of_find? {r found : Record} {rest : List Record} {index : Nat}
    (h : Ascending (r :: rest)) (hfind : find? index (r :: rest) = some found) :
    r.index ≤ index := by
  by_contra hlt
  have hnone : find? index (r :: rest) = none := by
    refine find?_eq_none_of_lt fun other hother => ?_
    rcases List.mem_cons.1 hother with rfl | hin
    · omega
    · have := (List.pairwise_cons.1 h).1 other hin
      omega
  rw [hnone] at hfind
  exact absurd hfind (by simp)

theorem find?_head (r : Record) (rest : List Record) : find? r.index (r :: rest) = some r :=
  if_pos rfl

/-- Records in the order of their indices are known when the record of every index is. -/
theorem Ascending.ext {records others : List Record} (h : Ascending records)
    (h' : Ascending others) (hfind : ∀ index, find? index records = find? index others) :
    records = others := by
  induction records generalizing others with
  | nil =>
    cases others with
    | nil => rfl
    | cons other rest =>
      have := hfind other.index
      rw [find?_head] at this
      exact absurd this (by simp [find?])
  | cons first rest ih =>
    cases others with
    | nil =>
      have := hfind first.index
      rw [find?_head] at this
      exact absurd this (by simp [find?])
    | cons other more =>
      have hindex : first.index = other.index :=
        Nat.le_antisymm (head_le_of_find? h ((hfind other.index).trans (find?_head other more)))
          (head_le_of_find? h' ((hfind first.index).symm.trans (find?_head first rest)))
      have hsame : first = other := by
        have := hfind first.index
        rw [find?_head, hindex, find?_head] at this
        exact Option.some.inj this
      subst hsame
      obtain ⟨hrest, hascending⟩ := List.pairwise_cons.1 h
      obtain ⟨hmore, hascending'⟩ := List.pairwise_cons.1 h'
      congr 1
      refine ih hascending hascending' fun index => ?_
      by_cases hi : first.index = index
      · subst hi
        rw [find?_eq_none_of_lt hrest, find?_eq_none_of_lt hmore]
      · have := hfind index
        rwa [find?, find?, if_neg hi, if_neg hi] at this

/-! ### Offers -/

/-- The table after a record was offered to it. -/
def offer (t : Table) (r : Record) : Table := (t.apply r.index r.state r.message r.durationMs).2

def offered (t : Table) (rs : List Record) : Table := rs.foldl offer t

/-- What records of one command say together: the last one that ends it, or else the last one. -/
def lastWord (rs : List Record) : Option Record :=
  ((rs.filter fun r => r.state.isTerminal).getLast?).or rs.getLast?

def about (index : Nat) (rs : List Record) : List Record := rs.filter fun r => r.index = index

theorem get?_natCast (t : Table) (index : Nat) : t.get? index = find? index t.records := by
  simp [get?]

theorem offer_eq (t : Table) (r : Record) :
    t.offer r =
      if (t.get? r.index).any (·.state.isTerminal) && !r.state.isTerminal then t
      else { t with records := insert r t.records } := by
  have hadmits : t.admits r.index r.state =
      !((t.get? r.index).any (·.state.isTerminal) && !r.state.isTerminal) := by
    rw [admits, stateOf?]
    cases t.get? r.index with
    | none => simp
    | some old => simp
  rw [offer, apply, hadmits]
  by_cases h : ((t.get? r.index).any (·.state.isTerminal) && !r.state.isTerminal) = true
  · simp only [h, Bool.not_true, Bool.false_eq_true, if_false, if_true]
  · simp only [h, Bool.not_false, Bool.false_eq_true, if_false, if_true, Int.toNat_natCast]

@[simp] theorem file_offer (t : Table) (r : Record) : (t.offer r).file = t.file := by
  rw [offer_eq]
  split <;> rfl

theorem get?_offer (t : Table) (r : Record) (index : Nat) :
    (t.offer r).get? index =
      if r.index = index then
        if (t.get? index).any (·.state.isTerminal) && !r.state.isTerminal then t.get? index
        else some r
      else t.get? index := by
  rw [offer_eq]
  by_cases hindex : r.index = index
  · subst hindex
    rw [if_pos rfl]
    split
    · rfl
    · rw [get?_natCast, find?_insert, if_pos rfl]
  · rw [if_neg hindex]
    split
    · rfl
    · rw [get?_natCast, get?_natCast, find?_insert, if_neg hindex]

theorem lastWord_append_singleton (rs : List Record) (r : Record) :
    lastWord (rs ++ [r]) =
      if (lastWord rs).any (·.state.isTerminal) && !r.state.isTerminal then lastWord rs
      else some r := by
  unfold lastWord
  rw [List.filter_append]
  by_cases hr : r.state.isTerminal = true
  · have hone : [r].filter (fun r => r.state.isTerminal) = [r] := by simp [hr]
    rw [hone, hr]
    simp
  · have hone : [r].filter (fun r => r.state.isTerminal) = [] := by simp [hr]
    rw [hone, eq_false_of_ne_true hr]
    simp only [List.append_nil, List.getLast?_append, List.getLast?_singleton, Option.some_or,
      Bool.not_false, Bool.and_true]
    cases hended : (rs.filter fun r => r.state.isTerminal).getLast? with
    | some last =>
      have hlast : last.state.isTerminal = true :=
        (List.mem_filter.1 (List.mem_of_getLast? hended)).2
      simp [hlast]
    | none =>
      -- no record ends the command, so neither does the last one
      have hnone : rs.filter (fun r => r.state.isTerminal) = [] :=
        List.getLast?_eq_none_iff.1 hended
      have hopen : rs.getLast?.any (·.state.isTerminal) = false := by
        cases hlast : rs.getLast? with
        | none => rfl
        | some last =>
          have := List.filter_eq_nil_iff.1 hnone last (List.mem_of_getLast? hlast)
          simpa using this
      simp [hopen]

theorem lastWord_eq_none_iff {rs : List Record} : lastWord rs = none ↔ rs = [] := by
  unfold lastWord
  rw [Option.or_eq_none_iff, List.getLast?_eq_none_iff, List.getLast?_eq_none_iff]
  refine ⟨fun h => h.2, fun h => ?_⟩
  subst h
  exact ⟨rfl, rfl⟩

theorem about_append (index : Nat) (rs more : List Record) :
    about index (rs ++ more) = about index rs ++ about index more :=
  List.filter_append ..

/-- The record of an index after any offers: what the offers about it say together. -/
theorem get?_offered (file : Text) (rs : List Record) (index : Nat) :
    (({ file } : Table).offered rs).get? index = lastWord (about index rs) := by
  induction rs using List.reverseRecOn with
  | nil => rfl
  | append_singleton rs r ih =>
    rw [offered, List.foldl_append, List.foldl_cons, List.foldl_nil, ← offered, get?_offer, ih]
    unfold about
    rw [List.filter_append]
    by_cases hindex : r.index = index
    · rw [if_pos hindex, List.filter_cons_of_pos (by simpa using hindex), List.filter_nil,
        lastWord_append_singleton]
    · rw [if_neg hindex, List.filter_cons_of_neg (by simpa using hindex), List.filter_nil,
        List.append_nil]

theorem file_offered (t : Table) (rs : List Record) : (t.offered rs).file = t.file := by
  induction rs generalizing t with
  | nil => rfl
  | cons r rs ih => rw [offered, List.foldl_cons, ← offered, ih, file_offer]

theorem ascending_offered {t : Table} (h : Ascending t.records) (rs : List Record) :
    Ascending (t.offered rs).records := by
  induction rs generalizing t with
  | nil => exact h
  | cons r rs ih =>
    refine ih ?_
    rw [offer_eq]
    split
    · exact h
    · exact ascending_insert h r

/-- Offers for different commands may come in any order. -/
theorem offered_eq_of_filter_eq (file : Text) {rs others : List Record}
    (h : ∀ index, lastWord (about index rs) = lastWord (about index others)) :
    ({ file } : Table).offered rs = ({ file } : Table).offered others := by
  have hrecords : (({ file } : Table).offered rs).records =
      (({ file } : Table).offered others).records := by
    have hnil : Ascending ({ file } : Table).records := List.Pairwise.nil
    refine Ascending.ext (ascending_offered hnil rs) (ascending_offered hnil others) fun index => ?_
    have hrs := get?_offered file rs index
    have hothers := get?_offered file others index
    rw [get?_natCast] at hrs hothers
    rw [hrs, hothers, h index]
  have hfile := (file_offered { file } rs).trans (file_offered { file } others).symm
  cases hr : ({ file } : Table).offered rs
  cases ho : ({ file } : Table).offered others
  simp only [hr, ho] at hrecords hfile
  rw [hrecords, hfile]

end Table

end ScriptRun.Status
