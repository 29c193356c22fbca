import ScriptRun.Proofs.Status.Table

/-!
# The history of a table

Updates that are made one after the other are each accepted or refused. The tables right after the
accepted ones are the history of the table: neighbours differ in one index at most, a command that
has ended in one of them has ended in all later ones, and the last of them is the table that the
updates leave.
-/

namespace ScriptRun.Status

namespace Table

/-- The answers to updates that are made in order, each with the table after it. -/
def updates (t : Table) : List Record → List (Bool × Table)
  | [] => []
  | r :: rs =>
    let (accepted, t) := t.apply r.index r.state r.message r.durationMs
    (accepted, t) :: t.updates rs

/-- The tables right after the accepted ones of some updates. -/
def history (t : Table) (rs : List Record) : List Table :=
  ((t.updates rs).filter (·.1)).map (·.2)

/-- Whether the command with an index has passed or failed. -/
def hasEnded (t : Table) (index : Int) : Bool := (t.stateOf? index).any (·.isTerminal)

/-- Two tables that differ in one index at most. -/
def DiffersInOne (t later : Table) : Prop :=
  ∃ index : Int, ∀ other, other ≠ index → later.get? other = t.get? other

theorem apply_eq (t : Table) (r : Record) :
    t.apply r.index r.state r.message r.durationMs = (t.admits r.index r.state, t.offer r) := by
  rw [offer, apply]
  split
  · rename_i h
    rw [h]
  · rename_i h
    rw [eq_false_of_ne_true h]

theorem offer_of_not_admits {t : Table} {r : Record} (h : t.admits r.index r.state = false) :
    t.offer r = t := by
  rw [offer, apply, h]
  rfl

theorem history_cons (t : Table) (r : Record) (rs : List Record) :
    t.history (r :: rs) =
      (if t.admits r.index r.state then [t.offer r] else []) ++ (t.offer r).history rs := by
  rw [history, updates, apply_eq]
  cases h : t.admits r.index r.state with
  | true => simp [history]
  | false => simp [history]

theorem history_append (t : Table) (rs more : List Record) :
    t.history (rs ++ more) = t.history rs ++ (t.offered rs).history more := by
  induction rs generalizing t with
  | nil => rfl
  | cons r rs ih =>
    rw [List.cons_append, history_cons, ih, history_cons, List.append_assoc]
    rfl

theorem get?_of_neg (t : Table) {index : Int} (h : index < 0) : t.get? index = none := by
  rw [get?, if_neg (by omega)]

theorem get?_offer_of_ne (t : Table) (r : Record) {index : Int} (h : index ≠ r.index) :
    (t.offer r).get? index = t.get? index := by
  by_cases hneg : index < 0
  · rw [get?_of_neg _ hneg, get?_of_neg _ hneg]
  · obtain ⟨n, rfl⟩ := Int.eq_ofNat_of_zero_le (Int.not_lt.1 hneg)
    rw [get?_offer, if_neg fun hsame => h (by rw [hsame])]

theorem hasEnded_offer {t : Table} {index : Int} (h : t.hasEnded index) (r : Record) :
    (t.offer r).hasEnded index := by
  by_cases hindex : index = r.index
  · subst hindex
    rw [hasEnded, stateOf?, Option.any_map] at h ⊢
    rw [get?_offer, if_pos rfl]
    split
    · exact h
    · rename_i hadmitted
      -- the record of a command that has ended gives way only to one that says so too
      rw [Bool.and_eq_true, not_and, Bool.not_eq_true, Bool.not_eq_false'] at hadmitted
      exact hadmitted h
  · rwa [hasEnded, stateOf?, get?_offer_of_ne t r hindex]

theorem hasEnded_of_mem_history {t later : Table} {rs : List Record} (h : later ∈ t.history rs)
    {index : Int} (hended : t.hasEnded index) : later.hasEnded index := by
  induction rs generalizing t with
  | nil => exact absurd h List.not_mem_nil
  | cons r rs ih =>
    have hoffer := hasEnded_offer hended r
    rw [history_cons] at h
    rcases List.mem_append.1 h with hfirst | hrest
    · split at hfirst
      · rwa [List.mem_singleton.1 hfirst]
      · exact absurd hfirst List.not_mem_nil
    · exact ih hrest hoffer

/-- A command that has ended stays so. -/
theorem history_pairwise_hasEnded (t : Table) (rs : List Record) :
    (t.history rs).Pairwise fun earlier later =>
      ∀ index, earlier.hasEnded index → later.hasEnded index := by
  induction rs generalizing t with
  | nil => exact List.Pairwise.nil
  | cons r rs ih =>
    rw [history_cons]
    split
    · exact List.pairwise_cons.2
        ⟨fun later hlater index hended => hasEnded_of_mem_history hlater hended, ih _⟩
    · exact ih _

/-- One update changes the record of one index. -/
theorem isChain_history (t : Table) (rs : List Record) :
    (t :: t.history rs).IsChain DiffersInOne := by
  induction rs generalizing t with
  | nil => exact List.IsChain.singleton t
  | cons r rs ih =>
    rw [history_cons]
    cases h : t.admits r.index r.state with
    | true =>
      have hone : t.DiffersInOne (t.offer r) := ⟨r.index, fun other => get?_offer_of_ne t r⟩
      exact List.IsChain.cons_cons hone (ih (t.offer r))
    | false =>
      rw [offer_of_not_admits h]
      exact ih t

theorem getLast?_history (t : Table) (rs : List Record) :
    (t :: t.history rs).getLast? = some (t.offered rs) := by
  induction rs generalizing t with
  | nil => rfl
  | cons r rs ih =>
    have hrest : t.offered (r :: rs) = (t.offer r).offered rs := rfl
    rw [history_cons, hrest, ← ih (t.offer r)]
    cases h : t.admits r.index r.state with
    | true => exact List.getLast?_cons_cons
    | false =>
      rw [offer_of_not_admits h]
      rfl

end Table

end ScriptRun.Status
