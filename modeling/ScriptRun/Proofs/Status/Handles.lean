import Mathlib
import ScriptRun.Status.Bus

/-!
# What handles take off the list

A handle knows its observer and not its registration. As long as an observer is registered once this
makes no difference: it is on the list until its own handle is called. With several registrations of
one observer a handle takes off the earliest that is left, so that the order of the list may differ,
and a handle that is called again takes off a registration that is not its own.
-/

namespace ScriptRun.Status.Bus

variable {Observer : Type}

def subscriptions (calls : List (Call Observer)) : List Observer :=
  calls.filterMap fun
    | .subscribe observer => some observer
    | .unsubscribe _ => none

def handleCalls (calls : List (Call Observer)) : List Nat :=
  calls.filterMap fun
    | .subscribe _ => none
    | .unsubscribe handle => some handle

/-- Registrations with their own handles. -/
structure Ledger (Observer : Type) where
  given : Nat := 0
  standing : List (Nat × Observer) := []

def Ledger.enter (l : Ledger Observer) : Call Observer → Ledger Observer
  | .subscribe observer =>
    { given := l.given + 1, standing := l.standing ++ [(l.given, observer)] }
  | .unsubscribe handle => { l with standing := l.standing.filter (·.1 != handle) }

def ledger (calls : List (Call Observer)) : Ledger Observer := calls.foldl Ledger.enter {}

/-- The registrations whose own handle has not been called, in the order of subscription. -/
def unreleased (calls : List (Call Observer)) : List Observer :=
  (ledger calls).standing.map Prod.snd

theorem ledger_concat (calls : List (Call Observer)) (call : Call Observer) :
    ledger (calls ++ [call]) = (ledger calls).enter call :=
  List.foldl_append

section Registered

variable [DecidableEq Observer]

/-- The observers that calls take off the list, one for each handle that finds its observer. -/
def released (bus : Bus Observer) : List (Call Observer) → List Observer
  | [] => []
  | .subscribe observer :: rest => released (bus.subscribe observer) rest
  | .unsubscribe handle :: rest =>
    (bus.handles[handle]?.filter (· ∈ bus.observers)).toList ++
      released (bus.unsubscribe handle) rest

theorem performAll_concat (bus : Bus Observer) (calls : List (Call Observer))
    (call : Call Observer) :
    bus.performAll (calls ++ [call]) = (bus.performAll calls).perform call :=
  performAll_append bus calls [call]

theorem unsubscribe_of_some {bus : Bus Observer} {handle : Nat} {observer : Observer}
    (h : bus.handles[handle]? = some observer) :
    bus.unsubscribe handle = { bus with observers := bus.observers.erase observer } := by
  rw [unsubscribe, h]

theorem unsubscribe_of_none {bus : Bus Observer} {handle : Nat} (h : bus.handles[handle]? = none) :
    bus.unsubscribe handle = bus := by
  rw [unsubscribe, h]

theorem handles_unsubscribe (bus : Bus Observer) (handle : Nat) :
    (bus.unsubscribe handle).handles = bus.handles := by
  cases h : bus.handles[handle]? with
  | none => rw [unsubscribe_of_none h]
  | some observer => rw [unsubscribe_of_some h]

theorem handles_performAll (calls : List (Call Observer)) (bus : Bus Observer) :
    (bus.performAll calls).handles = bus.handles ++ subscriptions calls := by
  induction calls generalizing bus with
  | nil => exact (List.append_nil _).symm
  | cons call rest ih =>
    change ((bus.perform call).performAll rest).handles = _
    rw [ih]
    cases call with
    | subscribe observer => simp [perform, subscribe, subscriptions]
    | unsubscribe handle => simp [perform, handles_unsubscribe, subscriptions]

/-! ### The earliest registrations go first -/

theorem diff_concat {l off : List Observer} (h : off.Subperm l) (observer : Observer) :
    (l ++ [observer]).diff off = l.diff off ++ [observer] := by
  induction off generalizing l with
  | nil => rfl
  | cons gone off ih =>
    have hmem : gone ∈ l := h.subset (List.mem_cons_self ..)
    have hrest : off.Subperm (l.erase gone) := by
      have herase := h.erase gone
      rwa [List.erase_cons_head] at herase
    rw [List.diff_cons, List.erase_append_left _ hmem, ih hrest, List.diff_cons]

/-- The list holds the subscriptions without the observers that were taken off, and these are the
earliest of their kind. -/
def IsLess (bus : Bus Observer) (off : List Observer) : Prop :=
  off.Subperm bus.handles ∧ bus.observers = bus.handles.diff off

theorem IsLess.subscribe {bus : Bus Observer} {off : List Observer} (h : bus.IsLess off)
    (observer : Observer) : (bus.subscribe observer).IsLess off := by
  obtain ⟨hoff, hobservers⟩ := h
  refine ⟨hoff.trans (List.sublist_append_left _ _).subperm, ?_⟩
  rw [Bus.subscribe, hobservers]
  exact (diff_concat hoff observer).symm

theorem IsLess.unsubscribe {bus : Bus Observer} {off : List Observer} (h : bus.IsLess off)
    (handle : Nat) :
    (bus.unsubscribe handle).IsLess
      (off ++ (bus.handles[handle]?.filter (· ∈ bus.observers)).toList) := by
  obtain ⟨hoff, hobservers⟩ := h
  cases hhandle : bus.handles[handle]? with
  | none =>
    rw [unsubscribe_of_none hhandle]
    exact ⟨by simpa using hoff, by simpa using hobservers⟩
  | some observer =>
    rw [unsubscribe_of_some hhandle]
    by_cases hmem : observer ∈ bus.observers
    · rw [Option.filter_some_pos (by simpa using hmem), Option.toList_some]
      refine ⟨List.subperm_iff_count.mpr fun other => ?_, ?_⟩
      · have hcount := List.count_diff other bus.handles off
        have hle := List.subperm_iff_count.mp hoff other
        rw [List.count_append, List.count_singleton]
        by_cases heq : observer = other
        · -- one more of them is on the list, so more were subscribed than taken off
          subst heq
          have hpositive := List.count_pos_iff.mpr hmem
          rw [hobservers, hcount] at hpositive
          rw [beq_self_eq_true, if_pos rfl]
          dsimp only
          omega
        · simpa [heq] using hle
      · dsimp only
        rw [hobservers, List.diff_append, List.diff_cons, List.diff_nil]
    · rw [Option.filter_some_neg (by simpa using hmem), Option.toList_none, List.append_nil]
      refine ⟨hoff, ?_⟩
      dsimp only
      rw [List.erase_of_not_mem hmem]
      exact hobservers

theorem IsLess.performAll {bus : Bus Observer} {off : List Observer} (h : bus.IsLess off)
    (calls : List (Call Observer)) :
    (bus.performAll calls).IsLess (off ++ released bus calls) := by
  induction calls generalizing bus off with
  | nil => rwa [released, List.append_nil]
  | cons call rest ih =>
    cases call with
    | subscribe observer => exact ih (h.subscribe observer)
    | unsubscribe handle =>
      have hrest := ih (h.unsubscribe handle)
      rw [List.append_assoc] at hrest
      exact hrest

end Registered

/-! ### Registrations and their own handles -/

/-- The ledger of a history and the bus after it. -/
structure Agrees (calls : List (Call Observer)) (bus : Bus Observer) (l : Ledger Observer) :
    Prop where
  given : l.given = bus.handles.length
  owner : ∀ entry ∈ l.standing, bus.handles[entry.1]? = some entry.2
  distinct : (l.standing.map Prod.fst).Nodup
  uncalled : ∀ handle observer, bus.handles[handle]? = some observer →
    handle ∉ handleCalls calls → (handle, observer) ∈ l.standing
  registered : bus.observers.Sublist bus.handles

section Agreement

variable {calls : List (Call Observer)} {bus : Bus Observer} {l : Ledger Observer}

theorem Agrees.enter_of_none (h : Agrees calls bus l) {handle : Nat}
    (hhandle : bus.handles[handle]? = none) : l.enter (.unsubscribe handle) = l := by
  have hkept : l.standing.filter (·.1 != handle) = l.standing := by
    refine List.filter_eq_self.mpr fun entry hentry => bne_iff_ne.mpr ?_
    rintro rfl
    rw [h.owner entry hentry] at hhandle
    cases hhandle
  rw [Ledger.enter, hkept]

theorem Agrees.subscribe (h : Agrees calls bus l) (observer : Observer) :
    Agrees (calls ++ [.subscribe observer]) (bus.subscribe observer)
      (l.enter (.subscribe observer)) := by
  obtain ⟨given, standing⟩ := l
  obtain ⟨rfl, howner, hdistinct, huncalled, hregistered⟩ := h
  have hlt : ∀ entry ∈ standing, entry.1 < bus.handles.length := fun entry hentry =>
    (List.getElem?_eq_some_iff.mp (howner entry hentry)).1
  refine ⟨by simp [Ledger.enter, Bus.subscribe], ?_, ?_, ?_,
    hregistered.append (List.Sublist.refl _)⟩
  · intro entry hentry
    obtain hold | hnew := List.mem_append.mp hentry
    · exact (List.getElem?_append_left (hlt entry hold)).trans (howner entry hold)
    · rw [List.mem_singleton.mp hnew]
      exact List.getElem?_concat_length
  · simp only [Ledger.enter, List.map_append, List.map_cons, List.map_nil]
    refine List.nodup_append.mpr ⟨hdistinct, List.nodup_singleton _, ?_⟩
    rintro handle hhandle other hother rfl
    obtain ⟨entry, hentry, rfl⟩ := List.mem_map.mp hhandle
    exact absurd (List.mem_singleton.mp hother) (hlt entry hentry).ne
  · intro handle other hhandle hnot
    have hnot : handle ∉ handleCalls calls := by simpa [handleCalls] using hnot
    rw [Bus.subscribe] at hhandle
    refine List.mem_append.mpr ?_
    obtain hold | rfl | hbeyond := Nat.lt_trichotomy handle bus.handles.length
    · rw [List.getElem?_append_left hold] at hhandle
      exact .inl (huncalled handle other hhandle hnot)
    · rw [List.getElem?_concat_length] at hhandle
      rw [Option.some.inj hhandle]
      exact .inr (List.mem_singleton_self _)
    · rw [List.getElem?_eq_none (by simp; omega)] at hhandle
      cases hhandle

variable [DecidableEq Observer]

theorem Agrees.unsubscribe (h : Agrees calls bus l) (handle : Nat) :
    Agrees (calls ++ [.unsubscribe handle]) (bus.unsubscribe handle)
      (l.enter (.unsubscribe handle)) := by
  have hhandles := handles_unsubscribe bus handle
  constructor
  · rw [hhandles]
    exact h.given
  · intro entry hentry
    rw [hhandles]
    exact h.owner entry (List.mem_filter.mp hentry).1
  · exact h.distinct.sublist (List.filter_sublist.map _)
  · intro other observer hother hnot
    rw [hhandles] at hother
    have hnot : other ≠ handle ∧ other ∉ handleCalls calls := by
      simpa [handleCalls, and_comm] using hnot
    exact List.mem_filter.mpr ⟨h.uncalled other observer hother hnot.2, by simpa using hnot.1⟩
  · rw [hhandles]
    refine List.Sublist.trans ?_ h.registered
    cases hhandle : bus.handles[handle]? with
    | none => rw [unsubscribe_of_none hhandle]
    | some observer =>
      rw [unsubscribe_of_some hhandle]
      exact List.erase_sublist

end Agreement

variable [DecidableEq Observer]

theorem agrees (calls : List (Call Observer)) :
    Agrees calls (performAll {} calls) (ledger calls) := by
  induction calls using List.reverseRecOn with
  | nil => exact ⟨rfl, by simp [ledger], by simp [ledger], by simp [performAll], .refl _⟩
  | append_singleton calls call ih =>
    rw [performAll_concat, ledger_concat]
    cases call with
    | subscribe observer => exact ih.subscribe observer
    | unsubscribe handle => exact ih.unsubscribe handle

theorem getElem?_unique {l : List Observer} {observer : Observer} (hcount : l.count observer ≤ 1)
    {i j : Nat} (hi : l[i]? = some observer) (hj : l[j]? = some observer) : i = j := by
  by_contra hne
  wlog hlt : i < j generalizing i j with hother
  · exact hother hj hi (Ne.symm hne) (by omega)
  obtain ⟨hilt, hi⟩ := List.getElem?_eq_some_iff.mp hi
  obtain ⟨hjlt, hj⟩ := List.getElem?_eq_some_iff.mp hj
  have htwice : List.Duplicate observer l :=
    List.duplicate_iff_exists_distinct_get.mpr ⟨⟨i, hilt⟩, ⟨j, hjlt⟩, hlt, hi.symm, hj.symm⟩
  have := List.duplicate_iff_two_le_count.mp htwice
  omega

theorem nodup_filter {l : List Observer} {p : Observer → Bool}
    (hp : ∀ observer, p observer = true → l.count observer ≤ 1) : (l.filter p).Nodup := by
  refine List.nodup_iff_count_le_one.mpr fun observer => ?_
  by_cases hobserver : p observer = true
  · rw [List.count_filter hobserver]
    exact hp observer hobserver
  · rw [List.count_eq_zero_of_not_mem fun hmem => hobserver (List.mem_filter.mp hmem).2]
    exact Nat.zero_le 1

section Step

variable {calls : List (Call Observer)} {bus : Bus Observer} {l : Ledger Observer} {handle : Nat}

/-- Of observers subscribed once a handle takes off its own. -/
theorem Agrees.filter_unsubscribe (h : Agrees calls bus l) {p : Observer → Bool}
    (honce : ∀ observer, p observer = true → bus.handles.count observer ≤ 1)
    (hfilter : bus.observers.filter p = (l.standing.map Prod.snd).filter p) :
    (bus.unsubscribe handle).observers.filter p =
      ((l.enter (.unsubscribe handle)).standing.map Prod.snd).filter p := by
  cases hhandle : bus.handles[handle]? with
  | none =>
    rw [unsubscribe_of_none hhandle, h.enter_of_none hhandle]
    exact hfilter
  | some observer =>
    have hnodup : (bus.observers.filter p).Nodup := nodup_filter fun other hother =>
      le_trans (h.registered.count_le other) (honce other hother)
    -- among these observers the handle tells the observer and the observer the handle
    have hown : ∀ entry ∈ l.standing,
        (entry.2 != observer && p entry.2) = (p entry.2 && entry.1 != handle) := by
      intro entry hentry
      have howner := h.owner entry hentry
      cases hobserver : p entry.2 with
      | false => simp
      | true =>
        have hsame : entry.2 = observer ↔ entry.1 = handle := by
          constructor
          · rintro rfl
            exact getElem?_unique (honce _ hobserver) howner hhandle
          · rintro rfl
            exact Option.some.inj (howner.symm.trans hhandle)
        simp [bne, hsame]
    rw [unsubscribe_of_some hhandle, Ledger.enter, ← List.erase_filter, hnodup.erase_eq_filter,
      hfilter]
    simp only [List.filter_map, List.filter_filter]
    exact congrArg _ (List.filter_congr hown)

/-- A handle that was not called before takes off one registration of its observer. -/
theorem Agrees.perm_unsubscribe (h : Agrees calls bus l) (hfirst : handle ∉ handleCalls calls)
    (hperm : bus.observers.Perm (l.standing.map Prod.snd)) :
    (bus.unsubscribe handle).observers.Perm
      ((l.enter (.unsubscribe handle)).standing.map Prod.snd) := by
  cases hhandle : bus.handles[handle]? with
  | none =>
    rw [unsubscribe_of_none hhandle, h.enter_of_none hhandle]
    exact hperm
  | some observer =>
    have hmem := h.uncalled handle observer hhandle hfirst
    have herase : l.standing.filter (·.1 != handle) = l.standing.erase (handle, observer) := by
      rw [(List.Nodup.of_map _ h.distinct).erase_eq_filter]
      refine List.filter_congr fun entry hentry => ?_
      have howner := h.owner entry hentry
      by_cases heq : entry.1 = handle
      · rw [heq, hhandle] at howner
        simp [bne, Prod.ext_iff, heq, Option.some.inj howner]
      · simp [bne, Prod.ext_iff, heq]
    have hlisted : observer ∈ bus.observers :=
      hperm.mem_iff.mpr (List.mem_map_of_mem (f := Prod.snd) hmem)
    have hown := (List.perm_cons_erase hmem).map Prod.snd
    rw [unsubscribe_of_some hhandle, Ledger.enter, herase]
    exact List.Perm.cons_inv ((List.perm_cons_erase hlisted).symm.trans (hperm.trans hown))

end Step

/-- An observer that was subscribed once is on the list until its own handle is called. -/
theorem filter_observers (calls : List (Call Observer)) (p : Observer → Bool)
    (hp : ∀ observer, p observer = true → (subscriptions calls).count observer ≤ 1) :
    (performAll {} calls).observers.filter p = (unreleased calls).filter p := by
  induction calls using List.reverseRecOn with
  | nil => rfl
  | append_singleton calls call ih =>
    have hbefore : ∀ observer, p observer = true → (subscriptions calls).count observer ≤ 1 := by
      intro observer hobserver
      refine le_trans (List.Sublist.count_le _ ?_) (hp observer hobserver)
      rw [subscriptions, subscriptions, List.filterMap_append]
      exact List.sublist_append_left _ _
    have hfilter := ih hbefore
    rw [unreleased] at hfilter ⊢
    rw [performAll_concat, ledger_concat]
    cases call with
    | subscribe observer =>
      rw [perform, subscribe, Ledger.enter, List.filter_append, List.map_append, List.filter_append,
        hfilter]
      rfl
    | unsubscribe handle =>
      refine (agrees calls).filter_unsubscribe (fun observer hobserver => ?_) hfilter
      rw [handles_performAll, List.nil_append]
      exact hbefore observer hobserver

/-- If no handle is called twice, as many registrations are left as handles that were not called. -/
theorem observers_perm_unreleased (calls : List (Call Observer))
    (hcalls : (handleCalls calls).Nodup) :
    (performAll {} calls).observers.Perm (unreleased calls) := by
  induction calls using List.reverseRecOn with
  | nil => exact List.Perm.refl _
  | append_singleton calls call ih =>
    have hsplit : handleCalls (calls ++ [call]) = handleCalls calls ++ handleCalls [call] :=
      List.filterMap_append
    rw [hsplit] at hcalls
    obtain ⟨hbefore, -, hnew⟩ := List.nodup_append.mp hcalls
    have hperm := ih hbefore
    rw [unreleased] at hperm ⊢
    rw [performAll_concat, ledger_concat]
    cases call with
    | subscribe observer =>
      rw [perform, subscribe, Ledger.enter, List.map_append]
      exact hperm.append_right [observer]
    | unsubscribe handle =>
      refine (agrees calls).perm_unsubscribe (fun hmem => ?_) hperm
      exact hnew handle hmem handle (List.mem_singleton_self _) rfl

/-- What handles take off the list: always the earliest registration of their observer. Observers
that were subscribed once are on the list until their own handle is called, and if no handle is
called twice the list has as many registrations of each observer as it should. -/
theorem observers_of_history (calls : List (Call Observer)) :
    let observers := (performAll {} calls).observers
    let once := fun observer => decide ((subscriptions calls).count observer ≤ 1)
    observers = (subscriptions calls).diff (released {} calls) ∧
      observers.filter once = (unreleased calls).filter once ∧
      ((handleCalls calls).Nodup → observers.Perm (unreleased calls)) := by
  intro observers once
  have hnew : IsLess ({} : Bus Observer) [] := ⟨List.nil_subperm, rfl⟩
  obtain ⟨-, hless⟩ := hnew.performAll calls
  rw [handles_performAll] at hless
  exact ⟨hless, filter_observers calls once fun _ => of_decide_eq_true,
    observers_perm_unreleased calls⟩

/-- The second of two registrations is released, and the first is taken off the list. -/
theorem observers_of_history_reordered :
    let calls : List (Call Char) :=
      [.subscribe 'a', .subscribe 'b', .subscribe 'a', .unsubscribe 2]
    (handleCalls calls).Nodup ∧ (performAll {} calls).observers = ['b', 'a'] ∧
      unreleased calls = ['a', 'b'] ∧ (performAll {} calls).observers.Perm (unreleased calls) := by
  intro calls
  have honce : (handleCalls calls).Nodup := by decide
  exact ⟨honce, rfl, rfl, (observers_of_history calls).2.2 honce⟩

/-- A handle that is called again takes off the registration of another handle. -/
theorem second_call_takes_other :
    let calls : List (Call Char) :=
      [.subscribe 'a', .subscribe 'a', .unsubscribe 0, .unsubscribe 0]
    (performAll {} calls).observers = [] ∧ unreleased calls = ['a'] :=
  ⟨rfl, rfl⟩

end ScriptRun.Status.Bus
