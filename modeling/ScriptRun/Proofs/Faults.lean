import Mathlib.Tactic.Common

/-!
# Answers that may be faults

What a step that is to answer can fail with follows from what its parts can fail with.
-/

namespace ScriptRun

/-- Two steps answer exactly if both do. -/
theorem bind_eq_ok_iff {ε α β : Type} {e : Except ε α} {f : α → Except ε β} {b : β} :
    e >>= f = .ok b ↔ ∃ a, e = .ok a ∧ f a = .ok b := by
  cases e with
  | error fault => exact iff_of_false (fun h => nomatch h) fun ⟨_, h, _⟩ => nomatch h
  | ok a => exact ⟨fun h => ⟨a, rfl, h⟩, fun ⟨_, h, hf⟩ => Except.ok.inj h ▸ hf⟩

theorem map_eq_ok_iff {ε α β : Type} {e : Except ε α} {f : α → β} {b : β} :
    e.map f = .ok b ↔ ∃ a, e = .ok a ∧ f a = b := by
  cases e with
  | error fault => exact iff_of_false (fun h => nomatch h) fun ⟨_, h, _⟩ => nomatch h
  | ok a => exact ⟨fun h => ⟨a, rfl, Except.ok.inj h⟩, fun ⟨_, h, hf⟩ => Except.ok.inj h ▸ hf ▸ rfl⟩

theorem mapError_eq_ok_iff {ε ε' α : Type} {e : Except ε α} {f : ε → ε'} {a : α} :
    e.mapError f = .ok a ↔ e = .ok a := by
  cases e with
  | error fault => exact iff_of_false (fun h => nomatch h) fun h => nomatch h
  | ok a' => exact ⟨fun h => congrArg _ (Except.ok.inj h), fun h => congrArg _ (Except.ok.inj h)⟩

/-- Whether a step that is to answer fails only with faults of a kind. -/
def Fails {ε : Type} (kind : ε → Prop) {α : Type} (e : Except ε α) : Prop :=
  ∀ fault, e = .error fault → kind fault

namespace Fails

variable {ε ε' α β : Type} {kind kind' : ε → Prop}

theorem ok (a : α) : Fails kind (.ok a) := fun _ h => nomatch h

theorem error {fault : ε} (h : kind fault) : Fails kind (.error fault : Except ε α) :=
  fun _ he => Except.error.inj he ▸ h

theorem imp {e : Except ε α} (h : Fails kind e) (himp : ∀ fault, kind fault → kind' fault) :
    Fails kind' e :=
  fun fault he => himp fault (h fault he)

theorem bind {e : Except ε α} {f : α → Except ε β} (h : Fails kind e)
    (hf : ∀ a, e = .ok a → Fails kind (f a)) : Fails kind (e >>= f) := by
  intro fault he
  cases hstep : e with
  | error fault' =>
    rw [hstep] at he
    exact Except.error.inj he ▸ h fault' hstep
  | ok a =>
    rw [hstep] at he
    exact hf a hstep fault he

theorem map {e : Except ε α} (h : Fails kind e) (f : α → β) : Fails kind (f <$> e) := by
  cases e with
  | ok a => exact ok (f a)
  | error fault => exact error (h fault rfl)

theorem mapError {kind' : ε' → Prop} {e : Except ε α} {f : ε → ε'}
    (h : Fails (fun fault => kind' (f fault)) e) : Fails kind' (e.mapError f) := by
  cases e with
  | ok a => exact ok a
  | error fault => exact error (h fault rfl)

theorem mapM {f : α → Except ε β} (h : ∀ a, Fails kind (f a)) (items : List α) :
    Fails kind (items.mapM f) := by
  induction items with
  | nil => exact ok []
  | cons a rest ih =>
    rw [List.mapM_cons]
    exact (h a).bind fun b _ => ih.bind fun bs _ => ok (b :: bs)

theorem foldlM {f : β → α → Except ε β} {items : List α}
    (h : ∀ b, ∀ a ∈ items, Fails kind (f b a)) (b : β) : Fails kind (items.foldlM f b) := by
  induction items generalizing b with
  | nil => exact ok b
  | cons a rest ih =>
    rw [List.foldlM_cons]
    refine (h b a (List.mem_cons_self ..)).bind fun b' _ => ih (fun b a' ha' => ?_) b'
    exact h b a' (List.mem_cons_of_mem a ha')

end Fails

end ScriptRun
