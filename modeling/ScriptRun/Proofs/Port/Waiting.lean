import ScriptRun.Port.Waiting

/-!
# Rounds of a wait

A wait is made of rounds that fail, each ended by a pause, and a last round that decides. If the
port became ready, then in that last round the process was asked first and had not exited, and the
next thing to happen was the connection (`waitUntil_eq_ready`).
-/

namespace ScriptRun.Port

variable {σ τ : Type} [LE τ] {world : Surroundings σ τ} {deadline : τ}

/-- States at the beginning of two rounds of a wait, all of whose rounds in between fail. -/
inductive Rounds (world : Surroundings σ τ) (deadline : τ) : σ → σ → Prop
  | refl (s : σ) : Rounds world deadline s s
  | next {s asked tried last : σ} (hexit : world.hasExited s = (false, asked))
      (hconnect : world.connects asked = (false, tried)) (htime : ¬deadline ≤ world.now tried)
      (hrest : Rounds world deadline (world.pause tried) last) : Rounds world deadline s last

variable [DecidableLE τ]

/-- A port becomes ready in a round that finds the process alive and then connects. -/
theorem waitUntil_eq_ready {rounds : Nat} {s after : σ}
    (h : waitUntil world deadline rounds s = (.ready, after)) :
    ∃ last asked, Rounds world deadline s last ∧ world.hasExited last = (false, asked) ∧
      world.connects asked = (true, after) := by
  induction rounds generalizing s with
  | zero => exact absurd (congrArg Prod.fst h) (by simp [waitUntil])
  | succ rounds ih =>
    rw [waitUntil] at h
    rcases hexit : world.hasExited s with ⟨_ | _, asked⟩
    · rcases hconnect : world.connects asked with ⟨_ | _, tried⟩
      · simp only [hexit, hconnect] at h
        split at h
        · exact absurd (congrArg Prod.fst h) (by simp)
        · rename_i htime
          obtain ⟨last, asked, hrounds, hlast⟩ := ih h
          exact ⟨last, asked, .next hexit hconnect htime hrounds, hlast⟩
      · simp only [hexit, hconnect] at h
        obtain rfl := congrArg Prod.snd h
        exact ⟨s, asked, .refl s, hexit, hconnect⟩
    · simp only [hexit] at h
      exact absurd (congrArg Prod.fst h) (by simp)

/-- What the surroundings keep, a wait keeps. -/
theorem waitUntil_keeps {P : σ → Prop} (hexit : ∀ s, P s → P (world.hasExited s).2)
    (hconnect : ∀ s, P s → P (world.connects s).2) (hpause : ∀ s, P s → P (world.pause s))
    (rounds : Nat) {s : σ} (h : P s) : P (waitUntil world deadline rounds s).2 := by
  induction rounds generalizing s with
  | zero => exact h
  | succ rounds ih =>
    have hasked := hexit s h
    rw [waitUntil]
    rcases hanswer : world.hasExited s with ⟨_ | _, asked⟩
    · rw [hanswer] at hasked
      have htried := hconnect asked hasked
      rcases hconnected : world.connects asked with ⟨_ | _, tried⟩
      · rw [hconnected] at htried
        simp only [hconnected]
        split
        · exact htried
        · exact ih (hpause tried htried)
      · rw [hconnected] at htried
        simp only [hconnected]
        exact htried
    · rw [hanswer] at hasked
      exact hasked

end ScriptRun.Port
