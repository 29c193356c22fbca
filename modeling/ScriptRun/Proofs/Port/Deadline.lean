import Mathlib
import ScriptRun.Port.Attempts

/-!
# The decisive round of a wait

A round of a wait decides it if the process has exited, the port accepts, or the deadline has passed
by then. What the clock shows in a round depends only on the number of pauses before it, so the wait
ends in the first decisive round, with one check and one attempt for every round up to it and a
pause between any two (`waitUntil_decided`). This holds of every clock that never fails to pause.

If the clock is exact, every pause moves it by the same amount and the time of a round can be
computed (`waitBy_decided`).
-/

namespace ScriptRun.Port

def Timepiece.after {κ τ : Type} (t : Timepiece κ τ) (c : κ) (pauses : ℕ) : κ :=
  (fun c => (t.pause c).2)^[pauses] c

def Timepiece.NeverFails {κ τ : Type} (t : Timepiece κ τ) : Prop := ∀ c, (t.pause c).1 = .ok ()

namespace Attempts

section Rounds

variable {κ τ : Type} [Inhabited κ] (t : Timepiece κ τ) (exited accepts : ℕ → Bool) (c : κ)

/-- A wait that has paused, checked and tried to connect a number of times. -/
def counted (pauses checks connections : ℕ) : Attempts κ :=
  { clock := t.after c pauses, checks, connections }

/-- How a wait ends in a decisive round: an exit is seen before an attempt is made, and an attempt
that succeeds is not timed. Rounds are counted from zero. -/
def verdict (exited accepts : ℕ → Bool) (round : ℕ) : Wait :=
  if exited round then .exited else if accepts round then .ready else .timedOut

theorem isReady_verdict {exited accepts : ℕ → Bool} {round : ℕ} :
    (verdict exited accepts round).isReady = true ↔
      exited round = false ∧ accepts round = true := by
  unfold verdict
  generalize exited round = gone
  generalize accepts round = connected
  revert gone connected
  decide

theorem verdict_ne_unfinished {exited accepts : ℕ → Bool} {round : ℕ} :
    verdict exited accepts round ≠ .unfinished := by
  unfold verdict
  split
  · simp
  · split <;> simp

/-- A wait at its end in a decisive round. There is no attempt in a round in which an exit is
seen. -/
def ended (round : ℕ) : Attempts κ :=
  counted t c round (round + 1) (if exited round then round else round + 1)

section Counting

variable (pauses checks connections : ℕ)

theorem hasExited_counted :
    (surroundings t exited accepts).hasExited (counted t c pauses checks connections) =
      (exited checks, counted t c pauses (checks + 1) connections) :=
  rfl

theorem connects_counted :
    (surroundings t exited accepts).connects (counted t c pauses checks connections) =
      (accepts connections, counted t c pauses checks (connections + 1)) :=
  rfl

theorem now_counted :
    (surroundings t exited accepts).now (counted t c pauses checks connections) =
      t.reading (t.after c pauses) :=
  rfl

theorem pause_counted (ht : t.NeverFails) :
    (surroundings t exited accepts).pause (counted t c pauses checks connections) =
      counted t c (pauses + 1) checks connections := by
  have hpause : t.pause (t.after c pauses) = (.ok (), t.after c (pauses + 1)) := by
    rw [Timepiece.after, Timepiece.after, Function.iterate_succ_apply']
    exact Prod.ext (ht _) rfl
  simp only [surroundings, sleep, counted, hpause]

end Counting

variable [LE τ]

/-- Whether a round decides the wait. -/
def Decisive (deadline : τ) (round : ℕ) : Prop :=
  exited round = true ∨ accepts round = true ∨ deadline ≤ t.reading (t.after c round)

variable [DecidableLE τ] {t exited accepts c} {deadline : τ} {round : ℕ}

theorem waitUntil_of_decisive (h : Decisive t exited accepts c deadline round) (rounds : ℕ) :
    waitUntil (surroundings t exited accepts) deadline (rounds + 1)
        (counted t c round round round) =
      (verdict exited accepts round, ended t exited c round) := by
  rw [waitUntil, hasExited_counted, verdict, ended]
  cases hexited : exited round with
  | true => rfl
  | false =>
    simp only [connects_counted]
    cases haccepts : accepts round with
    | true => rfl
    | false =>
      have hlate : deadline ≤ t.reading (t.after c round) := by
        simpa only [Decisive, hexited, haccepts, Bool.false_eq_true, false_or] using h
      simp only [now_counted, Bool.false_eq_true, if_false]
      exact if_pos hlate

theorem waitUntil_of_not_decisive (ht : t.NeverFails)
    (h : ¬Decisive t exited accepts c deadline round) (rounds : ℕ) :
    waitUntil (surroundings t exited accepts) deadline (rounds + 1)
        (counted t c round round round) =
      waitUntil (surroundings t exited accepts) deadline rounds
        (counted t c (round + 1) (round + 1) (round + 1)) := by
  simp only [Decisive, not_or, Bool.not_eq_true] at h
  obtain ⟨hexited, haccepts, hearly⟩ := h
  rw [waitUntil, hasExited_counted, hexited]
  simp only [connects_counted, haccepts, now_counted, if_neg hearly, pause_counted _ _ _ _ _ _ _ ht]

/-- A wait ends in its first decisive round, if it may go on for so long. -/
theorem waitUntil_decided (ht : t.NeverFails) {last : ℕ}
    (hlast : Decisive t exited accepts c deadline last)
    (hbefore : ∀ round < last, ¬Decisive t exited accepts c deadline round) {rounds : ℕ}
    (hrounds : last < rounds) :
    waitUntil (surroundings t exited accepts) deadline rounds { clock := c } =
      (verdict exited accepts last, ended t exited c last) := by
  -- from any round on, as many rounds are left to the decisive one as it takes to get there
  have hfrom : ∀ left ≤ last, ∀ more,
      waitUntil (surroundings t exited accepts) deadline (more + 1 + left)
          (counted t c (last - left) (last - left) (last - left)) =
        (verdict exited accepts last, ended t exited c last) := by
    intro left
    induction left with
    | zero => exact fun _ more => waitUntil_of_decisive hlast more
    | succ left ih =>
      intro hleft more
      rw [← Nat.add_assoc, waitUntil_of_not_decisive ht (hbefore _ (by omega)),
        show last - (left + 1) + 1 = last - left by omega]
      exact ih (by omega) more
  obtain ⟨more, rfl⟩ : ∃ more, rounds = more + 1 + last := ⟨rounds - 1 - last, by omega⟩
  have hall := hfrom last le_rfl more
  rw [Nat.sub_self] at hall
  exact hall

/-- The answer of a wait whose clock never fails is how it ends. -/
theorem waitBy_eq_ended [Add τ] (ht : t.NeverFails) {timeout : τ} {last : ℕ}
    (hlast : Decisive t exited accepts c (t.reading c + timeout) last)
    (hbefore : ∀ round < last, ¬Decisive t exited accepts c (t.reading c + timeout) round)
    {rounds : ℕ} (hrounds : last < rounds) :
    waitBy t exited accepts timeout rounds { clock := c } =
      (.ok (verdict exited accepts last), ended t exited c last) := by
  simp only [waitBy, waitUntil_decided ht hlast hbefore hrounds, ended, counted]

end Rounds

end Attempts

/-! ### Exact time -/

/-- A clock whose readings are exact and which only pauses move. It keeps account of these. -/
structure ExactClock (τ : Type) where
  reading : τ
  pauses : List τ := []

namespace ExactClock

variable {τ : Type}

instance [Zero τ] : Inhabited (ExactClock τ) := ⟨{ reading := 0 }⟩

/-- Pauses of one length. -/
def timepiece [Add τ] (pause : τ) : Timepiece (ExactClock τ) τ where
  reading := reading
  pause c := (.ok (), { reading := c.reading + pause, pauses := c.pauses ++ [pause] })

theorem neverFails_timepiece [Add τ] (pause : τ) : (timepiece pause).NeverFails := fun _ => rfl

theorem after_timepiece [Semiring τ] (pause : τ) (c : ExactClock τ) (count : ℕ) :
    (timepiece pause).after c count =
      { reading := c.reading + count * pause
        pauses := c.pauses ++ List.replicate count pause } := by
  induction count with
  | zero => simp [Timepiece.after]
  | succ count ih =>
    rw [Timepiece.after, Function.iterate_succ_apply', ← Timepiece.after, ih]
    simp only [timepiece, Nat.cast_succ, add_mul, one_mul, List.replicate_succ', add_assoc,
      List.append_assoc]

end ExactClock

namespace Attempts

variable {τ : Type} [Field τ] [LinearOrder τ] [IsStrictOrderedRing τ] [FloorRing τ]

/-- The first round in which a wait with exact time has taken long enough is not later than the time
in pauses, rounded up. -/
theorem timeout_le_ceil (timeout : τ) {backoff : τ} (hbackoff : 0 < backoff) :
    timeout ≤ (⌈timeout / backoff⌉.toNat : τ) * backoff := by
  have hceil : timeout / backoff ≤ (⌈timeout / backoff⌉.toNat : τ) := by
    calc timeout / backoff ≤ (⌈timeout / backoff⌉ : τ) := Int.le_ceil _
      _ ≤ ((⌈timeout / backoff⌉.toNat : ℤ) : τ) := Int.cast_le.2 (Int.self_le_toNat _)
      _ = (⌈timeout / backoff⌉.toNat : τ) := Int.cast_natCast _
  exact (div_le_iff₀ hbackoff).1 hceil

/-- A wait with exact time ends in the first round in which the process has exited, the port
accepts, or the timeout has passed; there is one after at most the timeout in pauses. It is ready
exactly if in that round the port accepts and the process has not exited. It has then checked once
in every round, tried to connect in every round in which it saw no exit, and paused between the
rounds. -/
theorem waitBy_decided (exited accepts : ℕ → Bool) (timeout backoff : τ) (hbackoff : 0 < backoff)
    (c : ExactClock τ) :
    ∃ last : ℕ,
      IsLeast {k : ℕ | 1 ≤ k ∧ (exited (k - 1) = true ∨ accepts (k - 1) = true ∨
        timeout ≤ (k - 1 : ℕ) * backoff)} last ∧
      (last : ℤ) ≤ max 1 (⌈timeout / backoff⌉ + 1) ∧
      ∀ rounds, last ≤ rounds → ∃ wait a,
        waitBy (ExactClock.timepiece backoff) exited accepts timeout rounds { clock := c } =
          (.ok wait, a) ∧
        wait ≠ .unfinished ∧
        (wait.isReady = true ↔ exited (last - 1) = false ∧ accepts (last - 1) = true) ∧
        a.checks = last ∧
        a.connections = (if exited (last - 1) then last - 1 else last) ∧
        a.clock.pauses = c.pauses ++ List.replicate (last - 1) backoff ∧
        (exited 0 = false → 1 ≤ a.connections) ∧
        ∀ k < a.connections, exited k = false := by
  have hdecisive (k : ℕ) : Decisive (ExactClock.timepiece backoff) exited accepts c
        (c.reading + timeout) k ↔
      exited k = true ∨ accepts k = true ∨ timeout ≤ k * backoff := by
    rw [Decisive, ExactClock.after_timepiece]
    exact or_congr_right (or_congr_right (add_le_add_iff_left c.reading))
  classical
  have hexists : ∃ k, Decisive (ExactClock.timepiece backoff) exited accepts c
      (c.reading + timeout) k :=
    ⟨_, (hdecisive _).2 (.inr (.inr (timeout_le_ceil timeout hbackoff)))⟩
  have hbound : Nat.find hexists ≤ ⌈timeout / backoff⌉.toNat :=
    Nat.find_min' hexists ((hdecisive _).2 (.inr (.inr (timeout_le_ceil timeout hbackoff))))
  have hlast := Nat.find_spec hexists
  have hbefore : ∀ k < Nat.find hexists, ¬Decisive (ExactClock.timepiece backoff) exited accepts c
      (c.reading + timeout) k := fun k hk => Nat.find_min hexists hk
  generalize Nat.find hexists = round at hbound hlast hbefore
  refine ⟨round + 1, ⟨⟨Nat.le_add_left 1 round, (hdecisive round).1 hlast⟩, ?_⟩, by omega, ?_⟩
  · rintro k ⟨hk, hround⟩
    by_contra hless
    exact hbefore (k - 1) (by omega) ((hdecisive _).2 hround)
  · intro rounds hrounds
    have hend := waitBy_eq_ended (ExactClock.neverFails_timepiece backoff) hlast hbefore hrounds
    refine ⟨_, _, hend, verdict_ne_unfinished, isReady_verdict, rfl, rfl, ?_, fun halive => ?_,
      fun k hk => ?_⟩
    · rw [ended, counted, ExactClock.after_timepiece, Nat.add_sub_cancel]
    · cases round with
      | zero => simp [ended, counted, halive]
      | succ round =>
        simp only [ended, counted]
        split <;> omega
    · -- an attempt is made only in a round in which no exit was seen
      by_contra hexited
      rw [Bool.not_eq_false] at hexited
      have hround : ¬k < round := fun hless => hbefore k hless (.inl hexited)
      simp only [ended, counted] at hk
      split at hk
      · omega
      · next halive =>
        obtain rfl : k = round := by omega
        exact halive hexited

/-- A port that accepts the third attempt, just as the timeout has passed, is ready. -/
theorem waitBy_decided_at_timeout :
    (0 : ℚ) < 1 / 4 ∧ ∃ wait a,
      waitBy (ExactClock.timepiece (1 / 4 : ℚ)) (fun _ => false) (fun k => k = 2) (1 / 2) 3
        { clock := { reading := 1000 } } = (.ok wait, a) ∧
      wait.isReady = true ∧ a.checks = 3 ∧ a.connections = 3 ∧ a.clock.pauses = [1 / 4, 1 / 4] := by
  have hbackoff : (0 : ℚ) < 1 / 4 := by norm_num
  obtain ⟨last, hleast, -, hwait⟩ := waitBy_decided (fun _ => false) (fun k => k = 2)
    (1 / 2 : ℚ) (1 / 4) hbackoff { reading := 1000 }
  have hthree : last = 3 := by
    refine hleast.unique ⟨⟨by omega, .inr (.inl rfl)⟩, ?_⟩
    rintro k ⟨hk, hround⟩
    by_contra hless
    obtain rfl | rfl : k = 1 ∨ k = 2 := by omega
    · norm_num at hround
    · norm_num at hround
  subst hthree
  obtain ⟨wait, a, hend, -, hready, hchecks, hconnections, hpauses, -⟩ := hwait 3 le_rfl
  exact ⟨hbackoff, wait, a, hend, hready.2 ⟨rfl, rfl⟩, hchecks, hconnections, hpauses⟩

end Attempts

end ScriptRun.Port
