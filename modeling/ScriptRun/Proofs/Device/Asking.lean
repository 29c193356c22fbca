import Mathlib.Data.Nat.Notation
import Mathlib.Tactic.Common
import ScriptRun.Device.Catalog
import ScriptRun.Time.Clock

/-!
# The sources are asked together

Asking calls every source once and in order, whatever comes of a call (`Catalog.ask_eq`). A history of
uses therefore leaves all sources called equally often, and the list is what they gave at the last of
these calls: a use either asks all of them or answers from the list (`asked_together`).
-/

namespace ScriptRun.Device

/-! ### Asking once -/

namespace Catalog

theorem call_eq {c : Catalog} {done todo : List Source} {source : Source}
    (hc : c.sources = done ++ source :: todo) :
    c.call done.length = (source.query.1, { c with
      sources := done ++ source.query.2 :: todo
      called := c.called ++ [done.length] }) := by
  have hget : c.sources[done.length]? = some source := by simp [hc]
  rw [call, hget]
  simp [hc]

/-- The sources that are still to be called are called once each, in order. -/
theorem gather_eq (c : Catalog) (done todo : List Source) (hc : c.sources = done ++ todo) :
    c.gather (List.range' done.length todo.length) =
      (todo.flatMap fun source => contribution source.query.1, { c with
        sources := done ++ todo.map fun source => source.query.2
        called := c.called ++ List.range' done.length todo.length }) := by
  induction todo generalizing done c with
  | nil =>
    rw [List.append_nil] at hc
    simp [gather, ← hc]
  | cons source todo ih =>
    rw [List.length_cons, List.range'_succ, gather, call_eq hc]
    dsimp only
    have hlength : (done ++ [source.query.2]).length = done.length + 1 := by simp
    rw [← hlength, ih _ (done ++ [source.query.2]) (by simp)]
    simp

theorem ask_eq (c : Catalog) (reading : Float) :
    c.ask reading = { c with
      sources := c.sources.map fun source => source.query.2
      devices := (c.sources.flatMap fun source => contribution source.query.1) ++
        if c.includesBrowser then [browser] else []
      askedAt := some reading
      called := c.called ++ List.range c.sources.length } := by
  have hgather := c.gather_eq [] c.sources rfl
  rw [List.length_nil, ← List.range_eq_range'] at hgather
  rw [ask, hgather]
  rfl

/-- Why the sources have to be asked: they never were, or the list is empty or too old. -/
def IsStale (c : Catalog) (reading : Float) : Prop :=
  c.askedAt = none ∨ c.devices = [] ∨
    ∃ askedAt, c.askedAt = some askedAt ∧ ¬ reading - askedAt < c.freshFor.toFloat

theorem isFresh_eq_false_iff {c : Catalog} {reading : Float} :
    c.isFresh reading = false ↔ c.IsStale reading := by
  rw [isFresh, IsStale]
  cases c.askedAt with
  | none => simp
  | some askedAt =>
    rw [Bool.and_eq_false_iff, Bool.not_eq_false', List.isEmpty_iff, decide_eq_false_iff_not]
    simp

instance (c : Catalog) (reading : Float) : Decidable (c.IsStale reading) :=
  decidable_of_iff _ isFresh_eq_false_iff

end Catalog

/-! ### Uses of a catalog -/

structure Clocked where
  catalog : Catalog
  clock : Time.Clock := {}

inductive Use where
  | refresh (force : Bool)
  | find (id : Text)
  | select (d : Option Device)
  | autoSelect
  | ensureSelected
  | pass (seconds : Number)

inductive Reply where
  | listing (devices : List Device)
  | choice (d : Option Device)
  | done
  | fault (f : Time.Fault)

def Use.perform (s : Clocked) : Use → Reply × Clocked
  | .refresh force =>
    let (devices, catalog) := s.catalog.refresh force s.clock.reading
    (.listing devices, { s with catalog })
  | .find id =>
    let (d, catalog) := s.catalog.find id s.clock.reading
    (.choice d, { s with catalog })
  | .select d => (.done, { s with catalog := s.catalog.select d })
  | .autoSelect =>
    let (d, catalog) := s.catalog.autoSelect s.clock.reading
    (.choice d, { s with catalog })
  | .ensureSelected =>
    let (d, catalog) := s.catalog.ensureSelected s.clock.reading
    (.choice d, { s with catalog })
  | .pass seconds =>
    match s.clock.advance seconds with
    | .ok clock => (.done, { s with clock })
    | .error f => (.fault f, s)

/-- Whether a use asks the sources: it is forced to, or it needs the list and that is not fresh. -/
def Use.Asks (s : Clocked) : Use → Prop
  | .refresh force => force = true ∨ s.catalog.IsStale s.clock.reading
  | .find _ => s.catalog.IsStale s.clock.reading
  | .autoSelect => True
  | .ensureSelected => s.catalog.selected = none
  | .select _ | .pass _ => False

instance (s : Clocked) : ∀ use : Use, Decidable (use.Asks s)
  | .refresh _ => inferInstanceAs (Decidable (_ ∨ _))
  | .find _ => inferInstanceAs (Decidable (Catalog.IsStale _ _))
  | .autoSelect => inferInstanceAs (Decidable True)
  | .ensureSelected => inferInstanceAs (Decidable (_ = _))
  | .select _ => inferInstanceAs (Decidable False)
  | .pass _ => inferInstanceAs (Decidable False)

def Clocked.after (s : Clocked) (uses : List Use) : Clocked :=
  uses.foldl (fun s use => (use.perform s).2) s

/-- How many of the uses ask the sources. -/
def Clocked.rounds (s : Clocked) : List Use → ℕ
  | [] => 0
  | use :: rest => (if use.Asks s then 1 else 0) + rounds (use.perform s).2 rest

/-! ### What a use does to the list -/

theorem Catalog.refresh_of_stale {c : Catalog} {force : Bool} {reading : Float}
    (h : force = true ∨ c.IsStale reading) :
    c.refresh force reading = ((c.ask reading).devices, c.ask reading) := by
  have hfresh : (!force && c.isFresh reading) = false := by
    rw [Bool.and_eq_false_iff, Bool.not_eq_false', isFresh_eq_false_iff]
    exact h
  rw [refresh, hfresh]
  rfl

theorem Catalog.refresh_of_fresh {c : Catalog} {force : Bool} {reading : Float}
    (h : ¬ (force = true ∨ c.IsStale reading)) : c.refresh force reading = (c.devices, c) := by
  have hfresh : (!force && c.isFresh reading) = true := by
    rw [← Bool.not_eq_false, Bool.and_eq_false_iff, Bool.not_eq_false', isFresh_eq_false_iff]
    exact h
  rw [refresh, hfresh]
  rfl

variable {s : Clocked} {use : Use}

theorem Use.perform_of_asks (h : use.Asks s) :
    ∃ selected, (use.perform s).2.catalog =
      { s.catalog.ask s.clock.reading with selected := selected } := by
  cases use with
  | refresh force =>
    have hrefresh := Catalog.refresh_of_stale h
    refine ⟨(s.catalog.ask s.clock.reading).selected, ?_⟩
    rw [perform, hrefresh]
  | find id =>
    have hrefresh : s.catalog.refresh false s.clock.reading = _ := Catalog.refresh_of_stale (.inr h)
    refine ⟨(s.catalog.ask s.clock.reading).selected, ?_⟩
    rw [perform, Catalog.find, hrefresh]
  | autoSelect =>
    have hrefresh : s.catalog.refresh true s.clock.reading = _ := Catalog.refresh_of_stale (.inl rfl)
    rw [perform, Catalog.autoSelect, hrefresh]
    dsimp only
    cases Catalog.best? (s.catalog.ask s.clock.reading).devices with
    | none => exact ⟨_, rfl⟩
    | some d => exact ⟨some d, rfl⟩
  | ensureSelected =>
    have hrefresh : s.catalog.refresh true s.clock.reading = _ := Catalog.refresh_of_stale (.inl rfl)
    have hselected : s.catalog.selected = none := h
    rw [perform, Catalog.ensureSelected, hselected, hrefresh]
    exact ⟨_, rfl⟩
  | select d => exact h.elim
  | pass seconds => exact h.elim

theorem Use.perform_of_not_asks (h : ¬ use.Asks s) :
    (use.perform s).2.catalog =
      { s.catalog with selected := (use.perform s).2.catalog.selected } := by
  cases use with
  | refresh force =>
    have hrefresh := Catalog.refresh_of_fresh h
    rw [perform, hrefresh]
  | find id =>
    have hstale : ¬ (false = true ∨ s.catalog.IsStale s.clock.reading) := by
      intro hstale
      exact h (hstale.resolve_left Bool.false_ne_true)
    rw [perform, Catalog.find, Catalog.refresh_of_fresh hstale]
  | autoSelect => exact absurd trivial h
  | ensureSelected =>
    obtain ⟨d, hd⟩ := Option.ne_none_iff_exists'.1 h
    rw [perform, Catalog.ensureSelected, hd]
  | select d => rfl
  | pass seconds =>
    rw [perform]
    cases s.clock.advance seconds <;> rfl

/-! ### Any history -/

structure Setup where
  /-- What each source answers to its calls. -/
  scripts : List (ℕ → Answer)
  freshFor : Number
  includesBrowser : Bool

namespace Setup

def catalog (setup : Setup) : Catalog :=
  { sources := setup.scripts.map fun answer => { answer }
    freshFor := setup.freshFor
    includesBrowser := setup.includesBrowser }

/-- What the sources that answer list when each has been called some number of times before, and the
browser if it is included. -/
def listing (setup : Setup) (calls : ℕ) : List Device :=
  (setup.scripts.flatMap fun answer => Catalog.contribution (answer calls)) ++
    if setup.includesBrowser then [browser] else []

theorem mem_listing_iff {setup : Setup} {calls : ℕ} {d : Device} :
    d ∈ setup.listing calls ↔
      (∃ answer ∈ setup.scripts, ∃ devices, answer calls = .ok devices ∧ d ∈ devices) ∨
        (setup.includesBrowser = true ∧ d = browser) := by
  simp only [listing, List.mem_append, List.mem_flatMap, Catalog.mem_contribution_iff,
    List.mem_ite_nil_right, List.mem_singleton]

/-- The list is the same without a source whose call fails. -/
theorem listing_of_error {failing : ℕ → Answer} {calls : ℕ} {fault : SourceFault}
    (h : failing calls = .error fault) (before after : List (ℕ → Answer)) (freshFor : Number)
    (includesBrowser : Bool) :
    listing ⟨before ++ failing :: after, freshFor, includesBrowser⟩ calls =
      listing ⟨before ++ after, freshFor, includesBrowser⟩ calls := by
  simp only [listing, List.flatMap_append, List.flatMap_cons, h, Catalog.contribution_error,
    List.nil_append]

/-- The list of the last round. -/
def held (setup : Setup) : ℕ → List Device
  | 0 => []
  | rounds + 1 => setup.listing rounds

end Setup

/-- All sources were called in so many rounds, and the list is that of the last one. -/
structure HasAsked (setup : Setup) (rounds : ℕ) (c : Catalog) : Prop where
  sources : c.sources = setup.scripts.map fun answer => { answer, calls := rounds }
  called : c.called = (List.replicate rounds (List.range setup.scripts.length)).flatten
  devices : c.devices = setup.held rounds
  askedAt : c.askedAt = none ↔ rounds = 0
  freshFor : c.freshFor = setup.freshFor
  includesBrowser : c.includesBrowser = setup.includesBrowser

variable {setup : Setup} {rounds : ℕ} {c : Catalog}

theorem HasAsked.new (setup : Setup) : HasAsked setup 0 setup.catalog :=
  ⟨rfl, rfl, rfl, by simp [Setup.catalog], rfl, rfl⟩

theorem HasAsked.select (h : HasAsked setup rounds c) (selected : Option Device) :
    HasAsked setup rounds { c with selected := selected } :=
  ⟨h.sources, h.called, h.devices, h.askedAt, h.freshFor, h.includesBrowser⟩

theorem HasAsked.ask (h : HasAsked setup rounds c) (reading : Float) :
    HasAsked setup (rounds + 1) (c.ask reading) := by
  rw [c.ask_eq]
  refine ⟨?_, ?_, ?_, ?_, h.freshFor, h.includesBrowser⟩
  · rw [h.sources, List.map_map]
    rfl
  · rw [h.called, h.sources, List.length_map, List.replicate_succ', List.flatten_concat]
  · rw [h.sources, h.includesBrowser, List.flatMap_map]
    rfl
  · simp

theorem HasAsked.perform (h : HasAsked setup rounds s.catalog) (use : Use) :
    HasAsked setup (rounds + if use.Asks s then 1 else 0) (use.perform s).2.catalog := by
  by_cases hasks : use.Asks s
  · obtain ⟨selected, hcatalog⟩ := Use.perform_of_asks hasks
    rw [if_pos hasks, hcatalog]
    exact (h.ask s.clock.reading).select selected
  · rw [if_neg hasks, Use.perform_of_not_asks hasks]
    exact h.select _

theorem HasAsked.after (h : HasAsked setup rounds s.catalog) (uses : List Use) :
    HasAsked setup (rounds + s.rounds uses) (s.after uses).catalog := by
  induction uses generalizing s rounds with
  | nil => exact h
  | cons use rest ih =>
    rw [Clocked.rounds, ← Nat.add_assoc]
    exact ih (h.perform use)

end ScriptRun.Device
