import Mathlib.Data.List.Find
import Mathlib.Tactic.Common
import ScriptRun.Proofs.Device.Asking

/-!
# Which device is selected

A device that needs no question is also the best one, so the two ways to select a device agree
whenever both give one (`selectors_agree`). That rests on what the sources are documented to list: a
device has one of four types, and it is a browser exactly if its platform is the web. From there on
only the class of a device matters, and both ways look for the first available device of a class.
-/

namespace ScriptRun.Device

/-! ### The class of a device -/

def IsPhysical (d : Device) : Prop := d.type = "physical".toList

def IsVirtual (d : Device) : Prop := d.type = "emulator".toList ∨ d.type = "simulator".toList

def IsBrowser (d : Device) : Prop := d.type = "browser".toList

instance (d : Device) : Decidable d.IsPhysical := inferInstanceAs (Decidable (_ = _))

instance (d : Device) : Decidable d.IsVirtual := inferInstanceAs (Decidable (_ ∨ _))

instance (d : Device) : Decidable d.IsBrowser := inferInstanceAs (Decidable (_ = _))

/-- A device as sources are documented to list it. -/
structure IsDocumented (d : Device) : Prop where
  type : d.IsPhysical ∨ d.IsVirtual ∨ d.IsBrowser
  web : d.IsBrowser ↔ d.platform = "web".toList

instance (d : Device) : Decidable d.IsDocumented :=
  decidable_of_iff ((d.IsPhysical ∨ d.IsVirtual ∨ d.IsBrowser) ∧
      (d.IsBrowser ↔ d.platform = "web".toList))
    ⟨fun h => ⟨h.1, h.2⟩, fun h => ⟨h.type, h.web⟩⟩

/-- The place of the class of a device, from the most to the least wanted. -/
def rank (d : Device) : ℕ := if d.IsPhysical then 0 else if d.IsVirtual then 1 else 2

variable {d : Device}

theorem IsVirtual.not_physical (h : d.IsVirtual) : ¬ d.IsPhysical := by
  intro hphysical
  obtain htype | htype := h
  all_goals
    rw [IsPhysical, htype] at hphysical
    exact absurd hphysical (by decide)

theorem IsBrowser.not_physical (h : d.IsBrowser) : ¬ d.IsPhysical := by
  intro hphysical
  rw [IsBrowser, hphysical] at h
  exact absurd h (by decide)

theorem IsBrowser.not_virtual (h : d.IsBrowser) : ¬ d.IsVirtual := by
  intro hvirtual
  obtain htype | htype := hvirtual
  all_goals
    rw [IsBrowser, htype] at h
    exact absurd h (by decide)

theorem IsPhysical.rank_eq (h : d.IsPhysical) : d.rank = 0 := by
  rw [rank, if_pos h]

theorem IsVirtual.rank_eq (h : d.IsVirtual) : d.rank = 1 := by
  rw [rank, if_neg h.not_physical, if_pos h]

theorem IsBrowser.rank_eq (h : d.IsBrowser) : d.rank = 2 := by
  rw [rank, if_neg h.not_physical, if_neg h.not_virtual]

theorem rank_le (d : Device) : d.rank ≤ 2 := by
  rw [rank]
  split_ifs <;> omega

theorem rank_eq_zero_iff : d.rank = 0 ↔ d.IsPhysical := by
  refine ⟨?_, IsPhysical.rank_eq⟩
  intro hrank
  by_contra hphysical
  rw [rank, if_neg hphysical] at hrank
  split_ifs at hrank

theorem rank_eq_one_iff : d.rank = 1 ↔ d.IsVirtual := by
  refine ⟨?_, IsVirtual.rank_eq⟩
  intro hrank
  by_contra hvirtual
  rw [rank, if_neg hvirtual] at hrank
  split_ifs at hrank
  omega

theorem IsDocumented.rank_eq_two_iff (h : d.IsDocumented) : d.rank = 2 ↔ d.IsBrowser := by
  refine ⟨?_, IsBrowser.rank_eq⟩
  intro hrank
  obtain hphysical | hvirtual | hbrowser := h.type
  · exact absurd (hphysical.rank_eq.symm.trans hrank) (by decide)
  · exact absurd (hvirtual.rank_eq.symm.trans hrank) (by decide)
  · exact hbrowser

theorem IsDocumented.platform_ne_web_iff (h : d.IsDocumented) :
    d.platform ≠ "web".toList ↔ d.rank ≠ 2 := by
  rw [ne_eq, ne_eq, ← h.web, h.rank_eq_two_iff]

/-! ### The first available device of a class -/

/-- The first available device of the class at a place. -/
def first? (k : ℕ) (listing : List Device) : Option Device :=
  listing.find? fun d => d.isAvailable && d.rank == k

def virtuals (listing : List Device) : List Device :=
  listing.filter fun d => d.isAvailable && d.IsVirtual

def sole? : List Device → Option Device
  | [d] => some d
  | _ => none

variable {listing : List Device} {k : ℕ}

theorem first?_eq_none_iff :
    first? k listing = none ↔ ∀ d ∈ listing, d.isAvailable = true → d.rank ≠ k := by
  simp [first?]

theorem first?_eq_some_iff :
    first? k listing = some d ↔ d.isAvailable = true ∧ d.rank = k ∧
      ∃ before after, listing = before ++ d :: after ∧
        ∀ other ∈ before, other.isAvailable = true → other.rank ≠ k := by
  have hother (other : Device) : ((!(other.isAvailable && other.rank == k)) = true) ↔
      (other.isAvailable = true → other.rank ≠ k) := by
    cases other.isAvailable <;> simp
  simp only [first?, List.find?_eq_some_iff_append, Bool.and_eq_true, beq_iff_eq, hother,
    and_assoc, exists_and_right]

theorem head?_virtuals : (virtuals listing).head? = first? 1 listing := by
  rw [virtuals, List.head?_filter, first?]
  apply List.find?_congr
  intro d _
  rw [Bool.eq_iff_iff]
  simp only [Bool.and_eq_true, decide_eq_true_eq, beq_iff_eq, rank_eq_one_iff]

theorem sole?_eq_none_iff {devices : List Device} : sole? devices = none ↔ devices.length ≠ 1 := by
  match devices with
  | [] => simp [sole?]
  | [_] => simp [sole?]
  | _ :: _ :: _ => simp [sole?]

theorem head?_of_sole? {devices : List Device} (h : sole? devices = some d) :
    devices.head? = some d := by
  match devices, h with
  | [_], h => exact h

/-- The earliest available device of the most wanted class of which one is available. -/
def IsEarliestBest (listing : List Device) (d : Device) : Prop :=
  d.isAvailable = true ∧
    (∀ other ∈ listing, other.isAvailable = true → d.rank ≤ other.rank) ∧
    ∃ before after, listing = before ++ d :: after ∧
      ∀ other ∈ before, other.isAvailable = true → d.rank < other.rank

theorem isEarliestBest_iff : IsEarliestBest listing d ↔
    first? d.rank listing = some d ∧ ∀ k < d.rank, first? k listing = none := by
  simp only [first?_eq_some_iff, first?_eq_none_iff]
  constructor
  · intro h
    obtain ⟨havailable, hleast, before, after, hlisting, hbefore⟩ := h
    refine ⟨⟨havailable, trivial, before, after, hlisting, ?_⟩, ?_⟩
    · intro other hother hother_available
      exact (hbefore other hother hother_available).ne'
    · intro k hk other hother hother_available
      have hle := hleast other hother hother_available
      omega
  · intro h
    obtain ⟨⟨havailable, -, before, after, hlisting, hbefore⟩, hnone⟩ := h
    have hleast : ∀ other ∈ listing, other.isAvailable = true → d.rank ≤ other.rank := by
      intro other hother hother_available
      by_contra hlt
      exact hnone other.rank (by omega) other hother hother_available rfl
    refine ⟨havailable, hleast, before, after, hlisting, ?_⟩
    intro other hother hother_available
    have hmem : other ∈ listing := by
      rw [hlisting]
      exact List.mem_append_left _ hother
    have hle := hleast other hmem hother_available
    have hne := hbefore other hother hother_available
    omega

/-! ### What the two ways look for -/

theorem find?_available {types : List Text}
    (htypes : ∀ d ∈ listing, types.contains d.type = (d.rank == k)) :
    (listing.filter isAvailable).find? (fun d => types.contains d.type) = first? k listing := by
  rw [List.find?_filter, first?]
  apply List.find?_congr
  intro d hd
  rw [htypes d hd, Bool.decide_and, Bool.decide_eq_true, Bool.decide_eq_true]

section Documented

variable (hlisting : ∀ d ∈ listing, d.IsDocumented)
include hlisting

theorem best?_eq : Catalog.best? listing =
    (first? 0 listing).or ((first? 1 listing).or (first? 2 listing)) := by
  have hphysical : ∀ d ∈ listing, ["physical".toList].contains d.type = (d.rank == 0) := by
    intro d _
    rw [Bool.eq_iff_iff, beq_iff_eq, rank_eq_zero_iff]
    simp [IsPhysical]
  have hvirtual : ∀ d ∈ listing,
      ["emulator".toList, "simulator".toList].contains d.type = (d.rank == 1) := by
    intro d _
    rw [Bool.eq_iff_iff, beq_iff_eq, rank_eq_one_iff]
    simp [IsVirtual]
  have hbrowser : ∀ d ∈ listing, ["browser".toList].contains d.type = (d.rank == 2) := by
    intro d hd
    rw [Bool.eq_iff_iff, beq_iff_eq, (hlisting d hd).rank_eq_two_iff]
    simp [IsBrowser]
  simp only [Catalog.best?, Catalog.preference, List.findSome?_cons, List.findSome?_nil]
  rw [find?_available hphysical, find?_available hvirtual, find?_available hbrowser]
  cases first? 0 listing <;> cases first? 1 listing <;> cases first? 2 listing <;> rfl

theorem best?_eq_some_iff : Catalog.best? listing = some d ↔ IsEarliestBest listing d := by
  rw [best?_eq hlisting, isEarliestBest_iff]
  constructor
  · intro h
    simp only [Option.or_eq_some_iff] at h
    obtain h0 | ⟨h0, h1 | ⟨h1, h2⟩⟩ := h
    · have hrank := (first?_eq_some_iff.1 h0).2.1
      rw [hrank]
      exact ⟨h0, by omega⟩
    · have hrank := (first?_eq_some_iff.1 h1).2.1
      rw [hrank]
      refine ⟨h1, ?_⟩
      intro k hk
      obtain rfl : k = 0 := by omega
      exact h0
    · have hrank := (first?_eq_some_iff.1 h2).2.1
      rw [hrank]
      refine ⟨h2, ?_⟩
      intro k hk
      obtain rfl | rfl : k = 0 ∨ k = 1 := by omega
      · exact h0
      · exact h1
  · intro h
    obtain ⟨hfirst, hnone⟩ := h
    have hle := d.rank_le
    obtain hrank | hrank | hrank : d.rank = 0 ∨ d.rank = 1 ∨ d.rank = 2 := by omega
    · rw [hrank] at hfirst
      rw [hfirst, Option.some_or]
    · rw [hrank] at hfirst hnone
      rw [hnone 0 (by omega), hfirst, Option.none_or, Option.some_or]
    · rw [hrank] at hfirst hnone
      rw [hnone 0 (by omega), hnone 1 (by omega), hfirst, Option.none_or, Option.none_or]

theorem best?_eq_none_iff :
    Catalog.best? listing = none ↔ ∀ d ∈ listing, d.isAvailable = false := by
  rw [best?_eq hlisting]
  simp only [Option.or_eq_none_iff, first?_eq_none_iff]
  constructor
  · intro h d hd
    obtain ⟨h0, h1, h2⟩ := h
    rw [← Bool.not_eq_true]
    intro havailable
    have hle := d.rank_le
    have hne0 := h0 d hd havailable
    have hne1 := h1 d hd havailable
    have hne2 := h2 d hd havailable
    omega
  · intro h
    simp +contextual [h]

theorem obvious?_eq :
    Catalog.obvious? listing = (first? 0 listing).or (sole? (virtuals listing)) := by
  have hfind : (listing.filter fun d => d.platform != "web".toList && d.isAvailable).find?
      (fun d => d.type == "physical".toList) = first? 0 listing := by
    rw [List.find?_filter, first?]
    apply List.find?_congr
    intro d hd
    have hweb := (hlisting d hd).platform_ne_web_iff
    have hrank : d.type = "physical".toList ↔ d.rank = 0 := rank_eq_zero_iff.symm
    rw [Bool.eq_iff_iff]
    simp only [Bool.and_eq_true, bne_iff_ne, decide_eq_true_eq, beq_iff_eq, hweb, hrank]
    constructor
    · intro h
      exact ⟨h.1.2, h.2⟩
    · intro h
      exact ⟨⟨by omega, h.1⟩, h.2⟩
  rw [Catalog.obvious?, hfind]
  cases hfirst : first? 0 listing with
  | some d => rfl
  | none =>
    have hnone := first?_eq_none_iff.1 hfirst
    have hactive : listing.filter (fun d => d.platform != "web".toList && d.isAvailable) =
        virtuals listing := by
      rw [virtuals]
      apply List.filter_congr
      intro d hd
      have hweb := (hlisting d hd).platform_ne_web_iff
      have hle := d.rank_le
      rw [Bool.eq_iff_iff]
      simp only [Bool.and_eq_true, bne_iff_ne, decide_eq_true_eq, hweb, ← rank_eq_one_iff]
      constructor
      · intro h
        have hne := hnone d hd h.2
        exact ⟨h.2, by omega⟩
      · intro h
        exact ⟨by omega, h.1⟩
    rw [hactive, Option.none_or]
    match virtuals listing with
    | [] => rfl
    | [_] => rfl
    | _ :: _ :: _ => rfl

theorem obvious?_eq_none_iff : Catalog.obvious? listing = none ↔
    (∀ d ∈ listing, d.isAvailable = true → ¬ d.IsPhysical) ∧ (virtuals listing).length ≠ 1 := by
  rw [obvious?_eq hlisting, Option.or_eq_none_iff, first?_eq_none_iff, sole?_eq_none_iff]
  simp only [ne_eq, rank_eq_zero_iff]

/-- A device that needs no question is the first available one of its class, and if it is not
physical no physical one is available. -/
theorem best?_eq_of_obvious? (h : Catalog.obvious? listing = some d) :
    Catalog.best? listing = some d ∧ d.rank < 2 := by
  rw [obvious?_eq hlisting, Option.or_eq_some_iff] at h
  rw [best?_eq hlisting]
  obtain hfirst | ⟨hnone, hsole⟩ := h
  · have hrank := (first?_eq_some_iff.1 hfirst).2.1
    rw [hfirst, Option.some_or]
    exact ⟨rfl, by omega⟩
  · have hfirst : first? 1 listing = some d := by
      rw [← head?_virtuals]
      exact head?_of_sole? hsole
    have hrank := (first?_eq_some_iff.1 hfirst).2.1
    rw [hnone, hfirst, Option.none_or, Option.some_or]
    exact ⟨rfl, by omega⟩

end Documented

/-! ### The two ways on a catalog -/

theorem autoSelect_of_devices {c : Catalog} {reading : Float}
    (hc : (c.ask reading).devices = listing) :
    (c.autoSelect reading).1 = Catalog.best? listing ∧
      (c.autoSelect reading).2.selected = (Catalog.best? listing).or c.selected := by
  have hselected : (c.ask reading).selected = c.selected := by rw [c.ask_eq]
  rw [Catalog.autoSelect, Catalog.refresh_of_stale (.inl rfl), hc]
  dsimp only
  cases Catalog.best? listing with
  | some d => exact ⟨rfl, rfl⟩
  | none => exact ⟨rfl, hselected⟩

theorem ensureSelected_of_devices {c : Catalog} {reading : Float}
    (hc : (c.ask reading).devices = listing) (hselected : c.selected = none) :
    (c.ensureSelected reading).1 = Catalog.obvious? listing ∧
      (c.ensureSelected reading).2.selected = Catalog.obvious? listing := by
  rw [Catalog.ensureSelected, hselected]
  dsimp only
  rw [Catalog.refresh_of_stale (.inl rfl), hc]
  exact ⟨rfl, rfl⟩

/-- On a documented listing and without a selection, a device that needs no question is an available
one of the listing, not in the web, and the best device of whichever catalog gets that listing. There
is none exactly if no physical device is available and the available emulators and simulators are
not exactly one. The best device is the earliest of the most wanted class; without one the selection
stays as it was. -/
theorem selectors_agree (listing : List Device) (hlisting : ∀ d ∈ listing, d.IsDocumented)
    (c : Catalog) (reading : Float) (hc : (c.ask reading).devices = listing) :
    let ensured := c.ensureSelected reading
    let picked := c.autoSelect reading
    (c.selected = none →
      (∀ d, ensured.1 = some d →
        d ∈ listing ∧ d.isAvailable = true ∧ d.platform ≠ "web".toList ∧
          ∀ (other : Catalog) (later : Float), (other.ask later).devices = listing →
            (other.autoSelect later).1 = some d) ∧
      (ensured.1 = none ↔ (∀ d ∈ listing, d.isAvailable = true → ¬ d.IsPhysical) ∧
        (virtuals listing).length ≠ 1) ∧
      ensured.2.selected = ensured.1) ∧
    (∀ d, picked.1 = some d ↔ IsEarliestBest listing d) ∧
    (picked.1 = none ↔ ∀ d ∈ listing, d.isAvailable = false) ∧
    picked.2.selected = picked.1.or c.selected := by
  intro ensured picked
  obtain ⟨hpicked, hpicked_selected⟩ := autoSelect_of_devices hc
  refine ⟨?_, ?_, ?_, ?_⟩
  · intro hselected
    obtain ⟨hensured, hensured_selected⟩ := ensureSelected_of_devices hc hselected
    refine ⟨?_, ?_, hensured_selected.trans hensured.symm⟩
    · intro d hd
      obtain ⟨hbest, hrank⟩ := best?_eq_of_obvious? hlisting (hensured.symm.trans hd)
      obtain ⟨havailable, -, before, after, hmem, -⟩ := (best?_eq_some_iff hlisting).1 hbest
      have hd_listing : d ∈ listing := by simp [hmem]
      have hweb : d.platform ≠ "web".toList := by
        rw [(hlisting d hd_listing).platform_ne_web_iff]
        omega
      refine ⟨hd_listing, havailable, hweb, ?_⟩
      intro other later hother
      rw [(autoSelect_of_devices hother).1, hbest]
    · rw [hensured]
      exact obvious?_eq_none_iff hlisting
  · intro d
    rw [hpicked]
    exact best?_eq_some_iff hlisting
  · rw [hpicked]
    exact best?_eq_none_iff hlisting
  · rw [hpicked_selected, hpicked]

/-- A phone that is away, a simulator that is not booted and one emulator that runs. -/
theorem selectors_agree_lone_emulator :
    let phone : Device :=
      { id := "R99".toList, name := "Old phone".toList, platform := "android".toList
        state := "offline".toList, type := "physical".toList }
    let simulator : Device :=
      { id := "A1B2".toList, name := "iPhone 15".toList, platform := "ios".toList
        state := "Shutdown".toList, type := "simulator".toList }
    let emulator : Device :=
      { id := "emulator-5554".toList, name := "Pixel_API_34".toList, platform := "android".toList
        state := "device".toList, type := "emulator".toList }
    let c : Catalog :=
      { sources := [.ofAnswers [.ok [phone, simulator]], .ofAnswers [.ok [emulator]]] }
    let listing := [phone, simulator, emulator, browser]
    (∀ d ∈ listing, d.IsDocumented) ∧ (c.ask 0.0).devices = listing ∧ c.selected = none ∧
      (c.ensureSelected 0.0).1 = some emulator ∧ (c.autoSelect 0.0).1 = some emulator := by
  intro phone simulator emulator c listing
  have hlisting : ∀ d ∈ listing, d.IsDocumented := by decide
  have hc : (c.ask 0.0).devices = listing := rfl
  have hensured : (c.ensureSelected 0.0).1 = some emulator := by decide
  obtain ⟨hensure, -⟩ := selectors_agree listing hlisting c 0.0 hc
  obtain ⟨-, -, -, hagree⟩ := (hensure rfl).1 emulator hensured
  exact ⟨hlisting, hc, rfl, hensured, hagree c 0.0 hc⟩

end ScriptRun.Device
