import Mathlib
import IndicatorStrategy.Proofs.Configuration.Replay
/-!
# IndicatorStrategy.Proofs.Configuration.Places

**How many conditions a side keeps.** A place is a pair of numbers, and a name may write
its numbers with signs and zeros in front. Names that give one place are accepted one by
one, and only one of them has an entry: a side has an entry for each place and not for
each section. No section is lost just when the places differ, as they do where all
numbers are written plainly.
-/

namespace IndicatorStrategy

/-! ### Plain names -/

/-- The name that gives a place in plain numerals. -/
def Address.name (a : Address) : String :=
  a.side.wire ++ "." ++ Numeral.ofNat a.group ++ "." ++ Numeral.ofNat a.entry

/-! ### Counting entries -/

/-- The number of entries of all groups. -/
def Draft.entryCount (d : Draft) : Nat := (d.groups.map (·.entries.length)).sum

/-- A rendering has an entry for each name, and a single one if there are no names. -/
theorem Draft.Renders.entryCount {R : String → Entry → Prop} {names : List (List String)}
    {d : Draft} (h : d.Renders R names) (hnames : ∀ ns ∈ names, ns ≠ []) :
    d.entryCount = max 1 names.flatten.length := by
  unfold Renders at h
  split at h
  · rename_i hnil
    rw [h, hnil]
    rfl
  · rename_i hne
    have hlengths : d.groups.map (·.entries.length) = names.map List.length := by
      rw [← List.forall₂_eq_eq_eq, List.forall₂_map_left_iff, List.forall₂_map_right_iff]
      exact h.flip.imp fun g ns hg => hg.length_eq.symm
    have hpos : 0 < names.flatten.length := by
      obtain ⟨ns, hns⟩ := List.exists_mem_of_ne_nil names hne
      obtain ⟨name, hname⟩ := List.exists_mem_of_ne_nil ns (hnames ns hns)
      exact List.length_pos_of_mem (List.mem_flatten.mpr ⟨ns, hns, hname⟩)
    rw [Draft.entryCount, hlengths, ← List.length_flatten, max_eq_right hpos]

namespace Configuration

variable {c : Configuration}

/-! ### The places of a side -/

/-- The place of each section of a side. -/
def places (c : Configuration) (side : Side) : List Address := (c.placed side).map Prod.fst

/-- The places of a numbering. -/
def Numbers.places (side : Side) (groups : Numbers) : List Address :=
  groups.flatMap fun g => g.2.map fun q => ⟨side, g.1, q.1⟩

theorem Numbers.length_places (side : Side) (groups : Numbers) :
    (places side groups).length = groups.names.flatten.length := by
  simp [places, names, List.length_flatMap, List.length_flatten, Function.comp_def]

theorem Numbering.nodup_places {side : Side} {groups : Numbers} (h : c.Numbering side groups) :
    (groups.places side).Nodup := by
  refine List.nodup_flatMap.mpr ⟨fun g hg => ?_, ?_⟩
  · have hkeys := (h.entriesAscending g hg).nodup_keys
    have hmap : g.2.map (fun q => (⟨side, g.1, q.1⟩ : Address))
        = (Assoc.keys g.2).map (Address.mk side g.1) := by
      simp [Assoc.keys]
    rw [hmap]
    exact hkeys.map fun e e' he => (Address.mk.inj he).2.2
  · have hgroups := List.pairwise_map.mp h.groupsAscending.nodup_keys
    refine hgroups.imp fun {g g'} hne a ha ha' => ?_
    obtain ⟨q, -, rfl⟩ := List.mem_map.mp ha
    obtain ⟨q', -, hq'⟩ := List.mem_map.mp ha'
    exact hne (Address.mk.inj hq').2.1.symm

/-- The places of a numbering are those of the sections, each of them once. -/
theorem Numbering.mem_places {side : Side} {groups : Numbers} (h : c.Numbering side groups)
    (a : Address) : a ∈ groups.places side ↔ a ∈ c.places side := by
  constructor
  · intro ha
    obtain ⟨g, hg, ha⟩ := List.mem_flatMap.mp ha
    obtain ⟨q, hq, rfl⟩ := List.mem_map.mp ha
    obtain ⟨hname, ha⟩ := (h.greatest g hg q hq).1
    exact List.mem_map.mpr ⟨(_, q.2), mem_placed_iff.mpr ⟨hname, ha, rfl⟩, rfl⟩
  · intro ha
    obtain ⟨⟨⟨s, group, entry⟩, name⟩, hp, rfl⟩ := List.mem_map.mp ha
    obtain ⟨hname, haddress, rfl⟩ := mem_placed_iff.mp hp
    obtain ⟨g, hg, rfl⟩ := List.mem_map.mp ((h.mem_groups group).mpr ⟨name, hname, entry, haddress⟩)
    obtain ⟨q, hq, rfl⟩ := List.mem_map.mp ((h.mem_entries g hg entry).mpr ⟨name, hname, haddress⟩)
    exact List.mem_flatMap.mpr ⟨g, hg, List.mem_map.mpr ⟨q, hq, rfl⟩⟩

theorem Numbering.length_names {side : Side} {groups : Numbers} (h : c.Numbering side groups) :
    groups.names.flatten.length = (c.places side).dedup.length := by
  rw [← Numbers.length_places side]
  have hperm : (groups.places side).Perm (c.places side).dedup := by
    refine (List.perm_ext_iff_of_nodup h.nodup_places (List.nodup_dedup _)).mpr fun a => ?_
    rw [h.mem_places, List.mem_dedup]
  exact hperm.length_eq

/-- Counted with repetitions the places are more, unless all of them differ. -/
theorem max_length_dedup_iff (as : List Address) :
    max 1 as.dedup.length = max 1 as.length ↔ as.Nodup := by
  constructor
  · intro h
    cases as with
    | nil => exact List.nodup_nil
    | cons a as =>
      have hpos : 0 < (a :: as).dedup.length :=
        List.length_pos_of_mem (List.mem_dedup.mpr (List.mem_cons_self ..))
      have hlength : (a :: as).dedup.length = (a :: as).length := by
        rwa [max_eq_right hpos, max_eq_right (Nat.succ_pos _)] at h
      rw [← (List.dedup_sublist (a :: as)).eq_of_length hlength]
      exact List.nodup_dedup _
  · intro h
    rw [h.dedup]

/-- Plain names give different places. -/
theorem Normal.nodup_places (h : c.Normal) {side : Side}
    (hplain : ∀ p ∈ c.placed side, p.2 = p.1.name) : (c.places side).Nodup := by
  refine List.pairwise_map.mpr ((h.pairwise_placed side).imp_of_mem fun {p q} hp hq hlt heq => ?_)
  rw [hplain p hp, hplain q hq, heq] at hlt
  exact absurd hlt (Std.lt_irrefl)

/-- **A side keeps a condition for each place.** In an accepted file both sides have their
drafts, with an entry for each place that a section name gives, and a single one if no name
does. These are as many as the sections just when no two of them have one place, as where
all names are plain. -/
theorem entryCount_ofText {text : String} {c : Configuration}
    (hc : Configuration.ofText text = .ok c) (hvalid : c.validate = .ok ()) (side : Side) :
    ∃ d, c.draft side = .ok d ∧
      d.entryCount = max 1 (c.places side).dedup.length ∧
      (d.entryCount = max 1 (c.placed side).length ↔ (c.places side).Nodup) ∧
      ((∀ p ∈ c.placed side, p.2 = p.1.name) →
        d.entryCount = max 1 (c.placed side).length) := by
  have hnormal := normal_ofText hc
  have hnumbering := hnormal.numbering side
  obtain ⟨edits, hedits⟩ := (validate_eq_ok_iff.mp hvalid).exists_edits side
  obtain ⟨d, hd, hrenders⟩ := hnormal.renders_draft hedits
  have hcount : d.entryCount = max 1 (c.places side).dedup.length := by
    rw [← hnumbering.length_names]
    exact hrenders.entryCount hnumbering.names_ne_nil
  have hall : d.entryCount = max 1 (c.placed side).length ↔ (c.places side).Nodup := by
    have hlength : (c.placed side).length = (c.places side).length := by
      rw [places, List.length_map]
    rw [hcount, hlength, max_length_dedup_iff]
  exact ⟨d, hd, hcount, hall, fun hplain => hall.mpr (hnormal.nodup_places hplain)⟩

/-- Two sections with one place, of which both are accepted. -/
def doubledText : String := "[buy.1.1]\nkind = Sma\n[buy.01.1]\nkind = Rsi\n"

/-- Its configuration. -/
def doubledConfiguration : Configuration :=
  ⟨[("buy.01.1", [("kind", some "Rsi")]), ("buy.1.1", [("kind", some "Sma")])]⟩

/-- The draft of its buy side, from which a condition is missing. -/
def doubledDraft : Draft :=
  ⟨[⟨0, [⟨1, "Sma", Parameters.initial "Sma", .above, .close, none⟩]⟩], 2⟩

theorem entryCount_ofText_doubled :
    (Configuration.ofText doubledText = .ok doubledConfiguration ∧
      doubledConfiguration.validate = .ok ()) ∧
    ∃ d, doubledConfiguration.draft .buy = .ok d ∧
      d.entryCount = max 1 (doubledConfiguration.places .buy).dedup.length ∧
      (d.entryCount = max 1 (doubledConfiguration.placed .buy).length
        ↔ (doubledConfiguration.places .buy).Nodup) ∧
      ((∀ p ∈ doubledConfiguration.placed .buy, p.2 = p.1.name) →
        d.entryCount = max 1 (doubledConfiguration.placed .buy).length) := by
  have hc : Configuration.ofText doubledText = .ok doubledConfiguration := by decide +kernel
  have hvalid : doubledConfiguration.validate = .ok () := by decide +kernel
  exact ⟨⟨hc, hvalid⟩, entryCount_ofText hc hvalid .buy⟩

/-- One of its two conditions has no entry. -/
theorem entryCount_doubledDraft :
    Configuration.ofText doubledText = .ok doubledConfiguration ∧
      doubledConfiguration.validate = .ok () ∧
      doubledConfiguration.draft .buy = .ok doubledDraft ∧
      (doubledConfiguration.placed .buy).length = 2 ∧ doubledDraft.entryCount = 1 :=
  ⟨by decide +kernel, by decide +kernel, by decide +kernel, by decide +kernel, rfl⟩

end Configuration
end IndicatorStrategy
