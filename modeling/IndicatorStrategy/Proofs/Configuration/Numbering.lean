import Mathlib
import IndicatorStrategy.Proofs.Configuration.Accepted
import IndicatorStrategy.Proofs.Configuration.Normal
/-!
# IndicatorStrategy.Proofs.Configuration.Numbering

**How the sections of a side are numbered.** Each number that occurs in a name has its
place, groups and entries both ascending, and of the names that give one place the
greatest is there (`Numbering`). The places are filled one after the other: what one name
changes is said by `slot_enter`, and what holds after all of them by `filled_foldl` and
`greatest_foldl`, which are inductions on the names entered so far.
-/

namespace IndicatorStrategy
namespace Configuration

/-- Names by group and entry. -/
abbrev Numbers : Type := Assoc Nat (Assoc Nat String)

/-! ### One name after the other -/

/-- Enters a name at its place. -/
def enter (groups : Numbers) (p : Address × String) : Numbers :=
  Assoc.putSorted groups p.1.group
    (Assoc.putSorted ((Assoc.get? groups p.1.group).getD []) p.1.entry p.2)

theorem numbered_eq (c : Configuration) (side : Side) :
    c.numbered side = (c.placed side).foldl enter [] := rfl

/-- The name at a place. -/
def slot (groups : Numbers) (g e : Nat) : Option String :=
  (Assoc.get? groups g).bind (Assoc.get? · e)

/-- A name is entered at its own place and nowhere else. -/
theorem slot_enter (groups : Numbers) (p : Address × String) (g e : Nat) :
    slot (enter groups p) g e
      = if p.1.group = g ∧ p.1.entry = e then some p.2 else slot groups g e := by
  unfold slot enter
  by_cases hg : p.1.group = g
  · rw [hg, Assoc.get?_putSorted_self, Option.bind_some]
    by_cases he : p.1.entry = e
    · rw [he, Assoc.get?_putSorted_self, if_pos ⟨rfl, rfl⟩]
    · rw [Assoc.get?_putSorted_of_ne _ _ he, if_neg fun h => he h.2]
      cases Assoc.get? groups g <;> rfl
  · rw [Assoc.get?_putSorted_of_ne _ _ hg, if_neg fun h => hg h.1]

/-- Numbers are ascending and every group has an entry. -/
structure InOrder (groups : Numbers) : Prop where
  groupsAscending : Assoc.Ascending groups
  entriesAscending : ∀ g ∈ groups, Assoc.Ascending g.2
  nonempty : ∀ g ∈ groups, g.2 ≠ []

theorem inOrder_nil : InOrder [] :=
  ⟨Assoc.ascending_nil, fun _ h => absurd h List.not_mem_nil,
    fun _ h => absurd h List.not_mem_nil⟩

theorem InOrder.enter {groups : Numbers} (h : InOrder groups) (p : Address × String) :
    InOrder (enter groups p) := by
  have hold : Assoc.Ascending ((Assoc.get? groups p.1.group).getD []) := by
    cases hg : Assoc.get? groups p.1.group with
    | none => exact Assoc.ascending_nil
    | some es => exact h.entriesAscending _ (Assoc.mem_of_get? hg)
  refine ⟨h.groupsAscending.putSorted _ _, fun g hg => ?_, fun g hg => ?_⟩
  · rcases Assoc.mem_putSorted hg with rfl | hg
    · exact hold.putSorted _ _
    · exact h.entriesAscending g hg
  · rcases Assoc.mem_putSorted hg with rfl | hg
    · exact Assoc.putSorted_ne_nil _ _ _
    · exact h.nonempty g hg

theorem InOrder.foldl {groups : Numbers} (h : InOrder groups) (ps : List (Address × String)) :
    InOrder (ps.foldl Configuration.enter groups) := by
  induction ps generalizing groups with
  | nil => exact h
  | cons p ps ih => exact ih (h.enter p)

/-! ### All names -/

/-- A place is filled just when a name gives it. -/
theorem filled_foldl (ps : List (Address × String)) (g e : Nat) :
    (slot (ps.foldl enter []) g e).isSome = true ↔
      ∃ p ∈ ps, p.1.group = g ∧ p.1.entry = e := by
  induction ps using List.reverseRecOn with
  | nil => simp [slot]
  | append_singleton ps p ih =>
    rw [List.foldl_append, List.foldl_cons, List.foldl_nil, slot_enter]
    split
    · rename_i hp
      simp only [Option.isSome_some, true_iff]
      exact ⟨p, List.mem_append_right _ (List.mem_singleton_self p), hp⟩
    · rename_i hp
      rw [ih]
      constructor
      · rintro ⟨q, hq, hplace⟩
        exact ⟨q, List.mem_append_left _ hq, hplace⟩
      · rintro ⟨q, hq, hplace⟩
        rcases List.mem_append.mp hq with hq | hq
        · exact ⟨q, hq, hplace⟩
        · rw [List.mem_singleton.mp hq] at hplace
          exact absurd hplace hp

/-- Of ascending names the greatest one is found at its place. -/
theorem greatest_foldl {ps : List (Address × String)} (h : ps.Pairwise (·.2 < ·.2)) {g e : Nat}
    {x : String} (hx : slot (ps.foldl enter []) g e = some x) :
    (∃ a, (a, x) ∈ ps ∧ a.group = g ∧ a.entry = e) ∧
      ∀ p ∈ ps, p.1.group = g → p.1.entry = e → p.2 ≤ x := by
  -- names are entered in ascending order, so the last one at a place is the greatest
  induction ps using List.reverseRecOn with
  | nil => cases hx
  | append_singleton ps p ih =>
    obtain ⟨hps, -, hlast⟩ := List.pairwise_append.mp h
    rw [List.foldl_append, List.foldl_cons, List.foldl_nil, slot_enter] at hx
    split at hx
    · rename_i hp
      obtain rfl : p.2 = x := by simpa using hx
      refine ⟨⟨p.1, by simp, hp⟩, fun q hq _ _ => ?_⟩
      rcases List.mem_append.mp hq with hq | hq
      · exact Std.le_of_lt (hlast q hq p (List.mem_singleton_self p))
      · rw [List.mem_singleton.mp hq]
    · rename_i hp
      obtain ⟨⟨a, ha, hplace⟩, hmax⟩ := ih hps hx
      refine ⟨⟨a, List.mem_append_left _ ha, hplace⟩, fun q hq hg he => ?_⟩
      rcases List.mem_append.mp hq with hq | hq
      · exact hmax q hq hg he
      · rw [List.mem_singleton.mp hq] at hg he
        exact absurd ⟨hg, he⟩ hp

/-! ### The numbering of a side -/

/-- The sections of a side by their numbers, both ascending. Every number of a name is
there, and behind each pair of numbers stands the greatest of the names that give it. -/
structure Numbering (c : Configuration) (side : Side) (groups : Numbers) : Prop where
  groupsAscending : Assoc.Ascending groups
  entriesAscending : ∀ g ∈ groups, Assoc.Ascending g.2
  mem_groups : ∀ g, g ∈ Assoc.keys groups ↔
    ∃ name ∈ c.names, ∃ e, Address.ofName? name = some ⟨side, g, e⟩
  mem_entries : ∀ g ∈ groups, ∀ e, e ∈ Assoc.keys g.2 ↔
    ∃ name ∈ c.names, Address.ofName? name = some ⟨side, g.1, e⟩
  greatest : ∀ g ∈ groups, ∀ q ∈ g.2,
    (q.2 ∈ c.names ∧ Address.ofName? q.2 = some ⟨side, g.1, q.1⟩) ∧
      ∀ name ∈ c.names, Address.ofName? name = some ⟨side, g.1, q.1⟩ → name ≤ q.2

variable {c : Configuration}

theorem mem_placed_iff {side : Side} {p : Address × String} :
    p ∈ c.placed side ↔
      p.2 ∈ c.names ∧ Address.ofName? p.2 = some p.1 ∧ p.1.side = side := by
  refine ⟨mem_placed, fun ⟨hname, ha, hside⟩ => List.mem_filterMap.mpr ⟨p.2, hname, ?_⟩⟩
  rw [ha, Option.filter_some, if_pos (by simpa using hside), Option.map_some]

/-- A place is that of a name just when the name is among the placed ones. -/
theorem exists_placed_iff {side : Side} {g e : Nat} :
    (∃ p ∈ c.placed side, p.1.group = g ∧ p.1.entry = e) ↔
      ∃ name ∈ c.names, Address.ofName? name = some ⟨side, g, e⟩ := by
  constructor
  · rintro ⟨⟨a, name⟩, hp, rfl, rfl⟩
    obtain ⟨hname, ha, rfl⟩ := mem_placed_iff.mp hp
    exact ⟨name, hname, ha⟩
  · rintro ⟨name, hname, ha⟩
    exact ⟨(⟨side, g, e⟩, name), mem_placed_iff.mpr ⟨hname, ha, rfl⟩, rfl, rfl⟩

theorem Normal.pairwise_placed (h : c.Normal) (side : Side) :
    (c.placed side).Pairwise (·.2 < ·.2) := by
  refine List.Pairwise.filterMap _ ?_ h.names.ascending
  intro x y hxy p hp q hq
  obtain ⟨a, -, rfl⟩ := Option.map_eq_some_iff.mp hp
  obtain ⟨b, -, rfl⟩ := Option.map_eq_some_iff.mp hq
  exact hxy

/-- Places that are filled and places in the lists are the same. -/
theorem slot_eq_some_of_mem {groups : Numbers} (h : InOrder groups) {g : Nat × Assoc Nat String}
    (hg : g ∈ groups) {q : Nat × String} (hq : q ∈ g.2) : slot groups g.1 q.1 = some q.2 := by
  rw [slot, Assoc.get?_of_mem h.groupsAscending.nodup_keys hg, Option.bind_some,
    Assoc.get?_of_mem (h.entriesAscending g hg).nodup_keys hq]

theorem exists_mem_of_slot {groups : Numbers} {g e : Nat} {x : String}
    (h : slot groups g e = some x) : ∃ es, (g, es) ∈ groups ∧ (e, x) ∈ es := by
  obtain ⟨es, hes, hx⟩ := Option.bind_eq_some_iff.mp h
  exact ⟨es, Assoc.mem_of_get? hes, Assoc.mem_of_get? hx⟩

/-- **The sections of a side are numbered** as their names say. -/
theorem Normal.numbering (h : c.Normal) (side : Side) : c.Numbering side (c.numbered side) := by
  rw [numbered_eq]
  have horder := inOrder_nil.foldl (c.placed side)
  have hfilled : ∀ g e, (slot ((c.placed side).foldl enter []) g e).isSome = true ↔
      ∃ name ∈ c.names, Address.ofName? name = some ⟨side, g, e⟩ :=
    fun g e => (filled_foldl (c.placed side) g e).trans exists_placed_iff
  -- numbers in the lists and names are told from each other through the filled places
  refine ⟨horder.groupsAscending, horder.entriesAscending, fun g => ⟨fun hg => ?_, ?_⟩,
    fun g hg e => ⟨fun he => ?_, ?_⟩, fun g hg q hq => ?_⟩
  · obtain ⟨p, hp, rfl⟩ := List.mem_map.mp hg
    obtain ⟨q, hq⟩ := List.exists_mem_of_ne_nil _ (horder.nonempty p hp)
    obtain ⟨name, hname, ha⟩ := (hfilled p.1 q.1).mp
      (Option.isSome_of_eq_some (slot_eq_some_of_mem horder hp hq))
    exact ⟨name, hname, q.1, ha⟩
  · rintro ⟨name, hname, e, ha⟩
    obtain ⟨x, hx⟩ := Option.isSome_iff_exists.mp ((hfilled g e).mpr ⟨name, hname, ha⟩)
    obtain ⟨es, hes, -⟩ := exists_mem_of_slot hx
    exact List.mem_map_of_mem hes
  · obtain ⟨q, hq, rfl⟩ := List.mem_map.mp he
    exact (hfilled g.1 q.1).mp (Option.isSome_of_eq_some (slot_eq_some_of_mem horder hg hq))
  · intro hname
    obtain ⟨x, hx⟩ := Option.isSome_iff_exists.mp ((hfilled g.1 e).mpr hname)
    rw [slot, Assoc.get?_of_mem horder.groupsAscending.nodup_keys hg, Option.bind_some] at hx
    exact List.mem_map_of_mem (Assoc.mem_of_get? hx)
  · obtain ⟨⟨a, ha, hgroup, hentry⟩, hmax⟩ :=
      greatest_foldl (h.pairwise_placed side) (slot_eq_some_of_mem horder hg hq)
    obtain ⟨hname, haddress, hside⟩ := mem_placed_iff.mp ha
    refine ⟨⟨hname, ?_⟩, fun name hname' ha' => ?_⟩
    · rw [haddress, ← hgroup, ← hentry, ← hside]
    · exact hmax (⟨side, g.1, q.1⟩, name) (mem_placed_iff.mpr ⟨hname', ha', rfl⟩) rfl rfl

end Configuration
end IndicatorStrategy
