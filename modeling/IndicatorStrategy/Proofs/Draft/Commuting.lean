import Mathlib
import IndicatorStrategy.Proofs.Draft.Step
/-!
# IndicatorStrategy.Proofs.Draft.Commuting

**Independent changes commute.** Changes of different entries can be made in either order,
and so can changes of one entry that are about different parts of it (`Change.part`): its
indicator with the parameters, its trend, and what it is compared with.

Two parameters of one entry are about the same part, and in general the later one to be set
for the first time comes last. They commute where both are fields of the kind, because the
fields of a kind are always there (`Parameters.Fit`) and keep their places. Hence the fields
of an indicator may be filled in in any order (`Draft.WellFormed.fill_perm`).
-/

namespace IndicatorStrategy

/-! ### Parts of an entry -/

/-- What an entry is made of. -/
inductive Part
  | indicator
  | trend
  | comparison
  deriving DecidableEq

namespace Change

/-- The part of an entry that a change is about. -/
def part : Change → Part
  | kind _ | parameter .. => .indicator
  | trend _ => .trend
  | reference _ | constant _ => .comparison

/-- Changes of one entry that do not depend on each other: they are about different parts,
or set different fields of the kind of the entry. -/
inductive Independent (kind : String) : Change → Change → Prop
  | parts {a b : Change} (hpart : a.part ≠ b.part) : Independent kind a b
  | fields {key other : String} (raw raw' : String) (hne : key ≠ other)
      (hkey : key ∈ Catalog.fieldKeys kind) (hother : other ∈ Catalog.fieldKeys kind) :
    Independent kind (.parameter key raw) (.parameter other raw')

end Change

namespace Entry

/-- A constant is the only change that looks at a field, and that is its reference. -/
theorem apply_constant (e : Entry) (value : Binary64) : e.apply (.constant value)
    = { e with constant? := if e.reference = .constant then some value else e.constant? } := by
  rw [apply]
  split
  · rename_i href
    rw [if_pos href]
  · rename_i href
    rw [if_neg (by rw [href]; decide)]

theorem apply_constant_comm {b : Change} (h : b.part ≠ .comparison) (e : Entry)
    (value : Binary64) :
    (e.apply (.constant value)).apply b = (e.apply b).apply (.constant value) := by
  cases b with
  | reference | constant => exact absurd rfl h
  | kind | parameter | trend =>
    rw [apply_constant, apply_constant]
    rfl

theorem apply_comm_of_part_ne {a b : Change} (h : a.part ≠ b.part) (e : Entry) :
    (e.apply a).apply b = (e.apply b).apply a := by
  cases a with
  | constant value => exact apply_constant_comm h.symm e value
  | kind | parameter =>
    cases b with
    | kind | parameter => exact absurd rfl h
    | constant value => exact (apply_constant_comm h e value).symm
    | trend | reference => rfl
  | trend =>
    cases b with
    | trend => exact absurd rfl h
    | constant value => exact (apply_constant_comm h e value).symm
    | kind | parameter | reference => rfl
  | reference =>
    cases b with
    | reference | constant => exact absurd rfl h
    | kind | parameter | trend => rfl

/-- Independent changes of a well-formed entry can be made in either order. -/
theorem WellFormed.apply_comm {e : Entry} (he : e.WellFormed) {a b : Change}
    (h : a.Independent e.kind b) : (e.apply a).apply b = (e.apply b).apply a := by
  cases h with
  | parts hpart => exact apply_comm_of_part_ne hpart e
  | fields raw raw' hne hkey hother =>
    simp only [Entry.apply]
    rw [Assoc.put_comm hne (he.parameters.fieldsFirst.subset hkey)]

end Entry

/-! ### Drafts -/

namespace Draft

/-- Changes of different entries commute, and those of one entry if they do there. -/
theorem changeEntry_comm {d : Draft} {i j k l : Nat} {a b : Change}
    (h : (i, j) = (k, l) → ∀ e, d.entry? i j = some e →
      (e.apply a).apply b = (e.apply b).apply a) :
    (d.changeEntry i j a).changeEntry k l b = (d.changeEntry k l b).changeEntry i j a := by
  simp only [changeEntry, Draft.mk.injEq, and_true]
  by_cases hik : i = k
  · subst hik
    rw [List.modify_modify_eq, List.modify_modify_eq]
    refine modify_congr fun g hg => ?_
    simp only [Function.comp_apply, Group.mk.injEq, true_and]
    by_cases hjl : j = l
    · subst hjl
      rw [List.modify_modify_eq, List.modify_modify_eq]
      refine modify_congr fun e he => ?_
      exact h rfl e (by rw [Draft.entry?, hg, Option.bind_some, he])
    · exact List.modify_modify_ne _ _ _ hjl
  · exact List.modify_modify_ne _ _ _ hik

theorem WellFormed.of_entry? {d : Draft} (hd : d.WellFormed) {i j : Nat} {e : Entry}
    (he : d.entry? i j = some e) : e.WellFormed := by
  obtain ⟨g, hg, he⟩ := Option.bind_eq_some_iff.mp he
  exact (hd.groups g (List.mem_of_getElem? hg)).entries e (List.mem_of_getElem? he)

theorem WellFormed.apply_comm {d : Draft} (hd : d.WellFormed) {i j k l : Nat} {a b : Change}
    (h : (i, j) = (k, l) → ∀ e, d.entry? i j = some e → a.Independent e.kind b) :
    (d.apply (.change i j a)).apply (.change k l b)
      = (d.apply (.change k l b)).apply (.change i j a) :=
  changeEntry_comm fun hpos e he => (hd.of_entry? he).apply_comm (h hpos e he)

/-- The entry at a position after a change of it. -/
theorem entry?_changeEntry (d : Draft) (i j : Nat) (c : Change) :
    entry? (d.changeEntry i j c) i j = (d.entry? i j).map (·.apply c) := by
  simp only [Draft.entry?, changeEntry, List.getElem?_modify]
  cases d.groups[i]? <;> simp

/-- The edit that fills in a field. -/
def fill (i j : Nat) (p : String × String) : Edit := .change i j (.parameter p.1 p.2)

/-- **Fields may be filled in in any order**, each of them once. -/
theorem WellFormed.fill_perm {d : Draft} (hd : d.WellFormed) {i j : Nat} {kind : String}
    (hkind : ∀ e, d.entry? i j = some e → e.kind = kind) {ps qs : List (String × String)}
    (hperm : ps.Perm qs) (hnodup : (ps.map Prod.fst).Nodup)
    (hfields : ∀ p ∈ ps, p.1 ∈ Catalog.fieldKeys kind) :
    d.applyAll (ps.map (fill i j)) = d.applyAll (qs.map (fill i j)) := by
  induction hperm generalizing d with
  | nil => rfl
  | cons p hperm ih =>
    obtain ⟨-, hnodup⟩ := List.nodup_cons.mp hnodup
    refine ih (hd.apply _) (fun e he => ?_) hnodup fun q hq => hfields q (List.mem_cons_of_mem _ hq)
    -- filling in a field leaves the kind
    obtain ⟨e', he', rfl⟩ := Option.map_eq_some_iff.mp ((entry?_changeEntry ..).symm.trans he)
    exact hkind e' he'
  | swap p q ps =>
    have hne : q.1 ≠ p.1 := by
      intro heq
      rw [List.map_cons, List.map_cons, heq] at hnodup
      exact (List.nodup_cons.mp hnodup).1 (List.mem_cons_self ..)
    have hboth : (d.apply (fill i j q)).apply (fill i j p)
        = (d.apply (fill i j p)).apply (fill i j q) := by
      refine hd.apply_comm fun _ e he => .fields _ _ hne ?_ ?_
      · exact hkind e he ▸ hfields q (List.mem_cons_self ..)
      · exact hkind e he ▸ hfields p (List.mem_cons_of_mem _ (List.mem_cons_self ..))
    rw [List.map_cons, List.map_cons, List.map_cons, List.map_cons, applyAll_cons, applyAll_cons,
      applyAll_cons, applyAll_cons, hboth]
  | trans hps _ ihps ihqs =>
    refine (ihps hd hkind hnodup hfields).trans (ihqs hd hkind ?_ fun p hp => ?_)
    · exact (hps.map Prod.fst).nodup_iff.mp hnodup
    · exact hfields p (hps.mem_iff.mpr hp)

/-- **Independent changes commute.** After any edits, two changes can be made in either order
if they address different entries, or one entry where they do not depend on each other. And
the fields of the kind of an entry can be filled in in any order, so this order shows in
neither artifact. -/
theorem apply_comm_edited (es : List Edit) :
    (∀ i j k l a b,
      ((i, j) = (k, l) → ∀ e ∈ entry? (blank.applyAll es) i j, a.Independent e.kind b) →
      ((blank.applyAll es).apply (.change i j a)).apply (.change k l b)
        = ((blank.applyAll es).apply (.change k l b)).apply (.change i j a)) ∧
    ∀ i j, ∀ e ∈ entry? (blank.applyAll es) i j, ∀ ps qs : List (String × String),
      ps.Perm qs → (ps.map Prod.fst).Nodup → (∀ p ∈ ps, p.1 ∈ Catalog.fieldKeys e.kind) →
      (blank.applyAll es).applyAll (ps.map (fill i j))
        = (blank.applyAll es).applyAll (qs.map (fill i j)) := by
  have hd := wellFormed_edited es
  refine ⟨fun i j k l a b h => hd.apply_comm h, fun i j e he ps qs hperm hnodup hfields => ?_⟩
  refine hd.fill_perm (fun e' he' => ?_) hperm hnodup hfields
  obtain rfl := Option.some.inj (he.symm.trans he')
  rfl

/-- Edits that lead to an entry with three fields, beside a blank one. -/
def macdEdits : List Edit :=
  [.addEntry 0, .change 0 0 (.kind "Macd"), .change 0 0 (.parameter "note" "x"),
    .change 0 0 (.reference .constant)]

/-- Its fields still have the values that they start with. -/
def macdEntry : Entry :=
  ⟨1, "Macd", [("slowperiod", .number .zero), ("fastperiod", .number .zero),
    ("signalperiod", .number .zero), ("note", .text "x")], .above, .constant, none⟩

/-- The texts of the fields, in the order of the catalog. -/
def macdTexts : List (String × String) :=
  [("slowperiod", "26"), ("fastperiod", "12"), ("signalperiod", "9")]

theorem apply_comm_macdEdits :
    (Draft.entry? (blank.applyAll macdEdits) 0 0 = some macdEntry ∧
      (Change.parameter "fastperiod" "12").Independent "Macd" (.parameter "slowperiod" "26")) ∧
    ((blank.applyAll macdEdits).apply (.change 0 0 (.parameter "fastperiod" "12"))).apply
        (.change 0 0 (.parameter "slowperiod" "26"))
      = ((blank.applyAll macdEdits).apply (.change 0 0 (.parameter "slowperiod" "26"))).apply
        (.change 0 0 (.parameter "fastperiod" "12")) ∧
    (macdTexts.Perm macdTexts.reverse ∧ (macdTexts.map Prod.fst).Nodup ∧
      ∀ p ∈ macdTexts, p.1 ∈ Catalog.fieldKeys "Macd") ∧
    (blank.applyAll macdEdits).applyAll (macdTexts.map (fill 0 0))
      = (blank.applyAll macdEdits).applyAll (macdTexts.reverse.map (fill 0 0)) := by
  have hentry : entry? (blank.applyAll macdEdits) 0 0 = some macdEntry := by decide
  have hindependent : (Change.parameter "fastperiod" "12").Independent "Macd"
      (.parameter "slowperiod" "26") := .fields _ _ (by decide) (by decide) (by decide)
  have hperm : macdTexts.Perm macdTexts.reverse := (List.reverse_perm _).symm
  have hnodup : (macdTexts.map Prod.fst).Nodup := by decide
  have hfields : ∀ p ∈ macdTexts, p.1 ∈ Catalog.fieldKeys "Macd" := by decide
  refine ⟨⟨hentry, hindependent⟩, ?_, ⟨hperm, hnodup, hfields⟩, ?_⟩
  · refine (apply_comm_edited macdEdits).1 0 0 0 0 _ _ fun _ e he => ?_
    obtain rfl := Option.some.inj (hentry.symm.trans he)
    exact hindependent
  · exact (apply_comm_edited macdEdits).2 0 0 macdEntry hentry _ _ hperm hnodup hfields

end Draft
end IndicatorStrategy
