import Mathlib
import IndicatorStrategy.Proofs.Assoc
import IndicatorStrategy.Proofs.Draft.Invariant
/-!
# IndicatorStrategy.Proofs.Draft.Step

**What one edit touches.** `Draft.Step` has a rule for each kind of edit. A rule takes a
draft apart around the addressed group or entry, and writes what stands before and behind
it as it was. `Edit.Idle` says which edits find nothing to act on.

These are all cases (`Draft.apply_idle_or_step`): an idle edit leaves the draft as it is,
the next number included, and any other edit follows its rule. Later proofs about a single
edit split on the rules and not on positions.
-/

namespace IndicatorStrategy

/-! ### Lists around one position -/

section
variable {α : Type}

/-- What stands at a position has something before and something behind it. -/
theorem exists_append_cons_of_getElem? {xs : List α} {i : Nat} {x : α} (h : xs[i]? = some x) :
    ∃ front back, xs = front ++ x :: back ∧ front.length = i := by
  obtain ⟨hi, rfl⟩ := List.getElem?_eq_some_iff.mp h
  refine ⟨xs.take i, xs.drop (i + 1), ?_, ?_⟩
  · rw [List.getElem_cons_drop, List.take_append_drop]
  · rw [List.length_take]
    omega

theorem modify_length_append_cons (f : α → α) (xs : List α) (x : α) (ys : List α) :
    (xs ++ x :: ys).modify xs.length f = xs ++ f x :: ys := by
  simp [List.modify_eq_take_cons_drop]

theorem eraseIdx_length_append_cons (xs : List α) (x : α) (ys : List α) :
    (xs ++ x :: ys).eraseIdx xs.length = xs ++ ys := by
  rw [List.eraseIdx_append_of_length_le (Nat.le_refl _), Nat.sub_self, List.eraseIdx_cons_zero]

theorem set_length_append_cons (xs : List α) (x : α) (ys : List α) (y : α) :
    (xs ++ x :: ys).set xs.length y = xs ++ y :: ys := by
  rw [List.set_append_right _ _ (Nat.le_refl _), Nat.sub_self, List.set_cons_zero]

/-- One of several elements leaves some behind. -/
theorem append_ne_nil_of_one_lt {xs ys : List α} {x : α} (h : 1 < (xs ++ x :: ys).length) :
    xs ++ ys ≠ [] := by
  rw [← List.length_pos_iff, List.length_append]
  rw [List.length_append, List.length_cons] at h
  omega

/-- Only what stands at the position matters. -/
theorem modify_congr {f g : α → α} {xs : List α} {i : Nat}
    (h : ∀ x, xs[i]? = some x → f x = g x) : xs.modify i f = xs.modify i g := by
  refine List.ext_getElem? fun k => ?_
  rw [List.getElem?_modify, List.getElem?_modify]
  cases hk : xs[k]? with
  | none => rfl
  | some x =>
    by_cases hik : i = k
    · subst hik
      simp [h x hk]
    · simp [hik]

theorem modify_eq_of_fixed {f : α → α} {xs : List α} {i : Nat}
    (h : ∀ x, xs[i]? = some x → f x = x) : xs.modify i f = xs :=
  (modify_congr h).trans (List.modify_id i xs)

end

/-! ### Entries -/

/-- The rules of a change. The fields that it names get their new values, and all others
stay as they are; one parameter is set in its place, or behind the others if its key is
new. -/
inductive Entry.Changes (e : Entry) : Change → Entry → Prop
  | kind (kind : String) :
    e.Changes (.kind kind)
      { e with
        kind := kind
        parameters := (Catalog.fields kind).map fun f => (f.key, Operand.initial f.type) }
  | knownKey {key : String} (raw : String) {front back : Parameters} {old : Operand}
      (hold : e.parameters = front ++ (key, old) :: back) (hkey : key ∉ Assoc.keys front) :
    e.Changes (.parameter key raw)
      { e with parameters := front ++ (key, Operand.ofField e.kind key raw) :: back }
  | newKey {key : String} (raw : String) (hkey : key ∉ Assoc.keys e.parameters) :
    e.Changes (.parameter key raw)
      { e with parameters := e.parameters ++ [(key, Operand.ofField e.kind key raw)] }
  | trend (trend : Trend) : e.Changes (.trend trend) { e with trend := trend }
  | reference (reference : Reference) :
    e.Changes (.reference reference) { e with reference := reference, constant? := none }
  | constant (value : Binary64) (href : e.reference = .constant) :
    e.Changes (.constant value) { e with constant? := some value }

/-- A constant is refused beside any other reference than the constant one. -/
def Change.Refused (e : Entry) : Change → Prop
  | .constant _ => e.reference ≠ .constant
  | _ => False

instance (e : Entry) : DecidablePred (Change.Refused e)
  | .constant _ => inferInstanceAs (Decidable (e.reference ≠ .constant))
  | .kind _ | .parameter .. | .trend _ | .reference _ => inferInstanceAs (Decidable False)

namespace Entry

theorem apply_of_refused {e : Entry} {c : Change} (h : c.Refused e) : e.apply c = e := by
  cases c with
  | constant value =>
    rw [apply]
    split
    · rename_i href
      exact absurd href h
    · rfl
  | _ => exact h.elim

theorem changes_apply {e : Entry} {c : Change} (h : ¬ c.Refused e) : e.Changes c (e.apply c) := by
  cases c with
  | kind kind =>
    rw [apply, Parameters.initial_eq]
    exact .kind kind
  | parameter key raw =>
    rw [apply]
    rcases Assoc.put_cases e.parameters key (Operand.ofField e.kind key raw) with
      ⟨front, old, back, hold, hkey, hput⟩ | ⟨hkey, hput⟩
    · rw [hput]
      exact .knownKey raw hold hkey
    · rw [hput]
      exact .newKey raw hkey
  | trend trend => exact .trend trend
  | reference reference => exact .reference reference
  | constant value =>
    have href : e.reference = .constant := not_not.mp h
    rw [apply]
    split
    · exact .constant value href
    · rename_i hclose
      exact absurd (hclose.symm.trans href) (by decide)

/-- No change gives an entry another number. -/
theorem Changes.id_eq {e e' : Entry} {c : Change} (h : e.Changes c e') : e'.id = e.id := by
  cases h <;> rfl

end Entry

/-! ### Drafts -/

/-- Edits that find nothing to act on: there is no such group or entry, it is the only one,
or the change is refused. -/
def Edit.Idle (d : Draft) : Edit → Prop
  | .addGroup => False
  | .removeGroup i => d.groups.length ≤ i ∨ d.groups.length ≤ 1
  | .addEntry i => d.groups.length ≤ i
  | .removeEntry i j => ∀ g ∈ d.groups[i]?, g.entries.length ≤ j ∨ g.entries.length ≤ 1
  | .change i j c => ∀ e ∈ d.entry? i j, c.Refused e

instance (d : Draft) : DecidablePred (Edit.Idle d)
  | .addGroup => inferInstanceAs (Decidable False)
  | .removeGroup i => inferInstanceAs (Decidable (d.groups.length ≤ i ∨ d.groups.length ≤ 1))
  | .addEntry i => inferInstanceAs (Decidable (d.groups.length ≤ i))
  | .removeEntry i j =>
    inferInstanceAs (Decidable (∀ g ∈ d.groups[i]?, g.entries.length ≤ j ∨ g.entries.length ≤ 1))
  | .change i j c => inferInstanceAs (Decidable (∀ e ∈ d.entry? i j, c.Refused e))

namespace Draft

/-- The rules of an edit. Groups `gs` and `hs` stand before and behind the addressed one,
and entries `es` and `fs` before and behind the addressed one in its group. -/
inductive Step : Draft → Edit → Draft → Prop
  | addGroup {gs : List Group} {n : Nat} :
    Step ⟨gs, n⟩ .addGroup ⟨gs ++ [⟨n, [Entry.blank (n + 1)]⟩], n + 2⟩
  | removeGroup {gs hs : List Group} {g : Group} {n : Nat} (hne : gs ++ hs ≠ []) :
    Step ⟨gs ++ g :: hs, n⟩ (.removeGroup gs.length) ⟨gs ++ hs, n⟩
  | addEntry {gs hs : List Group} {id : Nat} {es : List Entry} {n : Nat} :
    Step ⟨gs ++ ⟨id, es⟩ :: hs, n⟩ (.addEntry gs.length)
      ⟨gs ++ ⟨id, es ++ [Entry.blank n]⟩ :: hs, n + 1⟩
  | removeEntry {gs hs : List Group} {id : Nat} {es fs : List Entry} {e : Entry} {n : Nat}
      (hne : es ++ fs ≠ []) :
    Step ⟨gs ++ ⟨id, es ++ e :: fs⟩ :: hs, n⟩ (.removeEntry gs.length es.length)
      ⟨gs ++ ⟨id, es ++ fs⟩ :: hs, n⟩
  | change {gs hs : List Group} {id : Nat} {es fs : List Entry} {e e' : Entry} {n : Nat}
      {c : Change} (hchange : e.Changes c e') :
    Step ⟨gs ++ ⟨id, es ++ e :: fs⟩ :: hs, n⟩ (.change gs.length es.length c)
      ⟨gs ++ ⟨id, es ++ e' :: fs⟩ :: hs, n⟩

theorem entry?_length (gs : List Group) (id : Nat) (es : List Entry) (e : Entry)
    (fs : List Entry) (hs : List Group) (n : Nat) :
    entry? ⟨gs ++ ⟨id, es ++ e :: fs⟩ :: hs, n⟩ gs.length es.length = some e := by
  simp [Draft.entry?]

/-- A group of a draft has other groups before and behind it. -/
theorem exists_around_group {d : Draft} {i : Nat} (h : i < d.groups.length) :
    ∃ gs g hs n, d = ⟨gs ++ g :: hs, n⟩ ∧ gs.length = i := by
  obtain ⟨groups, n⟩ := d
  obtain ⟨gs, hs, hgroups, hi⟩ := exists_append_cons_of_getElem? (List.getElem?_eq_getElem h)
  exact ⟨gs, groups[i], hs, n, congrArg (Draft.mk · n) hgroups, hi⟩

/-- An entry of a draft has other entries before and behind it in its group. -/
theorem exists_around_entry? {d : Draft} {i j : Nat} {e : Entry} (h : d.entry? i j = some e) :
    ∃ gs hs id es fs n, d = ⟨gs ++ ⟨id, es ++ e :: fs⟩ :: hs, n⟩ ∧ gs.length = i ∧
      es.length = j := by
  obtain ⟨groups, n⟩ := d
  obtain ⟨⟨id, entries⟩, hg, he⟩ := Option.bind_eq_some_iff.mp h
  obtain ⟨gs, hs, rfl, rfl⟩ := exists_append_cons_of_getElem? hg
  obtain ⟨es, fs, rfl, rfl⟩ := exists_append_cons_of_getElem? he
  exact ⟨gs, hs, id, es, fs, n, rfl, rfl, rfl⟩

theorem apply_of_idle {d : Draft} {edit : Edit} (h : edit.Idle d) : d.apply edit = d := by
  cases edit with
  | addGroup => exact h.elim
  | removeGroup i =>
    rw [apply, removeGroup]
    split
    · rename_i hmore
      rw [List.eraseIdx_of_length_le (h.resolve_right (Nat.not_le.mpr hmore))]
    · rfl
  | addEntry i => exact if_neg (Nat.not_lt.mpr h)
  | removeEntry i j =>
    rw [apply, removeEntry, modify_eq_of_fixed]
    intro g hg
    split
    · rename_i hmore
      rw [List.eraseIdx_of_length_le ((h g hg).resolve_right (Nat.not_le.mpr hmore))]
    · rfl
  | change i j c =>
    rw [apply, changeEntry, modify_eq_of_fixed]
    intro g hg
    rw [modify_eq_of_fixed]
    intro e he
    have hentry : d.entry? i j = some e := by rw [Draft.entry?, hg, Option.bind_some, he]
    exact Entry.apply_of_refused (h e hentry)

theorem step_apply {d : Draft} {edit : Edit} (h : ¬ edit.Idle d) : d.Step edit (d.apply edit) := by
  cases edit with
  | addGroup => exact .addGroup
  | removeGroup i =>
    obtain ⟨hi, hlen⟩ := not_or.mp h
    have hmore : 1 < d.groups.length := Nat.not_le.mp hlen
    obtain ⟨gs, g, hs, n, rfl, rfl⟩ := exists_around_group (Nat.not_le.mp hi)
    rw [apply, removeGroup, if_pos hmore, eraseIdx_length_append_cons]
    exact .removeGroup (append_ne_nil_of_one_lt hmore)
  | addEntry i =>
    have hi : i < d.groups.length := Nat.not_le.mp h
    obtain ⟨gs, g, hs, n, rfl, rfl⟩ := exists_around_group hi
    rw [apply, addEntry, if_pos hi, modify_length_append_cons]
    exact .addEntry
  -- what is not idle finds its target, and around that the lists fall into front and back
  | removeEntry i j =>
    simp only [Edit.Idle, not_forall, not_or, Nat.not_le] at h
    obtain ⟨g, hg, hj, hmore⟩ := h
    have hentry : d.entry? i j = some g.entries[j] := by
      rw [Draft.entry?, hg, Option.bind_some, List.getElem?_eq_getElem hj]
    generalize g.entries[j] = e at hentry
    obtain ⟨gs, hs, id, es, fs, n, rfl, rfl, rfl⟩ := exists_around_entry? hentry
    obtain rfl : ⟨id, es ++ e :: fs⟩ = g := by simpa using hg
    rw [apply, removeEntry, modify_length_append_cons, if_pos hmore, eraseIdx_length_append_cons]
    exact .removeEntry (append_ne_nil_of_one_lt hmore)
  | change i j c =>
    simp only [Edit.Idle, not_forall] at h
    obtain ⟨e, hentry, hc⟩ := h
    obtain ⟨gs, hs, id, es, fs, n, rfl, rfl, rfl⟩ := exists_around_entry? hentry
    rw [apply, changeEntry, modify_length_append_cons, modify_length_append_cons]
    exact .change (Entry.changes_apply hc)

/-- **An edit touches only what it addresses.** Where it finds nothing to act on the draft
stays as it is, and its next number too. Otherwise the edit follows its rule: a new group or
entry comes last and is blank; exactly the addressed group or entry is taken out; or in the
addressed entry the fields that the change names are set. All else stays as it was. -/
theorem apply_idle_or_step (d : Draft) (edit : Edit) :
    (edit.Idle d → d.apply edit = d) ∧ (¬ edit.Idle d → d.Step edit (d.apply edit)) :=
  ⟨apply_of_idle, step_apply⟩

end Draft
end IndicatorStrategy
