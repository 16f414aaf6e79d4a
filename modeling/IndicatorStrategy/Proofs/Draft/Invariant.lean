import Mathlib
import IndicatorStrategy.Draft.Edit
/-!
# IndicatorStrategy.Proofs.Draft.Invariant

**What every edit keeps.** A draft never runs out of groups nor a group out of
entries, a constant only stands beside the constant reference, and the parameters
of an entry fit its kind: the fields of the kind come first, in the order of the
catalog, and each value has the type of its field.

* `Parameters.Fit`, `Entry.WellFormed`, `Group.WellFormed` and `Draft.WellFormed`
  build the invariant up from its parts.
* `Draft.mem_groups_apply` says what an edit makes of the groups, one case for each
  edit; what all entries keep and that the draft stays well formed is read off it.
* `Draft.WellFormed.apply` is the step, and `Draft.WellFormed.applyAll` the run.

The compiler's fixed order of operands rests on `Parameters.Fit`: a field is never
missing, so no value can slip into the place of another.
-/

namespace IndicatorStrategy

/-! ### Types of values -/

/-- The type of field that a value belongs to. -/
def Operand.type : Operand → FieldType
  | number _ => .integer
  | text _ => .text

@[simp] theorem Operand.type_initial (t : FieldType) : (Operand.initial t).type = t := by
  cases t <;> rfl

theorem Operand.eq_number_of_type {v : Operand} (h : v.type = .integer) :
    ∃ x, v = .number x := by
  cases v with
  | number x => exact ⟨x, rfl⟩
  | text s => simp [Operand.type] at h

theorem Operand.eq_text_of_type {v : Operand} (h : v.type = .text) : ∃ s, v = .text s := by
  cases v with
  | number x => simp [Operand.type] at h
  | text s => exact ⟨s, rfl⟩

/-- The type of the value under a key of a kind. Under a key that the kind does not
know stands text. -/
def Catalog.typeOf (kind key : String) : FieldType :=
  match field? kind key with
  | some f => f.type
  | none => .text

@[simp] theorem Operand.type_ofField (kind key raw : String) :
    (Operand.ofField kind key raw).type = Catalog.typeOf kind key := by
  unfold Operand.ofField Catalog.typeOf
  cases h : Catalog.field? kind key with
  | none => rfl
  | some f =>
    obtain ⟨_, _, type⟩ := f
    cases type <;> rfl

/-! ### Fields of a kind -/

namespace Catalog

/-- The keys of a kind's fields, in the order of the catalog. -/
def fieldKeys (kind : String) : List String := (fields kind).map (·.key)

/-- The fields of a kind are those of one indicator, or there are none. -/
theorem fields_cases (kind : String) :
    fields kind = [] ∨ ∃ i ∈ indicators, i.kind = kind ∧ fields kind = i.fields := by
  cases h : find? kind with
  | none => exact .inl (by simp [fields, h])
  | some i =>
    refine .inr ⟨i, List.mem_of_find?_eq_some h, ?_, by simp [fields, h]⟩
    simpa using List.find?_some h

theorem nodup_fieldKeys (kind : String) : (fieldKeys kind).Nodup := by
  have hall : ∀ i ∈ indicators, (i.fields.map (·.key)).Nodup := by decide
  rcases fields_cases kind with h | ⟨i, hi, -, h⟩
  · simp [fieldKeys, h]
  · rw [fieldKeys, h]
    exact hall i hi

/-- A field is the one that its key finds. -/
theorem field?_of_mem {kind : String} {f : Field} (hf : f ∈ fields kind) :
    field? kind f.key = some f := by
  have hn : ((fields kind).map (·.key)).Nodup := nodup_fieldKeys kind
  rw [field?]
  generalize fields kind = fs at hf hn
  induction fs with
  | nil => simp at hf
  | cons g gs ih =>
    obtain ⟨hg, hn⟩ := List.nodup_cons.mp hn
    rcases List.mem_cons.mp hf with rfl | hf
    · simp
    · have hne : g.key ≠ f.key := fun e => hg (List.mem_map.mpr ⟨f, hf, e.symm⟩)
      rw [List.find?_cons_of_neg (by simpa using hne)]
      exact ih hf hn

theorem typeOf_of_mem {kind : String} {f : Field} (hf : f ∈ fields kind) :
    typeOf kind f.key = f.type := by
  rw [typeOf, field?_of_mem hf]

theorem field?_of_not_mem {kind key : String} (h : key ∉ fieldKeys kind) :
    field? kind key = none := by
  rw [field?, List.find?_eq_none]
  intro f hf he
  exact h (List.mem_map.mpr ⟨f, hf, by simpa using he⟩)

theorem typeOf_of_not_mem {kind key : String} (h : key ∉ fieldKeys kind) :
    typeOf kind key = .text := by
  rw [typeOf, field?_of_not_mem h]

end Catalog

/-! ### Parameters -/

namespace Parameters

/-- Parameters as the catalog knows their kind: the fields of the kind first, then
whatever else was set, each key once and each value of its type. -/
structure Fit (kind : String) (ps : Parameters) : Prop where
  nodup : (Assoc.keys ps).Nodup
  fieldsFirst : Catalog.fieldKeys kind <+: Assoc.keys ps
  typed : ∀ p ∈ ps, p.2.type = Catalog.typeOf kind p.1

theorem initial_eq (kind : String) :
    initial kind = (Catalog.fields kind).map fun f => (f.key, Operand.initial f.type) := by
  have h := Assoc.foldl_put_eq_append ([] : Parameters)
    ((Catalog.fields kind).map fun f => (f.key, Operand.initial f.type))
    (by simpa [Assoc.keys, Function.comp_def, Catalog.fieldKeys] using
      Catalog.nodup_fieldKeys kind)
  rwa [List.foldl_map] at h

@[simp] theorem keys_initial (kind : String) :
    Assoc.keys (initial kind) = Catalog.fieldKeys kind := by
  simp [initial_eq, Assoc.keys, Catalog.fieldKeys]

theorem fit_initial (kind : String) : Fit kind (initial kind) where
  nodup := by
    rw [keys_initial]
    exact Catalog.nodup_fieldKeys kind
  fieldsFirst := keys_initial kind ▸ List.prefix_refl _
  typed := by
    intro p hp
    rw [initial_eq] at hp
    obtain ⟨f, hf, rfl⟩ := List.mem_map.mp hp
    rw [Operand.type_initial, Catalog.typeOf_of_mem hf]

/-- Setting one parameter keeps the fields in front, whatever its key. -/
theorem Fit.put {kind : String} {ps : Parameters} (h : Fit kind ps) {key : String}
    {value : Operand} (hv : value.type = Catalog.typeOf kind key) :
    Fit kind (Assoc.put ps key value) where
  nodup := Assoc.nodup_keys_put h.nodup key value
  fieldsFirst := by
    -- a known key keeps its place and a new one comes last
    rw [Assoc.keys_put]
    split
    · exact h.fieldsFirst
    · exact h.fieldsFirst.trans (List.prefix_append _ _)
  typed := by
    intro p hp
    rcases Assoc.mem_put hp with rfl | hp
    · exact hv
    · exact h.typed p hp

/-- A field of the kind is always there, with a value of its type. -/
theorem Fit.get?_field {kind : String} {ps : Parameters} (h : Fit kind ps) {f : Field}
    (hf : f ∈ Catalog.fields kind) :
    ∃ v, Assoc.get? ps f.key = some v ∧ v.type = f.type := by
  have hk : f.key ∈ Assoc.keys ps := h.fieldsFirst.subset (List.mem_map_of_mem hf)
  cases hv : Assoc.get? ps f.key with
  | none => exact absurd hk ((Assoc.get?_eq_none_iff ps f.key).mp hv)
  | some v =>
    refine ⟨v, rfl, ?_⟩
    rw [h.typed _ (Assoc.mem_of_get? hv), Catalog.typeOf_of_mem hf]

end Parameters

/-! ### Entries -/

/-- An entry whose constant has a reference that uses it and whose parameters fit
its kind. -/
structure Entry.WellFormed (e : Entry) : Prop where
  reference : e.constant? ≠ none → e.reference = .constant
  parameters : Parameters.Fit e.kind e.parameters

namespace Entry

theorem wellFormed_blank (id : Nat) : (blank id).WellFormed :=
  ⟨fun h => absurd rfl h, Parameters.fit_initial ""⟩

theorem WellFormed.apply {e : Entry} (h : e.WellFormed) (c : Change) :
    (e.apply c).WellFormed := by
  cases c with
  | kind kind => exact ⟨h.reference, Parameters.fit_initial kind⟩
  | parameter key raw => exact ⟨h.reference, h.parameters.put (Operand.type_ofField ..)⟩
  | trend trend => exact ⟨h.reference, h.parameters⟩
  | reference reference => exact ⟨fun hc => absurd rfl hc, h.parameters⟩
  | constant value =>
    rw [Entry.apply]
    split
    · rename_i hr
      exact ⟨fun _ => hr, h.parameters⟩
    · exact h

end Entry

/-! ### What an edit makes of the groups -/

/-- Taking one of several elements away leaves some. -/
theorem eraseIdx_ne_nil {α : Type} {xs : List α} (h : 1 < xs.length) (i : Nat) :
    xs.eraseIdx i ≠ [] := by
  rw [← List.length_pos_iff, List.length_eraseIdx]
  split <;> omega

/-- Once one element was changed, each one is as it was or is what became of one. -/
theorem mem_modify_cases {α : Type} {f : α → α} {xs : List α} {i : Nat} {x : α}
    (h : x ∈ xs.modify i f) : x ∈ xs ∨ ∃ y ∈ xs, x = f y := by
  obtain ⟨j, hj, rfl⟩ := List.mem_iff_getElem.mp h
  have hmem := List.getElem_mem (List.length_modify f xs i ▸ hj)
  rw [List.getElem_modify]
  split
  · exact .inr ⟨_, hmem, rfl⟩
  · exact .inl hmem

/-- What a group may be after an edit: the group as it was, or with a blank entry more, with
one of several entries less, or with an entry changed as the edit says. -/
inductive Group.Becomes (edit : Edit) (g : Group) : Group → Prop
  | same : g.Becomes edit g
  | longer (id : Nat) : g.Becomes edit { g with entries := g.entries ++ [Entry.blank id] }
  | shorter (j : Nat) (hmore : 1 < g.entries.length) :
    g.Becomes edit { g with entries := g.entries.eraseIdx j }
  | changed {i : Nat} (j : Nat) {c : Change} (hedit : edit = .change i j c) :
    g.Becomes edit { g with entries := g.entries.modify j (·.apply c) }

namespace Group.Becomes

variable {g g' : Group} {edit : Edit}

theorem entries_ne_nil (h : g.Becomes edit g') (hg : g.entries ≠ []) : g'.entries ≠ [] := by
  cases h with
  | same => exact hg
  | longer id => exact List.append_ne_nil_of_left_ne_nil hg _
  | shorter j hmore => exact eraseIdx_ne_nil hmore j
  | changed j hedit => exact fun hnil => hg (List.modify_eq_nil_iff.mp hnil)

theorem forall_entry {P : Entry → Prop} (h : g.Becomes edit g')
    (hblank : ∀ id, P (Entry.blank id))
    (hchange : ∀ i j c, edit = .change i j c → ∀ e, P e → P (e.apply c))
    (hg : ∀ e ∈ g.entries, P e) : ∀ e ∈ g'.entries, P e := by
  intro e he
  cases h with
  | same => exact hg e he
  | longer id =>
    rcases List.mem_append.mp he with he | he
    · exact hg e he
    · rw [List.mem_singleton.mp he]
      exact hblank id
  | shorter j hmore => exact hg e (List.mem_of_mem_eraseIdx he)
  | changed j hedit =>
    rcases mem_modify_cases he with hold | ⟨old, hold, rfl⟩
    · exact hg e hold
    · exact hchange _ _ _ hedit old (hg old hold)

end Group.Becomes

namespace Draft

/-- **Every group after an edit** is a blank one or what became of one before it. -/
theorem mem_groups_apply {d : Draft} {edit : Edit} {g' : Group}
    (h : g' ∈ (d.apply edit).groups) :
    (∃ id, g' = Group.blank id) ∨ ∃ g ∈ d.groups, g.Becomes edit g' := by
  -- three of the edits modify the group at a position and leave the others alone
  have hmodify {i : Nat} {f : Group → Group} (hf : ∀ g : Group, g.Becomes edit (f g))
      (hmem : g' ∈ d.groups.modify i f) : ∃ g ∈ d.groups, g.Becomes edit g' := by
    rcases mem_modify_cases hmem with hg | ⟨g, hg, rfl⟩
    · exact ⟨g', hg, .same⟩
    · exact ⟨g, hg, hf g⟩
  cases edit with
  | addGroup =>
    rcases List.mem_append.mp h with hg | hg
    · exact .inr ⟨g', hg, .same⟩
    · exact .inl ⟨_, List.mem_singleton.mp hg⟩
  | removeGroup i =>
    refine .inr ⟨g', ?_, .same⟩
    simp only [apply, removeGroup] at h
    split at h
    · exact List.mem_of_mem_eraseIdx h
    · exact h
  | addEntry i =>
    simp only [apply, addEntry] at h
    split at h
    · exact .inr (hmodify (fun _ => .longer _) h)
    · exact .inr ⟨g', h, .same⟩
  | removeEntry i j =>
    refine .inr (hmodify (fun g => ?_) h)
    split
    · rename_i hmore
      exact .shorter j hmore
    · exact .same
  | change i j c => exact .inr (hmodify (fun _ => .changed j rfl) h)

theorem groups_apply_ne_nil {d : Draft} (h : d.groups ≠ []) (edit : Edit) :
    (d.apply edit).groups ≠ [] := by
  have hmodify (i : Nat) (f : Group → Group) : d.groups.modify i f ≠ [] :=
    fun hnil => h (List.modify_eq_nil_iff.mp hnil)
  cases edit with
  | addGroup => exact List.append_ne_nil_of_left_ne_nil h _
  | removeGroup i =>
    simp only [apply, removeGroup]
    split
    · rename_i hmore
      exact eraseIdx_ne_nil hmore i
    · exact h
  | addEntry i =>
    simp only [apply, addEntry]
    split
    · exact hmodify i _
    · exact h
  | removeEntry i j => exact hmodify i _
  | change i j c => exact hmodify i _

/-- What blank entries have and a change keeps, all entries keep under an edit. -/
theorem forall_entry_apply {P : Entry → Prop} (hblank : ∀ id, P (Entry.blank id)) {d : Draft}
    (hd : ∀ g ∈ d.groups, ∀ e ∈ g.entries, P e) {edit : Edit}
    (hchange : ∀ i j c, edit = .change i j c → ∀ e, P e → P (e.apply c)) :
    ∀ g ∈ (d.apply edit).groups, ∀ e ∈ g.entries, P e := by
  intro g' hg'
  rcases mem_groups_apply hg' with ⟨id, rfl⟩ | ⟨g, hg, hbecomes⟩
  · intro e he
    rw [List.mem_singleton.mp he]
    exact hblank _
  · exact hbecomes.forall_entry hblank hchange (hd g hg)

/-- Under a list of edits they keep what each change among these keeps. -/
theorem forall_entry_applyAll {P : Entry → Prop} (hblank : ∀ id, P (Entry.blank id)) {d : Draft}
    (hd : ∀ g ∈ d.groups, ∀ e ∈ g.entries, P e) {es : List Edit}
    (hchange : ∀ i j c, .change i j c ∈ es → ∀ e, P e → P (e.apply c)) :
    ∀ g ∈ (d.applyAll es).groups, ∀ e ∈ g.entries, P e := by
  induction es generalizing d with
  | nil => exact hd
  | cons edit es ih =>
    refine ih (forall_entry_apply hblank hd fun i j c he => ?_) fun i j c he => ?_
    · exact hchange i j c (he ▸ List.mem_cons_self ..)
    · exact hchange i j c (List.mem_cons_of_mem _ he)

/-- What blank entries have and each change keeps, all conditions of an edited draft
have. -/
theorem forall_active_edited {P : Entry → Prop} (hblank : ∀ id, P (Entry.blank id))
    {es : List Edit} (hchange : ∀ i j c, .change i j c ∈ es → ∀ e, P e → P (e.apply c)) :
    ∀ e ∈ (blank.applyAll es).active, P e := by
  intro e he
  obtain ⟨g, hg, he⟩ := List.mem_flatMap.mp he
  refine forall_entry_applyAll hblank (fun g hg e he => ?_) hchange g hg e
    (List.mem_filter.mp he).1
  rw [List.mem_singleton.mp hg] at he
  rw [List.mem_singleton.mp he]
  exact hblank _

end Draft

/-! ### Well-formed drafts -/

structure Group.WellFormed (g : Group) : Prop where
  nonempty : g.entries ≠ []
  entries : ∀ e ∈ g.entries, e.WellFormed

structure Draft.WellFormed (d : Draft) : Prop where
  nonempty : d.groups ≠ []
  groups : ∀ g ∈ d.groups, g.WellFormed

theorem Group.wellFormed_blank (id : Nat) : (Group.blank id).WellFormed where
  nonempty := List.cons_ne_nil _ _
  entries := by
    intro e he
    rw [List.mem_singleton.mp he]
    exact Entry.wellFormed_blank _

namespace Draft

theorem wellFormed_blank : blank.WellFormed where
  nonempty := List.cons_ne_nil _ _
  groups := by
    intro g hg
    rw [List.mem_singleton.mp hg]
    exact Group.wellFormed_blank 0

/-- **Every edit keeps a draft well formed**, also one that addresses nothing. -/
theorem WellFormed.apply {d : Draft} (h : d.WellFormed) (edit : Edit) :
    (d.apply edit).WellFormed where
  nonempty := groups_apply_ne_nil h.nonempty edit
  groups := by
    have hentries := forall_entry_apply Entry.wellFormed_blank
      (fun g hg => (h.groups g hg).entries) (fun _ _ c (_ : edit = _) _ he => he.apply c)
    intro g' hg'
    refine ⟨?_, hentries g' hg'⟩
    rcases mem_groups_apply hg' with ⟨id, rfl⟩ | ⟨g, hg, hbecomes⟩
    · exact List.cons_ne_nil _ _
    · exact hbecomes.entries_ne_nil (h.groups g hg).nonempty

/-- So does every list of edits. -/
theorem WellFormed.applyAll {d : Draft} (h : d.WellFormed) (es : List Edit) :
    (d.applyAll es).WellFormed := by
  induction es generalizing d with
  | nil => exact h
  | cons e es ih => exact ih (h.apply e)

/-- Drafts that editing leads to are well formed. -/
theorem wellFormed_edited (es : List Edit) : (blank.applyAll es).WellFormed :=
  wellFormed_blank.applyAll es

end Draft

/-! ### The invariant in full -/

namespace Parameters

/-- Behind the fields of the kind stand texts under other keys. -/
theorem Fit.keys_eq {kind : String} {ps : Parameters} (h : Fit kind ps) :
    ∃ others, Assoc.keys ps = Catalog.fieldKeys kind ++ others ∧
      ∀ key ∈ others, key ∉ Catalog.fieldKeys kind ∧
        ∃ s, Assoc.get? ps key = some (.text s) := by
  obtain ⟨others, ho⟩ := h.fieldsFirst
  refine ⟨others, ho.symm, fun key hk => ?_⟩
  have hkey : key ∉ Catalog.fieldKeys kind := by
    intro hf
    have hn := h.nodup
    rw [← ho, List.nodup_append] at hn
    exact hn.2.2 _ hf _ hk rfl
  have hmem : key ∈ Assoc.keys ps := ho ▸ List.mem_append_right _ hk
  obtain ⟨p, hp, rfl⟩ := List.mem_map.mp hmem
  obtain ⟨s, hs⟩ := Operand.eq_text_of_type
    ((h.typed p hp).trans (Catalog.typeOf_of_not_mem hkey))
  exact ⟨hkey, s, hs ▸ Assoc.get?_of_mem h.nodup hp⟩

end Parameters

/-- **The shape of an edited draft.** After any edits there is a group and every group
has an entry. In every entry a constant has the constant reference and no key stands
twice. The parameters of an indicator are its fields, in the order of the catalog,
numbers in integer fields and texts in text fields, and then texts under other keys.
Where the kind is no indicator, all parameters are texts. -/
theorem Draft.shape_edited (es : List Edit) :
    (Draft.blank.applyAll es).groups ≠ [] ∧
    ∀ g ∈ (Draft.blank.applyAll es).groups, g.entries ≠ [] ∧
    ∀ e ∈ g.entries,
      (∀ x, e.constant? = some x → e.reference = .constant) ∧
      (Assoc.keys e.parameters).Nodup ∧
      (Catalog.isKnown e.kind = true →
        (∃ others, Assoc.keys e.parameters = Catalog.fieldKeys e.kind ++ others ∧
          ∀ key ∈ others, key ∉ Catalog.fieldKeys e.kind ∧
            ∃ s, Assoc.get? e.parameters key = some (.text s)) ∧
        ∀ f ∈ Catalog.fields e.kind,
          (f.type = .integer → ∃ x, Assoc.get? e.parameters f.key = some (.number x)) ∧
          (f.type = .text → ∃ s, Assoc.get? e.parameters f.key = some (.text s))) ∧
      (Catalog.isKnown e.kind = false → ∀ p ∈ e.parameters, ∃ s, p.2 = .text s) := by
  have hd := Draft.wellFormed_edited es
  refine ⟨hd.nonempty, fun g hg => ⟨(hd.groups g hg).nonempty, fun e he => ?_⟩⟩
  have hw := (hd.groups g hg).entries e he
  refine ⟨fun x hx => hw.reference (by simp [hx]), hw.parameters.nodup, fun _ => ?_, ?_⟩
  · refine ⟨hw.parameters.keys_eq, fun f hf => ?_⟩
    obtain ⟨v, hv, ht⟩ := hw.parameters.get?_field hf
    rw [hv]
    constructor
    · intro hi
      obtain ⟨x, rfl⟩ := Operand.eq_number_of_type (ht.trans hi)
      exact ⟨x, rfl⟩
    · intro hi
      obtain ⟨s, rfl⟩ := Operand.eq_text_of_type (ht.trans hi)
      exact ⟨s, rfl⟩
  · intro hk p hp
    refine Operand.eq_text_of_type ((hw.parameters.typed p hp).trans ?_)
    exact Catalog.typeOf_of_not_mem (by simp [Catalog.fieldKeys, Catalog.fields_eq_nil hk])

end IndicatorStrategy
