import Mathlib
import IndicatorStrategy.Proofs.Configuration.Normal
import IndicatorStrategy.Proofs.Draft.Invariant
import IndicatorStrategy.Configuration.Replay
/-!
# IndicatorStrategy.Proofs.Configuration.Entry

**The condition that a section describes.** What an entry should be is told from the
contents of its section alone (`Section.Describes`). The changes that a section makes
lead a blank entry there, whatever its number (`Normal.describes_applyAll`): the kind
comes first and brings the initial values of its fields, the parameters of the kind are
stored in their places, all others are appended, and a constant finds its reference set.
-/

namespace IndicatorStrategy

/-! ### What a section says -/

namespace Section

/-- The kind without blanks around it; none if there is no such key. -/
def kind (s : Section) : String := ((s.value? "kind").map trim).getD ""

/-- The text under a key; a key without a value counts as empty. -/
def text (s : Section) (key : String) : String := (s.value? key).getD ""

/-- The value of a field: what is under its key, read as the field asks, or else what the
field starts with. -/
def fieldValue (s : Section) (f : Field) : Operand :=
  if f.key ∈ Assoc.keys s then Operand.ofField s.kind f.key (s.text f.key)
  else Operand.initial f.type

/-- The keys that are neither reserved nor fields of the kind. -/
def otherKeys (s : Section) : List String :=
  (Assoc.keys s).filter fun key =>
    !reservedKeys.contains key && !(Catalog.fieldKeys s.kind).contains key

/-- The fields of the kind in the order of the catalog, then all other keys in the order
of the section, with their texts. -/
def parameters (s : Section) : Parameters :=
  (Catalog.fields s.kind).map (fun f => (f.key, s.fieldValue f))
    ++ s.otherKeys.map fun key => (key, .text (s.text key))

/-- An entry is what its section says. A trend that is not given is above, a reference
that is not given the close price. There is a constant just when the reference is the
constant one and a value is given, and then it is the finite number which that writes. -/
structure Describes (s : Section) (e : Entry) : Prop where
  kind : e.kind = s.kind
  parameters : e.parameters = s.parameters
  trend : (s.value? "trend").elim (e.trend = .above)
    fun raw => Trend.ofWire (trim raw) = .ok e.trend
  reference : (s.value? "compare_to").elim (e.reference = .close)
    fun raw => Reference.ofWire (trim raw) = .ok e.reference
  hasConstant : e.constant?.isSome = true ↔
    e.reference = .constant ∧ (s.value? "compare_value").isSome = true
  constant : ∀ x, e.constant? = some x → ∃ raw, s.value? "compare_value" = some raw ∧
    Binary64.ofString? (trim raw) = some x ∧ x.isFinite = true

end Section

/-! ### Changes one after the other -/

/-- Parameters once the texts of some fields were stored. -/
def Parameters.storeAll (kind : String) (raw : String → String) (ps : Parameters)
    (ks : List String) : Parameters :=
  ks.foldl (fun ps key => Assoc.put ps key (Operand.ofField kind key (raw key))) ps

theorem Parameters.storeAll_append (kind : String) (raw : String → String) (ps : Parameters)
    (ks ls : List String) :
    storeAll kind raw ps (ks ++ ls) = storeAll kind raw (storeAll kind raw ps ks) ls := by
  simp [storeAll]

namespace Entry

/-- The entry after a list of changes. -/
def applyAll (e : Entry) (cs : List Change) : Entry := cs.foldl Entry.apply e

@[simp] theorem applyAll_nil (e : Entry) : e.applyAll [] = e := rfl

@[simp] theorem applyAll_cons (e : Entry) (c : Change) (cs : List Change) :
    e.applyAll (c :: cs) = (e.apply c).applyAll cs := rfl

theorem applyAll_append (e : Entry) (cs ds : List Change) :
    e.applyAll (cs ++ ds) = (e.applyAll cs).applyAll ds := by
  simp [applyAll]

/-- Parameters that are set one after the other are stored one after the other. -/
theorem applyAll_parameters (e : Entry) (ks : List String) (raw : String → String) :
    e.applyAll (ks.map fun key => .parameter key (raw key))
      = { e with parameters := Parameters.storeAll e.kind raw e.parameters ks } := by
  induction ks generalizing e with
  | nil => rfl
  | cons k ks ih =>
    rw [List.map_cons, applyAll_cons, ih]
    rfl

end Entry

/-- Under a key that the kind does not know stands the text itself. -/
theorem Operand.ofField_of_not_mem {kind key : String} (h : key ∉ Catalog.fieldKeys kind)
    (raw : String) : Operand.ofField kind key raw = .text raw := by
  rw [Operand.ofField, Catalog.field?_of_not_mem h]

/-! ### Reading one section -/

namespace Configuration

variable {c : Configuration} {name : String} {s : Section}

theorem changeOf_eq_ok {α : Type} {raw? : Option String} {read : String → Except Failure α}
    {change : α → Change} {cs : List Change} (h : changeOf raw? read change = .ok cs) :
    raw?.elim (cs = []) fun raw => ∃ x, read raw = .ok x ∧ cs = [change x] := by
  cases raw? with
  | none => exact (Except.ok.inj h).symm
  | some raw =>
    obtain ⟨x, hx, rfl⟩ := map_eq_ok_iff.mp h
    exact ⟨x, hx, rfl⟩

theorem ofWire_of_trendOf {raw : String} {t : Trend} (h : trendOf name raw = .ok t) :
    Trend.ofWire (trim raw) = .ok t := by
  unfold trendOf at h
  split at h
  · rename_i hword
    rwa [Except.ok.inj h] at hword
  · cases h

theorem ofWire_of_referenceOf {raw : String} {r : Reference} (h : referenceOf name raw = .ok r) :
    Reference.ofWire (trim raw) = .ok r := by
  unfold referenceOf at h
  split at h
  · rename_i hword
    rwa [Except.ok.inj h] at hword
  · cases h

theorem finite_of_constantOf {raw : String} {x : Binary64} (h : constantOf name raw = .ok x) :
    Binary64.ofString? (trim raw) = some x ∧ x.isFinite = true := by
  unfold constantOf at h
  split at h
  · rename_i y hy
    split at h
    · rename_i hfinite
      obtain rfl := Except.ok.inj h
      exact ⟨hy, hfinite⟩
    · cases h
  · cases h

/-- The names that the library looks up are in small letters. -/
theorem lower_reserved : ∀ key ∈ reservedKeys, lower key = key := by decide +kernel

theorem Normal.get?_reserved (h : c.Normal) (hs : Assoc.get? c.sections name = some s)
    {key : String} (hkey : key ∈ reservedKeys) : c.get? name key = s.value? key :=
  h.get?_eq hs (lower_reserved key hkey)

theorem Normal.kindOf_eq (h : c.Normal) (hs : Assoc.get? c.sections name = some s) :
    c.kindOf name = s.kind := by
  rw [kindOf, h.get?_reserved hs (by decide), Section.kind]

/-- The kind brings the initial values of its fields, also where there is none. -/
theorem applyAll_kindChanges (c : Configuration) (name : String) (id : Nat) :
    (Entry.blank id).applyAll (c.kindChanges name)
      = ⟨id, c.kindOf name, Parameters.initial (c.kindOf name), .above, .close, none⟩ := by
  change (Entry.blank id).applyAll
    (if (c.kindOf name).isEmpty then [] else [.kind (c.kindOf name)]) = _
  split
  · rename_i hempty
    rw [String.isEmpty_iff.mp hempty]
    rfl
  · rfl

/-- The fields of the kind that are there keep their places, and all other keys come
behind them. -/
theorem storeAll_eq_parameters (hs : (Assoc.keys s).Nodup) :
    Parameters.storeAll s.kind s.text (Parameters.initial s.kind)
        ((Catalog.fieldKeys s.kind).filter (Assoc.keys s).contains ++ s.otherKeys)
      = s.parameters := by
  have hfields := Catalog.nodup_fieldKeys s.kind
  have hother : ∀ key ∈ s.otherKeys, key ∉ Catalog.fieldKeys s.kind := by
    intro key hkey
    have := (List.mem_filter.mp hkey).2
    simp only [Bool.and_eq_true, Bool.not_eq_true', List.contains_eq_mem,
      decide_eq_false_iff_not] at this
    exact this.2
  -- known keys first: each takes its place among the initial values
  have hknown : Parameters.storeAll s.kind s.text (Parameters.initial s.kind)
      ((Catalog.fieldKeys s.kind).filter (Assoc.keys s).contains)
        = (Catalog.fields s.kind).map fun f => (f.key, s.fieldValue f) := by
    rw [Parameters.storeAll, Assoc.foldl_put_of_mem (Parameters.keys_initial s.kind ▸ hfields)
      (fun key hkey => Parameters.keys_initial s.kind ▸ (List.mem_filter.mp hkey).1)
      fun key => Operand.ofField s.kind key (s.text key), Parameters.initial_eq, List.map_map]
    refine List.map_congr_left fun f hf => ?_
    have hmem : f.key ∈ (Catalog.fieldKeys s.kind).filter (Assoc.keys s).contains
        ↔ f.key ∈ Assoc.keys s := by
      simp [Catalog.fieldKeys, List.mem_filter, List.mem_map_of_mem hf]
    simp only [Function.comp_apply, hmem, Section.fieldValue]
  -- all other keys are new, and their values are texts
  have htexts : s.otherKeys.map (fun key => (key, Operand.ofField s.kind key (s.text key)))
      = s.otherKeys.map fun key => (key, .text (s.text key)) :=
    List.map_congr_left fun key hkey => by rw [Operand.ofField_of_not_mem (hother key hkey)]
  have hnodup : (Assoc.keys ((Catalog.fields s.kind).map (fun f => (f.key, s.fieldValue f))
      ++ s.otherKeys.map fun key => (key, Operand.ofField s.kind key (s.text key)))).Nodup := by
    have hkeys : Assoc.keys ((Catalog.fields s.kind).map (fun f => (f.key, s.fieldValue f))
        ++ s.otherKeys.map fun key => (key, Operand.ofField s.kind key (s.text key)))
          = Catalog.fieldKeys s.kind ++ s.otherKeys := by
      simp [Assoc.keys, Catalog.fieldKeys, Function.comp_def]
    rw [hkeys, List.nodup_append]
    refine ⟨hfields, hs.filter _, ?_⟩
    rintro key hkey _ hkey' rfl
    exact hother key hkey' hkey
  rw [Parameters.storeAll_append, hknown, Parameters.storeAll, Section.parameters, ← htexts,
    ← Assoc.foldl_put_eq_append _ _ hnodup, List.foldl_map]

/-- The parameters of an entry are those of its section. -/
theorem Normal.applyAll_parameterChanges (h : c.Normal)
    (hs : Assoc.get? c.sections name = some s) {e : Entry} (hkind : e.kind = s.kind)
    (hparameters : e.parameters = Parameters.initial s.kind) :
    e.applyAll (c.parameterChanges name) = { e with parameters := s.parameters } := by
  have hchanges : c.parameterChanges name
      = (c.parameterKeys name s.kind).map fun key => .parameter key (s.text key) := by
    rw [parameterChanges, h.kindOf_eq hs]
    refine List.map_congr_left fun key hkey => ?_
    have hmem : key ∈ Assoc.keys s := by
      rw [parameterKeys, keys_eq hs] at hkey
      rcases List.mem_append.mp hkey with hkey | hkey
      · simpa using (List.mem_filter.mp hkey).2
      · exact (List.mem_filter.mp hkey).1
    rw [h.get?_eq hs ((h.section hs).small key hmem), Section.text]
  have hkeys : c.parameterKeys name s.kind
      = (Catalog.fieldKeys s.kind).filter (Assoc.keys s).contains ++ s.otherKeys := by
    rw [parameterKeys, keys_eq hs]
    rfl
  rw [hchanges, Entry.applyAll_parameters, hkind, hparameters, hkeys,
    storeAll_eq_parameters (h.section hs).ascending.nodup_keys]

/-! ### The settings of a section -/

theorem applyAll_trend {raw? : Option String} {cs : List Change} (e : Entry)
    (h : changeOf raw? (trendOf name) .trend = .ok cs) :
    ∃ t, e.applyAll cs = { e with trend := t } ∧
      raw?.elim (t = e.trend) fun raw => Trend.ofWire (trim raw) = .ok t := by
  have hcs := changeOf_eq_ok h
  cases raw? with
  | none => exact ⟨e.trend, by rw [show cs = [] from hcs]; rfl, rfl⟩
  | some raw =>
    obtain ⟨t, ht, rfl⟩ := hcs
    exact ⟨t, rfl, ofWire_of_trendOf ht⟩

theorem applyAll_reference {raw? : Option String} {cs : List Change} (e : Entry)
    (he : e.constant? = none) (h : changeOf raw? (referenceOf name) .reference = .ok cs) :
    ∃ r, e.applyAll cs = { e with reference := r } ∧
      raw?.elim (r = e.reference) fun raw => Reference.ofWire (trim raw) = .ok r := by
  have hcs := changeOf_eq_ok h
  cases raw? with
  | none => exact ⟨e.reference, by rw [show cs = [] from hcs]; rfl, rfl⟩
  | some raw =>
    obtain ⟨r, hr, rfl⟩ := hcs
    refine ⟨r, ?_, ofWire_of_referenceOf hr⟩
    rw [Entry.applyAll_cons, Entry.applyAll_nil, Entry.apply, ← he]

/-- A constant is stored beside the constant reference only. -/
theorem applyAll_constant {raw? : Option String} {cs : List Change} (e : Entry)
    (he : e.constant? = none) (h : changeOf raw? (constantOf name) .constant = .ok cs) :
    ∃ x?, e.applyAll cs = { e with constant? := x? } ∧
      (x?.isSome = true ↔ e.reference = .constant ∧ raw?.isSome = true) ∧
      ∀ x, x? = some x → ∃ raw, raw? = some raw ∧
        Binary64.ofString? (trim raw) = some x ∧ x.isFinite = true := by
  have hcs := changeOf_eq_ok h
  cases raw? with
  | none => exact ⟨none, by rw [show cs = [] from hcs, ← he]; rfl, by simp, by simp⟩
  | some raw =>
    obtain ⟨x, hx, rfl⟩ := hcs
    rw [Entry.applyAll_cons, Entry.applyAll_nil, Entry.apply]
    cases hr : e.reference with
    | constant =>
      refine ⟨some x, rfl, by simp, fun y hy => ?_⟩
      obtain rfl := Option.some.inj hy
      exact ⟨raw, rfl, finite_of_constantOf hx⟩
    | close =>
      refine ⟨none, ?_, by simp, by simp⟩
      change e = _
      rw [← he, ← hr]

/-- **A section makes the entry that it describes**, whatever number that has. -/
theorem Normal.describes_applyAll (h : c.Normal) (hs : Assoc.get? c.sections name = some s)
    {cs : List Change} (hcs : c.changes name = .ok cs) (id : Nat) :
    s.Describes ((Entry.blank id).applyAll cs) := by
  simp only [changes, bind_eq_ok_iff] at hcs
  obtain ⟨trend, htrend, reference, hreference, constant, hconstant, hcs⟩ := hcs
  obtain rfl := Except.ok.inj hcs
  rw [h.get?_reserved hs (by decide)] at htrend hreference hconstant
  have hkind := h.kindOf_eq hs
  rw [Entry.applyAll_append, Entry.applyAll_append, Entry.applyAll_append,
    Entry.applyAll_append, applyAll_kindChanges, hkind,
    h.applyAll_parameterChanges hs rfl rfl]
  -- kind and parameters stand; the settings follow one after the other
  obtain ⟨t, ht, htrend⟩ := applyAll_trend ⟨id, s.kind, s.parameters, .above, .close, none⟩ htrend
  rw [ht]
  obtain ⟨r, hr, hreference⟩ := applyAll_reference ⟨id, s.kind, s.parameters, t, .close, none⟩
    rfl hreference
  rw [hr]
  obtain ⟨x?, hx, hsome, hvalue⟩ := applyAll_constant ⟨id, s.kind, s.parameters, t, r, none⟩
    rfl hconstant
  rw [hx]
  exact ⟨rfl, rfl, htrend, hreference, hsome, hvalue⟩

end Configuration
end IndicatorStrategy
