import IndicatorStrategy.Proofs.Artifact.Record
import IndicatorStrategy.Proofs.Assoc
import IndicatorStrategy.Request
/-!
# IndicatorStrategy.Proofs.Artifact.NormalForm

**Encoded values are normal forms.** Parameter arrays, artifacts and requests are decoded
from texts that may be written in many ways. Whatever they were decoded from, they are
encoded as a text that is decoded to the same value, so that encoding it once more gives
the same text. The values that occur are all that the type has of storable ones.
-/

namespace IndicatorStrategy

open Json (DecodeError Storable)

/-- **What is decoded is encoded as a normal form.** The text that is encoded for a decoded
value is decoded to an equal value, and that is encoded in the same way. The values that are
decoded are those that are `kept`. -/
structure HasNormalForms {α : Type} (decode : String → Except DecodeError α)
    (encode : α → String) (kept : α → Prop) : Prop where
  again : ∀ text v, decode text = .ok v →
    ∃ w, decode (encode v) = .ok w ∧ w = v ∧ encode w = encode v
  kept_iff : ∀ v, kept v ↔ ∃ text, decode text = .ok v

/-- It is enough that decoded values are kept, and that kept values are read back. -/
theorem HasNormalForms.intro {α : Type} {decode : String → Except DecodeError α}
    {encode : α → String} {kept : α → Prop} (hkept : ∀ text v, decode text = .ok v → kept v)
    (hread : ∀ v, kept v → decode (encode v) = .ok v) : HasNormalForms decode encode kept where
  again text v h := ⟨v, hread v (hkept text v h), rfl, rfl⟩
  kept_iff v := ⟨fun h => ⟨encode v, hread v h⟩, fun ⟨text, h⟩ => hkept text v h⟩

theorem ParameterSet.hasNormalForms :
    HasNormalForms listOfText (fun sets => (Request.arrayOf sets).compact)
      (fun sets => Storable Json.maxDepth (Request.arrayOf sets)) := by
  refine .intro (fun text sets h => ?_) fun sets h => ?_
  · exact storable_of_toList (Json.Document.isLexical_ofText text) (Json.decode_eq_ok_iff.mp h).1
  · exact h.decode_compact (toList_tree h)

/-! ### Records -/

/-- Where the fields of a record are storable, so is the record, one level up. -/
theorem Fields.isStorable_iff {fields : Fields} {depth : Nat} (hn : (Assoc.keys fields).Nodup) :
    (∀ f ∈ fields, f.2.IsStorable depth) ↔
      Storable (depth + 1) fields.toJson ∧
        ∀ f ∈ fields, ∀ n, f.2 = .count n → n < Numeral.limit32 := by
  constructor
  · intro h
    refine ⟨.object ?_ fun p hp => ?_, fun f hf => (h f hf).count⟩
    · rwa [Assoc.keys_map_value fields fun f => f.2.toJson]
    · obtain ⟨f, hf, rfl⟩ := List.mem_map.mp hp
      exact (h f hf).json
  · rintro ⟨hstorable, hcount⟩ f hf
    cases hstorable with
    | object _ hmembers => exact ⟨hmembers _ (List.mem_map_of_mem hf), hcount f hf⟩

section

variable {α : Type} {shape : Shape} {ofFields : List FieldValue → Except DecodeError α}
  {fields : α → Fields}

/-- **A type of records** has normal forms, if a record is made of the values of its fields
and of no other values. -/
theorem HasNormalForms.ofRecord (hshape : ∀ a, (fields a).shape = shape)
    (hnames : ∀ a, (Assoc.keys (fields a)).Nodup)
    (hfields : ∀ vs a, ofFields vs = .ok a ↔ vs = (fields a).values) :
    HasNormalForms (Json.decode fun t => (shape.decode Json.maxDepth t).bind ofFields)
      (fun a => (fields a).toJson.compact)
      (fun a => Storable Json.maxDepth (fields a).toJson ∧
        ∀ f ∈ fields a, ∀ n, f.2 = .count n → n < Numeral.limit32) := by
  refine .intro (fun text a h => ?_) fun a h => ?_
  · obtain ⟨hdecode, -⟩ := Json.decode_eq_ok_iff.mp h
    obtain ⟨vs, hvs, ha⟩ := bind_eq_ok_iff.mp hdecode
    have hstorable := Shape.isStorable_of_decode (Json.Document.isLexical_ofText text) hvs
    rw [(hfields vs a).mp ha] at hstorable
    exact (Fields.isStorable_iff (hnames a)).mp fun f hf => hstorable _ (List.mem_map_of_mem hf)
  · have hstorable := (Fields.isStorable_iff (hnames a)).mpr h
    refine h.1.decode_compact (bind_eq_ok_iff.mpr ⟨(fields a).values, ?_, ?_⟩)
    · rw [← hshape a]
      exact Shape.decode_tree (hnames a) hstorable
    · exact (hfields _ a).mpr rfl

end

namespace Artifact

/-- The fields of both artifacts, with their values. -/
def fields (a : Artifact) : Fields :=
  [("paramArray", .parameters a.parameters), ("expression", .text a.expression)]

theorem ofFields_eq_ok_iff (vs : List FieldValue) (a : Artifact) :
    ofFields vs = .ok a ↔ vs = a.fields.values := by
  constructor
  · intro h
    unfold ofFields at h
    split at h
    · cases h
      rfl
    · cases h
  · rintro rfl
    rfl

theorem hasNormalForms :
    HasNormalForms ofText (fun a => a.toJson.compact)
      (fun a => Storable Json.maxDepth a.toJson) := by
  have h : HasNormalForms ofText _ _ :=
    .ofRecord (fun _ => rfl) (fun a => by simp [fields, Assoc.keys]) ofFields_eq_ok_iff
  refine ⟨h.again, fun a => ?_⟩
  rw [← h.kept_iff]
  exact ⟨fun ha => ⟨ha, by simp [fields]⟩, fun ha => ha.1⟩

end Artifact

namespace Request

/-- The fields of a request, with their values. -/
def fields (r : Request) : Fields :=
  [("ticker", .text r.ticker), ("limit", .count r.limit), ("buy", .parameters r.buy),
    ("buy_exp", .text r.buyExpression), ("sell", .parameters r.sell),
    ("sell_exp", .text r.sellExpression)]

theorem ofFields_eq_ok_iff (vs : List FieldValue) (r : Request) :
    ofFields vs = .ok r ↔ vs = r.fields.values := by
  constructor
  · intro h
    unfold ofFields at h
    split at h
    · cases h
      rfl
    · cases h
  · rintro rfl
    rfl

theorem hasNormalForms :
    HasNormalForms ofText (fun r => r.toJson.compact)
      (fun r => Storable Json.maxDepth r.toJson ∧ r.limit < Numeral.limit32) := by
  have h : HasNormalForms ofText _ _ :=
    .ofRecord (fun _ => rfl) (fun r => by simp [fields, Assoc.keys]) ofFields_eq_ok_iff
  refine ⟨h.again, fun r => ?_⟩
  rw [← h.kept_iff]
  exact ⟨fun hr => ⟨hr.1, by simpa [fields] using hr.2⟩,
    fun hr => ⟨hr.1, by simpa [fields] using hr.2⟩⟩

end Request

/-- **Parameter arrays, artifacts and requests** all have normal forms. What is kept is every
value whose members stand under distinct keys, in whatever order, whose integers have 64
bits and which is nested no deeper than texts may be; the window of a request has 32 bits. -/
theorem encodings_haveNormalForms :
    HasNormalForms ParameterSet.listOfText (fun sets => (Request.arrayOf sets).compact)
        (fun sets => Storable Json.maxDepth (Request.arrayOf sets)) ∧
      HasNormalForms Artifact.ofText (fun a => a.toJson.compact)
        (fun a => Storable Json.maxDepth a.toJson) ∧
      HasNormalForms Request.ofText (fun r => r.toJson.compact)
        (fun r => Storable Json.maxDepth r.toJson ∧ r.limit < Numeral.limit32) :=
  ⟨ParameterSet.hasNormalForms, Artifact.hasNormalForms, Request.hasNormalForms⟩

end IndicatorStrategy
