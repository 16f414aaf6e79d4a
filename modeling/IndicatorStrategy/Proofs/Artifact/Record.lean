import IndicatorStrategy.Proofs.Artifact.Roundtrip
import IndicatorStrategy.Proofs.Json.Decoded
/-!
# IndicatorStrategy.Proofs.Artifact.Record

**Records and what they are decoded from.** A record is written as an object of its fields
in their order. However a text gives the fields, in another order, with unknown ones
between them or as an array, the values that are decoded can be stored, and from the text
that is written for them they are decoded again.
-/

namespace IndicatorStrategy

open Json (DecodeError Storable Tree)

variable {depth : Nat}

/-! ### Parameter sets -/

namespace ParameterSet

theorem storable_of_ofTree {t : Tree} (ht : t.IsLexical) {p : ParameterSet}
    (h : ofTree depth t = .ok p) : Storable depth p.toJson := by
  unfold ofTree at h
  split at h
  · split at h
    · rename_i ms hms
      have hstorable := ht.storable hms
      unfold ofMembers? at h
      split at h
      · cases h
        exact hstorable
      · cases h
      · cases h
    · cases h
    · cases h
  · cases h

theorem storable_of_mapM {ts : List Tree} (hts : ∀ t ∈ ts, t.IsLexical)
    {ps : List ParameterSet} (h : ts.mapM (ofTree depth) = .ok ps) :
    ∀ p ∈ ps, Storable depth p.toJson := by
  induction ts generalizing ps with
  | nil =>
    cases h
    exact List.forall_mem_nil _
  | cons t ts ih =>
    obtain ⟨ht, hts⟩ := List.forall_mem_cons.mp hts
    rw [List.mapM_cons] at h
    obtain ⟨p, hp, h⟩ := bind_eq_ok_iff.mp h
    obtain ⟨qs, hqs, h⟩ := bind_eq_ok_iff.mp h
    cases h
    exact List.forall_mem_cons.mpr ⟨storable_of_ofTree ht hp, ih hts hqs⟩

/-- **Decoded parameter sets** can be stored as a parameter array. -/
theorem storable_of_toList {t : Tree} (ht : t.IsLexical) {ps : List ParameterSet}
    (h : Tree.toList ofTree depth t = .ok ps) : Storable depth (.array (ps.map toJson)) := by
  cases ht with
  | @array items closed hitems =>
    cases depth with
    | zero => cases h
    | succ depth =>
      rw [Tree.toList] at h
      split at h
      · cases h
      · rename_i qs hqs
        split at h
        · cases h
          refine .array fun v hv => ?_
          obtain ⟨p, hp, rfl⟩ := List.mem_map.mp hv
          exact storable_of_mapM hitems hqs p hp
        · cases h
  | _ => cases h

end ParameterSet

/-! ### Fields -/

namespace FieldValue

/-- The type that a value of a field has. -/
def shape : FieldValue → FieldShape
  | text _ => .text
  | count _ => .count
  | parameters _ => .parameters

/-- A value of a field as it is written. -/
def toJson : FieldValue → Json
  | text s => .string s
  | count n => .int n
  | parameters sets => .array (sets.map ParameterSet.toJson)

/-- A value of a field that is read back when as many levels of nesting are allowed. -/
structure IsStorable (depth : Nat) (v : FieldValue) : Prop where
  json : Storable depth v.toJson
  count : ∀ n, v = .count n → n < Numeral.limit32

theorem toWord32_int {n : Nat} (h : n < Numeral.limit32) :
    Tree.toWord32 (.number (some (.int n))) = .ok n := by
  have hword : (decide (0 ≤ (n : Int)) && decide ((n : Int) < Numeral.limit32)) = true :=
    Bool.and_eq_true_iff.mpr ⟨decide_eq_true (Int.natCast_nonneg n),
      decide_eq_true (Int.ofNat_lt.mpr h)⟩
  rw [Tree.toWord32, if_pos hword, Int.toNat_natCast]

theorem IsStorable.decode_tree {v : FieldValue} (h : v.IsStorable depth) :
    v.shape.decode depth v.toJson.tree = .ok v := by
  cases v with
  | text s => rfl
  | count n =>
    rw [toJson, Json.tree, shape, FieldShape.decode, toWord32_int (h.count n rfl)]
    rfl
  | parameters sets =>
    simp only [shape, toJson, FieldShape.decode, ParameterSet.toList_tree h.json, Except.map]

theorem lt_of_toWord32 {t : Tree} {n : Nat} (h : t.toWord32 = .ok n) :
    n < Numeral.limit32 := by
  unfold Tree.toWord32 at h
  split at h
  · rename_i m
    split at h
    · rename_i hm
      obtain ⟨hlow, hhigh⟩ := Bool.and_eq_true_iff.mp hm
      have hlow := of_decide_eq_true hlow
      have hhigh := of_decide_eq_true hhigh
      cases h
      omega
    · cases h
  · cases h

theorem isStorable_text (s : String) : (text s).IsStorable depth :=
  ⟨.string s, fun _ h => nomatch h⟩

theorem isStorable_count {n : Nat} (h : n < Numeral.limit32) : (count n).IsStorable depth where
  json := by
    simp only [Numeral.limit32] at h
    exact .int ⟨by simp only [Numeral.limit63]; omega, by simp only [Numeral.limit64]; omega⟩
  count m hm := by
    cases hm
    exact h

theorem isStorable_parameters {ps : List ParameterSet}
    (h : Storable depth (.array (ps.map ParameterSet.toJson))) :
    (parameters ps).IsStorable depth :=
  ⟨h, fun _ h => nomatch h⟩

theorem isStorable_of_decode {type : FieldShape} {t : Tree} (ht : t.IsLexical) {v : FieldValue}
    (h : type.decode depth t = .ok v) : v.IsStorable depth := by
  unfold FieldShape.decode at h
  cases type with
  | text =>
    obtain ⟨s, -, rfl⟩ := map_eq_ok_iff.mp h
    exact isStorable_text s
  | count =>
    obtain ⟨n, hn, rfl⟩ := map_eq_ok_iff.mp h
    exact isStorable_count (lt_of_toWord32 hn)
  | parameters =>
    obtain ⟨ps, hps, rfl⟩ := map_eq_ok_iff.mp h
    exact isStorable_parameters (ParameterSet.storable_of_toList ht hps)

end FieldValue

/-! ### Records -/

/-- The fields of a record in their order, with their values. -/
abbrev Fields := Assoc String FieldValue

namespace Fields

/-- The types of the fields. -/
def shape (fields : Fields) : Shape := fields.map fun f => (f.1, f.2.shape)

/-- The object that a record is written as. -/
def toJson (fields : Fields) : Json := .object (fields.map fun f => (f.1, f.2.toJson))

/-- The values of the fields. -/
def values (fields : Fields) : List FieldValue := fields.map Prod.snd

end Fields

namespace Shape

theorem isStorable_of_ofMembers {shape : Shape} {ms : List (Option String × Tree)}
    (hms : ∀ p ∈ ms, p.2.IsLexical) {found fields : Fields}
    (hfound : ∀ f ∈ found, f.2.IsStorable depth)
    (h : ofMembers shape depth found ms = .ok fields) : ∀ f ∈ fields, f.2.IsStorable depth := by
  -- the fields that were found grow from member to member, so the induction is general in them
  induction ms generalizing found with
  | nil =>
    cases h
    exact hfound
  | cons p ms ih =>
    obtain ⟨key?, t⟩ := p
    obtain ⟨ht, hrest⟩ := List.forall_mem_cons.mp hms
    cases key? with
    | none => cases h
    | some key =>
      rw [ofMembers] at h
      split at h
      · split at h
        · exact ih hrest hfound h
        · cases h
      · split at h
        · cases h
        · split at h
          · cases h
          · rename_i v hv
            refine ih hrest (fun f hf => ?_) h
            rcases Assoc.mem_put hf with rfl | hf
            · exact FieldValue.isStorable_of_decode ht hv
            · exact hfound f hf

theorem isStorable_of_ofItems {shape : Shape} {closed : Bool} {ts : List Tree}
    (hts : ∀ t ∈ ts, t.IsLexical) {vs : List FieldValue}
    (h : ofItems depth closed shape ts = .ok vs) : ∀ v ∈ vs, v.IsStorable depth := by
  induction shape generalizing ts vs with
  | nil =>
    rw [ofItems] at h
    split at h
    · cases h
      exact List.forall_mem_nil _
    · cases h
  | cons field shape ih =>
    cases ts with
    | nil => cases h
    | cons t ts =>
      obtain ⟨ht, hts⟩ := List.forall_mem_cons.mp hts
      rw [ofItems] at h
      split at h
      · cases h
      · rename_i v hv
        obtain ⟨ws, hws, rfl⟩ := map_eq_ok_iff.mp h
        exact List.forall_mem_cons.mpr ⟨FieldValue.isStorable_of_decode ht hv, ih hts hws⟩

theorem isStorable_of_inOrder {shape : Shape} {found : Fields}
    (hfound : ∀ f ∈ found, f.2.IsStorable depth) {vs : List FieldValue}
    (h : inOrder shape found = .ok vs) : ∀ v ∈ vs, v.IsStorable depth := by
  unfold inOrder at h
  split at h
  · rename_i ws hws
    cases h
    induction shape generalizing vs with
    | nil =>
      cases hws
      exact List.forall_mem_nil _
    | cons field shape ih =>
      rw [List.mapM_cons, Option.bind_eq_bind, Option.bind_eq_some_iff] at hws
      obtain ⟨v, hv, hws⟩ := hws
      rw [Option.bind_eq_bind, Option.bind_eq_some_iff] at hws
      obtain ⟨vs, hvs, hws⟩ := hws
      cases hws
      exact List.forall_mem_cons.mpr ⟨hfound _ (Assoc.mem_of_get? hv), ih hvs⟩
  · cases h

/-- **The values of fields** that were decoded are storable. -/
theorem isStorable_of_decode {shape : Shape} {t : Tree} (ht : t.IsLexical)
    {vs : List FieldValue} (h : shape.decode (depth + 1) t = .ok vs) :
    ∀ v ∈ vs, v.IsStorable depth := by
  cases ht with
  | array hitems => exact isStorable_of_ofItems hitems h
  | object hmembers =>
    rw [decode] at h
    split at h
    · cases h
    · rename_i found hfound
      split at h
      · exact isStorable_of_inOrder
          (isStorable_of_ofMembers hmembers (List.forall_mem_nil _) hfound) h
      · cases h
  | _ => cases h

variable {fields : Fields}

theorem ofMembers_memberTrees {found rest : Fields} (hfields : fields = found ++ rest)
    (hn : (Assoc.keys fields).Nodup) (hrest : ∀ f ∈ rest, f.2.IsStorable depth) :
    ofMembers fields.shape depth found (Json.memberTrees (rest.map fun f => (f.1, f.2.toJson)))
      = .ok fields := by
  induction rest generalizing found with
  | nil =>
    rw [hfields, List.append_nil]
    rfl
  | cons f rest ih =>
    obtain ⟨name, v⟩ := f
    obtain ⟨hv, hrest⟩ := List.forall_mem_cons.mp hrest
    have htype : Assoc.get? fields.shape name = some v.shape := by
      have hmem : (name, v) ∈ fields := by simp [hfields]
      rw [Fields.shape, Assoc.get?_map_value, Assoc.get?_of_mem hn hmem]
      rfl
    -- a key that was found before would be refused as a duplicate
    have hnew : name ∉ Assoc.keys found := by
      intro hmem
      rw [hfields, Assoc.keys, List.map_append, List.nodup_append] at hn
      exact hn.2.2 _ hmem _ (List.mem_cons_self ..) rfl
    rw [List.map_cons, Json.memberTrees, ofMembers, htype]
    simp only [(Assoc.get?_eq_none_iff found name).mpr hnew, hv.decode_tree,
      Assoc.put_of_not_mem hnew]
    exact ih (by simp [hfields]) hrest

theorem inOrder_shape (hn : (Assoc.keys fields).Nodup) :
    inOrder fields.shape fields = .ok fields.values := by
  have hall : ∀ fs : Fields, (∀ f ∈ fs, f ∈ fields) →
      (fs.shape.mapM fun f => Assoc.get? fields f.1) = some fs.values := by
    intro fs hfs
    induction fs with
    | nil => rfl
    | cons f fs ih =>
      obtain ⟨hf, hfs⟩ := List.forall_mem_cons.mp hfs
      rw [Fields.shape, List.map_cons, List.mapM_cons, Assoc.get?_of_mem hn hf, ← Fields.shape,
        ih hfs]
      rfl
  rw [inOrder, hall fields fun _ h => h]

/-- **A record of storable values** is decoded from the object that it is written as. -/
theorem decode_tree (hn : (Assoc.keys fields).Nodup)
    (h : ∀ f ∈ fields, f.2.IsStorable depth) :
    fields.shape.decode (depth + 1) fields.toJson.tree = .ok fields.values := by
  rw [Fields.toJson, Json.tree, decode, ofMembers_memberTrees (List.nil_append _).symm hn h]
  simp only [if_true, inOrder_shape hn]

end Shape

end IndicatorStrategy
