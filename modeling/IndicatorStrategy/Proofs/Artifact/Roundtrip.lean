import IndicatorStrategy.Artifact.Compile
import IndicatorStrategy.Artifact.Decode
import IndicatorStrategy.Proofs.Json.Roundtrip
import IndicatorStrategy.Proofs.Text.Run
/-!
# IndicatorStrategy.Proofs.Artifact.Roundtrip

**Parameter arrays read back.** What is compiled from a condition is storable, whatever
the entry holds: its keys are distinct because each is put in its place, its whole
numbers are small, and what JSON cannot express has become `null`. So the stored text of
the parameter array of any draft is read as that array.
-/

namespace IndicatorStrategy

open Json (Storable Tree)

namespace ParameterSet

/-- No key stands twice, and every value may stand as deep as it does in an array of
parameter sets. -/
structure IsStorable (p : ParameterSet) : Prop where
  nodup : (Assoc.keys p.values).Nodup
  values : ∀ q ∈ p.values, Storable 124 q.2

theorem IsStorable.toJson {p : ParameterSet} (h : p.IsStorable) : Storable 126 p.toJson :=
  .object (by simp [Assoc.keys]) (by simpa using .object h.nodup h.values)

variable {depth : Nat}

theorem ofTree_tree {p : ParameterSet} (h : Storable depth p.toJson) :
    ofTree depth p.toJson.tree = .ok p := by
  have htree := h.toJson_tree
  rw [ParameterSet.toJson, Json.tree] at htree ⊢
  rw [ofTree, htree]
  rfl

theorem mapM_ofTree {ps : List ParameterSet} (h : ∀ p ∈ ps, Storable depth p.toJson) :
    (Json.itemTrees (ps.map toJson)).mapM (ofTree depth) = .ok ps := by
  induction ps with
  | nil => rfl
  | cons p ps ih =>
    rw [List.map_cons, Json.itemTrees, List.mapM_cons, ofTree_tree (h p (List.mem_cons_self ..)),
      ih fun q hq => h q (List.mem_cons_of_mem _ hq)]
    rfl

/-- The tree of a list of parameter sets is decoded to the list. -/
theorem toList_tree {ps : List ParameterSet} (h : Storable depth (.array (ps.map toJson))) :
    Tree.toList ofTree depth (Json.array (ps.map toJson)).tree = .ok ps := by
  cases h with
  | array hps =>
    rw [Json.tree, Tree.toList]
    simp only
    rw [mapM_ofTree fun p hp => hps _ (List.mem_map_of_mem hp)]
    rfl

end ParameterSet

/-- **A parameter array** of storable parameter sets is read back from its text. -/
theorem Artifact.listOfText_parametersText {a : Artifact}
    (h : ∀ p ∈ a.parameters, p.IsStorable) :
    ParameterSet.listOfText a.parametersText = .ok a.parameters := by
  -- three levels of nesting of those allowed: the array, the sets and their values
  have hstorable : Storable Json.maxDepth a.parametersJson := by
    refine .array fun v hv => ?_
    obtain ⟨p, hp, rfl⟩ := List.mem_map.mp hv
    exact (h p hp).toJson
  have hlist := ParameterSet.toList_tree hstorable
  rw [ParameterSet.listOfText, Json.decode, parametersText, hstorable.document]
  simp only [parametersJson, hlist, if_true]

/-- The text of a parameter array begins with a bracket. -/
theorem Artifact.isBlank_parametersText (a : Artifact) : isBlank a.parametersText = false := by
  simp [isBlank, parametersText, parametersJson, Json.compact, String.toList_append,
    isWhiteSpace]

/-! ### Compiled values -/

variable {depth : Nat}

/-- A number is a small integer, a double or `null`. -/
theorem Binary64.storable_toJson (x : Binary64) : Storable depth x.toJson := by
  have hdouble : Storable depth x.toJsonDouble := by
    cases x with
    | nan => exact .null
    | infinite => exact .null
    | finite negative rank => exact .double negative rank
  unfold Binary64.toJson
  split
  · split
    · rename_i n _ hn
      refine .int ?_
      simp only [maxSafeInteger] at hn
      simp only [Json.IsWord, Numeral.limit63, Numeral.limit64]
      omega
    · exact hdouble
  · exact hdouble

theorem Operand.storable_toJson (v : Operand) : Storable depth v.toJson := by
  cases v with
  | number x => exact x.storable_toJson
  | text s => exact .string s

namespace Entry

theorem givenValues_eq (e : Entry) :
    e.givenValues = ((e.parameters.filter fun p => !p.2.isEmpty).map
      fun p => (p.1, p.2.toJson)).foldl (fun m p => Assoc.put m p.1 p.2) [] := by
  rw [givenValues, List.foldl_map]

theorem storable_givenValues (e : Entry) : ∀ p ∈ e.givenValues, Storable depth p.2 := by
  intro p hp
  rw [givenValues_eq] at hp
  rcases Assoc.mem_foldl_put hp with hp | hp
  · simp at hp
  · obtain ⟨q, -, rfl⟩ := List.mem_map.mp hp
    exact q.2.storable_toJson

theorem storable_comparison (e : Entry) : ∀ p ∈ e.comparison, Storable depth p.2 := by
  intro p hp
  rw [comparison] at hp
  rcases List.mem_cons.mp hp with rfl | hp
  · exact .string _
  · split at hp
    · simp at hp
    · rcases List.mem_cons.mp hp with rfl | hp
      · exact .string _
      · obtain ⟨x, -, rfl⟩ := Option.map_eq_some_iff.mp (Option.mem_toList.mp hp)
        exact x.storable_toJson

/-- **The parameter set of any entry** is storable. -/
theorem isStorable_parameterSet (e : Entry) : e.parameterSet.IsStorable where
  nodup := by
    refine Assoc.nodup_keys_foldl_put ?_ e.comparison
    rw [givenValues_eq]
    exact Assoc.nodup_keys_foldl_put (by simp [Assoc.keys]) _
  values := fun q hq =>
    (Assoc.mem_foldl_put hq).elim (e.storable_givenValues q) (e.storable_comparison q)

end Entry

/-! ### Compiled drafts -/

theorem Entry.term?_ne_empty {e : Entry} {s : String} (h : e.term? = some s) : s ≠ "" := by
  unfold term? at h
  split at h
  · rintro rfl
    have htrend := (String.append_eq_empty_iff.mp (Option.some.inj h)).2
    cases ht : e.trend <;> simp [ht, Trend.wire] at htrend
  · cases h

theorem Clause.ofPieces_ne_empty {pieces : List String} (h : ∀ s ∈ pieces, s ≠ "") :
    ofPieces pieces ≠ "" := by
  match pieces with
  | [] => exact by decide
  | [piece] => exact h piece (List.mem_singleton_self _)
  | _ :: _ :: _ => simp [ofPieces, parenthesized, String.append_eq_empty_iff]

theorem Group.clause_ne_empty (g : Group) : g.clause ≠ "" := by
  refine Clause.ofPieces_ne_empty fun s hs => ?_
  obtain ⟨e, -, he⟩ := List.mem_filterMap.mp hs
  exact Entry.term?_ne_empty he

namespace Draft

/-- The parameter array of a draft is read back from its text. -/
theorem listOfText_compile (d : Draft) :
    ParameterSet.listOfText d.compile.parametersText = .ok d.compile.parameters := by
  refine Artifact.listOfText_parametersText fun p hp => ?_
  obtain ⟨e, -, rfl⟩ := List.mem_map.mp hp
  exact e.isStorable_parameterSet

/-- A parameter array is never written as an empty text. -/
theorem parametersText_ne_empty (d : Draft) : d.compile.parametersText ≠ "" := by
  simp [Artifact.parametersText, Artifact.parametersJson, Json.compact,
    String.append_eq_empty_iff]

/-- A draft with a group has an expression. -/
theorem expression_ne_empty {d : Draft} (h : d.groups ≠ []) : d.expression ≠ "" := by
  obtain ⟨g, gs, hg⟩ := List.exists_cons_of_ne_nil h
  rw [expression, hg, List.map_cons]
  exact joinWith_ne_empty g.clause_ne_empty _ _

end Draft
end IndicatorStrategy
