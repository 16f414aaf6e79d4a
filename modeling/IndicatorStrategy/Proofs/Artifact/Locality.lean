import Mathlib
import IndicatorStrategy.Artifact.Compile
import IndicatorStrategy.Proofs.Draft.Step
/-!
# IndicatorStrategy.Proofs.Artifact.Locality

**Edits act locally on the artifacts.** The expression of a draft is made of one clause for
each group, and the parameter array of one block for each group, which has an object for each
of its conditions (`Draft.compile_eq`). An edit that changes or removes an entry meets one
clause, and in one block the object of that entry (`Draft.MeetAt`); an edit of groups adds or
takes out a clause and a block; and a new entry is seen in neither artifact.

What is no condition has no term and no object, whatever else it holds, so it may be replaced
or removed unseen.
-/

namespace IndicatorStrategy

/-! ### Clauses and blocks -/

/-- The object of an entry, if it is a condition. -/
def Entry.parameterSet? (e : Entry) : Option ParameterSet :=
  if e.isActive then some e.parameterSet else none

/-- The objects of the conditions of a group. -/
def Group.block (g : Group) : List ParameterSet := g.entries.filterMap Entry.parameterSet?

namespace Draft

/-- The clauses of an expression, one for each group. -/
def clauses (d : Draft) : List String := d.groups.map Group.clause

/-- The blocks of a parameter array, one for each group. -/
def blocks (d : Draft) : List (List ParameterSet) := d.groups.map Group.block

theorem expression_eq (d : Draft) : d.expression = joinWith Expression.separator d.clauses := rfl

theorem parameterSets_eq (d : Draft) : d.parameterSets = d.blocks.flatten := by
  rw [parameterSets, active, blocks, List.map_flatMap, ← List.flatMap_def]
  refine List.flatMap_congr fun g _ => ?_
  rw [Group.active, Group.block, ← List.filterMap_eq_map, List.filterMap_filter]
  rfl

/-- The artifacts of a draft are made of its clauses and its blocks. -/
theorem compile_eq (d : Draft) :
    d.compile = ⟨d.blocks.flatten, joinWith Expression.separator d.clauses⟩ := by
  rw [compile, parameterSets_eq, expression_eq]

theorem compile_congr {d d' : Draft} (hclauses : d'.clauses = d.clauses)
    (hblocks : d'.blocks = d.blocks) : d'.compile = d.compile := by
  rw [compile_eq, compile_eq, hclauses, hblocks]

end Draft

/-! ### One entry of a group -/

namespace Entry

variable {e : Entry} (h : Catalog.isKnown e.kind = false)
include h

theorem term?_of_unknown : e.term? = none := by
  rw [term?, isActive, h]
  rfl

theorem parameterSet?_of_unknown : e.parameterSet? = none := by
  rw [parameterSet?, isActive, h]
  rfl

end Entry

theorem Entry.isKnown_blank (id : Nat) : Catalog.isKnown (Entry.blank id).kind = false := by
  show Catalog.isKnown "" = false
  decide

namespace Group

/-- The objects of a group if the entry at a position had the given one, or none. -/
def blockWith (g : Group) (j : Nat) (object? : Option ParameterSet) : List ParameterSet :=
  (g.entries.take j).filterMap Entry.parameterSet? ++ object?.toList
    ++ (g.entries.drop (j + 1)).filterMap Entry.parameterSet?

variable {es fs : List Entry} {e : Entry} {id : Nat}

theorem blockWith_length (object? : Option ParameterSet) :
    (Group.mk id (es ++ e :: fs)).blockWith es.length object?
      = es.filterMap Entry.parameterSet? ++ object?.toList
        ++ fs.filterMap Entry.parameterSet? := by
  have hdrop : (es ++ e :: fs).drop (es.length + 1) = fs := by
    rw [List.append_cons]
    exact List.drop_left' List.length_append
  rw [blockWith, List.take_left, hdrop]

/-- Taking out an entry takes out its object. -/
theorem block_append : (Group.mk id (es ++ fs)).block
    = (Group.mk id (es ++ e :: fs)).blockWith es.length none := by
  rw [blockWith_length, Option.toList_none, List.append_nil, block, List.filterMap_append]

/-- Changing an entry changes its object. -/
theorem block_append_cons {e' : Entry} : (Group.mk id (es ++ e' :: fs)).block
    = (Group.mk id (es ++ e :: fs)).blockWith es.length e'.parameterSet? := by
  rw [blockWith_length, block, List.filterMap_append]
  cases h : e'.parameterSet? <;> simp [h]

variable (h : Catalog.isKnown e.kind = false) (id : Nat) (es fs : List Entry)
include h

theorem clause_of_unknown :
    (Group.mk id (es ++ e :: fs)).clause = (Group.mk id (es ++ fs)).clause := by
  rw [clause, List.filterMap_append, List.filterMap_cons_none (Entry.term?_of_unknown h),
    ← List.filterMap_append, clause]

theorem block_of_unknown :
    (Group.mk id (es ++ e :: fs)).block = (Group.mk id (es ++ fs)).block := by
  rw [block, List.filterMap_append, List.filterMap_cons_none (Entry.parameterSet?_of_unknown h),
    ← List.filterMap_append, block]

end Group

/-! ### One group of a draft -/

namespace Draft

variable {gs hs : List Group} {g g' : Group} {m n : Nat}

/-- Another group in the place of one gives another clause in the place of one. -/
theorem clauses_replace :
    clauses ⟨gs ++ g' :: hs, m⟩ = (clauses ⟨gs ++ g :: hs, n⟩).set gs.length g'.clause := by
  have hset := set_length_append_cons (gs.map Group.clause) g.clause (hs.map Group.clause)
    g'.clause
  rw [List.length_map] at hset
  simp only [clauses, List.map_append, List.map_cons, hset]

theorem blocks_replace :
    blocks ⟨gs ++ g' :: hs, m⟩ = (blocks ⟨gs ++ g :: hs, n⟩).set gs.length g'.block := by
  have hset := set_length_append_cons (gs.map Group.block) g.block (hs.map Group.block) g'.block
  rw [List.length_map] at hset
  simp only [blocks, List.map_append, List.map_cons, hset]

/-- A group with the same clause and the same block is not told apart. -/
theorem compile_replace (hclause : g'.clause = g.clause) (hblock : g'.block = g.block) :
    compile ⟨gs ++ g' :: hs, m⟩ = compile ⟨gs ++ g :: hs, n⟩ :=
  compile_congr (by simp [clauses, hclause]) (by simp [blocks, hblock])

/-- An entry that is no condition may be left out unseen. -/
theorem compile_of_unknown {e : Entry} (h : Catalog.isKnown e.kind = false) (id : Nat)
    (es fs : List Entry) :
    compile ⟨gs ++ ⟨id, es ++ e :: fs⟩ :: hs, m⟩ = compile ⟨gs ++ ⟨id, es ++ fs⟩ :: hs, n⟩ :=
  compile_replace (Group.clause_of_unknown h id es fs) (Group.block_of_unknown h id es fs)

/-! ### Edits -/

/-- The artifacts of two drafts differ at most in one clause and, in the block of the same
group, in the object of the entry at one position: it is the one object before, and the other
after. -/
structure MeetAt (i j : Nat) (before? after? : Option ParameterSet) (d d' : Draft) : Prop where
  clauses : ∃ clause, d'.clauses = d.clauses.set i clause
  blocks : ∃ g, d.groups[i]? = some g ∧ g.block = g.blockWith j before? ∧
    d'.blocks = d.blocks.set i (g.blockWith j after?)

end Draft

/-- What an edit that finds something to act on does to the artifacts. -/
def Edit.ActsLocally (d d' : Draft) : Edit → Prop
  | .addGroup =>
    d'.clauses = d.clauses ++ [Clause.placeholderText] ∧ d'.blocks = d.blocks ++ [[]] ∧
      d'.compile = ⟨d.parameterSets,
        d.expression ++ Expression.separator ++ Clause.placeholderText⟩
  | .removeGroup i => d'.clauses = d.clauses.eraseIdx i ∧ d'.blocks = d.blocks.eraseIdx i
  | .addEntry _ => d'.compile = d.compile
  | .removeEntry i j => Draft.MeetAt i j ((d.entry? i j).bind Entry.parameterSet?) none d d'
  | .change i j _ =>
    Draft.MeetAt i j ((d.entry? i j).bind Entry.parameterSet?)
      ((d'.entry? i j).bind Entry.parameterSet?) d d'

namespace Draft

theorem Step.actsLocally {d d' : Draft} {edit : Edit} (h : d.Step edit d') (hd : d.groups ≠ []) :
    edit.ActsLocally d d' := by
  cases h with
  | @addGroup gs n =>
    -- a new group has a single blank entry, so it is written as a placeholder and has no block
    have hclause : (Group.mk n [Entry.blank (n + 1)]).clause = Clause.placeholderText :=
      Group.clause_of_unknown (Entry.isKnown_blank _) n [] []
    have hblock : (Group.mk n [Entry.blank (n + 1)]).block = [] :=
      Group.block_of_unknown (Entry.isKnown_blank _) n [] []
    have hclauses : clauses ⟨gs ++ [⟨n, [Entry.blank (n + 1)]⟩], n + 2⟩
        = clauses ⟨gs, n⟩ ++ [Clause.placeholderText] := by
      simp [clauses, hclause]
    have hblocks : blocks ⟨gs ++ [⟨n, [Entry.blank (n + 1)]⟩], n + 2⟩
        = blocks ⟨gs, n⟩ ++ [[]] := by
      simp [blocks, hblock]
    have hne : clauses ⟨gs, n⟩ ≠ [] := by simpa [clauses] using hd
    refine ⟨hclauses, hblocks, ?_⟩
    rw [compile_eq, hclauses, hblocks, joinWith_append_singleton _ hne]
    simp [parameterSets_eq, expression_eq]
  | @removeGroup gs hs g n hne =>
    -- every group has one clause and one block, so both lists lose theirs at one position
    have hlength {α : Type} (f : Group → α) :
        (gs.map f ++ f g :: hs.map f).eraseIdx gs.length = gs.map f ++ hs.map f := by
      simpa using eraseIdx_length_append_cons (gs.map f) (f g) (hs.map f)
    constructor
    · simp only [clauses, List.map_append, List.map_cons, hlength]
    · simp only [blocks, List.map_append, List.map_cons, hlength]
  -- the new entry is of no known kind, and such an entry takes no part in either artifact
  | @addEntry gs hs id es n =>
    have hblank : compile ⟨gs ++ ⟨id, es ++ [Entry.blank n]⟩ :: hs, n + 1⟩
        = compile ⟨gs ++ ⟨id, es ++ []⟩ :: hs, n⟩ :=
      compile_of_unknown (Entry.isKnown_blank n) id es []
    rwa [List.append_nil] at hblank
  | @removeEntry gs hs id es fs e n hne =>
    refine ⟨⟨_, clauses_replace⟩, ⟨id, es ++ e :: fs⟩, by simp, ?_, ?_⟩
    · rw [entry?_length]
      exact Group.block_append_cons
    · rw [blocks_replace, Group.block_append]
  | @change gs hs id es fs e e' n c hchange =>
    refine ⟨⟨_, clauses_replace⟩, ⟨id, es ++ e :: fs⟩, by simp, ?_, ?_⟩
    · rw [entry?_length]
      exact Group.block_append_cons
    · rw [entry?_length, blocks_replace, Group.block_append_cons]
      rfl

/-- The draft with another entry at a position, if there is one. -/
def setEntry (d : Draft) (i j : Nat) (e : Entry) : Draft :=
  { d with groups := d.groups.modify i fun g => { g with entries := g.entries.set j e } }

section
variable {d : Draft} {i j : Nat} {e : Entry} (hentry : d.entry? i j = some e)
  (h : Catalog.isKnown e.kind = false)
include hentry h

theorem compile_setEntry_of_unknown {e' : Entry} (h' : Catalog.isKnown e'.kind = false) :
    (d.setEntry i j e').compile = d.compile := by
  obtain ⟨gs, hs, id, es, fs, n, rfl, rfl, rfl⟩ := exists_around_entry? hentry
  rw [setEntry, modify_length_append_cons, set_length_append_cons]
  calc compile ⟨gs ++ ⟨id, es ++ e' :: fs⟩ :: hs, n⟩
    _ = compile ⟨gs ++ ⟨id, es ++ fs⟩ :: hs, n⟩ := compile_of_unknown h' id es fs
    _ = compile ⟨gs ++ ⟨id, es ++ e :: fs⟩ :: hs, n⟩ := (compile_of_unknown h id es fs).symm

theorem compile_removeEntry_of_unknown : (d.apply (.removeEntry i j)).compile = d.compile := by
  by_cases hidle : (Edit.removeEntry i j).Idle d
  · rw [apply_of_idle hidle]
  · have hstep := step_apply hidle
    generalize d.apply (.removeEntry i j) = d' at hstep ⊢
    cases hstep with
    | @removeEntry gs hs id es fs e₀ n hne =>
      rw [entry?_length] at hentry
      obtain rfl := Option.some.inj hentry
      exact (compile_of_unknown h id es fs).symm

end

/-- **Edits act locally on the artifacts.** The expression joins one clause for each group, and
the parameter array has one block after the other. Edits that find nothing to act on leave both
as they are. A new entry is not seen in either; a new group adds a placeholder and an empty
block behind all others; the removal of a group takes out its clause and its block; and a
change or the removal of an entry meets the clause of its group and, in the block, the object of
the entry. What is no condition may be removed, or anything else that is none put in its place,
and both artifacts stay the same. -/
theorem artifacts_local {d : Draft} (hd : d.groups ≠ []) :
    (∀ d' : Draft, d'.compile = ⟨d'.blocks.flatten, joinWith Expression.separator d'.clauses⟩) ∧
    (∀ edit : Edit, (edit.Idle d → (d.apply edit).compile = d.compile) ∧
      (¬ edit.Idle d → edit.ActsLocally d (d.apply edit))) ∧
    (∀ i j e, d.entry? i j = some e → Catalog.isKnown e.kind = false →
      (d.apply (.removeEntry i j)).compile = d.compile ∧
      ∀ e' : Entry, Catalog.isKnown e'.kind = false →
        (d.setEntry i j e').compile = d.compile) := by
  refine ⟨compile_eq, fun edit => ⟨fun hidle => ?_, fun hidle => ?_⟩, fun i j e hentry h =>
    ⟨compile_removeEntry_of_unknown hentry h, fun e' h' => ?_⟩⟩
  · rw [apply_of_idle hidle]
  · exact (step_apply hidle).actsLocally hd
  · exact compile_setEntry_of_unknown hentry h h'

/-- An entry of a kind that the catalog does not have, with values and a constant. -/
def foreignEntry : Entry := ⟨2, "Moon", [("phase", .text "full")], .below, .constant, some .zero⟩

/-- A foreign entry between two conditions, and a group without conditions. -/
def mixedDraft : Draft :=
  ⟨[⟨0, [⟨1, "Sma", [("timeperiod", .number .zero)], .above, .close, none⟩, foreignEntry,
      ⟨3, "Rsi", [("timeperiod", .text "")], .below, .close, none⟩]⟩,
    ⟨4, [Entry.blank 5]⟩], 6⟩

theorem artifacts_local_mixedDraft :
    mixedDraft.groups ≠ [] ∧
    ((Edit.removeGroup 2).Idle mixedDraft ∧
      (mixedDraft.apply (.removeGroup 2)).compile = mixedDraft.compile) ∧
    (¬ (Edit.removeEntry 0 2).Idle mixedDraft ∧
      (Edit.removeEntry 0 2).ActsLocally mixedDraft (mixedDraft.apply (.removeEntry 0 2))) ∧
    (mixedDraft.entry? 0 1 = some foreignEntry ∧ Catalog.isKnown foreignEntry.kind = false ∧
      Catalog.isKnown (Entry.blank 2).kind = false) ∧
    (mixedDraft.apply (.removeEntry 0 1)).compile = mixedDraft.compile ∧
    (mixedDraft.setEntry 0 1 (Entry.blank 2)).compile = mixedDraft.compile := by
  have hgroups : mixedDraft.groups ≠ [] := by decide
  have hidle : (Edit.removeGroup 2).Idle mixedDraft := by decide
  have heffective : ¬ (Edit.removeEntry 0 2).Idle mixedDraft := by decide
  have hentry : mixedDraft.entry? 0 1 = some foreignEntry := rfl
  have hforeign : Catalog.isKnown foreignEntry.kind = false := by decide
  have hblank : Catalog.isKnown (Entry.blank 2).kind = false := Entry.isKnown_blank 2
  obtain ⟨-, hedits, hunknown⟩ := artifacts_local hgroups
  obtain ⟨hremoved, hset⟩ := hunknown 0 1 foreignEntry hentry hforeign
  exact ⟨hgroups, ⟨hidle, (hedits _).1 hidle⟩, ⟨heffective, (hedits _).2 heffective⟩,
    ⟨hentry, hforeign, hblank⟩, hremoved, hset _ hblank⟩

end Draft
end IndicatorStrategy
