import IndicatorStrategy.Binary64.Decimal
import IndicatorStrategy.Draft.Edit
import IndicatorStrategy.Failure
/-!
# IndicatorStrategy.Configuration.Replay

**Configured conditions.** A section named `side.group.entry` holds one condition.
The numbers only order the sections, so gaps are allowed. The conditions of a side
become edits of a blank draft: loading a file obeys the rules of editing.
-/

namespace IndicatorStrategy

/-- The place of a condition that a section name gives. -/
structure Address where
  side : Side
  group : Nat
  entry : Nat
  deriving DecidableEq

/-- Reads `buy.2.1`; numbers have 32 bits. -/
def Address.ofName? (name : String) : Option Address :=
  match splitAtChar '.' name.toList with
  | [side, group, entry] =>
    match Side.ofWire (String.ofList side), Numeral.word32? (String.ofList group),
        Numeral.word32? (String.ofList entry) with
    | .ok s, some g, some e => some ⟨s, g, e⟩
    | _, _, _ => none
  | _ => none

/-- The keys of a condition that are no parameters. -/
def reservedKeys : List String := ["kind", "trend", "compare_to", "compare_value"]

namespace Configuration

/-! ### Which sections make up a side -/

/-- The sections that belong to a side, with their places, ascending by name. -/
def placed (c : Configuration) (side : Side) : List (Address × String) :=
  c.names.filterMap fun name =>
    ((Address.ofName? name).filter (·.side == side)).map (·, name)

/-- The sides with at least one condition. -/
def definedSides (c : Configuration) : List Side :=
  Side.all.filter fun side => !(c.placed side).isEmpty

/-- Section names by group and entry, both ascending. Of two names for one place the
greater wins. -/
def numbered (c : Configuration) (side : Side) : Assoc Nat (Assoc Nat String) :=
  (c.placed side).foldl
    (fun groups p =>
      let entries := (Assoc.get? groups p.1.group).getD []
      Assoc.putSorted groups p.1.group (Assoc.putSorted entries p.1.entry p.2))
    []

/-- The section names of a side, group by group. -/
def layout (c : Configuration) (side : Side) : List (List String) :=
  (c.numbered side).map fun g => g.2.map Prod.snd

/-! ### The changes of one entry -/

/-- The configured kind, without blanks around it. -/
def kindOf (c : Configuration) (name : String) : String :=
  ((c.get? name "kind").map trim).getD ""

/-- The parameter keys of a section: those of the kind in the order of the catalog,
then all others ascending. -/
def parameterKeys (c : Configuration) (name kind : String) : List String :=
  let present := c.keys name
  let known := (Catalog.fields kind).map (·.key)
  known.filter present.contains
    ++ present.filter fun key => !reservedKeys.contains key && !known.contains key

/-- A configured constant, which must be finite. -/
def constantOf (name raw : String) : Except Failure Binary64 :=
  match Binary64.ofString? (trim raw) with
  | some x =>
    if x.isFinite then .ok x else .error (.invalid name "compare_value" (.notNumber raw))
  | none => .error (.invalid name "compare_value" (.notNumber raw))

/-- A configured trend. -/
def trendOf (name raw : String) : Except Failure Trend :=
  match Trend.ofWire (trim raw) with
  | .ok t => .ok t
  | .error word => .error (.invalid name "trend" (.unknownWord word))

/-- A configured reference. -/
def referenceOf (name raw : String) : Except Failure Reference :=
  match Reference.ofWire (trim raw) with
  | .ok r => .ok r
  | .error word => .error (.invalid name "compare_to" (.unknownWord word))

/-- The change that a key with a value makes; without a value it makes none. -/
def changeOf {α : Type} (raw? : Option String) (read : String → Except Failure α)
    (change : α → Change) : Except Failure (List Change) :=
  match raw? with
  | none => .ok []
  | some raw => (read raw).map fun x => [change x]

/-- The selection of the kind, if one is given. -/
def kindChanges (c : Configuration) (name : String) : List Change :=
  let kind := c.kindOf name
  if kind.isEmpty then [] else [.kind kind]

/-- The parameters; a key without a value counts as empty. -/
def parameterChanges (c : Configuration) (name : String) : List Change :=
  (c.parameterKeys name (c.kindOf name)).map fun key =>
    .parameter key ((c.get? name key).getD "")

/-- The changes that a section makes to its entry, in the order of the form. -/
def changes (c : Configuration) (name : String) : Except Failure (List Change) := do
  let trend ← changeOf (c.get? name "trend") (trendOf name) .trend
  let reference ← changeOf (c.get? name "compare_to") (referenceOf name) .reference
  let constant ← changeOf (c.get? name "compare_value") (constantOf name) .constant
  return c.kindChanges name ++ c.parameterChanges name ++ trend ++ reference ++ constant

/-! ### The edits of a side -/

/-- The edits of the sections of a group from entry `e` on. -/
def entryEdits (c : Configuration) (g e : Nat) : List String → Except Failure (List Edit)
  | [] => .ok []
  | name :: names => do
    let changes ← c.changes name
    let more ← entryEdits c g (e + 1) names
    -- every group comes with its first entry
    return (if e = 0 then [] else [.addEntry g]) ++ changes.map (.change g e) ++ more

/-- The edits of the groups of a side from group `g` on. -/
def groupEdits (c : Configuration) (g : Nat) :
    List (List String) → Except Failure (List Edit)
  | [] => .ok []
  | names :: groups => do
    let here ← c.entryEdits g 0 names
    let more ← groupEdits c (g + 1) groups
    -- and every draft with its first group
    return (if g = 0 then [] else [.addGroup]) ++ here ++ more

/-- The edits that make a blank draft into the configured side. -/
def edits (c : Configuration) (side : Side) : Except Failure (List Edit) :=
  c.groupEdits 0 (c.layout side)

/-- The configured side. -/
def draft (c : Configuration) (side : Side) : Except Failure Draft :=
  (c.edits side).map Draft.blank.applyAll

end Configuration
end IndicatorStrategy
