import IndicatorStrategy.Draft.Basic
/-!
# IndicatorStrategy.Draft.Edit

**Edits** of a draft. An edit either adds or removes a group or an entry, or
changes one entry. What would leave a draft without groups or a group without
entries, and what addresses a position that does not exist, has no effect.
-/

namespace IndicatorStrategy

/-- A change to one entry. -/
inductive Change
  /-- Selects an indicator and starts its parameters anew. -/
  | kind (kind : String)
  /-- Sets a parameter from the text of its field. -/
  | parameter (key raw : String)
  | trend (trend : Trend)
  | reference (reference : Reference)
  /-- Sets the constant to compare with. -/
  | constant (value : Binary64)
  deriving DecidableEq

/-- One step of editing; positions count from zero. -/
inductive Edit
  | addGroup
  | removeGroup (group : Nat)
  | addEntry (group : Nat)
  | removeEntry (group entry : Nat)
  | change (group entry : Nat) (change : Change)
  deriving DecidableEq

/-- The value that the text of a field stands for: a number in an integer field of
the kind, else the text itself. -/
def Operand.ofField (kind key raw : String) : Operand :=
  match Catalog.field? kind key with
  | some ⟨_, _, .integer⟩ => .number (.ofField raw)
  | _ => .text raw

namespace Entry

/-- The entry after a change. A new reference drops the constant, and a constant
is refused unless the reference is the constant one. -/
def apply (e : Entry) : Change → Entry
  | .kind kind => { e with kind, parameters := Parameters.initial kind }
  | .parameter key raw =>
    { e with parameters := Assoc.put e.parameters key (Operand.ofField e.kind key raw) }
  | .trend trend => { e with trend }
  | .reference reference => { e with reference, constant? := none }
  | .constant value =>
    match e.reference with
    | .constant => { e with constant? := some value }
    | .close => e

@[simp] theorem id_apply (e : Entry) (c : Change) : (e.apply c).id = e.id := by
  cases c with
  | constant v => simp only [apply]; split <;> rfl
  | _ => rfl

end Entry

namespace Draft

def addGroup (d : Draft) : Draft :=
  ⟨d.groups ++ [Group.blank d.nextId], d.nextId + 2⟩

def removeGroup (d : Draft) (group : Nat) : Draft :=
  if 1 < d.groups.length then { d with groups := d.groups.eraseIdx group } else d

def addEntry (d : Draft) (group : Nat) : Draft :=
  if group < d.groups.length then
    ⟨d.groups.modify group fun g => { g with entries := g.entries ++ [Entry.blank d.nextId] },
      d.nextId + 1⟩
  else d

def removeEntry (d : Draft) (group entry : Nat) : Draft :=
  { d with groups := d.groups.modify group fun g =>
      if 1 < g.entries.length then { g with entries := g.entries.eraseIdx entry } else g }

/-- Changes the entry at a position, if there is one. -/
def changeEntry (d : Draft) (group entry : Nat) (change : Change) : Draft :=
  { d with groups := d.groups.modify group fun g =>
      { g with entries := g.entries.modify entry (·.apply change) } }

/-- The draft after an edit. -/
def apply (d : Draft) : Edit → Draft
  | .addGroup => d.addGroup
  | .removeGroup group => d.removeGroup group
  | .addEntry group => d.addEntry group
  | .removeEntry group entry => d.removeEntry group entry
  | .change group entry change => d.changeEntry group entry change

/-- The draft after a list of edits. -/
def applyAll (d : Draft) (edits : List Edit) : Draft := edits.foldl apply d

@[simp] theorem applyAll_nil (d : Draft) : d.applyAll [] = d := rfl

@[simp] theorem applyAll_cons (d : Draft) (e : Edit) (es : List Edit) :
    d.applyAll (e :: es) = (d.apply e).applyAll es := rfl

theorem applyAll_append (d : Draft) (es fs : List Edit) :
    d.applyAll (es ++ fs) = (d.applyAll es).applyAll fs := by
  simp [applyAll]

end Draft
end IndicatorStrategy
