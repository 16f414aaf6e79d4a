import IndicatorStrategy.Operand.Basic
import IndicatorStrategy.Vocabulary
/-!
# IndicatorStrategy.Draft.Basic

The **draft of one side** of a strategy, as it is edited: groups of condition
entries, where a group holds when all its entries hold and the side when one of
its groups does. Groups and entries carry numbers from one counter, handed out in
the order of creation and never used again.
-/

namespace IndicatorStrategy

/-- A condition under construction. The constant is only set while the reference
is the constant one. -/
structure Entry where
  id : Nat
  kind : String
  parameters : Parameters
  trend : Trend
  reference : Reference
  constant? : Option Binary64
  deriving DecidableEq

namespace Entry

/-- No indicator chosen yet, above the close price. -/
def blank (id : Nat) : Entry := ⟨id, "", [], .above, .close, none⟩

/-- Whether the entry is a condition. An empty and an unknown kind both mean that
it is none. -/
def isActive (e : Entry) : Bool := Catalog.isKnown e.kind

/-- The constant the indicator is compared with, if it is compared with one. -/
def comparedConstant? (e : Entry) : Option Binary64 :=
  match e.reference with
  | .constant => e.constant?
  | .close => none

/-- Equality up to the numeric equality of numbers. -/
def equals (a b : Entry) : Bool :=
  a.id == b.id && a.kind == b.kind && a.parameters.equals b.parameters
    && a.trend == b.trend && a.reference == b.reference
    && match a.constant?, b.constant? with
      | some x, some y => x.equals y
      | none, none => true
      | _, _ => false

end Entry

/-- Entries that must hold together. -/
structure Group where
  id : Nat
  entries : List Entry
  deriving DecidableEq

namespace Group

/-- A group with a single blank entry, numbered from `id` on. -/
def blank (id : Nat) : Group := ⟨id, [Entry.blank (id + 1)]⟩

/-- The entries that are conditions. -/
def active (g : Group) : List Entry := g.entries.filter (·.isActive)

def equals (a b : Group) : Bool :=
  a.id == b.id && a.entries.length == b.entries.length
    && (a.entries.zip b.entries).all fun p => p.1.equals p.2

end Group

/-- One side of a strategy with the next number to hand out. -/
structure Draft where
  groups : List Group
  nextId : Nat
  deriving DecidableEq

namespace Draft

/-- A single group with a single blank entry. -/
def blank : Draft := ⟨[Group.blank 0], 2⟩

/-- The entry at a position. -/
def entry? (d : Draft) (group entry : Nat) : Option Entry :=
  d.groups[group]?.bind (·.entries[entry]?)

/-- The conditions of all groups. -/
def active (d : Draft) : List Entry := d.groups.flatMap (·.active)

/-- Equality up to the numeric equality of numbers; a draft that holds
not-a-number differs from itself. -/
def equals (a b : Draft) : Bool :=
  a.nextId == b.nextId && a.groups.length == b.groups.length
    && (a.groups.zip b.groups).all fun p => p.1.equals p.2

end Draft
end IndicatorStrategy
