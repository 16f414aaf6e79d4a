import IndicatorStrategy.Assoc
import IndicatorStrategy.Numeral
import IndicatorStrategy.Text.Case
/-!
# IndicatorStrategy.Configuration.Basic

A **configuration**: sections of keys, each with a value or without one. Sections
and keys are ascending, so a configuration is determined by what it holds and not
by the order in which a file lists it.
-/

namespace IndicatorStrategy

/-- The keys of one section. -/
abbrev Section := Assoc String (Option String)

/-- All sections of a configuration. -/
structure Configuration where
  sections : Assoc String Section
  deriving DecidableEq

namespace Configuration

/-- No sections. -/
def empty : Configuration := ⟨[]⟩

/-- The value of a key; names are looked up in small letters. -/
def get? (c : Configuration) (name key : String) : Option String :=
  ((Assoc.get? c.sections (lower name)).bind (Assoc.get? · (lower key))).join

/-- The value of a key as an integer of 64 bits, or else `default`. -/
def getInt (c : Configuration) (name key : String) (default : Int) : Int :=
  ((c.get? name key).bind Numeral.integer64?).getD default

/-- The names of the sections, ascending. -/
def names (c : Configuration) : List String := Assoc.keys c.sections

/-- The keys of a section, ascending. -/
def keys (c : Configuration) (name : String) : List String :=
  ((Assoc.get? c.sections name).map Assoc.keys).getD []

/-- Makes sure that a section exists. -/
def addSection (c : Configuration) (name : String) : Configuration :=
  match Assoc.get? c.sections name with
  | some _ => c
  | none => ⟨Assoc.putSorted c.sections name []⟩

/-- Stores a key in a section, which need not exist. -/
def put (c : Configuration) (name key : String) (value? : Option String) : Configuration :=
  let entries := (Assoc.get? c.sections name).getD []
  ⟨Assoc.putSorted c.sections name (Assoc.putSorted entries key value?)⟩

end Configuration
end IndicatorStrategy
