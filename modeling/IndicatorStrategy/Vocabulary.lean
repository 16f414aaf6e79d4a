/-!
# IndicatorStrategy.Vocabulary

The **fixed words** of a strategy: which way a condition crosses its reference
(`Trend`), what it is compared with (`Reference`), and which side of the strategy
it belongs to (`Side`). Each word has one spelling on the wire; any other text is
refused with an `UnknownWord`.
-/

namespace IndicatorStrategy

/-- A text that should have been one of the fixed words. -/
inductive UnknownWord
  | trend (text : String)
  | reference (text : String)
  | side (text : String)
  deriving DecidableEq

/-- What was found and what would have been accepted. -/
def UnknownWord.message : UnknownWord → String
  | trend t => s!"unknown trend '{t}' (expected above, below, crossed_above, crossed_below)"
  | reference t => s!"unknown compare_to '{t}' (expected close, constant)"
  | side t => s!"unknown side '{t}' (expected buy, sell)"

/-! ### Trends -/

/-- How an indicator stands to its reference. -/
inductive Trend
  | above
  | below
  | crossedAbove
  | crossedBelow
  deriving DecidableEq

namespace Trend

def all : List Trend := [above, below, crossedAbove, crossedBelow]

/-- The spelling on the wire. -/
def wire : Trend → String
  | above => "above"
  | below => "below"
  | crossedAbove => "crossed_above"
  | crossedBelow => "crossed_below"

/-- The label in a menu. -/
def label : Trend → String
  | above => "Above"
  | below => "Below"
  | crossedAbove => "Crossed Above"
  | crossedBelow => "Crossed Below"

/-- The trend with a given spelling. -/
def ofWire (text : String) : Except UnknownWord Trend :=
  match all.find? (·.wire == text) with
  | some t => .ok t
  | none => .error (.trend text)

@[simp] theorem ofWire_wire (t : Trend) : ofWire t.wire = .ok t := by
  cases t <;> rfl

end Trend

/-! ### References -/

/-- What an indicator is compared with. -/
inductive Reference
  | close
  | constant
  deriving DecidableEq

namespace Reference

def all : List Reference := [close, constant]

/-- The spelling on the wire. -/
def wire : Reference → String
  | close => "close"
  | constant => "constant"

/-- The label in a menu. -/
def label : Reference → String
  | close => "Close Price"
  | constant => "Constant Value"

/-- The reference with a given spelling. -/
def ofWire (text : String) : Except UnknownWord Reference :=
  match all.find? (·.wire == text) with
  | some r => .ok r
  | none => .error (.reference text)

@[simp] theorem ofWire_wire (r : Reference) : ofWire r.wire = .ok r := by
  cases r <;> rfl

end Reference

/-! ### Sides -/

/-- The two halves of a strategy. -/
inductive Side
  | buy
  | sell
  deriving DecidableEq

namespace Side

def all : List Side := [buy, sell]

/-- The spelling on the wire. -/
def wire : Side → String
  | buy => "buy"
  | sell => "sell"

/-- The store key of the parameter array. -/
def parametersKey (side : Side) : String := side.wire

/-- The store key of the expression. -/
def expressionKey : Side → String
  | buy => "buy_exp"
  | sell => "sell_exp"

/-- The side with a given spelling. -/
def ofWire (text : String) : Except UnknownWord Side :=
  match all.find? (·.wire == text) with
  | some s => .ok s
  | none => .error (.side text)

@[simp] theorem ofWire_wire (s : Side) : ofWire s.wire = .ok s := by
  cases s <;> rfl

end Side

/-! ### Refusals -/

section

variable {ε α β : Type}

/-- Two steps that may be refused succeed just when both do, the second on what the first
came to. -/
theorem bind_eq_ok_iff {x : Except ε α} {f : α → Except ε β} {b : β} :
    x >>= f = .ok b ↔ ∃ a, x = .ok a ∧ f a = .ok b := by
  cases x <;> simp [bind, Except.bind]

theorem map_eq_ok_iff {x : Except ε α} {f : α → β} {b : β} :
    x.map f = .ok b ↔ ∃ a, x = .ok a ∧ f a = b := by
  cases x <;> simp [Except.map]

end

end IndicatorStrategy
