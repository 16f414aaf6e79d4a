import IndicatorStrategy.Expression.Basic
import IndicatorStrategy.Numeral
/-!
# IndicatorStrategy.Expression.Parser

**Reading expressions.** A term reaches up to the next space, parenthesis, bar or
ampersand. Its key is the longest wire key that starts it, or else its leading run
of capitals and underscores; its trend is what ends it, a crossing before the
plain trend that it ends in; what lies between are the operands.

Reading stops at the first fault. Inside the parser a fault carries the text that
was left when it was found; `Expression.parse` turns this into a position, which
counts bytes.
-/

namespace IndicatorStrategy

/-- What is wrong at a place of an expression. -/
inductive ExpressionFault
  /-- A term should start here. -/
  | noTerm (found? : Option Char)
  /-- The term starts with no key. -/
  | noKey (term : String)
  /-- The term ends in no trend. -/
  | noTrend (term : String)
  /-- A parenthesis should close here. -/
  | unclosed (found? : Option Char)
  /-- Parentheses around a single term. -/
  | loneTerm
  /-- The expression should end here. -/
  | trailing (found? : Option Char)
  deriving DecidableEq

namespace ExpressionFault

/-- A character as it is named in a message. -/
def describe : Option Char → String
  | some c => c.toString
  | none => "end of input"

def message : ExpressionFault → String
  | noTerm found? => s!"expected condition, found '{describe found?}'"
  | noKey term => s!"expected indicator key, found '{term}'"
  | noTrend term => s!"expected trend at end of '{term}'"
  | unclosed (some c) => s!"expected ')', found '{c}'"
  | unclosed none => "expected ')', found end of input"
  | loneTerm => "parenthesized group requires at least 2 conditions"
  | trailing found? => s!"unexpected input '{describe found?}'"

end ExpressionFault

/-- A fault and the byte position where it was found. -/
structure ExpressionError where
  fault : ExpressionFault
  position : Nat
  deriving DecidableEq

namespace ExpressionError

def message (e : ExpressionError) : String := e.fault.message

/-- The error on one line. -/
def text (e : ExpressionError) : String :=
  "parse error at position " ++ Numeral.ofNat e.position ++ ": " ++ e.message

/-- The error under the input, with a caret as many columns in as its position. -/
def context (e : ExpressionError) (input : String) : String :=
  input ++ "\n" ++ String.ofList (List.replicate e.position ' ') ++ "^\n" ++ e.text

end ExpressionError

namespace Expression

/-- A fault with the text that was left when it was found. -/
structure Stop where
  fault : ExpressionFault
  rest : List Char

/-! ### Terms -/

/-- Whether a character can be part of a term. -/
def isTermChar (c : Char) : Bool :=
  c != ' ' && c != '(' && c != ')' && c != '|' && c != '&'

/-- Whether a character can be part of a key that no indicator has. -/
def isKeyChar (c : Char) : Bool := c.isUpper || c == '_'

/-- The longer of two keys; of two equally long ones the first. -/
def longer (k l : List Char) : List Char := if k.length < l.length then l else k

/-- The longest wire key that starts a term, if any does. -/
def knownKey? (term : List Char) : Option (List Char) :=
  match (Catalog.wireKeys.map String.toList).filter (·.isPrefixOf term) with
  | [] => none
  | k :: ks => some (ks.foldl longer k)

/-- The key of a term. -/
def keyOf (term : List Char) : List Char :=
  (knownKey? term).getD (term.takeWhile isKeyChar)

/-- The trends in the order in which they are tried at the end of a term. -/
def endings : List Trend := [.crossedAbove, .crossedBelow, .above, .below]

/-- The trend that ends a text, if any does. -/
def endingOf? (cs : List Char) : Option Trend :=
  endings.find? fun t => t.wire.toList.isSuffixOf cs

/-- The term that a run of term characters writes, with the text after it. -/
def termOf (term rest : List Char) : Except Stop Term :=
  if term.isEmpty then .error ⟨.noTerm rest.head?, rest⟩
  else
    let key := keyOf term
    -- of the three faults this one alone stands at the beginning of the term
    if key.isEmpty then .error ⟨.noKey (String.ofList term), term ++ rest⟩
    else
      let tail := term.drop key.length
      match endingOf? tail with
      | none => .error ⟨.noTrend (String.ofList term), rest⟩
      | some trend =>
        .ok ⟨String.ofList key,
          String.ofList (tail.take (tail.length - trend.wire.toList.length)), trend⟩

/-- What follows the term at the start of a text. -/
def afterTerm (cs : List Char) : List Char := cs.dropWhile isTermChar

/-- The term at the start of a text. -/
def readTerm (cs : List Char) : Except Stop Term :=
  termOf (cs.takeWhile isTermChar) (afterTerm cs)

theorem length_afterTerm_le (cs : List Char) : (afterTerm cs).length ≤ cs.length :=
  (List.dropWhile_suffix _).length_le

/-! ### Clauses -/

/-- The further terms of a parenthesized clause, and what follows them. -/
def readTerms (cs : List Char) : Except Stop (List Term × List Char) :=
  match cs with
  | ' ' :: '&' :: ' ' :: cs =>
    match readTerm cs with
    | .error stop => .error stop
    | .ok t =>
      match readTerms (afterTerm cs) with
      | .error stop => .error stop
      | .ok (ts, rest) => .ok (t :: ts, rest)
  | cs => .ok ([], cs)
termination_by cs.length
decreasing_by
  have := length_afterTerm_le cs
  simp only [List.length_cons]
  omega

/-- The clause whose parenthesis was opened, and what follows it. -/
def readParenthesized (cs : List Char) : Except Stop (Clause × List Char) :=
  match readTerm cs with
  | .error stop => .error stop
  | .ok t =>
    match readTerms (afterTerm cs) with
    | .error stop => .error stop
    | .ok (ts, ')' :: rest) =>
      -- only the parenthesis shows that no second term comes, so the fault is behind it
      if ts.isEmpty then .error ⟨.loneTerm, rest⟩ else .ok (.terms (t :: ts), rest)
    | .ok (_, rest) => .error ⟨.unclosed rest.head?, rest⟩

/-- The clause at the start of a text, and what follows it. -/
def readClause : List Char → Except Stop (Clause × List Char)
  | '_' :: '_' :: '_' :: cs => .ok (.placeholder, cs)
  | '(' :: cs => readParenthesized cs
  | cs =>
    match readTerm cs with
    | .error stop => .error stop
    | .ok t => .ok (.terms [t], afterTerm cs)

theorem length_readTerms_le {cs rest : List Char} {ts : List Term}
    (h : readTerms cs = .ok (ts, rest)) : rest.length ≤ cs.length := by
  fun_induction readTerms cs generalizing ts rest with
  | case1 => simp at h
  | case2 => simp at h
  | case3 cs t _ ts' rest' hr ih =>
    have h1 := ih hr
    have h2 := length_afterTerm_le cs
    simp only [Except.ok.injEq, Prod.mk.injEq] at h
    obtain ⟨-, rfl⟩ := h
    simp only [List.length_cons]
    omega
  | case4 cs =>
    simp only [Except.ok.injEq, Prod.mk.injEq] at h
    obtain ⟨-, rfl⟩ := h
    exact Nat.le_refl _

theorem length_readParenthesized_le {cs rest : List Char} {c : Clause}
    (h : readParenthesized cs = .ok (c, rest)) : rest.length ≤ cs.length := by
  have h1 := length_afterTerm_le cs
  unfold readParenthesized at h
  split at h
  · simp at h
  · split at h
    · simp at h
    · rename_i hr
      have h2 := length_readTerms_le hr
      simp only [List.length_cons] at h2
      split at h
      · simp at h
      · simp only [Except.ok.injEq, Prod.mk.injEq] at h
        obtain ⟨-, rfl⟩ := h
        omega
    · simp at h

theorem length_readClause_le {cs rest : List Char} {c : Clause}
    (h : readClause cs = .ok (c, rest)) : rest.length ≤ cs.length := by
  unfold readClause at h
  split at h
  · simp only [Except.ok.injEq, Prod.mk.injEq] at h
    obtain ⟨-, rfl⟩ := h
    simp only [List.length_cons]
    omega
  · have := length_readParenthesized_le h
    simp only [List.length_cons]
    omega
  · split at h
    · simp at h
    · simp only [Except.ok.injEq, Prod.mk.injEq] at h
      obtain ⟨-, rfl⟩ := h
      exact length_afterTerm_le _

/-! ### Expressions -/

/-- The further clauses of an expression, up to the end of the text. -/
def readClauses (cs : List Char) : Except Stop (List Clause) :=
  match cs with
  | [] => .ok []
  | ' ' :: '|' :: ' ' :: cs =>
    match _h : readClause cs with
    | .error stop => .error stop
    | .ok (c, rest) =>
      match readClauses rest with
      | .error stop => .error stop
      | .ok clauses => .ok (c :: clauses)
  | cs => .error ⟨.trailing cs.head?, cs⟩
termination_by cs.length
decreasing_by
  have := length_readClause_le _h
  simp only [List.length_cons]
  omega

/-- The clauses of a whole text. -/
def readAll (cs : List Char) : Except Stop (List Clause) :=
  match readClause cs with
  | .error stop => .error stop
  | .ok (c, rest) =>
    match readClauses rest with
    | .error stop => .error stop
    | .ok clauses => .ok (c :: clauses)

/-- The number of bytes a text takes in UTF-8. -/
def byteLength : List Char → Nat
  | [] => 0
  | c :: cs => c.utf8Size + byteLength cs

/-- The expression a text writes, or the first fault in it. -/
def parse (input : String) : Except ExpressionError Expression :=
  match readAll input.toList with
  | .ok clauses => .ok ⟨clauses⟩
  | .error stop => .error ⟨stop.fault, byteLength input.toList - byteLength stop.rest⟩

end Expression
end IndicatorStrategy
