import IndicatorStrategy.Binary64.Decimal
import IndicatorStrategy.Json.Basic
/-!
# IndicatorStrategy.Json.Token

**JSON tokens.** `Json.tokens` cuts a text into tokens and stops at the first
malformed lexeme, which it leaves as a last token `bad`. Two lexemes are well
formed but name no value: a number beyond the doubles, and a string with half of a
surrogate pair. They are tokens without a value, so that a reader which passes over
them can.
-/

namespace IndicatorStrategy
namespace Json

/-- A token of a JSON text. -/
inductive Token
  | openArray
  | closeArray
  | openObject
  | closeObject
  | comma
  | colon
  | null
  | bool (value : Bool)
  | number (value? : Option Json)
  | string (value? : Option String)
  /-- A malformed lexeme; nothing follows it. -/
  | bad

/-! ### Strings -/

/-- The number of four hexadecimal digits. -/
def hex4? (a b c d : Char) : Option Nat := do
  return 4096 * (← Numeral.hexValue? a) + 256 * (← Numeral.hexValue? b) +
    16 * (← Numeral.hexValue? c) + (← Numeral.hexValue? d)

def isHighSurrogate (n : Nat) : Bool := 0xD800 ≤ n && n ≤ 0xDBFF

def isLowSurrogate (n : Nat) : Bool := 0xDC00 ≤ n && n ≤ 0xDFFF

/-- The character of a surrogate pair. -/
def joinSurrogates (high low : Nat) : Char :=
  Char.ofNat (0x10000 + 1024 * (high - 0xD800) + (low - 0xDC00))

/-- The character of a short escape. -/
def escaped? : Char → Option Char
  | '"' => some '"'
  | '\\' => some '\\'
  | '/' => some '/'
  | 'b' => some '\x08'
  | 'f' => some '\x0c'
  | 'n' => some '\n'
  | 'r' => some '\r'
  | 't' => some '\t'
  | _ => none

/-- The contents of a string, unless it has none, and what follows it. -/
abbrev StringRest := Option (List Char) × List Char

/-- Puts a character in front of the contents. -/
def StringRest.push (c : Char) (r : StringRest) : StringRest := (r.1.map (c :: ·), r.2)

/-- Forgets the contents. -/
def StringRest.spoil (r : StringRest) : StringRest := (none, r.2)

/-- A string from behind its opening quote. -/
def readString : List Char → Option StringRest
  | [] => none
  | '"' :: cs => some (some [], cs)
  | '\\' :: 'u' :: a :: b :: c :: d :: cs =>
    match hex4? a b c d with
    | none => none
    | some n =>
      if isHighSurrogate n then
        -- a half without its other half spoils the contents, but the string goes on
        match cs with
        | '\\' :: 'u' :: a' :: b' :: c' :: d' :: cs' =>
          match hex4? a' b' c' d' with
          | none => none
          | some m =>
            if isLowSurrogate m then (readString cs').map (·.push (joinSurrogates n m))
            else (readString cs').map StringRest.spoil
        | cs => (readString cs).map StringRest.spoil
      else if isLowSurrogate n then (readString cs).map StringRest.spoil
      else (readString cs).map (·.push (Char.ofNat n))
  | '\\' :: c :: cs =>
    match escaped? c with
    | none => none
    | some e => (readString cs).map (·.push e)
  | c :: cs =>
    if c.toNat < 0x20 || c == '\\' then none else (readString cs).map (·.push c)

/-! ### Numbers -/

/-- The fraction of a number with its point, and what follows it. -/
def readFraction : List Char → Option (List Char × List Char)
  | '.' :: cs =>
    let ds := cs.takeWhile Char.isDigit
    if ds.isEmpty then none else some (ds, cs.dropWhile Char.isDigit)
  | cs => some ([], cs)

/-- The digits of an exponent as an integer, and what follows them. -/
def readExponentDigits (negative : Bool) (cs : List Char) : Option (Int × List Char) :=
  let ds := cs.takeWhile Char.isDigit
  if ds.isEmpty then none
  else
    let n : Int := Numeral.value ds
    some (if negative then -n else n, cs.dropWhile Char.isDigit)

/-- The exponent of a number, if it has one, and what follows it. -/
def readExponent : List Char → Option (Option Int × List Char)
  | c :: cs =>
    if c = 'e' ∨ c = 'E' then
      let signed := Decimal.splitSign cs
      (readExponentDigits signed.1 signed.2).map fun r => (some r.1, r.2)
    else some (none, c :: cs)
  | [] => some (none, [])

/-- A decimal as a double, unless it is too large. -/
def double? (d : Decimal) : Option Json :=
  match d.toBinary64 with
  | .finite negative rank => some (.double negative rank)
  | _ => none

/-- The value of an integer lexeme: an integer of 64 bits, signed below zero, or
else a double; a negative zero is a double. -/
def integerValue? (negative : Bool) (ds : List Char) : Option Json :=
  let n := Numeral.value ds
  if negative then
    if n = 0 ∨ Numeral.limit63 < n then double? ⟨true, ds, 0⟩ else some (.int (-(n : Int)))
  else if n < Numeral.limit64 then some (.int n) else double? ⟨false, ds, 0⟩

/-- The number after an optional sign, unless it has no value, and what follows
it. A leading zero stands alone. -/
def readMagnitude (negative : Bool) (cs : List Char) : Option (Option Json × List Char) :=
  let whole := cs.takeWhile Char.isDigit
  if whole.isEmpty || (whole.head? == some '0' && 1 < whole.length) then none
  else
    match readFraction (cs.dropWhile Char.isDigit) with
    | none => none
    | some (fraction, rest) =>
      match readExponent rest with
      | none => none
      | some (none, rest) =>
        if fraction.isEmpty then some (integerValue? negative whole, rest)
        else some (double? ⟨negative, whole ++ fraction, -fraction.length⟩, rest)
      | some (some e, rest) =>
        some (double? ⟨negative, whole ++ fraction, e - fraction.length⟩, rest)

/-- A number lexeme. -/
def readNumber : List Char → Option (Option Json × List Char)
  | '-' :: cs => readMagnitude true cs
  | cs => readMagnitude false cs

/-! ### Every lexeme takes characters -/

theorem length_dropWhile_le (p : Char → Bool) (cs : List Char) :
    (cs.dropWhile p).length ≤ cs.length := (List.dropWhile_suffix _).length_le

theorem length_readString_lt {cs : List Char} {r : StringRest}
    (h : readString cs = some r) : r.2.length < cs.length := by
  fun_induction readString cs generalizing r with
  | case1 => simp at h
  | case2 => simp only [Option.some.injEq] at h; subst h; simp
  | case3 => simp at h
  | case4 => simp at h
  | case5 | case6 | case7 | case8 | case9 | case11 =>
    rename_i ih
    obtain ⟨s, hs, rfl⟩ := Option.map_eq_some_iff.mp h
    have := ih hs
    simp only [StringRest.push, StringRest.spoil, List.length_cons]
    omega
  | case10 => simp at h
  | case12 => simp at h
  | case13 =>
    rename_i ih
    obtain ⟨s, hs, rfl⟩ := Option.map_eq_some_iff.mp h
    have := ih hs
    simp only [StringRest.push, List.length_cons]
    omega

theorem length_readFraction_le {cs : List Char} {r : List Char × List Char}
    (h : readFraction cs = some r) : r.2.length ≤ cs.length := by
  unfold readFraction at h
  split at h
  · rename_i cs
    have := length_dropWhile_le Char.isDigit cs
    simp only at h
    split at h
    · simp at h
    · simp only [Option.some.injEq] at h
      subst h
      simp only [List.length_cons]
      omega
  · simp only [Option.some.injEq] at h
    subst h
    exact Nat.le_refl _

theorem length_splitSign_le (cs : List Char) :
    (Decimal.splitSign cs).2.length ≤ cs.length := by
  unfold Decimal.splitSign
  split <;> simp

theorem length_readExponentDigits_le {negative : Bool} {cs : List Char}
    {r : Int × List Char} (h : readExponentDigits negative cs = some r) :
    r.2.length ≤ cs.length := by
  unfold readExponentDigits at h
  simp only at h
  split at h
  · simp at h
  · simp only [Option.some.injEq] at h
    subst h
    exact length_dropWhile_le _ _

theorem length_readExponent_le {cs : List Char} {r : Option Int × List Char}
    (h : readExponent cs = some r) : r.2.length ≤ cs.length := by
  unfold readExponent at h
  split at h
  · rename_i c cs
    split at h
    · obtain ⟨s, hs, rfl⟩ := Option.map_eq_some_iff.mp h
      have h1 := length_splitSign_le cs
      have h2 := length_readExponentDigits_le hs
      simp only [List.length_cons]
      omega
    · simp only [Option.some.injEq] at h
      subst h
      exact Nat.le_refl _
  · simp only [Option.some.injEq] at h
    subst h
    exact Nat.le_refl _

theorem length_readMagnitude_lt {negative : Bool} {cs : List Char}
    {r : Option Json × List Char} (h : readMagnitude negative cs = some r) :
    r.2.length < cs.length := by
  unfold readMagnitude at h
  simp only at h
  split at h
  · simp at h
  · rename_i hw
    have hlen : (cs.takeWhile Char.isDigit).length + (cs.dropWhile Char.isDigit).length
        = cs.length := by
      rw [← List.length_append, List.takeWhile_append_dropWhile]
    have hpos : 0 < (cs.takeWhile Char.isDigit).length := by
      cases hd : cs.takeWhile Char.isDigit with
      | nil => simp [hd] at hw
      | cons => simp
    split at h
    · simp at h
    · rename_i fraction rest hf
      have h1 := length_readFraction_le hf
      split at h
      · simp at h
      · rename_i rest' he
        have h2 := length_readExponent_le he
        simp only at h1 h2
        split at h <;>
        · simp only [Option.some.injEq] at h
          subst h
          simp only
          omega
      · rename_i e rest' he
        have h2 := length_readExponent_le he
        simp only [Option.some.injEq] at h
        subst h
        simp only at h1 h2 ⊢
        omega

theorem length_readNumber_lt {cs : List Char} {r : Option Json × List Char}
    (h : readNumber cs = some r) : r.2.length < cs.length := by
  unfold readNumber at h
  split at h
  · have := length_readMagnitude_lt h
    simp only [List.length_cons]
    omega
  · exact length_readMagnitude_lt h

/-! ### Texts -/

/-- Whether a character may stand between tokens. -/
def isBlankChar (c : Char) : Bool := c == ' ' || c == '\n' || c == '\t' || c == '\r'

/-- The tokens of a text, up to the first malformed one. -/
def tokens (cs : List Char) : List Token :=
  match cs with
  | [] => []
  | '[' :: cs => .openArray :: tokens cs
  | ']' :: cs => .closeArray :: tokens cs
  | '\x7b' :: cs => .openObject :: tokens cs
  | '\x7d' :: cs => .closeObject :: tokens cs
  | ',' :: cs => .comma :: tokens cs
  | ':' :: cs => .colon :: tokens cs
  | 'n' :: 'u' :: 'l' :: 'l' :: cs => .null :: tokens cs
  | 't' :: 'r' :: 'u' :: 'e' :: cs => .bool true :: tokens cs
  | 'f' :: 'a' :: 'l' :: 's' :: 'e' :: cs => .bool false :: tokens cs
  | '"' :: cs =>
    match _h : readString cs with
    | none => [.bad]
    | some (s, rest) => .string (s.map String.ofList) :: tokens rest
  | c :: cs =>
    if isBlankChar c then tokens cs
    else match _h : readNumber (c :: cs) with
      | none => [.bad]
      | some (n, rest) => .number n :: tokens rest
termination_by cs.length
decreasing_by
  all_goals simp only [List.length_cons]
  all_goals try omega
  · have := length_readString_lt _h
    simp only at this
    omega
  · have := length_readNumber_lt _h
    simp only [List.length_cons] at this
    omega

end Json
end IndicatorStrategy
