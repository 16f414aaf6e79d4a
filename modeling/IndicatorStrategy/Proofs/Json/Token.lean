import IndicatorStrategy.Assoc
import IndicatorStrategy.Proofs.Json.Number
/-!
# IndicatorStrategy.Proofs.Json.Token

**Compact texts are cut into the tokens they were written from.** `Json.lexemes` lists
the tokens of a value as the printer puts them down. Reading the compact text of a
storable value yields exactly these, and then the tokens of whatever follows.

A `Storable` value is one that the printer and the reader agree on: its integers fit in
64 bits, no object has a key twice, and it is not nested deeper than it is allowed to be.
-/

namespace IndicatorStrategy
namespace Json

/-! ### Strings -/

theorem hexValue?_hexDigit : ∀ d < 16, Numeral.hexValue? (hexDigit d) = some d := by decide

theorem hex4?_control {n : Nat} (h : n < 0x20) :
    hex4? '0' '0' (hexDigit (n / 16)) (hexDigit (n % 16)) = some n := by
  have h1 := hexValue?_hexDigit (n / 16) (by omega)
  have h2 := hexValue?_hexDigit (n % 16) (by omega)
  simp only [hex4?, h1, h2, show Numeral.hexValue? '0' = some 0 from rfl]
  show some (4096 * 0 + 256 * 0 + 16 * (n / 16) + n % 16) = some n
  congr 1
  omega

/-- A character that is written as it is. -/
theorem readString_plain {c : Char} {cs : List Char} (hquote : c ≠ '"') (hslash : c ≠ '\\')
    (hspace : ¬c.toNat < 0x20) :
    readString (c :: cs) = (readString cs).map (·.push c) := by
  rw [readString.eq_def]
  split <;> simp_all

/-- A character written with its code. -/
theorem readString_control {c : Char} {cs : List Char} (h : c.toNat < 0x20) :
    readString ('\\' :: 'u' :: '0' :: '0' :: hexDigit (c.toNat / 16) ::
      hexDigit (c.toNat % 16) :: cs) = (readString cs).map (·.push c) := by
  have hhigh : isHighSurrogate c.toNat = false := by simp [isHighSurrogate]; omega
  have hlow : isLowSurrogate c.toNat = false := by simp [isLowSurrogate]; omega
  rw [readString]
  simp only [hex4?_control h, hhigh, hlow, Bool.false_eq_true, if_false, Char.ofNat_toNat]

/-- **Every character** is read back from the way it is written in a string. -/
theorem readString_escapeChar (c : Char) (cs : List Char) :
    readString (escapeChar c ++ cs) = (readString cs).map (·.push c) := by
  unfold escapeChar
  split
  case h_8 =>
    split
    · exact readString_control ‹_›
    · exact readString_plain ‹_› ‹_› ‹_›
  all_goals rfl

theorem readString_quoted (cs rest : List Char) :
    readString (cs.flatMap escapeChar ++ '"' :: rest) = some (some cs, rest) := by
  induction cs with
  | nil => rfl
  | cons c cs ih =>
    rw [List.flatMap_cons, List.append_assoc, readString_escapeChar, ih]
    rfl

/-! ### Tokens -/

theorem tokens_nil : tokens [] = [] := by rw [tokens]

theorem tokens_string {cs rest : List Char} {s : Option (List Char)}
    (h : readString cs = some (s, rest)) :
    tokens ('"' :: cs) = .string (s.map String.ofList) :: tokens rest := by
  rw [tokens]
  split <;> simp_all

theorem tokens_quote (s : String) (rest : List Char) :
    tokens ((quote s).toList ++ rest) = .string (some s) :: tokens rest := by
  have h := tokens_string (readString_quoted s.toList rest)
  simpa [quote] using h

/-- What is read as a number starts with a digit or a minus sign. -/
theorem head_of_readNumber {c : Char} {cs : List Char} {r : Option Json × List Char}
    (h : readNumber (c :: cs) = some r) : c = '-' ∨ c.isDigit = true := by
  by_cases hc : c = '-'
  · exact .inl hc
  · refine .inr (by_contra fun hd => ?_)
    have hread : readMagnitude false (c :: cs) = some r := by
      unfold readNumber at h
      split at h
      · simp_all
      · exact h
    simp [readMagnitude, hd] at hread

theorem not_isBlankChar {c : Char} (h : c = '-' ∨ c.isDigit = true) :
    ¬isBlankChar c = true := by
  intro hb
  simp only [isBlankChar, Bool.or_eq_true, beq_iff_eq] at hb
  rcases hb with ((rfl | rfl) | rfl) | rfl <;> simp at h

theorem tokens_number {cs rest : List Char} {n : Option Json}
    (h : readNumber cs = some (n, rest)) : tokens cs = .number n :: tokens rest := by
  cases cs with
  | nil => simp [readNumber, readMagnitude] at h
  | cons c cs =>
    have hc := head_of_readNumber h
    rw [tokens.eq_def]
    split
    case h_12 d ds _ _ _ _ _ _ _ _ _ _ heq =>
      cases heq
      rw [if_neg (not_isBlankChar hc)]
      split
      · simp_all
      · simp_all
    -- in every other case the first character starts no number
    all_goals simp_all

/-! ### The tokens of a value -/

mutual

/-- The tokens that the compact text of a value consists of. -/
def lexemes : Json → List Token
  | null => [.null]
  | bool b => [.bool b]
  | int n => [.number (some (.int n))]
  | double negative rank => [.number (some (.double negative rank))]
  | string s => [.string (some s)]
  | array items => .openArray :: itemLexemes items ++ [.closeArray]
  | object members => .openObject :: memberLexemes members ++ [.closeObject]

/-- The tokens of the items of an array, with their commas. -/
def itemLexemes : List Json → List Token
  | [] => []
  | [v] => v.lexemes
  | v :: vs => v.lexemes ++ .comma :: itemLexemes vs

/-- The tokens of the members of an object, with their commas. -/
def memberLexemes : List (String × Json) → List Token
  | [] => []
  | [(k, v)] => .string (some k) :: .colon :: v.lexemes
  | (k, v) :: ms => .string (some k) :: .colon :: v.lexemes ++ .comma :: memberLexemes ms

end

/-- A value that reads back when as many levels of nesting are allowed. -/
inductive Storable : Nat → Json → Prop
  | null {depth : Nat} : Storable depth .null
  | bool {depth : Nat} (b : Bool) : Storable depth (.bool b)
  | int {depth : Nat} {n : Int} (h : IsWord n) : Storable depth (.int n)
  | double {depth : Nat} (negative : Bool) (rank : Fin infinityRank) :
      Storable depth (.double negative rank)
  | string {depth : Nat} (s : String) : Storable depth (.string s)
  | array {depth : Nat} {items : List Json} (h : ∀ v ∈ items, Storable depth v) :
      Storable (depth + 1) (.array items)
  | object {depth : Nat} {members : List (String × Json)} (hn : (Assoc.keys members).Nodup)
      (h : ∀ p ∈ members, Storable depth p.2) : Storable (depth + 1) (.object members)

/-- The text of a value is cut into its tokens, whatever follows that stops a number. -/
def Lexes (v : Json) : Prop :=
  ∀ rest, Stops continuesNumber rest →
    tokens (v.compact.toList ++ rest) = v.lexemes ++ tokens rest

theorem tokens_items {items : List Json} (h : ∀ v ∈ items, Lexes v) {rest : List Char}
    (hr : Stops continuesNumber rest) :
    tokens ((compactItems items).toList ++ rest) = itemLexemes items ++ tokens rest := by
  induction items with
  | nil => rfl
  | cons v vs ih =>
    have hv := h v (List.mem_cons_self ..)
    cases vs with
    | nil => exact hv rest hr
    | cons w ws =>
      have hws := ih fun u hu => h u (List.mem_cons_of_mem _ hu)
      have hcomma : Stops continuesNumber (',' :: ((compactItems (w :: ws)).toList ++ rest)) := by
        simp [continuesNumber]
      -- the first item ends at its comma, which no number takes in
      have hhead := hv _ hcomma
      rw [tokens, hws] at hhead
      simpa [compactItems, itemLexemes] using hhead

theorem tokens_members {members : List (String × Json)} (h : ∀ p ∈ members, Lexes p.2)
    {rest : List Char} (hr : Stops continuesNumber rest) :
    tokens ((compactMembers members).toList ++ rest) = memberLexemes members ++ tokens rest := by
  induction members with
  | nil => rfl
  | cons p ms ih =>
    obtain ⟨k, v⟩ := p
    have hv := h (k, v) (List.mem_cons_self ..)
    have hkey : ∀ cs, tokens ((quote k).toList ++ ':' :: cs)
        = .string (some k) :: .colon :: tokens cs := by
      intro cs
      rw [tokens_quote, tokens]
    cases ms with
    | nil =>
      have hhead := hkey (v.compact.toList ++ rest)
      rw [hv rest hr] at hhead
      simpa [compactMembers, memberLexemes] using hhead
    | cons q qs =>
      have hqs := ih fun u hu => h u (List.mem_cons_of_mem _ hu)
      have hcomma : Stops continuesNumber
          (',' :: ((compactMembers (q :: qs)).toList ++ rest)) := by
        simp [continuesNumber]
      have hhead := hkey (v.compact.toList ++ ',' :: ((compactMembers (q :: qs)).toList ++ rest))
      rw [hv _ hcomma, tokens, hqs] at hhead
      simpa [compactMembers, memberLexemes] using hhead

/-- **A storable value** is cut into its tokens. -/
theorem Storable.lexes {depth : Nat} {v : Json} (h : Storable depth v) : Lexes v := by
  induction h with
  | null => intro rest _; simp [compact, lexemes, tokens]
  | bool b => intro rest _; cases b <;> simp [compact, lexemes, tokens]
  | int hn => exact fun rest hr => tokens_number (readNumber_int hn hr)
  | double negative rank => exact fun rest hr => tokens_number (readNumber_double negative rank hr)
  | string s => exact fun rest _ => tokens_quote s rest
  | array h ih =>
    intro rest hr
    have hclose : Stops continuesNumber (']' :: rest) := by simp [continuesNumber]
    have hitems := tokens_items ih hclose
    rw [tokens] at hitems
    simp [compact, lexemes, tokens, hitems]
  | object hn h ih =>
    intro rest hr
    have hclose : Stops continuesNumber ('\x7d' :: rest) := by simp [continuesNumber]
    have hmembers := tokens_members ih hclose
    rw [tokens] at hmembers
    simp [compact, lexemes, tokens, hmembers]

end Json
end IndicatorStrategy
