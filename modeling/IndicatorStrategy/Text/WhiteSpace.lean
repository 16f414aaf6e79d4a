/-!
# IndicatorStrategy.Text.WhiteSpace

The **White_Space** property of Unicode and the removal of blanks around a text.
Every trimming in the library, of form values, configuration lines and stored
selections, means this class of characters.
-/

namespace IndicatorStrategy

/-- The characters with the Unicode property White_Space. -/
def isWhiteSpace (c : Char) : Bool :=
  let n := c.toNat
  (9 ≤ n && n ≤ 13) || n == 0x20 || n == 0x85 || n == 0xA0 || n == 0x1680
    || (0x2000 ≤ n && n ≤ 0x200A) || n == 0x2028 || n == 0x2029 || n == 0x202F
    || n == 0x205F || n == 0x3000

/-- The characters between the outer blanks. -/
def trimChars (cs : List Char) : List Char :=
  ((cs.dropWhile isWhiteSpace).reverse.dropWhile isWhiteSpace).reverse

/-- A text without the blanks around it. -/
def trim (s : String) : String := String.ofList (trimChars s.toList)

/-- Whether a text holds nothing but blanks. -/
def isBlank (s : String) : Bool := s.toList.all isWhiteSpace

@[simp] theorem trimChars_nil : trimChars [] = [] := rfl

theorem toList_trim (s : String) : (trim s).toList = trimChars s.toList := by
  simp [trim]

end IndicatorStrategy
