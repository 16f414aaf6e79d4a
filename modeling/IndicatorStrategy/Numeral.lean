/-!
# IndicatorStrategy.Numeral

**Decimal numerals**: how a natural number is written, and which texts denote a
natural number or an integer. Only the ten ASCII digits are digits here; leading
zeros are allowed and a single sign may stand in front. Escapes count in sixteens and
also know the letters from `a` to `f`.
-/

namespace IndicatorStrategy
namespace Numeral

/-- The character of a digit below ten. -/
def digitChar (d : Nat) : Char := Char.ofNat (48 + d)

/-- The number a digit character stands for. -/
def digitValue (c : Char) : Nat := c.toNat - 48

/-- The value of a hexadecimal digit, whose letters may be capital or small. -/
def hexValue? (c : Char) : Option Nat :=
  let n := c.toNat
  if 48 ≤ n && n ≤ 57 then some (n - 48)
  else if 97 ≤ n && n ≤ 102 then some (n - 87)
  else if 65 ≤ n && n ≤ 70 then some (n - 55)
  else none

/-- The number that the hexadecimal digits at the beginning denote. -/
def leadingHex (cs : List Char) : Nat :=
  ((cs.map hexValue?).takeWhile Option.isSome).foldl (fun n d => 16 * n + d.getD 0) 0

/-- The decimal digits of a number, most significant first. -/
def digits (n : Nat) : List Char :=
  if n < 10 then [digitChar n] else digits (n / 10) ++ [digitChar (n % 10)]

/-- The number a run of digits denotes. -/
def value (cs : List Char) : Nat := cs.foldl (fun n c => 10 * n + digitValue c) 0

/-- A number in decimal. -/
def ofNat (n : Nat) : String := String.ofList (digits n)

/-- An integer in decimal, with a minus sign below zero. -/
def ofInt : Int → String
  | .ofNat n => ofNat n
  | .negSucc n => "-" ++ ofNat (n + 1)

/-- A non-empty run of digits. -/
def unsigned? (cs : List Char) : Option Nat :=
  if cs.isEmpty || !cs.all Char.isDigit then none else some (value cs)

/-- A natural number, with an optional plus sign. -/
def natural? : List Char → Option Nat
  | '+' :: cs => unsigned? cs
  | cs => unsigned? cs

/-- An integer, with an optional sign. -/
def integer? : List Char → Option Int
  | '-' :: cs => (unsigned? cs).map fun n => -(n : Int)
  | cs => (natural? cs).map Int.ofNat

/-- The least natural number that does not fit in 31 bits. -/
abbrev limit31 : Nat := 0x80000000

/-- The least natural number that does not fit in 32 bits. -/
abbrev limit32 : Nat := 0x100000000

/-- The least natural number that does not fit in 63 bits. -/
abbrev limit63 : Nat := 0x8000000000000000

/-- The least natural number that does not fit in 64 bits. -/
abbrev limit64 : Nat := 0x10000000000000000

/-- A natural number that fits in 32 bits. -/
def word32? (s : String) : Option Nat := (natural? s.toList).filter (· < limit32)

/-- An integer that fits in 64 bits with its sign. -/
def integer64? (s : String) : Option Int :=
  (integer? s.toList).filter fun n => -(limit63 : Int) ≤ n && n < limit63

/-! ### Writing and reading -/

theorem value_append_singleton (cs : List Char) (c : Char) :
    value (cs ++ [c]) = 10 * value cs + digitValue c := by
  simp [value]

theorem digits_of_lt {n : Nat} (h : n < 10) : digits n = [digitChar n] := by
  rw [digits, if_pos h]

theorem digits_of_le {n : Nat} (h : 10 ≤ n) :
    digits n = digits (n / 10) ++ [digitChar (n % 10)] := by
  rw [digits, if_neg (by omega)]

theorem digitValue_digitChar : ∀ d < 10, digitValue (digitChar d) = d := by decide

theorem isDigit_digitChar : ∀ d < 10, (digitChar d).isDigit = true := by decide

/-- The digits of a number denote it. -/
@[simp] theorem value_digits (n : Nat) : value (digits n) = n := by
  induction n using Nat.strongRecOn with
  | _ n ih =>
    by_cases h : n < 10
    · simp [digits_of_lt h, value, digitValue_digitChar n h]
    · rw [digits_of_le (by omega), value_append_singleton, ih (n / 10) (by omega),
        digitValue_digitChar _ (Nat.mod_lt _ (by decide))]
      omega

theorem digits_ne_nil (n : Nat) : digits n ≠ [] := by
  by_cases h : n < 10
  · simp [digits_of_lt h]
  · simp [digits_of_le (Nat.le_of_not_lt h)]

theorem isDigit_of_mem_digits (n : Nat) : ∀ c ∈ digits n, c.isDigit = true := by
  induction n using Nat.strongRecOn with
  | _ n ih =>
    by_cases h : n < 10
    · simpa [digits_of_lt h] using isDigit_digitChar n h
    · rw [digits_of_le (by omega)]
      intro c hc
      rcases List.mem_append.mp hc with hc | hc
      · exact ih (n / 10) (by omega) c hc
      · rw [List.mem_singleton.mp hc]
        exact isDigit_digitChar _ (Nat.mod_lt _ (by decide))

end Numeral
end IndicatorStrategy
