/-!
# IndicatorStrategy.Binary64.Basic

**Double precision numbers as exact data.** The non-negative finite doubles,
listed in increasing order, are numbered by their *rank*: rank 0 is zero, rank 1
the least positive double, and so on up to infinity. A double is a sign and a
rank, so equal values have one form, and the order of magnitudes is the order of
ranks.

* `unitsOf r` is the magnitude of rank `r`, counted in the least positive double
  `2 ^ (-1074)`. All arithmetic happens on these natural numbers and is exact.
* `nearestRank` rounds a quotient of naturals to the nearest double, a half to
  the even rank; a quotient too large for any finite double goes to infinity.

There is one not-a-number value: its sign and payload are never observed.
-/

namespace IndicatorStrategy

/-- The rank of infinity: one more than that of the greatest finite double. There
are `2047` blocks of ranks below it. -/
abbrev infinityRank : Nat := 0x7FF0000000000000

/-- A double: not a number, an infinity, or a signed finite magnitude. -/
inductive Binary64
  | nan
  | infinite (negative : Bool)
  | finite (negative : Bool) (rank : Fin infinityRank)
  deriving DecidableEq

namespace Binary64

/-! ### Magnitudes -/

/-- The number of ranks in a block of equal spacing, which is `2 ^ 52`. -/
abbrev blockSize : Nat := 0x10000000000000

/-- The magnitude of a rank in units of the least positive double. In the first two
blocks the ranks count units; from then on each block has twice the spacing of the
block before. -/
def unitsOf (rank : Nat) : Nat :=
  if rank < blockSize then rank
  else (blockSize + rank % blockSize) * Nat.pow 2 (rank / blockSize - 1)

/-- The number of units in one. -/
def one : Nat := Nat.pow 2 1074

/-- The greatest rank whose magnitude is at most `u` units. -/
def rankBelow (u : Nat) : Nat :=
  let shift := u.log2 - 52
  shift * blockSize + u / Nat.pow 2 shift

/-- The rank nearest to `num / den` units, a tie going to the even rank. -/
def nearestRank (num den : Nat) : Nat :=
  let lower := rankBelow (num / den)
  let twice := 2 * num
  let middle := (unitsOf lower + unitsOf (lower + 1)) * den
  if twice < middle then lower
  else if middle < twice then lower + 1
  else lower + lower % 2

/-- The double of a sign and a rank; ranks from infinity on are infinite. -/
def ofRank (negative : Bool) (rank : Nat) : Binary64 :=
  if h : rank < infinityRank then .finite negative ⟨rank, h⟩ else .infinite negative

/-- Positive zero. -/
def zero : Binary64 := .finite false ⟨0, by decide⟩

/-- The double nearest to a signed number of units. -/
def ofUnits (negative : Bool) (units : Nat) : Binary64 :=
  ofRank negative (nearestRank units 1)

/-- The double nearest to `± num / den`. -/
def ofRatio (negative : Bool) (num den : Nat) : Binary64 :=
  ofRank negative (nearestRank (num * one) den)

/-- The double nearest to a natural number. -/
def ofNat (n : Nat) : Binary64 := ofRatio false n 1

/-! ### Views -/

def isNaN : Binary64 → Bool
  | nan => true
  | _ => false

def isFinite : Binary64 → Bool
  | finite .. => true
  | _ => false

/-- The integer a double equals, if it equals one. -/
def toInt? : Binary64 → Option Int
  | finite negative rank =>
    let units := unitsOf rank
    if units % one = 0 then
      some (if negative then -(units / one : Nat) else (units / one : Nat))
    else none
  | _ => none

/-- Numeric equality: zero equals its negative, and nothing equals not-a-number. -/
def equals : Binary64 → Binary64 → Bool
  | nan, _ | _, nan => false
  | infinite s, infinite t => s == t
  | finite s r, finite t q => r == q && (s == t || r == ⟨0, by decide⟩)
  | _, _ => false

/-! ### Sums and products of naturals -/

/-- A non-negative double times a natural, rounded. -/
def mulNat : Binary64 → Nat → Binary64
  | finite negative rank, n => ofUnits negative (unitsOf rank * n)
  | x, _ => x

/-- A non-negative double plus a natural, rounded. -/
def addNat : Binary64 → Nat → Binary64
  | finite _ rank, n => ofUnits false (unitsOf rank + n * one)
  | x, _ => x

/-! ### Bit patterns -/

/-- The bit of the sign. -/
abbrev signBit : Nat := 0x8000000000000000

/-- The bit that marks not-a-number as quiet. -/
abbrev quietBit : Nat := 0x8000000000000

/-- The 64 bits of the interchange format: sign, exponent, fraction. The rank is
the pattern without the sign. -/
def toBits : Binary64 → Nat
  | nan => infinityRank + quietBit
  | infinite negative => (if negative then signBit else 0) + infinityRank
  | finite negative rank => (if negative then signBit else 0) + rank

/-- The double with the given bits. -/
def ofBits (bits : Nat) : Binary64 :=
  let rank := bits % signBit
  if infinityRank < rank then nan else ofRank (signBit ≤ bits) rank

/-! ### First facts -/

@[simp] theorem unitsOf_of_lt {r : Nat} (h : r < blockSize) : unitsOf r = r := by
  rw [unitsOf, if_pos h]

@[simp] theorem unitsOf_zero : unitsOf 0 = 0 := rfl

@[simp] theorem ofRank_val (negative : Bool) (rank : Fin infinityRank) :
    ofRank negative rank = .finite negative rank := by
  simp [ofRank, rank.isLt]

end Binary64
end IndicatorStrategy
