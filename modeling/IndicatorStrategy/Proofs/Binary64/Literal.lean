import IndicatorStrategy.Binary64.Layout
import IndicatorStrategy.Proofs.Binary64.Decimal
import IndicatorStrategy.Proofs.Binary64.Spelling
/-!
# IndicatorStrategy.Proofs.Binary64.Literal

**Number texts are literals.** Behind its sign, the text of a finite double consists of
digits, then a fraction or none, then an exponent or none. These parts make a `Literal`,
which stands for a magnitude; and whichever form a layout chose, the magnitude of the text
of a double rounds to that double. So whoever reads such texts needs to know about literals
and not about layouts.

Behind a sign a literal spells a decimal, and that is the double to which its magnitude
rounds.
-/

namespace IndicatorStrategy
namespace Binary64

/-! ### Literals -/

/-- The parts of a number text behind its sign. -/
structure Literal where
  whole : List Char
  fraction : List Char
  exponent? : Option Int

/-- Digits that may stand in front of a point: a leading zero stands alone. -/
structure IsWhole (ds : List Char) : Prop where
  nonempty : ds ≠ []
  isDigit : ∀ c ∈ ds, c.isDigit = true
  lead : ds.head? = some '0' → ds.length ≤ 1

theorem isWhole_zero : IsWhole ['0'] := ⟨by simp, by simp, by simp⟩

theorem isWhole_of_head {ds : List Char} (hne : ds ≠ []) (hd : ∀ c ∈ ds, c.isDigit = true)
    (hh : ds.head? ≠ some '0') : IsWhole ds :=
  ⟨hne, hd, fun h => absurd h hh⟩

theorem isWhole_digits (n : Nat) : IsWhole (Numeral.digits n) := by
  rcases Nat.eq_zero_or_pos n with rfl | hn
  · rw [Numeral.digits_of_lt (by decide)]
    exact isWhole_zero
  · exact isWhole_of_head (Numeral.digits_ne_nil n) (Numeral.isDigit_of_mem_digits n)
      (Numeral.head?_digits_ne_zero hn)

namespace Literal

/-- The text of an exponent. -/
def exponentChars : Option Int → List Char
  | none => []
  | some e => 'e' :: (if e < 0 then '-' else '+') :: Numeral.digits e.natAbs

/-- The text of a literal. -/
def chars (l : Literal) : List Char :=
  l.whole ++ (Binary64.fraction l.fraction ++ exponentChars l.exponent?)

/-- The decimal that a literal writes behind a sign. -/
def decimal (l : Literal) (negative : Bool) : Decimal :=
  ⟨negative, l.whole ++ l.fraction, l.exponent?.getD 0 - l.fraction.length⟩

/-- The magnitude that a literal writes. -/
def magnitude (l : Literal) : ℚ := (l.decimal false).magnitude

/-- Whether a literal is nothing but digits. -/
def isPlain (l : Literal) : Bool := l.fraction.isEmpty && l.exponent?.isNone

/-- Digits where digits belong. -/
structure IsWellFormed (l : Literal) : Prop where
  whole : IsWhole l.whole
  fraction : ∀ c ∈ l.fraction, c.isDigit = true

/-- A text is a literal of a magnitude. -/
structure Writes (l : Literal) (cs : List Char) (q : ℚ) : Prop where
  wellFormed : l.IsWellFormed
  chars : l.chars = cs
  magnitude : l.magnitude = q

theorem IsWellFormed.isDigit {l : Literal} (h : l.IsWellFormed) :
    ∀ c ∈ l.whole ++ l.fraction, c.isDigit = true := by
  intro c hc
  rcases List.mem_append.mp hc with hc | hc
  · exact h.whole.isDigit c hc
  · exact h.fraction c hc

/-- Zeros behind digits and a smaller exponent cancel out. -/
theorem magnitude_eq_of_zeros {l : Literal} {s : Scientific} {k : Nat}
    (hv : Numeral.value (l.whole ++ l.fraction) = Numeral.value s.digits * 10 ^ k)
    (hs : l.exponent?.getD 0 - l.fraction.length + k = s.exponent + 1 - s.digits.length) :
    l.magnitude = s.magnitude := by
  rw [Scientific.magnitude, ← hs, add_comm, zpow_add₀ (by norm_num), zpow_natCast]
  rw [magnitude, Decimal.magnitude, decimal]
  simp only [hv]
  push_cast
  ring

/-- Wherever a point is put between them, the digits stand for the same number. -/
theorem magnitude_take_drop (s : Scientific) (places : Nat) {exponent? : Option Int}
    (h : exponent?.getD 0 - (s.digits.length - places : Nat)
      = s.exponent + 1 - s.digits.length) :
    (⟨s.digits.take places, s.digits.drop places, exponent?⟩ : Literal).magnitude
      = s.magnitude := by
  refine magnitude_eq_of_zeros (k := 0) ?_ ?_
  · rw [List.take_append_drop, pow_zero, Nat.mul_one]
  · simpa [List.length_drop] using h

/-- Digits alone write the number that they denote. -/
theorem writes_digits (n : Nat) :
    (⟨Numeral.digits n, [], none⟩ : Literal).Writes (Numeral.digits n) n where
  wellFormed := ⟨isWhole_digits n, by simp⟩
  chars := by simp [Literal.chars, Binary64.fraction, exponentChars]
  magnitude := by simp [Literal.magnitude, Literal.decimal, Decimal.magnitude]

end Literal

/-! ### Forms -/

variable {s : Scientific}

theorem isDigit_of_mem_zeros {k : Nat} : ∀ c ∈ zeros k, c.isDigit = true := by
  intro c hc
  rw [List.eq_of_mem_replicate hc]
  rfl

theorem fraction_eq {ds : List Char} (h : ds ≠ []) : fraction ds = '.' :: ds := by
  cases ds with
  | nil => exact absurd rfl h
  | cons d ds => rfl

/-- The first digits of a number may stand in front of a point. -/
theorem isWhole_take (h : s.IsNormal) {places : Nat} (hpos : 0 < places) :
    IsWhole (s.digits.take places) := by
  refine isWhole_of_head ?_ (fun c hc => h.isDigit c (List.mem_of_mem_take hc)) ?_
  · rw [Ne, List.take_eq_nil_iff]
    simp only [h.nonempty, or_false]
    omega
  · rw [List.head?_take, if_neg (by omega)]
    exact h.head

/-- A number below one, with `z` zeros behind the point. -/
theorem writes_below (h : s.IsNormal) {z : Nat} (hz : s.exponent = -(z : Int) - 1) :
    (⟨['0'], zeros z ++ s.digits, none⟩ : Literal).Writes
      ('0' :: '.' :: zeros z ++ s.digits) s.magnitude where
  wellFormed := by
    refine ⟨isWhole_zero, fun c hc => ?_⟩
    rcases List.mem_append.mp hc with hc | hc
    · exact isDigit_of_mem_zeros c hc
    · exact h.isDigit c hc
  chars := by
    rw [Literal.chars, fraction_eq (by simp [h.nonempty])]
    simp [Literal.exponentChars]
  magnitude := by
    refine Literal.magnitude_eq_of_zeros (k := 0) ?_ ?_
    · simp [zeros, Numeral.value_zero_cons, Numeral.value_append]
    · simp only [zeros, List.length_append, List.length_replicate, Option.getD_none]
      omega

/-- A whole number, whose digits are followed by `z` zeros. -/
theorem writes_padded (h : s.IsNormal) {z : Nat}
    (hz : s.exponent + 1 = s.digits.length + z) :
    (⟨s.digits ++ zeros z, ['0'], none⟩ : Literal).Writes
      (s.digits ++ zeros z ++ ['.', '0']) s.magnitude where
  wellFormed := by
    refine ⟨isWhole_of_head (by simp [h.nonempty]) (fun c hc => ?_) ?_, by simp⟩
    · rcases List.mem_append.mp hc with hc | hc
      · exact h.isDigit c hc
      · exact isDigit_of_mem_zeros c hc
    · rw [List.head?_append, Option.or_of_isSome (List.isSome_head?.mpr h.nonempty)]
      exact h.head
  chars := by simp [Literal.chars, fraction, Literal.exponentChars]
  magnitude := by
    -- the zero behind the point is one more that the scale takes back
    refine Literal.magnitude_eq_of_zeros (k := z + 1) ?_ ?_
    · simp only
      rw [List.append_assoc, zeros, ← List.replicate_succ', Numeral.value_append_zeros]
    · simp only [List.length_singleton, Option.getD_none]
      omega

/-- A number with the point between its digits. -/
theorem writes_split (h : s.IsNormal) {places : Nat} (hpos : 0 < places)
    (hlen : places < s.digits.length) (he : s.exponent + 1 = places) :
    (⟨s.digits.take places, s.digits.drop places, none⟩ : Literal).Writes
      (s.digits.take places ++ '.' :: s.digits.drop places) s.magnitude where
  wellFormed := ⟨isWhole_take h hpos, fun c hc => h.isDigit c (List.mem_of_mem_drop hc)⟩
  chars := by
    rw [Literal.chars, fraction_eq (by simpa [List.drop_eq_nil_iff] using hlen)]
    simp [Literal.exponentChars]
  magnitude := by
    refine Literal.magnitude_take_drop s places ?_
    simp only [Option.getD_none]
    omega

/-- **A positional text** is a literal with a point. -/
theorem exists_writes_positional (h : s.IsNormal) :
    ∃ l : Literal, l.Writes s.positional s.magnitude ∧ l.isPlain = false := by
  unfold Scientific.positional
  split
  · refine ⟨_, writes_below h (by omega), ?_⟩
    simp [Literal.isPlain, h.nonempty]
  · simp only
    split
    · exact ⟨_, writes_padded h (by omega), rfl⟩
    · rename_i hlen
      refine ⟨_, writes_split h (by omega) (by omega) (by omega), ?_⟩
      simp [Literal.isPlain, List.drop_eq_nil_iff]
      omega

/-- **A text with an exponent** is a literal with one, and the point behind its first
digit. -/
theorem exists_writes_exponential (h : s.IsNormal) :
    ∃ l : Literal, l.Writes s.exponential s.magnitude ∧ l.isPlain = false := by
  have hlen : 0 < s.digits.length := List.length_pos_iff.mpr h.nonempty
  refine ⟨⟨s.digits.take 1, s.digits.drop 1, some s.exponent⟩, ⟨⟨?_, ?_⟩, ?_, ?_⟩, ?_⟩
  · exact isWhole_take h Nat.one_pos
  · exact fun c hc => h.isDigit c (List.mem_of_mem_drop hc)
  · simp [Literal.chars, Literal.exponentChars, Scientific.exponential]
  · refine Literal.magnitude_take_drop s 1 ?_
    simp only [Option.getD_some]
    omega
  · simp [Literal.isPlain]

-- unification must not count the units
attribute [local irreducible] one

/-- **The text of a positive magnitude** is a literal that rounds to it. Where whole
numbers show a point, it is not digits alone. -/
theorem exists_writes_magnitude (layout : Layout) {rank : Nat} (h : 0 < rank) :
    ∃ (l : Literal) (q : ℚ), l.Writes (layout.magnitude rank) q ∧ RoundsTo (q * one) rank ∧
      (layout.whole = .pointed → l.isPlain = false) := by
  obtain ⟨hnormal, hrounds⟩ := shortest_spec layout.tie h
  obtain ⟨p, hp, hplain⟩ := exists_writes_positional hnormal
  unfold Layout.magnitude
  simp only
  split
  · obtain ⟨l, hl, hlplain⟩ := exists_writes_exponential hnormal
    exact ⟨l, _, hl, hrounds, fun _ => hlplain⟩
  · split
    · rename_i hwhole
      split
      · -- all digits of a whole number write its exact value
        rename_i hunits
        have hq : ((unitsOf rank / one : Nat) : ℚ) * one = unitsOf rank := by
          exact_mod_cast Nat.div_mul_cancel (Nat.dvd_of_mod_eq_zero hunits)
        refine ⟨_, _, Literal.writes_digits _, ?_, fun hpointed => ?_⟩
        · rw [hq]
          exact .self rank
        · rw [hwhole] at hpointed
          cases hpointed
      · exact ⟨p, _, hp, hrounds, fun _ => hplain⟩
    · exact ⟨p, _, hp, hrounds, fun _ => hplain⟩

/-! ### Reading -/

namespace Literal

theorem signSpelling (negative : Bool) :
    Numeral.SignSpelling negative (sign negative).toList := by
  cases negative with
  | false => exact .absent
  | true => exact .minus

theorem exponentSpelling (e? : Option Int) :
    Decimal.ExponentSpelling (e?.getD 0) (exponentChars e?) := by
  cases e? with
  | none => exact .absent
  | some e =>
    have hsign : Numeral.SignSpelling (decide (e < 0)) [if e < 0 then '-' else '+'] := by
      split
      · rename_i he
        rw [decide_eq_true he]
        exact .minus
      · rename_i he
        rw [decide_eq_false he]
        exact .plus
    have hspelling := Decimal.ExponentSpelling.marked (.inl rfl) hsign
      (Numeral.isRun_digits e.natAbs)
    rwa [Numeral.value_digits, Numeral.signed_natAbs] at hspelling

theorem pointSpelling (whole fs : List Char) :
    Decimal.PointSpelling whole fs (whole ++ Binary64.fraction fs) := by
  cases fs with
  | nil =>
    rw [Binary64.fraction, List.append_nil]
    exact .absent whole
  | cons f fs => exact .point whole (f :: fs)

/-- **A literal behind a sign** spells its decimal. -/
theorem spelling {l : Literal} (h : l.IsWellFormed) (negative : Bool) :
    (l.decimal negative).Spelling ((sign negative).toList ++ l.chars) := by
  have hrun : Numeral.IsRun (l.whole ++ l.fraction) :=
    ⟨by simp [h.whole.nonempty], h.isDigit⟩
  rw [Literal.chars, ← List.append_assoc l.whole]
  exact .intro (signSpelling negative) (pointSpelling l.whole l.fraction) hrun
    (exponentSpelling l.exponent?)

end Literal

/-- **A text of a magnitude** behind a sign is a decimal next to the double to which it
rounds. -/
theorem decimal_of_writes {l : Literal} {cs : List Char} {q : ℚ} (h : l.Writes cs q)
    {rank : Nat} (hq : RoundsTo (q * one) rank) (negative : Bool) :
    (Decimal.read? ((sign negative).toList ++ cs)).map Decimal.toBinary64
      = some (.ofRank negative rank) := by
  obtain ⟨hwell, rfl, rfl⟩ := h
  have hdouble := Decimal.toBinary64_eq (d := l.decimal negative) hwell.isDigit hq
  rw [(Literal.spelling hwell negative).read?, Option.map_some, hdouble]
  rfl

/-- A text that is a decimal is read as its decimal, for it is no word. -/
theorem read?_of_writes {l : Literal} {cs : List Char} {q : ℚ} (h : l.Writes cs q)
    (negative : Bool) :
    read? ((sign negative).toList ++ cs)
      = (Decimal.read? ((sign negative).toList ++ cs)).map Decimal.toBinary64 := by
  obtain ⟨hwell, rfl, rfl⟩ := h
  have hspelling := Literal.spelling hwell negative
  rw [read?_of_spelling hspelling, hspelling.read?, Option.map_some]

end Binary64
end IndicatorStrategy
