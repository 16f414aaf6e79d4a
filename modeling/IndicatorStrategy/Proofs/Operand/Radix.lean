import IndicatorStrategy.Proofs.Binary64.Whole
import IndicatorStrategy.Proofs.Operand.Number
/-!
# IndicatorStrategy.Proofs.Operand.Radix

**What a form field with the mark of a radix holds.** Behind the mark every character must
be a digit of the radix, and there must be one; any other field is not-a-number. The number
is built digit by digit, and each step rounds twice.

The invariant of this run is `Holds`. As long as the digits read so far denote a number up
to `2 ^ 53`, nothing was rounded away, because every whole number of that size is a double.
Once they denote a greater one, the double is `2 ^ 53` or more and stays so: rounding does not
take a number below a magnitude that it has reached.
-/

namespace IndicatorStrategy

/-! ### Digits -/

/-- A hexadecimal digit is a numeral or a letter in either case. -/
theorem Numeral.hexValue?_eq_some_iff {c : Char} {d : Nat} :
    hexValue? c = some d ↔ d < 16 ∧ (c = Nat.digitChar d ∨ c = (Nat.digitChar d).toUpper) := by
  constructor
  · intro h
    have hsmall : ∀ e < 6, (Nat.digitChar (10 + e)).toNat = 97 + e := by decide
    have hcapital : ∀ e < 6, (Nat.digitChar (10 + e)).toUpper.toNat = 65 + e := by decide
    unfold hexValue? at h
    simp only [Bool.and_eq_true, decide_eq_true_eq] at h
    split at h
    · have hd := Option.some.inj h
      refine ⟨by omega, .inl (Char.toNat_inj.mp ?_)⟩
      rw [Nat.toNat_digitChar_of_lt_ten (by omega)]
      omega
    · split at h
      · have hd := Option.some.inj h
        obtain ⟨e, rfl⟩ : ∃ e, d = 10 + e := ⟨d - 10, by omega⟩
        refine ⟨by omega, .inl (Char.toNat_inj.mp ?_)⟩
        rw [hsmall e (by omega)]
        omega
      · split at h
        · have hd := Option.some.inj h
          obtain ⟨e, rfl⟩ : ∃ e, d = 10 + e := ⟨d - 10, by omega⟩
          refine ⟨by omega, .inr (Char.toNat_inj.mp ?_)⟩
          rw [hcapital e (by omega)]
          omega
        · cases h
  · intro h
    have hsmall : ∀ d < 16, hexValue? (Nat.digitChar d) = some d := by decide
    have hcapital : ∀ d < 16, hexValue? (Nat.digitChar d).toUpper = some d := by decide
    obtain ⟨hd, rfl | rfl⟩ := h
    · exact hsmall d hd
    · exact hcapital d hd

namespace Binary64

/-- The mark in front of the digits of a radix. -/
inductive RadixMark : Nat → List Char → Prop
  | hexadecimal {c : Char} (h : c = 'x' ∨ c = 'X') : RadixMark 16 ['0', c]
  | octal {c : Char} (h : c = 'o' ∨ c = 'O') : RadixMark 8 ['0', c]
  | binary {c : Char} (h : c = 'b' ∨ c = 'B') : RadixMark 2 ['0', c]

/-- A character is a digit of a radix; letters may be small or capital. -/
def RadixDigit (radix : Nat) (c : Char) (d : Nat) : Prop :=
  d < radix ∧ (c = Nat.digitChar d ∨ c = (Nat.digitChar d).toUpper)

theorem RadixMark.bounds {radix : Nat} {mark : List Char} (h : RadixMark radix mark) :
    0 < radix ∧ radix ≤ 16 := by
  cases h <;> decide

variable {radix d n u : Nat} {c : Char} {cs : List Char} {ds : List Nat} {x : Binary64}

theorem radixDigit?_eq_some_iff (h : radix ≤ 16) :
    radixDigit? radix c = some d ↔ RadixDigit radix c d := by
  have heq : radixDigit? radix c = (Numeral.hexValue? c).filter (· < radix) := rfl
  rw [heq, Option.filter_eq_some_iff, Numeral.hexValue?_eq_some_iff, decide_eq_true_eq,
    RadixDigit]
  constructor
  · intro hdigit
    exact ⟨hdigit.2, hdigit.1.2⟩
  · intro hdigit
    exact ⟨⟨hdigit.1.trans_le h, hdigit.2⟩, hdigit.1⟩

/-! ### Rounding -/

-- unification must not count the units
attribute [local irreducible] one unitsOf

/-- A double holds a natural number: exactly up to `2 ^ 53`, and a greater one by no less
than that. -/
inductive Holds (n : Nat) : Binary64 → Prop
  | exactly {rank : Fin infinityRank} (hn : n ≤ 2 ^ 53) (h : unitsOf rank = n * one) :
    Holds n (finite false rank)
  | large {rank : Fin infinityRank} (hn : 2 ^ 53 < n) (h : 2 ^ 53 * one ≤ unitsOf rank) :
    Holds n (finite false rank)
  | infinitely (hn : 2 ^ 53 < n) : Holds n (infinite false)

theorem Holds.isNaN_eq_false (h : Holds n x) : x.isNaN = false := by
  cases h <;> rfl

/-- A whole number up to `2 ^ 53` is rounded to itself. -/
theorem holds_ofUnits_whole (h : n ≤ 2 ^ 53) : Holds n (ofUnits false (n * one)) := by
  obtain ⟨rank, hrank⟩ := exists_unitsOf_whole h
  have hinfinity : 2 ^ 53 * one < unitsOf infinityRank := by decide +kernel
  have hfinite : rank < infinityRank := by
    refine strictMono_unitsOf.lt_iff_lt.mp (hrank.trans_lt (lt_of_le_of_lt ?_ hinfinity))
    exact Nat.mul_le_mul_right one h
  have hnearest : nearestRank (n * one) 1 = rank := by
    refine RoundsTo.nearestRank_eq Nat.one_pos ?_
    rw [Nat.cast_one, div_one, ← hrank]
    exact .self rank
  rw [ofUnits, hnearest, ofRank, dif_pos hfinite]
  exact .exactly h hrank

/-- A number from `2 ^ 53` on is not rounded to anything less. -/
theorem holds_ofUnits_large (hn : 2 ^ 53 < n) (h : 2 ^ 53 * one ≤ u) :
    Holds n (ofUnits false u) := by
  obtain ⟨least, hleast⟩ := exists_unitsOf_whole le_rfl
  have hround := roundsTo_nearestRank u Nat.one_pos
  have hle : least ≤ nearestRank u 1 := by
    refine hround.le_of_unitsOf_le ?_
    rw [Nat.cast_one, div_one, hleast]
    exact Nat.cast_le.mpr h
  unfold ofUnits ofRank
  split
  · exact .large hn (hleast ▸ strictMono_unitsOf.monotone hle)
  · exact .infinitely hn

theorem holds_ofUnits (n : Nat) : Holds n (ofUnits false (n * one)) := by
  rcases Nat.lt_or_ge (2 ^ 53) n with hlarge | hsmall
  · exact holds_ofUnits_large hlarge (Nat.mul_le_mul_right one hlarge.le)
  · exact holds_ofUnits_whole hsmall

/-! ### One digit -/

theorem Holds.mulNat (h : Holds n x) (hradix : 0 < radix) :
    Holds (radix * n) (x.mulNat radix) := by
  have hle : n ≤ radix * n := Nat.le_mul_of_pos_left n hradix
  cases h with
  | @exactly rank hn hunits =>
    have hmul : unitsOf rank * radix = radix * n * one := by
      rw [hunits]
      ring
    rw [Binary64.mulNat, hmul]
    exact holds_ofUnits (radix * n)
  | large hn hunits =>
    exact holds_ofUnits_large (hn.trans_le hle)
      (hunits.trans (Nat.le_mul_of_pos_right _ hradix))
  | infinitely hn => exact .infinitely (hn.trans_le hle)

theorem Holds.addNat (h : Holds n x) (d : Nat) : Holds (d + n) (x.addNat d) := by
  have hle : n ≤ d + n := Nat.le_add_left n d
  cases h with
  | @exactly rank hn hunits =>
    have hadd : unitsOf rank + d * one = (d + n) * one := by
      rw [hunits]
      ring
    rw [Binary64.addNat, hadd]
    exact holds_ofUnits (d + n)
  | large hn hunits =>
    exact holds_ofUnits_large (hn.trans_le hle) (hunits.trans (Nat.le_add_right _ _))
  | infinitely hn => exact .infinitely (hn.trans_le hle)

/-! ### All digits -/

/-- **Reading on** keeps a number that is held. -/
theorem Holds.radixValue (h : Holds n x) (hradix : 0 < radix)
    (hds : List.Forall₂ (fun c d => radixDigit? radix c = some d) cs ds) :
    Holds (ds.foldl (fun n d => d + radix * n) n) (radixValue radix x cs) := by
  induction hds generalizing n x with
  | nil => exact h
  | @cons c d cs ds hd hds ih =>
    rw [Binary64.radixValue, hd]
    exact ih ((h.mulNat hradix).addNat d)

theorem exists_radixDigits (h : ∀ c ∈ cs, ∃ d, RadixDigit radix c d) :
    ∃ ds, List.Forall₂ (RadixDigit radix) cs ds := by
  induction cs with
  | nil => exact ⟨[], .nil⟩
  | cons c cs ih =>
    obtain ⟨⟨d, hd⟩, hcs⟩ := List.forall_mem_cons.mp h
    obtain ⟨ds, hds⟩ := ih hcs
    exact ⟨d :: ds, .cons hd hds⟩

/-- A character that is no digit spoils the number. -/
theorem radixValue_eq_nan (h : ∃ c ∈ cs, radixDigit? radix c = none) :
    radixValue radix x cs = nan := by
  induction cs generalizing x with
  | nil => simp at h
  | cons c cs ih =>
    rw [radixValue]
    cases hd : radixDigit? radix c with
    | none => rfl
    | some d =>
      refine ih ?_
      simpa [hd] using h

theorem holds_zero : Holds 0 zero := .exactly (Nat.zero_le _) (by simp)

/-- Digits hold the number that they denote. -/
theorem holds_ofRadixDigits (hradix : 0 < radix) (hne : cs ≠ [])
    (hds : List.Forall₂ (fun c d => radixDigit? radix c = some d) cs ds) :
    Holds (Nat.ofDigits radix ds.reverse) (ofRadixDigits radix cs) := by
  have hrun := holds_zero.radixValue hradix hds
  rw [ofRadixDigits, if_neg (by simpa using hne), Nat.ofDigits_eq_foldr, List.foldr_reverse]
  exact hrun

/-! ### Fields -/

/-- A mark in front of a field is taken off. -/
theorem ofField_of_radixMark {raw : String} {mark text : List Char} (hmark : RadixMark radix mark)
    (hraw : trimChars raw.toList = mark ++ text) : ofField raw = ofRadixDigits radix text := by
  have hsplit : splitRadix? (mark ++ text) = some (radix, text) := by
    cases hmark with
    | hexadecimal h | octal h | binary h => rcases h with rfl | rfl <;> rfl
  have hne : mark ++ text ≠ [] := by
    cases hmark <;> simp
  unfold ofField
  rw [hraw]
  split
  · exact absurd ‹_› hne
  · rw [hsplit]

/-- **A field with the mark of a radix** is not-a-number just if no digit or something else
than a digit stands behind it. Otherwise it holds the number that its digits denote. -/
theorem ofField_radixDigits {raw : String} {mark text : List Char} (hmark : RadixMark radix mark)
    (hraw : trimChars raw.toList = mark ++ text) :
    ((ofField raw).isNaN = true ↔ text = [] ∨ ∃ c ∈ text, ∀ d, ¬ RadixDigit radix c d) ∧
      ((ofField raw).isNaN = false → ∃ ds, List.Forall₂ (RadixDigit radix) text ds ∧
        Holds (Nat.ofDigits radix ds.reverse) (ofField raw)) := by
  obtain ⟨hpos, hle⟩ := hmark.bounds
  have hnone (c : Char) : radixDigit? radix c = none ↔ ∀ d, ¬ RadixDigit radix c d := by
    simp [Option.eq_none_iff_forall_ne_some, radixDigit?_eq_some_iff hle]
  rw [ofField_of_radixMark hmark hraw]
  by_cases hbad : text = [] ∨ ∃ c ∈ text, ∀ d, ¬ RadixDigit radix c d
  · have hnan : ofRadixDigits radix text = nan := by
      rcases hbad with rfl | ⟨c, hc, hd⟩
      · rfl
      · rw [ofRadixDigits, if_neg (by simpa using List.ne_nil_of_mem hc)]
        exact radixValue_eq_nan ⟨c, hc, (hnone c).mpr hd⟩
    rw [hnan]
    exact ⟨iff_of_true rfl hbad, fun h => by cases h⟩
  · have hgood := hbad
    simp only [not_or, not_exists, not_and, not_forall, not_not] at hgood
    obtain ⟨hne, hdigit⟩ := hgood
    obtain ⟨ds, hds⟩ := exists_radixDigits hdigit
    have hholds := holds_ofRadixDigits hpos hne
      (hds.imp fun c d hd => (radixDigit?_eq_some_iff hle).mpr hd)
    refine ⟨iff_of_false ?_ hbad, fun _ => ⟨ds, hds, hholds⟩⟩
    rw [hholds.isNaN_eq_false]
    decide

/-- Leading zeros do not count, and a number that is no double may still be held. -/
theorem ofField_paddedHexadecimal :
    let raw := "\t0X000020000000000001 "
    let text := "000020000000000001".toList
    RadixMark 16 ['0', 'X'] ∧ trimChars raw.toList = ['0', 'X'] ++ text ∧
      (ofField raw).isNaN = false ∧ ∃ ds, List.Forall₂ (RadixDigit 16) text ds ∧
        Holds (Nat.ofDigits 16 ds.reverse) (ofField raw) := by
  intro raw text
  have hmark : RadixMark 16 ['0', 'X'] := .hexadecimal (.inr rfl)
  have hraw : trimChars raw.toList = ['0', 'X'] ++ text := by decide
  have hnumber : (ofField raw).isNaN = false := by decide +kernel
  exact ⟨hmark, hraw, hnumber, (ofField_radixDigits hmark hraw).2 hnumber⟩

end Binary64
end IndicatorStrategy
