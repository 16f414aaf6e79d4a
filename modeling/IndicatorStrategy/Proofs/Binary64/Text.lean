import Mathlib
import IndicatorStrategy.Operand.Number
/-!
# IndicatorStrategy.Proofs.Binary64.Text

**The characters of number texts.** The text of a number in an expression is never
empty and holds digits, signs, a point, the letter of an exponent and the letters of
the two words only. So no number text can run into a key or a trend beside it, nor end
a term.
-/

namespace IndicatorStrategy
namespace Binary64

/-- The characters that number texts are made of. -/
def isNumberChar (c : Char) : Bool :=
  c.isDigit || ['.', 'e', '+', '-', 'N', 'a', 'I', 'n', 'f', 'i', 't', 'y'].contains c

/-- Texts that look like numbers: not empty, and without any other characters. -/
structure IsNumberText (cs : List Char) : Prop where
  nonempty : cs ≠ []
  chars : ∀ c ∈ cs, isNumberChar c = true

theorem isNumberText_of_all {cs : List Char} (hne : cs ≠ [])
    (h : cs.all isNumberChar = true) : IsNumberText cs := ⟨hne, List.all_eq_true.mp h⟩

theorem isNumberChar_of_isDigit {c : Char} (h : c.isDigit = true) : isNumberChar c = true := by
  simp [isNumberChar, h]

/-! ### Digits -/

theorem isDigit_of_mem_dropZeros {ds : List Char} (h : ∀ c ∈ ds, c.isDigit = true) :
    ∀ c ∈ dropZeros ds, c.isDigit = true := by
  intro c hc
  have hsub := List.dropWhile_sublist (· == '0') (l := ds.reverse)
  exact h c (List.mem_reverse.mp (hsub.subset (List.mem_reverse.mp hc)))

theorem isDigit_of_mem_shortest (tie : Tie) (rank : Nat) :
    ∀ c ∈ (shortest tie rank).digits, c.isDigit = true := by
  unfold shortest
  simp only
  split
  · exact isDigit_of_mem_dropZeros (Numeral.isDigit_of_mem_digits _)
  · simp

/-! ### Layouts -/

theorem isNumberText_append {cs ds : List Char} (hne : cs ++ ds ≠ [])
    (hc : ∀ c ∈ cs, isNumberChar c = true) (hd : ∀ c ∈ ds, isNumberChar c = true) :
    IsNumberText (cs ++ ds) :=
  ⟨hne, fun c h => (List.mem_append.mp h).elim (hc c) (hd c)⟩

theorem isNumberText_digits (n : Nat) : IsNumberText (Numeral.digits n) :=
  ⟨Numeral.digits_ne_nil n, fun c hc => isNumberChar_of_isDigit
    (Numeral.isDigit_of_mem_digits n c hc)⟩

theorem isNumberChar_of_mem_zeros {n : Nat} : ∀ c ∈ zeros n, isNumberChar c = true := by
  intro c hc
  rw [List.eq_of_mem_replicate hc]
  rfl

theorem mem_fraction {ds : List Char} {c : Char} (h : c ∈ fraction ds) : c = '.' ∨ c ∈ ds := by
  cases ds with
  | nil => simp [fraction] at h
  | cons d ds => exact List.mem_cons.mp h

variable {s : Scientific} (h : ∀ c ∈ s.digits, c.isDigit = true)
include h

theorem isNumberText_positional : IsNumberText s.positional := by
  have hd : ∀ c ∈ s.digits, isNumberChar c = true := fun c hc => isNumberChar_of_isDigit (h c hc)
  unfold Scientific.positional
  split
  · refine isNumberText_append (by simp) ?_ hd
    intro c hc
    simp only [List.mem_cons] at hc
    rcases hc with rfl | rfl | hc
    · rfl
    · rfl
    · exact isNumberChar_of_mem_zeros c hc
  · simp only
    split
    · refine isNumberText_append (by simp) ?_ (List.all_eq_true.mp (by decide))
      intro c hc
      exact (List.mem_append.mp hc).elim (hd c) (isNumberChar_of_mem_zeros c)
    · refine isNumberText_append (by simp) (fun c hc => hd c (List.mem_of_mem_take hc)) ?_
      intro c hc
      rcases List.mem_cons.mp hc with rfl | hc
      · rfl
      · exact hd c (List.mem_of_mem_drop hc)

theorem isNumberText_exponential : IsNumberText s.exponential := by
  have hd : ∀ c ∈ s.digits, isNumberChar c = true := fun c hc => isNumberChar_of_isDigit (h c hc)
  unfold Scientific.exponential
  refine isNumberText_append (by simp) ?_ ?_
  · intro c hc
    rcases List.mem_append.mp hc with hc | hc
    · exact hd c (List.mem_of_mem_take hc)
    · rcases mem_fraction hc with rfl | hc
      · rfl
      · exact hd c (List.mem_of_mem_drop hc)
  · intro c hc
    simp only [List.mem_cons] at hc
    rcases hc with rfl | rfl | hc
    · rfl
    · split <;> rfl
    · exact (isNumberText_digits _).chars c hc

omit h

theorem isNumberText_magnitude (layout : Layout) (rank : Nat) :
    IsNumberText (layout.magnitude rank) := by
  have hd := isDigit_of_mem_shortest layout.tie rank
  unfold Layout.magnitude
  simp only
  split
  · exact isNumberText_exponential hd
  · split
    · split
      · exact isNumberText_digits _
      · exact isNumberText_positional hd
    · exact isNumberText_positional hd

theorem isNumberText_sign_append {cs : List Char} (h : IsNumberText cs) (negative : Bool) :
    IsNumberText ((sign negative).toList ++ cs) := by
  refine isNumberText_append (by simp [h.nonempty]) ?_ h.chars
  cases negative <;> exact List.all_eq_true.mp (by decide)

/-- The text of a number in an expression looks like a number. -/
theorem isNumberText_expressionText (x : Binary64) : IsNumberText x.expressionText.toList := by
  cases x with
  | nan => exact isNumberText_of_all (by decide) (by decide)
  | infinite negative =>
    rw [expressionText, String.toList_append]
    exact isNumberText_sign_append (isNumberText_of_all (by decide) (by decide)) negative
  | finite negative rank =>
    rw [expressionText, Layout.finite]
    split
    · have hzero : IsNumberText "0".toList := isNumberText_of_all (by decide) (by decide)
      exact hzero
    · rw [String.toList_append, String.toList_ofList]
      exact isNumberText_sign_append (isNumberText_magnitude _ _) negative

end Binary64
end IndicatorStrategy
