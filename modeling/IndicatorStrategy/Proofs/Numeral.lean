import Mathlib
import IndicatorStrategy.Numeral
/-!
# IndicatorStrategy.Proofs.Numeral

**Runs of digits and what they denote.** Runs are put together from parts, zeros are
added at either end, and the length of a run bounds its value from both sides. Which texts
are numbers, and which number each of them is, is said for each of the readers; a number is
read back from its decimal form.
-/

namespace IndicatorStrategy
namespace Numeral

/-! ### Putting runs together -/

@[simp] theorem value_nil : value [] = 0 := rfl

theorem value_append (cs ds : List Char) :
    value (cs ++ ds) = value cs * 10 ^ ds.length + value ds := by
  induction ds using List.reverseRecOn with
  | nil => simp
  | append_singleton ds d ih =>
    rw [← List.append_assoc, value_append_singleton, ih, value_append_singleton,
      List.length_append, List.length_singleton, Nat.pow_succ]
    ring

@[simp] theorem value_zeros (k : Nat) : value (List.replicate k '0') = 0 := by
  induction k with
  | zero => rfl
  | succ k ih => rw [List.replicate_succ', value_append_singleton, ih]; rfl

theorem value_zero_cons (cs : List Char) : value ('0' :: cs) = value cs := by
  rw [show '0' :: cs = List.replicate 1 '0' ++ cs from rfl, value_append, value_zeros]
  simp

theorem value_append_zeros (cs : List Char) (k : Nat) :
    value (cs ++ List.replicate k '0') = value cs * 10 ^ k := by
  simp [value_append]

/-! ### Bounds -/

theorem digitValue_lt {c : Char} (h : c.isDigit = true) : digitValue c < 10 := by
  have : c.toNat ≤ 57 := (Char.isDigit_iff_toNat.mp h).2
  unfold digitValue
  omega

theorem value_lt {cs : List Char} (h : ∀ c ∈ cs, c.isDigit = true) :
    value cs < 10 ^ cs.length := by
  induction cs using List.reverseRecOn with
  | nil => simp
  | append_singleton cs c ih =>
    have h1 := ih fun d hd => h d (List.mem_append_left _ hd)
    have h2 := digitValue_lt (h c (by simp))
    rw [value_append_singleton, List.length_append, List.length_singleton, Nat.pow_succ]
    omega

/-- Digits that do not begin with a zero denote a number as long as they are. -/
theorem pow_le_value {cs : List Char} (hne : cs ≠ []) (h : ∀ c ∈ cs, c.isDigit = true)
    (hhead : cs.head? ≠ some '0') : 10 ^ (cs.length - 1) ≤ value cs := by
  cases cs with
  | nil => exact absurd rfl hne
  | cons c cs =>
    have hc : 0 < digitValue c := by
      have hlow : 48 ≤ c.toNat := (Char.isDigit_iff_toNat.mp (h c (List.mem_cons_self ..))).1
      have hne' : c.toNat ≠ 48 := fun heq => hhead (congrArg some (Char.toNat_inj.mp heq))
      unfold digitValue
      omega
    have hvalue : value (c :: cs) = digitValue c * 10 ^ cs.length + value cs := by
      rw [← List.singleton_append, value_append]
      simp [value]
    rw [hvalue, List.length_cons, Nat.add_sub_cancel]
    exact (Nat.le_mul_of_pos_left _ hc).trans (Nat.le_add_right _ _)

/-- A power of ten times a number is written with as many zeros behind the number. -/
theorem digits_mul_pow {n : Nat} (h : 0 < n) (k : Nat) :
    digits (n * 10 ^ k) = digits n ++ List.replicate k '0' := by
  induction k with
  | zero => simp
  | succ k ih =>
    have hpos : 0 < n * 10 ^ k := Nat.mul_pos h (Nat.pow_pos (by decide))
    rw [Nat.pow_succ, ← Nat.mul_assoc, digits_of_le (by omega), Nat.mul_div_cancel _ (by decide),
      Nat.mul_mod_left, ih, List.append_assoc, List.replicate_succ']
    rfl

/-- A positive number is written without a zero in front. -/
theorem head?_digits_ne_zero {n : Nat} (h : 0 < n) : (digits n).head? ≠ some '0' := by
  induction n using Nat.strongRecOn with
  | _ n ih =>
    by_cases hlt : n < 10
    · have hd : ∀ d < 10, 0 < d → digitChar d ≠ '0' := by decide
      simpa [digits_of_lt hlt] using hd n hlt h
    · rw [digits_of_le (by omega), List.head?_append,
        Option.or_of_isSome (List.isSome_head?.mpr (digits_ne_nil _))]
      exact ih (n / 10) (by omega) (by omega)

/-- A number has as many digits as its size needs. -/
theorem pow_length_digits_le {n : Nat} (h : 0 < n) : 10 ^ ((digits n).length - 1) ≤ n := by
  have hvalue := pow_le_value (digits_ne_nil n) (isDigit_of_mem_digits n) (head?_digits_ne_zero h)
  rwa [value_digits] at hvalue

theorem length_digits_le {n k : Nat} (hn : 0 < n) (h : n < 10 ^ k) : (digits n).length ≤ k := by
  have hpow := (pow_length_digits_le hn).trans_lt h
  have hlen := (Nat.pow_lt_pow_iff_right (by decide)).mp hpow
  omega

/-! ### Texts of numbers -/

/-- The spellings of a sign; it is left out or written in front of what is positive. -/
inductive SignSpelling : Bool → List Char → Prop
  | absent : SignSpelling false []
  | plus : SignSpelling false ['+']
  | minus : SignSpelling true ['-']

/-- One digit or more, and nothing else. -/
structure IsRun (ds : List Char) : Prop where
  nonempty : ds ≠ []
  isDigit : ∀ c ∈ ds, c.isDigit = true

/-- A number with a sign. -/
def signed (negative : Bool) (n : Nat) : Int := if negative then -n else n

theorem signed_natAbs (n : Int) : signed (n < 0) n.natAbs = n := by
  rw [signed]
  simp only [decide_eq_true_eq]
  omega

theorem isRun_digits (n : Nat) : IsRun (digits n) := ⟨digits_ne_nil n, isDigit_of_mem_digits n⟩

variable {cs ds : List Char}

theorem unsigned?_eq_some_iff {n : Nat} : unsigned? cs = some n ↔ IsRun cs ∧ value cs = n := by
  unfold unsigned?
  split
  · rename_i h
    simp only [Bool.or_eq_true, List.isEmpty_iff, Bool.not_eq_true', List.all_eq_false] at h
    refine iff_of_false (by simp) fun hn => ?_
    rcases h with hempty | ⟨c, hc, hdigit⟩
    · exact hn.1.nonempty hempty
    · exact hdigit (hn.1.isDigit c hc)
  · rename_i h
    simp only [Bool.or_eq_true, List.isEmpty_iff, Bool.not_eq_true', List.all_eq_false, not_or,
      not_exists, not_and, not_not] at h
    rw [Option.some.injEq]
    exact ⟨fun hn => ⟨⟨h.1, h.2⟩, hn⟩, fun hn => hn.2⟩

theorem IsRun.unsigned? (h : IsRun ds) : unsigned? ds = some (value ds) :=
  unsigned?_eq_some_iff.mpr ⟨h, rfl⟩

/-- Digits do not begin with a sign. -/
theorem IsRun.ne_cons (h : IsRun ds) {c : Char} (hc : c.isDigit = false) (rest : List Char) :
    ds ≠ c :: rest := by
  rintro rfl
  have hdigit := h.isDigit c List.mem_cons_self
  rw [hc] at hdigit
  cases hdigit

theorem IsRun.natural? (h : IsRun ds) : natural? ds = some (value ds) := by
  unfold Numeral.natural?
  split
  · exact absurd rfl (h.ne_cons (by decide) _)
  · exact h.unsigned?

theorem IsRun.integer? (h : IsRun ds) : integer? ds = some (value ds) := by
  unfold Numeral.integer?
  split
  · exact absurd rfl (h.ne_cons (by decide) _)
  · rw [h.natural?]
    rfl

/-- **An integer** is digits behind an optional sign. -/
theorem integer?_eq_some_iff {n : Int} :
    integer? cs = some n ↔ ∃ negative sign ds, SignSpelling negative sign ∧ IsRun ds ∧
      cs = sign ++ ds ∧ n = signed negative (value ds) := by
  constructor
  · intro h
    unfold integer? at h
    split at h
    · obtain ⟨m, hm, rfl⟩ := Option.map_eq_some_iff.mp h
      obtain ⟨k, hk, hkm⟩ := Option.bind_eq_some_iff.mp hm
      obtain rfl : (k : Int) = m := Option.some.inj hkm
      obtain ⟨hrun, rfl⟩ := unsigned?_eq_some_iff.mp hk
      exact ⟨true, ['-'], _, .minus, hrun, rfl, rfl⟩
    · obtain ⟨m, hm, rfl⟩ := Option.map_eq_some_iff.mp h
      unfold natural? at hm
      split at hm
      · obtain ⟨hrun, rfl⟩ := unsigned?_eq_some_iff.mp hm
        exact ⟨false, ['+'], _, .plus, hrun, rfl, rfl⟩
      · obtain ⟨hrun, rfl⟩ := unsigned?_eq_some_iff.mp hm
        exact ⟨false, [], _, .absent, hrun, rfl, rfl⟩
  · rintro ⟨negative, sign, ds, hsign, hrun, rfl, rfl⟩
    cases hsign with
    | absent => exact hrun.integer?
    | plus =>
      show (unsigned? ds).map Int.ofNat = _
      rw [hrun.unsigned?]
      rfl
    | minus =>
      show ((unsigned? ds).bind fun a => some (a : Int)).map (fun n => -n) = _
      rw [hrun.unsigned?]
      rfl

theorem word32?_ofNat {n : Nat} (h : n < limit32) : word32? (ofNat n) = some n := by
  rw [word32?, ofNat, String.toList_ofList, (isRun_digits n).natural?, value_digits,
    Option.filter_some, if_pos (by simpa using h)]

end Numeral
end IndicatorStrategy
