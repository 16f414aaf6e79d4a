import Mathlib
import IndicatorStrategy.Proofs.Configuration.Accepted
import IndicatorStrategy.Proofs.Numeral
/-!
# IndicatorStrategy.Proofs.Configuration.Backtest

**One window and one ticker, however they are read.** The validation reads the window as an
integer of 64 bits and checks its range, and a selection reads a number of 32 bits and drops
zero. Both find the same numbers (`Selection.positive?_eq_some_iff`), so a window that is
accepted is selected as it stands, and one that is refused is not selected at all. A ticker
that is accepted is one word.
-/

namespace IndicatorStrategy

namespace Numeral

/-- The integer that a text denotes: digits behind an optional sign. -/
def Denotes (text : String) (n : Int) : Prop :=
  ∃ negative sign ds, SignSpelling negative sign ∧ IsRun ds ∧
    text.toList = sign ++ ds ∧ n = signed negative (value ds)

theorem denotes_iff {text : String} {n : Int} : Denotes text n ↔ integer? text.toList = some n :=
  integer?_eq_some_iff.symm

/-- A natural number is the same as an integer. -/
theorem integer?_of_natural? {cs : List Char} {n : Nat} (h : natural? cs = some n) :
    integer? cs = some n := by
  unfold integer?
  split
  · -- a minus sign is no digit
    obtain ⟨hrun, -⟩ := unsigned?_eq_some_iff.mp h
    exact absurd rfl (hrun.ne_cons (by decide) _)
  · rw [h]
    rfl

/-- Integers of 32 bits fit in 64 bits. -/
theorem integer64?_eq_some_iff {text : String} {n : Int} (hpos : 0 < n) (hlt : n < limit32) :
    integer64? text = some n ↔ Denotes text n := by
  rw [denotes_iff, integer64?, Option.filter_eq_some_iff]
  refine and_iff_left ?_
  have hlimit : (limit32 : Int) ≤ limit63 := by decide
  simp only [Bool.and_eq_true, decide_eq_true_eq]
  omega

end Numeral

namespace Selection

open Numeral (Denotes limit32)

/-- **The windows that are selected** are the positive integers of 32 bits. -/
theorem positive?_eq_some_iff {raw : String} {n : Nat} :
    positive? raw = some n ↔ Denotes (trim raw) n ∧ 0 < n ∧ n < limit32 := by
  constructor
  · intro h
    obtain ⟨hword, hpos⟩ := Option.filter_eq_some_iff.mp h
    obtain ⟨hnatural, hlt⟩ := Option.filter_eq_some_iff.mp hword
    exact ⟨Numeral.denotes_iff.mpr (Numeral.integer?_of_natural? hnatural), by simpa using hpos,
      by simpa using hlt⟩
  · rintro ⟨hdenotes, hpos, hlt⟩
    have hinteger : Numeral.integer64? (trim raw) = some (n : Int) :=
      (Numeral.integer64?_eq_some_iff (by omega) (by omega)).mpr hdenotes
    exact positive?_of_integer64? hinteger (by omega) (by omega)

end Selection

namespace Configuration

open Numeral (Denotes limit32)

variable {c : Configuration} {raw : String}

/-- **The windows that are accepted** are those that are selected. -/
theorem validateDays_eq_ok_iff (h : c.get? backtestSection "days" = some raw) :
    c.validateDays = .ok () ↔ ∃ n, Selection.positive? raw = some n := by
  have hsome {n : Nat} (hn : Selection.positive? raw = some n) :
      Numeral.integer64? (trim raw) = some (n : Int) ∧ 0 < n ∧ n < limit32 := by
    obtain ⟨hdenotes, hpos, hlt⟩ := Selection.positive?_eq_some_iff.mp hn
    exact ⟨(Numeral.integer64?_eq_some_iff (by omega) (by omega)).mpr hdenotes, hpos, hlt⟩
  rw [validateDays, h]
  simp only
  constructor
  · intro hvalid
    split at hvalid
    · rename_i n hn
      split at hvalid
      · rename_i hbounds
        simp only [Bool.and_eq_true, decide_eq_true_eq] at hbounds
        exact ⟨n.toNat, Selection.positive?_of_integer64? hn hbounds.1 hbounds.2⟩
      · cases hvalid
    · cases hvalid
  · rintro ⟨n, hn⟩
    obtain ⟨hinteger, hpos, hlt⟩ := hsome hn
    rw [hinteger]
    simp only
    rw [if_pos]
    simp only [Bool.and_eq_true, decide_eq_true_eq]
    omega

theorem days?_configured_none (h : c.get? backtestSection "days" = some raw) :
    (Selection.configured c ⟨none, none⟩).days? = Selection.positive? raw := by
  simp only [Selection.configured, h, Option.bind_some, Option.none_or]

/-- An accepted ticker is one word. -/
theorem forall_ticker_of_validateTicker (h : c.validateTicker = .ok ()) :
    ∀ t ∈ (Selection.configured c ⟨none, none⟩).ticker?,
      t ≠ "" ∧ ∀ x ∈ t.toList, isWhiteSpace x = false := by
  intro t ht
  rw [Selection.configured, Option.none_or, Option.mem_def, Option.filter_eq_some_iff,
    Option.map_eq_some_iff] at ht
  obtain ⟨⟨raw, hraw, rfl⟩, hne⟩ := ht
  rw [validateTicker, hraw] at h
  simp only at h
  split at h
  · cases h
  · rename_i hany
    rw [Bool.not_eq_true, List.any_eq_false] at hany
    rw [toList_trim]
    exact ⟨by simpa using hne, fun x hx => by simpa using hany x hx⟩

theorem validateBacktest_eq_ok_iff :
    c.validateBacktest = .ok () ↔ c.validateDays = .ok () ∧ c.validateTicker = .ok () := by
  rw [validateBacktest, bind_eq_ok_iff]
  constructor
  · rintro ⟨_, h⟩
    exact h
  · intro h
    exact ⟨(), h⟩

/-- **The readers of the backtest settings agree.** If the settings are accepted and there is a
window, it denotes a positive number of 32 bits, and that is the one which the configuration
selects and which the same text selects in a store. If the window is refused then nothing is
selected by the configuration, and by the same text in a store the default one. And if the
settings are accepted, the selected ticker is a word without blanks. -/
theorem configured_of_validateBacktest (c : Configuration) :
    (c.validateBacktest = .ok () → ∀ raw, c.get? backtestSection "days" = some raw →
      ∃ n : Nat, Denotes (trim raw) n ∧ 1 ≤ n ∧ n ≤ 4294967295 ∧
        (Selection.configured c ⟨none, none⟩).days? = some n ∧ Selection.daysOf (some raw) = n) ∧
    (∀ raw, c.get? backtestSection "days" = some raw → c.validateDays ≠ .ok () →
      (Selection.configured c ⟨none, none⟩).days? = none ∧ Selection.daysOf (some raw) = 100) ∧
    (c.validateBacktest = .ok () → ∀ t ∈ (Selection.configured c ⟨none, none⟩).ticker?,
      t ≠ "" ∧ ∀ x ∈ t.toList, isWhiteSpace x = false) := by
  rw [validateBacktest_eq_ok_iff]
  refine ⟨fun h raw hraw => ?_, fun raw hraw h => ?_, fun h => ?_⟩
  · obtain ⟨n, hn⟩ := (validateDays_eq_ok_iff hraw).mp h.1
    obtain ⟨hdenotes, hpos, hlt⟩ := Selection.positive?_eq_some_iff.mp hn
    refine ⟨n, hdenotes, hpos, Nat.le_of_lt_succ hlt, (days?_configured_none hraw).trans hn, ?_⟩
    rw [Selection.daysOf, Option.bind_some, hn, Option.getD_some]
  · have hnone : Selection.positive? raw = none := by
      rw [Option.eq_none_iff_forall_ne_some]
      exact fun n hn => h ((validateDays_eq_ok_iff hraw).mpr ⟨n, hn⟩)
    refine ⟨(days?_configured_none hraw).trans hnone, ?_⟩
    rw [Selection.daysOf, Option.bind_some, hnone]
    rfl
  · exact forall_ticker_of_validateTicker h.2

/-- The largest window, with a sign, blanks and more zeros than fit in 64 bits. -/
def largestConfiguration : Configuration :=
  ⟨[("backtest", [("days", some " +000000000000000000000004294967295\t"),
    ("ticker", some " ACME ")])]⟩

theorem configured_largestConfiguration :
    (largestConfiguration.validateBacktest = .ok () ∧
      largestConfiguration.get? backtestSection "days"
        = some " +000000000000000000000004294967295\t") ∧
    ∃ n : Nat, Denotes (trim " +000000000000000000000004294967295\t") n ∧ 1 ≤ n ∧
      n ≤ 4294967295 ∧ (Selection.configured largestConfiguration ⟨none, none⟩).days? = some n ∧
      Selection.daysOf (some " +000000000000000000000004294967295\t") = n := by
  have hvalid : largestConfiguration.validateBacktest = .ok () := by decide +kernel
  have hraw : largestConfiguration.get? backtestSection "days"
      = some " +000000000000000000000004294967295\t" := by decide +kernel
  exact ⟨⟨hvalid, hraw⟩, (configured_of_validateBacktest largestConfiguration).1 hvalid _ hraw⟩

end Configuration
end IndicatorStrategy
