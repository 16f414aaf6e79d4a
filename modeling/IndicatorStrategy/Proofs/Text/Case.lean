import Mathlib
import IndicatorStrategy.Text.Case
/-!
# IndicatorStrategy.Proofs.Text.Case

**Small letters stay small.** Writing a text in small letters a second time changes
nothing (`lower_lower`), so a name that was stored in small letters is found under any
spelling that leads to them. The table has to be such that no image is a capital letter
again: of each two runs, the images of the one miss the other, by where they end or by
their steps.
-/

namespace IndicatorStrategy

/-! ### The table -/

/-- No image of a run is a character of the other. Runs in steps of two can lie inside
each other, one on the even places and one on the odd ones. -/
def CaseRun.misses (run other : CaseRun) : Bool :=
  Nat.blt (run.image + (run.last - run.first)) other.first || Nat.blt other.last run.image
    || ((run.step == 2 || run.first == run.last) && other.step == 2
      && (run.image + other.first) % 2 == 1)

theorem CaseRun.imageOf?_eq_none_of_misses {run other : CaseRun} (h : run.misses other = true)
    {n m : Nat} (hn : run.imageOf? n = some m) : other.imageOf? m = none := by
  unfold imageOf? at hn ⊢
  split at hn
  · rename_i hrun
    obtain rfl : run.image + (n - run.first) = m := by simpa using hn
    simp only [misses, Bool.and_eq_true, Bool.or_eq_true, decide_eq_true_eq, Nat.blt_eq,
      beq_iff_eq] at h hrun
    obtain ⟨⟨hfirst, hlast⟩, hstep⟩ := hrun
    rw [if_neg]
    simp only [Bool.and_eq_true, decide_eq_true_eq, beq_iff_eq]
    rintro ⟨⟨hfirst', hlast'⟩, hstep'⟩
    -- the image lies in front of the other run, behind it, or between two places that it maps
    rcases h with (h | h) | ⟨⟨hs | hs, ho⟩, hodd⟩
    · omega
    · omega
    · rw [hs] at hstep
      rw [ho] at hstep'
      omega
    · rw [ho] at hstep'
      omega
  · cases hn

/-- All that is read off the table, as one evaluation: no run has an image that another run
maps, or that is the dotted capital letter, and only `k` is an ASCII image; the capital sigma
is in the table, and its two small forms and the combining dot are not. -/
theorem lowerRuns_table :
    (lowerRuns.all fun run => lowerRuns.all run.misses) = true ∧
      (∀ run ∈ lowerRuns, run.misses ⟨0x0130, 0x0130, 2, 0⟩ = true) ∧
      (∀ run ∈ lowerRuns, 128 ≤ run.image ∨ run.image = 'k'.toNat ∧ run.first = run.last) ∧
      lowerRuns.findSome? (·.imageOf? 'Σ'.toNat) ≠ none ∧
      ∀ n ∈ [0x0307, 'ς'.toNat, 'σ'.toNat], lowerRuns.findSome? (·.imageOf? n) = none := by
  decide +kernel

theorem misses_of_mem {run other : CaseRun} (hrun : run ∈ lowerRuns)
    (hother : other ∈ lowerRuns) : run.misses other = true :=
  List.all_eq_true.mp (List.all_eq_true.mp lowerRuns_table.1 run hrun) other hother

/-- No image is the dotted capital letter, which has two characters as its small form. -/
theorem misses_dotted : ∀ run ∈ lowerRuns, run.misses ⟨0x0130, 0x0130, 2, 0⟩ = true :=
  lowerRuns_table.2.1

theorem image_cases : ∀ run ∈ lowerRuns,
    128 ≤ run.image ∨ run.image = 'k'.toNat ∧ run.first = run.last :=
  lowerRuns_table.2.2.1

theorem findSome?_sigma : lowerRuns.findSome? (·.imageOf? 'Σ'.toNat) ≠ none :=
  lowerRuns_table.2.2.2.1

/-- Only the letter `k` is an ASCII image of another character. -/
theorem eq_of_image_lt {run : CaseRun} (hrun : run ∈ lowerRuns) {n m : Nat}
    (h : run.imageOf? n = some m) (hlt : m < 128) : m = 'k'.toNat := by
  unfold CaseRun.imageOf? at h
  split at h
  · rename_i hbounds
    obtain rfl : run.image + (n - run.first) = m := by simpa using h
    simp only [Bool.and_eq_true, decide_eq_true_eq] at hbounds
    rcases image_cases run hrun with hge | ⟨himage, hsingle⟩ <;> omega
  · cases h

/-! ### Characters -/

/-- Characters that are their own small form, wherever they stand. -/
def IsSmall (c : Char) : Prop := c ≠ 'Σ' ∧ lowerChar c = [c]

theorem isSmall_of_lt {c : Char} (h : c.toNat < 128) (hc : c.toLower = c) : IsSmall c := by
  refine ⟨?_, by rw [lowerChar_of_lt h, hc]⟩
  rintro rfl
  exact absurd h (by decide)

theorem toNat_toLower_lt {c : Char} (h : c.toNat < 128) : c.toLower.toNat < 128 := by
  have hall : ∀ n < 128, (Char.ofNat n).toLower.toNat < 128 := by decide
  simpa using hall c.toNat h

/-- A character outside ASCII without an image in the table is its own small form. -/
theorem lowerChar_of_findSome? {c : Char} (hlt : ¬c.toNat < 128) (hdotted : c.toNat ≠ 0x0130)
    (h : lowerRuns.findSome? (·.imageOf? c.toNat) = none) : lowerChar c = [c] := by
  rw [lowerChar, if_neg hlt, if_neg hdotted, mapByRuns, h]

/-- The characters that come of a capital sigma and of the dotted capital letter. -/
theorem isSmall_of_special {c : Char} (h : c.toNat ∈ [0x0307, 'ς'.toNat, 'σ'.toNat]) :
    IsSmall c := by
  have hall : ∀ n ∈ [0x0307, 'ς'.toNat, 'σ'.toNat],
      n ≠ 'Σ'.toNat ∧ ¬n < 128 ∧ n ≠ 0x0130 := by decide
  obtain ⟨hsigma, hlt, hdotted⟩ := hall c.toNat h
  exact ⟨fun he => hsigma (by rw [he]),
    lowerChar_of_findSome? hlt hdotted (lowerRuns_table.2.2.2.2 c.toNat h)⟩

theorem isSmall_image {run : CaseRun} (hrun : run ∈ lowerRuns) {n m : Nat}
    (h : run.imageOf? n = some m) : IsSmall (Char.ofNat m) := by
  have hnone : lowerRuns.findSome? (·.imageOf? m) = none :=
    List.findSome?_eq_none_iff.mpr fun other hother =>
      CaseRun.imageOf?_eq_none_of_misses (misses_of_mem hrun hother) h
  have hdotted : m ≠ 0x0130 := by
    rintro rfl
    have := CaseRun.imageOf?_eq_none_of_misses (misses_dotted run hrun) h
    exact absurd this (by decide)
  have hsigma : m ≠ 'Σ'.toNat := by
    rintro rfl
    exact findSome?_sigma hnone
  -- where a number is no character, `Char.ofNat` answers with the null character
  by_cases hvalid : m.isValidChar
  · have htoNat : (Char.ofNat m).toNat = m := by rw [Char.toNat_ofNat, if_pos hvalid]
    by_cases hlt : m < 128
    · rw [eq_of_image_lt hrun h hlt]
      exact isSmall_of_lt (by decide) (by decide)
    · refine ⟨fun he => hsigma (by rw [← htoNat, he]), ?_⟩
      exact lowerChar_of_findSome? (by rwa [htoNat]) (by rwa [htoNat]) (by rwa [htoNat])
  · have hzero : Char.ofNat m = '\x00' := by
      rw [Char.ofNat, dif_neg hvalid]
      rfl
    rw [hzero]
    exact isSmall_of_lt (by decide) (by decide)

theorem isSmall_of_mem_lowerChar {c d : Char} (hc : c ≠ 'Σ') (h : d ∈ lowerChar c) :
    IsSmall d := by
  by_cases hlt : c.toNat < 128
  · rw [lowerChar_of_lt hlt, List.mem_singleton] at h
    rw [h]
    exact isSmall_of_lt (toNat_toLower_lt hlt) c.toLower_toLower_eq_toLower
  · by_cases hdotted : c.toNat = 0x0130
    · rw [lowerChar, if_neg hlt, if_pos hdotted] at h
      rcases List.mem_pair.mp h with rfl | rfl
      · exact isSmall_of_lt (by decide) (by decide)
      · exact isSmall_of_special (by decide)
    · cases hfound : lowerRuns.findSome? (·.imageOf? c.toNat) with
      | none =>
        have hself := lowerChar_of_findSome? hlt hdotted hfound
        rw [hself, List.mem_singleton] at h
        rw [h]
        exact ⟨hc, hself⟩
      | some m =>
        rw [lowerChar, if_neg hlt, if_neg hdotted, mapByRuns, hfound, List.mem_singleton] at h
        obtain ⟨run, hrun, himage⟩ := List.exists_of_findSome?_eq_some hfound
        rw [h]
        exact isSmall_image hrun himage

/-! ### Texts -/

theorem isSmall_lowerSigma (before after : List Char) : IsSmall (lowerSigma before after) := by
  rw [lowerSigma]
  split
  · exact isSmall_of_special (by decide)
  · exact isSmall_of_special (by decide)

theorem isSmall_of_mem_lowerAfter {before cs : List Char} :
    ∀ d ∈ lowerAfter before cs, IsSmall d := by
  induction cs generalizing before with
  | nil => exact fun d hd => absurd hd List.not_mem_nil
  | cons c cs ih =>
    intro d hd
    rcases List.mem_append.mp hd with hd | hd
    · split at hd
      · rw [List.mem_singleton.mp hd]
        exact isSmall_lowerSigma before cs
      · rename_i hc
        exact isSmall_of_mem_lowerChar hc hd
    · exact ih d hd

/-- Small letters are kept as they are. -/
theorem lowerAfter_of_isSmall {cs : List Char} (h : ∀ c ∈ cs, IsSmall c) (before : List Char) :
    lowerAfter before cs = cs := by
  induction cs generalizing before with
  | nil => rfl
  | cons c cs ih =>
    obtain ⟨hsigma, hself⟩ := h c (List.mem_cons_self ..)
    rw [lowerAfter, if_neg hsigma, hself, ih fun d hd => h d (List.mem_cons_of_mem _ hd)]
    rfl

/-- **Small letters stay small.** -/
@[simp] theorem lower_lower (s : String) : lower (lower s) = lower s := by
  rw [lower, lower, String.toList_ofList, lowerAfter_of_isSmall isSmall_of_mem_lowerAfter]

end IndicatorStrategy
