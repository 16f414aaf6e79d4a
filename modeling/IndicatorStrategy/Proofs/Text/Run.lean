import Mathlib
import IndicatorStrategy.Text.Join
/-!
# IndicatorStrategy.Proofs.Text.Run

**Runs of characters.** Readers take the longest run of characters of a class off the
front of a text. `Stops p rest` says that no such run goes on in `rest`; with it, what
was written in front of `rest` is exactly what is taken.
-/

namespace IndicatorStrategy

/-- The text does not start with a character of the class. -/
def Stops (p : Char → Bool) (rest : List Char) : Prop := ∀ c ∈ rest.head?, p c = false

namespace Stops

variable {p : Char → Bool}

@[simp] theorem nil : Stops p [] := by simp [Stops]

@[simp] theorem cons_iff (c : Char) (cs : List Char) : Stops p (c :: cs) ↔ p c = false := by
  simp [Stops]

/-- What is left behind the longest run stops it. -/
theorem dropWhile (cs : List Char) : Stops p (cs.dropWhile p) := by
  intro c hc
  have h := List.head?_dropWhile_not p cs
  rw [Option.mem_def] at hc
  rw [hc] at h
  exact h

variable {run rest : List Char}

theorem takeWhile_append (h : Stops p rest) (hr : ∀ c ∈ run, p c = true) :
    (run ++ rest).takeWhile p = run := by
  rw [List.takeWhile_append_of_pos hr]
  cases rest with
  | nil => simp
  | cons c cs => simp [(cons_iff c cs).mp h]

theorem dropWhile_append (h : Stops p rest) (hr : ∀ c ∈ run, p c = true) :
    (run ++ rest).dropWhile p = rest := by
  rw [List.dropWhile_append_of_pos hr]
  cases rest with
  | nil => rfl
  | cons c cs => simp [(cons_iff c cs).mp h]

end Stops

/-! ### Joined texts -/

/-- Joined texts are the first of them and then each of the others behind a separator. -/
theorem toList_joinWith_cons (separator s : String) (ss : List String) :
    (joinWith separator (s :: ss)).toList
      = s.toList ++ ss.flatMap fun t => separator.toList ++ t.toList := by
  induction ss generalizing s with
  | nil => simp
  | cons t ts ih => simp [joinWith_cons_cons, ih]

theorem joinWith_ne_empty {s : String} (hs : s ≠ "") (separator : String) (ss : List String) :
    joinWith separator (s :: ss) ≠ "" := by
  cases ss with
  | nil => exact hs
  | cons t ts =>
    intro h
    rw [joinWith_cons_cons, String.append_eq_empty_iff, String.append_eq_empty_iff] at h
    exact hs h.1.1

end IndicatorStrategy
