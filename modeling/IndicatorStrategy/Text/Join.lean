/-!
# IndicatorStrategy.Text.Join

**Joining and splitting** texts at a separator.
-/

namespace IndicatorStrategy

/-- Texts one after the other with a separator between them. -/
def joinWith (separator : String) : List String → String
  | [] => ""
  | [s] => s
  | s :: ss => s ++ separator ++ joinWith separator ss

/-- The pieces of a text between the occurrences of a character. -/
def splitAtChar (separator : Char) : List Char → List (List Char)
  | [] => [[]]
  | c :: cs =>
    if c = separator then [] :: splitAtChar separator cs
    else match splitAtChar separator cs with
      | [] => [[c]]
      | piece :: pieces => (c :: piece) :: pieces

@[simp] theorem joinWith_nil (separator : String) : joinWith separator [] = "" := rfl

@[simp] theorem joinWith_singleton (separator s : String) :
    joinWith separator [s] = s := rfl

theorem joinWith_cons_cons (separator s t : String) (ss : List String) :
    joinWith separator (s :: t :: ss) = s ++ separator ++ joinWith separator (t :: ss) := rfl

theorem joinWith_append_singleton (separator : String) {ss : List String} (h : ss ≠ [])
    (s : String) : joinWith separator (ss ++ [s]) = joinWith separator ss ++ separator ++ s := by
  induction ss with
  | nil => exact absurd rfl h
  | cons t ts ih =>
    cases ts with
    | nil => rfl
    | cons u us =>
      rw [List.cons_append, List.cons_append, joinWith_cons_cons, joinWith_cons_cons,
        ← List.cons_append, ih (List.cons_ne_nil u us)]
      simp only [String.append_assoc]

theorem splitAtChar_ne_nil (separator : Char) (cs : List Char) :
    splitAtChar separator cs ≠ [] := by
  cases cs with
  | nil => simp [splitAtChar]
  | cons c cs => simp only [splitAtChar]; split <;> (try split) <;> simp

theorem splitAtChar_append_cons {separator : Char} {cs : List Char} (h : separator ∉ cs)
    (ds : List Char) :
    splitAtChar separator (cs ++ separator :: ds) = cs :: splitAtChar separator ds := by
  induction cs with
  | nil => rw [List.nil_append, splitAtChar, if_pos rfl]
  | cons c cs ih =>
    rw [List.mem_cons, not_or] at h
    rw [List.cons_append, splitAtChar, if_neg (Ne.symm h.1), ih h.2]

end IndicatorStrategy
