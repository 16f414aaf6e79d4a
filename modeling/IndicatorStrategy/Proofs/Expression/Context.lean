import IndicatorStrategy.Proofs.Expression.ParseError
/-!
# IndicatorStrategy.Proofs.Expression.Context

**The caret under a refused text.** Behind the text comes a line with a caret, which has as
many spaces in front of it as the position of the error says. But a position counts bytes and
a line has a place for each character, so the caret stands under the place of the error just
if all that is in front of it is ASCII, and to the right of it otherwise.
-/

namespace IndicatorStrategy

/-! ### Bytes and characters -/

theorem length_le_byteLength (cs : List Char) : cs.length ≤ Expression.byteLength cs := by
  induction cs with
  | nil => exact Nat.le_refl 0
  | cons c cs ih =>
    have hpos : 0 < c.utf8Size := Char.utf8Size_pos c
    rw [Expression.byteLength, List.length_cons]
    omega

theorem utf8Size_eq_one_iff {c : Char} : c.utf8Size = 1 ↔ c.toNat < 128 := by
  rw [Char.utf8Size_eq_one_iff, UInt32.le_iff_toNat_le]
  exact Nat.lt_succ_iff.symm

/-- A text has as many bytes as characters if it is ASCII, and more if it is not. -/
theorem byteLength_eq_length_iff {cs : List Char} :
    Expression.byteLength cs = cs.length ↔ ∀ c ∈ cs, c.toNat < 128 := by
  induction cs with
  | nil => exact iff_of_true rfl fun c hc => absurd hc List.not_mem_nil
  | cons c cs ih =>
    have hpos : 0 < c.utf8Size := Char.utf8Size_pos c
    have hle : cs.length ≤ Expression.byteLength cs := length_le_byteLength cs
    rw [List.forall_mem_cons, ← ih, ← utf8Size_eq_one_iff, Expression.byteLength,
      List.length_cons]
    omega

namespace Expression

/-- The position of an error lies between two characters of the text. -/
theorem exists_append_of_parse_eq_error {s : String} {e : ExpressionError}
    (h : parse s = .error e) :
    ∃ front back : String, s = front ++ back ∧ front.utf8ByteSize = e.position := by
  obtain ⟨stop, hread, -, hposition⟩ := parse_eq_error h
  obtain ⟨used, more, hs, -⟩ := locatedAtEnd_readAll hread
  refine ⟨String.ofList used, String.ofList stop.rest, ?_, ?_⟩
  · rw [← String.ofList_append, ← hs, String.ofList_toList]
  · rw [utf8ByteSize_eq, String.toList_ofList, hposition, hs, byteLength_append]
    omega

end Expression

namespace ExpressionError

/-- The line under the first one of an error's context, where the caret is. -/
def caretLine? (e : ExpressionError) (input : String) : Option (List Char) :=
  (splitAtChar '\n' (e.context input).toList)[1]?

/-- The caret has as many spaces in front of it as the position says. -/
theorem caretLine?_eq (e : ExpressionError) {input : String} (h : '\n' ∉ input.toList) :
    e.caretLine? input = some (List.replicate e.position ' ' ++ ['^']) := by
  have hcaret : '\n' ∉ List.replicate e.position ' ' ++ ['^'] := by simp
  have hcontext : (e.context input).toList = input.toList ++ '\n' ::
      (List.replicate e.position ' ' ++ ['^'] ++ '\n' :: e.text.toList) := by
    simp [context]
  rw [caretLine?, hcontext, splitAtChar_append_cons h, splitAtChar_append_cons hcaret]
  rfl

theorem caretLine?_eq_iff (e : ExpressionError) {input : String} (h : '\n' ∉ input.toList)
    (n : Nat) :
    e.caretLine? input = some (List.replicate n ' ' ++ ['^']) ↔ e.position = n := by
  rw [e.caretLine?_eq h, Option.some.injEq, List.append_left_inj]
  constructor
  · intro hspaces
    simpa using congrArg List.length hspaces
  · rintro rfl
    rfl

/-- **The caret of a refused text** in one line stands under the place of the error just if all
characters in front of that are ASCII, and never to the left of it. -/
theorem caretLine?_of_parse_eq_error {s : String} {e : ExpressionError}
    (h : Expression.parse s = .error e) (hline : '\n' ∉ s.toList) :
    ∃ front back : String, s = front ++ back ∧ front.utf8ByteSize = e.position ∧
      e.caretLine? s = some (List.replicate e.position ' ' ++ ['^']) ∧
      front.length ≤ e.position ∧
      (e.caretLine? s = some (List.replicate front.length ' ' ++ ['^']) ↔
        ∀ c ∈ front.toList, c.toNat < 128) := by
  obtain ⟨front, back, hs, hposition⟩ := Expression.exists_append_of_parse_eq_error h
  have hbytes : e.position = Expression.byteLength front.toList := by
    rw [← hposition, Expression.utf8ByteSize_eq]
  refine ⟨front, back, hs, hposition, e.caretLine?_eq hline, ?_, ?_⟩
  · rw [hbytes, ← String.length_toList]
    exact length_le_byteLength front.toList
  · rw [e.caretLine?_eq_iff hline, hbytes, ← String.length_toList]
    exact byteLength_eq_length_iff

/-- A text that is ASCII up to the error. -/
theorem caretLine?_ascii :
    let e : ExpressionError := ⟨.trailing (some ')'), 10⟩
    Expression.parse "SMA14above)é" = .error e ∧ '\n' ∉ "SMA14above)é".toList ∧
      ∃ front back : String, "SMA14above)é" = front ++ back ∧ front.utf8ByteSize = 10 ∧
        e.caretLine? "SMA14above)é" = some (List.replicate 10 ' ' ++ ['^']) ∧
        front.length ≤ 10 ∧
        (e.caretLine? "SMA14above)é" = some (List.replicate front.length ' ' ++ ['^']) ↔
          ∀ c ∈ front.toList, c.toNat < 128) := by
  intro e
  have h : Expression.parse "SMA14above)é" = .error e := by cbv
  have hline : '\n' ∉ "SMA14above)é".toList := by decide
  exact ⟨h, hline, caretLine?_of_parse_eq_error h hline⟩

/-- Nine characters are in front of the error, and ten spaces in front of the caret. -/
theorem caretLine?_beyond :
    let e : ExpressionError := ⟨.trailing (some ')'), 10⟩
    Expression.parse "SMAéabove)" = .error e ∧ '\n' ∉ "SMAéabove)".toList ∧
      "SMAéabove)" = "SMAéabove" ++ ")" ∧ "SMAéabove".utf8ByteSize = e.position ∧
      "SMAéabove".length = 9 ∧
      e.caretLine? "SMAéabove)" = some (List.replicate 10 ' ' ++ ['^']) ∧
      e.caretLine? "SMAéabove)" ≠ some (List.replicate 9 ' ' ++ ['^']) := by
  intro e
  have hline : '\n' ∉ "SMAéabove)".toList := by decide
  refine ⟨by cbv, hline, rfl, by decide, by decide, e.caretLine?_eq hline, ?_⟩
  rw [ne_eq, e.caretLine?_eq_iff hline]
  decide

end ExpressionError
end IndicatorStrategy
