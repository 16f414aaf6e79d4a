import IndicatorStrategy.Proofs.Json.Roundtrip
/-!
# IndicatorStrategy.Proofs.Json.Pretty

**Indented texts read back.** The lines and the indentation of an indented text lie
between its tokens, so it is cut into the same tokens as the compact text of the value.
-/

namespace IndicatorStrategy
namespace Json

/-! ### Blanks between tokens -/

theorem tokens_blank {c : Char} (h : isBlankChar c = true) (cs : List Char) :
    tokens (c :: cs) = tokens cs := by
  rw [tokens.eq_def]
  split
  case h_12 _ _ _ _ _ _ _ _ _ _ _ _ heq =>
    cases heq
    rw [if_pos h]
  -- in every other case the first character is none of the blanks
  all_goals simp_all [isBlankChar]

theorem tokens_blanks {bs : List Char} (h : ∀ c ∈ bs, isBlankChar c = true) (cs : List Char) :
    tokens (bs ++ cs) = tokens cs := by
  induction bs with
  | nil => rfl
  | cons b bs ih =>
    rw [List.cons_append, tokens_blank (h b (List.mem_cons_self ..)),
      ih fun c hc => h c (List.mem_cons_of_mem _ hc)]

theorem tokens_newLine (depth : Nat) (cs : List Char) :
    tokens ((newLine depth).toList ++ cs) = tokens cs := by
  refine tokens_blanks (fun c hc => ?_) cs
  rw [newLine, String.toList_append, List.mem_append] at hc
  rcases hc with hc | hc
  · rw [List.mem_singleton.mp hc]
    rfl
  · rw [String.toList_ofList] at hc
    rw [List.eq_of_mem_replicate hc]
    rfl

theorem stops_newLine (depth : Nat) (cs : List Char) :
    Stops continuesNumber ((newLine depth).toList ++ cs) := by
  simp [newLine, continuesNumber]

/-! ### Items and members -/

/-- The indented text of a value is cut into its tokens, whatever follows that stops a
number. -/
def PrettyLexes (v : Json) : Prop :=
  ∀ depth rest, Stops continuesNumber rest →
    tokens ((v.prettyAt depth).toList ++ rest) = v.lexemes ++ tokens rest

theorem itemLexemes_cons (v : Json) (vs : List Json) :
    itemLexemes (v :: vs) = v.lexemes ++ vs.flatMap fun w => .comma :: w.lexemes := by
  induction vs generalizing v with
  | nil => simp [itemLexemes]
  | cons w ws ih => simp [itemLexemes, ih w]

theorem memberLexemes_eq (k : String) (v : Json) (ms : List (String × Json)) :
    memberLexemes ((k, v) :: ms) = .string (some k) :: .colon :: v.lexemes
      ++ ms.flatMap fun p => .comma :: .string (some p.1) :: .colon :: p.2.lexemes := by
  induction ms generalizing k v with
  | nil => simp [memberLexemes]
  | cons p ms ih =>
    obtain ⟨l, w⟩ := p
    simp [memberLexemes, ih l w]

/-- A key with its colon and the blank behind it. -/
theorem tokens_key (k : String) (cs : List Char) :
    tokens ((quote k).toList ++ ':' :: ' ' :: cs) = .string (some k) :: .colon :: tokens cs := by
  rw [tokens_quote, tokens, tokens_blank rfl]

theorem stops_prettyItems (depth : Nat) (vs : List Json) {rest : List Char}
    (h : Stops continuesNumber rest) :
    Stops continuesNumber ((prettyItems depth vs).toList ++ rest) := by
  cases vs with
  | nil => exact h
  | cons v vs => simp [prettyItems, continuesNumber]

theorem stops_prettyMembers (depth : Nat) (ms : List (String × Json)) {rest : List Char}
    (h : Stops continuesNumber rest) :
    Stops continuesNumber ((prettyMembers depth ms).toList ++ rest) := by
  cases ms with
  | nil => exact h
  | cons p ms => simp [prettyMembers, continuesNumber]

theorem tokens_prettyItems {vs : List Json} (h : ∀ v ∈ vs, PrettyLexes v) (depth : Nat)
    {rest : List Char} (hr : Stops continuesNumber rest) :
    tokens ((prettyItems depth vs).toList ++ rest)
      = (vs.flatMap fun v => .comma :: v.lexemes) ++ tokens rest := by
  induction vs with
  | nil => rfl
  | cons v vs ih =>
    have hv := h v (List.mem_cons_self ..) depth _ (stops_prettyItems depth vs hr)
    have hvs := ih fun w hw => h w (List.mem_cons_of_mem _ hw)
    simp [prettyItems, tokens, tokens_newLine, hv, hvs]

theorem tokens_prettyMembers {ms : List (String × Json)} (h : ∀ p ∈ ms, PrettyLexes p.2)
    (depth : Nat) {rest : List Char} (hr : Stops continuesNumber rest) :
    tokens ((prettyMembers depth ms).toList ++ rest)
      = (ms.flatMap fun p => .comma :: .string (some p.1) :: .colon :: p.2.lexemes)
        ++ tokens rest := by
  induction ms with
  | nil => rfl
  | cons p ms ih =>
    obtain ⟨k, v⟩ := p
    have hv := h (k, v) (List.mem_cons_self ..) depth _ (stops_prettyMembers depth ms hr)
    have hms := ih fun q hq => h q (List.mem_cons_of_mem _ hq)
    simp [prettyMembers, tokens, tokens_newLine, tokens_key, hv, hms]

/-! ### Values -/

/-- **The indented text of a storable value** is cut into its tokens. -/
theorem Storable.prettyLexes {depth : Nat} {v : Json} (h : Storable depth v) :
    PrettyLexes v := by
  -- values without parts are printed as in the compact text
  induction h with
  | null => exact fun _ => Storable.lexes (.null : Storable 0 .null)
  | bool b => exact fun _ => Storable.lexes (.bool b : Storable 0 (.bool b))
  | int hn => exact fun _ => Storable.lexes (.int hn : Storable 0 (.int _))
  | double negative rank =>
    exact fun _ => Storable.lexes (.double negative rank : Storable 0 (.double negative rank))
  | string s => exact fun _ => Storable.lexes (.string s : Storable 0 (.string s))
  | @array _ items h ih =>
    intro level rest hr
    cases items with
    | nil => simp [prettyAt, lexemes, itemLexemes, tokens]
    | cons v vs =>
      have hclose := stops_newLine level (']' :: rest)
      have hv := ih v (List.mem_cons_self ..) (level + 1) _
        (stops_prettyItems (level + 1) vs hclose)
      have hvs := tokens_prettyItems (fun w hw => ih w (List.mem_cons_of_mem _ hw))
        (level + 1) hclose
      simp [prettyAt, lexemes, itemLexemes_cons, tokens, tokens_newLine, hv, hvs]
  | @object _ members hn h ih =>
    intro level rest hr
    cases members with
    | nil => simp [prettyAt, lexemes, memberLexemes, tokens]
    | cons p ms =>
      obtain ⟨k, v⟩ := p
      have hclose := stops_newLine level ('\x7d' :: rest)
      have hv := ih (k, v) (List.mem_cons_self ..) (level + 1) _
        (stops_prettyMembers (level + 1) ms hclose)
      have hms := tokens_prettyMembers (fun q hq => ih q (List.mem_cons_of_mem _ hq))
        (level + 1) hclose
      simp [prettyAt, lexemes, memberLexemes_eq, tokens, tokens_newLine, tokens_key, hv, hms]

/-- The document of the indented text of a storable value is its tree, and nothing
follows. -/
theorem Storable.document_pretty {depth : Nat} {v : Json} (h : Storable depth v) :
    Document.ofText v.pretty = ⟨v.tree, true⟩ := by
  have hlexes := h.prettyLexes 0 [] Stops.nil
  have hgathers := h.gathers [] []
  rw [List.append_nil, tokens_nil] at hlexes
  rw [Document.ofText, pretty, hlexes, hgathers]
  rfl

end Json
end IndicatorStrategy
