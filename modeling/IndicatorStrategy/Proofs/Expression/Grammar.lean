import IndicatorStrategy.Expression.Parser
import IndicatorStrategy.Proofs.Text.Run
/-!
# IndicatorStrategy.Proofs.Expression.Grammar

**The grammar of expressions**, apart from the reader. A term is *canonical* when its
key and its trend are the ones that its text determines; an expression is canonical
when all its terms are and none of its clauses could be taken for another one.

The main statement, `Expression.parse_eq_ok_iff`, says that the reader accepts exactly
the texts of canonical expressions and gives back the expression that was written. It
holds for each level of the grammar: `readTerm`, `readTerms`, `readClause` and
`readClauses` each have a lemma for what they accept and one for what they do with a
written text.
-/

namespace IndicatorStrategy

open Expression (isTermChar isKeyChar)

/-! ### Canonical expressions -/

/-- The key that starts a text: the longest wire key that does, or else the whole run
of capitals and underscores, which must not be empty. -/
def IsKeyOf (key text : List Char) : Prop :=
  ((∃ k ∈ Catalog.wireKeys, k.toList = key) ∧ key <+: text ∧
      ∀ k ∈ Catalog.wireKeys, k.toList <+: text → k.toList.length ≤ key.length) ∨
    ((∀ k ∈ Catalog.wireKeys, ¬ k.toList <+: text) ∧
      key = text.takeWhile isKeyChar ∧ key ≠ [])

/-- The trend that ends a text: it does, and none does of those that come before it, the
crossings before the plain trends that they end in. -/
def IsTrendOf (trend : Trend) (text : List Char) : Prop :=
  trend.wire.toList <:+ text ∧ ∃ before after,
    [Trend.crossedAbove, .crossedBelow, .above, .below] = before ++ trend :: after ∧
      ∀ t ∈ before, ¬ t.wire.toList <:+ text

/-- A term that its text determines. -/
structure Term.IsCanonical (t : Term) : Prop where
  chars : ∀ c ∈ t.text.toList, c ∉ [' ', '(', ')', '|', '&']
  key : IsKeyOf t.key.toList t.text.toList
  trend : IsTrendOf t.trend (t.text.toList.drop t.key.toList.length)

/-- A clause with canonical terms. A lone term must not look like a placeholder. -/
structure Clause.IsCanonical (c : Clause) : Prop where
  nonempty : c ≠ .terms []
  terms : ∀ t ∈ c.toTerms, t.IsCanonical
  lone : ∀ t, c = .terms [t] → ¬ Clause.placeholderText.toList <+: t.text.toList

/-- An expression with at least one clause, all of them canonical. -/
structure Expression.IsCanonical (e : Expression) : Prop where
  nonempty : e.clauses ≠ []
  clauses : ∀ c ∈ e.clauses, c.IsCanonical

/-! ### Keys -/

namespace Expression

theorem longer_mem (k l : List Char) : longer k l = k ∨ longer k l = l := by
  unfold longer
  split
  · exact .inr rfl
  · exact .inl rfl

theorem length_le_longer (k l : List Char) :
    k.length ≤ (longer k l).length ∧ l.length ≤ (longer k l).length := by
  unfold longer
  split <;> omega

/-- Folding with `longer` gives one of the keys, and none is longer. -/
theorem foldl_longer (k : List Char) (ks : List (List Char)) :
    ks.foldl longer k ∈ k :: ks ∧ ∀ l ∈ k :: ks, l.length ≤ (ks.foldl longer k).length := by
  induction ks generalizing k with
  | nil => simp
  | cons l ks ih =>
    obtain ⟨hmem, hmax⟩ := ih (longer k l)
    have hk := length_le_longer k l
    have hl := hmax _ (List.mem_cons_self ..)
    rw [List.foldl_cons]
    constructor
    · rcases List.mem_cons.mp hmem with h | h
      · rw [h]
        rcases longer_mem k l with hkl | hkl
        · simp [hkl]
        · simp [hkl]
      · exact List.mem_cons_of_mem _ (List.mem_cons_of_mem _ h)
    · intro m hm
      simp only [List.mem_cons] at hm
      rcases hm with rfl | rfl | hm
      · omega
      · omega
      · exact hmax m (List.mem_cons_of_mem _ hm)

theorem mem_prefixKeys {term key : List Char} :
    key ∈ (Catalog.wireKeys.map String.toList).filter (·.isPrefixOf term) ↔
      (∃ k ∈ Catalog.wireKeys, k.toList = key) ∧ key <+: term := by
  simp [List.mem_filter]

theorem knownKey?_eq_some {term key : List Char} (h : knownKey? term = some key) :
    (∃ k ∈ Catalog.wireKeys, k.toList = key) ∧ key <+: term ∧
      ∀ k ∈ Catalog.wireKeys, k.toList <+: term → k.toList.length ≤ key.length := by
  unfold knownKey? at h
  split at h
  · cases h
  · rename_i k ks hks
    cases h
    obtain ⟨hmem, hmax⟩ := foldl_longer k ks
    rw [← hks] at hmem hmax
    obtain ⟨hkey, hpre⟩ := mem_prefixKeys.mp hmem
    exact ⟨hkey, hpre, fun l hl hp => hmax _ (mem_prefixKeys.mpr ⟨⟨l, hl, rfl⟩, hp⟩)⟩

theorem knownKey?_eq_none {term : List Char} (h : knownKey? term = none) :
    ∀ k ∈ Catalog.wireKeys, ¬ k.toList <+: term := by
  unfold knownKey? at h
  split at h
  · rename_i hnil
    intro k hk hp
    have := mem_prefixKeys.mpr ⟨⟨k, hk, rfl⟩, hp⟩
    rw [hnil] at this
    simp at this
  · cases h

theorem toList_wireKey_ne_nil : ∀ k ∈ Catalog.wireKeys, k.toList ≠ [] := by decide

/-- The reader's key is the key that starts the term, if one does. -/
theorem isKeyOf_iff {key term : List Char} :
    IsKeyOf key term ↔ key = keyOf term ∧ keyOf term ≠ [] := by
  unfold keyOf
  cases h : knownKey? term with
  | some k =>
    obtain ⟨⟨l, hl, rfl⟩, hpre, hmax⟩ := knownKey?_eq_some h
    simp only [Option.getD_some]
    constructor
    · rintro (⟨⟨m, hm, rfl⟩, hp, hlong⟩ | ⟨hnone, -⟩)
      · have hle := hmax m hm hp
        have hge := hlong l hl hpre
        -- two keys of one length at the front of one text are the same key
        have heq := (List.prefix_of_prefix_length_le hp hpre hle).eq_of_length (by omega)
        exact ⟨heq, toList_wireKey_ne_nil l hl⟩
      · exact absurd hpre (hnone l hl)
    · rintro ⟨rfl, -⟩
      exact .inl ⟨⟨l, hl, rfl⟩, hpre, hmax⟩
  | none =>
    have hnone := knownKey?_eq_none h
    simp only [Option.getD_none]
    constructor
    · rintro (⟨⟨m, hm, rfl⟩, hp, -⟩ | ⟨-, rfl, hne⟩)
      · exact absurd hp (hnone m hm)
      · exact ⟨rfl, hne⟩
    · rintro ⟨rfl, hne⟩
      exact .inr ⟨hnone, rfl, hne⟩

theorem keyOf_isPrefix (term : List Char) : keyOf term <+: term := by
  unfold keyOf
  cases h : knownKey? term with
  | some k => exact (knownKey?_eq_some h).2.1
  | none => exact List.takeWhile_prefix _

/-! ### Trends -/

theorem endingOf?_eq_some_iff {trend : Trend} {cs : List Char} :
    endingOf? cs = some trend ↔ IsTrendOf trend cs := by
  have hnot (t : Trend) : t.wire.toList.isSuffixOf cs = false ↔ ¬ t.wire.toList <:+ cs := by
    rw [← List.isSuffixOf_iff_suffix, Bool.not_eq_true]
  simp [endingOf?, endings, IsTrendOf, List.find?_eq_some_iff_append, hnot]

/-! ### Terms -/

theorem isTermChar_iff (c : Char) :
    isTermChar c = true ↔ c ∉ [' ', '(', ')', '|', '&'] := by
  simp [isTermChar, and_assoc]

theorem text_toList (t : Term) :
    t.text.toList = t.key.toList ++ (t.operands.toList ++ t.trend.wire.toList) := by
  simp [Term.text]

/-- A run of term characters is read as the one term that it determines. -/
theorem termOf_eq_ok_iff {term rest : List Char} {t : Term} :
    termOf term rest = .ok t ↔
      t.text.toList = term ∧ IsKeyOf t.key.toList term ∧
        IsTrendOf t.trend (term.drop t.key.toList.length) := by
  rw [isKeyOf_iff, ← endingOf?_eq_some_iff]
  constructor
  · intro h
    unfold termOf at h
    split at h
    · cases h
    · simp only at h
      split at h
      · cases h
      · rename_i hkey
        split at h
        · cases h
        · rename_i trend htrend
          cases h
          have hsuffix := (endingOf?_eq_some_iff.mp htrend).1
          have hpre := List.prefix_iff_eq_append.mp (keyOf_isPrefix term)
          refine ⟨?_, by simpa using hkey, by simpa using htrend⟩
          rw [text_toList, String.toList_ofList, String.toList_ofList,
            List.suffix_iff_eq_append.mp hsuffix, hpre]
  · rintro ⟨htext, ⟨hkey, hne⟩, htrend⟩
    have hterm : term ≠ [] := by
      rintro rfl
      exact hne (List.prefix_nil.mp (keyOf_isPrefix []))
    have htail : term.drop (keyOf term).length = t.operands.toList ++ t.trend.wire.toList := by
      rw [← hkey, ← htext, text_toList, List.drop_left]
    rw [hkey] at htrend
    rw [termOf, if_neg (by simpa using hterm)]
    simp only
    rw [if_neg (by simpa using hne), htrend, htail]
    simp [← hkey]

/-- The text of a trend is never empty, so neither is that of a term. -/
theorem length_text_toList (t : Term) : 5 ≤ t.text.toList.length := by
  have : 5 ≤ t.trend.wire.toList.length := by cases t.trend <;> decide
  rw [text_toList]
  simp only [List.length_append]
  omega

theorem readTerm_sound {cs : List Char} {t : Term} (h : readTerm cs = .ok t) :
    t.IsCanonical ∧ cs = t.text.toList ++ afterTerm cs := by
  obtain ⟨htext, hkey, htrend⟩ := termOf_eq_ok_iff.mp h
  refine ⟨⟨fun c hc => ?_, htext ▸ hkey, htext ▸ htrend⟩, ?_⟩
  · rw [htext] at hc
    exact (isTermChar_iff c).mp (List.all_eq_true.mp List.all_takeWhile c hc)
  · rw [htext, afterTerm, List.takeWhile_append_dropWhile]

/-- A canonical term is read back from in front of anything that ends it. -/
theorem readTerm_complete {t : Term} (ht : t.IsCanonical) {rest : List Char}
    (hr : Stops isTermChar rest) :
    readTerm (t.text.toList ++ rest) = .ok t ∧ afterTerm (t.text.toList ++ rest) = rest := by
  have hchars : ∀ c ∈ t.text.toList, isTermChar c = true := fun c hc =>
    (isTermChar_iff c).mpr (ht.chars c hc)
  refine ⟨?_, hr.dropWhile_append hchars⟩
  rw [readTerm, hr.takeWhile_append hchars]
  exact termOf_eq_ok_iff.mpr ⟨rfl, ht.key, ht.trend⟩

/-! ### Parenthesized clauses -/

/-- Further terms as they are written behind the first. -/
def furtherTerms (ts : List Term) : List Char :=
  ts.flatMap fun t => Clause.separator.toList ++ t.text.toList

theorem furtherTerms_cons (t : Term) (ts : List Term) :
    furtherTerms (t :: ts) = ' ' :: '&' :: ' ' :: (t.text.toList ++ furtherTerms ts) := rfl

theorem readTerms_sound {cs rest : List Char} {ts : List Term}
    (h : readTerms cs = .ok (ts, rest)) :
    (∀ t ∈ ts, t.IsCanonical) ∧ cs = furtherTerms ts ++ rest := by
  fun_induction readTerms cs generalizing ts rest with
  | case1 => cases h
  | case2 => cases h
  | case3 cs t ht ts' rest' hts ih =>
    cases h
    obtain ⟨hcanon, hcs⟩ := readTerm_sound ht
    obtain ⟨hall, hafter⟩ := ih hts
    refine ⟨List.forall_mem_cons.mpr ⟨hcanon, hall⟩, ?_⟩
    rw [furtherTerms_cons, List.cons_append, List.cons_append, List.cons_append,
      List.append_assoc, ← hafter, ← hcs]
  | case4 cs =>
    cases h
    exact ⟨by simp, rfl⟩

theorem stops_furtherTerms (ts : List Term) {rest : List Char} (hr : Stops isTermChar rest) :
    Stops isTermChar (furtherTerms ts ++ rest) := by
  cases ts with
  | nil => exact hr
  | cons t ts => exact (Stops.cons_iff ..).mpr rfl

theorem readTerms_of_not_isPrefix {cs : List Char}
    (h : ¬ Clause.separator.toList <+: cs) : readTerms cs = .ok ([], cs) := by
  rw [readTerms.eq_def]
  split
  · exact absurd ⟨_, rfl⟩ h
  · rfl

/-- Terms are read back in front of anything that neither goes on with the last of them
nor with a further one. -/
theorem readTerms_complete {ts : List Term} (h : ∀ t ∈ ts, t.IsCanonical) {rest : List Char}
    (hr : Stops isTermChar rest) (hsep : ¬ Clause.separator.toList <+: rest) :
    readTerms (furtherTerms ts ++ rest) = .ok (ts, rest) := by
  induction ts with
  | nil => exact readTerms_of_not_isPrefix hsep
  | cons t ts ih =>
    obtain ⟨ht, hts⟩ := List.forall_mem_cons.mp h
    obtain ⟨hread, hafter⟩ := readTerm_complete ht (stops_furtherTerms ts hr)
    rw [furtherTerms_cons, List.cons_append, List.cons_append, List.cons_append,
      List.append_assoc, readTerms]
    simp only [hread, hafter, ih hts]

/-- What follows the terms of a parenthesized clause. -/
def Closes (rest : List Char) : Prop := ∃ cs, rest = ')' :: cs

theorem closes_cons (rest : List Char) : Closes (')' :: rest) := ⟨rest, rfl⟩

theorem Closes.not_isPrefix {rest : List Char} (h : Closes rest) :
    ¬ Clause.separator.toList <+: rest := by
  obtain ⟨cs, rfl⟩ := h
  rintro ⟨ds, hds⟩
  cases hds

theorem Closes.stops {rest : List Char} (h : Closes rest) : Stops isTermChar rest := by
  obtain ⟨cs, rfl⟩ := h
  exact (Stops.cons_iff ..).mpr rfl

/-- The text of several terms that must hold together. -/
theorem text_toList_terms (t u : Term) (ts : List Term) :
    (Clause.terms (t :: u :: ts)).text.toList
      = '(' :: (t.text.toList ++ (furtherTerms (u :: ts) ++ [')'])) := by
  simp [Clause.text, Clause.parenthesized, toList_joinWith_cons, furtherTerms,
    List.flatMap_map]

theorem readParenthesized_sound {cs rest : List Char} {c : Clause}
    (h : readParenthesized cs = .ok (c, rest)) :
    c.IsCanonical ∧ '(' :: cs = c.text.toList ++ rest := by
  unfold readParenthesized at h
  split at h
  · cases h
  · rename_i t ht
    obtain ⟨hcanon, hcs⟩ := readTerm_sound ht
    split at h
    · cases h
    · rename_i ts rest' hts
      obtain ⟨hall, hafter⟩ := readTerms_sound hts
      cases ts with
      | nil => cases h
      | cons u ts =>
        cases h
        refine ⟨⟨by simp, List.forall_mem_cons.mpr ⟨hcanon, hall⟩, by simp⟩, ?_⟩
        rw [text_toList_terms, hcs, hafter]
        simp
    · cases h

theorem readParenthesized_complete {t u : Term} {ts : List Term}
    (h : (Clause.terms (t :: u :: ts)).IsCanonical) (rest : List Char) :
    readParenthesized (t.text.toList ++ (furtherTerms (u :: ts) ++ ')' :: rest))
      = .ok (.terms (t :: u :: ts), rest) := by
  obtain ⟨ht, hts⟩ := List.forall_mem_cons.mp h.terms
  have hcloses := closes_cons rest
  obtain ⟨hread, hafter⟩ := readTerm_complete ht (stops_furtherTerms (u :: ts) hcloses.stops)
  simp [readParenthesized, hread, hafter,
    readTerms_complete hts hcloses.stops hcloses.not_isPrefix]

/-! ### Clauses -/

/-- What starts neither with a placeholder nor with a parenthesis is a lone term. -/
theorem readClause_of_term {cs : List Char} {t : Term}
    (hp : ¬ Clause.placeholderText.toList <+: cs) (hc : cs.head? ≠ some '(')
    (h : readTerm cs = .ok t) : readClause cs = .ok (.terms [t], afterTerm cs) := by
  unfold readClause
  split
  · exact absurd ⟨_, rfl⟩ hp
  · exact absurd rfl hc
  · rw [h]

theorem readClause_sound {cs rest : List Char} {c : Clause}
    (h : readClause cs = .ok (c, rest)) : c.IsCanonical ∧ cs = c.text.toList ++ rest := by
  unfold readClause at h
  split at h
  · cases h
    exact ⟨⟨by simp, by simp [Clause.toTerms], by simp⟩, rfl⟩
  · exact readParenthesized_sound h
  · rename_i cs hp _
    split at h
    · cases h
    · rename_i t ht
      cases h
      obtain ⟨hcanon, hcs⟩ := readTerm_sound ht
      refine ⟨⟨by simp, by simpa [Clause.toTerms] using hcanon, ?_⟩, hcs⟩
      rintro u hu ⟨us, hus⟩
      cases hu
      rw [← hus] at hcs
      exact hp _ hcs

/-- A canonical clause is read back; only a lone term needs something that ends it. -/
theorem readClause_complete {c : Clause} (h : c.IsCanonical) {rest : List Char}
    (hr : ∀ t, c = .terms [t] → Stops isTermChar rest) :
    readClause (c.text.toList ++ rest) = .ok (c, rest) := by
  match c with
  | .placeholder => rfl
  | .terms [] => exact absurd rfl h.nonempty
  | .terms [t] =>
    obtain ⟨hread, hafter⟩ :=
      readTerm_complete (h.terms t (List.mem_singleton.mpr rfl)) (hr t rfl)
    have hlen := length_text_toList t
    -- a lone term is no shorter than the placeholder, so it would have to begin with it
    have hp : ¬ Clause.placeholderText.toList <+: t.text.toList ++ rest := fun hp =>
      h.lone t rfl (List.prefix_of_prefix_length_le hp (List.prefix_append _ _)
        (Nat.le_trans (by decide) hlen))
    have hc : (t.text.toList ++ rest).head? ≠ some '(' := by
      cases htext : t.text.toList with
      | nil => simp [htext] at hlen
      | cons c cs =>
        have hchars := (h.terms t (List.mem_singleton.mpr rfl)).chars c (by simp [htext])
        rintro hc
        simp only [List.cons_append, List.head?_cons, Option.some.injEq] at hc
        simp [hc] at hchars
    rw [show (Clause.terms [t]).text = t.text from rfl, readClause_of_term hp hc hread, hafter]
  | .terms (t :: u :: ts) =>
    rw [text_toList_terms, List.cons_append, List.append_assoc, List.append_assoc]
    exact readParenthesized_complete h rest

/-! ### Expressions -/

/-- Further clauses as they are written behind the first. -/
def furtherClauses (cs : List Clause) : List Char :=
  cs.flatMap fun c => separator.toList ++ c.text.toList

theorem furtherClauses_cons (c : Clause) (cs : List Clause) :
    furtherClauses (c :: cs) = ' ' :: '|' :: ' ' :: (c.text.toList ++ furtherClauses cs) := rfl

theorem stops_furtherClauses (cs : List Clause) : Stops isTermChar (furtherClauses cs) := by
  cases cs with
  | nil => exact Stops.nil
  | cons c cs => exact (Stops.cons_iff ..).mpr rfl

theorem readClauses_sound {cs : List Char} {clauses : List Clause}
    (h : readClauses cs = .ok clauses) :
    (∀ c ∈ clauses, c.IsCanonical) ∧ cs = furtherClauses clauses := by
  fun_induction readClauses cs generalizing clauses with
  | case1 =>
    cases h
    exact ⟨by simp, rfl⟩
  | case2 => cases h
  | case3 => cases h
  | case4 cs c rest hc clauses' hcs ih =>
    cases h
    obtain ⟨hcanon, htext⟩ := readClause_sound hc
    obtain ⟨hall, hrest⟩ := ih hcs
    refine ⟨List.forall_mem_cons.mpr ⟨hcanon, hall⟩, ?_⟩
    rw [furtherClauses_cons, htext, ← hrest]
  | case5 => cases h

theorem readClauses_nil : readClauses [] = .ok [] := by rw [readClauses.eq_def]

theorem readClauses_complete {clauses : List Clause} (h : ∀ c ∈ clauses, c.IsCanonical) :
    readClauses (furtherClauses clauses) = .ok clauses := by
  induction clauses with
  | nil => exact readClauses_nil
  | cons c cs ih =>
    obtain ⟨hc, hcs⟩ := List.forall_mem_cons.mp h
    have hread := readClause_complete hc fun _ _ => stops_furtherClauses cs
    rw [furtherClauses_cons, readClauses]
    split
    · rename_i h
      rw [hread] at h
      cases h
    · rename_i h
      rw [hread] at h
      cases h
      rw [ih hcs]

theorem text_toList_cons (c : Clause) (cs : List Clause) :
    (Expression.mk (c :: cs)).text.toList = c.text.toList ++ furtherClauses cs := by
  simp [Expression.text, toList_joinWith_cons, furtherClauses, List.flatMap_map]

theorem readAll_eq_ok_iff {cs : List Char} {clauses : List Clause} :
    readAll cs = .ok clauses ↔
      (Expression.mk clauses).IsCanonical ∧ (Expression.mk clauses).text.toList = cs := by
  constructor
  · intro h
    unfold readAll at h
    split at h
    · cases h
    · rename_i c rest hc
      obtain ⟨hcanon, htext⟩ := readClause_sound hc
      split at h
      · cases h
      · rename_i clauses' hcs
        cases h
        obtain ⟨hall, hrest⟩ := readClauses_sound hcs
        refine ⟨⟨by simp, List.forall_mem_cons.mpr ⟨hcanon, hall⟩⟩, ?_⟩
        rw [text_toList_cons, htext, hrest]
  · rintro ⟨hcanon, rfl⟩
    cases clauses with
    | nil => exact absurd rfl hcanon.nonempty
    | cons c cs =>
      obtain ⟨hc, hcs⟩ := List.forall_mem_cons.mp hcanon.clauses
      have hread := readClause_complete hc fun _ _ => stops_furtherClauses cs
      simp [readAll, text_toList_cons, hread, readClauses_complete hcs]

theorem parse_eq_ok_iff_readAll {s : String} {e : Expression} :
    parse s = .ok e ↔ readAll s.toList = .ok e.clauses := by
  unfold parse
  cases h : readAll s.toList with
  | ok clauses =>
    obtain ⟨clauses'⟩ := e
    simp
  | error stop => simp

/-- A canonical expression is read back from its text. -/
theorem parse_text {e : Expression} (h : e.IsCanonical) : parse e.text = .ok e :=
  parse_eq_ok_iff_readAll.mpr (readAll_eq_ok_iff.mpr ⟨h, rfl⟩)

/-- **Reading is the inverse of writing.** A text is accepted exactly if it is the text
of a canonical expression, and then it is read as that expression and no other. -/
theorem parse_eq_ok_iff (s : String) (e : Expression) :
    parse s = .ok e ↔ e.IsCanonical ∧ e.text = s := by
  rw [parse_eq_ok_iff_readAll, readAll_eq_ok_iff, String.toList_inj]

end Expression
end IndicatorStrategy
