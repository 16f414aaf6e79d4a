import IndicatorStrategy.Proofs.Expression.Located
/-!
# IndicatorStrategy.Proofs.Expression.ParseError

**Where a text is refused.** `Expression.parse_error_located`: the position of an error
lies between two characters of the text; unless a lone term in parentheses was refused,
what stands in front of it can be completed to an expression; and no expression agrees
with the text for more than two bytes behind it, which is what a separator may take
before it shows that it is none.
-/

namespace IndicatorStrategy
namespace Expression

/-! ### Clauses -/

/-- What starts neither with a placeholder nor with a parenthesis is read as a term. -/
theorem readClause_eq_termAndRest {cs : List Char}
    (hp : ¬ Clause.placeholderText.toList <+: cs) (hc : ¬ ['('] <+: cs) :
    readClause cs = (termAndRest cs).map fun r => (.terms [r.1], r.2) := by
  unfold readClause termAndRest
  split
  · exact absurd ⟨_, rfl⟩ hp
  · exact absurd ⟨_, rfl⟩ hc
  · cases readTerm _ <;> rfl

theorem readClause_eq_error {cs : List Char} {stop : Stop} (h : readClause cs = .error stop) :
    (∃ cs', cs = '(' :: cs' ∧ readParenthesized cs' = .error stop) ∨
      ¬ Clause.placeholderText.toList <+: cs ∧ ¬ ['('] <+: cs ∧ readTerm cs = .error stop := by
  unfold readClause at h
  split at h
  · cases h
  · exact .inl ⟨_, rfl, h⟩
  · rename_i cs hp hc
    refine .inr ⟨?_, ?_, ?_⟩
    · rintro ⟨ds, hds⟩
      exact hp ds hds.symm
    · rintro ⟨ds, hds⟩
      exact hc ds hds.symm
    · split at h
      · rename_i hterm
        cases h
        exact hterm
      · cases h

theorem lt_of_mem_placeholderText : ∀ a ∈ Clause.placeholderText.toList, a.toNat < 128 := by
  simp [Clause.placeholderText]

/-- What is not in front of a text is not in front of one that goes on behind `used` with
a character that it does not have. -/
theorem not_isPrefix_of_notMem {word used rest : List Char} {c : Char} (hc : c ∉ word)
    (h : ¬ word <+: used ++ rest) (cs : List Char) : ¬ word <+: used ++ c :: cs :=
  fun hp => h ((isPrefix_of_isPrefix_append hc hp).trans (List.prefix_append _ _))

theorem located_readClause {cs : List Char} {stop : Stop} (h : readClause cs = .error stop) :
    ∃ used more, cs = used ++ stop.rest ∧
      Located readClause (Stops isTermChar) used more stop := by
  rcases readClause_eq_error h with ⟨cs', rfl, hclause⟩ | ⟨hplace, hparen, hterm⟩
  · obtain ⟨used, more, rfl, hlocated⟩ := located_readParenthesized hclause
    exact ⟨'(' :: used, more, rfl, hlocated.behind ['('] (fun _ _ => trivial)
      (fun _ c _ hread => ⟨c, hread⟩) (fun _ _ r hread => ⟨r, hread⟩)⟩
  · obtain ⟨used, c, more, rfl, hlocated, hscore, hopen⟩ := located_readTerm hterm
    refine ⟨used, c :: more, rfl, hlocated.behind [] (fun _ hrest => hrest)
      (fun rest t _ hread => ⟨.terms [t], ?_⟩) (fun other hshares r hread => ?_)⟩
    · have hplace' := not_isPrefix_of_notMem (by simpa [Clause.placeholderText] using hscore)
        hplace (more ++ rest)
      have hparen' := not_isPrefix_of_notMem (by simpa using hopen) hparen (more ++ rest)
      rw [List.cons_append] at hread ⊢
      rw [List.nil_append, readClause_eq_termAndRest hplace' hparen', hread]
      rfl
    · have hplace' : ¬ Clause.placeholderText.toList <+: used ++ other := fun hp =>
        hplace (hshares.symm.isPrefix used lt_of_mem_placeholderText (by decide) hp)
      have hparen' : ¬ ['('] <+: used ++ other := fun hp =>
        hparen (hshares.symm.isPrefix used (by simp) (by simp) hp)
      rw [List.nil_append, readClause_eq_termAndRest hplace' hparen'] at hread
      cases hterm : termAndRest (used ++ other) with
      | error stop => simp [hterm, Except.map] at hread
      | ok r => exact ⟨r, rfl⟩

/-- A lone term ends where the text cannot go on with it. -/
theorem stops_of_readClause {cs rest : List Char} {t : Term}
    (h : readClause cs = .ok (.terms [t], rest)) : Stops isTermChar rest := by
  unfold readClause at h
  split at h
  · cases h
  · obtain ⟨u, v, us, cs', -, -, hclause⟩ := readParenthesized_eq_ok_iff.mp h
    cases hclause
  · split at h
    · cases h
    · cases h
      exact Stops.dropWhile _

/-! ### Expressions -/

/-- A reader that goes up to the end of the text. -/
def toEnd (read : List Char → Except Stop (List Clause)) (cs : List Char) :
    Except Stop (List Clause × List Char) :=
  (read cs).map fun clauses => (clauses, [])

theorem toEnd_eq_ok {read : List Char → Except Stop (List Clause)} {cs : List Char}
    {r : List Clause × List Char} :
    toEnd read cs = .ok r ↔ read cs = .ok r.1 ∧ r.2 = [] := by
  unfold toEnd
  cases read cs <;> simp [Except.map, Prod.ext_iff, eq_comm]

theorem readAll_eq_ok {cs : List Char} {clauses : List Clause} :
    readAll cs = .ok clauses ↔ ∃ c rest cs', readClause cs = .ok (c, rest) ∧
      readClauses rest = .ok cs' ∧ clauses = c :: cs' := by
  unfold readAll
  cases hclause : readClause cs with
  | error stop => simp
  | ok r =>
    obtain ⟨c, rest⟩ := r
    cases hclauses : readClauses rest with
    | error stop => simp [hclauses]
    | ok cs' => simp [hclauses, eq_comm]

/-- Behind a separator comes a whole expression. -/
theorem readClauses_separator (cs : List Char) :
    readClauses (separator.toList ++ cs) = readAll cs := by
  rw [show separator.toList ++ cs = ' ' :: '|' :: ' ' :: cs from rfl, readClauses, readAll]
  split <;> rename_i hclause <;> rw [hclause]

theorem readClauses_of_not_isPrefix {cs : List Char} (hne : cs ≠ [])
    (h : ¬ separator.toList <+: cs) : readClauses cs = .error ⟨.trailing cs.head?, cs⟩ := by
  rw [readClauses.eq_def]
  split
  · exact absurd rfl hne
  · exact absurd ⟨_, rfl⟩ h
  · rfl

/-- What a reader of clauses does with a text that it refuses. -/
def LocatedAtEnd (read : List Char → Except Stop (List Clause)) (cs : List Char)
    (stop : Stop) : Prop :=
  ∃ used more, cs = used ++ stop.rest ∧ Located (toEnd read) (· = []) used more stop

/-- A fault in an expression is in its first clause, or in what follows that. -/
theorem locatedAtEnd_readAll_of {cs : List Char} {stop : Stop} (h : readAll cs = .error stop)
    (hrest : ∀ c rest, readClause cs = .ok (c, rest) → readClauses rest = .error stop →
      LocatedAtEnd readClauses rest stop) : LocatedAtEnd readAll cs stop := by
  unfold readAll at h
  split at h
  -- the fault is in the first clause
  · rename_i hclause
    cases h
    obtain ⟨used, more, rfl, hlocated⟩ := located_readClause hclause
    refine ⟨used, more, rfl, hlocated.behind [] (fun rest hnil => hnil ▸ Stops.nil)
      (fun rest c hnil hread => ?_) (fun other _ r hread => ?_)⟩
    · subst hnil
      exact ⟨[c], toEnd_eq_ok.mpr ⟨readAll_eq_ok.mpr ⟨c, [], [], hread, readClauses_nil, rfl⟩, rfl⟩⟩
    · obtain ⟨c, rest, cs', hclause, -⟩ := readAll_eq_ok.mp (toEnd_eq_ok.mp hread).1
      exact ⟨_, hclause⟩
  · rename_i c rest hclause
    split at h
    · rename_i hclauses
      cases h
      obtain ⟨hcanon, rfl⟩ := readClause_sound hclause
      obtain ⟨used, more, rfl, hlocated⟩ := hrest c rest hclause hclauses
      refine ⟨c.text.toList ++ used, more, by rw [List.append_assoc],
        hlocated.behind c.text.toList (fun rest hnil => hnil) (fun rest clauses hnil hread => ?_)
          (fun other hshares r hread => ?_)⟩
      · subst hnil
        obtain ⟨hread, -⟩ := toEnd_eq_ok.mp hread
        have hstops : Stops isTermChar (used ++ (more ++ [])) :=
          (readClauses_sound hread).2 ▸ stops_furtherClauses _
        exact ⟨c :: clauses, toEnd_eq_ok.mpr ⟨readAll_eq_ok.mpr
          ⟨c, _, _, readClause_complete hcanon fun _ _ => hstops, hread, rfl⟩, rfl⟩⟩
      -- the first clause ends within the bytes that are shared, so it is read again
      · have hagain : readClause (c.text.toList ++ (used ++ other)) = .ok (c, used ++ other) := by
          refine readClause_complete hcanon fun t ht => stops_of_sharesBytes used hshares ?_
          subst ht
          exact stops_of_readClause hclause
        obtain ⟨c', rest', cs', hclause', hclauses', -⟩ :=
          readAll_eq_ok.mp (toEnd_eq_ok.mp hread).1
        rw [hagain] at hclause'
        cases hclause'
        exact ⟨(cs', []), toEnd_eq_ok.mpr ⟨hclauses', rfl⟩⟩
    · cases h

theorem LocatedAtEnd.separator {cs : List Char} {stop : Stop}
    (h : LocatedAtEnd readAll cs stop) :
    LocatedAtEnd readClauses (separator.toList ++ cs) stop := by
  obtain ⟨used, more, rfl, hlocated⟩ := h
  have hread (other : List Char) : toEnd readClauses (Expression.separator.toList ++ other)
      = toEnd readAll other := by
    rw [toEnd, readClauses_separator, toEnd]
  refine ⟨Expression.separator.toList ++ used, more, by rw [List.append_assoc],
    hlocated.behind Expression.separator.toList (fun rest hnil => hnil)
      (fun rest clauses _ h => ⟨clauses, ?_⟩) (fun other _ r h => ⟨r, ?_⟩)⟩
  · rw [hread, h]
  · rw [← hread, h]

/-- The text stops where neither the end nor a separator comes. -/
theorem locatedAtEnd_trailing {cs : List Char}
    (hsep : ¬ separator.toList <+: cs) :
    LocatedAtEnd readClauses cs ⟨.trailing cs.head?, cs⟩ := by
  refine ⟨[], [], rfl, fun _ rest hnil => ?_, fun other hshares r hread => ?_⟩
  · subst hnil
    exact ⟨[], toEnd_eq_ok.mpr ⟨readClauses_nil, rfl⟩⟩
  · have hother : ¬ separator.toList <+: other := fun hp =>
      hsep (hshares.symm.isPrefix [] (by simp [separator]) (by decide) hp)
    have herror := readClauses_of_not_isPrefix hshares.symm.ne_nil hother
    rw [List.nil_append, toEnd_eq_ok, herror] at hread
    cases hread.1

theorem locatedAtEnd_readClauses {cs : List Char} {stop : Stop}
    (h : readClauses cs = .error stop) : LocatedAtEnd readClauses cs stop := by
  -- what follows a separator is read like a whole expression, so the cases are those of `readAll`
  fun_induction readClauses cs generalizing stop with
  | case1 => cases h
  | case2 cs stop' hclause =>
    cases h
    refine (locatedAtEnd_readAll_of (by simp [readAll, hclause]) fun c rest hok => ?_).separator
    rw [hclause] at hok
    cases hok
  | case3 cs c rest hclause stop' hclauses ih =>
    cases h
    refine (locatedAtEnd_readAll_of (by simp [readAll, hclause, hclauses])
      fun c' rest' hok herror => ?_).separator
    rw [hclause] at hok
    cases hok
    exact ih herror
  | case4 => cases h
  | case5 cs hne hsep =>
    cases h
    refine locatedAtEnd_trailing ?_
    rintro ⟨ds, hds⟩
    exact hsep ds hds.symm

theorem locatedAtEnd_readAll {cs : List Char} {stop : Stop} (h : readAll cs = .error stop) :
    LocatedAtEnd readAll cs stop :=
  locatedAtEnd_readAll_of h fun _ _ _ => locatedAtEnd_readClauses

/-! ### Positions -/

theorem utf8ByteSize_eq (s : String) : s.utf8ByteSize = byteLength s.toList := by
  rw [← length_bytes, ← toUTF8_eq_bytes]
  rfl

theorem parse_eq_error {s : String} {e : ExpressionError} (h : parse s = .error e) :
    ∃ stop, readAll s.toList = .error stop ∧ e.fault = stop.fault ∧
      e.position = byteLength s.toList - byteLength stop.rest := by
  unfold parse at h
  cases hread : readAll s.toList with
  | ok clauses => simp [hread] at h
  | error stop =>
    simp only [hread, Except.error.injEq] at h
    subst h
    exact ⟨stop, rfl, rfl, rfl⟩

/-- **Errors are located.** The position of an error splits the text between two of its
characters. What stands in front of it begins an expression, unless the error is a lone
term in parentheses. No expression begins with the bytes of the text up to its position
and with the three that follow. -/
theorem parse_error_located {s : String} {e : ExpressionError} (h : parse s = .error e) :
    (∃ front back : String, s = front ++ back ∧ front.utf8ByteSize = e.position ∧
      (e.fault ≠ .loneTerm → ∃ more x, parse (front ++ more) = .ok x)) ∧
    ∀ t x, parse t = .ok x → ∀ common : List UInt8,
      common <+: s.toUTF8.data.toList → common <+: t.toUTF8.data.toList →
        common.length ≤ e.position + 2 := by
  obtain ⟨stop, hread, hfault, hposition⟩ := parse_eq_error h
  obtain ⟨used, more, hs, hlocated⟩ := locatedAtEnd_readAll hread
  have hused : e.position = byteLength used := by
    rw [hposition, hs, byteLength_append]
    omega
  constructor
  · refine ⟨String.ofList used, String.ofList stop.rest, ?_, ?_, fun hlone => ?_⟩
    · rw [← String.ofList_append, ← hs, String.ofList_toList]
    · rw [utf8ByteSize_eq, String.toList_ofList, hused]
    · obtain ⟨clauses, hok⟩ := hlocated.viable (hfault ▸ hlone) [] rfl
      refine ⟨String.ofList more, ⟨clauses⟩, parse_eq_ok_iff_readAll.mpr ?_⟩
      rw [← String.ofList_append, String.toList_ofList]
      rw [List.append_nil] at hok
      exact (toEnd_eq_ok.mp hok).1
  · intro t x hx common hcs hct
    -- with three bytes behind the position in common, the other text is refused as well
    by_contra hlong
    rw [toUTF8_eq_bytes] at hcs hct
    have hshares : SharesBytes (byteLength used + 3) (used ++ stop.rest) t.toList :=
      SharesBytes.of_isPrefix (hs ▸ hcs) hct (by omega)
    obtain ⟨other, ht, hother⟩ := hshares.of_append
    have hok : toEnd readAll (used ++ other) = .ok (x.clauses, []) :=
      toEnd_eq_ok.mpr ⟨ht ▸ parse_eq_ok_iff_readAll.mp hx, rfl⟩
    exact hlocated.fatal other hother _ hok

/-- An ampersand without the space behind it: the fault is the space in front of it, and
expressions that go on with a further term agree with the text as far as they may. -/
theorem parse_error_located_ampersand :
    parse "(SMA14above &é" = .error ⟨.unclosed (some ' '), 11⟩ ∧
      (∃ front back : String, "(SMA14above &é" = front ++ back ∧ front.utf8ByteSize = 11 ∧
        ∃ more x, parse (front ++ more) = .ok x) ∧
      ∀ t x, parse t = .ok x → ∀ common : List UInt8,
        common <+: "(SMA14above &é".toUTF8.data.toList → common <+: t.toUTF8.data.toList →
          common.length ≤ 13 := by
  have h : parse "(SMA14above &é" = .error ⟨.unclosed (some ' '), 11⟩ := by cbv
  obtain ⟨⟨front, back, hs, hsize, hmore⟩, hshared⟩ := parse_error_located h
  exact ⟨h, ⟨front, back, hs, hsize, hmore (by decide)⟩, hshared⟩

end Expression
end IndicatorStrategy
