import IndicatorStrategy.Proofs.Expression.Grammar
import IndicatorStrategy.Proofs.Text.Bytes
/-!
# IndicatorStrategy.Proofs.Expression.Located

**Faults are found where they are.** Reading stops at a place up to which the text could
still have been completed to an expression (the closing of a lone term apart, which is
only known to be one behind it), and at most the length of a separator behind that place
there is none any more: no expression goes on with the same three bytes.

Every reader of the grammar has this property, which `Located` states for a reader that
leaves the rest of its text. It is carried from one reader to the next: what was read in
front of a fault is read again in front of anything else that ends it.
-/

namespace IndicatorStrategy
namespace Expression

/-- Where a reader stopped, with `used` in front of that place. Unless a lone term stopped
it, `more` completes `used` to what is read, in front of anything that ends it. And what
goes on from `used` with the same three bytes as the text that was left is not read. -/
structure Located {α : Type} (read : List Char → Except Stop (α × List Char))
    (ends : List Char → Prop) (used more : List Char) (stop : Stop) : Prop where
  viable : stop.fault ≠ .loneTerm →
    ∀ rest, ends rest → ∃ a, read (used ++ (more ++ rest)) = .ok (a, rest)
  fatal : ∀ other, SharesBytes 3 stop.rest other → ∀ r, read (used ++ other) ≠ .ok r

/-- A fault stays where it is when its text is read behind `front` and in front of `tail`,
by a reader that goes on from what is read there and fails if nothing is. -/
theorem Located.within {α β : Type} {read : List Char → Except Stop (α × List Char)}
    {read' : List Char → Except Stop (β × List Char)} {ends ends' : List Char → Prop}
    {used more : List Char} {stop : Stop} (h : Located read ends used more stop)
    (front tail : List Char) (hends : ∀ rest, ends' rest → ends (tail ++ rest))
    (hviable : ∀ rest a, ends' rest →
      read (used ++ (more ++ (tail ++ rest))) = .ok (a, tail ++ rest) →
        ∃ b, read' (front ++ (used ++ (more ++ (tail ++ rest)))) = .ok (b, rest))
    (hfatal : ∀ other, SharesBytes 3 stop.rest other → ∀ r,
      read' (front ++ (used ++ other)) = .ok r → ∃ r', read (used ++ other) = .ok r') :
    Located read' ends' (front ++ used) (more ++ tail) stop where
  viable hfault rest hrest := by
    obtain ⟨a, ha⟩ := h.viable hfault (tail ++ rest) (hends rest hrest)
    obtain ⟨b, hb⟩ := hviable rest a hrest ha
    exact ⟨b, by rwa [List.append_assoc, List.append_assoc]⟩
  fatal other hshares r hr := by
    rw [List.append_assoc] at hr
    obtain ⟨r', hr'⟩ := hfatal other hshares r hr
    exact h.fatal other hshares r' hr'

/-- The same with nothing to come behind it. -/
theorem Located.behind {α β : Type} {read : List Char → Except Stop (α × List Char)}
    {read' : List Char → Except Stop (β × List Char)} {ends ends' : List Char → Prop}
    {used more : List Char} {stop : Stop} (h : Located read ends used more stop)
    (front : List Char) (hends : ∀ rest, ends' rest → ends rest)
    (hviable : ∀ rest a, ends' rest → read (used ++ (more ++ rest)) = .ok (a, rest) →
      ∃ b, read' (front ++ (used ++ (more ++ rest))) = .ok (b, rest))
    (hfatal : ∀ other, SharesBytes 3 stop.rest other → ∀ r,
      read' (front ++ (used ++ other)) = .ok r → ∃ r', read (used ++ other) = .ok r') :
    Located read' ends' (front ++ used) more stop := by
  have hwithin := h.within front [] hends hviable hfatal
  rwa [List.append_nil] at hwithin

/-! ### What is shared -/

theorem lt_of_not_isTermChar {c : Char} (h : isTermChar c = false) : c.toNat < 128 := by
  have hmem : c ∈ [' ', '(', ')', '|', '&'] := by
    by_contra hnot
    rw [(isTermChar_iff c).mpr hnot] at h
    cases h
  have hall : ∀ d ∈ [' ', '(', ')', '|', '&'], d.toNat < 128 := by simp
  exact hall c hmem

theorem lt_of_isKeyChar {c : Char} (h : isKeyChar c = true) : c.toNat < 128 := by
  simp only [isKeyChar, Bool.or_eq_true, beq_iff_eq] at h
  rcases h with h | rfl
  · simp only [Char.isUpper, decide_eq_true_eq] at h
    have := UInt32.le_iff_toNat_le.mp h.2
    exact Nat.lt_of_le_of_lt this (by decide)
  · decide

theorem isTermChar_of_isKeyChar {c : Char} (h : isKeyChar c = true) : isTermChar c = true := by
  rw [isTermChar_iff]
  have hall : ∀ d ∈ [' ', '(', ')', '|', '&'], isKeyChar d = false := by simp [isKeyChar]
  intro hmem
  rw [hall c hmem] at h
  cases h

/-- What ends a term still does if it goes on otherwise behind a shared byte. -/
theorem stops_of_sharesBytes {n : Nat} {rest other : List Char} (used : List Char)
    (hshares : SharesBytes (n + 1) rest other) (h : Stops isTermChar (used ++ rest)) :
    Stops isTermChar (used ++ other) := by
  obtain ⟨c, cs, hcs⟩ : ∃ c cs, used ++ rest = c :: cs :=
    List.exists_cons_of_ne_nil (List.append_ne_nil_of_right_ne_nil used hshares.ne_nil)
  rw [hcs, Stops.cons_iff] at h
  have hc : [c] <+: used ++ other :=
    hshares.isPrefix used (by simpa using lt_of_not_isTermChar h) (by simp) ⟨cs, hcs.symm⟩
  obtain ⟨ds, hds⟩ := hc
  rw [← hds, List.singleton_append, Stops.cons_iff]
  exact h

theorem stops_space (cs : List Char) : Stops isTermChar (' ' :: cs) :=
  (Stops.cons_iff ..).mpr rfl

/-! ### Terms -/

/-- The term at the start of a text, and what follows it. -/
def termAndRest (cs : List Char) : Except Stop (Term × List Char) :=
  (readTerm cs).map fun t => (t, afterTerm cs)

theorem termAndRest_eq_ok {cs rest : List Char} {t : Term} :
    termAndRest cs = .ok (t, rest) ↔ readTerm cs = .ok t ∧ afterTerm cs = rest := by
  unfold termAndRest
  cases readTerm cs <;> simp [Except.map]

/-- A canonical term is read again in front of what ends it. -/
theorem termAndRest_text {t : Term} (ht : t.IsCanonical) {rest : List Char}
    (hr : Stops isTermChar rest) : termAndRest (t.text.toList ++ rest) = .ok (t, rest) :=
  termAndRest_eq_ok.mpr (readTerm_complete ht hr)

theorem readTerm_append {term rest : List Char} (ht : ∀ c ∈ term, isTermChar c = true)
    (hr : Stops isTermChar rest) :
    readTerm (term ++ rest) = termOf term rest ∧ afterTerm (term ++ rest) = rest := by
  rw [readTerm, afterTerm, hr.takeWhile_append ht, hr.dropWhile_append ht]
  exact ⟨rfl, rfl⟩

theorem isKeyChar_of_mem_wireKeys {k : String} (hk : k ∈ Catalog.wireKeys) :
    ∀ c ∈ k.toList, isKeyChar c = true := by
  have hall : Catalog.wireKeys.all (fun k => k.toList.all isKeyChar) = true := by decide
  exact List.all_eq_true.mp (List.all_eq_true.mp hall k hk)

/-- A text starts with a key just when it starts with a character of keys. -/
theorem keyOf_ne_nil_iff {term : List Char} :
    keyOf term ≠ [] ↔ ∃ c cs, term = c :: cs ∧ isKeyChar c = true := by
  unfold keyOf
  constructor
  · intro h
    cases hknown : knownKey? term with
    | some key =>
      -- a key of the catalog is not empty, and all its characters are key characters
      obtain ⟨⟨k, hk, rfl⟩, hpre, -⟩ := knownKey?_eq_some hknown
      obtain ⟨c, cs, hcs⟩ := List.exists_cons_of_ne_nil (toList_wireKey_ne_nil k hk)
      obtain ⟨rest, rfl⟩ := hpre
      exact ⟨c, cs ++ rest, by rw [hcs, List.cons_append],
        isKeyChar_of_mem_wireKeys hk c (hcs ▸ List.mem_cons_self ..)⟩
    | none =>
      rw [hknown, Option.getD_none] at h
      cases term with
      | nil => exact absurd rfl h
      | cons c cs =>
        refine ⟨c, cs, rfl, by_contra fun hc => h ?_⟩
        rw [List.takeWhile_cons_of_neg hc]
  · rintro ⟨c, cs, rfl, hc⟩
    cases hknown : knownKey? (c :: cs) with
    | some key =>
      obtain ⟨⟨k, hk, rfl⟩, -⟩ := knownKey?_eq_some hknown
      exact toList_wireKey_ne_nil k hk
    | none => simp [List.takeWhile_cons_of_pos hc]

/-- Whether a text starts with a key shows in its first character. -/
theorem keyOf_takeWhile_ne_nil_iff {cs : List Char} :
    keyOf (cs.takeWhile isTermChar) ≠ [] ↔ ∃ c, isKeyChar c = true ∧ [c] <+: cs := by
  rw [keyOf_ne_nil_iff]
  constructor
  · rintro ⟨c, ds, hds, hc⟩
    refine ⟨c, hc, List.IsPrefix.trans ⟨ds, ?_⟩ (List.takeWhile_prefix isTermChar)⟩
    rw [hds, List.singleton_append]
  · rintro ⟨c, hc, ds, rfl⟩
    exact ⟨c, _, List.takeWhile_cons_of_pos (isTermChar_of_isKeyChar hc), hc⟩

/-- What stops a term: it has no key, and then the fault is in front of it, or it has no
trend, and then the fault is behind it. -/
theorem termOf_eq_error {term rest : List Char} {stop : Stop}
    (h : termOf term rest = .error stop) :
    keyOf term = [] ∧ stop.rest = term ++ rest ∨
      keyOf term ≠ [] ∧ endingOf? (term.drop (keyOf term).length) = none ∧ stop.rest = rest := by
  unfold termOf at h
  split at h
  -- no character at all is no key either
  · rename_i hnil
    cases h
    rw [List.isEmpty_iff.mp hnil]
    exact .inl ⟨List.prefix_nil.mp (keyOf_isPrefix []), rfl⟩
  · simp only at h
    split at h
    · rename_i hkey
      cases h
      exact .inl ⟨List.isEmpty_iff.mp hkey, rfl⟩
    · rename_i hkey
      split at h
      · rename_i htrend
        cases h
        exact .inr ⟨by simpa using hkey, htrend, rfl⟩
      · cases h

theorem exists_termOf {term : List Char} {trend : Trend} (hkey : keyOf term ≠ [])
    (htrend : endingOf? (term.drop (keyOf term).length) = some trend) (rest : List Char) :
    ∃ t, termOf term rest = .ok t := by
  have hterm : term ≠ [] := by
    rintro rfl
    exact hkey (List.prefix_nil.mp (keyOf_isPrefix []))
  rw [termOf, if_neg (by simpa using hterm)]
  simp only
  rw [if_neg (by simpa using hkey), htrend]
  exact ⟨_, rfl⟩

theorem isPrefix_of_isPrefix_append {k term cs : List Char} {c : Char} (hc : c ∉ k)
    (h : k <+: term ++ c :: cs) : k <+: term := by
  rcases Nat.lt_or_ge term.length k.length with hlt | hge
  · have hlong : term ++ [c] <+: k :=
      List.prefix_of_prefix_length_le ⟨cs, by simp⟩ h (by simpa using hlt)
    exact absurd (hlong.subset (by simp)) hc
  · exact List.prefix_of_prefix_length_le h (List.prefix_append _ _) hge

/-- A character that is not of keys ends the key. -/
theorem keyOf_append {term cs : List Char} {c : Char} (hc : isKeyChar c = false)
    (hkey : keyOf term ≠ []) : keyOf (term ++ c :: cs) = keyOf term := by
  have hnot : ∀ k ∈ Catalog.wireKeys, k.toList <+: term ++ c :: cs → k.toList <+: term := by
    intro k hk
    refine isPrefix_of_isPrefix_append fun hmem => ?_
    rw [isKeyChar_of_mem_wireKeys hk c hmem] at hc
    cases hc
  symm
  refine (isKeyOf_iff.mp ?_).1
  rcases isKeyOf_iff.mpr ⟨rfl, hkey⟩ with ⟨hmem, hpre, hmax⟩ | ⟨hnone, hrun, hne⟩
  · exact .inl ⟨hmem, hpre.trans (List.prefix_append _ _), fun k hk hp => hmax k hk (hnot k hk hp)⟩
  · refine .inr ⟨fun k hk hp => hnone k hk (hnot k hk hp), ?_, hne⟩
    rw [hrun, List.takeWhile_append, List.takeWhile_cons_of_neg (by simp [hc]), List.append_nil]
    split
    · exact (List.takeWhile_prefix _).eq_of_length ‹_›
    · rfl

/-- A text that has a key has a trend as soon as one is written behind it. -/
theorem exists_termOf_append {term : List Char} (hkey : keyOf term ≠ []) (rest : List Char) :
    ∃ t, termOf (term ++ Trend.above.wire.toList) rest = .ok t := by
  have hkey' : keyOf (term ++ Trend.above.wire.toList) = keyOf term := keyOf_append rfl hkey
  have hlen := (keyOf_isPrefix term).length_le
  have hsome : (endingOf? ((term ++ Trend.above.wire.toList).drop (keyOf term).length)).isSome := by
    rw [List.drop_append_of_le_length hlen, endingOf?, List.find?_isSome]
    exact ⟨.above, by simp [endings], by simp⟩
  obtain ⟨trend, htrend⟩ := Option.isSome_iff_exists.mp hsome
  exact exists_termOf (by rwa [hkey']) (by rwa [hkey']) rest

/-- A term that completes whatever ends where a term may start. -/
def sampleTerm : Term := ⟨"SMA", "", .above⟩

theorem isCanonical_sampleTerm : sampleTerm.IsCanonical :=
  (readTerm_sound (show readTerm sampleTerm.text.toList = .ok sampleTerm from rfl)).1

theorem located_readTerm {cs : List Char} {stop : Stop} (h : readTerm cs = .error stop) :
    ∃ used c more, cs = used ++ stop.rest ∧
      Located termAndRest (Stops isTermChar) used (c :: more) stop ∧ c ≠ '_' ∧ c ≠ '(' := by
  have hcs : cs.takeWhile isTermChar ++ afterTerm cs = cs := List.takeWhile_append_dropWhile
  rcases termOf_eq_error h with ⟨hkey, hrest⟩ | ⟨hkey, htrend, hrest⟩
  · rw [hcs] at hrest
    refine ⟨[], 'S', "MAabove".toList, hrest.symm, ⟨fun _ rest hr => ?_, ?_⟩, by decide,
      by decide⟩
    · exact ⟨_, termAndRest_text isCanonical_sampleTerm hr⟩
    · -- what is read starts with a character of keys, and then so did this text
      rintro other hshares ⟨t, rest⟩ hread
      have hkey' := (isKeyOf_iff.mp (termOf_eq_ok_iff.mp (termAndRest_eq_ok.mp hread).1).2.1).2
      obtain ⟨c, hc, hp⟩ := keyOf_takeWhile_ne_nil_iff.mp hkey'
      have hp' : [c] <+: [] ++ stop.rest :=
        hshares.symm.isPrefix [] (by simpa using lt_of_isKeyChar hc) (by simp) hp
      rw [List.nil_append, hrest] at hp'
      exact keyOf_takeWhile_ne_nil_iff.mpr ⟨c, hc, hp'⟩ hkey
  · have hchars : ∀ c ∈ cs.takeWhile isTermChar, isTermChar c = true :=
      List.all_eq_true.mp List.all_takeWhile
    have hstops : Stops isTermChar stop.rest := hrest ▸ Stops.dropWhile cs
    refine ⟨cs.takeWhile isTermChar, 'a', "bove".toList, by rw [hrest, hcs],
      ⟨fun _ rest hr => ?_, ?_⟩, by decide, by decide⟩
    · obtain ⟨t, ht⟩ := exists_termOf_append hkey rest
      have habove : ∀ c ∈ Trend.above.wire.toList, isTermChar c = true :=
        List.all_eq_true.mp (by decide)
      have hread := readTerm_append (List.forall_mem_append.mpr ⟨hchars, habove⟩) hr
      rw [List.append_assoc, ht] at hread
      exact ⟨t, termAndRest_eq_ok.mpr hread⟩
    · -- the term ends where it did, so it is the same and has no trend
      rintro other hshares ⟨t, rest⟩ hread
      have hother : Stops isTermChar other := stops_of_sharesBytes [] hshares hstops
      obtain ⟨hterm, -⟩ := termAndRest_eq_ok.mp hread
      rw [(readTerm_append hchars hother).1] at hterm
      obtain ⟨-, hkey', htrend'⟩ := termOf_eq_ok_iff.mp hterm
      rw [(isKeyOf_iff.mp hkey').1, ← endingOf?_eq_some_iff, htrend] at htrend'
      cases htrend'

/-! ### Further terms -/

theorem readTerms_separator_eq_ok_iff {cs rest : List Char} {ts : List Term} :
    readTerms (Clause.separator.toList ++ cs) = .ok (ts, rest) ↔
      ∃ t us cs', termAndRest cs = .ok (t, cs') ∧ readTerms cs' = .ok (us, rest) ∧
        ts = t :: us := by
  rw [show Clause.separator.toList ++ cs = ' ' :: '&' :: ' ' :: cs from rfl, readTerms]
  simp only [termAndRest_eq_ok]
  cases hterm : readTerm cs with
  | error stop => simp
  | ok t =>
    cases hterms : readTerms (afterTerm cs) with
    | error stop => simp [hterms]
    | ok r =>
      obtain ⟨us, cs'⟩ := r
      simp [hterms, eq_comm, and_comm]

/-- No further term comes where reading them ends. -/
theorem not_isPrefix_of_readTerms {cs rest : List Char} {ts : List Term}
    (h : readTerms cs = .ok (ts, rest)) : ¬ Clause.separator.toList <+: rest := by
  fun_induction readTerms cs generalizing ts rest with
  | case1 => cases h
  | case2 => cases h
  | case3 cs t ht ts' rest' hts ih =>
    cases h
    exact ih hts
  | case4 cs hcs =>
    cases h
    rintro ⟨ds, rfl⟩
    exact hcs ds rfl

theorem stops_of_readTerms {cs rest : List Char} {ts : List Term}
    (h : readTerms cs = .ok (ts, rest)) (hcs : Stops isTermChar cs) :
    Stops isTermChar rest := by
  fun_induction readTerms cs generalizing ts rest with
  | case1 => cases h
  | case2 => cases h
  | case3 cs t ht ts' rest' hts ih =>
    cases h
    exact ih hts (Stops.dropWhile cs)
  | case4 cs =>
    cases h
    exact hcs

/-- The text up to the fault starts with a space, so at least one term was begun. -/
theorem located_readTerms {cs : List Char} {stop : Stop} (h : readTerms cs = .error stop) :
    ∃ used more, cs = ' ' :: used ++ stop.rest ∧
      Located readTerms Closes (' ' :: used) more stop := by
  fun_induction readTerms cs generalizing stop with
  | case1 cs stop' hterm =>
    cases h
    obtain ⟨used, c, more, hcs, hlocated, -⟩ := located_readTerm hterm
    refine ⟨'&' :: ' ' :: used, c :: more, by rw [hcs]; rfl,
      hlocated.behind Clause.separator.toList (fun rest hrest => hrest.stops) ?_ ?_⟩
    · intro rest t hrest hread
      exact ⟨[t], readTerms_separator_eq_ok_iff.mpr
        ⟨t, [], rest, hread, readTerms_of_not_isPrefix hrest.not_isPrefix, rfl⟩⟩
    · rintro other - r hread
      obtain ⟨t, us, cs', hterm, -⟩ := readTerms_separator_eq_ok_iff.mp hread
      exact ⟨_, hterm⟩
  | case2 cs t hterm stop' hterms ih =>
    cases h
    obtain ⟨used, more, hafter, hlocated⟩ := ih hterms
    obtain ⟨hcanon, hcs⟩ := readTerm_sound hterm
    -- the term in front of the fault is read again, as a space follows it
    have hread (other : List Char) :
        termAndRest (t.text.toList ++ (' ' :: used ++ other)) = .ok (t, ' ' :: used ++ other) :=
      termAndRest_text hcanon (stops_space _)
    refine ⟨'&' :: ' ' :: (t.text.toList ++ ' ' :: used), more, ?_,
      hlocated.behind (Clause.separator.toList ++ t.text.toList) (fun rest hrest => hrest) ?_ ?_⟩
    · rw [hcs, hafter]
      simp
    · intro rest ts hrest hts
      rw [List.append_assoc]
      exact ⟨t :: ts, readTerms_separator_eq_ok_iff.mpr ⟨t, ts, _, hread _, hts, rfl⟩⟩
    · rintro other - r hr
      rw [List.append_assoc] at hr
      obtain ⟨t', us, cs', hterm', hterms', -⟩ := readTerms_separator_eq_ok_iff.mp hr
      rw [hread] at hterm'
      cases hterm'
      exact ⟨_, hterms'⟩
  | case3 => cases h
  | case4 => cases h

/-! ### Parenthesized clauses -/

theorem readParenthesized_eq_ok_iff {cs rest : List Char} {c : Clause} :
    readParenthesized cs = .ok (c, rest) ↔
      ∃ t u us cs', termAndRest cs = .ok (t, cs') ∧ readTerms cs' = .ok (u :: us, ')' :: rest) ∧
        c = .terms (t :: u :: us) := by
  simp only [termAndRest_eq_ok]
  constructor
  · intro h
    unfold readParenthesized at h
    split at h
    · cases h
    · rename_i t ht
      split at h
      · cases h
      · rename_i ts rest' hts
        cases ts with
        | nil => cases h
        | cons u us =>
          cases h
          exact ⟨t, u, us, _, ⟨ht, rfl⟩, hts, rfl⟩
      · cases h
  · rintro ⟨t, u, us, -, ⟨ht, rfl⟩, hts, rfl⟩
    simp [readParenthesized, ht, hts]

/-- The four ways in which a parenthesized clause can fail. -/
theorem readParenthesized_eq_error {cs : List Char} {stop : Stop}
    (h : readParenthesized cs = .error stop) :
    readTerm cs = .error stop ∨
      ∃ t, readTerm cs = .ok t ∧
        (readTerms (afterTerm cs) = .error stop ∨
          (readTerms (afterTerm cs) = .ok ([], ')' :: stop.rest) ∧ stop.fault = .loneTerm) ∨
          ∃ ts, readTerms (afterTerm cs) = .ok (ts, stop.rest) ∧ ¬ Closes stop.rest) := by
  unfold readParenthesized at h
  split at h
  · rename_i stop' hterm
    cases h
    exact .inl hterm
  · rename_i t hterm
    refine .inr ⟨t, hterm, ?_⟩
    split at h
    · rename_i stop' hterms
      cases h
      exact .inl hterms
    · rename_i ts rest hterms
      cases ts with
      | nil =>
        cases h
        exact .inr (.inl ⟨hterms, rfl⟩)
      | cons u us => cases h
    · rename_i ts rest hnot hterms
      cases h
      refine .inr (.inr ⟨ts, hterms, ?_⟩)
      rintro ⟨ds, hds⟩
      exact hnot ds hds

theorem lt_of_mem_separator : ∀ a ∈ Clause.separator.toList, a.toNat < 128 := by
  simp [Clause.separator]

section Parenthesized

variable {t : Term} {ts : List Term} {stop : Stop}

/-- A fault in the first term. -/
theorem Located.parenthesized_first {used more : List Char}
    (h : Located termAndRest (Stops isTermChar) used more stop) :
    Located readParenthesized (fun _ => True) used
      (more ++ (furtherTerms [sampleTerm] ++ [')'])) stop := by
  refine h.within [] _ (fun rest _ => stops_space _) (fun rest t _ hread => ?_)
    (fun other _ r hread => ?_)
  · rw [List.append_assoc (furtherTerms _)] at hread ⊢
    exact ⟨_, readParenthesized_eq_ok_iff.mpr ⟨t, sampleTerm, [], _, hread,
      readTerms_complete (by simpa using isCanonical_sampleTerm) (closes_cons rest).stops
        (closes_cons rest).not_isPrefix, rfl⟩⟩
  · obtain ⟨t, u, us, cs', hterm, -⟩ := readParenthesized_eq_ok_iff.mp hread
    exact ⟨_, hterm⟩

/-- A fault in a further term. -/
theorem Located.parenthesized_further (ht : t.IsCanonical) {used more : List Char}
    (h : Located readTerms Closes (' ' :: used) more stop) :
    Located readParenthesized (fun _ => True) (t.text.toList ++ ' ' :: used) (more ++ [')'])
      stop := by
  refine h.within t.text.toList [')'] (fun rest _ => closes_cons rest)
    (fun rest ts _ hts => ?_) (fun other _ r hr => ?_)
  · -- at least one further term was begun
    cases ts with
    | nil => cases (readTerms_sound hts).2
    | cons u us =>
      exact ⟨_, readParenthesized_eq_ok_iff.mpr
        ⟨t, u, us, _, termAndRest_text ht (stops_space _), hts, rfl⟩⟩
  · obtain ⟨t', u, us, cs', hterm, hterms, -⟩ := readParenthesized_eq_ok_iff.mp hr
    rw [List.cons_append, termAndRest_text ht (stops_space _)] at hterm
    cases hterm
    exact ⟨_, hterms⟩

/-- The parenthesis that closes behind a single term. -/
theorem located_loneTerm (ht : t.IsCanonical) (hfault : stop.fault = .loneTerm) :
    Located readParenthesized (fun _ => True) (t.text.toList ++ [')']) [] stop where
  viable hnot := absurd hfault hnot
  fatal other _ r hr := by
    rw [List.append_assoc] at hr
    obtain ⟨t', u, us, cs', hterm, hterms, -⟩ := readParenthesized_eq_ok_iff.mp hr
    rw [List.singleton_append, termAndRest_text ht (closes_cons other).stops] at hterm
    cases hterm
    rw [readTerms_of_not_isPrefix (closes_cons other).not_isPrefix] at hterms
    cases hterms

/-- Neither a further term nor the parenthesis. -/
theorem located_unclosed (ht : t.IsCanonical) (hts : ∀ u ∈ ts, u.IsCanonical)
    (hrest : Stops isTermChar stop.rest) (hsep : ¬ Clause.separator.toList <+: stop.rest)
    (hnot : ¬ Closes stop.rest) :
    Located readParenthesized (fun _ => True) (t.text.toList ++ furtherTerms ts)
      (furtherTerms [sampleTerm] ++ [')']) stop where
  viable _ rest _ := by
    -- one more term and the parenthesis complete it, also where the first term stands alone
    have hall : ∀ u ∈ ts ++ [sampleTerm], u.IsCanonical :=
      List.forall_mem_append.mpr ⟨hts, by simpa using isCanonical_sampleTerm⟩
    have hcloses := closes_cons rest
    have hread := readTerms_complete hall hcloses.stops hcloses.not_isPrefix
    have hmore : furtherTerms (ts ++ [sampleTerm]) = furtherTerms ts ++ furtherTerms [sampleTerm] :=
      List.flatMap_append
    obtain ⟨u, us, hus⟩ : ∃ u us, ts ++ [sampleTerm] = u :: us :=
      List.exists_cons_of_ne_nil (by simp)
    have hterm := termAndRest_text ht (stops_furtherTerms (ts ++ [sampleTerm]) hcloses.stops)
    rw [hus] at hread
    refine ⟨_, readParenthesized_eq_ok_iff.mpr ⟨t, u, us, _, ?_, hread, rfl⟩⟩
    rw [hus] at hterm hmore
    rw [← hterm, hmore]
    simp
  fatal other hshares r hr := by
    -- the terms are read again, and what follows them is no parenthesis here either
    have hother : Stops isTermChar other := stops_of_sharesBytes [] hshares hrest
    have hsep' : ¬ Clause.separator.toList <+: other := fun hp =>
      hsep (hshares.symm.isPrefix [] lt_of_mem_separator (by decide) hp)
    rw [List.append_assoc] at hr
    obtain ⟨t', u, us, cs', hterm, hterms, -⟩ := readParenthesized_eq_ok_iff.mp hr
    rw [termAndRest_text ht (stops_furtherTerms ts hother)] at hterm
    cases hterm
    rw [readTerms_complete hts hother hsep'] at hterms
    cases hterms
    have hparen : ∀ a ∈ [')'], a.toNat < 128 := by simp
    obtain ⟨ds, hds⟩ := hshares.symm.isPrefix [] hparen (by simp) ⟨r.2, rfl⟩
    exact hnot ⟨ds, hds.symm⟩

theorem located_readParenthesized {cs : List Char} (h : readParenthesized cs = .error stop) :
    ∃ used more, cs = used ++ stop.rest ∧
      Located readParenthesized (fun _ => True) used more stop := by
  rcases readParenthesized_eq_error h with hterm | ⟨t, hterm, hterms⟩
  · obtain ⟨used, c, more, hcs, hlocated, -⟩ := located_readTerm hterm
    exact ⟨used, _, hcs, hlocated.parenthesized_first⟩
  obtain ⟨ht, hcs⟩ := readTerm_sound hterm
  rcases hterms with hterms | ⟨hterms, hfault⟩ | ⟨ts, hterms, hnot⟩
  · obtain ⟨used, more, hafter, hlocated⟩ := located_readTerms hterms
    refine ⟨_, _, ?_, hlocated.parenthesized_further ht⟩
    rw [hcs, hafter, List.append_assoc]
  · obtain ⟨-, hafter⟩ := readTerms_sound hterms
    refine ⟨_, _, ?_, located_loneTerm ht hfault⟩
    rw [hcs, hafter, List.append_assoc]
    rfl
  · obtain ⟨hts, hafter⟩ := readTerms_sound hterms
    refine ⟨_, _, ?_, located_unclosed ht hts
      (stops_of_readTerms hterms (Stops.dropWhile cs)) (not_isPrefix_of_readTerms hterms) hnot⟩
    rw [hcs, hafter, List.append_assoc]

end Parenthesized

end Expression
end IndicatorStrategy
