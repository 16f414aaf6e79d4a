import IndicatorStrategy.Proofs.Operand.Number
import IndicatorStrategy.Proofs.Request
/-!
# IndicatorStrategy.Proofs.Selection

**Ticker and window of a request.** The window of a request is the one that was given, and
otherwise the one of the configuration or of the store. The last two are filtered: they are
positive, or the default stands in for them. The one that was given is not filtered, so a
request has a positive window unless it was asked for one of zero days.

What is selected later replaces what was selected before. After any selections the window is
that of the last one, and the ticker is the last one that was named.
-/

namespace IndicatorStrategy

open KeyValue (Held Reliable)
open KeyValue.Reliable (Computes)

variable {σ : Type} [KeyValue σ]

/-! ### Windows -/

namespace Selection

theorem positive_of_positive? {raw : String} {n : Nat} (h : positive? raw = some n) : 0 < n := by
  obtain ⟨-, hpos⟩ := Option.filter_eq_some_iff.mp h
  simpa using hpos

theorem daysOf_pos (raw? : Option String) : 0 < daysOf raw? := by
  rw [daysOf]
  cases h : raw?.bind positive? with
  | none => decide
  | some n =>
    obtain ⟨raw, -, hraw⟩ := Option.bind_eq_some_iff.mp h
    exact positive_of_positive? hraw

/-- A number of days is read back from the text that was written for it, unless it is zero. -/
theorem daysOf_ofNat {n : Nat} (h : n < Numeral.limit32) :
    daysOf (some (Numeral.ofNat n)) = if 0 < n then n else defaultDays := by
  have htrim : trim (Numeral.ofNat n) = Numeral.ofNat n := by
    rw [trim, Numeral.ofNat, String.toList_ofList,
      Binary64.trimChars_of_isNumberText (Binary64.isNumberText_digits n)]
  rw [daysOf, Option.bind_some, positive?, htrim, Numeral.word32?_ofNat h, Option.filter_some]
  simp only [decide_eq_true_eq]
  split <;> rfl

end Selection

namespace Request

/-- A window is the given one, or else positive. -/
theorem windowFor_cases {given? : Option Nat} {s : σ} {n : Nat}
    (h : ((windowFor given?).run s).result = .ok n) : given? = some n ∨ given? = none ∧ 0 < n := by
  cases given? with
  | some m => exact .inl (congrArg some (Except.ok.inj h))
  | none =>
    obtain ⟨raw?, -, hn⟩ := Action.result_bind_eq_ok_iff.mp h
    exact .inr ⟨rfl, Except.ok.inj hn ▸ Selection.daysOf_pos raw?⟩

theorem exists_windowFor {given : Selection} {s : σ} {q : Request}
    (h : ((assemble given).run s).result = .ok q) :
    ∃ s', ((windowFor (σ := σ) given.days?).run s').result = .ok q.limit := by
  obtain ⟨ticker, -, h⟩ := Action.result_bind_eq_ok_iff.mp h
  obtain ⟨limit, hlimit, h⟩ := Action.result_bind_eq_ok_iff.mp h
  obtain ⟨buy, -, h⟩ := Action.result_bind_eq_ok_iff.mp h
  obtain ⟨buyExpression, -, h⟩ := Action.result_bind_eq_ok_iff.mp h
  obtain ⟨sell, -, h⟩ := Action.result_bind_eq_ok_iff.mp h
  obtain ⟨sellExpression, -, h⟩ := Action.result_bind_eq_ok_iff.mp h
  obtain rfl := Except.ok.inj h
  exact ⟨_, hlimit⟩

theorem days?_configured {c : Configuration} {given : Selection} {n : Nat}
    (h : (Selection.configured c given).days? = some n) :
    given.days? = some n ∨ given.days? = none ∧ 0 < n := by
  rcases Option.or_eq_some_iff.mp h with hgiven | ⟨hgiven, hconfigured⟩
  · exact .inl hgiven
  · obtain ⟨raw, -, hraw⟩ := Option.bind_eq_some_iff.mp hconfigured
    exact .inr ⟨hgiven, Selection.positive_of_positive? hraw⟩

/-- The window of a request is the one that the caller gave, or else positive. -/
theorem limit_cases {c : Configuration} {given : Selection} {s : σ} {q : Request}
    (h : ((assemble (Selection.configured c given)).run s).result = .ok q) :
    given.days? = some q.limit ∨ given.days? = none ∧ 0 < q.limit := by
  obtain ⟨s', hlimit⟩ := exists_windowFor h
  rcases windowFor_cases hlimit with hdays | ⟨hdays, hpos⟩
  · exact days?_configured hdays
  · exact .inr ⟨(Option.or_eq_none_iff.mp hdays).1, hpos⟩

/-- **The window of a request** is positive unless the caller asks for zero days, whatever
the configuration says and whatever the store holds; and it is the one that the caller asks
for, also if that is zero. -/
theorem limit_assemble_configured (c : Configuration) (given : Selection) (s : σ) (q : Request)
    (h : ((assemble (Selection.configured c given)).run s).result = .ok q) :
    (0 < q.limit ↔ given.days? ≠ some 0) ∧ ∀ n ∈ given.days?, q.limit = n := by
  rcases limit_cases h with hgiven | ⟨hgiven, hpos⟩
  · rw [hgiven]
    refine ⟨?_, ?_⟩
    · rw [Ne, Option.some.injEq, Nat.pos_iff_ne_zero]
    · rintro n ⟨⟩
      rfl
  · rw [hgiven]
    exact ⟨iff_of_true hpos (by simp), by simp⟩

/-- A configured window of thirty days. -/
def windowConfiguration : Configuration := ⟨[("backtest", [("days", some "30")])]⟩

theorem limit_assemble_windowConfiguration :
    ∃ q, ((assemble (Selection.configured windowConfiguration ⟨none, none⟩)).run
        (Memory.mk [("days", "0")])).result = .ok q ∧ 0 < q.limit := by
  refine ⟨_, rfl, ?_⟩
  refine (limit_assemble_configured windowConfiguration ⟨none, none⟩ (Memory.mk [("days", "0")])
    _ rfl).1.mpr ?_
  decide

/-- An accepted configuration does not keep a caller from asking for zero days. -/
theorem limit_assemble_zeroDays :
    windowConfiguration.validate = .ok () ∧
      ∃ q, ((assemble (Selection.configured windowConfiguration ⟨none, some 0⟩)).run
        Memory.empty).result = .ok q ∧ q.limit = 0 :=
  ⟨by decide, _, rfl, rfl⟩

end Request

/-! ### Selecting again and again -/

namespace Selection

/-- What is selected at one time. -/
structure Choice where
  ticker? : Option String
  days : Nat

namespace Choice

/-- The ticker of a choice, unless it is empty. -/
def named? (c : Choice) : Option String := c.ticker?.filter (!·.isEmpty)

/-- A choice that can be read as it was written: its ticker is not blank, unless it is empty
and not written at all. -/
structure IsWellFormed (c : Choice) : Prop where
  ticker : ∀ t ∈ c.ticker?, t = "" ∨ isBlank t = false
  days : c.days < Numeral.limit32

theorem IsWellFormed.named {c : Choice} (h : c.IsWellFormed) {t : String} (ht : c.named? = some t) :
    isBlank t = false := by
  obtain ⟨hmem, hne⟩ := Option.filter_eq_some_iff.mp ht
  refine (h.ticker t hmem).resolve_left ?_
  rintro rfl
  exact absurd hne (by decide)

end Choice

/-- Stores one choice after the other. -/
def storeAll : List Choice → Action σ Unit
  | [] => pure ()
  | c :: cs => do
    store c.ticker? c.days
    storeAll cs

/-- What a store holds once choices were stored. -/
def withChoices (held : Held) (choices : List Choice) : Held :=
  choices.foldl (fun held c => withSelection held c.ticker? c.days) held

/-- The ticker that was named last. -/
def lastNamed? (choices : List Choice) : Option String :=
  (choices.filterMap Choice.named?).getLast?

variable {r : Reliable σ}

theorem computes_storeAll (choices : List Choice) :
    r.Computes (storeAll choices) (fun _ => ()) (fun held => withChoices held choices) := by
  induction choices with
  | nil => exact .pure ()
  | cons c cs ih => exact (computes_store c.ticker? c.days).bind_const fun _ _ => ih

theorem withChoices_append_singleton (held : Held) (choices : List Choice) (last : Choice) :
    withChoices held (choices ++ [last])
      = withSelection (withChoices held choices) last.ticker? last.days := by
  rw [withChoices, List.foldl_append]
  rfl

theorem lastNamed?_append_singleton (choices : List Choice) (last : Choice) :
    lastNamed? (choices ++ [last]) = last.named?.or (lastNamed? choices) := by
  rw [lastNamed?, List.filterMap_append, List.getLast?_append, lastNamed?]
  cases h : last.named? <;> simp [h]

theorem withChoices_of_not_mem (held : Held) (choices : List Choice) {key : String}
    (h : key ∉ keys) : withChoices held choices key = held key := by
  induction choices using List.reverseRecOn with
  | nil => rfl
  | append_singleton choices last ih =>
    rw [withChoices_append_singleton, withSelection_of_not_mem _ _ _ h, ih]

/-- **The keys of the ticker** hold the one that was named last. -/
theorem withChoices_ticker (held : Held) (choices : List Choice) :
    ∀ key ∈ tickerKeys, withChoices held choices key = (lastNamed? choices).or (held key) := by
  intro key hkey
  induction choices using List.reverseRecOn with
  | nil => rfl
  | append_singleton choices last ih =>
    rw [withChoices_append_singleton, withSelection_ticker _ _ _ key hkey, ih,
      lastNamed?_append_singleton, Option.or_assoc]
    rfl

/-- **The key of the window** holds the one that was selected last. -/
theorem withChoices_days (held : Held) {choices : List Choice} {last : Choice}
    (h : choices.getLast? = some last) :
    withChoices held choices daysKey = some (Numeral.ofNat last.days) := by
  obtain ⟨earlier, rfl⟩ := List.getLast?_eq_some_iff.mp h
  rw [withChoices_append_singleton, withSelection_days]

end Selection

/-! ### The request after all selections -/

namespace Request

open Selection (Choice withChoices lastNamed?)

variable {held : Held} {choices : List Choice}

theorem windowIn_withChoices (hwell : ∀ c ∈ choices, c.IsWellFormed) {last : Choice}
    (hlast : choices.getLast? = some last) :
    windowIn (withChoices held choices) none
      = if 0 < last.days then last.days else Selection.defaultDays := by
  rw [windowIn, Selection.withChoices_days held hlast, Option.getD_none]
  exact Selection.daysOf_ofNat (hwell last (List.mem_of_getLast? hlast)).days

theorem tickerIn_withChoices (hwell : ∀ c ∈ choices, c.IsWellFormed) :
    tickerIn (withChoices held choices) none = (lastNamed? choices).getD (tickerIn held none) := by
  have htext : ∀ key ∈ Selection.tickerKeys,
      textIn (withChoices held choices) key = (lastNamed? choices).or (textIn held key) := by
    intro key hkey
    rw [textIn, Selection.withChoices_ticker held choices key hkey]
    cases h : lastNamed? choices with
    | none => rfl
    | some t =>
      obtain ⟨c, hc, ht⟩ := List.mem_filterMap.mp (List.mem_of_getLast? h)
      rw [Option.some_or, Option.some_or, Option.filter_some, (hwell c hc).named ht]
      rfl
  rw [tickerIn, htext _ (by decide), htext _ (by decide)]
  cases lastNamed? choices <;> rfl

theorem artifact_requestIn_withChoices (given : Selection) (side : Side) :
    (requestIn (withChoices held choices) given).artifact side
      = (requestIn held given).artifact side := by
  have hkey : ∀ key ∈ [side.parametersKey, side.expressionKey],
      withChoices held choices key = held key := by
    intro key hkey
    refine Selection.withChoices_of_not_mem held choices ?_
    revert key
    cases side <;> decide
  rw [artifact_requestIn, artifact_requestIn, parametersIn, expressionIn, textIn,
    hkey _ (by simp), hkey _ (by simp)]
  rfl

/-- **The last selection counts.** On a store that does not fail, a request after any
selections has the window of the last one, the default one if that is zero; it has the
ticker that was named last, and if none was named the one that it had before; and it has the
artifacts that it had before. -/
theorem assemble_storeAll (r : Reliable σ) {s : σ} (hs : r.Works s) {choices : List Choice}
    (hwell : ∀ c ∈ choices, c.IsWellFormed) {last : Choice}
    (hlast : choices.getLast? = some last) :
    ∃ before after, ((assemble ⟨none, none⟩).run s).result = .ok before ∧
      ((Selection.storeAll choices).run s).result = .ok () ∧
      ((assemble ⟨none, none⟩).run ((Selection.storeAll choices).run s).store).result = .ok after ∧
      after.limit = (if 0 < last.days then last.days else Selection.defaultDays) ∧
      after.ticker = (lastNamed? choices).getD before.ticker ∧
      ∀ side, after.artifact side = before.artifact side := by
  have hstore := Selection.computes_storeAll (r := r) choices
  have hafter := (computes_assemble ⟨none, none⟩).result (hstore.works hs)
  rw [hstore.contents hs] at hafter
  exact ⟨_, _, (computes_assemble ⟨none, none⟩).result hs, hstore.result hs, hafter,
    windowIn_withChoices hwell hlast, tickerIn_withChoices hwell,
    artifact_requestIn_withChoices ⟨none, none⟩⟩

/-- A store whose first ticker is blank. -/
def blankTickerStore : Memory :=
  ⟨[("buy_exp", "RSI0above"), ("selectedTicker", " "), ("ticker", "MSFT")]⟩

/-- Choices of which only the first names a ticker, and the last asks for zero days. -/
def fadingChoices : List Choice := [⟨some "AAPL", 30⟩, ⟨none, 4294967295⟩, ⟨some "", 0⟩]

theorem assemble_fadingChoices :
    (∀ c ∈ fadingChoices, c.IsWellFormed) ∧
    ∃ before after, ((assemble ⟨none, none⟩).run blankTickerStore).result = .ok before ∧
      ((Selection.storeAll fadingChoices).run blankTickerStore).result = .ok () ∧
      ((assemble ⟨none, none⟩).run
        ((Selection.storeAll fadingChoices).run blankTickerStore).store).result = .ok after ∧
      after.limit = 100 ∧ after.ticker = "AAPL" ∧
      ∀ side, after.artifact side = before.artifact side := by
  have hwell : ∀ c ∈ fadingChoices, c.IsWellFormed := by
    intro c hc
    simp only [fadingChoices, List.mem_cons, List.not_mem_nil, or_false] at hc
    rcases hc with rfl | rfl | rfl <;> exact ⟨by decide, by decide⟩
  exact ⟨hwell, assemble_storeAll Memory.reliable trivial hwell rfl⟩

end Request
end IndicatorStrategy
