import IndicatorStrategy.Proofs.Request
import IndicatorStrategy.Proofs.Store.Independent
/-!
# IndicatorStrategy.Proofs.Assembly

**When a request cannot be assembled.** A store may refuse to read some of its keys. The
request fails if one of them is a key that it needs (`Request.neededKeys`), and with the
failure of the first such key. Otherwise it comes out, from the answers to these keys alone.
-/

namespace IndicatorStrategy

open KeyValue (Answers Held Steady)

/-- A memory answers with what it holds, except to the keys that it refuses to read. -/
def Faulty.steady : Steady Faulty where
  Works _ := True
  answers s key :=
    if key ∈ s.unreadable then .error (.store ("get " ++ key))
    else .ok (Assoc.get? s.contents key)
  get_result {s} _ key := by
    simp only [KeyValue.get]
    split <;> rfl
  get_works _ _ := trivial
  get_answers {s} _ key := by rw [s.get_snd]

namespace Request

variable {answers other : Answers} {given : Selection} {given? : Option String}
  {key : String} {side : Side}

/-! ### The needed keys -/

/-- **Which keys are needed.** -/
theorem mem_neededKeys_iff :
    key ∈ neededKeys given answers ↔
      (given.ticker? = none ∧ (key = "selectedTicker" ∨
        key = "ticker" ∧ lacksText answers "selectedTicker")) ∨
      (given.days? = none ∧ key = "days") ∨ key ∈ ["buy", "buy_exp", "sell", "sell_exp"] := by
  have hticker : key ∈ tickerKeysFor given.ticker? answers ↔ given.ticker? = none ∧
      (key = "selectedTicker" ∨ key = "ticker" ∧ lacksText answers "selectedTicker") := by
    rw [tickerKeysFor, Selection.selectedTickerKey, Selection.tickerKey]
    cases given.ticker? <;> cases lacksText answers "selectedTicker" <;> simp
  have hwindow : key ∈ windowKeysFor given.days? ↔ given.days? = none ∧ key = "days" := by
    rw [windowKeysFor, Selection.daysKey]
    cases given.days? <;> simp
  rw [neededKeys, List.mem_append, List.mem_append, hticker, hwindow]
  rfl

theorem selectedTickerKey_mem_neededKeys (h : given.ticker? = none) :
    Selection.selectedTickerKey ∈ neededKeys given answers :=
  mem_neededKeys_iff.mpr (.inl ⟨h, .inl rfl⟩)

theorem daysKey_mem_neededKeys (h : given.days? = none) :
    Selection.daysKey ∈ neededKeys given answers :=
  mem_neededKeys_iff.mpr (.inr (.inl ⟨h, rfl⟩))

theorem parametersKey_mem_neededKeys (side : Side) :
    side.parametersKey ∈ neededKeys given answers :=
  mem_neededKeys_iff.mpr (.inr (.inr (by cases side <;> decide)))

theorem expressionKey_mem_neededKeys (side : Side) :
    side.expressionKey ∈ neededKeys given answers :=
  mem_neededKeys_iff.mpr (.inr (.inr (by cases side <;> decide)))

/-- **In which order they are needed.** -/
theorem neededKeys_sublist (given : Selection) (answers : Answers) :
    (neededKeys given answers).Sublist
      ["selectedTicker", "ticker", "days", "buy", "buy_exp", "sell", "sell_exp"] := by
  have hticker : (tickerKeysFor given.ticker? answers).Sublist ["selectedTicker", "ticker"] := by
    cases given.ticker? with
    | some t => exact List.nil_sublist _
    | none =>
      rw [tickerKeysFor]
      cases lacksText answers Selection.selectedTickerKey <;> decide
  have hwindow : (windowKeysFor given.days?).Sublist ["days"] := by
    cases given.days? with
    | some n => exact List.nil_sublist _
    | none => exact List.Sublist.refl _
  exact hticker.append (hwindow.append (List.Sublist.refl _))

/-! ### The request depends on no other key -/

theorem neededKeys_congr (h : ∀ key ∈ neededKeys given answers, other key = answers key) :
    neededKeys given other = neededKeys given answers := by
  have hticker : tickerKeysFor given.ticker? other = tickerKeysFor given.ticker? answers := by
    cases hgiven : given.ticker? with
    | some t => rfl
    | none =>
      have hselected := h _ (selectedTickerKey_mem_neededKeys hgiven)
      rw [tickerKeysFor, tickerKeysFor, lacksText, lacksText, hselected]
  rw [neededKeys, neededKeys, hticker]

/-- The ticker depends on the second key only where the first one lacks a text. -/
theorem tickerIn_congr
    (h : ∀ key ∈ tickerKeysFor given? answers, other.held key = answers.held key)
    (hreadable : ∀ key ∈ tickerKeysFor given? answers, ∃ value?, answers key = .ok value?) :
    tickerIn other.held given? = tickerIn answers.held given? := by
  cases given? with
  | some t => rfl
  | none =>
    have hmem : Selection.selectedTickerKey ∈ tickerKeysFor none answers := List.mem_cons_self
    obtain ⟨value?, hvalue⟩ := hreadable _ hmem
    have hlacks := lacksText_of_ok hvalue
    have hselected : textIn other.held Selection.selectedTickerKey
        = textIn answers.held Selection.selectedTickerKey := by rw [textIn, textIn, h _ hmem]
    rw [tickerIn, tickerIn, hselected]
    cases htext : textIn answers.held Selection.selectedTickerKey with
    | some text => rfl
    -- without a text the second key is asked for, so the answers agree there as well
    | none =>
      have hticker : Selection.tickerKey ∈ tickerKeysFor none answers := by
        rw [tickerKeysFor, hlacks, htext]
        decide
      rw [textIn, h _ hticker, ← textIn]

theorem requestIn_congr (h : ∀ key ∈ neededKeys given answers, other key = answers key)
    (hreadable : ∀ key ∈ neededKeys given answers, ∃ value?, answers key = .ok value?) :
    requestIn other.held given = requestIn answers.held given := by
  have hheld : ∀ key ∈ neededKeys given answers, other.held key = answers.held key :=
    fun key hkey => by rw [Answers.held, Answers.held, h key hkey]
  have hticker : tickerIn other.held given.ticker? = tickerIn answers.held given.ticker? :=
    tickerIn_congr (fun key hkey => hheld key (List.mem_append_left _ hkey))
      fun key hkey => hreadable key (List.mem_append_left _ hkey)
  have hwindow : windowIn other.held given.days? = windowIn answers.held given.days? := by
    cases hgiven : given.days? with
    | some n => rfl
    | none => rw [windowIn, windowIn, hheld _ (daysKey_mem_neededKeys hgiven)]
  have hparameters (side : Side) :
      parametersIn other.held side = parametersIn answers.held side := by
    rw [parametersIn, parametersIn, textIn, textIn, hheld _ (parametersKey_mem_neededKeys side)]
  have hexpression (side : Side) :
      expressionIn other.held side = expressionIn answers.held side := by
    rw [expressionIn, expressionIn, hheld _ (expressionKey_mem_neededKeys side)]
  simp only [requestIn, hticker, hwindow, hparameters, hexpression]

/-! ### Corrupt parameters -/

/-- A text that lists no parameter sets counts as an empty list. -/
theorem parametersIn_of_corrupt {held : Held} {raw : String} {fault : Json.DecodeError}
    (hraw : held side.parametersKey = some raw)
    (hcorrupt : ParameterSet.listOfText raw = .error fault) : parametersIn held side = [] := by
  rw [parametersIn, textIn, hraw]
  cases h : (some raw).filter (!isBlank ·) with
  | none => rfl
  | some text =>
    obtain ⟨htext, -⟩ := Option.filter_eq_some_iff.mp h
    cases htext
    rw [Option.elim_some, hcorrupt]
    rfl

/-! ### The whole request -/

/-- **Assembling a request fails exactly if it must**, whatever a store holds and whichever of
its keys it refuses to read. The keys of both sides are always needed, that of the window unless
one is given, and unless a ticker is given that of the selected one, and the other one where the
selected one lacks a text. The request fails if a needed key cannot be read, with the failure of
the first such key; any other store comes to the same if it answers the needed keys alike; and
corrupt parameters are no failure, but count as none beside the expression. -/
theorem result_assemble {σ : Type} [KeyValue σ] (r : Steady σ) {s : σ} (h : r.Works s)
    (given : Selection) :
    (∀ key, key ∈ neededKeys given (r.answers s) ↔
      (given.ticker? = none ∧ (key = "selectedTicker" ∨
        key = "ticker" ∧ lacksText (r.answers s) "selectedTicker")) ∨
      (given.days? = none ∧ key = "days") ∨ key ∈ ["buy", "buy_exp", "sell", "sell_exp"]) ∧
    (neededKeys given (r.answers s)).Sublist
      ["selectedTicker", "ticker", "days", "buy", "buy_exp", "sell", "sell_exp"] ∧
    ((∃ e, ((assemble given).run s).result = .error e) ↔
      ∃ key ∈ neededKeys given (r.answers s), ∃ e, r.answers s key = .error e) ∧
    (∀ e, ((assemble given).run s).result = .error e ↔
      ∃ front key back, neededKeys given (r.answers s) = front ++ key :: back ∧
        r.answers s key = .error e ∧
        ∀ before ∈ front, ∃ value?, r.answers s before = .ok value?) ∧
    (∀ {τ : Type} [KeyValue τ] (r' : Steady τ) {t : τ}, r'.Works t →
      (∀ key ∈ neededKeys given (r.answers s), r'.answers t key = r.answers s key) →
      ((assemble given).run t).result = ((assemble given).run s).result) ∧
    (∀ (side : Side) (raw : String) (fault : Json.DecodeError),
      r.answers s side.parametersKey = .ok (some raw) →
      ParameterSet.listOfText raw = .error fault →
      (∀ key ∈ neededKeys given (r.answers s), ∃ value?, r.answers s key = .ok value?) →
      ∃ q expression?, ((assemble given).run s).result = .ok q ∧
        r.answers s side.expressionKey = .ok expression? ∧
        q.artifact side = ⟨[], expression?.getD ""⟩) := by
  rw [(asks_assemble given).result h]
  refine ⟨fun key => mem_neededKeys_iff, neededKeys_sublist given _,
    Answers.exists_outcome_eq_error_iff, fun e => Answers.outcome_eq_error_iff, ?_, ?_⟩
  · intro τ _ r' t hworks hanswers
    rw [(asks_assemble given).result hworks, neededKeys_congr hanswers]
    exact Answers.outcome_congr hanswers (requestIn_congr hanswers)
  · intro side raw fault hraw hcorrupt hreadable
    obtain ⟨expression?, hexpression⟩ := hreadable _ (expressionKey_mem_neededKeys side)
    refine ⟨_, expression?, Answers.outcome_of_readable hreadable, hexpression, ?_⟩
    rw [artifact_requestIn, parametersIn_of_corrupt (Answers.held_of_ok hraw) hcorrupt,
      expressionIn, Answers.held_of_ok hexpression]

/-- A store whose selected ticker is blank and whose other ticker cannot be read, with corrupt
parameters on one side. -/
def patchyStore : Faulty :=
  ⟨[("days", "30"), ("selectedTicker", " "), ("sell", "["), ("sell_exp", "RSI7below")],
    ["ticker", "version"], []⟩

theorem result_assemble_patchyStore :
    ((assemble ⟨none, none⟩).run patchyStore).result = .error (.store "get ticker") ∧
    ∃ q expression?, ((assemble ⟨some "ETHUSDT", none⟩).run patchyStore).result = .ok q ∧
      Faulty.steady.answers patchyStore Side.sell.expressionKey = .ok expression? ∧
      q.artifact .sell = ⟨[], expression?.getD ""⟩ := by
  constructor
  · have h := result_assemble Faulty.steady (s := patchyStore) trivial ⟨none, none⟩
    refine (h.2.2.2.1 _).mpr ⟨["selectedTicker"], "ticker", _, rfl, rfl, fun before hbefore => ?_⟩
    rw [List.mem_singleton.mp hbefore]
    exact ⟨some " ", rfl⟩
  · have h := result_assemble Faulty.steady (s := patchyStore) trivial ⟨some "ETHUSDT", none⟩
    have hcorrupt : ParameterSet.listOfText "[" = .error .malformed := by cbv
    have hreadable : ∀ key ∈ neededKeys ⟨some "ETHUSDT", none⟩ (Faulty.steady.answers patchyStore),
        key ∉ patchyStore.unreadable := by decide
    exact h.2.2.2.2.2 .sell "[" _ rfl hcorrupt fun key hkey => ⟨_, if_neg (hreadable key hkey)⟩

end Request
end IndicatorStrategy
