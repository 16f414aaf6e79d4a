import Mathlib
import IndicatorStrategy.Request
import IndicatorStrategy.Proofs.Artifact.Roundtrip
import IndicatorStrategy.Proofs.Store.Steady
/-!
# IndicatorStrategy.Proofs.Request

**Selections and requests.** On a store that does not fail, storing a selection changes
the keys of the ticker and the window and no others. Wherever a store can be read, a
request is a function of what it holds (`Request.requestIn`), and assembling it changes
nothing.
-/

namespace IndicatorStrategy

open KeyValue (Answers Held Readable Reliable Steady)
open KeyValue.Reliable (Computes)
open KeyValue.Steady (Asks)

variable {σ : Type} [KeyValue σ] {a : Steady σ} {f : Readable σ} {r : Reliable σ}

/-! ### Storing a selection -/

namespace Selection

/-- What a store holds once a ticker was stored, if there is one. -/
def withTicker (held : Held) : Option String → Held
  | some t =>
    Function.update (Function.update held selectedTickerKey (some t)) tickerKey (some t)
  | none => held

/-- What a store holds once a selection was stored. -/
def withSelection (held : Held) (ticker? : Option String) (days : Nat) : Held :=
  Function.update (withTicker held (ticker?.filter (!·.isEmpty))) daysKey
    (some (Numeral.ofNat days))

/-- The keys that hold the ticker of a selection. -/
def tickerKeys : List String := [selectedTickerKey, tickerKey]

/-- The keys of a selection. -/
def keys : List String := tickerKeys ++ [daysKey]

theorem withSelection_days (held : Held) (ticker? : Option String) (days : Nat) :
    withSelection held ticker? days daysKey = some (Numeral.ofNat days) :=
  Function.update_self ..

theorem withSelection_ticker (held : Held) (ticker? : Option String) (days : Nat) :
    ∀ key ∈ tickerKeys,
      withSelection held ticker? days key = (ticker?.filter (!·.isEmpty)).or (held key) := by
  have hdays : ∀ key ∈ tickerKeys, key ≠ daysKey := by decide
  intro key hkey
  rw [withSelection, Function.update_of_ne (hdays key hkey)]
  cases ticker?.filter (!·.isEmpty) with
  | none => rfl
  | some t =>
    simp only [tickerKeys, List.mem_cons, List.not_mem_nil, or_false] at hkey
    rw [withTicker, Option.some_or]
    by_cases hticker : key = tickerKey
    · rw [hticker, Function.update_self]
    · rw [Function.update_of_ne hticker, hkey.resolve_right hticker, Function.update_self]

theorem withSelection_of_not_mem (held : Held) (ticker? : Option String) (days : Nat)
    {key : String} (h : key ∉ keys) : withSelection held ticker? days key = held key := by
  simp only [keys, tickerKeys, List.cons_append, List.nil_append, List.mem_cons,
    List.not_mem_nil, or_false, not_or] at h
  obtain ⟨hselected, hticker, hdays⟩ := h
  rw [withSelection, Function.update_of_ne hdays]
  cases ticker?.filter (!·.isEmpty) with
  | none => rfl
  | some t => rw [withTicker, Function.update_of_ne hticker, Function.update_of_ne hselected]

theorem computes_store (ticker? : Option String) (days : Nat) :
    r.Computes (store ticker? days) (fun _ => ())
      (fun held => withSelection held ticker? days) := by
  unfold store withSelection
  cases ticker?.filter (!·.isEmpty) with
  | none => exact .set _ _
  | some t =>
    exact (Computes.set _ _).bind_const fun _ _ =>
      (Computes.set _ _).bind_const fun _ _ => .set _ _

end Selection

/-! ### Assembling a request -/

namespace Request

/-- The artifacts of a side in a request. -/
def artifact (q : Request) : Side → Artifact
  | .buy => ⟨q.buy, q.buyExpression⟩
  | .sell => ⟨q.sell, q.sellExpression⟩

/-- The text under a key, unless it is blank. -/
def textIn (held : Held) (key : String) : Option String := (held key).filter (!isBlank ·)

/-- The ticker of a request: the given one, or else the first one that is held. -/
def tickerIn (held : Held) (given? : Option String) : String :=
  given?.getD
    (((textIn held Selection.selectedTickerKey).or (textIn held Selection.tickerKey)).getD "")

/-- The window of a request: the given one, or else the one that is held. -/
def windowIn (held : Held) (given? : Option Nat) : Nat :=
  given?.getD (Selection.daysOf (held Selection.daysKey))

/-- The parameter array that is held for a side. -/
def parametersIn (held : Held) (side : Side) : List ParameterSet :=
  (textIn held side.parametersKey).elim [] fun raw =>
    (ParameterSet.listOfText raw).toOption.getD []

/-- The expression that is held for a side. -/
def expressionIn (held : Held) (side : Side) : String := (held side.expressionKey).getD ""

/-- The request for what is held. -/
def requestIn (held : Held) (given : Selection) : Request :=
  ⟨tickerIn held given.ticker?, windowIn held given.days?, parametersIn held .buy,
    expressionIn held .buy, parametersIn held .sell, expressionIn held .sell⟩

theorem artifact_requestIn (held : Held) (given : Selection) (side : Side) :
    (requestIn held given).artifact side
      = ⟨parametersIn held side, expressionIn held side⟩ := by
  cases side <;> rfl

/-! ### Which keys a request needs -/

/-- Whether a key can be read and has no text, or a blank one. -/
def lacksText (answers : Answers) (key : String) : Bool :=
  match answers key with
  | .ok value? => value?.all isBlank
  | .error _ => false

theorem lacksText_of_ok {answers : Answers} {key : String} {value? : Option String}
    (h : answers key = .ok value?) :
    lacksText answers key = (textIn answers.held key).isNone := by
  rw [lacksText, textIn, Answers.held_of_ok h, h]
  cases value? with
  | none => rfl
  | some text => cases hblank : isBlank text <;> simp [Option.filter_some, hblank]

/-- The keys that a ticker is looked for under. One that is given is not looked for, and the
second key is left alone if the first one has a text, or cannot be read. -/
def tickerKeysFor (given? : Option String) (answers : Answers) : List String :=
  if given?.isSome then []
  else Selection.selectedTickerKey ::
    if lacksText answers Selection.selectedTickerKey then [Selection.tickerKey] else []

/-- The keys that a window is looked for under. -/
def windowKeysFor (given? : Option Nat) : List String :=
  if given?.isSome then [] else [Selection.daysKey]

/-- The keys that a request needs, in the order in which it asks for them. -/
def neededKeys (given : Selection) (answers : Answers) : List String :=
  tickerKeysFor given.ticker? answers ++ (windowKeysFor given.days? ++
    [Side.buy.parametersKey, Side.buy.expressionKey, Side.sell.parametersKey,
      Side.sell.expressionKey])

theorem asks_lookUp (key : String) :
    a.Asks (lookUp (σ := σ) key) (fun _ => [key]) (fun held => textIn held key) :=
  (Asks.get (r := a) key).bind (u := fun value? _ => value?.filter (!isBlank ·)) fun _ => .pure _

theorem asks_tickerFor (given? : Option String) :
    a.Asks (tickerFor (σ := σ) given?) (tickerKeysFor given?)
      (fun held => tickerIn held given?) := by
  cases given? with
  | some t => exact .pure t
  | none =>
    have hasks : a.Asks (tickerFor (σ := σ) none)
        (fun answers => [Selection.selectedTickerKey] ++
          (textIn answers.held Selection.selectedTickerKey).elim [Selection.tickerKey] fun _ => [])
        (fun held => tickerIn held none) := by
      refine (asks_lookUp (a := a) Selection.selectedTickerKey).bind
        (k := fun first? _ => first?.elim [Selection.tickerKey] fun _ => [])
        (u := fun first? held => (first?.or (textIn held Selection.tickerKey)).getD "") ?_
      intro first?
      cases first? with
      | some t => exact .pure t
      | none =>
        exact (asks_lookUp (a := a) Selection.tickerKey).bind
          (u := fun second? _ => second?.getD "") fun _ => .pure _
    refine hasks.congr fun answers => ?_
    cases hfirst : answers Selection.selectedTickerKey with
    | error e =>
      -- The lists differ, but only behind the first key.
      have hfailure := Answers.failure?_eq_some_iff.mpr hfirst
      rw [tickerKeysFor, List.singleton_append, List.findSome?_cons, hfailure]
      simp only [Option.isSome_none, Bool.false_eq_true, if_false, List.findSome?_cons, hfailure]
    | ok value? =>
      rw [tickerKeysFor, lacksText_of_ok hfirst]
      cases textIn answers.held Selection.selectedTickerKey <;> rfl

theorem asks_windowFor (given? : Option Nat) :
    a.Asks (windowFor (σ := σ) given?) (fun _ => windowKeysFor given?)
      (fun held => windowIn held given?) := by
  cases given? with
  | some n => exact .pure n
  | none =>
    exact (Asks.get (r := a) Selection.daysKey).bind (u := fun raw? _ => Selection.daysOf raw?)
      fun _ => .pure _

theorem asks_storedParameters (side : Side) :
    a.Asks (storedParameters (σ := σ) side) (fun _ => [side.parametersKey])
      (fun held => parametersIn held side) := by
  refine (asks_lookUp (a := a) side.parametersKey).bind (k := fun _ _ => [])
    (u := fun raw? _ => raw?.elim [] fun raw =>
      (ParameterSet.listOfText raw).toOption.getD []) ?_
  intro raw?
  cases raw? with
  | none => exact .pure _
  | some raw =>
    simp only [Option.elim_some]
    cases ParameterSet.listOfText raw with
    | ok sets => exact .pure sets
    | error e => exact (Asks.log _).bind (u := fun _ _ => []) fun _ => .pure _

theorem asks_storedExpression (side : Side) :
    a.Asks (storedExpression (σ := σ) side) (fun _ => [side.expressionKey])
      (fun held => expressionIn held side) :=
  (Asks.get (r := a) side.expressionKey).bind (u := fun value? _ => value?.getD "")
    fun _ => .pure _

/-- **Assembling** a request asks for the keys that it needs, and comes to what is held. -/
theorem asks_assemble (given : Selection) :
    a.Asks (assemble (σ := σ) given) (neededKeys given) (fun held => requestIn held given) := by
  have hasks := (asks_tickerFor (a := a) given.ticker?).bind fun ticker =>
    (asks_windowFor given.days?).bind fun limit =>
    (asks_storedParameters .buy).bind fun buy =>
    (asks_storedExpression .buy).bind fun buyExpression =>
    (asks_storedParameters .sell).bind fun sell =>
    (asks_storedExpression .sell).bind fun sellExpression =>
      .pure (Request.mk ticker limit buy buyExpression sell sellExpression)
  exact hasks

/-- Wherever a store can be read, assembling a request succeeds and yields what is held. -/
theorem yields_assemble (given : Selection) :
    f.Yields (assemble (σ := σ) given) (fun held => requestIn held given) :=
  (asks_assemble given).yields

/-- On a store that does not fail, assembling a request changes nothing. -/
theorem computes_assemble (given : Selection) :
    r.Computes (assemble given) (fun held => requestIn held given) id :=
  (yields_assemble given).computes

/-- The artifacts of a draft that are held go into the request. -/
theorem artifact_requestIn_of_compile {held : Held} {side : Side} {d : Draft}
    (hp : held side.parametersKey = some d.compile.parametersText)
    (he : held side.expressionKey = some d.compile.expression) (given : Selection) :
    (requestIn held given).artifact side = d.compile := by
  have htext : textIn held side.parametersKey = some d.compile.parametersText := by
    rw [textIn, hp, Option.filter_some, Artifact.isBlank_parametersText]
    rfl
  rw [artifact_requestIn, parametersIn, htext, expressionIn, he, Option.elim_some,
    d.listOfText_compile]
  rfl

end Request
end IndicatorStrategy
