import IndicatorStrategy.Archive
import IndicatorStrategy.Proofs.Artifact.Roundtrip
import IndicatorStrategy.Proofs.Draft.Invariant
import IndicatorStrategy.Proofs.Store.Readable
/-!
# IndicatorStrategy.Proofs.Store.Archive

**What is stored is read back.** Wherever a store can be read, `Archive.read` is a function
of what it holds under the two keys of the side. `Archive.write` writes these two keys
one after the other and stops at the first that is refused (`write_cases`); on a store
that does not fail it changes both and nothing else. An edited draft compiles to
artifacts whose texts are never empty and decode again, so they are read back as they
were written.
-/

namespace IndicatorStrategy
namespace Archive

open KeyValue (Faithful Readable Reliable)
open KeyValue.Readable (Yields)

variable {σ : Type} [KeyValue σ] (g : Readable σ) (f : Faithful σ) (r : Reliable σ) {s : σ}

/-- The text that counts as stored under a key. -/
def stored (contents : String → Option String) (key : String) : Option String :=
  (contents key).filter (!·.isEmpty)

/-- The artifacts of a side among the contents of a store. -/
def artifactIn (contents : String → Option String) (side : Side) : Option Artifact := do
  let parameters ← stored contents side.parametersKey
  let expression ← stored contents side.expressionKey
  (ParameterSet.listOfText parameters).toOption.map (⟨·, expression⟩)

/-- Artifacts that are stored come from two texts that count as stored. -/
theorem exists_of_artifactIn {contents : String → Option String} {side : Side} {c : Artifact}
    (h : artifactIn contents side = some c) :
    ∃ parameters, stored contents side.parametersKey = some parameters ∧
      stored contents side.expressionKey = some c.expression ∧
      ParameterSet.listOfText parameters = .ok c.parameters := by
  rw [artifactIn] at h
  obtain ⟨parameters, hp, h⟩ := Option.bind_eq_some_iff.mp h
  obtain ⟨expression, he, h⟩ := Option.bind_eq_some_iff.mp h
  obtain ⟨sets, hsets, rfl⟩ := Option.map_eq_some_iff.mp h
  refine ⟨parameters, hp, he, ?_⟩
  cases hd : ParameterSet.listOfText parameters with
  | ok sets' =>
    rw [hd] at hsets
    exact congrArg Except.ok (Option.some.inj hsets)
  | error e =>
    rw [hd] at hsets
    cases hsets

/-! ### Keys -/

/-- The keys of a side. -/
def keys (side : Side) : List String := [side.parametersKey, side.expressionKey]

theorem parametersKey_ne_expressionKey (side : Side) :
    side.parametersKey ≠ side.expressionKey := by
  cases side <;> decide

/-- Two sides have no key in common. -/
theorem not_mem_keys_of_ne {side other : Side} (h : other ≠ side) :
    ∀ key ∈ keys other, key ∉ keys side := by
  cases side <;> cases other <;> first | exact absurd rfl h | decide

/-! ### Reading -/

theorem yields_lookUp (key : String) :
    g.Yields (lookUp (σ := σ) key) (fun held => stored held key) := by
  refine (Yields.get (r := g) key).attempt.bind
    (u := fun result _ => result.toOption.elim none fun value? => value?.filter (!·.isEmpty)) ?_
  intro result
  cases result with
  | ok value? => exact .pure _
  | error e => exact (Yields.log _).bind (u := fun _ _ => none) fun _ => .pure _

/-- The artifacts that two texts hold. -/
def restored? (parameters expression : String) : Option Artifact :=
  (ParameterSet.listOfText parameters).toOption.map (⟨·, expression⟩)

theorem yields_restore (parameters expression : String) :
    g.Yields (restore (σ := σ) parameters expression) (fun _ => restored? parameters expression) := by
  unfold restore restored?
  cases ParameterSet.listOfText parameters with
  | ok sets => exact .pure _
  | error e => exact (Yields.log _).bind (u := fun _ _ => none) fun _ => .pure _

/-- **Reading** yields the artifacts of the side among the contents of the store. -/
theorem yields_read (side : Side) :
    g.Yields (read (σ := σ) side) (fun held => artifactIn held side) := by
  refine (yields_lookUp g side.parametersKey).bind
    (u := fun parameters? held => parameters?.bind fun parameters =>
      (stored held side.expressionKey).bind (restored? parameters)) ?_
  intro parameters?
  cases parameters? with
  | none => exact .pure none
  | some parameters =>
    refine (yields_lookUp g side.expressionKey).bind
      (u := fun expression? _ => expression?.bind (restored? parameters)) ?_
    intro expression?
    cases expression? with
    | none => exact .pure none
    | some expression => exact yields_restore g parameters expression

theorem result_read_of_faithful (h : f.Works s) (side : Side) :
    ((read side).run s).result = .ok (artifactIn (f.contents s) side) :=
  (yields_read f.readable side).result h

theorem result_read (h : r.Works s) (side : Side) :
    ((read side).run s).result = .ok (artifactIn (r.contents s) side) :=
  result_read_of_faithful r.faithful h side

/-- A look-up never fails: what cannot be read counts as nothing. -/
theorem exists_run_lookUp (s : σ) (key : String) :
    ∃ value? log, (lookUp key).run s = ⟨.ok value?, (KeyValue.get s key).2, log⟩ := by
  rw [lookUp, Action.run_bind_of_ok (Action.run_attempt _ s)]
  simp only [Action.run_get]
  cases (KeyValue.get s key).1 with
  | ok value? => exact ⟨_, _, rfl⟩
  | error e => exact ⟨_, _, rfl⟩

/-- Reading artifacts never fails. It does to a store what reading keys does, so it keeps
what that keeps. -/
theorem exists_run_read {P : σ → Prop} (hget : ∀ s key, P s → P (KeyValue.get s key).2)
    (h : P s) (side : Side) :
    ∃ artifact? s' log, (read side).run s = ⟨.ok artifact?, s', log⟩ ∧ P s' := by
  obtain ⟨parameters?, log, hp⟩ := exists_run_lookUp s side.parametersKey
  have h' := hget s side.parametersKey h
  rw [read, Action.run_bind_of_ok hp]
  cases parameters? with
  | none => exact ⟨_, _, _, rfl, h'⟩
  | some parameters =>
    obtain ⟨expression?, log', he⟩ :=
      exists_run_lookUp (KeyValue.get s side.parametersKey).2 side.expressionKey
    have h'' := hget _ side.expressionKey h'
    simp only
    rw [Action.run_bind_of_ok he]
    cases expression? with
    | none => exact ⟨_, _, _, rfl, h''⟩
    | some expression =>
      simp only [restore]
      cases ParameterSet.listOfText parameters with
      | ok => exact ⟨_, _, _, rfl, h''⟩
      | error => exact ⟨_, _, _, rfl, h''⟩

/-- What is read depends only on the answers of the store: two stores that answer alike,
and go on to do so, hold the same artifacts. -/
theorem result_read_congr {τ : Type} [KeyValue τ] {R : σ → τ → Prop}
    (hget : ∀ s t key, R s t → (KeyValue.get s key).1 = (KeyValue.get t key).1 ∧
      R (KeyValue.get s key).2 (KeyValue.get t key).2)
    {t : τ} (h : R s t) (side : Side) :
    ((read side).run s).result = ((read side).run t).result := by
  -- a look-up never fails: its answer is that of the store, or none where the store refuses
  have hlook : ∀ s t key, R s t → ∃ value? log log',
      (lookUp key).run s = ⟨.ok value?, (KeyValue.get s key).2, log⟩ ∧
      (lookUp key).run t = ⟨.ok value?, (KeyValue.get t key).2, log'⟩ := by
    intro s t key h
    obtain ⟨hanswer, -⟩ := hget s t key h
    rw [lookUp, Action.run_bind_of_ok (Action.run_attempt _ s), lookUp,
      Action.run_bind_of_ok (Action.run_attempt _ t)]
    simp only [Action.run_get, hanswer]
    cases (KeyValue.get t key).1 with
    | ok value? => exact ⟨_, _, _, rfl, rfl⟩
    | error e => exact ⟨_, _, _, rfl, rfl⟩
  obtain ⟨parameters?, _, _, hs, ht⟩ := hlook s t side.parametersKey h
  have h' := (hget s t side.parametersKey h).2
  rw [read, Action.run_bind_of_ok hs, read, Action.run_bind_of_ok ht]
  cases parameters? with
  | none => rfl
  | some parameters =>
    obtain ⟨expression?, _, _, hs', ht'⟩ := hlook _ _ side.expressionKey h'
    simp only
    rw [Action.run_bind_of_ok hs', Action.run_bind_of_ok ht']
    cases expression? with
    | none => rfl
    | some expression =>
      simp only [restore]
      cases ParameterSet.listOfText parameters with
      | ok => rfl
      | error => rfl

/-! ### Writing -/

/-- The contents of a store in which the artifacts of a side have been written. -/
def withArtifact (contents : String → Option String) (side : Side) (a : Artifact) :
    String → Option String :=
  Function.update (Function.update contents side.parametersKey (some a.parametersText))
    side.expressionKey (some a.expression)

theorem withArtifact_parametersKey (contents : String → Option String) (side : Side)
    (a : Artifact) : withArtifact contents side a side.parametersKey = some a.parametersText := by
  rw [withArtifact, Function.update_of_ne (parametersKey_ne_expressionKey side),
    Function.update_self]

theorem withArtifact_expressionKey (contents : String → Option String) (side : Side)
    (a : Artifact) : withArtifact contents side a side.expressionKey = some a.expression :=
  Function.update_self ..

theorem withArtifact_of_not_mem (contents : String → Option String) {side : Side} {key : String}
    (h : key ∉ keys side) (a : Artifact) : withArtifact contents side a key = contents key := by
  simp only [keys, List.mem_cons, List.not_mem_nil, or_false, not_or] at h
  rw [withArtifact, Function.update_of_ne h.2, Function.update_of_ne h.1]

/-- What writing a side can come to: its parameters are refused, or only its expression
is, or both are accepted. -/
theorem write_cases (s : σ) (side : Side) (a : Artifact) :
    (∃ e, (KeyValue.set s side.parametersKey a.parametersText).1 = .error e ∧
      (write side a).run s
        = ⟨.error e, (KeyValue.set s side.parametersKey a.parametersText).2, []⟩) ∨
    (KeyValue.set s side.parametersKey a.parametersText).1 = .ok () ∧
      ∃ s', s' = (KeyValue.set s side.parametersKey a.parametersText).2 ∧
        ((∃ e, (KeyValue.set s' side.expressionKey a.expression).1 = .error e ∧
          (write side a).run s
            = ⟨.error e, (KeyValue.set s' side.expressionKey a.expression).2, []⟩) ∨
        (KeyValue.set s' side.expressionKey a.expression).1 = .ok () ∧
          (write side a).run s
            = ⟨.ok (), (KeyValue.set s' side.expressionKey a.expression).2, [.persisted]⟩) := by
  cases hp : (KeyValue.set s side.parametersKey a.parametersText).1 with
  | error e => exact .inl ⟨e, rfl, by simp [write, Action.run_bind, hp]⟩
  | ok =>
    refine .inr ⟨rfl, _, rfl, ?_⟩
    cases he : (KeyValue.set (KeyValue.set s side.parametersKey a.parametersText).2
        side.expressionKey a.expression).1 with
    | error e => exact .inl ⟨e, rfl, by simp [write, Action.run_bind, hp, he]⟩
    | ok => exact .inr ⟨rfl, by simp [write, Action.run_bind, hp, he]⟩

/-- The record of a write of a side: it fails if one of the writes that it attempted was
refused, and only then. -/
theorem write_fails_iff (s : σ) (side : Side) (a : Artifact) :
    (∃ e, ((write side a).run s).result = .error e) ↔
      ∃ attempt ∈ ((write side a).run (Recorded.start s)).store.attempts,
        attempt.accepted = false := by
  have hisOk : ∀ r : Except Failure Unit, r.isOk = false ↔ ∃ e, r = .error e := by
    intro r
    cases r <;> simp [Except.isOk, Except.toBool]
  rcases write_cases s side a with ⟨e, hp, -⟩ | ⟨hp, s', rfl, ⟨e, he, -⟩ | ⟨he, -⟩⟩
  · simp [write, Action.run_bind, Recorded.start, hisOk, hp]
  · simp [write, Action.run_bind, Recorded.start, hisOk, hp, he]
  · simp [write, Action.run_bind, Recorded.start, hisOk, hp, he]

/-- **Writing** a side of a store that does not fail succeeds and changes its two keys
only. -/
theorem run_write (h : r.Works s) (side : Side) (a : Artifact) :
    ((write side a).run s).result = .ok () ∧ r.Works ((write side a).run s).store ∧
      r.contents ((write side a).run s).store = withArtifact (r.contents s) side a := by
  have h' := r.set_works h side.parametersKey a.parametersText
  have hresult := r.set_result h side.parametersKey a.parametersText
  have hresult' := r.set_result h' side.expressionKey a.expression
  have hrun : (write side a).run s
      = ⟨.ok (), (KeyValue.set (KeyValue.set s side.parametersKey a.parametersText).2
          side.expressionKey a.expression).2, [.persisted]⟩ := by
    simp [write, Action.run_bind, hresult, hresult']
  rw [hrun]
  refine ⟨rfl, r.set_works h' _ _, ?_⟩
  rw [r.set_contents h', r.set_contents h]
  rfl

/-- Writing a side again makes the earlier write undone. -/
theorem withArtifact_withArtifact (contents : String → Option String) (side : Side)
    (a b : Artifact) :
    withArtifact (withArtifact contents side a) side b = withArtifact contents side b := by
  funext key
  simp only [withArtifact, Function.update_apply]
  split
  · rfl
  · split <;> rfl

/-! ### Reading and writing as functions of what is held -/

theorem computes_read (side : Side) :
    r.Computes (read side) (fun held => artifactIn held side) id :=
  (yields_read r.faithful.readable side).computes

theorem computes_write (side : Side) (a : Artifact) :
    r.Computes (write side a) (fun _ => ()) (fun held => withArtifact held side a) := by
  refine ⟨fun s h => ?_⟩
  obtain ⟨hresult, hworks, hcontents⟩ := run_write r h side a
  exact ⟨_, _, by rw [← hresult], hworks, hcontents⟩

/-! ### Reading what was written -/

/-- What was written decodes again and is not taken for nothing. -/
structure Survives (a : Artifact) : Prop where
  parameters : ParameterSet.listOfText a.parametersText = .ok a.parameters
  parametersText : a.parametersText ≠ ""
  expression : a.expression ≠ ""

theorem stored_of_ne_empty {contents : String → Option String} {key text : String}
    (h : contents key = some text) (hne : text ≠ "") : stored contents key = some text := by
  rw [stored, h, Option.filter_some, if_pos]
  simpa using String.isEmpty_eq_false_iff.mpr hne

theorem artifactIn_eq_some {contents : String → Option String} {side : Side} {a : Artifact}
    (h : Survives a) (hp : contents side.parametersKey = some a.parametersText)
    (he : contents side.expressionKey = some a.expression) :
    artifactIn contents side = some a := by
  rw [artifactIn, stored_of_ne_empty hp h.parametersText, stored_of_ne_empty he h.expression]
  simp [h.parameters, Except.toOption]

/-- What survives is read where both texts are stored. -/
theorem result_read_eq_some {a : Artifact} (ha : Survives a) (h : f.Works s) {side : Side}
    (hp : f.contents s side.parametersKey = some a.parametersText)
    (he : f.contents s side.expressionKey = some a.expression) :
    ((read side).run s).result = .ok (some a) := by
  rw [result_read_of_faithful f h, artifactIn_eq_some ha hp he]

theorem artifactIn_withArtifact {a : Artifact} (h : Survives a) (contents : String → Option String)
    (side : Side) : artifactIn (withArtifact contents side a) side = some a :=
  artifactIn_eq_some h (withArtifact_parametersKey contents side a)
    (withArtifact_expressionKey contents side a)

/-- The other side has other keys. -/
theorem artifactIn_withArtifact_of_ne (a : Artifact) (contents : String → Option String)
    {side other : Side} (h : other ≠ side) :
    artifactIn (withArtifact contents side a) other = artifactIn contents other := by
  have hkey : ∀ key ∈ keys other,
      stored (withArtifact contents side a) key = stored contents key := by
    intro key hk
    rw [stored, withArtifact_of_not_mem contents (not_mem_keys_of_ne h key hk), stored]
  rw [artifactIn, hkey _ (by simp [keys]), hkey _ (by simp [keys]), artifactIn]

/-- The parameters of any draft beside the expression of a draft with a group survive. -/
theorem survives_of_drafts (d : Draft) {d' : Draft} (h : d'.groups ≠ []) :
    Survives ⟨d.parameterSets, d'.expression⟩ where
  parameters := d.listOfText_compile
  parametersText := d.parametersText_ne_empty
  expression := Draft.expression_ne_empty h

/-- The artifacts of an edited draft survive. -/
theorem survives_compile (es : List Edit) : Survives (Draft.blank.applyAll es).compile :=
  survives_of_drafts _ (Draft.wellFormed_edited es).nonempty

/-- **Stored artifacts are read back unchanged.** On a store that does not fail, whatever
it holds, writing the artifacts of an edited draft succeeds, reading the side afterwards
yields the same artifacts, and reading any other side yields what it did before. -/
theorem read_write_compile (es : List Edit) (side : Side) (h : r.Works s) :
    ((write side (Draft.blank.applyAll es).compile).run s).result = .ok () ∧
    ((read side).run ((write side (Draft.blank.applyAll es).compile).run s).store).result
      = .ok (some (Draft.blank.applyAll es).compile) ∧
    ∀ other, other ≠ side →
      ((read other).run ((write side (Draft.blank.applyAll es).compile).run s).store).result
        = ((read other).run s).result := by
  obtain ⟨hresult, hworks, hcontents⟩ := run_write r h side (Draft.blank.applyAll es).compile
  refine ⟨hresult, ?_, fun other hother => ?_⟩
  · rw [result_read r hworks, hcontents, artifactIn_withArtifact (survives_compile es)]
  · rw [result_read r hworks, result_read r h, hcontents, artifactIn_withArtifact_of_ne _ _ hother]

/-- Edits that lead to a number JSON cannot express, a text with characters that are
escaped and a parameter that the indicator does not have. -/
def oddEdits : List Edit :=
  [.change 0 0 (.kind "HeikenAshi"), .change 0 0 (.parameter "candle_number" "many"),
    .change 0 0 (.parameter "candle_state" "a \"b\"\n"), .change 0 0 (.parameter "note" "ü")]

/-- A workspace that holds one side, and a text that is no parameter array for the other. -/
def usedWorkspace : Workspace :=
  ⟨Disk.empty, .memory [("buy", "?"), ("buy_exp", "___"), ("sell", "[]"), ("sell_exp", "___")]⟩

theorem read_write_oddEdits :
    (∃ contents, usedWorkspace.backend = .memory contents) ∧
    ((write .buy (Draft.blank.applyAll oddEdits).compile).run usedWorkspace).result = .ok () ∧
    ((read .buy).run
        ((write .buy (Draft.blank.applyAll oddEdits).compile).run usedWorkspace).store).result
      = .ok (some (Draft.blank.applyAll oddEdits).compile) ∧
    ∀ other, other ≠ .buy →
      ((read other).run
          ((write .buy (Draft.blank.applyAll oddEdits).compile).run usedWorkspace).store).result
        = ((read other).run usedWorkspace).result :=
  ⟨⟨_, rfl⟩, read_write_compile Workspace.reliable oddEdits .buy ⟨_, rfl⟩⟩

end Archive
end IndicatorStrategy
