import IndicatorStrategy.Proofs.Request
import IndicatorStrategy.Proofs.Store.Archive
import IndicatorStrategy.Proofs.Store.Objects
/-!
# IndicatorStrategy.Proofs.Store.Readers

**Two readers of one store agree.** The archive takes an empty text for none, whereas a
request takes any blank text for none and a corrupt parameter array for an empty one. A
blank text is no parameter array, so wherever the archive finds artifacts the request
holds the same ones, and wherever it finds none the request lacks parameters or an
expression for that side.
-/

namespace IndicatorStrategy

open KeyValue (Held Readable)

/-- A text that lists parameter sets is not blank. -/
theorem ParameterSet.isBlank_of_listOfText {text : String} {sets : List ParameterSet}
    (h : listOfText text = .ok sets) : isBlank text = false := by
  refine eq_false_of_ne_true fun hblank => ?_
  rw [listOfText, Json.decode, JsonFile.document_of_isBlank hblank] at h
  cases h

namespace Request

variable {held : Held} {side : Side}

theorem expressionIn_of_stored {expression : String}
    (h : Archive.stored held side.expressionKey = some expression) :
    expressionIn held side = expression := by
  obtain ⟨hheld, -⟩ := Option.filter_eq_some_iff.mp h
  rw [expressionIn, hheld, Option.getD_some]

/-- What does not count as stored is an empty expression. -/
theorem expressionIn_of_not_stored (h : Archive.stored held side.expressionKey = none) :
    expressionIn held side = "" := by
  rw [Archive.stored, Option.filter_eq_none_iff] at h
  rw [expressionIn]
  cases hheld : held side.expressionKey with
  | none => rfl
  | some expression => simpa using h expression hheld

/-- A text that counts as stored and lists parameter sets is where they come from. -/
theorem parametersIn_of_stored {parameters : String} {sets : List ParameterSet}
    (h : Archive.stored held side.parametersKey = some parameters)
    (hsets : ParameterSet.listOfText parameters = .ok sets) : parametersIn held side = sets := by
  obtain ⟨hheld, -⟩ := Option.filter_eq_some_iff.mp h
  have htext : textIn held side.parametersKey = some parameters := by
    rw [textIn, hheld, Option.filter_some, ParameterSet.isBlank_of_listOfText hsets]
    rfl
  rw [parametersIn, htext, Option.elim_some, hsets]
  rfl

/-- Parameter sets in a request were listed by a text that counts as stored. -/
theorem exists_of_parametersIn_ne_nil (h : parametersIn held side ≠ []) :
    ∃ parameters, Archive.stored held side.parametersKey = some parameters ∧
      ParameterSet.listOfText parameters = .ok (parametersIn held side) := by
  unfold parametersIn at h ⊢
  cases htext : textIn held side.parametersKey with
  | none => exact absurd (by rw [htext]; rfl) h
  | some parameters =>
    rw [htext, Option.elim_some] at h
    rw [Option.elim_some]
    cases hsets : ParameterSet.listOfText parameters with
    | error e => exact absurd (by rw [hsets]; rfl) h
    | ok sets =>
      obtain ⟨hheld, hblank⟩ := Option.filter_eq_some_iff.mp htext
      have hne : parameters ≠ "" := by
        rintro rfl
        simp [isBlank] at hblank
      exact ⟨parameters, Archive.stored_of_ne_empty hheld hne, hsets⟩

/-- Artifacts that are read go into the request. -/
theorem artifact_requestIn_of_artifactIn {a : Artifact}
    (h : Archive.artifactIn held side = some a) (given : Selection) :
    (requestIn held given).artifact side = a := by
  obtain ⟨parameters, hp, he, hsets⟩ := Archive.exists_of_artifactIn h
  rw [artifact_requestIn, expressionIn_of_stored he, parametersIn_of_stored hp hsets]

/-- What a request holds for a side, unless one of the two is missing, is read. -/
theorem artifactIn_eq_artifact_requestIn {given : Selection}
    (hp : ((requestIn held given).artifact side).parameters ≠ [])
    (he : ((requestIn held given).artifact side).expression ≠ "") :
    Archive.artifactIn held side = some ((requestIn held given).artifact side) := by
  rw [artifact_requestIn] at hp he ⊢
  obtain ⟨parameters, hstored, hsets⟩ := exists_of_parametersIn_ne_nil hp
  cases hexpression : Archive.stored held side.expressionKey with
  | none => exact absurd (expressionIn_of_not_stored hexpression) he
  | some expression =>
    rw [Archive.artifactIn, hstored, hexpression, expressionIn_of_stored hexpression]
    simp [hsets, Except.toOption]

/-- **The request and the archive agree** on every store that can be read, whatever it
holds. Both readers succeed; what the archive reads for a side is what the request holds
for it, and where the archive reads nothing the request has no parameters or no
expression. -/
theorem artifact_assemble {σ : Type} [KeyValue σ] (r : Readable σ) {s : σ} (h : r.Works s)
    (given : Selection) (side : Side) :
    ∃ q found?, ((assemble given).run s).result = .ok q ∧
      ((Archive.read side).run s).result = .ok found? ∧
      (∀ a, found? = some a → q.artifact side = a) ∧
      (found? = none →
        (q.artifact side).parameters = [] ∨ (q.artifact side).expression = "") ∧
      ((q.artifact side).parameters ≠ [] → (q.artifact side).expression ≠ "" →
        found? = some (q.artifact side)) := by
  refine ⟨_, _, (yields_assemble given).result h, (Archive.yields_read r side).result h,
    fun a ha => artifact_requestIn_of_artifactIn ha given, fun hnone => ?_,
    fun hp he => artifactIn_eq_artifact_requestIn hp he⟩
  by_contra hboth
  obtain ⟨hp, he⟩ := not_or.mp hboth
  have hfound := artifactIn_eq_artifact_requestIn hp he
  rw [hnone] at hfound
  cases hfound

/-- A store that refuses its next write, with a blank text in place of the parameters of
one side: the archive takes it for a corrupt array and a request for a missing one. -/
def blankedStore : Scripted := ⟨[("buy", "\t "), ("buy_exp", "SMA14above")], [true]⟩

theorem artifact_assemble_blankedStore :
    Scripted.faithful.readable.Works blankedStore ∧
    ∃ q found?, ((assemble ⟨none, some 30⟩).run blankedStore).result = .ok q ∧
      ((Archive.read .buy).run blankedStore).result = .ok found? ∧
      (∀ a, found? = some a → q.artifact .buy = a) ∧
      (found? = none →
        (q.artifact .buy).parameters = [] ∨ (q.artifact .buy).expression = "") ∧
      ((q.artifact .buy).parameters ≠ [] → (q.artifact .buy).expression ≠ "" →
        found? = some (q.artifact .buy)) :=
  ⟨trivial, artifact_assemble Scripted.faithful.readable trivial ⟨none, some 30⟩ .buy⟩

end Request
end IndicatorStrategy
