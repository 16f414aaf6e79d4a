import IndicatorStrategy.Proofs.Session.Effect
import IndicatorStrategy.Proofs.Session.Following
/-!
# IndicatorStrategy.Proofs.Session.Overwriting

**A session replaces what was stored.** A new session has a blank draft, whatever is stored
for its side. The first step that stores anything puts the artifacts of the draft in the
place of what was stored, and the last one decides what is left. So a save without an edit,
or an edit that changes nothing, leaves the artifacts of a blank draft behind; what was
stored before is on show until the first edit and held by the session alone.
-/

namespace IndicatorStrategy
namespace Session

open Archive (artifactIn withArtifact)
open KeyValue (Held Reliable)

variable {σ : Type} [KeyValue σ] {r : Reliable σ} {side : Side}

/-! ### Runs of one session -/

theorem computes_take_step {s : Session} (hs : s.InSync side) (step : Step) :
    r.Computes (take side [s] (.step 0 step)) (fun _ => [s.follow step.edits]) (fun held =>
      if step.writes then withArtifact held side (s.follow step.edits).compiled else held) := by
  have hperform := s.computes_perform (r := r) step
  rw [hs.side] at hperform
  refine ⟨fun w hw => ?_⟩
  have hfirst : [s][0]? = some s := rfl
  obtain ⟨log, hrun⟩ := run_take_step side hfirst step w
  exact ⟨_, log, hrun, hperform.works hw, hperform.contents hw⟩

theorem flatMap_edits_of_not_writes {steps : List Step} (h : steps.any Step.writes = false) :
    steps.flatMap Step.edits = [] :=
  List.flatMap_eq_nil_iff.mpr fun step hstep =>
    step.edits_of_not_writes (Bool.eq_false_iff.mpr (List.any_eq_false.mp h step hstep))

/-- **The steps of a session** leave the artifacts of the session after all of them, if any of
them stores anything. -/
theorem computes_takeAll {s : Session} (hs : s.InSync side) (steps : List Step) :
    r.Computes (takeAll side [s] (turnsOfOne steps))
      (fun _ => [s.follow (steps.flatMap Step.edits)]) (fun held =>
        if steps.any Step.writes then
          withArtifact held side (s.follow (steps.flatMap Step.edits)).compiled
        else held) := by
  induction steps generalizing s with
  | nil => exact .pure _
  | cons step steps ih =>
    have hrest : ∀ next, next = [s.follow step.edits] → r.Computes
        (takeAll side next (turnsOfOne steps))
        (fun _ => [s.follow ((step :: steps).flatMap Step.edits)]) (fun held =>
          if steps.any Step.writes then
            withArtifact held side (s.follow ((step :: steps).flatMap Step.edits)).compiled
          else held) := by
      rintro _ rfl
      rw [List.flatMap_cons, follow_append]
      exact ih (hs.follow step.edits)
    refine ((computes_take_step hs step).bind_const hrest).congr (fun _ => rfl) fun held => ?_
    rw [List.any_cons]
    cases hwrites : steps.any Step.writes with
    | true =>
      cases step.writes with
      | true => exact Archive.withArtifact_withArtifact held side _ _
      | false => rfl
    | false =>
      -- without a write there are no edits either, so the first step has the last word
      rw [List.flatMap_cons, flatMap_edits_of_not_writes hwrites, List.append_nil, Bool.or_false]
      rfl

/-- **A run of one session** from its opening on. -/
theorem computes_takeAll_opening (side : Side) (steps : List Step) :
    r.Computes (takeAll side [] (.opening :: turnsOfOne steps))
      (fun held => [(start side (artifactIn held side)).follow (steps.flatMap Step.edits)])
      (fun held => if steps.any Step.writes then
        withArtifact held side (Draft.blank.applyAll (steps.flatMap Step.edits)).compile
      else held) := by
  refine ⟨fun w hw => ?_⟩
  obtain ⟨w', log, hopen, hworks, hcontents⟩ := (computes_open (r := r) side).run w hw
  have htake : (take side [] .opening).run w
      = ⟨.ok [start side (artifactIn (r.contents w) side)], w', log ++ []⟩ :=
    Action.run_bind_of_ok hopen
  have hsync := inSync_start side (artifactIn (r.contents w) side)
  obtain ⟨w'', log', hrun, hworks', hcontents'⟩ :=
    (computes_takeAll (r := r) hsync steps).run w' hworks
  rw [(hsync.follow _).compiled, draft_follow, hcontents] at hcontents'
  refine ⟨w'', log ++ [] ++ log', ?_, hworks', hcontents'⟩
  rw [takeAll, Action.run_bind_of_ok htake, hrun]

/-- **What a new session shows and leaves behind.** On a store that does not fail, opening a
session and taking steps comes to a session with all edits of the steps. It shows what was
read when it was opened, unless there was an edit, and what is read afterwards is the same,
unless a step stored anything; otherwise both are the artifacts of its draft. -/
theorem exists_run_opening (r : Reliable σ) {w : σ} (hw : r.Works w) {side : Side}
    {c? : Option Artifact} (hread : ((Archive.read side).run w).result = .ok c?)
    (steps : List Step) :
    let draft := Draft.blank.applyAll (steps.flatMap Step.edits)
    ∃ x w' log, (takeAll side [] (.opening :: turnsOfOne steps)).run w = ⟨.ok [x], w', log⟩ ∧
      x.draft = draft ∧
      x.displayed
        = (if (steps.flatMap Step.edits).isEmpty then c?.getD draft.compile else draft.compile) ∧
      ((Archive.read side).run w').result
        = .ok (if steps.any Step.writes then some draft.compile else c?) := by
  intro draft
  have hstored : artifactIn (r.contents w) side = c? := by
    rw [Archive.result_read r hw] at hread
    exact Except.ok.inj hread
  obtain ⟨w', log, hrun, hworks, hcontents⟩ :=
    (computes_takeAll_opening (r := r) side steps).run w hw
  rw [hstored] at hrun
  have hdraft : ((start side c?).follow (steps.flatMap Step.edits)).draft = draft :=
    draft_follow _ _
  refine ⟨_, w', log, hrun, hdraft, ?_, ?_⟩
  · rw [displayed_follow_start, ((inSync_start side c?).follow _).compiled, hdraft]
  · rw [Archive.result_read r hworks, hcontents]
    split
    · rw [Archive.artifactIn_withArtifact (Archive.survives_compile _)]
    · rw [hstored]

/-! ### Runs that change no draft -/

theorem applyAll_of_fixed {d : Draft} {es : List Edit} (h : ∀ e ∈ es, d.apply e = d) :
    d.applyAll es = d := by
  induction es with
  | nil => rfl
  | cons e es ih =>
    rw [Draft.applyAll_cons, h e List.mem_cons_self]
    exact ih fun f hf => h f (List.mem_cons_of_mem _ hf)

/-- **A session whose edits change nothing.** On a store that does not fail, let artifacts be
stored for a side, and let a new session of the side be saved and edited with edits that
leave its blank draft as it is. What was stored is on show as long as there was no edit, and
the artifacts of the blank draft are afterwards; what was stored is read back as long as
nothing was saved or edited, and afterwards the artifacts of the blank draft are. -/
theorem read_takeAll_idle (r : Reliable σ) {w : σ} (hw : r.Works w) {side : Side} {c : Artifact}
    (hread : ((Archive.read side).run w).result = .ok (some c)) {steps : List Step}
    (hidle : ∀ step ∈ steps, ∀ e ∈ step.edits, Draft.blank.apply e = Draft.blank) :
    ∃ x w' log, (takeAll side [] (.opening :: turnsOfOne steps)).run w = ⟨.ok [x], w', log⟩ ∧
      x.draft = .blank ∧
      x.displayed
        = (if (steps.flatMap Step.edits).isEmpty then c else Draft.blank.compile) ∧
      ((Archive.read side).run w').result
        = .ok (some (if steps.any Step.writes then Draft.blank.compile else c)) := by
  have hblank : Draft.blank.applyAll (steps.flatMap Step.edits) = Draft.blank := by
    refine applyAll_of_fixed fun e he => ?_
    obtain ⟨step, hstep, he⟩ := List.mem_flatMap.mp he
    exact hidle step hstep e he
  have hrun := exists_run_opening r hw hread steps
  simp only [hblank, Option.getD_some] at hrun
  obtain ⟨x, w', log, hrun, hdraft, hdisplayed, hafter⟩ := hrun
  refine ⟨x, w', log, hrun, hdraft, hdisplayed, ?_⟩
  rw [hafter]
  split <;> rfl

/-- Edits that lead to a single condition. -/
def storedEdits : List Edit := [.change 0 0 (.kind "Rsi")]

/-- The artifacts of these edits. -/
def storedArtifact : Artifact := (Draft.blank.applyAll storedEdits).compile

/-- A store that holds them for one side. -/
def oneSideStore : Memory :=
  ⟨[("buy", storedArtifact.parametersText), ("buy_exp", storedArtifact.expression)]⟩

theorem read_oneSideStore :
    ((Archive.read .buy).run oneSideStore).result = .ok (some storedArtifact) :=
  Archive.result_read_eq_some Memory.reliable.faithful (Archive.survives_compile storedEdits)
    trivial rfl rfl

/-- Edits of a blank draft that find nothing to act on, and saves between them. -/
def idleSteps : List Step :=
  [.save, .apply (.removeGroup 0), .applyAll [.removeEntry 0 0, .addEntry 1], .save,
    .apply (.change 0 0 (.constant .zero))]

theorem read_takeAll_idleSteps :
    ((Archive.read .buy).run oneSideStore).result = .ok (some storedArtifact) ∧
    (∀ step ∈ idleSteps, ∀ e ∈ step.edits, Draft.blank.apply e = Draft.blank) ∧
    ∃ x w' log, (takeAll .buy [] (.opening :: turnsOfOne idleSteps)).run oneSideStore
        = ⟨.ok [x], w', log⟩ ∧
      x.draft = .blank ∧ x.displayed = Draft.blank.compile ∧
      ((Archive.read .buy).run w').result = .ok (some Draft.blank.compile) := by
  have hidle : ∀ step ∈ idleSteps, ∀ e ∈ step.edits, Draft.blank.apply e = Draft.blank := by
    decide
  exact ⟨read_oneSideStore, hidle,
    read_takeAll_idle Memory.reliable trivial read_oneSideStore hidle⟩

/-- A save alone replaces what was stored, and so does an edit that changes nothing; the
latter also takes it from show. -/
theorem takeAll_overwrites :
    ((Archive.read .buy).run oneSideStore).result = .ok (some storedArtifact) ∧
    Draft.blank.compile ≠ storedArtifact ∧ Draft.blank.apply (.removeGroup 0) = Draft.blank ∧
    (∃ x w' log, (takeAll .buy [] (.opening :: turnsOfOne [.save])).run oneSideStore
        = ⟨.ok [x], w', log⟩ ∧
      ((Archive.read .buy).run w').result = .ok (some Draft.blank.compile)) ∧
    ∃ x w' log, (takeAll .buy [] (.opening :: turnsOfOne [.apply (.removeGroup 0)])).run
        oneSideStore = ⟨.ok [x], w', log⟩ ∧
      x.displayed = Draft.blank.compile ∧
      ((Archive.read .buy).run w').result = .ok (some Draft.blank.compile) := by
  have hne : Draft.blank.compile ≠ storedArtifact :=
    fun h => absurd (congrArg Artifact.expression h) (by decide)
  obtain ⟨x, w₁, log₁, hsave, -, -, hsaved⟩ :=
    exists_run_opening Memory.reliable trivial read_oneSideStore [.save]
  obtain ⟨y, w₂, log₂, hedit, -, hshown, hedited⟩ :=
    exists_run_opening Memory.reliable trivial read_oneSideStore [.apply (.removeGroup 0)]
  exact ⟨read_oneSideStore, hne, by decide, ⟨x, w₁, log₁, hsave, hsaved⟩,
    y, w₂, log₂, hedit, hshown, hedited⟩

end Session
end IndicatorStrategy
