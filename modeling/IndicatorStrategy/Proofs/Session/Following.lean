import Mathlib
import IndicatorStrategy.Proofs.Session.Run
/-!
# IndicatorStrategy.Proofs.Session.Following

**A session follows its edits**, whatever the store does. Its draft is the blank draft
after all edits that it was given, its artifacts are those of this draft, and it goes on
remembering what was stored when it was opened. A store that refuses writes, now or then,
shows in the results of saves only.
-/

namespace IndicatorStrategy
namespace Session

/-! ### The parts of a session -/

theorem follow_append (s : Session) (es fs : List Edit) :
    s.follow (es ++ fs) = (s.follow es).follow fs := List.foldl_append ..

theorem persisted?_follow (s : Session) (es : List Edit) :
    (s.follow es).persisted? = s.persisted? := by
  induction es generalizing s with
  | nil => rfl
  | cons e es ih => exact ih (s.edit e)

theorem edited_follow (s : Session) (es : List Edit) :
    (s.follow es).edited = (s.edited || !es.isEmpty) := by
  induction es generalizing s with
  | nil => simp
  | cons e es ih =>
    rw [follow_cons, ih]
    simp [edit]

/-- What is on show after edits of a new session: what was stored, as long as there are
none. -/
theorem displayed_follow_start (side : Side) (persisted? : Option Artifact) (es : List Edit) :
    ((start side persisted?).follow es).displayed
      = if es.isEmpty then persisted?.getD ((start side persisted?).follow es).compiled
        else ((start side persisted?).follow es).compiled := by
  rw [displayed, persisted?_follow, edited_follow]
  cases persisted? with
  | none => cases es <;> rfl
  | some a => cases es <;> rfl

/-! ### Runs -/

variable {σ : Type} [KeyValue σ]

/-- Steps of the only session of a side. -/
def turnsOfOne (steps : List Step) : List Turn := steps.map fun step => .step 0 step

/-- **A run of one session** comes to the session that follows all edits of its steps. -/
theorem result_takeAll_turnsOfOne (side : Side) (s : Session) (steps : List Step) (w : σ) :
    ((takeAll side [s] (turnsOfOne steps)).run w).result
      = .ok [s.follow (steps.flatMap Step.edits)] := by
  induction steps generalizing s w with
  | nil => rfl
  | cons step steps ih =>
    have hfirst : [s][0]? = some s := rfl
    obtain ⟨log, hrun⟩ := run_take_step side hfirst step w
    have hrest := ih (s.follow step.edits) ((s.perform step).run w).store
    rw [turnsOfOne, List.map_cons, takeAll, Action.run_bind_of_ok hrun]
    rw [List.flatMap_cons, follow_append]
    exact hrest

/-- What a refusing store reads is what the store behind it reads. -/
theorem result_read_refusing (w : Refusing σ) (side : Side) :
    ((Archive.read side).run w).result = ((Archive.read side).run w.store).result := by
  refine Archive.result_read_congr (R := fun (w : Refusing σ) s => w.store = s) ?_ rfl side
  rintro w _ key rfl
  exact ⟨rfl, rfl⟩

/-- **A session follows its edits.** Whatever a store holds and whichever writes it refuses
in the course of the steps, opening a session and taking the steps comes to one and the same
session: its draft has all edits of the steps, its artifacts are those of the draft, it
remembers what was read when it was opened, and this is on show as long as no edit was
made. A save fails just if one of the writes that it attempted was refused. -/
theorem exists_takeAll_opening (side : Side) (steps : List Step) (s : σ) :
    ∃ x : Session,
      (∀ refusals, ((takeAll side [] (.opening :: turnsOfOne steps)).run
        (⟨s, refusals⟩ : Refusing σ)).result = .ok [x]) ∧
      x.draft = (steps.flatMap Step.edits).foldl Draft.apply Draft.blank ∧
      x.compiled = x.draft.compile ∧
      ((Archive.read side).run s).result = .ok x.persisted? ∧
      x.displayed = (if (steps.flatMap Step.edits).isEmpty then x.persisted?.getD x.compiled
        else x.compiled) ∧
      ∀ w : Refusing σ, (∃ e, (x.save.run w).result = .error e) ↔
        ∃ attempt ∈ (x.save.run (Recorded.start w)).store.attempts,
          attempt.accepted = false := by
  obtain ⟨persisted?, -, hread, -⟩ := run_open side s
  refine ⟨(start side persisted?).follow (steps.flatMap Step.edits), fun refusals => ?_,
    draft_follow _ _, ((inSync_start side persisted?).follow _).compiled, ?_, ?_,
    fun w => Archive.write_fails_iff w _ _⟩
  -- only writes are refused, so the session that is opened is the same for all refusals
  · obtain ⟨persisted?', log, hread', hrun⟩ := run_open side (⟨s, refusals⟩ : Refusing σ)
    rw [result_read_refusing, hread, Except.ok.injEq] at hread'
    have hopen : (take side [] .opening).run (⟨s, refusals⟩ : Refusing σ) = _ :=
      Action.run_bind_of_ok hrun
    rw [takeAll, Action.run_bind_of_ok hopen, ← hread']
    exact result_takeAll_turnsOfOne side _ steps _
  · rw [persisted?_follow]
    exact hread
  · rw [displayed_follow_start, persisted?_follow]
    rfl

end Session
end IndicatorStrategy
