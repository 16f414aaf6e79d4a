import Mathlib
import IndicatorStrategy.Proofs.Session.Run
/-!
# IndicatorStrategy.Proofs.Session.Effect

**Sessions on a store that does not fail.** Every edit of a session stores the artifacts
of its draft, and each time both keys of the side are written. So only the last of the
edits leaves something behind.
-/

namespace IndicatorStrategy
namespace Session

open Archive (artifactIn withArtifact)
open KeyValue (Held Reliable)

variable {σ : Type} [KeyValue σ] {r : Reliable σ}

/-- What a store holds after a session has stored one edit after the other. -/
def storedAll (s : Session) (held : Held) : List Edit → Held
  | [] => held
  | e :: es => (s.edit e).storedAll (withArtifact held s.side (s.edit e).compiled) es

/-- Only what the last of the edits stored is left. -/
theorem storedAll_eq (s : Session) (held : Held) (es : List Edit) :
    s.storedAll held es
      = if es.isEmpty then held else withArtifact held s.side (s.follow es).compiled := by
  induction es generalizing s held with
  | nil => rfl
  | cons e es ih =>
    rw [storedAll, ih]
    cases es with
    | nil => rfl
    | cons f es => exact Archive.withArtifact_withArtifact held s.side _ _

/-- What edits have stored is gone after the next write of the side. -/
theorem withArtifact_storedAll (s : Session) (held : Held) (es : List Edit) (a : Artifact) :
    withArtifact (s.storedAll held es) s.side a = withArtifact held s.side a := by
  rw [storedAll_eq]
  split
  · rfl
  · exact Archive.withArtifact_withArtifact held s.side _ a

theorem computes_open (side : Side) :
    r.Computes (Session.open side) (fun held => start side (artifactIn held side)) id := by
  refine (Archive.computes_read r side).bind
    (u := fun persisted? _ => start side persisted?) (g := fun _ => id) ?_
  intro persisted?
  cases persisted? with
  | none => exact .pure _
  | some a => exact (KeyValue.Reliable.Computes.log _).bind fun _ => .pure _

theorem computes_apply (s : Session) (e : Edit) :
    r.Computes (s.apply e) (fun _ => s.edit e)
      (fun held => withArtifact held s.side (s.edit e).compiled) := by
  refine ⟨fun w h => ?_⟩
  obtain ⟨log, hrun⟩ := s.run_apply e w
  have hwrite := Archive.computes_write r s.side (s.edit e).compiled
  exact ⟨_, log, hrun, hwrite.works h, hwrite.contents h⟩

theorem computes_applyAll (s : Session) (es : List Edit) :
    r.Computes (s.applyAll es) (fun _ => s.follow es) (fun held => s.storedAll held es) := by
  induction es generalizing s with
  | nil => exact .pure _
  | cons e es ih =>
    have hrest : ∀ next, next = s.edit e → r.Computes (next.applyAll es)
        (fun _ => (s.edit e).follow es) (fun held => (s.edit e).storedAll held es) := by
      rintro _ rfl
      exact ih (s.edit e)
    exact (s.computes_apply e).bind_const hrest

theorem computes_save (s : Session) :
    r.Computes s.save (fun _ => ()) (fun held => withArtifact held s.side s.compiled) :=
  Archive.computes_write r s.side s.compiled

/-- Whether a step stores anything. -/
def Step.writes : Step → Bool
  | apply _ => true
  | applyAll es => !es.isEmpty
  | save => true

theorem Step.edits_of_not_writes {step : Step} (h : step.writes = false) : step.edits = [] := by
  cases step with
  | apply e => cases h
  | applyAll es => simpa [writes, edits] using h
  | save => rfl

/-- **A step** that stores anything leaves the artifacts of the session after the step. -/
theorem computes_perform (s : Session) (step : Step) :
    r.Computes (s.perform step) (fun _ => s.follow step.edits) (fun held =>
      if step.writes then withArtifact held s.side (s.follow step.edits).compiled else held) := by
  cases step with
  | apply e => exact s.computes_apply e
  | applyAll es =>
    refine (s.computes_applyAll es).congr (fun _ => rfl) fun held => ?_
    rw [storedAll_eq]
    cases es <;> rfl
  | save => exact s.computes_save.bind_const fun _ _ => .pure s

end Session
end IndicatorStrategy
