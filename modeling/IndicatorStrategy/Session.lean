import IndicatorStrategy.Archive
import IndicatorStrategy.Artifact.Compile
import IndicatorStrategy.Draft.Edit
/-!
# IndicatorStrategy.Session

An **editing session** for one side. It starts from a blank draft, compiles after
every edit and stores what it compiled; a store that fails is reported and does not
undo the edit. Artifacts that were stored before are on show until the first edit.
-/

namespace IndicatorStrategy

/-- A side under edit. -/
structure Session where
  side : Side
  draft : Draft
  /-- The artifacts of the draft. -/
  compiled : Artifact
  /-- The artifacts that were stored when the session was opened. -/
  persisted? : Option Artifact
  edited : Bool

namespace Session

variable {σ : Type} [KeyValue σ]

/-- A session that has not been edited. -/
def start (side : Side) (persisted? : Option Artifact) : Session :=
  ⟨side, .blank, Draft.blank.compile, persisted?, false⟩

/-- Opens a session for a side. -/
def «open» (side : Side) : Action σ Session := do
  let persisted? ← Archive.read side
  if persisted?.isSome then Action.log .loadedPersisted
  return start side persisted?

/-- The session after an edit, before anything is stored. -/
def edit (s : Session) (e : Edit) : Session :=
  let draft := s.draft.apply e
  { s with draft, compiled := draft.compile, edited := true }

/-- Applies an edit and stores the result. -/
def apply (s : Session) (e : Edit) : Action σ Session := do
  let next := s.edit e
  Action.log .recompiled
  match ← Action.attempt (Archive.write next.side next.compiled) with
  | .ok _ => return next
  | .error _ =>
    Action.log .notPersisted
    return next

/-- Applies edits one after the other. -/
def applyAll (s : Session) : List Edit → Action σ Session
  | [] => return s
  | e :: es => do
    let next ← s.apply e
    next.applyAll es

/-- Stores the artifacts of the draft. -/
def save (s : Session) : Action σ Unit := Archive.write s.side s.compiled

/-- What is on show: the stored artifacts until the first edit, then those of the
draft. -/
def displayed (s : Session) : Artifact :=
  match s.persisted?, s.edited with
  | some a, false => a
  | _, _ => s.compiled

end Session
end IndicatorStrategy
