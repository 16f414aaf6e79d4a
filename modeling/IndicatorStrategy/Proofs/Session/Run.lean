import Mathlib
import IndicatorStrategy.Session
import IndicatorStrategy.Proofs.Store.Archive
/-!
# IndicatorStrategy.Proofs.Session.Run

**Runs of the sessions of a side.** A session is opened and then takes steps; several
sessions of one side may be open at a time and share the store. What a step does to a
session does not depend on the store: the session follows its edits (`Session.follow`).
What it does to the store is what the writes of its drafts do.

`draftsHad` lists the drafts that the sessions of a run lead through, in between the
edits of one step too.
-/

namespace IndicatorStrategy
namespace Session

/-! ### Steps -/

/-- What can be done with an open session. -/
inductive Step
  | apply (edit : Edit)
  | applyAll (edits : List Edit)
  | save
  deriving DecidableEq

/-- The edits that a step makes. -/
def Step.edits : Step → List Edit
  | apply e => [e]
  | applyAll es => es
  | save => []

/-- The session after edits, before anything is stored. -/
def follow (s : Session) (es : List Edit) : Session := es.foldl edit s

@[simp] theorem follow_nil (s : Session) : s.follow [] = s := rfl

@[simp] theorem follow_cons (s : Session) (e : Edit) (es : List Edit) :
    s.follow (e :: es) = (s.edit e).follow es := rfl

/-- The artifacts of a session of a side are those of its draft. -/
structure InSync (side : Side) (s : Session) : Prop where
  side : s.side = side
  compiled : s.compiled = s.draft.compile

theorem inSync_start (side : Side) (persisted? : Option Artifact) :
    (start side persisted?).InSync side := ⟨rfl, rfl⟩

theorem InSync.edit {side : Side} {s : Session} (h : s.InSync side) (e : Edit) :
    (s.edit e).InSync side := ⟨h.side, rfl⟩

theorem InSync.follow {side : Side} {s : Session} (h : s.InSync side) (es : List Edit) :
    (s.follow es).InSync side := by
  induction es generalizing s with
  | nil => exact h
  | cons e es ih => exact ih (h.edit e)

theorem draft_follow (s : Session) (es : List Edit) :
    (s.follow es).draft = s.draft.applyAll es := by
  induction es generalizing s with
  | nil => rfl
  | cons e es ih => exact ih (s.edit e)

variable {σ : Type} [KeyValue σ]

/-- Takes a step. -/
def perform (s : Session) : Step → Action σ Session
  | .apply e => s.apply e
  | .applyAll es => s.applyAll es
  | .save => do
    s.save
    return s

/-- **An edit** takes effect whatever the store does, and does to the store what the
write of the new draft does. -/
theorem run_apply (s : Session) (e : Edit) (w : σ) :
    ∃ log, (s.apply e).run w
      = ⟨.ok (s.edit e),
          ((Archive.write s.side (s.edit e).compiled).run w).store, log⟩ := by
  rw [apply, Action.run_bind_of_ok (Action.run_log _ w),
    Action.run_bind_of_ok (Action.run_attempt _ w)]
  simp only [Session.edit]
  cases ((Archive.write s.side (s.draft.apply e).compile).run w).result with
  | ok => exact ⟨_, rfl⟩
  | error => exact ⟨_, rfl⟩

theorem result_applyAll (s : Session) (es : List Edit) (w : σ) :
    ((s.applyAll es).run w).result = .ok (s.follow es) := by
  induction es generalizing s w with
  | nil => rfl
  | cons e es ih =>
    obtain ⟨log, h⟩ := s.run_apply e w
    rw [applyAll, Action.run_bind_of_ok h]
    exact ih (s.edit e) _

theorem store_applyAll_cons (s : Session) (e : Edit) (es : List Edit) (w : σ) :
    ((s.applyAll (e :: es)).run w).store
      = (((s.edit e).applyAll es).run
          ((Archive.write s.side (s.edit e).compiled).run w).store).store := by
  obtain ⟨log, h⟩ := s.run_apply e w
  rw [applyAll, Action.run_bind_of_ok h]

theorem store_save (s : Session) (w : σ) :
    ((s.perform .save).run w).store = ((Archive.write s.side s.compiled).run w).store := by
  rw [perform, save, Action.run_bind]
  split <;> simp_all

/-- A step ends with the session that follows the edits of the step, or it is a save
that fails and makes none. -/
theorem result_perform (s : Session) (step : Step) (w : σ) :
    ((s.perform step).run w).result = .ok (s.follow step.edits) ∨
      s.follow step.edits = s ∧ ∃ e, ((s.perform step).run w).result = .error e := by
  cases step with
  | apply e =>
    obtain ⟨log, h⟩ := s.run_apply e w
    exact .inl (by rw [perform, h]; rfl)
  | applyAll es => exact .inl (s.result_applyAll es w)
  | save =>
    rw [perform, save, Action.run_bind]
    cases h : (Archive.write s.side s.compiled).run w with
    | mk result store log =>
      cases result with
      | ok => exact .inl rfl
      | error e => exact .inr ⟨rfl, e, rfl⟩

/-! ### Turns -/

/-- What can happen on a side: a session is opened, or one of the sessions that are
open takes a step. -/
inductive Turn
  | opening
  | step (session : Nat) (step : Step)
  deriving DecidableEq

/-- Takes a turn with the sessions of a side. A session whose step fails stays as it is. -/
def take (side : Side) (sessions : List Session) : Turn → Action σ (List Session)
  | .opening => do
    let s ← Session.open side
    return sessions ++ [s]
  | .step i step =>
    match sessions[i]? with
    | none => return sessions
    | some s => do
      match ← Action.attempt (s.perform step) with
      | .ok next => return sessions.set i next
      | .error _ => return sessions

/-- Takes turns one after the other. -/
def takeAll (side : Side) (sessions : List Session) : List Turn → Action σ (List Session)
  | [] => return sessions
  | t :: ts => do
    let next ← take side sessions t
    takeAll side next ts

/-- Opening a session does to the store what reading its side does. -/
theorem run_open (side : Side) (w : σ) :
    ∃ persisted? log, ((Archive.read side).run w).result = .ok persisted? ∧
      (Session.open side).run w
        = ⟨.ok (start side persisted?), ((Archive.read side).run w).store, log⟩ := by
  obtain ⟨persisted?, w', log, h, -⟩ :=
    Archive.exists_run_read (P := fun _ : σ => True) (fun _ _ _ => trivial) trivial (s := w) side
  rw [Session.open, h, Action.run_bind_of_ok h]
  cases persisted? with
  | none => exact ⟨_, _, rfl, rfl⟩
  | some a => exact ⟨_, _, rfl, rfl⟩

theorem run_take_opening (side : Side) (sessions : List Session) (w : σ) :
    ∃ persisted? log, (take side sessions .opening).run w
      = ⟨.ok (sessions ++ [start side persisted?]), ((Archive.read side).run w).store, log⟩ := by
  obtain ⟨persisted?, log, -, h⟩ := run_open side w
  exact ⟨persisted?, _, by rw [take, Action.run_bind_of_ok h]; rfl⟩

/-- A step leaves the session that follows its edits, and the store that the step
leaves, be the step a save that fails. -/
theorem run_take_step (side : Side) {sessions : List Session} {i : Nat} {s : Session}
    (hs : sessions[i]? = some s) (step : Step) (w : σ) :
    ∃ log, (take side sessions (.step i step)).run w
      = ⟨.ok (sessions.set i (s.follow step.edits)), ((s.perform step).run w).store, log⟩ := by
  rw [take, hs]
  simp only
  rw [Action.run_bind_of_ok (Action.run_attempt _ w)]
  rcases s.result_perform step w with h | ⟨hsame, e, h⟩
  · rw [h]
    exact ⟨_, rfl⟩
  · obtain ⟨hi, hget⟩ := List.getElem?_eq_some_iff.mp hs
    have hset : sessions.set i s = sessions := hget ▸ List.set_getElem_self hi
    rw [h, hsame, hset]
    exact ⟨_, rfl⟩

/-! ### The drafts of a run -/

/-- The drafts of the open sessions after a turn. -/
def Turn.after (drafts : List Draft) : Turn → List Draft
  | opening => drafts ++ [.blank]
  | step i st => drafts.modify i (·.applyAll st.edits)

/-- The drafts that a turn leads through, those before and after each edit. -/
def Turn.through (drafts : List Draft) : Turn → List Draft
  | opening => [.blank]
  | step i st => drafts[i]?.toList.flatMap fun d => st.edits.scanl Draft.apply d

/-- The drafts that the sessions of a side have in the course of turns. -/
def draftsHad (drafts : List Draft) : List Turn → List Draft
  | [] => []
  | t :: ts => t.through drafts ++ draftsHad (t.after drafts) ts

omit [KeyValue σ] in
theorem map_draft_set {sessions : List Session} {i : Nat} {s : Session}
    (hs : sessions[i]? = some s) (es : List Edit) :
    (sessions.set i (s.follow es)).map draft
      = (sessions.map draft).modify i (·.applyAll es) := by
  refine List.ext_getElem? fun j => ?_
  rw [List.getElem?_map, List.getElem?_modify, List.getElem?_map, List.getElem?_set]
  by_cases hj : i = j
  · subst hj
    obtain ⟨hi, rfl⟩ := List.getElem?_eq_some_iff.mp hs
    simp [hi, draft_follow]
  · simp [hj]

/-- A turn never fails, and the drafts of the sessions do not depend on the store. -/
theorem exists_run_take {side : Side} {sessions : List Session}
    (hsync : ∀ s ∈ sessions, s.InSync side) (t : Turn) (w : σ) :
    ∃ next w' log, (take side sessions t).run w = ⟨.ok next, w', log⟩ ∧
      (∀ s ∈ next, s.InSync side) ∧ next.map draft = t.after (sessions.map draft) := by
  cases t with
  | opening =>
    obtain ⟨persisted?, log, h⟩ := run_take_opening side sessions w
    refine ⟨_, _, _, h, fun s hs => ?_, by simp [Turn.after, start]⟩
    rcases List.mem_append.mp hs with hs | hs
    · exact hsync s hs
    · rw [List.mem_singleton.mp hs]
      exact inSync_start side persisted?
  | step i st =>
    cases hs : sessions[i]? with
    | none =>
      refine ⟨sessions, w, [], by simp [take, hs], hsync, ?_⟩
      have hi := List.getElem?_eq_none_iff.mp hs
      simp [Turn.after, List.modify_eq_self, hi]
    | some s =>
      obtain ⟨log, h⟩ := run_take_step side hs st w
      refine ⟨_, _, _, h, fun s' hs' => ?_, map_draft_set hs st.edits⟩
      rcases List.mem_or_eq_of_mem_set hs' with hs' | rfl
      · exact hsync s' hs'
      · exact (hsync s (List.mem_of_getElem? hs)).follow st.edits

/-! ### What a run keeps -/

section
variable {P : σ → Prop} {D : Draft → Prop} {side : Side}
  (hget : ∀ w key, P w → P (KeyValue.get w key).2)
  (hwrite : ∀ d, D d → ∀ w, P w → P ((Archive.write side d.compile).run w).store)
include hwrite

/-- A step keeps what the writes of the drafts that it leads through keep. -/
theorem store_perform {s : Session} (hs : s.InSync side) (step : Step)
    (hD : ∀ d ∈ step.edits.scanl Draft.apply s.draft, D d) {w : σ} (h : P w) :
    P ((s.perform step).run w).store := by
  have hedit (s : Session) (hs : s.InSync side) (e : Edit) (hd : D (s.draft.apply e)) (w : σ)
      (h : P w) : P ((Archive.write s.side (s.edit e).compiled).run w).store := by
    rw [hs.side]
    exact hwrite _ hd w h
  cases step with
  | apply e =>
    obtain ⟨log, hrun⟩ := s.run_apply e w
    rw [perform, hrun]
    exact hedit s hs e (hD _ (by simp [Step.edits])) w h
  | applyAll es =>
    rw [perform]
    simp only [Step.edits] at hD
    -- each edit of a sequence is written on its own, so session and store both vary
    induction es generalizing s w with
    | nil => exact h
    | cons e es ih =>
      rw [List.scanl_cons, List.forall_mem_cons] at hD
      rw [store_applyAll_cons]
      refine ih (hs.edit e) (hedit s hs e (hD.2 _ ?_) w h) hD.2
      cases es <;> simp
  | save =>
    rw [store_save, hs.side, hs.compiled]
    exact hwrite _ (hD _ (by simp [Step.edits])) w h

include hget

theorem store_take {sessions : List Session} (hsync : ∀ s ∈ sessions, s.InSync side) (t : Turn)
    (hD : ∀ d ∈ t.through (sessions.map draft), D d) {w : σ} (h : P w) :
    P ((take side sessions t).run w).store := by
  cases t with
  | opening =>
    obtain ⟨persisted?, log, hrun⟩ := run_take_opening side sessions w
    obtain ⟨_, _, _, hread, h'⟩ := Archive.exists_run_read hget h side
    rw [hrun, hread]
    exact h'
  | step i st =>
    cases hs : sessions[i]? with
    | none => simpa [take, hs] using h
    | some s =>
      obtain ⟨log, hrun⟩ := run_take_step side hs st w
      rw [hrun]
      refine store_perform hwrite (hsync s (List.mem_of_getElem? hs)) st (fun d hd => hD d ?_) h
      simpa [Turn.through, hs] using hd

/-- **A run keeps** what reading and the writes of the drafts that it leads through keep. -/
theorem store_takeAll {sessions : List Session} (hsync : ∀ s ∈ sessions, s.InSync side)
    (turns : List Turn) (hD : ∀ d ∈ draftsHad (sessions.map draft) turns, D d) {w : σ}
    (h : P w) : P ((takeAll side sessions turns).run w).store := by
  induction turns generalizing sessions w with
  | nil => exact h
  | cons t ts ih =>
    obtain ⟨next, w', log, hrun, hsync', hdrafts⟩ := exists_run_take hsync t w
    have h' := store_take hget hwrite hsync t
      (fun d hd => hD d (List.mem_append_left _ hd)) h
    rw [hrun] at h'
    rw [takeAll, Action.run_bind_of_ok hrun]
    exact ih hsync' (fun d hd => hD d (List.mem_append_right _ (hdrafts ▸ hd))) h'

end

end Session
end IndicatorStrategy
