import Mathlib
import IndicatorStrategy.Proofs.Session.Run
import IndicatorStrategy.Proofs.Store.Independent
/-!
# IndicatorStrategy.Proofs.Session.Interleaving

**The two sides do not interfere.** The sessions of one side read and write the keys of
that side and no others, and the sides have no key in common. So a turn of one side is
independent of a turn of the other one, and a run in which the two take turns comes to
what each side comes to by itself: the order of the turns counts within a side only.
-/

namespace IndicatorStrategy

namespace Session

variable {σ γ : Type} [KeyValue σ]

/-! ### Steps of one side -/

section

variable {y : Action σ γ} {side : Side} (h : ∀ key ∈ Archive.keys side, y.Spares key)
include h

theorem independent_open : (Session.open side).Independent y := by
  refine (Archive.independent_read h).bind fun _ persisted? _ => ?_
  cases persisted? with
  | none => exact .pure _ y
  | some a => exact (Action.Independent.log _ y).bind fun _ _ _ => .pure _ y

theorem independent_apply {s : Session} (hs : s.side = side) (e : Edit) :
    (s.apply e).Independent y := by
  have hwrite : (Archive.write s.side (s.edit e).compiled).Independent y := by
    rw [hs]
    exact Archive.independent_write h _
  refine (Action.Independent.log _ y).bind fun _ _ _ => ?_
  refine hwrite.attempt.bind fun _ written _ => ?_
  cases written with
  | ok => exact .pure _ y
  | error => exact (Action.Independent.log _ y).bind fun _ _ _ => .pure _ y

theorem independent_applyAll {s : Session} (hs : s.side = side) (es : List Edit) :
    (s.applyAll es).Independent y := by
  induction es generalizing s with
  | nil => exact .pure _ y
  | cons e es ih =>
    refine (independent_apply h hs e).bind fun w next hnext => ?_
    obtain ⟨log, hrun⟩ := s.run_apply e w
    rw [hrun] at hnext
    cases hnext
    exact ih hs

theorem independent_save {s : Session} (hs : s.side = side) : s.save.Independent y := by
  rw [save, hs]
  exact Archive.independent_write h _

theorem independent_perform {s : Session} (hs : s.side = side) (step : Step) :
    (s.perform step).Independent y := by
  cases step with
  | apply e => exact independent_apply h hs e
  | applyAll es => exact independent_applyAll h hs es
  | save => exact (independent_save h hs).bind fun _ _ _ => .pure _ y

theorem independent_take {sessions : List Session} (hsync : ∀ s ∈ sessions, s.InSync side)
    (t : Turn) : (take side sessions t).Independent y := by
  cases t with
  | opening => exact (independent_open h).bind fun _ _ _ => .pure _ y
  | step i st =>
    rw [take]
    cases hs : sessions[i]? with
    | none => exact .pure _ y
    | some s =>
      have hside := (hsync s (List.mem_of_getElem? hs)).side
      refine (independent_perform h hside st).attempt.bind fun _ done _ => ?_
      cases done with
      | ok next => exact .pure _ y
      | error e => exact .pure _ y

end
end Session

/-! ### Desks -/

variable {σ γ : Type} [KeyValue σ]

open Session (Turn)

/-- What a side has come to: its open sessions, and what its saves came to so far. -/
structure Desk where
  sessions : List Session
  saves : List (Except Failure Unit)

namespace Desk

/-- A side without sessions. -/
def empty : Desk := ⟨[], []⟩

/-- Takes a turn with the sessions of a side, and keeps what a save comes to. -/
def take (side : Side) (desk : Desk) : Turn → Action σ Desk
  | .step i .save =>
    match desk.sessions[i]? with
    | none => return desk
    | some s => do
      let saved ← Action.attempt s.save
      return { desk with saves := desk.saves ++ [saved] }
  | turn => do
    let sessions ← Session.take side desk.sessions turn
    return { desk with sessions }

/-- Takes turns one after the other. -/
def takeAll (side : Side) (desk : Desk) : List Turn → Action σ Desk
  | [] => return desk
  | t :: ts => do
    let next ← desk.take side t
    next.takeAll side ts

/-- The sessions of a desk belong to its side. -/
def InSync (side : Side) (desk : Desk) : Prop := ∀ s ∈ desk.sessions, s.InSync side

theorem take_save (side : Side) (desk : Desk) (i : Nat) :
    (desk.take side (.step i .save) : Action σ Desk)
      = desk.sessions[i]?.elim (pure desk) fun s => do
        let saved ← Action.attempt s.save
        return { desk with saves := desk.saves ++ [saved] } := by
  rw [take]
  cases desk.sessions[i]? <;> rfl

theorem take_of_ne_save (side : Side) (desk : Desk) {t : Turn} (h : ∀ i, t ≠ .step i .save) :
    (desk.take side t : Action σ Desk) = do
      let sessions ← Session.take side desk.sessions t
      return { desk with sessions } := by
  rw [take]
  exact fun i => h i

/-- A turn never fails. -/
theorem exists_run_take {side : Side} {desk : Desk} (hsync : desk.InSync side) (t : Turn)
    (w : σ) : ∃ next w' log, (desk.take side t).run w = ⟨.ok next, w', log⟩ ∧
      next.InSync side := by
  by_cases h : ∃ i, t = .step i .save
  · obtain ⟨i, rfl⟩ := h
    rw [take_save]
    cases desk.sessions[i]? with
    | none => exact ⟨desk, w, [], rfl, hsync⟩
    | some s => exact ⟨_, _, _, Action.run_bind_of_ok (Action.run_attempt _ w), hsync⟩
  · obtain ⟨next, w', log, hrun, hnext, -⟩ := Session.exists_run_take hsync t w
    rw [take_of_ne_save side desk (not_exists.mp h)]
    exact ⟨_, _, _, Action.run_bind_of_ok hrun, hnext⟩

section

variable {y : Action σ γ} {side : Side} (h : ∀ key ∈ Archive.keys side, y.Spares key)
include h

theorem independent_take {desk : Desk} (hsync : desk.InSync side) (t : Turn) :
    (desk.take side t).Independent y := by
  by_cases hsave : ∃ i, t = .step i .save
  · obtain ⟨i, rfl⟩ := hsave
    rw [take_save]
    cases hs : desk.sessions[i]? with
    | none => exact .pure _ y
    | some s =>
      have hside := (hsync s (List.mem_of_getElem? hs)).side
      exact (Session.independent_save h hside).attempt.bind fun _ _ _ => .pure _ y
  · rw [take_of_ne_save side desk (not_exists.mp hsave)]
    exact (Session.independent_take h hsync t).bind fun _ _ _ => .pure _ y

/-- **Turns of a side** are independent of what has nothing to do with its keys. -/
theorem independent_takeAll {desk : Desk} (hsync : desk.InSync side) (ts : List Turn) :
    (desk.takeAll side ts).Independent y := by
  induction ts generalizing desk with
  | nil => exact .pure _ y
  | cons t ts ih =>
    refine (independent_take h hsync t).bind fun w next hnext => ih ?_
    obtain ⟨_, _, _, hrun, hsync'⟩ := exists_run_take hsync t w
    rw [hrun] at hnext
    cases hnext
    exact hsync'

end

/-- Turns of a side have nothing to do with any other key. -/
theorem spares_takeAll (hkeys : KeyValue.KeysApart σ) {side : Side} {key : String}
    (hkey : key ∉ Archive.keys side) {desk : Desk} (hsync : desk.InSync side) (ts : List Turn) :
    (desk.takeAll side ts : Action σ Desk).Spares key := by
  have hne : ∀ other ∈ Archive.keys side, other ≠ key := by
    intro other hother heq
    exact hkey (heq ▸ hother)
  refine ⟨?_, fun value => ?_⟩
  · exact (independent_takeAll (fun other hother => hkeys.get (hne other hother)) hsync ts).symm
  · exact (independent_takeAll (fun other hother => hkeys.set (hne other hother) value)
      hsync ts).symm

/-- **A turn of one side** is independent of the turns of the other one. -/
theorem independent_take_takeAll (hkeys : KeyValue.KeysApart σ) {side other : Side}
    (hne : side ≠ other) {desk desk' : Desk} (hsync : desk.InSync side)
    (hsync' : desk'.InSync other) (t : Turn) (ts : List Turn) :
    (desk.take side t : Action σ Desk).Independent (desk'.takeAll other ts) := by
  refine independent_take (fun key hkey => ?_) hsync t
  exact spares_takeAll hkeys (Archive.not_mem_keys_of_ne hne key hkey) hsync' ts

end Desk

/-! ### Turns of both sides -/

/-- Takes turns of both sides in a given order. -/
def takeBoth (desks : Side → Desk) : List (Side × Turn) → Action σ (Side → Desk)
  | [] => return desks
  | (side, t) :: ts => do
    let desk ← (desks side).take side t
    takeBoth (Function.update desks side desk) ts

/-- The turns of a side among those of both. -/
def turnsOf (side : Side) : List (Side × Turn) → List Turn
  | [] => []
  | (other, t) :: ts => if other = side then t :: turnsOf side ts else turnsOf side ts

/-- A run of both sides that comes to what each side comes to by itself. -/
structure ComesApart (desks : Side → Desk) (turns : List (Side × Turn)) (s : σ)
    (next : Side → Desk) : Prop where
  result : ((takeBoth desks turns).run s).result = .ok next
  desk (side : Side) : (((desks side).takeAll side (turnsOf side turns)).run s).result
    = .ok (next side)
  store : ((takeBoth desks turns).run s).store
    = (((desks .sell).takeAll .sell (turnsOf .sell turns)).run
        (((desks .buy).takeAll .buy (turnsOf .buy turns)).run s).store).store

/-- **Turns of both sides** come to what the turns of each side come to, and leave the
store that those of one side leave after those of the other one. -/
theorem exists_comesApart (hkeys : KeyValue.KeysApart σ) {desks : Side → Desk}
    (hsync : ∀ side, (desks side).InSync side) (turns : List (Side × Turn)) (s : σ) :
    ∃ next, ComesApart desks turns s next := by
  induction turns generalizing desks s with
  | nil => exact ⟨desks, rfl, fun _ => rfl, rfl⟩
  | cons turn turns ih =>
    obtain ⟨side, t⟩ := turn
    obtain ⟨desk, s', log, hrun, hdesk⟩ := Desk.exists_run_take (hsync side) t s
    have hsync' : ∀ other, (Function.update desks side desk other).InSync other := by
      intro other
      by_cases hother : other = side
      · subst hother
        simpa using hdesk
      · simpa [hother] using hsync other
    obtain ⟨next, hresult, hnext, hstore⟩ := ih hsync' s'
    refine ⟨next, ?_, fun other => ?_, ?_⟩
    · rw [takeBoth, Action.run_bind_of_ok hrun]
      exact hresult
    · have hnext := hnext other
      by_cases hother : side = other
      · subst hother
        rw [turnsOf, if_pos rfl, Desk.takeAll, Action.run_bind_of_ok hrun]
        simpa using hnext
      · -- the other side does not notice that the turn came first
        have hind := Desk.independent_take_takeAll hkeys hother (hsync side) (hsync other) t
          (turnsOf other turns)
        have hright := hind.right s
        rw [hrun] at hright
        rw [Function.update_of_ne (Ne.symm hother)] at hnext
        rw [turnsOf, if_neg hother, ← hright, hnext]
    · rw [takeBoth, Action.run_bind_of_ok hrun]
      cases side with
      | buy =>
        simpa [turnsOf, Desk.takeAll, Action.run_bind_of_ok hrun] using hstore
      | sell =>
        -- the buy turns, which come first on the other side, do not notice the turn either
        have hind := Desk.independent_take_takeAll hkeys (by decide) (hsync .sell)
          (hsync .buy) t (turnsOf .buy turns)
        obtain ⟨log', hbehind⟩ := hind.exists_run_behind hrun
        simpa [turnsOf, Desk.takeAll, Action.run_bind_of_ok hbehind] using hstore

/-- Both sides before the first turn. -/
def noSessions : Side → Desk := fun _ => .empty

theorem inSync_noSessions (side : Side) : (noSessions side).InSync side := by
  intro s hs
  cases hs

/-- A key that belongs to no side holds what it held. -/
theorem get?_contents_takeBoth (turns : List (Side × Turn)) (s : Faulty) {key : String}
    (hkey : ∀ side, key ∉ Archive.keys side) :
    Assoc.get? ((takeBoth noSessions turns).run s).store.contents key
      = Assoc.get? s.contents key := by
  obtain ⟨next, -, -, hstore⟩ := exists_comesApart Faulty.keysApart inSync_noSessions turns s
  have hsame : ∀ (side : Side) (s : Faulty), Assoc.get?
      (((noSessions side).takeAll side (turnsOf side turns)).run s).store.contents key
        = Assoc.get? s.contents key := by
    intro side s
    have hspares : ∀ other ∈ Archive.keys side,
        (Action.look fun s : Faulty => Assoc.get? s.contents key).Spares other := by
      intro other hother
      refine Faulty.spares_look fun heq => hkey side (heq ▸ hother)
    have hind := Desk.independent_takeAll hspares (inSync_noSessions side) (turnsOf side turns)
    exact Except.ok.inj (hind.right s)
  rw [hstore]
  exact (hsame .sell _).trans (hsame .buy s)

/-- **The order of turns of different sides does not count.** Whatever keys a store
refuses to read or to write, runs that give each side the same turns come to the same
sessions and the same results of saves, which are those of each side by itself, and
leave the same store; what it holds under other keys is what it held. -/
theorem takeBoth_of_sameTurns {turns others : List (Side × Turn)}
    (h : ∀ side, turnsOf side turns = turnsOf side others) (s : Faulty) :
    ∃ next : Side → Desk,
      ((takeBoth noSessions turns).run s).result = .ok next ∧
      ((takeBoth noSessions others).run s).result = .ok next ∧
      (∀ side, (((noSessions side).takeAll side (turnsOf side turns)).run s).result
        = .ok (next side)) ∧
      ((takeBoth noSessions turns).run s).store = ((takeBoth noSessions others).run s).store ∧
      ∀ key, (∀ side, key ∉ Archive.keys side) →
        Assoc.get? ((takeBoth noSessions turns).run s).store.contents key
          = Assoc.get? s.contents key := by
  obtain ⟨next, hresult, hdesk, hstore⟩ :=
    exists_comesApart Faulty.keysApart inSync_noSessions turns s
  obtain ⟨next', hresult', hdesk', hstore'⟩ :=
    exists_comesApart Faulty.keysApart inSync_noSessions others s
  have hnext : next' = next := by
    funext side
    have hsame := hdesk' side
    rw [← h side, hdesk side] at hsame
    exact (Except.ok.inj hsame).symm
  refine ⟨next, hresult, hnext ▸ hresult', hdesk, ?_, fun key => get?_contents_takeBoth turns s⟩
  rw [hstore, hstore', h .buy, h .sell]

/-- Turns of both sides by turns. -/
def mixedTurns : List (Side × Turn) :=
  [(.buy, .opening), (.sell, .opening), (.buy, .step 0 (.apply (.change 0 0 (.kind "Rsi")))),
    (.sell, .step 0 (.applyAll [.addGroup, .change 1 0 (.kind "Sma")])), (.sell, .step 0 .save),
    (.buy, .step 0 .save)]

/-- The same turns, with those of the sell side first. -/
def sortedTurns : List (Side × Turn) :=
  mixedTurns.filter (·.1 = .sell) ++ mixedTurns.filter (·.1 = .buy)

/-- A store that holds an old expression and refuses a new one on one side. -/
def refusingBuy : Faulty := ⟨[("buy_exp", "___"), ("days", "30")], ["sell"], ["buy_exp"]⟩

theorem takeBoth_mixedTurns :
    (∀ side, turnsOf side mixedTurns = turnsOf side sortedTurns) ∧
    ∃ next : Side → Desk,
      ((takeBoth noSessions mixedTurns).run refusingBuy).result = .ok next ∧
      ((takeBoth noSessions sortedTurns).run refusingBuy).result = .ok next ∧
      (∀ side, (((noSessions side).takeAll side (turnsOf side mixedTurns)).run
        refusingBuy).result = .ok (next side)) ∧
      ((takeBoth noSessions mixedTurns).run refusingBuy).store
        = ((takeBoth noSessions sortedTurns).run refusingBuy).store ∧
      ∀ key, (∀ side, key ∉ Archive.keys side) →
        Assoc.get? ((takeBoth noSessions mixedTurns).run refusingBuy).store.contents key
          = Assoc.get? refusingBuy.contents key := by
  have hturns : ∀ side, turnsOf side mixedTurns = turnsOf side sortedTurns := by
    intro side
    cases side <;> rfl
  exact ⟨hturns, takeBoth_of_sameTurns hturns refusingBuy⟩

end IndicatorStrategy
