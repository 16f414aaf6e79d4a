import Mathlib
import IndicatorStrategy.Store.Backend
/-!
# IndicatorStrategy.Proofs.Store.Blame

**Stores do not blame the configuration.** A JSON file or a database that refuses a write
gives a reason of its own (`Workspace.blameless_store`), and so does a database that cannot
be opened. What the configuration is to blame for at the opening of a store was found by its
validation before (`Configuration.blameless_openStore`). Actions fail no otherwise than their parts.
-/

namespace IndicatorStrategy

/-! ### Results -/

/-- The configuration is not to blame for a result. -/
def Blameless {α : Type} (r : Except Failure α) : Prop :=
  ∀ e, r = .error e → e.isConfiguration = false

namespace Blameless

variable {α β : Type} {r : Except Failure α} {e : Failure}

theorem ok (a : α) : Blameless (.ok a : Except Failure α) := fun _ h => nomatch h

theorem error (h : e.isConfiguration = false) : Blameless (.error e : Except Failure α) := by
  rintro _ ⟨⟩
  exact h

/-- What came with the failure does not matter. -/
theorem of_fst {p : Except Failure α × β} (h : Blameless p.1) {b : β} (hp : p = (.error e, b)) :
    e.isConfiguration = false := h e (congrArg Prod.fst hp)

theorem map (h : Blameless r) (f : α → β) : Blameless (r.map f) := by
  cases r with
  | ok a => exact ok (f a)
  | error e => exact error (h e rfl)

theorem bind {f : α → Except Failure β} (h : Blameless r) (hf : ∀ a, Blameless (f a)) :
    Blameless (r.bind f) := by
  cases r with
  | ok a => exact hf a
  | error e => exact error (h e rfl)

end Blameless

/-! ### Actions -/

section Actions

variable {σ α β : Type}

/-- The configuration is not to blame for what an action comes to on any store. -/
def Action.Blameless (x : Action σ α) : Prop :=
  ∀ s, IndicatorStrategy.Blameless (x.run s).result

/-- The configuration is not to blame for writes that fail. -/
def KeyValue.Blameless (σ : Type) [KeyValue σ] : Prop :=
  ∀ (s : σ) (key value : String), IndicatorStrategy.Blameless (KeyValue.set s key value).1

namespace Action.Blameless

theorem pure (a : α) : (Pure.pure a : Action σ α).Blameless := fun _ => .ok a

theorem ofExcept {r : Except Failure α} (h : IndicatorStrategy.Blameless r) :
    (Action.ofExcept r : Action σ α).Blameless := fun _ => h

theorem log (e : Event) : (Action.log e : Action σ Unit).Blameless := fun _ => .ok ()

/-- An action that goes on after a failure does not fail. -/
theorem attempt (x : Action σ α) : (Action.attempt x).Blameless := fun _ => .ok _

theorem set [KeyValue σ] (h : KeyValue.Blameless σ) (key value : String) :
    (Action.set key value : Action σ Unit).Blameless := fun s => h s key value

/-- Two actions fail no otherwise than each of them. -/
theorem bind {x : Action σ α} {f : α → Action σ β} (hx : x.Blameless)
    (hf : ∀ a, (f a).Blameless) : (x >>= f).Blameless := by
  intro s
  cases hrun : x.run s with
  | mk result s' log =>
    cases result with
    | ok a =>
      rw [Action.run_bind_of_ok hrun]
      exact hf a s'
    | error e =>
      rw [Action.run_bind_of_error hrun]
      exact .error (hx s e (by rw [hrun]))

end Action.Blameless
end Actions

/-! ### JSON files -/

namespace JsonFile

theorem blameless_parse (path text : String) : Blameless (parse path text) := by
  unfold parse
  split
  · exact .ok _
  · split
    · exact .ok _
    · exact .error rfl

theorem blameless_load (d : Disk) (path : String) : Blameless (load d path) := by
  unfold load
  split
  · split
    · exact blameless_parse path _
    · exact .error rfl
  · exact .ok _

theorem blameless_store (d : Disk) (path key value : String) :
    Blameless (store d path key value) := by
  have hload := blameless_load d path
  unfold store
  split
  · rename_i e he
    exact .error (hload e he)
  · split
    · exact .ok _
    · exact .error rfl

end JsonFile

/-! ### Databases -/

namespace Database

theorem blameless_settleLock (l : Location) (names : List String) (d : Disk) :
    Blameless (settleLock l names d) := by
  unfold settleLock
  split
  · exact .ok _
  · split
    · exact .error rfl
    · split
      · exact .error rfl
      · exact .ok _

theorem blameless_settleJournal (l : Location) (isRead : Bool) (names : List String) (d : Disk) :
    Blameless (settleJournal l isRead names d) := by
  unfold settleJournal
  repeat' split
  all_goals first | exact .ok _ | exact .error rfl

theorem blameless_settleLog (l : Location) (isAlone : Bool) (names : List String) (d : Disk) :
    Blameless (settleLog l isAlone names d) := by
  unfold settleLog
  repeat' split
  all_goals first | exact .ok _ | exact .error rfl

theorem blameless_overwrite (d : Disk) (names : List String) (t : Table) :
    Blameless (overwrite d names t) := by
  unfold overwrite
  split
  · exact .ok _
  · exact .error rfl

namespace Copy

theorem blameless_store (c : Copy) {lost : Failure} (h : lost.isConfiguration = false)
    (key value : String) : Blameless (c.store lost key value) := by
  unfold store
  split
  · exact .ok _
  · exact .error h

end Copy

namespace Connection

variable (c : Connection)

theorem isConfiguration_blame {e : Failure} (h : e.isConfiguration = false) :
    (c.blame e).isConfiguration = false := by
  unfold blame
  split
  · rfl
  · exact h

theorem blameless_settle (isRead : Bool) (d : Disk) : Blameless (c.settle isRead d).1 := by
  unfold settle
  split
  · exact .ok _
  · rename_i names _
    split
    · exact .ok _
    · have hfiles := (blameless_settleLock c.location names d).bind fun _ =>
        blameless_settleJournal c.location isRead names d
      split
      · rename_i e he
        exact .error (hfiles e he)
      · rename_i d' _
        have hlog := blameless_settleLog c.location c.isAlone names d'
        split
        · rename_i e he
          exact .error (hlog e he)
        · exact .ok _
        · exact .ok _

theorem blameless_source (copy : Copy) (d : Disk) : Blameless (c.source copy d) := by
  unfold source
  repeat' split
  all_goals first | exact .ok _ | exact .error rfl

theorem blameless_read (d : Disk) : Blameless (c.read d).1 := by
  unfold read
  split
  · exact .ok _
  · exact .error rfl
  · simp only
    split
    · exact .error (c.isConfiguration_blame rfl)
    · exact .error rfl

theorem blameless_write (d : Disk) (t : Table) : Blameless (c.write d t).1 := by
  unfold write
  split
  · exact .ok _
  · rename_i names _
    have hfile := blameless_overwrite d names t
    split
    · exact .ok _
    · split
      · exact .ok _
      · rename_i e he
        exact .error (hfile e he)

theorem blameless_changed (d : Disk) (key value : String) :
    Blameless (c.changed d key value).1 := by
  unfold changed
  split
  · rename_i copy _
    have hsource := c.blameless_source copy d
    split
    · exact .ok _
    · rename_i lost hlost
      exact copy.blameless_store (hsource lost hlost) key value
  · exact (c.blameless_read d).map _

theorem blameless_begin (d : Disk) : Blameless (c.begin d) := by
  unfold begin
  repeat' split
  all_goals first | exact .ok _ | exact .error rfl

theorem blameless_store (d : Disk) (key value : String) : Blameless (c.store d key value).1 := by
  have hsettle := c.blameless_settle false d
  unfold store
  split
  · exact .error rfl
  · split
    · rename_i e c' d' he
      exact .error (c'.isConfiguration_blame (hsettle.of_fst he))
    · rename_i c' d' _
      have hbegin := c'.blameless_begin d'
      split
      · rename_i e he
        exact .error (hbegin e he)
      · rename_i d'' _
        have hchanged := c'.blameless_changed d'' key value
        split
        · rename_i e c'' he
          exact .error (hchanged.of_fst he)
        · split
          · exact .error rfl
          · exact blameless_write _ _ _

theorem blameless_makeTable (isRead : Bool) (d : Disk) : Blameless (c.makeTable isRead d).1 := by
  unfold makeTable
  simp only
  have hbegin := blameless_begin { c with knowledge := .present } d
  split
  · exact .error rfl
  · split
    · rename_i e he
      exact .error (hbegin e he)
    · split
      · exact .error rfl
      · exact blameless_write _ _ _

theorem blameless_ensureTable (isRead : Bool) (d : Disk) :
    Blameless (c.ensureTable isRead d).1 := by
  have hsettle := c.blameless_settle isRead d
  unfold ensureTable
  split
  · exact .error rfl
  · split
    · rename_i e c' d' he
      exact .error (hsettle.of_fst he)
    · rename_i c' d' _
      split
      · exact .ok _
      · split
        · exact .ok _
        · exact c'.blameless_makeTable isRead d'
        · rename_i head _
          cases head.isForeign <;> exact .error rfl

end Connection

/-! ### Opening databases -/

/-- The connection that opening comes to, before another one is closed for it. -/
def Opening.result : Opening → Except Failure Connection
  | opened c _ => .ok c
  | failed e _ _ => .error e
  | refused e _ => .error e

theorem Opening.fst_finish (held? : Option Connection) (o : Opening) :
    (o.finish held?).1 = o.result := by
  cases o <;> rfl

theorem blameless_connect (held? : Option Connection) (fresh : Connection) (d : Disk) :
    Blameless (connect held? fresh d).result := by
  have htable := ((held?.filter (·.isSame fresh)).getD fresh).blameless_ensureTable
    (held?.any (·.logsFor fresh)) d
  unfold connect
  simp only
  split
  · rename_i e c' d' he
    exact .error (htable.of_fst he)
  · exact .ok _

theorem blameless_openLocation (held? : Option Connection) (text : String) (l : Location)
    (d : Disk) : Blameless (openLocation held? text l d).result := by
  unfold openLocation
  split
  · exact blameless_connect _ _ _
  · exact blameless_connect _ _ _
  · split
    · exact .error rfl
    · simp only
      split
      · exact .error rfl
      · exact blameless_connect _ _ _

theorem blameless_openText (held? : Option Connection) (text : String) (d : Disk) :
    Blameless (openText held? text d).result := by
  unfold openText
  split
  · exact .error rfl
  · exact blameless_openLocation _ _ _ _

theorem blameless_openAt (held? : Option Connection) (text : String) (d : Disk) :
    Blameless (openAt held? text d).1 := by
  rw [openAt, Opening.fst_finish]
  exact blameless_openText held? text d

end Database

/-! ### Stores -/

namespace Workspace

theorem blameless_store (w : Workspace) (key value : String) :
    Blameless (w.store key value).1 := by
  unfold store
  split
  · exact .ok _
  · rename_i path _
    have hfile := JsonFile.blameless_store w.disk path key value
    split
    · exact .ok _
    · rename_i e he
      exact .error (hfile e he)
  · exact Database.Connection.blameless_store _ _ _ _

theorem blameless : KeyValue.Blameless Workspace := blameless_store

end Workspace

namespace Configuration

variable {c : Configuration}

/-- The backend of a validated store exists, and a database has a path. -/
theorem backend_of_validateStore (h : c.validateStore = .ok ()) :
    c.backend?.getD defaultBackend ∈ backends ∧
      (c.backend?.getD defaultBackend = "sqlite" →
        ∃ path, c.get? storeSection "path" = some path) := by
  -- without a backend the default one is used, which is no database
  unfold validateStore at h
  split at h
  · rename_i hnone
    rw [hnone]
    exact ⟨by decide, fun h => absurd h (by decide)⟩
  · rename_i backend hsome
    rw [hsome, Option.getD_some]
    split at h
    · rename_i hmem
      refine ⟨List.contains_iff_mem.mp hmem, fun hdatabase => ?_⟩
      rw [if_pos hdatabase, validateDatabasePath] at h
      split at h
      · rename_i path hpath
        exact ⟨path, hpath⟩
      · cases h
    · cases h

/-- **A validated store is opened, or has a reason of its own not to be.** -/
theorem blameless_openStore (h : c.validateStore = .ok ()) (held? : Option Database.Connection)
    (d : Disk) : Blameless (c.openStore held? d).1 := by
  obtain ⟨hmem, hpath⟩ := backend_of_validateStore h
  unfold openStore
  simp only
  split
  · rename_i hdatabase
    obtain ⟨path, hpath⟩ := hpath hdatabase
    rw [openDatabase, hpath]
    exact (Database.blameless_openAt held? path d).map _
  · rename_i hplain
    generalize c.backend?.getD defaultBackend = backend at hmem hplain
    simp only [backends, List.mem_cons, List.not_mem_nil, or_false] at hmem
    rcases hmem with rfl | rfl | rfl
    · exact absurd rfl hplain
    · exact .ok _
    · exact .ok _

end Configuration
end IndicatorStrategy
