import IndicatorStrategy.Proofs.Store.Companion
import IndicatorStrategy.Proofs.Store.Reliable
/-!
# IndicatorStrategy.Proofs.Store.Database

**A database as a store.** An open database keeps its rows as a map from keys to values. Its
table is in memory, or in a file that rests, or in the log beside a file
(`Connection.Holds`). Then every value can be read. Where it may be written besides
(`Connection.Serves`), every value that is stored is in the table afterwards, and nothing was
changed but the files of the database.

Once it is closed, its file rests with the last table (`Connection.Serves.rests_close`): a log
is moved into the file then.
-/

namespace IndicatorStrategy
namespace Database

variable {d d' : Disk} {names : List String}

namespace Connection

variable {c c' c'' : Connection} {t : Table}

/-! ### What stays -/

/-- What does not change about a connection in use. -/
structure Continues (c c' : Connection) : Prop where
  location : c'.location = c.location
  isAlone : c'.isAlone = c.isAlone
  isLogged : c'.isLogged = c.isLogged
  file : ∀ names, c'.medium = .file names ↔ c.medium = .file names

theorem Continues.refl (c : Connection) : c.Continues c := ⟨rfl, rfl, rfl, fun _ => Iff.rfl⟩

theorem Continues.trans (h : c.Continues c') (h' : c'.Continues c'') : c.Continues c'' where
  location := h'.location.trans h.location
  isAlone := h'.isAlone.trans h.isAlone
  isLogged := h'.isLogged.trans h.isLogged
  file := fun names => (h'.file names).trans (h.file names)

/-- The same database, whose table is known to be there. -/
def found (c : Connection) : Connection := { c with knowledge := .present }

theorem continues_found (c : Connection) : c.Continues c.found :=
  ⟨rfl, rfl, rfl, fun _ => Iff.rfl⟩

theorem continues_copy (c : Connection) (copy? : Option Copy) :
    c.Continues { c with copy? } := ⟨rfl, rfl, rfl, fun _ => Iff.rfl⟩

/-- Files that differ at most in those of an open database, which were all there. -/
def Confines (c : Connection) (d d' : Disk) : Prop :=
  match c.medium with
  | .memory .. => d' = d
  | .file names => Disk.Confined (files names) [] d d'

theorem confines_refl (c : Connection) (d : Disk) : c.Confines d d := by
  rw [Confines]
  split
  · rfl
  · exact .refl _ _ d

/-! ### Where a table is -/

/-- A connection that goes on with a log beside a file. -/
structure Logs (c : Connection) (d : Disk) (names : List String) : Prop where
  logged : c.isLogged = true
  access : c.location.access ≠ .readOnly
  locks : c.location.canLog = true
  settled : Settled c.location d names
  index : c.isAlone = false → d.nodeAt? (indexOf names) ≠ some .directory

theorem Logs.continues (h : c.Logs d names) (hc : c.Continues c') : c'.Logs d names where
  logged := hc.isLogged.trans h.logged
  access := hc.location ▸ h.access
  locks := hc.location ▸ h.locks
  settled := hc.location ▸ h.settled
  index := hc.isAlone ▸ h.index

/-- Where the table of an open database is. -/
inductive Holds (c : Connection) (d : Disk) : Table → Prop
  | memory {name? : Option String} {t : Table} (hmedium : c.medium = .memory name? (some t))
      (hcopy : c.copy? = none) : Holds c d t
  /-- In a file that is read each time. -/
  | file {names : List String} {t : Table} (hmedium : c.medium = .file names)
      (hlogged : c.isLogged = false) (hcopy : c.copy? = none)
      (hrests : Rests c.location d names t) : Holds c d t
  /-- In a log with changes, and in a copy that was made of it. -/
  | log {names : List String} {t base : Table} {held : List PagePlace}
      (hmedium : c.medium = .file names) (hlogs : c.Logs d names)
      (hcopy : c.copy? = some ⟨t, held, true⟩)
      (hnode : d.nodeAt? names = some (.database base))
      (hlog : d.nodeAt? (logOf names) = some (.log t)) : Holds c d t
  /-- In a file beside a log that has no changes so far. -/
  | unchanged {names : List String} {t : Table} {copy : Copy} {node : Node}
      (hmedium : c.medium = .file names) (hlogs : c.Logs d names) (hcopy : c.copy? = some copy)
      (hahead : copy.isAhead = false) (hnode : d.nodeAt? names = some (.database t))
      (hlog : d.nodeAt? (logOf names) = some node) (hfree : node ≠ .directory)
      (hother : ∀ t', node ≠ .log t') : Holds c d t

theorem Holds.found (h : c.Holds d t) : c.found.Holds d t := by
  cases h with
  | memory hmedium hcopy => exact .memory hmedium hcopy
  | file hmedium hlogged hcopy hrests => exact .file hmedium hlogged hcopy hrests
  | log hmedium hlogs hcopy hnode hlog =>
    exact .log hmedium (hlogs.continues (continues_found c)) hcopy hnode hlog
  | unchanged hmedium hlogs hcopy hahead hnode hlog hfree hother =>
    exact .unchanged hmedium (hlogs.continues (continues_found c)) hcopy hahead hnode hlog hfree
      hother

/-- The table is found wherever it is. -/
theorem Holds.finding (h : c.Holds d t) : c.finding d = .table t := by
  cases h with
  | memory hmedium hcopy => simp [Connection.finding, hmedium]
  | file hmedium hlogged hcopy hrests =>
    simp [Connection.finding, hmedium, hrests.node, tableAt, hlogged]
  | log hmedium hlogs hcopy hnode hlog =>
    simp [Connection.finding, hmedium, hnode, tableAt, hlogs.logged, hlog]
  | @unchanged _ _ _ node hmedium hlogs hcopy hahead hnode hlog hfree hother =>
    cases node with
    | log t' => exact absurd rfl (hother t')
    | file | database | data | directory =>
      simp [Connection.finding, hmedium, hnode, tableAt, hlogs.logged, hlog]

/-- An open database has one table. -/
theorem Holds.eq {t' : Table} (h : c.Holds d t) (h' : c.Holds d t') : t = t' :=
  Finding.table.inj (h.finding.symm.trans h'.finding)

/-- Nothing needs to be settled. -/
theorem Holds.settle (h : c.Holds d t) (isRead : Bool) : c.settle isRead d = (.ok (), c, d) := by
  cases h with
  | memory hmedium hcopy => simp [Connection.settle, hmedium]
  | file hmedium hlogged hcopy hrests =>
    have hjournal := hrests.settleJournal (isVoidAt_of_database hrests.node) isRead
    have hlog := settleLog_of_isEmpty (l := c.location) hrests.log c.isAlone
    simp [Connection.settle, hmedium, hrests.lock, Except.bind, hjournal, hlog]
  | log hmedium hlogs hcopy hnode hlog => simp [Connection.settle, hmedium, hlogs.logged]
  | unchanged hmedium hlogs hcopy hahead hnode hlog hfree hother =>
    simp [Connection.settle, hmedium, hlogs.logged]

/-- A copy says where the table can be read. -/
theorem Holds.source (h : c.Holds d t) {copy : Copy} (hc : c.copy? = some copy) :
    c.source copy d = .ok t := by
  rw [Connection.source, h.finding]
  cases h with
  | memory hmedium hcopy =>
    rw [hcopy] at hc
    cases hc
  | file hmedium hlogged hcopy hrests =>
    rw [hcopy] at hc
    cases hc
  | log hmedium hlogs hcopy hnode hlog =>
    rw [hcopy] at hc
    cases hc
    simp [Connection.ahead?, hmedium, hlog, hlogs.logged]
  | unchanged hmedium hlogs hcopy hahead hnode hlog hfree hother =>
    rw [hcopy] at hc
    cases hc
    simp [hahead]

/-- Pages that are kept in a copy make no difference to where the table is. -/
theorem Holds.hold (h : c.Holds d t) {copy : Copy} (hc : c.copy? = some copy)
    (keeps : Bool) (key : String) :
    ({ c with copy? := if keeps then copy.hold t key else copy } : Connection).Holds d t := by
  cases h with
  | memory hmedium hcopy =>
    rw [hcopy] at hc
    cases hc
  | file hmedium hlogged hcopy hrests =>
    rw [hcopy] at hc
    cases hc
  | log hmedium hlogs hcopy hnode hlog =>
    rw [hcopy] at hc
    cases hc
    cases keeps <;> exact .log hmedium (hlogs.continues (continues_copy c _)) rfl hnode hlog
  | unchanged hmedium hlogs hcopy hahead hnode hlog hfree hother =>
    rw [hcopy] at hc
    cases hc
    cases keeps <;>
      exact .unchanged hmedium (hlogs.continues (continues_copy c _)) rfl hahead hnode hlog hfree
        hother

/-! ### Reading and writing -/

theorem Holds.read (h : c.Holds d t) : c.read d = (.ok t, c.found) := by
  rw [Connection.read, h.finding]
  rfl

/-- **A value is read** from the table. -/
theorem Holds.exists_get (h : c.Holds d t) (key : String) :
    ∃ c', c.get d key = (.ok (t.get? key), c', d) ∧ c'.Holds d t ∧ c.Continues c' ∧
      c'.isReadOnly = c.isReadOnly := by
  rw [Connection.get, h.settle]
  cases hcopy : c.copy? with
  | none =>
    simp only [hcopy, h.read, Except.map]
    exact ⟨c.found, rfl, h.found, continues_found c, rfl⟩
  | some copy =>
    simp only [hcopy, h.source hcopy]
    exact ⟨_, rfl, h.hold hcopy _ key, continues_copy c _, rfl⟩

/-- A database with a table, that may be written and has room for what that takes. -/
structure Serves (c : Connection) (d : Disk) (t : Table) : Prop where
  holds : c.Holds d t
  writable : c.isReadOnly = false
  room : ∀ names, c.medium = .file names → c.isLogged = false → canJournal d names = true

theorem Serves.exists_get (h : c.Serves d t) (key : String) :
    ∃ c', c.get d key = (.ok (t.get? key), c', d) ∧ c'.Serves d t ∧ c.Continues c' := by
  obtain ⟨c', hget, hholds, hcontinues, hreadOnly⟩ := h.holds.exists_get key
  refine ⟨c', hget, ⟨hholds, hreadOnly.trans h.writable, ?_⟩, hcontinues⟩
  intro names hmedium hlogged
  exact h.room names ((hcontinues.file names).mp hmedium) (hcontinues.isLogged.symm.trans hlogged)

/-- A log that is written has the table. -/
theorem Logs.exists_write {base : Table} {node : Node} (h : c.Logs d names)
    (hmedium : c.medium = .file names) (hwritable : c.isReadOnly = false)
    (hnode : d.nodeAt? names = some (.database base))
    (hlog : d.nodeAt? (logOf names) = some node) (hfree : node ≠ .directory) (t : Table) :
    ∃ c' d', c.write d t = (.ok (), c', d') ∧ c'.Serves d' t ∧ c.Continues c' ∧
      c.Confines d d' := by
  have hthere := Disk.ne_directory_of_nodeAt? hlog hfree
  have hchange : Disk.Confined (files names) [] d (d.put (logOf names) (.log t)) :=
    Disk.confined_put (by simp [files]) (by simp [hlog]) hthere (by simp)
  have hsettled := h.settled.confined (List.Subset.refl _) hchange fun node hjournal => by
    rwa [Disk.nodeAt?_put_of_ne (journalOf_ne_logOf names).symm] at hjournal
  have hbase : (d.put (logOf names) (.log t)).nodeAt? names = some (.database base) := by
    rw [Disk.nodeAt?_put_of_ne (ne_logOf names).symm, hnode]
  refine ⟨{ c with copy? := some ⟨t, t.allPages, true⟩ }, d.put (logOf names) (.log t), ?_,
    ⟨?_, hwritable, ?_⟩, continues_copy c _, ?_⟩
  · simp [write, hmedium, h.logged]
  · exact .log hmedium
      ⟨h.logged, h.access, h.locks, hsettled, fun halone => hchange.free (h.index halone)⟩ rfl
      hbase (Disk.nodeAt?_put_self (Disk.isFixed_eq_false hthere) _)
  · intro _ _ hlogged
    exact absurd (h.logged.symm.trans hlogged) (by decide)
  · simpa only [Confines, hmedium] using hchange

/-- **A table that is written** is the one that is there afterwards. -/
theorem Serves.exists_write (h : c.Serves d t) (t' : Table) :
    ∃ c' d', c.write d t' = (.ok (), c', d') ∧ c'.Serves d' t' ∧ c.Continues c' ∧
      c.Confines d d' := by
  cases h.holds with
  | @memory name? _ hmedium hcopy =>
    refine ⟨{ c with medium := .memory name? (some t') }, d, ?_,
      ⟨.memory rfl hcopy, h.writable, ?_⟩, ⟨rfl, rfl, rfl, ?_⟩, ?_⟩
    · simp [write, hmedium]
    · intro names hfile
      cases hfile
    · simp [hmedium]
    · simp [Confines, hmedium]
  | @file names _ hmedium hlogged hcopy hrests =>
    obtain ⟨d', hwrite, hrests', hroom', hchange⟩ :=
      hrests.exists_overwrite (h.room names hmedium hlogged) t'
    refine ⟨c, d', ?_, ⟨.file hmedium hlogged hcopy hrests', h.writable, ?_⟩, .refl c, ?_⟩
    · simp [write, hmedium, hlogged, hwrite]
    · intro other hother _
      rw [hmedium] at hother
      cases hother
      exact hroom'
    · simpa only [Confines, hmedium] using hchange
  | log hmedium hlogs hcopy hnode hlog =>
    exact hlogs.exists_write hmedium h.writable hnode hlog (by simp) t'
  | unchanged hmedium hlogs hcopy hahead hnode hlog hfree hother =>
    exact hlogs.exists_write hmedium h.writable hnode hlog hfree t'

theorem Holds.begin (h : c.Holds d t) : c.begin d = .ok d := by
  rw [Connection.begin, h.finding]
  split
  · simp_all
  · rfl

/-- The table is changed as it was found. -/
theorem Holds.exists_changed (h : c.Holds d t) (key value : String) :
    ∃ c', c.changed d key value = (.ok (t.store key value), c') ∧ (c' = c ∨ c' = c.found) := by
  cases hcopy : c.copy? with
  | none =>
    refine ⟨c.found, ?_, .inr rfl⟩
    simp [changed, hcopy, h.read, Except.map]
  | some copy =>
    refine ⟨c, ?_, .inl rfl⟩
    simp [changed, hcopy, h.source hcopy]

/-- **A value is stored** in the table. -/
theorem Serves.exists_store (h : c.Serves d t) (key value : String) :
    ∃ c' d', c.store d key value = (.ok (), c', d') ∧ c'.Serves d' (t.store key value) ∧
      c.Continues c' ∧ c.Confines d d' := by
  obtain ⟨c₁, hchanged, hsame⟩ := h.holds.exists_changed key value
  obtain ⟨hserves₁, hcontinues₁, hconfines₁⟩ :
      c₁.Serves d t ∧ c.Continues c₁ ∧ c₁.Confines d = c.Confines d := by
    rcases hsame with rfl | rfl
    · exact ⟨h, .refl c₁, rfl⟩
    · exact ⟨⟨h.holds.found, h.writable, h.room⟩, continues_found c, rfl⟩
  obtain ⟨c', d', hwrite, hserves, hcontinues, hconfines⟩ :=
    hserves₁.exists_write (t.store key value)
  refine ⟨c', d', ?_, hserves, hcontinues₁.trans hcontinues, hconfines₁ ▸ hconfines⟩
  rw [Connection.store, h.writable, Bool.false_and, if_neg Bool.false_ne_true, h.holds.settle]
  simp only [h.holds.begin, hchanged]
  rw [hserves₁.writable, if_neg Bool.false_ne_true, hwrite]

/-! ### Closing -/

/-- The log of a connection in use is not lost, so the connection ends it. -/
theorem Logs.close {ahead? : Option Table} (h : c.Logs d names) (hmedium : c.medium = .file names)
    (hlost : c.hasLost d = false) (hahead : c.ahead? d = ahead?) :
    c.close none d = endLog c.isAlone names ahead? d := by
  simp [Connection.close, hmedium, h.logged, h.access, hlost, hahead]

/-- **A database that is closed** is a file at rest, with the table that there was. No file
was made, and an index that was made for a log is gone. -/
theorem Serves.rests_close (h : c.Serves d t) (hmedium : c.medium = .file names) :
    Rests c.location (c.close none d) names t ∧
      (c.close none d).nodeAt? (journalOf names) ≠ some .directory ∧
      Disk.Confined (files names) [] d (c.close none d) ∧
      (c.isLogged = true → c.isAlone = false →
        (c.close none d).nodeAt? (indexOf names) = none) := by
  cases h.holds with
  | memory hmemory hcopy =>
    rw [hmedium] at hmemory
    cases hmemory
  | file hfile hlogged hcopy hrests =>
    rw [hmedium] at hfile
    cases hfile
    have hclose : c.close none d = d := by simp [Connection.close, hmedium, hlogged]
    rw [hclose]
    exact ⟨hrests, (canJournal_eq_true_iff.mp (h.room names hmedium hlogged)).2, .refl _ _ d,
      fun hlogged' => absurd (hlogged.symm.trans hlogged') (by decide)⟩
  | log hfile hlogs hcopy hnode hlog =>
    rw [hmedium] at hfile
    cases hfile
    have hahead : c.ahead? d = some t := by simp [Connection.ahead?, hmedium, hlog, hlogs.logged]
    rw [hlogs.close hmedium (by simp [hasLost, hahead]) hahead]
    obtain ⟨hrests, hchange, hindex⟩ := rests_endLog (some t) hlogs.settled hlogs.index
      hnode (by simp [hlog])
    exact ⟨hrests, hrests.journal_ne_directory hlogs.locks, hchange, fun _ => hindex⟩
  | @unchanged _ _ copy node hfile hlogs hcopy hcopied hnode hlog hfree hother =>
    rw [hmedium] at hfile
    cases hfile
    have hahead : c.ahead? d = none := by
      cases node with
      | log t' => exact absurd rfl (hother t')
      | file | database | data | directory => simp [Connection.ahead?, hmedium, hlog]
    rw [hlogs.close hmedium (by simp [hasLost, hcopy, hcopied]) hahead]
    obtain ⟨hrests, hchange, hindex⟩ := rests_endLog none hlogs.settled hlogs.index
      hnode (Disk.ne_directory_of_nodeAt? hlog hfree)
    exact ⟨hrests, hrests.journal_ne_directory hlogs.locks, hchange, fun _ => hindex⟩

end Connection
end Database

/-- A table is a map from keys to values. -/
theorem Table.get?_store_eq_update (t : Table) (key value : String) :
    (t.store key value).get? = Function.update t.get? key (some value) :=
  Assoc.get?_putSorted_eq_update t.rows key value

/-! ### Workspaces -/

namespace Workspace

/-- A workspace has an open database with a table. -/
def KeepsInTable (w : Workspace) (t : Table) : Prop :=
  ∃ c, w.backend = .database c ∧ c.Serves w.disk t

/-- The table of a workspace, if it has one. -/
def table (w : Workspace) : Table :=
  match w.backend with
  | .database c =>
    match c.finding w.disk with
    | .table t => t
    | _ => .empty
  | _ => .empty

variable {w : Workspace} {t : Table}

theorem KeepsInTable.table (h : w.KeepsInTable t) : w.table = t := by
  obtain ⟨c, hw, hserves⟩ := h
  simp [Workspace.table, hw, hserves.holds.finding]

theorem KeepsInTable.get (h : w.KeepsInTable t) (key : String) :
    (KeyValue.get w key).1 = .ok (t.get? key) ∧ (KeyValue.get w key).2.KeepsInTable t := by
  obtain ⟨c, hw, hserves⟩ := h
  obtain ⟨c', hget, hserves', -⟩ := hserves.exists_get key
  simp only [KeyValue.get, Workspace.get, hw, hget]
  exact ⟨trivial, c', rfl, hserves'⟩

theorem KeepsInTable.set (h : w.KeepsInTable t) (key value : String) :
    (KeyValue.set w key value).1 = .ok () ∧
      (KeyValue.set w key value).2.KeepsInTable (t.store key value) := by
  obtain ⟨c, hw, hserves⟩ := h
  obtain ⟨c', d', hstore, hserves', -⟩ := hserves.exists_store key value
  simp only [KeyValue.set, Workspace.store, hw, hstore]
  exact ⟨trivial, c', rfl, hserves'⟩

/-- **A workspace with a database** works as long as it has its table. -/
def reliableDatabase : KeyValue.Reliable Workspace where
  Works w := ∃ t, w.KeepsInTable t
  contents w := w.table.get?
  get_result := by
    intro w ⟨t, h⟩ key
    rw [(h.get key).1, h.table]
  get_works := by
    intro w ⟨t, h⟩ key
    exact ⟨t, (h.get key).2⟩
  get_contents := by
    intro w ⟨t, h⟩ key
    rw [(h.get key).2.table, h.table]
  set_result := by
    intro w ⟨t, h⟩ key value
    exact (h.set key value).1
  set_works := by
    intro w ⟨t, h⟩ key value
    exact ⟨_, (h.set key value).2⟩
  set_contents := by
    intro w ⟨t, h⟩ key value
    rw [(h.set key value).2.table, h.table, Table.get?_store_eq_update]

end Workspace
end IndicatorStrategy
