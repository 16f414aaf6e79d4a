import IndicatorStrategy.Proofs.Store.Database
/-!
# IndicatorStrategy.Proofs.Store.Reopening

**Opening a database**, for the first time and again. What opening one for writing comes to is
said by inversion (`exists_of_openAt`): there is a table, and the files are those that there
were, but for those of the database. A file at rest is opened as it is (`exists_openAt`), so
what a database had when it was closed is what it has when it is opened again.
-/

namespace IndicatorStrategy
namespace Database

variable {l : Location} {d d' : Disk} {names : List String} {t : Table}

namespace Connection

variable {c c' : Connection}

/-! ### Finding a table -/

theorem exists_of_finding (hmedium : c.medium = .file names) (h : c.finding d = .table t) :
    ∃ base, d.nodeAt? names = some (.database base) ∧ c.tableAt d names base = t := by
  rw [finding, hmedium] at h
  dsimp only at h
  split at h
  · rename_i base hnode
    exact ⟨base, hnode, Finding.table.inj h⟩
  · split at h <;> cases h
  all_goals cases h

/-- Where there is nothing there are no pages, unless there is a directory. -/
theorem isVoidAt_of_finding (hmedium : c.medium = .file names) (h : c.finding d = .nothing)
    (hfree : d.nodeAt? names ≠ some .directory) : isVoidAt d names = true := by
  rw [finding, hmedium] at h
  dsimp only at h
  rw [isVoidAt]
  split at h
  · cases h
  · rename_i text hnode
    split at h
    · rename_i hvoid
      rw [hnode]
      exact hvoid
    · cases h
  · cases h
  · cases h
  · cases hnode : d.nodeAt? names with
    | none => rfl
    | some node => cases node <;> simp_all

/-! ### Settling -/

theorem settle_eq_ok {isRead : Bool} (hmedium : c.medium = .file names)
    (hfixed : c.location.isFixed = false) (hlogged : c.isLogged = false)
    (h : c.settle isRead d = (.ok (), c', d')) :
    ∃ isLogged, Settles c.location c.isAlone isLogged names d d' ∧
      c' = if isLogged then ({ c with isLogged := true } : Connection).keepCopy d' else c := by
  rw [settle, hmedium, hfixed, hlogged] at h
  simp only [Bool.or_self, Bool.false_eq_true, if_false] at h
  split at h
  · cases h
  rename_i d₁ hbeside
  obtain ⟨⟨⟩, hlock, hjournal⟩ := bind_eq_ok_iff.mp hbeside
  split at h
  · cases h
  · rename_i hlog
    cases h
    exact ⟨false, settles hlock hjournal hlog, rfl⟩
  · rename_i hlog
    cases h
    exact ⟨true, settles hlock hjournal hlog, by simp [hmedium]⟩

/-! ### Making sure of the table -/

/-- An empty table that is made is in a file at rest. -/
theorem exists_of_makeTable (hmedium : c.medium = .file names) (hlogged : c.isLogged = false)
    (hwritable : c.isReadOnly = false)
    (hlock : settleLock c.location names d = .ok ())
    (hlog : ∀ node, d.nodeAt? (logOf names) = some node → node.isEmpty = true)
    (hfree : d.nodeAt? names ≠ some .directory)
    (h : c.makeTable false d = (.ok (), c', d')) :
    c' = c.found ∧ Rests c.location d' names .empty ∧
      Disk.Confined (files names) [names] d d' := by
  have hfound : ({ c with knowledge := .present } : Connection) = c.found := rfl
  rw [makeTable, hfound] at h
  rw [show c.found.isReadOnly = false from hwritable, if_neg Bool.false_ne_true] at h
  split at h
  · cases h
  rename_i d₁ hbegin
  -- beginning removes a journal at most
  have hdrops : Disk.Drops (journalOf names) d d₁ := by
    rw [begin] at hbegin
    split at hbegin
    · rename_i other hmedium' _
      obtain rfl := Medium.file.inj (hmedium.symm.trans hmedium')
      split at hbegin
      · cases hbegin
        exact .kept
      · split at hbegin
        · rename_i hroom
          cases hbegin
          exact .removed (canJournal_eq_true_iff.mp hroom).2
        · cases hbegin
    · cases hbegin
      exact .kept
  have hchange : Disk.Confined (files names) [names] d d₁ := hdrops.confined (by simp [files])
  rw [Bool.false_and, if_neg Bool.false_ne_true, write,
    show c.found.medium = .file names from hmedium] at h
  dsimp only at h
  rw [show c.found.isLogged = false from hlogged, if_neg Bool.false_ne_true] at h
  split at h
  · rename_i d₂ hwrite
    cases h
    obtain ⟨hrests, -, hwritten⟩ := rests_overwrite
      ((settleLock_eq_of_confined (List.Subset.refl _) hchange).trans hlock)
      (fun node hnode => hlog node
        ((hdrops.nodeAt?_of_ne (journalOf_ne_logOf names)).symm.trans hnode))
      (hchange.free hfree) (fun _ => List.mem_singleton_self names) hwrite
    exact ⟨rfl, hrests, hchange.trans hwritten⟩
  · cases h

theorem continues_keepCopy (c : Connection) (d : Disk) : c.Continues (c.keepCopy d) := by
  rw [keepCopy]
  split
  · exact continues_copy c _
  · exact .refl c

/-- Without a table there is nothing to copy. -/
theorem keepCopy_eq_self (h : ∀ t, c.finding d ≠ .table t) : c.keepCopy d = c := by
  rw [keepCopy]
  split
  · rename_i t hfinding
    exact absurd hfinding (h t)
  · rfl

/-- A log that is gone on with has the table that is found. -/
theorem holds_keepCopy (hmedium : c.medium = .file names) (hlogs : c.Logs d names)
    (hlog : ∃ node, d.nodeAt? (logOf names) = some node ∧ node ≠ .directory)
    (hfinding : c.finding d = .table t) : (c.keepCopy d).Holds d t := by
  obtain ⟨base, hbase, htable⟩ := exists_of_finding hmedium hfinding
  obtain ⟨node, hnode, hfree⟩ := hlog
  rw [tableAt, hlogs.logged, if_pos rfl, hnode] at htable
  have hkept : ({ c with copy? := some ⟨t, [], (c.ahead? d).isSome⟩ } : Connection).Logs d names :=
    hlogs.continues (continues_copy c _)
  rw [keepCopy, hfinding]
  cases node with
  | log t' =>
    obtain rfl : t' = t := htable
    have hahead : c.ahead? d = some t' := by simp [ahead?, hmedium, hnode, hlogs.logged]
    rw [hahead] at hkept ⊢
    exact .log hmedium hkept rfl hbase hnode
  | file | database | data =>
    obtain rfl : base = t := htable
    have hahead : c.ahead? d = none := by simp [ahead?, hmedium, hnode]
    rw [hahead] at hkept ⊢
    exact .unchanged hmedium hkept rfl rfl hbase hnode (by simp) (by simp)
  | directory => exact absurd rfl hfree

/-- A table is made where there is nothing, and any other one is found as it is. -/
theorem ensureTable_eq_ok {isRead : Bool} (hwritable : c.isReadOnly = false)
    (h : c.ensureTable isRead d = (.ok (), c', d')) :
    ∃ c₁ d₁, c.settle isRead d = (.ok (), c₁, d₁) ∧
      (c' = c₁.found ∧ d' = d₁ ∧ (c₁.copy?.isSome ∨ ∃ t, c₁.finding d₁ = .table t) ∨
        c₁.finding d₁ = .nothing ∧ c₁.makeTable isRead d₁ = (.ok (), c', d')) := by
  rw [ensureTable, hwritable, Bool.false_and, if_neg Bool.false_ne_true] at h
  split at h
  · cases h
  rename_i c₁ d₁ hsettle
  refine ⟨c₁, d₁, hsettle, ?_⟩
  split at h
  · rename_i hcopy
    cases h
    exact .inl ⟨rfl, rfl, .inl hcopy⟩
  split at h
  · rename_i t hfinding
    cases h
    exact .inl ⟨rfl, rfl, .inr ⟨t, hfinding⟩⟩
  · rename_i hfinding
    exact .inr ⟨hfinding, h⟩
  · cases h

/-- **A file that is opened for writing** has a table then. -/
theorem exists_of_ensureTable (hmedium : c.medium = .file names) (hlogged : c.isLogged = false)
    (hcopy : c.copy? = none) (hwritable : c.isReadOnly = false)
    (hfixed : c.location.isFixed = false) (haccess : c.location.access ≠ .readOnly)
    (hfree : d.nodeAt? names ≠ some .directory)
    (h : c.ensureTable false d = (.ok (), c', d')) :
    ∃ t, c'.Holds d' t ∧ c'.location = c.location ∧ c'.medium = .file names ∧
      Disk.Confined (files names) (names :: indexMade c'.isLogged c'.isAlone names) d d' := by
  obtain ⟨c₁, d₁, hsettle, hmade⟩ := ensureTable_eq_ok hwritable h
  obtain ⟨isLogged, hsettles, rfl⟩ := settle_eq_ok hmedium hfixed hlogged hsettle
  have hfree₁ : d₁.nodeAt? names ≠ some .directory := hsettles.change.free hfree
  have hchange : Disk.Confined (files names)
      (names :: indexMade isLogged c.isAlone names) d d₁ :=
    hsettles.change.mono (List.Subset.refl _) (List.subset_cons_self _ _)
  cases isLogged with
  | false =>
    simp only [Bool.false_eq_true, if_false, hcopy, Option.isSome_none, false_or] at hmade
    rcases hmade with ⟨rfl, rfl, t, hfinding⟩ | ⟨-, hmake⟩
    · obtain ⟨base, hbase, -⟩ := exists_of_finding hmedium hfinding
      have hvoid := isVoidAt_of_database (hsettles.file.symm.trans hbase)
      rw [← hlogged] at hchange
      exact ⟨base, .file hmedium hlogged hcopy
        ⟨hsettles.settled hvoid, hbase, hsettles.unlogged rfl⟩, rfl, hmedium, hchange⟩
    · obtain ⟨rfl, hrests, hwritten⟩ := exists_of_makeTable hmedium hlogged hwritable
        hsettles.lock (hsettles.unlogged rfl) hfree₁ hmake
      have hnew : [names] ⊆ names :: indexMade c.isLogged c.isAlone names := by simp
      rw [← hlogged] at hchange
      exact ⟨.empty, .file hmedium hlogged hcopy hrests, rfl, hmedium,
        hchange.trans (hwritten.mono (List.Subset.refl _) hnew)⟩
  | true =>
    obtain ⟨hlocks, hvoid, hlog, hindex⟩ := hsettles.logged rfl
    rw [if_pos rfl] at hmade
    obtain ⟨c₂, hc₂, hcontinues, hcopy₂⟩ : ∃ c₂ : Connection, { c with isLogged := true } = c₂ ∧
        (c₂.location = c.location ∧ c₂.medium = .file names ∧ c₂.isAlone = c.isAlone ∧
          c₂.Logs d₁ names) ∧ c₂.copy? = none :=
      ⟨_, rfl, ⟨rfl, hmedium, rfl, rfl, haccess, hlocks, hsettles.settled hvoid, hindex⟩, hcopy⟩
    obtain ⟨hlocation, hmedium₂, halone, hlogs⟩ := hcontinues
    rw [hc₂] at hmade
    by_cases htable : ∃ t, c₂.finding d₁ = .table t
    · obtain ⟨t, hfinding⟩ := htable
      have hholds := holds_keepCopy hmedium₂ hlogs hlog hfinding
      have hkept := continues_keepCopy c₂ d₁
      rcases hmade with ⟨rfl, rfl, -⟩ | ⟨hnothing, -⟩
      · refine ⟨t, hholds.found, hkept.location.trans hlocation,
          (hkept.file names).mpr hmedium₂, ?_⟩
        rw [found, hkept.isLogged, hkept.isAlone, halone, hlogs.logged]
        exact hchange
      · rw [hholds.finding] at hnothing
        cases hnothing
    -- without a table there is no copy, and where pages are there is something
    · rw [keepCopy_eq_self (not_exists.mp htable), hcopy₂] at hmade
      rcases hmade with ⟨-, -, hsome | hfound⟩ | ⟨hnothing, -⟩
      · cases hsome
      · exact absurd hfound htable
      · have hempty := isVoidAt_of_finding hmedium₂ hnothing hfree₁
        rw [isVoidAt, hsettles.file, ← isVoidAt, hvoid] at hempty
        cases hempty

/-! ### Rights -/

/-- What is settled about a database when it is opened: where it is, and whether it may only be
read. -/
def rights (c : Connection) : Location × Bool := (c.location, c.isReadOnly)

theorem rights_keepCopy (c : Connection) (d : Disk) : (c.keepCopy d).rights = c.rights := by
  rw [keepCopy]
  split <;> rfl

theorem rights_settle {isRead : Bool} {r : Except Failure Unit}
    (h : c.settle isRead d = (r, c', d')) : c'.rights = c.rights := by
  rw [settle] at h
  split at h
  · cases h
    rfl
  split at h
  · cases h
    rfl
  split at h
  · cases h
    rfl
  split at h <;> cases h
  · rfl
  · rfl
  · exact rights_keepCopy _ _

theorem rights_write {r : Except Failure Unit} (h : c.write d t = (r, c', d')) :
    c'.rights = c.rights := by
  rw [write] at h
  split at h
  · cases h
    rfl
  split at h
  · cases h
    rfl
  split at h <;>
  · cases h
    rfl

theorem rights_ensureTable (h : c.ensureTable false d = (.ok (), c', d')) :
    c'.rights = c.rights := by
  rw [ensureTable] at h
  split at h
  · cases h
  split at h
  · cases h
  rename_i c₁ d₁ hsettle
  have hrights : c₁.rights = c.rights := rights_settle hsettle
  rw [← hrights]
  split at h
  · cases h
    rfl
  split at h
  · cases h
    rfl
  · rw [makeTable] at h
    split at h
    · cases h
    split at h
    · cases h
    rw [Bool.false_and, if_neg Bool.false_ne_true] at h
    have hwritten := rights_write h
    exact hwritten
  · cases h

/-- Only what is no database is found to be sealed. -/
theorem rights_changed {key value : String} (h : c.changed d key value = (.ok t, c')) :
    c'.rights = c.rights := by
  rw [changed] at h
  split at h
  · split at h
    · rw [← (Prod.mk.inj h).2]
    · rw [← (Prod.mk.inj h).2]
  · rw [Connection.read] at h
    cases hfinding : c.finding d with
    | table t' =>
      rw [hfinding] at h
      rw [← (Prod.mk.inj h).2]
      rfl
    | nothing =>
      rw [hfinding] at h
      cases (Prod.mk.inj h).1
    | text head =>
      rw [hfinding] at h
      dsimp only at h
      split at h <;> cases (Prod.mk.inj h).1

/-- **Where a value was stored**, the database may be written. -/
theorem isReadOnly_of_store {key value : String} (h : c.store d key value = (.ok (), c', d')) :
    c.isReadOnly = false := by
  rw [Connection.store] at h
  split at h
  · cases h
  split at h
  · cases h
  rename_i c₁ d₁ hsettle
  split at h
  · cases h
  split at h
  · cases h
  rename_i t c₂ hchanged
  split at h
  · cases h
  · rename_i hwritable
    have hsame := congrArg Prod.snd ((rights_changed hchanged).trans (rights_settle hsettle))
    exact hsame.symm.trans (eq_false_of_ne_true hwritable)

/-- **Where a value was stored** there is room for what that takes. -/
theorem Holds.serves (h : c.Holds d t) {key value : String}
    (hstore : c.store d key value = (.ok (), c', d')) : c.Serves d t := by
  have hwritable := isReadOnly_of_store hstore
  refine ⟨h, hwritable, fun names hmedium hlogged => ?_⟩
  obtain ⟨c₁, hchanged, hsame⟩ := h.exists_changed key value
  obtain ⟨hwritable₁, hmedium₁, hlogged₁⟩ :
      c₁.isReadOnly = false ∧ c₁.medium = .file names ∧ c₁.isLogged = false := by
    rcases hsame with rfl | rfl <;> exact ⟨hwritable, hmedium, hlogged⟩
  rw [Connection.store, hwritable, Bool.false_and, if_neg Bool.false_ne_true, h.settle] at hstore
  simp only [h.begin, hchanged, hwritable₁, Bool.false_eq_true, if_false] at hstore
  rw [write, hmedium₁] at hstore
  simp only [hlogged₁, Bool.false_eq_true, if_false] at hstore
  split at hstore
  · rename_i hwrite
    rw [overwrite] at hwrite
    split at hwrite
    · assumption
    · cases hwrite
  · cases hstore

end Connection

/-! ### Opening -/

/-- What an opened database has to do with the files that there were: nothing if it is in
memory, and otherwise its own files are all that may have changed. -/
inductive Reaches (l : Location) (c : Connection) (d d' : Disk) : Prop
  | memory {name? : Option String} {table? : Option Table} (hpath : l.filePath? = none)
      (hmedium : c.medium = .memory name? table?) (hdisk : d' = d) : Reaches l c d d'
  | file {path : String} {names : List String} (hpath : l.filePath? = some path)
      (hsettle : d.settle path = .ok names) (hmedium : c.medium = .file names)
      (hchange : Disk.Confined (files names) (names :: indexMade c.isLogged c.isAlone names)
        d d') : Reaches l c d d'

variable {c fresh : Connection} {path text : String}

/-- Connecting makes sure of the table. What may not change is copied besides. -/
theorem exists_of_connect (h : connect none fresh d = .opened c d') :
    ∃ c₁, fresh.ensureTable false d = (.ok (), c₁, d') ∧
      c = if c₁.location.isFixed && c₁.copy?.isNone then c₁.keepCopy d' else c₁ := by
  simp only [connect, Option.filter_none, Option.getD_none, Option.any_none] at h
  split at h
  · cases h
  · rename_i c₁ d₁ hensure
    cases h
    exact ⟨c₁, hensure, rfl⟩

theorem rights_of_connect (h : connect none fresh d = .opened c d') : c.rights = fresh.rights := by
  obtain ⟨c₁, hensure, rfl⟩ := exists_of_connect h
  rw [← Connection.rights_ensureTable hensure]
  split
  · exact Connection.rights_keepCopy c₁ d'
  · rfl

theorem ensureTable_of_connect (hfixed : fresh.location.isFixed = false)
    (h : connect none fresh d = .opened c d') : fresh.ensureTable false d = (.ok (), c, d') := by
  obtain ⟨c₁, hensure, hc⟩ := exists_of_connect h
  have hlocation : c₁.location = fresh.location :=
    congrArg Prod.fst (Connection.rights_ensureTable hensure)
  rw [hlocation, hfixed, Bool.false_and, if_neg Bool.false_ne_true] at hc
  rw [hc, hensure]

/-- Where a file can be, there is one then. -/
theorem confined_makeFile? {access : Access} (h : makeFile? d names access = some d') :
    d'.nodeAt? names ≠ some .directory ∧ Disk.Confined (files names) [names] d d' := by
  rw [makeFile?] at h
  split at h
  · cases h
  · rename_i node hdirectory hnode
    cases h
    exact ⟨Disk.ne_directory_of_nodeAt? hnode hdirectory, .refl _ _ d⟩
  · rename_i hnone
    have hfree : d.nodeAt? names ≠ some .directory := by simp [hnone]
    split at h
    · cases h
      have hmade : Disk.Confined (files names) [names] d (d.put names (.file "")) :=
        Disk.confined_put (by simp [files]) (fun _ => List.mem_singleton_self names) hfree
          (by simp)
      exact ⟨hmade.free hfree, hmade⟩
    · cases h

theorem openAt_eq_ok_iff :
    openAt none text d = (.ok c, d') ↔ openText none text d = .opened c d' := by
  rw [openAt]
  cases openText none text d with
  | opened c₁ d₁ => simp [Opening.finish, others]
  | failed e c₁ d₁ => simp [Opening.finish]
  | refused e d₁ => simp [Opening.finish]

theorem filePath?_eq_some_iff {l : Location} : l.filePath? = some path ↔ l.place = .file path := by
  rw [Location.filePath?]
  split <;> simp_all

/-- Where a database can be opened, its text says where it is, and what may be done with it. -/
theorem rights_of_openAt (h : openAt none text d = (.ok c, d')) :
    ∃ l, Location.ofText text = .ok l ∧ openLocation none text l d = .opened c d' ∧
      c.location = l ∧ c.isReadOnly = l.isReadOnly := by
  rw [openAt_eq_ok_iff, openText] at h
  split at h
  · cases h
  rename_i l hl
  refine ⟨l, hl, h, ?_⟩
  have hrights : c.rights = (l, l.isReadOnly) := by
    rw [openLocation] at h
    split at h
    · exact rights_of_connect h
    · exact rights_of_connect h
    split at h
    · cases h
    dsimp only at h
    split at h
    · cases h
    · exact rights_of_connect h
  exact ⟨congrArg Prod.fst hrights, congrArg Prod.snd hrights⟩

/-- **A database that is opened for writing** has a table. -/
theorem exists_of_openLocation (hwritable : l.isReadOnly = false)
    (h : openLocation none text l d = .opened c d') :
    ∃ t, c.Holds d' t ∧ Reaches l c d d' := by
  obtain ⟨haccess, hfixed⟩ : l.access ≠ .readOnly ∧ l.isFixed = false := by
    simpa [Location.isReadOnly] using hwritable
  -- a memory begins with an empty table, since nobody has it open
  have hmemory {name? : Option String} (hpath : l.filePath? = none)
      (h : connect none (.fresh none l (.memory name? none)) d = .opened c d') :
      ∃ t, c.Holds d' t ∧ Reaches l c d d' := by
    have hensure := ensureTable_of_connect hfixed h
    simp [Connection.ensureTable, Connection.fresh, hwritable, Connection.settle,
      Connection.finding, Connection.makeTable, Connection.begin, Connection.write] at hensure
    obtain ⟨rfl, rfl⟩ := hensure
    exact ⟨.empty, .memory rfl rfl, .memory hpath rfl rfl⟩
  rw [openLocation] at h
  split at h
  · rename_i hplace
    exact hmemory (by simp [Location.filePath?, hplace]) h
  · rename_i name hplace
    exact hmemory (by simp [Location.filePath?, hplace]) h
  · rename_i path hplace
    split at h
    · cases h
    rename_i names hsettle
    simp only [Option.any_none, Bool.false_eq_true, if_false] at h
    split at h
    · cases h
    rename_i d₁ hmade
    obtain ⟨hfree, hchange₁⟩ := confined_makeFile? hmade
    obtain ⟨t, hholds, -, hmedium, hchange⟩ := Connection.exists_of_ensureTable
      rfl rfl rfl hwritable hfixed haccess hfree (ensureTable_of_connect hfixed h)
    have hnew : [names] ⊆ names :: indexMade c.isLogged c.isAlone names := by simp
    exact ⟨t, hholds, .file (filePath?_eq_some_iff.mpr hplace) hsettle hmedium
      ((hchange₁.mono (List.Subset.refl _) hnew).trans hchange)⟩

/-- **An opened database that takes a value** serves its table. -/
theorem exists_serves_of_openAt {c' : Connection} {d'' : Disk} {key value : String}
    (h : openAt none text d = (.ok c, d')) (hstore : c.store d' key value = (.ok (), c', d'')) :
    ∃ l t, Location.ofText text = .ok l ∧ l.isReadOnly = false ∧ c.location = l ∧
      c.Serves d' t ∧ Reaches l c d d' := by
  obtain ⟨l, hl, hopened, hlocation, hrights⟩ := rights_of_openAt h
  have hwritable := hrights.symm.trans (Connection.isReadOnly_of_store hstore)
  obtain ⟨t, hholds, hreaches⟩ := exists_of_openLocation hwritable hopened
  exact ⟨l, t, hl, hwritable, hlocation, hholds.serves hstore, hreaches⟩

/-! ### Opening again -/

/-- **A file at rest** is opened as it is. It can be written where there is room for what that
takes. -/
theorem exists_openAt (hl : Location.ofText text = .ok l) (hwritable : l.isReadOnly = false)
    (hpath : l.filePath? = some path) (hsettle : d.settle path = .ok names)
    (hrests : Rests l d names t) :
    ∃ c, openAt none text d = (.ok c, d) ∧ c.location = l ∧ c.Holds d t ∧
      (canJournal d names = true → c.Serves d t) ∧ Reaches l c d d := by
  have hfixed : l.isFixed = false := by
    simp only [Location.isReadOnly, Bool.or_eq_false_iff] at hwritable
    exact hwritable.2
  have hholds : (Connection.fresh none l (.file names)).Holds d t := .file rfl rfl rfl hrests
  have hensure : (Connection.fresh none l (.file names)).ensureTable false d
      = (.ok (), (Connection.fresh none l (.file names)).found, d) := by
    rw [Connection.ensureTable, hholds.settle,
      show (Connection.fresh none l (.file names)).isReadOnly = false from hwritable]
    simp only [Bool.false_and, Bool.false_eq_true, if_false, hholds.finding]
    rfl
  refine ⟨(Connection.fresh none l (.file names)).found, ?_, rfl, hholds.found,
    fun hroom => ⟨hholds.found, hwritable, ?_⟩, .file hpath hsettle rfl (.refl _ _ d)⟩
  · have hthere : makeFile? d names l.access = some d := by rw [makeFile?, hrests.node]
    rw [openAt_eq_ok_iff, openText, hl]
    simp only [openLocation, filePath?_eq_some_iff.mp hpath, hsettle, Option.any_none,
      Bool.false_eq_true, if_false, hthere]
    simp only [connect, Option.filter_none, Option.getD_none, Option.any_none, hensure]
    simp [Connection.found, Connection.fresh, hfixed]
  · intro other hother _
    cases hother
    exact hroom

/-- What an open database reaches stays so from one use to the next. -/
theorem Reaches.continues {c' : Connection} {d'' : Disk} (h : Reaches l c d d')
    (hcontinues : c.Continues c') (hconfines : c.Confines d' d'') : Reaches l c' d d'' := by
  cases h with
  | @memory name? table? hpath hmedium hdisk =>
    rw [Connection.Confines, hmedium] at hconfines
    have hmemory : ∀ names, c'.medium ≠ .file names := by
      intro names hfile
      rw [(hcontinues.file names), hmedium] at hfile
      cases hfile
    cases hmedium' : c'.medium with
    | memory name? table? => exact .memory hpath hmedium' (hconfines.trans hdisk)
    | file names => exact absurd hmedium' (hmemory names)
  | @file path names hpath hsettle hmedium hchange =>
    rw [Connection.Confines, hmedium] at hconfines
    refine .file hpath hsettle ((hcontinues.file names).mpr hmedium) ?_
    rw [hcontinues.isLogged, hcontinues.isAlone]
    exact hchange.trans (hconfines.mono (List.Subset.refl _) (List.nil_subset _))

/-- **What a database leaves** when it is closed: a memory leaves the files as they were, and
any other one its file at rest. That is the only file that may be new. -/
theorem Reaches.close (h : Reaches l c d d') (hserves : c.Serves d' t)
    (hlocation : c.location = l) :
    (l.filePath? = none ∧ c.close none d' = d) ∨
    ∃ path names, l.filePath? = some path ∧ d.settle path = .ok names ∧
      Rests l (c.close none d') names t ∧
      (c.close none d').nodeAt? (journalOf names) ≠ some .directory ∧
      Disk.Confined (files names) [names] d (c.close none d') := by
  subst hlocation
  cases h with
  | memory hpath hmedium hdisk =>
    refine .inl ⟨hpath, ?_⟩
    rw [Connection.close, hmedium, hdisk]
  | @file path names hpath hsettle hmedium hchange =>
    obtain ⟨hrests, hjournal, hclosed, hindex⟩ := hserves.rests_close hmedium
    have hall := hchange.trans (hclosed.mono (List.Subset.refl _) (List.nil_subset _))
    refine .inr ⟨path, names, hpath, hsettle, hrests, hjournal, ?_⟩
    rw [indexMade] at hall
    split at hall
    · rename_i hmade
      simp only [Bool.and_eq_true, Bool.not_eq_true'] at hmade
      exact (hall.mono (List.Subset.refl _) (List.Perm.swap _ _ _).subset).of_absent
        (hindex hmade.1 hmade.2)
    · exact hall

end Database
end IndicatorStrategy
