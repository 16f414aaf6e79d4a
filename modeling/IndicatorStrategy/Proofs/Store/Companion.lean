import IndicatorStrategy.Proofs.Store.Frame
import IndicatorStrategy.Store.Companion
/-!
# IndicatorStrategy.Proofs.Store.Companion

**What lies beside a database at rest**: no lock in the way of its own, no journal that would
be taken back, and nothing in a log. Then its file is all that there is to be read
(`Rests`). Each step that settles the files beside a database is inverted here, as is the one
that writes the file.
-/

namespace IndicatorStrategy
namespace Database

variable {l : Location} {d d' : Disk} {names : List String} {node : Node} {t : Table}

/-! ### Places beside a database -/

theorem getLastD_beside (names : List String) (ending : String) :
    (beside names ending).getLastD "" = names.getLastD "" ++ ending := by
  simp [beside]

/-- Files that are named after one file differ in their endings. -/
theorem beside_ne_beside {ending other : String} (h : ending ≠ other) (names : List String) :
    beside names ending ≠ beside names other := by
  intro heq
  have hlast := congrArg (fun names => (List.getLastD names "").toList) heq
  simp only [getLastD_beside, String.toList_append, List.append_cancel_left_eq] at hlast
  exact h (String.toList_inj.mp hlast)

/-- A file is not named after itself. -/
theorem ne_beside {ending : String} (h : ending ≠ "") (names : List String) :
    names ≠ beside names ending := by
  intro heq
  have hlast := congrArg (List.getLastD · "") heq
  simp only [getLastD_beside] at hlast
  have hsize := congrArg String.utf8ByteSize hlast
  rw [String.utf8ByteSize_append] at hsize
  exact h (String.utf8ByteSize_eq_zero_iff.mp (by omega))

theorem ne_journalOf (names : List String) : names ≠ journalOf names :=
  ne_beside (by decide) names

theorem ne_logOf (names : List String) : names ≠ logOf names := ne_beside (by decide) names

theorem ne_indexOf (names : List String) : names ≠ indexOf names := ne_beside (by decide) names

theorem journalOf_ne_logOf (names : List String) : journalOf names ≠ logOf names :=
  beside_ne_beside (by decide) names

theorem journalOf_ne_indexOf (names : List String) : journalOf names ≠ indexOf names :=
  beside_ne_beside (by decide) names

theorem logOf_ne_indexOf (names : List String) : logOf names ≠ indexOf names :=
  beside_ne_beside (by decide) names

/-- The places that a database may write to. -/
def files (names : List String) : List (List String) :=
  [names, journalOf names, logOf names, indexOf names]

theorem lockOf_not_mem_files (names : List String) : lockOf names ∉ files names := by
  have hfile : lockOf names ≠ names := (ne_beside (by decide) names).symm
  have hbeside {ending : String} (h : lockEnding ≠ ending) : lockOf names ≠ beside names ending :=
    beside_ne_beside h names
  simp only [files, List.mem_cons, List.not_mem_nil, or_false, not_or]
  exact ⟨hfile, hbeside (by decide), hbeside (by decide), hbeside (by decide)⟩

/-! ### Locks and journals -/

/-- A place of a database that can be locked, and whose journal, if there is one, is not
taken back. -/
structure Settled (l : Location) (d : Disk) (names : List String) : Prop where
  lock : settleLock l names d = .ok ()
  journal : ∀ node, d.nodeAt? (journalOf names) = some node →
    l.seemsClaimed names d = true ∨ node.isEmpty = true ∨ node.beginsNull = true

/-- Locks are left alone. -/
theorem settleLock_eq_of_confined {places new : List (List String)} (hplaces : places ⊆ files names)
    (h : Disk.Confined places new d d') : settleLock l names d' = settleLock l names d := by
  rw [settleLock, settleLock,
    h.others _ fun hmem => lockOf_not_mem_files names (hplaces hmem)]

theorem seemsClaimed_eq_of_confined {places new : List (List String)}
    (hplaces : places ⊆ files names) (h : Disk.Confined places new d d') :
    l.seemsClaimed names d' = l.seemsClaimed names d := by
  rw [Location.seemsClaimed, Location.seemsClaimed,
    h.others _ fun hmem => lockOf_not_mem_files names (hplaces hmem)]

/-- Files may change where no journal comes to be. -/
theorem Settled.confined (h : Settled l d names) {places new : List (List String)}
    (hplaces : places ⊆ files names) (hchange : Disk.Confined places new d d')
    (hjournal : ∀ node, d'.nodeAt? (journalOf names) = some node →
      d.nodeAt? (journalOf names) = some node) : Settled l d' names where
  lock := (settleLock_eq_of_confined hplaces hchange).trans h.lock
  journal := by
    intro node hnode
    rw [seemsClaimed_eq_of_confined hplaces hchange]
    exact h.journal node (hjournal node hnode)

/-- Where locks belong to the file, no directory is in the place of the journal. -/
theorem Settled.journal_ne_directory (h : Settled l d names) (hlocks : l.canLog = true) :
    d.nodeAt? (journalOf names) ≠ some .directory := by
  intro hdirectory
  rcases h.journal _ hdirectory with hclaimed | hempty | hnull
  · simp only [Location.seemsClaimed, Bool.and_eq_true, decide_eq_true_eq] at hclaimed
    simp [Location.canLog, Location.locksFile, hclaimed.1] at hlocks
  · cases hempty
  · cases hnull

theorem isVoidAt_of_database (h : d.nodeAt? names = some (.database t)) :
    isVoidAt d names = false := by
  rw [isVoidAt, h]
  rfl

/-- No journal is taken back, unless there is nothing that it could belong to. -/
theorem Settled.settleJournal (h : Settled l d names) (hvoid : isVoidAt d names = false)
    (isRead : Bool) : settleJournal l isRead names d = .ok d := by
  rw [Database.settleJournal]
  split
  · rfl
  · rename_i node hnode
    by_cases hidle : (l.seemsClaimed names d || node.isEmpty) = true
    · rw [if_pos hidle]
    · have hnull : node.beginsNull = true := by
        simp only [Bool.or_eq_true, not_or] at hidle
        exact ((h.journal node hnode).resolve_left hidle.1).resolve_left hidle.2
      have hfree : node ≠ .directory := by
        rintro rfl
        cases hnull
      rw [if_neg hidle, hvoid, if_neg Bool.false_ne_true, if_neg hfree, if_pos hnull]

/-- **What becomes of a journal**: it stays or it is removed, and it would not be taken back
any more. -/
theorem settleJournal_eq_ok {isRead : Bool} (h : settleJournal l isRead names d = .ok d') :
    Disk.Drops (journalOf names) d d' ∧
      (isVoidAt d names = false → ∀ node, d'.nodeAt? (journalOf names) = some node →
        l.seemsClaimed names d = true ∨ node.isEmpty = true ∨ node.beginsNull = true) := by
  rw [settleJournal] at h
  split at h
  · rename_i hnone
    cases h
    refine ⟨.kept, fun _ node hnode => ?_⟩
    rw [hnone] at hnode
    cases hnode
  rename_i node hnode
  have hkept (hidle : l.seemsClaimed names d = true ∨ node.isEmpty = true ∨
      node.beginsNull = true) : ∀ other, d.nodeAt? (journalOf names) = some other →
        l.seemsClaimed names d = true ∨ other.isEmpty = true ∨ other.beginsNull = true := by
    intro other hother
    obtain rfl := Option.some.inj (hnode.symm.trans hother)
    exact hidle
  split at h
  · rename_i hidle
    cases h
    exact ⟨.kept, fun _ => hkept ((Bool.or_eq_true_iff.mp hidle).imp_right .inl)⟩
  split at h
  · rename_i hvoid
    cases h
    refine ⟨?_, fun hnot => absurd (hvoid.symm.trans hnot) (by decide)⟩
    split
    · rename_i hclaim
      simp only [Bool.and_eq_true, decide_eq_true_eq] at hclaim
      exact .removed (Disk.ne_directory_of_nodeAt? hnode hclaim.2)
    · exact .kept
  split at h
  · cases h
  rename_i hdirectory
  split at h
  · rename_i hnull
    cases h
    exact ⟨.kept, fun _ => hkept (.inr (.inr hnull))⟩
  split at h
  · cases h
  split at h
  · cases h
  · cases h
    have hfree := Disk.ne_directory_of_nodeAt? hnode hdirectory
    refine ⟨.removed hfree, fun _ other hother => ?_⟩
    rw [Disk.nodeAt?_erase_self hfree] at hother
    cases hother

theorem settled_of_settleJournal {isRead : Bool} (hlock : settleLock l names d = .ok ())
    (h : settleJournal l isRead names d = .ok d') (hvoid : isVoidAt d names = false) :
    Settled l d' names := by
  obtain ⟨hdrops, hidle⟩ := settleJournal_eq_ok h
  have hchange : Disk.Confined (files names) [] d d' := hdrops.confined (by simp [files])
  refine ⟨(settleLock_eq_of_confined (List.Subset.refl _) hchange).trans hlock, ?_⟩
  intro node hnode
  rw [seemsClaimed_eq_of_confined (List.Subset.refl _) hchange]
  exact hidle hvoid node hnode

/-! ### Logs -/

theorem settleLog_of_isEmpty (h : ∀ node, d.nodeAt? (logOf names) = some node →
    node.isEmpty = true) (isAlone : Bool) : settleLog l isAlone names d = .ok (false, d) := by
  rw [settleLog]
  split
  · rfl
  · rename_i node hnode
    rw [if_pos (h node hnode)]

/-- **What becomes of a log that is not gone on with**: it has nothing, or it is removed. -/
theorem settleLog_eq_ok_false {isAlone : Bool} (h : settleLog l isAlone names d = .ok (false, d')) :
    Disk.Drops (logOf names) d d' ∧
      ∀ node, d'.nodeAt? (logOf names) = some node → node.isEmpty = true := by
  rw [settleLog] at h
  split at h
  · rename_i hnone
    cases h
    refine ⟨.kept, fun node hnode => ?_⟩
    rw [hnone] at hnode
    cases hnode
  rename_i node hnode
  split at h
  · rename_i hempty
    cases h
    refine ⟨.kept, fun other hother => ?_⟩
    obtain rfl := Option.some.inj (hnode.symm.trans hother)
    exact hempty
  split at h
  · split at h
    · cases h
    · rename_i hdirectory
      cases h
      have hfree := Disk.ne_directory_of_nodeAt? hnode hdirectory
      refine ⟨.removed hfree, fun other hother => ?_⟩
      rw [Disk.nodeAt?_erase_self hfree] at hother
      cases hother
  split at h
  · cases h
  split at h
  · cases h
  · simp only [Except.ok.injEq, Prod.mk.injEq, Bool.true_eq_false, false_and] at h

/-- **A log that is gone on with** is a file beside a file, and its index is a file too unless
the process holds the database by itself. -/
theorem settleLog_eq_ok_true {isAlone : Bool} (h : settleLog l isAlone names d = .ok (true, d')) :
    (∃ node, d.nodeAt? (logOf names) = some node ∧ node ≠ .directory) ∧
      l.canLog = true ∧ isVoidAt d names = false ∧
      (isAlone = true ∧ d' = d ∨ isAlone = false ∧
        d.nodeAt? (indexOf names) ≠ some .directory ∧ d' = d.put (indexOf names) .data) := by
  rw [settleLog] at h
  split at h
  · simp only [Except.ok.injEq, Prod.mk.injEq, Bool.false_eq_true, false_and] at h
  rename_i node hnode
  split at h
  · simp only [Except.ok.injEq, Prod.mk.injEq, Bool.false_eq_true, false_and] at h
  split at h
  · split at h
    · cases h
    · simp only [Except.ok.injEq, Prod.mk.injEq, Bool.false_eq_true, false_and] at h
  rename_i hvoid
  split at h
  · cases h
  rename_i hopen
  simp only [Bool.or_eq_true, decide_eq_true_eq, Bool.not_eq_true', not_or,
    Bool.not_eq_false] at hopen
  split at h
  · cases h
  rename_i hindex
  cases h
  refine ⟨⟨node, hnode, hopen.1⟩, hopen.2, eq_false_of_ne_true hvoid, ?_⟩
  cases isAlone with
  | true => exact .inl ⟨rfl, rfl⟩
  | false => exact .inr ⟨rfl, by simpa using hindex, rfl⟩

/-- The index of a log that is gone on with, unless the process holds the file by itself. -/
def indexMade (isLogged isAlone : Bool) (names : List String) : List (List String) :=
  if isLogged && !isAlone then [indexOf names] else []

/-- Settling a log leaves all other files as they were. -/
theorem confined_settleLog {isLogged isAlone : Bool}
    (h : settleLog l isAlone names d = .ok (isLogged, d')) :
    Disk.Confined (files names) (indexMade isLogged isAlone names) d d' ∧
      ∀ other, logOf names ≠ other → indexOf names ≠ other →
        d'.nodeAt? other = d.nodeAt? other := by
  cases isLogged with
  | false =>
    obtain ⟨hdrops, -⟩ := settleLog_eq_ok_false h
    exact ⟨hdrops.confined (by simp [files]), fun _ hlog _ => hdrops.nodeAt?_of_ne hlog⟩
  | true =>
    obtain ⟨-, -, -, ⟨rfl, rfl⟩ | ⟨rfl, hfree, rfl⟩⟩ := settleLog_eq_ok_true h
    · exact ⟨.refl _ _ d', fun _ _ _ => rfl⟩
    · exact ⟨Disk.confined_put (by simp [files]) (by simp [indexMade]) hfree (by simp),
        fun _ _ hindex => Disk.nodeAt?_put_of_ne hindex _⟩

/-! ### Settling -/

/-- What settling the files beside a database comes to, whether a log is gone on with or
not. -/
structure Settles (l : Location) (isAlone isLogged : Bool) (names : List String)
    (d d' : Disk) : Prop where
  lock : settleLock l names d' = .ok ()
  change : Disk.Confined (files names) (indexMade isLogged isAlone names) d d'
  file : d'.nodeAt? names = d.nodeAt? names
  settled : isVoidAt d names = false → Settled l d' names
  unlogged : isLogged = false →
    ∀ node, d'.nodeAt? (logOf names) = some node → node.isEmpty = true
  logged : isLogged = true → l.canLog = true ∧ isVoidAt d names = false ∧
    (∃ node, d'.nodeAt? (logOf names) = some node ∧ node ≠ .directory) ∧
    (isAlone = false → d'.nodeAt? (indexOf names) ≠ some .directory)

theorem settles {d₁ : Disk} {isRead isAlone isLogged : Bool}
    (hlock : settleLock l names d = .ok ()) (hjournal : settleJournal l isRead names d = .ok d₁)
    (hlog : settleLog l isAlone names d₁ = .ok (isLogged, d')) :
    Settles l isAlone isLogged names d d' := by
  obtain ⟨hdrops, -⟩ := settleJournal_eq_ok hjournal
  obtain ⟨hchange₂, hsame₂⟩ := confined_settleLog hlog
  have hchange := (hdrops.confined (by simp [files])).trans hchange₂
  have hfile₁ : d₁.nodeAt? names = d.nodeAt? names :=
    hdrops.nodeAt?_of_ne (ne_journalOf names).symm
  refine ⟨(settleLock_eq_of_confined (List.Subset.refl _) hchange).trans hlock, hchange,
    (hsame₂ _ (ne_logOf names).symm (ne_indexOf names).symm).trans hfile₁, ?_, ?_, ?_⟩
  · intro hvoid
    refine (settled_of_settleJournal hlock hjournal hvoid).confined (List.Subset.refl _) hchange₂
      fun node hnode => ?_
    rwa [hsame₂ _ (journalOf_ne_logOf names).symm (journalOf_ne_indexOf names).symm] at hnode
  · rintro rfl
    exact (settleLog_eq_ok_false hlog).2
  · rintro rfl
    obtain ⟨⟨node, hnode, hfree⟩, hlocks, hvoid, hindex⟩ := settleLog_eq_ok_true hlog
    refine ⟨hlocks, ?_, ⟨node, ?_, hfree⟩, ?_⟩
    · rwa [isVoidAt, hfile₁] at hvoid
    · rcases hindex with ⟨-, rfl⟩ | ⟨-, -, rfl⟩
      · exact hnode
      · rw [Disk.nodeAt?_put_of_ne (logOf_ne_indexOf names).symm, hnode]
    · rintro rfl
      obtain ⟨hnot, -⟩ | ⟨-, hdirectory, -⟩ := hindex
      · cases hnot
      · exact hchange₂.free hdirectory

/-! ### Databases at rest -/

theorem canJournal_eq_true_iff : canJournal d names = true ↔
    Disk.isTooLong ((journalOf names).getLastD "") = false ∧
      d.nodeAt? (journalOf names) ≠ some .directory := by
  rw [canJournal, Bool.and_eq_true, Bool.not_eq_true', decide_eq_true_eq]

/-- A database file that has all there is of its table. -/
structure Rests (l : Location) (d : Disk) (names : List String) (t : Table) : Prop
    extends Settled l d names where
  node : d.nodeAt? names = some (.database t)
  log : ∀ node, d.nodeAt? (logOf names) = some node → node.isEmpty = true

theorem Rests.free (h : Rests l d names t) : d.nodeAt? names ≠ some .directory := by
  rw [h.node]
  simp

/-- **A file that is written** rests afterwards, with what was written. -/
theorem rests_overwrite {new : List (List String)} (hlock : settleLock l names d = .ok ())
    (hlog : ∀ node, d.nodeAt? (logOf names) = some node → node.isEmpty = true)
    (hfree : d.nodeAt? names ≠ some .directory)
    (hnew : d.nodeAt? names = none → names ∈ new) (h : overwrite d names t = .ok d') :
    Rests l d' names t ∧ canJournal d' names = true ∧
      Disk.Confined (files names) new d d' := by
  rw [overwrite] at h
  split at h
  · rename_i hroom
    cases h
    obtain ⟨hname, hjournal⟩ := canJournal_eq_true_iff.mp hroom
    have hput : Disk.Confined (files names) new d (d.put names (.database t)) :=
      Disk.confined_put (by simp [files]) hnew hfree (by simp)
    have hchange : Disk.Confined (files names) new d
        ((d.put names (.database t)).erase (journalOf names)) :=
      hput.trans (Disk.confined_erase (by simp [files]) (hput.free hjournal))
    have hgone : ((d.put names (.database t)).erase (journalOf names)).nodeAt? (journalOf names)
        = none := Disk.nodeAt?_erase_self (hput.free hjournal)
    refine ⟨⟨⟨?_, ?_⟩, ?_, ?_⟩, ?_, hchange⟩
    · exact (settleLock_eq_of_confined (List.Subset.refl _) hchange).trans hlock
    · intro node hnode
      rw [hgone] at hnode
      cases hnode
    · rw [Disk.nodeAt?_erase_of_ne (ne_journalOf names).symm,
        Disk.nodeAt?_put_self (Disk.isFixed_eq_false hfree)]
    · intro node hnode
      rw [Disk.nodeAt?_erase_of_ne (journalOf_ne_logOf names),
        Disk.nodeAt?_put_of_ne (ne_logOf names)] at hnode
      exact hlog node hnode
    · exact canJournal_eq_true_iff.mpr ⟨hname, by rw [hgone]; simp⟩
  · cases h

theorem Rests.exists_overwrite (h : Rests l d names t) (hroom : canJournal d names = true)
    (t' : Table) : ∃ d', overwrite d names t' = .ok d' ∧ Rests l d' names t' ∧
      canJournal d' names = true ∧ Disk.Confined (files names) [] d d' := by
  have hwrite : overwrite d names t'
      = .ok ((d.put names (.database t')).erase (journalOf names)) := by
    rw [overwrite, if_pos hroom]
  exact ⟨_, hwrite, rests_overwrite h.lock h.log h.free (by simp [h.node]) hwrite⟩

/-! ### Ending a log -/

/-- **A log that is ended** leaves the file at rest, with the table that the changes lead to if
there are any. Its index is gone unless the process holds the file by itself. -/
theorem rests_endLog {isAlone : Bool} (ahead? : Option Table) (hsettled : Settled l d names)
    (hindex : isAlone = false → d.nodeAt? (indexOf names) ≠ some .directory)
    (hnode : d.nodeAt? names = some (.database t))
    (hlog : d.nodeAt? (logOf names) ≠ some .directory) :
    Rests l (endLog isAlone names ahead? d) names (ahead?.getD t) ∧
      Disk.Confined (files names) [] d (endLog isAlone names ahead? d) ∧
      (isAlone = false → (endLog isAlone names ahead? d).nodeAt? (indexOf names) = none) := by
  -- first the file is written, then the log is removed, and then the index if it is to go
  obtain ⟨applied, happlied, hfile, hwritten, hbeside⟩ : ∃ applied,
      ahead?.elim d (applyLog names · d) = applied ∧
      applied.nodeAt? names = some (.database (ahead?.getD t)) ∧
      Disk.Confined (files names) [] d applied ∧
      ∀ other, names ≠ other → applied.nodeAt? other = d.nodeAt? other := by
    cases ahead? with
    | none => exact ⟨d, rfl, hnode, .refl _ _ d, fun _ _ => rfl⟩
    | some t' =>
      have hfree : d.nodeAt? names ≠ some .directory := by simp [hnode]
      refine ⟨d.put names (.database t'), ?_, ?_, ?_, fun _ h => Disk.nodeAt?_put_of_ne h _⟩
      · simp [applyLog, hnode]
      · exact Disk.nodeAt?_put_self (Disk.isFixed_eq_false hfree) _
      · exact Disk.confined_put (by simp [files]) (by simp [hnode]) hfree (by simp)
  have hlogged : applied.nodeAt? (logOf names) ≠ some .directory := hwritten.free hlog
  have hended : Disk.Confined (files names) [] applied (applied.erase (logOf names)) :=
    Disk.confined_erase (by simp [files]) hlogged
  have hgone := Disk.nodeAt?_erase_self hlogged
  have hthere : (applied.erase (logOf names)).nodeAt? names
      = some (.database (ahead?.getD t)) := by
    rw [Disk.nodeAt?_erase_of_ne (ne_logOf names).symm, hfile]
  have hjournal : ∀ node, (applied.erase (logOf names)).nodeAt? (journalOf names) = some node →
      d.nodeAt? (journalOf names) = some node := by
    intro node h
    rwa [Disk.nodeAt?_erase_of_ne (journalOf_ne_logOf names).symm,
      hbeside _ (ne_journalOf names)] at h
  rw [endLog, happlied]
  split
  · rename_i halone
    have hchange := hwritten.trans hended
    refine ⟨⟨hsettled.confined (List.Subset.refl _) hchange hjournal, hthere, ?_⟩, hchange, ?_⟩
    · intro node h
      rw [hgone] at h
      cases h
    · intro hnot
      rw [hnot] at halone
      cases halone
  · rename_i hremoved
    have hfree : (applied.erase (logOf names)).nodeAt? (indexOf names) ≠ some .directory := by
      intro hdirectory
      cases isAlone with
      | true => simp [hdirectory] at hremoved
      | false => exact (hwritten.trans hended).free (hindex rfl) hdirectory
    have hindexGone : Disk.Confined (files names) [] (applied.erase (logOf names))
        ((applied.erase (logOf names)).erase (indexOf names)) :=
      Disk.confined_erase (by simp [files]) hfree
    have hchange := (hwritten.trans hended).trans hindexGone
    refine ⟨⟨hsettled.confined (List.Subset.refl _) hchange fun node h => ?_, ?_, ?_⟩, hchange,
      fun _ => Disk.nodeAt?_erase_self hfree⟩
    · exact hjournal node (Disk.nodeAt?_of_erase hfree h)
    · rw [Disk.nodeAt?_erase_of_ne (ne_indexOf names).symm, hthere]
    · intro node h
      rw [Disk.nodeAt?_of_erase hfree h] at hgone
      cases hgone

end Database
end IndicatorStrategy
