import Mathlib
import IndicatorStrategy.Store.Disk
/-!
# IndicatorStrategy.Proofs.Store.Frame

**What a change of files leaves as it was.** A store writes to a few places and takes files
away from them, but it neither makes nor removes a directory. Such a change is `Confined` to
these places. Single writes and removals are, and so is one such change after another.

Since all directories stay, every path that could be followed leads where it led. A path that
takes back names with parents may run into a file that is new, so it goes on leading to its
place where no file is (`Confined.settle`); and it never leads to another one (`eq_of_settle`).
-/

namespace IndicatorStrategy

namespace Assoc

variable {κ α : Type} [DecidableEq κ]

theorem get?_filter_self (m : Assoc κ α) (key : κ) :
    get? (m.filter (·.1 ≠ key)) key = none := by
  rw [get?_eq_none_iff]
  simp [keys]

theorem get?_filter_of_ne (m : Assoc κ α) {key other : κ} (h : key ≠ other) :
    get? (m.filter (·.1 ≠ key)) other = get? m other := by
  induction m with
  | nil => rfl
  | cons p m ih =>
    obtain ⟨k, v⟩ := p
    by_cases hk : k = key
    · subst hk
      simpa [get?, h] using ih
    · simp only [ne_eq, hk, not_false_eq_true, decide_true, List.filter_cons_of_pos, get?]
      rw [← ih]

end Assoc

namespace Disk

variable {d d' d'' : Disk} {names other : List String} {node : Node} {path : String}

/-! ### Nodes -/

/-- What is no directory is neither the root nor a place from which others are reached. -/
theorem isFixed_eq_false (h : d.nodeAt? names ≠ some .directory) : isFixed names = false := by
  rw [nodeAt?] at h
  split at h
  · exact absurd rfl h
  · exact eq_false_of_ne_true ‹_›

theorem ne_directory_of_nodeAt? (h : d.nodeAt? names = some node) (hnode : node ≠ .directory) :
    d.nodeAt? names ≠ some .directory := by
  rw [h]
  exact fun heq => hnode (Option.some.inj heq)

theorem nodeAt?_put_self (h : isFixed names = false) (node : Node) :
    (d.put names node).nodeAt? names = some node := by
  rw [nodeAt?, h, if_neg Bool.false_ne_true, put, Assoc.get?_putSorted_self]

theorem nodeAt?_put_of_ne (h : names ≠ other) (node : Node) :
    (d.put names node).nodeAt? other = d.nodeAt? other := by
  rw [nodeAt?, nodeAt?, put, Assoc.get?_putSorted_of_ne _ _ h]

theorem nodeAt?_erase_self (h : d.nodeAt? names ≠ some .directory) :
    (d.erase names).nodeAt? names = none := by
  rw [nodeAt?, isFixed_eq_false h, if_neg Bool.false_ne_true, erase, Assoc.get?_filter_self]

theorem nodeAt?_erase_of_ne (h : names ≠ other) :
    (d.erase names).nodeAt? other = d.nodeAt? other := by
  rw [nodeAt?, nodeAt?, erase, Assoc.get?_filter_of_ne _ h]

/-- What is there after a removal was there before. -/
theorem nodeAt?_of_erase (hfree : d.nodeAt? names ≠ some .directory)
    (h : (d.erase names).nodeAt? other = some node) : d.nodeAt? other = some node := by
  by_cases he : names = other
  · rw [← he, nodeAt?_erase_self hfree] at h
    cases h
  · rwa [nodeAt?_erase_of_ne he] at h

/-! ### Changes -/

/-- Files that were changed at most at the given places, and made at most at some others. The
directories are those that there were. -/
structure Confined (places new : List (List String)) (d d' : Disk) : Prop where
  others : ∀ names ∉ places, d'.nodeAt? names = d.nodeAt? names
  directories : ∀ names, d'.nodeAt? names = some .directory ↔ d.nodeAt? names = some .directory
  absent : ∀ names ∉ new, d.nodeAt? names = none → d'.nodeAt? names = none

variable {places places' new new' : List (List String)}

theorem Confined.refl (places new : List (List String)) (d : Disk) : Confined places new d d :=
  ⟨fun _ _ => rfl, fun _ => Iff.rfl, fun _ _ h => h⟩

theorem confined_put (hplace : names ∈ places) (hnew : d.nodeAt? names = none → names ∈ new)
    (hfree : d.nodeAt? names ≠ some .directory) (hnode : node ≠ .directory) :
    Confined places new d (d.put names node) where
  others := fun other hother =>
    nodeAt?_put_of_ne (ne_of_mem_of_not_mem hplace hother) node
  directories := by
    intro other
    by_cases h : names = other
    · rw [← h, nodeAt?_put_self (isFixed_eq_false hfree)]
      simp [hnode, hfree]
    · rw [nodeAt?_put_of_ne h]
  absent := by
    intro other hother hnone
    have hne : names ≠ other := by
      rintro rfl
      exact hother (hnew hnone)
    rw [nodeAt?_put_of_ne hne, hnone]

theorem confined_erase (hplace : names ∈ places) (hfree : d.nodeAt? names ≠ some .directory) :
    Confined places new d (d.erase names) where
  others := fun other hother => nodeAt?_erase_of_ne (ne_of_mem_of_not_mem hplace hother)
  directories := by
    intro other
    by_cases h : names = other
    · rw [← h, nodeAt?_erase_self hfree]
      simp [hfree]
    · rw [nodeAt?_erase_of_ne h]
  absent := by
    intro other _ hnone
    by_cases h : names = other
    · rw [← h, nodeAt?_erase_self hfree]
    · rw [nodeAt?_erase_of_ne h, hnone]

/-- A place is left as it is, or a file is removed from it. -/
inductive Drops (names : List String) (d : Disk) : Disk → Prop
  | kept : Drops names d d
  | removed (hfree : d.nodeAt? names ≠ some .directory) : Drops names d (d.erase names)

theorem Drops.confined (h : Drops names d d') (hplace : names ∈ places) :
    Confined places new d d' := by
  cases h with
  | kept => exact .refl places new d
  | removed hfree => exact confined_erase hplace hfree

theorem Drops.nodeAt?_of_ne (h : Drops names d d') (hne : names ≠ other) :
    d'.nodeAt? other = d.nodeAt? other := by
  cases h with
  | kept => rfl
  | removed => exact nodeAt?_erase_of_ne hne

namespace Confined

theorem mono (h : Confined places new d d') (hplaces : places ⊆ places') (hnew : new ⊆ new') :
    Confined places' new' d d' where
  others := fun names hnames => h.others names fun hmem => hnames (hplaces hmem)
  directories := h.directories
  absent := fun names hnames => h.absent names fun hmem => hnames (hnew hmem)

theorem trans (h : Confined places new d d') (h' : Confined places new d' d'') :
    Confined places new d d'' where
  others := fun names hnames => (h'.others names hnames).trans (h.others names hnames)
  directories := fun names => (h'.directories names).trans (h.directories names)
  absent := fun names hnames hnone => h'.absent names hnames (h.absent names hnames hnone)

/-- A file that is gone in the end was not made. -/
theorem of_absent (h : Confined places (names :: new) d d') (hnone : d'.nodeAt? names = none) :
    Confined places new d d' where
  others := h.others
  directories := h.directories
  absent := by
    intro other hother habsent
    by_cases he : other = names
    · rw [he, hnone]
    · exact h.absent other (by simp [he, hother]) habsent

/-- Only one file was made, so none is new once it is there. -/
theorem of_put (h : Confined places [names] d d') (hplace : names ∈ places)
    (hfree : d.nodeAt? names ≠ some .directory) (hnode : node ≠ .directory) :
    Confined places [] (d.put names node) d' where
  others := by
    intro other hother
    rw [h.others other hother, nodeAt?_put_of_ne (ne_of_mem_of_not_mem hplace hother)]
  directories := by
    intro other
    rw [h.directories, (confined_put hplace (fun _ => List.mem_singleton_self names) hfree
      hnode).directories]
  absent := by
    intro other _ hnone
    have hne : names ≠ other := by
      rintro rfl
      rw [nodeAt?_put_self (isFixed_eq_false hfree)] at hnone
      cases hnone
    rw [nodeAt?_put_of_ne hne] at hnone
    exact h.absent other (by simp [hne.symm]) hnone

theorem free (h : Confined places new d d') (hfree : d.nodeAt? names ≠ some .directory) :
    d'.nodeAt? names ≠ some .directory :=
  fun hdirectory => hfree ((h.directories names).mp hdirectory)

/-! ### Paths -/

theorem enter (h : Confined places new d d') {directory next : List String} {name : String}
    (henter : d.enter directory name = .ok next) : d'.enter directory name = .ok next := by
  rw [Disk.enter] at henter ⊢
  split
  · rw [if_pos ‹_›] at henter
    exact henter
  · rw [if_neg ‹_›] at henter
    split
    · rw [if_pos ‹_›] at henter
      cases henter
    · rw [if_neg ‹_›] at henter
      split at henter
      · rename_i hdirectory
        rw [(h.directories _).mpr hdirectory]
        exact henter
      · cases henter
      · cases henter

theorem follow (h : Confined places new d d') {directory : List String} {path : List String}
    {place : List String × String} (hfollow : d.follow directory path = .ok place) :
    d'.follow directory path = .ok place := by
  induction path generalizing directory with
  | nil => exact hfollow
  | cons name path ih =>
    cases path with
    | nil => exact hfollow
    | cons second path =>
      simp only [Disk.follow] at hfollow ⊢
      split at hfollow
      · rename_i next henter
        rw [h.enter henter]
        exact ih hfollow
      · cases hfollow

/-- A path that could be followed leads where it led. -/
theorem locate (h : Confined places new d d') {place : List String × String}
    (hlocate : d.locate path = .ok place) : d'.locate path = .ok place := by
  rw [Disk.locate] at hlocate ⊢
  split at hlocate
  · cases hlocate
  · exact h.follow hlocate

theorem pass (h : Confined places [] d d') {directory next : List String} {name : String}
    (hpass : d.pass directory name = .ok next) : d'.pass directory name = .ok next := by
  rw [Disk.pass] at hpass ⊢
  split
  · rw [if_pos ‹_›] at hpass
    exact hpass
  · rw [if_neg ‹_›] at hpass
    split
    · rw [if_pos ‹_›] at hpass
      cases hpass
    · rw [if_neg ‹_›] at hpass
      split at hpass
      · rename_i hdirectory
        rw [(h.directories _).mpr hdirectory]
        exact hpass
      · cases hpass
      · rename_i hnone
        rw [h.absent _ List.not_mem_nil hnone]
        exact hpass

theorem foldlM_pass (h : Confined places [] d d') {directory place : List String}
    {path : List String} (hpath : path.foldlM d.pass directory = .ok place) :
    path.foldlM d'.pass directory = .ok place := by
  induction path generalizing directory with
  | nil => exact hpath
  | cons name path ih =>
    rw [List.foldlM_cons] at hpath ⊢
    obtain ⟨next, hnext, hrest⟩ := bind_eq_ok_iff.mp hpath
    exact bind_eq_ok_iff.mpr ⟨next, h.pass hnext, ih hrest⟩

/-- A path that need not be passed leads where it led, if no file is new. -/
theorem settle (h : Confined places [] d d') (hsettle : d.settle path = .ok names) :
    d'.settle path = .ok names := by
  rw [Disk.settle] at hsettle ⊢
  split at hsettle
  · cases hsettle
  · rename_i place hplace
    rw [h.foldlM_pass hplace]
    split at hsettle
    · cases hsettle
    · rename_i hfree
      split at hsettle
      · rename_i hparent
        cases hsettle
        simp only
        rw [if_neg (h.free hfree), if_pos ((h.directories _).mpr hparent)]
      · cases hsettle

end Confined

/-! ### Places by their paths -/

/-- A name that can be passed leads where it says. -/
theorem step_eq_of_pass {directory next : List String} {name : String}
    (h : d.pass directory name = .ok next) : step directory name = next := by
  rw [pass] at h
  split at h
  · exact Except.ok.inj h
  split at h
  · cases h
  split at h
  · split at h
    · cases h
    · exact Except.ok.inj h
  · cases h
  · exact Except.ok.inj h

theorem foldl_step_eq_of_foldlM_pass {directory place : List String} {path : List String}
    (h : path.foldlM d.pass directory = .ok place) : path.foldl step directory = place := by
  induction path generalizing directory with
  | nil => exact Except.ok.inj h
  | cons name path ih =>
    rw [List.foldlM_cons] at h
    obtain ⟨next, hnext, hrest⟩ := bind_eq_ok_iff.mp h
    rw [List.foldl_cons, step_eq_of_pass hnext]
    exact ih hrest

theorem foldl_step_eq_of_settle (h : d.settle path = .ok names) :
    (namesOf path).foldl step (start path) = names := by
  rw [Disk.settle] at h
  split at h
  · cases h
  · rename_i place hplace
    split at h
    · cases h
    split at h
    · cases h
      exact foldl_step_eq_of_foldlM_pass hplace
    · cases h

/-- Whatever files there are, a path that need not be passed leads to one place at most. -/
theorem eq_of_settle {names' : List String} (h : d.settle path = .ok names)
    (h' : d'.settle path = .ok names') : names = names' :=
  (foldl_step_eq_of_settle h).symm.trans (foldl_step_eq_of_settle h')

end Disk
end IndicatorStrategy
