import IndicatorStrategy.Proofs.Store.Frame
/-!
# IndicatorStrategy.Proofs.Store.Disk

**Writing a file** where no directory is. The path that was written now stands for the file,
and it may be written again. Where a file is there, it may be written over, and a file at any
other place is found as it was.
-/

namespace IndicatorStrategy
namespace Disk

variable {d d' : Disk} {names : List String} {node : Node} {path : String}

/-! ### Files -/

/-- A path leads to a name that a file may have, at a place without a directory. -/
structure Places (d : Disk) (path : String) (names : List String) : Prop where
  fault : pathFault? path = none
  slashes : withoutSlashes path = path
  leads : ∃ directory name, d.locate path = .ok (directory, name) ∧ isStep name = false ∧
    isTooLong name = false ∧ names = step directory name
  free : d.nodeAt? names ≠ some .directory

theorem place_eq_ok_iff : d.place path = .ok names ↔ d.Places path names := by
  constructor
  · intro h
    rw [place] at h
    cases hfault : pathFault? path with
    | some fault =>
      rw [hfault] at h
      cases h
    | none =>
      rw [hfault, Option.elim_none] at h
      split at h
      · cases h
      · rename_i directory name hlocate
        split at h
        · cases h
        · rename_i hstep
          simp only [Bool.or_eq_true, bne_iff_ne, ne_eq, not_or, not_not,
            Bool.not_eq_true] at hstep
          split at h
          · cases h
          · rename_i hlong
            split at h
            · cases h
            · rename_i hfree
              cases h
              rw [← hstep.2] at hlocate
              exact ⟨hfault, hstep.2.symm,
                ⟨directory, name, hlocate, hstep.1, eq_false_of_ne_true hlong, rfl⟩, hfree⟩
  · rintro ⟨hfault, hslashes, ⟨directory, name, hlocate, hstep, hlong, rfl⟩, hfree⟩
    simp [place, hfault, hslashes, hlocate, hstep, hlong, hfree]

namespace Places

/-- Where a file may be written, that stays so. -/
theorem confined (h : d.Places path names) {places new : List (List String)}
    (hchange : Confined places new d d') : d'.Places path names where
  fault := h.fault
  slashes := h.slashes
  leads := by
    obtain ⟨directory, name, hlocate, hname⟩ := h.leads
    exact ⟨directory, name, hchange.locate hlocate, hname⟩
  free := hchange.free h.free

/-- Only the place of the path is written. -/
theorem confined_put (h : d.Places path names) (hnode : node ≠ .directory) :
    Confined [names] [names] d (d.put names node) :=
  Disk.confined_put (List.mem_singleton_self names) (fun _ => List.mem_singleton_self names)
    h.free hnode

/-- A path stands for what is at its place. -/
theorem find (h : d.Places path names) (hnode : d.nodeAt? names = some node) :
    d.find path = .ok node := by
  obtain ⟨directory, name, hlocate, hstep, hlong, rfl⟩ := h.leads
  simp [Disk.find, hlocate, hstep, hlong, hnode]

/-- **A path that was written** stands for what was written. -/
theorem find_put (h : d.Places path names) (hnode : node ≠ .directory) :
    (d.put names node).find path = .ok node :=
  (h.confined (h.confined_put hnode)).find (nodeAt?_put_self (isFixed_eq_false h.free) node)

theorem write (h : d.Places path names) (text : String) :
    d.write path text = .ok (d.put names (.file text)) := by
  rw [Disk.write, place_eq_ok_iff.mpr h]
  rfl

end Places

/-! ### Files that are there -/

theorem splitAtChar_append (separator : Char) (cs ds : List Char) :
    splitAtChar separator (cs ++ separator :: ds)
      = splitAtChar separator cs ++ splitAtChar separator ds := by
  induction cs with
  | nil => simp [splitAtChar]
  | cons c cs ih =>
    rw [List.cons_append, splitAtChar, splitAtChar, ih]
    split
    · rfl
    · -- the first piece goes on, and there is one
      cases hpieces : splitAtChar separator cs with
      | nil => exact absurd hpieces (splitAtChar_ne_nil separator cs)
      | cons piece pieces => rfl

/-- The last name of a path that ends in a slash is empty. -/
theorem getLast?_namesOf (h : path.toList.getLast? = some '/') :
    (namesOf path).getLast? = some "" := by
  obtain ⟨cs, hcs⟩ := List.getLast?_eq_some_iff.mp h
  rw [namesOf, hcs, splitAtChar_append]
  simp [splitAtChar]

/-- What a path leads to has its last name. -/
theorem getLast?_of_follow {directory names : List String} {place : List String × String}
    (hne : names ≠ []) (h : d.follow directory names = .ok place) :
    names.getLast? = some place.2 := by
  induction names generalizing directory with
  | nil => exact absurd rfl hne
  | cons name names ih =>
    cases names with
    | nil =>
      cases h
      rfl
    | cons second names =>
      rw [follow] at h
      · split at h
        · rw [List.getLast?_cons_cons]
          exact ih (by simp) h
        · cases h
      · simp

theorem withoutSlashes_eq (hne : path ≠ "") (h : path.toList.getLast? ≠ some '/') :
    withoutSlashes path = path := by
  have hkept : (path.toList.reverse.dropWhile (· == '/')).reverse = path.toList := by
    rw [List.getLast?_eq_head?_reverse] at h
    cases hr : path.toList.reverse with
    | nil => simp_all
    | cons c cs =>
      rw [hr] at h
      rw [List.dropWhile_cons_of_neg (by simpa using h), ← hr, List.reverse_reverse]
  unfold withoutSlashes
  split
  · rename_i hnil
    rw [hkept] at hnil
    exact absurd (String.toList_eq_nil_iff.mp hnil) hne
  · rw [hkept, String.ofList_toList]

/-- Where a path leads that stands for a file. -/
theorem exists_of_find (h : d.find path = .ok node) (hnode : node ≠ .directory) :
    ∃ directory name, d.locate path = .ok (directory, name) ∧ isStep name = false ∧
      isTooLong name = false ∧ d.nodeAt? (step directory name) = some node := by
  rw [find] at h
  split at h
  · cases h
  · rename_i directory name hlocate
    split at h
    · exact absurd (Except.ok.inj h).symm hnode
    · rename_i hstep
      split at h
      · cases h
      · rename_i hlong
        split at h
        · rename_i hfound
          cases h
          exact ⟨directory, name, hlocate, eq_false_of_ne_true hstep,
            eq_false_of_ne_true hlong, hfound⟩
        · cases h

/-- **A file that is there** may be written over. -/
theorem exists_places_of_find (h : d.find path = .ok node) (hnode : node ≠ .directory) :
    ∃ names, d.Places path names ∧ d.nodeAt? names = some node := by
  obtain ⟨directory, name, hlocate, hstep, hlong, hfound⟩ := exists_of_find h hnode
  have hfault : pathFault? path = none := by
    rw [locate] at hlocate
    split at hlocate
    · cases hlocate
    · assumption
  have hpath : path ≠ "" := by
    rintro rfl
    cases hfault
  -- behind a final slash the last name is empty, which is a step and stands for no file
  have hslash : path.toList.getLast? ≠ some '/' := by
    intro hlast
    have hfollow : d.follow (start path) (namesOf path) = .ok (directory, name) := by
      rwa [locate, hfault] at hlocate
    have hname : (namesOf path).getLast? = some name :=
      getLast?_of_follow (by simp [namesOf, splitAtChar_ne_nil]) hfollow
    rw [getLast?_namesOf hlast, Option.some.injEq] at hname
    rw [← hname] at hstep
    cases hstep
  refine ⟨_, ⟨hfault, withoutSlashes_eq hpath hslash,
    ⟨directory, name, hlocate, hstep, hlong, rfl⟩, ?_⟩, hfound⟩
  rw [hfound]
  exact fun heq => hnode (Option.some.inj heq)

/-- **A file at another place** is found as it was. -/
theorem Confined.find {places new : List (List String)} (h : Confined places new d d')
    (hfind : d.find path = .ok node) (hnode : node ≠ .directory)
    (hapart : ∀ names ∈ places, d.place path ≠ .ok names) : d'.find path = .ok node := by
  obtain ⟨names, hplaces, hfound⟩ := exists_places_of_find hfind hnode
  have hother : names ∉ places := fun hmem => hapart names hmem (place_eq_ok_iff.mpr hplaces)
  exact (hplaces.confined h).find ((h.others names hother).trans hfound)

end Disk
end IndicatorStrategy
