import IndicatorStrategy.Proofs.Store.Disk
import IndicatorStrategy.Proofs.Store.Objects
import IndicatorStrategy.Proofs.Store.Reliable
/-!
# IndicatorStrategy.Proofs.Store.JsonFile

**A JSON file as a store.** What is written to the file is read from it again, so a file
that holds an object of strings, or nothing, works as a store where a file may be written.
After each change it is again such an object, with its keys ascending.
-/

namespace IndicatorStrategy

namespace JsonFile

/-! ### Texts of contents -/

/-- **Contents that were written** are read again. -/
theorem parse_render (path : String) {contents : Contents} (h : Assoc.Ascending contents) :
    parse path (render contents) = .ok contents :=
  parse_ok_iff.mpr
    (.inr ⟨contents, isObject_render h.nodup_keys, (contentsOf_of_ascending h).symm⟩)

/-- What is read from a text has its keys ascending. -/
theorem ascending_of_parse {path text : String} {contents : Contents}
    (h : parse path text = .ok contents) : Assoc.Ascending contents := by
  rcases parse_ok_iff.mp h with ⟨-, rfl⟩ | ⟨pairs, -, rfl⟩
  · exact Assoc.ascending_nil
  · exact ascending_contentsOf pairs

theorem ascending_of_load {d : Disk} {path : String} {contents : Contents}
    (h : load d path = .ok contents) : Assoc.Ascending contents := by
  rw [load] at h
  split at h
  · split at h
    · exact ascending_of_parse h
    · cases h
  · cases h
    exact Assoc.ascending_nil

/-! ### Files of contents -/

/-- A path where a file may be written, and where there is none or one with the given
contents. -/
structure Keeps (d : Disk) (path : String) (contents : Contents) : Prop where
  place : ∃ names, d.Places path names
  load : load d path = .ok contents

/-- **Storing a value** succeeds, and the file then has the contents with that value. -/
theorem Keeps.store {d : Disk} {path : String} {contents : Contents}
    (h : Keeps d path contents) (key value : String) :
    ∃ d', JsonFile.store d path key value = .ok d' ∧
      d'.read path = .ok (render (Assoc.putSorted contents key value)) ∧
      Keeps d' path (Assoc.putSorted contents key value) := by
  obtain ⟨names, hplace⟩ := h.place
  have hfile : Node.file (render (Assoc.putSorted contents key value)) ≠ .directory := by simp
  have hfind := hplace.find_put hfile
  have hread : (d.put names (.file (render (Assoc.putSorted contents key value)))).read path
      = .ok (render (Assoc.putSorted contents key value)) := by
    rw [Disk.read, hfind]
  refine ⟨_, ?_, hread, ⟨⟨names, hplace.confined (hplace.confined_put hfile)⟩, ?_⟩⟩
  · rw [JsonFile.store, h.load]
    simp only
    rw [hplace.write]
  · have hascending := (ascending_of_load h.load).putSorted key value
    rw [JsonFile.load, Disk.contains, hfind]
    simp only [Except.toBool, if_true]
    rw [hread]
    exact parse_render path hascending

/-- Only the file of the store is written. -/
theorem confined_store {d d' : Disk} {path key value : String} {names : List String}
    (hplaces : d.Places path names) (h : JsonFile.store d path key value = .ok d') :
    Disk.Confined [names] [names] d d' := by
  rw [JsonFile.store] at h
  split at h
  · cases h
  · rw [hplaces.write] at h
    cases h
    exact hplaces.confined_put (by simp)

end JsonFile

/-! ### Workspaces -/

namespace Workspace

/-- The contents of the file of a workspace, if they can be read. -/
def heldInFile (w : Workspace) : Contents :=
  match w.backend with
  | .jsonFile path => (JsonFile.load w.disk path).toOption.getD []
  | _ => []

/-- A workspace keeps contents in its file. -/
def KeepsInFile (w : Workspace) (contents : Contents) : Prop :=
  ∃ path, w.backend = .jsonFile path ∧ JsonFile.Keeps w.disk path contents

variable {w : Workspace} {contents : Contents}

theorem KeepsInFile.heldInFile (h : w.KeepsInFile contents) : w.heldInFile = contents := by
  obtain ⟨path, hw, hkeeps⟩ := h
  simp [Workspace.heldInFile, hw, hkeeps.load, Except.toOption]

theorem KeepsInFile.get (h : w.KeepsInFile contents) (key : String) :
    KeyValue.get w key = (.ok (Assoc.get? contents key), w) := by
  obtain ⟨path, hw, hkeeps⟩ := h
  simp [KeyValue.get, Workspace.get, hw, hkeeps.load, Except.map]

theorem KeepsInFile.set (h : w.KeepsInFile contents) (key value : String) :
    (KeyValue.set w key value).1 = .ok () ∧
      (KeyValue.set w key value).2.KeepsInFile (Assoc.putSorted contents key value) := by
  obtain ⟨path, hw, hkeeps⟩ := h
  obtain ⟨d', hstore, -, hkeeps'⟩ := hkeeps.store key value
  simp only [KeyValue.set, Workspace.store, hw, hstore]
  exact ⟨trivial, path, rfl, hkeeps'⟩

/-- **A workspace with a JSON file** works as long as it keeps contents there. -/
def reliableFile : KeyValue.Reliable Workspace where
  Works w := ∃ contents, w.KeepsInFile contents
  contents w := Assoc.get? w.heldInFile
  get_result := by
    intro w ⟨contents, h⟩ key
    rw [h.get, h.heldInFile]
  get_works := by
    intro w ⟨contents, h⟩ key
    rw [h.get]
    exact ⟨contents, h⟩
  get_contents := by
    intro w ⟨contents, h⟩ key
    rw [h.get]
  set_result := by
    intro w ⟨contents, h⟩ key value
    exact (h.set key value).1
  set_works := by
    intro w ⟨contents, h⟩ key value
    exact ⟨_, (h.set key value).2⟩
  set_contents := by
    intro w ⟨contents, h⟩ key value
    rw [(h.set key value).2.heldInFile, h.heldInFile, Assoc.get?_putSorted_eq_update]

end Workspace
end IndicatorStrategy
