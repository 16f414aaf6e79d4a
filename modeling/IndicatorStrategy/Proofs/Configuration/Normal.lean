import Mathlib
import IndicatorStrategy.Configuration.Ini
import IndicatorStrategy.Proofs.Assoc
import IndicatorStrategy.Proofs.Text.Case
/-!
# IndicatorStrategy.Proofs.Configuration.Normal

**Configurations that files write.** Whatever the order and the spelling of its lines, a
file leads to a configuration in normal form: sections and keys are ascending, none
stands twice, and all names are in small letters (`normal_ofText`). In normal form a name
is found under itself, so looking up a key gives what its section holds.
-/

namespace IndicatorStrategy

/-- Ascending names in small letters. -/
structure Assoc.IsNormal {α : Type} (m : Assoc String α) : Prop where
  ascending : Assoc.Ascending m
  small : ∀ key ∈ Assoc.keys m, lower key = key

namespace Assoc

variable {α : Type} {m : Assoc String α}

theorem isNormal_nil : IsNormal ([] : Assoc String α) :=
  ⟨ascending_nil, fun _ h => absurd h List.not_mem_nil⟩

theorem IsNormal.putSorted (h : IsNormal m) {key : String} (hkey : lower key = key)
    (value : α) : IsNormal (putSorted m key value) where
  ascending := h.ascending.putSorted key value
  small := by
    intro k hk
    rcases mem_keys_putSorted hk with rfl | hk
    · exact hkey
    · exact h.small k hk

end Assoc

/-- What a section says under a key; nothing for a key without a value. -/
def Section.value? (s : Section) (key : String) : Option String := (Assoc.get? s key).join

namespace Configuration

/-- Sections and their keys stand in order and in small letters. -/
structure Normal (c : Configuration) : Prop where
  names : Assoc.IsNormal c.sections
  keys : ∀ p ∈ c.sections, Assoc.IsNormal p.2

variable {c : Configuration}

/-! ### Looking up -/

theorem Normal.get?_eq (h : c.Normal) {name : String} {s : Section}
    (hs : Assoc.get? c.sections name = some s) {key : String} (hkey : lower key = key) :
    c.get? name key = s.value? key := by
  have hname : lower name = name :=
    h.names.small name (List.mem_map_of_mem (Assoc.mem_of_get? hs))
  rw [Configuration.get?, hname, hs, hkey, Option.bind_some, Section.value?]

theorem keys_eq {name : String} {s : Section} (hs : Assoc.get? c.sections name = some s) :
    c.keys name = Assoc.keys s := by
  rw [Configuration.keys, hs, Option.map_some, Option.getD_some]

theorem Normal.section (h : c.Normal) {name : String} {s : Section}
    (hs : Assoc.get? c.sections name = some s) : Assoc.IsNormal s :=
  h.keys _ (Assoc.mem_of_get? hs)

/-- Every name has its section. -/
theorem exists_section {name : String} (h : name ∈ c.names) :
    ∃ s, Assoc.get? c.sections name = some s := by
  rw [← Option.isSome_iff_exists, Option.isSome_iff_ne_none, ne_eq, Assoc.get?_eq_none_iff]
  exact fun hn => hn h

/-! ### Reading a file -/

theorem normal_empty : Normal empty :=
  ⟨Assoc.isNormal_nil, fun _ h => absurd h List.not_mem_nil⟩

theorem Normal.addSection (h : c.Normal) {name : String} (hname : lower name = name) :
    (c.addSection name).Normal := by
  unfold Configuration.addSection
  split
  · exact h
  · refine ⟨h.names.putSorted hname [], fun p hp => ?_⟩
    rcases Assoc.mem_putSorted hp with rfl | hp
    · exact Assoc.isNormal_nil
    · exact h.keys p hp

theorem Normal.put (h : c.Normal) {name key : String} (hname : lower name = name)
    (hkey : lower key = key) (value? : Option String) : (c.put name key value?).Normal := by
  have hentries : Assoc.IsNormal ((Assoc.get? c.sections name).getD []) := by
    cases hs : Assoc.get? c.sections name with
    | none => exact Assoc.isNormal_nil
    | some s => exact h.section hs
  refine ⟨h.names.putSorted hname _, fun p hp => ?_⟩
  rcases Assoc.mem_putSorted hp with rfl | hp
  · exact hentries.putSorted hkey value?
  · exact h.keys p hp

end Configuration

namespace Ini

/-- The names of a line are in small letters. -/
def Line.IsSmall : Line → Prop
  | .name n => lower n = n
  | .entry k _ => lower k = k
  | _ => True

theorem lower_normalName (cs : List Char) : lower (normalName cs) = normalName cs :=
  lower_lower _

theorem isSmall_readName (cs : List Char) : (readName cs).IsSmall := by
  unfold readName
  split
  · trivial
  · exact lower_normalName _

theorem isSmall_readEntry (cs : List Char) : (readEntry cs).IsSmall := by
  unfold readEntry
  split
  · exact lower_normalName _
  · simp only
    split
    · trivial
    · exact lower_normalName _

theorem isSmall_readLine (cs : List Char) : (readLine cs).IsSmall := by
  unfold readLine
  split
  · trivial
  · exact isSmall_readName _
  · exact isSmall_readEntry _

/-- Each line keeps a configuration in normal form, and so do all of them. -/
theorem normal_readLines {lines : List (List Char)} {n : Nat} {current : String}
    {c c' : Configuration} (hcurrent : lower current = current) (hc : c.Normal)
    (h : readLines n current c lines = .ok c') : c'.Normal := by
  -- the name of the section that is open is part of the invariant: values are put under it
  induction lines generalizing n current c with
  | nil =>
    rw [readLines, Except.ok.injEq] at h
    exact h ▸ hc
  | cons line lines ih =>
    have hline := isSmall_readLine line
    rw [readLines] at h
    cases hread : readLine line with
    | nothing => rw [hread] at h; exact ih hcurrent hc h
    | name name =>
      rw [hread] at h hline
      exact ih hline (hc.addSection hline) h
    | entry key value? =>
      rw [hread] at h hline
      exact ih hcurrent (hc.put hcurrent hline value?) h
    | unclosedName => rw [hread] at h; cases h
    | emptyKey => rw [hread] at h; cases h

end Ini

/-- **Every file leads to a configuration in normal form.** -/
theorem Configuration.normal_ofText {text : String} {c : Configuration}
    (h : Configuration.ofText text = .ok c) : c.Normal :=
  Ini.normal_readLines (by decide +kernel) normal_empty h

end IndicatorStrategy
