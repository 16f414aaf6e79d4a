import Mathlib
import IndicatorStrategy.Proofs.Configuration.Accepted
import IndicatorStrategy.Proofs.Configuration.Replay
/-!
# IndicatorStrategy.Proofs.Configuration.Sound

**The validation of conditions is sound for their replay.** Validation reads the words of
a section, and replay makes edits from them that a draft may refuse. What was validated is
nowhere refused: the edits of both sides can be made, a kind is in the catalog or absent,
and a constant meets the constant reference. So a fault that replay would find is found by
the validation before.
-/

namespace IndicatorStrategy

/-! ### The entries of a rendering -/

theorem exists_left_of_forall₂ {α β : Type} {R : α → β → Prop} {xs : List α} {ys : List β}
    (h : List.Forall₂ R xs ys) : ∀ y ∈ ys, ∃ x ∈ xs, R x y := by
  induction h with
  | nil => exact fun y hy => absurd hy List.not_mem_nil
  | cons hxy _ ih =>
    intro y hy
    rcases List.mem_cons.mp hy with rfl | hy
    · exact ⟨_, List.mem_cons_self .., hxy⟩
    · obtain ⟨x, hx, hR⟩ := ih y hy
      exact ⟨x, List.mem_cons_of_mem _ hx, hR⟩

/-- What holds of blank entries and of those that stand for names holds of all entries. -/
theorem Draft.Renders.forall_entry {R : String → Entry → Prop} {P : Entry → Prop}
    {names : List (List String)} {d : Draft} (h : d.Renders R names)
    (hblank : ∀ id, P (Entry.blank id)) (hR : ∀ name e, R name e → P e) :
    ∀ g ∈ d.groups, ∀ e ∈ g.entries, P e := by
  intro g hg e he
  unfold Renders at h
  split at h
  · rw [h] at hg
    obtain rfl := List.mem_singleton.mp hg
    obtain rfl := List.mem_singleton.mp he
    exact hblank 1
  · obtain ⟨ns, -, hentries⟩ := exists_left_of_forall₂ h g hg
    obtain ⟨name, -, hname⟩ := exists_left_of_forall₂ hentries e he
    exact hR name e hname

/-! ### Accepted sections -/

/-- Nothing that a section says is dropped: the kind of the entry is known or not given,
and a value to compare with is there as the finite number it writes. -/
structure Section.Honoured (s : Section) (e : Entry) : Prop where
  kind : e.kind = "" ∨ Catalog.isKnown e.kind = true
  inactive : e.isActive = false → s.kind = ""
  constant : ∀ raw, s.value? "compare_value" = some raw → e.reference = .constant ∧
    ∃ x, Binary64.ofString? (trim raw) = some x ∧ x.isFinite = true ∧ e.constant? = some x

namespace Configuration

variable {c : Configuration} {name : String} {s : Section} {e : Entry}

/-- An accepted constant has the constant reference, also in the entry. -/
theorem Normal.reference_eq_constant (h : c.Normal) (hs : Assoc.get? c.sections name = some s)
    (he : s.Describes e) (hreference : c.configuredReference name = .ok .constant) :
    e.reference = .constant := by
  have hentry := he.reference
  rw [configuredReference, h.get?_reserved hs (by decide)] at hreference
  cases hraw : s.value? "compare_to" with
  | none => rw [hraw] at hreference; cases hreference
  | some raw =>
    rw [hraw] at hreference hentry
    exact Except.ok.inj (hentry.symm.trans (ofWire_of_referenceOf hreference))

/-- The entry of an accepted section honours it. -/
theorem AcceptedEntry.honoured (haccepted : c.AcceptedEntry name) (h : c.Normal)
    (hs : Assoc.get? c.sections name = some s) (he : s.Describes e) : s.Honoured e := by
  have hkind : e.kind = "" ∨ Catalog.isKnown e.kind = true := by
    rw [he.kind, ← h.kindOf_eq hs]
    exact haccepted.kind
  refine ⟨hkind, fun hinactive => ?_, fun raw hraw => ?_⟩
  · rcases hkind with hnone | hknown
    · exact he.kind.symm.trans hnone
    · exact absurd hknown (Bool.eq_false_iff.mp hinactive)
  · have hconstant := haccepted.constant raw ((h.get?_reserved hs (by decide)).trans hraw)
    have hreference := h.reference_eq_constant hs he hconstant.2
    obtain ⟨x, hx⟩ := Option.isSome_iff_exists.mp
      (he.hasConstant.mpr ⟨hreference, Option.isSome_of_eq_some hraw⟩)
    obtain ⟨raw', hraw', hnumber, hfinite⟩ := he.constant x hx
    obtain rfl := Option.some.inj (hraw.symm.trans hraw')
    exact ⟨hreference, x, hnumber, hfinite, hx⟩

/-- An entry honours the section of a name. -/
def Honours (c : Configuration) (name : String) (e : Entry) : Prop :=
  ∃ s, Assoc.get? c.sections name = some s ∧ s.Honoured e

/-- **Validated conditions are replayed faithfully.** Let a file write a configuration. If
its conditions are accepted then both sides have their edits, every entry of their drafts
is of a known kind or of none, and each one honours its section. And if a side has no
edits then its conditions are not accepted. -/
theorem draft_of_validateConditions {text : String} {c : Configuration}
    (hc : Configuration.ofText text = .ok c) :
    (c.validateConditions = .ok () → ∀ side, ∃ edits d groups,
      c.edits side = .ok edits ∧ c.draft side = .ok d ∧ c.Numbering side groups ∧
      d.Renders c.Honours groups.names ∧
      ∀ g ∈ d.groups, ∀ e ∈ g.entries, e.kind = "" ∨ Catalog.isKnown e.kind = true) ∧
    ∀ side fault, c.edits side = .error fault → ∃ fault', c.validateConditions = .error fault' := by
  have hnormal := normal_ofText hc
  refine ⟨fun hvalid side => ?_, fun side fault hfault => ?_⟩
  · have hnumbering := hnormal.numbering side
    obtain ⟨edits, hedits⟩ := exists_edits_of_validateConditions hvalid side
    obtain ⟨d, hd, hdescribes⟩ := hnormal.renders_draft hedits
    -- every name of the layout is a section of the file, and the validation went through it
    have hrenders : d.Renders c.Honours (c.layout side) := by
      refine hdescribes.imp fun ns hns name hname e he => ?_
      obtain ⟨hmem, a, ha⟩ := hnumbering.of_mem_names hns hname
      obtain ⟨s, hs, -, he⟩ := he
      exact ⟨s, hs, (acceptedEntry_of_validateConditions hvalid hmem ha).honoured hnormal hs he⟩
    refine ⟨edits, d, c.numbered side, hedits, hd, hnumbering, hrenders, ?_⟩
    exact hrenders.forall_entry (fun _ => .inl rfl) fun name e ⟨_, _, he⟩ => he.kind
  · cases hvalid : c.validateConditions with
    | error fault' => exact ⟨fault', rfl⟩
    | ok =>
      obtain ⟨edits, hedits⟩ := exists_edits_of_validateConditions hvalid side
      rw [hfault] at hedits
      cases hedits

theorem draft_of_validateConditions_uneven :
    Configuration.ofText unevenText = .ok unevenConfiguration ∧
    (unevenConfiguration.validateConditions = .ok () ∧ ∀ side, ∃ edits d groups,
      unevenConfiguration.edits side = .ok edits ∧ unevenConfiguration.draft side = .ok d ∧
      unevenConfiguration.Numbering side groups ∧
      d.Renders unevenConfiguration.Honours groups.names ∧
      ∀ g ∈ d.groups, ∀ e ∈ g.entries, e.kind = "" ∨ Catalog.isKnown e.kind = true) ∧
    ∀ side fault, unevenConfiguration.edits side = .error fault →
      ∃ fault', unevenConfiguration.validateConditions = .error fault' := by
  have hc : Configuration.ofText unevenText = .ok unevenConfiguration := by decide +kernel
  have hvalid : unevenConfiguration.validateConditions = .ok () := by decide +kernel
  obtain ⟨hdraft, hedits⟩ := draft_of_validateConditions hc
  exact ⟨hc, ⟨hvalid, hdraft hvalid⟩, hedits⟩

end Configuration
end IndicatorStrategy
