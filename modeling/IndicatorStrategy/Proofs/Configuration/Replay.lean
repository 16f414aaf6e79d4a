import Mathlib
import IndicatorStrategy.Proofs.Configuration.Entry
import IndicatorStrategy.Proofs.Configuration.Numbering
import IndicatorStrategy.Proofs.Draft.Step
/-!
# IndicatorStrategy.Proofs.Configuration.Replay

**Where the edits of a configuration land.** The edits address groups and entries by their
positions in a draft that grows meanwhile. Each section is entered last, so its changes
always meet the last entry of the last group (`applyAll_changes`). A group is built by an
induction over its names that keeps what is in front of it (`applyAll_entryEdits`,
`applyAll_groupEntries`), and a draft by one over its groups (`applyAll_groupEdits`). With
the numbering of the names and what each section describes, that determines the draft of
a side up to the numbers of its entries (`Configuration.draft_ofText`).
-/

namespace IndicatorStrategy

/-! ### Edits of what comes last -/

namespace Draft

/-- Changes of the last entry of the last group meet this entry only. -/
theorem applyAll_changes (gs : List Group) (id n : Nat) (es : List Entry) (e : Entry)
    (cs : List Change) :
    (Draft.mk (gs ++ [⟨id, es ++ [e]⟩]) n).applyAll (cs.map (.change gs.length es.length))
      = ⟨gs ++ [⟨id, es ++ [e.applyAll cs]⟩], n⟩ := by
  induction cs generalizing e with
  | nil => rfl
  | cons c cs ih =>
    rw [List.map_cons, applyAll_cons, apply, changeEntry, modify_length_append_cons,
      modify_length_append_cons, ih, Entry.applyAll_cons]

/-- A new entry of the last group comes behind the others. -/
theorem apply_addEntry (gs : List Group) (id n : Nat) (es : List Entry) :
    (Draft.mk (gs ++ [⟨id, es⟩]) n).apply (.addEntry gs.length)
      = ⟨gs ++ [⟨id, es ++ [Entry.blank n]⟩], n + 1⟩ := by
  rw [apply, addEntry, if_pos (by simp), modify_length_append_cons]

/-- The groups and entries of a draft stand, one by one, for the names of a layout. Where
there are no names the draft is blank. -/
def Renders (R : String → Entry → Prop) (names : List (List String)) (d : Draft) : Prop :=
  if names = [] then d = blank
  else List.Forall₂ (fun ns g => List.Forall₂ R ns g.entries) names d.groups

end Draft

/-! ### The edits of a side -/

namespace Configuration

variable {c : Configuration}

/-- An entry comes from a section: the changes of that made it from a blank one. -/
def Makes (c : Configuration) (name : String) (e : Entry) : Prop :=
  ∃ cs id, c.changes name = .ok cs ∧ e = (Entry.blank id).applyAll cs

/-- Further entries of the last group come behind those that are there. -/
theorem applyAll_entryEdits {names : List String} (gs : List Group) (id n : Nat)
    {es : List Entry} {edits : List Edit} (hes : es ≠ [])
    (h : c.entryEdits gs.length es.length names = .ok edits) :
    ∃ more m, List.Forall₂ c.Makes names more ∧
      (Draft.mk (gs ++ [⟨id, es⟩]) n).applyAll edits = ⟨gs ++ [⟨id, es ++ more⟩], m⟩ := by
  induction names generalizing es n edits with
  | nil =>
    obtain rfl := Except.ok.inj h
    exact ⟨[], n, .nil, by simp⟩
  | cons name names ih =>
    simp only [entryEdits, bind_eq_ok_iff] at h
    obtain ⟨cs, hcs, rest, hrest, hedits⟩ := h
    obtain rfl := Except.ok.inj hedits
    -- the position that the next edits give is the number of entries by then
    have hlength : (es ++ [(Entry.blank n).applyAll cs]).length = es.length + 1 := by simp
    rw [← hlength] at hrest
    obtain ⟨more, m, hmore, hrun⟩ := ih (n + 1) (by simp) hrest
    refine ⟨(Entry.blank n).applyAll cs :: more, m, .cons ⟨cs, n, hcs, rfl⟩ hmore, ?_⟩
    rw [if_neg (by simpa using hes), Draft.applyAll_append, Draft.applyAll_append,
      Draft.applyAll_cons, Draft.applyAll_nil, Draft.apply_addEntry, Draft.applyAll_changes,
      hrun, List.append_assoc, List.singleton_append]

/-- The first entry of a group is there already, and the others come behind it. -/
theorem applyAll_groupEntries {names : List String} (gs : List Group) (id n : Nat)
    {edits : List Edit} (hnames : names ≠ [])
    (h : c.entryEdits gs.length 0 names = .ok edits) :
    ∃ es m, List.Forall₂ c.Makes names es ∧
      (Draft.mk (gs ++ [Group.blank id]) n).applyAll edits = ⟨gs ++ [⟨id, es⟩], m⟩ := by
  cases names with
  | nil => exact absurd rfl hnames
  | cons name names =>
    simp only [entryEdits, bind_eq_ok_iff] at h
    obtain ⟨cs, hcs, rest, hrest, hedits⟩ := h
    obtain rfl := Except.ok.inj hedits
    obtain ⟨more, m, hmore, hrun⟩ := applyAll_entryEdits gs id n
      (List.cons_ne_nil ((Entry.blank (id + 1)).applyAll cs) []) hrest
    refine ⟨(Entry.blank (id + 1)).applyAll cs :: more, m, .cons ⟨cs, _, hcs, rfl⟩ hmore, ?_⟩
    rw [if_pos trivial, List.nil_append, Draft.applyAll_append]
    have hfirst := Draft.applyAll_changes gs id n [] (Entry.blank (id + 1)) cs
    rw [List.nil_append, List.nil_append, List.length_nil] at hfirst
    rw [Group.blank, hfirst, hrun]
    rfl

/-- Further groups come behind those that are there. -/
theorem applyAll_groupEdits {groups : List (List String)} {gs : List Group} (n : Nat)
    {edits : List Edit} (hgs : gs ≠ []) (hgroups : ∀ names ∈ groups, names ≠ [])
    (h : c.groupEdits gs.length groups = .ok edits) :
    ∃ more m, List.Forall₂ (fun names g => List.Forall₂ c.Makes names g.entries) groups more ∧
      (Draft.mk gs n).applyAll edits = ⟨gs ++ more, m⟩ := by
  induction groups generalizing gs n edits with
  | nil =>
    obtain rfl := Except.ok.inj h
    exact ⟨[], n, .nil, by simp⟩
  | cons names groups ih =>
    simp only [groupEdits, bind_eq_ok_iff] at h
    obtain ⟨here, hhere, rest, hrest, hedits⟩ := h
    obtain rfl := Except.ok.inj hedits
    obtain ⟨es, m, hes, hrun⟩ :=
      applyAll_groupEntries gs n (n + 2) (hgroups names (List.mem_cons_self ..)) hhere
    -- and likewise for groups
    have hlength : (gs ++ [Group.mk n es]).length = gs.length + 1 := by simp
    rw [← hlength] at hrest
    obtain ⟨more, m', hmore, hrun'⟩ := ih m (by simp)
      (fun ns hns => hgroups ns (List.mem_cons_of_mem _ hns)) hrest
    refine ⟨⟨n, es⟩ :: more, m', .cons hes hmore, ?_⟩
    rw [if_neg (by simpa using hgs), Draft.applyAll_append, Draft.applyAll_append,
      Draft.applyAll_cons, Draft.applyAll_nil, Draft.apply, Draft.addGroup, hrun, hrun',
      List.append_assoc, List.singleton_append]

/-- **The edits of a layout** make a blank draft into its rendering. -/
theorem renders_groupEdits {groups : List (List String)} {edits : List Edit}
    (hgroups : ∀ names ∈ groups, names ≠ []) (h : c.groupEdits 0 groups = .ok edits) :
    (Draft.blank.applyAll edits).Renders c.Makes groups := by
  cases groups with
  | nil =>
    obtain rfl := Except.ok.inj h
    rw [Draft.Renders, if_pos rfl]
    rfl
  | cons names groups =>
    simp only [groupEdits, bind_eq_ok_iff] at h
    obtain ⟨here, hhere, rest, hrest, hedits⟩ := h
    obtain rfl := Except.ok.inj hedits
    obtain ⟨es, m, hes, hrun⟩ := applyAll_groupEntries [] 0 2
      (hgroups names (List.mem_cons_self ..)) hhere
    obtain ⟨more, m', hmore, hrun'⟩ := applyAll_groupEdits m
      (List.cons_ne_nil (Group.mk 0 es) [])
      (fun ns hns => hgroups ns (List.mem_cons_of_mem _ hns)) hrest
    rw [List.nil_append] at hrun
    rw [Draft.Renders, if_neg (List.cons_ne_nil _ _), if_pos trivial, List.nil_append,
      Draft.applyAll_append, Draft.blank, hrun, List.nil_append, hrun']
    exact .cons hes hmore

/-! ### The draft of a side -/

/-- An entry is what the section of a name describes. -/
def Describes (c : Configuration) (name : String) (e : Entry) : Prop :=
  ∃ s, Assoc.get? c.sections name = some s ∧ Assoc.Ascending s ∧ s.Describes e

theorem Normal.describes_of_makes (h : c.Normal) {name : String} (hname : name ∈ c.names)
    {e : Entry} (he : c.Makes name e) : c.Describes name e := by
  obtain ⟨s, hs⟩ := exists_section hname
  obtain ⟨cs, id, hcs, rfl⟩ := he
  exact ⟨s, hs, (h.section hs).ascending, h.describes_applyAll hs hcs id⟩

/-- The section names of a numbering, group by group. -/
def Numbers.names (groups : Numbers) : List (List String) := groups.map fun g => g.2.map Prod.snd

theorem Numbering.of_mem_names {side : Side} {groups : Numbers} (h : c.Numbering side groups)
    {names : List String} (hnames : names ∈ groups.names) {name : String} (hname : name ∈ names) :
    name ∈ c.names ∧ ∃ a, Address.ofName? name = some a := by
  obtain ⟨g, hg, rfl⟩ := List.mem_map.mp hnames
  obtain ⟨q, hq, rfl⟩ := List.mem_map.mp hname
  exact ⟨(h.greatest g hg q hq).1.1, _, (h.greatest g hg q hq).1.2⟩

theorem Numbering.names_ne_nil {side : Side} {groups : Numbers} (h : c.Numbering side groups) :
    ∀ names ∈ groups.names, names ≠ [] := by
  intro names hnames
  obtain ⟨g, hg, rfl⟩ := List.mem_map.mp hnames
  obtain ⟨name, hname, e, ha⟩ := (h.mem_groups g.1).mp (List.mem_map_of_mem hg)
  obtain ⟨q, hq, -⟩ := List.mem_map.mp ((h.mem_entries g hg e).mpr ⟨name, hname, ha⟩)
  exact List.ne_nil_of_mem (List.mem_map_of_mem hq)

end Configuration

/-- What a relation says of the entries may be told in other words for each name. -/
theorem Draft.Renders.imp {R S : String → Entry → Prop} {names : List (List String)} {d : Draft}
    (h : d.Renders R names) (hRS : ∀ ns ∈ names, ∀ name ∈ ns, ∀ e, R name e → S name e) :
    d.Renders S names := by
  unfold Renders at h ⊢
  split
  · rename_i hnil
    rwa [if_pos hnil] at h
  · rename_i hne
    rw [if_neg hne] at h
    refine ((List.forall₂_and_left names d.groups).mpr ⟨hRS, h⟩).imp fun ns g hg => ?_
    exact ((List.forall₂_and_left ns g.entries).mpr hg).imp fun name e he => he.1 e he.2

namespace Configuration

variable {c : Configuration}

/-- The draft of a side renders the names of its numbering. -/
theorem Normal.renders_draft (h : c.Normal) {side : Side} {edits : List Edit}
    (hedits : c.edits side = .ok edits) :
    ∃ d, c.draft side = .ok d ∧ d.Renders c.Describes (c.layout side) := by
  have hnumbering := h.numbering side
  refine ⟨Draft.blank.applyAll edits, by rw [draft, hedits]; rfl, ?_⟩
  refine (renders_groupEdits hnumbering.names_ne_nil hedits).imp fun ns hns name hname e he => ?_
  exact h.describes_of_makes (hnumbering.of_mem_names hns hname).1 he

/-- **Replay builds the configured layout.** Let a file write a configuration, and let a
side have its edits. Then its draft has a group for each group number and in it an entry
for each entry number, both ascending, and each entry is what the section with these
numbers describes, the greatest name if there are several. Without sections the draft is
blank. -/
theorem draft_ofText {text : String} {c : Configuration} {side : Side} {edits : List Edit}
    (hc : Configuration.ofText text = .ok c) (hedits : c.edits side = .ok edits) :
    ∃ d groups, c.draft side = .ok d ∧ c.Numbering side groups ∧
      d.Renders c.Describes groups.names := by
  have hnormal := normal_ofText hc
  obtain ⟨d, hd, hrenders⟩ := hnormal.renders_draft hedits
  exact ⟨d, c.numbered side, hd, hnormal.numbering side, hrenders⟩

/-- A file with gaps, signs, leading zeros, a key without a value and lines out of order. -/
def unevenText : String :=
  "[buy.10.1]\nkind = Macd\nzeta = ?\nsignalperiod = 9\nAlpha = 1\nfastperiod\n"
    ++ "[BUY.+2.3]\ncompare_value = 3e1\ncompare_to = constant\n"
    ++ "[buy.2.7]\nkind = Rsi\ntrend = crossed_below\n[buy.2.07]\nkind = Sma\n"

/-- Its configuration. -/
def unevenConfiguration : Configuration :=
  ⟨[("buy.+2.3", [("compare_to", some "constant"), ("compare_value", some "3e1")]),
    ("buy.10.1", [("alpha", some "1"), ("fastperiod", none), ("kind", some "Macd"),
      ("signalperiod", some "9"), ("zeta", some "?")]),
    ("buy.2.07", [("kind", some "Sma")]),
    ("buy.2.7", [("kind", some "Rsi"), ("trend", some "crossed_below")])]⟩

/-- The edits of its buy side. -/
def unevenEdits : List Edit :=
  [.change 0 0 (.reference .constant), .change 0 0 (.constant (.finite false 4629137466983448576)),
    .addEntry 0, .change 0 1 (.kind "Rsi"), .change 0 1 (.trend .crossedBelow),
    .addGroup, .change 1 0 (.kind "Macd"), .change 1 0 (.parameter "fastperiod" ""),
    .change 1 0 (.parameter "signalperiod" "9"), .change 1 0 (.parameter "alpha" "1"),
    .change 1 0 (.parameter "zeta" "?")]

theorem draft_ofText_uneven :
    (Configuration.ofText unevenText = .ok unevenConfiguration ∧
      unevenConfiguration.edits .buy = .ok unevenEdits) ∧
    ∃ d groups, unevenConfiguration.draft .buy = .ok d ∧
      unevenConfiguration.Numbering .buy groups ∧
      d.Renders unevenConfiguration.Describes groups.names := by
  have hc : Configuration.ofText unevenText = .ok unevenConfiguration := by decide +kernel
  have hedits : unevenConfiguration.edits .buy = .ok unevenEdits := by decide +kernel
  exact ⟨⟨hc, hedits⟩, draft_ofText hc hedits⟩

end Configuration
end IndicatorStrategy
