import Mathlib
import IndicatorStrategy.Proofs.Configuration.Normal
import IndicatorStrategy.Proofs.Store.Objects
import IndicatorStrategy.Request
/-!
# IndicatorStrategy.Proofs.Configuration.Order

**The order of a file does not matter.** A file that writes each section once and in it each
key once comes to the sections of its blocks, sorted by name, with their keys sorted
(`ofText_of_isMadeOf`). Sorting forgets the order in which names and keys stand
(`Assoc.foldl_putSorted_of_perm`), so blocks and the lines in them may be rearranged.
-/

namespace IndicatorStrategy

/-! ### Files made of blocks -/

/-- Pairs in the order of their keys. -/
def Assoc.sorted {α : Type} (ps : Assoc String α) : Assoc String α :=
  ps.foldl (fun m p => Assoc.putSorted m p.1 p.2) []

theorem Assoc.get?_sorted_of_mem {α : Type} {ps : Assoc String α} (hn : (Assoc.keys ps).Nodup)
    {key : String} {value : α} (h : (key, value) ∈ ps) :
    Assoc.get? (Assoc.sorted ps) key = some value := by
  have hreverse : (Assoc.keys ps.reverse).Nodup := by
    rw [Assoc.keys, List.map_reverse]
    exact List.nodup_reverse.mpr hn
  rw [Assoc.sorted, Assoc.get?_foldl_putSorted, Assoc.get?_nil, Option.or_none]
  exact Assoc.get?_of_mem hreverse (List.mem_reverse.mpr h)

namespace Ini

/-- A line that writes a key. -/
structure KeyLine where
  text : List Char
  key : String
  value? : Option String
  reads : readLine text = .entry key value?

/-- A section as it is written: the line of its name and behind it those of its keys. -/
structure Block where
  header : List Char
  name : String
  reads : readLine header = .name name
  keyLines : List KeyLine

namespace Block

/-- All lines of a block. -/
def lines (b : Block) : List (List Char) := b.header :: b.keyLines.map KeyLine.text

/-- The keys of a block with their values. -/
def pairs (b : Block) : Section := b.keyLines.map fun l => (l.key, l.value?)

end Block

/-- A text is made of blocks: these are its lines but for those that say nothing. -/
def IsMadeOf (text : String) (blocks : List Block) : Prop :=
  (splitAtChar '\n' text.toList).filter (fun line => readLine line ≠ .nothing)
    = blocks.flatMap Block.lines

instance (text : String) (blocks : List Block) : Decidable (IsMadeOf text blocks) :=
  inferInstanceAs (Decidable (_ = _))

/-- Each section is written once, and in it each key. -/
structure AreDistinct (blocks : List Block) : Prop where
  names : (blocks.map Block.name).Nodup
  keys : ∀ b ∈ blocks, (Assoc.keys b.pairs).Nodup

/-- The lines of keys stand in another order in their blocks, and then the blocks in another
order in the file. -/
def Rearranged (blocks blocks' : List Block) : Prop :=
  ∃ middle, List.Forall₂ (fun b b' => b'.header = b.header ∧ b.keyLines.Perm b'.keyLines)
    blocks middle ∧ middle.Perm blocks'

/-! ### Reading the lines of blocks -/

/-- Lines that say nothing only count as lines. -/
theorem readLines_of_filter {lines : List (List Char)} {n : Nat} {current : String}
    {c c' : Configuration}
    (h : readLines n current c (lines.filter fun line => readLine line ≠ .nothing) = .ok c')
    (m : Nat) : readLines m current c lines = .ok c' := by
  induction lines generalizing n m current c with
  | nil => exact h
  | cons line lines ih =>
    rw [readLines]
    cases hread : readLine line with
    | nothing =>
      rw [List.filter_cons_of_neg (by simp [hread])] at h
      exact ih h _
    | name | entry | unclosedName | emptyKey =>
      rw [List.filter_cons_of_pos (by simp [hread]), readLines, hread] at h
      first | exact ih h _ | cases h

/-- A configuration once the keys of a section were stored. -/
def putAll (c : Configuration) (name : String) (ps : Section) : Configuration :=
  ps.foldl (fun c p => c.put name p.1 p.2) c

theorem readLines_keyLines (n : Nat) (name : String) (c : Configuration) (ls : List KeyLine)
    (rest : List (List Char)) :
    readLines n name c (ls.map KeyLine.text ++ rest)
      = readLines (n + ls.length) name (putAll c name (ls.map fun l => (l.key, l.value?)))
          rest := by
  induction ls generalizing n c with
  | nil => rfl
  | cons l ls ih =>
    rw [List.map_cons, List.cons_append, readLines, l.reads]
    simp only
    rw [ih, List.length_cons, Nat.add_right_comm, Nat.add_assoc]
    rfl

/-- Keys that are stored one after the other are stored in their section. -/
theorem putAll_putSorted (sections : Assoc String Section) (name : String) (s ps : Section) :
    putAll ⟨Assoc.putSorted sections name s⟩ name ps
      = ⟨Assoc.putSorted sections name
          (ps.foldl (fun m p => Assoc.putSorted m p.1 p.2) s)⟩ := by
  induction ps generalizing s with
  | nil => rfl
  | cons p ps ih =>
    have hput : Configuration.put ⟨Assoc.putSorted sections name s⟩ name p.1 p.2
        = ⟨Assoc.putSorted sections name (Assoc.putSorted s p.1 p.2)⟩ := by
      rw [Configuration.put, Assoc.get?_putSorted_self, Option.getD_some,
        Assoc.putSorted_putSorted_self]
    rw [putAll, List.foldl_cons, hput]
    exact ih _

/-- What blocks write, one section after the other. -/
def written (blocks : List Block) : Assoc String Section :=
  blocks.map fun b => (b.name, Assoc.sorted b.pairs)

/-- **Blocks whose names are new** add their sections. -/
theorem readLines_blocks {blocks : List Block} (hnames : (blocks.map Block.name).Nodup)
    {c : Configuration} (hnew : ∀ b ∈ blocks, b.name ∉ Assoc.keys c.sections) (n : Nat)
    (current : String) :
    readLines n current c (blocks.flatMap Block.lines)
      = .ok ⟨(written blocks).foldl (fun m p => Assoc.putSorted m p.1 p.2) c.sections⟩ := by
  induction blocks generalizing n current c with
  | nil => rfl
  | cons b bs ih =>
    obtain ⟨hb, hbs⟩ := List.nodup_cons.mp hnames
    have hadd : c.addSection b.name = ⟨Assoc.putSorted c.sections b.name []⟩ := by
      rw [Configuration.addSection,
        (Assoc.get?_eq_none_iff _ _).mpr (hnew b (List.mem_cons_self ..))]
    have hrest : ∀ b' ∈ bs, b'.name
        ∉ Assoc.keys (Assoc.putSorted c.sections b.name (Assoc.sorted b.pairs)) := by
      intro b' hb' hmem
      rcases Assoc.mem_keys_putSorted hmem with heq | hmem
      · exact hb (List.mem_map.mpr ⟨b', hb', heq⟩)
      · exact hnew b' (List.mem_cons_of_mem _ hb') hmem
    rw [List.flatMap_cons, Block.lines, List.cons_append, readLines, b.reads]
    simp only
    rw [readLines_keyLines, hadd, ← Block.pairs, putAll_putSorted, ← Assoc.sorted, ih hbs hrest]
    rfl

end Ini

/-! ### What a file comes to -/

open Ini

/-- **A file made of blocks** that writes nothing twice comes to the sections of its blocks. -/
theorem Configuration.ofText_of_isMadeOf {text : String} {blocks : List Block}
    (h : IsMadeOf text blocks) (hnames : (blocks.map Block.name).Nodup) :
    Configuration.ofText text = .ok ⟨Assoc.sorted (written blocks)⟩ := by
  have hread :=
    readLines_blocks hnames (c := .empty) (fun _ _ => List.not_mem_nil) 1 defaultSection
  rw [← h] at hread
  exact readLines_of_filter hread 1

namespace Ini

variable {blocks blocks' : List Block}

theorem keys_written (blocks : List Block) :
    Assoc.keys (written blocks) = blocks.map Block.name := by
  rw [Assoc.keys, written, List.map_map]
  rfl

/-- A block writes the same section when its lines are rearranged. -/
theorem sorted_pairs_of_perm {b b' : Block} (hkeys : (Assoc.keys b.pairs).Nodup)
    (hheader : b'.header = b.header) (hlines : b.keyLines.Perm b'.keyLines) :
    b.name = b'.name ∧ Assoc.sorted b.pairs = Assoc.sorted b'.pairs := by
  have hname : Line.name b.name = .name b'.name := by
    rw [← b.reads, ← b'.reads, hheader]
  exact ⟨Line.name.inj hname, Assoc.foldl_putSorted_of_perm hkeys (hlines.map _) []⟩

/-- Rearranged blocks write the same sections, in another order. -/
theorem Rearranged.written_perm (h : Rearranged blocks blocks') (hdistinct : AreDistinct blocks) :
    (written blocks).Perm (written blocks') := by
  obtain ⟨middle, hlines, hperm⟩ := h
  have hmiddle : written blocks = written middle := by
    rw [written, written, ← List.forall₂_eq_eq_eq, List.forall₂_map_left_iff,
      List.forall₂_map_right_iff]
    refine ((List.forall₂_and_left blocks middle).mpr ⟨hdistinct.keys, hlines⟩).imp
      fun b b' hb => ?_
    obtain ⟨hname, hpairs⟩ := sorted_pairs_of_perm hb.1 hb.2.1 hb.2.2
    rw [hname, hpairs]
  rw [hmiddle]
  exact hperm.map _

/-- Blocks and their lines may be rearranged. -/
theorem Rearranged.sorted_written (h : Rearranged blocks blocks')
    (hdistinct : AreDistinct blocks) :
    Assoc.sorted (written blocks) = Assoc.sorted (written blocks') :=
  Assoc.foldl_putSorted_of_perm (keys_written blocks ▸ hdistinct.names)
    (h.written_perm hdistinct) []

theorem Rearranged.nodup_names (h : Rearranged blocks blocks') (hdistinct : AreDistinct blocks) :
    (blocks'.map Block.name).Nodup := by
  have hkeys : (Assoc.keys (written blocks)).Perm (Assoc.keys (written blocks')) :=
    (h.written_perm hdistinct).map Prod.fst
  rw [keys_written, keys_written] at hkeys
  exact hkeys.nodup_iff.mp hdistinct.names

end Ini

namespace Configuration

/-- What the lines of a block write is found under its name and their keys. -/
theorem get?_of_mem_blocks {text : String} {blocks : List Block} {c : Configuration}
    (hc : Configuration.ofText text = .ok c) (h : IsMadeOf text blocks)
    (hdistinct : AreDistinct blocks) {b : Block} (hb : b ∈ blocks) {l : KeyLine}
    (hl : l ∈ b.keyLines) : c.get? b.name l.key = l.value? := by
  have hsections : c = ⟨Assoc.sorted (written blocks)⟩ :=
    Except.ok.inj (hc.symm.trans (ofText_of_isMadeOf h hdistinct.names))
  have hsection : Assoc.get? c.sections b.name = some (Assoc.sorted b.pairs) := by
    rw [hsections]
    exact Assoc.get?_sorted_of_mem (keys_written blocks ▸ hdistinct.names)
      (List.mem_map.mpr ⟨b, hb, rfl⟩)
  have hsmall : lower l.key = l.key := by
    have hline := isSmall_readLine l.text
    rwa [l.reads] at hline
  rw [(normal_ofText hc).get?_eq hsection hsmall, Section.value?,
    Assoc.get?_sorted_of_mem (hdistinct.keys b hb) (List.mem_map.mpr ⟨l, hl, rfl⟩)]
  rfl

/-- **The order of a file does not matter.** Let a file write each section once and in it each
key once. However its sections and the lines in them are rearranged, both files can be read and
say the same: they have the same sections, keys and values, which are those that the lines
write; the same edits and drafts of both sides; the same ticker and window; and the validation
accepts both, or finds the same first fault in both. -/
theorem ofText_of_rearranged {text text' : String} {blocks blocks' : List Block}
    (h : IsMadeOf text blocks) (h' : IsMadeOf text' blocks') (hdistinct : AreDistinct blocks)
    (hr : Rearranged blocks blocks') :
    ∃ c c', Configuration.ofText text = .ok c ∧ Configuration.ofText text' = .ok c' ∧
      (∀ b ∈ blocks, ∀ l ∈ b.keyLines, c.get? b.name l.key = l.value?) ∧
      c'.names = c.names ∧ (∀ name, c'.keys name = c.keys name) ∧
      (∀ name key, c'.get? name key = c.get? name key) ∧
      (∀ side, c'.edits side = c.edits side ∧ c'.draft side = c.draft side) ∧
      (∀ given, Selection.configured c' given = Selection.configured c given) ∧
      c'.validate = c.validate := by
  have hc := ofText_of_isMadeOf h hdistinct.names
  have hc' := ofText_of_isMadeOf h' (hr.nodup_names hdistinct)
  rw [← hr.sorted_written hdistinct] at hc'
  exact ⟨_, _, hc, hc', fun b hb l hl => get?_of_mem_blocks hc h hdistinct hb hl, rfl,
    fun _ => rfl, fun _ _ => rfl, fun _ => ⟨rfl, rfl⟩, fun _ => rfl, rfl⟩

/-- A section with a kind that does not exist. -/
def unknownKindBlock : Block :=
  ⟨"[sell.1.1] ; last".toList, "sell.1.1", by decide +kernel,
    [⟨"kind = Ichimoku".toList, "kind", some "Ichimoku", by decide +kernel⟩]⟩

/-- A section with a word that is no trend, in front of other lines. -/
def unknownTrendBlock (behind : List KeyLine) : Block :=
  ⟨"[Buy.1.1]".toList, "buy.1.1", by decide +kernel,
    ⟨"trend: up".toList, "trend", some "up", by decide +kernel⟩ :: behind⟩

/-- A key with its value. -/
def kindLine : KeyLine := ⟨" Kind = Sma ".toList, "kind", some "Sma", by decide +kernel⟩

/-- A key without a value. -/
def bareLine : KeyLine := ⟨"timeperiod".toList, "timeperiod", none, by decide +kernel⟩

/-- A file with two faults. -/
def faultyText : String :=
  "[sell.1.1] ; last\nkind = Ichimoku\n\n[Buy.1.1]\ntrend: up\ntimeperiod\n Kind = Sma \n"

/-- The same file with its sections and lines in another order. -/
def rearrangedText : String :=
  "# buy\n[Buy.1.1]\ntrend: up\n Kind = Sma \ntimeperiod\n[sell.1.1] ; last\nkind = Ichimoku"

theorem ofText_of_rearranged_faulty :
    (IsMadeOf faultyText [unknownKindBlock, unknownTrendBlock [bareLine, kindLine]] ∧
      IsMadeOf rearrangedText [unknownTrendBlock [kindLine, bareLine], unknownKindBlock] ∧
      AreDistinct [unknownKindBlock, unknownTrendBlock [bareLine, kindLine]] ∧
      Rearranged [unknownKindBlock, unknownTrendBlock [bareLine, kindLine]]
        [unknownTrendBlock [kindLine, bareLine], unknownKindBlock]) ∧
    ∃ c c', Configuration.ofText faultyText = .ok c ∧
      Configuration.ofText rearrangedText = .ok c' ∧
      (∀ b ∈ [unknownKindBlock, unknownTrendBlock [bareLine, kindLine]],
        ∀ l ∈ b.keyLines, c.get? b.name l.key = l.value?) ∧
      c'.names = c.names ∧ (∀ name, c'.keys name = c.keys name) ∧
      (∀ name key, c'.get? name key = c.get? name key) ∧
      (∀ side, c'.edits side = c.edits side ∧ c'.draft side = c.draft side) ∧
      (∀ given, Selection.configured c' given = Selection.configured c given) ∧
      c'.validate = c.validate := by
  have hfaulty :
      IsMadeOf faultyText [unknownKindBlock, unknownTrendBlock [bareLine, kindLine]] := by
    decide +kernel
  have hrearranged :
      IsMadeOf rearrangedText [unknownTrendBlock [kindLine, bareLine], unknownKindBlock] := by
    decide +kernel
  have hdistinct : AreDistinct [unknownKindBlock, unknownTrendBlock [bareLine, kindLine]] := by
    refine ⟨by decide, fun b hb => ?_⟩
    simp only [List.mem_cons, List.not_mem_nil, or_false] at hb
    rcases hb with rfl | rfl <;> decide
  have hr : Rearranged [unknownKindBlock, unknownTrendBlock [bareLine, kindLine]]
      [unknownTrendBlock [kindLine, bareLine], unknownKindBlock] :=
    ⟨[unknownKindBlock, unknownTrendBlock [kindLine, bareLine]],
      .cons ⟨rfl, .refl _⟩ (.cons ⟨rfl, (List.Perm.swap kindLine bareLine []).cons _⟩ .nil),
      .swap _ _ []⟩
  exact ⟨⟨hfaulty, hrearranged, hdistinct, hr⟩,
    ofText_of_rearranged hfaulty hrearranged hdistinct hr⟩

end Configuration
end IndicatorStrategy
