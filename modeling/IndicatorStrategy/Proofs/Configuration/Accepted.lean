import IndicatorStrategy.Configuration.Validation
import IndicatorStrategy.Request
/-!
# IndicatorStrategy.Proofs.Configuration.Accepted

**What the validation of a configuration guarantees.** A configuration is accepted just
when each of its parts is (`Configuration.validate_eq_ok_iff`). Then every section that
belongs to a side is a condition whose words and numbers can be read, so the edits of
both sides can be made. And the window, which is checked as an integer of 64 bits, is
the same number when it is read as one of 32.
-/

namespace IndicatorStrategy

/-- Checks that are made one after the other pass just when each of them does. -/
theorem forM_eq_ok_iff {ε α : Type} {f : α → Except ε Unit} {xs : List α} :
    xs.forM f = .ok () ↔ ∀ x ∈ xs, f x = .ok () := by
  induction xs with
  | nil => simp [pure, Except.pure]
  | cons x xs ih =>
    change f x >>= (fun _ => xs.forM f) = .ok () ↔ _
    rw [bind_eq_ok_iff, ih, List.forall_mem_cons]
    exact ⟨fun ⟨_, h⟩ => h, fun h => ⟨(), h⟩⟩

namespace Configuration

variable {c : Configuration}

/-- All parts of a configuration pass their checks. -/
structure Accepted (c : Configuration) : Prop where
  store : c.validateStore = .ok ()
  days : c.validateDays = .ok ()
  ticker : c.validateTicker = .ok ()
  conditions : ∀ name ∈ c.names, c.validateSection name = .ok ()

theorem validate_eq_ok_iff : c.validate = .ok () ↔ c.Accepted := by
  simp only [validate, validateBacktest, validateConditions, bind_eq_ok_iff, forM_eq_ok_iff]
  constructor
  · rintro ⟨_, hstore, _, ⟨_, hdays, hticker⟩, hconditions⟩
    exact ⟨hstore, hdays, hticker, hconditions⟩
  · rintro ⟨hstore, hdays, hticker, hconditions⟩
    exact ⟨(), hstore, (), ⟨(), hdays, hticker⟩, hconditions⟩

/-! ### Conditions -/

/-- The words and numbers of a condition can be read, its kind is known or absent, and a
constant has the constant reference. -/
structure AcceptedEntry (c : Configuration) (name : String) : Prop where
  kind : c.kindOf name = "" ∨ Catalog.isKnown (c.kindOf name) = true
  trend : ∀ raw, c.get? name "trend" = some raw → ∃ t, trendOf name raw = .ok t
  reference : ∀ raw, c.get? name "compare_to" = some raw → ∃ x, referenceOf name raw = .ok x
  constant : ∀ raw, c.get? name "compare_value" = some raw →
    (∃ x, constantOf name raw = .ok x) ∧ c.configuredReference name = .ok .constant

theorem acceptedEntry_of_validateEntry {name : String} (h : c.validateEntry name = .ok ()) :
    c.AcceptedEntry name := by
  simp only [validateEntry, bind_eq_ok_iff] at h
  obtain ⟨_, hkind, _, htrend, reference, hreference, hconstant⟩ := h
  refine ⟨?_, fun raw hraw => ?_, fun raw hraw => ?_, fun raw hraw => ?_⟩
  · simp only [validateKind] at hkind
    split at hkind
    · rename_i hk
      simpa using hk
    · cases hkind
  · rw [validateTrend, hraw] at htrend
    obtain ⟨t, ht, -⟩ := map_eq_ok_iff.mp htrend
    exact ⟨t, ht⟩
  · rw [configuredReference, hraw] at hreference
    exact ⟨reference, hreference⟩
  -- the constant is checked against the reference that was read before it
  · unfold validateConstant at hconstant
    rw [hraw] at hconstant
    simp only at hconstant
    split at hconstant
    · cases hconstant
    · rename_i x hx
      cases reference with
      | constant => exact ⟨⟨x, hx⟩, hreference⟩
      | close => cases hconstant

theorem exists_changeOf {α : Type} {raw? : Option String} {read : String → Except Failure α}
    (h : ∀ raw, raw? = some raw → ∃ x, read raw = .ok x) (change : α → Change) :
    ∃ cs, changeOf raw? read change = .ok cs := by
  cases raw? with
  | none => exact ⟨[], rfl⟩
  | some raw =>
    obtain ⟨x, hx⟩ := h raw rfl
    exact ⟨[change x], by rw [changeOf, hx]; rfl⟩

/-- The changes of an accepted condition can be made. -/
theorem AcceptedEntry.exists_changes {name : String} (h : c.AcceptedEntry name) :
    ∃ cs, c.changes name = .ok cs := by
  obtain ⟨trend, htrend⟩ := exists_changeOf h.trend .trend
  obtain ⟨reference, hreference⟩ := exists_changeOf h.reference .reference
  obtain ⟨constant, hconstant⟩ :=
    exists_changeOf (fun raw hraw => (h.constant raw hraw).1) .constant
  exact ⟨_, by rw [changes, htrend, hreference, hconstant]; rfl⟩

/-! ### Sections of a side -/

theorem mem_placed {side : Side} {p : Address × String} (h : p ∈ c.placed side) :
    p.2 ∈ c.names ∧ Address.ofName? p.2 = some p.1 ∧ p.1.side = side := by
  obtain ⟨name, hname, hp⟩ := List.mem_filterMap.mp h
  obtain ⟨a, ha, rfl⟩ := Option.map_eq_some_iff.mp hp
  obtain ⟨ha, hside⟩ := Option.filter_eq_some_iff.mp ha
  exact ⟨hname, ha, by simpa using hside⟩

/-- What holds of all names that are placed holds of the names in their places. -/
theorem forall_numbered {P : String → Prop} {side : Side} (h : ∀ p ∈ c.placed side, P p.2) :
    ∀ g ∈ c.numbered side, ∀ q ∈ g.2, P q.2 := by
  rw [numbered]
  generalize c.placed side = ps at h
  have hstart : ∀ g ∈ ([] : Assoc Nat (Assoc Nat String)), ∀ q ∈ g.2, P q.2 := by simp
  generalize ([] : Assoc Nat (Assoc Nat String)) = groups at hstart
  induction ps generalizing groups with
  | nil => exact hstart
  | cons p ps ih =>
    refine ih (fun q hq => h q (List.mem_cons_of_mem _ hq)) _ fun g hg q hq => ?_
    rcases Assoc.mem_putSorted hg with rfl | hg
    · rcases Assoc.mem_putSorted hq with rfl | hq
      · exact h p (List.mem_cons_self ..)
      · -- the group of the place was there before, or it is new and empty
        cases hold : Assoc.get? groups p.1.group with
        | none => simp [hold] at hq
        | some entries =>
          rw [hold, Option.getD_some] at hq
          exact hstart _ (Assoc.mem_of_get? hold) q hq
    · exact hstart g hg q hq

theorem forall_layout {P : String → Prop} {side : Side} (h : ∀ p ∈ c.placed side, P p.2) :
    ∀ names ∈ c.layout side, ∀ name ∈ names, P name := by
  intro names hnames name hname
  obtain ⟨g, hg, rfl⟩ := List.mem_map.mp hnames
  obtain ⟨q, hq, rfl⟩ := List.mem_map.mp hname
  exact forall_numbered h g hg q hq

/-! ### Edits -/

theorem exists_entryEdits {names : List String}
    (h : ∀ name ∈ names, ∃ cs, c.changes name = .ok cs) (g e : Nat) :
    ∃ es, c.entryEdits g e names = .ok es := by
  induction names generalizing e with
  | nil => exact ⟨[], rfl⟩
  | cons name names ih =>
    obtain ⟨cs, hcs⟩ := h name (List.mem_cons_self ..)
    obtain ⟨more, hmore⟩ := ih (fun n hn => h n (List.mem_cons_of_mem _ hn)) (e + 1)
    exact ⟨_, by rw [entryEdits, hcs, hmore]; rfl⟩

theorem exists_groupEdits {groups : List (List String)}
    (h : ∀ names ∈ groups, ∀ name ∈ names, ∃ cs, c.changes name = .ok cs) (g : Nat) :
    ∃ es, c.groupEdits g groups = .ok es := by
  induction groups generalizing g with
  | nil => exact ⟨[], rfl⟩
  | cons names groups ih =>
    obtain ⟨here, hhere⟩ := exists_entryEdits (h names (List.mem_cons_self ..)) g 0
    obtain ⟨more, hmore⟩ := ih (fun n hn => h n (List.mem_cons_of_mem _ hn)) (g + 1)
    exact ⟨_, by rw [groupEdits, hhere, hmore]; rfl⟩

/-- A section with settings is no condition. -/
theorem isSettings_eq_false {name : String} {a : Address} (h : Address.ofName? name = some a) :
    isSettings name = false := by
  have hnone : ∀ name ∈ [storeSection, backtestSection, Ini.defaultSection],
      Address.ofName? name = none := by decide
  rw [Bool.eq_false_iff]
  intro hs
  rw [hnone name (by simpa [isSettings, or_assoc] using hs)] at h
  cases h

theorem validateConditions_eq_ok_iff :
    c.validateConditions = .ok () ↔ ∀ name ∈ c.names, c.validateSection name = .ok () :=
  forM_eq_ok_iff

/-- The sections of sides are conditions, and these are accepted one by one. -/
theorem acceptedEntry_of_validateConditions (h : c.validateConditions = .ok ()) {name : String}
    (hname : name ∈ c.names) {a : Address} (ha : Address.ofName? name = some a) :
    c.AcceptedEntry name := by
  have hsection := validateConditions_eq_ok_iff.mp h name hname
  rw [validateSection, isSettings_eq_false ha, ha] at hsection
  exact acceptedEntry_of_validateEntry hsection

/-- **Accepted conditions can be replayed**: both sides have their edits. -/
theorem exists_edits_of_validateConditions (h : c.validateConditions = .ok ()) (side : Side) :
    ∃ es, c.edits side = .ok es := by
  refine exists_groupEdits (forall_layout fun p hp => ?_) 0
  obtain ⟨hname, ha, -⟩ := mem_placed hp
  exact (acceptedEntry_of_validateConditions h hname ha).exists_changes

theorem Accepted.validateConditions (h : c.Accepted) : c.validateConditions = .ok () :=
  validateConditions_eq_ok_iff.mpr h.conditions

theorem Accepted.exists_edits (h : c.Accepted) (side : Side) : ∃ es, c.edits side = .ok es :=
  exists_edits_of_validateConditions h.validateConditions side

theorem Accepted.exists_draft (h : c.Accepted) (side : Side) :
    ∃ es, c.edits side = .ok es ∧ c.draft side = .ok (Draft.blank.applyAll es) := by
  obtain ⟨es, hes⟩ := h.exists_edits side
  exact ⟨es, hes, by rw [draft, hes]; rfl⟩

/-! ### Ticker and window -/

/-- The configured ticker without blanks around it, unless nothing is left. -/
def ticker? (c : Configuration) : Option String :=
  ((c.get? backtestSection "ticker").map trim).filter (!·.isEmpty)

/-- The configured window. -/
def days? (c : Configuration) : Option Nat :=
  (c.get? backtestSection "days").bind fun raw =>
    (Numeral.integer64? (trim raw)).map Int.toNat

end Configuration

/-- A positive integer has no minus sign, so it is a natural number. -/
theorem Numeral.natural?_of_integer? {cs : List Char} {n : Int} (h : integer? cs = some n)
    (hn : 0 < n) : natural? cs = some n.toNat := by
  unfold integer? at h
  split at h
  · obtain ⟨m, hm, rfl⟩ := Option.map_eq_some_iff.mp h
    obtain ⟨k, -, hk⟩ := Option.bind_eq_some_iff.mp hm
    cases hk
    exact absurd hn (by simp)
  · obtain ⟨m, hm, rfl⟩ := Option.map_eq_some_iff.mp h
    exact hm

theorem Selection.positive?_of_integer64? {raw : String} {n : Int}
    (h : Numeral.integer64? (trim raw) = some n) (hpos : 0 < n)
    (hlt : n < (Numeral.limit32 : Int)) : positive? raw = some n.toNat := by
  obtain ⟨hn, -⟩ := Option.filter_eq_some_iff.mp h
  rw [positive?, Numeral.word32?, Numeral.natural?_of_integer? hn hpos, Option.filter_some,
    if_pos (by simp; omega), Option.filter_some, if_pos (by simpa using hpos)]

namespace Configuration

/-- **The checked window is the one that is used.** -/
theorem Accepted.configured_eq {c : Configuration} (h : c.Accepted) :
    Selection.configured c ⟨none, none⟩ = ⟨c.ticker?, c.days?⟩ := by
  -- the validation reads a signed number of 64 bits, and the selection an unsigned one of 32
  have hdays : (c.get? backtestSection "days").bind Selection.positive? = c.days? := by
    have hcheck := h.days
    rw [days?]
    cases hraw : c.get? backtestSection "days" with
    | none => rfl
    | some raw =>
      rw [validateDays, hraw] at hcheck
      simp only at hcheck
      rw [Option.bind_some, Option.bind_some]
      cases hn : Numeral.integer64? (trim raw) with
      | none => simp [hn] at hcheck
      | some n =>
        rw [hn] at hcheck
        simp only at hcheck
        split at hcheck
        · rename_i hbounds
          simp only [Bool.and_eq_true, decide_eq_true_eq] at hbounds
          exact Selection.positive?_of_integer64? hn hbounds.1 hbounds.2
        · cases hcheck
  rw [Selection.configured, Option.none_or, Option.none_or, hdays, ticker?]

end Configuration
end IndicatorStrategy
