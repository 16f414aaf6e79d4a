import Mathlib
import IndicatorStrategy.Proofs.CommandLine.Refusal
import IndicatorStrategy.Proofs.Request
import IndicatorStrategy.Proofs.Session.Effect
/-!
# IndicatorStrategy.Proofs.CommandLine.Compile

**Compiling into a store** that does not fail. With an accepted configuration compiling
succeeds. It leaves under the keys of each compiled side the artifacts of the configured
draft, under the keys of the selection what is configured, and everything else as it was
(`Compiled`). This determines what the store holds, so compiling again changes nothing; and
a request is made of the same artifacts.
-/

namespace IndicatorStrategy

open Archive (artifactIn withArtifact)
open KeyValue (Held Reliable)
open KeyValue.Reliable (Computes)

/-! ### What writes of a side leave -/

namespace Archive

/-- The keys of sides. -/
def keysOf (sides : List Side) : List String := sides.flatMap keys

/-- What a store holds once the artifacts of sides were written. -/
def withArtifacts (artifact : Side → Artifact) (held : Held) (sides : List Side) : Held :=
  sides.foldl (fun held side => withArtifact held side (artifact side)) held

theorem withArtifacts_of_not_mem (artifact : Side → Artifact) (held : Held) {sides : List Side}
    {key : String} (h : key ∉ keysOf sides) : withArtifacts artifact held sides key = held key := by
  induction sides generalizing held with
  | nil => rfl
  | cons side sides ih =>
    simp only [keysOf, List.flatMap_cons, List.mem_append, not_or] at h
    exact (ih _ h.2).trans (withArtifact_of_not_mem held h.1 _)

/-- A side keeps its artifacts while other sides are written. -/
theorem withArtifacts_of_mem (artifact : Side → Artifact) (held : Held) {sides : List Side}
    {side : Side} (h : side ∈ sides) :
    withArtifacts artifact held sides side.parametersKey
        = some (artifact side).parametersText ∧
      withArtifacts artifact held sides side.expressionKey = some (artifact side).expression := by
  induction sides generalizing held with
  | nil => cases h
  | cons first sides ih =>
    by_cases hlater : side ∈ sides
    · exact ih _ hlater
    · obtain rfl : side = first := (List.mem_cons.mp h).resolve_right hlater
      have hkeys : ∀ key ∈ keys side, key ∉ keysOf sides := by
        intro key hkey hmem
        obtain ⟨other, hother, hk⟩ := List.mem_flatMap.mp hmem
        have hne : side ≠ other := by
          rintro rfl
          exact hlater hother
        exact not_mem_keys_of_ne hne key hkey hk
      constructor
      · rw [withArtifacts, List.foldl_cons, ← withArtifacts,
          withArtifacts_of_not_mem _ _ (hkeys _ (by simp [keys])), withArtifact_parametersKey]
      · rw [withArtifacts, List.foldl_cons, ← withArtifacts,
          withArtifacts_of_not_mem _ _ (hkeys _ (by simp [keys])), withArtifact_expressionKey]

end Archive

namespace Command

variable {σ : Type} [KeyValue σ] {r : Reliable σ} {c : Configuration}

/-! ### Compiling sides -/

/-- What is left to do for a side once its session is open. -/
theorem computes_applyAll_save (side : Side) (s : Session) (es : List Edit) :
    r.Computes (do
        let session ← s.applyAll es
        session.save
        Action.log (.compiled side session.compiled.expression)
        return session.compiled)
      (fun _ => (s.follow es).compiled)
      (fun held => withArtifact (s.storedAll held es) (s.follow es).side
        (s.follow es).compiled) := by
  have hsave : ∀ session, session = s.follow es → r.Computes (do
        session.save
        Action.log (.compiled side session.compiled.expression)
        return session.compiled)
      (fun _ => (s.follow es).compiled)
      (fun held => withArtifact held (s.follow es).side (s.follow es).compiled) := by
    rintro _ rfl
    exact (s.follow es).computes_save.bind_const fun _ _ =>
      (Computes.log _).bind_const fun _ _ => .pure _
  exact (s.computes_applyAll es).bind_const hsave

theorem computes_compileSide {side : Side} {es : List Edit} (h : c.edits side = .ok es) :
    r.Computes (compileSide c side) (fun _ => (Draft.blank.applyAll es).compile)
      (fun held => withArtifact held side (Draft.blank.applyAll es).compile) := by
  have hstart (persisted? : Option Artifact) :
      ((Session.start side persisted?).follow es).side = side ∧
        ((Session.start side persisted?).follow es).compiled
          = (Draft.blank.applyAll es).compile := by
    have hsync := (Session.inSync_start side persisted?).follow es
    exact ⟨hsync.side, hsync.compiled.trans (by rw [Session.draft_follow]; rfl)⟩
  rw [compileSide, h]
  refine Computes.ofExcept_bind <| Computes.congr ((Computes.log _).bind_const fun _ _ =>
    (Session.computes_open side).bind fun s => computes_applyAll_save side s es) ?_ ?_
  · exact fun held => (hstart _).2
  · intro held
    obtain ⟨hside, hcompiled⟩ := hstart (artifactIn held side)
    simp only [id_eq, hcompiled, hside]
    exact Session.withArtifact_storedAll (Session.start side _) held es _

theorem computes_compileSides {artifact : Side → Artifact} {sides : List Side}
    (h : ∀ side ∈ sides, ∃ es, c.edits side = .ok es ∧
      artifact side = (Draft.blank.applyAll es).compile) :
    r.Computes (compileSides c sides) (fun _ => sides.map fun side => (side, artifact side))
      (fun held => Archive.withArtifacts artifact held sides) := by
  induction sides with
  | nil => exact .pure _
  | cons side sides ih =>
    obtain ⟨es, hes, hartifact⟩ := h side (List.mem_cons_self ..)
    have hside := computes_compileSide (r := r) hes
    rw [← hartifact] at hside
    have hothers := ih fun other hother => h other (List.mem_cons_of_mem _ hother)
    -- `bind_const` hands on a value of which it is only known what it equals
    have hlist : ∀ others, others = sides.map (fun side => (side, artifact side)) →
        r.Computes (pure ((side, artifact side) :: others))
          (fun _ => (side :: sides).map fun side => (side, artifact side)) id := by
      rintro _ rfl
      exact .pure _
    have hrest : ∀ a, a = artifact side → r.Computes (do
          let others ← compileSides c sides
          return (side, a) :: others)
        (fun _ => (side :: sides).map fun side => (side, artifact side))
        (fun held => Archive.withArtifacts artifact held sides) := by
      rintro _ rfl
      exact hothers.bind_const hlist
    exact hside.bind_const hrest

end Command

/-! ### Storing the selection -/

namespace Configuration

variable {c : Configuration}

/-- The window that is stored: the configured one, or the default one beside a ticker. -/
def selectedDays? (c : Configuration) : Option Nat :=
  c.days?.or (c.ticker?.map fun _ => Selection.defaultDays)

/-- What a store holds once the configured selection was stored. -/
def withSelection (c : Configuration) (held : Held) : Held :=
  c.selectedDays?.elim held (Selection.withSelection held c.ticker?)

theorem filter_ticker? (c : Configuration) : c.ticker?.filter (!·.isEmpty) = c.ticker? := by
  rw [ticker?, Option.filter_filter]
  simp

/-- Where no window is stored, there is no ticker to store either. -/
theorem ticker?_eq_none (h : c.selectedDays? = none) : c.ticker? = none := by
  rw [selectedDays?, Option.or_eq_none_iff] at h
  simpa using h.2

theorem withSelection_days (c : Configuration) (held : Held) :
    c.withSelection held Selection.daysKey
      = (c.selectedDays?.map Numeral.ofNat).or (held Selection.daysKey) := by
  rw [withSelection]
  cases c.selectedDays? with
  | none => rfl
  | some n => exact Selection.withSelection_days held c.ticker? n

theorem withSelection_ticker (c : Configuration) (held : Held) :
    ∀ key ∈ Selection.tickerKeys, c.withSelection held key = c.ticker?.or (held key) := by
  intro key hkey
  rw [withSelection]
  cases hdays : c.selectedDays? with
  | none =>
    rw [ticker?_eq_none hdays]
    rfl
  | some n =>
    refine (Selection.withSelection_ticker held c.ticker? n key hkey).trans ?_
    rw [filter_ticker?]

theorem withSelection_of_not_mem (c : Configuration) (held : Held) {key : String}
    (h : key ∉ Selection.keys) : c.withSelection held key = held key := by
  rw [withSelection]
  cases c.selectedDays? with
  | none => rfl
  | some n => exact Selection.withSelection_of_not_mem held c.ticker? n h

end Configuration

namespace Command

variable {σ : Type} [KeyValue σ] {r : Reliable σ} {c : Configuration}

theorem computes_storeSelection (h : c.Accepted) :
    r.Computes (storeSelection c) (fun _ => ()) c.withSelection := by
  have hdays : c.selectedDays? = if c.ticker?.isSome || c.days?.isSome then
      some (c.days?.getD Selection.defaultDays) else none := by
    rw [Configuration.selectedDays?]
    cases c.days? <;> cases c.ticker? <;> rfl
  rw [storeSelection, h.configured_eq]
  simp only
  split
  · rename_i hsome
    rw [if_pos hsome] at hdays
    refine (Selection.computes_store _ _).congr (fun _ => rfl) fun held => ?_
    rw [Configuration.withSelection, hdays]
    rfl
  · rename_i hnone
    rw [if_neg hnone] at hdays
    refine (Computes.pure ()).congr (fun _ => rfl) fun held => ?_
    rw [Configuration.withSelection, hdays]
    rfl

/-! ### What compiling leaves -/

/-- The sides that a filter lets through. -/
def sidesOf (side? : Option Side) : List Side := (side?.map fun side => [side]).getD Side.all

/-- What a store holds after compiling sides, by what it held before. Each of the sides
has the artifacts of its configured draft. The keys of the ticker have the configured
one if there is one, and the key of the window has the configured one, or the default
one beside a ticker. No other key was touched. -/
structure Compiled (c : Configuration) (sides : List Side) (before after : Held) : Prop where
  artifacts : ∀ side ∈ sides, ∃ d, c.draft side = .ok d ∧
    after side.parametersKey = some d.compile.parametersText ∧
    after side.expressionKey = some d.compile.expression
  ticker : ∀ key ∈ Selection.tickerKeys, after key = c.ticker?.or (before key)
  days : after Selection.daysKey
    = (c.selectedDays?.map Numeral.ofNat).or (before Selection.daysKey)
  others : ∀ key, key ∉ Selection.keys → key ∉ Archive.keysOf sides → after key = before key

namespace Compiled

variable {sides : List Side} {before after last : Held}

/-- A selection has other keys than the sides. -/
theorem not_mem_keysOf (sides : List Side) :
    ∀ key ∈ Selection.keys, key ∉ Archive.keysOf sides := by
  have hall : ∀ side : Side, ∀ key ∈ Selection.keys, key ∉ Archive.keys side := by
    intro side
    cases side <;> decide
  intro key hkey hmem
  obtain ⟨side, -, hk⟩ := List.mem_flatMap.mp hmem
  exact hall side key hkey hk

/-- Compiling again changes nothing. -/
theorem eq_of_compiled (h : Compiled c sides before after) (h' : Compiled c sides after last) :
    last = after := by
  funext key
  by_cases hside : key ∈ Archive.keysOf sides
  · obtain ⟨side, hmem, hk⟩ := List.mem_flatMap.mp hside
    obtain ⟨d, hd, hp, he⟩ := h.artifacts side hmem
    obtain ⟨d', hd', hp', he'⟩ := h'.artifacts side hmem
    obtain rfl : d = d' := Except.ok.inj (hd.symm.trans hd')
    simp only [Archive.keys, List.mem_cons, List.not_mem_nil, or_false] at hk
    rcases hk with rfl | rfl
    · rw [hp, hp']
    · rw [he, he']
  · by_cases hkey : key ∈ Selection.keys
    · rcases List.mem_append.mp hkey with hkey | hkey
      · rw [h'.ticker key hkey, h.ticker key hkey, ← Option.or_assoc, Option.or_self]
      · rw [List.mem_singleton.mp hkey, h'.days, h.days, ← Option.or_assoc, Option.or_self]
    · exact h'.others key hkey hside

end Compiled

/-- Storing the selection and then the artifacts of sides does all that compiling should. -/
theorem compiled_withArtifacts {artifact : Side → Artifact} {sides : List Side}
    (h : ∀ side ∈ sides, ∃ d, c.draft side = .ok d ∧ artifact side = d.compile) (held : Held) :
    Compiled c sides held (Archive.withArtifacts artifact (c.withSelection held) sides) where
  artifacts := by
    intro side hside
    obtain ⟨d, hd, hartifact⟩ := h side hside
    obtain ⟨hp, he⟩ := Archive.withArtifacts_of_mem artifact (c.withSelection held) hside
    exact ⟨d, hd, hartifact ▸ hp, hartifact ▸ he⟩
  ticker := by
    intro key hkey
    have hmem : key ∈ Selection.keys := List.mem_append_left _ hkey
    rw [Archive.withArtifacts_of_not_mem _ _ (Compiled.not_mem_keysOf sides key hmem),
      c.withSelection_ticker held key hkey]
  days := by
    have hmem : Selection.daysKey ∈ Selection.keys := by decide
    rw [Archive.withArtifacts_of_not_mem _ _ (Compiled.not_mem_keysOf sides _ hmem),
      c.withSelection_days]
  others := by
    intro key hkey hside
    rw [Archive.withArtifacts_of_not_mem _ _ hside, c.withSelection_of_not_mem held hkey]

/-- **Compiling into a store** that does not fail succeeds and does what it should. -/
theorem exists_computes_compileAll (r : Reliable σ) (h : c.Accepted) (side? : Option Side) :
    ∃ artifacts effect, r.Computes (compileAll c side?) (fun _ => artifacts) effect ∧
      ∀ held, Compiled c (sidesOf side?) held (effect held) := by
  have hdraft : ∀ side, ∃ es, c.edits side = .ok es ∧
      c.draft side = .ok (Draft.blank.applyAll es) := h.exists_draft
  choose edits hedits hdrafts using hdraft
  have hartifacts : ∀ side ∈ sidesOf side?, ∃ es, c.edits side = .ok es ∧
      (Draft.blank.applyAll (edits side)).compile = (Draft.blank.applyAll es).compile :=
    fun side _ => ⟨edits side, hedits side, rfl⟩
  have hsides := computes_compileSides (r := r) hartifacts
  exact ⟨_, _, (computes_storeSelection h).bind_const fun _ _ => hsides,
    compiled_withArtifacts fun side _ => ⟨_, hdrafts side, rfl⟩⟩

/-- What was compiled goes into the request. -/
theorem artifact_of_compiled {sides : List Side} {before after : Held}
    (h : Compiled c sides before after) (given : Selection) : ∀ side ∈ sides,
      ∃ d, c.draft side = .ok d ∧ (Request.requestIn after given).artifact side = d.compile := by
  intro side hside
  obtain ⟨d, hd, hp, he⟩ := h.artifacts side hside
  exact ⟨d, hd, Request.artifact_requestIn_of_compile hp he given⟩

end Command
end IndicatorStrategy
