import Mathlib
import IndicatorStrategy.Proofs.Session.Run
/-!
# IndicatorStrategy.Proofs.Session.Pair

**Pairs of stored artifacts.** The two artifacts of a side are stored by two writes, and
a store may refuse the second one after it accepted the first. Then the side holds the
parameters of a new draft beside the expression of an older one, and nothing undoes that:
the session goes on, and the pair stays apart until a write of both is accepted.

So each of two artifacts that are read was compiled from a draft that a session had, and
both from the same draft unless the side is torn: the last write that was accepted there
was one of parameters.
-/

namespace IndicatorStrategy

/-! ### The record of a side -/

namespace Recorded

variable {σ : Type} [KeyValue σ]

/-- The last write under a key of a side that was accepted is one of parameters, so the
expression that belongs to them was refused. -/
def IsTorn (side : Side) (w : Recorded σ) : Prop :=
  (w.lastAccepted? [side.parametersKey, side.expressionKey]).map (·.key)
    = some side.parametersKey

/-- A write that is refused leaves the record of what was accepted as it was. -/
theorem lastAccepted?_of_refused {w : Recorded σ} {key value : String} {e : Failure}
    (h : (KeyValue.set w key value).1 = .error e) (keys : List String) :
    (KeyValue.set w key value).2.lastAccepted? keys = w.lastAccepted? keys := by
  rw [set_eq] at h ⊢
  simp only at h
  rw [lastAccepted?, h]
  exact List.find?_cons_of_neg (by simp [Except.isOk, Except.toBool])

theorem lastAccepted?_of_accepted {w : Recorded σ} {key value : String}
    (h : (KeyValue.set w key value).1 = .ok ()) {keys : List String} (hkey : key ∈ keys) :
    (KeyValue.set w key value).2.lastAccepted? keys = some ⟨key, value, true⟩ := by
  rw [set_eq] at h ⊢
  simp only at h
  rw [lastAccepted?, h]
  exact List.find?_cons_of_pos (by simpa [Except.isOk, Except.toBool] using hkey)

end Recorded

namespace Archive

theorem eq_of_stored_update {contents : String → Option String} {key value text : String}
    (h : stored (Function.update contents key (some value)) key = some text) : text = value := by
  rw [stored, Function.update_self, Option.filter_eq_some_iff] at h
  exact (Option.some.inj h.1).symm

theorem stored_update_of_ne (contents : String → Option String) {key other : String}
    (h : other ≠ key) (value : String) :
    stored (Function.update contents key (some value)) other = stored contents other := by
  rw [stored, Function.update_of_ne h, stored]

end Archive

/-! ### What the stored texts are compiled from -/

namespace Session

open Archive (stored)
open KeyValue (Faithful)

variable {σ : Type} [KeyValue σ]

/-- The texts that a side holds are compiled from drafts of a kind, and both from the
same draft unless the side is torn. -/
structure Traces (f : Faithful σ) (side : Side) (D : Draft → Prop) (w : Recorded σ) : Prop where
  works : f.Works w.store
  parameters : ∀ text, stored (f.contents w.store) side.parametersKey = some text →
    ∃ d, D d ∧ text = d.compile.parametersText
  expression : ∀ text, stored (f.contents w.store) side.expressionKey = some text →
    ∃ d, D d ∧ text = d.compile.expression
  pair : ¬ w.IsTorn side → ∀ parameters expression,
    stored (f.contents w.store) side.parametersKey = some parameters →
    stored (f.contents w.store) side.expressionKey = some expression →
    ∃ d, D d ∧ parameters = d.compile.parametersText ∧ expression = d.compile.expression

namespace Traces

variable {f : Faithful σ} {side : Side} {D : Draft → Prop} {w : Recorded σ}

/-- A store that holds the same texts and accepted the same writes traces them too. -/
theorem of_same (h : Traces f side D w) {w' : Recorded σ} (hworks : f.Works w'.store)
    (hcontents : f.contents w'.store = f.contents w.store)
    (htorn : w'.IsTorn side ↔ w.IsTorn side) : Traces f side D w' where
  works := hworks
  parameters := hcontents ▸ h.parameters
  expression := hcontents ▸ h.expression
  pair := fun hnot => hcontents ▸ h.pair (fun ht => hnot (htorn.mpr ht))

theorem get (h : Traces f side D w) (key : String) :
    Traces f side D (KeyValue.get w key).2 :=
  h.of_same (f.get_works h.works key) (f.get_contents h.works key) Iff.rfl

theorem refused (h : Traces f side D w) {key value : String} {e : Failure}
    (hset : (KeyValue.set w key value).1 = .error e) :
    Traces f side D (KeyValue.set w key value).2 :=
  h.of_same (f.set_works h.works key value) (f.set_refused h.works key value hset)
    (by rw [Recorded.IsTorn, Recorded.lastAccepted?_of_refused hset, Recorded.IsTorn])

/-- Parameters that are accepted tear the side. -/
theorem parameters_accepted (h : Traces f side D w) {d : Draft} (hd : D d)
    (hset : (KeyValue.set w side.parametersKey d.compile.parametersText).1 = .ok ()) :
    Traces f side D (KeyValue.set w side.parametersKey d.compile.parametersText).2 := by
  have hcontents := f.set_accepted h.works side.parametersKey d.compile.parametersText hset
  have hkeys := (Archive.parametersKey_ne_expressionKey side).symm
  refine ⟨f.set_works h.works _ _, fun text ht => ⟨d, hd, ?_⟩, fun text ht => ?_, fun hnot => ?_⟩
  · exact Archive.eq_of_stored_update (hcontents ▸ ht)
  · refine h.expression text ?_
    rwa [Recorded.set_eq, hcontents, Archive.stored_update_of_ne _ hkeys] at ht
  -- between the two writes the pair counts as torn, so nothing is promised of it
  · refine absurd ?_ hnot
    rw [Recorded.IsTorn, Recorded.lastAccepted?_of_accepted hset (List.mem_cons_self ..)]
    rfl

/-- The expression that belongs to the parameters mends it. -/
theorem expression_accepted {d : Draft} (h : Traces f side D w) (hd : D d)
    (hset : (KeyValue.set w side.expressionKey d.compile.expression).1 = .ok ())
    (hp : ∀ text, stored (f.contents w.store) side.parametersKey = some text →
      text = d.compile.parametersText) :
    Traces f side D (KeyValue.set w side.expressionKey d.compile.expression).2 := by
  have hcontents := f.set_accepted h.works side.expressionKey d.compile.expression hset
  have hkeys := Archive.parametersKey_ne_expressionKey side
  have hparameters : ∀ text,
      stored (f.contents (KeyValue.set w side.expressionKey d.compile.expression).2.store)
        side.parametersKey = some text → text = d.compile.parametersText := by
    intro text ht
    rw [Recorded.set_eq, hcontents, Archive.stored_update_of_ne _ hkeys] at ht
    exact hp text ht
  have hexpression : ∀ text,
      stored (f.contents (KeyValue.set w side.expressionKey d.compile.expression).2.store)
        side.expressionKey = some text → text = d.compile.expression :=
    fun text ht => Archive.eq_of_stored_update (hcontents ▸ ht)
  exact ⟨f.set_works h.works _ _, fun text ht => ⟨d, hd, hparameters text ht⟩,
    fun text ht => ⟨d, hd, hexpression text ht⟩,
    fun _ p e hp he => ⟨d, hd, hparameters p hp, hexpression e he⟩⟩

/-- **A write of a draft** keeps the traces, whatever of it is refused. -/
theorem write (h : Traces f side D w) {d : Draft} (hd : D d) :
    Traces f side D ((Archive.write side d.compile).run w).store := by
  rcases Archive.write_cases w side d.compile with
    ⟨e, hp, hrun⟩ | ⟨hp, w', rfl, ⟨e, he, hrun⟩ | ⟨he, hrun⟩⟩ <;> rw [hrun]
  · exact h.refused hp
  · exact (h.parameters_accepted hd hp).refused he
  · refine (h.parameters_accepted hd hp).expression_accepted hd he fun text ht => ?_
    have hcontents := f.set_accepted h.works side.parametersKey d.compile.parametersText hp
    exact Archive.eq_of_stored_update (hcontents ▸ ht)

/-- What is read was compiled from drafts of the kind. -/
theorem of_read (h : Traces f side D w) {c : Artifact}
    (hread : ((Archive.read side).run w).result = .ok (some c)) :
    ∃ d d', D d ∧ D d' ∧ c.parameters = d.compile.parameters ∧
      c.expression = d'.compile.expression ∧ (¬ w.IsTorn side → d = d') := by
  rw [Archive.result_read_of_faithful (Recorded.faithful f) h.works, Except.ok.injEq] at hread
  obtain ⟨text, hp, he, hdecode⟩ := Archive.exists_of_artifactIn hread
  have hparameters {d : Draft} (ht : text = d.compile.parametersText) :
      c.parameters = d.compile.parameters := by
    rw [ht, d.listOfText_compile] at hdecode
    exact (Except.ok.inj hdecode).symm
  by_cases htorn : w.IsTorn side
  · obtain ⟨d, hd, ht⟩ := h.parameters text hp
    obtain ⟨d', hd', he'⟩ := h.expression _ he
    exact ⟨d, d', hd, hd', hparameters ht, he', fun hnot => absurd htorn hnot⟩
  · obtain ⟨d, hd, ht, he'⟩ := h.pair htorn _ _ hp he
    exact ⟨d, d, hd, hd, hparameters ht, he', fun _ => rfl⟩

end Traces

/-! ### Runs -/

/-- **What is read after a run.** Whatever writes a store refuses, if the side held no
artifact at first and artifacts are read after some turns of its sessions, then each of
the two was compiled from a draft that a session had, and both from the same draft
unless the last accepted write of the side was one of parameters. -/
theorem read_takeAll (f : Faithful σ) {s : σ} (hworks : f.Works s) {side : Side}
    (hnone : ∀ key ∈ [side.parametersKey, side.expressionKey], stored (f.contents s) key = none)
    (turns : List Turn) {c : Artifact}
    (hread : ((Archive.read side).run
      ((takeAll side [] turns).run (Recorded.start s)).store).result = .ok (some c)) :
    ∃ d d', d ∈ draftsHad [] turns ∧ d' ∈ draftsHad [] turns ∧
      c.parameters = d.compile.parameters ∧ c.expression = d'.compile.expression ∧
      (¬ ((takeAll side [] turns).run (Recorded.start s)).store.IsTorn side → d = d') := by
  have hp : stored (f.contents s) side.parametersKey = none := hnone _ (by simp)
  have he : stored (f.contents s) side.expressionKey = none := hnone _ (by simp)
  have hstart : Traces f side (· ∈ draftsHad [] turns) (Recorded.start s) :=
    ⟨hworks, by simp [Recorded.start, hp], by simp [Recorded.start, he],
      by simp [Recorded.start, hp]⟩
  refine Traces.of_read (store_takeAll (P := Traces f side (· ∈ draftsHad [] turns))
    (fun w key h => h.get key) (fun d hd w h => h.write hd) (by simp) turns ?_ hstart) hread
  exact fun d hd => hd

/-- Edits that choose one indicator and then another one. -/
def changingEdits : List Edit := [.change 0 0 (.kind "Sma"), .change 0 0 (.kind "Rsi")]

/-- Turns of a session that makes these edits one after the other. -/
def changingTurns : List Turn :=
  .opening :: changingEdits.map fun e => .step 0 (.apply e)

/-- The parameters of the second indicator beside the expression of the first. -/
def mismatched : Artifact :=
  ⟨(Draft.blank.applyAll changingEdits).parameterSets,
    (Draft.blank.applyAll (changingEdits.take 1)).expression⟩

/-- The answers of a store that refuses the expression of the second indicator. -/
def refusingLast : List Bool := [false, false, false, true]

theorem survives_mismatched : Archive.Survives mismatched :=
  Archive.survives_of_drafts _ (Draft.wellFormed_edited _).nonempty

theorem read_takeAll_changingTurns :
    ((∀ key ∈ [Side.buy.parametersKey, Side.buy.expressionKey],
        stored (Scripted.faithful.contents (Scripted.empty refusingLast)) key = none) ∧
      ((Archive.read .buy).run ((takeAll .buy [] changingTurns).run
        (Recorded.start (Scripted.empty refusingLast))).store).result = .ok (some mismatched)) ∧
    ∃ d d', d ∈ draftsHad [] changingTurns ∧ d' ∈ draftsHad [] changingTurns ∧
      mismatched.parameters = d.compile.parameters ∧
      mismatched.expression = d'.compile.expression ∧
      (¬ ((takeAll .buy [] changingTurns).run
        (Recorded.start (Scripted.empty refusingLast))).store.IsTorn .buy → d = d') := by
  have hnone : ∀ key ∈ [Side.buy.parametersKey, Side.buy.expressionKey],
      stored (Scripted.faithful.contents (Scripted.empty refusingLast)) key = none :=
    fun key _ => rfl
  have hstore : ((takeAll .buy [] changingTurns).run
      (Recorded.start (Scripted.empty refusingLast))).store.store.contents
        = [("buy", mismatched.parametersText), ("buy_exp", mismatched.expression)] := by
    decide +kernel
  have hread : ((Archive.read .buy).run ((takeAll .buy [] changingTurns).run
      (Recorded.start (Scripted.empty refusingLast))).store).result = .ok (some mismatched) := by
    refine Archive.result_read_eq_some (Recorded.faithful Scripted.faithful) survives_mismatched
      trivial ?_ ?_ <;> simp only [Recorded.faithful, Scripted.faithful, hstore] <;> rfl
  exact ⟨⟨hnone, hread⟩, read_takeAll Scripted.faithful trivial hnone changingTurns hread⟩

/-- **Torn pairs are read.** It is not so that both artifacts that are read are compiled
from the same draft that a session had. -/
theorem exists_read_mismatched :
    ¬ ∀ (refusals : List Bool) (turns : List Turn) (c : Artifact),
      ((Archive.read .buy).run
        ((takeAll .buy [] turns).run (Scripted.empty refusals)).store).result = .ok (some c) →
      ∃ d ∈ draftsHad [] turns,
        c.parameters = d.compile.parameters ∧ c.expression = d.compile.expression := by
  intro h
  have hstore : ((takeAll .buy [] changingTurns).run
      (Scripted.empty refusingLast)).store.contents
        = [("buy", mismatched.parametersText), ("buy_exp", mismatched.expression)] := by
    decide +kernel
  have hread : ((Archive.read .buy).run ((takeAll .buy [] changingTurns).run
      (Scripted.empty refusingLast)).store).result = .ok (some mismatched) := by
    refine Archive.result_read_eq_some Scripted.faithful survives_mismatched
      trivial ?_ ?_ <;> simp only [Scripted.faithful, hstore] <;> rfl
  obtain ⟨d, hd, hparameters, hexpression⟩ := h refusingLast changingTurns mismatched hread
  -- no draft of the session has the second indicator in one artifact and the first in the other
  have hall : ∀ d ∈ draftsHad [] changingTurns,
      mismatched.parameters.map (·.key) = d.compile.parameters.map (·.key) →
        mismatched.expression ≠ d.compile.expression := by decide +kernel
  exact hall d hd (congrArg _ hparameters) hexpression

end Session
end IndicatorStrategy
