import Mathlib
import IndicatorStrategy.CommandLine.Run
import IndicatorStrategy.Proofs.Configuration.Accepted
import IndicatorStrategy.Proofs.Store.Blame
/-!
# IndicatorStrategy.Proofs.CommandLine.Refusal

**A refused configuration touches no store.** The command reads the configuration again
while it compiles, when the selection and perhaps a side are already stored. But what was
validated is not refused then: the edits of both sides can be made, and a store that fails
has a reason of its own (`blameless_compileAll`). So if the configuration is to blame, the
command ended before it opened the store (`runCompile_refused`).
-/

namespace IndicatorStrategy

variable {σ : Type} [KeyValue σ]

/-! ### Artifacts and sessions -/

namespace Archive

theorem blameless_write (h : KeyValue.Blameless σ) (side : Side) (artifact : Artifact) :
    (write side artifact : Action σ Unit).Blameless :=
  .bind (.set h _ _) fun _ => .bind (.set h _ _) fun _ => .log _

/-- Whatever cannot be read counts as not stored. -/
theorem blameless_lookUp (key : String) : (lookUp key : Action σ (Option String)).Blameless := by
  refine .bind (.attempt _) fun r => ?_
  cases r with
  | ok value? => exact .pure _
  | error e => exact .bind (.log _) fun _ => .pure _

theorem blameless_read (side : Side) : (read side : Action σ (Option Artifact)).Blameless := by
  refine .bind (blameless_lookUp _) fun parameters? => ?_
  cases parameters? with
  | none => exact .pure _
  | some parameters =>
    refine .bind (blameless_lookUp _) fun expression? => ?_
    cases expression? with
    | none => exact .pure _
    | some expression =>
      simp only [restore]
      split
      · exact .pure _
      · exact .bind (.log _) fun _ => .pure _

end Archive

namespace Session

theorem blameless_open (side : Side) : (Session.open side : Action σ Session).Blameless := by
  refine .bind (Archive.blameless_read side) fun persisted? => ?_
  cases persisted? with
  | none => exact .pure _
  | some a => exact .bind (.log _) fun _ => .pure _

/-- An edit is kept also if it cannot be stored. -/
theorem blameless_apply (s : Session) (e : Edit) : (s.apply e : Action σ Session).Blameless := by
  refine .bind (.log _) fun _ => .bind (.attempt _) fun r => ?_
  cases r with
  | ok => exact .pure _
  | error e => exact .bind (.log _) fun _ => .pure _

theorem blameless_applyAll (s : Session) (es : List Edit) :
    (s.applyAll es : Action σ Session).Blameless := by
  induction es generalizing s with
  | nil => exact .pure s
  | cons e es ih => exact .bind (s.blameless_apply e) fun next => ih next

end Session

theorem Selection.blameless_store (h : KeyValue.Blameless σ) (ticker? : Option String)
    (days : Nat) : (Selection.store ticker? days : Action σ Unit).Blameless := by
  unfold Selection.store
  split
  · exact .bind (.set h _ _) fun _ => .bind (.set h _ _) fun _ => .set h _ _
  · exact .bind (.pure _) fun _ => .set h _ _

/-! ### Compiling -/

namespace Command

variable {c : Configuration}

theorem blameless_storeSelection (h : KeyValue.Blameless σ) (c : Configuration) :
    (storeSelection c : Action σ Unit).Blameless := by
  unfold storeSelection
  simp only
  split
  · exact Selection.blameless_store h _ _
  · exact .pure _

theorem blameless_compileSide (h : KeyValue.Blameless σ) {side : Side} {es : List Edit}
    (hes : c.edits side = .ok es) : (compileSide c side : Action σ Artifact).Blameless := by
  rw [compileSide, hes]
  refine .bind (.ofExcept (.ok es)) fun _ => .bind (.log _) fun _ => ?_
  refine .bind (Session.blameless_open side) fun session => ?_
  refine .bind (session.blameless_applyAll _) fun session => ?_
  exact .bind (Archive.blameless_write h _ _) fun _ => .bind (.log _) fun _ => .pure _

theorem blameless_compileSides (h : KeyValue.Blameless σ)
    (hedits : ∀ side, ∃ es, c.edits side = .ok es) (sides : List Side) :
    (compileSides c sides : Action σ (List (Side × Artifact))).Blameless := by
  induction sides with
  | nil => exact .pure []
  | cons side sides ih =>
    obtain ⟨es, hes⟩ := hedits side
    exact .bind (blameless_compileSide h hes) fun _ => .bind ih fun _ => .pure _

/-- **Validated configurations are not refused any more.** Whatever else fails while one is
compiled, it is not to blame. -/
theorem blameless_compileAll (h : KeyValue.Blameless σ) (hvalid : c.validate = .ok ())
    (side? : Option Side) :
    (compileAll c side? : Action σ (List (Side × Artifact))).Blameless :=
  .bind (blameless_storeSelection h c) fun _ =>
    blameless_compileSides h (Configuration.validate_eq_ok_iff.mp hvalid).exists_edits _

theorem blameless_withStore {α : Type} {x : Action Workspace α} (hvalid : c.validate = .ok ())
    (hx : x.Blameless) : (c.withStore x).Blameless := by
  intro d
  have hopen := Configuration.blameless_openStore
    (Configuration.validate_eq_ok_iff.mp hvalid).store none d
  simp only [Action.run, Configuration.withStore]
  split
  · rename_i he
    exact .error (hopen.of_fst he)
  · exact hx _

theorem run_load (config : String) (d : Disk) :
    (Configuration.load config).run d
      = ⟨(d.readConfiguration config).mapError (.unreadable config), d,
          [.loadingConfiguration config]⟩ := rfl

/-- Loading a file that can be read comes to what its validation says. -/
theorem run_loadValidated_of_read {config : String} {d : Disk}
    (h : d.readConfiguration config = .ok c) :
    (Configuration.loadValidated config).run d
      = ⟨c.validate.map fun _ => c, d, [.loadingConfiguration config]⟩ := by
  have hload := run_load config d
  rw [h] at hload
  rw [Configuration.loadValidated, Action.run_bind_of_ok hload]
  cases c.validate <;> rfl

/-- Loading leaves the files alone, and what it comes to was validated. -/
theorem exists_run_loadValidated (config : String) (d : Disk) :
    ∃ r, (Configuration.loadValidated config).run d = ⟨r, d, [.loadingConfiguration config]⟩ ∧
      ∀ c, r = .ok c → c.validate = .ok () := by
  cases hread : d.readConfiguration config with
  | error fault =>
    have hload := run_load config d
    rw [hread] at hload
    exact ⟨_, Action.run_bind_of_error hload, fun c hc => nomatch hc⟩
  | ok c =>
    refine ⟨_, run_loadValidated_of_read hread, fun c' hc' => ?_⟩
    obtain ⟨_, hvalid, rfl⟩ := map_eq_ok_iff.mp hc'
    exact hvalid

/-- **A refused configuration touches no store.** If compiling ends with a failure that the
configuration is to blame for, then all it did was to load and to validate that: no store
was opened, so nothing was written, and the files are as they were. -/
theorem runCompile_refused {config : String} {side? : Option Side} {d : Disk} {e : Failure}
    (h : ((runCompile config side?).run d).result = .error e) (he : e.isConfiguration = true) :
    (Configuration.loadValidated config).run d
        = ⟨.error e, d, [.loadingConfiguration config]⟩ ∧
      (runCompile config side?).run d = ⟨.error e, d, [.loadingConfiguration config]⟩ := by
  obtain ⟨r, hload, hvalid⟩ := exists_run_loadValidated config d
  cases r with
  | error e' =>
    have hrun : (runCompile config side?).run d
        = ⟨.error e', d, [.loadingConfiguration config]⟩ := Action.run_bind_of_error hload
    rw [hrun] at h
    obtain rfl := Except.error.inj h
    exact ⟨hload, hrun⟩
  | ok c =>
    -- behind an accepted configuration no failure is one that it is to blame for
    have hcompile := blameless_withStore (hvalid c rfl)
      (blameless_compileAll Workspace.blameless (hvalid c rfl) side?)
    have hrest := hcompile.bind fun artifacts => Action.Blameless.pure
      (printed (.object (artifacts.map fun p => (p.1.wire, p.2.toJson))))
    rw [runCompile, Action.run_bind_of_ok hload] at h
    rw [hrest d e h] at he
    cases he

/-- A store with artifacts, and a configuration whose last section is refused. -/
def refusedFiles : Disk :=
  ⟨[(["store.json"], .file (JsonFile.render [("buy", "[]"), ("ticker", "ACME")])),
    (["strategy.ini"], .file
      ("[store]\npath = store.json\n[backtest]\nticker = EMCA\ndays = 7\n"
        ++ "[buy.1.1]\nkind = Sma\n[sell.1.1]\nkind = Rsi\ncompare_value = 30\n"))]⟩

theorem runCompile_refused_strayConstant :
    (((runCompile "strategy.ini" (some .buy)).run refusedFiles).result
        = .error (.invalid "sell.1.1" "compare_value" .strayConstant) ∧
      (Failure.invalid "sell.1.1" "compare_value" .strayConstant).isConfiguration = true) ∧
    (Configuration.loadValidated "strategy.ini").run refusedFiles
        = ⟨.error (.invalid "sell.1.1" "compare_value" .strayConstant), refusedFiles,
            [.loadingConfiguration "strategy.ini"]⟩ ∧
      (runCompile "strategy.ini" (some .buy)).run refusedFiles
        = ⟨.error (.invalid "sell.1.1" "compare_value" .strayConstant), refusedFiles,
            [.loadingConfiguration "strategy.ini"]⟩ := by
  have h : ((runCompile "strategy.ini" (some .buy)).run refusedFiles).result
      = .error (.invalid "sell.1.1" "compare_value" .strayConstant) := by
    decide +kernel
  exact ⟨⟨h, rfl⟩, runCompile_refused h rfl⟩

end Command
end IndicatorStrategy
