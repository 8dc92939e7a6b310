/-
Explaining a script and running it.

Both go through the submissions in order, and at all but one kind of submission they
do the same: the fragments take the text, and the engine stays as it is.  The
exception is a submission that leaves a definition over.  Running submits it once;
explaining submits it once to report on it and once more to let it take effect, and
the second time the fragments are already those the first time left behind.  So the
two agree exactly if no definition comes out differently when it is submitted again:
`Repeatable` says that of a run.
-/
import Mathlib.Control.Monad.Basic
import Stencil.Proofs.Engine.Operation
import Stencil.Proofs.Environment.Entry
import Stencil.Proofs.Environment.Submission
import Stencil.Proofs.Fragment.Submission

namespace Stencil.Environment

open Run

variable {env env' : Environment Planning.State} {details : List Plan.Detail}
  {text sql : String}

/-! ### Submissions that leave a definition over -/

/-- The only statement of a text is a definition. -/
def IsDefinition (c : Catalog) (sql : String) : Prop :=
  ∃ op, Planning.parse c sql = .ok [op] ∧ op.kind = .other

/-- What is left over of a submission is a definition. -/
def LeavesDefinition (env : Environment Planning.State) (text : String) : Prop :=
  ∃ sql env', submit text env = (.ok (.statement sql), env')
    ∧ IsDefinition env'.engine.catalog sql

/-! ### Running one submission -/

/-- A statement other than a definition leaves the engine as it is. -/
theorem execute_state_of_not_definition {s : Planning.State}
    (h : ¬ IsDefinition s.catalog sql) : (Planning.execute sql s).2 = s := by
  cases hsingle : Planning.single s.catalog .execute sql with
  | error e => rw [Planning.execute_of_error hsingle]
  | ok op =>
      rw [Planning.execute_of_ok hsingle]
      have hkind : op.kind ≠ .other := by
        intro hother
        exact h ⟨op, Planning.single_eq_ok.mp hsingle, hother⟩
      exact Planning.reads_run hkind s

theorem execute_of_not_leavesDefinition (h : ¬ LeavesDefinition env text) :
    (execute Planning.engine text env).2 = (submit text env).2 := by
  cases hsub : submit text env with
  | mk result env₁ =>
      cases result with
      | error e => rw [execute_of_error hsub]
      | ok left =>
          cases left with
          | definitions => rw [execute_of_definitions hsub]
          | listing sql => rw [execute_of_listing hsub]
          | statement sql =>
              have hsql : ¬ IsDefinition env₁.engine.catalog sql := by
                intro hdef
                exact h ⟨sql, env₁, hsub, hdef⟩
              rw [execute_of_statement hsub]
              exact onEngine_of_unchanged (execute_state_of_not_definition hsql)

/-! ### Reporting on one submission -/

theorem reads_ofOperations (text : String) (details : List Plan.Detail)
    (ops : List Planning.Operation) :
    Reads (Report.ofOperations Planning.engine text details ops) := by
  rcases ops with _ | ⟨op, _ | ⟨op', rest⟩⟩
  · exact reads_throw _
  · show Reads (Report.ofOperation Planning.engine text details op)
    unfold Report.ofOperation
    dsimp only
    split
    · exact (reads_read _).bind fun _ => reads_pure _
    · exact reads_pure _
  · exact reads_throw _

/-- What is reported on what the fragments leave over. -/
def reporting (text : String) (details : List Plan.Detail) (sql : String) :
    Run Planning.State Report :=
  Planning.engine.parse sql >>= Report.ofOperations Planning.engine text details

theorem reads_reporting (text : String) (details : List Plan.Detail) (sql : String) :
    Reads (reporting text details sql) :=
  (reads_read _).bind fun _ => reads_ofOperations _ _ _

theorem reporting_of_parse {s : Planning.State} {ops : List Planning.Operation}
    (h : Planning.parse s.catalog sql = .ok ops) :
    reporting text details sql s = Report.ofOperations Planning.engine text details ops s :=
  read_bind_of_ok (f := fun s : Planning.State => Planning.parse s.catalog sql) h _

/-- The report on an operation names its kind. -/
theorem ofOperation_kind {op : Planning.Operation} {s : Planning.State} {r : Report}
    (h : (Report.ofOperation Planning.engine text details op s).1 = .ok r) :
    r.kind = some (.ofOperation op.kind) := by
  by_cases hkind : op.kind = .other
  · rw [Planning.ofOperation_of_definition hkind] at h
    cases h
    rw [hkind]
    rfl
  · rw [Planning.ofOperation_of_explainable hkind] at h
    obtain ⟨explanation, -, rfl⟩ := map_eq_ok.mp h
    rfl

/-- The report on a definition says so. -/
theorem reporting_of_definition (text : String) (details : List Plan.Detail)
    {s : Planning.State} (h : IsDefinition s.catalog sql) :
    ∃ explanation, reporting text details sql s
      = (.ok (.success text .definition explanation), s) := by
  obtain ⟨op, hparse, hkind⟩ := h
  refine ⟨op.summary, ?_⟩
  rw [reporting_of_parse hparse]
  exact Planning.ofOperation_of_definition hkind s

/-- What is reported to be a definition is one. -/
theorem isDefinition_of_reporting {s : Planning.State} {r : Report}
    (h : (reporting text details sql s).1 = .ok r) (hkind : r.kind = some .definition) :
    IsDefinition s.catalog sql := by
  cases hparse : Planning.parse s.catalog sql with
  | error e =>
      have hread : reporting text details sql s = (.error e, s) :=
        read_bind_of_error (f := fun s : Planning.State => Planning.parse s.catalog sql) hparse _
      rw [hread] at h
      cases h
  | ok ops =>
      rw [reporting_of_parse hparse] at h
      rcases ops with _ | ⟨op, _ | ⟨op', rest⟩⟩
      · cases h
      · have hop : r.kind = some (.ofOperation op.kind) := ofOperation_kind h
        refine ⟨op, hparse, ?_⟩
        rw [hkind] at hop
        cases hother : op.kind with
        | other => rfl
        | modify => rw [hother] at hop; cases hop
        | query => rw [hother] at hop; cases hop
        | explain => rw [hother] at hop; cases hop
      · cases h

/-- The submission is reported to be a definition. -/
def RecordedAsDefinition (details : List Plan.Detail) (env : Environment Planning.State)
    (text : String) : Prop :=
  ∃ r, (report Planning.engine text details env).1 = .ok r ∧ r.kind = some .definition

theorem report_state (details : List Plan.Detail) (env : Environment Planning.State)
    (text : String) : (report Planning.engine text details env).2 = (submit text env).2 := by
  cases hsub : submit text env with
  | mk result env₁ =>
      cases result with
      | error e => rw [report_of_error hsub]
      | ok left =>
          cases left with
          | definitions => rw [report_of_definitions hsub]
          | listing sql => rw [report_of_listing hsub]
          | statement sql =>
              rw [report_of_statement hsub]
              exact onEngine_of_unchanged (reads_reporting text details sql env₁.engine)

theorem report_of_definition (details : List Plan.Detail)
    (hsub : submit text env = (.ok (.statement sql), env'))
    (hdef : IsDefinition env'.engine.catalog sql) :
    ∃ explanation, report Planning.engine text details env
      = (.ok (.success text .definition explanation), env') := by
  obtain ⟨explanation, hreport⟩ := reporting_of_definition text details hdef
  refine ⟨explanation, ?_⟩
  rw [report_of_statement hsub]
  exact onEngine_of_eq hreport

/-- Exactly the definitions are reported to be definitions. -/
theorem recordedAsDefinition_iff :
    RecordedAsDefinition details env text ↔ LeavesDefinition env text := by
  constructor
  · rintro ⟨r, hr, hkind⟩
    cases hsub : submit text env with
    | mk result env₁ =>
        cases result with
        | error e =>
            rw [report_of_error hsub] at hr
            cases hr
        | ok left =>
            cases left with
            | definitions =>
                rw [report_of_definitions hsub] at hr
                cases hr
                cases hkind
            | listing sql =>
                rw [report_of_listing hsub] at hr
                cases hr
            | statement sql =>
                rw [report_of_statement hsub, onEngine_answer] at hr
                exact ⟨sql, env₁, hsub, isDefinition_of_reporting hr hkind⟩
  · rintro ⟨sql, env₁, hsub, hdef⟩
    obtain ⟨explanation, hreport⟩ := report_of_definition details hsub hdef
    exact ⟨_, by rw [hreport], rfl⟩

/-- A submission that leaves no definition over is only submitted when it is explained. -/
theorem reportOn_of_not_leavesDefinition (h : ¬ LeavesDefinition env text) :
    (reportOn Planning.engine details text env).2 = (submit text env).2 := by
  rw [← report_state details]
  cases hreport : report Planning.engine text details env with
  | mk result env₁ =>
      cases result with
      | error e => rw [reportOn_of_error hreport]
      | ok r =>
          have hkind : r.kind ≠ some .definition := fun hkind =>
            h (recordedAsDefinition_iff.mp ⟨r, by rw [hreport], hkind⟩)
          rw [reportOn_of_ok hreport hkind]

/-- A definition is run on what its submission left behind. -/
theorem reportOn_of_leavesDefinition (h : LeavesDefinition env text) :
    (reportOn Planning.engine details text env).2
      = (execute Planning.engine text (submit text env).2).2 := by
  obtain ⟨sql, env₁, hsub, hdef⟩ := h
  obtain ⟨explanation, hreport⟩ := report_of_definition details hsub hdef
  rw [reportOn_of_definition hreport rfl, hsub]
  rfl

/-! ### One submission explained and run -/

/-- The fragments and the catalog are the same. -/
def SameEffect (env env' : Environment Planning.State) : Prop :=
  env.fragments = env'.fragments ∧ env.engine.catalog = env'.engine.catalog

/-- Submitting a text again leaves over what it left over before, and changes no fragment. -/
def Repeats (env : Environment Planning.State) (text : String) : Prop :=
  submit text (submit text env).2 = submit text env

/-- A submission that repeats has the same effect on both ways. -/
theorem reportOn_state_of_repeats (h : LeavesDefinition env text → Repeats env text) :
    (reportOn Planning.engine details text env).2 = (execute Planning.engine text env).2 := by
  by_cases hdef : LeavesDefinition env text
  · rw [reportOn_of_leavesDefinition hdef, execute_congr (h hdef)]
  · rw [reportOn_of_not_leavesDefinition hdef, execute_of_not_leavesDefinition hdef]

/-- If the effect is the same and the statement that was run is the one that was explained, then
the submission repeats. -/
theorem repeats_of_sameEffect (hdef : LeavesDefinition env text)
    (heffect : SameEffect (reportOn Planning.engine details text env).2
      (execute Planning.engine text env).2)
    (htext : (submit text (submit text env).2).1 = (submit text env).1) : Repeats env text := by
  have hfragments := heffect.1
  rw [reportOn_of_leavesDefinition hdef, execute_fragments, execute_fragments] at hfragments
  have hstate : (submit text (submit text env).2).2 = (submit text env).2 := by
    rw [submit_state text (submit text env).2, hfragments]
  exact Prod.ext htext hstate

/-! ### Scripts explained and run -/

theorem executeAll_eq_ok {rest : List String} {results : List TableResult}
    (h : executeAll Planning.engine (text :: rest) env = (.ok results, env')) :
    ∃ result others env₁, execute Planning.engine text env = (.ok result, env₁)
      ∧ executeAll Planning.engine rest env₁ = (.ok others, env') := by
  obtain ⟨result, env₁, hrun, h⟩ := Run.bind_eq_ok.mp h
  obtain ⟨others, env₂, hrest, h⟩ := Run.bind_eq_ok.mp h
  obtain ⟨-, rfl⟩ := Prod.mk.inj h
  exact ⟨result, others, env₁, hrun, hrest⟩

theorem executeAll_cons {rest : List String} {result : TableResult}
    (h : execute Planning.engine text env = (.ok result, env')) :
    (executeAll Planning.engine (text :: rest) env).2
      = (executeAll Planning.engine rest env').2 := by
  rw [executeAll, bind_of_ok h]
  exact bind_pure_state _ _ _

/-- Every definition of a script is run, when the script is explained, as the text that it was
explained as. -/
def ExecutedAsExplained (details : List Plan.Detail) :
    Environment Planning.State → List String → Prop
  | _, [] => True
  | env, text :: rest =>
    (RecordedAsDefinition details env text
        → (submit text (submit text env).2).1 = (submit text env).1)
      ∧ ExecutedAsExplained details (reportOn Planning.engine details text env).2 rest

/-- Every definition of a script that is run repeats where it is submitted. -/
def Repeatable : Environment Planning.State → List String → Prop
  | _, [] => True
  | env, text :: rest =>
    (LeavesDefinition env text → Repeats env text)
      ∧ Repeatable (execute Planning.engine text env).2 rest

/-- Running and explaining have the same effect after every submission, each definition being run
as it was explained, if and only if every definition repeats. -/
theorem sameEffect_iff_repeatable (details : List Plan.Detail) (index : Nat) {texts : List String}
    {results : List TableResult}
    (h : executeAll Planning.engine texts env = (.ok results, env')) :
    (∀ n, SameEffect (reportFrom Planning.engine details index (texts.take n) env).2
        (executeAll Planning.engine (texts.take n) env).2)
      ∧ ExecutedAsExplained details env texts ↔ Repeatable env texts := by
  induction texts generalizing env index results with
  | nil =>
      refine ⟨fun _ => trivial, fun _ => ⟨fun n => ?_, trivial⟩⟩
      rw [List.take_nil]
      exact ⟨rfl, rfl⟩
  | cons text rest ih =>
      obtain ⟨result, others, env₁, hrun, hrest⟩ := executeAll_eq_ok h
      have hstep : (execute Planning.engine text env).2 = env₁ := by rw [hrun]
      rw [← hstep] at hrun hrest
      constructor
      · rintro ⟨hsame, htext, hexplained⟩
        have hone : SameEffect (reportOn Planning.engine details text env).2
            (execute Planning.engine text env).2 := by
          have := hsame 1
          rw [List.take_succ_cons, List.take_zero, reportFrom_cons, reportFrom_nil,
            executeAll_cons hrun] at this
          exact this
        have hrepeats : LeavesDefinition env text → Repeats env text := fun hdef =>
          repeats_of_sameEffect hdef hone (htext (recordedAsDefinition_iff.mpr hdef))
        refine ⟨hrepeats, (ih (index + 1) hrest).mp ⟨fun n => ?_, ?_⟩⟩
        · have := hsame (n + 1)
          rw [List.take_succ_cons, reportFrom_cons, executeAll_cons hrun,
            reportOn_state_of_repeats hrepeats] at this
          exact this
        · rw [reportOn_state_of_repeats hrepeats] at hexplained
          exact hexplained
      · rintro ⟨hrepeats, hrepeatable⟩
        obtain ⟨hsame, hexplained⟩ := (ih (index + 1) hrest).mpr hrepeatable
        refine ⟨fun n => ?_, fun hrecorded => ?_, ?_⟩
        · cases n with
          | zero => exact ⟨rfl, rfl⟩
          | succ n =>
              rw [List.take_succ_cons, reportFrom_cons, executeAll_cons hrun,
                reportOn_state_of_repeats hrepeats]
              exact hsame n
        · rw [hrepeats (recordedAsDefinition_iff.mp hrecorded)]
        · rw [reportOn_state_of_repeats hrepeats]
          exact hexplained

/-! ### Submissions that either define fragments or leave something over -/

/-- The statements of a submission are all definitions of fragments, or none of them is. -/
def Separate (text : String) : Prop :=
  (∀ p ∈ Fragment.Scan.statements text.toList, Fragment.isOrdinary p = true)
    ∨ (∀ p ∈ Fragment.Scan.statements text.toList, Fragment.isOrdinary p = false)

instance (text : String) : Decidable (Separate text) :=
  inferInstanceAs (Decidable (_ ∨ _))

theorem repeats_of_separate (hsep : Separate text) (hdef : LeavesDefinition env text) :
    Repeats env text := by
  obtain ⟨sql, env₁, hsub, -⟩ := hdef
  by_cases hon : env.substituting = true
  · cases hleft : env.fragments.submit text with
    | error e =>
        rw [submit_of_error hon hleft] at hsub
        cases hsub
    | ok left =>
        obtain ⟨left, r⟩ := left
        rcases hsep with hord | hdefs
        · -- No fragment changed, so the second submission is the first.
          obtain rfl := Fragment.Registry.registry_submit hord hleft
          unfold Repeats
          rw [submit_of_ok hon hleft]
          exact submit_of_ok hon hleft
        · obtain rfl := Fragment.Registry.submit_of_definitions hdefs hleft
          rw [submit_of_ok hon hleft] at hsub
          cases hsub
  · have hoff := submit_of_off (Bool.eq_false_iff.mpr hon) text
    unfold Repeats
    rw [hoff, hoff]

theorem repeatable_of_separate {texts : List String} (hsep : ∀ text ∈ texts, Separate text)
    (env : Environment Planning.State) : Repeatable env texts := by
  induction texts generalizing env with
  | nil => trivial
  | cons text rest ih =>
      refine ⟨repeats_of_separate (hsep text List.mem_cons_self), ih ?_ _⟩
      intro other hother
      exact hsep other (List.mem_cons_of_mem _ hother)

/-! ### Whole scripts -/

theorem executeScript_apply (script : String) (env : Environment Planning.State) :
    executeScript Planning.engine script env
      = executeAll Planning.engine (env.submissions script) env := rfl

theorem explainScript_of_repeatable {script : String} {results : List TableResult}
    (h : executeScript Planning.engine script env = (.ok results, env'))
    (hrepeatable : Repeatable env (env.submissions script)) :
    SameEffect (explainScript Planning.engine script details env).2 env' := by
  rw [executeScript_apply] at h
  rw [explainScript_apply]
  have hsame := ((sameEffect_iff_repeatable details 1 h).mpr hrepeatable).1
    (env.submissions script).length
  rw [List.take_length, h] at hsame
  exact hsame

/-- A script whose submissions either define fragments or leave something over is explained with
the effect of running it. -/
theorem explainScript_of_separate {script : String} {results : List TableResult}
    (h : executeScript Planning.engine script env = (.ok results, env'))
    (hsep : ∀ text ∈ env.submissions script, Separate text) :
    SameEffect (explainScript Planning.engine script details env).2 env' :=
  explainScript_of_repeatable h (repeatable_of_separate hsep env)

/--
**A script that runs is explained with the effect of running it if its definitions repeat.**
And only then do both have the same effect however far they get, with every definition run
as the text that it was explained as.
-/
theorem explainScript_sameEffect_iff {script : String} {results : List TableResult}
    (h : executeScript Planning.engine script env = (.ok results, env'))
    (details : List Plan.Detail) :
    (Repeatable env (env.submissions script) →
        SameEffect (explainScript Planning.engine script details env).2 env'
          ∧ ExecutedAsExplained details env (env.submissions script))
      ∧ ((∀ n, SameEffect
            (reportFrom Planning.engine details 1 ((env.submissions script).take n) env).2
            (executeAll Planning.engine ((env.submissions script).take n) env).2)
          ∧ ExecutedAsExplained details env (env.submissions script)
        ↔ Repeatable env (env.submissions script)) := by
  have hiff := sameEffect_iff_repeatable details 1 h
  refine ⟨fun hrepeatable => ?_, hiff⟩
  exact ⟨explainScript_of_repeatable h hrepeatable, (hiff.mpr hrepeatable).2⟩

/-- An environment without tables in which the fragment `x` stands for `a`. -/
def named : Environment Planning.State :=
  { Environment.new ⟨.new "default_catalog" "default_database", 1⟩ with
    fragments := ⟨[("x", "a")]⟩ }

/-- The table is named by a fragment, which then comes to name the column. -/
theorem explainScript_table_then_column :
    ∃ env', executeScript Planning.engine
          "CREATE TABLE ${x} (i INT);\nx := i;\nSELECT ${x} FROM a" named
        = (.ok [.ok, .ok, .withRows [⟨"i", "INT"⟩] []], env')
      ∧ SameEffect (explainScript Planning.engine
          "CREATE TABLE ${x} (i INT);\nx := i;\nSELECT ${x} FROM a" [] named).2 env' := by
  have hrun : (executeScript Planning.engine
        "CREATE TABLE ${x} (i INT);\nx := i;\nSELECT ${x} FROM a" named).1
      = .ok [.ok, .ok, .withRows [⟨"i", "INT"⟩] []] := by decide +kernel
  have hsep : ∀ text ∈ named.submissions
      "CREATE TABLE ${x} (i INT);\nx := i;\nSELECT ${x} FROM a", Separate text := by
    decide +kernel
  have h := eq_of_answer hrun
  exact ⟨_, h, ((explainScript_sameEffect_iff h []).1 (repeatable_of_separate hsep named)).1⟩

/-- The fragment changes in the submission that names the table by it. -/
theorem explainScript_table_then_rename :
    ∃ results env', executeScript Planning.engine "CREATE TABLE ${x} (i INT); x := b" named
        = (.ok results, env')
      ∧ ¬ SameEffect (explainScript Planning.engine "CREATE TABLE ${x} (i INT); x := b" []
          named).2 env' := by
  have hrun : (executeScript Planning.engine "CREATE TABLE ${x} (i INT); x := b" named).1
      = .ok [.ok] := by decide +kernel
  have hran : (executeScript Planning.engine "CREATE TABLE ${x} (i INT); x := b"
      named).2.engine.catalog.objectNames = ["a"] := by decide +kernel
  have hexplained : (explainScript Planning.engine "CREATE TABLE ${x} (i INT); x := b" []
      named).2.engine.catalog.objectNames = ["b"] := by decide +kernel
  refine ⟨_, _, eq_of_answer hrun, ?_⟩
  rintro ⟨-, hcatalog⟩
  rw [hcatalog, hran] at hexplained
  exact absurd hexplained (by decide)

end Stencil.Environment
