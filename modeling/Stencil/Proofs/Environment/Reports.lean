/-
What explaining a script tells of its submissions.

A report is made in one of three ways: of what cannot be explained, of what is explained
and left at that, and of a definition, which is run behind its explanation and may fail
then.  `Tells` is what all three have in common, and it is told of each submission in the
environment that the submissions before it leave behind, whether they failed or not
(`behind`).
-/
import Stencil.Engine.Planning
import Stencil.Proofs.Environment.Submission

namespace Stencil.Environment

open Run

variable {σ : Type} {engine : Engine σ} {details : List Plan.Detail} {env env' : Environment σ}
  {text explanation : String} {kind : Report.Kind} {r : Report} {e : Error}

/-! ### Reports that are made -/

theorem success_of_ofOperation {op : engine.Operation} {s s' : σ}
    (h : Report.ofOperation engine text details op s = (.ok r, s')) :
    ∃ kind explanation, r = .success text kind explanation := by
  unfold Report.ofOperation at h
  split at h
  · obtain ⟨explanation, t, -, h⟩ := Run.bind_eq_ok.mp h
    cases h
    exact ⟨_, explanation, rfl⟩
  · cases h
    exact ⟨_, _, rfl⟩

theorem success_of_ofOperations {ops : List engine.Operation} {s s' : σ}
    (h : Report.ofOperations engine text details ops s = (.ok r, s')) :
    ∃ kind explanation, r = .success text kind explanation := by
  rcases ops with _ | ⟨op, _ | ⟨op', rest⟩⟩
  · cases h
  · exact success_of_ofOperation h
  · cases h

/-- Whatever is reported on a text without failing is reported as a success. -/
theorem success_of_report (h : report engine text details env = (.ok r, env')) :
    ∃ kind explanation, r = .success text kind explanation := by
  cases hsub : submit text env with
  | mk result env₁ =>
      cases result with
      | error e =>
          rw [report_of_error hsub] at h
          cases h
      | ok left =>
          cases left with
          | definitions =>
              rw [report_of_definitions hsub] at h
              cases h
              exact ⟨.fragment, text, rfl⟩
          | listing sql =>
              rw [report_of_listing hsub] at h
              cases h
          | statement sql =>
              rw [report_of_statement hsub] at h
              cases hrun : (engine.parse sql >>= Report.ofOperations engine text details)
                  env₁.engine with
              | mk result s =>
                  obtain ⟨hresult, -⟩ := Prod.mk.inj ((onEngine_of_eq hrun).symm.trans h)
                  rw [hresult] at hrun
                  obtain ⟨ops, t, -, hops⟩ := Run.bind_eq_ok.mp hrun
                  exact success_of_ofOperations hops

/-! ### One submission of a script -/

/-- The environment behind a submission of a script that is explained: what explaining it leaves
behind, or for a definition what running it from there does. -/
def behind (engine : Engine σ) (details : List Plan.Detail) (env : Environment σ) (text : String) :
    Environment σ :=
  match report engine text details env with
  | (.ok r, env') => if r.kind = some .definition then (execute engine text env').2 else env'
  | (.error _, env') => env'

/-- What a report tells of a submission that is explained in an environment. -/
structure Tells (engine : Engine σ) (details : List Plan.Detail) (env : Environment σ)
    (text : String) (r : Report) : Prop where
  sql : r.sql = text
  /-- There is an error unless everything succeeded. -/
  error : r.error = none ↔ r.parsed = true ∧ r.explained = true
  /-- The statement was not read if reading it is what explaining it failed at. -/
  parsed : r.parsed = false
    ↔ ∃ e, (report engine text details env).1 = .error e ∧ e.category = .parse
  /-- A kind is told unless explaining the statement failed. -/
  kind : r.kind = none ↔ ∃ e, (report engine text details env).1 = .error e
  /-- An explanation is told wherever a kind is. -/
  explanation : r.explanation = none → r.kind = none
  /-- A definition has both an explanation and an error if running it failed. -/
  effect : r.kind = some .definition →
    (r.explanation.isSome = true ∧ r.error.isSome = true
      ↔ ∃ e, (execute engine text (report engine text details env).2).1 = .error e)

theorem Tells.numbered (h : Tells engine details env text r) (index : Nat) :
    Tells engine details env text (r.numbered index) :=
  ⟨h.sql, h.error, h.parsed, h.kind, h.explanation, h.effect⟩

theorem tells_failed (h : report engine text details env = (.error e, env')) :
    Tells engine details env text (.failed text e (e.category != .parse)) where
  sql := rfl
  error := by simp [Report.failed]
  parsed := by simp [Report.failed, h]
  kind := by simp [Report.failed, h]
  explanation _ := rfl
  effect hkind := by cases hkind

theorem tells_success (h : report engine text details env = (.ok (.success text kind explanation),
    env')) (hkind : kind ≠ .definition) :
    Tells engine details env text (.success text kind explanation) where
  sql := rfl
  error := by simp [Report.success]
  parsed := by simp [Report.success, h]
  kind := by simp [Report.success, h]
  explanation hnone := by cases hnone
  effect hdefinition := absurd (Option.some.inj hdefinition) hkind

theorem tells_definition (h : report engine text details env
    = (.ok (.success text .definition explanation), env')) :
    Tells engine details env text
      ((Report.success text .definition explanation).concluded (execute engine text env').1) := by
  cases hrun : (execute engine text env').1 with
  | ok result =>
      refine ⟨rfl, ?_, ?_, ?_, nofun, ?_⟩ <;> simp [Report.concluded, Report.success, h, hrun]
  | error e =>
      refine ⟨rfl, ?_, ?_, ?_, nofun, ?_⟩ <;>
        simp [Report.concluded, Report.withoutEffect, Report.success, h, hrun]

/-- **A submission is reported on as it is explained, and leaves behind what it does.** -/
theorem reportOn_tells (engine : Engine σ) (details : List Plan.Detail) (env : Environment σ)
    (text : String) :
    Tells engine details env text (reportOn engine details text env).1
      ∧ (reportOn engine details text env).2 = behind engine details env text := by
  unfold behind
  cases h : report engine text details env with
  | mk result env₁ =>
      cases result with
      | error e =>
          rw [reportOn_of_error h]
          exact ⟨tells_failed h, rfl⟩
      | ok r =>
          obtain ⟨kind, explanation, rfl⟩ := success_of_report h
          by_cases hkind : kind = .definition
          · subst hkind
            rw [reportOn_of_definition h rfl]
            exact ⟨tells_definition h, rfl⟩
          · have hnot : (Report.success text kind explanation).kind ≠ some .definition :=
              fun heq => hkind (Option.some.inj heq)
            rw [reportOn_of_ok h hnot]
            exact ⟨tells_success h hkind, (if_neg hnot).symm⟩

/-! ### Whole scripts -/

theorem length_reportFrom (index : Nat) (texts : List String) (env : Environment σ) :
    (reportFrom engine details index texts env).1.length = texts.length := by
  induction texts generalizing index env with
  | nil => rfl
  | cons text rest ih => rw [reportFrom_cons, List.length_cons, ih, List.length_cons]

theorem reportFrom_state (index : Nat) (texts : List String) (env : Environment σ) :
    (reportFrom engine details index texts env).2 = texts.foldl (behind engine details) env := by
  induction texts generalizing index env with
  | nil => rfl
  | cons text rest ih =>
      rw [reportFrom_cons, ih, List.foldl_cons, (reportOn_tells engine details env text).2]

/-- Each submission is told of where those before it left off. -/
theorem reportFrom_tells {texts : List String} {i : Nat} (index : Nat) (env : Environment σ)
    (h : texts[i]? = some text) :
    ∃ r, (reportFrom engine details index texts env).1[i]? = some r ∧ r.index = index + i
      ∧ Tells engine details ((texts.take i).foldl (behind engine details) env) text r := by
  induction texts generalizing index env i with
  | nil => cases h
  | cons first rest ih =>
      rw [reportFrom_cons]
      cases i with
      | zero =>
          cases h
          exact ⟨_, rfl, rfl, (reportOn_tells engine details env text).1.numbered index⟩
      | succ i =>
          obtain ⟨r, hr, hindex, htells⟩ :=
            ih (index + 1) (reportOn engine details first env).2 h
          rw [(reportOn_tells engine details env first).2] at htells
          exact ⟨r, hr, by omega, htells⟩

/--
**Explaining a script tells of every submission what became of it.**  There is one report for
each submission, in order and with its number; it is about the submission as it is explained
in the environment that the submissions before it leave behind, failed or not.
-/
theorem explainScript_tells (engine : Engine σ) (script : String) (details : List Plan.Detail)
    (env : Environment σ) :
    (explainScript engine script details env).1.length = (env.submissions script).length
      ∧ (explainScript engine script details env).2
        = (env.submissions script).foldl (behind engine details) env
      ∧ ∀ i text, (env.submissions script)[i]? = some text →
        ∃ r, (explainScript engine script details env).1[i]? = some r ∧ r.index = i + 1
          ∧ Tells engine details
            (((env.submissions script).take i).foldl (behind engine details) env) text r := by
  rw [explainScript_apply]
  refine ⟨length_reportFrom 1 _ env, reportFrom_state 1 _ env, fun i text h => ?_⟩
  obtain ⟨r, hr, hindex, htells⟩ := reportFrom_tells 1 env h
  exact ⟨r, hr, by omega, htells⟩

/-- An environment without tables. -/
def bare : Environment Planning.State := .new ⟨.new "c" "d", 1⟩

/-- A script that goes on behind a text that is not read and a table that is there already. -/
def stumbling : String :=
  "x := i;\nSELEC;\nCREATE TABLE a (i INT);\nCREATE TABLE a (${x} INT);\nSELECT ${x} FROM a"

/-- The table that is there already is told with its explanation and an error. -/
theorem explainScript_tells_stumbling :
    (explainScript Planning.engine stumbling [] bare).1.map
        (fun r => (r.kind, r.parsed, r.explained))
      = [(some .fragment, true, true), (none, false, false), (some .definition, true, true),
        (some .definition, true, false), (some .query, true, true)]
      ∧ ∃ r, (explainScript Planning.engine stumbling [] bare).1[3]? = some r ∧ r.index = 4
        ∧ Tells Planning.engine []
          (["x := i", "SELEC", "CREATE TABLE a (i INT)"].foldl (behind Planning.engine []) bare)
          "CREATE TABLE a (${x} INT)" r := by
  have hsubmissions : bare.submissions stumbling
      = ["x := i", "SELEC", "CREATE TABLE a (i INT)", "CREATE TABLE a (${x} INT)",
        "SELECT ${x} FROM a"] := by
    decide +kernel
  obtain ⟨-, -, htells⟩ := explainScript_tells Planning.engine stumbling [] bare
  rw [hsubmissions] at htells
  exact ⟨by decide +kernel, htells 3 _ rfl⟩

end Stencil.Environment
