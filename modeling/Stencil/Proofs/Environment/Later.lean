/-
Environments and what becomes of them.

An environment lives on: it is entered again and again, its scripts are run and explained,
and those who hold it may call the engine, change the fragments and switch them off behind
its back.  `Later` is all of that.  None of it reaches the separator, and it reaches the
engine by calls only, so what no call of the engine changes (`Engine.Constant`) stays as it
was when the environment was set up; and nothing is set up that breaks the rules for
settings.
-/
import Stencil.Proofs.Engine.Constant
import Stencil.Proofs.Environment.Entry
import Stencil.Proofs.Environment.Reports
import Stencil.Proofs.Settings

namespace Stencil

namespace Environment

open Run

variable {σ γ : Type} {engine : Engine σ} {view : σ → γ}

/-- What an environment may become. -/
inductive Later (engine : Engine σ) (env : Environment σ) : Environment σ → Prop
  | start : Later engine env env
  | enter {env' : Environment σ} (h : Later engine env env') (entry : Entry) (text : String) :
      Later engine env (entry.run engine text env').2
  | explainScript {env' : Environment σ} (h : Later engine env env') (script : String)
      (details : List Plan.Detail) :
      Later engine env (Environment.explainScript engine script details env').2
  | executeScript {env' : Environment σ} (h : Later engine env env') (script : String) :
      Later engine env (Environment.executeScript engine script env').2
  /-- The engine is called from outside. -/
  | call {env' : Environment σ} (h : Later engine env env') (call : Engine.Call engine) :
      Later engine env { env' with engine := call.after env'.engine }
  /-- The fragments are changed from outside. -/
  | fragments {env' : Environment σ} (h : Later engine env env') (r : Fragment.Registry) :
      Later engine env { env' with fragments := r }
  /-- Fragments are switched on or off. -/
  | switch {env' : Environment σ} (h : Later engine env env') (substituting : Bool) :
      Later engine env { env' with substituting }

/-! ### What lasts -/

/-- What is seen of the engine, and the separator. -/
def lasting (view : σ → γ) (env : Environment σ) : γ × String := (view env.engine, env.separator)

theorem keeps_submit (view : σ → γ) (text : String) : Keeps (lasting view) (submit text) := by
  intro env
  rw [submit_state]
  rfl

theorem keeps_onEngine {α : Type} {r : Run σ α} (h : Keeps view r) :
    Keeps (lasting view) (onEngine r) := by
  intro env
  rw [onEngine_state]
  exact Prod.ext (h env.engine) rfl

theorem keeps_ofOperations (h : engine.Constant view) (text : String)
    (details : List Plan.Detail) (ops : List engine.Operation) :
    Keeps view (Report.ofOperations engine text details ops) := by
  rcases ops with _ | ⟨op, _ | ⟨op', rest⟩⟩
  · exact (reads_throw _).keeps
  · show Keeps view (Report.ofOperation engine text details op)
    unfold Report.ofOperation
    dsimp only
    split
    · have hexplain : Keeps view (engine.explain [op] details) := h (.explain [op] details)
      exact hexplain.bind fun _ => (reads_pure _).keeps
    · exact (reads_pure _).keeps
  · exact (reads_throw _).keeps

theorem keeps_graphOf (h : engine.Constant view) (ops : List engine.Operation) :
    Keeps view (graphOf engine ops) := by
  rcases ops with _ | ⟨op, _ | ⟨op', rest⟩⟩
  · exact (reads_throw _).keeps
  · by_cases hkind : engine.kind op = .modify
    · rw [Entry.graphOf_of_modify engine hkind]
      have htranslate : Keeps view (engine.translate [op]) := h (.translate [op])
      refine htranslate.bind fun steps => ?_
      have hgraph : Keeps view (engine.graph steps) := h (.graph steps)
      refine hgraph.bind fun text? => ?_
      cases text? with
      | some text => exact (reads_pure _).keeps
      | none => exact (reads_throw _).keeps
    · rw [Entry.graphOf_of_not_modify engine hkind]
      exact (reads_throw _).keeps
  · exact (reads_throw _).keeps

theorem keeps_onStatement (h : engine.Constant view) (text sql : String) (entry : Entry) :
    Keeps view (entry.onStatement engine text sql) := by
  have hparse : Keeps view (engine.parse sql) := h (.parse sql)
  cases entry with
  | explain details => exact h (.explainText sql details)
  | report details => exact hparse.bind (keeps_ofOperations h text details)
  | graph => exact hparse.bind (keeps_graphOf h)
  | hints position => exact h (.hints sql position)
  | query => exact h (.query sql)
  | execute => exact h (.execute sql)
  | update => exact h (.update sql)

theorem keeps_run (h : engine.Constant view) (entry : Entry) (text : String) :
    Keeps (lasting view) (entry.run engine text) := by
  intro env
  have hsubmit := keeps_submit view text env
  cases hsub : submit text env with
  | mk result env₁ =>
      rw [hsub] at hsubmit
      cases result with
      | error e =>
          rw [Entry.run_of_error hsub]
          exact hsubmit
      | ok left =>
          cases hleft : entry.handed left with
          | none =>
              rw [Entry.run_of_kept hsub hleft]
              exact hsubmit
          | some sql =>
              rw [Entry.run_of_handed hsub hleft]
              exact (keeps_onEngine (keeps_onStatement h text sql entry) env₁).trans hsubmit

/-! ### Scripts -/

theorem keeps_executeAll (h : engine.Constant view) (texts : List String) :
    Keeps (lasting view) (executeAll engine texts) := by
  induction texts with
  | nil => exact (reads_pure _).keeps
  | cons text rest ih =>
      exact (keeps_run h .execute text).bind fun _ => ih.bind fun _ => (reads_pure _).keeps

theorem lasting_behind (h : engine.Constant view) (details : List Plan.Detail)
    (env : Environment σ) (text : String) :
    lasting view (behind engine details env text) = lasting view env := by
  have hreported : lasting view (report engine text details env).2 = lasting view env :=
    keeps_run h (.report details) text env
  unfold behind
  split
  · rename_i r env₁ hreport
    rw [hreport] at hreported
    split
    · exact (keeps_run h .execute text env₁).trans hreported
    · exact hreported
  · rename_i e env₁ hreport
    rw [hreport] at hreported
    exact hreported

theorem lasting_explainScript (h : engine.Constant view) (script : String)
    (details : List Plan.Detail) (env : Environment σ) :
    lasting view (explainScript engine script details env).2 = lasting view env := by
  rw [(explainScript_tells engine script details env).2.1]
  induction env.submissions script generalizing env with
  | nil => rfl
  | cons text rest ih => rw [List.foldl_cons, ih, lasting_behind h]

/-- **What no call of the engine changes stays as it was, and so does the separator.** -/
theorem Later.lasting_eq {env env' : Environment σ} (hengine : engine.Constant view)
    (h : Later engine env env') : lasting view env' = lasting view env := by
  induction h with
  | start => rfl
  | enter _ entry text ih => exact (keeps_run hengine entry text _).trans ih
  | explainScript _ script details ih =>
      exact (lasting_explainScript hengine script details _).trans ih
  | executeScript _ script ih => exact (keeps_executeAll hengine _ _).trans ih
  | @call env₁ _ call ih =>
      have hcall : lasting view { env₁ with engine := call.after env₁.engine }
          = lasting view env₁ := Prod.ext (hengine call env₁.engine) rfl
      exact hcall.trans ih
  | fragments _ _ ih => exact ih
  | switch _ _ ih => exact ih

end Environment

/-! ### Environments that are set up -/

namespace Planning

open Environment

/--
**No environment runs with invalid settings.**  Where an environment is set up with what a file,
the variables and the command line make of the settings together, the configuration is
valid; and however long the environment lives, it has the separator and the parallelism of
the configuration, and whatever it translates runs alone or with that parallelism.
-/
theorem environment_valid {w : Command.Surroundings} {r : Command.Request} {c : Configuration}
    {env : Environment State} (hc : Command.configuration w r = .ok c)
    (henv : environment c = .ok env) :
    (∃ file, Command.loadConfiguration w.files (r.config.getD w.settingsPath) = .ok file
        ∧ c = { file with settings := r.apply (file.settings.overridden w.values) })
      ∧ c.Valid
      ∧ ∀ env', Later engine env env' →
        env'.separator = c.settings.separator
          ∧ env'.engine.parallelism = c.settings.parallelism
          ∧ ∀ ops steps, translate env'.engine ops = .ok steps →
            ∀ t ∈ steps, t.parallelism ≠ 0
              ∧ (t.parallelism = 1 ∨ t.parallelism = c.settings.parallelism) := by
  obtain ⟨hvalid, -, hengine, -, hseparator⟩ := environment_eq_ok.mp henv
  refine ⟨Command.configuration_eq_ok hc, hvalid, fun env' h => ?_⟩
  obtain ⟨hparallelism, hseparator'⟩ := Prod.mk.inj (h.lasting_eq constant_parallelism)
  have hconfigured : env'.engine.parallelism = c.settings.parallelism := by
    rw [hparallelism, hengine]
    rfl
  refine ⟨hseparator'.trans hseparator, hconfigured, fun ops steps hsteps t ht => ?_⟩
  have hruns := parallelism_of_translate hsteps t ht
  rw [hconfigured] at hruns
  have hpos := hvalid.parallelism
  exact ⟨by omega, hruns⟩

/-- A file with settings and a fragment; the variable sets the parallelism to nothing. -/
def surroundings : Command.Surroundings where
  files _ := .ok "[environment]\nparallelism = 3\n[fragments]\nt = \"a\"\n"
  input := .ok ""
  values name := if name = Settings.parallelismVariable then some " 0 " else none
  settingsPath := "settings.toml"

/-- The configuration with the parallelism of the command line. -/
def four : Configuration := ⟨{ Settings.standard with parallelism := 4 }, [("t", "a")]⟩

/-- The environment that is set up with it. -/
def preloaded : Environment State := ⟨.new four.settings, ⟨[("t", "a")]⟩, true, ";\n"⟩

/-- The environment with a table that is named by the fragment. -/
def created : Environment State :=
  (Environment.Entry.execute.run engine "CREATE TABLE ${t} (i INT)" preloaded).2

/-- What the variable says would not do, but the command line overrides it.  Of what is put into
the table a count is taken, which one instance does alone. -/
theorem environment_valid_four :
    Command.configuration surroundings ⟨none, false, some 4, .execute "-"⟩ = .ok four
      ∧ environment four = .ok preloaded ∧ Later engine preloaded created
      ∧ ∃ ops steps, parse created.engine.catalog "INSERT INTO a SELECT COUNT(i) FROM a" = .ok ops
        ∧ translate created.engine ops = .ok steps
        ∧ steps.map (·.parallelism) = [4, 1, 4]
        ∧ ∀ t ∈ steps, t.parallelism ≠ 0 ∧ (t.parallelism = 1 ∨ t.parallelism = 4) := by
  have hc : Command.configuration surroundings ⟨none, false, some 4, .execute "-"⟩
      = .ok four := by decide +kernel
  have hvalid : four.Valid := ⟨by decide, by decide +kernel, by decide +kernel, by decide +kernel⟩
  have hfragments : Fragment.Registry.empty.registerAll four.fragments
      = .ok preloaded.fragments := by decide +kernel
  have henv : environment four = .ok preloaded :=
    environment_eq_ok.mpr ⟨hvalid, hfragments, rfl, rfl, rfl⟩
  have hlater : Later engine preloaded created := .enter .start .execute _
  have hrun : List.map Transformation.parallelism <$>
      (parse created.engine.catalog "INSERT INTO a SELECT COUNT(i) FROM a"
        >>= translate created.engine) = .ok [4, 1, 4] := by
    decide +kernel
  obtain ⟨steps, hboth, hsteps⟩ := map_eq_ok.mp hrun
  obtain ⟨ops, hparse, htranslate⟩ := bind_eq_ok.mp hboth
  obtain ⟨-, -, hlasting⟩ := environment_valid hc henv
  obtain ⟨-, -, hruns⟩ := hlasting created hlater
  exact ⟨hc, henv, hlater, ops, steps, hparse, htranslate, hsteps, hruns ops steps htranslate⟩

/-- Without the command line, what the variable says is refused. -/
example :
    (fun _ => ()) <$> (Command.configuration surroundings ⟨none, false, none, .execute "-"⟩
      >>= environment) = .error .zeroParallelism := by
  decide +kernel

end Planning
end Stencil
