/-
What an environment does with one submission.

Every entry point submits its text to the fragments first and then goes by what is
left over, so one equation for each kind of remainder says all there is to say about
running and reporting on a text.  Submitting changes nothing but the fragments, and
what comes after it nothing but the engine.
-/
import Stencil.Environment.Script
import Stencil.Proofs.Run

namespace Stencil

/-- The report of a definition once it was run. -/
def Report.concluded (r : Report) : Except Error TableResult → Report
  | .ok _ => r
  | .error e => r.withoutEffect e

namespace Environment

open Run

variable {σ : Type} {engine : Engine σ} {details : List Plan.Detail} {env env' : Environment σ}
  {text sql : String} {e : Error}

/-! ### Submitting -/

/-- A text that is submitted with fragments switched off is left over as it is. -/
theorem submit_of_off (h : env.substituting = false) (text : String) :
    submit text env = (.ok (.statement text), env) :=
  change_of_ok (by simp [h])

theorem submit_of_ok {left : String} {r : Fragment.Registry} (h : env.substituting = true)
    (hsub : env.fragments.submit text = .ok (left, r)) :
    submit text env = (.ok (remainder left), { env with fragments := r }) :=
  change_of_ok (by simp [h, hsub, Except.map])

theorem submit_of_error (h : env.substituting = true)
    (hsub : env.fragments.submit text = .error e) : submit text env = (.error e, env) :=
  change_of_error (by simp [h, hsub, Except.map])

/-- Submitting changes nothing but the fragments. -/
theorem submit_state (text : String) (env : Environment σ) :
    (submit text env).2 = { env with fragments := (submit text env).2.fragments } := by
  by_cases hon : env.substituting = true
  · cases hsub : env.fragments.submit text with
    | error e => rw [submit_of_error hon hsub]
    | ok left =>
        obtain ⟨left, r⟩ := left
        rw [submit_of_ok hon hsub]
  · rw [submit_of_off (Bool.eq_false_iff.mpr hon) text]

section

variable {α : Type} {r : Run σ α} {result : Except Error α} {t : σ}

theorem onEngine_of_eq (h : r env.engine = (result, t)) :
    onEngine r env = (result, { env with engine := t }) :=
  within_of_eq h

theorem onEngine_state (r : Run σ α) (env : Environment σ) :
    (onEngine r env).2 = { env with engine := (r env.engine).2 } := rfl

theorem onEngine_answer (r : Run σ α) (env : Environment σ) :
    (onEngine r env).1 = (r env.engine).1 := rfl

/-- What leaves the engine alone leaves the environment alone. -/
theorem onEngine_of_unchanged (h : (r env.engine).2 = env.engine) : (onEngine r env).2 = env := by
  rw [onEngine_state, h]

end

/-! ### Running -/

theorem execute_of_error (h : submit text env = (.error e, env')) :
    execute engine text env = (.error e, env') :=
  bind_of_error h _

theorem execute_of_definitions (h : submit text env = (.ok .definitions, env')) :
    execute engine text env = (.ok .ok, env') :=
  bind_of_ok h _

theorem execute_of_listing (h : submit text env = (.ok (.listing sql), env')) :
    execute engine text env = (.ok env'.fragments.result, env') :=
  bind_of_ok h _

theorem execute_of_statement (h : submit text env = (.ok (.statement sql), env')) :
    execute engine text env = onEngine (engine.execute sql) env' :=
  bind_of_ok h _

/-- Running depends on the environment only through what the fragments make of the text. -/
theorem execute_congr (h : submit text env' = submit text env) :
    execute engine text env' = execute engine text env := by
  unfold execute
  cases hsub : submit text env with
  | mk result env₁ =>
      rw [hsub] at h
      cases result with
      | ok left => rw [bind_of_ok hsub, bind_of_ok h]
      | error e => rw [bind_of_error hsub, bind_of_error h]

/-! ### Reporting -/

theorem report_of_error (h : submit text env = (.error e, env')) :
    report engine text details env = (.error e, env') :=
  bind_of_error h _

theorem report_of_definitions (h : submit text env = (.ok .definitions, env')) :
    report engine text details env = (.ok (.ofDefinitions text), env') :=
  bind_of_ok h _

theorem report_of_listing (h : submit text env = (.ok (.listing sql), env')) :
    report engine text details env = (.error .listingNotExplainable, env') :=
  bind_of_ok h _

theorem report_of_statement (h : submit text env = (.ok (.statement sql), env')) :
    report engine text details env
      = onEngine (engine.parse sql >>= Report.ofOperations engine text details) env' :=
  bind_of_ok h _

/-- What cannot be reported on is reported to have failed. -/
theorem reportOn_of_error (h : report engine text details env = (.error e, env')) :
    reportOn engine details text env = (.failed text e (e.category != .parse), env') := by
  unfold reportOn
  simp only [bind, StateT.bind, ExceptT.run]
  rw [h]
  rfl

theorem reportOn_of_ok {r : Report} (h : report engine text details env = (.ok r, env'))
    (hkind : r.kind ≠ some .definition) : reportOn engine details text env = (r, env') := by
  unfold reportOn
  simp only [bind, StateT.bind, ExceptT.run]
  rw [h]
  simp only [settle, hkind, if_false]
  rfl

/-- A definition that was reported on is run as well, from where the report left off. -/
theorem reportOn_of_definition {r : Report}
    (h : report engine text details env = (.ok r, env')) (hkind : r.kind = some .definition) :
    reportOn engine details text env
      = (r.concluded (execute engine r.sql env').1, (execute engine r.sql env').2) := by
  unfold reportOn
  simp only [bind, StateT.bind, ExceptT.run]
  rw [h]
  simp only [settle, hkind, if_true, bind, StateT.bind, ExceptT.run]
  cases hrun : execute engine r.sql env' with
  | mk result env₁ =>
      cases result with
      | ok _ => rfl
      | error _ => rfl

theorem reportFrom_nil (index : Nat) (env : Environment σ) :
    reportFrom engine details index [] env = ([], env) := rfl

theorem reportFrom_cons (index : Nat) (text : String) (rest : List String)
    (env : Environment σ) :
    reportFrom engine details index (text :: rest) env
      = ((reportOn engine details text env).1.numbered index
          :: (reportFrom engine details (index + 1) rest (reportOn engine details text env).2).1,
        (reportFrom engine details (index + 1) rest (reportOn engine details text env).2).2) := rfl

theorem explainScript_apply (script : String) (details : List Plan.Detail)
    (env : Environment σ) :
    explainScript engine script details env
      = reportFrom engine details 1 (env.submissions script) env := rfl

end Environment
end Stencil
