/-
What no call of an engine changes.

Whatever is done through an engine is done by its calls, so what each of them leaves
alone stays as it was set up.  Of the planning engine that is the parallelism: definitions
change the catalog, all other calls change nothing.  Hence the transformations of any of its
states run as often at once as was settled in the beginning, or alone.
-/
import Stencil.Engine.Planning
import Stencil.Proofs.Engine.Observed
import Stencil.Proofs.Engine.Operation
import Stencil.Proofs.Graph.Forest

namespace Stencil

namespace Engine

variable {σ γ : Type}

/-- The state of an engine behind a call. -/
def Call.after {engine : Engine σ} (s : σ) : Call engine → σ
  | .parse text => (engine.parse text s).2
  | .explainText text details => (engine.explainText text details s).2
  | .explain ops details => (engine.explain ops details s).2
  | .hints text position => (engine.hints text position s).2
  | .query text => (engine.query text s).2
  | .execute text => (engine.execute text s).2
  | .update text => (engine.update text s).2
  | .registerFunction f => (engine.registerFunction f s).2
  | .translate ops => (engine.translate ops s).2
  | .graph steps => (engine.graph steps s).2

/-- No call changes what is seen of the state. -/
def Constant (engine : Engine σ) (view : σ → γ) : Prop :=
  ∀ (call : Call engine) (s : σ), view (call.after s) = view s

end Engine

namespace Planning

open Run Sql

variable {α : Type}

/-! ### Definitions change the catalog -/

theorem keeps_changing (f : Catalog → Except Error (α × Catalog)) :
    Keeps State.parallelism (changing f) := by
  refine keeps_change fun s a s' h => ?_
  cases hf : f s.catalog with
  | error e =>
      rw [hf] at h
      cases h
  | ok p =>
      rw [hf] at h
      cases h
      rfl

theorem keeps_pathOf (name : QualifiedName) : Keeps State.parallelism (pathOf name) :=
  (reads_read _).keeps

theorem keeps_createTable (t : CreateTable) : Keeps State.parallelism (createTable t) := by
  unfold createTable
  split
  · exact (reads_throw _).keeps.bind fun _ => (keeps_pathOf _).bind fun _ =>
      (keeps_changing _).bind fun _ => (reads_pure _).keeps
  · exact (keeps_pathOf _).bind fun _ => (keeps_changing _).bind fun _ => (reads_pure _).keeps

theorem keeps_createView (v : CreateView) : Keeps State.parallelism (createView v) := by
  unfold createView
  refine (keeps_pathOf _).bind fun path => (reads_read _).keeps.bind fun p => ?_
  dsimp only
  split
  · exact (keeps_changing _).bind fun _ => (keeps_changing _).bind fun _ => (reads_pure _).keeps
  · exact (keeps_changing _).bind fun _ => (reads_pure _).keeps

theorem keeps_dropAll (kind : ObjectKind) (ifExists : Bool) (names : List QualifiedName) :
    Keeps State.parallelism (dropAll kind ifExists names) := by
  induction names with
  | nil => exact (reads_pure _).keeps
  | cons name rest ih => exact (keeps_pathOf _).bind fun _ => (keeps_changing _).bind fun _ => ih

theorem keeps_define (statement : Statement) : Keeps State.parallelism (define statement) := by
  cases statement with
  | createTable t => exact (keeps_createTable t).bind fun _ => (reads_pure _).keeps
  | createView v => exact (keeps_createView v).bind fun _ => (reads_pure _).keeps
  | drop d =>
      exact (reads_read _).keeps.bind fun _ => (keeps_dropAll _ _ _).bind fun _ =>
        (reads_pure _).keeps
  | showTables _ => exact (reads_read _).keeps
  | query _ => exact (reads_pure _).keeps
  | insert _ => exact (reads_pure _).keeps
  | modify _ => exact (reads_pure _).keeps
  | explain _ _ => exact (reads_pure _).keeps
  | other _ => exact (reads_pure _).keeps

theorem keeps_run (op : Operation) : Keeps State.parallelism (run op) := by
  by_cases hkind : op.kind = .other
  · rw [run_of_other hkind]
    exact keeps_define op.statement
  · exact (reads_run hkind).keeps

theorem keeps_execute (text : String) : Keeps State.parallelism (execute text) :=
  (reads_read _).keeps.bind fun op => keeps_run op

theorem keeps_update (text : String) : Keeps State.parallelism (update text) := by
  refine (reads_read _).keeps.bind fun op => ?_
  dsimp only
  split
  · exact (reads_throw _).keeps.bind fun _ => (keeps_run op).bind fun _ => (reads_pure _).keeps
  · exact (keeps_run op).bind fun _ => (reads_pure _).keeps

/-! ### All calls -/

/-- **No call of the planning engine changes its parallelism.** -/
theorem constant_parallelism : engine.Constant State.parallelism := by
  intro call s
  cases call with
  | execute text => exact keeps_execute text s
  | update text => exact keeps_update text s
  | registerFunction f => exact keeps_changing _ s
  | parse _ => rfl
  | explainText _ _ => rfl
  | explain _ _ => rfl
  | hints _ _ => rfl
  | query _ => rfl
  | translate _ => rfl
  | graph _ => rfl

/-! ### Transformations -/

theorem exists_node_of_mem {parallelism : Nat} {nodes : List Plan} {ts : List Transformation}
    (h : List.Forall₂ (Plan.Runs parallelism) nodes ts) {t : Transformation} (ht : t ∈ ts) :
    ∃ n ∈ nodes, Plan.Runs parallelism n t := by
  induction h with
  | nil => cases ht
  | cons hfirst _ ih =>
      rcases List.mem_cons.mp ht with rfl | hrest
      · exact ⟨_, List.mem_cons_self, hfirst⟩
      · obtain ⟨n, hn, hruns⟩ := ih hrest
        exact ⟨n, List.mem_cons_of_mem _ hn, hruns⟩

/-- Whatever is translated runs alone or as often at once as the state says. -/
theorem parallelism_of_translate {s : State} {ops : List Operation} {steps : List Transformation}
    (h : translate s ops = .ok steps) :
    ∀ t ∈ steps, t.parallelism = 1 ∨ t.parallelism = s.parallelism := by
  unfold translate at h
  obtain ⟨plans, -, h⟩ := bind_eq_ok.mp h
  cases h
  intro t ht
  obtain ⟨n, -, hruns⟩ := exists_node_of_mem (Plan.runs_inputTransformations plans 0) ht
  by_cases halone : t.parallelism = 1
  · exact .inl halone
  · exact .inr (hruns.together halone)

end Planning
end Stencil
