/-
Engines whose calls are observed.

An engine is observed by putting one in front of it that passes every call on and
notes it.  Watching must not change what is watched: `Watches` says of two
computations that the one does what the other does and only notes calls besides.  It
holds of every call of an observed engine and carries over to whatever is made of
them, so the calls that are noted are the calls that are made.
-/
import Stencil.Engine
import Stencil.Proofs.Run

namespace Stencil.Engine

variable {σ : Type}

/-- A call of an engine. -/
inductive Call (engine : Engine σ) where
  | parse (text : String)
  | explainText (text : String) (details : List Plan.Detail)
  | explain (ops : List engine.Operation) (details : List Plan.Detail)
  | hints (text : String) (position : Nat)
  | query (text : String)
  | execute (text : String)
  | update (text : String)
  | registerFunction (f : UserFunction)
  | translate (ops : List engine.Operation)
  | graph (steps : List engine.Step)

/-- A computation of the engine that is noted as a call. -/
def noting {engine : Engine σ} {α : Type} (call : Call engine) (r : Run σ α) :
    Run (σ × List (Call engine)) α := fun (s, calls) =>
  let (result, t) := r s
  (result, (t, calls ++ [call]))

/-- The engine with every call noted behind the earlier ones. -/
def observed (engine : Engine σ) : Engine (σ × List (Call engine)) where
  Operation := engine.Operation
  Step := engine.Step
  kind := engine.kind
  summary := engine.summary
  parse text := noting (.parse text) (engine.parse text)
  explainText text details := noting (.explainText text details) (engine.explainText text details)
  explain ops details := noting (.explain ops details) (engine.explain ops details)
  hints text position := noting (.hints text position) (engine.hints text position)
  query text := noting (.query text) (engine.query text)
  execute text := noting (.execute text) (engine.execute text)
  update text := noting (.update text) (engine.update text)
  registerFunction f := noting (.registerFunction f) (engine.registerFunction f)
  translate ops := noting (.translate ops) (engine.translate ops)
  graph steps := noting (.graph steps) (engine.graph steps)

/-! ### Watching changes nothing -/

section

variable {τ τ' κ α β : Type}

/-- The computation `r'` does what `r` does and notes calls besides; `put` adds calls to a state. -/
def Watches (put : τ → List κ → τ') (r' : Run τ' α) (r : Run τ α) : Prop :=
  ∀ s calls, ∃ more, r' (put s calls) = ((r s).1, put (r s).2 (calls ++ more))

variable {put : τ → List κ → τ'}

theorem watches_pure (a : α) : Watches put (pure a) (pure a) := by
  intro s calls
  exact ⟨[], by rw [Run.pure_apply, Run.pure_apply, List.append_nil]⟩

theorem watches_throw (e : Error) : Watches put (throw e : Run τ' α) (throw e) := by
  intro s calls
  refine ⟨[], ?_⟩
  rw [List.append_nil]
  rfl

theorem Watches.of_eq {r₁' r₂' : Run τ' α} {r₁ r₂ : Run τ α} (h : Watches put r₂' r₂)
    (heq' : r₁' = r₂') (heq : r₁ = r₂) : Watches put r₁' r₁ := by
  rw [heq', heq]
  exact h

theorem Watches.bind {r' : Run τ' α} {r : Run τ α} {f' : α → Run τ' β} {f : α → Run τ β}
    (hr : Watches put r' r) (hf : ∀ a, Watches put (f' a) (f a)) :
    Watches put (r' >>= f') (r >>= f) := by
  intro s calls
  obtain ⟨more, hmore⟩ := hr s calls
  cases hrun : r s with
  | mk result t =>
      rw [hrun] at hmore
      cases result with
      | ok a =>
          obtain ⟨more', hmore'⟩ := hf a t (calls ++ more)
          refine ⟨more ++ more', ?_⟩
          rw [Run.bind_of_ok hmore, Run.bind_of_ok hrun, hmore', List.append_assoc]
      | error e =>
          refine ⟨more, ?_⟩
          rw [Run.bind_of_error hmore, Run.bind_of_error hrun]

end

section

variable {engine : Engine σ} {α β : Type}

theorem watches_noting (call : Call engine) (r : Run σ α) :
    Watches Prod.mk (noting call r) r := by
  intro s calls
  exact ⟨[call], rfl⟩

/-- What goes on after a call notes further calls behind it. -/
theorem calls_noting_bind (call : Call engine) (r : Run σ α)
    {f' : α → Run (σ × List (Call engine)) β} {f : α → Run σ β}
    (hf : ∀ a, Watches Prod.mk (f' a) (f a)) (s : σ) (calls : List (Call engine)) :
    ∃ more, ((noting call r >>= f') (s, calls)).2.2 = calls ++ call :: more := by
  cases hrun : r s with
  | mk result t =>
      have hnoted : noting call r (s, calls) = (result, (t, calls ++ [call])) := by
        show ((r s).1, ((r s).2, calls ++ [call])) = _
        rw [hrun]
      cases result with
      | ok a =>
          obtain ⟨more, hmore⟩ := hf a t (calls ++ [call])
          refine ⟨more, ?_⟩
          rw [Run.bind_of_ok hnoted, hmore]
          simp
      | error e =>
          refine ⟨[], ?_⟩
          rw [Run.bind_of_error hnoted]

end

end Stencil.Engine
