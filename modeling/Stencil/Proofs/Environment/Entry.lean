/-
What the entry points have in common.

An environment is entered in seven ways, and each of them submits its text to the
fragments before anything else.  What it does then depends on what is left over, but
never touches the fragments again, and reaches the engine with exactly that text or
not at all (`run_of_handed`, `run_of_kept`).

Whether the engine is reached is seen by observing it: the state of an observed
engine holds the calls made of it, and observing changes nothing else
(`run_watched`).
-/
import Mathlib.Data.List.Basic
import Stencil.Engine.Recording
import Stencil.Proofs.Engine.Observed
import Stencil.Proofs.Environment.Submission
import Stencil.Proofs.Fragment.Reachable

namespace Stencil.Environment

open Engine Run

variable {σ κ : Type}

/-- The ways to enter an environment with a text. -/
inductive Entry where
  | explain (details : List Plan.Detail)
  | report (details : List Plan.Detail)
  | graph
  | hints (position : Nat)
  | query
  | execute
  | update

namespace Entry

/-- What the entry point answers with. -/
def Answer : Entry → Type
  | explain _ => String
  | report _ => Report
  | graph => Json
  | hints _ => List String
  | query => Relation
  | execute => TableResult
  | update => Unit

/-- Enters an environment with a text. -/
def run (engine : Engine σ) (text : String) : (entry : Entry) → Run (Environment σ) entry.Answer
  | explain details => Environment.explain engine text details
  | report details => Environment.report engine text details
  | graph => Environment.graph engine text
  | hints position => Environment.hints engine text position
  | query => Environment.query engine text
  | execute => Environment.execute engine text
  | update => Environment.update engine text

/-! ### What becomes of what is left over -/

/-- The entry point hands the listing command on to the engine. -/
def takesListing : Entry → Bool
  | hints _ | update => true
  | explain _ | report _ | graph | query | execute => false

/-- The statement that the entry point hands over to the engine, if it does. -/
def handed (entry : Entry) : Remainder → Option String
  | .definitions => none
  | .listing sql => if entry.takesListing then some sql else none
  | .statement sql => some sql

/-- The call by which the entry point hands a statement over. -/
def firstCall (engine : Engine σ) (sql : String) : Entry → Call engine
  | explain details => .explainText sql details
  | report _ | graph => .parse sql
  | hints position => .hints sql position
  | query => .query sql
  | execute => .execute sql
  | update => .update sql

/-- What the entry point does with a statement that it hands over. -/
def onStatement (engine : Engine σ) (text sql : String) : (entry : Entry) → Run σ entry.Answer
  | explain details => engine.explainText sql details
  | report details => engine.parse sql >>= Report.ofOperations engine text details
  | graph => engine.parse sql >>= graphOf engine
  | hints position => engine.hints sql position
  | query => engine.query sql
  | execute => engine.execute sql
  | update => engine.update sql

/-- The answer where nothing is handed over. -/
def ownAnswer (text : String) (fragments : Fragment.Registry) :
    (entry : Entry) → Remainder → Except Error entry.Answer
  | explain _, .definitions => .ok "This is a sql fragment."
  | report _, .definitions => .ok (.ofDefinitions text)
  | graph, .definitions => .error .fragmentHasNoGraph
  | hints _, _ => .ok []
  | query, .definitions => .error .fragmentIsNoQuery
  | query, _ => .ok fragments.relation
  | execute, .definitions => .ok .ok
  | execute, _ => .ok fragments.result
  | update, _ => .error .fragmentIsNoUpdate
  | explain _, _ | report _, _ | graph, _ => .error .listingNotExplainable

section

variable {engine : Engine σ} {entry : Entry} {text sql : String} {left : Remainder}
  {env env' : Environment σ}

theorem run_of_error {e : Error} (h : submit text env = (.error e, env')) :
    entry.run engine text env = (.error e, env') := by
  cases entry <;> exact bind_of_error h _

/-- What is handed over goes to the engine as it is left over. -/
theorem run_of_handed (h : submit text env = (.ok left, env'))
    (hleft : entry.handed left = some sql) :
    entry.run engine text env = onEngine (entry.onStatement engine text sql) env' := by
  cases left with
  | definitions => cases hleft
  | statement sql' =>
      cases hleft
      cases entry <;> exact bind_of_ok h _
  | listing sql' =>
      cases entry with
      | hints position =>
          cases hleft
          exact bind_of_ok h _
      | update =>
          cases hleft
          exact bind_of_ok h _
      | explain details => cases hleft
      | report details => cases hleft
      | graph => cases hleft
      | query => cases hleft
      | execute => cases hleft

/-- What is not handed over is answered by the environment itself. -/
theorem run_of_kept (h : submit text env = (.ok left, env')) (hleft : entry.handed left = none) :
    entry.run engine text env = (entry.ownAnswer text env'.fragments left, env') := by
  cases left with
  | statement sql => cases hleft
  | definitions => cases entry <;> exact bind_of_ok h _
  | listing sql =>
      cases entry with
      | hints position => cases hleft
      | update => cases hleft
      | explain details => exact bind_of_ok h _
      | report details => exact bind_of_ok h _
      | graph => exact bind_of_ok h _
      | query => exact bind_of_ok h _
      | execute => exact bind_of_ok h _

/-- **An entry point changes the fragments only by submitting its text.** -/
theorem run_fragments (entry : Entry) (engine : Engine σ) (text : String) (env : Environment σ) :
    (entry.run engine text env).2.fragments = (submit text env).2.fragments := by
  cases hsub : submit text env with
  | mk result env₁ =>
      cases result with
      | error e => rw [run_of_error hsub]
      | ok left =>
          cases hleft : entry.handed left with
          | none => rw [run_of_kept hsub hleft]
          | some sql =>
              rw [run_of_handed hsub hleft]
              rfl

end

/-! ### Observing the engine -/

section

variable (engine : Engine σ)

theorem watches_ofOperations (text : String) (details : List Plan.Detail)
    (ops : List engine.Operation) :
    Watches Prod.mk (Report.ofOperations engine.observed text details ops)
      (Report.ofOperations engine text details ops) := by
  rcases ops with _ | ⟨op, _ | ⟨op', rest⟩⟩
  · exact watches_throw _
  · show Watches Prod.mk (Report.ofOperation engine.observed text details op)
      (Report.ofOperation engine text details op)
    unfold Report.ofOperation
    have hkind : engine.observed.kind op = engine.kind op := rfl
    rw [hkind]
    dsimp only
    split
    · exact (watches_noting _ _).bind fun _ => watches_pure _
    · exact watches_pure _
  · exact watches_throw _

/-- The document of a graph, if the engine has one. -/
def ofGraph : Option String → Run σ Json
  | some text => pure (document text)
  | none => throw .graphsUnavailable

theorem graphOf_of_modify {op : engine.Operation} (h : engine.kind op = .modify) :
    graphOf engine [op]
      = engine.translate [op] >>= fun steps => engine.graph steps >>= ofGraph := by
  unfold graphOf
  simp only [h, ne_eq, not_true_eq_false, if_false]
  rfl

theorem graphOf_of_not_modify {op : engine.Operation} (h : engine.kind op ≠ .modify) :
    graphOf engine [op] = throw (.noGraph (engine.summary op)) := by
  unfold graphOf
  simp only [h, ne_eq, not_false_eq_true, if_true]
  rfl

theorem watches_graphOf (ops : List engine.Operation) :
    Watches Prod.mk (graphOf engine.observed ops) (graphOf engine ops) := by
  rcases ops with _ | ⟨op, _ | ⟨op', rest⟩⟩
  · exact watches_throw _
  · by_cases h : engine.kind op = .modify
    · refine Watches.of_eq ?_ (graphOf_of_modify engine.observed h) (graphOf_of_modify engine h)
      refine (watches_noting _ _).bind fun steps => (watches_noting _ _).bind fun text? => ?_
      cases text? with
      | some text => exact watches_pure _
      | none => exact watches_throw _
    · exact Watches.of_eq (watches_throw _) (graphOf_of_not_modify engine.observed h)
        (graphOf_of_not_modify engine h)
  · exact watches_throw _

/-- Observing changes nothing of what an entry point does with a statement. -/
theorem watches_onStatement (entry : Entry) (text sql : String) :
    Watches Prod.mk (entry.onStatement engine.observed text sql)
      (entry.onStatement engine text sql) := by
  cases entry with
  | report details =>
      exact (watches_noting _ _).bind (watches_ofOperations engine text details)
  | graph => exact (watches_noting _ _).bind (watches_graphOf engine)
  | explain details => exact watches_noting _ _
  | hints position => exact watches_noting _ _
  | query => exact watches_noting _ _
  | execute => exact watches_noting _ _
  | update => exact watches_noting _ _

/-- The statement is handed over by the first call that is made of the engine. -/
theorem calls_onStatement (entry : Entry) (text sql : String) (s : σ)
    (calls : List (Call engine)) :
    ∃ more, (entry.onStatement engine.observed text sql (s, calls)).2.2
      = calls ++ entry.firstCall engine sql :: more := by
  cases entry with
  | report details =>
      exact calls_noting_bind _ _ (watches_ofOperations engine text details) s calls
  | graph => exact calls_noting_bind _ _ (watches_graphOf engine) s calls
  | explain details => exact ⟨[], rfl⟩
  | hints position => exact ⟨[], rfl⟩
  | query => exact ⟨[], rfl⟩
  | execute => exact ⟨[], rfl⟩
  | update => exact ⟨[], rfl⟩

end

end Entry

section

variable {engine : Engine σ} {env : Environment σ} {text : String}

/-- Running changes the fragments only by submitting the text. -/
theorem execute_fragments (engine : Engine σ) (text : String) (env : Environment σ) :
    (execute engine text env).2.fragments = (submit text env).2.fragments :=
  Entry.execute.run_fragments engine text env

theorem reachable_submit (h : env.fragments.Reachable) (text : String) :
    (submit text env).2.fragments.Reachable := by
  by_cases hon : env.substituting = true
  · cases hsub : env.fragments.submit text with
    | error e => rwa [submit_of_error hon hsub]
    | ok left =>
        rw [submit_of_ok hon hsub]
        exact h.change (.submit text) (map_eq_ok.mpr ⟨left, hsub, rfl⟩)
  · rwa [submit_of_off (Bool.eq_false_iff.mpr hon)]

/-- Entering an environment goes on from fragments that can be reached to others that can. -/
theorem Entry.reachable_run (h : env.fragments.Reachable) (entry : Entry) (text : String) :
    (entry.run engine text env).2.fragments.Reachable := by
  rw [entry.run_fragments engine text env]
  exact reachable_submit h text

end

/-- The environment in front of the observed engine, with the calls so far. -/
def watched (env : Environment σ) (calls : List κ) : Environment (σ × List κ) :=
  ⟨(env.engine, calls), env.fragments, env.substituting, env.separator⟩

theorem submit_watched (text : String) (env : Environment σ) (calls : List κ) :
    submit text (env.watched calls)
      = ((submit text env).1, (submit text env).2.watched calls) := by
  by_cases hon : env.substituting = true
  · have hon' : (env.watched calls).substituting = true := hon
    cases hsub : env.fragments.submit text with
    | error e => rw [submit_of_error hon hsub, submit_of_error hon' hsub]
    | ok left =>
        obtain ⟨left, r⟩ := left
        rw [submit_of_ok hon hsub, submit_of_ok hon' hsub]
        rfl
  · have hoff : env.substituting = false := Bool.eq_false_iff.mpr hon
    have hoff' : (env.watched calls).substituting = false := hoff
    rw [submit_of_off hoff, submit_of_off hoff']

namespace Entry

variable {engine : Engine σ} {entry : Entry} {text sql : String} {left : Remainder}
  {env env' : Environment σ}

/-- The calls that are made of the engine when the environment is entered. -/
def calls (engine : Engine σ) (entry : Entry) (text : String) (env : Environment σ) :
    List (Call engine) :=
  (entry.run engine.observed text (env.watched [])).2.engine.2

theorem calls_of_error {e : Error} (h : submit text env = (.error e, env')) :
    entry.calls engine text env = [] := by
  have h' : submit text (env.watched ([] : List (Call engine))) = (.error e, env'.watched []) := by
    rw [submit_watched, h]
  unfold calls
  rw [run_of_error h']
  rfl

theorem calls_of_kept (h : submit text env = (.ok left, env')) (hleft : entry.handed left = none) :
    entry.calls engine text env = [] := by
  have h' : submit text (env.watched ([] : List (Call engine))) = (.ok left, env'.watched []) := by
    rw [submit_watched, h]
  unfold calls
  rw [run_of_kept h' hleft]
  rfl

theorem calls_of_handed (h : submit text env = (.ok left, env'))
    (hleft : entry.handed left = some sql) :
    (entry.calls engine text env).head? = some (entry.firstCall engine sql) := by
  have h' : submit text (env.watched ([] : List (Call engine))) = (.ok left, env'.watched []) := by
    rw [submit_watched, h]
  obtain ⟨more, hmore⟩ := calls_onStatement engine entry text sql env'.engine []
  unfold calls
  rw [run_of_handed h' hleft]
  show (entry.onStatement engine.observed text sql (env'.engine, [])).2.2.head? = _
  rw [hmore]
  rfl

/-- **Observing the engine changes nothing.**  With an observed engine the answer is the same, and
so is the environment but for the calls. -/
theorem run_watched (engine : Engine σ) (entry : Entry) (text : String) (env : Environment σ) :
    entry.run engine.observed text (env.watched [])
      = ((entry.run engine text env).1,
        (entry.run engine text env).2.watched (entry.calls engine text env)) := by
  cases hsub : submit text env with
  | mk result env₁ =>
      have hsub' : submit text (env.watched ([] : List (Call engine)))
          = (result, env₁.watched []) := by
        rw [submit_watched, hsub]
      cases result with
      | error e =>
          rw [calls_of_error hsub, run_of_error hsub, run_of_error hsub']
      | ok left =>
          cases hleft : entry.handed left with
          | none =>
              rw [calls_of_kept hsub hleft, run_of_kept hsub hleft, run_of_kept hsub' hleft]
              rfl
          | some sql =>
              obtain ⟨more, hmore⟩ := watches_onStatement engine entry text sql env₁.engine []
              have hrun : onEngine _ (env₁.watched []) = _ := onEngine_of_eq hmore
              unfold calls
              rw [run_of_handed hsub hleft, run_of_handed hsub' hleft, hrun]
              rfl

/-! ### Fragments and calls -/

theorem remainder_of_listing {left : String} (h : Fragment.isListingCommand left = true) :
    remainder left = .listing left := by
  have hne : left.isEmpty = false := by
    rw [String.isEmpty_eq_false_iff]
    rintro rfl
    exact absurd h (by decide +kernel)
  simp [remainder, hne, h]

/-- A text that is not empty is handed over, unless it is a listing command that is not. -/
theorem handed_remainder {left : String} (hne : left ≠ "")
    (hlisting : Fragment.isListingCommand left = true → entry.takesListing = true) :
    entry.handed (remainder left) = some left := by
  have hnotEmpty : left.isEmpty = false := by simpa using hne
  by_cases h : Fragment.isListingCommand left = true
  · rw [remainder_of_listing h, handed, if_pos (hlisting h)]
  · simp [remainder, hnotEmpty, h, handed]

/--
**The entry points treat fragments alike.**  The calls of the engine are seen by
observing it, which changes nothing.  With fragments switched on, an entry point
leaves the fragments behind that submitting its text does; it calls the engine
neither if the submission fails nor if nothing is left over, and for the listing
command only if it hands that on; and if it calls the engine, then first with exactly
what is left over.  With fragments switched off they stay, and the engine is called
first with the text itself.
-/
theorem fragments_and_calls (engine : Engine σ) (entry : Entry) (text : String)
    (env : Environment σ) :
    entry.run engine.observed text (env.watched [])
        = ((entry.run engine text env).1,
          (entry.run engine text env).2.watched (entry.calls engine text env))
      ∧ (env.substituting = true →
        (∀ e, env.fragments.submit text = .error e →
          (entry.run engine text env).2.fragments = env.fragments
            ∧ entry.calls engine text env = [])
        ∧ ∀ left r, env.fragments.submit text = .ok (left, r) →
          (entry.run engine text env).2.fragments = r
            ∧ (left = "" → entry.calls engine text env = [])
            ∧ (Fragment.isListingCommand left = true → entry.takesListing = false →
              entry.calls engine text env = [])
            ∧ (left ≠ "" →
              (Fragment.isListingCommand left = true → entry.takesListing = true) →
                (entry.calls engine text env).head? = some (entry.firstCall engine left)))
      ∧ (env.substituting = false →
        (entry.run engine text env).2.fragments = env.fragments
          ∧ (entry.calls engine text env).head? = some (entry.firstCall engine text)) := by
  refine ⟨run_watched engine entry text env, fun hon => ⟨fun e hfail => ?_, fun left r h => ?_⟩,
    fun hoff => ?_⟩
  · have hsub := submit_of_error hon hfail
    exact ⟨by rw [run_fragments, hsub], calls_of_error hsub⟩
  · have hsub := submit_of_ok hon h
    refine ⟨by rw [run_fragments, hsub], ?_, ?_, ?_⟩
    · rintro rfl
      exact calls_of_kept hsub rfl
    · intro hlisting hkept
      refine calls_of_kept hsub ?_
      rw [remainder_of_listing hlisting, handed, hkept]
      rfl
    · intro hne hlisting
      exact calls_of_handed hsub (handed_remainder hne hlisting)
  · have hsub := submit_of_off hoff text
    exact ⟨by rw [run_fragments, hsub], calls_of_handed hsub rfl⟩

/-- An environment in front of the recording engine in which the fragment `x` stands for `users`. -/
def recorded : Environment Recording.State :=
  { Environment.new Recording.State.new with fragments := ⟨[("x", "users")]⟩ }

/-- A listing command behind a definition is updated by the engine, but not executed by it. -/
theorem fragments_and_calls_listing :
    (update.run Recording.engine "y := ${x}; show fragments" recorded).2.fragments
        = ⟨[("x", "users"), ("y", "users")]⟩
      ∧ (update.calls Recording.engine "y := ${x}; show fragments" recorded).head?
        = some (.update "show fragments")
      ∧ execute.calls Recording.engine "y := ${x}; show fragments" recorded = [] := by
  have hsub : recorded.fragments.submit "y := ${x}; show fragments"
      = .ok ("show fragments", ⟨[("x", "users"), ("y", "users")]⟩) := by decide +kernel
  obtain ⟨-, hupdate, -⟩ :=
    fragments_and_calls Recording.engine update "y := ${x}; show fragments" recorded
  obtain ⟨-, hexecute, -⟩ :=
    fragments_and_calls Recording.engine execute "y := ${x}; show fragments" recorded
  obtain ⟨hfragments, -, -, hhanded⟩ := (hupdate rfl).2 _ _ hsub
  obtain ⟨-, -, hkept, -⟩ := (hexecute rfl).2 _ _ hsub
  exact ⟨hfragments, hhanded (by decide) fun _ => rfl, hkept (by decide +kernel) rfl⟩

end Entry

end Stencil.Environment
