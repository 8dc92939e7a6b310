/-
What the details of an explanation change.

Details add to the lines of the physical plan and to nothing else.  Each line gets the kinds
of changes that reach its node in front of the last character of its description, and the
estimate behind it.  Which details are asked for is all that counts, not in which order or how
often.  Of the other sections of an explanation two never change, and one is there or not.
-/
import Stencil.Proofs.Environment.Document
import Stencil.Proofs.Plan.Drawing

namespace Stencil

namespace Plan

variable {p : Plan} {details details' : List Detail}

/-! ### Changes -/

/-- The operator may take back rows by itself: it folds rows, drops repetitions from a
combination, or keeps rows without a partner. -/
inductive Operator.TakesBack : Operator → Prop
  | aggregate (keys : List String) (calls : List (String × String)) :
    TakesBack (.aggregate keys calls)
  | combine (how : Combination) : TakesBack (.combine how false)
  | join {mode : JoinMode} (condition : Option String) (houter : mode ≠ .inner) :
    TakesBack (.join mode condition)

theorem Operator.updates_iff {op : Operator} : op.updates = true ↔ op.TakesBack := by
  constructor
  · intro h
    cases op with
    | aggregate keys calls => exact .aggregate keys calls
    | combine how all =>
        cases all with
        | false => exact .combine how
        | true => cases h
    | join mode condition => exact .join condition (by simpa [Operator.updates] using h)
    | _ => cases h
  · rintro (_ | _ | ⟨condition, houter⟩)
    · rfl
    · rfl
    · simpa [Operator.updates] using houter

theorem changes_eq_iff :
    (p.changes = "I,UB,UA" ↔ ∃ n ∈ p.nodes, n.operator.TakesBack)
      ∧ (p.changes = "I" ↔ ¬ ∃ n ∈ p.nodes, n.operator.TakesBack) := by
  have hupdates : p.updates = true ↔ ∃ n ∈ p.nodes, n.operator.TakesBack := by
    rw [updates_eq_any, List.any_eq_true]
    simp only [Operator.updates_iff]
  unfold changes
  rw [← hupdates]
  cases p.updates <;> decide

/-- On the way to the root the changes do not become fewer. -/
theorem changes_of_mem_nodes {m n : Plan} (hm : m ∈ n.nodes) (h : m.changes = "I,UB,UA") :
    n.changes = "I,UB,UA" := by
  obtain ⟨k, hk, htakes⟩ := changes_eq_iff.1.mp h
  exact changes_eq_iff.1.mpr ⟨k, nodes_trans hk n hm, htakes⟩

/-! ### Drawings -/

/-- The description of a node with the details put into its text. -/
def annotatedText (details : List Detail) (n : Plan) : String :=
  annotated details n.changes n.rows n.cost n.physicalText

theorem drawPhysical_eq (details : List Detail) (p : Plan) :
    p.drawPhysical details = draw (annotatedText details) p := by
  unfold drawPhysical
  rw [funext (detailed_eq_annotated details)]
  rfl

theorem drawPhysical_nil (p : Plan) : p.drawPhysical [] = draw physicalText p := by
  have hnone : annotatedText [] = physicalText := by
    funext n
    simp only [annotatedText, annotated, List.not_mem_nil, if_false]
  rw [drawPhysical_eq, hnone]

/-- Neither the order of the details counts nor how often they are asked for. -/
theorem drawPhysical_congr (h : ∀ d, d ∈ details' ↔ d ∈ details) :
    drawPhysical details' = drawPhysical details := by
  funext p
  rw [drawPhysical_eq, drawPhysical_eq]
  congr 1
  funext n
  simp only [annotatedText, annotated, h]

end Plan

namespace Planning

open Plan

/-! ### Explanations -/

/-- The section of an explanation that shows what plans compute. -/
def syntaxTreeSection (plans : List Plan) : String :=
  "== Abstract Syntax Tree ==\n" ++ Text.join "\n" (plans.map drawLogical)

/-- The section that shows how they compute it, with details. -/
def physicalSection (details : List Detail) (plans : List Plan) : String :=
  "\n== Optimized Physical Plan ==\n" ++ Text.join "\n" (plans.map (drawPhysical details))

/-- The section that shows how they compute it. -/
def executionSection (plans : List Plan) : String :=
  "\n== Optimized Execution Plan ==\n" ++ Text.join "\n" (plans.map (draw physicalText))

theorem explainPlans_eq (parallelism : Nat) (details : List Detail) (plans : List Plan) :
    explainPlans parallelism details plans
      = syntaxTreeSection plans ++ physicalSection details plans ++ executionSection plans
        ++ (if .jsonExecutionPlan ∈ details then executionPlan parallelism plans else "") := by
  have hexecution : drawPhysical [] = draw physicalText := funext drawPhysical_nil
  unfold explainPlans syntaxTreeSection physicalSection executionSection executionPlan
  rw [hexecution]
  simp only [List.contains_iff_mem, String.append_assoc]

theorem explainPlans_congr (h : ∀ d, d ∈ details' ↔ d ∈ details) (parallelism : Nat)
    (plans : List Plan) :
    explainPlans parallelism details' plans = explainPlans parallelism details plans := by
  have hphysical : physicalSection details' plans = physicalSection details plans := by
    unfold physicalSection
    rw [drawPhysical_congr h]
  rw [explainPlans_eq, explainPlans_eq, hphysical]
  congr 1
  exact if_congr (h _) rfl rfl

/-- The plans that an explanation of a text is about. -/
def explained (s : State) (text : String) : Except Error (List Plan) := do
  let op ← single s.catalog .explain text
  if op.kind = .other then .error (.notExplainable op.summary)
  else [op].mapM Operation.getPlan

theorem explainText_eq (s : State) (text : String) (details : List Detail) :
    explainText s text details = explainPlans s.parallelism details <$> explained s text := by
  unfold explainText explained
  cases single s.catalog .explain text with
  | error e => rfl
  | ok op =>
      show (if op.kind = .other then _ else _)
        = explainPlans s.parallelism details <$> (if op.kind = .other then _ else _)
      split
      · rfl
      · rfl

/--
**Details only annotate.**  Line by line, the physical drawing with details is the one without
them, apart from what the details put into the description of a node, which ends in a parenthesis:
the kinds of changes in front of the parenthesis and the estimate behind it.  The changes take rows
back exactly if some operator at or below the node may do so by itself, and then at every node
above as well.  Neither the order of the details nor how often they stand in the list counts; and of
the sections of an explanation those with syntax trees and execution plans are the same for all
lists, which have no part in whether there is an explanation and of which plans.
-/
theorem details_annotate (details : List Detail) :
    (∀ p : Plan,
      p.drawPhysical [] = String.join ((walk [] p).map fun s => lineOf physicalText s ++ "\n")
        ∧ p.drawPhysical details
          = String.join ((walk [] p).map fun s => lineOf (annotatedText details) s ++ "\n")
        ∧ ∀ n ∈ p.nodes, n.physicalText.toList.getLast? = some ')'
          ∧ (n.changes = "I,UB,UA" ↔ ∃ m ∈ n.nodes, m.operator.TakesBack)
          ∧ (n.changes = "I" ↔ ¬ ∃ m ∈ n.nodes, m.operator.TakesBack)
          ∧ ∀ m ∈ n.nodes, m.changes = "I,UB,UA" → n.changes = "I,UB,UA")
      ∧ (∀ details', (∀ d, d ∈ details' ↔ d ∈ details) →
        (∀ p : Plan, p.drawPhysical details' = p.drawPhysical details)
          ∧ ∀ parallelism plans,
            explainPlans parallelism details' plans = explainPlans parallelism details plans)
      ∧ (∀ parallelism plans, explainPlans parallelism details plans
        = syntaxTreeSection plans ++ physicalSection details plans ++ executionSection plans
          ++ (if .jsonExecutionPlan ∈ details then executionPlan parallelism plans else ""))
      ∧ ∀ s text, explainText s text details
        = explainPlans s.parallelism details <$> explained s text := by
  refine ⟨fun p => ⟨?_, ?_, fun n hn => ?_⟩, fun details' h => ?_, ?_, ?_⟩
  · rw [drawPhysical_nil, draw_eq]
  · rw [drawPhysical_eq, draw_eq]
  · exact ⟨Description.getLast?_written _, changes_eq_iff.1, changes_eq_iff.2,
      fun m hm => changes_of_mem_nodes hm⟩
  · exact ⟨fun p => congrFun (drawPhysical_congr h) p, explainPlans_congr h⟩
  · exact fun parallelism plans => explainPlans_eq parallelism details plans
  · exact fun s text => explainText_eq s text details

/-- The numbers of rows in each group of a table with one column. -/
def countsOf : Plan :=
  let scan : Plan := ⟨.scan ⟨"c", "d", "a"⟩, [], [⟨some "a", "i", "INT"⟩]⟩
  ⟨.aggregate ["i"] [("n", "COUNT(*)")], [scan], [⟨some "a", "i", "INT"⟩, ⟨none, "n", "BIGINT"⟩]⟩

/-- The scan only inserts, the aggregate above it takes rows back; to ask twice changes nothing. -/
theorem details_annotate_counts :
    countsOf.drawPhysical [.changelogMode, .estimatedCost, .changelogMode]
        = "GroupAggregate(groupBy=[i], select=[i, COUNT(*) AS n], changelogMode=[I,UB,UA])"
          ++ ": rowcount = 1.0E7, cumulative cost = \x7b1.1E8 rows\x7d\n"
          ++ "+- TableSourceScan(table=[[c, d, a]], fields=[i], changelogMode=[I])"
          ++ ": rowcount = 1.0E8, cumulative cost = \x7b1.0E8 rows\x7d\n"
      ∧ countsOf.drawPhysical [.changelogMode, .estimatedCost, .changelogMode]
        = countsOf.drawPhysical [.estimatedCost, .changelogMode]
      ∧ countsOf.physicalText.toList.getLast? = some ')' := by
  have hsame : ∀ d : Detail, d ∈ [Detail.changelogMode, .estimatedCost, .changelogMode]
      ↔ d ∈ [Detail.estimatedCost, .changelogMode] := by
    intro d
    cases d <;> decide
  refine ⟨by decide +kernel, ((details_annotate _).2.1 _ hsame).1 _, ?_⟩
  exact (((details_annotate []).1 countsOf).2.2 countsOf (mem_nodes.mpr (.inl rfl))).1

end Planning
end Stencil
