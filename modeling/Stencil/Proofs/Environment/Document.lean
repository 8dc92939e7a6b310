/-
The graph that an environment hands out is the graph of the insertion it was given.

A graph is only answered for a submission that leaves one insertion over, and the
document is read from the text that the engine wrote.  That text is a document, so the
empty document that stands in for an unreadable one is never handed out; and an
explanation that is asked for the execution plan ends with the same text.
-/
import Stencil.Environment
import Stencil.Proofs.Engine.Operation
import Stencil.Proofs.Environment.Submission
import Stencil.Proofs.Graph.Document

namespace Stencil

/-! ### Explanations with the execution plan -/

namespace Plan

/-- The execution plan is no detail of a drawing. -/
theorem drawPhysical_filter (details : List Detail) (p : Plan) :
    drawPhysical (details.filter (· ≠ .jsonExecutionPlan)) p = drawPhysical details p := by
  have hdetailed : detailed (details.filter (· ≠ .jsonExecutionPlan)) = detailed details := by
    funext q
    unfold detailed
    simp
  unfold drawPhysical
  rw [hdetailed]

end Plan

namespace Planning

/-- What an explanation ends with if the execution plan is asked for. -/
def executionPlan (parallelism : Nat) (plans : List Plan) : String :=
  "\n== Physical Execution Plan ==\n"
    ++ (StreamGraph.ofTransformations (Plan.translate parallelism plans)).written ++ "\n"

theorem explainPlans_executionPlan {parallelism : Nat} {details : List Plan.Detail}
    (h : .jsonExecutionPlan ∈ details) (plans : List Plan) :
    explainPlans parallelism details plans
      = explainPlans parallelism (details.filter (· ≠ .jsonExecutionPlan)) plans
        ++ executionPlan parallelism plans := by
  have hdraw : Plan.drawPhysical (details.filter (· ≠ .jsonExecutionPlan))
      = Plan.drawPhysical details := funext (Plan.drawPhysical_filter details)
  unfold explainPlans executionPlan
  rw [hdraw]
  simp [h, String.append_assoc]

end Planning

namespace Environment

open Run Planning

variable {env env' : Environment State} {text sql : String}

theorem translate_of_plan {s : State} {op : Operation} {p : Plan} (hkind : op.kind = .modify)
    (hplan : op.plan = some p) :
    translate s [op] = .ok (Plan.translate s.parallelism [p]) := by
  have htranslatable : translatable op = .ok p := by
    unfold translatable Operation.getPlan
    rw [if_pos hkind, hplan]
  unfold Planning.translate
  rw [List.mapM_cons, htranslatable]
  rfl

theorem translate_of_noPlan {s : State} {op : Operation} (hkind : op.kind = .modify)
    (hplan : op.plan = none) : translate s [op] = .error (.noPlan op.summary) := by
  have htranslatable : translatable op = .error (.noPlan op.summary) := by
    unfold translatable Operation.getPlan
    rw [if_pos hkind, hplan]
  unfold Planning.translate
  rw [List.mapM_cons, htranslatable]
  rfl

/-- A graph is answered for one operation that has a plan and writes. -/
theorem graphOf_eq_ok {ops : List Operation} {s s' : State} {doc : Json}
    (h : graphOf Planning.engine ops s = (.ok doc, s')) :
    ∃ op p, ops = [op] ∧ op.kind = .modify ∧ op.plan = some p ∧ s' = s
      ∧ doc = document
        (StreamGraph.ofTransformations (Plan.translate s.parallelism [p])).written := by
  rcases ops with _ | ⟨op, _ | ⟨op', rest⟩⟩
  · cases h
  · unfold graphOf at h
    by_cases hkind : op.kind = .modify
    · have hengine : Planning.engine.kind op = .modify := hkind
      simp only [hengine, ne_eq, not_true_eq_false, if_false] at h
      obtain ⟨steps, t, htranslate, h⟩ := Run.bind_eq_ok.mp h
      have htranslated : translate s [op] = .ok steps := congrArg Prod.fst htranslate
      obtain rfl : s = t := congrArg Prod.snd htranslate
      cases hplan : op.plan with
      | none =>
          rw [translate_of_noPlan hkind hplan] at htranslated
          cases htranslated
      | some p =>
          rw [translate_of_plan hkind hplan] at htranslated
          cases htranslated
          cases h
          exact ⟨op, p, rfl, hkind, hplan, rfl, rfl⟩
    · have hengine : Planning.engine.kind op ≠ .modify := hkind
      simp only [hengine, ne_eq, not_false_eq_true, if_true] at h
      obtain ⟨_, _, hthrow, -⟩ := Run.bind_eq_ok.mp h
      cases hthrow
  · cases h

theorem explain_of_statement {details : List Plan.Detail}
    (h : submit text env = (.ok (.statement sql), env')) :
    explain Planning.engine text details env
      = (explainText env'.engine sql details, env') :=
  bind_of_ok h _

theorem explain_of_plan {s : State} {op : Operation} {p : Plan} (hplan : op.plan = some p)
    (details : List Plan.Detail) :
    Planning.explain s [op] details = .ok (explainPlans s.parallelism details [p]) := by
  have hget : op.getPlan = .ok p := by
    unfold Operation.getPlan
    rw [hplan]
  unfold Planning.explain
  rw [List.mapM_cons, hget]
  rfl

/-- A statement that writes is explained by its plan. -/
theorem explain_of_modify {op : Operation} {p : Plan} {details : List Plan.Detail}
    (hsubmit : submit text env = (.ok (.statement sql), env'))
    (hparse : parse env'.engine.catalog sql = .ok [op]) (hkind : op.kind = .modify)
    (hplan : op.plan = some p) :
    explain Planning.engine text details env
      = (.ok (explainPlans env'.engine.parallelism details [p]), env') := by
  have hexplain : explainText env'.engine sql details
      = .ok (explainPlans env'.engine.parallelism details [p]) := by
    rw [← explain_of_plan hplan]
    unfold explainText
    rw [single_eq_ok.mpr hparse]
    show (if op.kind = .other then _ else _) = _
    rw [hkind, if_neg (by decide)]
  rw [explain_of_statement hsubmit, hexplain]

/-- A statement that writes is reported on with its plan. -/
theorem report_of_modify {op : Operation} {p : Plan} {details : List Plan.Detail}
    (hsubmit : submit text env = (.ok (.statement sql), env'))
    (hparse : parse env'.engine.catalog sql = .ok [op]) (hkind : op.kind = .modify)
    (hplan : op.plan = some p) :
    report Planning.engine text details env
      = (.ok (.success text .modify (explainPlans env'.engine.parallelism details [p])), env') := by
  have hread : Planning.engine.parse sql env'.engine = (.ok [op], env'.engine) :=
    Prod.ext hparse rfl
  have hother : op.kind ≠ .other := by
    rw [hkind]
    exact nofun
  have hreport : Report.ofOperations Planning.engine text details [op] env'.engine
      = (.ok (.success text .modify (explainPlans env'.engine.parallelism details [p])),
        env'.engine) := by
    refine (ofOperation_of_explainable hother env'.engine).trans ?_
    rw [explain_of_plan hplan, hkind]
    rfl
  rw [report_of_statement hsubmit, onEngine_of_eq ((bind_of_ok hread _).trans hreport)]

/-- A submission has the engine that it found. -/
theorem engine_of_submit {left : Remainder} (h : submit text env = (.ok left, env')) :
    env'.engine = env.engine := by
  have hstate := submit_state text env
  rw [h] at hstate
  have hengine := congrArg Environment.engine hstate
  exact hengine

/-- A graph is answered for a submission that leaves one insertion over. -/
theorem graph_eq_ok {doc : Json} (h : graph Planning.engine text env = (.ok doc, env')) :
    ∃ sql op p, submit text env = (.ok (.statement sql), env')
      ∧ parse env.engine.catalog sql = .ok [op] ∧ op.kind = .modify ∧ op.plan = some p
      ∧ doc = document
        (StreamGraph.ofTransformations (Plan.translate env.engine.parallelism [p])).written := by
  unfold graph at h
  obtain ⟨left, env₁, hsubmit, h⟩ := Run.bind_eq_ok.mp h
  cases left with
  | definitions => cases h
  | listing _ => cases h
  | statement sql =>
      have hengine := engine_of_submit hsubmit
      cases hrun : (Planning.engine.parse sql >>= graphOf Planning.engine) env₁.engine with
      | mk result s =>
          obtain ⟨hresult, henv⟩ := Prod.mk.inj ((onEngine_of_eq hrun).symm.trans h)
          rw [hresult] at hrun
          obtain ⟨ops, t, hparse, hgraph⟩ := Run.bind_eq_ok.mp hrun
          obtain ⟨hops, rfl⟩ := Prod.mk.inj hparse
          obtain ⟨op, p, rfl, hkind, hplan, rfl, hdoc⟩ := graphOf_eq_ok hgraph
          subst henv
          rw [← hengine]
          exact ⟨sql, op, p, hsubmit, hops, hkind, hplan, hdoc⟩

/-- What has a plan and writes is an insertion: the other statements that write have none. -/
theorem insertion_of_plan {c : Catalog} {op : Operation} {p : Plan}
    (hparse : parse c sql = .ok [op]) (hkind : op.kind = .modify) (hplan : op.plan = some p) :
    ∃ insertion, op.statement = .insert insertion := by
  obtain ⟨_, -, -, made⟩ := exists_of_mem_parse hparse List.mem_cons_self
  have hkind := made.kind ▸ hkind
  have hplan := hplan ▸ made.plan
  cases hstatement : op.statement with
  | insert insertion => exact ⟨insertion, rfl⟩
  | modify _ =>
      rw [hstatement] at hplan
      cases hplan
  | _ =>
      rw [hstatement] at hkind
      cases hkind

/-! ### The document -/

/-- The numbers of a graph with so few steps fit. -/
theorem fits_translated {parallelism : Nat} (hparallelism : parallelism < Nat.pow 2 32) {p : Plan}
    (hlength : (Plan.translate parallelism [p]).length < Nat.pow 2 64) :
    (StreamGraph.ofTransformations (Plan.translate parallelism [p])).Fits := by
  refine StreamGraph.fits_ofTransformations hparallelism ?_
  rw [← @Plan.length_inputTransformations parallelism [p] 0]
  exact hlength

/-- The document of a graph is the one that was written, and holds the graph. -/
theorem document_written {g : StreamGraph} (hg : g.Fits) :
    (Json.read? g.written).map Json.canonical = some (document g.written)
      ∧ StreamGraph.ofJson? (document g.written) = some g := by
  have hread := (StreamGraph.read?_written hg).1
  have hordered : document g.written = g.json.canonical := by
    rw [document, hread]
    rfl
  rw [hread, hordered]
  exact ⟨rfl, (StreamGraph.ofJson?_json hg).2⟩

/--
**The document of a graph is faithful.**  A graph whose numbers are machine numbers, of 64 bits
and for the parallelism of 32, is read back from what is written of it.  So where an
environment answers with the graph of a submission, the submission left one insertion
over, the document holds the graph of its translation, and the text it was read from is
what an explanation with the execution plan adds to one without, in words or in a
report.
-/
theorem graph_document :
    (∀ g : StreamGraph, g.Fits → StreamGraph.read? g.written = some g)
    ∧ ∀ (env env' : Environment State) (text : String) (doc : Json),
      env.engine.parallelism < Nat.pow 2 32 →
      graph Planning.engine text env = (.ok doc, env') →
      ∃ sql op insertion steps,
        submit text env = (.ok (.statement sql), env')
        ∧ parse env.engine.catalog sql = .ok [op]
        ∧ op.statement = .insert insertion
        ∧ translate env.engine [op] = .ok steps
        ∧ (steps.length < Nat.pow 2 64 →
            (Json.read? (StreamGraph.ofTransformations steps).written).map Json.canonical = some doc
            ∧ StreamGraph.ofJson? doc = some (StreamGraph.ofTransformations steps))
        ∧ ∀ details, .jsonExecutionPlan ∈ details → ∃ plain plan,
          plan = "\n== Physical Execution Plan ==\n"
            ++ (StreamGraph.ofTransformations steps).written ++ "\n"
          ∧ explain Planning.engine text (details.filter (· ≠ .jsonExecutionPlan)) env
            = (.ok plain, env')
          ∧ explain Planning.engine text details env = (.ok (plain ++ plan), env')
          ∧ report Planning.engine text details env
            = (.ok (Report.success text .modify (plain ++ plan)), env') := by
  refine ⟨fun g hg => (StreamGraph.read?_written hg).2, ?_⟩
  intro env env' text doc hparallelism h
  obtain ⟨sql, op, p, hsubmit, hparse, hkind, hplan, hdoc⟩ := graph_eq_ok h
  have hengine := engine_of_submit hsubmit
  obtain ⟨insertion, hinsertion⟩ := insertion_of_plan hparse hkind hplan
  refine ⟨sql, op, insertion, _, hsubmit, hparse, hinsertion, translate_of_plan hkind hplan, ?_, ?_⟩
  · intro hlength
    rw [hdoc]
    exact document_written (fits_translated hparallelism hlength)
  · intro details hdetails
    have hparse' : parse env'.engine.catalog sql = .ok [op] := by rwa [hengine]
    have hsplit := @explainPlans_executionPlan env.engine.parallelism _ hdetails [p]
    refine ⟨_, _, rfl, explain_of_modify hsubmit hparse' hkind hplan, ?_, ?_⟩
    · rw [explain_of_modify hsubmit hparse' hkind hplan, hengine, hsplit]
      rfl
    · rw [report_of_modify hsubmit hparse' hkind hplan, hengine, hsplit]
      rfl

/-- A node with quotes and control characters in its texts, and an insertion with a fragment that
has them. -/
theorem graph_document_quotes :
    StreamGraph.read? (StreamGraph.mk
        [⟨7, "a \"b\"\\", "\n\t\u0001\u007f", "é𝄞", 2, [⟨3, .hash, "second"⟩]⟩]).written
      = some ⟨[⟨7, "a \"b\"\\", "\n\t\u0001\u007f", "é𝄞", 2, [⟨3, .hash, "second"⟩]⟩]⟩
    ∧ ∃ doc env', graph Planning.engine
        "x := 'q\"\n'; INSERT INTO a SELECT i FROM a WHERE i = $\x7bx\x7d" (.new oneTable)
        = (.ok doc, env')
      ∧ ∃ steps, StreamGraph.ofJson? doc = some (StreamGraph.ofTransformations steps)
        ∧ steps.map (fun t => (t.id, t.name, t.inputs.map (·.id)))
          = [(1, "TableSourceScan(table=[[default_catalog, default_database, a]], fields=[i])", []),
            (2, "Calc(where=[i = 'q\"\n'])", [1]), (3, "Calc(select=[i])", [2]),
            (4, "Sink(table=[default_catalog.default_database.a], fields=[i])", [3])] := by
  constructor
  · refine graph_document.1 _ fun n hn => ?_
    rw [List.mem_singleton.mp hn]
    exact ⟨by decide, by decide, by decide⟩
  · have hanswer : (graph Planning.engine
        "x := 'q\"\n'; INSERT INTO a SELECT i FROM a WHERE i = $\x7bx\x7d"
        (.new oneTable)).1.toOption.isSome = true := by decide +kernel
    have hleft : (submit "x := 'q\"\n'; INSERT INTO a SELECT i FROM a WHERE i = $\x7bx\x7d"
          (.new oneTable)).1
        = .ok (.statement "INSERT INTO a SELECT i FROM a WHERE i = 'q\"\n'") := by
      decide +kernel
    have hsteps : (List.map fun t : Transformation => (t.id, t.name, t.inputs.map (·.id)))
          <$> (parse oneTable.catalog "INSERT INTO a SELECT i FROM a WHERE i = 'q\"\n'"
            >>= translate oneTable)
        = .ok [
            (1, "TableSourceScan(table=[[default_catalog, default_database, a]], fields=[i])", []),
            (2, "Calc(where=[i = 'q\"\n'])", [1]), (3, "Calc(select=[i])", [2]),
            (4, "Sink(table=[default_catalog.default_database.a], fields=[i])", [3])] := by
      decide +kernel
    cases hrun : graph Planning.engine
        "x := 'q\"\n'; INSERT INTO a SELECT i FROM a WHERE i = $\x7bx\x7d" (.new oneTable) with
    | mk result env' =>
        rw [hrun] at hanswer
        cases result with
        | error e => cases hanswer
        | ok doc =>
            obtain ⟨sql, op, insertion, steps, hsubmit, hparse, -, htranslate, hdoc, -⟩ :=
              graph_document.2 _ _ _ _ (by decide) hrun
            rw [hsubmit] at hleft
            cases hleft
            have hplanned : (parse oneTable.catalog
                "INSERT INTO a SELECT i FROM a WHERE i = 'q\"\n'" >>= translate oneTable)
                = .ok steps := bind_eq_ok.mpr ⟨_, hparse, htranslate⟩
            rw [hplanned] at hsteps
            have hnames := Except.ok.inj hsteps
            have hlength : steps.length = 4 := by
              have := congrArg List.length hnames
              simpa using this
            exact ⟨doc, env', rfl, steps, (hdoc (by rw [hlength]; decide)).2, hnames⟩

end Environment
end Stencil
