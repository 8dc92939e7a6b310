/-
Three ways to an explanation.

A statement is explained in words, in a report, or by running an EXPLAIN in front of it.
Each of the three reads the statement, counts and classifies what it has read, and asks
for the plan on its own.  Each of them is taken back to the one operation that it explains,
and what is left is the same `Planning.explain` of that operation.
-/
import Stencil.Proofs.Environment.Document
import Stencil.Proofs.Environment.Reports
import Stencil.Proofs.Environment.Script

namespace Stencil

/-- The row that an EXPLAIN yields. -/
def TableResult.ofExplanation (answer : String) : TableResult :=
  .withRows [⟨"result", "STRING"⟩] [[.text answer]]

namespace Planning

open Run Sql

variable {s : State} {op : Operation} {st : Statement} {sql sql' lead answer : String}
  {details : List Plan.Detail}

/-! ### In words -/

/-- An explanation in words is that of the only operation, which is no definition. -/
theorem explainText_eq_ok :
    explainText s sql details = .ok answer
      ↔ ∃ op, parse s.catalog sql = .ok [op] ∧ op.kind ≠ .other
        ∧ Planning.explain s [op] details = .ok answer := by
  unfold explainText
  rw [bind_eq_ok]
  constructor
  · rintro ⟨op, hsingle, h⟩
    refine ⟨op, single_eq_ok.mp hsingle, ?_⟩
    by_cases hkind : op.kind = .other
    · rw [if_pos hkind] at h
      cases h
    · rw [if_neg hkind] at h
      exact ⟨hkind, h⟩
  · rintro ⟨op, hparse, hkind, h⟩
    exact ⟨op, single_eq_ok.mpr hparse, (if_neg hkind).trans h⟩

/-! ### By running an EXPLAIN -/

/-- The statement has a plan of its own. -/
def isPlanned : Statement → Bool
  | .query _ | .insert _ => true
  | _ => false

theorem kindOf_of_isPlanned (h : isPlanned st = true) : kindOf st ≠ .other := by
  cases st with
  | query _ => exact nofun
  | insert _ => exact nofun
  | _ => cases h

theorem planned_of_isPlanned (h : isPlanned st = true) : planned st = st := by
  cases st with
  | query _ => rfl
  | insert _ => rfl
  | _ => cases h

/-- A query or an insertion that is read has been planned. -/
theorem exists_plan_of_operation {c : Catalog} (h : isPlanned st = true)
    (hop : operation c st = .ok op) : ∃ p, op.plan = some p := by
  have hplan := (madeOf_of_operation hop).plan
  rw [planned_of_isPlanned h] at hplan
  cases st with
  | query q =>
      obtain ⟨p, -, hp⟩ := map_eq_ok.mp hplan
      exact ⟨p, hp.symm⟩
  | insert insertion =>
      obtain ⟨p, -, hp⟩ := map_eq_ok.mp hplan
      exact ⟨p, hp.symm⟩
  | _ => cases h

/-- The operation that explains another. -/
def Operation.explaining (lead : String) (op : Operation) : Operation :=
  ⟨.explain, .explain lead op.statement, op.plan⟩

/-- An EXPLAIN is read as its statement is. -/
theorem operation_explain (c : Catalog) (h : isPlanned st = true) (lead : String) :
    operation c (.explain lead st) = Operation.explaining lead <$> operation c st := by
  unfold operation
  rw [planned_of_isPlanned h]
  show (Plan.ofStatement c st >>= _) = _ <$> (Plan.ofStatement c st >>= _)
  cases Plan.ofStatement c st <;> rfl

/-- Running an EXPLAIN yields the explanation without details. -/
theorem run_explaining {p : Plan} (hplan : op.plan = some p) (lead : String) (s : State) :
    run (op.explaining lead) s
      = (.ok (.ofExplanation (explainPlans s.parallelism [] [p])), s) := by
  have hget : (op.explaining lead).getPlan = .ok p := by
    unfold Operation.getPlan Operation.explaining
    rw [hplan]
  show ((do
      let text := explainPlans s.parallelism [] [← (op.explaining lead).getPlan]
      return TableResult.withRows [⟨"result", "STRING"⟩] [[.text text]] :
        Except Error TableResult), s) = _
  rw [hget]
  rfl

/-- A query or an insertion that is read is explained, and so is an EXPLAIN of it. -/
theorem run_explain_of_operation (h : isPlanned st = true)
    (hop : operation s.catalog st = .ok op) (lead : String) :
    ∃ answer op', Planning.explain s [op] [] = .ok answer
      ∧ operation s.catalog (.explain lead st) = .ok op'
      ∧ run op' s = (.ok (.ofExplanation answer), s) := by
  obtain ⟨p, hplan⟩ := exists_plan_of_operation h hop
  refine ⟨_, op.explaining lead, Environment.explain_of_plan hplan [], ?_,
    run_explaining hplan lead s⟩
  rw [operation_explain s.catalog h lead, hop]
  rfl

/-- A text with an EXPLAIN runs as the statement behind it is explained, also where reading
the statement fails. -/
theorem execute_explanation (h : isPlanned st = true) (hread : Statement.readAll sql = .ok [st])
    (hread' : Statement.readAll sql' = .ok [.explain lead st]) (s : State) :
    execute sql' s = (TableResult.ofExplanation <$> explainText s sql [], s) := by
  cases hop : operation s.catalog st with
  | error e =>
      have hsingle' : single s.catalog .execute sql' = .error e := by
        rw [single_of_readAll hread', operation_explain s.catalog h lead, hop]
        rfl
      have htext : explainText s sql [] = .error e := by
        unfold explainText
        rw [single_of_readAll hread, hop]
        rfl
      rw [execute_of_error hsingle', htext]
      rfl
  | ok op =>
      obtain ⟨answer, op', hexplain, hop', hrun⟩ := run_explain_of_operation h hop lead
      have htext : explainText s sql [] = .ok answer := by
        refine explainText_eq_ok.mpr ⟨op, ?_, ?_, hexplain⟩
        · rw [parse_of_readAll hread, hop]
          rfl
        · rw [(madeOf_of_operation hop).kind]
          exact kindOf_of_isPlanned h
      rw [execute_of_ok ((single_of_readAll hread').trans hop'), hrun, htext]
      rfl

end Planning

namespace Environment

open Run Planning Sql

variable {env env' : Environment State} {text sql answer : String} {details : List Plan.Detail}
  {kind : Report.Kind}

/-! ### In a report -/

/-- A report of a kind that is explained holds the explanation of the only operation. -/
theorem reporting_eq_success {s : State} (hkind : kind.isExplainable = true) :
    (reporting text details sql s).1 = .ok (.success text kind answer)
      ↔ ∃ op, parse s.catalog sql = .ok [op] ∧ kind = .ofOperation op.kind
        ∧ Planning.explain s [op] details = .ok answer := by
  constructor
  · intro h
    obtain ⟨ops, t, hread, hops⟩ := Run.bind_eq_ok.mp (eq_of_answer h)
    obtain ⟨hparse, rfl⟩ := Prod.mk.inj hread
    rcases ops with _ | ⟨op, _ | ⟨op', rest⟩⟩
    · cases hops
    · have hof : kind = .ofOperation op.kind :=
        Option.some.inj (ofOperation_kind (congrArg Prod.fst hops))
      have hother := Report.Kind.isExplainable_ofOperation.mp (hof ▸ hkind)
      obtain ⟨hexplain, -⟩ := Prod.mk.inj ((ofOperation_of_explainable hother s).symm.trans hops)
      obtain ⟨answer', hanswer, hreport⟩ := map_eq_ok.mp hexplain
      cases hreport
      exact ⟨op, hparse, rfl, hanswer⟩
    · cases hops
  · rintro ⟨op, hparse, rfl, hexplain⟩
    have hother := Report.Kind.isExplainable_ofOperation.mp hkind
    rw [reporting_of_parse hparse]
    refine (congrArg Prod.fst (ofOperation_of_explainable hother s)).trans ?_
    rw [hexplain]
    rfl

/-- What the engine explains in words it explains in a report. -/
theorem explainText_eq_ok_iff_reporting (text : String) {s : State} :
    explainText s sql details = .ok answer
      ↔ ∃ kind : Report.Kind, kind.isExplainable = true
        ∧ (reporting text details sql s).1 = .ok (.success text kind answer) := by
  rw [explainText_eq_ok]
  constructor
  · rintro ⟨op, hparse, hother, hexplain⟩
    have hkind := Report.Kind.isExplainable_ofOperation.mpr hother
    exact ⟨_, hkind, (reporting_eq_success hkind).mpr ⟨op, hparse, rfl, hexplain⟩⟩
  · rintro ⟨kind, hkind, hreport⟩
    obtain ⟨op, hparse, rfl, hexplain⟩ := (reporting_eq_success hkind).mp hreport
    exact ⟨op, hparse, Report.Kind.isExplainable_ofOperation.mp hkind, hexplain⟩

/-! ### Submissions -/

theorem report_eq_ok_of_statement {r : Report} {env₁ : Environment State}
    (hsub : submit text env = (.ok (.statement sql), env₁)) :
    report Planning.engine text details env = (.ok r, env')
      ↔ (reporting text details sql env₁.engine).1 = .ok r ∧ env₁ = env' := by
  have hreads := reads_reporting text details sql env₁.engine
  rw [report_of_statement hsub]
  show onEngine (reporting text details sql) env₁ = _ ↔ _
  rw [Prod.ext_iff, onEngine_of_unchanged hreads, onEngine_answer]

/-- A submission that leaves something over is explained in words if and only if it is explained
in a report. -/
theorem explain_eq_ok_iff_report (h : (submit text env).1 ≠ .ok .definitions) :
    explain Planning.engine text details env = (.ok answer, env')
      ↔ ∃ kind : Report.Kind, kind.isExplainable = true
        ∧ report Planning.engine text details env
          = (.ok (.success text kind answer), env') := by
  cases hsub : submit text env with
  | mk result env₁ =>
      rw [hsub] at h
      cases result with
      | error e =>
          have hexplain : explain Planning.engine text details env = (.error e, env₁) :=
            bind_of_error hsub _
          rw [hexplain, report_of_error hsub]
          exact ⟨nofun, nofun⟩
      | ok left =>
          cases left with
          | definitions => exact absurd rfl h
          | listing sql =>
              have hexplain : explain Planning.engine text details env
                  = (.error .listingNotExplainable, env₁) := bind_of_ok hsub _
              rw [hexplain, report_of_listing hsub]
              exact ⟨nofun, nofun⟩
          | statement sql =>
              rw [explain_of_statement hsub, Prod.mk.injEq, explainText_eq_ok_iff_reporting text]
              constructor
              · rintro ⟨⟨kind, hkind, hr⟩, henv⟩
                exact ⟨kind, hkind, (report_eq_ok_of_statement hsub).mpr ⟨hr, henv⟩⟩
              · rintro ⟨kind, hkind, hreport⟩
                obtain ⟨hr, henv⟩ := (report_eq_ok_of_statement hsub).mp hreport
                exact ⟨⟨kind, hkind, hr⟩, henv⟩

/--
**The explanations agree.**  A submission that does more than define fragments is explained in
words if and only if it is reported on as a success of a kind that is explained, with that
explanation and to the same effect.  A query or an insertion that is read has an explanation,
and running an EXPLAIN of it yields one row, which holds the explanation without details.
What comes of a text with the EXPLAIN is what comes of explaining a text without it, failures
included.
-/
theorem explanations_agree :
    (∀ (env : Environment State) (text : String) (details : List Plan.Detail),
      (submit text env).1 ≠ .ok .definitions →
        (∀ answer env', explain Planning.engine text details env = (.ok answer, env')
          ↔ ∃ kind : Report.Kind, kind.isExplainable = true
            ∧ report Planning.engine text details env = (.ok (.success text kind answer), env'))
        ∧ ∀ r kind env', report Planning.engine text details env = (.ok r, env') →
          r.kind = some kind → kind.isExplainable = true →
          ∃ answer, explain Planning.engine text details env = (.ok answer, env')
            ∧ r.explanation = some answer ∧ r.sql = text ∧ r.parsed = true ∧ r.explained = true)
    ∧ ∀ (s : State) (st : Statement) (lead : String), isPlanned st = true →
        (∀ op, operation s.catalog st = .ok op →
          ∃ answer op', Planning.explain s [op] [] = .ok answer
            ∧ operation s.catalog (.explain lead st) = .ok op'
            ∧ run op' s = (.ok (.ofExplanation answer), s))
        ∧ ∀ sql sql', Statement.readAll sql = .ok [st] →
          Statement.readAll sql' = .ok [.explain lead st] →
          Planning.execute sql' s = (TableResult.ofExplanation <$> explainText s sql [], s) := by
  constructor
  · intro env text details h
    have hiff : ∀ answer env', explain Planning.engine text details env = (.ok answer, env')
        ↔ ∃ kind : Report.Kind, kind.isExplainable = true
          ∧ report Planning.engine text details env = (.ok (.success text kind answer), env') :=
      fun _ _ => explain_eq_ok_iff_report h
    refine ⟨hiff, fun r kind env' hreport hsome hkind => ?_⟩
    obtain ⟨kind', answer, rfl⟩ := success_of_report hreport
    cases hsome
    exact ⟨answer, (hiff answer env').mpr ⟨kind, hkind, hreport⟩, rfl, rfl, rfl, rfl⟩
  · intro s st lead h
    exact ⟨fun op hop => run_explain_of_operation h hop lead,
      fun sql sql' hread hread' => execute_explanation h hread hread' s⟩

/-- One row with a number is put into the table `a`. -/
def oneRow : Statement :=
  .insert ⟨"INSERT INTO", [.plain "a"], [], [],
    some ⟨false, [], .values false [[.literal (.number "1" false)]], [], [], none, none, "", [],
      none, []⟩, [.words ""]⟩

/-- The statements are `oneRow` and nothing else. -/
def isOneRow : List Statement → Bool
  | [.insert ⟨"INSERT INTO", [⟨"a", none⟩], [], [],
      some ⟨false, [], .values false [[.literal (.number "1" false)]], [], [], none, none, "", [],
        none, []⟩, [.words ""]⟩] => true
  | _ => false

/-- The statements are an EXPLAIN of `oneRow` and nothing else. -/
def isExplainedOneRow : List Statement → Bool
  | [.explain "EXPLAIN" st] => isOneRow [st]
  | _ => false

theorem eq_oneRow {statements : List Statement} (h : isOneRow statements = true) :
    statements = [oneRow] := by
  unfold isOneRow at h
  split at h
  · rfl
  · cases h

theorem eq_explained_oneRow {statements : List Statement}
    (h : isExplainedOneRow statements = true) : statements = [.explain "EXPLAIN" oneRow] := by
  unfold isExplainedOneRow at h
  split at h
  · rename_i st
    rw [(List.cons.inj (eq_oneRow h)).1]
  · cases h

theorem readAll_oneRow : Statement.readAll "INSERT INTO a VALUES (1)" = .ok [oneRow] := by
  have h : isOneRow <$> Statement.readAll "INSERT INTO a VALUES (1)" = .ok true := by
    decide +kernel
  obtain ⟨statements, hread, hrow⟩ := map_eq_ok.mp h
  rw [hread, eq_oneRow hrow]

theorem readAll_explain_oneRow :
    Statement.readAll "EXPLAIN INSERT INTO a VALUES (1)" = .ok [.explain "EXPLAIN" oneRow] := by
  have h : isExplainedOneRow <$> Statement.readAll "EXPLAIN INSERT INTO a VALUES (1)"
      = .ok true := by decide +kernel
  obtain ⟨statements, hread, hrow⟩ := map_eq_ok.mp h
  rw [hread, eq_explained_oneRow hrow]

/-- The table is named by a fragment, and the plan of its execution is asked for.  The row that an
EXPLAIN yields holds the explanation of the insertion behind it, in texts and in statements. -/
theorem explanations_agree_insertion :
    (∃ answer env', explain Planning.engine "t := a; INSERT INTO $\x7bt\x7d SELECT i FROM a"
          [.jsonExecutionPlan] (.new oneTable) = (.ok answer, env')
        ∧ report Planning.engine "t := a; INSERT INTO $\x7bt\x7d SELECT i FROM a"
          [.jsonExecutionPlan] (.new oneTable)
          = (.ok (.success "t := a; INSERT INTO $\x7bt\x7d SELECT i FROM a" .modify answer), env'))
      ∧ (∃ answer, explainText oneTable "INSERT INTO a VALUES (1)" [] = .ok answer
        ∧ Planning.execute "EXPLAIN INSERT INTO a VALUES (1)" oneTable
          = (.ok (.ofExplanation answer), oneTable))
      ∧ ∃ answer op op', operation oneTable.catalog oneRow = .ok op
        ∧ operation oneTable.catalog (.explain "EXPLAIN" oneRow) = .ok op'
        ∧ Planning.explain oneTable [op] [] = .ok answer
        ∧ run op' oneTable = (.ok (.ofExplanation answer), oneTable) := by
  refine ⟨?_, ?_, ?_⟩
  · have hleft : (submit "t := a; INSERT INTO $\x7bt\x7d SELECT i FROM a" (.new oneTable)).1
        ≠ .ok .definitions := by decide +kernel
    have hkind : (report Planning.engine "t := a; INSERT INTO $\x7bt\x7d SELECT i FROM a"
        [.jsonExecutionPlan] (.new oneTable)).1.toOption.bind Report.kind = some .modify := by
      decide +kernel
    cases hreport : report Planning.engine "t := a; INSERT INTO $\x7bt\x7d SELECT i FROM a"
        [.jsonExecutionPlan] (.new oneTable) with
    | mk result env' =>
        rw [hreport] at hkind
        cases result with
        | error e => cases hkind
        | ok r =>
            obtain ⟨answer, hexplain, -⟩ :=
              (explanations_agree.1 _ _ _ hleft).2 r .modify env' hreport hkind rfl
            obtain ⟨kind, hexplainable, hsuccess⟩ :=
              ((explanations_agree.1 _ _ _ hleft).1 answer env').mp hexplain
            rw [hreport] at hsuccess
            cases hsuccess
            cases hkind
            exact ⟨answer, env', hexplain, rfl⟩
  · have hexecute := (explanations_agree.2 oneTable oneRow "EXPLAIN" rfl).2 _ _ readAll_oneRow
      readAll_explain_oneRow
    cases hexplain : explainText oneTable "INSERT INTO a VALUES (1)" [] with
    | error e =>
        have hexplained : (explainText oneTable "INSERT INTO a VALUES (1)" []).toOption.isSome
            = true := by decide +kernel
        rw [hexplain] at hexplained
        cases hexplained
    | ok answer =>
        rw [hexplain] at hexecute
        exact ⟨answer, rfl, hexecute⟩
  · cases hop : operation oneTable.catalog oneRow with
    | error e =>
        have hread : (operation oneTable.catalog oneRow).toOption.isSome = true := by
          decide +kernel
        rw [hop] at hread
        cases hread
    | ok op =>
        obtain ⟨answer, op', hexplain, hop', hrun⟩ :=
          (explanations_agree.2 oneTable oneRow "EXPLAIN" rfl).1 op hop
        exact ⟨answer, op, op', rfl, hop', hexplain, hrun⟩

end Environment
end Stencil
