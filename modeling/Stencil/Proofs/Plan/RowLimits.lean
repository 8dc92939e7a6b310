/-
Row limits in plans.

A query that puts its rows in order or cuts them to size is planned with an operator for that, and
no other operator of the kind comes into a plan: the induction over the query lines up these
operators with the stages of the query (`sorts_ofQuery`).  Such an operator has the limit of its
stage if that is written as LIMIT.  A number of rows to be fetched is not looked at, at any depth,
so it never limits anything.
-/
import Mathlib.Data.List.Basic
import Stencil.Proofs.Keyed
import Stencil.Proofs.Plan.Folding
import Stencil.Proofs.Plan.Heeded
import Stencil.Proofs.Plan.Nodes
import Stencil.Proofs.Plan.Targets
import Stencil.Proofs.Sql.Stages

namespace Stencil.Plan

open Sql

variable {c : Catalog} {scope : Scope} {stages : StageScope} {left right p r : Plan} {q : Query}

/-! ### Operators that sort -/

/-- The operator puts rows in order or cuts them to size. -/
def Operator.isSort : Operator → Bool
  | .sort .. => true
  | _ => false

/-- The operator cuts rows to a limit. -/
def Operator.limits : Operator → Bool
  | .sort _ _ (some _) => true
  | _ => false

/-- The operators of a plan that put rows in order or cut them to size, as they run. -/
def sorts (p : Plan) : List Operator := (p.nodes.filter (·.operator.isSort)).map (·.operator)

theorem sorts_eq (p : Plan) :
    p.sorts = p.inputs.flatMap sorts ++ [p.operator].filter Operator.isSort := by
  unfold sorts
  rw [filter_nodes, List.map_append, List.map_flatMap, List.filter_cons, List.filter_cons]
  split <;> rfl

theorem sorts_of_not_isSort (h : p.operator.isSort = false) :
    p.sorts = p.inputs.flatMap sorts := by
  rw [sorts_eq, List.filter_cons, if_neg (by simp [h]), List.filter_nil, List.append_nil]

theorem sorts_above {op : Operator} (hop : op.isSort = false) : (p.above op).sorts = p.sorts := by
  rw [sorts_of_not_isSort (p := p.above op) hop]
  simp [above]

theorem sorts_both {op : Operator} (hop : op.isSort = false) (fields : List Field) :
    (Plan.mk op [left, right] fields).sorts = left.sorts ++ right.sorts := by
  rw [sorts_of_not_isSort hop]
  simp

/-- The name that a relation is seen under is none of the operator. -/
theorem sorts_requalified (p : Plan) (name : String) : (p.requalified name).sorts = p.sorts := by
  rw [sorts_eq, sorts_eq p]
  rfl

theorem sorts_joined (left right : Plan) (mode : JoinMode) (condition : Option String) :
    (joined left right mode condition).sorts = left.sorts ++ right.sorts := sorts_both rfl _

theorem sorts_filtered (p : Plan) (condition : Option Expr) :
    (filtered p condition).sorts = p.sorts := by
  cases condition with
  | none => rfl
  | some e => exact sorts_above rfl

theorem sorts_of_selected? {condition : Option Expr} (h : selected? p condition = .ok r) :
    r.sorts = p.sorts := by
  cases condition with
  | none =>
      cases h
      rfl
  | some e =>
      obtain ⟨_, -, h⟩ := bind_eq_ok.mp h
      cases h
      exact sorts_above rfl

theorem sorts_distinctRows (p : Plan) (distinct : Bool) :
    (distinctRows p distinct).sorts = p.sorts := by
  cases distinct with
  | false => rfl
  | true => exact sorts_above rfl

theorem sorts_projected (p : Plan) (items : List Projected) (grouping : Grouping) :
    (projected c p items grouping).sorts = p.sorts := by
  unfold projected
  dsimp only
  split
  · rw [sorts_of_not_isSort rfl]
    simp
  · rw [sorts_of_not_isSort rfl]
    simp

theorem sorts_of_combined {op : SetOperator} {quantifier : SetQuantifier}
    (h : combined op quantifier left right = .ok p) : p.sorts = left.sorts ++ right.sorts := by
  unfold combined at h
  split at h
  · cases h
    exact sorts_both rfl _
  · cases h

theorem sorts_of_valuesOf {rows : List (List Expr)} (h : valuesOf rows = .ok p) : p.sorts = [] := by
  cases rows with
  | nil => cases h
  | cons first rest =>
      cases h
      exact sorts_of_not_isSort rfl

/-! ### Stages -/

/-- The operator for a stage under a limit, or none if it neither orders nor cuts its rows. -/
def sorting (limit : Option Expr) (q : Query) : List Operator :=
  if q.order.isEmpty && q.offset.isNone && limit.isNone then []
  else [.sort (q.order.map sortKey) (q.offset.map Expr.written) (limit.map Expr.written)]

/-- The operators for some stages, each under a limit of its own. -/
def sortings (limit : Query → Option Expr) (stages : List Query) : List Operator :=
  stages.flatMap fun q => sorting (limit q) q

theorem sortings_append (limit : Query → Option Expr) (before after : List Query) :
    sortings limit (before ++ after) = sortings limit before ++ sortings limit after :=
  List.flatMap_append

theorem sortings_singleton (limit : Query → Option Expr) (q : Query) :
    sortings limit [q] = sorting (limit q) q := List.flatMap_singleton _ q

theorem sorts_sorted (p : Plan) (q : Query) (limit : Option Expr) :
    (sorted p q.order q.offset limit).sorts = p.sorts ++ sorting limit q := by
  unfold sorted sorting
  split
  · rw [List.append_nil]
  · rw [sorts_eq]
    simp [above, Operator.isSort]

/-- The operators that sort, in the plan of each query in scope, are those of its stages. -/
def AtStages (scope : Scope) (stages : StageScope) : Prop :=
  Keyed.Related (fun p list => p.sorts = sortings Query.limit list) scope stages

theorem sorts_of_relation (h : AtStages scope stages) {name : QualifiedName} {visible : String}
    (hp : relation c scope (QualifiedName.texts name) visible = .ok p) :
    p.sorts = sortings Query.limit (stagesOfName stages name) := by
  cases found_of_relation hp with
  | @named n q hfind =>
      obtain ⟨list, hlist, hq⟩ := h.of_some hfind
      rw [sorts_requalified, stagesOfName, hlist]
      exact hq
  | scanned hfree hscan =>
      obtain ⟨path, object, -, -, rfl⟩ := scanned_eq_ok hscan
      have hnone : stagesOfName stages name = [] := by
        unfold stagesOfName
        split
        · rw [h.of_none (hfree _ rfl)]
          rfl
        · rfl
      rw [hnone]
      exact sorts_of_not_isSort rfl

mutual

theorem sorts_ofQuery : ∀ (q : Query) {scope : Scope} {stages : StageScope} {p : Plan},
    AtStages scope stages → ofQuery c scope q = .ok p →
      p.sorts = sortings Query.limit (q.stages stages)
  | ⟨recursive, ctes, body, order, interpolation, limit, offset, offsetUnit, limitTail, fetch,
      tail⟩, scope, stages, p, h, hp => by
    rw [ofQuery] at hp
    obtain ⟨inner, hinner, hp⟩ := bind_eq_ok.mp hp
    obtain ⟨r, hr, hp⟩ := bind_eq_ok.mp hp
    cases hp
    rw [Query.stages, sortings_append, sortings_singleton,
      ← sorts_ofBody body (atStages_scopeOf ctes h hinner) hr]
    exact sorts_sorted r ⟨recursive, ctes, body, order, interpolation, limit, offset, offsetUnit,
      limitTail, fetch, tail⟩ limit

theorem atStages_scopeOf : ∀ (ctes : List Cte) {scope inner : Scope} {stages : StageScope},
    AtStages scope stages → scopeOf c scope ctes = .ok inner →
      AtStages inner (stageScope stages ctes)
  | [], scope, inner, stages, h, hinner => by
    rw [scopeOf] at hinner
    cases hinner
    rw [stageScope]
    exact h
  | ⟨label, query, _⟩ :: rest, scope, inner, stages, h, hinner => by
    rw [scopeOf] at hinner
    obtain ⟨p, hp, hinner⟩ := bind_eq_ok.mp hinner
    rw [stageScope]
    refine atStages_scopeOf rest (Keyed.Related.put h _ ?_) hinner
    rw [sorts_requalified]
    exact sorts_ofQuery query h hp

theorem sorts_ofBody : ∀ (b : Body) {scope : Scope} {stages : StageScope} {p : Plan},
    AtStages scope stages → ofBody c scope b = .ok p →
      p.sorts = sortings Query.limit (b.stages stages)
  | .select s, scope, stages, p, h, hp => by
    rw [ofBody] at hp
    rw [Body.stages]
    exact sorts_ofSelect s h hp
  | .query q, scope, stages, p, h, hp => by
    rw [ofBody] at hp
    rw [Body.stages]
    exact sorts_ofQuery q h hp
  | .setOperation op quantifier left right, scope, stages, p, h, hp => by
    rw [ofBody] at hp
    obtain ⟨l, hl, hp⟩ := bind_eq_ok.mp hp
    obtain ⟨r, hr, hp⟩ := bind_eq_ok.mp hp
    rw [Body.stages, sortings_append, ← sorts_ofBody left h hl, ← sorts_ofBody right h hr]
    exact sorts_of_combined hp
  | .values _ rows, scope, stages, p, h, hp => by
    rw [ofBody] at hp
    rw [Body.stages]
    exact sorts_of_valuesOf hp
  | .other pieces, scope, stages, p, h, hp => by
    rw [ofBody] at hp
    cases hp

theorem sorts_ofSelect : ∀ (s : Select) {scope : Scope} {stages : StageScope} {p : Plan},
    AtStages scope stages → ofSelect c scope s = .ok p →
      p.sorts = sortings Query.limit (s.stages stages)
  | ⟨distinct, _, _, projection, _, sources, _, selection, grouping, _, having, _⟩, scope, stages,
      p, h, hp => by
    rw [ofSelect] at hp
    obtain ⟨source, hsource, hp⟩ := bind_eq_ok.mp hp
    obtain ⟨input, hinput, hp⟩ := bind_eq_ok.mp hp
    obtain ⟨items, -, hp⟩ := bind_eq_ok.mp hp
    cases hp
    rw [Select.stages, sorts_distinctRows, sorts_filtered, sorts_projected,
      sorts_of_selected? hinput]
    exact sorts_ofSources sources h hsource

theorem sorts_ofSources : ∀ (sources : List From) {scope : Scope} {stages : StageScope} {p : Plan},
    AtStages scope stages → ofSources c scope sources = .ok p →
      p.sorts = sortings Query.limit (stagesOfSources stages sources)
  | [], scope, stages, p, h, hp => by
    rw [ofSources] at hp
    cases hp
    rw [stagesOfSources]
    exact sorts_of_not_isSort rfl
  | first :: rest, scope, stages, p, h, hp => by
    rw [ofSources] at hp
    obtain ⟨r, hr, hp⟩ := bind_eq_ok.mp hp
    rw [stagesOfSources, sortings_append, ← sorts_ofFrom first h hr]
    exact sorts_ofMoreSources rest h hp

theorem sorts_ofMoreSources : ∀ (sources : List From) {scope : Scope} {stages : StageScope}
    {left p : Plan}, AtStages scope stages → ofMoreSources c scope left sources = .ok p →
      p.sorts = left.sorts ++ sortings Query.limit (stagesOfSources stages sources)
  | [], scope, stages, left, p, h, hp => by
    rw [ofMoreSources] at hp
    cases hp
    rw [stagesOfSources]
    exact (List.append_nil _).symm
  | item :: rest, scope, stages, left, p, h, hp => by
    rw [ofMoreSources] at hp
    obtain ⟨right, hright, hp⟩ := bind_eq_ok.mp hp
    rw [stagesOfSources, sortings_append, ← List.append_assoc, ← sorts_ofFrom item h hright,
      ← sorts_joined left right .inner none]
    exact sorts_ofMoreSources rest h hp

theorem sorts_ofFrom : ∀ (item : From) {scope : Scope} {stages : StageScope} {p : Plan},
    AtStages scope stages → ofFrom c scope item = .ok p →
      p.sorts = sortings Query.limit (item.stages stages)
  | ⟨factor, joins⟩, scope, stages, p, h, hp => by
    rw [ofFrom] at hp
    obtain ⟨r, hr, hp⟩ := bind_eq_ok.mp hp
    rw [From.stages, sortings_append, ← sorts_ofFactor factor h hr]
    exact sorts_ofJoins joins h hp

theorem sorts_ofJoins : ∀ (joins : List Join) {scope : Scope} {stages : StageScope}
    {left p : Plan}, AtStages scope stages → ofJoins c scope left joins = .ok p →
      p.sorts = left.sorts ++ sortings Query.limit (stagesOfJoins stages joins)
  | [], scope, stages, left, p, h, hp => by
    rw [ofJoins] at hp
    cases hp
    rw [stagesOfJoins]
    exact (List.append_nil _).symm
  | ⟨_, kind, factor, _, constraint⟩ :: rest, scope, stages, left, p, h, hp => by
    rw [ofJoins] at hp
    obtain ⟨right, hright, hp⟩ := bind_eq_ok.mp hp
    obtain ⟨condition, -, hp⟩ := bind_eq_ok.mp hp
    rw [stagesOfJoins, sortings_append, ← List.append_assoc, ← sorts_ofFactor factor h hright,
      ← sorts_joined left right (joinMode kind).1 condition]
    exact sorts_ofJoins rest h hp

theorem sorts_ofFactor : ∀ (factor : Factor) {scope : Scope} {stages : StageScope} {p : Plan},
    AtStages scope stages → ofFactor c scope factor = .ok p →
      p.sorts = sortings Query.limit (factor.stages stages)
  | .table name _ label _, scope, stages, p, h, hp => by
    rw [Factor.stages]
    unfold ofFactor at hp
    exact sorts_of_relation h hp
  | .derived _ query label, scope, stages, p, h, hp => by
    rw [ofFactor] at hp
    obtain ⟨r, hr, hp⟩ := bind_eq_ok.mp hp
    cases hp
    rw [Factor.stages, ← sorts_ofQuery query h hr]
    cases label with
    | none => rfl
    | some a => exact sorts_requalified r a.name.text
  | .nested inner _, scope, stages, p, h, hp => by
    rw [ofFactor] at hp
    rw [Factor.stages]
    exact sorts_ofFrom inner h hp
  | .other pieces label tail, scope, stages, p, h, hp => by
    rw [ofFactor] at hp
    cases hp

end

/-- **The operators that sort, in the plan of a statement, are those of its stages.** -/
theorem sorts_ofStatement {s : Statement} (h : ofStatement c s = .ok (some p)) :
    p.sorts = sortings Query.limit s.stages := by
  cases s with
  | query q =>
      obtain ⟨r, hr, h⟩ := map_eq_ok.mp h
      cases h
      exact sorts_ofQuery q Keyed.related_nil hr
  | insert i =>
      obtain ⟨r, hr, h⟩ := map_eq_ok.mp h
      cases h
      obtain ⟨path, columns, options, source, input, fields, -, -, hsource, hinput, -, -, rfl⟩ :=
        ofInsert_eq_ok_iff.mp hr
      rw [Statement.stages, hsource, sorts_above rfl]
      exact sorts_ofQuery source Keyed.related_nil hinput
  | _ => cases h

/-! ### Limits -/

theorem countP_sorting (limit : Option Expr) (q : Query) :
    (sorting limit q).countP Operator.limits = if limit.isSome then 1 else 0 := by
  unfold sorting
  cases limit with
  | none =>
      split
      · rfl
      · rw [List.countP_cons]
        rfl
  | some n =>
      rw [if_neg (by simp)]
      rfl

/-- As many operators cut rows to a limit as stages have one. -/
theorem countP_sortings (limit : Query → Option Expr) (stages : List Query) :
    (sortings limit stages).countP Operator.limits = stages.countP fun q => (limit q).isSome := by
  induction stages with
  | nil => rfl
  | cons q rest ih =>
      rw [← List.singleton_append, sortings_append, sortings_singleton, List.countP_append,
        countP_sorting, ih, List.countP_append, List.countP_singleton]

theorem rowLimit?_of_some {n : Expr} (h : q.limit = some n) : q.rowLimit? = some n := by
  rw [Query.rowLimit?, h]
  rfl

/-- The operators are those under the row limits if and only if no stage has its limit from a
clause that fetches rows. -/
theorem sortings_limit_eq_iff {stages : List Query} :
    sortings Query.limit stages = sortings Query.rowLimit? stages
      ↔ ∀ q ∈ stages, q.limit = none → q.rowLimit? = none := by
  constructor
  · intro hsame
    have hcount := congrArg (List.countP Operator.limits) hsame
    rw [countP_sortings, countP_sortings, List.countP_eq_length_filter,
      List.countP_eq_length_filter] at hcount
    -- A stage with LIMIT has a row limit, so equal counts leave no room for another one.
    have hsub : (stages.filter fun q => q.limit.isSome).Sublist
        (stages.filter fun q => q.rowLimit?.isSome) := by
      refine List.monotone_filter_right stages fun q hq => ?_
      obtain ⟨n, hn⟩ := Option.isSome_iff_exists.mp hq
      rw [rowLimit?_of_some hn]
      rfl
    have hfilter := hsub.eq_of_length hcount
    intro q hq hlimit
    by_contra hrow
    have hmem : q ∈ stages.filter fun q => q.rowLimit?.isSome :=
      List.mem_filter.mpr ⟨hq, Option.isSome_iff_ne_none.mpr hrow⟩
    rw [← hfilter, List.mem_filter, hlimit] at hmem
    cases hmem.2
  · intro hnone
    refine List.flatMap_congr fun q hq => ?_
    cases hlimit : q.limit with
    | none => rw [hnone q hq hlimit]
    | some n => rw [rowLimit?_of_some hlimit]

/-- The rows of a query before they are put in order. -/
def unsorted (c : Catalog) (scope : Scope) (q : Query) : Except Error Plan := do
  let inner ← scopeOf c scope q.ctes
  ofBody c inner q.body

theorem ofQuery_eq (q : Query) :
    ofQuery c scope q = (sorted · q.order q.offset q.limit) <$> unsorted c scope q := by
  obtain ⟨_, ctes, body, order, _, limit, offset, _, _, _, _⟩ := q
  rw [ofQuery, unsorted, map_bind]
  exact bind_congr fun inner => (map_eq_pure_bind _ _).symm

theorem sorted_ne_limited (r : Plan) (q : Query) (n : Expr) :
    sorted r q.order q.offset none ≠ sorted r q.order q.offset (some n) := by
  intro hsame
  have hsorts := congrArg sorts hsame
  rw [sorts_sorted, sorts_sorted, List.append_cancel_left_eq] at hsorts
  have hcount := congrArg (List.countP Operator.limits) hsorts
  rw [countP_sorting, countP_sorting] at hcount
  cases hcount

/-- A limit stands in the last operator of a plan. -/
theorem operator_of_limitedTo {n : Expr} (h : ofQuery c scope (q.limitedTo n) = .ok p) :
    p.operator
      = .sort (q.order.map sortKey) (q.offset.map Expr.written) (some n.written) := by
  rw [ofQuery_eq] at h
  obtain ⟨r, -, rfl⟩ := map_eq_ok.mp h
  unfold sorted
  rw [if_neg (by simp [Query.limitedTo])]
  rfl

/-- Rows to be fetched are limited only where there is no plan at all. -/
theorem ofQuery_fetching_eq_iff (hlimit : q.limit = none) (n : Expr) :
    ofQuery c scope (q.fetching n) = ofQuery c scope (q.limitedTo n)
      ↔ ∃ e, ofQuery c scope q = .error e := by
  rw [ofQuery_eq (q.fetching n), ofQuery_eq (q.limitedTo n), ofQuery_eq q]
  have hfetching : unsorted c scope (q.fetching n) = unsorted c scope q := rfl
  have hlimited : unsorted c scope (q.limitedTo n) = unsorted c scope q := rfl
  rw [hfetching, hlimited]
  cases unsorted c scope q with
  | error e => exact ⟨fun _ => ⟨e, rfl⟩, fun _ => rfl⟩
  | ok r =>
      constructor
      · intro hsame
        have hplans : sorted r q.order q.offset q.limit = sorted r q.order q.offset (some n) :=
          Except.ok.inj hsame
        rw [hlimit] at hplans
        exact absurd hplans (sorted_ne_limited r q n)
      · rintro ⟨e, he⟩
        cases he

/--
**What becomes of row limits.**  The operators of a plan that put rows in order or cut them to
size are those of the stages of the statement, at whatever depth, each with the number in LIMIT.
They are those under the row limits if and only if no stage has its row limit from a clause that
fetches rows.  What is passed over, and FETCH with it, makes no difference at any depth.  And a
query without LIMIT has the plan with rows to be fetched that it has without; with LIMIT, that
is the limit of the last operator, and the outcome is another one whenever the query is accepted.
-/
theorem row_limits (c : Catalog) :
    (∀ s p, ofStatement c s = .ok (some p) →
        p.sorts = sortings Query.limit s.stages
          ∧ (p.sorts = sortings Query.rowLimit? s.stages
            ↔ ∀ q ∈ s.stages, q.limit = none → q.rowLimit? = none))
      ∧ (∀ s s' : Statement, s.heeded = s'.heeded → ofStatement c s = ofStatement c s')
      ∧ ∀ scope q n, q.limit = none →
          ofQuery c scope (q.fetching n) = ofQuery c scope q
            ∧ (∀ p, ofQuery c scope (q.limitedTo n) = .ok p →
              p.operator
                = .sort (q.order.map sortKey) (q.offset.map Expr.written) (some n.written))
            ∧ (ofQuery c scope (q.fetching n) = ofQuery c scope (q.limitedTo n)
              ↔ ∃ e, ofQuery c scope q = .error e) := by
  refine ⟨fun s p h => ?_, fun s s' hheeded => ofStatement_eq_of_heeded_eq hheeded,
    fun scope q n hlimit => ⟨?_, fun p h => operator_of_limitedTo h, ?_⟩⟩
  · rw [sorts_ofStatement h]
    exact ⟨rfl, sortings_limit_eq_iff⟩
  · rw [ofQuery_eq, ofQuery_eq q]
    rfl
  · exact ofQuery_fetching_eq_iff hlimit n

/-- The rows of the table `a`. -/
def rowsOfA : Query := plainly (.select (selecting false (.name (.plain "i"))))

/-- The first five of the first two rows. -/
def fiveOfTwo : Query :=
  Query.fetching (plainly (.select { selecting false (.name (.plain "i")) with
    sources := [⟨.derived false (rowsOfA.limitedTo (number "2")) none, []⟩] })) (number "5")

/-- A limit in a derived table is kept, and rows to be fetched from it are not limited. -/
theorem row_limits_derived :
    fiveOfTwo.written = "SELECT i FROM (SELECT i FROM a LIMIT 2) FETCH FIRST 5 ROWS ONLY"
      ∧ (∃ p, ofStatement tableA (.query fiveOfTwo) = .ok (some p)
        ∧ p.sorts = [.sort [] none (some "2")]
        ∧ p.sorts ≠ sortings Query.rowLimit? (Statement.query fiveOfTwo).stages)
      ∧ ofStatement tableA (.query fiveOfTwo)
        = ofStatement tableA (.query { fiveOfTwo with fetch := none })
      ∧ ∃ p, ofQuery tableA [] (rowsOfA.limitedTo (number "5")) = .ok p
        ∧ p.operator = .sort [] none (some "5") := by
  obtain ⟨hsorts, hheeded, hlimited⟩ := row_limits tableA
  refine ⟨by decide +kernel, ?_, hheeded _ _ rfl, ?_⟩
  · obtain ⟨p, hp⟩ : ∃ p, ofStatement tableA (.query fiveOfTwo) = .ok (some p) := ⟨_, rfl⟩
    obtain ⟨hlimits, hiff⟩ := hsorts _ p hp
    refine ⟨p, hp, hlimits, fun hrows => ?_⟩
    have hfetch := hiff.mp hrows fiveOfTwo (List.mem_concat_self) rfl
    cases hfetch
  · obtain ⟨p, hp⟩ : ∃ p, ofQuery tableA [] (rowsOfA.limitedTo (number "5")) = .ok p := ⟨_, rfl⟩
    exact ⟨p, hp, (hlimited [] rowsOfA (number "5") rfl).2.1 p hp⟩

/-- Five rows are fetched without a limit. -/
theorem row_limits_dropped :
    (rowsOfA.fetching (number "5")).written = "SELECT i FROM a FETCH FIRST 5 ROWS ONLY"
      ∧ (rowsOfA.limitedTo (number "5")).written = "SELECT i FROM a LIMIT 5"
      ∧ ∃ p r, ofStatement tableA (.query (rowsOfA.fetching (number "5"))) = .ok (some p)
        ∧ ofStatement tableA (.query (rowsOfA.limitedTo (number "5"))) = .ok (some r)
        ∧ p.sorts = [] ∧ r.sorts = [.sort [] none (some "5")] ∧ p ≠ r := by
  refine ⟨by decide +kernel, by decide +kernel, _, _, rfl, rfl, rfl, rfl, fun hsame => ?_⟩
  cases congrArg sorts hsame

end Stencil.Plan
