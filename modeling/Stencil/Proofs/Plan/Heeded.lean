/-
Planning looks at no more than what is heeded.

A statement has the very outcome of planning, a plan or an error, that it has without all the
clauses that are passed over.  The induction is on the tree, and no relation of plans is needed:
at every place both sides do the same.
-/
import Stencil.Plan.Planner
import Stencil.Proofs.Outcome
import Stencil.Proofs.Sql.Heeded

namespace Stencil.Plan

open Sql

variable {c : Catalog}

theorem sorted_heeded (p : Plan) (order : List OrderKey) (offset limit : Option Expr) :
    sorted p (order.map OrderKey.heeded) offset limit = sorted p order offset limit := by
  unfold sorted
  rw [List.isEmpty_map, List.map_map]
  rfl

theorem project_heeded (fields : List Field) (index : Nat) (item : SelectItem) :
    project fields index item.heeded = project fields index item := by
  cases item <;> rfl

theorem projectAll_heeded (fields : List Field) (index : Nat) (items : List SelectItem) :
    projectAll fields index (items.map SelectItem.heeded) = projectAll fields index items := by
  induction items generalizing index with
  | nil => rfl
  | cons item rest ih => rw [List.map_cons, projectAll, projectAll, project_heeded, ih]

theorem projected_heeded (p : Plan) (items : List Projected) (grouping : Grouping) :
    projected c p items grouping.heeded = projected c p items grouping := by
  cases grouping <;> rfl

mutual

theorem ofQuery_heeded : ∀ (q : Query) (scope : Scope),
    ofQuery c scope q.heeded = ofQuery c scope q
  | ⟨_, ctes, body, order, _, limit, offset, _, _, _, _⟩, scope => by
    rw [Query.heeded, ofQuery, ofQuery, scopeOf_heeded ctes scope]
    refine bind_congr fun inner => ?_
    rw [ofBody_heeded body inner]
    exact bind_congr fun p => congrArg pure (sorted_heeded p order offset limit)

theorem scopeOf_heeded : ∀ (ctes : List Cte) (scope : Scope),
    scopeOf c scope (heededCtes ctes) = scopeOf c scope ctes
  | [], scope => by rw [heededCtes]
  | ⟨label, query, _⟩ :: rest, scope => by
    rw [heededCtes, scopeOf, scopeOf, ofQuery_heeded query scope]
    exact bind_congr fun p => scopeOf_heeded rest _

theorem ofBody_heeded : ∀ (b : Body) (scope : Scope),
    ofBody c scope b.heeded = ofBody c scope b
  | .select s, scope => by
    rw [Body.heeded, ofBody, ofBody]
    exact ofSelect_heeded s scope
  | .query q, scope => by
    rw [Body.heeded, ofBody, ofBody]
    exact ofQuery_heeded q scope
  | .setOperation op quantifier left right, scope => by
    rw [Body.heeded, ofBody, ofBody, ofBody_heeded left scope, ofBody_heeded right scope]
  | .values _ rows, scope => by
    rw [Body.heeded, ofBody, ofBody]
  | .other pieces, scope => by
    rw [Body.heeded]

theorem ofSelect_heeded : ∀ (s : Select) (scope : Scope),
    ofSelect c scope s.heeded = ofSelect c scope s
  | ⟨distinct, _, _, projection, _, sources, _, selection, grouping, _, having, _⟩, scope => by
    rw [Select.heeded, ofSelect, ofSelect, ofSources_heeded sources scope]
    refine bind_congr fun source => bind_congr fun input => ?_
    rw [projectAll_heeded]
    refine bind_congr fun items => ?_
    rw [projected_heeded]

theorem ofSources_heeded : ∀ (sources : List From) (scope : Scope),
    ofSources c scope (heededSources sources) = ofSources c scope sources
  | [], scope => by rw [heededSources]
  | first :: rest, scope => by
    rw [heededSources, ofSources, ofSources, ofFrom_heeded first scope]
    exact bind_congr fun p => ofMoreSources_heeded rest scope p

theorem ofMoreSources_heeded : ∀ (sources : List From) (scope : Scope) (left : Plan),
    ofMoreSources c scope left (heededSources sources) = ofMoreSources c scope left sources
  | [], scope, left => by rw [heededSources]
  | item :: rest, scope, left => by
    rw [heededSources, ofMoreSources, ofMoreSources, ofFrom_heeded item scope]
    exact bind_congr fun right => ofMoreSources_heeded rest scope _

theorem ofFrom_heeded : ∀ (item : From) (scope : Scope),
    ofFrom c scope item.heeded = ofFrom c scope item
  | ⟨factor, joins⟩, scope => by
    rw [From.heeded, ofFrom, ofFrom, ofFactor_heeded factor scope]
    exact bind_congr fun p => ofJoins_heeded joins scope p

theorem ofJoins_heeded : ∀ (joins : List Join) (scope : Scope) (left : Plan),
    ofJoins c scope left (heededJoins joins) = ofJoins c scope left joins
  | [], scope, left => by rw [heededJoins]
  | ⟨_, kind, factor, _, constraint⟩ :: rest, scope, left => by
    rw [heededJoins, ofJoins, ofJoins, ofFactor_heeded factor scope]
    exact bind_congr fun right => bind_congr fun condition => ofJoins_heeded rest scope _

theorem ofFactor_heeded : ∀ (factor : Factor) (scope : Scope),
    ofFactor c scope factor.heeded = ofFactor c scope factor
  | .table name _ label _, scope => by
    rw [Factor.heeded]
    unfold ofFactor
    cases label <;> rfl
  | .derived _ query label, scope => by
    rw [Factor.heeded, ofFactor, ofFactor, ofQuery_heeded query scope]
    cases label <;> rfl
  | .nested inner _, scope => by
    rw [Factor.heeded, ofFactor, ofFactor]
    exact ofFrom_heeded inner scope
  | .other pieces label tail, scope => by
    rw [Factor.heeded]

end

theorem ofInsert_heeded (i : Insert) : ofInsert c i.heeded = ofInsert c i := by
  unfold ofInsert
  refine bind_congr fun path => bind_congr fun columns => ?_
  dsimp only [Insert.heeded]
  cases i.source with
  | none => rfl
  | some q =>
      rw [Option.map_some]
      dsimp only
      rw [ofQuery_heeded]

/-- **A statement is planned as if it had nothing in it that is passed over.** -/
theorem ofStatement_heeded (c : Catalog) (s : Statement) :
    ofStatement c s.heeded = ofStatement c s := by
  cases s with
  | query q => exact congrArg (some <$> ·) (ofQuery_heeded q [])
  | insert i => exact congrArg (some <$> ·) (ofInsert_heeded i)
  | _ => rfl

/-- Statements that differ only in what is passed over are planned alike. -/
theorem ofStatement_eq_of_heeded_eq {s s' : Statement} (h : s.heeded = s'.heeded) :
    ofStatement c s = ofStatement c s' := by
  rw [← ofStatement_heeded, h, ofStatement_heeded]

end Stencil.Plan
