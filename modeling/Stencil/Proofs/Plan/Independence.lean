/-
Planning depends only on what a statement names.

Two catalogs in which the tables that a statement names and the functions that it
calls are found alike give the same outcome, so a change to anything else cannot be
told from it.  The induction follows the recursion of planning.  What carries it
through is that every query in scope has its plan there, `Binds`, so that the catalog
is never asked for its name.  The catalog is asked for functions by items of select
lists alone, and the items that a wildcard stands for call none.
-/
import Mathlib.Control.Monad.Basic
import Stencil.Plan.Planner
import Stencil.Proofs.Catalog.Change
import Stencil.Proofs.Outcome
import Stencil.Proofs.Plan.Nodes
import Stencil.Proofs.Plan.Resolution
import Stencil.Proofs.Sql.SelectCall
import Stencil.Sql.Grammar

namespace Stencil

open Sql

/-- The name means a query in scope. -/
def Sql.TableUse.inScope (u : TableUse) : Bool :=
  match u.name with
  | [n] => u.scope.contains (Text.lower n.text)
  | _ => false

/-- The paths that a statement names: that of the table it writes into, and those of the tables
in its FROM clauses that are not queries in scope. -/
def Sql.Statement.paths (c : Catalog) (s : Statement) : List ObjectPath :=
  (s.target?.toList ++ ((s.tables false).filter fun u => !u.inScope).map (·.name)).filterMap
    fun name => (c.qualify (QualifiedName.texts name)).toOption

namespace Plan

variable {c c' : Catalog} {scope : Scope} {names : List String}

/-! ### Catalogs that agree -/

/-- Whatever a name stands for is found alike in both catalogs. -/
def SameObject (c c' : Catalog) (name : QualifiedName) : Prop :=
  ∀ path, c.qualify (QualifiedName.texts name) = .ok path → c.get? path = c'.get? path

/-- A function is found alike in both catalogs. -/
def SameFunction (c c' : Catalog) (function : QualifiedName) : Prop :=
  c.function? (QualifiedName.written function) = c'.function? (QualifiedName.written function)

/-- Names are completed alike in both catalogs, and then the tables that are not queries in
scope, and the functions, are found alike. -/
structure Agree (c c' : Catalog) (uses : List TableUse) (calls : List QualifiedName) : Prop where
  qualify : c.qualify = c'.qualify
  objects : ∀ u ∈ uses, u.inScope = false → SameObject c c' u.name
  functions : ∀ function ∈ calls, SameFunction c c' function

theorem Agree.of_append {uses uses' : List TableUse} {calls calls' : List QualifiedName}
    (h : Agree c c' (uses ++ uses') (calls ++ calls')) :
    Agree c c' uses calls ∧ Agree c c' uses' calls' := by
  obtain ⟨hobjects, hobjects'⟩ := List.forall_mem_append.mp h.objects
  obtain ⟨hfunctions, hfunctions'⟩ := List.forall_mem_append.mp h.functions
  exact ⟨⟨h.qualify, hobjects, hfunctions⟩, h.qualify, hobjects', hfunctions'⟩

/-! ### Select lists -/

theorem isAggregate_congr {e : Expr} (h : ∀ f, e.call? = some f → SameFunction c c' f) :
    isAggregate c e = isAggregate c' e := by
  fun_induction Expr.call? e with
  | case1 function rest windowed =>
      have hsame := h function rfl
      unfold SameFunction at hsame
      rw [isAggregate, isAggregate, hsame]
  | case2 inner ih =>
      rw [isAggregate, isAggregate]
      exact ih h
  | case3 e hcall hnested => rw [isAggregate, isAggregate] <;> assumption

theorem callType_congr {e : Expr} (h : ∀ f, e.call? = some f → SameFunction c c' f) :
    callType c e = callType c' e := by
  fun_induction Expr.call? e with
  | case1 function rest windowed =>
      have hsame := h function rfl
      unfold SameFunction at hsame
      rw [callType, callType, hsame]
  | case2 inner ih =>
      rw [callType, callType]
      exact ih h
  | case3 e hcall hnested => rw [callType, callType] <;> assumption

theorem projected_congr {items : List Projected}
    (h : ∀ item ∈ items, ∀ f, item.expr.call? = some f → SameFunction c c' f) (p : Plan)
    (grouping : Grouping) : projected c p items grouping = projected c' p items grouping := by
  have hfolds : ∀ item ∈ items, isAggregate c item.expr = isAggregate c' item.expr :=
    fun item hitem => isAggregate_congr (h item hitem)
  have hkeys : groupKeys c items grouping = groupKeys c' items grouping := by
    cases grouping with
    | all modifiers =>
        rw [groupKeys, groupKeys, List.filter_congr fun item hitem => by rw [hfolds item hitem]]
    | keys keys modifiers => rw [groupKeys, groupKeys]
  have hcalls : (items.filter fun item => isAggregate c item.expr)
      = items.filter fun item => isAggregate c' item.expr :=
    List.filter_congr hfolds
  have hfields : items.map (fun item => (⟨none, item.name, item.typeOver c p.fields⟩ : Field))
      = items.map fun item => ⟨none, item.name, item.typeOver c' p.fields⟩ := by
    refine List.map_congr_left fun item hitem => ?_
    rw [Projected.typeOver, Projected.typeOver, callType_congr (h item hitem)]
  rw [projected, projected, hkeys, hcalls, hfields]

/-- What calls a function among the items that an item stands for is the item itself. -/
theorem call?_of_project {fields : List Field} {index : Nat} {item : SelectItem}
    {items : List Projected} (h : project fields index item = .ok items) :
    ∀ p ∈ items, ∀ f, p.expr.call? = some f → item.call? = some f := by
  have hfields : ∀ visible : List Field, ∀ p ∈ visible.map Projected.ofField,
      p.expr.call? = none := by
    intro visible p hp
    obtain ⟨field, -, rfl⟩ := List.mem_map.mp hp
    rfl
  intro p hp f hf
  cases item with
  | expr e =>
      obtain ⟨_, -, h⟩ := bind_eq_ok.mp h
      cases h
      obtain rfl := List.mem_singleton.mp hp
      exact hf
  | aliased e label =>
      obtain ⟨_, -, h⟩ := bind_eq_ok.mp h
      cases h
      obtain rfl := List.mem_singleton.mp hp
      exact hf
  | wildcard options =>
      cases h
      rw [hfields fields p hp] at hf
      cases hf
  | qualifiedWildcard qualifier options =>
      unfold project at h
      dsimp only at h
      split at h
      · cases h
      · cases h
        rw [hfields _ p hp] at hf
        cases hf

theorem mem_calls_of_projectAll {fields : List Field} {projection : List SelectItem} {index : Nat}
    {items : List Projected} (h : projectAll fields index projection = .ok items) :
    ∀ p ∈ items, ∀ f, p.expr.call? = some f → f ∈ projection.filterMap SelectItem.call? := by
  induction projection generalizing index items with
  | nil =>
      cases h
      intro p hp
      cases hp
  | cons item rest ih =>
      rw [projectAll] at h
      obtain ⟨first, hfirst, h⟩ := bind_eq_ok.mp h
      obtain ⟨others, hothers, h⟩ := bind_eq_ok.mp h
      cases h
      intro p hp f hf
      rw [List.mem_filterMap]
      rcases List.mem_append.mp hp with hp | hp
      · exact ⟨item, List.mem_cons_self, call?_of_project hfirst p hp f hf⟩
      · obtain ⟨item', hitem', hcall⟩ := List.mem_filterMap.mp (ih hothers p hp f hf)
        exact ⟨item', List.mem_cons_of_mem _ hitem', hcall⟩

/-! ### Names in FROM clauses -/

/-- Every query in scope has its plan there. -/
def Binds (names : List String) (scope : Scope) : Prop :=
  ∀ key ∈ names, ∃ p, scope.find? key = some p

theorem binds_nil : Binds [] [] := by
  intro key h
  cases h

theorem Binds.put (h : Binds names scope) (key : String) (p : Plan) :
    Binds (names ++ [key]) (scope.put key p) := by
  intro key' hmem
  by_cases hkey : key = key'
  · rw [← hkey]
    exact ⟨p, Keyed.find?_put_self key p scope⟩
  · rw [Keyed.find?_put_of_ne hkey]
    rcases List.mem_append.mp hmem with hmem | hmem
    · exact h key' hmem
    · exact absurd (List.mem_singleton.mp hmem).symm hkey

theorem binds_of_scopeOf {ctes : List Cte} {scope' : Scope} (h : Binds names scope)
    (hscope : scopeOf c scope ctes = .ok scope') : Binds (scopeWith names ctes) scope' := by
  induction ctes generalizing names scope with
  | nil =>
      rw [scopeOf] at hscope
      cases hscope
      rw [scopeWith, List.map_nil, List.append_nil]
      exact h
  | cons cte rest ih =>
      obtain ⟨label, query, source⟩ := cte
      rw [scopeOf] at hscope
      obtain ⟨p, -, hscope⟩ := bind_eq_ok.mp hscope
      rw [scopeWith_cons]
      exact ih (h.put _ _) hscope

theorem resolve_congr {path : ObjectPath} (h : c.get? path = c'.get? path) :
    c.resolve path = c'.resolve path := by
  rw [Catalog.resolve, Catalog.resolve, h]

theorem scanned_congr {name : QualifiedName} (hqualify : c.qualify = c'.qualify)
    (h : SameObject c c' name) (visible : String) :
    scanned c (QualifiedName.texts name) visible
      = scanned c' (QualifiedName.texts name) visible := by
  rw [scanned, scanned, ← hqualify]
  refine bind_congr_of_ok fun path hpath => ?_
  rw [resolve_congr (h path hpath)]

theorem relation_congr (hscope : Binds names scope) {name : QualifiedName}
    (h : Agree c c' [⟨names, name⟩] []) (visible : String) :
    relation c scope (QualifiedName.texts name) visible
      = relation c' scope (QualifiedName.texts name) visible := by
  have hsame := List.forall_mem_singleton.mp h.objects
  rcases name with _ | ⟨n, _ | ⟨n', rest⟩⟩
  · exact scanned_congr h.qualify (hsame rfl) visible
  · cases hfind : scope.find? (Text.lower n.text) with
    | some p => simp only [relation, QualifiedName.texts, List.map_cons, List.map_nil, hfind]
    | none =>
        -- A query in scope would have its plan there, so the name is left to the catalog.
        have hfree : TableUse.inScope ⟨names, [n]⟩ = false := by
          show names.contains (Text.lower n.text) = false
          rw [List.contains_eq_mem, decide_eq_false_iff_not]
          intro hmem
          obtain ⟨p, hp⟩ := hscope _ hmem
          rw [hfind] at hp
          cases hp
        simp only [relation, QualifiedName.texts, List.map_cons, List.map_nil, hfind]
        exact scanned_congr h.qualify (hsame hfree) visible
  · exact scanned_congr h.qualify (hsame rfl) visible

/-! ### Queries -/

mutual

theorem ofQuery_congr : ∀ (q : Query) {names scope}, Binds names scope →
    Agree c c' (q.tables false names) q.calls → ofQuery c scope q = ofQuery c' scope q
  | ⟨_, ctes, body, order, interpolation, limit, offset, _, limitTail, fetch, tail⟩, names, scope,
      hscope, h => by
    rw [Query.tables, inside_false, List.append_nil, Query.calls] at h
    obtain ⟨hctes, hbody⟩ := h.of_append
    rw [ofQuery, ofQuery, ← scopeOf_congr ctes hscope hctes]
    refine bind_congr_of_ok fun inner hinner => ?_
    rw [ofBody_congr body (binds_of_scopeOf hscope hinner) hbody]

theorem scopeOf_congr : ∀ (ctes : List Cte) {names scope}, Binds names scope →
    Agree c c' (tablesOfCtes false names ctes) (callsOfCtes ctes) →
    scopeOf c scope ctes = scopeOf c' scope ctes
  | [], names, scope, hscope, h => by rw [scopeOf, scopeOf]
  | ⟨label, query, _⟩ :: rest, names, scope, hscope, h => by
    rw [tablesOfCtes, callsOfCtes] at h
    obtain ⟨hquery, hrest⟩ := h.of_append
    rw [scopeOf, scopeOf, ofQuery_congr query hscope hquery]
    exact bind_congr fun p => scopeOf_congr rest (hscope.put _ _) hrest

theorem ofBody_congr : ∀ (b : Body) {names scope}, Binds names scope →
    Agree c c' (b.tables false names) b.calls → ofBody c scope b = ofBody c' scope b
  | .select s, names, scope, hscope, h => by
    rw [Body.tables, Body.calls] at h
    rw [ofBody, ofBody, ofSelect_congr s hscope h]
  | .query q, names, scope, hscope, h => by
    rw [Body.tables, Body.calls] at h
    rw [ofBody, ofBody, ofQuery_congr q hscope h]
  | .setOperation op quantifier left right, names, scope, hscope, h => by
    rw [Body.tables, Body.calls] at h
    obtain ⟨hleft, hright⟩ := h.of_append
    rw [ofBody, ofBody, ofBody_congr left hscope hleft, ofBody_congr right hscope hright]
  | .values _ rows, names, scope, hscope, h => by rw [ofBody, ofBody]
  | .other pieces, names, scope, hscope, h => by rw [ofBody, ofBody]

theorem ofSelect_congr : ∀ (s : Select) {names scope}, Binds names scope →
    Agree c c' (s.tables false names) s.calls → ofSelect c scope s = ofSelect c' scope s
  | ⟨distinct, _, _, projection, _, sources, _, selection, grouping, _, having, _⟩, names, scope,
      hscope, h => by
    rw [Select.tables, inside_false, Select.calls, List.append_nil] at h
    obtain ⟨hitems, hcalls⟩ := List.forall_mem_append.mp h.functions
    rw [ofSelect, ofSelect, ofSources_congr sources hscope ⟨h.qualify, h.objects, hcalls⟩]
    refine bind_congr fun source => bind_congr fun input => ?_
    -- Which items there are depends on the fields alone; what they call counts from here on.
    refine bind_congr_of_ok fun items hprojected => ?_
    rw [projected_congr fun item hitem f hf =>
      hitems f (mem_calls_of_projectAll hprojected item hitem f hf)]

theorem ofSources_congr : ∀ (sources : List From) {names scope}, Binds names scope →
    Agree c c' (tablesOfSources false names sources) (callsOfSources sources) →
    ofSources c scope sources = ofSources c' scope sources
  | [], names, scope, hscope, h => by rw [ofSources, ofSources]
  | first :: rest, names, scope, hscope, h => by
    rw [tablesOfSources, callsOfSources] at h
    obtain ⟨hfirst, hrest⟩ := h.of_append
    rw [ofSources, ofSources, ofFrom_congr first hscope hfirst]
    exact bind_congr fun p => ofMoreSources_congr rest hscope hrest p

theorem ofMoreSources_congr : ∀ (sources : List From) {names scope}, Binds names scope →
    Agree c c' (tablesOfSources false names sources) (callsOfSources sources) →
    ∀ left, ofMoreSources c scope left sources = ofMoreSources c' scope left sources
  | [], names, scope, hscope, h, left => by rw [ofMoreSources, ofMoreSources]
  | item :: rest, names, scope, hscope, h, left => by
    rw [tablesOfSources, callsOfSources] at h
    obtain ⟨hitem, hrest⟩ := h.of_append
    rw [ofMoreSources, ofMoreSources, ofFrom_congr item hscope hitem]
    exact bind_congr fun right => ofMoreSources_congr rest hscope hrest _

theorem ofFrom_congr : ∀ (item : From) {names scope}, Binds names scope →
    Agree c c' (item.tables false names) item.calls →
    ofFrom c scope item = ofFrom c' scope item
  | ⟨factor, joins⟩, names, scope, hscope, h => by
    rw [From.tables, From.calls] at h
    obtain ⟨hfactor, hjoins⟩ := h.of_append
    rw [ofFrom, ofFrom, ofFactor_congr factor hscope hfactor]
    exact bind_congr fun p => ofJoins_congr joins hscope hjoins p

theorem ofJoins_congr : ∀ (joins : List Join) {names scope}, Binds names scope →
    Agree c c' (tablesOfJoins false names joins) (callsOfJoins joins) →
    ∀ left, ofJoins c scope left joins = ofJoins c' scope left joins
  | [], names, scope, hscope, h, left => by rw [ofJoins, ofJoins]
  | ⟨_, kind, factor, _, constraint⟩ :: rest, names, scope, hscope, h, left => by
    rw [tablesOfJoins, inside_false, List.append_nil, callsOfJoins] at h
    obtain ⟨hfactor, hrest⟩ := h.of_append
    rw [ofJoins, ofJoins, ofFactor_congr factor hscope hfactor]
    exact bind_congr fun right => bind_congr fun condition => ofJoins_congr rest hscope hrest _

theorem ofFactor_congr : ∀ (factor : Factor) {names scope}, Binds names scope →
    Agree c c' (factor.tables false names) factor.calls →
    ofFactor c scope factor = ofFactor c' scope factor
  | .table name _ label _, names, scope, hscope, h => by
    rw [Factor.tables, inside_false, Factor.calls] at h
    unfold ofFactor
    exact relation_congr hscope h _
  | .derived _ query label, names, scope, hscope, h => by
    rw [Factor.tables, Factor.calls] at h
    rw [ofFactor, ofFactor, ofQuery_congr query hscope h]
  | .nested inner _, names, scope, hscope, h => by
    rw [Factor.tables, Factor.calls] at h
    rw [ofFactor, ofFactor, ofFrom_congr inner hscope h]
  | .other pieces label tail, names, scope, hscope, h => by rw [ofFactor, ofFactor]

end

/-! ### Insertions and statements -/

theorem targetColumns_congr {path : ObjectPath} (h : c.get? path = c'.get? path) :
    targetColumns c path = targetColumns c' path := by
  rw [targetColumns, targetColumns, resolve_congr h]

theorem ofInsert_congr {i : Insert} (htarget : SameObject c c' i.table)
    (h : Agree c c' (i.tables false) (Statement.calls (.insert i))) :
    ofInsert c i = ofInsert c' i := by
  rw [Insert.tables, inside_false, List.append_nil, Statement.calls] at h
  rw [ofInsert, ofInsert, ← h.qualify]
  refine bind_congr_of_ok fun path hpath => ?_
  rw [targetColumns_congr (htarget path hpath)]
  refine bind_congr fun columns => ?_
  cases hsource : i.source with
  | none => rfl
  | some q =>
      rw [hsource] at h
      dsimp only
      rw [ofQuery_congr q binds_nil h]

/-- In catalogs that agree on what a statement names, it is planned alike. -/
theorem ofStatement_congr {s : Statement}
    (htarget : ∀ name, s.target? = some name → SameObject c c' name)
    (h : Agree c c' (s.tables false) s.calls) : ofStatement c s = ofStatement c' s := by
  cases s with
  | query q => rw [ofStatement, ofStatement, ofQuery_congr q binds_nil h]
  | insert i => rw [ofStatement, ofStatement, ofInsert_congr (htarget i.table rfl) h]
  | _ => rfl

end Plan

/-! ### Changes -/

/-- The change is to no object and to no function that the statement names. -/
structure Catalog.Change.Spares (c : Catalog) (s : Statement) (change : Change) : Prop where
  objects : ∀ path ∈ s.paths c, change.path? ≠ some path
  functions : ∀ function ∈ s.calls,
    change.key? ≠ some (Text.upper (QualifiedName.written function))

instance (c : Catalog) (s : Statement) (change : Catalog.Change) :
    Decidable (change.Spares c s) :=
  decidable_of_iff
    ((∀ path ∈ s.paths c, change.path? ≠ some path)
      ∧ ∀ function ∈ s.calls, change.key? ≠ some (Text.upper (QualifiedName.written function)))
    ⟨fun h => ⟨h.1, h.2⟩, fun h => ⟨h.objects, h.functions⟩⟩

namespace Plan

variable {s : Statement} {change change' : Catalog.Change} {path : ObjectPath}

theorem mem_paths_of_target {name : QualifiedName} (hname : s.target? = some name)
    (hpath : c.qualify (QualifiedName.texts name) = .ok path) : path ∈ s.paths c := by
  refine List.mem_filterMap.mpr ⟨name, List.mem_append_left _ ?_, by rw [hpath]; rfl⟩
  rw [hname]
  exact List.mem_singleton.mpr rfl

theorem mem_paths_of_use {u : TableUse} (hu : u ∈ s.tables false) (hfree : u.inScope = false)
    (hpath : c.qualify (QualifiedName.texts u.name) = .ok path) : path ∈ s.paths c := by
  refine List.mem_filterMap.mpr ⟨u.name, List.mem_append_right _ ?_, by rw [hpath]; rfl⟩
  exact List.mem_map_of_mem (List.mem_filter.mpr ⟨hu, by rw [hfree]; rfl⟩)

/-- A change that spares a statement cannot be told from its plan. -/
theorem ofStatement_after (h : change.Spares c s) :
    ofStatement (c.after change) s = ofStatement c s := by
  refine (ofStatement_congr (fun name hname path hpath => ?_) ⟨?_, ?_, ?_⟩).symm
  · exact (Catalog.get?_after (h.objects path (mem_paths_of_target hname hpath))).symm
  · exact (Catalog.qualify_after c change).symm
  · intro u hu hfree path hpath
    exact (Catalog.get?_after (h.objects path (mem_paths_of_use hu hfree hpath))).symm
  · intro function hfunction
    exact (Catalog.function?_after (h.functions function hfunction)).symm

/-- What a change spares is spared behind other changes as well. -/
theorem spares_after (h : change.Spares c s) : change.Spares (c.after change') s := by
  refine ⟨?_, h.functions⟩
  rw [Statement.paths, Catalog.qualify_after]
  exact h.objects

/--
**Planning depends only on what a statement names.**  However often objects are created,
dropped and put in the place of others, and functions registered, none of which the statement
names, it has the same plan as before, or is refused with the same error.
-/
theorem ofStatement_foldl_after {changes : List Catalog.Change}
    (h : ∀ change ∈ changes, change.Spares c s) :
    ofStatement (changes.foldl Catalog.after c) s = ofStatement c s := by
  induction changes generalizing c with
  | nil => rfl
  | cons change rest ih =>
      have hrest : ∀ change' ∈ rest, change'.Spares (c.after change) s :=
        fun change' hmem => spares_after (h change' (List.mem_cons_of_mem _ hmem))
      rw [List.foldl_cons, ih hrest, ofStatement_after (h change List.mem_cons_self)]

/-- An object of the name of a query in scope, put there and replaced, and a function of the name
of one that is only called inside an item. -/
theorem ofStatement_foldl_after_shadowed :
    ∃ (c : Catalog) (s : Statement) (changes : List Catalog.Change),
      Statement.readAll "INSERT INTO a WITH w AS (SELECT (f(1)) AS i) SELECT 1 + MAX(w.i) FROM W"
        = .ok [s]
      ∧ (∀ change ∈ changes, change.Spares c s)
      ∧ (changes.foldl Catalog.after c).objectNames = ["a", "w"]
      ∧ (changes.foldl Catalog.after c).functionNames = ["max"]
      ∧ ofStatement (changes.foldl Catalog.after c) s = ofStatement c s
      ∧ (Option.map fun p : Plan => p.nodes.map (·.operator)) <$> ofStatement c s
        = .ok (some [.values [["0"]], .project [("i", "(f(1))")],
          .project [("EXPR$0", "1 + MAX(w.i)")], .sink ⟨"c", "d", "a"⟩ ["i"]]) := by
  let c : Catalog := ⟨"c", "d", [(⟨"c", "d", "a"⟩, .table [⟨"i", "INT"⟩] [])], []⟩
  let changes : List Catalog.Change :=
    [.create ⟨"c", "d", "w"⟩ (.table [] []) false, .drop ⟨"c", "d", "w"⟩ .table false,
      .create ⟨"c", "d", "w"⟩ (.view [⟨"i", "INT"⟩] "SELECT 1 AS i") false,
      .register ⟨"max", .scalar, "STRING"⟩]
  have hread : (List.map fun s => (decide (∀ change ∈ changes, change.Spares c s),
        (Option.map fun p : Plan => p.nodes.map (·.operator)) <$> ofStatement c s))
        <$> Statement.readAll
          "INSERT INTO a WITH w AS (SELECT (f(1)) AS i) SELECT 1 + MAX(w.i) FROM W"
      = .ok [(true, .ok (some [.values [["0"]], .project [("i", "(f(1))")],
          .project [("EXPR$0", "1 + MAX(w.i)")], .sink ⟨"c", "d", "a"⟩ ["i"]]))] := by
    decide +kernel
  obtain ⟨statements, hstatements, hmap⟩ := map_eq_ok.mp hread
  obtain ⟨s, rfl, hs⟩ := List.map_eq_singleton_iff.mp hmap
  obtain ⟨hspares, hplan⟩ := Prod.mk.inj hs
  have hspared := of_decide_eq_true hspares
  exact ⟨c, s, changes, hstatements, hspared, by decide +kernel, by decide +kernel,
    ofStatement_foldl_after hspared, hplan⟩

end Plan
end Stencil
