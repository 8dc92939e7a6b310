/-
Planning resolves the tables it meets.

A plan is found only if every name in a FROM clause means something: a query in
scope at that place, or an object of the catalog.  The induction follows the
recursion of planning over the query; what carries it through is that the plans in
scope are those of the queries in scope and no others, `Covers`.  Expressions are
not planned, so nothing is said about the queries inside them.
-/
import Stencil.Plan.Planner
import Stencil.Proofs.Keyed
import Stencil.Proofs.Outcome
import Stencil.Proofs.Sql.Explanation
import Stencil.Proofs.Sql.TableUse

namespace Stencil

open Sql

/-- The name means a query in scope, or else an object of the catalog. -/
def Sql.TableUse.Bound (c : Catalog) (u : TableUse) : Prop :=
  (∃ n, u.name = [n] ∧ Text.lower n.text ∈ u.scope)
    ∨ ∃ path object, c.qualify (QualifiedName.texts u.name) = .ok path
        ∧ c.get? path = some object

namespace Plan

variable {c : Catalog} {scope scope' : Scope} {names : List String} {p : Plan}

/-! ### Scopes -/

/-- Every plan in scope is that of a query in scope. -/
def Covers (names : List String) (scope : Scope) : Prop :=
  ∀ key p, scope.find? key = some p → key ∈ names

theorem covers_nil : Covers [] [] := by
  intro key p h
  cases h

theorem Covers.put (h : Covers names scope) (key : String) (p : Plan) :
    Covers (names ++ [key]) (scope.put key p) := by
  intro key' p' hfind
  by_cases hkey : key = key'
  · rw [hkey]
    exact List.mem_append_right _ (List.mem_singleton.mpr rfl)
  · rw [Keyed.find?_put_of_ne hkey] at hfind
    exact List.mem_append_left _ (h key' p' hfind)

/-! ### One name -/

theorem resolve_eq_ok {path : ObjectPath} {object : CatalogObject}
    (h : c.resolve path = .ok object) : c.get? path = some object := by
  unfold Catalog.resolve at h
  split at h
  · rename_i existing hget
    cases h
    exact hget
  · cases h

/-- A scan reads an object of the catalog, with the columns that are kept of it. -/
theorem scanned_eq_ok {parts : List String} {visible : String}
    (h : scanned c parts visible = .ok p) :
    ∃ path object, c.qualify parts = .ok path ∧ c.get? path = some object
      ∧ p = ⟨.scan path, [],
        object.columns.map fun col => ⟨some visible, col.name, col.dataType⟩⟩ := by
  unfold scanned at h
  obtain ⟨path, hpath, h⟩ := bind_eq_ok.mp h
  obtain ⟨object, hobject, h⟩ := bind_eq_ok.mp h
  cases h
  exact ⟨path, object, hpath, resolve_eq_ok hobject, rfl⟩

theorem relation_of_some {single : String} {q : Plan}
    (h : scope.find? (Text.lower single) = some q) (visible : String) :
    relation c scope [single] visible = .ok (q.requalified visible) := by
  unfold relation
  dsimp only
  rw [h]

theorem relation_of_none {single : String} (h : scope.find? (Text.lower single) = none)
    (visible : String) : relation c scope [single] visible = scanned c [single] visible := by
  unfold relation
  dsimp only
  rw [h]

/-- What a name turns out to stand for: a query in scope, or what the catalog has of the name if
no query has it. -/
inductive Found (c : Catalog) (scope : Scope) (visible : String) : QualifiedName → Plan → Prop
  | named {n : Name} {q : Plan} (h : scope.find? (Text.lower n.text) = some q) :
      Found c scope visible [n] (q.requalified visible)
  | scanned {name : QualifiedName} {p : Plan}
      (hfree : ∀ n, name = [n] → scope.find? (Text.lower n.text) = none)
      (h : scanned c (QualifiedName.texts name) visible = .ok p) : Found c scope visible name p

theorem found_of_relation {name : QualifiedName} {visible : String}
    (h : relation c scope (QualifiedName.texts name) visible = .ok p) :
    Found c scope visible name p := by
  rcases name with _ | ⟨n, _ | ⟨n', rest⟩⟩
  · exact .scanned (fun m hm => by cases hm) h
  · cases hfind : scope.find? (Text.lower n.text) with
    | some q =>
        have hnamed : relation c scope [n.text] visible = .ok p := h
        rw [relation_of_some hfind] at hnamed
        cases hnamed
        exact .named hfind
    | none =>
        have hscan : relation c scope [n.text] visible = .ok p := h
        rw [relation_of_none hfind] at hscan
        refine .scanned (fun m hm => ?_) hscan
        cases hm
        exact hfind
  · exact .scanned (fun m hm => by cases hm) h

theorem bound_of_relation (hscope : Covers names scope) {name : QualifiedName} {visible : String}
    (h : relation c scope (QualifiedName.texts name) visible = .ok p) :
    TableUse.Bound c ⟨names, name⟩ := by
  cases found_of_relation h with
  | named hfind => exact .inl ⟨_, rfl, hscope _ _ hfind⟩
  | scanned _ hscan =>
      obtain ⟨path, object, hpath, hget, -⟩ := scanned_eq_ok hscan
      exact .inr ⟨path, object, hpath, hget⟩

/-! ### Queries -/

/-- All the names are bound. -/
def AllBound (c : Catalog) (uses : List TableUse) : Prop := ∀ u ∈ uses, u.Bound c

theorem allBound_nil : AllBound c [] := by
  intro u hu
  cases hu

theorem AllBound.append {uses uses' : List TableUse} (h : AllBound c uses)
    (h' : AllBound c uses') : AllBound c (uses ++ uses') := by
  intro u hu
  rcases List.mem_append.mp hu with hu | hu
  · exact h u hu
  · exact h' u hu

theorem scopeWith_cons (names : List String) (cte : Cte) (rest : List Cte) :
    scopeWith names (cte :: rest)
      = scopeWith (names ++ [Text.lower cte.label.name.text]) rest := by
  unfold scopeWith
  rw [List.map_cons, List.append_assoc]
  rfl

mutual

theorem bound_of_ofQuery : ∀ (q : Query) {names scope} {p : Plan}, Covers names scope →
    ofQuery c scope q = .ok p → AllBound c (q.tables false names)
  | ⟨_, ctes, body, order, interpolation, limit, offset, _, limitTail, fetch, tail⟩, names, scope,
      p, hscope, h => by
    rw [ofQuery] at h
    obtain ⟨inner, hinner, h⟩ := bind_eq_ok.mp h
    obtain ⟨p', hbody, -⟩ := bind_eq_ok.mp h
    obtain ⟨hctes, hcovers⟩ := bound_of_scopeOf ctes hscope hinner
    rw [Query.tables, inside_false, List.append_nil]
    exact hctes.append (bound_of_ofBody body hcovers hbody)

theorem bound_of_scopeOf : ∀ (ctes : List Cte) {names scope scope'}, Covers names scope →
    scopeOf c scope ctes = .ok scope' →
    AllBound c (tablesOfCtes false names ctes) ∧ Covers (scopeWith names ctes) scope'
  | [], names, scope, scope', hscope, h => by
    rw [scopeOf] at h
    cases h
    refine ⟨allBound_nil, ?_⟩
    rw [scopeWith, List.map_nil, List.append_nil]
    exact hscope
  | ⟨label, query, _⟩ :: rest, names, scope, scope', hscope, h => by
    rw [scopeOf] at h
    obtain ⟨p, hquery, h⟩ := bind_eq_ok.mp h
    have hput := hscope.put (Text.lower label.name.text) (p.requalified label.name.text)
    obtain ⟨hrest, hcovers⟩ := bound_of_scopeOf rest hput h
    rw [tablesOfCtes, scopeWith_cons]
    exact ⟨(bound_of_ofQuery query hscope hquery).append hrest, hcovers⟩

theorem bound_of_ofBody : ∀ (b : Body) {names scope} {p : Plan}, Covers names scope →
    ofBody c scope b = .ok p → AllBound c (b.tables false names)
  | .select s, names, scope, p, hscope, h => by
    rw [ofBody] at h
    rw [Body.tables]
    exact bound_of_ofSelect s hscope h
  | .query q, names, scope, p, hscope, h => by
    rw [ofBody] at h
    rw [Body.tables]
    exact bound_of_ofQuery q hscope h
  | .setOperation op quantifier left right, names, scope, p, hscope, h => by
    rw [ofBody] at h
    obtain ⟨l, hleft, h⟩ := bind_eq_ok.mp h
    obtain ⟨r, hright, -⟩ := bind_eq_ok.mp h
    rw [Body.tables]
    exact (bound_of_ofBody left hscope hleft).append (bound_of_ofBody right hscope hright)
  | .values _ rows, names, scope, p, hscope, h => by
    rw [Body.tables, inside_false]
    exact allBound_nil
  | .other pieces, names, scope, p, hscope, h => by
    rw [Body.tables, inside_false]
    exact allBound_nil

theorem bound_of_ofSelect : ∀ (s : Select) {names scope} {p : Plan}, Covers names scope →
    ofSelect c scope s = .ok p → AllBound c (s.tables false names)
  | ⟨_, _, _, _, _, sources, _, _, _, _, _, _⟩, names, scope, p, hscope, h => by
    rw [ofSelect] at h
    obtain ⟨input, hsources, -⟩ := bind_eq_ok.mp h
    rw [Select.tables, inside_false, List.append_nil]
    exact bound_of_ofSources sources hscope hsources

theorem bound_of_ofSources : ∀ (sources : List From) {names scope} {p : Plan},
    Covers names scope → ofSources c scope sources = .ok p →
    AllBound c (tablesOfSources false names sources)
  | [], names, scope, p, hscope, h => by
    rw [tablesOfSources]
    exact allBound_nil
  | first :: rest, names, scope, p, hscope, h => by
    rw [ofSources] at h
    obtain ⟨p', hfirst, h⟩ := bind_eq_ok.mp h
    rw [tablesOfSources]
    exact (bound_of_ofFrom first hscope hfirst).append (bound_of_ofMoreSources rest hscope h)

theorem bound_of_ofMoreSources : ∀ (sources : List From) {names scope} {left p : Plan},
    Covers names scope → ofMoreSources c scope left sources = .ok p →
    AllBound c (tablesOfSources false names sources)
  | [], names, scope, left, p, hscope, h => by
    rw [tablesOfSources]
    exact allBound_nil
  | item :: rest, names, scope, left, p, hscope, h => by
    rw [ofMoreSources] at h
    obtain ⟨right, hitem, h⟩ := bind_eq_ok.mp h
    rw [tablesOfSources]
    exact (bound_of_ofFrom item hscope hitem).append (bound_of_ofMoreSources rest hscope h)

theorem bound_of_ofFrom : ∀ (item : From) {names scope} {p : Plan}, Covers names scope →
    ofFrom c scope item = .ok p → AllBound c (item.tables false names)
  | ⟨factor, joins⟩, names, scope, p, hscope, h => by
    rw [ofFrom] at h
    obtain ⟨p', hfactor, h⟩ := bind_eq_ok.mp h
    rw [From.tables]
    exact (bound_of_ofFactor factor hscope hfactor).append (bound_of_ofJoins joins hscope h)

theorem bound_of_ofJoins : ∀ (joins : List Join) {names scope} {left p : Plan},
    Covers names scope → ofJoins c scope left joins = .ok p →
    AllBound c (tablesOfJoins false names joins)
  | [], names, scope, left, p, hscope, h => by
    rw [tablesOfJoins]
    exact allBound_nil
  | ⟨_, kind, factor, _, constraint⟩ :: rest, names, scope, left, p, hscope, h => by
    rw [ofJoins] at h
    obtain ⟨right, hfactor, h⟩ := bind_eq_ok.mp h
    obtain ⟨condition, -, h⟩ := bind_eq_ok.mp h
    rw [tablesOfJoins, inside_false, List.append_nil]
    exact (bound_of_ofFactor factor hscope hfactor).append (bound_of_ofJoins rest hscope h)

theorem bound_of_ofFactor : ∀ (factor : Factor) {names scope} {p : Plan}, Covers names scope →
    ofFactor c scope factor = .ok p → AllBound c (factor.tables false names)
  | .table name _ label _, names, scope, p, hscope, h => by
    unfold ofFactor at h
    rw [Factor.tables, inside_false]
    intro u hu
    obtain rfl := List.mem_singleton.mp hu
    exact bound_of_relation hscope h
  | .derived _ query label, names, scope, p, hscope, h => by
    rw [ofFactor] at h
    obtain ⟨p', hquery, -⟩ := bind_eq_ok.mp h
    rw [Factor.tables]
    exact bound_of_ofQuery query hscope hquery
  | .nested inner _, names, scope, p, hscope, h => by
    rw [ofFactor] at h
    rw [Factor.tables]
    exact bound_of_ofFrom inner hscope h
  | .other pieces label tail, names, scope, p, hscope, h => by
    rw [ofFactor] at h
    cases h

end

/-! ### Insertions and statements -/

/-- The name is that of a table, and not of a view. -/
def NamesTable (c : Catalog) (name : QualifiedName) : Prop :=
  ∃ path columns options, c.qualify (QualifiedName.texts name) = .ok path
    ∧ c.get? path = some (.table columns options)

theorem exists_table_of_targetColumns {path : ObjectPath} {columns : List Column}
    (h : targetColumns c path = .ok columns) :
    ∃ options, c.get? path = some (.table columns options) := by
  unfold targetColumns at h
  obtain ⟨object, hobject, h⟩ := bind_eq_ok.mp h
  cases object with
  | table columns' options =>
      cases h
      exact ⟨options, resolve_eq_ok hobject⟩
  | view columns' query => cases h

theorem bound_of_ofInsert {i : Insert} (h : ofInsert c i = .ok p) :
    AllBound c (i.tables false) ∧ NamesTable c i.table := by
  unfold ofInsert at h
  obtain ⟨path, hpath, hfrom⟩ := bind_eq_ok.mp h
  obtain ⟨columns, hcolumns, hsource⟩ := bind_eq_ok.mp hfrom
  obtain ⟨options, htable⟩ := exists_table_of_targetColumns hcolumns
  refine ⟨?_, path, columns, options, hpath, htable⟩
  rw [Insert.tables, inside_false, List.append_nil]
  cases hq : i.source with
  | none => exact allBound_nil
  | some q =>
      rw [hq] at hsource
      obtain ⟨input, hinput, -⟩ := bind_eq_ok.mp hsource
      exact bound_of_ofQuery q covers_nil hinput

/-- A query or an insertion that is planned names only what is there. -/
theorem bound_of_ofStatement {s : Statement} {plan : Option Plan} (h : ofStatement c s = .ok plan)
    (hs : s.isExplanation = false) :
    AllBound c (s.tables false) ∧ ∀ name, s.target? = some name → NamesTable c name := by
  cases s with
  | query q =>
      obtain ⟨p, hp, -⟩ := map_eq_ok.mp h
      exact ⟨bound_of_ofQuery q covers_nil hp, fun _ hname => nomatch hname⟩
  | insert i =>
      obtain ⟨p, hp, -⟩ := map_eq_ok.mp h
      obtain ⟨hbound, htable⟩ := bound_of_ofInsert hp
      refine ⟨hbound, fun name hname => ?_⟩
      cases hname
      exact htable
  | explain lead inner => cases hs
  | _ => exact ⟨allBound_nil, fun _ hname => nomatch hname⟩

end Plan
end Stencil
