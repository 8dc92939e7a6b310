/-
The columns of a FROM clause.

A FROM clause yields the columns of its relations side by side, in the order in which they are
written: commas, joins of any kind and parentheses leave none out and add none.  `Yields` says
where those of a single relation come from, be it an object of the catalog, a query that is
named in front, or a derived table; no name for the relation changes them.  A star hands on
exactly the columns of its clause, with their names and types.
-/
import Mathlib.Data.List.Forall2
import Stencil.Proofs.Keyed
import Stencil.Proofs.Plan.Resolution
import Stencil.Proofs.Plan.Selection
import Stencil.Proofs.Plan.Shape

namespace Stencil

namespace Sql

mutual

/-- The relations of an item of a FROM clause, in the order in which they are written; what
stands between parentheses takes part by its own relations. -/
def From.relations : From → List Factor
  | ⟨factor, joins⟩ => factor.relations ++ relationsOfJoins joins

def relationsOfJoins : List Join → List Factor
  | [] => []
  | ⟨_, _, factor, _, _⟩ :: rest => factor.relations ++ relationsOfJoins rest

def Factor.relations : Factor → List Factor
  | .table name arguments label hints => [.table name arguments label hints]
  | .derived lateral query label => [.derived lateral query label]
  | .nested inner _ => inner.relations
  | .other pieces label tail => [.other pieces label tail]

end

/-- The relations of a FROM clause. -/
def relationsOf (sources : List From) : List Factor := sources.flatMap From.relations

end Sql

namespace Plan

open Sql

variable {c : Catalog} {scope inner : Scope} {ctes : List Cte} {relations relations' : List Factor}
  {left p right source : Plan} {s : Select}

/-! ### Queries that are named in front -/

/-- The plan is that of the last query of the name in a WITH clause, behind those before it. -/
def Names (c : Catalog) (scope : Scope) (ctes : List Cte) (key : String) (p : Plan) : Prop :=
  ∃ before cte after scope', ctes = before ++ cte :: after ∧ Text.lower cte.label.name.text = key
    ∧ (∀ other ∈ after, Text.lower other.label.name.text ≠ key)
    ∧ scopeOf c scope before = .ok scope' ∧ ofQuery c scope' cte.query = .ok p

/-- No query of a WITH clause has the name. -/
def Unnamed (ctes : List Cte) (key : String) : Prop :=
  ∀ cte ∈ ctes, Text.lower cte.label.name.text ≠ key

/-- Behind a WITH clause, a name means the last query of that name, or what it meant before. -/
theorem find?_of_scopeOf (h : scopeOf c scope ctes = .ok inner) (key : String) :
    (∃ p q, inner.find? key = some q ∧ Names c scope ctes key p ∧ q.columns = p.columns)
      ∨ (Unnamed ctes key ∧ inner.find? key = scope.find? key) := by
  induction ctes generalizing scope with
  | nil =>
      rw [scopeOf] at h
      cases h
      exact .inr ⟨nofun, rfl⟩
  | cons cte rest ih =>
      obtain ⟨label, query, tail⟩ := cte
      rw [scopeOf] at h
      obtain ⟨p, hp, hrest⟩ := bind_eq_ok.mp h
      rcases ih hrest with ⟨r, q, hfind, ⟨before, cte', after, scope', hctes, hrest'⟩, hcolumns⟩
        | ⟨hunnamed, hfind⟩
      · obtain ⟨hname, hlast, hscope, hquery⟩ := hrest'
        refine .inl ⟨r, q, hfind, ⟨⟨label, query, tail⟩ :: before, cte', after, scope',
          by rw [hctes, List.cons_append], hname, hlast, ?_, hquery⟩, hcolumns⟩
        rw [scopeOf, hp]
        exact hscope
      · by_cases hkey : Text.lower label.name.text = key
        · rw [hkey, Keyed.find?_put_self] at hfind
          exact .inl ⟨p, _, hfind, ⟨[], _, rest, scope, rfl, hkey, hunnamed, by rw [scopeOf], hp⟩,
            columns_requalified p _⟩
        · rw [Keyed.find?_put_of_ne hkey] at hfind
          exact .inr ⟨List.forall_mem_cons.mpr ⟨hkey, hunnamed⟩, hfind⟩

/-! ### One relation -/

/-- The columns of a relation behind a WITH clause, which stands in a scope itself. -/
inductive Yields (c : Catalog) (scope : Scope) (ctes : List Cte) : Factor → List Column → Prop
  /-- A named query has the columns of the query. -/
  | named {n : Name} {arguments hints : List Piece} {label : Option Alias} {p : Plan}
      (h : Names c scope ctes (Text.lower n.text) p) :
      Yields c scope ctes (.table [n] arguments label hints) p.columns
  /-- So has one that is named further outside. -/
  | outer {n : Name} {arguments hints : List Piece} {label : Option Alias} {p : Plan}
      (hunnamed : Unnamed ctes (Text.lower n.text))
      (h : scope.find? (Text.lower n.text) = some p) :
      Yields c scope ctes (.table [n] arguments label hints) p.columns
  /-- A table or a view has the columns that the catalog keeps of it. -/
  | object {name : QualifiedName} {arguments hints : List Piece} {label : Option Alias}
      {path : ObjectPath} {object : CatalogObject}
      (hfree : ∀ n, name = [n] →
        Unnamed ctes (Text.lower n.text) ∧ scope.find? (Text.lower n.text) = none)
      (hpath : c.qualify (QualifiedName.texts name) = .ok path)
      (hget : c.get? path = some object) :
      Yields c scope ctes (.table name arguments label hints) object.columns
  /-- A derived table has the columns of its query. -/
  | derived {lateral : Bool} {query : Query} {label : Option Alias} {inner : Scope} {p : Plan}
      (hscope : scopeOf c scope ctes = .ok inner) (h : ofQuery c inner query = .ok p) :
      Yields c scope ctes (.derived lateral query label) p.columns

theorem columns_scan (path : ObjectPath) (visible : String) (list : List Column) :
    columns ⟨.scan path, [], list.map fun col => ⟨some visible, col.name, col.dataType⟩⟩
      = list := by
  simp [columns, Field.column, Function.comp_def]

theorem exists_scanned {parts : List String} {path : ObjectPath} {object : CatalogObject}
    (hpath : c.qualify parts = .ok path) (hget : c.get? path = some object) (visible : String) :
    ∃ p, scanned c parts visible = .ok p ∧ p.columns = object.columns := by
  have hobject : c.resolve path = .ok object := by
    rw [Catalog.resolve, hget]
  refine ⟨⟨.scan path, [], object.columns.map fun col => ⟨some visible, col.name, col.dataType⟩⟩,
    ?_, ?_⟩
  · unfold scanned
    rw [hpath]
    show (c.resolve path >>= _) = _
    rw [hobject]
    rfl
  · exact columns_scan path visible object.columns

/-- Where no query is named, what a name means is an object of the catalog. -/
theorem exists_relation_of_get? {parts : List String} {path : ObjectPath}
    {object : CatalogObject} (hpath : c.qualify parts = .ok path)
    (hget : c.get? path = some object) (visible : String) :
    ∃ p, relation c [] parts visible = .ok p ∧ p.columns = object.columns := by
  have hscan := exists_scanned hpath hget visible
  rcases parts with _ | ⟨single, _ | ⟨second, rest⟩⟩
  · exact hscan
  · rwa [relation_of_none rfl]
  · exact hscan

theorem yields_of_relation (hscope : scopeOf c scope ctes = .ok inner) {name : QualifiedName}
    {visible : String} (h : relation c inner (QualifiedName.texts name) visible = .ok p)
    (arguments : List Piece) (label : Option Alias) (hints : List Piece) :
    Yields c scope ctes (.table name arguments label hints) p.columns := by
  cases found_of_relation h with
  | @named n q hfind =>
      rw [columns_requalified]
      rcases find?_of_scopeOf hscope (Text.lower n.text) with ⟨r, q', hq', hnames, hcolumns⟩
        | ⟨hunnamed, hsame⟩
      · cases hfind.symm.trans hq'
        rw [hcolumns]
        exact .named hnames
      · exact .outer hunnamed (hsame.symm.trans hfind)
  | scanned hfree hscan =>
      obtain ⟨path, object, hpath, hget, rfl⟩ := scanned_eq_ok hscan
      rw [columns_scan]
      refine .object (fun n hn => ?_) hpath hget
      rcases find?_of_scopeOf hscope (Text.lower n.text) with ⟨r, q, hq, -⟩ | ⟨hunnamed, hsame⟩
      · cases (hfree n hn).symm.trans hq
      · exact ⟨hunnamed, hsame.symm.trans (hfree n hn)⟩

/-! ### Relations side by side -/

/-- The plan has the columns of the relations, one list behind the other. -/
def SideBySide (c : Catalog) (scope : Scope) (ctes : List Cte) (p : Plan)
    (relations : List Factor) : Prop :=
  ∃ lists, List.Forall₂ (Yields c scope ctes) relations lists ∧ p.columns = lists.flatten

theorem sideBySide_singleton {relation : Factor} (h : Yields c scope ctes relation p.columns) :
    SideBySide c scope ctes p [relation] :=
  ⟨[p.columns], .cons h .nil, by simp⟩

theorem SideBySide.joined (hleft : SideBySide c scope ctes left relations)
    (hright : SideBySide c scope ctes right relations') (mode : JoinMode)
    (condition : Option String) :
    SideBySide c scope ctes (joined left right mode condition) (relations ++ relations') := by
  obtain ⟨lists, hlists, hcolumns⟩ := hleft
  obtain ⟨lists', hlists', hcolumns'⟩ := hright
  refine ⟨lists ++ lists', List.rel_append hlists hlists', ?_⟩
  rw [List.flatten_append, ← hcolumns, ← hcolumns']
  exact List.map_append

mutual

theorem sideBySide_of_ofFrom (hscope : scopeOf c scope ctes = .ok inner) :
    ∀ (item : From) {p : Plan}, ofFrom c inner item = .ok p →
      SideBySide c scope ctes p item.relations
  | ⟨factor, joins⟩, p, h => by
    rw [ofFrom] at h
    obtain ⟨left, hleft, hjoins⟩ := bind_eq_ok.mp h
    rw [From.relations]
    exact sideBySide_of_ofJoins hscope joins (sideBySide_of_ofFactor hscope factor hleft) hjoins

theorem sideBySide_of_ofJoins (hscope : scopeOf c scope ctes = .ok inner) :
    ∀ (joins : List Join) {left p : Plan} {relations : List Factor},
      SideBySide c scope ctes left relations → ofJoins c inner left joins = .ok p →
        SideBySide c scope ctes p (relations ++ relationsOfJoins joins)
  | [], left, p, relations, hleft, h => by
    rw [ofJoins] at h
    cases h
    rw [relationsOfJoins, List.append_nil]
    exact hleft
  | ⟨_, kind, factor, _, constraint⟩ :: rest, left, p, relations, hleft, h => by
    rw [ofJoins] at h
    obtain ⟨right, hright, h⟩ := bind_eq_ok.mp h
    obtain ⟨condition, -, h⟩ := bind_eq_ok.mp h
    rw [relationsOfJoins, ← List.append_assoc]
    have hboth := hleft.joined (sideBySide_of_ofFactor hscope factor hright) (joinMode kind).1
      condition
    exact sideBySide_of_ofJoins hscope rest hboth h

theorem sideBySide_of_ofFactor (hscope : scopeOf c scope ctes = .ok inner) :
    ∀ (factor : Factor) {p : Plan}, ofFactor c inner factor = .ok p →
      SideBySide c scope ctes p factor.relations
  | .table name arguments label hints, p, h => by
    rw [Factor.relations]
    unfold ofFactor at h
    exact sideBySide_singleton (yields_of_relation hscope h arguments label hints)
  | .derived lateral query label, p, h => by
    rw [ofFactor] at h
    obtain ⟨r, hr, h⟩ := bind_eq_ok.mp h
    have hcolumns : p.columns = r.columns := by
      cases h
      cases label with
      | none => rfl
      | some a => exact columns_requalified r a.name.text
    rw [Factor.relations]
    refine sideBySide_singleton ?_
    rw [hcolumns]
    exact .derived hscope hr
  | .nested inner' _, p, h => by
    rw [ofFactor] at h
    rw [Factor.relations]
    exact sideBySide_of_ofFrom hscope inner' h
  | .other pieces label tail, p, h => by
    rw [ofFactor] at h
    cases h

end

theorem sideBySide_of_ofMoreSources (hscope : scopeOf c scope ctes = .ok inner)
    {items : List From} (hleft : SideBySide c scope ctes left relations)
    (h : ofMoreSources c inner left items = .ok p) :
    SideBySide c scope ctes p (relations ++ relationsOf items) := by
  induction items generalizing left relations with
  | nil =>
      rw [ofMoreSources] at h
      cases h
      rw [relationsOf, List.flatMap_nil, List.append_nil]
      exact hleft
  | cons item rest ih =>
      rw [ofMoreSources] at h
      obtain ⟨right, hright, h⟩ := bind_eq_ok.mp h
      rw [relationsOf, List.flatMap_cons, ← List.append_assoc]
      exact ih (hleft.joined (sideBySide_of_ofFrom hscope item hright) .inner none) h

/-- **A FROM clause yields the columns of its relations, in the order in which they stand.** -/
theorem sideBySide_of_ofSources (hscope : scopeOf c scope ctes = .ok inner) {sources : List From}
    (hsources : sources ≠ []) (h : ofSources c inner sources = .ok p) :
    SideBySide c scope ctes p (relationsOf sources) := by
  cases sources with
  | nil => exact absurd rfl hsources
  | cons first rest =>
      rw [ofSources] at h
      obtain ⟨left, hleft, hrest⟩ := bind_eq_ok.mp h
      exact sideBySide_of_ofMoreSources hscope (sideBySide_of_ofFrom hscope first hleft) hrest

/-! ### Queries as relations -/

/-- A derived table is planned as its query is, with the same columns. -/
theorem exists_ofFactor_derived {q : Query} (hq : ofQuery c scope q = .ok p) (lateral : Bool)
    (label : Option Alias) :
    ∃ found, ofFactor c scope (.derived lateral q label) = .ok found
      ∧ found.columns = p.columns := by
  rw [ofFactor, hq]
  refine ⟨_, rfl, ?_⟩
  cases label with
  | none => rfl
  | some a => exact columns_requalified p a.name.text

/-- So is a query that is named in front, wherever it is referred to. -/
theorem exists_ofFactor_named {q : Query} {label : Alias} {n : Name}
    (hname : Text.lower n.text = Text.lower label.name.text) (hq : ofQuery c scope q = .ok p)
    (source : Option Name) (arguments : List Piece) (seen : Option Alias) (hints : List Piece) :
    ∃ inner found, scopeOf c scope [⟨label, q, source⟩] = .ok inner
      ∧ ofFactor c inner (.table [n] arguments seen hints) = .ok found
      ∧ found.columns = p.columns := by
  have hscope : scopeOf c scope [⟨label, q, source⟩]
      = .ok (scope.put (Text.lower label.name.text) (p.requalified label.name.text)) := by
    rw [scopeOf, hq]
    show scopeOf c _ [] = _
    rw [scopeOf]
  obtain ⟨found, hfound, hcolumns⟩ : ∃ found,
      ofFactor c (scope.put (Text.lower label.name.text) (p.requalified label.name.text))
          (.table [n] arguments seen hints) = .ok found
        ∧ found.columns = p.columns := by
    unfold ofFactor
    dsimp only
    rw [QualifiedName.texts, List.map_cons, List.map_nil,
      relation_of_some (by rw [hname, Keyed.find?_put_self])]
    exact ⟨_, rfl, by rw [columns_requalified, columns_requalified]⟩
  exact ⟨_, found, hscope, hfound, hcolumns⟩

/-- An object of the catalog can be referred to, where no query is named. -/
theorem exists_ofFactor_of_get? {name : QualifiedName} {path : ObjectPath} {object : CatalogObject}
    (hpath : c.qualify (QualifiedName.texts name) = .ok path) (hget : c.get? path = some object)
    (arguments : List Piece) (label : Option Alias) (hints : List Piece) :
    ∃ found, ofFactor c [] (.table name arguments label hints) = .ok found
      ∧ found.columns = object.columns := by
  unfold ofFactor
  exact exists_relation_of_get? hpath hget _

/-! ### Stars -/

/-- A star hands on the columns of the sources, in spite of any other clause. -/
theorem columns_overSources_star {options : List Piece}
    (hstar : s.projection = [.wildcard options]) :
    (overSources c source s).columns = source.columns := by
  unfold columns
  rw [fields_overSources, hstar, expansions, expansions, expansion, List.append_nil]
  simp [Projected.ofField, Projected.typeOver, Field.column, Function.comp_def]

/-- A star over sources that are planned is planned. -/
theorem ofSelect_star {options : List Piece} (hstar : s.projection = [.wildcard options])
    (hselection : s.selection = none) (hsource : ofSources c scope s.sources = .ok source) :
    ofSelect c scope s = .ok (overSources c source s) := by
  have hstars : ∀ item ∈ s.projection, StarMeets source.fields item := by
    rw [hstar]
    exact List.forall_mem_singleton.mpr trivial
  rw [ofSelect_eq hsource hstars, checked, hselection, hstar]
  rfl

/-- A query that is a star behind a WITH clause has the columns of its sources. -/
theorem exists_ofQuery_star {options : List Piece} (hstar : s.projection = [.wildcard options])
    (hselection : s.selection = none) (hscope : scopeOf c scope ctes = .ok inner)
    (hsource : ofSources c inner s.sources = .ok source) (recursive : Bool) :
    ∃ p, ofQuery c scope { plainly (.select s) with recursive := recursive, ctes := ctes } = .ok p
      ∧ p.columns = source.columns := by
  refine ⟨overSources c source s, ?_, columns_overSources_star hstar⟩
  unfold plainly
  rw [ofQuery, hscope]
  show (ofBody c inner (.select s) >>= _) = _
  rw [ofBody, ofSelect_star hstar hselection hsource]
  rfl

end Plan
end Stencil
