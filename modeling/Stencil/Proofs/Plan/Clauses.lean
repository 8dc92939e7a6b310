/-
The FROM clauses that planning a query goes through.

A clause is drawn on from some place of a query: in its body, in a query that is named in
front, or in a query that stands in another FROM clause.  `Drawn` says from which place, and
in which scope the clause is planned then.  A place is planned only if all the clauses that
are drawn on from it are (`Drawn.planned`), so one clause that fails is enough for the whole
statement to be rejected.
-/
import Stencil.Proofs.Plan.Joins

namespace Stencil

namespace Plan

open Sql

variable {c : Catalog} {scope inner : Scope} {clause : List From}

/-- A part of a query that is planned by itself. -/
inductive Place where
  | query (q : Query)
  | body (b : Body)
  | sources (items : List From)
  | item (item : From)
  | factor (factor : Factor)

/-- The place has a plan. -/
def Place.Planned (c : Catalog) (scope : Scope) : Place → Prop
  | .query q => ∃ p, ofQuery c scope q = .ok p
  | .body b => ∃ p, ofBody c scope b = .ok p
  | .sources items => ∃ p, ofSources c scope items = .ok p
  | .item i => ∃ p, ofFrom c scope i = .ok p
  | .factor f => ∃ p, ofFactor c scope f = .ok p

/-- A FROM clause is drawn on from a place, the clause and the place each in its scope. -/
inductive Drawn (c : Catalog) (inner : Scope) (clause : List From) : Scope → Place → Prop
  | here : Drawn c inner clause inner (.sources clause)
  /-- In a query that is named in front, behind the names that stand before it. -/
  | named {scope scope' : Scope} {q : Query} {before after : List Cte} {cte : Cte}
      (hctes : q.ctes = before ++ cte :: after) (hscope : scopeOf c scope before = .ok scope')
      (h : Drawn c inner clause scope' (.query cte.query)) : Drawn c inner clause scope (.query q)
  | body {scope scope' : Scope} {q : Query} (hscope : scopeOf c scope q.ctes = .ok scope')
      (h : Drawn c inner clause scope' (.body q.body)) : Drawn c inner clause scope (.query q)
  | select {scope : Scope} {s : Select} (h : Drawn c inner clause scope (.sources s.sources)) :
      Drawn c inner clause scope (.body (.select s))
  | inBody {scope : Scope} {q : Query} (h : Drawn c inner clause scope (.query q)) :
      Drawn c inner clause scope (.body (.query q))
  | left {scope : Scope} {op : SetOperator} {quantifier : SetQuantifier} {left right : Body}
      (h : Drawn c inner clause scope (.body left)) :
      Drawn c inner clause scope (.body (.setOperation op quantifier left right))
  | right {scope : Scope} {op : SetOperator} {quantifier : SetQuantifier} {left right : Body}
      (h : Drawn c inner clause scope (.body right)) :
      Drawn c inner clause scope (.body (.setOperation op quantifier left right))
  | item {scope : Scope} {items : List From} {item : From} (hitem : item ∈ items)
      (h : Drawn c inner clause scope (.item item)) : Drawn c inner clause scope (.sources items)
  | factor {scope : Scope} {item : From} (h : Drawn c inner clause scope (.factor item.factor)) :
      Drawn c inner clause scope (.item item)
  | joined {scope : Scope} {item : From} {j : Join} (hj : j ∈ item.joins)
      (h : Drawn c inner clause scope (.factor j.factor)) : Drawn c inner clause scope (.item item)
  | nested {scope : Scope} {item : From} {label : Option Alias}
      (h : Drawn c inner clause scope (.item item)) :
      Drawn c inner clause scope (.factor (.nested item label))
  | derived {scope : Scope} {lateral : Bool} {q : Query} {label : Option Alias}
      (h : Drawn c inner clause scope (.query q)) :
      Drawn c inner clause scope (.factor (.derived lateral q label))

/-- The queries that are named in front are planned one after the other. -/
theorem scopeOf_append_eq_ok {before after : List Cte} {scope' : Scope} :
    scopeOf c scope (before ++ after) = .ok scope'
      ↔ ∃ s, scopeOf c scope before = .ok s ∧ scopeOf c s after = .ok scope' := by
  induction before generalizing scope with
  | nil => simp [scopeOf]
  | cons cte before ih =>
      obtain ⟨label, query, _⟩ := cte
      rw [List.cons_append, scopeOf, scopeOf]
      simp only [bind_eq_ok, ih]
      constructor
      · rintro ⟨p, hp, s, hbefore, hafter⟩
        exact ⟨s, ⟨p, hp, hbefore⟩, hafter⟩
      · rintro ⟨s, ⟨p, hp, hbefore⟩, hafter⟩
        exact ⟨p, hp, s, hbefore, hafter⟩

/-- A query is planned in two steps: the queries in front, and its body in their scope. -/
theorem Place.planned_query {q : Query} :
    Place.Planned c scope (.query q)
      ↔ ∃ scope', scopeOf c scope q.ctes = .ok scope' ∧ Place.Planned c scope' (.body q.body) := by
  obtain ⟨_, ctes, body, order, _, limit, offset, _, _, _, _⟩ := q
  simp only [Place.Planned, ofQuery, bind_eq_ok]
  constructor
  · rintro ⟨p, scope', hscope, r, hbody, -⟩
    exact ⟨scope', hscope, r, hbody⟩
  · rintro ⟨scope', hscope, r, hbody⟩
    exact ⟨_, scope', hscope, r, hbody, rfl⟩

theorem Place.planned_setOperation {op : SetOperator} {quantifier : SetQuantifier}
    {left right : Body}
    (h : Place.Planned c scope (.body (.setOperation op quantifier left right))) :
    Place.Planned c scope (.body left) ∧ Place.Planned c scope (.body right) := by
  obtain ⟨p, h⟩ := h
  rw [ofBody] at h
  obtain ⟨l, hl, h⟩ := bind_eq_ok.mp h
  obtain ⟨r, hr, -⟩ := bind_eq_ok.mp h
  exact ⟨⟨l, hl⟩, ⟨r, hr⟩⟩

/-- **A place is planned only if the clauses that are drawn on from it are.** -/
theorem Drawn.planned {place : Place} (h : Drawn c inner clause scope place)
    (hplanned : place.Planned c scope) : ∃ p, ofSources c inner clause = .ok p := by
  induction h with
  | here => exact hplanned
  | @named scope scope' q before after cte hctes hscope _ ih =>
      obtain ⟨_, hall, -⟩ := Place.planned_query.mp hplanned
      rw [hctes, scopeOf_append_eq_ok] at hall
      obtain ⟨s, hbefore, hcte⟩ := hall
      rw [hscope] at hbefore
      cases hbefore
      obtain ⟨label, query, _⟩ := cte
      rw [scopeOf] at hcte
      obtain ⟨p, hp, -⟩ := bind_eq_ok.mp hcte
      exact ih ⟨p, hp⟩
  | body hscope _ ih =>
      obtain ⟨s, hs, hbody⟩ := Place.planned_query.mp hplanned
      rw [hscope] at hs
      cases hs
      exact ih hbody
  | @select scope s _ ih =>
      obtain ⟨p, hp⟩ := hplanned
      obtain ⟨distinct, _, _, projection, _, sources, _, selection, grouping, _, having, _⟩ := s
      rw [ofBody, ofSelect] at hp
      obtain ⟨input, hinput, -⟩ := bind_eq_ok.mp hp
      exact ih ⟨input, hinput⟩
  | inBody _ ih =>
      obtain ⟨p, hp⟩ := hplanned
      rw [ofBody] at hp
      exact ih ⟨p, hp⟩
  | left _ ih => exact ih (Place.planned_setOperation hplanned).1
  | right _ ih => exact ih (Place.planned_setOperation hplanned).2
  | item hitem _ ih =>
      obtain ⟨p, hp⟩ := hplanned
      obtain ⟨r, hr, -⟩ := exists_of_mem_sources hp hitem
      exact ih ⟨r, hr⟩
  | @factor scope item _ ih =>
      obtain ⟨p, hp⟩ := hplanned
      obtain ⟨factor, joins⟩ := item
      rw [ofFrom] at hp
      obtain ⟨r, hr, -⟩ := bind_eq_ok.mp hp
      exact ih ⟨r, hr⟩
  | @joined scope item j hj _ ih =>
      obtain ⟨p, hp⟩ := hplanned
      obtain ⟨factor, joins⟩ := item
      rw [ofFrom] at hp
      obtain ⟨left, -, hjoins⟩ := bind_eq_ok.mp hp
      obtain ⟨right, hright, -⟩ := exists_of_mem_joins hjoins hj
      exact ih ⟨right, hright⟩
  | nested _ ih =>
      obtain ⟨p, hp⟩ := hplanned
      rw [ofFactor] at hp
      exact ih ⟨p, hp⟩
  | derived _ ih =>
      obtain ⟨p, hp⟩ := hplanned
      rw [ofFactor] at hp
      obtain ⟨r, hr, -⟩ := bind_eq_ok.mp hp
      exact ih ⟨r, hr⟩

/-! ### Statements -/

/-- The query whose rows a statement yields or inserts. -/
def source? : Statement → Option Query
  | .query q => some q
  | .insert i => i.source
  | _ => none

/-- A statement is planned only if its query is. -/
theorem planned_of_ofStatement {s : Statement} {q : Query} {plan : Option Plan}
    (h : ofStatement c s = .ok plan) (hq : source? s = some q) :
    Place.Planned c [] (.query q) := by
  unfold ofStatement at h
  split at h
  · cases hq
    obtain ⟨p, hp, -⟩ := map_eq_ok.mp h
    exact ⟨p, hp⟩
  · rename_i i
    obtain ⟨p, hp, -⟩ := map_eq_ok.mp h
    unfold ofInsert at hp
    obtain ⟨path, -, hp⟩ := bind_eq_ok.mp hp
    obtain ⟨columns, -, hp⟩ := bind_eq_ok.mp hp
    rw [show i.source = some q from hq] at hp
    obtain ⟨input, hinput, -⟩ := bind_eq_ok.mp hp
    exact ⟨input, hinput⟩
  · rename_i hquery hinsert
    cases s with
    | query q => exact absurd rfl (hquery q)
    | insert i => exact absurd rfl (hinsert i)
    | _ => cases hq

end Plan
end Stencil
