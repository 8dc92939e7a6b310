/-
A named query may be written out.

Planning a query behind a named one and planning it with the named one written out
in its places come to the same.  The induction follows the recursion of planning.
Nothing is named in the query itself, so its scope is the same at every reference,
and there the plan of the named query is either found under its name or made anew.
Both are then seen through the name of the reference, and what they were seen through
before is forgotten.
-/
import Mathlib.Control.Monad.Basic
import Stencil.Plan.Planner
import Stencil.Proofs.Keyed
import Stencil.Proofs.Outcome
import Stencil.Proofs.Plan.Nodes
import Stencil.Proofs.Sql.Inlining

namespace Stencil.Plan

open Sql

variable {c : Catalog} {scope : Scope} {cte : Cte} {p : Plan}

/-- Of two names that the fields are seen through one after the other, the second counts. -/
theorem requalified_requalified (p : Plan) (first second : String) :
    (p.requalified first).requalified second = p.requalified second := by
  simp [requalified, Field.requalified, Function.comp_def]

/-- The scope with the plan of a named query. -/
def Scope.naming (scope : Scope) (cte : Cte) (p : Plan) : Scope :=
  scope.put (Text.lower cte.label.name.text) (p.requalified cte.label.name.text)

/-! ### One reference -/

theorem find?_naming_of_meant {n : Name} (h : cte.isMeant n = true) :
    (scope.naming cte p).find? (Text.lower n.text) = some (p.requalified cte.label.name.text) := by
  rw [Cte.isMeant, beq_iff_eq] at h
  rw [Scope.naming, h, Keyed.find?_put_self]

theorem find?_naming_of_not_meant {n : Name} (h : cte.isMeant n = false) :
    (scope.naming cte p).find? (Text.lower n.text) = scope.find? (Text.lower n.text) := by
  rw [Cte.isMeant, beq_eq_false_iff_ne] at h
  rw [Scope.naming, Keyed.find?_put_of_ne h.symm]

theorem ofFactor_inPlaceOf (hq : ofQuery c scope cte.query = .ok p) (name : QualifiedName)
    (arguments : List Piece) (label : Option Alias) (hints : List Piece) :
    ofFactor c (scope.naming cte p) (.table name arguments label hints)
      = ofFactor c scope (cte.inPlaceOf name arguments label hints) := by
  rcases name with _ | ⟨n, _ | ⟨m, rest⟩⟩
  · simp only [Cte.inPlaceOf, ofFactor, QualifiedName.texts, List.map_nil, relation]
  · cases hmeant : cte.isMeant n with
    | true =>
        rw [Cte.inPlaceOf, if_pos hmeant]
        -- The derived table is planned anew where the name was only looked up.
        simp only [ofFactor, QualifiedName.texts, relation, List.map_cons, List.map_nil,
          find?_naming_of_meant hmeant, requalified_requalified, hq]
        cases label <;> rfl
    | false =>
        rw [Cte.inPlaceOf, if_neg (by simp [hmeant])]
        simp only [ofFactor, QualifiedName.texts, relation, List.map_cons, List.map_nil,
          find?_naming_of_not_meant hmeant]
  · simp only [Cte.inPlaceOf, ofFactor, QualifiedName.texts, List.map_cons, relation]

/-! ### Queries -/

theorem scopeOf_singleton (hq : ofQuery c scope cte.query = .ok p) :
    scopeOf c scope [cte] = .ok (scope.naming cte p) := by
  obtain ⟨label, query, source⟩ := cte
  rw [scopeOf, hq]
  show scopeOf c (scope.naming ⟨label, query, source⟩ p) [] = _
  rw [scopeOf]

mutual

theorem ofQuery_inlined (hq : ofQuery c scope cte.query = .ok p) :
    ∀ b : Query, b.withFree = true →
      ofQuery c (scope.naming cte p) b = ofQuery c scope (b.inlined cte)
  | ⟨_, ctes, body, order, _, limit, offset, _, _, _, _⟩, h => by
    rw [Query.withFree, Bool.and_eq_true, List.isEmpty_iff] at h
    obtain ⟨rfl, hbody⟩ := h
    rw [Query.inlined, ofQuery, ofQuery, scopeOf, scopeOf]
    show (ofBody c (scope.naming cte p) body >>= _) = (ofBody c scope (body.inlined cte) >>= _)
    rw [ofBody_inlined hq body hbody]

theorem ofBody_inlined (hq : ofQuery c scope cte.query = .ok p) :
    ∀ b : Body, b.withFree = true →
      ofBody c (scope.naming cte p) b = ofBody c scope (b.inlined cte)
  | .select s, h => by
    rw [Body.withFree] at h
    rw [Body.inlined, ofBody, ofBody, ofSelect_inlined hq s h]
  | .query q, h => by
    rw [Body.withFree] at h
    rw [Body.inlined, ofBody, ofBody, ofQuery_inlined hq q h]
  | .setOperation op quantifier left right, h => by
    rw [Body.withFree, Bool.and_eq_true] at h
    rw [Body.inlined, ofBody, ofBody, ofBody_inlined hq left h.1, ofBody_inlined hq right h.2]
  | .values explicitRow rows, h => by rw [Body.inlined, ofBody, ofBody]
  | .other pieces, h => by rw [Body.inlined, ofBody, ofBody]

theorem ofSelect_inlined (hq : ofQuery c scope cte.query = .ok p) :
    ∀ s : Select, s.withFree = true →
      ofSelect c (scope.naming cte p) s = ofSelect c scope (s.inlined cte)
  | ⟨distinct, _, _, projection, _, sources, _, selection, grouping, _, having, _⟩, h => by
    rw [Select.withFree] at h
    rw [Select.inlined, ofSelect, ofSelect, ofSources_inlined hq sources h]

theorem ofSources_inlined (hq : ofQuery c scope cte.query = .ok p) :
    ∀ sources : List From, withFreeSources sources = true →
      ofSources c (scope.naming cte p) sources = ofSources c scope (inlinedSources cte sources)
  | [], h => by rw [inlinedSources, ofSources, ofSources]
  | first :: rest, h => by
    rw [withFreeSources, Bool.and_eq_true] at h
    rw [inlinedSources, ofSources, ofSources, ofFrom_inlined hq first h.1]
    exact bind_congr fun left => ofMoreSources_inlined hq rest h.2 left

theorem ofMoreSources_inlined (hq : ofQuery c scope cte.query = .ok p) :
    ∀ sources : List From, withFreeSources sources = true → ∀ left : Plan,
      ofMoreSources c (scope.naming cte p) left sources
        = ofMoreSources c scope left (inlinedSources cte sources)
  | [], h, left => by rw [inlinedSources, ofMoreSources, ofMoreSources]
  | item :: rest, h, left => by
    rw [withFreeSources, Bool.and_eq_true] at h
    rw [inlinedSources, ofMoreSources, ofMoreSources, ofFrom_inlined hq item h.1]
    exact bind_congr fun right => ofMoreSources_inlined hq rest h.2 _

theorem ofFrom_inlined (hq : ofQuery c scope cte.query = .ok p) :
    ∀ item : From, item.withFree = true →
      ofFrom c (scope.naming cte p) item = ofFrom c scope (item.inlined cte)
  | ⟨factor, joins⟩, h => by
    rw [From.withFree, Bool.and_eq_true] at h
    rw [From.inlined, ofFrom, ofFrom, ofFactor_inlined hq factor h.1]
    exact bind_congr fun left => ofJoins_inlined hq joins h.2 left

theorem ofJoins_inlined (hq : ofQuery c scope cte.query = .ok p) :
    ∀ joins : List Join, withFreeJoins joins = true → ∀ left : Plan,
      ofJoins c (scope.naming cte p) left joins = ofJoins c scope left (inlinedJoins cte joins)
  | [], h, left => by rw [inlinedJoins, ofJoins, ofJoins]
  | ⟨_, kind, factor, _, constraint⟩ :: rest, h, left => by
    rw [withFreeJoins, Bool.and_eq_true] at h
    rw [inlinedJoins, ofJoins, ofJoins, ofFactor_inlined hq factor h.1]
    exact bind_congr fun right => bind_congr fun condition => ofJoins_inlined hq rest h.2 _

theorem ofFactor_inlined (hq : ofQuery c scope cte.query = .ok p) :
    ∀ factor : Factor, factor.withFree = true →
      ofFactor c (scope.naming cte p) factor = ofFactor c scope (factor.inlined cte)
  | .table name arguments label hints, h => by
    rw [Factor.inlined]
    exact ofFactor_inPlaceOf hq name arguments label hints
  | .derived _ query label, h => by
    rw [Factor.withFree] at h
    rw [Factor.inlined, ofFactor, ofFactor, ofQuery_inlined hq query h]
  | .nested inner _, h => by
    rw [Factor.withFree] at h
    rw [Factor.inlined, ofFactor, ofFactor, ofFrom_inlined hq inner h]
  | .other pieces label tail, h => by rw [Factor.inlined, ofFactor, ofFactor]

end

/--
**A named query can be written out.**  Planning a query behind one that is named in front of
it ends as planning it with the named query in place of its name: in the same plan, or in the
same error.
-/
theorem ofQuery_eq_inlined (recursive : Bool) {b : Query}
    (hq : ofQuery c scope cte.query = .ok p) (hb : b.withFree = true) :
    ofQuery c scope { b with recursive := recursive, ctes := [cte] }
      = ofQuery c scope (b.inlined cte) := by
  rw [← ofQuery_inlined hq b hb]
  obtain ⟨_, ctes, body, order, _, limit, offset, _, _, _, _⟩ := b
  rw [Query.withFree, Bool.and_eq_true, List.isEmpty_iff] at hb
  obtain ⟨rfl, -⟩ := hb
  rw [ofQuery, ofQuery, scopeOf_singleton hq, scopeOf]

/-- A query for one column of relations, and for nothing else. -/
def columnOf (column : QualifiedName) (sources : List From) : Query where
  recursive := false
  ctes := []
  body := .select
    { distinct := false, distinctOn := [], top := [], projection := [.expr (.qualified column)],
      into := "", sources := sources, views := [], selection := none, grouping := .keys [] "",
      clustering := [], having := none, tail := [] }
  order := []
  interpolation := []
  limit := none
  offset := none
  offsetUnit := ""
  limitTail := []
  fetch := none
  tail := []

/-- A named query takes the place of another that it draws on: behind
`W AS (SELECT w.ZERO FROM w)`, both relations of `SELECT x.ZERO FROM W x, (SELECT w.ZERO FROM w) y`
are the new one, and its own `w` is the one before. -/
theorem ofQuery_eq_inlined_shadowing :
    ∃ (scope : Scope) (cte : Cte) (b : Query) (p : Plan),
      ofQuery (Catalog.new "c" "d") scope cte.query = .ok p ∧ b.withFree = true
      ∧ ofQuery (Catalog.new "c" "d") scope { b with recursive := true, ctes := [cte] }
        = ofQuery (Catalog.new "c" "d") scope (b.inlined cte)
      ∧ (fun q : Plan => q.nodes.map (·.operator))
          <$> ofQuery (Catalog.new "c" "d") scope (b.inlined cte)
        = .ok [.values [["0"]], .project [("ZERO", "w.ZERO")], .values [["0"]],
          .project [("ZERO", "w.ZERO")], .project [("ZERO", "w.ZERO")], .join .inner none,
          .project [("ZERO", "x.ZERO")]] := by
  let scope : Scope := [("w", singleRow.requalified "w")]
  let inner : Query := columnOf [.plain "w", .plain "ZERO"] [⟨.table [.plain "w"] [] none [], []⟩]
  let cte : Cte := ⟨⟨.plain "W", []⟩, inner, none⟩
  let outer : Query := columnOf [.plain "x", .plain "ZERO"]
    [⟨.table [.plain "W"] [] (some ⟨.plain "x", []⟩) [], []⟩,
      ⟨.derived false inner (some ⟨.plain "y", []⟩), []⟩]
  have hq : ofQuery (Catalog.new "c" "d") scope inner
      = .ok ⟨.project [("ZERO", "w.ZERO")], [singleRow.requalified "w"],
        [⟨none, "ZERO", "INT"⟩]⟩ := by rfl
  exact ⟨scope, cte, outer, _, hq, rfl, ofQuery_eq_inlined true hq rfl, by decide +kernel⟩

end Stencil.Plan
