/-
Join conditions in the statements that the planning engine accepts.

A clause that is planned keeps the conditions of its inner and outer joins, each with all of
its references resolved.  So a statement with a reference that means no field of the two sides
or several is rejected, wherever the clause stands in it.  Of semi joins, anti joins and joins
on the order of rows nothing is kept, and joins on equal columns are planned on no condition:
they come to a cross join unless they keep rows without a partner.
-/
import Stencil.Proofs.Engine.Operation
import Stencil.Proofs.Plan.Clauses
import Stencil.Proofs.Plan.Folding

namespace Stencil.Planning

open Sql Plan

variable {c : Catalog}

/-- **A statement is rejected for a reference in a join condition that does not resolve.** -/
theorem rejected_of_unresolved {s : Statement} {q : Query} (hq : source? (planned s) = some q)
    {scope : Scope} {sources : List From} (hdrawn : Drawn c scope sources [] (.query q))
    {item front : From} (hitem : item ∈ sources) {j : Join} (hj : Joins item front j)
    (hkind : j.kind ∈ counting) {e : Expr} (he : j.constraint = .on e) {left right : Plan}
    (hleft : ofFrom c scope front = .ok left) (hright : ofFactor c scope j.factor = .ok right)
    {ref : Reference} (href : ref ∈ references e)
    (hunresolved : ¬ ref.Resolves (left.fields ++ right.fields)) :
    ∃ error, operation c s = .error error := by
  cases hop : operation c s with
  | error error => exact ⟨error, rfl⟩
  | ok op =>
      obtain ⟨p, hp⟩ := hdrawn.planned (planned_of_ofStatement (madeOf_of_operation hop).plan hq)
      obtain ⟨r, hr, -⟩ := exists_of_mem_sources hp hitem
      obtain ⟨n, -, hn⟩ := exists_node hj hr
      obtain ⟨left', right', hplanned⟩ := exists_plannedAs hn
      obtain rfl : left' = left := Except.ok.inj (hplanned.planLeft.symm.trans hleft)
      obtain rfl : right' = right := Except.ok.inj (hplanned.planRight.symm.trans hright)
      have hresolved := ((joinedOn_iff hn he).mpr hkind).resolved ref href
      rw [hplanned.fields] at hresolved
      exact absurd hresolved hunresolved

/--
**What becomes of join constraints.**  In a FROM clause that is planned, each join is a node over
the plans of what it joins.  The node has the condition that is written, with each reference in
it meaning exactly one field of the two sides, if and only if the join is an inner or an outer
one.  If nothing counts of the constraint, because of the kind or because it is no condition, the
plan is another than that of a cross join if and only if the join is an outer one.  And a
statement with a FROM clause in which a reference in a condition that counts does not mean
exactly one field of the two sides is rejected.
-/
theorem join_constraints (c : Catalog) :
    (∀ (scope : Scope) (sources : List From) (p : Plan), ofSources c scope sources = .ok p →
        ∀ item ∈ sources, ∀ front j, Joins item front j →
          ∃ left right n, PlannedAs c scope front j left right n ∧ n ∈ p.nodes
            ∧ (∀ e, j.constraint = .on e →
                (JoinedOn e n ↔ j.kind ∈ [.inner, .left, .right, .full]))
            ∧ ((j.kind ∉ [.inner, .left, .right, .full] ∨ ∀ e, j.constraint ≠ .on e) →
                (ofFrom c scope (crossing front j.factor) ≠ .ok n
                  ↔ j.kind ∈ [.left, .right, .full])))
      ∧ ∀ (s : Statement) (q : Query), source? (planned s) = some q →
        ∀ scope sources, Drawn c scope sources [] (.query q) →
          ∀ item ∈ sources, ∀ front j e left right, Joins item front j →
            j.kind ∈ [.inner, .left, .right, .full] → j.constraint = .on e →
            ofFrom c scope front = .ok left → ofFactor c scope j.factor = .ok right →
            (∃ ref ∈ references e, ¬ ref.Resolves (left.fields ++ right.fields)) →
              ∃ error, operation c s = .error error := by
  constructor
  · intro scope sources p hp item hitem front j hj
    obtain ⟨r, hr, hbelow⟩ := exists_of_mem_sources hp hitem
    obtain ⟨n, hn, hnode⟩ := exists_node hj hr
    obtain ⟨left, right, hplanned⟩ := exists_plannedAs hnode
    exact ⟨left, right, n, hplanned, hbelow hn, fun e he => joinedOn_iff hnode he,
      ne_crossing_iff hnode⟩
  · rintro s q hq scope sources hdrawn item hitem front j e left right hj hkind he hleft hright
      ⟨ref, href, hunresolved⟩
    exact rejected_of_unresolved hq hdrawn hitem hj hkind he hleft hright href hunresolved

/-- The table `a` under a label. -/
def labelled (label : String) : Factor :=
  .table [⟨"a", none⟩] [] (some ⟨⟨label, none⟩, []⟩) []

/-- The table `a` joined to itself. -/
def selfJoin (kind : JoinKind) (constraint : Constraint) : From :=
  joining ⟨labelled "x", []⟩ ⟨false, kind, labelled "y", [], constraint⟩

/-- All rows of some sources. -/
def everything (sources : List From) : Query :=
  ⟨false, [], .select ⟨false, [], [], [.wildcard []], "", sources, [], none, .keys [] "", [], none,
    []⟩, [], [], none, none, "", [], none, []⟩

/-- A condition on one column of each side. -/
def sameColumn : Expr :=
  .infixed (.qualified [⟨"x", none⟩, ⟨"i", none⟩]) "=" (.qualified [⟨"y", none⟩, ⟨"i", none⟩])

/-- A condition on a column that no table has. -/
def unknownColumn : Expr := .infixed (.name ⟨"nope", none⟩) "=" (.literal (.number "1" false))

/-- A left join with a condition that is kept, and one that is rejected in a derived table. -/
theorem join_constraints_left :
    (selfJoin .left (.on sameColumn)).written = "a AS x LEFT JOIN a AS y ON x.i = y.i"
      ∧ (∃ p n, ofSources tableA [] [selfJoin .left (.on sameColumn)] = .ok p ∧ n ∈ p.nodes
        ∧ JoinedOn sameColumn n)
      ∧ (Statement.query (everything [⟨.derived false
            (everything [selfJoin .left (.on unknownColumn)]) none, []⟩])).written
        = "SELECT * FROM (SELECT * FROM a AS x LEFT JOIN a AS y ON nope = 1)"
      ∧ ∃ error, operation tableA (.query (everything [⟨.derived false
            (everything [selfJoin .left (.on unknownColumn)]) none, []⟩])) = .error error := by
  have hjoins : ∀ constraint, Joins (selfJoin .left constraint) ⟨labelled "x", []⟩
      ⟨false, .left, labelled "y", [], constraint⟩ := fun constraint => .here _ [] _ []
  refine ⟨by decide +kernel, ?_, by decide +kernel, ?_⟩
  · obtain ⟨p, hp⟩ : ∃ p, ofSources tableA [] [selfJoin .left (.on sameColumn)] = .ok p := ⟨_, rfl⟩
    obtain ⟨left, right, n, -, hn, hon, -⟩ := (join_constraints tableA).1 [] _ p hp _
      (List.mem_singleton_self _) _ _ (hjoins _)
    exact ⟨p, n, hp, hn, (hon sameColumn rfl).mpr (by decide)⟩
  · obtain ⟨left, hleft⟩ : ∃ left, ofFrom tableA [] ⟨labelled "x", []⟩ = .ok left := ⟨_, rfl⟩
    obtain ⟨right, hright⟩ : ∃ right, ofFactor tableA [] (labelled "y") = .ok right := ⟨_, rfl⟩
    refine (join_constraints tableA).2 _ _ rfl [] [selfJoin .left (.on unknownColumn)] ?_ _
      (List.mem_singleton_self _) _ _ unknownColumn left right (hjoins _) (by decide) rfl hleft
      hright ⟨⟨none, "nope"⟩, List.mem_singleton_self _, ?_⟩
    · exact .body rfl (.select (.item (List.mem_singleton_self _)
        (.factor (.derived (.body rfl (.select .here))))))
    · cases hleft
      cases hright
      decide +kernel

/-- A semi join with a condition on an unknown column, and a join on an equal column, are planned
as the cross join of the tables. -/
theorem join_constraints_dropped :
    (selfJoin .leftSemi (.on unknownColumn)).written = "a AS x LEFT SEMI JOIN a AS y ON nope = 1"
      ∧ (selfJoin .inner (.using [⟨"i", none⟩])).written = "a AS x JOIN a AS y USING(i)"
      ∧ ∃ n, ofFrom tableA [] (selfJoin .cross .none) = .ok n
        ∧ ofFrom tableA [] (selfJoin .leftSemi (.on unknownColumn)) = .ok n
        ∧ ofFrom tableA [] (selfJoin .inner (.using [⟨"i", none⟩])) = .ok n
        ∧ n.operator = .join .inner none
        ∧ ⟨none, "nope"⟩ ∈ references unknownColumn
        ∧ ¬ Reference.Resolves n.fields ⟨none, "nope"⟩ :=
  ⟨by decide +kernel, by decide +kernel, _, rfl, rfl, rfl, rfl, List.mem_singleton_self _,
    by decide +kernel⟩

end Stencil.Planning
