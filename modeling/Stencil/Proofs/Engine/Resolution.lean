/-
Statements that the planning engine accepts.

A text is accepted only if all its queries and insertions are planned, an explained
one in place of its explanation; and since no explanation is explained, none escapes.
So whatever they name in a FROM clause is there, with one exception: a query inside
an expression is not planned, and may name what does not exist.  Nothing is ever looked up
for such a query: put another one in its place, and the operation is the same but for its
text, or refused as before.
-/
import Mathlib.Control.Monad.Basic
import Stencil.Proofs.Engine.Operation
import Stencil.Proofs.Plan.Folding
import Stencil.Proofs.Plan.Hollow

namespace Stencil.Planning

open Sql

variable {c : Catalog} {text : String} {op : Operation}

theorem isExplanation_planned {s : Statement} (h : s.Flat) :
    (planned s).isExplanation = false := by
  cases s with
  | explain lead inner => exact h
  | _ => rfl

theorem tables_planned (deep : Bool) (s : Statement) :
    (planned s).tables deep = s.tables deep := by
  cases s <;> rfl

theorem target?_planned (s : Statement) : (planned s).target? = s.target? := by
  cases s <;> rfl

/-- Outside its expressions, an accepted query or insertion names only what is there: queries in
scope and objects of the catalog, and a table to insert into. -/
theorem allBound_of_parse {ops : List Operation} (h : parse c text = .ok ops) :
    ∀ op ∈ ops, Plan.AllBound c (op.statement.tables false)
      ∧ ∀ name, op.statement.target? = some name → Plan.NamesTable c name := by
  intro op hop
  obtain ⟨statements, hread, hmem, made⟩ := exists_of_mem_parse h hop
  have hflat := isExplanation_planned (Statement.flat_of_readAll hread _ hmem)
  have hbound := Plan.bound_of_ofStatement made.plan hflat
  rw [tables_planned, target?_planned] at hbound
  exact hbound

/-! ### Queries inside expressions -/

/-- What an operation does, and its plan without the texts of expressions. -/
def Operation.unworded (op : Operation) : OperationKind × Option Plan :=
  (op.kind, op.plan.map Plan.unworded)

theorem kindOf_hollow (s : Statement) : kindOf s.hollow = kindOf s := by
  cases s <;> rfl

theorem planned_hollow (s : Statement) : planned s.hollow = (planned s).hollow := by
  cases s <;> rfl

/-- An operation is made without regard to the queries inside expressions. -/
theorem unworded_operation_hollow (c : Catalog) (s : Statement) :
    Operation.unworded <$> operation c s.hollow = Operation.unworded <$> operation c s := by
  have hoperation : ∀ s, Operation.unworded <$> operation c s
      = Prod.mk (kindOf s) <$> Option.map Plan.unworded <$> Plan.ofStatement c (planned s) := by
    intro s
    unfold operation
    cases Plan.ofStatement c (planned s) <;> rfl
  rw [hoperation, hoperation, kindOf_hollow, planned_hollow, Plan.unworded_ofStatement_hollow]

/--
**The tables that a query or an insertion names outside its expressions are looked up, and no
others.**  In an accepted text each of those means a query in scope or an object of the catalog,
and what is inserted into is a table; so all tables that it names are there if and only if those
that it names inside expressions only happen to be.  And statements that differ only in the
queries inside their expressions name the same tables elsewhere, and are refused with the same
error or accepted with the same plan, but for the texts of expressions.
-/
theorem tables_of_parse (c : Catalog) :
    (∀ text ops, parse c text = .ok ops → ∀ op ∈ ops,
      Plan.AllBound c (op.statement.tables false)
        ∧ (∀ name, op.statement.target? = some name → Plan.NamesTable c name)
        ∧ (Plan.AllBound c (op.statement.tables true)
          ↔ ∀ u ∈ op.statement.tables true, u ∉ op.statement.tables false → u.Bound c))
    ∧ ∀ s s' : Statement, s'.hollow = s.hollow →
        s'.tables false = s.tables false
          ∧ Operation.unworded <$> operation c s' = Operation.unworded <$> operation c s := by
  refine ⟨fun text ops h op hop => ?_, fun s s' h => ⟨?_, ?_⟩⟩
  · obtain ⟨hbound, htarget⟩ := allBound_of_parse h op hop
    refine ⟨hbound, htarget, fun hall u hu _ => hall u hu, fun hinside u hu => ?_⟩
    by_cases houtside : u ∈ op.statement.tables false
    · exact hbound u houtside
    · exact hinside u hu houtside
  · rw [← s'.tables_hollow, h, s.tables_hollow]
  · rw [← unworded_operation_hollow c s', h, unworded_operation_hollow c s]

/-- A text that is read as one operation, from something about it. -/
theorem exists_of_map_parse {β : Type} {f : Operation → β} {b : β}
    (h : List.map f <$> parse c text = .ok [b]) :
    ∃ op, parse c text = .ok [op] ∧ f op = b := by
  obtain ⟨ops, hops, hmap⟩ := map_eq_ok.mp h
  obtain ⟨op, rfl, hop⟩ := List.map_eq_singleton_iff.mp hmap
  exact ⟨op, hops, hop⟩

/-- The rows of the table `a` if a query has any. -/
def ifAny (q : Query) : Statement :=
  .query (Plan.plainly (.select { Plan.selecting false (.name (.plain "i")) with
    selection := some (.phrase [.words "EXISTS (", .query q, .words ")"]) }))

/-- The query for a number from a table. -/
def numberFrom (table : String) : Query :=
  Plan.plainly (.select { Plan.selecting false (Plan.number "1") with
    sources := [⟨.table [.plain table] [] none [], []⟩] })

/-- An explained insertion that draws on a named query, on a query in its FROM clause and on one in
a condition; and two statements with queries behind EXISTS, of which one has a table to read. -/
theorem tables_of_parse_nested :
    (∃ op, parse oneTable.catalog
          ("EXPLAIN INSERT INTO a WITH w AS (SELECT i FROM a) "
            ++ "SELECT i FROM (SELECT i FROM W) d WHERE i IN (SELECT 1 FROM w)") = .ok [op]
        ∧ op.statement.tables false = [⟨[], [.plain "a"]⟩, ⟨["w"], [.plain "W"]⟩]
        ∧ Plan.AllBound oneTable.catalog (op.statement.tables false)
        ∧ Plan.NamesTable oneTable.catalog [.plain "a"]
        ∧ op.statement.tables true
          = [⟨[], [.plain "a"]⟩, ⟨["w"], [.plain "W"]⟩, ⟨["w"], [.plain "w"]⟩]
        ∧ Plan.AllBound oneTable.catalog (op.statement.tables true))
      ∧ (ifAny (numberFrom "a")).written = "SELECT i FROM a WHERE EXISTS (SELECT 1 FROM a)"
      ∧ (ifAny (numberFrom "b")).written = "SELECT i FROM a WHERE EXISTS (SELECT 1 FROM b)"
      ∧ (ifAny (numberFrom "b")).hollow = (ifAny (numberFrom "a")).hollow
      ∧ Operation.unworded <$> operation oneTable.catalog (ifAny (numberFrom "b"))
        = Operation.unworded <$> operation oneTable.catalog (ifAny (numberFrom "a")) := by
  have hread : (List.map fun op => (op.statement.tables false, op.statement.tables true,
        op.statement.target?)) <$> parse oneTable.catalog
          ("EXPLAIN INSERT INTO a WITH w AS (SELECT i FROM a) "
            ++ "SELECT i FROM (SELECT i FROM W) d WHERE i IN (SELECT 1 FROM w)")
      = .ok [([⟨[], [.plain "a"]⟩, ⟨["w"], [.plain "W"]⟩],
          [⟨[], [.plain "a"]⟩, ⟨["w"], [.plain "W"]⟩, ⟨["w"], [.plain "w"]⟩],
          some [.plain "a"])] := by
    decide +kernel
  obtain ⟨op, hop, hall⟩ := exists_of_map_parse hread
  obtain ⟨houtside, hrest⟩ := Prod.mk.inj hall
  obtain ⟨huses, htarget⟩ := Prod.mk.inj hrest
  obtain ⟨hparse, hhollow⟩ := tables_of_parse oneTable.catalog
  obtain ⟨hbound, htable, hiff⟩ := hparse _ _ hop op List.mem_cons_self
  have hinside : Plan.AllBound oneTable.catalog (op.statement.tables true) := by
    rw [hiff, huses, houtside]
    intro u hu hnot
    have hw : u = ⟨["w"], [.plain "w"]⟩ := by
      simp only [List.mem_cons, List.not_mem_nil, or_false, not_or] at hu hnot
      rcases hu with rfl | rfl | rfl
      · exact absurd rfl hnot.1
      · exact absurd rfl hnot.2
      · rfl
    rw [hw]
    exact .inl ⟨_, rfl, by decide +kernel⟩
  have hsame : (ifAny (numberFrom "b")).hollow = (ifAny (numberFrom "a")).hollow := rfl
  exact ⟨⟨op, hop, houtside, hbound, htable _ htarget, huses, hinside⟩, by decide +kernel,
    by decide +kernel, hsame, (hhollow _ _ hsame).2⟩

/-- A query behind EXISTS is not planned, and names a table that is not there. -/
theorem not_allBound_of_exists :
    ∃ op, parse oneTable.catalog "SELECT i FROM a WHERE EXISTS (SELECT 1 FROM b)" = .ok [op]
      ∧ ¬ Plan.AllBound oneTable.catalog (op.statement.tables true) := by
  have hread : (List.map fun op => op.statement.tables true) <$> parse oneTable.catalog
      "SELECT i FROM a WHERE EXISTS (SELECT 1 FROM b)"
      = .ok [[⟨[], [.plain "a"]⟩, ⟨[], [.plain "b"]⟩]] := by decide +kernel
  obtain ⟨op, hop, huses⟩ := exists_of_map_parse hread
  refine ⟨op, hop, fun hbound => ?_⟩
  rw [huses] at hbound
  rcases hbound ⟨[], [.plain "b"]⟩ (by decide) with ⟨n, -, hscope⟩ | ⟨path, object, hpath, hget⟩
  · cases hscope
  · cases hpath
    have hnone : oneTable.catalog.get? ⟨"default_catalog", "default_database", "b"⟩ = none := by
      decide
    cases hnone.symm.trans hget

end Stencil.Planning
