/-
Rows of values in plans.

Each list of rows that a query draws on is planned as a node of its own, and there are no
other nodes of the kind; the induction over the query lines them up, in the order of both
(`drawsOn_of_ofQuery`).  A node holds all the rows of its list, but it has as many fields as
the first of them, and the others are not looked at.  So the rows of a plan are as long as
they should be if and only if those of the lists are.
-/
import Mathlib.Data.List.Forall2
import Stencil.Proofs.Keyed
import Stencil.Proofs.Plan.Selection
import Stencil.Proofs.Plan.Targets
import Stencil.Proofs.Sql.RowLists

namespace Stencil.Plan

open Sql

variable {c : Catalog} {scope : Scope} {lists lists' : List Rows} {left right n p : Plan}

/-! ### Nodes of values -/

/-- The operator holds rows of values. -/
def Operator.isValues : Operator → Bool
  | .values _ => true
  | _ => false

/-- The nodes of a plan that hold rows of values. -/
def valueNodes (p : Plan) : List Plan := p.nodes.filter (·.operator.isValues)

/-- The node holds the rows in writing, and has as many fields as the first of them. -/
structure HoldsRows (n : Plan) (rows : Rows) : Prop where
  operator : n.operator = .values (rows.map fun row => row.map Expr.written)
  nonempty : rows ≠ []
  width : n.fields.length = (rows.headD []).length

/-- The nodes of values hold the lists of rows, one each and in order. -/
def DrawsOn (p : Plan) (lists : List Rows) : Prop := List.Forall₂ HoldsRows p.valueNodes lists

/-- The nodes of values below a node, and the node if it is one. -/
theorem valueNodes_eq (p : Plan) :
    p.valueNodes = p.inputs.flatMap valueNodes ++ [p].filter (·.operator.isValues) :=
  filter_nodes _ p

theorem valueNodes_of_isValues (h : p.operator.isValues = true) :
    p.valueNodes = p.inputs.flatMap valueNodes ++ [p] := by
  rw [valueNodes_eq, List.filter_cons, if_pos h, List.filter_nil]

theorem valueNodes_of_not_isValues (h : p.operator.isValues = false) :
    p.valueNodes = p.inputs.flatMap valueNodes := by
  rw [valueNodes_eq, List.filter_cons, if_neg (by simp [h]), List.filter_nil, List.append_nil]

/-! ### Operators -/

theorem DrawsOn.above (h : p.DrawsOn lists) {op : Operator} (hop : op.isValues = false) :
    (p.above op).DrawsOn lists := by
  have hnodes : (p.above op).valueNodes = p.valueNodes := by
    rw [valueNodes_of_not_isValues hop]
    simp [Plan.above]
  rw [DrawsOn, hnodes]
  exact h

/-- What two plans draw on, an operator over both draws on. -/
theorem DrawsOn.both (hleft : left.DrawsOn lists) (hright : right.DrawsOn lists') {op : Operator}
    (hop : op.isValues = false) (fields : List Field) :
    (Plan.mk op [left, right] fields).DrawsOn (lists ++ lists') := by
  have hnodes : (Plan.mk op [left, right] fields).valueNodes
      = left.valueNodes ++ right.valueNodes := by
    rw [valueNodes_of_not_isValues hop]
    simp
  rw [DrawsOn, hnodes]
  exact List.rel_append hleft hright

theorem DrawsOn.joined (hleft : left.DrawsOn lists) (hright : right.DrawsOn lists')
    (mode : JoinMode) (condition : Option String) :
    (joined left right mode condition).DrawsOn (lists ++ lists') := hleft.both hright rfl _

/-- The last of the nodes may be put in another form. -/
theorem forall₂_concat {α β : Type} {R : α → β → Prop} {as : List α} {a a' : α} {bs : List β}
    (h : List.Forall₂ R (as ++ [a]) bs) (ha : ∀ b, R a b → R a' b) :
    List.Forall₂ R (as ++ [a']) bs := by
  induction as generalizing bs with
  | nil =>
      cases h with
      | cons hfirst hrest => exact .cons (ha _ hfirst) hrest
  | cons first rest ih =>
      cases h with
      | cons hfirst hrest => exact .cons hfirst (ih hrest)

theorem DrawsOn.requalified (h : p.DrawsOn lists) (name : String) :
    (p.requalified name).DrawsOn lists := by
  unfold DrawsOn at h ⊢
  by_cases hvalues : p.operator.isValues = true
  · -- The node on top is the last one, and it is the only one that is changed.
    rw [valueNodes_of_isValues hvalues] at h
    rw [valueNodes_of_isValues (p := p.requalified name) hvalues]
    refine forall₂_concat h fun rows hrows => ⟨hrows.operator, hrows.nonempty, ?_⟩
    rw [← hrows.width]
    exact List.length_map _
  · rw [Bool.not_eq_true] at hvalues
    rw [valueNodes_of_not_isValues hvalues] at h
    rw [valueNodes_of_not_isValues (p := p.requalified name) hvalues]
    exact h

theorem DrawsOn.sorted (h : p.DrawsOn lists) (order : List OrderKey) (offset limit : Option Expr) :
    (sorted p order offset limit).DrawsOn lists := by
  unfold Plan.sorted
  split
  · exact h
  · exact h.above rfl

theorem DrawsOn.filtered (h : p.DrawsOn lists) (condition : Option Expr) :
    (filtered p condition).DrawsOn lists := by
  cases condition with
  | none => exact h
  | some e => exact h.above rfl

theorem drawsOn_of_selected? {condition : Option Expr} (h : p.DrawsOn lists)
    (hn : selected? p condition = .ok n) : n.DrawsOn lists := by
  cases condition with
  | none =>
      cases hn
      exact h
  | some e =>
      obtain ⟨_, -, hn⟩ := bind_eq_ok.mp hn
      cases hn
      exact h.above rfl

theorem DrawsOn.distinctRows (h : p.DrawsOn lists) (distinct : Bool) :
    (distinctRows p distinct).DrawsOn lists := by
  cases distinct with
  | false => exact h
  | true => exact h.above rfl

theorem DrawsOn.projected (h : p.DrawsOn lists) (items : List Projected) (grouping : Grouping) :
    (projected c p items grouping).DrawsOn lists := by
  have hnodes : (Plan.projected c p items grouping).valueNodes = p.valueNodes := by
    unfold Plan.projected
    dsimp only
    split
    · rw [valueNodes_of_not_isValues rfl]
      simp
    · rw [valueNodes_of_not_isValues rfl]
      simp
  rw [DrawsOn, hnodes]
  exact h

theorem drawsOn_singleRow : singleRow.DrawsOn [zeroRow] :=
  .cons ⟨by decide +kernel, nofun, rfl⟩ .nil

/-- A list is refused only if it has no rows; how long they are does not matter. -/
theorem valuesOf_eq_error_iff {rows : Rows} {e : Error} :
    valuesOf rows = .error e ↔ rows = [] ∧ e = .valuesWithoutRows := by
  cases rows with
  | nil => simp [valuesOf, eq_comm]
  | cons first rest => simp [valuesOf]

theorem drawsOn_of_valuesOf {rows : Rows} (h : valuesOf rows = .ok p) : p.DrawsOn [rows] := by
  cases rows with
  | nil => cases h
  | cons first rest =>
      cases h
      exact .cons ⟨rfl, nofun, by simp⟩ .nil

/-! ### Scopes -/

/-- The plan of each query in scope draws on the lists of the query. -/
def ScopeDrawsOn (scope : Scope) (rows : RowScope) : Prop := Keyed.Related DrawsOn scope rows

theorem drawsOn_of_relation {rows : RowScope} (h : ScopeDrawsOn scope rows) {name : QualifiedName}
    {visible : String} (hp : relation c scope (QualifiedName.texts name) visible = .ok p) :
    p.DrawsOn (rowListsOfName rows name) := by
  cases found_of_relation hp with
  | @named n q hfind =>
      -- A query in scope brings along what it draws on.
      obtain ⟨lists, hlists, hq⟩ := h.of_some hfind
      rw [rowListsOfName, hlists]
      exact hq.requalified visible
  | scanned hfree hscan =>
      obtain ⟨path, object, -, -, rfl⟩ := scanned_eq_ok hscan
      have hnone : rowListsOfName rows name = [] := by
        unfold rowListsOfName
        split
        · rw [h.of_none (hfree _ rfl)]
          rfl
        · rfl
      rw [hnone]
      exact .nil

/-! ### Queries -/

mutual

theorem drawsOn_of_ofQuery : ∀ (q : Query) {scope : Scope} {rows : RowScope} {p : Plan},
    ScopeDrawsOn scope rows → ofQuery c scope q = .ok p → p.DrawsOn (q.rowLists rows)
  | ⟨_, ctes, body, order, _, limit, offset, _, _, _, _⟩, scope, rows, p, h, hp => by
    rw [ofQuery] at hp
    obtain ⟨inner, hinner, hp⟩ := bind_eq_ok.mp hp
    obtain ⟨r, hr, hp⟩ := bind_eq_ok.mp hp
    cases hp
    rw [Query.rowLists]
    exact (drawsOn_of_ofBody body (drawsOn_of_scopeOf ctes h hinner) hr).sorted order offset limit

theorem drawsOn_of_scopeOf : ∀ (ctes : List Cte) {scope inner : Scope} {rows : RowScope},
    ScopeDrawsOn scope rows → scopeOf c scope ctes = .ok inner →
      ScopeDrawsOn inner (rowScope rows ctes)
  | [], scope, inner, rows, h, hinner => by
    rw [scopeOf] at hinner
    cases hinner
    rw [rowScope]
    exact h
  | ⟨label, query, _⟩ :: rest, scope, inner, rows, h, hinner => by
    rw [scopeOf] at hinner
    obtain ⟨p, hp, hinner⟩ := bind_eq_ok.mp hinner
    have hquery := (drawsOn_of_ofQuery query h hp).requalified label.name.text
    rw [rowScope]
    exact drawsOn_of_scopeOf rest (Keyed.Related.put h _ hquery) hinner

theorem drawsOn_of_ofBody : ∀ (b : Body) {scope : Scope} {rows : RowScope} {p : Plan},
    ScopeDrawsOn scope rows → ofBody c scope b = .ok p → p.DrawsOn (b.rowLists rows)
  | .select s, scope, rows, p, h, hp => by
    rw [ofBody] at hp
    rw [Body.rowLists]
    exact drawsOn_of_ofSelect s h hp
  | .query q, scope, rows, p, h, hp => by
    rw [ofBody] at hp
    rw [Body.rowLists]
    exact drawsOn_of_ofQuery q h hp
  | .setOperation op quantifier left right, scope, rows, p, h, hp => by
    rw [ofBody] at hp
    obtain ⟨l, hl, hp⟩ := bind_eq_ok.mp hp
    obtain ⟨r, hr, hp⟩ := bind_eq_ok.mp hp
    rw [Body.rowLists]
    have hleft := drawsOn_of_ofBody left h hl
    have hright := drawsOn_of_ofBody right h hr
    unfold combined at hp
    split at hp
    · cases hp
      exact hleft.both hright rfl _
    · cases hp
  | .values _ list, scope, rows, p, h, hp => by
    rw [ofBody] at hp
    rw [Body.rowLists]
    exact drawsOn_of_valuesOf hp
  | .other pieces, scope, rows, p, h, hp => by
    rw [ofBody] at hp
    cases hp

theorem drawsOn_of_ofSelect : ∀ (s : Select) {scope : Scope} {rows : RowScope} {p : Plan},
    ScopeDrawsOn scope rows → ofSelect c scope s = .ok p → p.DrawsOn (s.rowLists rows)
  | ⟨distinct, _, _, projection, _, sources, _, selection, grouping, _, having, _⟩, scope, rows, p,
      h, hp => by
    rw [ofSelect] at hp
    obtain ⟨source, hsource, hp⟩ := bind_eq_ok.mp hp
    obtain ⟨input, hinput, hp⟩ := bind_eq_ok.mp hp
    obtain ⟨items, -, hp⟩ := bind_eq_ok.mp hp
    cases hp
    rw [Select.rowLists]
    have hrows := drawsOn_of_ofSources sources h hsource
    have hfiltered : input.DrawsOn _ := drawsOn_of_selected? hrows hinput
    exact ((hfiltered.projected items grouping).filtered having).distinctRows distinct

theorem drawsOn_of_ofSources : ∀ (sources : List From) {scope : Scope} {rows : RowScope} {p : Plan},
    ScopeDrawsOn scope rows → ofSources c scope sources = .ok p →
      p.DrawsOn ((if sources.isEmpty then [zeroRow] else []) ++ rowListsOfSources rows sources)
  | [], scope, rows, p, h, hp => by
    rw [ofSources] at hp
    cases hp
    rw [rowListsOfSources]
    exact drawsOn_singleRow
  | first :: rest, scope, rows, p, h, hp => by
    rw [ofSources] at hp
    obtain ⟨r, hr, hp⟩ := bind_eq_ok.mp hp
    rw [rowListsOfSources]
    exact drawsOn_of_ofMoreSources rest h (drawsOn_of_ofFrom first h hr) hp

theorem drawsOn_of_ofMoreSources : ∀ (sources : List From) {scope : Scope} {rows : RowScope}
    {left p : Plan} {lists : List Rows}, ScopeDrawsOn scope rows → left.DrawsOn lists →
      ofMoreSources c scope left sources = .ok p →
        p.DrawsOn (lists ++ rowListsOfSources rows sources)
  | [], scope, rows, left, p, lists, h, hleft, hp => by
    rw [ofMoreSources] at hp
    cases hp
    rw [rowListsOfSources, List.append_nil]
    exact hleft
  | item :: rest, scope, rows, left, p, lists, h, hleft, hp => by
    rw [ofMoreSources] at hp
    obtain ⟨right, hright, hp⟩ := bind_eq_ok.mp hp
    rw [rowListsOfSources, ← List.append_assoc]
    have hboth := hleft.joined (drawsOn_of_ofFrom item h hright) .inner none
    exact drawsOn_of_ofMoreSources rest h hboth hp

theorem drawsOn_of_ofFrom : ∀ (item : From) {scope : Scope} {rows : RowScope} {p : Plan},
    ScopeDrawsOn scope rows → ofFrom c scope item = .ok p → p.DrawsOn (item.rowLists rows)
  | ⟨factor, joins⟩, scope, rows, p, h, hp => by
    rw [ofFrom] at hp
    obtain ⟨r, hr, hp⟩ := bind_eq_ok.mp hp
    rw [From.rowLists]
    exact drawsOn_of_ofJoins joins h (drawsOn_of_ofFactor factor h hr) hp

theorem drawsOn_of_ofJoins : ∀ (joins : List Join) {scope : Scope} {rows : RowScope}
    {left p : Plan} {lists : List Rows}, ScopeDrawsOn scope rows → left.DrawsOn lists →
      ofJoins c scope left joins = .ok p → p.DrawsOn (lists ++ rowListsOfJoins rows joins)
  | [], scope, rows, left, p, lists, h, hleft, hp => by
    rw [ofJoins] at hp
    cases hp
    rw [rowListsOfJoins, List.append_nil]
    exact hleft
  | ⟨_, kind, factor, _, constraint⟩ :: rest, scope, rows, left, p, lists, h, hleft, hp => by
    rw [ofJoins] at hp
    obtain ⟨right, hright, hp⟩ := bind_eq_ok.mp hp
    obtain ⟨condition, -, hp⟩ := bind_eq_ok.mp hp
    rw [rowListsOfJoins, ← List.append_assoc]
    have hboth := hleft.joined (drawsOn_of_ofFactor factor h hright) (joinMode kind).1 condition
    exact drawsOn_of_ofJoins rest h hboth hp

theorem drawsOn_of_ofFactor : ∀ (factor : Factor) {scope : Scope} {rows : RowScope} {p : Plan},
    ScopeDrawsOn scope rows → ofFactor c scope factor = .ok p → p.DrawsOn (factor.rowLists rows)
  | .table name _ label _, scope, rows, p, h, hp => by
    rw [Factor.rowLists]
    unfold ofFactor at hp
    exact drawsOn_of_relation h hp
  | .derived _ query label, scope, rows, p, h, hp => by
    rw [ofFactor] at hp
    obtain ⟨r, hr, hp⟩ := bind_eq_ok.mp hp
    rw [Factor.rowLists]
    have hquery := drawsOn_of_ofQuery query h hr
    cases hp
    cases label with
    | none => exact hquery
    | some a => exact hquery.requalified a.name.text
  | .nested inner _, scope, rows, p, h, hp => by
    rw [ofFactor] at hp
    rw [Factor.rowLists]
    exact drawsOn_of_ofFrom inner h hp
  | .other pieces label tail, scope, rows, p, h, hp => by
    rw [ofFactor] at hp
    cases hp

end

/-- A statement is planned with a node for each list that its rows are drawn from. -/
theorem drawsOn_of_ofStatement {s : Statement} (h : ofStatement c s = .ok (some p)) :
    p.DrawsOn s.rowLists := by
  cases s with
  | query q =>
      obtain ⟨r, hr, h⟩ := map_eq_ok.mp h
      cases h
      exact drawsOn_of_ofQuery q Keyed.related_nil hr
  | insert i =>
      obtain ⟨r, hr, h⟩ := map_eq_ok.mp h
      cases h
      obtain ⟨path, columns, options, source, input, fields, -, -, hsource, hinput, -, -, rfl⟩ :=
        ofInsert_eq_ok_iff.mp hr
      rw [Statement.rowLists, hsource]
      exact (drawsOn_of_ofQuery source Keyed.related_nil hinput).above rfl
  | _ => cases h

/-! ### Rows of one length -/

/-- All rows are as long as the first. -/
def Rectangular {α : Type} (rows : List (List α)) : Prop :=
  ∀ row ∈ rows, row.length = (rows.headD []).length

instance {α : Type} (rows : List (List α)) : Decidable (Rectangular rows) :=
  inferInstanceAs (Decidable (∀ row ∈ rows, _))

/-- Each row that the node holds is as long as the node has fields. -/
def RowsFit (n : Plan) : Prop :=
  ∀ tuples, n.operator = .values tuples → ∀ tuple ∈ tuples, tuple.length = n.fields.length

/-- The node has a row, and the first of its rows is as long as it has fields. -/
theorem HoldsRows.first {rows : Rows} (h : HoldsRows n rows) {tuples : List (List String)}
    (hn : n.operator = .values tuples) :
    ∃ first rest, tuples = first :: rest ∧ first.length = n.fields.length := by
  obtain ⟨hoperator, hnonempty, hwidth⟩ := h
  cases hoperator.symm.trans hn
  cases rows with
  | nil => exact absurd rfl hnonempty
  | cons first rest => exact ⟨_, _, rfl, by simp [hwidth]⟩

theorem HoldsRows.rowsFit_iff {rows : Rows} (h : HoldsRows n rows) :
    n.RowsFit ↔ Rectangular rows := by
  obtain ⟨hoperator, -, hwidth⟩ := h
  constructor
  · intro hfit row hrow
    have hlength := hfit _ hoperator _ (List.mem_map_of_mem hrow)
    rw [List.length_map] at hlength
    rw [hlength, hwidth]
  · intro hrows tuples hn tuple htuple
    cases hoperator.symm.trans hn
    obtain ⟨row, hrow, rfl⟩ := List.mem_map.mp htuple
    rw [List.length_map, hwidth]
    exact hrows row hrow

theorem mem_valueNodes {tuples : List (List String)} (hn : n ∈ p.nodes)
    (hvalues : n.operator = .values tuples) : n ∈ p.valueNodes :=
  List.mem_filter.mpr ⟨hn, by rw [hvalues]; rfl⟩

/-- Every node of values holds one of the lists, and every list is held by a node. -/
theorem DrawsOn.holds (h : p.DrawsOn lists) :
    (∀ n ∈ p.valueNodes, ∃ rows ∈ lists, HoldsRows n rows)
      ∧ ∀ rows ∈ lists, ∃ n ∈ p.valueNodes, HoldsRows n rows := by
  unfold DrawsOn at h
  generalize p.valueNodes = nodes at h ⊢
  induction h with
  | nil => exact ⟨nofun, nofun⟩
  | @cons n rows nodes lists hfirst _ ih =>
      constructor
      · intro n' hn'
        rcases List.mem_cons.mp hn' with rfl | hn'
        · exact ⟨rows, List.mem_cons_self, hfirst⟩
        · obtain ⟨rows', hrows', hholds⟩ := ih.1 n' hn'
          exact ⟨rows', List.mem_cons_of_mem _ hrows', hholds⟩
      · intro rows' hrows'
        rcases List.mem_cons.mp hrows' with rfl | hrows'
        · exact ⟨n, List.mem_cons_self, hfirst⟩
        · obtain ⟨n', hn', hholds⟩ := ih.2 rows' hrows'
          exact ⟨n', List.mem_cons_of_mem _ hn', hholds⟩

/-- The rows of a plan fit if and only if the lists that it draws on are rectangular. -/
theorem DrawsOn.rowsFit_iff (h : p.DrawsOn lists) :
    (∀ n ∈ p.nodes, n.RowsFit) ↔ ∀ rows ∈ lists, Rectangular rows := by
  obtain ⟨hnodes, hlists⟩ := h.holds
  constructor
  · intro hfit rows hrows
    obtain ⟨n, hn, hholds⟩ := hlists rows hrows
    exact hholds.rowsFit_iff.mp (hfit n (List.mem_of_mem_filter hn))
  · intro hrows n hn tuples hvalues
    obtain ⟨rows, hmem, hholds⟩ := hnodes n (mem_valueNodes hn hvalues)
    exact hholds.rowsFit_iff.mpr (hrows rows hmem) tuples hvalues

/-- An insertion of rows of values has as many fields as the first row. -/
theorem length_targets_of_values {i : Insert} {q : Query} {explicitRow : Bool} {rows : Rows}
    (h : ofInsert c i = .ok p) (hsource : i.source = some q)
    (hbody : q.body = .values explicitRow rows) :
    ∃ path targets, p.operator = .sink path targets
      ∧ targets.length = (rows.headD []).length := by
  obtain ⟨path, columns, options, source, input, fields, -, -, hsource', hinput, -, hlength, rfl⟩ :=
    ofInsert_eq_ok_iff.mp h
  cases hsource.symm.trans hsource'
  refine ⟨path, fields, rfl, ?_⟩
  obtain ⟨_, ctes, body, order, _, limit, offset, _, _, _, _⟩ := q
  cases hbody
  rw [ofQuery] at hinput
  obtain ⟨inner, -, hinput⟩ := bind_eq_ok.mp hinput
  obtain ⟨r, hr, hinput⟩ := bind_eq_ok.mp hinput
  rw [ofBody] at hr
  cases hinput
  rw [hlength, fields_sorted]
  -- Rows behind the first one do not count for the fields.
  cases rows with
  | nil => cases hr
  | cons first rest =>
      cases hr
      simp

/--
**Rows of values.**  In the plan of a query or an insertion, each node of values has a row, and
its first row is as long as the node has fields.  All rows of all these nodes are that long if
and only if each list of rows that the statement draws on is rectangular.  Likewise each row of
an insertion of values is as long as the list of fields that are filled if and only if the rows
are of one length.  And a list is refused only if it has no rows: rows of different lengths are
accepted.
-/
theorem values_rectangular_iff (c : Catalog) :
    (∀ s p, ofStatement c s = .ok (some p) →
        (∀ n ∈ p.nodes, ∀ tuples, n.operator = .values tuples →
            ∃ first rest, tuples = first :: rest ∧ first.length = n.fields.length)
          ∧ ((∀ n ∈ p.nodes, n.RowsFit) ↔ ∀ rows ∈ s.rowLists, Rectangular rows))
      ∧ (∀ i q explicitRow rows p, i.source = some q → q.body = .values explicitRow rows →
          ofStatement c (.insert i) = .ok (some p) →
            ∃ path targets, p.operator = .sink path targets
              ∧ ((∀ row ∈ rows, row.length = targets.length) ↔ Rectangular rows))
      ∧ ∀ scope explicitRow rows e, ofBody c scope (.values explicitRow rows) = .error e
          ↔ rows = [] ∧ e = .valuesWithoutRows := by
  refine ⟨fun s p h => ?_, fun i q explicitRow rows p hsource hbody h => ?_, ?_⟩
  · have hdraws := drawsOn_of_ofStatement h
    refine ⟨fun n hn tuples hvalues => ?_, hdraws.rowsFit_iff⟩
    obtain ⟨rows, -, hholds⟩ := hdraws.holds.1 n (mem_valueNodes hn hvalues)
    exact hholds.first hvalues
  · obtain ⟨r, hr, h⟩ := map_eq_ok.mp h
    cases h
    obtain ⟨path, targets, hsink, hlength⟩ := length_targets_of_values hr hsource hbody
    refine ⟨path, targets, hsink, ?_⟩
    rw [hlength]
    exact Iff.rfl
  · intro scope explicitRow rows e
    rw [ofBody]
    exact valuesOf_eq_error_iff

/-- All rows of two copies of a named query that is a list of rows. -/
def twice (rows : Rows) : Query :=
  { plainly (.select ⟨false, [], [], [.wildcard []], "",
      [⟨.table [.plain "w"] [] (some ⟨.plain "x", []⟩) [], []⟩,
        ⟨.table [.plain "W"] [] (some ⟨.plain "y", []⟩) [], []⟩],
      [], none, .keys [] "", [], none, []⟩) with
    ctes := [⟨⟨.plain "w", []⟩, plainly (.values false rows), none⟩] }

/-- The list of a named query is held at each of its references. -/
theorem values_rectangular_named :
    (Statement.query (twice [[number "1", number "2"], [number "3", number "4"]])).written
        = "WITH w AS (VALUES (1, 2), (3, 4)) SELECT * FROM w AS x, W AS y"
      ∧ ∃ p, ofStatement tableA
            (.query (twice [[number "1", number "2"], [number "3", number "4"]])) = .ok (some p)
          ∧ p.valueNodes.length = 2 ∧ ∀ n ∈ p.nodes, n.RowsFit := by
  refine ⟨by decide +kernel, ?_⟩
  obtain ⟨p, hp⟩ : ∃ p, ofStatement tableA
      (.query (twice [[number "1", number "2"], [number "3", number "4"]])) = .ok (some p) :=
    ⟨_, rfl⟩
  have hlists : (Statement.query (twice [[number "1", number "2"],
      [number "3", number "4"]])).rowLists
        = [[[number "1", number "2"], [number "3", number "4"]],
          [[number "1", number "2"], [number "3", number "4"]]] := rfl
  have hfit := ((values_rectangular_iff tableA).1 _ p hp).2
  have hdraws := drawsOn_of_ofStatement hp
  rw [hlists] at hfit hdraws
  exact ⟨p, hp, hdraws.length_eq, hfit.mpr (by decide)⟩

/-- Only the first row of an insertion is as long as the list of fields that are filled. -/
theorem values_rectangular_ragged :
    (Statement.insert (inserting [] [[number "1"], [number "2", number "3"]])).written
        = "INSERT INTO a VALUES (1), (2, 3)"
      ∧ ∃ p n path,
        ofStatement tableA (.insert (inserting [] [[number "1"], [number "2", number "3"]]))
            = .ok (some p)
          ∧ p.operator = .sink path ["i"] ∧ n ∈ p.nodes
          ∧ n.operator = .values [["1"], ["2", "3"]] ∧ n.fields.length = 1 ∧ ¬ n.RowsFit := by
  refine ⟨by decide +kernel, _, _, _, rfl, rfl, List.mem_cons_self, by decide +kernel, rfl, ?_⟩
  intro hfit
  cases hfit [["1"], ["2", "3"]] (by decide +kernel) ["2", "3"] (by decide)

end Stencil.Plan
