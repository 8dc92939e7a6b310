/-
Joins in a FROM clause, and the nodes that they are planned as.

`Joins` says where a join stands in an item of a FROM clause: behind a front, which is what it
is joined to, be it in the item itself or between parentheses in one of its factors.  Planning
goes from left to right, so the front with its join is a plan on the way, and it stays a node
of the plan of the whole clause (`exists_node`).

What becomes of the constraint depends on the kind of the join.  A condition counts for inner
and outer joins, and then each reference in it means exactly one field of the two sides; for
all other kinds nothing is kept of it.  Columns that are to be equal are kept for no kind.
-/
import Stencil.Plan.Planner
import Stencil.Proofs.Plan.Nodes
import Stencil.Proofs.Plan.Reference

namespace Stencil.Plan

open Sql

variable {c : Catalog} {scope : Scope} {p q left right : Plan}

/-! ### Where a join stands -/

/-- An item of a FROM clause with one more join behind it. -/
def joining (front : From) (j : Join) : From := ⟨front.factor, front.joins ++ [j]⟩

/-- What is joined to a factor by a comma or by CROSS JOIN. -/
def crossing (front : From) (factor : Factor) : From :=
  joining front ⟨false, .cross, factor, [], .none⟩

/-- A join stands behind a front, in an item or between parentheses in it. -/
inductive Joins : From → From → Join → Prop
  | here (factor : Factor) (before : List Join) (j : Join) (after : List Join) :
      Joins ⟨factor, before ++ j :: after⟩ ⟨factor, before⟩ j
  | first {inner front : From} {j : Join} {label : Option Alias} {joins : List Join}
      (h : Joins inner front j) : Joins ⟨.nested inner label, joins⟩ front j
  | joined {inner front : From} {j k : Join} {label : Option Alias} {factor : Factor}
      {joins : List Join} (hk : k ∈ joins) (hfactor : k.factor = .nested inner label)
      (h : Joins inner front j) : Joins ⟨factor, joins⟩ front j

/-! ### Planning from left to right -/

/-- One join more: its factor is planned, then its condition over the fields of both sides. -/
theorem ofJoins_cons_eq_ok {j : Join} {rest : List Join} :
    ofJoins c scope p (j :: rest) = .ok q
      ↔ ∃ right condition, ofFactor c scope j.factor = .ok right
        ∧ joinCondition (p.fields ++ right.fields) (joinMode j.kind).2 j.constraint = .ok condition
        ∧ ofJoins c scope (joined p right (joinMode j.kind).1 condition) rest = .ok q := by
  obtain ⟨_, kind, factor, _, constraint⟩ := j
  rw [ofJoins]
  simp only [bind_eq_ok]
  constructor
  · rintro ⟨right, hright, condition, hcondition, h⟩
    exact ⟨right, condition, hright, hcondition, h⟩
  · rintro ⟨right, condition, hright, hcondition, h⟩
    exact ⟨right, hright, condition, hcondition, h⟩

theorem ofJoins_append_eq_ok {before after : List Join} :
    ofJoins c scope p (before ++ after) = .ok q
      ↔ ∃ left, ofJoins c scope p before = .ok left ∧ ofJoins c scope left after = .ok q := by
  induction before generalizing p with
  | nil => simp [ofJoins]
  | cons j before ih =>
      rw [List.cons_append]
      simp only [ofJoins_cons_eq_ok, ih]
      constructor
      · rintro ⟨right, condition, hright, hcondition, left, hbefore, hafter⟩
        exact ⟨left, ⟨right, condition, hright, hcondition, hbefore⟩, hafter⟩
      · rintro ⟨left, ⟨right, condition, hright, hcondition, hbefore⟩, hafter⟩
        exact ⟨right, condition, hright, hcondition, left, hbefore, hafter⟩

/-- The front of an item is planned first, and what stands behind it is joined to its plan. -/
theorem ofFrom_append_eq_ok {factor : Factor} {before after : List Join} :
    ofFrom c scope ⟨factor, before ++ after⟩ = .ok q
      ↔ ∃ left, ofFrom c scope ⟨factor, before⟩ = .ok left
        ∧ ofJoins c scope left after = .ok q := by
  rw [ofFrom, ofFrom]
  simp only [bind_eq_ok, ofJoins_append_eq_ok]
  constructor
  · rintro ⟨p, hp, left, hbefore, hafter⟩
    exact ⟨left, ⟨p, hp, hbefore⟩, hafter⟩
  · rintro ⟨left, ⟨p, hp, hbefore⟩, hafter⟩
    exact ⟨p, hp, left, hbefore, hafter⟩

/-! ### The nodes of a clause -/

theorem nodes_subset_joined_left (mode : JoinMode) (condition : Option String) :
    left.nodes ⊆ (joined left right mode condition).nodes :=
  fun _ hn => mem_nodes.mpr (.inr ⟨left, List.mem_cons_self, hn⟩)

theorem nodes_subset_joined_right (mode : JoinMode) (condition : Option String) :
    right.nodes ⊆ (joined left right mode condition).nodes :=
  fun _ hn => mem_nodes.mpr (.inr ⟨right, List.mem_cons_of_mem _ List.mem_cons_self, hn⟩)

/-- What joins are added to stays below them. -/
theorem nodes_subset_of_ofJoins {joins : List Join} (h : ofJoins c scope p joins = .ok q) :
    p.nodes ⊆ q.nodes := by
  induction joins generalizing p with
  | nil =>
      rw [ofJoins] at h
      cases h
      exact List.Subset.refl _
  | cons j joins ih =>
      obtain ⟨right, condition, -, -, h⟩ := ofJoins_cons_eq_ok.mp h
      exact List.Subset.trans (nodes_subset_joined_left _ _) (ih h)

/-- What is joined to a plan stands below it. -/
theorem exists_of_mem_joins {joins : List Join} (h : ofJoins c scope p joins = .ok q) {j : Join}
    (hj : j ∈ joins) : ∃ right, ofFactor c scope j.factor = .ok right ∧ right.nodes ⊆ q.nodes := by
  induction joins generalizing p with
  | nil => cases hj
  | cons k joins ih =>
      obtain ⟨right, condition, hright, -, h⟩ := ofJoins_cons_eq_ok.mp h
      rcases List.mem_cons.mp hj with rfl | hj
      · have hbelow := nodes_subset_of_ofJoins h
        exact ⟨right, hright, List.Subset.trans (nodes_subset_joined_right _ _) hbelow⟩
      · exact ih h hj

/-- What stands before more items of a clause stays below them. -/
theorem nodes_subset_of_ofMoreSources {items : List From}
    (h : ofMoreSources c scope p items = .ok q) : p.nodes ⊆ q.nodes := by
  induction items generalizing p with
  | nil =>
      rw [ofMoreSources] at h
      cases h
      exact List.Subset.refl _
  | cons item items ih =>
      rw [ofMoreSources] at h
      obtain ⟨right, -, h⟩ := bind_eq_ok.mp h
      exact List.Subset.trans (nodes_subset_joined_left _ _) (ih h)

/-- The items of a clause are planned, and their plans stand in that of the clause. -/
theorem exists_of_mem_more {items : List From} (h : ofMoreSources c scope p items = .ok q)
    {item : From} (hitem : item ∈ items) :
    ∃ r, ofFrom c scope item = .ok r ∧ r.nodes ⊆ q.nodes := by
  induction items generalizing p with
  | nil => cases hitem
  | cons first items ih =>
      rw [ofMoreSources] at h
      obtain ⟨r, hr, hrest⟩ := bind_eq_ok.mp h
      rcases List.mem_cons.mp hitem with rfl | hitem
      · have hbelow := nodes_subset_of_ofMoreSources hrest
        exact ⟨r, hr, List.Subset.trans (nodes_subset_joined_right _ _) hbelow⟩
      · exact ih hrest hitem

theorem exists_of_mem_sources {sources : List From} (h : ofSources c scope sources = .ok q)
    {item : From} (hitem : item ∈ sources) :
    ∃ r, ofFrom c scope item = .ok r ∧ r.nodes ⊆ q.nodes := by
  cases sources with
  | nil => cases hitem
  | cons first items =>
      rw [ofSources] at h
      obtain ⟨r, hr, hrest⟩ := bind_eq_ok.mp h
      rcases List.mem_cons.mp hitem with rfl | hitem
      · exact ⟨r, hr, nodes_subset_of_ofMoreSources hrest⟩
      · exact exists_of_mem_more hrest hitem

/-! ### The node of a join -/

/-- A join behind a front is planned with its condition over the fields of both sides. -/
theorem ofFrom_joining_eq_ok {front : From} {j : Join} {n : Plan} :
    ofFrom c scope (joining front j) = .ok n
      ↔ ∃ left right condition, ofFrom c scope front = .ok left
        ∧ ofFactor c scope j.factor = .ok right
        ∧ joinCondition (left.fields ++ right.fields) (joinMode j.kind).2 j.constraint
          = .ok condition
        ∧ n = joined left right (joinMode j.kind).1 condition := by
  obtain ⟨factor, joins⟩ := front
  unfold joining
  rw [ofFrom_append_eq_ok]
  simp only [ofJoins_cons_eq_ok, ofJoins, Except.ok.injEq]
  constructor
  · rintro ⟨left, hleft, right, condition, hright, hcondition, rfl⟩
    exact ⟨left, right, condition, hleft, hright, hcondition, rfl⟩
  · rintro ⟨left, right, condition, hleft, hright, hcondition, rfl⟩
    exact ⟨left, hleft, right, condition, hright, hcondition, rfl⟩

/-- A join is planned as a node, over the plans of the front and of the factor. -/
structure PlannedAs (c : Catalog) (scope : Scope) (front : From) (j : Join)
    (left right n : Plan) : Prop where
  planLeft : ofFrom c scope front = .ok left
  planRight : ofFactor c scope j.factor = .ok right
  planNode : ofFrom c scope (joining front j) = .ok n
  inputs : n.inputs = [left, right]
  fields : n.fields = left.fields ++ right.fields

theorem exists_plannedAs {front : From} {j : Join} {n : Plan}
    (h : ofFrom c scope (joining front j) = .ok n) :
    ∃ left right, PlannedAs c scope front j left right n := by
  obtain ⟨left, right, condition, hleft, hright, -, rfl⟩ := ofFrom_joining_eq_ok.mp h
  exact ⟨left, right, hleft, hright, h, rfl, rfl⟩

/-- **A join in an item is planned as a node of the plan of the item.** -/
theorem exists_node {item front : From} {j : Join} (hj : Joins item front j)
    (h : ofFrom c scope item = .ok p) :
    ∃ n ∈ p.nodes, ofFrom c scope (joining front j) = .ok n := by
  induction hj generalizing p with
  | here factor before j after =>
      rw [List.append_cons] at h
      obtain ⟨n, hn, hafter⟩ := ofFrom_append_eq_ok.mp h
      exact ⟨n, nodes_subset_of_ofJoins hafter (mem_nodes.mpr (.inl rfl)), hn⟩
  | first _ ih =>
      rw [ofFrom] at h
      obtain ⟨q, hq, hjoins⟩ := bind_eq_ok.mp h
      rw [ofFactor] at hq
      obtain ⟨n, hn, hnode⟩ := ih hq
      exact ⟨n, nodes_subset_of_ofJoins hjoins hn, hnode⟩
  | joined hk hfactor _ ih =>
      rw [ofFrom] at h
      obtain ⟨q, -, hjoins⟩ := bind_eq_ok.mp h
      obtain ⟨right, hright, hbelow⟩ := exists_of_mem_joins hjoins hk
      rw [hfactor, ofFactor] at hright
      obtain ⟨n, hn, hnode⟩ := ih hright
      exact ⟨n, hbelow hn, hnode⟩

/-! ### What is kept of a constraint -/

/-- The kinds of joins whose condition counts. -/
def counting : List JoinKind := [.inner, .left, .right, .full]

/-- The kinds of joins that keep rows without a partner. -/
def outer : List JoinKind := [.left, .right, .full]

theorem joinMode_snd {kind : JoinKind} : (joinMode kind).2 = true ↔ kind ∈ counting := by
  cases kind <;> decide

theorem joinMode_fst {kind : JoinKind} : (joinMode kind).1 ≠ .inner ↔ kind ∈ outer := by
  cases kind <;> decide

/-- The node joins on what is written, and each reference in it means exactly one field. -/
structure JoinedOn (e : Expr) (n : Plan) : Prop where
  condition : ∃ mode, n.operator = .join mode (some e.written)
  resolved : ∀ ref ∈ references e, ref.Resolves n.fields

/-- A condition that counts is kept, and checked over the fields of both sides. -/
theorem joinCondition_of_counts {fields : List Field} {e : Expr} {condition : Option String} :
    joinCondition fields true (.on e) = .ok condition
      ↔ (∀ ref ∈ references e, ref.Resolves fields) ∧ condition = some e.written := by
  rw [← checkReferences_eq_ok_iff]
  show (checkReferences fields e >>= fun _ => .ok (some e.written)) = .ok condition ↔ _
  rw [bind_eq_ok]
  constructor
  · rintro ⟨⟨⟩, hcheck, h⟩
    exact ⟨hcheck, (Except.ok.inj h).symm⟩
  · rintro ⟨hcheck, rfl⟩
    exact ⟨(), hcheck, rfl⟩

/-- No condition is left of a constraint that does not count, or that is none on fields. -/
theorem joinCondition_eq_none {fields : List Field} {counts : Bool} {constraint : Constraint}
    (h : counts = false ∨ ∀ e, constraint ≠ .on e) :
    joinCondition fields counts constraint = .ok none := by
  rcases constraint with e | columns | _ | _
  · obtain rfl := h.resolve_right fun hnot => hnot e rfl
    rfl
  all_goals rfl

section

variable {front : From} {j : Join} {n : Plan}

/-- **A condition is kept for the joins whose kind counts, and for no other.** -/
theorem joinedOn_iff (h : ofFrom c scope (joining front j) = .ok n) {e : Expr}
    (he : j.constraint = .on e) : JoinedOn e n ↔ j.kind ∈ counting := by
  obtain ⟨left, right, condition, -, -, hcondition, rfl⟩ := ofFrom_joining_eq_ok.mp h
  rw [← joinMode_snd]
  cases hcounts : (joinMode j.kind).2 with
  | true =>
      rw [hcounts, he, joinCondition_of_counts] at hcondition
      obtain ⟨hresolved, rfl⟩ := hcondition
      exact iff_of_true ⟨⟨_, rfl⟩, hresolved⟩ rfl
  | false =>
      rw [hcounts, he, joinCondition_eq_none (.inl rfl)] at hcondition
      cases hcondition
      refine iff_of_false ?_ nofun
      rintro ⟨⟨mode, hmode⟩, -⟩
      cases hmode

/-- **A join on no condition is planned like CROSS JOIN, unless it keeps rows without a
partner.** -/
theorem ne_crossing_iff (h : ofFrom c scope (joining front j) = .ok n)
    (hnone : j.kind ∉ counting ∨ ∀ e, j.constraint ≠ .on e) :
    ofFrom c scope (crossing front j.factor) ≠ .ok n ↔ j.kind ∈ outer := by
  obtain ⟨left, right, condition, hleft, hright, hcondition, rfl⟩ := ofFrom_joining_eq_ok.mp h
  have hcross : ofFrom c scope (crossing front j.factor) = .ok (joined left right .inner none) :=
    ofFrom_joining_eq_ok.mpr ⟨left, right, none, hleft, hright, rfl, rfl⟩
  have hcounts : (joinMode j.kind).2 = false ∨ ∀ e, j.constraint ≠ .on e := by
    rwa [← joinMode_snd, Bool.not_eq_true] at hnone
  rw [joinCondition_eq_none hcounts] at hcondition
  cases hcondition
  rw [hcross, ← joinMode_fst, Ne, Except.ok.injEq]
  refine not_congr ⟨fun heq => ?_, fun hmode => by rw [hmode]⟩
  injection congrArg Plan.operator heq with hmode
  exact hmode.symm

end

end Stencil.Plan
