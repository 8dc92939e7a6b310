/-
Calls that fold groups of rows, inside select lists.

Whether an item of a select list folds is asked of the item as it stands: it has to be the
call itself, be it in parentheses.  A call under an operator or a cast is not found, and
unless some other item that folds happens to spell it out, no aggregation of the plan is
about it.  So whether the plan of a selection keeps a call can be read off the select list,
and a call that stands alone in its item is always kept.
-/
import Mathlib.Data.List.Infix
import Stencil.Plan.Planner
import Stencil.Proofs.Outcome
import Stencil.Proofs.Plan.Nodes

namespace Stencil

namespace Sql

/-! ### Parts of expressions -/

/-- The expression stands in another, under parentheses, operators and casts. -/
inductive Expr.Within (part : Expr) : Expr → Prop
  | self : Within part part
  | nested {inner : Expr} (h : Within part inner) : Within part (.nested inner)
  | unary {operand : Expr} (op : UnaryOperator) (h : Within part operand) :
      Within part (.unary op operand)
  | left {left : Expr} (op : String) (right : Expr) (h : Within part left) :
      Within part (.infixed left op right)
  | right {right : Expr} (left : Expr) (op : String) (h : Within part right) :
      Within part (.infixed left op right)
  | isNull {operand : Expr} (h : Within part operand) : Within part (.isNull operand)
  | isNotNull {operand : Expr} (h : Within part operand) : Within part (.isNotNull operand)
  | cast {operand : Expr} (form : CastForm) (target : String) (h : Within part operand) :
      Within part (.cast form operand target)

/-- The text stands somewhere in another. -/
def StandsIn (part text : String) : Prop := part.toList <:+: text.toList

theorem StandsIn.refl (text : String) : StandsIn text text := List.infix_rfl

/-- What is written around a text does not matter. -/
theorem StandsIn.amid {part text : String} (h : StandsIn part text) (before behind : String) :
    StandsIn part (before ++ text ++ behind) := by
  obtain ⟨before', behind', htext⟩ := h
  refine ⟨before.toList ++ before', behind' ++ behind.toList, ?_⟩
  simp [← htext]

theorem StandsIn.behind {part text : String} (h : StandsIn part text) (before : String) :
    StandsIn part (before ++ text) := by
  simpa using h.amid before ""

theorem StandsIn.before {part text : String} (h : StandsIn part text) (behind : String) :
    StandsIn part (text ++ behind) := by
  simpa using h.amid "" behind

/-- A part of an expression is written out where the expression is. -/
theorem Expr.Within.standsIn {part e : Expr} (h : part.Within e) :
    StandsIn part.written e.written := by
  induction h with
  | self => exact .refl _
  | nested _ ih => exact ih.amid "(" ")"
  | unary op _ ih =>
      cases op with
      | not => exact ih.behind "NOT "
      | minus => exact ih.behind "-"
      | plus => exact ih.behind "+"
      | factorial => exact ih.before "!"
  | left op right _ ih => exact ((ih.before " ").before op).before " " |>.before right.written
  | right left op _ ih => exact ih.behind (left.written ++ " " ++ op ++ " ")
  | isNull _ ih => exact ih.before " IS NULL"
  | isNotNull _ ih => exact ih.before " IS NOT NULL"
  | cast form target _ ih =>
      cases form with
      | cast => exact ((ih.behind "CAST(").before " AS ").before target |>.before ")"
      | tryCast => exact ((ih.behind "TRY_CAST(").before " AS ").before target |>.before ")"
      | safeCast => exact ((ih.behind "SAFE_CAST(").before " AS ").before target |>.before ")"
      | colons => exact (ih.before "::").before target

/-- The expression without the parentheses around it. -/
def Expr.bare : Expr → Expr
  | .nested inner => inner.bare
  | e => e

theorem Expr.bare_within (e : Expr) : e.bare.Within e := by
  fun_induction Expr.bare e with
  | case1 inner ih => exact .nested ih
  | case2 e => exact .self

/-- The expression of an item, unless it is a wildcard. -/
def SelectItem.expr? : SelectItem → Option Expr
  | .expr e | .aliased e _ => some e
  | .wildcard _ | .qualifiedWildcard _ _ => none

end Sql

namespace Plan

open Sql

variable {c : Catalog} {scope : Scope} {s : Select} {p n input : Plan} {call : Expr}

/-! ### What is asked of a plan -/

/-- The function folds groups of rows: it was registered to, or is built in and not registered
otherwise. -/
def folds (c : Catalog) (function : QualifiedName) : Bool :=
  match c.function? (QualifiedName.written function) with
  | some f => f.kind.isAggregate
  | none => aggregates.contains (Text.upper (QualifiedName.written function))

/-- The expression is a call, without a window, of a function that folds, and stands somewhere in
an item of the select list. -/
structure Called (c : Catalog) (s : Select) (call : Expr) : Prop where
  folds : ∃ function rest, call = .call function rest false ∧ folds c function = true
  occurs : ∃ item ∈ s.projection, ∃ e, item.expr? = some e ∧ call.Within e

/-- The plan of the rows that a selection draws on: those of its sources that satisfy the
condition. -/
def rowsOf (c : Catalog) (scope : Scope) (s : Select) : Except Error Plan := do
  selected? (← ofSources c scope s.sources) s.selection

/-- A node of the plan, above that of the input, folds groups of rows by calls that mention the
expression. -/
def Folded (input p : Plan) (call : Expr) : Prop :=
  ∃ n ∈ p.nodes, (∃ q ∈ n.inputs, input ∈ q.nodes) ∧
    ∃ keys calls, n.operator = .aggregate keys calls
      ∧ ∃ entry ∈ calls, StandsIn call.written entry.2

/-- The call is all that stands in an item of the select list, but for parentheses. -/
def StandsAlone (s : Select) (call : Expr) : Prop :=
  ∃ item ∈ s.projection, ∃ e, item.expr? = some e ∧ e.bare = call

/-- An item of the select list that folds as it stands spells the expression out. -/
def SpelledOut (c : Catalog) (s : Select) (call : Expr) : Prop :=
  ∃ item ∈ s.projection, ∃ e, item.expr? = some e ∧ isAggregate c e = true
    ∧ StandsIn call.written e.written

/-! ### Planning a selection -/

/-- A selection is planned above the rows that it draws on. -/
theorem ofSelect_eq_ok (h : ofSelect c scope s = .ok p) :
    ∃ input items, rowsOf c scope s = .ok input
      ∧ projectAll input.fields 0 s.projection = .ok items
      ∧ p = distinctRows (filtered (projected c input items s.grouping) s.having) s.distinct := by
  obtain ⟨distinct, _, _, projection, _, sources, _, selection, grouping, _, having, _⟩ := s
  rw [ofSelect] at h
  obtain ⟨source, hsource, h⟩ := bind_eq_ok.mp h
  obtain ⟨input, hinput, h⟩ := bind_eq_ok.mp h
  obtain ⟨items, hitems, h⟩ := bind_eq_ok.mp h
  cases h
  exact ⟨input, items, bind_eq_ok.mpr ⟨source, hsource, hinput⟩, hitems, rfl⟩

section

variable {fields : List Field} {Q : Expr → Prop}

/-- No field that a wildcard stands for folds. -/
theorem not_exists_folding_ofField :
    ¬ ∃ i ∈ fields.map Projected.ofField, isAggregate c i.expr = true ∧ Q i.expr := by
  rintro ⟨i, hi, hfolds, -⟩
  obtain ⟨f, -, rfl⟩ := List.mem_map.mp hi
  cases hfolds

theorem exists_folding_project {index : Nat} {item : SelectItem} {items : List Projected}
    (h : project fields index item = .ok items) :
    (∃ i ∈ items, isAggregate c i.expr = true ∧ Q i.expr)
      ↔ ∃ e, item.expr? = some e ∧ isAggregate c e = true ∧ Q e := by
  cases item with
  | expr e =>
      obtain ⟨_, -, h⟩ := bind_eq_ok.mp h
      cases h
      simp [SelectItem.expr?]
  | aliased e label =>
      obtain ⟨_, -, h⟩ := bind_eq_ok.mp h
      cases h
      simp [SelectItem.expr?]
  | wildcard options =>
      cases h
      refine iff_of_false not_exists_folding_ofField ?_
      rintro ⟨_, hexpr, -⟩
      cases hexpr
  | qualifiedWildcard qualifier options =>
      rw [project] at h
      split at h
      · cases h
      · cases h
        refine iff_of_false not_exists_folding_ofField ?_
        rintro ⟨_, hexpr, -⟩
        cases hexpr

/-- The items of a plan that fold are those of the select list that fold as they stand. -/
theorem exists_folding_projectAll {projection : List SelectItem} {index : Nat}
    {items : List Projected} (h : projectAll fields index projection = .ok items) :
    (∃ i ∈ items, isAggregate c i.expr = true ∧ Q i.expr)
      ↔ ∃ item ∈ projection, ∃ e, item.expr? = some e ∧ isAggregate c e = true ∧ Q e := by
  induction projection generalizing index items with
  | nil =>
      cases h
      simp
  | cons item rest ih =>
      rw [projectAll] at h
      obtain ⟨first, hfirst, h⟩ := bind_eq_ok.mp h
      obtain ⟨others, hothers, h⟩ := bind_eq_ok.mp h
      cases h
      simp only [List.mem_append, or_and_right, exists_or, List.mem_cons, exists_eq_left]
      rw [exists_folding_project hfirst, ih hothers]

end

/-! ### Where a call is kept -/

/-- An operator that folds by no calls keeps none. -/
theorem folded_above_iff {op : Operator}
    (hop : ∀ keys calls, op = .aggregate keys calls → calls = []) :
    Folded input (p.above op) call ↔ Folded input p call := by
  constructor
  · rintro ⟨n, hn, hinput, keys, calls, haggregate, entry, hentry, hmentions⟩
    rcases mem_nodes.mp hn with rfl | ⟨q, hq, hnode⟩
    · rw [hop keys calls haggregate] at hentry
      cases hentry
    · obtain rfl := List.mem_singleton.mp hq
      exact ⟨n, hnode, hinput, keys, calls, haggregate, entry, hentry, hmentions⟩
  · rintro ⟨n, hn, hfolds⟩
    exact ⟨n, mem_nodes.mpr (.inr ⟨p, List.mem_singleton.mpr rfl, hn⟩), hfolds⟩

theorem folded_filtered_iff (condition : Option Expr) :
    Folded input (filtered p condition) call ↔ Folded input p call := by
  cases condition with
  | none => exact Iff.rfl
  | some e => exact folded_above_iff fun _ _ h => nomatch h

theorem folded_distinctRows_iff (distinct : Bool) :
    Folded input (distinctRows p distinct) call ↔ Folded input p call := by
  cases distinct with
  | false => exact Iff.rfl
  | true =>
      refine folded_above_iff fun keys calls h => ?_
      injection h with _ hcalls
      exact hcalls.symm

/-- What is computed over the input folds by exactly the items that fold. -/
theorem folded_projected_iff (items : List Projected) (grouping : Grouping) :
    Folded input (projected c input items grouping) call
      ↔ ∃ i ∈ items, isAggregate c i.expr = true ∧ StandsIn call.written i.expr.written := by
  have hinputs : (projected c input items grouping).inputs = [input] := by
    unfold projected
    dsimp only
    split <;> rfl
  constructor
  · rintro ⟨n, hn, ⟨q, hq, hbelow⟩, keys, calls, haggregate, entry, hentry, hmentions⟩
    rcases mem_nodes.mp hn with rfl | ⟨q', hq', hnode⟩
    · unfold projected at haggregate
      dsimp only at haggregate
      split at haggregate
      · cases haggregate
      · injection haggregate with _ hcalls
        rw [← hcalls] at hentry
        obtain ⟨i, hi, rfl⟩ := List.mem_map.mp hentry
        obtain ⟨hmem, hfolds⟩ := List.mem_filter.mp hi
        exact ⟨i, hmem, hfolds, hmentions⟩
    · -- No node of the input stands above the input.
      rw [hinputs] at hq'
      obtain rfl := List.mem_singleton.mp hq'
      exact absurd hnode (notMem_nodes_of_input hq hbelow)
  · rintro ⟨i, hi, hfolds, hmentions⟩
    have hmem : i ∈ items.filter fun item => isAggregate c item.expr :=
      List.mem_filter.mpr ⟨hi, hfolds⟩
    refine ⟨_, mem_nodes.mpr (.inl rfl),
      ⟨input, hinputs ▸ List.mem_singleton.mpr rfl, mem_nodes.mpr (.inl rfl)⟩,
      groupKeys c items grouping, _, ?_, i.written, List.mem_map_of_mem hmem, hmentions⟩
    unfold projected
    dsimp only
    rw [if_neg]
    intro hempty
    rw [Bool.and_eq_true, List.isEmpty_iff] at hempty
    rw [hempty.1] at hmem
    cases hmem

/-! ### What is kept -/

/-- Parentheses do not hide a call. -/
theorem isAggregate_bare (c : Catalog) (e : Expr) : isAggregate c e.bare = isAggregate c e := by
  fun_induction Expr.bare e with
  | case1 inner ih => exact ih
  | case2 e => rfl

theorem Called.spelledOut (hcalled : Called c s call) (h : StandsAlone s call) :
    SpelledOut c s call := by
  obtain ⟨item, hitem, e, hexpr, rfl⟩ := h
  obtain ⟨function, rest, hcall, hfolds⟩ := hcalled.folds
  refine ⟨item, hitem, e, hexpr, ?_, e.bare_within.standsIn⟩
  rw [← isAggregate_bare, hcall]
  exact hfolds

/-- A plan that folds by calls may take back rows. -/
theorem Folded.updates (h : Folded input p call) : p.updates = true := by
  obtain ⟨n, hn, -, keys, calls, haggregate, -⟩ := h
  rw [updates_eq_any, List.any_eq_true]
  exact ⟨n, hn, by rw [haggregate]; rfl⟩

/-- Rows come together where they are folded. -/
theorem Folded.distribution (h : Folded input p call) :
    ∃ n ∈ p.nodes, (∃ q ∈ n.inputs, input ∈ q.nodes) ∧ n.operator.distribution ≠ .forward := by
  obtain ⟨n, hn, hinput, keys, calls, haggregate, -⟩ := h
  refine ⟨n, hn, hinput, ?_⟩
  rw [haggregate]
  cases keys <;> exact nofun

/-- A call is folded if and only if some item that folds spells it out. -/
theorem folded_ofSelect_iff (hinput : rowsOf c scope s = .ok input)
    (h : ofSelect c scope s = .ok p) : Folded input p call ↔ SpelledOut c s call := by
  obtain ⟨input', items, hinput', hitems, rfl⟩ := ofSelect_eq_ok h
  obtain rfl : input = input' := Except.ok.inj (hinput.symm.trans hinput')
  rw [folded_distinctRows_iff, folded_filtered_iff, folded_projected_iff]
  exact exists_folding_projectAll hitems (Q := fun e => StandsIn call.written e.written)

/-- **The plan of a selection keeps a call of its select list if and only if an item that folds as
it stands spells the call out.**  A call that stands alone is kept, and what keeps a call brings
its rows together and may take some back. -/
theorem folded_iff_spelledOut (h : ofSelect c scope s = .ok p) :
    ∃ input, rowsOf c scope s = .ok input
      ∧ ∀ call, Called c s call →
        (Folded input p call ↔ SpelledOut c s call)
          ∧ (StandsAlone s call → Folded input p call)
          ∧ (Folded input p call → p.updates = true ∧ ∃ n ∈ p.nodes,
            (∃ q ∈ n.inputs, input ∈ q.nodes) ∧ n.operator.distribution ≠ .forward) := by
  obtain ⟨input, _, hinput, -, -⟩ := ofSelect_eq_ok h
  refine ⟨input, hinput, fun call hcalled =>
    ⟨folded_ofSelect_iff hinput h, fun halone => ?_, fun hfolded => ?_⟩⟩
  · exact (folded_ofSelect_iff hinput h).mpr (hcalled.spelledOut halone)
  · exact ⟨hfolded.updates, hfolded.distribution⟩

/-- The table `a` with one column. -/
def tableA : Catalog :=
  ⟨"default_catalog", "default_database",
    [(⟨"default_catalog", "default_database", "a"⟩, .table [⟨"i", "INT"⟩] [])], []⟩

/-- The call of SUM on the column. -/
def sumOfColumn : Expr :=
  .call [⟨"SUM", none⟩] [.words "(", .expr (.name ⟨"i", none⟩), .words ")"] false

/-- The selection of an item from the table. -/
def selecting (distinct : Bool) (item : Expr) : Select :=
  ⟨distinct, [], [], [.expr item], "", [⟨.table [⟨"a", none⟩] [] none [], []⟩], [], none,
    .keys [] "", [], none, []⟩

/-- The number in writing. -/
def number (digits : String) : Expr := .literal (.number digits false)

/-- A body with no clauses around it. -/
def plainly (body : Body) : Query := ⟨false, [], body, [], [], none, none, "", [], none, []⟩

theorem called_sumOfColumn {distinct : Bool} {item : Expr} (h : sumOfColumn.Within item) :
    Called tableA (selecting distinct item) sumOfColumn :=
  ⟨⟨_, _, rfl, by decide +kernel⟩, _, List.mem_singleton.mpr rfl, item, rfl, h⟩

/-- In parentheses, and below the operator that keeps each row once. -/
theorem folded_distinct_parentheses :
    (selecting true (.nested sumOfColumn)).written = "SELECT DISTINCT (SUM(i)) FROM a"
      ∧ ∃ p input, ofSelect tableA [] (selecting true (.nested sumOfColumn)) = .ok p
        ∧ rowsOf tableA [] (selecting true (.nested sumOfColumn)) = .ok input
        ∧ Folded input p sumOfColumn := by
  refine ⟨by decide +kernel, ?_⟩
  have hplan : ∃ p, ofSelect tableA [] (selecting true (.nested sumOfColumn)) = .ok p := ⟨_, rfl⟩
  obtain ⟨p, hp⟩ := hplan
  obtain ⟨input, hinput, hcalls⟩ := folded_iff_spelledOut hp
  have hcalled : Called tableA (selecting true (.nested sumOfColumn)) sumOfColumn :=
    called_sumOfColumn (.nested .self)
  exact ⟨p, input, hp, hinput,
    (hcalls sumOfColumn hcalled).2.1 ⟨_, List.mem_singleton.mpr rfl, _, rfl, rfl⟩⟩

/-- One more than the call. -/
def sumPlusOne : Expr := .infixed sumOfColumn "+" (.literal (.number "1" false))

/-- Under an operator the call is not found, and the item is computed row by row. -/
theorem not_folded_under_operator :
    (selecting false sumPlusOne).written = "SELECT SUM(i) + 1 FROM a"
      ∧ Called tableA (selecting false sumPlusOne) sumOfColumn
      ∧ ∃ p input, ofSelect tableA [] (selecting false sumPlusOne) = .ok p
        ∧ rowsOf tableA [] (selecting false sumPlusOne) = .ok input
        ∧ p.operator = .project [("EXPR$0", "SUM(i) + 1")]
        ∧ ¬ Folded input p sumOfColumn ∧ p.updates = false := by
  refine ⟨by decide +kernel, called_sumOfColumn (.left "+" _ .self), _, _, rfl, rfl, rfl, ?_, rfl⟩
  intro hfolded
  obtain ⟨item, hitem, e, hexpr, hfolds, -⟩ :=
    (@folded_ofSelect_iff tableA [] (selecting false sumPlusOne) _ _ _ rfl rfl).mp hfolded
  obtain rfl := List.mem_singleton.mp hitem
  cases hexpr
  cases hfolds

end Plan
end Stencil
