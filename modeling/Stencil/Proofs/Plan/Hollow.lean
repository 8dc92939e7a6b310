/-
Planning does not look into the queries inside expressions.

What an expression refers to, whether it folds and of what type it is does not depend on the
queries in it; all that comes of them is the text that the expression is written out in.  So a
statement is planned side by side with one whose expressions are hollowed out, and the two plans
are the same but for such texts: they have the same operators over the same tables, with the same
fields (`similar_ofQuery`).  A table that only such a query names is therefore never looked up.
-/
import Stencil.Proofs.Plan.Alike
import Stencil.Proofs.Plan.Selection
import Stencil.Proofs.Sql.Hollow

namespace Stencil.Plan

open Sql

variable {c : Catalog} {scope scope' : Scope} {left left' p p' right right' : Plan}

/-! ### Expressions -/

theorem checkReferences_hollow (fields : List Field) :
    ∀ e : Expr, checkReferences fields e.hollow = checkReferences fields e
  | .name _ | .qualified _ | .literal _ => by rw [Expr.hollow]
  | .infixed left _ right => by
    rw [Expr.hollow, checkReferences, checkReferences, checkReferences_hollow fields left,
      checkReferences_hollow fields right]
  | .nested inner | .unary _ inner | .isNull inner | .isNotNull inner => by
    rw [Expr.hollow, checkReferences, checkReferences, checkReferences_hollow fields inner]
  | .call _ _ _ | .cast _ _ _ | .phrase _ => by
    rw [Expr.hollow]
    rfl

theorem typeOf_hollow (fields : List Field) : ∀ e : Expr, typeOf fields e.hollow = typeOf fields e
  | .name _ | .qualified _ | .literal _ => by rw [Expr.hollow]
  | .nested inner => by rw [Expr.hollow, typeOf, typeOf, typeOf_hollow fields inner]
  | .call _ _ _ => by rw [Expr.hollow, typeOf, typeOf]
  | .unary _ _ | .infixed _ _ _ | .isNull _ | .isNotNull _ | .cast _ _ _ | .phrase _ => by
    rw [Expr.hollow]
    rfl

theorem isAggregate_hollow (c : Catalog) : ∀ e : Expr, isAggregate c e.hollow = isAggregate c e
  | .nested inner => by rw [Expr.hollow, isAggregate, isAggregate, isAggregate_hollow c inner]
  | .call _ _ _ => by rw [Expr.hollow, isAggregate, isAggregate]
  | .name _ | .qualified _ | .literal _ => by rw [Expr.hollow]
  | .unary _ _ | .infixed _ _ _ | .isNull _ | .isNotNull _ | .cast _ _ _ | .phrase _ => by
    rw [Expr.hollow]
    rfl

theorem callType_hollow (c : Catalog) : ∀ e : Expr, callType c e.hollow = callType c e
  | .nested inner => by rw [Expr.hollow, callType, callType, callType_hollow c inner]
  | .call _ _ _ => by rw [Expr.hollow, callType, callType]
  | .name _ | .qualified _ | .literal _ => by rw [Expr.hollow]
  | .unary _ _ | .infixed _ _ _ | .isNull _ | .isNotNull _ | .cast _ _ _ | .phrase _ => by
    rw [Expr.hollow]
    rfl

theorem fieldName_hollow (index : Nat) (e : Expr) :
    fieldName index e.hollow = fieldName index e := by
  cases e <;> rw [Expr.hollow] <;> rfl

/-! ### Select lists -/

/-- The item with its expression hollowed out. -/
def Projected.hollow (item : Projected) : Projected := { item with expr := item.expr.hollow }

theorem typeOver_hollow (fields : List Field) (item : Projected) :
    item.hollow.typeOver c fields = item.typeOver c fields := by
  unfold Projected.typeOver Projected.hollow
  dsimp only
  rw [callType_hollow, typeOf_hollow]

theorem hollow_ofField (f : Field) : (Projected.ofField f).hollow = .ofField f := by
  rw [Projected.hollow, Projected.ofField, Expr.hollow]

theorem map_hollow_ofField (fields : List Field) :
    (fields.map Projected.ofField).map Projected.hollow = fields.map .ofField := by
  rw [List.map_map]
  exact List.map_congr_left fun f _ => hollow_ofField f

theorem project_hollow (fields : List Field) (index : Nat) (item : SelectItem) :
    project fields index item.hollow = List.map Projected.hollow <$> project fields index item := by
  cases item with
  | expr e =>
      rw [SelectItem.hollow, project, project, checkReferences_hollow, fieldName_hollow]
      cases checkReferences fields e <;> rfl
  | aliased e label =>
      rw [SelectItem.hollow, project, project, checkReferences_hollow]
      cases checkReferences fields e <;> rfl
  | wildcard options => exact congrArg Except.ok (map_hollow_ofField fields).symm
  | qualifiedWildcard qualifier options =>
      rw [SelectItem.hollow, project, project]
      cases fields.filter (isUnder ((qualifier.getLast?.map (·.text)).getD "")) with
      | nil => rfl
      | cons f rest => exact congrArg Except.ok (map_hollow_ofField (f :: rest)).symm

theorem projectAll_hollow (fields : List Field) (index : Nat) (items : List SelectItem) :
    projectAll fields index (items.map SelectItem.hollow)
      = List.map Projected.hollow <$> projectAll fields index items := by
  induction items generalizing index with
  | nil => rfl
  | cons item rest ih =>
      rw [List.map_cons, projectAll, projectAll, project_hollow, ih]
      cases project fields index item with
      | error e => rfl
      | ok first =>
          cases projectAll fields (index + 1) rest with
          | error e => rfl
          | ok others => exact congrArg Except.ok List.map_append.symm

/-! ### Plans without texts -/

/-- The operator without the texts of its expressions. -/
def Operator.unworded : Operator → Operator
  | .sink path fields => .sink path fields
  | .project items => .project (items.map fun item => (item.1, ""))
  | .filter _ => .filter ""
  | .aggregate keys calls => .aggregate (keys.map fun _ => "") (calls.map fun call => (call.1, ""))
  | .join mode condition => .join mode (condition.map fun _ => "")
  | .combine how all => .combine how all
  | .sort keys offset limit =>
    .sort (keys.map fun _ => "") (offset.map fun _ => "") (limit.map fun _ => "")
  | .values tuples => .values (tuples.map fun row => row.map fun _ => "")
  | .scan path => .scan path

mutual

/-- The plan without the texts of its expressions: its operators, the tables they are about, and
the fields that each of them yields. -/
def unworded : Plan → Plan
  | ⟨op, inputs, fields⟩ => ⟨op.unworded, unwordedInputs inputs, fields⟩

def unwordedInputs : List Plan → List Plan
  | [] => []
  | p :: rest => p.unworded :: unwordedInputs rest

end

/-- The plans are the same but for the texts of expressions. -/
def Similar (p p' : Plan) : Prop := p.unworded = p'.unworded

theorem Similar.refl (p : Plan) : Similar p p := rfl

theorem unworded_eq (p : Plan) :
    p.unworded = ⟨p.operator.unworded, unwordedInputs p.inputs, p.fields⟩ := by
  cases p
  rw [unworded]

theorem similar_iff : Similar p p' ↔ p.operator.unworded = p'.operator.unworded
    ∧ unwordedInputs p.inputs = unwordedInputs p'.inputs ∧ p.fields = p'.fields := by
  rw [Similar, unworded_eq, unworded_eq, Plan.mk.injEq]

theorem Similar.fields (h : Similar p p') : p.fields = p'.fields := (similar_iff.mp h).2.2

theorem unwordedInputs_eq (inputs : List Plan) : unwordedInputs inputs = inputs.map unworded := by
  induction inputs with
  | nil => rw [unwordedInputs, List.map_nil]
  | cons p rest ih => rw [unwordedInputs, List.map_cons, ih]

theorem unwordedInputs_singleton (h : Similar p p') :
    unwordedInputs [p] = unwordedInputs [p'] := by
  rw [unwordedInputs_eq, unwordedInputs_eq]
  exact congrArg (fun q => [q]) h

theorem unwordedInputs_pair (hleft : Similar left left') (hright : Similar right right') :
    unwordedInputs [left, right] = unwordedInputs [left', right'] := by
  rw [unwordedInputs_eq, unwordedInputs_eq]
  exact congrArg₂ (fun l r => [l, r]) hleft hright

theorem Similar.above (h : Similar p p') {op op' : Operator} (hop : op.unworded = op'.unworded) :
    Similar (p.above op) (p'.above op') :=
  similar_iff.mpr ⟨hop, unwordedInputs_singleton h, h.fields⟩

theorem Similar.requalified (h : Similar p p') (name : String) :
    Similar (p.requalified name) (p'.requalified name) := by
  obtain ⟨hop, hinputs, hfields⟩ := similar_iff.mp h
  exact similar_iff.mpr ⟨hop, hinputs, congrArg (List.map (Field.requalified name)) hfields⟩

/-- Only whether there is a condition counts. -/
theorem Similar.joined (hleft : Similar left left') (hright : Similar right right')
    (mode : JoinMode) {condition condition' : Option String}
    (hcondition : condition.map (fun _ => "") = condition'.map fun _ => "") :
    Similar (joined left right mode condition) (joined left' right' mode condition') := by
  refine similar_iff.mpr ⟨?_, unwordedInputs_pair hleft hright, ?_⟩
  · exact congrArg (Operator.join mode) hcondition
  · exact congrArg₂ List.append hleft.fields hright.fields

theorem Similar.combined (hleft : Similar left left') (hright : Similar right right')
    (how : Combination) (all : Bool) (fields : List Field) :
    Similar ⟨.combine how all, [left, right], fields⟩ ⟨.combine how all, [left', right'], fields⟩ :=
  similar_iff.mpr ⟨rfl, unwordedInputs_pair hleft hright, rfl⟩

theorem Similar.sorted (h : Similar p p') (order : List OrderKey) (offset limit : Option Expr) :
    Similar (sorted p order offset limit)
      (sorted p' (order.map OrderKey.hollow) (offset.map Expr.hollow) (limit.map Expr.hollow)) := by
  unfold Plan.sorted
  rw [List.isEmpty_map, Option.isNone_map, Option.isNone_map]
  split
  · exact h
  · refine h.above ?_
    simp only [Operator.unworded, List.map_map, Option.map_map, Function.comp_def]

theorem Similar.filtered (h : Similar p p') (condition : Option Expr) :
    Similar (filtered p condition) (filtered p' (condition.map Expr.hollow)) := by
  cases condition with
  | none => exact h
  | some e => exact h.above rfl

theorem Similar.distinctRows (h : Similar p p') (distinct : Bool) :
    Similar (distinctRows p distinct) (distinctRows p' distinct) := by
  cases distinct with
  | false => exact h
  | true => exact h.above (by rw [h.fields])

/-! ### Steps of planning -/

theorem similar_selected? (h : Similar p p') (condition : Option Expr) :
    Alike Similar (selected? p condition) (selected? p' (condition.map Expr.hollow)) := by
  cases condition with
  | none => exact .ok h
  | some e =>
      rw [Option.map_some, selected?, selected?, checkReferences_hollow, h.fields]
      exact (Alike.refl Eq.refl _).bind fun _ _ _ => .ok (h.above rfl)

/-- The keys are those of the same items, and as many. -/
theorem groupKeys_hollow (items : List Projected) (grouping : Grouping) :
    (groupKeys c (items.map Projected.hollow) grouping.hollow).map (fun _ => "")
      = (groupKeys c items grouping).map fun _ => "" := by
  cases grouping with
  | keys exprs modifiers => simp [groupKeys, Grouping.hollow]
  | all modifiers =>
      simp [groupKeys, Grouping.hollow, List.filter_map, Function.comp_def, Projected.hollow,
        isAggregate_hollow]

theorem Similar.projected (h : Similar p p') (items : List Projected) (grouping : Grouping) :
    Similar (projected c p items grouping)
      (projected c p' (items.map Projected.hollow) grouping.hollow) := by
  have hkeys := groupKeys_hollow (c := c) items grouping
  have hcalls : (items.map Projected.hollow).filter (fun item => isAggregate c item.expr)
      = (items.filter fun item => isAggregate c item.expr).map Projected.hollow := by
    rw [List.filter_map]
    exact congrArg _ (List.filter_congr fun item _ => isAggregate_hollow c item.expr)
  have hfields : (items.map Projected.hollow).map
        (fun item => (⟨none, item.name, item.typeOver c p'.fields⟩ : Field))
      = items.map fun item => ⟨none, item.name, item.typeOver c p.fields⟩ := by
    rw [List.map_map, h.fields]
    refine List.map_congr_left fun item _ => ?_
    rw [Function.comp_apply, typeOver_hollow]
    rfl
  have hempty : (groupKeys c (items.map Projected.hollow) grouping.hollow).isEmpty
      = (groupKeys c items grouping).isEmpty := by
    rw [← List.isEmpty_map (f := fun _ => ""), hkeys, List.isEmpty_map]
  unfold Plan.projected
  dsimp only
  rw [hcalls, hfields, hempty, List.isEmpty_map]
  split
  · refine similar_iff.mpr ⟨?_, unwordedInputs_singleton h, rfl⟩
    simp [Operator.unworded, Projected.written, Projected.hollow, Function.comp_def]
  · refine similar_iff.mpr ⟨?_, unwordedInputs_singleton h, rfl⟩
    simp [Operator.unworded, Projected.written, Projected.hollow, Function.comp_def, hkeys]

theorem similar_valuesOf (rows : List (List Expr)) :
    Alike Similar (valuesOf rows) (valuesOf (rows.map fun row => row.map Expr.hollow)) := by
  cases rows with
  | nil => exact .error _
  | cons first rest =>
      refine .ok (similar_iff.mpr ⟨?_, rfl, ?_⟩)
      · simp [Operator.unworded, Function.comp_def]
      · rw [List.zipIdx_map, List.map_map]
        refine List.map_congr_left fun entry _ => ?_
        dsimp only [Function.comp_apply, Prod.map, id]
        rw [typeOf_hollow]

/-- The condition is checked in the same way, and there is one on both sides or on neither. -/
theorem alike_joinCondition (fields : List Field) (counts : Bool) (constraint : Constraint) :
    Alike (fun condition condition' : Option String =>
        condition.map (fun _ => "") = condition'.map fun _ => "")
      (joinCondition fields counts constraint)
      (joinCondition fields counts constraint.hollow) := by
  cases constraint with
  | on e =>
      rw [Constraint.hollow, joinCondition, joinCondition, checkReferences_hollow]
      cases counts with
      | false => exact .ok rfl
      | true => exact (Alike.refl Eq.refl _).bind fun _ _ _ => .ok rfl
  | _ => exact .ok rfl

/-! ### Statements side by side -/

mutual

theorem similar_ofQuery : ∀ (q : Query) {scope scope' : Scope},
    Keyed.Related Similar scope scope' →
      Alike Similar (ofQuery c scope q) (ofQuery c scope' q.hollow)
  | ⟨_, ctes, body, order, _, limit, offset, _, _, _, _⟩, scope, scope', h => by
    rw [Query.hollow, ofQuery, ofQuery]
    refine (similar_scopeOf ctes h).bind fun inner inner' hinner => ?_
    exact (similar_ofBody body hinner).bind fun p p' hp => .ok (hp.sorted order offset limit)

theorem similar_scopeOf : ∀ (ctes : List Cte) {scope scope' : Scope},
    Keyed.Related Similar scope scope' →
      Alike (Keyed.Related Similar) (scopeOf c scope ctes) (scopeOf c scope' (hollowCtes ctes))
  | [], scope, scope', h => by
    rw [hollowCtes, scopeOf, scopeOf]
    exact .ok h
  | ⟨label, query, _⟩ :: rest, scope, scope', h => by
    rw [hollowCtes, scopeOf, scopeOf]
    refine (similar_ofQuery query h).bind fun p p' hp => ?_
    exact similar_scopeOf rest (h.put _ (hp.requalified label.name.text))

theorem similar_ofBody : ∀ (b : Body) {scope scope' : Scope},
    Keyed.Related Similar scope scope' →
      Alike Similar (ofBody c scope b) (ofBody c scope' b.hollow)
  | .select s, scope, scope', h => by
    rw [Body.hollow, ofBody, ofBody]
    exact similar_ofSelect s h
  | .query q, scope, scope', h => by
    rw [Body.hollow, ofBody, ofBody]
    exact similar_ofQuery q h
  | .setOperation op quantifier left right, scope, scope', h => by
    rw [Body.hollow, ofBody, ofBody]
    refine (similar_ofBody left h).bind fun l l' hl => ?_
    refine (similar_ofBody right h).bind fun r r' hr => ?_
    exact alike_combined hl.fields hr.fields (hl.combined hr) op quantifier
  | .values _ rows, scope, scope', h => by
    rw [Body.hollow, ofBody, ofBody]
    exact similar_valuesOf rows
  | .other pieces, scope, scope', h => by
    rw [Body.hollow, ofBody, ofBody]
    exact .error _

theorem similar_ofSelect : ∀ (s : Select) {scope scope' : Scope},
    Keyed.Related Similar scope scope' →
      Alike Similar (ofSelect c scope s) (ofSelect c scope' s.hollow)
  | ⟨distinct, _, _, projection, _, sources, _, selection, grouping, _, having, _⟩, scope, scope',
      h => by
    rw [Select.hollow, ofSelect, ofSelect]
    refine (similar_ofSources sources h).bind fun source source' hsource => ?_
    refine (similar_selected? hsource selection).bind fun input input' hinput => ?_
    rw [hinput.fields, projectAll_hollow]
    refine (alike_map (List.map Projected.hollow) _).bind fun items items' hitems => .ok ?_
    rw [hitems]
    exact ((hinput.projected items grouping).filtered having).distinctRows distinct

theorem similar_ofSources : ∀ (sources : List From) {scope scope' : Scope},
    Keyed.Related Similar scope scope' →
      Alike Similar (ofSources c scope sources) (ofSources c scope' (hollowSources sources))
  | [], scope, scope', h => by
    rw [hollowSources, ofSources, ofSources]
    exact .ok (.refl singleRow)
  | first :: rest, scope, scope', h => by
    rw [hollowSources, ofSources, ofSources]
    exact (similar_ofFrom first h).bind fun p p' hp => similar_ofMoreSources rest h hp

theorem similar_ofMoreSources : ∀ (sources : List From) {scope scope' : Scope} {left left' : Plan},
    Keyed.Related Similar scope scope' → Similar left left' →
      Alike Similar (ofMoreSources c scope left sources)
        (ofMoreSources c scope' left' (hollowSources sources))
  | [], scope, scope', left, left', h, hleft => by
    rw [hollowSources, ofMoreSources, ofMoreSources]
    exact .ok hleft
  | item :: rest, scope, scope', left, left', h, hleft => by
    rw [hollowSources, ofMoreSources, ofMoreSources]
    refine (similar_ofFrom item h).bind fun right right' hright => ?_
    exact similar_ofMoreSources rest h (hleft.joined hright .inner rfl)

theorem similar_ofFrom : ∀ (item : From) {scope scope' : Scope},
    Keyed.Related Similar scope scope' →
      Alike Similar (ofFrom c scope item) (ofFrom c scope' item.hollow)
  | ⟨factor, joins⟩, scope, scope', h => by
    rw [From.hollow, ofFrom, ofFrom]
    exact (similar_ofFactor factor h).bind fun p p' hp => similar_ofJoins joins h hp

theorem similar_ofJoins : ∀ (joins : List Join) {scope scope' : Scope} {left left' : Plan},
    Keyed.Related Similar scope scope' → Similar left left' →
      Alike Similar (ofJoins c scope left joins) (ofJoins c scope' left' (hollowJoins joins))
  | [], scope, scope', left, left', h, hleft => by
    rw [hollowJoins, ofJoins, ofJoins]
    exact .ok hleft
  | ⟨_, kind, factor, _, constraint⟩ :: rest, scope, scope', left, left', h, hleft => by
    rw [hollowJoins, ofJoins, ofJoins]
    refine (similar_ofFactor factor h).bind fun right right' hright => ?_
    rw [hleft.fields, hright.fields]
    refine (alike_joinCondition _ _ constraint).bind fun condition condition' hcondition => ?_
    exact similar_ofJoins rest h (hleft.joined hright _ hcondition)

theorem similar_ofFactor : ∀ (factor : Factor) {scope scope' : Scope},
    Keyed.Related Similar scope scope' →
      Alike Similar (ofFactor c scope factor) (ofFactor c scope' factor.hollow)
  | .table name _ label _, scope, scope', h => by
    rw [Factor.hollow]
    unfold ofFactor
    exact alike_relation Similar.refl Similar.requalified h _ _
  | .derived _ query label, scope, scope', h => by
    rw [Factor.hollow, ofFactor, ofFactor]
    refine (similar_ofQuery query h).bind fun p p' hp => .ok ?_
    cases label with
    | none => exact hp
    | some a => exact hp.requalified a.name.text
  | .nested inner _, scope, scope', h => by
    rw [Factor.hollow, ofFactor, ofFactor]
    exact similar_ofFrom inner h
  | .other pieces label tail, scope, scope', h => by
    rw [Factor.hollow, ofFactor, ofFactor]
    exact .error _

end

theorem similar_ofInsert (i : Insert) : Alike Similar (ofInsert c i) (ofInsert c i.hollow) := by
  refine alike_ofInsert rfl rfl Similar.fields (fun h _ _ => h.above rfl) ?_
  dsimp only [Insert.hollow]
  cases i.source with
  | none => exact .none
  | some q => exact .some (similar_ofQuery q Keyed.related_nil)

/-- **The queries inside its expressions do not matter for how a statement is planned.**  Without
them it is refused with the same error, or has the same plan but for the texts of expressions. -/
theorem unworded_ofStatement_hollow (c : Catalog) (s : Statement) :
    Option.map unworded <$> ofStatement c s.hollow = Option.map unworded <$> ofStatement c s := by
  have hsome : ∀ {x y : Except Error Plan}, Alike Similar x y →
      Option.map unworded <$> some <$> y = Option.map unworded <$> some <$> x := by
    intro x y h
    rw [← comp_map, ← comp_map]
    exact (h.map_eq fun _ _ hp => congrArg some hp).symm
  cases s with
  | query q => exact hsome (similar_ofQuery q Keyed.related_nil)
  | insert i => exact hsome (similar_ofInsert i)
  | _ => rfl

end Stencil.Plan
