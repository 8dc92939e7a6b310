/-
The shape of plans.

What an operator asks of its inputs and of the fields it yields is said node by
node, in `Fits`.  Planning makes no other nodes: each place that builds one
establishes its part, and the induction over the query carries `Sound` from the
inputs to the whole.  One step changes a node after it was built, namely seeing the
fields of a plan through another name.  That would part a join from the fields of
its sides, so what is carried for queries is `Closed`: their root is never a join.

Failures are followed along with the plans, because none of them may be a fault of
the library itself.
-/
import Stencil.Plan.Planner
import Stencil.Proofs.Keyed
import Stencil.Proofs.Outcome
import Stencil.Proofs.Plan.Nodes

namespace Stencil

open Sql

/-- The error tells the user something, and is no fault of the library itself. -/
def Error.Ordinary (e : Error) : Prop := e.category ≠ .internal

namespace Plan

variable {c : Catalog} {scope : Scope} {n p q : Plan}

/-! ### What a node asks -/

/-- The node is what a selection without repetition is planned as, whatever name its fields are
seen through. -/
def MadeForDistinct (c : Catalog) (n : Plan) : Prop :=
  ∃ scope s m, s.distinct = true ∧ ofSelect c scope s = .ok m
    ∧ n.operator = m.operator ∧ n.inputs = m.inputs ∧ n.columns = m.columns

/-- What a node asks of its inputs and its fields, by what its operator does. -/
def Fits (c : Catalog) (n : Plan) : Prop :=
  match n.operator with
  | .scan path =>
    n.inputs = [] ∧ ∃ object, c.get? path = some object ∧ n.columns = object.columns
  | .values _ => n.inputs = []
  | .project items => (∃ input, n.inputs = [input]) ∧ items.map (·.1) = n.fields.map (·.name)
  | .filter _ | .sort .. => ∃ input, n.inputs = [input] ∧ n.columns = input.columns
  | .aggregate _ _ =>
    ∃ input, n.inputs = [input] ∧ (MadeForDistinct c n → n.columns = input.columns)
  | .join _ _ =>
    ∃ left right, n.inputs = [left, right] ∧ n.fields = left.fields ++ right.fields
  | .combine _ _ =>
    ∃ left right, n.inputs = [left, right] ∧ n.columns = left.columns
      ∧ left.fields.length = n.fields.length ∧ right.fields.length = n.fields.length
  | .sink path targets =>
    ∃ input columns options, n.inputs = [input] ∧ c.get? path = some (.table columns options)
      ∧ targets.length = input.fields.length ∧ ∀ name ∈ targets, name ∈ columns.map (·.name)

def isJoin (p : Plan) : Bool :=
  match p.operator with
  | .join .. => true
  | _ => false

/-- Every node fits, and none writes. -/
def Sound (c : Catalog) (p : Plan) : Prop := ∀ n ∈ p.nodes, n.Fits c ∧ n.isSink = false

/-- A sound plan whose fields may be seen through another name. -/
structure Closed (c : Catalog) (p : Plan) : Prop where
  sound : p.Sound c
  notJoin : p.isJoin = false

theorem sound_of_inputs (hfits : p.Fits c) (hsink : p.isSink = false)
    (hinputs : ∀ q ∈ p.inputs, q.Sound c) : p.Sound c := by
  intro n hn
  rcases mem_nodes.mp hn with rfl | ⟨q, hq, hmem⟩
  · exact ⟨hfits, hsink⟩
  · exact hinputs q hq n hmem

theorem Sound.fits (h : p.Sound c) : p.Fits c := (h p (mem_nodes.mpr (.inl rfl))).1

theorem Sound.of_mem_inputs (h : p.Sound c) (hq : q ∈ p.inputs) : q.Sound c :=
  fun n hn => h n (mem_nodes.mpr (.inr ⟨q, hq, hn⟩))

theorem Sound.notSink (h : p.Sound c) : p.isSink = false := (h p (mem_nodes.mpr (.inl rfl))).2

/-! ### Other names for the fields -/

theorem columns_requalified (p : Plan) (name : String) :
    (p.requalified name).columns = p.columns := by
  simp [columns, requalified, Field.requalified, Field.column, Function.comp_def]

theorem names_columns (p : Plan) : p.columns.map (·.name) = p.fields.map (·.name) := by
  simp [columns, Field.column, Function.comp_def]

theorem length_columns (p : Plan) : p.columns.length = p.fields.length := by
  simp [columns]

/-- Apart from joins, what a node asks of its fields is about their names and types. -/
theorem Fits.of_columns {m : Plan} (h : m.Fits c) (hjoin : m.isJoin = false)
    (hop : n.operator = m.operator) (hinputs : n.inputs = m.inputs)
    (hcolumns : n.columns = m.columns) : n.Fits c := by
  have hnames : n.fields.map (·.name) = m.fields.map (·.name) := by
    rw [← names_columns, hcolumns, names_columns]
  have hlength : n.fields.length = m.fields.length := by
    rw [← length_columns, hcolumns, length_columns]
  have hdistinct : MadeForDistinct c n → MadeForDistinct c m := by
    rintro ⟨scope, s, m', hs, hm', hop', hinputs', hcolumns'⟩
    exact ⟨scope, s, m', hs, hm', hop ▸ hop', hinputs ▸ hinputs', hcolumns ▸ hcolumns'⟩
  unfold Fits at h ⊢
  unfold isJoin at hjoin
  rw [hop, hinputs, hcolumns, hnames, hlength]
  cases hm : m.operator with
  | join mode condition => simp [hm] at hjoin
  | aggregate keys calls =>
      rw [hm] at h
      obtain ⟨input, hinput, hsame⟩ := h
      exact ⟨input, hinput, fun hn => hsame (hdistinct hn)⟩
  | _ =>
      rw [hm] at h
      exact h

theorem Closed.requalified (h : Closed c p) (name : String) : Closed c (p.requalified name) :=
  ⟨sound_of_inputs (h.sound.fits.of_columns h.notJoin rfl rfl (columns_requalified p name))
    h.sound.notSink fun _ hq => h.sound.of_mem_inputs hq, h.notJoin⟩

/-! ### Operators -/

theorem closed_singleRow : Closed c singleRow :=
  ⟨sound_of_inputs rfl rfl (fun _ hq => nomatch hq), rfl⟩

theorem sound_joined {left right : Plan} (hleft : left.Sound c) (hright : right.Sound c)
    (mode : JoinMode) (condition : Option String) : (joined left right mode condition).Sound c := by
  refine sound_of_inputs ⟨left, right, rfl, rfl⟩ rfl fun q hq => ?_
  rcases List.mem_cons.mp hq with rfl | hq
  · exact hleft
  · obtain rfl := List.mem_singleton.mp hq
    exact hright

theorem closed_above (h : p.Sound c) {op : Operator} (hfits : (p.above op).Fits c)
    (hsink : (p.above op).isSink = false) (hjoin : (p.above op).isJoin = false) :
    Closed c (p.above op) := by
  refine ⟨sound_of_inputs hfits hsink fun q hq => ?_, hjoin⟩
  obtain rfl := List.mem_singleton.mp hq
  exact h

theorem Closed.sorted (h : Closed c p) (order : List OrderKey) (offset limit : Option Expr) :
    Closed c (sorted p order offset limit) := by
  unfold Plan.sorted
  split
  · exact h
  · exact closed_above h.sound ⟨p, rfl, rfl⟩ rfl rfl

theorem closed_filter (h : p.Sound c) (condition : String) :
    Closed c (p.above (.filter condition)) :=
  closed_above h ⟨p, rfl, rfl⟩ rfl rfl

theorem Closed.filtered (h : Closed c p) (condition : Option Expr) :
    Closed c (filtered p condition) := by
  cases condition with
  | none => exact h
  | some e => exact closed_filter h.sound e.written

/-- What is planned for a selection without repetition has the columns of its input. -/
theorem columns_of_madeForDistinct (h : MadeForDistinct c n) (hinput : n.inputs = [p]) :
    n.columns = p.columns := by
  obtain ⟨scope, s, m, hs, hm, -, hinputs, hcolumns⟩ := h
  obtain ⟨distinct, _, _, _, _, _, _, _, _, _, _, _⟩ := s
  obtain rfl : distinct = true := hs
  rw [ofSelect] at hm
  obtain ⟨source, -, hm⟩ := bind_eq_ok.mp hm
  obtain ⟨input, -, hm⟩ := bind_eq_ok.mp hm
  obtain ⟨items, -, hm⟩ := bind_eq_ok.mp hm
  cases hm
  rw [hinputs] at hinput
  obtain rfl := List.singleton_inj.mp hinput
  exact hcolumns

theorem fits_aggregate {keys : List String} {calls : List (String × String)}
    (hop : n.operator = .aggregate keys calls) (hinput : n.inputs = [p]) : n.Fits c := by
  unfold Fits
  rw [hop]
  exact ⟨p, hinput, fun h => columns_of_madeForDistinct h hinput⟩

theorem Closed.distinctRows (h : Closed c p) (distinct : Bool) :
    Closed c (distinctRows p distinct) := by
  cases distinct with
  | false => exact h
  | true => exact closed_above h.sound (fits_aggregate rfl rfl) rfl rfl

theorem closed_projected (h : p.Sound c) (items : List Projected) (grouping : Grouping) :
    Closed c (projected c p items grouping) := by
  have hinputs : ∀ q ∈ [p], q.Sound c := fun q hq => List.mem_singleton.mp hq ▸ h
  unfold projected
  dsimp only
  split
  · refine ⟨sound_of_inputs ⟨⟨p, rfl⟩, ?_⟩ rfl hinputs, rfl⟩
    simp [Projected.written, Function.comp_def]
  · exact ⟨sound_of_inputs (fits_aggregate rfl rfl) rfl hinputs, rfl⟩

/-! ### Operators that may fail -/

theorem ends_findField (fields : List Field) (qualifier : Option String) (name : String) :
    Ends (fun _ => True) Error.Ordinary (findField fields qualifier name) := by
  unfold findField
  split
  · trivial
  · exact nofun
  · exact nofun

theorem ends_checkReferences (fields : List Field) (e : Expr) :
    Ends (fun _ => True) Error.Ordinary (checkReferences fields e) := by
  fun_induction checkReferences fields e with
  | case1 n => exact (ends_findField fields none n.text).map fun _ _ => trivial
  | case2 q n => exact (ends_findField fields (some q.text) n.text).map fun _ _ => trivial
  | case3 left op right ihleft ihright => exact ihleft.bind fun _ _ => ihright
  | case4 op operand ih => exact ih
  | case5 inner ih => exact ih
  | case6 operand ih => exact ih
  | case7 operand ih => exact ih
  | case8 e => trivial

theorem ends_project (fields : List Field) (index : Nat) (item : SelectItem) :
    Ends (fun _ => True) Error.Ordinary (project fields index item) := by
  cases item with
  | expr e => exact (ends_checkReferences fields e).bind fun _ _ => trivial
  | aliased e label => exact (ends_checkReferences fields e).bind fun _ _ => trivial
  | wildcard options => trivial
  | qualifiedWildcard qualifier options =>
      unfold project
      dsimp only
      split
      · exact nofun
      · trivial

theorem ends_projectAll (fields : List Field) (items : List SelectItem) (index : Nat) :
    Ends (fun _ => True) Error.Ordinary (projectAll fields index items) := by
  induction items generalizing index with
  | nil => trivial
  | cons item rest ih =>
      rw [projectAll]
      refine (ends_project fields index item).bind fun _ _ => ?_
      exact (ih (index + 1)).bind fun _ _ => trivial

theorem ends_joinCondition (fields : List Field) (counts : Bool) (constraint : Constraint) :
    Ends (fun _ => True) Error.Ordinary (joinCondition fields counts constraint) := by
  unfold joinCondition
  split
  · split
    · exact (ends_checkReferences fields _).bind fun _ _ => trivial
    · trivial
  · trivial

theorem ends_selected? (h : p.Sound c) (condition : Option Expr) :
    Ends (Sound c) Error.Ordinary (selected? p condition) := by
  cases condition with
  | none => exact h
  | some e =>
      refine (ends_checkReferences p.fields e).bind fun _ _ => ?_
      exact (closed_filter h e.written).sound

theorem ends_combined {left right : Plan} (hleft : left.Sound c) (hright : right.Sound c)
    (op : SetOperator) (quantifier : SetQuantifier) :
    Ends (Closed c) Error.Ordinary (combined op quantifier left right) := by
  unfold combined
  split
  · rename_i hlength
    refine ⟨sound_of_inputs ⟨left, right, rfl, ?_, ?_, ?_⟩ rfl fun q hq => ?_, rfl⟩
    · simp [columns, Field.unqualified, Field.column, Function.comp_def]
    · simp
    · simp [hlength]
    · rcases List.mem_cons.mp hq with rfl | hq
      · exact hleft
      · obtain rfl := List.mem_singleton.mp hq
        exact hright
  · exact nofun

theorem ends_valuesOf (rows : List (List Expr)) :
    Ends (Closed c) Error.Ordinary (valuesOf rows) := by
  cases rows with
  | nil => exact nofun
  | cons first rest => exact ⟨sound_of_inputs rfl rfl (fun _ hq => nomatch hq), rfl⟩

theorem ends_qualify (parts : List String) :
    Ends (fun _ => True) Error.Ordinary (c.qualify parts) := by
  unfold Catalog.qualify
  split <;> first | trivial | exact nofun

theorem ends_resolve (path : ObjectPath) :
    Ends (fun object => c.get? path = some object) Error.Ordinary (c.resolve path) := by
  unfold Catalog.resolve
  split
  · assumption
  · exact nofun

theorem ends_scanned (parts : List String) (visible : String) :
    Ends (Closed c) Error.Ordinary (scanned c parts visible) := by
  refine (ends_qualify parts).bind fun path _ => (ends_resolve path).bind fun object hget => ?_
  refine ⟨sound_of_inputs ⟨rfl, object, hget, ?_⟩ rfl (fun _ hq => nomatch hq), rfl⟩
  simp [columns, Field.column, Function.comp_def]

/-! ### Scopes -/

/-- The plans in scope are closed. -/
def AllClosed (c : Catalog) (scope : Scope) : Prop :=
  ∀ key p, scope.find? key = some p → Closed c p

theorem allClosed_nil : AllClosed c [] := by
  intro key p h
  cases h

theorem AllClosed.put (h : AllClosed c scope) (key : String) (hp : Closed c p) :
    AllClosed c (scope.put key p) := by
  intro key' p' hfind
  by_cases hkey : key = key'
  · rw [hkey, Keyed.find?_put_self] at hfind
    cases hfind
    exact hp
  · rw [Keyed.find?_put_of_ne hkey] at hfind
    exact h key' p' hfind

theorem ends_relation (h : AllClosed c scope) (parts : List String) (visible : String) :
    Ends (Closed c) Error.Ordinary (relation c scope parts visible) := by
  unfold relation
  split
  · split
    · rename_i hfind
      exact (h _ _ hfind).requalified visible
    · exact ends_scanned _ visible
  · exact ends_scanned _ visible

/-! ### Queries -/

mutual

theorem ends_ofQuery : ∀ (q : Query) {scope : Scope}, AllClosed c scope →
    Ends (Closed c) Error.Ordinary (ofQuery c scope q)
  | ⟨_, ctes, body, order, _, limit, offset, _, _, _, _⟩, scope, h => by
    rw [ofQuery]
    refine (ends_scopeOf ctes h).bind fun inner hinner => ?_
    refine (ends_ofBody body hinner).bind fun p hp => ?_
    exact hp.sorted order offset limit

theorem ends_scopeOf : ∀ (ctes : List Cte) {scope : Scope}, AllClosed c scope →
    Ends (AllClosed c) Error.Ordinary (scopeOf c scope ctes)
  | [], scope, h => by
    rw [scopeOf]
    exact h
  | ⟨label, query, _⟩ :: rest, scope, h => by
    rw [scopeOf]
    refine (ends_ofQuery query h).bind fun p hp => ?_
    exact ends_scopeOf rest (h.put _ (hp.requalified _))

theorem ends_ofBody : ∀ (b : Body) {scope : Scope}, AllClosed c scope →
    Ends (Closed c) Error.Ordinary (ofBody c scope b)
  | .select s, scope, h => by
    rw [ofBody]
    exact ends_ofSelect s h
  | .query q, scope, h => by
    rw [ofBody]
    exact ends_ofQuery q h
  | .setOperation op quantifier left right, scope, h => by
    rw [ofBody]
    refine (ends_ofBody left h).bind fun l hl => (ends_ofBody right h).bind fun r hr => ?_
    exact ends_combined hl.sound hr.sound op quantifier
  | .values _ rows, scope, h => by
    rw [ofBody]
    exact ends_valuesOf rows
  | .other pieces, scope, h => by
    rw [ofBody]
    exact nofun

theorem ends_ofSelect : ∀ (s : Select) {scope : Scope}, AllClosed c scope →
    Ends (Closed c) Error.Ordinary (ofSelect c scope s)
  | ⟨distinct, _, _, projection, _, sources, _, selection, grouping, _, having, _⟩, scope, h => by
    rw [ofSelect]
    refine (ends_ofSources sources h).bind fun source hsource => ?_
    refine (ends_selected? hsource selection).bind fun input hinput => ?_
    refine (ends_projectAll input.fields projection 0).bind fun items _ => ?_
    exact ((closed_projected hinput items grouping).filtered having).distinctRows distinct

theorem ends_ofSources : ∀ (sources : List From) {scope : Scope}, AllClosed c scope →
    Ends (Sound c) Error.Ordinary (ofSources c scope sources)
  | [], scope, h => by
    rw [ofSources]
    exact closed_singleRow.sound
  | first :: rest, scope, h => by
    rw [ofSources]
    exact (ends_ofFrom first h).bind fun p hp => ends_ofMoreSources rest h hp

theorem ends_ofMoreSources : ∀ (sources : List From) {scope : Scope} {left : Plan},
    AllClosed c scope → left.Sound c →
    Ends (Sound c) Error.Ordinary (ofMoreSources c scope left sources)
  | [], scope, left, h, hleft => by
    rw [ofMoreSources]
    exact hleft
  | item :: rest, scope, left, h, hleft => by
    rw [ofMoreSources]
    refine (ends_ofFrom item h).bind fun right hright => ?_
    exact ends_ofMoreSources rest h (sound_joined hleft hright .inner none)

theorem ends_ofFrom : ∀ (item : From) {scope : Scope}, AllClosed c scope →
    Ends (Sound c) Error.Ordinary (ofFrom c scope item)
  | ⟨factor, joins⟩, scope, h => by
    rw [ofFrom]
    exact (ends_ofFactor factor h).bind fun p hp => ends_ofJoins joins h hp

theorem ends_ofJoins : ∀ (joins : List Join) {scope : Scope} {left : Plan},
    AllClosed c scope → left.Sound c →
    Ends (Sound c) Error.Ordinary (ofJoins c scope left joins)
  | [], scope, left, h, hleft => by
    rw [ofJoins]
    exact hleft
  | ⟨_, kind, factor, _, constraint⟩ :: rest, scope, left, h, hleft => by
    rw [ofJoins]
    refine (ends_ofFactor factor h).bind fun right hright => ?_
    refine (ends_joinCondition _ _ constraint).bind fun condition _ => ?_
    exact ends_ofJoins rest h (sound_joined hleft hright _ condition)

theorem ends_ofFactor : ∀ (factor : Factor) {scope : Scope}, AllClosed c scope →
    Ends (Sound c) Error.Ordinary (ofFactor c scope factor)
  | .table name _ label _, scope, h => by
    unfold ofFactor
    exact (ends_relation h _ _).imp fun p hp => hp.sound
  | .derived _ query label, scope, h => by
    rw [ofFactor]
    refine (ends_ofQuery query h).bind fun p hp => ?_
    cases label with
    | none => exact hp.sound
    | some a => exact (hp.requalified a.name.text).sound
  | .nested inner _, scope, h => by
    rw [ofFactor]
    exact ends_ofFrom inner h
  | .other pieces label tail, scope, h => by
    rw [ofFactor]
    exact nofun

end

/-! ### Insertions and statements -/

/-- Every node fits, and the root writes if and only if the plan is that of an insertion. -/
structure WellFormed (c : Catalog) (insertion : Bool) (p : Plan) : Prop where
  fits : ∀ n ∈ p.nodes, n.Fits c
  root : p.isSink = insertion
  /-- No node below the root writes. -/
  below : ∀ q ∈ p.inputs, ∀ n ∈ q.nodes, n.isSink = false

theorem Sound.wellFormed (h : p.Sound c) : p.WellFormed c false :=
  ⟨fun n hn => (h n hn).1, h.notSink, fun _ hq n hn => (h.of_mem_inputs hq n hn).2⟩

theorem ends_targetColumns (path : ObjectPath) :
    Ends (fun columns => ∃ options, c.get? path = some (.table columns options)) Error.Ordinary
      (targetColumns c path) := by
  refine (ends_resolve path).bind fun object hget => ?_
  cases object with
  | table columns options => exact ⟨options, hget⟩
  | view columns query => exact nofun

/-- What an insertion fills are columns of the table. -/
theorem ends_targets (path : ObjectPath) (columns : List Column) (named : List Name) :
    Ends (fun fields => ∀ name ∈ fields, name ∈ columns.map (·.name)) Error.Ordinary
      (targets path columns named) := by
  unfold targets
  split
  · exact fun name hname => hname
  · refine Ends.mapM fun named _ => ?_
    split
    · rename_i column hfind
      exact List.mem_map_of_mem (List.mem_of_find?_eq_some hfind)
    · exact nofun

theorem ends_ofInsert (i : Insert) : Ends (WellFormed c true) Error.Ordinary (ofInsert c i) := by
  unfold ofInsert
  refine (ends_qualify _).bind fun path _ => (ends_targetColumns path).bind fun columns htable => ?_
  split
  · exact nofun
  · rename_i source _
    refine (ends_ofQuery source allClosed_nil).bind fun input hinput => ?_
    refine (ends_targets path columns i.columns).bind fun fields hfields => ?_
    split
    · rename_i hlength
      obtain ⟨options, hget⟩ := htable
      refine ⟨fun n hn => ?_, rfl, fun q hq n hn => ?_⟩
      · rcases mem_nodes.mp hn with rfl | ⟨q, hq, hmem⟩
        · exact ⟨input, columns, options, rfl, hget, hlength, hfields⟩
        · obtain rfl := List.mem_singleton.mp hq
          exact (hinput.sound n hmem).1
      · obtain rfl := List.mem_singleton.mp hq
        exact (hinput.sound n hn).2
    · exact nofun

end Plan

/-- The statement puts rows into a table. -/
def Sql.Statement.isInsertion : Statement → Bool
  | .insert _ => true
  | _ => false

namespace Plan

/-- A plan of a statement is well formed, and a statement without one is refused for a reason. -/
theorem ends_ofStatement (c : Catalog) (s : Statement) :
    Ends (fun plan => ∀ p, plan = some p → p.WellFormed c s.isInsertion) Error.Ordinary
      (ofStatement c s) := by
  cases s with
  | query q =>
      refine (ends_ofQuery q allClosed_nil).map fun p hp => ?_
      rintro _ ⟨rfl⟩
      exact hp.sound.wellFormed
  | insert i =>
      refine (ends_ofInsert i).map fun p hp => ?_
      rintro _ ⟨rfl⟩
      exact hp
  | _ => exact nofun

end Plan
end Stencil
