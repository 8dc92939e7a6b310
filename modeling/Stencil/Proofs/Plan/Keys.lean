/-
Keys that rows are grouped and ordered by.

Keys go into a plan as they are written, and nothing else is done with them.  So a statement
is planned side by side with the same statement without keys: the two plans have the same
fields at every place, and fields are all that is looked at (`alike_ofQuery`).  A reference
that is a key is therefore not looked up, while the same reference in the select list is.
-/
import Stencil.Proofs.Plan.Alike
import Stencil.Proofs.Plan.Selection
import Stencil.Proofs.Sql.Keys

namespace Stencil.Plan

open Sql

variable {c : Catalog} {scope scope' : Scope} {left left' p p' right right' source : Plan}
  {s : Select}

/-! ### Plans with the same fields -/

/-- The plans yield the same fields. -/
def SameFields (p p' : Plan) : Prop := p.fields = p'.fields

theorem SameFields.refl (p : Plan) : SameFields p p := rfl

theorem SameFields.columns (h : SameFields p p') : p.columns = p'.columns :=
  congrArg (List.map Field.column) h

theorem SameFields.requalified (h : SameFields p p') (name : String) :
    SameFields (p.requalified name) (p'.requalified name) :=
  congrArg (List.map (Field.requalified name)) h

theorem SameFields.joined (hleft : SameFields left left') (hright : SameFields right right')
    (mode : JoinMode) (condition : Option String) :
    SameFields (joined left right mode condition) (joined left' right' mode condition) :=
  congrArg₂ List.append hleft hright

theorem SameFields.sorted (h : SameFields p p') (order order' : List OrderKey)
    (offset limit : Option Expr) :
    SameFields (sorted p order offset limit) (sorted p' order' offset limit) := by
  unfold SameFields
  rw [fields_sorted, fields_sorted]
  exact h

/-- How the rows are grouped does not show in the fields. -/
theorem SameFields.overInput (h : SameFields p p') (items : List Projected)
    (grouping grouping' : Grouping) (having : Option Expr) (distinct : Bool) :
    SameFields (distinctRows (filtered (projected c p items grouping) having) distinct)
      (distinctRows (filtered (projected c p' items grouping') having) distinct) := by
  unfold SameFields at h ⊢
  rw [fields_distinctRows, fields_filtered, fields_projected, fields_distinctRows,
    fields_filtered, fields_projected, h]

theorem alike_selected? (h : SameFields p p') (condition : Option Expr) :
    Alike SameFields (selected? p condition) (selected? p' condition) := by
  cases condition with
  | none => exact .ok h
  | some e =>
      rw [selected?, selected?, show p.fields = p'.fields from h]
      exact (Alike.refl Eq.refl _).bind fun _ _ _ => .ok h

/-! ### Planning with keys and without -/

mutual

theorem alike_ofQuery : ∀ (q : Query) {scope scope' : Scope},
    Keyed.Related SameFields scope scope' →
      Alike SameFields (ofQuery c scope q) (ofQuery c scope' q.keyless)
  | ⟨_, ctes, body, order, _, limit, offset, _, _, _, _⟩, scope, scope', h => by
    rw [Query.keyless, ofQuery, ofQuery]
    refine (alike_scopeOf ctes h).bind fun inner inner' hinner => ?_
    exact (alike_ofBody body hinner).bind fun p p' hp => .ok (hp.sorted order [] offset limit)

theorem alike_scopeOf : ∀ (ctes : List Cte) {scope scope' : Scope},
    Keyed.Related SameFields scope scope' →
      Alike (Keyed.Related SameFields) (scopeOf c scope ctes) (scopeOf c scope' (keylessCtes ctes))
  | [], scope, scope', h => by
    rw [keylessCtes, scopeOf, scopeOf]
    exact .ok h
  | ⟨label, query, _⟩ :: rest, scope, scope', h => by
    rw [keylessCtes, scopeOf, scopeOf]
    refine (alike_ofQuery query h).bind fun p p' hp => ?_
    exact alike_scopeOf rest (h.put _ (hp.requalified label.name.text))

theorem alike_ofBody : ∀ (b : Body) {scope scope' : Scope},
    Keyed.Related SameFields scope scope' →
      Alike SameFields (ofBody c scope b) (ofBody c scope' b.keyless)
  | .select s, scope, scope', h => by
    rw [Body.keyless, ofBody, ofBody]
    exact alike_ofSelect s h
  | .query q, scope, scope', h => by
    rw [Body.keyless, ofBody, ofBody]
    exact alike_ofQuery q h
  | .setOperation op quantifier left right, scope, scope', h => by
    rw [Body.keyless, ofBody, ofBody]
    refine (alike_ofBody left h).bind fun l l' hl => ?_
    refine (alike_ofBody right h).bind fun r r' hr => ?_
    exact alike_combined hl hr (fun _ _ _ => rfl) op quantifier
  | .values _ rows, scope, scope', h => by
    rw [Body.keyless, ofBody, ofBody]
    exact .refl SameFields.refl _
  | .other pieces, scope, scope', h => by
    rw [Body.keyless, ofBody, ofBody]
    exact .error _

theorem alike_ofSelect : ∀ (s : Select) {scope scope' : Scope},
    Keyed.Related SameFields scope scope' →
      Alike SameFields (ofSelect c scope s) (ofSelect c scope' s.keyless)
  | ⟨distinct, _, _, projection, _, sources, _, selection, grouping, _, having, _⟩, scope, scope',
      h => by
    rw [Select.keyless, ofSelect, ofSelect]
    refine (alike_ofSources sources h).bind fun source source' hsource => ?_
    refine (alike_selected? hsource selection).bind fun input input' hinput => ?_
    -- Items are looked for in the fields alone, so they are the same on both sides.
    rw [show input.fields = input'.fields from hinput]
    refine (Alike.refl Eq.refl _).bind fun items items' hitems => .ok ?_
    rw [hitems]
    exact hinput.overInput items' grouping (.keys [] "") having distinct

theorem alike_ofSources : ∀ (sources : List From) {scope scope' : Scope},
    Keyed.Related SameFields scope scope' →
      Alike SameFields (ofSources c scope sources) (ofSources c scope' (keylessSources sources))
  | [], scope, scope', h => by
    rw [keylessSources, ofSources, ofSources]
    exact .refl SameFields.refl _
  | first :: rest, scope, scope', h => by
    rw [keylessSources, ofSources, ofSources]
    exact (alike_ofFrom first h).bind fun p p' hp => alike_ofMoreSources rest h hp

theorem alike_ofMoreSources : ∀ (sources : List From) {scope scope' : Scope} {left left' : Plan},
    Keyed.Related SameFields scope scope' → SameFields left left' →
      Alike SameFields (ofMoreSources c scope left sources)
        (ofMoreSources c scope' left' (keylessSources sources))
  | [], scope, scope', left, left', h, hleft => by
    rw [keylessSources, ofMoreSources, ofMoreSources]
    exact .ok hleft
  | item :: rest, scope, scope', left, left', h, hleft => by
    rw [keylessSources, ofMoreSources, ofMoreSources]
    refine (alike_ofFrom item h).bind fun right right' hright => ?_
    exact alike_ofMoreSources rest h (hleft.joined hright .inner none)

theorem alike_ofFrom : ∀ (item : From) {scope scope' : Scope},
    Keyed.Related SameFields scope scope' →
      Alike SameFields (ofFrom c scope item) (ofFrom c scope' item.keyless)
  | ⟨factor, joins⟩, scope, scope', h => by
    rw [From.keyless, ofFrom, ofFrom]
    exact (alike_ofFactor factor h).bind fun p p' hp => alike_ofJoins joins h hp

theorem alike_ofJoins : ∀ (joins : List Join) {scope scope' : Scope} {left left' : Plan},
    Keyed.Related SameFields scope scope' → SameFields left left' →
      Alike SameFields (ofJoins c scope left joins) (ofJoins c scope' left' (keylessJoins joins))
  | [], scope, scope', left, left', h, hleft => by
    rw [keylessJoins, ofJoins, ofJoins]
    exact .ok hleft
  | ⟨_, kind, factor, _, constraint⟩ :: rest, scope, scope', left, left', h, hleft => by
    rw [keylessJoins, ofJoins, ofJoins]
    refine (alike_ofFactor factor h).bind fun right right' hright => ?_
    rw [show left.fields ++ right.fields = left'.fields ++ right'.fields from
      congrArg₂ List.append hleft hright]
    refine (Alike.refl Eq.refl _).bind fun condition condition' hcondition => ?_
    rw [hcondition]
    exact alike_ofJoins rest h (hleft.joined hright _ condition')

theorem alike_ofFactor : ∀ (factor : Factor) {scope scope' : Scope},
    Keyed.Related SameFields scope scope' →
      Alike SameFields (ofFactor c scope factor) (ofFactor c scope' factor.keyless)
  | .table name _ label _, scope, scope', h => by
    rw [Factor.keyless]
    unfold ofFactor
    exact alike_relation SameFields.refl SameFields.requalified h _ _
  | .derived _ query label, scope, scope', h => by
    rw [Factor.keyless, ofFactor, ofFactor]
    refine (alike_ofQuery query h).bind fun p p' hp => .ok ?_
    cases label with
    | none => exact hp
    | some a => exact hp.requalified a.name.text
  | .nested inner _, scope, scope', h => by
    rw [Factor.keyless, ofFactor, ofFactor]
    exact alike_ofFrom inner h
  | .other pieces label tail, scope, scope', h => by
    rw [Factor.keyless, ofFactor, ofFactor]
    exact .error _

end

theorem related_self (scope : Scope) : Keyed.Related SameFields scope scope := by
  intro key
  cases scope.find? key with
  | none => exact .none
  | some p => exact .some (SameFields.refl p)

theorem alike_ofInsert_keyless (i : Insert) :
    Alike SameFields (ofInsert c i)
      (ofInsert c { i with source := i.source.map Query.keyless }) := by
  refine alike_ofInsert rfl rfl id (fun h _ _ => h) ?_
  cases i.source with
  | none => exact .none
  | some q => exact .some (alike_ofQuery q (related_self []))

theorem columns_ofQuery_keyless (q : Query) :
    columns <$> ofQuery c scope q = columns <$> ofQuery c scope q.keyless :=
  (alike_ofQuery q (related_self scope)).map_eq fun _ _ hp => hp.columns

theorem columns_ofSelect_keyless (s : Select) :
    columns <$> ofSelect c scope s = columns <$> ofSelect c scope s.keyless :=
  (alike_ofSelect s (related_self scope)).map_eq fun _ _ hp => hp.columns

/-- **Keys do not matter for what a statement yields.**  Without them it is refused with the same
error, or accepted with the same columns. -/
theorem columns_ofStatement_keyless (c : Catalog) (s : Statement) :
    Option.map columns <$> ofStatement c s = Option.map columns <$> ofStatement c s.keyless := by
  have hsome : ∀ {x y : Except Error Plan}, Alike SameFields x y →
      Option.map columns <$> some <$> x = Option.map columns <$> some <$> y := by
    intro x y h
    rw [← comp_map, ← comp_map]
    exact h.map_eq fun _ _ hp => congrArg some hp.columns
  cases s with
  | query q => exact hsome (alike_ofQuery q (related_self []))
  | insert i => exact hsome (alike_ofInsert_keyless i)
  | _ => rfl

/-! ### Other keys -/

theorem nodes_subset_above (p : Plan) (op : Operator) : p.nodes ⊆ (p.above op).nodes :=
  fun _ hn => mem_nodes.mpr (.inr ⟨p, List.mem_singleton_self p, hn⟩)

theorem nodes_subset_filtered (p : Plan) (condition : Option Expr) :
    p.nodes ⊆ (filtered p condition).nodes := by
  cases condition with
  | none => exact List.Subset.refl _
  | some e => exact nodes_subset_above p _

theorem nodes_subset_distinctRows (p : Plan) (distinct : Bool) :
    p.nodes ⊆ (distinctRows p distinct).nodes := by
  cases distinct with
  | false => exact List.Subset.refl _
  | true => exact nodes_subset_above p _

/-- The keys that a query is ordered by are written into its plan. -/
theorem operator_of_ofQuery {q : Query} (h : ofQuery c scope q = .ok p) (horder : q.order ≠ []) :
    ∃ offset limit, p.operator = .sort (q.order.map sortKey) offset limit := by
  obtain ⟨_, ctes, body, order, _, limit, offset, _, _, _, _⟩ := q
  rw [ofQuery] at h
  obtain ⟨inner, -, h⟩ := bind_eq_ok.mp h
  obtain ⟨r, -, h⟩ := bind_eq_ok.mp h
  cases h
  refine ⟨offset.map Expr.written, limit.map Expr.written, ?_⟩
  unfold sorted
  rw [if_neg (by simp [horder])]
  rfl

/-- The keys that a selection is grouped by are written into its plan. -/
theorem exists_node_of_ofSelect (h : ofSelect c scope s = .ok p) {keys : List Expr}
    {modifiers : String} (hgrouping : s.grouping = .keys keys modifiers) (hkeys : keys ≠ []) :
    ∃ n ∈ p.nodes, ∃ calls, n.operator = .aggregate (keys.map Expr.written) calls := by
  obtain ⟨input, items, -, -, rfl⟩ := ofSelect_eq_ok h
  refine ⟨projected c input items s.grouping, ?_,
    (items.filter fun item => isAggregate c item.expr).map Projected.written, ?_⟩
  · refine nodes_subset_distinctRows _ _ (nodes_subset_filtered _ _ ?_)
    exact mem_nodes.mpr (.inl rfl)
  · rw [hgrouping]
    unfold projected groupKeys
    dsimp only
    rw [if_neg (by simp [hkeys])]

/-- A query that is accepted is accepted in any order. -/
theorem exists_ofQuery_orderedBy {q : Query} (h : ofQuery c scope q = .ok p)
    (keys : List OrderKey) :
    ∃ p', ofQuery c scope (q.orderedBy keys) = .ok p' ∧ p'.columns = p.columns := by
  refine map_eq_ok.mp ?_
  rw [columns_ofQuery_keyless, Query.keyless_orderedBy, ← columns_ofQuery_keyless, h]
  rfl

/-- A selection that is accepted is accepted with any grouping. -/
theorem exists_ofSelect_groupedBy (h : ofSelect c scope s = .ok p) (keys : List Expr)
    (modifiers : String) :
    ∃ p', ofSelect c scope (s.groupedBy keys modifiers) = .ok p' ∧ p'.columns = p.columns := by
  refine map_eq_ok.mp ?_
  rw [columns_ofSelect_keyless, Select.keyless_groupedBy, ← columns_ofSelect_keyless, h]
  rfl

/-! ### The same references in the select list -/

/-- What a key may refer to: exactly one field of the sources, or a column that is yielded. -/
def Reference.Known (source columns : List Field) (ref : Reference) : Prop :=
  (∃ f, ref.Means source f) ∨ ∃ f ∈ columns, ref.Meets f

theorem references_alsoSelecting {e : Expr} {ref : Reference} (href : reference? e = some ref) :
    (checked (s.alsoSelecting e)).flatMap references = (checked s).flatMap references ++ [ref] := by
  simp [checked, Select.alsoSelecting, SelectItem.expr?, references_of_reference? href]

section

variable (hsource : ofSources c scope s.sources = .ok source) (h : ofSelect c scope s = .ok p)
  {e : Expr} {ref : Reference} (href : reference? e = some ref)
include hsource h href

/-- One more reference in the select list of an accepted selection is all that may be wrong. -/
theorem ofSelect_alsoSelecting_eq_error_iff {error : Error} :
    ofSelect c scope (s.alsoSelecting e) = .error error ↔ ref.Complaint source.fields error := by
  have hstars := starMeets_of_ofSelect hsource h
  obtain ⟨hmeans, -⟩ := (ofSelect_eq_ok_iff hsource hstars).mp h
  have hstars' : ∀ item ∈ (s.alsoSelecting e).projection, StarMeets source.fields item :=
    List.forall_mem_append.mpr ⟨hstars, List.forall_mem_singleton.mpr trivial⟩
  rw [ofSelect_eq_error_iff (s := s.alsoSelecting e) hsource hstars', references_alsoSelecting href]
  constructor
  · -- The other references mean a field, because the selection is accepted without this one.
    rintro ⟨before, ref', after, hrefs, -, hcomplaint⟩
    have hmem : ref' ∈ (checked s).flatMap references ++ [ref] := by simp [hrefs]
    rcases List.mem_append.mp hmem with hmem | hmem
    · exact absurd (hmeans ref' hmem) (exists_complaint_iff.mp ⟨error, hcomplaint⟩)
    · rw [← List.mem_singleton.mp hmem]
      exact hcomplaint
  · intro hcomplaint
    exact ⟨(checked s).flatMap references, ref, [], rfl, hmeans, hcomplaint⟩

/-- A reference means a field of the sources if and only if it can be selected as well. -/
theorem exists_ofSelect_alsoSelecting_iff :
    (∃ q, ofSelect c scope (s.alsoSelecting e) = .ok q) ↔ ∃ f, ref.Means source.fields f := by
  rw [← not_iff_not, ← exists_complaint_iff]
  simp only [← ofSelect_alsoSelecting_eq_error_iff hsource h href]
  cases ofSelect c scope (s.alsoSelecting e) with
  | error error => simp
  | ok q => simp

end

/--
**Keys are not checked.**  Two statements that differ in nothing but what they are grouped and
ordered by, at whatever depth, are refused with the same error or accepted with the same columns.
An accepted query is accepted in any order, and an accepted selection with any grouping, and the
keys are written into the plan as they stand.  But a reference that is a key is one that a key
may refer to if and only if the selection is accepted with the reference in its select list as
well, or some column has its name; and in the select list it is refused with what is to be said
of a reference that does not mean exactly one field of the sources.
-/
theorem keys_unchecked (c : Catalog) :
    (∀ s s' : Statement, s.keyless = s'.keyless →
        Option.map columns <$> ofStatement c s = Option.map columns <$> ofStatement c s')
      ∧ (∀ scope q p, ofQuery c scope q = .ok p → ∀ keys : List OrderKey, keys ≠ [] →
          ∃ p', ofQuery c scope (q.orderedBy keys) = .ok p' ∧ p'.columns = p.columns
            ∧ ∃ offset limit, p'.operator = .sort (keys.map sortKey) offset limit)
      ∧ ∀ scope s source p, ofSources c scope s.sources = .ok source → ofSelect c scope s = .ok p →
          (∀ (keys : List Expr) modifiers, keys ≠ [] →
            ∃ p', ofSelect c scope (s.groupedBy keys modifiers) = .ok p' ∧ p'.columns = p.columns
              ∧ ∃ n ∈ p'.nodes, ∃ calls, n.operator = .aggregate (keys.map Expr.written) calls)
          ∧ ∀ e ref, reference? e = some ref →
            (ref.Known source.fields p.fields
                ↔ (∃ q, ofSelect c scope (s.alsoSelecting e) = .ok q)
                  ∨ ∃ f ∈ p.fields, ref.Meets f)
              ∧ ∀ error, ofSelect c scope (s.alsoSelecting e) = .error error
                ↔ ref.Complaint source.fields error := by
  refine ⟨fun s s' hkeyless => ?_, fun scope q p h keys hkeys => ?_,
    fun scope s source p hsource h => ⟨?_, fun e ref href => ⟨?_, fun error => ?_⟩⟩⟩
  · rw [columns_ofStatement_keyless, hkeyless, ← columns_ofStatement_keyless]
  · obtain ⟨p', hp', hcolumns⟩ := exists_ofQuery_orderedBy h keys
    exact ⟨p', hp', hcolumns, operator_of_ofQuery hp' hkeys⟩
  · intro keys modifiers hkeys
    obtain ⟨p', hp', hcolumns⟩ := exists_ofSelect_groupedBy h keys modifiers
    exact ⟨p', hp', hcolumns, exists_node_of_ofSelect hp' rfl hkeys⟩
  · rw [exists_ofSelect_alsoSelecting_iff hsource h href]
    exact Iff.rfl
  · exact ofSelect_alsoSelecting_eq_error_iff hsource h href

/-- The column of the table `a`. -/
def columnI : Expr := .name (.plain "i")

/-- A column that no table has. -/
def columnNope : Expr := .name (.plain "nope")

/-- The rows of a selection from another one. -/
def rowsFrom (s : Select) : Statement :=
  .query (plainly (.select ⟨false, [], [], [.wildcard []], "",
    [⟨.derived false (plainly (.select s)) none, []⟩], [], none, .keys [] "", [], none, []⟩))

/-- In a derived table a key that is no column changes nothing, and a key may be a column that is
not selected. -/
theorem keys_unchecked_derived :
    (rowsFrom ((selecting false columnI).groupedBy [columnNope] "")).written
        = "SELECT * FROM (SELECT i FROM a GROUP BY nope)"
      ∧ Option.map columns <$> ofStatement tableA
          (rowsFrom ((selecting false columnI).groupedBy [columnNope] ""))
        = .ok (some [⟨"i", "INT"⟩])
      ∧ (∃ p, ofQuery tableA [] ((plainly (.select (selecting false columnI))).orderedBy
          [⟨columnNope, none, []⟩]) = .ok p ∧ p.columns = [⟨"i", "INT"⟩])
      ∧ (∃ p, ofSelect tableA [] ((selecting false (number "1")).groupedBy [columnNope] "") = .ok p
          ∧ ∃ n ∈ p.nodes, ∃ calls, n.operator = .aggregate ["nope"] calls)
      ∧ Reference.Known [⟨some "a", "i", "INT"⟩] [⟨none, "EXPR$0", "INT"⟩] ⟨some "A", "I"⟩ := by
  obtain ⟨hkeyless, horder, hselect⟩ := keys_unchecked tableA
  refine ⟨by decide +kernel, ?_, ?_, ?_, ?_⟩
  · have hsame := hkeyless (rowsFrom ((selecting false columnI).groupedBy [columnNope] ""))
      (rowsFrom (selecting false columnI)) rfl
    rw [hsame]
    rfl
  · obtain ⟨p, hp, hcolumns, -⟩ := horder [] (plainly (.select (selecting false columnI))) _ rfl
      [⟨columnNope, none, []⟩] (by simp)
    exact ⟨p, hp, hcolumns⟩
  · obtain ⟨p, hp, -, hnode⟩ :=
      (hselect [] (selecting false (number "1")) _ _ rfl rfl).1 [columnNope] "" (by simp)
    exact ⟨p, hp, hnode⟩
  · obtain ⟨-, hknown⟩ := hselect [] (selecting false (number "1")) _ _ rfl rfl
    exact (hknown (.qualified [.plain "A", .plain "I"]) ⟨some "A", "I"⟩ rfl).1.mpr (.inl ⟨_, rfl⟩)

/-- A column that no table has is taken for a key to order or to group by, but not for an item. -/
theorem keys_unchecked_dangling :
    ((plainly (.select (selecting false columnI))).orderedBy [⟨columnNope, none, []⟩]).written
        = "SELECT i FROM a ORDER BY nope"
      ∧ ((selecting false columnI).groupedBy [columnNope] "").written
        = "SELECT i FROM a GROUP BY nope"
      ∧ ∃ source p q,
        ofSources tableA [] (selecting false columnI).sources = .ok source
          ∧ ofQuery tableA [] ((plainly (.select (selecting false columnI))).orderedBy
              [⟨columnNope, none, []⟩]) = .ok p
          ∧ p.operator = .sort ["nope ASC"] none none
          ∧ ofSelect tableA [] ((selecting false columnI).groupedBy [columnNope] "") = .ok q
          ∧ q.operator = .aggregate ["nope"] []
          ∧ ¬ Reference.Known source.fields p.fields ⟨none, "nope"⟩
          ∧ ¬ Reference.Known source.fields q.fields ⟨none, "nope"⟩
          ∧ ofSelect tableA [] (selecting false columnNope) = .error (.unknownColumn "nope") := by
  have hunknown : ∀ source columns : List Field, (∀ f ∈ source ++ columns, f.name = "i") →
      ¬ Reference.Known source columns ⟨none, "nope"⟩ := by
    intro source columns hnames hknown
    obtain ⟨f, hf, hsame, -⟩ : ∃ f ∈ source ++ columns, Reference.Meets ⟨none, "nope"⟩ f := by
      rcases hknown with ⟨f, before, after, hfields, hmeets, -⟩ | ⟨f, hf, hmeets⟩
      · exact ⟨f, by simp [hfields], hmeets⟩
      · exact ⟨f, List.mem_append_right _ hf, hmeets⟩
    rw [hnames f hf] at hsame
    exact absurd hsame (by decide +kernel)
  refine ⟨by decide +kernel, by decide +kernel, _, _, _, rfl, rfl, rfl, rfl, rfl, ?_, ?_, rfl⟩
  · exact hunknown [⟨some "a", "i", "INT"⟩] [⟨none, "i", "INT"⟩] (by decide)
  · exact hunknown [⟨some "a", "i", "INT"⟩] [⟨none, "i", "INT"⟩] (by decide)

end Stencil.Plan
