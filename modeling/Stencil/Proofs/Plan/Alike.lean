/-
Two statements planned side by side.

A relation between plans carries over from the parts of two statements to the statements if
related plans have the same fields, because fields are all that planning looks at in a plan, and
if the operators keep it.  These are the steps of planning for which nothing else is needed: a name
is looked up, two sets of rows are combined, and the rows of a query are put into a table.
-/
import Stencil.Proofs.Plan.Resolution

namespace Stencil.Plan

open Sql

variable {c : Catalog} {scope scope' : Scope} {left left' right right' : Plan}
  {R : Plan → Plan → Prop}

/-- In scopes with related plans a name stands for related plans. -/
theorem alike_relation (hrefl : ∀ p, R p p)
    (hname : ∀ {p p' : Plan}, R p p' → ∀ name, R (p.requalified name) (p'.requalified name))
    (h : Keyed.Related R scope scope') (parts : List String) (visible : String) :
    Alike R (relation c scope parts visible) (relation c scope' parts visible) := by
  rcases parts with _ | ⟨single, _ | ⟨second, rest⟩⟩
  · exact .refl hrefl (scanned c [] visible)
  · cases hfind : scope.find? (Text.lower single) with
    | none =>
        rw [relation_of_none hfind, relation_of_none (h.of_none hfind)]
        exact .refl hrefl _
    | some q =>
        obtain ⟨q', hfind', hq⟩ := h.of_some hfind
        rw [relation_of_some hfind, relation_of_some hfind']
        exact .ok (hname hq visible)
  · exact .refl hrefl (scanned c (single :: second :: rest) visible)

theorem alike_combined (hleft : left.fields = left'.fields) (hright : right.fields = right'.fields)
    (hcombine : ∀ how all fields,
      R ⟨.combine how all, [left, right], fields⟩ ⟨.combine how all, [left', right'], fields⟩)
    (op : SetOperator) (quantifier : SetQuantifier) :
    Alike R (combined op quantifier left right) (combined op quantifier left' right') := by
  unfold combined
  rw [hleft, hright]
  by_cases hlength : left'.fields.length = right'.fields.length
  · rw [if_pos hlength, if_pos hlength]
    exact .ok (hcombine _ _ _)
  · rw [if_neg hlength, if_neg hlength]
    exact .error _

/-- Of two insertions into the same columns only the queries count. -/
theorem alike_ofInsert {i i' : Insert} (htable : i.table = i'.table)
    (hcolumns : i.columns = i'.columns) (hfields : ∀ {p p'}, R p p' → p.fields = p'.fields)
    (hsink : ∀ {p p'}, R p p' → ∀ path fields,
      R (p.above (.sink path fields)) (p'.above (.sink path fields)))
    (hsource : Option.Rel (fun q q' => Alike R (ofQuery c [] q) (ofQuery c [] q'))
      i.source i'.source) :
    Alike R (ofInsert c i) (ofInsert c i') := by
  unfold ofInsert
  rw [htable, hcolumns]
  refine (Alike.refl Eq.refl _).bind fun path path' hpath => ?_
  rw [hpath]
  refine (Alike.refl Eq.refl _).bind fun columns columns' hcolumns => ?_
  rw [hcolumns]
  generalize i.source = source at hsource
  generalize i'.source = source' at hsource
  cases hsource with
  | none => exact .error _
  | some hquery =>
      refine hquery.bind fun input input' hinput => ?_
      refine (Alike.refl Eq.refl _).bind fun fields fields' hnames => ?_
      rw [hnames, hfields hinput]
      by_cases hlength : fields'.length = input'.fields.length
      · rw [if_pos hlength, if_pos hlength]
        exact .ok (hsink hinput path' fields')
      · rw [if_neg hlength, if_neg hlength]
        exact .error _

end Stencil.Plan
