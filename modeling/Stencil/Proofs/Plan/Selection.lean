/-
The columns that a selection refers to.

A selection is checked for the references of its condition, and then for those of its select
list, item by item; in between wildcards are expanded, and nothing of that fails if their
qualifiers are those of fields.  So a selection is planned as checking a list of references,
followed by a plan that is found in any case (`ofSelect_eq`).  What is reported, and for which
reference, is read off the list.  Types are looked for a second time, by another walk over the
expression, but for a reference that walk finds the field that was found before.
-/
import Stencil.Proofs.Plan.Folding
import Stencil.Proofs.Plan.Reference

namespace Stencil.Plan

open Sql

variable {c : Catalog} {scope : Scope} {s : Select} {fields : List Field} {p source : Plan}

/-! ### What is checked -/

/-- The expressions whose references are checked: the condition, then the items of the select
list that are no wildcards. -/
def checked (s : Select) : List Expr :=
  s.selection.toList ++ s.projection.flatMap fun item => item.expr?.toList

/-- References are looked up one after the other. -/
def lookUpAll (fields : List Field) (refs : List Reference) : Except Error Unit :=
  forM refs fun ref => (ref.field fields).map fun _ => ()

/-- The name that a wildcard is qualified by. -/
def starName (qualifier : QualifiedName) : String := (qualifier.getLast?.map (·.text)).getD ""

/-- The wildcard has no qualifier, or that of some field. -/
def StarMeets (fields : List Field) : SelectItem → Prop
  | .qualifiedWildcard qualifier _ => ∃ f ∈ fields, isUnder (starName qualifier) f = true
  | _ => True

/-! ### What items stand for -/

/-- The items that an item of a select list stands for, be its references checked or not. -/
def expansion (fields : List Field) (index : Nat) : SelectItem → List Projected
  | .expr e => [⟨fieldName index e, e, none⟩]
  | .aliased e label => [⟨label.text, e, none⟩]
  | .wildcard _ => fields.map .ofField
  | .qualifiedWildcard qualifier _ => (fields.filter (isUnder (starName qualifier))).map .ofField

/-- The items that a select list stands for; the first item has place `index`. -/
def expansions (fields : List Field) (index : Nat) : List SelectItem → List Projected
  | [] => []
  | item :: rest => expansion fields index item ++ expansions fields (index + 1) rest

/-- The number of fields that an item of a select list stands for. -/
def width (fields : List Field) : SelectItem → Nat
  | .expr _ | .aliased _ _ => 1
  | .wildcard _ => fields.length
  | .qualifiedWildcard qualifier _ => (fields.filter (isUnder (starName qualifier))).length

/-- The number of fields that a select list stands for. -/
def widthOf (fields : List Field) : List SelectItem → Nat
  | [] => 0
  | item :: rest => width fields item + widthOf fields rest

theorem length_expansion (fields : List Field) (index : Nat) (item : SelectItem) :
    (expansion fields index item).length = width fields item := by
  cases item <;> simp [expansion, width]

theorem length_expansions (fields : List Field) (items : List SelectItem) (index : Nat) :
    (expansions fields index items).length = widthOf fields items := by
  induction items generalizing index with
  | nil => rfl
  | cons item rest ih => rw [expansions, List.length_append, length_expansion, ih, widthOf]

theorem expansions_append (fields : List Field) (before after : List SelectItem) (index : Nat) :
    expansions fields index (before ++ after)
      = expansions fields index before ++ expansions fields (index + before.length) after := by
  induction before generalizing index with
  | nil => rfl
  | cons item rest ih =>
      rw [List.cons_append, expansions, expansions, ih, List.append_assoc, List.length_cons,
        Nat.add_right_comm, Nat.add_assoc]

/-! ### Fields of operators -/

theorem fields_sorted (p : Plan) (order : List OrderKey) (offset limit : Option Expr) :
    (sorted p order offset limit).fields = p.fields := by
  unfold sorted
  split <;> rfl

theorem fields_filtered (p : Plan) (condition : Option Expr) :
    (filtered p condition).fields = p.fields := by
  cases condition <;> rfl

theorem fields_distinctRows (p : Plan) (distinct : Bool) :
    (distinctRows p distinct).fields = p.fields := by
  cases distinct <;> rfl

theorem fields_projected (p : Plan) (items : List Projected) (grouping : Grouping) :
    (projected c p items grouping).fields
      = items.map fun item => ⟨none, item.name, item.typeOver c p.fields⟩ := by
  unfold projected
  dsimp only
  split <;> rfl

/-! ### Checking, and then planning in any case -/

theorem lookUpAll_append (fields : List Field) (before after : List Reference) :
    lookUpAll fields (before ++ after)
      = lookUpAll fields before >>= fun _ => lookUpAll fields after := by
  unfold lookUpAll
  exact List.forM_append

theorem checkReferences_eq_lookUpAll (fields : List Field) (e : Expr) :
    checkReferences fields e = lookUpAll fields ((some e).toList.flatMap references) := by
  rw [checkReferences_eq, Option.toList_some, List.flatMap_singleton]
  rfl

theorem project_eq {index : Nat} {item : SelectItem} (h : StarMeets fields item) :
    project fields index item
      = lookUpAll fields (item.expr?.toList.flatMap references)
        >>= fun _ => .ok (expansion fields index item) := by
  cases item with
  | expr e =>
      show (checkReferences fields e >>= _) = _
      rw [checkReferences_eq_lookUpAll]
      rfl
  | aliased e label =>
      show (checkReferences fields e >>= _) = _
      rw [checkReferences_eq_lookUpAll]
      rfl
  | wildcard options => rfl
  | qualifiedWildcard qualifier options =>
      obtain ⟨f, hf, hunder⟩ := h
      have hmem : f ∈ fields.filter (isUnder (starName qualifier)) :=
        List.mem_filter.mpr ⟨hf, hunder⟩
      -- There is such a field, so the branch that fails is not taken.
      unfold starName at hmem
      unfold project
      dsimp only
      split
      · rename_i hnone
        rw [hnone] at hmem
        cases hmem
      · rfl

theorem projectAll_eq {items : List SelectItem} (index : Nat)
    (h : ∀ item ∈ items, StarMeets fields item) :
    projectAll fields index items
      = lookUpAll fields ((items.flatMap fun item => item.expr?.toList).flatMap references)
        >>= fun _ => .ok (expansions fields index items) := by
  induction items generalizing index with
  | nil => rfl
  | cons item rest ih =>
      obtain ⟨hitem, hrest⟩ := List.forall_mem_cons.mp h
      rw [projectAll, project_eq hitem, ih (index + 1) hrest, List.flatMap_cons,
        List.flatMap_append, lookUpAll_append]
      cases lookUpAll fields (item.expr?.toList.flatMap references) with
      | error e => rfl
      | ok u =>
          cases lookUpAll fields ((rest.flatMap fun item => item.expr?.toList).flatMap references)
            <;> rfl

theorem selected?_eq (p : Plan) (selection : Option Expr) :
    selected? p selection
      = lookUpAll p.fields (selection.toList.flatMap references)
        >>= fun _ => .ok (filtered p selection) := by
  cases selection with
  | none => rfl
  | some e =>
      show (checkReferences p.fields e >>= _) = _
      rw [checkReferences_eq_lookUpAll]
      rfl

/-- The plan of a selection over its sources, if its references are in order. -/
def overSources (c : Catalog) (source : Plan) (s : Select) : Plan :=
  distinctRows (filtered (projected c (filtered source s.selection)
    (expansions source.fields 0 s.projection) s.grouping) s.having) s.distinct

/-- **A selection is planned by looking up its references in order, and then in any case.** -/
theorem ofSelect_eq (hsource : ofSources c scope s.sources = .ok source)
    (hstars : ∀ item ∈ s.projection, StarMeets source.fields item) :
    ofSelect c scope s
      = (fun _ => overSources c source s)
        <$> lookUpAll source.fields ((checked s).flatMap references) := by
  obtain ⟨distinct, _, _, projection, _, sources, _, selection, grouping, _, having, _⟩ := s
  have hfields := fields_filtered source selection
  rw [ofSelect, hsource, checked, List.flatMap_append, lookUpAll_append]
  show (selected? source selection >>= _) = _
  rw [selected?_eq]
  cases lookUpAll source.fields (selection.toList.flatMap references) with
  | error e => rfl
  | ok u =>
      -- A condition keeps the fields, so the items are looked for among those of the sources.
      show (projectAll (filtered source selection).fields 0 projection >>= _) = _
      rw [hfields, projectAll_eq 0 hstars]
      cases lookUpAll source.fields
        ((projection.flatMap fun item => item.expr?.toList).flatMap references) <;> rfl

/-! ### Wildcards of what is accepted -/

theorem starMeets_of_project {fields : List Field} {index : Nat} {item : SelectItem}
    {items : List Projected} (h : project fields index item = .ok items) :
    StarMeets fields item := by
  cases item with
  | expr _ | aliased _ _ | wildcard _ => trivial
  | qualifiedWildcard qualifier options =>
      unfold project at h
      dsimp only at h
      split at h
      · cases h
      · rename_i visible hvisible
        obtain ⟨f, hf⟩ := List.exists_mem_of_ne_nil _ hvisible
        exact ⟨f, List.mem_filter.mp hf⟩

theorem starMeets_of_projectAll {fields : List Field} {projection : List SelectItem} {index : Nat}
    {items : List Projected} (h : projectAll fields index projection = .ok items) :
    ∀ item ∈ projection, StarMeets fields item := by
  induction projection generalizing index items with
  | nil => exact nofun
  | cons item rest ih =>
      rw [projectAll] at h
      obtain ⟨first, hfirst, h⟩ := bind_eq_ok.mp h
      obtain ⟨others, hothers, -⟩ := bind_eq_ok.mp h
      exact List.forall_mem_cons.mpr ⟨starMeets_of_project hfirst, ih hothers⟩

/-- Qualified wildcards of an accepted selection have the names of its sources in front. -/
theorem starMeets_of_ofSelect (hsource : ofSources c scope s.sources = .ok source)
    (h : ofSelect c scope s = .ok p) : ∀ item ∈ s.projection, StarMeets source.fields item := by
  obtain ⟨input, items, hinput, hitems, -⟩ := ofSelect_eq_ok h
  obtain ⟨source', hsource', hselected⟩ := bind_eq_ok.mp hinput
  obtain rfl : source = source' := Except.ok.inj (hsource.symm.trans hsource')
  rw [selected?_eq] at hselected
  obtain ⟨_, -, hfiltered⟩ := bind_eq_ok.mp hselected
  cases hfiltered
  rw [fields_filtered] at hitems
  exact starMeets_of_projectAll hitems

/-! ### Types -/

theorem fields_overSources (c : Catalog) (source : Plan) (s : Select) :
    (overSources c source s).fields
      = (expansions source.fields 0 s.projection).map fun item =>
        ⟨none, item.name, item.typeOver c source.fields⟩ := by
  rw [overSources, fields_distinctRows, fields_filtered, fields_projected, fields_filtered]

/-- A reference calls no function, so its type is that of the field that it means. -/
theorem typeOver_of_means {e : Expr} {ref : Reference} {f : Field} (href : reference? e = some ref)
    (hf : ref.Means fields f) (name : String) :
    Projected.typeOver c fields ⟨name, e, none⟩ = f.dataType := by
  have hfield : findField fields ref.qualifier ref.name = .ok f :=
    Reference.field_eq_ok_iff_means.mpr hf
  unfold reference? at href
  split at href
  · cases href
    show typeOfReference fields none _ = f.dataType
    rw [typeOfReference, hfield]
  · cases href
    show typeOfReference fields (some _) _ = f.dataType
    rw [typeOfReference, hfield]
  · cases href

/-- An item that is no wildcard stands for itself. -/
theorem expansion_of_expr? {item : SelectItem} {e : Expr} (h : item.expr? = some e)
    (fields : List Field) (index : Nat) :
    ∃ name, expansion fields index item = [⟨name, e, none⟩] := by
  cases item with
  | expr e' =>
      cases h
      exact ⟨_, rfl⟩
  | aliased e' label =>
      cases h
      exact ⟨_, rfl⟩
  | wildcard options => cases h
  | qualifiedWildcard qualifier options => cases h

/-- An item that is a reference is where it stands among the fields, with the type of the field
that it means. -/
theorem dataType_of_reference {before after : List SelectItem} {item : SelectItem} {e : Expr}
    {ref : Reference} {f : Field} (hs : s.projection = before ++ item :: after)
    (he : item.expr? = some e) (href : reference? e = some ref) (hf : ref.Means source.fields f) :
    ((overSources c source s).fields[widthOf source.fields before]?).map (·.dataType)
      = some f.dataType := by
  obtain ⟨name, hname⟩ := expansion_of_expr? he source.fields (0 + before.length)
  have htype := typeOver_of_means (c := c) href hf name
  rw [fields_overSources, hs, expansions_append, expansions, hname,
    ← length_expansions source.fields before 0]
  simp [htype]

/-! ### Selections -/

/-- The error is about a column that a reference is looking for. -/
def AboutColumn (e : Error) : Prop :=
  ∃ reference, e = .unknownColumn reference ∨ e = .ambiguousColumn reference

theorem Reference.Complaint.aboutColumn {ref : Reference} {e : Error}
    (h : ref.Complaint fields e) : AboutColumn e := by
  cases h with
  | unknown _ => exact ⟨_, .inl rfl⟩
  | ambiguous _ _ _ => exact ⟨_, .inr rfl⟩

theorem exists_complaint_iff {ref : Reference} :
    (∃ e, ref.Complaint fields e) ↔ ¬ ∃ f, ref.Means fields f := by
  simp only [← Reference.field_eq_error_iff, ← Reference.field_eq_ok_iff_means]
  cases ref.field fields with
  | error e => simp
  | ok f => simp

/-- Looking up fails at the first reference that means no field, with what is to be said of it. -/
theorem lookUpAll_eq_error_iff {refs : List Reference} {e : Error} :
    lookUpAll fields refs = .error e
      ↔ ∃ before ref after, refs = before ++ ref :: after
        ∧ (∀ r ∈ before, ∃ f, r.Means fields f) ∧ ref.Complaint fields e := by
  simp only [lookUpAll, forM_eq_error_iff, Reference.found_eq_ok_iff, Reference.found_eq_error_iff]

/-- Looking up succeeds if and only if each reference means a field. -/
theorem lookUpAll_eq_ok_iff {refs : List Reference} :
    lookUpAll fields refs = .ok () ↔ ∀ ref ∈ refs, ∃ f, ref.Means fields f := by
  simp only [lookUpAll, forM_eq_ok_iff, Reference.found_eq_ok_iff]

section

variable (hsource : ofSources c scope s.sources = .ok source)
  (hstars : ∀ item ∈ s.projection, StarMeets source.fields item)
include hsource hstars

theorem ofSelect_eq_error_iff {e : Error} :
    ofSelect c scope s = .error e
      ↔ ∃ before ref after, (checked s).flatMap references = before ++ ref :: after
        ∧ (∀ r ∈ before, ∃ f, r.Means source.fields f) ∧ ref.Complaint source.fields e := by
  rw [ofSelect_eq hsource hstars, map_eq_error, lookUpAll_eq_error_iff]

theorem ofSelect_eq_ok_iff :
    ofSelect c scope s = .ok p
      ↔ (∀ ref ∈ (checked s).flatMap references, ∃ f, ref.Means source.fields f)
        ∧ p = overSources c source s := by
  rw [ofSelect_eq hsource hstars, map_eq_ok, ← lookUpAll_eq_ok_iff]
  constructor
  · rintro ⟨⟨⟩, hfound, rfl⟩
    exact ⟨hfound, rfl⟩
  · rintro ⟨hfound, rfl⟩
    exact ⟨(), hfound, rfl⟩

/-- A selection fails only over a column, and only for a reference that means no field. -/
theorem exists_error_iff :
    (∃ e, ofSelect c scope s = .error e ∧ AboutColumn e)
      ↔ ∃ e ∈ checked s, ∃ part ref, DirectlyIn part e ∧ reference? part = some ref
        ∧ ¬ ∃ f, ref.Means source.fields f := by
  constructor
  · rintro ⟨error, h, -⟩
    obtain ⟨before, ref, after, hrefs, -, hcomplaint⟩ := (ofSelect_eq_error_iff hsource hstars).mp h
    have hmem : ref ∈ (checked s).flatMap references := by simp [hrefs]
    obtain ⟨e, he, href⟩ := List.mem_flatMap.mp hmem
    obtain ⟨part, hpart, hpartRef⟩ := mem_references_iff.mp href
    exact ⟨e, he, part, ref, hpart, hpartRef, exists_complaint_iff.mp ⟨error, hcomplaint⟩⟩
  · rintro ⟨e, he, part, ref, hpart, hpartRef, hnone⟩
    have hmem : ref ∈ (checked s).flatMap references :=
      List.mem_flatMap.mpr ⟨e, he, mem_references_iff.mpr ⟨part, hpart, hpartRef⟩⟩
    cases h : ofSelect c scope s with
    | ok p => exact absurd (((ofSelect_eq_ok_iff hsource hstars).mp h).1 ref hmem) hnone
    | error error =>
        obtain ⟨_, _, _, -, -, hcomplaint⟩ := (ofSelect_eq_error_iff hsource hstars).mp h
        exact ⟨error, rfl, hcomplaint.aboutColumn⟩

end

/--
**Direct references are checked exactly.**  If the sources of a selection are planned and its
wildcards are qualified by names of theirs, then it fails over a column if and only if, in its
condition or in an item of its select list, some reference that stands directly there does not
mean exactly one field of the sources.  What is reported is the first such reference, as the
condition and the items are written from left to right.  And an item that is itself a reference
has the type of the field that it means, at its place among the fields of the plan.
-/
theorem direct_references_checked (hsource : ofSources c scope s.sources = .ok source)
    (hstars : ∀ item ∈ s.projection, StarMeets source.fields item) :
    ((∃ e, ofSelect c scope s = .error e ∧ AboutColumn e)
        ↔ ∃ e ∈ checked s, ∃ part ref, DirectlyIn part e ∧ reference? part = some ref
          ∧ ¬ ∃ f, ref.Means source.fields f)
      ∧ (∀ e, ofSelect c scope s = .error e
          ↔ ∃ before ref after, (checked s).flatMap references = before ++ ref :: after
            ∧ (∀ r ∈ before, ∃ f, r.Means source.fields f) ∧ ref.Complaint source.fields e)
      ∧ ∀ p, ofSelect c scope s = .ok p →
          ∀ before item after e ref, s.projection = before ++ item :: after →
            item.expr? = some e → reference? e = some ref →
              ∃ f, ref.Means source.fields f
                ∧ (p.fields[widthOf source.fields before]?).map (·.dataType)
                  = some f.dataType := by
  refine ⟨exists_error_iff hsource hstars, fun e => ofSelect_eq_error_iff hsource hstars, ?_⟩
  intro p hp before item after e ref hs he href
  obtain ⟨hmeans, rfl⟩ := (ofSelect_eq_ok_iff hsource hstars).mp hp
  have hmem : ref ∈ (checked s).flatMap references := by
    refine List.mem_flatMap.mpr ⟨e, ?_, ?_⟩
    · refine List.mem_append_right _ (List.mem_flatMap.mpr ⟨item, ?_, ?_⟩)
      · simp [hs]
      · simp [he]
    · rw [references_of_reference? href]
      exact List.mem_singleton_self ref
  obtain ⟨f, hf⟩ := hmeans ref hmem
  exact ⟨f, hf, dataType_of_reference hs he href hf⟩

/-- A selection from two copies of the table `a`. -/
def fromBoth (projection : List SelectItem) (selection : Option Expr) : Select :=
  ⟨false, [], [], projection, "",
    [⟨.table [.plain "a"] [] (some ⟨.plain "x", []⟩) [], []⟩,
      ⟨.table [.plain "a"] [] (some ⟨.plain "y", []⟩) [], []⟩],
    [], selection, .keys [] "", [], none, []⟩

/-- A condition whose first reference means a field, and whose second one meets two. -/
def secondAmbiguous : Expr :=
  .infixed (.isNull (.qualified [.plain "X", .plain "I"])) "AND"
    (.unary .not (.nested (.name (.plain "i"))))

/-- The condition is checked before the select list, and behind a wildcard a reference has the
type of its field. -/
theorem direct_references_checked_in_order :
    (fromBoth [.expr (.name (.plain "nope"))] (some secondAmbiguous)).written
        = "SELECT nope FROM a AS x, a AS y WHERE X.I IS NULL AND NOT (i)"
      ∧ ofSelect tableA [] (fromBoth [.expr (.name (.plain "nope"))] (some secondAmbiguous))
        = .error (.ambiguousColumn "i")
      ∧ (fromBoth [.wildcard [], .expr (.qualified [.plain "Y", .plain "I"])] none).written
        = "SELECT *, Y.I FROM a AS x, a AS y"
      ∧ ∃ p, ofSelect tableA []
            (fromBoth [.wildcard [], .expr (.qualified [.plain "Y", .plain "I"])] none) = .ok p
          ∧ (p.fields[2]?).map (·.dataType) = some "INT" := by
  have hsource : ofSources tableA [] (fromBoth [] none).sources = .ok
      (joined ⟨.scan ⟨"default_catalog", "default_database", "a"⟩, [], [⟨some "x", "i", "INT"⟩]⟩
        ⟨.scan ⟨"default_catalog", "default_database", "a"⟩, [], [⟨some "y", "i", "INT"⟩]⟩
        .inner none) := rfl
  refine ⟨by decide +kernel, ?_, by decide +kernel, ?_⟩
  · have hstars : ∀ item ∈ [SelectItem.expr (.name (.plain "nope"))],
        StarMeets [⟨some "x", "i", "INT"⟩, ⟨some "y", "i", "INT"⟩] item := by
      simp [StarMeets]
    obtain ⟨-, herror, -⟩ := direct_references_checked (s := fromBoth
      [.expr (.name (.plain "nope"))] (some secondAmbiguous)) hsource hstars
    refine (herror _).mpr ⟨[⟨some "X", "I"⟩], ⟨none, "i"⟩, [⟨none, "nope"⟩], rfl, ?_, ?_⟩
    · intro r hr
      obtain rfl := List.mem_singleton.mp hr
      exact Reference.resolves_iff_exists_means.mp (by decide +kernel)
    · exact Reference.field_eq_error_iff.mp (by decide +kernel)
  · have hstars : ∀ item ∈ [.wildcard [], SelectItem.expr (.qualified [.plain "Y", .plain "I"])],
        StarMeets [⟨some "x", "i", "INT"⟩, ⟨some "y", "i", "INT"⟩] item := by
      simp [StarMeets]
    obtain ⟨-, -, htypes⟩ := direct_references_checked (s := fromBoth
      [.wildcard [], .expr (.qualified [.plain "Y", .plain "I"])] none) hsource hstars
    obtain ⟨p, hp⟩ : ∃ p, ofSelect tableA []
        (fromBoth [.wildcard [], .expr (.qualified [.plain "Y", .plain "I"])] none) = .ok p :=
      ⟨_, rfl⟩
    obtain ⟨f, hf, htype⟩ := htypes p hp [.wildcard []] _ [] _ ⟨some "Y", "I"⟩ rfl rfl rfl
    have hfield : Reference.field [⟨some "x", "i", "INT"⟩, ⟨some "y", "i", "INT"⟩]
        ⟨some "Y", "I"⟩ = .ok ⟨some "y", "i", "INT"⟩ := by decide +kernel
    cases hfield.symm.trans (Reference.field_eq_ok_iff_means.mpr hf)
    exact ⟨p, hp, htype⟩

end Stencil.Plan
