/-
The fields that an insertion fills.

With a list of columns, an insertion fills the columns that the list names, in the order of
the list and as the table spells them.  Each name is looked up by itself, and afterwards only
the number of fields is compared with that of the source.  So a column is filled twice if and
only if it is named twice, and nothing is refused for that.
-/
import Mathlib.Data.List.Forall2
import Stencil.Proofs.Plan.Resolution
import Stencil.Proofs.Plan.Folding

namespace Stencil.Plan

open Sql

variable {c : Catalog} {i : Insert} {path : ObjectPath} {columns : List Column}
  {named : List Name} {fields : List String} {input p : Plan}

/-! ### The list of columns -/

/-- The field is the first column of the name, but for the case of ASCII letters, as the table
spells it. -/
def Spells (columns : List Column) (n : Name) (field : String) : Prop :=
  ∃ before column after, columns = before ++ column :: after
    ∧ Text.foldAscii column.name = Text.foldAscii n.text
    ∧ (∀ other ∈ before, Text.foldAscii other.name ≠ Text.foldAscii n.text)
    ∧ field = column.name

/-- No two of the names are the same but for the case of ASCII letters. -/
def Distinct (names : List String) : Prop := (names.map Text.foldAscii).Nodup

instance (names : List String) : Decidable (Distinct names) :=
  inferInstanceAs (Decidable (List.Nodup _))

/-- The column that a name means. -/
def target (path : ObjectPath) (columns : List Column) (n : Name) : Except Error String :=
  match columns.find? fun col => Text.sameIgnoringCase col.name n.text with
  | some col => .ok col.name
  | none => .error (.unknownTargetColumn n.text path.written)

theorem targets_of_ne_nil (h : named ≠ []) :
    targets path columns named = named.mapM (target path columns) := by
  unfold targets
  rw [if_neg (by simpa using h)]
  rfl

theorem target_eq_ok_iff {n : Name} {field : String} :
    target path columns n = .ok field ↔ Spells columns n field := by
  have hfound : target path columns n = .ok field
      ↔ ∃ column, (columns.find? fun col => Text.sameIgnoringCase col.name n.text) = some column
        ∧ field = column.name := by
    unfold target
    split
    · rename_i column hfind
      simp [hfind, eq_comm]
    · rename_i hnone
      simp [hnone]
  rw [hfound]
  simp only [List.find?_eq_some_iff_append, Text.sameIgnoringCase, beq_iff_eq, Bool.not_eq_true',
    beq_eq_false_iff_ne]
  constructor
  · rintro ⟨column, ⟨hsame, before, after, hcolumns, hbefore⟩, hfield⟩
    exact ⟨before, column, after, hcolumns, hsame, hbefore, hfield⟩
  · rintro ⟨before, column, after, hcolumns, hsame, hbefore, hfield⟩
    exact ⟨column, ⟨hsame, before, after, hcolumns, hbefore⟩, hfield⟩

theorem targets_eq_ok_iff (h : named ≠ []) :
    targets path columns named = .ok fields ↔ List.Forall₂ (Spells columns) named fields := by
  rw [targets_of_ne_nil h, mapM_eq_ok_iff]
  simp only [target_eq_ok_iff]

/-- The list is refused only for a name that is no column's. -/
theorem exists_targets_iff (h : named ≠ []) :
    (∃ fields, targets path columns named = .ok fields)
      ↔ ∀ n ∈ named, ∃ column ∈ columns, Text.foldAscii column.name = Text.foldAscii n.text := by
  rw [targets_of_ne_nil h, exists_mapM_iff]
  refine forall₂_congr fun n _ => ?_
  unfold target
  split
  · rename_i column hfind
    have hsame := List.find?_some hfind
    have hmem := List.mem_of_find?_eq_some hfind
    rw [Text.sameIgnoringCase, beq_iff_eq] at hsame
    exact iff_of_true ⟨_, rfl⟩ ⟨column, hmem, hsame⟩
  · rename_i hnone
    refine iff_of_false nofun ?_
    rintro ⟨column, hmem, hsame⟩
    exact List.find?_eq_none.mp hnone column hmem (beq_iff_eq.mpr hsame)

/-- What is filled is what is named, but for the case of letters. -/
theorem fold_of_spells (h : List.Forall₂ (Spells columns) named fields) :
    fields.map Text.foldAscii = (named.map (·.text)).map Text.foldAscii := by
  induction h with
  | nil => rfl
  | cons hfirst _ ih =>
      obtain ⟨_, column, _, -, hsame, -, rfl⟩ := hfirst
      simp only [List.map_cons, ih, hsame]

/-- A column is filled twice if and only if it is named twice. -/
theorem distinct_iff_of_spells (h : List.Forall₂ (Spells columns) named fields) :
    Distinct fields ↔ Distinct (named.map (·.text)) := by
  rw [Distinct, Distinct, fold_of_spells h]

/-! ### Insertions -/

/-- The steps in which an insertion is planned: no step looks at two names of the list. -/
theorem ofInsert_eq_ok_iff :
    ofInsert c i = .ok p
      ↔ ∃ path columns options source input fields,
        c.qualify (QualifiedName.texts i.table) = .ok path
        ∧ c.get? path = some (.table columns options) ∧ i.source = some source
        ∧ ofQuery c [] source = .ok input ∧ targets path columns i.columns = .ok fields
        ∧ fields.length = input.fields.length ∧ p = input.above (.sink path fields) := by
  constructor
  · intro h
    unfold ofInsert at h
    obtain ⟨path, hpath, h⟩ := bind_eq_ok.mp h
    obtain ⟨columns, hcolumns, h⟩ := bind_eq_ok.mp h
    obtain ⟨options, htable⟩ := exists_table_of_targetColumns hcolumns
    split at h
    · cases h
    · rename_i source hsource
      obtain ⟨input, hinput, h⟩ := bind_eq_ok.mp h
      obtain ⟨fields, hfields, h⟩ := bind_eq_ok.mp h
      split at h
      · rename_i hlength
        cases h
        exact ⟨path, columns, options, source, input, fields, hpath, htable, hsource, hinput,
          hfields, hlength, rfl⟩
      · cases h
  · rintro ⟨path, columns, options, source, input, fields, hpath, htable, hsource, hinput, hfields,
      hlength, rfl⟩
    have hcolumns : targetColumns c path = .ok columns := by
      rw [targetColumns, Catalog.resolve, htable]
      rfl
    unfold ofInsert
    simp only [bind_eq_ok]
    refine ⟨path, hpath, columns, hcolumns, ?_⟩
    rw [hsource]
    simp only [bind_eq_ok]
    exact ⟨input, hinput, fields, hfields, if_pos hlength⟩

/--
**An insertion fills the columns that its list names, as often as it names them.**  If it is
planned, its fields are the columns of the list in order, in the spelling of the table, and no
column occurs twice if and only if the list names none twice.  And with a table to fill and a
source that is planned, it is planned if and only if each name is that of a column, and the names
are as many as the fields of the source: naming a column twice is no reason to refuse it.
-/
theorem insertion_targets (hlist : i.columns ≠ []) :
    (∀ p, ofStatement c (.insert i) = .ok (some p) →
        ∃ path columns options fields, c.qualify (QualifiedName.texts i.table) = .ok path
          ∧ c.get? path = some (.table columns options) ∧ p.operator = .sink path fields
          ∧ List.Forall₂ (Spells columns) i.columns fields
          ∧ (Distinct fields ↔ Distinct (i.columns.map (·.text))))
      ∧ ∀ path columns options source input, c.qualify (QualifiedName.texts i.table) = .ok path →
          c.get? path = some (.table columns options) → i.source = some source →
          ofQuery c [] source = .ok input →
            ((∃ p, ofStatement c (.insert i) = .ok (some p))
              ↔ (∀ n ∈ i.columns, ∃ column ∈ columns,
                  Text.foldAscii column.name = Text.foldAscii n.text)
                ∧ i.columns.length = input.fields.length) := by
  have hstatement : ∀ p, ofStatement c (.insert i) = .ok (some p) ↔ ofInsert c i = .ok p := by
    intro p
    rw [ofStatement, map_eq_ok]
    simp
  simp only [hstatement, ofInsert_eq_ok_iff]
  constructor
  · rintro p ⟨path, columns, options, source, input, fields, hpath, htable, -, -, hfields, -, rfl⟩
    have hspells := (targets_eq_ok_iff hlist).mp hfields
    exact ⟨path, columns, options, fields, hpath, htable, rfl, hspells,
      distinct_iff_of_spells hspells⟩
  · intro path columns options source input hpath htable hsource hinput
    have htargets : (∃ fields, targets path columns i.columns = .ok fields) ↔ _ :=
      exists_targets_iff hlist
    rw [← htargets]
    constructor
    · -- What the insertion is planned with is what is given.
      rintro ⟨p, path', columns', options', source', input', fields, hpath', htable', hsource',
        hinput', hfields, hlength, -⟩
      cases hpath.symm.trans hpath'
      cases htable.symm.trans htable'
      cases hsource.symm.trans hsource'
      cases hinput.symm.trans hinput'
      have hspells := (targets_eq_ok_iff hlist).mp hfields
      exact ⟨⟨fields, hfields⟩, hspells.length_eq.trans hlength⟩
    · rintro ⟨⟨fields, hfields⟩, hlength⟩
      have hspells := (targets_eq_ok_iff hlist).mp hfields
      exact ⟨_, path, columns, options, source, input, fields, hpath, htable, hsource, hinput,
        hfields, hspells.length_eq.symm.trans hlength, rfl⟩

/-- Rows of values put into the listed columns of the table `a`. -/
def inserting (listed : List String) (rows : List (List Expr)) : Insert :=
  ⟨"INSERT INTO", [.plain "a"], listed.map .plain, [], some (plainly (.values false rows)), []⟩

/-- The column is filled once, in the spelling of the table. -/
theorem insertion_targets_spelled :
    (Statement.insert (inserting ["I"] [[number "1"]])).written = "INSERT INTO a (I) VALUES (1)"
      ∧ ∃ p path fields,
        ofStatement tableA (.insert (inserting ["I"] [[number "1"]])) = .ok (some p)
          ∧ p.operator = .sink path fields
          ∧ List.Forall₂ (Spells [⟨"i", "INT"⟩]) [.plain "I"] fields ∧ Distinct fields := by
  refine ⟨by decide +kernel, ?_⟩
  obtain ⟨p, hp⟩ : ∃ p, ofStatement tableA (.insert (inserting ["I"] [[number "1"]]))
      = .ok (some p) := ⟨_, rfl⟩
  obtain ⟨path, columns, options, fields, hpath, htable, hsink, hspells, hdistinct⟩ :=
    (insertion_targets (c := tableA) (i := inserting ["I"] [[number "1"]]) nofun).1 p hp
  cases hpath
  have hcolumns : tableA.get? ⟨"default_catalog", "default_database", "a"⟩
      = some (.table [⟨"i", "INT"⟩] []) := by decide +kernel
  cases hcolumns.symm.trans htable
  exact ⟨p, _, fields, hp, hsink, hspells, hdistinct.mpr (by decide +kernel)⟩

/-- The table `a` has one column, which is filled twice. -/
theorem insertion_targets_twice :
    (Statement.insert (inserting ["i", "I"] [[number "1", number "2"]])).written
        = "INSERT INTO a (i, I) VALUES (1, 2)"
      ∧ ∃ p path,
        ofStatement tableA (.insert (inserting ["i", "I"] [[number "1", number "2"]]))
            = .ok (some p)
          ∧ p.operator = .sink path ["i", "i"] ∧ ¬ Distinct ["i", "i"] :=
  ⟨by decide +kernel, _, _, rfl, rfl, by decide +kernel⟩

end Stencil.Plan
