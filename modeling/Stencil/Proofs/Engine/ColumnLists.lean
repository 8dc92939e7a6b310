/-
Names for the columns of a relation.

A derived table, a query that is named in front and a view can be given names for their columns.
`Renamed` is what such a list asks for.  Planning passes the lists over, at every depth, and so
does the catalog when a view is created: the relation has the columns of its query as they are,
and a list of another length is not refused.
-/
import Stencil.Proofs.Engine.Views
import Stencil.Proofs.Plan.Heeded

namespace Stencil.Planning

open Run Sql Plan

variable {c : Catalog} {scope : Scope} {q : Query} {p : Plan} {names : List Name}
  {outcome : Except Error (List Column)}

/-- The columns have the names of the list, or the list is refused because it is of another
length. -/
def Renamed (names : List Name) (columns : List Column) (outcome : Except Error (List Column)) :
    Prop :=
  if names.length = columns.length
  then outcome = .ok (List.zipWith (fun n col => ⟨n.text, col.dataType⟩) names columns)
  else ∃ e, outcome = .error e

/-- What comes of a relation that is a query with names for its columns: its columns, or an error
by which it is refused where it is given or where it is named. -/
inductive Introduces (c : Catalog) (q : Query) (names : List Name) :
    Scope → Except Error (List Column) → Prop
  | derived (scope : Scope) (lateral : Bool) (n : Name) :
      Introduces c q names scope
        (columns <$> ofFactor c scope (.derived lateral q (some ⟨n, names⟩)))
  | named (scope : Scope) (n seen : Name) (source : Option Name) (arguments : List Piece)
      (label : Option Alias) (hints : List Piece)
      (hname : Text.lower seen.text = Text.lower n.text) :
      Introduces c q names scope
        (columns <$> (scopeOf c scope [⟨⟨n, names⟩, q, source⟩] >>= fun inner =>
          ofFactor c inner (.table [seen] arguments label hints)))
  | view (s : State) (v : CreateView) (path : ObjectPath) (arguments : List Piece)
      (label : Option Alias) (hints : List Piece) (hcatalog : s.catalog = c)
      (hpath : c.qualify (QualifiedName.texts v.name) = .ok path) (hfree : Free c v path)
      (hcolumns : v.columns = names) (hquery : v.query = q) :
      Introduces c q names []
        (columns <$> ((createView v >>= fun _ => read fun s' =>
          ofFactor s'.catalog [] (.table v.name arguments label hints)) s).1)

/-- **A relation has the columns of its query, whatever names they are given.** -/
theorem columns_of_introduces (hq : ofQuery c scope q = .ok p)
    (h : Introduces c q names scope outcome) : outcome = .ok p.columns := by
  cases h with
  | derived _ lateral n =>
      obtain ⟨found, hfound, hcolumns⟩ := exists_ofFactor_derived hq lateral (some ⟨n, names⟩)
      rw [hfound]
      exact congrArg Except.ok hcolumns
  | named _ n seen source arguments label hints hname =>
      have hlabel : Text.lower seen.text = Text.lower (Alias.mk n names).name.text := hname
      obtain ⟨inner, found, hscope, hfound, hcolumns⟩ :=
        exists_ofFactor_named hlabel hq source arguments label hints
      rw [hscope]
      show columns <$> ofFactor c inner _ = _
      rw [hfound]
      exact congrArg Except.ok hcolumns
  | view s v path arguments label hints hcatalog hpath hfree hcolumns hquery =>
      subst hcatalog hquery
      obtain ⟨s', hcreate, hqualify, hget⟩ := createView_of_free hpath hfree hq
      rw [← hqualify] at hpath
      obtain ⟨found, hfound, hcolumns⟩ := exists_ofFactor_of_get? hpath hget arguments label hints
      rw [bind_of_ok hcreate, read_apply, hfound]
      exact congrArg Except.ok hcolumns

theorem zipWith_eq_iff {columns : List Column} (hlength : names.length = columns.length) :
    List.zipWith (fun n col => (⟨n.text, col.dataType⟩ : Column)) names columns = columns
      ↔ names.map (·.text) = columns.map (·.name) := by
  induction names generalizing columns with
  | nil =>
      obtain rfl := List.eq_nil_of_length_eq_zero hlength.symm
      simp
  | cons n rest ih =>
      cases columns with
      | nil => cases hlength
      | cons col others =>
          rw [List.zipWith_cons_cons, List.map_cons, List.map_cons, List.cons.injEq,
            List.cons.injEq, ih (Nat.succ.inj hlength), Column.mk.injEq]
          simp

/-- The columns of a query are named as asked for if and only if they have these names anyway. -/
theorem renamed_ok_iff {columns : List Column} :
    Renamed names columns (.ok columns) ↔ names.map (·.text) = columns.map (·.name) := by
  unfold Renamed
  split
  · rename_i hlength
    rw [Except.ok.injEq, eq_comm, zipWith_eq_iff hlength]
  · rename_i hlength
    constructor
    · rintro ⟨e, herror⟩
      cases herror
    · intro hnames
      have hsame := congrArg List.length hnames
      rw [List.length_map, List.length_map] at hsame
      exact absurd hsame hlength

/--
**Names for columns are passed over.**  Two statements that differ in nothing but such lists, and
in what else planning passes over, have the same plan or the same error, at whatever depth the
lists stand.  A query that is planned can be given as a derived table, as a named query or as a
view with any list of names: the relation has the columns of the query.  So the list does what it
asks for if and only if it repeats the names of the columns; in particular no list is refused.
-/
theorem column_lists_unheeded (c : Catalog) :
    (∀ s s' : Statement, s.heeded = s'.heeded → ofStatement c s = ofStatement c s')
      ∧ ∀ scope q p, ofQuery c scope q = .ok p →
        ∀ names ≠ [], ∀ outcome, Introduces c q names scope outcome →
          outcome = .ok p.columns
            ∧ (Renamed names p.columns outcome ↔ names.map (·.text) = p.columns.map (·.name)) := by
  constructor
  · exact fun s s' hheeded => ofStatement_eq_of_heeded_eq hheeded
  · intro scope q p hq names _ outcome hintroduces
    obtain rfl := columns_of_introduces hq hintroduces
    exact ⟨rfl, renamed_ok_iff⟩

/-- The query of the column of the table `a`. -/
def queryI : Query := plainly (.select (selecting false (.name (.plain "i"))))

/-- A view of that query with names for its columns. -/
def viewOfI (names : List Name) : CreateView :=
  ⟨false, false, false, false, [.plain "v"], "", names, "", queryI, ""⟩

/-- All rows of that query as a derived table with names for its columns. -/
def everythingOfI (names : List Name) : Query :=
  everything [⟨.derived false queryI (some ⟨.plain "t", names⟩), []⟩]

/-- A list in a derived table changes nothing, and a view may be given the name that its column
has. -/
theorem column_lists_unheeded_same :
    (everythingOfI [.plain "x", .plain "y"]).written = "SELECT * FROM (SELECT i FROM a) AS t (x, y)"
      ∧ ofStatement tableA (.query (everythingOfI [.plain "x", .plain "y"]))
        = ofStatement tableA (.query (everythingOfI []))
      ∧ Renamed [.plain "i"] [⟨"i", "INT"⟩]
        (columns <$> ((createView (viewOfI [.plain "i"]) >>= fun _ => read fun s' =>
          ofFactor s'.catalog [] (.table [.plain "v"] [] none [])) ⟨tableA, 1⟩).1) := by
  obtain ⟨hsame, hintroduced⟩ := column_lists_unheeded tableA
  refine ⟨by decide +kernel, hsame _ _ rfl, ?_⟩
  have hview := hintroduced [] queryI _ rfl [.plain "i"] (by simp) _
    (.view ⟨tableA, 1⟩ (viewOfI [.plain "i"]) ⟨"default_catalog", "default_database", "v"⟩ [] none
      [] rfl rfl (.inl rfl) rfl rfl)
  exact hview.2.mpr rfl

/-- A column is not named by the list of a view, a named query or a derived table, and a list that
is too long is taken.  A reference to the name in the list is refused. -/
theorem column_lists_unheeded_other :
    (viewOfI [.plain "x"]).written = "CREATE VIEW v (x) AS SELECT i FROM a"
      ∧ (everythingOfI [.plain "x", .plain "y"]).written
        = "SELECT * FROM (SELECT i FROM a) AS t (x, y)"
      ∧ columns <$> ofQuery tableA [] queryI = .ok [⟨"i", "INT"⟩]
      ∧ (∀ names ∈ [[Name.plain "x"], [.plain "x", .plain "y"]],
        columns <$> ((createView (viewOfI names) >>= fun _ => read fun s' =>
            ofFactor s'.catalog [] (.table [.plain "v"] [] none [])) ⟨tableA, 1⟩).1
            = .ok [⟨"i", "INT"⟩]
          ∧ columns <$> (scopeOf tableA [] [⟨⟨.plain "t", names⟩, queryI, none⟩] >>= fun inner =>
            ofFactor tableA inner (.table [.plain "t"] [] none [])) = .ok [⟨"i", "INT"⟩]
          ∧ columns <$> ofFactor tableA [] (.derived false queryI (some ⟨.plain "t", names⟩))
            = .ok [⟨"i", "INT"⟩]
          ∧ ¬ Renamed names [⟨"i", "INT"⟩] (.ok [⟨"i", "INT"⟩]))
      ∧ ofQuery tableA [] (plainly (.select { selecting false (.name (.plain "x")) with
          sources := [⟨.derived false queryI (some ⟨.plain "t", [.plain "x"]⟩), []⟩] }))
        = .error (.unknownColumn "x") := by
  refine ⟨by decide +kernel, by decide +kernel, rfl, ?_, rfl⟩
  rw [List.forall_mem_cons, List.forall_mem_singleton]
  exact ⟨⟨rfl, rfl, rfl, renamed_ok_iff.not.mpr (by decide)⟩,
    rfl, rfl, rfl, renamed_ok_iff.not.mpr (by decide)⟩

end Stencil.Planning
