/-
The columns of views, and stars over them.

A view keeps the columns that its query had when it was created.  No call but one that runs a
statement creating it brings an object into the catalog, so what is found after any row of
calls was put there by one of them, and has been there since (`exists_creation`).  Hence a star
over tables, views, named queries and derived tables yields columns that are known in advance,
and a query that is wrapped in stars, however often, yields the columns that it has by itself.
-/
import Stencil.Proofs.Engine.Constant
import Stencil.Proofs.Engine.Failure
import Stencil.Proofs.Engine.Joins
import Stencil.Proofs.Plan.Columns
import Stencil.Proofs.Plan.Folding

namespace Stencil.Planning

open Run Sql Plan

variable {c : Catalog} {s : State} {path : ObjectPath} {object : CatalogObject} {v : CreateView}
  {p : Plan}

/-! ### What a statement puts into the catalog -/

/-- The statement may put the object under the path: a table with the columns that are listed, or
a view with the columns of its query. -/
inductive Puts (s : State) : Statement → ObjectPath → CatalogObject → Prop
  | table {t : CreateTable} {path : ObjectPath}
      (hpath : s.catalog.qualify (QualifiedName.texts t.name) = .ok path) :
      Puts s (.createTable t) path
        (.table (t.columns.map fun col => ⟨col.name.text, col.dataType⟩) t.options)
  | view {v : CreateView} {path : ObjectPath} {p : Plan}
      (hpath : s.catalog.qualify (QualifiedName.texts v.name) = .ok path)
      (hquery : ofQuery s.catalog [] v.query = .ok p) :
      Puts s (.createView v) path (.view p.columns v.query.written)

section

variable {α β : Type} {allowed : ObjectPath → CatalogObject → Prop}

/-- Whatever the run leaves under a path stood there before, or is one of the objects allowed. -/
def Brings (allowed : ObjectPath → CatalogObject → Prop) (s : State) (r : Run State α) : Prop :=
  ∀ path object, (r s).2.catalog.get? path = some object →
    s.catalog.get? path = some object ∨ allowed path object

theorem brings_of_reads {r : Run State α} (h : Reads r) : Brings allowed s r := by
  intro path object hget
  rw [h s] at hget
  exact .inl hget

theorem Brings.bind {r : Run State α} {f : α → Run State β} (hr : Brings allowed s r)
    (hf : ∀ a s', r s = (.ok a, s') → Brings allowed s' (f a)) : Brings allowed s (r >>= f) := by
  intro path object hget
  cases hrun : r s with
  | mk result s' =>
      have hfirst := hr path object
      rw [hrun] at hfirst
      cases result with
      | ok a =>
          rw [bind_of_ok hrun] at hget
          exact (hf a s' hrun path object hget).elim hfirst .inr
      | error e =>
          rw [bind_of_error hrun] at hget
          exact hfirst hget

theorem Brings.bind_pure {r : Run State α} (h : Brings allowed s r) (f : α → β) :
    Brings allowed s (r >>= fun a => pure (f a)) :=
  h.bind fun _ _ _ => brings_of_reads (reads_pure _)

theorem brings_changing {f : Catalog → Except Error (α × Catalog)}
    (h : ∀ a c, f s.catalog = .ok (a, c) → ∀ path object, c.get? path = some object →
      s.catalog.get? path = some object ∨ allowed path object) :
    Brings allowed s (changing f) := by
  cases hf : f s.catalog with
  | ok result =>
      unfold Brings
      rw [changing_of_ok hf]
      exact h result.1 result.2 hf
  | error e =>
      unfold Brings
      rw [changing_of_error hf]
      exact fun _ _ => .inl

theorem brings_create {path : ObjectPath} {object : CatalogObject} (h : allowed path object)
    (ifNotExists : Bool) (s : State) :
    Brings allowed s (changing fun c => c.create path object ifNotExists) := by
  refine brings_changing fun _ c hcreate path' object' hget => ?_
  rcases Catalog.create_eq_ok hcreate with rfl | rfl
  · exact .inl hget
  · by_cases hpath : path = path'
    · subst hpath
      rw [Catalog.get?, Keyed.find?_put_self] at hget
      cases hget
      exact .inr h
    · rw [Catalog.get?, Keyed.find?_put_of_ne hpath] at hget
      exact .inl hget

theorem brings_drop (path : ObjectPath) (kind : ObjectKind) (ifExists : Bool) (s : State) :
    Brings allowed s (changing fun c => c.drop path kind ifExists) := by
  refine brings_changing fun _ c hdrop path' object' hget => .inl ?_
  cases hbefore : s.catalog.get? path' with
  | none =>
      rw [Catalog.get?_of_drop_of_none hdrop hbefore] at hget
      cases hget
  | some before =>
      obtain ⟨_, -, -, -, rfl⟩ | ⟨-, -, -, rfl⟩ := Catalog.drop_eq_ok hdrop
      · by_cases hpath : path = path'
        · subst hpath
          rw [Catalog.get?, Keyed.find?_remove_self] at hget
          cases hget
        · rw [Catalog.get?, Keyed.find?_remove_of_ne hpath] at hget
          exact hbefore.symm.trans hget
      · exact hbefore.symm.trans hget

theorem brings_dropAll (kind : ObjectKind) (ifExists : Bool) (names : List QualifiedName)
    (s : State) : Brings allowed s (dropAll kind ifExists names) := by
  induction names generalizing s with
  | nil => exact brings_of_reads (reads_pure _)
  | cons name rest ih =>
      refine (brings_of_reads (reads_pathOf name)).bind fun path s' _ => ?_
      exact (brings_drop path kind ifExists s').bind fun _ s'' _ => ih s''

theorem brings_registerFunction (f : UserFunction) (s : State) :
    Brings allowed s (changing fun c => (c.registerFunction f).map fun c => ((), c)) := by
  refine brings_changing fun _ c hregister path object hget => .inl ?_
  unfold Catalog.registerFunction at hregister
  split at hregister
  · cases hregister
  · cases hregister
    exact hget

end

theorem brings_createTable (t : CreateTable) (s : State) :
    Brings (Puts s (.createTable t)) s (createTable t) := by
  unfold createTable
  split
  · exact (brings_of_reads (reads_throw _)).bind fun _ _ hthrow => nomatch hthrow
  · refine (brings_of_reads (reads_pathOf t.name)).bind fun path s' hpath => ?_
    rw [pathOf_apply] at hpath
    obtain ⟨hqualify, rfl⟩ := Prod.mk.inj hpath
    exact (brings_create (.table hqualify) _ s).bind_pure _

theorem brings_createView (v : CreateView) (s : State) :
    Brings (Puts s (.createView v)) s (createView v) := by
  refine (brings_of_reads (reads_pathOf v.name)).bind fun path s' hpath => ?_
  rw [pathOf_apply] at hpath
  obtain ⟨hqualify, rfl⟩ := Prod.mk.inj hpath
  refine (brings_of_reads (reads_read _)).bind fun p s' hread => ?_
  obtain ⟨hquery, rfl⟩ := Prod.mk.inj hread
  dsimp only
  split
  · exact (brings_drop path .view true s).bind fun _ s' _ =>
      (brings_create (.view hqualify hquery) _ s').bind_pure _
  · exact (brings_create (.view hqualify hquery) _ s).bind_pure _

theorem brings_define (st : Statement) (s : State) : Brings (Puts s st) s (define st) := by
  cases st with
  | createTable t => exact (brings_createTable t s).bind_pure _
  | createView v => exact (brings_createView v s).bind_pure _
  | drop d =>
      exact (brings_of_reads (reads_read _)).bind fun kind s' _ =>
        (brings_dropAll kind d.ifExists d.names s').bind_pure _
  | showTables _ => exact brings_of_reads (reads_read _)
  | query _ => exact brings_of_reads (reads_pure _)
  | insert _ => exact brings_of_reads (reads_pure _)
  | modify _ => exact brings_of_reads (reads_pure _)
  | explain _ _ => exact brings_of_reads (reads_pure _)
  | other _ => exact brings_of_reads (reads_pure _)

/-! ### Calls -/

/-- The call runs a statement that puts the object under the path. -/
def Creates (s : State) (call : Engine.Call engine) (path : ObjectPath) (object : CatalogObject) :
    Prop :=
  ∃ text st, (call = .execute text ∨ call = .update text)
    ∧ Statement.readAll text = .ok [st] ∧ Puts s st path object

theorem get?_run {op : Operation} (h : (run op s).2.catalog.get? path = some object) :
    s.catalog.get? path = some object ∨ Puts s op.statement path object := by
  by_cases hkind : op.kind = .other
  · rw [run_of_other hkind] at h
    exact brings_define op.statement s path object h
  · rw [reads_run hkind s] at h
    exact .inl h

/-- An object that is found behind a call was found before, or the call creates it. -/
theorem get?_after (call : Engine.Call engine)
    (h : (call.after s).catalog.get? path = some object) :
    s.catalog.get? path = some object ∨ Creates s call path object := by
  cases call with
  | execute text =>
      replace h : (execute text s).2.catalog.get? path = some object := h
      cases hsingle : single s.catalog .execute text with
      | error e =>
          rw [execute_of_error hsingle] at h
          exact .inl h
      | ok op =>
          obtain ⟨st, hread, hop⟩ := single_eq_ok_iff.mp hsingle
          obtain rfl := (madeOf_of_operation hop).statement
          rw [execute_of_ok hsingle] at h
          exact (get?_run h).imp id fun hputs => ⟨text, _, .inl rfl, hread, hputs⟩
  | update text =>
      replace h : (update text s).2.catalog.get? path = some object := h
      cases hsingle : single s.catalog .update text with
      | error e =>
          rw [update_of_error hsingle] at h
          exact .inl h
      | ok op =>
          obtain ⟨st, hread, hop⟩ := single_eq_ok_iff.mp hsingle
          obtain rfl := (madeOf_of_operation hop).statement
          by_cases hrefused : op.kind = .query ∨ op.kind = .explain
          · rw [update_of_refused hsingle hrefused] at h
            exact .inl h
          · rw [not_or] at hrefused
            rw [update_of_ok hsingle hrefused.1 hrefused.2, bind_pure_state] at h
            exact (get?_run h).imp id fun hputs => ⟨text, _, .inr rfl, hread, hputs⟩
  | registerFunction f => exact brings_registerFunction f s path object h
  | parse _ => exact .inl h
  | explainText _ _ => exact .inl h
  | explain _ _ => exact .inl h
  | hints _ _ => exact .inl h
  | query _ => exact .inl h
  | translate _ => exact .inl h
  | graph _ => exact .inl h

/-- **What is found after some calls was created by one of them, and has been there since.** -/
theorem exists_creation {calls : List (Engine.Call engine)} (hnone : s.catalog.get? path = none)
    (h : (calls.foldl Engine.Call.after s).catalog.get? path = some object) :
    ∃ before call behind, calls = before ++ call :: behind
      ∧ Creates (before.foldl Engine.Call.after s) call path object
      ∧ ∀ some' more, behind = some' ++ more →
        ((before ++ call :: some').foldl Engine.Call.after s).catalog.get? path = some object := by
  induction calls using List.reverseRecOn with
  | nil =>
      rw [List.foldl_nil, hnone] at h
      cases h
  | append_singleton earlier last ih =>
      rw [List.foldl_concat] at h
      rcases get?_after last h with hbefore | hcreates
      · obtain ⟨before, call, behind, rfl, hcreates, hsince⟩ := ih hbefore
        refine ⟨before, call, behind ++ [last], by simp, hcreates, fun some' more hmore => ?_⟩
        -- Either the last call is among those that are left, or all of them were made.
        rcases List.eq_nil_or_concat' more with rfl | ⟨more', last', rfl⟩
        · rw [List.append_nil] at hmore
          rw [← hmore, ← List.cons_append, ← List.append_assoc, List.foldl_concat]
          exact h
        · rw [← List.append_assoc] at hmore
          exact hsince some' more' (List.append_inj_left' hmore rfl)
      · refine ⟨earlier, last, [], rfl, hcreates, fun some' more hmore => ?_⟩
        obtain ⟨rfl, -⟩ := List.append_eq_nil_iff.mp hmore.symm
        rw [List.foldl_concat]
        exact h

/-! ### Creating a view -/

/-- A view can be created under the path: nothing stands there, or another view that it is to
replace. -/
def Free (c : Catalog) (v : CreateView) (path : ObjectPath) : Prop :=
  c.get? path = none
    ∨ v.orReplace = true ∧ ∃ columns query, c.get? path = some (.view columns query)

theorem create_of_none (hnone : s.catalog.get? path = none) (object : CatalogObject)
    (ifNotExists : Bool) :
    ∃ s', (changing (fun c => c.create path object ifNotExists) >>= fun _ =>
          (pure () : Run State Unit)) s = (.ok (), s')
      ∧ s'.catalog.qualify = s.catalog.qualify ∧ s'.catalog.get? path = some object := by
  refine ⟨{ s with catalog := { s.catalog with objects := s.catalog.objects.put path object } },
    ?_, rfl, Keyed.find?_put_self path object _⟩
  rw [bind_of_ok (changing_of_ok (Catalog.create_of_none hnone object ifNotExists)), pure_apply]

/-- What stands in the way of a view makes way for it. -/
theorem drop_of_free (hfree : Free s.catalog v path) :
    ∃ b s', changing (fun c => c.drop path .view true) s = (.ok b, s')
      ∧ s'.catalog.qualify = s.catalog.qualify ∧ s'.catalog.get? path = none := by
  rcases hfree with hnone | ⟨-, columns, query, hview⟩
  · exact ⟨false, s, changing_of_ok (Catalog.drop_of_none hnone .view), rfl, hnone⟩
  · have hkind : (CatalogObject.view columns query).kind = .view := rfl
    have hdrop := Catalog.drop_of_kind hview hkind true
    exact ⟨true, _, changing_of_ok hdrop, rfl, Catalog.get?_of_drop hdrop⟩

/-- **A view is created with the columns of its query.** -/
theorem createView_of_free (hpath : s.catalog.qualify (QualifiedName.texts v.name) = .ok path)
    (hfree : Free s.catalog v path) (hquery : ofQuery s.catalog [] v.query = .ok p) :
    ∃ s', createView v s = (.ok (), s') ∧ s'.catalog.qualify = s.catalog.qualify
      ∧ s'.catalog.get? path = some (.view p.columns v.query.written) := by
  have hname : pathOf v.name s = (.ok path, s) := by rw [pathOf_apply, hpath]
  have hplan : read (fun s : State => ofQuery s.catalog [] v.query) s = (.ok p, s) := by
    rw [read_apply, hquery]
  unfold createView
  rw [bind_of_ok hname, bind_of_ok hplan]
  dsimp only
  split
  · obtain ⟨b, s', hdrop, hqualify, hnone⟩ := drop_of_free hfree
    rw [bind_of_ok hdrop, ← hqualify]
    exact create_of_none hnone _ _
  · rename_i hkept
    rcases hfree with hnone | ⟨hreplace, -⟩
    · exact create_of_none hnone _ _
    · exact absurd hreplace hkept

/-! ### Queries that are wrapped -/

/-- The second query hands on the rows of the first: it is a star over a derived table, or over a
query that is named in front, any number of times. -/
inductive Wraps (q : Query) : Query → Prop
  | self : Wraps q q
  | derived {r : Query} (lateral : Bool) (label : Option Alias) (h : Wraps q r) :
      Wraps q (everything [⟨.derived lateral r label, []⟩])
  | named {r : Query} (recursive : Bool) {label : Alias} {n : Name} (source : Option Name)
      (arguments : List Piece) (seen : Option Alias) (hints : List Piece)
      (hname : Text.lower n.text = Text.lower label.name.text) (h : Wraps q r) :
      Wraps q { everything [⟨.table [n] arguments seen hints, []⟩] with
        recursive := recursive, ctes := [⟨label, r, source⟩] }

/-- A star over sources that are planned is planned, with the columns of the sources. -/
theorem ofQuery_star {scope inner : Scope} {ctes : List Cte} {sources : List From} {source : Plan}
    (hscope : scopeOf c scope ctes = .ok inner) (hsource : ofSources c inner sources = .ok source)
    (recursive : Bool) :
    ∃ p, ofQuery c scope { everything sources with recursive := recursive, ctes := ctes } = .ok p
      ∧ p.columns = source.columns :=
  exists_ofQuery_star rfl rfl hscope hsource recursive

theorem ofSources_singleton (c : Catalog) (scope : Scope) (factor : Factor) :
    ofSources c scope [⟨factor, []⟩] = ofFactor c scope factor := by
  rw [ofSources, ofFrom]
  cases ofFactor c scope factor with
  | error e => rfl
  | ok p =>
      show (ofJoins c scope p [] >>= _) = _
      rw [ofJoins]
      show ofMoreSources c scope p [] = _
      rw [ofMoreSources]

/-- **A query that is wrapped yields the columns that it has by itself.** -/
theorem columns_of_wraps {scope : Scope} {q r : Query} (hwraps : Wraps q r)
    (hq : ofQuery c scope q = .ok p) :
    ∃ p', ofQuery c scope r = .ok p' ∧ p'.columns = p.columns := by
  induction hwraps with
  | self => exact ⟨p, hq, rfl⟩
  | @derived r lateral label _ ih =>
      obtain ⟨p', hr, hcolumns⟩ := ih
      obtain ⟨found, hfound, hsame⟩ := exists_ofFactor_derived hr lateral label
      rw [← ofSources_singleton] at hfound
      obtain ⟨star, hstar, hyields⟩ := ofQuery_star (by rw [scopeOf]) hfound false
      exact ⟨star, hstar, by rw [hyields, hsame, hcolumns]⟩
  | @named r recursive label n source arguments seen hints hname _ ih =>
      obtain ⟨p', hr, hcolumns⟩ := ih
      obtain ⟨inner, found, hscope, hfound, hsame⟩ :=
        exists_ofFactor_named hname hr source arguments seen hints
      rw [← ofSources_singleton] at hfound
      obtain ⟨star, hstar, hyields⟩ := ofQuery_star hscope hfound recursive
      exact ⟨star, hstar, by rw [hyields, hsame, hcolumns]⟩

/-! ### Stars -/

/-- A star over a view that has just been created yields the columns of its query. -/
theorem columns_of_created (hpath : s.catalog.qualify (QualifiedName.texts v.name) = .ok path)
    (hfree : Free s.catalog v path) (hquery : ofQuery s.catalog [] v.query = .ok p) :
    ∃ s', createView v s = (.ok (), s') ∧ ∀ arguments label hints, ∃ star,
      ofQuery s'.catalog [] (everything [⟨.table v.name arguments label hints, []⟩]) = .ok star
        ∧ star.columns = p.columns := by
  obtain ⟨s', hcreate, hqualify, hget⟩ := createView_of_free hpath hfree hquery
  refine ⟨s', hcreate, fun arguments label hints => ?_⟩
  rw [← hqualify] at hpath
  obtain ⟨found, hfound, hcolumns⟩ := exists_ofFactor_of_get? hpath hget arguments label hints
  rw [← ofSources_singleton] at hfound
  obtain ⟨star, hstar, hyields⟩ := ofQuery_star (by rw [scopeOf]) hfound false
  exact ⟨star, hstar, hyields.trans hcolumns⟩

/--
**A star yields the columns of its FROM clause.**  They are the columns of its relations, with
names and types, side by side in the order in which the relations are written.  A view that is
found after any calls was created by one of them and has been there since, and it has the columns
that its query had right before that call.  So a query that is wrapped in stars over derived
tables and named queries, or that is made a view, yields the columns that it has by itself.
-/
theorem star_columns :
    (∀ (c : Catalog) (scope inner : Scope) (ctes : List Cte) (sources : List From) (source : Plan),
        sources ≠ [] → scopeOf c scope ctes = .ok inner → ofSources c inner sources = .ok source →
          ∃ p lists, ofQuery c scope { everything sources with ctes := ctes } = .ok p
            ∧ List.Forall₂ (Yields c scope ctes) (relationsOf sources) lists
            ∧ p.columns = lists.flatten)
      ∧ (∀ (start : State) (calls : List (Engine.Call engine)) (path : ObjectPath)
          (columns : List Column) (query : String), start.catalog.objects = [] →
          (calls.foldl Engine.Call.after start).catalog.get? path = some (.view columns query) →
            ∃ before call behind text v p, calls = before ++ call :: behind
              ∧ (call = .execute text ∨ call = .update text)
              ∧ Statement.readAll text = .ok [.createView v]
              ∧ (before.foldl Engine.Call.after start).catalog.qualify
                (QualifiedName.texts v.name) = .ok path
              ∧ ofQuery (before.foldl Engine.Call.after start).catalog [] v.query = .ok p
              ∧ columns = p.columns ∧ query = v.query.written
              ∧ ∀ later more, behind = later ++ more →
                ((before ++ call :: later).foldl Engine.Call.after start).catalog.get? path
                  = some (.view columns query))
      ∧ (∀ (c : Catalog) (scope : Scope) (q r : Query) (p : Plan), Wraps q r →
          ofQuery c scope q = .ok p →
            ∃ p', ofQuery c scope r = .ok p' ∧ p'.columns = p.columns)
      ∧ ∀ (s : State) (v : CreateView) (path : ObjectPath) (p : Plan),
          s.catalog.qualify (QualifiedName.texts v.name) = .ok path → Free s.catalog v path →
          ofQuery s.catalog [] v.query = .ok p →
            ∃ s', createView v s = (.ok (), s') ∧ ∀ arguments label hints, ∃ star,
              ofQuery s'.catalog [] (everything [⟨.table v.name arguments label hints, []⟩])
                  = .ok star
                ∧ star.columns = p.columns := by
  refine ⟨?_, ?_, fun c scope q r p hwraps hq => columns_of_wraps hwraps hq,
    fun s v path p hpath hfree hquery => columns_of_created hpath hfree hquery⟩
  · intro c scope inner ctes sources source hsources hscope hsource
    obtain ⟨lists, hlists, hcolumns⟩ := sideBySide_of_ofSources hscope hsources hsource
    obtain ⟨p, hp, hyields⟩ := ofQuery_star hscope hsource false
    exact ⟨p, lists, hp, hlists, hyields.trans hcolumns⟩
  · intro start calls path columns query hempty hget
    have hnone : start.catalog.get? path = none := by
      rw [Catalog.get?, hempty, Keyed.find?_nil]
    obtain ⟨before, call, behind, hcalls, ⟨text, st, hcall, hread, hputs⟩, hsince⟩ :=
      exists_creation hnone hget
    cases hputs with
    | @view v _ p hpath hquery =>
        exact ⟨before, call, behind, text, v, p, hcalls, hcall, hread, hpath, hquery, rfl, rfl,
          hsince⟩

/-- Two tables and a query that is named in front, the last two between parentheses. -/
def threeSources : List From :=
  [⟨labelled "x", []⟩,
    ⟨.nested (crossing ⟨labelled "y", []⟩ (.table [.plain "W"] [] none [])) none, []⟩]

/-- The query `w` over the table `a`. -/
def queryW : List Cte :=
  [⟨⟨.plain "w", []⟩, plainly (.select (selecting false (number "1"))), none⟩]

/-- The calls that create a table and a view over it, and drop the table. -/
def viewLeft : List (Engine.Call engine) :=
  [.execute "CREATE TABLE a (i INT)", .execute "CREATE VIEW v AS SELECT i AS n FROM a",
    .execute "DROP TABLE a"]

/-- The engine with nothing in its catalog. -/
def nothing : State := ⟨.new "default_catalog" "default_database", 1⟩

/-- The view `w` with the rows of the query of that name. -/
def viewW : CreateView :=
  ⟨true, false, false, false, [.plain "w"], "", [], "",
    plainly (.select (selecting false (number "1"))), ""⟩

/-- A star over the query `w`, seen under another name. -/
def starOverW : Query :=
  { everything [⟨.table [.plain "W"] [] (some ⟨.plain "z", []⟩) [], []⟩] with ctes := queryW }

/-- Three relations with parentheses, a view that outlives its table, a query that is wrapped
twice, and a view that is created. -/
theorem star_columns_nested :
    (∃ p lists, ofQuery tableA [] { everything threeSources with ctes := queryW } = .ok p
        ∧ List.Forall₂ (Yields tableA [] queryW)
          [labelled "x", labelled "y", .table [.plain "W"] [] none []] lists
        ∧ p.columns = lists.flatten
        ∧ p.columns = [⟨"i", "INT"⟩, ⟨"i", "INT"⟩, ⟨"EXPR$0", "INT"⟩])
      ∧ (∃ before call behind text v p, viewLeft = before ++ call :: behind
        ∧ (call = .execute text ∨ call = .update text)
        ∧ Statement.readAll text = .ok [.createView v]
        ∧ ofQuery (before.foldl Engine.Call.after nothing).catalog [] v.query = .ok p
        ∧ p.columns = [⟨"n", "INT"⟩])
      ∧ (∃ p, ofQuery tableA [] (everything [⟨.derived false starOverW none, []⟩]) = .ok p
        ∧ p.columns = [⟨"EXPR$0", "INT"⟩])
      ∧ ∃ s', createView viewW ⟨tableA, 1⟩ = (.ok (), s') ∧ ∃ star,
        ofQuery s'.catalog [] (everything [⟨.table [.plain "w"] [] none [], []⟩]) = .ok star
          ∧ star.columns = [⟨"EXPR$0", "INT"⟩] := by
  obtain ⟨hstar, hview, hwraps, hcreate⟩ := star_columns
  refine ⟨?_, ?_, ?_, ?_⟩
  · obtain ⟨p, lists, hp, hlists, hcolumns⟩ :=
      hstar tableA [] _ queryW threeSources _ (by simp [threeSources]) rfl rfl
    have hknown : columns <$> ofQuery tableA [] { everything threeSources with ctes := queryW }
        = .ok [⟨"i", "INT"⟩, ⟨"i", "INT"⟩, ⟨"EXPR$0", "INT"⟩] := rfl
    rw [hp] at hknown
    exact ⟨p, lists, hp, hlists, hcolumns, Except.ok.inj hknown⟩
  · obtain ⟨before, call, behind, text, v, p, hcalls, hcall, hread, -, hquery, hcolumns, -⟩ :=
      hview nothing viewLeft ⟨"default_catalog", "default_database", "v"⟩ [⟨"n", "INT"⟩]
        "SELECT i AS n FROM a" rfl (by decide +kernel)
    exact ⟨before, call, behind, text, v, p, hcalls, hcall, hread, hquery, hcolumns.symm⟩
  · have hwrapped : Wraps (plainly (.select (selecting false (number "1")))) starOverW :=
      .named false none [] _ [] (by decide +kernel) .self
    obtain ⟨p, hp, hcolumns⟩ := hwraps tableA [] _ _ _ (.derived false none hwrapped) rfl
    exact ⟨p, hp, hcolumns⟩
  · obtain ⟨s', hs', hstars⟩ := hcreate ⟨tableA, 1⟩ viewW
      ⟨"default_catalog", "default_database", "w"⟩ _ rfl (.inl rfl) rfl
    obtain ⟨star, hstar, hcolumns⟩ := hstars [] none []
    exact ⟨s', hs', star, hstar, hcolumns⟩

end Stencil.Planning
