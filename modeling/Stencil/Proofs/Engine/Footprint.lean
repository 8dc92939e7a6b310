/-
What a statement can change, and through which call.

A query, an update and an execution read the same statement, so wherever two of them accept
it they do the same to it.  Of the statements only definitions change the catalog, and
these only what stands under the paths that they name: `Catalog.without` leaves those paths
out of a catalog, and what is left is the same before and after, whether the statement
succeeds or fails half way.
-/
import Stencil.Engine.Planning
import Stencil.Proofs.Catalog.Change
import Stencil.Proofs.Engine.Failure
import Stencil.Proofs.Engine.Operation

namespace Stencil

/-! ### Catalogs apart from some paths -/

namespace Keyed

variable {κ α : Type} [DecidableEq κ] {keys : List κ} {key : κ}

/-- The entries of all other keys. -/
def without (keys : List κ) (l : Keyed κ α) : Keyed κ α :=
  l.filter fun entry => entry.1 ∉ keys

theorem without_cons_of_mem (h : key ∈ keys) (value : α) (l : Keyed κ α) :
    without keys ((key, value) :: l) = without keys l :=
  List.filter_cons_of_neg (by simpa using h)

theorem without_remove (h : key ∈ keys) (l : Keyed κ α) :
    (l.remove key).without keys = l.without keys := by
  unfold without remove
  rw [List.filter_filter]
  refine List.filter_congr fun entry _ => ?_
  by_cases hentry : entry.1 = key
  · simp [hentry, h]
  · simp [hentry]

theorem without_put [LT κ] [DecidableLT κ] (h : key ∈ keys) (value : α) (l : Keyed κ α) :
    (l.put key value).without keys = l.without keys := by
  induction l with
  | nil => exact without_cons_of_mem h value []
  | cons entry rest ih =>
      obtain ⟨k, v⟩ := entry
      rw [put]
      split
      · rename_i heq
        rw [without_cons_of_mem h, without_cons_of_mem (heq ▸ h)]
      · split
        · exact without_cons_of_mem h value _
        · unfold without at ih ⊢
          rw [List.filter_cons, List.filter_cons, ih]

theorem find?_without (keys : List κ) (l : Keyed κ α) (key : κ) :
    (l.without keys).find? key = if key ∈ keys then none else l.find? key := by
  induction l with
  | nil => simp [without]
  | cons entry rest ih =>
      obtain ⟨k, v⟩ := entry
      by_cases hk : k ∈ keys
      · rw [without_cons_of_mem hk, ih, find?_cons]
        by_cases heq : k = key
        · rw [if_pos (heq ▸ hk), if_pos (heq ▸ hk)]
        · rw [if_neg heq]
      · have hrest : without keys ((k, v) :: rest) = (k, v) :: without keys rest :=
          List.filter_cons_of_pos (by simpa using hk)
        rw [hrest, find?_cons, ih, find?_cons]
        by_cases heq : k = key
        · rw [if_pos heq, if_neg (heq ▸ hk), if_pos heq]
        · rw [if_neg heq, if_neg heq]

end Keyed

namespace Catalog

variable {c c' : Catalog} {paths : List ObjectPath} {path : ObjectPath}

/-- The catalog without the objects under some paths. -/
def without (c : Catalog) (paths : List ObjectPath) : Catalog :=
  { c with objects := c.objects.without paths }

theorem without_create {object : CatalogObject} {ifNotExists b : Bool} (hmem : path ∈ paths)
    (h : c.create path object ifNotExists = .ok (b, c')) : c'.without paths = c.without paths := by
  rcases create_eq_ok h with rfl | rfl
  · rfl
  · unfold without
    rw [Keyed.without_put hmem]

theorem without_drop {kind : ObjectKind} {ifExists b : Bool} (hmem : path ∈ paths)
    (h : c.drop path kind ifExists = .ok (b, c')) : c'.without paths = c.without paths := by
  obtain ⟨object, -, -, -, rfl⟩ | ⟨-, -, -, rfl⟩ := drop_eq_ok h
  · unfold without
    rw [Keyed.without_remove hmem]
  · rfl

/-- Names are completed in the same way. -/
theorem qualify_of_without (h : c'.without paths = c.without paths) : c'.qualify = c.qualify := by
  injection h with hcatalog hdatabase
  funext names
  unfold qualify
  rw [hcatalog, hdatabase]

/-- What is found under any other path is the same. -/
theorem get?_of_without (h : c'.without paths = c.without paths) (hpath : path ∉ paths) :
    c'.get? path = c.get? path := by
  have hget : (c'.without paths).get? path = (c.without paths).get? path := by rw [h]
  unfold get? without at hget
  rwa [Keyed.find?_without, Keyed.find?_without, if_neg hpath, if_neg hpath] at hget

end Catalog

namespace Planning

open Run Sql

variable {s : State} {text : String}

/-! ### What a statement names -/

/-- The statements that create and drop tables and views. -/
inductive Defines : Statement → Prop
  | createTable (t : CreateTable) : Defines (.createTable t)
  | createView (v : CreateView) : Defines (.createView v)
  | dropTable (d : Drop) (h : d.kind = .table) : Defines (.drop d)
  | dropView (d : Drop) (h : d.kind = .view) : Defines (.drop d)

/-- The names of what a definition creates or drops. -/
def definedNames : Statement → List QualifiedName
  | .createTable t => [t.name]
  | .createView v => [v.name]
  | .drop d => d.names
  | _ => []

/-- The paths that the names of a definition stand for, those that stand for one. -/
def footprint (c : Catalog) (st : Statement) : List ObjectPath :=
  (definedNames st).filterMap fun name => (c.qualify (QualifiedName.texts name)).toOption

theorem mem_footprint {c : Catalog} {st : Statement} {name : QualifiedName} {path : ObjectPath}
    (hname : name ∈ definedNames st) (hpath : c.qualify (QualifiedName.texts name) = .ok path) :
    path ∈ footprint c st :=
  List.mem_filterMap.mpr ⟨name, hname, by rw [hpath]; rfl⟩

/-! ### What a definition leaves alone -/

section

variable {α β : Type} {paths : List ObjectPath}

/-- The run leaves the catalog alone but for some paths, also where it fails. -/
def Within (paths : List ObjectPath) (s : State) (r : Run State α) : Prop :=
  (r s).2.catalog.without paths = s.catalog.without paths

theorem within_of_reads {r : Run State α} (h : Reads r) : Within paths s r := by
  unfold Within
  rw [h s]

theorem within_changing {f : Catalog → Except Error (α × Catalog)}
    (h : ∀ a c, f s.catalog = .ok (a, c) → c.without paths = s.catalog.without paths) :
    Within paths s (changing f) := by
  unfold Within
  cases hf : f s.catalog with
  | ok p =>
      rw [changing_of_ok hf]
      exact h p.1 p.2 hf
  | error e => rw [changing_of_error hf]

theorem Within.bind {r : Run State α} {f : α → Run State β} (hr : Within paths s r)
    (hf : ∀ a s', r s = (.ok a, s') → s'.catalog.without paths = s.catalog.without paths →
      Within paths s' (f a)) : Within paths s (r >>= f) := by
  unfold Within at hr ⊢
  cases hrun : r s with
  | mk result s' =>
      rw [hrun] at hr
      cases result with
      | ok a =>
          rw [bind_of_ok hrun]
          exact (hf a s' hrun hr).trans hr
      | error e =>
          rw [bind_of_error hrun]
          exact hr

theorem Within.bind_pure {r : Run State α} (h : Within paths s r) (f : α → β) :
    Within paths s (r >>= fun a => pure (f a)) :=
  h.bind fun _ _ _ _ => within_of_reads (reads_pure _)

/-- What is done at the path of a name is done at one of the paths. -/
theorem within_pathOf_bind {name : QualifiedName} {f : ObjectPath → Run State β}
    (h : ∀ path, s.catalog.qualify (QualifiedName.texts name) = .ok path → path ∈ paths)
    (hf : ∀ path ∈ paths, Within paths s (f path)) : Within paths s (pathOf name >>= f) := by
  refine (within_of_reads (reads_pathOf name)).bind fun path s' hpath _ => ?_
  rw [pathOf_apply] at hpath
  obtain ⟨hqualify, rfl⟩ := Prod.mk.inj hpath
  exact hf path (h path hqualify)

theorem within_create {path : ObjectPath} (hmem : path ∈ paths) (object : CatalogObject)
    (ifNotExists : Bool) (s : State) :
    Within paths s (changing fun c => c.create path object ifNotExists) :=
  within_changing fun _ _ h => Catalog.without_create hmem h

theorem within_drop {path : ObjectPath} (hmem : path ∈ paths) (kind : ObjectKind)
    (ifExists : Bool) (s : State) : Within paths s (changing fun c => c.drop path kind ifExists) :=
  within_changing fun _ _ h => Catalog.without_drop hmem h

theorem within_createTable {t : CreateTable}
    (h : ∀ path, s.catalog.qualify (QualifiedName.texts t.name) = .ok path → path ∈ paths) :
    Within paths s (createTable t) := by
  unfold createTable
  split
  · exact (within_of_reads (reads_throw _)).bind fun _ _ hthrow _ => nomatch hthrow
  · exact within_pathOf_bind h fun path hmem => (within_create hmem _ _ s).bind_pure _

theorem within_createView {v : CreateView}
    (h : ∀ path, s.catalog.qualify (QualifiedName.texts v.name) = .ok path → path ∈ paths) :
    Within paths s (createView v) := by
  refine within_pathOf_bind h fun path hmem =>
    (within_of_reads (reads_read _)).bind fun p s' _ _ => ?_
  dsimp only
  split
  · -- What makes way stands under the same path.
    exact (within_drop hmem .view true s').bind fun _ s'' _ _ =>
      (within_create hmem _ _ s'').bind_pure _
  · exact (within_create hmem _ _ s').bind_pure _

theorem within_dropAll (kind : ObjectKind) (ifExists : Bool) {names : List QualifiedName}
    (h : ∀ name ∈ names, ∀ path,
      s.catalog.qualify (QualifiedName.texts name) = .ok path → path ∈ paths) :
    Within paths s (dropAll kind ifExists names) := by
  induction names generalizing s with
  | nil => exact within_of_reads (reads_pure _)
  | cons name rest ih =>
      refine within_pathOf_bind (h name List.mem_cons_self) fun path hmem =>
        (within_drop hmem kind ifExists s).bind fun _ s' _ hsame => ih ?_
      -- The names behind stand for the paths that they stood for before.
      rw [Catalog.qualify_of_without hsame]
      exact fun name' hname' => h name' (List.mem_cons_of_mem _ hname')

/-- A definition changes at most what stands under the paths that it names. -/
theorem within_define (s : State) (st : Statement) :
    Within (footprint s.catalog st) s (define st) := by
  cases st with
  | createTable t =>
      exact (within_createTable fun path => mem_footprint List.mem_cons_self).bind_pure _
  | createView v =>
      exact (within_createView fun path => mem_footprint List.mem_cons_self).bind_pure _
  | drop d =>
      refine (within_of_reads (reads_read _)).bind fun kind s' hkind _ => ?_
      obtain ⟨-, rfl⟩ := Prod.mk.inj hkind
      have hpaths : ∀ name ∈ d.names, ∀ path,
          s.catalog.qualify (QualifiedName.texts name) = .ok path →
            path ∈ footprint s.catalog (.drop d) := fun _ hname _ => mem_footprint hname
      exact (within_dropAll kind d.ifExists hpaths).bind_pure _
  | showTables _ => exact within_of_reads (reads_read _)
  | query _ => exact within_of_reads (reads_pure _)
  | insert _ => exact within_of_reads (reads_pure _)
  | modify _ => exact within_of_reads (reads_pure _)
  | explain _ _ => exact within_of_reads (reads_pure _)
  | other _ => exact within_of_reads (reads_pure _)

end

/-! ### Which statements change the catalog -/

/-- What takes effect at all creates or drops a table or a view. -/
theorem defines_of_define_ne {st : Statement} (h : (define st s).2 ≠ s) : Defines st := by
  cases st with
  | createTable t => exact .createTable t
  | createView v => exact .createView v
  | drop d =>
      cases hkind : d.kind with
      | table => exact .dropTable d hkind
      | view => exact .dropView d hkind
      | other words =>
          have hrefused : droppedKind d.kind = .error (.unsupportedDrop words) := by
            rw [hkind]
            rfl
          rw [define_drop_of_error hrefused] at h
          exact absurd rfl h
  | showTables _ => exact absurd (reads_read _ s) h
  | query _ => exact absurd (reads_pure _ s) h
  | insert _ => exact absurd (reads_pure _ s) h
  | modify _ => exact absurd (reads_pure _ s) h
  | explain _ _ => exact absurd (reads_pure _ s) h
  | other _ => exact absurd (reads_pure _ s) h

/-- An execution that changes anything is one of a definition, and stays within its paths. -/
theorem execute_ne (h : (execute text s).2 ≠ s) :
    ∃ st, Statement.readAll text = .ok [st] ∧ Defines st
      ∧ Within (footprint s.catalog st) s (execute text) := by
  cases hsingle : single s.catalog .execute text with
  | error e =>
      rw [execute_of_error hsingle] at h
      exact absurd rfl h
  | ok op =>
      obtain ⟨st, hread, hop⟩ := single_eq_ok_iff.mp hsingle
      obtain rfl := (madeOf_of_operation hop).statement
      unfold Within
      rw [execute_of_ok hsingle] at h ⊢
      by_cases hkind : op.kind = .other
      · rw [run_of_other hkind] at h ⊢
        exact ⟨op.statement, hread, defines_of_define_ne h, within_define s op.statement⟩
      · exact absurd (reads_run hkind s) h

/-- An object that no statement of the text names is found as before. -/
theorem get?_execute {path : ObjectPath}
    (h : ∀ st, Statement.readAll text = .ok [st] → path ∉ footprint s.catalog st) :
    (execute text s).2.catalog.get? path = s.catalog.get? path := by
  by_cases hsame : (execute text s).2 = s
  · rw [hsame]
  · obtain ⟨st, hread, -, hwithin⟩ := execute_ne hsame
    exact Catalog.get?_of_without hwithin (h st hread)

/-! ### Three calls for one statement -/

theorem kindOf_eq_query {st : Statement} : kindOf st = .query ↔ ∃ q, st = .query q := by
  cases st <;> simp [kindOf]

theorem kindOf_eq_explain {st : Statement} :
    kindOf st = .explain ↔ ∃ lead inner, st = .explain lead inner := by
  cases st <;> simp [kindOf]

/-- A query succeeds where its execution does, with the same columns. -/
theorem query_eq_ok_iff {columns : List Column} :
    (∃ r, query s text = .ok r ∧ r.columns = columns)
      ↔ ∃ q result, Statement.readAll text = .ok [.query q]
        ∧ (execute text s).1 = .ok result ∧ result.columns = columns := by
  constructor
  · rintro ⟨r, h, rfl⟩
    obtain ⟨op, hsingle, h⟩ := bind_eq_ok.mp h
    obtain ⟨st, hread, hop⟩ := single_eq_ok_iff.mp hsingle
    have made := madeOf_of_operation hop
    by_cases hkind : op.kind = .query
    · rw [if_pos hkind] at h
      cases h
      obtain ⟨q, rfl⟩ := kindOf_eq_query.mp (made.kind ▸ hkind)
      refine ⟨q, .withRows op.columns [], hread, ?_, rfl⟩
      rw [execute_of_ok ((single_of_readAll hread).trans hop), run, hkind]
      rfl
    · rw [if_neg hkind] at h
      cases h
  · rintro ⟨q, result, hread, h, rfl⟩
    cases hop : operation s.catalog (.query q) with
    | error e =>
        rw [execute_of_error ((single_of_readAll hread).trans hop)] at h
        cases h
    | ok op =>
        have hkind : op.kind = .query := (madeOf_of_operation hop).kind
        rw [execute_of_ok ((single_of_readAll hread).trans hop), run, hkind] at h
        cases h
        refine ⟨⟨op.columns, .query op.summary⟩, ?_, rfl⟩
        unfold query
        rw [single_of_readAll hread, hop]
        exact if_pos hkind

/-- An update succeeds where the execution of what is neither a query nor an explanation does,
in the same state. -/
theorem update_eq_ok_iff {s' : State} :
    update text s = (.ok (), s')
      ↔ ∃ st result, Statement.readAll text = .ok [st]
        ∧ (∀ q, st ≠ .query q) ∧ (∀ lead inner, st ≠ .explain lead inner)
        ∧ execute text s = (.ok result, s') := by
  constructor
  · intro h
    cases hsingle : single s.catalog .update text with
    | error e =>
        rw [update_of_error hsingle] at h
        cases h
    | ok op =>
        obtain ⟨st, hread, hop⟩ := single_eq_ok_iff.mp hsingle
        have made := madeOf_of_operation hop
        by_cases hrefused : op.kind = .query ∨ op.kind = .explain
        · rw [update_of_refused hsingle hrefused] at h
          cases h
        · rw [not_or] at hrefused
          rw [update_of_ok hsingle hrefused.1 hrefused.2] at h
          obtain ⟨result, t, hrun, hlast⟩ := Run.bind_eq_ok.mp h
          cases hlast
          refine ⟨st, result, hread, ?_, ?_, ?_⟩
          · rintro q rfl
            exact hrefused.1 made.kind
          · rintro lead inner rfl
            exact hrefused.2 made.kind
          · rw [execute_of_ok ((single_of_readAll hread).trans hop), hrun]
  · rintro ⟨st, result, hread, hquery, hexplain, h⟩
    cases hop : operation s.catalog st with
    | error e =>
        rw [execute_of_error ((single_of_readAll hread).trans hop)] at h
        cases h
    | ok op =>
        have made := madeOf_of_operation hop
        rw [execute_of_ok ((single_of_readAll hread).trans hop)] at h
        rw [update_of_ok ((single_of_readAll hread).trans hop), bind_of_ok h, pure_apply]
        · rw [made.kind]
          exact fun hkind => (kindOf_eq_query.mp hkind).elim hquery
        · rw [made.kind]
          intro hkind
          obtain ⟨lead, inner, rfl⟩ := kindOf_eq_explain.mp hkind
          exact hexplain lead inner rfl

/-- **A query and an update succeed exactly where an execution of a statement that they accept
does, to the same effect; and an execution changes the catalog only where it creates or drops
tables or views, under the paths that the statement names.** -/
theorem calls_agree (s : State) (text : String) :
    (∀ columns, (∃ r, engine.query text s = (.ok r, s) ∧ r.columns = columns)
        ↔ ∃ q result, Statement.readAll text = .ok [.query q]
          ∧ (engine.execute text s).1 = .ok result ∧ result.columns = columns)
      ∧ (∀ s', engine.update text s = (.ok (), s')
        ↔ ∃ st result, Statement.readAll text = .ok [st]
          ∧ (∀ q, st ≠ .query q) ∧ (∀ lead inner, st ≠ .explain lead inner)
          ∧ engine.execute text s = (.ok result, s'))
      ∧ ((engine.execute text s).2 ≠ s →
        ∃ st, Statement.readAll text = .ok [st] ∧ Defines st
          ∧ (engine.execute text s).2.catalog.without (footprint s.catalog st)
            = s.catalog.without (footprint s.catalog st)) := by
  refine ⟨fun columns => ?_, fun s' => update_eq_ok_iff, execute_ne⟩
  have hquery (r : Relation) : engine.query text s = (.ok r, s) ↔ query s text = .ok r :=
    ⟨fun h => (Prod.mk.inj h).1, fun h => Prod.ext h rfl⟩
  simp only [hquery]
  exact query_eq_ok_iff

/-- The drop fails at its second table.  The first one is gone by then, and nothing else is. -/
theorem calls_agree_drop :
    (engine.execute "DROP TABLE a, b" oneTable).1
        = .error (.doesNotExist .table "default_catalog.default_database.b")
      ∧ (engine.execute "DROP TABLE a, b" oneTable).2 ≠ oneTable
      ∧ ∃ st, Statement.readAll "DROP TABLE a, b" = .ok [st] ∧ Defines st
        ∧ (engine.execute "DROP TABLE a, b" oneTable).2.catalog.without
            (footprint oneTable.catalog st)
          = oneTable.catalog.without (footprint oneTable.catalog st) := by
  have hne : (engine.execute "DROP TABLE a, b" oneTable).2 ≠ oneTable := by decide +kernel
  exact ⟨by decide +kernel, hne, (calls_agree oneTable "DROP TABLE a, b").2.2 hne⟩

end Planning
end Stencil
