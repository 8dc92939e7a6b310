/-
What a failed statement leaves behind.

Every statement but one either reads the state, or changes it in one step that comes
last, so that it leaves nothing behind when it fails.  Two need a closer look.  A
view that replaces another is dropped and created, but the drop makes way for the
creation, which cannot fail any more.  A DROP takes its names one after the other,
and what it took away before it failed stays away: `takesAway` says of a list of
names whether that happens.
-/
import Mathlib.Control.Monad.Basic
import Stencil.Engine.Planning
import Stencil.Proofs.Catalog.Change
import Stencil.Proofs.Engine.Operation
import Stencil.Proofs.Run

namespace Stencil

namespace Planning

open Run Sql

variable {α : Type}

/-! ### Changing the catalog -/

theorem changing_of_ok {f : Catalog → Except Error (α × Catalog)} {s : State} {a : α}
    {c : Catalog} (h : f s.catalog = .ok (a, c)) :
    changing f s = (.ok a, { s with catalog := c }) :=
  change_of_ok (by rw [h]; rfl)

theorem changing_of_error {f : Catalog → Except Error (α × Catalog)} {s : State} {e : Error}
    (h : f s.catalog = .error e) : changing f s = (.error e, s) :=
  change_of_error (by rw [h]; rfl)

theorem atomic_changing (f : Catalog → Except Error (α × Catalog)) : Atomic (changing f) :=
  atomic_change _

theorem pathOf_apply (name : QualifiedName) (s : State) :
    pathOf name s = (s.catalog.qualify (QualifiedName.texts name), s) := rfl

theorem reads_pathOf (name : QualifiedName) : Reads (pathOf name) := reads_read _

/-! ### Definitions that are atomic -/

theorem atomic_createTable (t : CreateTable) : Atomic (createTable t) := by
  unfold createTable
  split
  · exact (reads_throw _).bind_atomic fun _ => (reads_pathOf _).bind_atomic fun _ =>
      (atomic_changing _).bind_pure _
  · exact (reads_pathOf _).bind_atomic fun _ => (atomic_changing _).bind_pure _

/-- Once the drop has made way, nothing is left that the creation could fail at. -/
theorem atomic_replace (path : ObjectPath) (object : CatalogObject) (kind : ObjectKind)
    (ifNotExists : Bool) :
    Atomic (changing (fun c => c.drop path kind true) >>= fun _ =>
      changing (fun c => c.create path object ifNotExists) >>= fun _ =>
        (pure () : Run State Unit)) := by
  intro s e s' h
  cases hdrop : s.catalog.drop path kind true with
  | error e' =>
      rw [bind_of_error (changing_of_error hdrop)] at h
      exact (Prod.mk.inj h).2.symm
  | ok dropped =>
      obtain ⟨b, c⟩ := dropped
      have hnone := Catalog.get?_of_drop hdrop
      have hcreate : changing (fun c => c.create path object ifNotExists) { s with catalog := c }
          = (.ok true, { s with catalog := { c with objects := c.objects.put path object } }) :=
        changing_of_ok (Catalog.create_of_none hnone object ifNotExists)
      rw [bind_of_ok (changing_of_ok hdrop), bind_of_ok hcreate] at h
      cases h

theorem atomic_createView (v : CreateView) : Atomic (createView v) := by
  unfold createView
  refine (reads_pathOf _).bind_atomic fun path => (reads_read _).bind_atomic fun p => ?_
  dsimp only
  split
  · exact atomic_replace path _ .view _
  · exact (atomic_changing _).bind_pure _

/-! ### Names that are dropped one after the other -/

/-- Some object is taken away before a name fails: the first name of an object names one of the
kind, and the names before it are skipped because nothing is there. -/
def takesAway (c : Catalog) (kind : ObjectKind) (ifExists : Bool) : List QualifiedName → Bool
  | [] => false
  | name :: rest =>
    match c.qualify (QualifiedName.texts name) with
    | .error _ => false
    | .ok path =>
      match c.get? path with
      | some object => object.kind = kind
      | none => ifExists && takesAway c kind ifExists rest

section

variable {kind : ObjectKind} {ifExists : Bool} {name : QualifiedName} {path : ObjectPath}
  {s : State}

theorem dropAll_of_invalid {e : Error}
    (h : s.catalog.qualify (QualifiedName.texts name) = .error e) (rest : List QualifiedName) :
    dropAll kind ifExists (name :: rest) s = (.error e, s) :=
  bind_of_error (by rw [pathOf_apply, h]) _

theorem takesAway_of_some {c : Catalog} {object : CatalogObject} {rest : List QualifiedName}
    (hpath : c.qualify (QualifiedName.texts name) = .ok path)
    (hget : c.get? path = some object) :
    takesAway c kind ifExists (name :: rest) = decide (object.kind = kind) := by
  simp [takesAway, hpath, hget]

theorem takesAway_of_none {c : Catalog} {rest : List QualifiedName}
    (hpath : c.qualify (QualifiedName.texts name) = .ok path) (hget : c.get? path = none) :
    takesAway c kind ifExists (name :: rest)
      = (ifExists && takesAway c kind ifExists rest) := by
  simp [takesAway, hpath, hget]

theorem dropAll_of_drop_error {e : Error}
    (hpath : s.catalog.qualify (QualifiedName.texts name) = .ok path)
    (h : s.catalog.drop path kind ifExists = .error e) (rest : List QualifiedName) :
    dropAll kind ifExists (name :: rest) s = (.error e, s) := by
  rw [dropAll, bind_of_ok (by rw [pathOf_apply, hpath])]
  exact bind_of_error (changing_of_error h) _

theorem dropAll_of_drop {b : Bool} {c : Catalog}
    (hpath : s.catalog.qualify (QualifiedName.texts name) = .ok path)
    (h : s.catalog.drop path kind ifExists = .ok (b, c)) (rest : List QualifiedName) :
    dropAll kind ifExists (name :: rest) s
      = dropAll kind ifExists rest { s with catalog := c } := by
  rw [dropAll, bind_of_ok (by rw [pathOf_apply, hpath])]
  exact bind_of_ok (changing_of_ok h) _

end

/-- What is missing stays missing. -/
theorem get?_of_dropAll (kind : ObjectKind) (ifExists : Bool) (names : List QualifiedName)
    {s : State} {path : ObjectPath} (h : s.catalog.get? path = none) :
    (dropAll kind ifExists names s).2.catalog.get? path = none := by
  induction names generalizing s with
  | nil => exact h
  | cons name rest ih =>
      cases hpath : s.catalog.qualify (QualifiedName.texts name) with
      | error e =>
          rw [dropAll_of_invalid hpath]
          exact h
      | ok path' =>
          cases hdrop : s.catalog.drop path' kind ifExists with
          | error e =>
              rw [dropAll_of_drop_error hpath hdrop]
              exact h
          | ok dropped =>
              obtain ⟨b, c⟩ := dropped
              rw [dropAll_of_drop hpath hdrop]
              exact ih (Catalog.get?_of_drop_of_none hdrop h)

/-- **Dropping several names leaves the catalog as it was if and only if nothing is taken
away.** -/
theorem dropAll_catalog_eq_iff (kind : ObjectKind) (ifExists : Bool) (names : List QualifiedName)
    (s : State) :
    (dropAll kind ifExists names s).2.catalog = s.catalog
      ↔ takesAway s.catalog kind ifExists names = false := by
  induction names generalizing s with
  | nil => exact ⟨fun _ => rfl, fun _ => rfl⟩
  | cons name rest ih =>
      cases hpath : s.catalog.qualify (QualifiedName.texts name) with
      | error e => simp [dropAll_of_invalid hpath, takesAway, hpath]
      | ok path =>
          cases hget : s.catalog.get? path with
          | some object =>
              rw [takesAway_of_some hpath hget]
              by_cases hkind : object.kind = kind
              · -- The object is gone, and no later name brings it back.
                have hdrop := Catalog.drop_of_kind hget hkind ifExists
                rw [dropAll_of_drop hpath hdrop]
                refine ⟨fun heq => ?_, fun h => by simp [hkind] at h⟩
                have hgone := get?_of_dropAll (s := { s with catalog := _ }) kind ifExists rest
                  (Catalog.get?_of_drop hdrop)
                rw [heq, hget] at hgone
                cases hgone
              · have hdrop := Catalog.drop_of_ne_kind hget hkind ifExists
                simp [dropAll_of_drop_error hpath hdrop, hkind]
          | none =>
              rw [takesAway_of_none hpath hget]
              cases ifExists with
              | true =>
                  rw [dropAll_of_drop hpath (Catalog.drop_of_none hget kind)]
                  exact ih s
              | false =>
                  have hdrop := Catalog.drop_of_none_error hget kind
                  simp [dropAll_of_drop_error hpath hdrop]

/-! ### Failed statements -/

/-- The statement is a drop that takes some object away, whether it fails later or not. -/
def dropsSome (c : Catalog) : Statement → Bool
  | .drop d =>
    match droppedKind d.kind with
    | .ok kind => takesAway c kind d.ifExists d.names
    | .error _ => false
  | _ => false

theorem dropsSome_of_kind {c : Catalog} {statement : Statement} (h : kindOf statement ≠ .other) :
    dropsSome c statement = false := by
  cases statement <;> first | rfl | exact absurd rfl h

/-- A definition other than a drop leaves nothing behind when it fails. -/
theorem atomic_define {statement : Statement} (h : ∀ d, statement ≠ .drop d) :
    Atomic (define statement) := by
  cases statement with
  | createTable t => exact (atomic_createTable t).bind_pure _
  | createView v => exact (atomic_createView v).bind_pure _
  | drop d => exact absurd rfl (h d)
  | showTables _ => exact (reads_read _).atomic
  | query _ => exact (reads_pure _).atomic
  | insert _ => exact (reads_pure _).atomic
  | modify _ => exact (reads_pure _).atomic
  | explain _ _ => exact (reads_pure _).atomic
  | other _ => exact (reads_pure _).atomic

theorem define_drop_of_error {d : Drop} {s : State} {e : Error}
    (h : droppedKind d.kind = .error e) : define (.drop d) s = (.error e, s) :=
  read_bind_of_error (f := fun _ : State => droppedKind d.kind) h _

theorem define_drop_of_ok {d : Drop} {s : State} {kind : ObjectKind}
    (h : droppedKind d.kind = .ok kind) :
    define (.drop d) s
      = (dropAll kind d.ifExists d.names >>= fun _ => pure TableResult.ok) s :=
  read_bind_of_ok (f := fun _ : State => droppedKind d.kind) h _

/-- What a failed drop leaves behind is what its names leave behind. -/
theorem drop_catalog_eq_iff {d : Drop} {s s' : State} {e : Error}
    (h : define (.drop d) s = (.error e, s')) :
    s'.catalog = s.catalog ↔ dropsSome s.catalog (.drop d) = false := by
  cases hkind : droppedKind d.kind with
  | error e' =>
      rw [define_drop_of_error hkind] at h
      obtain ⟨-, rfl⟩ := Prod.mk.inj h
      simp [dropsSome, hkind]
  | ok kind =>
      rw [define_drop_of_ok hkind] at h
      have hall := dropAll_catalog_eq_iff kind d.ifExists d.names s
      rw [bind_pure_eq_error h] at hall
      simpa [dropsSome, hkind] using hall

theorem define_catalog_eq_iff {statement : Statement} {s s' : State} {e : Error}
    (h : define statement s = (.error e, s')) :
    s'.catalog = s.catalog ↔ dropsSome s.catalog statement = false := by
  by_cases hdrop : ∃ d, statement = .drop d
  · obtain ⟨d, rfl⟩ := hdrop
    exact drop_catalog_eq_iff h
  · have hne : ∀ d, statement ≠ .drop d := fun d hd => hdrop ⟨d, hd⟩
    rw [atomic_define hne s e s' h]
    refine ⟨fun _ => ?_, fun _ => rfl⟩
    cases statement <;> first | rfl | exact absurd rfl (hne _)

theorem run_catalog_eq_iff {op : Operation} {s s' : State} {e : Error}
    (hop : op.kind = kindOf op.statement) (h : run op s = (.error e, s')) :
    s'.catalog = s.catalog ↔ dropsSome s.catalog op.statement = false := by
  by_cases hkind : op.kind = .other
  · rw [run_of_other hkind] at h
    exact define_catalog_eq_iff h
  · rw [(reads_run hkind).atomic s e s' h, dropsSome_of_kind (hop ▸ hkind)]
    exact ⟨fun _ => rfl, fun _ => rfl⟩

/-- The text is a single statement that drops some object. -/
def DropsSome (c : Catalog) (text : String) : Prop :=
  ∃ op, parse c text = .ok [op] ∧ dropsSome c op.statement = true

theorem not_dropsSome_of_error {c : Catalog} {text : String} {entry : EntryPoint} {e : Error}
    (h : single c entry text = .error e) : ¬ DropsSome c text := by
  rintro ⟨op, hop, -⟩
  rw [single_eq_ok.mpr hop] at h
  cases h

theorem dropsSome_iff_of_single {c : Catalog} {text : String} {entry : EntryPoint}
    {op : Operation} (h : single c entry text = .ok op) :
    DropsSome c text ↔ dropsSome c op.statement = true := by
  have hop := single_eq_ok.mp h
  constructor
  · rintro ⟨op', hop', hdrops⟩
    rw [hop] at hop'
    cases hop'
    exact hdrops
  · intro hdrops
    exact ⟨op, hop, hdrops⟩

theorem execute_catalog_eq_iff {text : String} {s s' : State} {e : Error}
    (h : execute text s = (.error e, s')) :
    s'.catalog = s.catalog ↔ ¬ DropsSome s.catalog text := by
  cases hsingle : single s.catalog .execute text with
  | error e' =>
      rw [execute_of_error hsingle] at h
      obtain ⟨-, rfl⟩ := Prod.mk.inj h
      exact ⟨fun _ => not_dropsSome_of_error hsingle, fun _ => rfl⟩
  | ok op =>
      rw [execute_of_ok hsingle] at h
      rw [dropsSome_iff_of_single hsingle, Bool.not_eq_true]
      exact run_catalog_eq_iff (madeOf_of_single hsingle).kind h

theorem update_catalog_eq_iff {text : String} {s s' : State} {e : Error}
    (h : update text s = (.error e, s')) :
    s'.catalog = s.catalog ↔ ¬ DropsSome s.catalog text := by
  cases hsingle : single s.catalog .update text with
  | error e' =>
      rw [update_of_error hsingle] at h
      obtain ⟨-, rfl⟩ := Prod.mk.inj h
      exact ⟨fun _ => not_dropsSome_of_error hsingle, fun _ => rfl⟩
  | ok op =>
      have made := madeOf_of_single hsingle
      rw [dropsSome_iff_of_single hsingle, Bool.not_eq_true]
      by_cases hrefused : op.kind = .query ∨ op.kind = .explain
      · have hkind : kindOf op.statement ≠ .other := by
          rw [← made.kind]
          rcases hrefused with h | h <;> simp [h]
        rw [update_of_refused hsingle hrefused] at h
        obtain ⟨-, rfl⟩ := Prod.mk.inj h
        exact ⟨fun _ => dropsSome_of_kind hkind, fun _ => rfl⟩
      · rw [not_or] at hrefused
        rw [update_of_ok hsingle hrefused.1 hrefused.2] at h
        exact run_catalog_eq_iff made.kind (bind_pure_eq_error h)

/-- **A statement that fails leaves the catalog as it was, unless it is a DROP that took an
object away before one of its later names failed.** -/
theorem failed_catalog_eq_iff {text : String} {s s' : State} {e : Error}
    (h : execute text s = (.error e, s') ∨ update text s = (.error e, s')) :
    s'.catalog = s.catalog ↔ ¬ DropsSome s.catalog text := by
  rcases h with h | h
  · exact execute_catalog_eq_iff h
  · exact update_catalog_eq_iff h

/-- The missing table comes first, so the drop fails with nothing taken away. -/
theorem failed_catalog_missing_first :
    update "DROP TABLE b, a" oneTable
        = (.error (.doesNotExist .table "default_catalog.default_database.b"), oneTable)
      ∧ ¬ DropsSome oneTable.catalog "DROP TABLE b, a" := by
  have h : update "DROP TABLE b, a" oneTable
      = (.error (.doesNotExist .table "default_catalog.default_database.b"), oneTable) :=
    Prod.ext (by decide +kernel) (by decide +kernel)
  exact ⟨h, (failed_catalog_eq_iff (.inr h)).mp rfl⟩

/-- The missing table comes last: the drop fails, and the table before it is gone. -/
theorem failed_catalog_missing_last :
    ∃ e s', execute "DROP TABLE a, b" oneTable = (.error e, s')
      ∧ s'.catalog ≠ oneTable.catalog := by
  refine ⟨.doesNotExist .table "default_catalog.default_database.b",
    ⟨⟨"default_catalog", "default_database", [], []⟩, 1⟩, ?_, by decide⟩
  exact Prod.ext (by decide +kernel) (by decide +kernel)

end Planning
end Stencil
