/-
Plans that the planning engine runs.

Whatever has a plan has a well-formed one, so an insertion always writes somewhere,
and running a statement never comes upon a fault of the engine itself: every error
is about the statement or about the catalog.
-/
import Stencil.Proofs.Engine.Failure
import Stencil.Proofs.Plan.Shape

namespace Stencil.Planning

open Run Sql

variable {α : Type} {c : Catalog} {op : Operation}

/-! ### Reading -/

theorem ends_readAll (text : String) :
    Ends (fun _ => True) Error.Ordinary (Statement.readAll text) := by
  unfold Statement.readAll
  split
  · trivial
  · exact nofun

theorem ends_operation (s : Statement) :
    Ends (fun _ => True) Error.Ordinary (operation c s) :=
  (Plan.ends_ofStatement c (planned s)).bind fun _ _ => trivial

theorem ends_parse (text : String) : Ends (fun _ => True) Error.Ordinary (parse c text) :=
  (ends_readAll text).bind fun _ _ => (Ends.mapM fun s _ => ends_operation s).imp fun _ _ => trivial

theorem ends_single (entry : EntryPoint) (text : String) :
    Ends (fun _ => True) Error.Ordinary (single c entry text) := by
  unfold single
  refine (ends_parse text).bind fun ops _ => ?_
  split
  · trivial
  · exact nofun

/-! ### Definitions -/

theorem raises_changing {f : Catalog → Except Error (α × Catalog)}
    (h : ∀ c, Ends (fun _ => True) Error.Ordinary (f c)) : Raises Error.Ordinary (changing f) :=
  raises_change fun s => (h s.catalog).map fun _ _ => trivial

theorem raises_pathOf (name : QualifiedName) : Raises Error.Ordinary (pathOf name) :=
  raises_read fun _ => Plan.ends_qualify _

theorem ends_create (path : ObjectPath) (object : CatalogObject) (ifNotExists : Bool) :
    Ends (fun _ => True) Error.Ordinary (c.create path object ifNotExists) := by
  unfold Catalog.create
  split
  · split
    · trivial
    · exact nofun
  · trivial

theorem ends_drop (path : ObjectPath) (kind : ObjectKind) (ifExists : Bool) :
    Ends (fun _ => True) Error.Ordinary (c.drop path kind ifExists) := by
  unfold Catalog.drop
  split
  · split
    · trivial
    · exact nofun
  · split
    · trivial
    · exact nofun

theorem raises_createTable (t : CreateTable) : Raises Error.Ordinary (createTable t) := by
  unfold createTable
  split
  · refine (raises_throw nofun).bind fun _ => (raises_pathOf _).bind fun path => ?_
    exact (raises_changing fun c => ends_create ..).bind fun _ => raises_pure _
  · refine (raises_pathOf _).bind fun path => ?_
    exact (raises_changing fun c => ends_create ..).bind fun _ => raises_pure _

theorem raises_createView (v : CreateView) : Raises Error.Ordinary (createView v) := by
  unfold createView
  refine (raises_pathOf _).bind fun path => Raises.bind ?_ fun p => ?_
  · exact raises_read fun s => (Plan.ends_ofQuery v.query Plan.allClosed_nil).imp fun _ _ => trivial
  · have hcreate : Raises Error.Ordinary (changing (fun c =>
          c.create path (.view p.columns v.query.written) v.ifNotExists)
        >>= fun _ => (pure () : Run State Unit)) :=
      (raises_changing fun c => ends_create ..).bind fun _ => raises_pure _
    dsimp only
    split
    · exact (raises_changing fun c => ends_drop ..).bind fun _ => hcreate
    · exact hcreate

theorem raises_dropAll (kind : ObjectKind) (ifExists : Bool) (names : List QualifiedName) :
    Raises Error.Ordinary (dropAll kind ifExists names) := by
  induction names with
  | nil => exact raises_pure _
  | cons name rest ih =>
      refine (raises_pathOf name).bind fun path => ?_
      exact (raises_changing fun c => ends_drop ..).bind fun _ => ih

theorem ends_droppedKind (kind : DropKind) :
    Ends (fun _ => True) Error.Ordinary (droppedKind kind) := by
  cases kind with
  | other words => exact nofun
  | _ => trivial

theorem raises_define (statement : Statement) : Raises Error.Ordinary (define statement) := by
  cases statement with
  | createTable t => exact (raises_createTable t).bind fun _ => raises_pure _
  | createView v => exact (raises_createView v).bind fun _ => raises_pure _
  | drop d =>
      refine (raises_read fun _ => ends_droppedKind d.kind).bind fun kind => ?_
      exact (raises_dropAll kind d.ifExists d.names).bind fun _ => raises_pure _
  | showTables text => exact raises_read fun s => trivial
  | _ => exact raises_pure _

/-! ### Running -/

theorem ends_getPlan (op : Operation) :
    Ends (fun p => op.plan = some p) Error.Ordinary op.getPlan := by
  unfold Operation.getPlan
  split
  · assumption
  · exact nofun

theorem ends_sinkOf {p : Plan} (h : p.isSink = true) :
    Ends (fun _ => True) Error.Ordinary (sinkOf p) := by
  unfold Plan.isSink at h
  unfold sinkOf
  split
  · trivial
  · simp_all

/-- Only insertions are planned among the statements that modify data. -/
theorem isInsertion_of_modify {s : Statement} {p : Plan} (hkind : kindOf s = .modify)
    (hplan : Plan.ofStatement c (planned s) = .ok (some p)) :
    (planned s).isInsertion = true := by
  cases s with
  | insert i => rfl
  | modify text => cases hplan
  | _ => cases hkind

/-- The plan of what modifies data writes into a table. -/
theorem isSink_of_modify {p : Plan} {s : Statement} (made : MadeOf c s op)
    (hkind : op.kind = .modify) (hp : op.plan = some p) : p.isSink = true := by
  have hplan := made.plan
  rw [hp] at hplan
  have hshape := (Plan.ends_ofStatement c (planned s)).of_eq_ok hplan p rfl
  rw [hshape.root]
  exact isInsertion_of_modify (made.kind ▸ hkind) hplan

theorem raises_run {s : Statement} (made : MadeOf c s op) : Raises Error.Ordinary (run op) := by
  unfold run
  cases hkind : op.kind with
  | query => exact raises_pure _
  | modify =>
      refine raises_read fun _ => (ends_getPlan op).bind fun p hp => ?_
      exact (ends_sinkOf (isSink_of_modify made hkind hp)).bind fun _ _ => trivial
  | explain => exact raises_read fun _ => (ends_getPlan op).bind fun _ _ => trivial
  | other => exact raises_define op.statement

/-- Running a text fails for a reason that is none of the engine's own. -/
theorem ends_execute (text : String) (s : State) :
    Ends (fun _ => True) Error.Ordinary (execute text s).1 := by
  cases hsingle : single s.catalog .execute text with
  | error e =>
      rw [execute_of_error hsingle]
      exact (ends_single .execute text).of_eq_error hsingle
  | ok op =>
      rw [execute_of_ok hsingle]
      exact raises_run (madeOf_of_single hsingle) s

/--
**Every plan is well formed, so no insertion is ever found without a table to write into.**
Any statement that has a plan has one of which every node fits its inputs, and which writes
at its root if it is an insertion, and nowhere otherwise.
-/
theorem plan_wellFormed (s : State) :
    (∀ statement p, Plan.ofStatement s.catalog statement = .ok (some p) →
        p.WellFormed s.catalog statement.isInsertion)
      ∧ ∀ text e, (execute text s).1 = .error e → e ≠ .sinkMissing ∧ e.category ≠ .internal := by
  constructor
  · intro statement p h
    exact (Plan.ends_ofStatement s.catalog statement).of_eq_ok h p rfl
  · intro text e h
    have hordinary : e.Ordinary := (ends_execute text s).of_eq_error h
    refine ⟨?_, hordinary⟩
    rintro rfl
    exact hordinary rfl

/-- An insertion without repetition, of a join that is seen through a name. -/
theorem plan_wellFormed_distinct_join :
    ∃ statement p, Statement.readAll
        "INSERT INTO a SELECT DISTINCT i FROM (SELECT x.i FROM a x JOIN a y ON x.i = y.i) d"
        = .ok [statement]
      ∧ Plan.ofStatement oneTable.catalog statement = .ok (some p)
      ∧ p.nodes.map (·.operator)
        = [.scan ⟨"default_catalog", "default_database", "a"⟩,
          .scan ⟨"default_catalog", "default_database", "a"⟩,
          .join .inner (some "x.i = y.i"), .project [("i", "x.i")], .project [("i", "i")],
          .aggregate ["i"] [], .sink ⟨"default_catalog", "default_database", "a"⟩ ["i"]]
      ∧ p.WellFormed oneTable.catalog statement.isInsertion := by
  have hread : (List.map fun s => (Option.map fun p : Plan => p.nodes.map (·.operator))
        <$> Plan.ofStatement oneTable.catalog s) <$> Statement.readAll
        "INSERT INTO a SELECT DISTINCT i FROM (SELECT x.i FROM a x JOIN a y ON x.i = y.i) d"
      = .ok [.ok (some [.scan ⟨"default_catalog", "default_database", "a"⟩,
          .scan ⟨"default_catalog", "default_database", "a"⟩,
          .join .inner (some "x.i = y.i"), .project [("i", "x.i")], .project [("i", "i")],
          .aggregate ["i"] [], .sink ⟨"default_catalog", "default_database", "a"⟩ ["i"]])] := by
    decide +kernel
  obtain ⟨statements, hstatements, hmap⟩ := map_eq_ok.mp hread
  obtain ⟨statement, rfl, hplanned⟩ := List.map_eq_singleton_iff.mp hmap
  obtain ⟨plan, hplan, hoperators⟩ := map_eq_ok.mp hplanned
  obtain ⟨p, rfl, hnodes⟩ := Option.map_eq_some_iff.mp hoperators
  exact ⟨statement, p, hstatements, hplan, hnodes,
    (plan_wellFormed oneTable).1 statement p hplan⟩

end Stencil.Planning
