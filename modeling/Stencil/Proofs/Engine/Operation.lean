/-
What the planning engine reads out of a text.

An operation is made of its statement: its kind is what the statement does, and
its plan is the plan of the statement that is explained, or of the statement itself.
Everything that is proved about statements carries over to operations from that.
-/
import Stencil.Engine.Planning
import Stencil.Proofs.Outcome
import Stencil.Proofs.Run
import Stencil.Report

namespace Stencil

/-- Everything but a definition is of a kind that is explained. -/
theorem Report.Kind.isExplainable_ofOperation {kind : OperationKind} :
    (Report.Kind.ofOperation kind).isExplainable = true ↔ kind ≠ .other := by
  cases kind <;> decide

namespace Planning

open Sql

variable {c : Catalog} {text : String} {op : Operation}

/-- An operation that was made of a statement. -/
structure MadeOf (c : Catalog) (s : Statement) (op : Operation) : Prop where
  kind : op.kind = kindOf s
  statement : op.statement = s
  plan : Plan.ofStatement c (planned s) = .ok op.plan

theorem madeOf_of_operation {s : Statement} (h : operation c s = .ok op) : MadeOf c s op := by
  unfold operation at h
  obtain ⟨plan, hplan, h⟩ := bind_eq_ok.mp h
  cases h
  exact ⟨rfl, rfl, hplan⟩

/-- Every operation of a text was made of one of its statements. -/
theorem exists_of_mem_parse {ops : List Operation} (h : parse c text = .ok ops) (hop : op ∈ ops) :
    ∃ statements, Statement.readAll text = .ok statements ∧ op.statement ∈ statements
      ∧ MadeOf c op.statement op := by
  unfold parse at h
  obtain ⟨statements, hread, hops⟩ := bind_eq_ok.mp h
  obtain ⟨s, hmem, hs⟩ := exists_of_mem_mapM hops op hop
  have made := madeOf_of_operation hs
  obtain rfl := made.statement
  exact ⟨statements, hread, hmem, made⟩

/-- The only operation of a text is the one that its list of operations consists of. -/
theorem single_eq_ok {entry : EntryPoint} :
    single c entry text = .ok op ↔ parse c text = .ok [op] := by
  unfold single
  rw [bind_eq_ok]
  constructor
  · rintro ⟨ops, hops, h⟩
    rcases ops with _ | ⟨op', _ | ⟨op'', rest⟩⟩
    · cases h
    · cases h
      exact hops
    · cases h
  · intro h
    exact ⟨[op], h, rfl⟩

theorem madeOf_of_single {entry : EntryPoint} (h : single c entry text = .ok op) :
    MadeOf c op.statement op := by
  obtain ⟨_, -, -, made⟩ := exists_of_mem_parse (single_eq_ok.mp h) List.mem_cons_self
  exact made

/-- A text that holds one statement is read as the operation of the statement. -/
theorem parse_of_readAll {st : Statement} (hread : Statement.readAll text = .ok [st]) :
    parse c text = List.singleton <$> operation c st := by
  unfold parse
  rw [hread]
  show [st].mapM (operation c) = _
  rw [List.mapM_cons, List.mapM_nil]
  cases operation c st <;> rfl

theorem single_of_readAll {st : Statement} {entry : EntryPoint}
    (hread : Statement.readAll text = .ok [st]) : single c entry text = operation c st := by
  unfold single
  rw [parse_of_readAll hread]
  cases operation c st <;> rfl

/-- A text has a single operation if and only if it holds one statement, which is then the
statement of the operation. -/
theorem single_eq_ok_iff {entry : EntryPoint} :
    single c entry text = .ok op
      ↔ ∃ st, Statement.readAll text = .ok [st] ∧ operation c st = .ok op := by
  constructor
  · intro h
    obtain ⟨statements, hread, hops⟩ := bind_eq_ok.mp (single_eq_ok.mp h)
    rcases statements with _ | ⟨st, _ | ⟨st', rest⟩⟩
    · cases hops
    · exact ⟨st, hread, (single_of_readAll hread).symm.trans h⟩
    · rw [List.mapM_cons, List.mapM_cons] at hops
      obtain ⟨_, -, hops⟩ := bind_eq_ok.mp hops
      obtain ⟨_, hrest, hops⟩ := bind_eq_ok.mp hops
      obtain ⟨_, -, hrest⟩ := bind_eq_ok.mp hrest
      obtain ⟨_, -, hrest⟩ := bind_eq_ok.mp hrest
      cases hrest
      cases hops
  · rintro ⟨st, hread, hop⟩
    rw [single_of_readAll hread, hop]

/-! ### Running what was read -/

/-- A definition takes effect. -/
theorem run_of_other (h : op.kind = .other) : run op = define op.statement := by
  unfold run
  rw [h]

/-- Only a definition changes the state. -/
theorem reads_run {op : Operation} (h : op.kind ≠ .other) : Run.Reads (run op) := by
  unfold run
  cases hkind : op.kind with
  | query => exact Run.reads_pure _
  | modify => exact Run.reads_read _
  | explain => exact Run.reads_read _
  | other => exact absurd hkind h

section

variable {s : State} {e : Error}

theorem execute_of_error (h : single s.catalog .execute text = .error e) :
    execute text s = (.error e, s) :=
  Run.read_bind_of_error (f := fun s : State => single s.catalog .execute text) h _

theorem execute_of_ok (h : single s.catalog .execute text = .ok op) :
    execute text s = run op s :=
  Run.read_bind_of_ok (f := fun s : State => single s.catalog .execute text) h _

theorem update_of_error (h : single s.catalog .update text = .error e) :
    update text s = (.error e, s) :=
  Run.read_bind_of_error (f := fun s : State => single s.catalog .update text) h _

/-- A query or an explanation is refused before it is run. -/
theorem update_of_refused (h : single s.catalog .update text = .ok op)
    (hkind : op.kind = .query ∨ op.kind = .explain) :
    update text s = (.error .notAnUpdate, s) := by
  unfold update
  rw [Run.read_bind_of_ok (f := fun s : State => single s.catalog .update text) h]
  rcases hkind with hkind | hkind <;> simp only [hkind] <;> rfl

theorem update_of_ok (h : single s.catalog .update text = .ok op)
    (hquery : op.kind ≠ .query) (hexplain : op.kind ≠ .explain) :
    update text s = (run op >>= fun _ => pure ()) s := by
  unfold update
  rw [Run.read_bind_of_ok (f := fun s : State => single s.catalog .update text) h]
  simp [hquery, hexplain]

end

/-! ### Reporting on what was read -/

/-- What is no definition is reported on with its explanation. -/
theorem ofOperation_of_explainable {details : List Plan.Detail} (h : op.kind ≠ .other)
    (s : State) :
    Report.ofOperation engine text details op s
      = (Report.success text (.ofOperation op.kind) <$> explain s [op] details, s) := by
  have hkind : (Report.Kind.ofOperation (engine.kind op)).isExplainable = true :=
    Report.Kind.isExplainable_ofOperation.mpr h
  unfold Report.ofOperation
  rw [if_pos hkind]
  cases hexplain : explain s [op] details with
  | error e =>
      exact Run.read_bind_of_error (f := fun s : State => explain s [op] details) hexplain _
  | ok answer =>
      exact Run.read_bind_of_ok (f := fun s : State => explain s [op] details) hexplain _

/-- A definition is reported on in its own words. -/
theorem ofOperation_of_definition {details : List Plan.Detail} (h : op.kind = .other)
    (s : State) :
    Report.ofOperation engine text details op s
      = (.ok (.success text .definition op.summary), s) := by
  have hkind : engine.kind op = .other := h
  unfold Report.ofOperation
  rw [hkind]
  rfl

/-- A state with one table, named `a`. -/
def oneTable : State :=
  ⟨⟨"default_catalog", "default_database",
    [(⟨"default_catalog", "default_database", "a"⟩, .table [⟨"i", "INT"⟩] [])], []⟩, 1⟩

end Planning
end Stencil
