/-
Definitions that do not depend on each other.

A value is expanded with the fragments in force when its definition is carried out, so of two
definitions the second one sees the first only where its value refers to it.  If neither value
refers to the name of the other definition, and the names differ, both orders leave the same
fragments behind (`define_comm`).  As statements of one submission they have to be whole: a
text that ends inside a comment or a quotation would take the next one in.
-/
import Mathlib.Data.String.Basic
import Stencil.Proofs.Fragment.InForce
import Stencil.Proofs.Fragment.Sequence
import Stencil.Proofs.Keyed.Order

namespace Stencil.Fragment

/-- The text is one legal definition, and what stands behind it is read as code. -/
structure SoleDefinition (text : List Char) (d : Definition) : Prop where
  uncut : Scan.split text = [text]
  closed : Scan.run .code text = .code
  reads : Definition.read? (Scan.statement text) = some d
  named : d.name ≠ []
  valued : d.value ≠ []

theorem SoleDefinition.statements {text : List Char} {d : Definition}
    (h : SoleDefinition text d) : Scan.statements text = [Scan.statement text] := by
  refine Scan.statements_of_uncut h.uncut fun hnil => ?_
  have hread := h.reads
  rw [hnil] at hread
  cases hread

/-- Neither definition refers to the other, and they do not define the same name. -/
structure Independent (d e : Definition) : Prop where
  names : d.name ≠ e.name
  left : .reference e.name ∉ Part.read d.value
  right : .reference d.name ∉ Part.read e.value

namespace Registry

variable {r : Registry} {d e : Definition}

/-- A definition does not matter for a text that does not refer to it. -/
theorem expand_define {text : List Char} (h : .reference d.name ∉ Part.read text) :
    (r.define d).expand text = r.expand text := by
  refine expand_congr fun name hname => ?_
  have hne : name ≠ d.name := by
    rintro rfl
    exact h hname
  show (r.define d).values name = r.values name
  rw [define, values_insert, Function.update_of_ne hne]

/-- A second definition that does not refer to the first is made of what was in force before. -/
theorem define_define (h : .reference d.name ∉ Part.read e.value) :
    (r.define d).define e
      = (r.insert (String.ofList d.name) (String.ofList (r.expand d.value))).insert
          (String.ofList e.name) (String.ofList (r.expand e.value)) := by
  rw [define, expand_define h, define]

/-- **Independent definitions may be carried out in any order.** -/
theorem define_comm (h : Independent d e) : (r.define d).define e = (r.define e).define d := by
  have hname : String.ofList d.name ≠ String.ofList e.name :=
    fun heq => h.names (String.ofList_injective heq)
  rw [define_define h.right, define_define h.left]
  exact congrArg Registry.mk (Keyed.put_comm hname _ _ r.entries)

/-- Two definitions in one submission are carried out one after the other. -/
theorem submit_both {a b : String} (ha : SoleDefinition a.toList d)
    (hb : SoleDefinition b.toList e) (r : Registry) :
    r.submit (a ++ ";" ++ b) = .ok ("", (r.define d).define e) := by
  have htext : (a ++ ";" ++ b).toList = a.toList ++ ';' :: b.toList := by
    simp [String.toList_append]
  refine submit_definitions [d, e] ?_ ?_ r
  · rw [htext, Scan.statements_append_cut ha.closed, ha.statements, hb.statements]
    simp only [List.cons_append, List.nil_append, List.map_cons, List.map_nil, ha.reads, hb.reads]
  · rw [List.forall_mem_cons, List.forall_mem_singleton]
    exact ⟨⟨ha.named, ha.valued⟩, hb.named, hb.valued⟩

/--
**Independent definitions commute.**  Two texts that are one definition each, of different names
and neither with a reference to the other, may be submitted in any order with a semicolon in
between: both submissions succeed and leave nothing over, the fragments behind them are the
same, and each name has the value that its own definition alone would give it.
-/
theorem submit_comm (r : Registry) {a b : String} (ha : SoleDefinition a.toList d)
    (hb : SoleDefinition b.toList e) (hname : d.name ≠ e.name)
    (hd : .reference e.name ∉ Part.read d.value) (he : .reference d.name ∉ Part.read e.value) :
    ∃ r', r.submit (a ++ ";" ++ b) = .ok ("", r') ∧ r.submit (b ++ ";" ++ a) = .ok ("", r')
      ∧ r'.values = Function.update (Function.update r.values d.name (some (r.expand d.value)))
          e.name (some (r.expand e.value)) := by
  have hindependent : Independent d e := ⟨hname, hd, he⟩
  refine ⟨(r.define d).define e, submit_both ha hb r, ?_, ?_⟩
  · rw [submit_both hb ha r, define_comm hindependent]
  · rw [define_define he, values_insert, values_insert]

/-- Semicolons and quotes in the texts, and a value that looks like a reference to the other name
without being one. -/
theorem submit_comm_quoted :
    let r : Registry := ⟨[("t", "orders"), ("x", "0")]⟩
    let a := "/* ; */ x := 'a;b' ${t}"
    let b := "y:=$\x7bx\n\x7d ${t}"
    let r' : Registry := ⟨[("t", "orders"), ("x", "'a;b' orders"), ("y", "$\x7bx\n\x7d orders")]⟩
    SoleDefinition a.toList ⟨"x".toList, "'a;b' ${t}".toList⟩
      ∧ SoleDefinition b.toList ⟨"y".toList, "$\x7bx\n\x7d ${t}".toList⟩
      ∧ r.submit (a ++ ";" ++ b) = .ok ("", r') ∧ r.submit (b ++ ";" ++ a) = .ok ("", r') := by
  intro r a b r'
  have ha : SoleDefinition a.toList ⟨"x".toList, "'a;b' ${t}".toList⟩ :=
    ⟨by decide +kernel, by decide +kernel, by decide +kernel, by decide, by decide⟩
  have hb : SoleDefinition b.toList ⟨"y".toList, "$\x7bx\n\x7d ${t}".toList⟩ :=
    ⟨by decide +kernel, by decide +kernel, by decide +kernel, by decide, by decide⟩
  obtain ⟨s, hfirst, hsecond, -⟩ := submit_comm r ha hb (by decide) (by decide +kernel)
    (by decide +kernel)
  have hboth : r.submit (a ++ ";" ++ b) = .ok ("", r') := by decide +kernel
  obtain rfl : s = r' := (Prod.mk.inj (Except.ok.inj (hfirst.symm.trans hboth))).2
  exact ⟨ha, hb, hboth, hsecond⟩

/-- A value that refers to the other name is made of what stands there when its turn comes. -/
example :
    submit empty "x := 1;y := ${x}" = .ok ("", ⟨[("x", "1"), ("y", "1")]⟩)
      ∧ submit empty "y := ${x};x := 1" = .ok ("", ⟨[("x", "1"), ("y", "${x}")]⟩) := by
  decide +kernel

end Registry
end Stencil.Fragment
