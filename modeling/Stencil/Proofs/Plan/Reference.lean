/-
References that stand directly in an expression.

`references` lists them as they are written, from left to right.  Checking an expression is
looking each of them up in that order (`checkReferences_eq`), so it succeeds if and only if
each of them means exactly one field.

A reference meets a field of its name, under its qualifier if it has one.  `Means` says which
field is the only one met, and `Complaint` what is said where there is none; looking a
reference up ends in one or the other.
-/
import Stencil.Plan.Resolve
import Stencil.Proofs.Outcome

namespace Stencil.Plan

open Sql

/-- A name, with the name of the relation that it is looked up in if there is one in front. -/
structure Reference where
  qualifier : Option String
  name : String
deriving DecidableEq, Repr

/-- The references that stand directly in an expression. -/
def references : Expr → List Reference
  | .name n => [⟨none, n.text⟩]
  | .qualified [q, n] => [⟨some q.text, n.text⟩]
  | .infixed left _ right => references left ++ references right
  | .unary _ operand => references operand
  | .nested inner => references inner
  | .isNull operand => references operand
  | .isNotNull operand => references operand
  | _ => []

/-- The reference that an expression is, if it is nothing else. -/
def reference? : Expr → Option Reference
  | .name n => some ⟨none, n.text⟩
  | .qualified [q, n] => some ⟨some q.text, n.text⟩
  | _ => none

/-- An expression stands directly in another: below operators, parentheses and tests for absent
values only. -/
inductive DirectlyIn (part : Expr) : Expr → Prop
  | self : DirectlyIn part part
  | left {left : Expr} (op : String) (right : Expr) (h : DirectlyIn part left) :
      DirectlyIn part (.infixed left op right)
  | right {right : Expr} (left : Expr) (op : String) (h : DirectlyIn part right) :
      DirectlyIn part (.infixed left op right)
  | unary {operand : Expr} (op : UnaryOperator) (h : DirectlyIn part operand) :
      DirectlyIn part (.unary op operand)
  | nested {inner : Expr} (h : DirectlyIn part inner) : DirectlyIn part (.nested inner)
  | isNull {operand : Expr} (h : DirectlyIn part operand) : DirectlyIn part (.isNull operand)
  | isNotNull {operand : Expr} (h : DirectlyIn part operand) : DirectlyIn part (.isNotNull operand)

theorem references_of_reference? {e : Expr} {ref : Reference} (h : reference? e = some ref) :
    references e = [ref] := by
  unfold reference? at h
  split at h
  · cases h
    rfl
  · cases h
    rfl
  · cases h

/-- What is listed are the references that stand directly in the expression. -/
theorem mem_references_iff {e : Expr} {ref : Reference} :
    ref ∈ references e ↔ ∃ part, DirectlyIn part e ∧ reference? part = some ref := by
  constructor
  · intro h
    fun_induction references e with
    | case1 n => exact ⟨_, .self, by rw [List.mem_singleton.mp h]; rfl⟩
    | case2 q n => exact ⟨_, .self, by rw [List.mem_singleton.mp h]; rfl⟩
    | case3 left op right ihleft ihright =>
        rcases List.mem_append.mp h with h | h
        · obtain ⟨part, hpart, href⟩ := ihleft h
          exact ⟨part, .left op right hpart, href⟩
        · obtain ⟨part, hpart, href⟩ := ihright h
          exact ⟨part, .right left op hpart, href⟩
    | case4 op operand ih =>
        obtain ⟨part, hpart, href⟩ := ih h
        exact ⟨part, .unary op hpart, href⟩
    | case5 inner ih =>
        obtain ⟨part, hpart, href⟩ := ih h
        exact ⟨part, .nested hpart, href⟩
    | case6 operand ih =>
        obtain ⟨part, hpart, href⟩ := ih h
        exact ⟨part, .isNull hpart, href⟩
    | case7 operand ih =>
        obtain ⟨part, hpart, href⟩ := ih h
        exact ⟨part, .isNotNull hpart, href⟩
    | case8 e => cases h
  · rintro ⟨part, hpart, href⟩
    induction hpart with
    | self =>
        rw [references_of_reference? href]
        exact List.mem_singleton_self ref
    | left op right _ ih =>
        rw [references]
        exact List.mem_append_left _ ih
    | right left op _ ih =>
        rw [references]
        exact List.mem_append_right _ ih
    | unary op _ ih | nested _ ih | isNull _ ih | isNotNull _ ih =>
        rw [references]
        exact ih

namespace Reference

variable {fields : List Field} {ref : Reference}

/-- The field that a reference means. -/
def field (fields : List Field) (ref : Reference) : Except Error Field :=
  findField fields ref.qualifier ref.name

/-- A reference means exactly one of the fields. -/
def Resolves (fields : List Field) (ref : Reference) : Prop :=
  (candidates fields ref.qualifier ref.name).length = 1

instance (fields : List Field) (ref : Reference) : Decidable (ref.Resolves fields) :=
  inferInstanceAs (Decidable (_ = _))

theorem field_eq_ok {f : Field} :
    ref.field fields = .ok f ↔ candidates fields ref.qualifier ref.name = [f] := by
  unfold field findField
  split
  · rename_i f' hone
    rw [hone]
    simp
  · rename_i hnone
    rw [hnone]
    simp
  · rename_i hmany hnone
    refine iff_of_false nofun fun hone => ?_
    exact hmany f hone

/-- The field of a reference is found if and only if there is exactly one. -/
theorem exists_field_iff : (∃ f, ref.field fields = .ok f) ↔ ref.Resolves fields := by
  simp only [field_eq_ok]
  exact List.length_eq_one_iff.symm

/-! ### The field that is meant -/

/-- The names are the same but for the case of ASCII letters, and so are the qualifiers if the
reference has one. -/
def Meets (ref : Reference) (f : Field) : Prop :=
  Text.foldAscii f.name = Text.foldAscii ref.name
    ∧ ∀ q, ref.qualifier = some q →
      ∃ q', f.qualifier = some q' ∧ Text.foldAscii q' = Text.foldAscii q

/-- Of all the fields the reference meets this one and no other. -/
def Means (fields : List Field) (ref : Reference) (f : Field) : Prop :=
  ∃ before after, fields = before ++ f :: after ∧ ref.Meets f
    ∧ (∀ g ∈ before, ¬ ref.Meets g) ∧ ∀ g ∈ after, ¬ ref.Meets g

/-- The reference as messages show it. -/
def written (ref : Reference) : String := writtenReference ref.qualifier ref.name

/-- What is said of a reference that means no field: it meets none, or it meets several. -/
inductive Complaint (fields : List Field) (ref : Reference) : Error → Prop
  | unknown (h : ∀ f ∈ fields, ¬ ref.Meets f) : Complaint fields ref (.unknownColumn ref.written)
  | ambiguous {f g : Field} (h : [f, g].Sublist fields) (hf : ref.Meets f) (hg : ref.Meets g) :
      Complaint fields ref (.ambiguousColumn ref.written)

theorem mem_candidates {f : Field} :
    f ∈ candidates fields ref.qualifier ref.name ↔ f ∈ fields ∧ ref.Meets f := by
  obtain ⟨qualifier, name⟩ := ref
  unfold candidates Meets Text.sameIgnoringCase
  rw [List.mem_filter, Bool.and_eq_true, beq_iff_eq]
  cases qualifier with
  | none => simp
  | some q => simp [isUnder, Text.sameIgnoringCase, Option.any_eq_true]

/-- The fields that a reference may mean are those that it meets, as they stand. -/
theorem candidates_eq_filter (fields : List Field) (ref : Reference) [DecidablePred ref.Meets] :
    candidates fields ref.qualifier ref.name = fields.filter fun f => ref.Meets f := by
  unfold candidates
  refine List.filter_congr fun f _ => ?_
  rw [Bool.eq_iff_iff, decide_eq_true_iff]
  have hone : f ∈ candidates [f] ref.qualifier ref.name ↔ f ∈ [f] ∧ ref.Meets f := mem_candidates
  unfold candidates at hone
  simpa using hone

theorem field_eq_ok_iff_means {f : Field} : ref.field fields = .ok f ↔ ref.Means fields f := by
  classical
  rw [field_eq_ok, candidates_eq_filter, List.filter_eq_cons_iff]
  simp only [List.filter_eq_nil_iff, decide_eq_true_eq, Means]
  constructor
  · rintro ⟨before, after, hfields, hbefore, hf, hafter⟩
    exact ⟨before, after, hfields, hf, hbefore, hafter⟩
  · rintro ⟨before, after, hfields, hf, hbefore, hafter⟩
    exact ⟨before, after, hfields, hbefore, hf, hafter⟩

/-- A reference resolves if and only if it means a field. -/
theorem resolves_iff_exists_means : ref.Resolves fields ↔ ∃ f, ref.Means fields f := by
  simp only [← exists_field_iff, field_eq_ok_iff_means]

/-- Looking up a reference fails with what is to be said of it. -/
theorem field_eq_error_iff {e : Error} : ref.field fields = .error e ↔ Complaint fields ref e := by
  classical
  have hcandidates := candidates_eq_filter fields ref
  unfold field findField
  constructor
  · intro h
    split at h
    · cases h
    · rename_i hnone
      cases h
      refine .unknown fun f hf hmeets => ?_
      have hmem := mem_candidates.mpr ⟨hf, hmeets⟩
      rw [hnone] at hmem
      cases hmem
    · rename_i hone hnone
      cases h
      match hmany : candidates fields ref.qualifier ref.name with
      | [] => exact absurd hmany hnone
      | [f] => exact absurd hmany (hone f)
      | f :: g :: rest =>
          -- Candidates stand in the order of the fields.
          have hf := mem_candidates.mp (hmany ▸ List.mem_cons_self)
          have hg := mem_candidates.mp (hmany ▸ List.mem_cons_of_mem _ List.mem_cons_self)
          refine .ambiguous ?_ hf.2 hg.2
          have hbelow : (f :: g :: rest).Sublist fields := by
            rw [← hmany, hcandidates]
            exact List.filter_sublist
          exact List.Sublist.trans (by simp) hbelow
  · intro h
    cases h with
    | unknown hnone =>
        have hempty : candidates fields ref.qualifier ref.name = [] := by
          rw [hcandidates, List.filter_eq_nil_iff]
          simpa using hnone
        rw [hempty]
        rfl
    | @ambiguous f g hsub hf hg =>
        have hmany : [f, g].Sublist (candidates fields ref.qualifier ref.name) := by
          have hfilter := hsub.filter fun f => decide (ref.Meets f)
          simpa [hcandidates, hf, hg] using hfilter
        match hrest : candidates fields ref.qualifier ref.name with
        | [] => simp [hrest] at hmany
        | [_] => simpa [hrest] using hmany.length_le
        | _ :: _ :: _ => rfl

/-- Whether a field is found at all, no matter which. -/
theorem found_eq_ok_iff :
    (ref.field fields).map (fun _ => ()) = .ok () ↔ ∃ f, ref.Means fields f := by
  refine map_eq_ok.trans ?_
  simp only [field_eq_ok_iff_means, and_true]

theorem found_eq_error_iff {e : Error} :
    (ref.field fields).map (fun _ => ()) = .error e ↔ Complaint fields ref e :=
  map_eq_error.trans field_eq_error_iff

end Reference

/-- **Checking an expression is looking up its references, from left to right.** -/
theorem checkReferences_eq (fields : List Field) (e : Expr) :
    checkReferences fields e
      = forM (references e) fun ref => (ref.field fields).map fun _ => () := by
  have hone : ∀ ref : Reference,
      forM [ref] (fun ref => (ref.field fields).map fun _ => ())
        = (ref.field fields).map fun _ => () := by
    intro ref
    rw [List.forM_cons]
    cases ref.field fields <;> rfl
  fun_induction references e with
  | case1 n => exact (hone ⟨none, n.text⟩).symm
  | case2 q n => exact (hone ⟨some q.text, n.text⟩).symm
  | case3 left op right ihleft ihright =>
      rw [checkReferences, ihleft, ihright, List.forM_append]
  | case4 op operand ih | case5 inner ih | case6 operand ih | case7 operand ih =>
      rw [checkReferences, ih]
  | case8 e hname hqualified hinfixed hunary hnested hnull hnotNull =>
      rw [checkReferences]
      · rfl
      all_goals assumption

/-- **An expression passes if and only if each reference in it means exactly one field.** -/
theorem checkReferences_eq_ok_iff {fields : List Field} {e : Expr} :
    checkReferences fields e = .ok () ↔ ∀ ref ∈ references e, ref.Resolves fields := by
  rw [checkReferences_eq]
  refine forM_eq_ok_iff.trans (forall₂_congr fun ref _ => ?_)
  rw [← Reference.exists_field_iff]
  cases ref.field fields with
  | error e => exact iff_of_false nofun nofun
  | ok f => exact iff_of_true rfl ⟨f, rfl⟩

end Stencil.Plan
