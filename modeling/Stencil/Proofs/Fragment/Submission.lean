/-
What a submission does, statement by statement.

`take_eq_ok` says everything that carrying out one statement can do: a definition
changes the fragments, any other statement is put aside with its references
replaced.  The rest follows by induction on the statements: what a submission
leaves over are its ordinary statements, and if no reference begins anywhere in the
text, they are left over as they were written.  A `Single` statement is left over as
what it expands to.
-/
import Stencil.Fragment.Registry
import Stencil.Proofs.Fragment.Reference
import Stencil.Proofs.Fragment.Statement
import Stencil.Proofs.Outcome

namespace Stencil.Fragment

/-- The statement does not define a fragment. -/
def isOrdinary (statement : List Char) : Bool := (Definition.read? statement).isNone

/-- The statements of a text that do not define a fragment. -/
def ordinary (text : String) : List (List Char) :=
  (Scan.statements text.toList).filter isOrdinary

/-- A single statement that does not define a fragment, with neither a blank nor a comment in
front. -/
structure Single (text : List Char) : Prop where
  uncut : Scan.split text = [text]
  leadless : Scan.Leadless text
  ordinary : isOrdinary (Scan.statement text) = true

instance (text : List Char) : Decidable (Single text) :=
  decidable_of_iff
    (Scan.split text = [text] ∧ Scan.dropLeadFrom .code text = text
      ∧ isOrdinary (Scan.statement text) = true)
    ⟨fun ⟨h₁, h₂, h₃⟩ => ⟨h₁, h₂, h₃⟩, fun ⟨h₁, h₂, h₃⟩ => ⟨h₁, h₂, h₃⟩⟩

theorem Single.visible {text : String} (h : Single text.toList) (hne : text ≠ "") :
    Text.Visible (Text.dropEndBlanks text.toList) := by
  cases hl : text.toList with
  | nil => exact absurd (String.toList_eq_nil_iff.mp hl) hne
  | cons c rest =>
      have hlead := h.leadless
      rw [hl] at hlead
      have hc := (Scan.leadless_cons.mp hlead).1
      refine Text.visible_of_dropEndBlanks (Text.dropEndBlanks_idem _) fun hnil => ?_
      rw [Text.dropEndBlanks_eq_nil_iff.mp hnil c List.mem_cons_self] at hc
      cases hc

namespace Registry

theorem expand_of_plain (r : Registry) {text : List Char} (h : Plain text) :
    r.expand text = text :=
  Fragment.expand_of_plain _ h

/-! ### One statement -/

/-- The fragments with a definition carried out. -/
def define (r : Registry) (d : Definition) : Registry :=
  r.insert (String.ofList d.name) (String.ofList (r.expand d.value))

/-- The submission with a definition carried out. -/
def Staged.define (s : Staged) (d : Definition) : Staged :=
  let value := String.ofList (s.registry.expand d.value)
  { s with registry := s.registry.insert (String.ofList d.name) value }

/-- The submission with a statement put aside. -/
def Staged.putAside (s : Staged) (statement : List Char) : Staged :=
  { s with remaining := s.remaining ++ [s.registry.expand statement] }

/-- What carrying out one statement does: it defines a fragment, or is put aside. -/
theorem take_eq_ok {s s' : Staged} {statement : List Char} (h : s.take statement = .ok s') :
    (∃ d, Definition.read? statement = some d ∧ d.name ≠ [] ∧ d.value ≠ [] ∧ s' = s.define d)
      ∨ (isOrdinary statement = true ∧ s' = s.putAside statement) := by
  unfold Staged.take at h
  cases hread : Definition.read? statement with
  | none =>
      rw [hread, Except.ok.injEq] at h
      exact Or.inr ⟨by simp [isOrdinary, hread], h.symm⟩
  | some d =>
      simp only [hread] at h
      split at h
      · simp at h
      · rename_i hname
        split at h
        · simp at h
        · rename_i hvalue
          rw [Except.ok.injEq] at h
          exact Or.inl ⟨d, rfl, by simpa using hname, by simpa using hvalue, h.symm⟩

/-- A definition with a name and a value is carried out. -/
theorem take_of_read? {s : Staged} {statement : List Char} {d : Definition}
    (hread : Definition.read? statement = some d) (hname : d.name ≠ []) (hvalue : d.value ≠ []) :
    s.take statement = .ok (s.define d) := by
  unfold Staged.take
  rw [hread]
  simp only [List.isEmpty_eq_false_iff.mpr hname, List.isEmpty_eq_false_iff.mpr hvalue]
  rfl

/-! ### All statements -/

theorem submit_eq_ok {r r' : Registry} {text out : String} (h : r.submit text = .ok (out, r')) :
    ∃ s, (Scan.statements text.toList).foldlM Staged.take ⟨r, []⟩ = .ok s
      ∧ s.text = out ∧ s.registry = r' := by
  unfold submit at h
  split at h
  · rename_i s hs
    rw [Except.ok.injEq, Prod.mk.injEq] at h
    exact ⟨s, hs, h.1, h.2⟩
  · simp at h

/-- Statements without references are left over as they are. -/
theorem remaining_of_foldlM {l : List (List Char)} (hplain : ∀ p ∈ l, Plain p) {s s' : Staged}
    (h : l.foldlM Staged.take s = .ok s') :
    s'.remaining = s.remaining ++ l.filter isOrdinary := by
  induction l generalizing s with
  | nil =>
      rw [List.foldlM_nil] at h
      rw [← Except.ok.inj h]
      simp
  | cons p rest ih =>
      rw [List.foldlM_cons] at h
      obtain ⟨t, htake, h⟩ := bind_eq_ok.mp h
      have hrest : ∀ q ∈ rest, Plain q := fun q hq => hplain q (List.mem_cons_of_mem _ hq)
      rw [ih hrest h]
      rcases take_eq_ok htake with ⟨d, hread, -, -, ht⟩ | ⟨hord, ht⟩
      · rw [ht, List.filter_cons_of_neg (by simp [isOrdinary, hread])]
        rfl
      · rw [ht, List.filter_cons_of_pos hord]
        simp [Staged.putAside, expand_of_plain _ (hplain p (by simp))]

/-- Statements that define nothing change no fragment. -/
theorem registry_of_foldlM {l : List (List Char)} (hord : ∀ p ∈ l, isOrdinary p = true)
    {s s' : Staged} (h : l.foldlM Staged.take s = .ok s') : s'.registry = s.registry := by
  refine invariant_of_foldlM (P := fun t => t.registry = s.registry) (fun p hp t t' ht htake => ?_)
    rfl h
  rcases take_eq_ok htake with ⟨d, hread, -⟩ | ⟨-, rfl⟩
  · have := hord p hp
    simp [isOrdinary, hread] at this
  · exact ht

/-- Definitions alone leave nothing over. -/
theorem remaining_of_definitions {l : List (List Char)} (hdef : ∀ p ∈ l, isOrdinary p = false)
    {s s' : Staged} (h : l.foldlM Staged.take s = .ok s') : s'.remaining = s.remaining := by
  refine invariant_of_foldlM (P := fun t => t.remaining = s.remaining)
    (fun p hp t t' ht htake => ?_) rfl h
  rcases take_eq_ok htake with ⟨d, -, -, -, rfl⟩ | ⟨hord, -⟩
  · exact ht
  · rw [hdef p hp] at hord
    cases hord

theorem toList_text (s : Staged) :
    s.text.toList = List.intercalate [';', '\n'] s.remaining := by
  unfold Staged.text Text.join
  rw [String.toList_intercalate, List.map_map]
  have hid : String.toList ∘ String.ofList = id := funext fun _ => String.toList_ofList
  rw [hid, List.map_id]
  rfl

/-- A submission without definitions changes no fragment. -/
theorem registry_submit {r r' : Registry} {text out : String}
    (hord : ∀ p ∈ Scan.statements text.toList, isOrdinary p = true)
    (h : r.submit text = .ok (out, r')) : r' = r := by
  obtain ⟨s, hfold, -, rfl⟩ := submit_eq_ok h
  exact registry_of_foldlM hord hfold

/-- A submission of definitions alone leaves nothing over. -/
theorem submit_of_definitions {r r' : Registry} {text out : String}
    (hdef : ∀ p ∈ Scan.statements text.toList, isOrdinary p = false)
    (h : r.submit text = .ok (out, r')) : out = "" := by
  obtain ⟨s, hfold, rfl, -⟩ := submit_eq_ok h
  unfold Staged.text
  rw [remaining_of_definitions hdef hfold]
  rfl

/-- Definitions with names and values are all carried out, in order. -/
theorem submit_definitions {text : String} (ds : List Definition)
    (hread : (Scan.statements text.toList).map Definition.read? = ds.map some)
    (hlegal : ∀ d ∈ ds, d.name ≠ [] ∧ d.value ≠ []) (r : Registry) :
    r.submit text = .ok ("", ds.foldl define r) := by
  have hfold : ∀ (l : List (List Char)) (ds : List Definition),
      l.map Definition.read? = ds.map some → (∀ d ∈ ds, d.name ≠ [] ∧ d.value ≠ []) →
      ∀ r : Registry, l.foldlM Staged.take ⟨r, []⟩ = .ok ⟨ds.foldl define r, []⟩ := by
    intro l
    induction l with
    | nil =>
        intro ds hread _ r
        rw [List.map_nil] at hread
        rw [List.map_eq_nil_iff.mp hread.symm]
        rfl
    | cons statement l ih =>
        intro ds hread hlegal r
        cases ds with
        | nil => cases hread
        | cons d ds =>
            obtain ⟨hfirst, hrest⟩ := List.cons.inj hread
            obtain ⟨hd, hds⟩ := List.forall_mem_cons.mp hlegal
            rw [List.foldlM_cons, take_of_read? hfirst hd.1 hd.2]
            exact ih ds hrest hds (r.define d)
  unfold submit
  rw [hfold _ _ hread hlegal r]
  rfl

/-- A text without references leaves over its ordinary statements, joined. -/
theorem toList_submit {r r' : Registry} {text out : String} (hplain : Plain text.toList)
    (h : r.submit text = .ok (out, r')) :
    out.toList = List.intercalate [';', '\n'] (ordinary text) := by
  obtain ⟨s, hfold, rfl, -⟩ := submit_eq_ok h
  have hall : ∀ p ∈ Scan.statements text.toList, Plain p := by
    intro p hp
    exact hplain.of_isInfix (Scan.infix_of_mem_statements hp)
  rw [toList_text, remaining_of_foldlM hall hfold]
  rfl

/-! ### A single statement -/

theorem submit_empty (r : Registry) : r.submit "" = .ok ("", r) := rfl

/-- A single statement is left over without the blanks at its end, its references replaced. -/
theorem submit_single {r : Registry} {text : String} (h : Single text.toList) (hne : text ≠ "") :
    r.submit text = .ok (String.ofList (r.expand (Text.dropEndBlanks text.toList)), r) := by
  have hstatement := Scan.statement_of_leadless h.leadless
  have hnonempty := (h.visible hne).ne_nil
  have hstatements : Scan.statements text.toList = [Text.dropEndBlanks text.toList] := by
    rw [Scan.statements_of_uncut h.uncut (by rwa [hstatement]), hstatement]
  have hread : Definition.read? (Text.dropEndBlanks text.toList) = none := by
    have := h.ordinary
    rw [hstatement] at this
    exact Option.isNone_iff_eq_none.mp this
  unfold submit
  rw [hstatements]
  simp only [List.foldlM_cons, List.foldlM_nil, Staged.take, hread]
  rfl

end Registry
end Stencil.Fragment
