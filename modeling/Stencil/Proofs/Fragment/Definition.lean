/-
What a definition is made of.

Name and value are cut out of the statement: the name from the first word of it, so
no character of a name is blank, and the value from what follows the sign, with the
blanks at both ends taken off.
-/
import Stencil.Fragment.Definition
import Stencil.Proofs.Text.Blank

namespace Stencil.Fragment.Definition

open Text

variable {statement : List Char} {d : Definition}

/-- The text before the last sign is read off the front. -/
theorem isPrefix_of_lastSign? {word before behind : List Char}
    (h : lastSign? word = some (before, behind)) : before <+: word := by
  induction word generalizing before with
  | nil => cases h
  | cons c rest ih =>
      rw [lastSign?] at h
      split at h
      · rename_i front back hrest
        obtain ⟨rfl, rfl⟩ := Prod.mk.inj (Option.some.inj h)
        exact List.cons_prefix_cons.mpr ⟨rfl, ih hrest⟩
      · obtain ⟨_, -, h⟩ := Option.map_eq_some_iff.mp h
        rw [← (Prod.mk.inj h).1]
        exact List.nil_prefix

/-- Name and value of a definition, as they are cut out of the statement. -/
theorem read?_eq_some (h : read? statement = some d) :
    d.name <+: statement.takeWhile (fun c => !isBlank c)
      ∧ ∃ behind, d.value = trimmed behind := by
  unfold read? at h
  dsimp only at h
  split at h
  · rename_i value hsign
    rw [← Option.some.inj h]
    exact ⟨List.prefix_rfl, value, rfl⟩
  · obtain ⟨⟨name, behind⟩, hsign, rfl⟩ := Option.map_eq_some_iff.mp h
    exact ⟨isPrefix_of_lastSign? hsign, _, rfl⟩

/-- No character of a name is blank. -/
theorem name_of_read? (h : read? statement = some d) : ∀ c ∈ d.name, isBlank c = false := by
  intro c hc
  have hmem := (read?_eq_some h).1.subset hc
  simpa using List.mem_takeWhile_imp hmem

/-- The value of a definition has no blanks at its ends. -/
theorem value_of_read? (h : read? statement = some d) : trimmed d.value = d.value := by
  obtain ⟨-, behind, hvalue⟩ := read?_eq_some h
  rw [hvalue, trimmed_idem]

theorem visible_name (h : read? statement = some d) (hne : d.name ≠ []) : Visible d.name := by
  obtain ⟨c, hc⟩ := List.exists_mem_of_ne_nil _ hne
  exact ⟨c, hc, name_of_read? h c hc⟩

theorem visible_value (h : read? statement = some d) (hne : d.value ≠ []) : Visible d.value := by
  obtain ⟨-, behind, hvalue⟩ := read?_eq_some h
  rw [hvalue] at hne ⊢
  exact visible_of_dropEndBlanks (dropEndBlanks_idem _) hne

end Stencil.Fragment.Definition
