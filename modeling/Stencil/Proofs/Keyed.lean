/-
What is found in a keyed list after it was changed.

Neither putting an entry nor removing one needs the list to be in order for these
laws: an entry put in is found under its key and a removed one is not, and nothing
else that was found before is lost.  Two lists that hold related values go on doing so.
-/
import Stencil.Keyed

namespace Stencil.Keyed

variable {κ α : Type} [DecidableEq κ]

@[simp] theorem find?_nil (key : κ) : find? key ([] : Keyed κ α) = none := rfl

theorem find?_cons (key k : κ) (v : α) (rest : Keyed κ α) :
    find? key ((k, v) :: rest) = if k = key then some v else find? key rest := rfl

/-- What is found under a key is an entry of the list. -/
theorem mem_of_find? {key : κ} {value : α} {l : Keyed κ α} (h : l.find? key = some value) :
    (key, value) ∈ l := by
  induction l with
  | nil => simp at h
  | cons entry rest ih =>
      obtain ⟨k, v⟩ := entry
      rw [find?_cons] at h
      split at h
      · rename_i hk
        rw [← hk, ← Option.some.inj h]
        exact List.mem_cons_self
      · exact List.mem_cons_of_mem _ (ih h)

/-- The first entry of a key is found, if there is one. -/
theorem exists_find?_of_mem {key : κ} {value : α} {l : Keyed κ α} (h : (key, value) ∈ l) :
    ∃ found, l.find? key = some found := by
  induction l with
  | nil => cases h
  | cons entry rest ih =>
      obtain ⟨k, v⟩ := entry
      rw [find?_cons]
      split
      · exact ⟨v, rfl⟩
      · rename_i hne
        rcases List.mem_cons.mp h with heq | hmem
        · exact absurd (congrArg Prod.fst heq).symm hne
        · exact ih hmem

/-! ### Removing an entry -/

theorem find?_remove_self (key : κ) (l : Keyed κ α) : (l.remove key).find? key = none := by
  induction l with
  | nil => rfl
  | cons entry rest ih =>
      obtain ⟨k, v⟩ := entry
      unfold remove at ih ⊢
      by_cases h : k = key
      · rw [List.filter_cons_of_neg (by simp [h]), ih]
      · rw [List.filter_cons_of_pos (by simp [h]), find?_cons, if_neg h, ih]

theorem find?_remove_of_ne {key key' : κ} (h : key ≠ key') (l : Keyed κ α) :
    (l.remove key).find? key' = l.find? key' := by
  induction l with
  | nil => rfl
  | cons entry rest ih =>
      obtain ⟨k, v⟩ := entry
      unfold remove at ih ⊢
      by_cases hk : k = key
      · rw [List.filter_cons_of_neg (by simp [hk]), ih, find?_cons, if_neg (hk ▸ h)]
      · rw [List.filter_cons_of_pos (by simp [hk]), find?_cons, ih, find?_cons]

/-- Nothing that is missing comes back by removing more. -/
theorem find?_remove_eq_none {key key' : κ} {l : Keyed κ α} (h : l.find? key' = none) :
    (l.remove key).find? key' = none := by
  by_cases hk : key = key'
  · rw [hk]
    exact find?_remove_self key' l
  · rw [find?_remove_of_ne hk, h]

/-! ### Two lists side by side -/

/-- Under each key both lists hold related values, or neither holds one. -/
def Related {β : Type} (R : α → β → Prop) (l : Keyed κ α) (l' : Keyed κ β) : Prop :=
  ∀ key, Option.Rel R (l.find? key) (l'.find? key)

theorem related_nil {β : Type} {R : α → β → Prop} :
    Related R ([] : Keyed κ α) ([] : Keyed κ β) := fun _ => .none

theorem Related.of_some {β : Type} {R : α → β → Prop} {l : Keyed κ α} {l' : Keyed κ β}
    (h : Related R l l') {key : κ} {a : α} (ha : l.find? key = some a) :
    ∃ b, l'.find? key = some b ∧ R a b := by
  have hkey := h key
  rw [ha] at hkey
  generalize l'.find? key = found at hkey
  cases hkey with
  | some hab => exact ⟨_, rfl, hab⟩

theorem Related.of_none {β : Type} {R : α → β → Prop} {l : Keyed κ α} {l' : Keyed κ β}
    (h : Related R l l') {key : κ} (hnone : l.find? key = none) : l'.find? key = none := by
  have hkey := h key
  rw [hnone] at hkey
  generalize l'.find? key = found at hkey
  cases hkey
  rfl

/-! ### Putting an entry -/

variable [LT κ] [DecidableLT κ]

theorem put_cons_self (key : κ) (value v : α) (rest : Keyed κ α) :
    put key value ((key, v) :: rest) = (key, value) :: rest := if_pos rfl

/-- Putting an entry brings no other entry with it. -/
theorem mem_of_mem_put {key : κ} {value : α} {l : Keyed κ α} {entry : κ × α}
    (h : entry ∈ l.put key value) : entry = (key, value) ∨ entry ∈ l := by
  induction l with
  | nil => exact Or.inl (List.mem_singleton.mp h)
  | cons first rest ih =>
      obtain ⟨k, v⟩ := first
      rw [put] at h
      split at h
      · rcases List.mem_cons.mp h with rfl | hmem
        · exact Or.inl rfl
        · exact Or.inr (List.mem_cons_of_mem _ hmem)
      · split at h
        · exact List.mem_cons.mp h
        · rcases List.mem_cons.mp h with rfl | hmem
          · exact Or.inr List.mem_cons_self
          · exact (ih hmem).imp id (List.mem_cons_of_mem _)

theorem find?_put_self (key : κ) (value : α) (l : Keyed κ α) :
    (l.put key value).find? key = some value := by
  induction l with
  | nil => simp [put, find?]
  | cons entry rest ih =>
      obtain ⟨k, v⟩ := entry
      rw [put]
      split
      · exact if_pos rfl
      · rename_i hne
        split
        · exact if_pos rfl
        · rw [find?_cons, if_neg fun h => hne h.symm, ih]

theorem find?_put_of_ne {key key' : κ} (h : key ≠ key') (value : α) (l : Keyed κ α) :
    (l.put key value).find? key' = l.find? key' := by
  induction l with
  | nil => simp [put, find?, h]
  | cons entry rest ih =>
      obtain ⟨k, v⟩ := entry
      rw [put]
      split
      · rename_i heq
        rw [find?_cons, if_neg h, find?_cons, if_neg (heq ▸ h)]
      · split
        · rw [find?_cons, if_neg h]
        · rw [find?_cons, ih, find?_cons]

theorem Related.put {β : Type} {R : α → β → Prop} {l : Keyed κ α} {l' : Keyed κ β}
    (h : Related R l l') (key : κ) {a : α} {b : β} (hab : R a b) :
    Related R (l.put key a) (l'.put key b) := by
  intro key'
  by_cases hkey : key = key'
  · rw [hkey, find?_put_self, find?_put_self]
    exact .some hab
  · rw [find?_put_of_ne hkey, find?_put_of_ne hkey]
    exact h key'

end Stencil.Keyed
