/-
Keyed lists in order.

Putting an entry keeps the keys in ascending order, and so does removing one.  Where the
keys ascend, no key stands twice: the entries of a key are the one that is found under it,
or none (`Ascending.filter_key`).

In a strict order a key goes to one place, so entries of different keys may be put in any
order, whether the list was in order or not (`put_comm`).
-/
import Mathlib.Order.Defs.Unbundled
import Mathlib.Tactic.WLOG
import Stencil.Proofs.Keyed

namespace Stencil.Keyed

variable {κ α : Type} [LT κ]

/-- The keys ascend. -/
def Ascending (l : Keyed κ α) : Prop := l.Pairwise fun entry entry' => entry.1 < entry'.1

variable [DecidableEq κ]

theorem Ascending.remove {l : Keyed κ α} (h : l.Ascending) (key : κ) : (l.remove key).Ascending :=
  List.Pairwise.sublist List.filter_sublist h

section

variable [IsStrictTotalOrder κ (· < ·)]

theorem Ascending.put [DecidableLT κ] {l : Keyed κ α} (h : l.Ascending) (key : κ) (value : α) :
    (l.put key value).Ascending := by
  induction l with
  | nil => exact List.pairwise_singleton _ _
  | cons entry rest ih =>
      obtain ⟨k, v⟩ := entry
      obtain ⟨hfirst, hrest⟩ := List.pairwise_cons.mp h
      rw [Keyed.put]
      split
      · rename_i heq
        subst heq
        exact List.pairwise_cons.mpr ⟨hfirst, hrest⟩
      · rename_i hne
        split
        · rename_i hlt
          refine List.pairwise_cons.mpr ⟨fun entry hentry => ?_, h⟩
          rcases List.mem_cons.mp hentry with rfl | hmem
          · exact hlt
          · exact IsTrans.trans _ _ _ hlt (hfirst entry hmem)
        · rename_i hnot
          have hlt : k < key := by
            rcases trichotomous_of (· < ·) key k with hkey | heq | hk
            · exact absurd hkey hnot
            · exact absurd heq hne
            · exact hk
          refine List.pairwise_cons.mpr ⟨fun entry hentry => ?_, ih hrest⟩
          rcases mem_of_mem_put hentry with rfl | hmem
          · exact hlt
          · exact hfirst entry hmem

/-- **The entries of a key are the one that is found under it, or none.** -/
theorem Ascending.filter_key {l : Keyed κ α} (h : l.Ascending) (key : κ) :
    l.filter (fun entry => entry.1 = key)
      = ((l.find? key).map fun value => (key, value)).toList := by
  induction l with
  | nil => rfl
  | cons entry rest ih =>
      obtain ⟨k, v⟩ := entry
      obtain ⟨hfirst, hrest⟩ := List.pairwise_cons.mp h
      by_cases hk : k = key
      · subst hk
        have hnone : rest.filter (fun entry => entry.1 = k) = [] := by
          rw [List.filter_eq_nil_iff]
          intro entry hentry heq
          have hlt := hfirst entry hentry
          rw [of_decide_eq_true heq] at hlt
          exact irrefl k hlt
        rw [List.filter_cons_of_pos (by simp), hnone, find?_cons, if_pos rfl]
        rfl
      · rw [List.filter_cons_of_neg (by simp [hk]), ih hrest, find?_cons, if_neg hk]

/-! ### Where an entry is put -/

variable [DecidableLT κ]

theorem put_cons_of_lt {key k : κ} (h : key < k) (value v : α) (rest : Keyed κ α) :
    put key value ((k, v) :: rest) = (key, value) :: (k, v) :: rest := by
  have hne : key ≠ k := by
    rintro rfl
    exact irrefl key h
  rw [put, if_neg hne, if_pos h]

theorem put_cons_of_gt {key k : κ} (h : k < key) (value v : α) (rest : Keyed κ α) :
    put key value ((k, v) :: rest) = (k, v) :: put key value rest := by
  have hne : key ≠ k := by
    rintro rfl
    exact irrefl key h
  rw [put, if_neg hne, if_neg (asymm h)]

/-- **Entries of different keys may be put in any order.** -/
theorem put_comm {key key' : κ} (h : key ≠ key') (value value' : α) (l : Keyed κ α) :
    (l.put key value).put key' value' = (l.put key' value').put key value := by
  -- Both sides are alike, so let the key that is put first on the left be the smaller one.
  wlog hlt : key < key' generalizing key key' value value'
  · rcases trichotomous_of (· < ·) key key' with hkey | heq | hkey
    · exact absurd hkey hlt
    · exact absurd heq h
    · exact (this h.symm value' value hkey).symm
  induction l with
  | nil => rw [put, put, put_cons_of_gt hlt, put_cons_of_lt hlt, put]
  | cons entry rest ih =>
      obtain ⟨k, v⟩ := entry
      rcases trichotomous_of (· < ·) key k with hk | rfl | hk
      · rw [put_cons_of_lt hk, put_cons_of_gt hlt]
        rcases trichotomous_of (· < ·) key' k with hk' | rfl | hk'
        · rw [put_cons_of_lt hk', put_cons_of_lt hlt]
        · rw [put_cons_self, put_cons_of_lt hlt]
        · rw [put_cons_of_gt hk', put_cons_of_lt hk]
      · rw [put_cons_self, put_cons_of_gt hlt, put_cons_of_gt hlt, put_cons_self]
      · have hk' : k < key' := IsTrans.trans _ _ _ hk hlt
        rw [put_cons_of_gt hk, put_cons_of_gt hk', put_cons_of_gt hk', put_cons_of_gt hk, ih]

end

end Stencil.Keyed
