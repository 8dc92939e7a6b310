/-
Records keep their fields when their members are put in order.

A document that is handed out has its members in the order of their names.  As long as
no name comes twice, each field of a record is still there, and nothing but its own
members has changed places.
-/
import Stencil.Json.Record
import Stencil.Proofs.Keyed

namespace Stencil.Json

variable {name key : String} {value : Json}

theorem under_cons (name n : String) (v : Json) (members : List (String × Json)) :
    under name ((n, v) :: members)
      = if n = name then v :: under name members else under name members := by
  by_cases h : n = name
  · simp [under, h]
  · simp [under, h]

theorem under_eq_nil {members : List (String × Json)} (h : name ∉ members.map (·.1)) :
    under name members = [] := by
  refine List.filterMap_eq_nil_iff.mpr fun m hm => ?_
  have hne : m.1 ≠ name := by
    rintro rfl
    exact h (List.mem_map_of_mem hm)
  simp [hne]

/-! ### Putting a member in its place -/

theorem under_put_of_ne (h : key ≠ name) (value : Json) (members : List (String × Json)) :
    under name (Keyed.put key value members) = under name members := by
  induction members with
  | nil => simp [Keyed.put, under, h]
  | cons m rest ih =>
      obtain ⟨n, v⟩ := m
      rw [Keyed.put]
      split
      · next heq => rw [under_cons, under_cons, if_neg h, if_neg (heq ▸ h)]
      · split
        · rw [under_cons, if_neg h]
        · rw [under_cons, ih, under_cons]

theorem under_put_self {members : List (String × Json)} (h : key ∉ members.map (·.1))
    (value : Json) : under key (Keyed.put key value members) = [value] := by
  induction members with
  | nil => simp [Keyed.put, under]
  | cons m rest ih =>
      obtain ⟨n, v⟩ := m
      rw [List.map_cons, List.mem_cons, not_or] at h
      obtain ⟨hne, hrest⟩ := h
      rw [Keyed.put, if_neg hne]
      split
      · rw [under_cons, if_pos rfl, under_cons, if_neg fun heq => hne heq.symm, under_eq_nil hrest]
      · rw [under_cons, if_neg fun heq => hne heq.symm, ih hrest]

/-! ### All members -/

/-- Putting members in order changes none of those under a name but for what they hold. -/
theorem under_canonicalMembers (name : String) (members : List (String × Json)) :
    ∀ done : List (String × Json), (members.map (·.1)).Nodup →
      (∀ n ∈ members.map (·.1), n ∉ done.map (·.1)) →
      under name (canonicalMembers done members)
        = under name done ++ (under name members).map canonical := by
  induction members with
  | nil =>
      intro done _ _
      rw [canonicalMembers]
      exact (List.append_nil _).symm
  | cons m rest ih =>
      intro done hnodup hfresh
      obtain ⟨n, v⟩ := m
      rw [List.map_cons, List.nodup_cons] at hnodup
      obtain ⟨hn, hnodup⟩ := hnodup
      have hnext : ∀ n' ∈ rest.map (·.1), n' ∉ (Keyed.put n v.canonical done).map (·.1) := by
        intro n' hn' hmem
        obtain ⟨m, hm, rfl⟩ := List.mem_map.mp hmem
        rcases Keyed.mem_of_mem_put hm with rfl | hdone
        · exact hn hn'
        · exact hfresh _ (List.mem_cons_of_mem _ hn') (List.mem_map_of_mem hdone)
      rw [canonicalMembers, ih _ hnodup hnext, under_cons]
      by_cases hname : n = name
      · subst hname
        have hdone := hfresh n List.mem_cons_self
        rw [under_put_self hdone, under_eq_nil hdone, if_pos rfl]
        rfl
      · rw [under_put_of_ne hname, if_neg hname]

/-- The fields of a record in order are the fields of the record, each in order. -/
theorem fields?_canonical {names : List String} {members : List (String × Json)}
    {fields : List (Option Json)} (hnodup : (members.map (·.1)).Nodup)
    (h : (object members).fields? names = some fields) :
    (object members).canonical.fields? names = some (fields.map (Option.map canonical)) := by
  have hunder : ∀ name, under name (canonicalMembers [] members)
      = (under name members).map canonical := fun name =>
    under_canonicalMembers name members [] hnodup fun _ _ => List.not_mem_nil
  rw [canonical]
  simp only [fields?, hunder] at h ⊢
  induction names generalizing fields with
  | nil =>
      cases h
      rfl
  | cons name names ih =>
      rw [List.mapM_cons] at h ⊢
      obtain ⟨first, hfirst, h⟩ := Option.bind_eq_some_iff.mp h
      obtain ⟨others, hothers, h⟩ := Option.bind_eq_some_iff.mp h
      cases h
      rw [ih hothers]
      cases hmembers : under name members with
      | nil =>
          rw [hmembers] at hfirst
          cases hfirst
          rfl
      | cons v more =>
          cases more with
          | nil =>
              rw [hmembers] at hfirst
              cases hfirst
              rfl
          | cons w more =>
              rw [hmembers] at hfirst
              cases hfirst

end Stencil.Json
