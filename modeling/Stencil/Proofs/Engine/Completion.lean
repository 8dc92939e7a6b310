/-
What completion sees of a text.

Of the text before the cursor only two things matter: whether the word before the last
one asks for a table, and what the last word is in lower case.  Texts of which both are
the same get the same hints from every catalog.  The converse holds as well: a catalog
with one object or one function, named like the word itself, tells any two others apart.
-/
import Stencil.Engine.Completion
import Stencil.Proofs.Keyed
import Stencil.Proofs.Text.Bytes

namespace Stencil

namespace Keyed

variable {κ α : Type} [DecidableEq κ] [LT κ] [DecidableLT κ]

theorem mem_keys_put {key k : κ} {value : α} {l : Keyed κ α} :
    k ∈ (l.put key value).keys ↔ k = key ∨ k ∈ l.keys := by
  induction l with
  | nil => simp [put, keys]
  | cons entry rest ih =>
      obtain ⟨k', v⟩ := entry
      unfold keys at ih ⊢
      rw [put]
      split
      · next heq => simp [heq]
      · split
        · simp
        · rw [List.map_cons, List.mem_cons, ih, List.map_cons, List.mem_cons, or_left_comm]

end Keyed

namespace Completion

variable {c : Catalog} {a b : List Char}

theorem mem_ascending {x : String} (texts : List String) : x ∈ ascending texts ↔ x ∈ texts := by
  have hfold : ∀ (texts : List String) (done : Keyed String Unit),
      x ∈ (texts.foldl (fun done text => Keyed.put text () done) done).keys
        ↔ x ∈ texts ∨ x ∈ done.keys := by
    intro texts
    induction texts with
    | nil => simp
    | cons t texts ih =>
        intro done
        rw [List.foldl_cons, ih, Keyed.mem_keys_put, List.mem_cons, or_left_comm, or_assoc]
  have hnone : x ∉ Keyed.keys ([] : Keyed String Unit) := List.not_mem_nil
  unfold ascending
  rw [hfold, or_iff_left hnone]

/-! ### What matters before the cursor -/

/-- What completion goes by. -/
@[ext] structure Sight where
  /-- A table or a view is expected. -/
  table : Bool
  /-- The word in lower case. -/
  word : String
deriving DecidableEq, Repr

/-- What completion sees of the text before the cursor. -/
def sight (before : List Char) : Sight :=
  ⟨asksForTable (wordBefore before).1, Text.lower (String.ofList (wordBefore before).2)⟩

/-- What is offered behind a text. -/
def offered (c : Catalog) (before : List Char) : List String :=
  ascending ((candidates c (wordBefore before).1).filter (begins (wordBefore before).2))

theorem hints_eq (c : Catalog) (text : String) (position : Nat) :
    hints c text position = offered c (Text.takeBytes position text.toList) := rfl

theorem mem_offered {candidate : String} :
    candidate ∈ offered c a
      ↔ candidate ∈ candidates c (wordBefore a).1 ∧ begins (wordBefore a).2 candidate = true := by
  unfold offered
  rw [mem_ascending, List.mem_filter]

/-- Behind texts that are seen alike the same is offered. -/
theorem offered_congr (h : sight a = sight b) (c : Catalog) : offered c a = offered c b := by
  obtain ⟨htable, hword⟩ := Sight.mk.inj h
  unfold offered candidates begins
  rw [htable, hword]

/-! ### Telling two texts apart -/

theorem begins_self (word : List Char) : begins word (String.ofList word) = true :=
  List.isPrefixOf_iff_prefix.mpr (List.prefix_refl _)

/-- A catalog with one function. -/
def oneFunction (name : String) : Catalog :=
  ⟨"default_catalog", "default_database", [], [(Text.upper name, ⟨name, .scalar, "INT"⟩)]⟩

/-- A catalog with one table. -/
def oneObject (name : String) : Catalog :=
  ⟨"default_catalog", "default_database",
    [(⟨"default_catalog", "default_database", name⟩, .table [⟨"i", "INT"⟩] [])], []⟩

/-- A function is offered where no table is expected, and nothing else is. -/
theorem mem_candidates_oneFunction {name : String} {before : List Char} :
    name ∈ candidates (oneFunction name) before ↔ asksForTable before = false := by
  unfold candidates
  cases asksForTable before with
  | true => simp [oneFunction, Catalog.objectNames, Catalog.defaultObjects]
  | false => simp [oneFunction, Catalog.functionNames, Keyed.values]

theorem mem_candidates_oneObject (name : String) (before : List Char) :
    name ∈ candidates (oneObject name) before := by
  have hname : name ∈ (oneObject name).objectNames := by
    simp [oneObject, Catalog.objectNames, Catalog.defaultObjects]
  unfold candidates
  split
  · exact hname
  · exact List.mem_append_left _ (List.mem_append_right _ hname)

/-- If no table is expected, a function that is named like the word is offered. -/
theorem table_of_offered (h : ∀ c, offered c a = offered c b) (hfalse : (sight a).table = false) :
    (sight b).table = false := by
  have hmem : String.ofList (wordBefore a).2
      ∈ offered (oneFunction (String.ofList (wordBefore a).2)) a :=
    mem_offered.mpr ⟨mem_candidates_oneFunction.mpr hfalse, begins_self _⟩
  rw [h] at hmem
  exact mem_candidates_oneFunction.mp (mem_offered.mp hmem).1

/-- A table that is named like the word is offered in any case. -/
theorem word_of_offered (h : ∀ c, offered c a = offered c b) :
    (sight b).word.toList <+: (sight a).word.toList := by
  have hmem : String.ofList (wordBefore a).2
      ∈ offered (oneObject (String.ofList (wordBefore a).2)) a :=
    mem_offered.mpr ⟨mem_candidates_oneObject _ _, begins_self _⟩
  rw [h] at hmem
  exact List.isPrefixOf_iff_prefix.mp (mem_offered.mp hmem).2

/-- **Hints tell what completion sees.**  The same is offered behind two texts, whatever the
catalog, if and only if they are seen alike. -/
theorem offered_eq_iff : (∀ c, offered c a = offered c b) ↔ sight a = sight b := by
  refine ⟨fun h => ?_, offered_congr⟩
  have hsymm := fun c => (h c).symm
  have htable : (sight a).table = (sight b).table := by
    cases ha : (sight a).table with
    | false => exact (table_of_offered h ha).symm
    | true =>
        cases hb : (sight b).table with
        | true => rfl
        | false =>
            rw [table_of_offered hsymm hb] at ha
            cases ha
  have hword : (sight a).word = (sight b).word := by
    have hstart := word_of_offered hsymm
    have hlength := (word_of_offered h).length_le
    exact String.toList_inj.mp (hstart.eq_of_length (Nat.le_antisymm hstart.length_le hlength))
  exact Sight.ext htable hword

end Completion
end Stencil
