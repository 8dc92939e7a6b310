/-
What a catalog holds after any number of calls.

A call that answers `true` has the effect of its change, and any other call has none, so
a row of calls comes down to those that took effect (`foldl_after`).  What is found under
a path, or under the name of a function, is then what the last of these about it left
there.  The lists of names need more than what is found: that objects and functions are
kept in order, and that each function stands under its own name (`Ordered`).
-/
import Mathlib.Data.List.Induction
import Mathlib.Data.String.Basic
import Stencil.Proofs.Catalog.Change
import Stencil.Proofs.Keyed.Order

namespace Stencil

/-! ### The order of paths -/

theorem ObjectPath.parts_injective : Function.Injective ObjectPath.parts := by
  rintro ⟨c, d, n⟩ ⟨c', d', n'⟩ h
  simpa [ObjectPath.parts] using h

instance : IsStrictTotalOrder ObjectPath (· < ·) :=
  ObjectPath.parts_injective.isStrictTotalOrder_onFun (· < ·)

/-- Paths of one catalog and database are ordered by their names. -/
theorem ObjectPath.mk_lt_mk_iff {catalog database name name' : String} :
    (⟨catalog, database, name⟩ : ObjectPath) < ⟨catalog, database, name'⟩ ↔ name < name' := by
  show [catalog, database, name] < [catalog, database, name'] ↔ name < name'
  simp [List.cons_lt_cons_iff]

namespace Catalog

/-! ### One call -/

namespace Change

/-- What the call answers: whether it did anything, or why it is refused. -/
def answer (c : Catalog) : Change → Except Error Bool
  | create path object ifNotExists => Prod.fst <$> c.create path object ifNotExists
  | drop path kind ifExists => Prod.fst <$> c.drop path kind ifExists
  | register f => (fun _ => true) <$> c.registerFunction f

/-- The object that the change puts in its place. -/
def object? : Change → Option CatalogObject
  | create _ object _ => some object
  | drop .. | register _ => none

/-- The function that the change puts in its place. -/
def function? : Change → Option UserFunction
  | register f => some f
  | create .. | drop .. => none

end Change

variable {c : Catalog} {change : Change} {path : ObjectPath} {object : CatalogObject}

theorem create_of_some (hget : c.get? path = some object) (object' : CatalogObject)
    (ifNotExists : Bool) :
    c.create path object' ifNotExists
      = if ifNotExists then .ok (false, c)
        else .error (.alreadyExists object.kind path.written) := by
  unfold create
  rw [hget]

/-- **A call that answers `true` has the effect of its change, and any other call has none.** -/
theorem after_eq_ite (c : Catalog) (change : Change) :
    c.after change = if change.answer c = .ok true then change.effect c else c := by
  cases change with
  | create path object ifNotExists =>
      cases hget : c.get? path with
      | none => simp [after, Change.carryOut, Change.answer, create_of_none hget, Change.effect]
      | some existing =>
          cases ifNotExists <;>
            simp [after, Change.carryOut, Change.answer, create_of_some hget]
  | drop path kind ifExists =>
      cases hget : c.get? path with
      | none =>
          cases ifExists <;>
            simp [after, Change.carryOut, Change.answer, drop_of_none hget,
              drop_of_none_error hget]
      | some existing =>
          by_cases hkind : existing.kind = kind
          · simp [after, Change.carryOut, Change.answer, drop_of_kind hget hkind, Change.effect]
          · simp [after, Change.carryOut, Change.answer, drop_of_ne_kind hget hkind]
  | register f =>
      by_cases hname : Text.isBlankText f.name = true <;>
        simp [after, Change.carryOut, Change.answer, registerFunction, hname, Change.effect]

theorem after_of_true (h : change.answer c = .ok true) : c.after change = change.effect c := by
  rw [after_eq_ite, if_pos h]

theorem after_of_not_true (h : change.answer c ≠ .ok true) : c.after change = c := by
  rw [after_eq_ite, if_neg h]

/-- What is found of an object behind the effect of a change. -/
theorem get?_effect (c : Catalog) (change : Change) (path : ObjectPath) :
    (change.effect c).get? path
      = if change.path? = some path then change.object? else c.get? path := by
  cases change with
  | create path' object ifNotExists =>
      by_cases h : path' = path
      · subst h
        simp [Change.effect, Change.path?, Change.object?, get?, Keyed.find?_put_self]
      · simp [Change.effect, Change.path?, get?, Keyed.find?_put_of_ne h, h]
  | drop path' kind ifExists =>
      by_cases h : path' = path
      · subst h
        simp [Change.effect, Change.path?, Change.object?, get?, Keyed.find?_remove_self]
      · simp [Change.effect, Change.path?, get?, Keyed.find?_remove_of_ne h, h]
  | register f => rfl

/-- What is found of a function behind the effect of a change. -/
theorem function?_effect (c : Catalog) (change : Change) (name : String) :
    (change.effect c).function? name
      = if change.key? = some (Text.upper name) then change.function? else c.function? name := by
  cases change with
  | register f =>
      by_cases h : Text.upper f.name = Text.upper name
      · simp [Change.effect, Change.key?, Change.function?, Catalog.function?, h,
          Keyed.find?_put_self]
      · simp [Change.effect, Change.key?, Catalog.function?, Keyed.find?_put_of_ne h, h]
  | create path object ifNotExists => rfl
  | drop path kind ifExists => rfl

/-- What the next call answers, told by what is found in the catalog. -/
structure Answers (c : Catalog) : Prop where
  /-- An object is put under a path if nothing is there. -/
  created : ∀ path object ifNotExists,
    (Change.create path object ifNotExists).answer c = .ok true ↔ c.get? path = none
  /-- What is there already may stay, if that is asked for. -/
  present : ∀ path object ifNotExists,
    (Change.create path object ifNotExists).answer c = .ok false
      ↔ (∃ existing, c.get? path = some existing) ∧ ifNotExists = true
  /-- What is there is taken away if it is of the kind that is asked for. -/
  dropped : ∀ path kind ifExists,
    (Change.drop path kind ifExists).answer c = .ok true
      ↔ ∃ existing, c.get? path = some existing ∧ existing.kind = kind
  /-- Nothing need be there, if that is asked for. -/
  missing : ∀ path kind ifExists,
    (Change.drop path kind ifExists).answer c = .ok false
      ↔ c.get? path = none ∧ ifExists = true

theorem answers (c : Catalog) : Answers c where
  created path object ifNotExists := by
    cases hget : c.get? path with
    | none => simp [Change.answer, create_of_none hget]
    | some existing => cases ifNotExists <;> simp [Change.answer, create_of_some hget]
  present path object ifNotExists := by
    cases hget : c.get? path with
    | none => simp [Change.answer, create_of_none hget]
    | some existing => cases ifNotExists <;> simp [Change.answer, create_of_some hget]
  dropped path kind ifExists := by
    cases hget : c.get? path with
    | none =>
        cases ifExists <;> simp [Change.answer, drop_of_none hget, drop_of_none_error hget]
    | some existing =>
        by_cases hkind : existing.kind = kind
        · simp [Change.answer, drop_of_kind hget hkind, hkind]
        · simp [Change.answer, drop_of_ne_kind hget hkind, hkind]
  missing path kind ifExists := by
    cases hget : c.get? path with
    | none =>
        cases ifExists <;> simp [Change.answer, drop_of_none hget, drop_of_none_error hget]
    | some existing =>
        by_cases hkind : existing.kind = kind
        · simp [Change.answer, drop_of_kind hget hkind]
        · simp [Change.answer, drop_of_ne_kind hget hkind]

/-- What the next call leaves as it is. -/
structure Confined (c : Catalog) : Prop where
  /-- A call that does not answer `true` leaves everything as it is. -/
  refused : ∀ change, change.answer c ≠ .ok true → c.after change = c
  /-- Any other leaves the objects that it is not about, -/
  objects : ∀ change path, change.path? ≠ some path →
    (c.after change).get? path = c.get? path
  /-- and the functions that it is not about. -/
  functions : ∀ change name, change.key? ≠ some (Text.upper name) →
    (c.after change).function? name = c.function? name
  /-- Shorter names are completed as before. -/
  names : ∀ change, (c.after change).qualify = c.qualify
  /-- A drop takes no object of the other kind away. -/
  otherKind : ∀ path kind ifExists path' object, c.get? path' = some object →
    object.kind ≠ kind → (c.after (.drop path kind ifExists)).get? path' = some object

theorem confined (c : Catalog) : Confined c where
  refused _ := after_of_not_true
  objects _ _ := get?_after
  functions _ _ := function?_after
  names := qualify_after c
  otherKind path kind ifExists path' object hget hkind := by
    by_cases hpath : path = path'
    · subst hpath
      have hnot : (Change.drop path kind ifExists).answer c ≠ .ok true := by
        rw [Ne, (answers c).dropped]
        rintro ⟨existing, hexisting, hsame⟩
        rw [hget] at hexisting
        cases hexisting
        exact hkind hsame
      rw [after_of_not_true hnot, hget]
    · have hother : (Change.drop path kind ifExists).path? ≠ some path' :=
        fun h => hpath (Option.some.inj h)
      rw [get?_after hother, hget]

/-! ### Rows of calls -/

/-- Those of some calls made one after the other that take effect, in order. -/
def effective (c : Catalog) : List Change → List Change
  | [] => []
  | change :: rest =>
    if change.answer c = .ok true then change :: effective (c.after change) rest
    else effective (c.after change) rest

/-- **A row of calls has the effects of those that take effect.** -/
theorem foldl_after (c : Catalog) (changes : List Change) :
    changes.foldl after c = (effective c changes).foldl (fun c change => change.effect c) c := by
  induction changes generalizing c with
  | nil => rfl
  | cons change rest ih =>
      rw [List.foldl_cons, ih, effective]
      by_cases h : change.answer c = .ok true
      · rw [if_pos h, List.foldl_cons, after_of_true h]
      · rw [if_neg h, after_of_not_true h]

/-- Where each change replaces what is seen of it and nothing else, the last one is seen. -/
theorem view_foldl_effect {β : Type} (view : Catalog → Option β) {about : Change → Bool}
    {left : Change → Option β}
    (heffect : ∀ c change, view (change.effect c) = if about change then left change else view c)
    (changes : List Change) (c : Catalog) (hc : view c = none) :
    view (changes.foldl (fun c change => change.effect c) c)
      = (changes.filter about).getLast?.bind left := by
  induction changes using List.reverseRecOn with
  | nil => exact hc
  | append_singleton earlier change ih =>
      rw [List.foldl_append, List.foldl_cons, List.foldl_nil, heffect, List.filter_append]
      by_cases h : about change = true
      · rw [if_pos h, List.filter_cons_of_pos h, List.filter_nil, List.getLast?_concat]
        rfl
      · rw [if_neg h, List.filter_cons_of_neg h, List.filter_nil, List.append_nil, ih]

/-! ### Lists of names -/

/-- Objects and functions are kept in order, and each function stands under its own name. -/
structure Ordered (c : Catalog) : Prop where
  objects : c.objects.Ascending
  functions : c.functions.Ascending
  named : ∀ entry ∈ c.functions, entry.1 = Text.upper entry.2.name

theorem ordered_new (defaultCatalog defaultDatabase : String) :
    Ordered (new defaultCatalog defaultDatabase) :=
  ⟨List.Pairwise.nil, List.Pairwise.nil, fun _ hentry => absurd hentry List.not_mem_nil⟩

theorem Ordered.effect (h : c.Ordered) (change : Change) : (change.effect c).Ordered := by
  cases change with
  | create path object ifNotExists => exact ⟨h.objects.put path object, h.functions, h.named⟩
  | drop path kind ifExists => exact ⟨h.objects.remove path, h.functions, h.named⟩
  | register f =>
      refine ⟨h.objects, h.functions.put _ f, fun entry hentry => ?_⟩
      rcases Keyed.mem_of_mem_put hentry with rfl | hmem
      · rfl
      · exact h.named entry hmem

theorem Ordered.after (h : c.Ordered) (change : Change) : (c.after change).Ordered := by
  rcases after_eq c change with heq | heq
  · rwa [heq]
  · rw [heq]
    exact h.effect change

theorem Ordered.foldl_after (h : c.Ordered) (changes : List Change) :
    (changes.foldl Catalog.after c).Ordered := by
  induction changes generalizing c with
  | nil => exact h
  | cons change rest ih => exact ih (h.after change)

/-- A name is listed if and only if there is an object of that name in the default database. -/
theorem mem_objectNames {name : String} :
    name ∈ c.objectNames
      ↔ ∃ object, c.get? ⟨c.defaultCatalog, c.defaultDatabase, name⟩ = some object := by
  unfold objectNames defaultObjects
  simp only [List.mem_map, List.mem_filterMap, Prod.exists]
  constructor
  · rintro ⟨name', object, ⟨⟨catalog, database, name''⟩, object', hmem, hdefault⟩, rfl⟩
    split at hdefault
    · rename_i hsame
      cases hdefault
      simp only [Bool.and_eq_true, beq_iff_eq] at hsame
      obtain ⟨rfl, rfl⟩ := hsame
      exact Keyed.exists_find?_of_mem hmem
    · cases hdefault
  · rintro ⟨object, hget⟩
    exact ⟨name, object, ⟨_, object, Keyed.mem_of_find? hget, by simp⟩, rfl⟩

/-- The names of the objects ascend. -/
theorem Ordered.objectNames (h : c.Ordered) : c.objectNames.Pairwise (· < ·) := by
  unfold Catalog.objectNames defaultObjects
  rw [List.pairwise_map, List.pairwise_filterMap]
  refine h.objects.imp ?_
  rintro ⟨⟨catalog, database, name⟩, object⟩ ⟨⟨catalog', database', name'⟩, object'⟩ hlt
  intro entry hentry entry' hentry'
  simp only at hentry hentry'
  split at hentry
  · rename_i hdefault
    split at hentry'
    · rename_i hdefault'
      cases hentry
      cases hentry'
      simp only [Bool.and_eq_true, beq_iff_eq] at hdefault hdefault'
      obtain ⟨rfl, rfl⟩ := hdefault
      obtain ⟨rfl, rfl⟩ := hdefault'
      exact ObjectPath.mk_lt_mk_iff.mp hlt
    · cases hentry'
  · cases hentry

/-- Of all names that are the same in upper case, the one of the function is listed. -/
theorem Ordered.filter_functionNames (h : c.Ordered) (name : String) :
    c.functionNames.filter (fun other => Text.upper other = Text.upper name)
      = (c.function? name).toList.map (·.name) := by
  have hkeys : c.functions.filter (fun entry => Text.upper entry.2.name = Text.upper name)
      = c.functions.filter (fun entry => entry.1 = Text.upper name) :=
    List.filter_congr fun entry hentry => by rw [h.named entry hentry]
  unfold functionNames Keyed.values
  rw [List.map_map, List.filter_map]
  show (c.functions.filter fun entry => Text.upper entry.2.name = Text.upper name).map _ = _
  rw [hkeys, h.functions.filter_key]
  unfold Catalog.function?
  cases c.functions.find? (Text.upper name) <;> rfl

/-! ### The catalog as a store -/

/-- The catalog is what some calls that took effect left of an empty one. -/
structure Stores (history : List Change) (c : Catalog) : Prop where
  /-- Under a path is the object of the last creation there, unless it was dropped since. -/
  get? : ∀ path, c.get? path
    = (history.filter fun change => change.path? = some path).getLast?.bind Change.object?
  /-- Under a name is the function that was registered last, in any case. -/
  function? : ∀ name, c.function? name
    = (history.filter fun change => change.key? = some (Text.upper name)).getLast?.bind
      Change.function?
  /-- The names of the objects are listed in ascending order, -/
  ascending : c.objectNames.Pairwise (· < ·)
  /-- just those that are there in the default database. -/
  mem_objectNames : ∀ name, name ∈ c.objectNames
    ↔ ∃ object, c.get? ⟨c.defaultCatalog, c.defaultDatabase, name⟩ = some object
  /-- Of the names that are the same in upper case, one is listed if there is a function. -/
  functionNames : ∀ name,
    c.functionNames.filter (fun other => Text.upper other = Text.upper name)
      = (c.function? name).toList.map (·.name)

/-- No call is to the default catalog and the default database. -/
theorem defaults_foldl_after (c : Catalog) (changes : List Change) :
    (changes.foldl after c).defaultCatalog = c.defaultCatalog
      ∧ (changes.foldl after c).defaultDatabase = c.defaultDatabase := by
  rw [foldl_after]
  induction effective c changes generalizing c with
  | nil => exact ⟨rfl, rfl⟩
  | cons change rest ih =>
      rw [List.foldl_cons, (ih _).1, (ih _).2]
      cases change <;> exact ⟨rfl, rfl⟩

/--
**The catalog is a store with keys, whatever calls are made of it.**  After any row of calls,
what is found under a path or a name is what the last call about it that took effect left
there, and the lists of names list what is found.  The next call answers by what is found,
and changes nothing but what it is about, and that only if it answers `true`.
-/
theorem stores_foldl_after (defaultCatalog defaultDatabase : String) (changes : List Change) :
    Stores (effective (new defaultCatalog defaultDatabase) changes)
        (changes.foldl after (new defaultCatalog defaultDatabase))
      ∧ Answers (changes.foldl after (new defaultCatalog defaultDatabase))
      ∧ Confined (changes.foldl after (new defaultCatalog defaultDatabase))
      ∧ (changes.foldl after (new defaultCatalog defaultDatabase)).defaultCatalog = defaultCatalog
      ∧ (changes.foldl after (new defaultCatalog defaultDatabase)).defaultDatabase
        = defaultDatabase := by
  have hordered := (ordered_new defaultCatalog defaultDatabase).foldl_after changes
  refine ⟨⟨fun path => ?_, fun name => ?_, hordered.objectNames,
    fun _ => mem_objectNames, hordered.filter_functionNames⟩,
    answers _, confined _, defaults_foldl_after _ changes⟩
  · rw [foldl_after]
    refine view_foldl_effect (·.get? path) (fun c change => ?_) _ _ rfl
    simp only [get?_effect, decide_eq_true_eq]
  · rw [foldl_after]
    refine view_foldl_effect (·.function? name) (fun c change => ?_) _ _ rfl
    simp only [function?_effect, decide_eq_true_eq]

/-- A table that a view was not dropped for, and a function in the place of another. -/
example :
    let c := [Change.create ⟨"c", "d", "t"⟩ (.table [] []) false, .drop ⟨"c", "d", "t"⟩ .view true,
      .create ⟨"c", "d", "s"⟩ (.view [] "SELECT 1") true, .drop ⟨"c", "d", "s"⟩ .view false,
      .create ⟨"c", "other", "a"⟩ (.table [] []) false, .register ⟨"sum_of", .scalar, "INT"⟩,
      .register ⟨"Sum_Of", .aggregate, "DOUBLE"⟩].foldl after (new "c" "d")
    c.objectNames = ["t"] ∧ c.functionNames = ["Sum_Of"]
      ∧ c.function? "SUM_OF" = some ⟨"Sum_Of", .aggregate, "DOUBLE"⟩ := by
  decide +kernel

end Catalog
end Stencil
