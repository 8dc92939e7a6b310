/-
What a change of the catalog does, and what it leaves alone.

Objects are created and dropped, and functions are registered; to replace an object
is to drop it and to create another in its place.  A change that is refused does
nothing.  One that is not is about one object or one function, and whatever is found
under another path or under another name is found as before.
-/
import Stencil.Catalog
import Stencil.Proofs.Keyed
import Stencil.Proofs.Outcome

namespace Stencil.Catalog

/-! ### Creating and dropping one object -/

section

variable {c : Catalog} {path : ObjectPath} {object : CatalogObject} {kind : ObjectKind}

theorem drop_of_kind (hget : c.get? path = some object) (hkind : object.kind = kind)
    (ifExists : Bool) :
    c.drop path kind ifExists = .ok (true, { c with objects := c.objects.remove path }) := by
  unfold drop
  rw [hget]
  exact if_pos hkind

theorem drop_of_ne_kind (hget : c.get? path = some object) (hkind : object.kind ≠ kind)
    (ifExists : Bool) :
    c.drop path kind ifExists = .error (.wrongKind path.written object.kind kind) := by
  unfold drop
  rw [hget]
  exact if_neg hkind

theorem drop_of_none (hget : c.get? path = none) (kind : ObjectKind) :
    c.drop path kind true = .ok (false, c) := by
  unfold drop
  rw [hget]
  rfl

theorem drop_of_none_error (hget : c.get? path = none) (kind : ObjectKind) :
    c.drop path kind false = .error (.doesNotExist kind path.written) := by
  unfold drop
  rw [hget]
  rfl

end

theorem drop_eq_ok {c c' : Catalog} {path : ObjectPath} {kind : ObjectKind} {ifExists : Bool}
    {b : Bool} (h : c.drop path kind ifExists = .ok (b, c')) :
    (∃ object, c.get? path = some object ∧ object.kind = kind ∧ b = true
        ∧ c' = { c with objects := c.objects.remove path })
      ∨ (c.get? path = none ∧ ifExists = true ∧ b = false ∧ c' = c) := by
  unfold drop at h
  split at h
  · rename_i object hget
    split at h
    · rename_i hkind
      rw [Except.ok.injEq, Prod.mk.injEq] at h
      exact Or.inl ⟨object, hget, hkind, h.1.symm, h.2.symm⟩
    · simp at h
  · rename_i hget
    split at h
    · rename_i hif
      rw [Except.ok.injEq, Prod.mk.injEq] at h
      exact Or.inr ⟨hget, hif, h.1.symm, h.2.symm⟩
    · simp at h

/-- A drop that succeeds leaves nothing under the path. -/
theorem get?_of_drop {c c' : Catalog} {path : ObjectPath} {kind : ObjectKind} {ifExists : Bool}
    {b : Bool} (h : c.drop path kind ifExists = .ok (b, c')) : c'.get? path = none := by
  obtain ⟨object, -, -, -, rfl⟩ | ⟨hget, -, -, rfl⟩ := drop_eq_ok h
  · exact Keyed.find?_remove_self path c.objects
  · exact hget

/-- A drop brings nothing back. -/
theorem get?_of_drop_of_none {c c' : Catalog} {path path' : ObjectPath} {kind : ObjectKind}
    {ifExists : Bool} {b : Bool} (h : c.drop path kind ifExists = .ok (b, c'))
    (hget : c.get? path' = none) : c'.get? path' = none := by
  obtain ⟨object, -, -, -, rfl⟩ | ⟨-, -, -, rfl⟩ := drop_eq_ok h
  · exact Keyed.find?_remove_eq_none hget
  · exact hget

theorem create_of_none {c : Catalog} {path : ObjectPath} (h : c.get? path = none)
    (object : CatalogObject) (ifNotExists : Bool) :
    c.create path object ifNotExists
      = .ok (true, { c with objects := c.objects.put path object }) := by
  unfold create
  rw [h]

theorem create_eq_ok {c c' : Catalog} {path : ObjectPath} {object : CatalogObject}
    {ifNotExists : Bool} {b : Bool} (h : c.create path object ifNotExists = .ok (b, c')) :
    c' = c ∨ c' = { c with objects := c.objects.put path object } := by
  unfold create at h
  split at h
  · split at h
    · cases h
      exact Or.inl rfl
    · cases h
  · cases h
    exact Or.inr rfl

/-! ### Changes -/

/-- What can be done to a catalog. -/
inductive Change where
  | create (path : ObjectPath) (object : CatalogObject) (ifNotExists : Bool)
  | drop (path : ObjectPath) (kind : ObjectKind) (ifExists : Bool)
  | register (f : UserFunction)

namespace Change

/-- The catalog with the change, unless it is refused. -/
def carryOut (c : Catalog) : Change → Except Error Catalog
  | create path object ifNotExists => Prod.snd <$> c.create path object ifNotExists
  | drop path kind ifExists => Prod.snd <$> c.drop path kind ifExists
  | register f => c.registerFunction f

/-- What the change does to a catalog if it does anything. -/
def effect (c : Catalog) : Change → Catalog
  | create path object _ => { c with objects := c.objects.put path object }
  | drop path _ _ => { c with objects := c.objects.remove path }
  | register f => { c with functions := c.functions.put (Text.upper f.name) f }

/-- The path of the object that the change is about. -/
def path? : Change → Option ObjectPath
  | create path _ _ | drop path _ _ => some path
  | register _ => none

/-- The name of the function that the change is about, in upper case. -/
def key? : Change → Option String
  | register f => some (Text.upper f.name)
  | create .. | drop .. => none

theorem eq_of_carryOut {c c' : Catalog} {change : Change} (h : change.carryOut c = .ok c') :
    c' = c ∨ c' = change.effect c := by
  cases change with
  | create path object ifNotExists =>
      obtain ⟨result, hcreate, rfl⟩ := map_eq_ok.mp h
      exact create_eq_ok hcreate
  | drop path kind ifExists =>
      obtain ⟨result, hdrop, rfl⟩ := map_eq_ok.mp h
      obtain ⟨object, -, -, -, heq⟩ | ⟨-, -, -, heq⟩ := drop_eq_ok hdrop
      · exact Or.inr heq
      · exact Or.inl heq
  | register f =>
      rw [carryOut, registerFunction] at h
      split at h
      · cases h
      · cases h
        exact Or.inr rfl

end Change

/-- The catalog behind a change.  What is refused changes nothing. -/
def after (c : Catalog) (change : Change) : Catalog :=
  match change.carryOut c with
  | .ok c' => c'
  | .error _ => c

theorem after_eq (c : Catalog) (change : Change) :
    c.after change = c ∨ c.after change = change.effect c := by
  unfold after
  split
  · rename_i hcarry
    exact change.eq_of_carryOut hcarry
  · exact Or.inl rfl

/-! ### What is left alone -/

variable {c : Catalog} {change : Change}

/-- No change is to the names that shorter ones are completed with. -/
theorem qualify_after (c : Catalog) (change : Change) :
    (c.after change).qualify = c.qualify := by
  rcases after_eq c change with heq | heq
  · rw [heq]
  · rw [heq]
    cases change <;> rfl

theorem get?_after {path : ObjectPath} (h : change.path? ≠ some path) :
    (c.after change).get? path = c.get? path := by
  rcases after_eq c change with heq | heq
  · rw [heq]
  · rw [heq]
    cases change with
    | create path' object ifNotExists =>
        exact Keyed.find?_put_of_ne (fun hpath => h (congrArg some hpath)) object c.objects
    | drop path' kind ifExists =>
        exact Keyed.find?_remove_of_ne (fun hpath => h (congrArg some hpath)) c.objects
    | register f => rfl

theorem function?_after {name : String} (h : change.key? ≠ some (Text.upper name)) :
    (c.after change).function? name = c.function? name := by
  rcases after_eq c change with heq | heq
  · rw [heq]
  · rw [heq]
    cases change with
    | register f =>
        exact Keyed.find?_put_of_ne (fun hname => h (congrArg some hname)) f c.functions
    | _ => rfl

end Stencil.Catalog
