/-
Computations that either succeed or fail.

A sequence of steps succeeds if and only if every step succeeds, which is how the
results of long computations are taken apart: one value for each step.  A loop that
succeeds keeps what each of its steps keeps, and shows what its steps show.  Where
failures count as well, `Ends` says what holds of the value and what of the error, and
goes from step to step in the same way.  `Alike` compares two computations, step by step as
well.
-/
import Mathlib.Data.List.Forall2
import Stencil.Error

namespace Stencil

variable {α β : Type}

/-- A step followed by another succeeds if and only if both do. -/
theorem bind_eq_ok {x : Except Error α} {f : α → Except Error β} {b : β} :
    (x >>= f) = .ok b ↔ ∃ a, x = .ok a ∧ f a = .ok b := by
  cases x with
  | error e =>
      constructor
      · intro h
        cases h
      · rintro ⟨_, h, -⟩
        cases h
  | ok a =>
      constructor
      · intro h
        exact ⟨a, rfl, h⟩
      · rintro ⟨a', ha, h⟩
        cases ha
        exact h

theorem map_eq_ok {x : Except Error α} {f : α → β} {b : β} :
    (f <$> x) = .ok b ↔ ∃ a, x = .ok a ∧ f a = b := by
  cases x with
  | error e =>
      constructor
      · intro h
        cases h
      · rintro ⟨_, h, -⟩
        cases h
  | ok a =>
      constructor
      · intro h
        cases h
        exact ⟨a, rfl, rfl⟩
      · rintro ⟨a', ha, rfl⟩
        cases ha
        rfl

theorem map_eq_error {x : Except Error α} {f : α → β} {e : Error} :
    (f <$> x) = .error e ↔ x = .error e := by
  cases x with
  | error e' =>
      show (Except.error e' : Except Error β) = .error e ↔ _
      rw [Except.error.injEq, Except.error.injEq]
  | ok a => exact iff_of_false nofun nofun

/-- What follows a step matters only for the values that the step can have. -/
theorem bind_congr_of_ok {x : Except Error α} {f g : α → Except Error β}
    (h : ∀ a, x = .ok a → f a = g a) : (x >>= f) = (x >>= g) := by
  cases x with
  | error e => rfl
  | ok a => exact h a rfl

/-- What comes out of a list of steps that succeed comes out of one of them. -/
theorem exists_of_mem_mapM {f : α → Except Error β} {as : List α} {bs : List β}
    (h : as.mapM f = .ok bs) : ∀ b ∈ bs, ∃ a ∈ as, f a = .ok b := by
  induction as generalizing bs with
  | nil =>
      rw [List.mapM_nil] at h
      cases h
      intro b hb
      cases hb
  | cons a as ih =>
      rw [List.mapM_cons] at h
      obtain ⟨b, ha, h⟩ := bind_eq_ok.mp h
      obtain ⟨rest, hrest, h⟩ := bind_eq_ok.mp h
      cases h
      intro b' hb'
      rcases List.mem_cons.mp hb' with rfl | hmem
      · exact ⟨a, List.mem_cons_self, ha⟩
      · obtain ⟨a', ha', hf⟩ := ih hrest b' hmem
        exact ⟨a', List.mem_cons_of_mem _ ha', hf⟩

/-- Steps that yield a list succeed if and only if each of them yields its value. -/
theorem mapM_eq_ok_iff {f : α → Except Error β} {as : List α} {bs : List β} :
    as.mapM f = .ok bs ↔ List.Forall₂ (fun a b => f a = .ok b) as bs := by
  induction as generalizing bs with
  | nil =>
      rw [List.mapM_nil, List.forall₂_nil_left_iff]
      exact ⟨fun h => (Except.ok.inj h).symm, fun h => h ▸ rfl⟩
  | cons a as ih =>
      rw [List.mapM_cons, List.forall₂_cons_left_iff]
      simp only [bind_eq_ok, ih]
      constructor
      · rintro ⟨b, ha, rest, hrest, h⟩
        cases h
        exact ⟨b, rest, ha, hrest, rfl⟩
      · rintro ⟨b, rest, ha, hrest, rfl⟩
        exact ⟨b, ha, rest, hrest, rfl⟩

theorem exists_mapM_iff {f : α → Except Error β} {as : List α} :
    (∃ bs, as.mapM f = .ok bs) ↔ ∀ a ∈ as, ∃ b, f a = .ok b := by
  induction as with
  | nil => exact iff_of_true ⟨[], rfl⟩ nofun
  | cons a as ih =>
      rw [List.forall_mem_cons, ← ih]
      simp only [List.mapM_cons, bind_eq_ok]
      constructor
      · rintro ⟨_, b, ha, rest, hrest, -⟩
        exact ⟨⟨b, ha⟩, rest, hrest⟩
      · rintro ⟨⟨b, ha⟩, rest, hrest⟩
        exact ⟨b :: rest, b, ha, rest, hrest, rfl⟩

/-- Checks one after the other succeed if and only if each of them does. -/
theorem forM_eq_ok_iff {f : α → Except Error Unit} {as : List α} :
    forM as f = .ok () ↔ ∀ a ∈ as, f a = .ok () := by
  induction as with
  | nil => exact iff_of_true rfl nofun
  | cons a as ih =>
      rw [List.forM_cons, bind_eq_ok, List.forall_mem_cons, ← ih]
      exact ⟨fun ⟨_, ha, has⟩ => ⟨ha, has⟩, fun ⟨ha, has⟩ => ⟨⟨⟩, ha, has⟩⟩

/-- Checks one after the other fail with the error of the first that does. -/
theorem forM_eq_error_iff {f : α → Except Error Unit} {as : List α} {e : Error} :
    forM as f = .error e
      ↔ ∃ before a after, as = before ++ a :: after ∧ (∀ b ∈ before, f b = .ok ())
        ∧ f a = .error e := by
  induction as with
  | nil => simp [pure, Except.pure]
  | cons a as ih =>
      rw [List.forM_cons]
      cases ha : f a with
      | error e' =>
          constructor
          · intro h
            cases h
            exact ⟨[], a, as, rfl, nofun, ha⟩
          · rintro ⟨_ | ⟨b, before⟩, a', after, has, hbefore, ha'⟩
            · cases has
              rw [ha] at ha'
              exact ha'
            · cases has
              rw [hbefore a List.mem_cons_self] at ha
              cases ha
      | ok u =>
          show forM as f = .error e ↔ _
          rw [ih]
          constructor
          · rintro ⟨before, a', after, rfl, hbefore, ha'⟩
            exact ⟨a :: before, a', after, rfl, List.forall_mem_cons.mpr ⟨ha, hbefore⟩, ha'⟩
          · rintro ⟨_ | ⟨b, before⟩, a', after, has, hbefore, ha'⟩
            · cases has
              rw [ha] at ha'
              cases ha'
            · cases has
              exact ⟨before, a', after, rfl, (List.forall_mem_cons.mp hbefore).2, ha'⟩

/-! ### Loops -/

section

variable {f : β → α → Except Error β} {as : List α} {b b' : β}

/-- What every step of a loop keeps, the loop keeps. -/
theorem invariant_of_foldlM {P : β → Prop} (hstep : ∀ a ∈ as, ∀ b b', P b → f b a = .ok b' → P b')
    (hb : P b) (h : as.foldlM f b = .ok b') : P b' := by
  induction as generalizing b with
  | nil =>
      rw [List.foldlM_nil] at h
      cases h
      exact hb
  | cons a as ih =>
      rw [List.foldlM_cons] at h
      obtain ⟨c, hfirst, hrest⟩ := bind_eq_ok.mp h
      exact ih (fun a' ha' => hstep a' (List.mem_cons_of_mem _ ha'))
        (hstep a List.mem_cons_self b c hb hfirst) hrest

/-- Every step of a loop that succeeds has succeeded somewhere. -/
theorem exists_step_of_foldlM (h : as.foldlM f b = .ok b') {a : α} (ha : a ∈ as) :
    ∃ c c', f c a = .ok c' := by
  induction as generalizing b with
  | nil => cases ha
  | cons a' as ih =>
      rw [List.foldlM_cons] at h
      obtain ⟨c, hfirst, hrest⟩ := bind_eq_ok.mp h
      rcases List.mem_cons.mp ha with rfl | ha
      · exact ⟨b, c, hfirst⟩
      · exact ih hrest ha

/-- What shows of a loop is a loop over what shows of its steps. -/
theorem view_of_foldlM {γ : Type} (view : β → γ) {g : γ → α → γ}
    (hstep : ∀ b a b', f b a = .ok b' → view b' = g (view b) a) (h : as.foldlM f b = .ok b') :
    view b' = as.foldl g (view b) := by
  induction as generalizing b with
  | nil =>
      rw [List.foldlM_nil] at h
      cases h
      rfl
  | cons a as ih =>
      rw [List.foldlM_cons] at h
      obtain ⟨c, hfirst, hrest⟩ := bind_eq_ok.mp h
      rw [ih hrest, hstep b a c hfirst, List.foldl_cons]

end

/-! ### Values and errors -/

section

variable {good : α → Prop} {expected : Error → Prop} {x : Except Error α}

/-- The computation ends in a good value or in an error of the expected kind. -/
def Ends (good : α → Prop) (expected : Error → Prop) : Except Error α → Prop
  | .ok a => good a
  | .error e => expected e

theorem Ends.of_eq_ok {a : α} (h : Ends good expected x) (hx : x = .ok a) : good a := by
  rw [hx] at h
  exact h

theorem Ends.of_eq_error {e : Error} (h : Ends good expected x) (hx : x = .error e) :
    expected e := by
  rw [hx] at h
  exact h

theorem Ends.imp {good' : α → Prop} (h : Ends good expected x) (himp : ∀ a, good a → good' a) :
    Ends good' expected x := by
  cases x with
  | ok a => exact himp a h
  | error e => exact h

theorem Ends.bind {good' : β → Prop} {f : α → Except Error β} (h : Ends good expected x)
    (hf : ∀ a, good a → Ends good' expected (f a)) : Ends good' expected (x >>= f) := by
  cases x with
  | ok a => exact hf a h
  | error e => exact h

/-- What is done with a value last does not fail. -/
theorem Ends.map {good' : β → Prop} {f : α → β} (h : Ends good expected x)
    (hf : ∀ a, good a → good' (f a)) : Ends good' expected (f <$> x) := by
  cases x with
  | ok a => exact hf a h
  | error e => exact h

/-- Steps that each end well give a list of good values. -/
theorem Ends.mapM {f : β → Except Error α} {bs : List β}
    (h : ∀ b ∈ bs, Ends good expected (f b)) :
    Ends (fun as => ∀ a ∈ as, good a) expected (bs.mapM f) := by
  induction bs with
  | nil =>
      rw [List.mapM_nil]
      intro a ha
      cases ha
  | cons b bs ih =>
      rw [List.mapM_cons]
      refine (h b List.mem_cons_self).bind fun a ha => ?_
      refine (ih fun b' hb' => h b' (List.mem_cons_of_mem _ hb')).bind fun as has => ?_
      exact List.forall_mem_cons.mpr ⟨ha, has⟩

end

/-! ### Two computations side by side -/

section

variable {γ δ : Type} {R : α → β → Prop} {x : Except Error α} {y : Except Error β}

/-- Both computations fail with the same error, or both succeed with values that are related. -/
inductive Alike (R : α → β → Prop) : Except Error α → Except Error β → Prop
  | error (e : Error) : Alike R (.error e) (.error e)
  | ok {a : α} {b : β} (h : R a b) : Alike R (.ok a) (.ok b)

theorem Alike.refl {R : α → α → Prop} (hR : ∀ a, R a a) (x : Except Error α) : Alike R x x := by
  cases x with
  | error e => exact .error e
  | ok a => exact .ok (hR a)

/-- What comes of a value at the end is related to the value. -/
theorem alike_map (f : α → β) (x : Except Error α) : Alike (fun a b => b = f a) x (f <$> x) := by
  cases x with
  | error e => exact .error e
  | ok a => exact .ok rfl

theorem Alike.bind {S : γ → δ → Prop} {f : α → Except Error γ} {g : β → Except Error δ}
    (h : Alike R x y) (hf : ∀ a b, R a b → Alike S (f a) (g b)) :
    Alike S (x >>= f) (y >>= g) := by
  cases h with
  | error e => exact .error e
  | ok hab => exact hf _ _ hab

/-- What related values have in common is the outcome of both. -/
theorem Alike.map_eq {f : α → γ} {g : β → γ} (h : Alike R x y) (hf : ∀ a b, R a b → f a = g b) :
    f <$> x = g <$> y := by
  cases h with
  | error e => rfl
  | ok hab => exact congrArg Except.ok (hf _ _ hab)

end

end Stencil
