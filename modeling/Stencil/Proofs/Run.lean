/-
Computations that keep their state.

Three ways in which a computation can be harmless are told apart.  One that
`Reads` leaves the state alone whatever comes of it, one that `Keeps` a part of the
state leaves that alone, and one that is `Atomic` leaves the state alone if it fails.
Reading first and then doing something atomic is atomic, and so is doing something
atomic first and then nothing that can fail: most statements are of one of these two
shapes, and the few that are not need an argument of their own.

Of a computation that may fail, `Raises` says what its errors are like, in any state.
-/
import Stencil.Proofs.Outcome
import Stencil.Run

namespace Stencil.Run

variable {σ τ α β : Type}

/-! ### One step after another -/

@[simp] theorem pure_apply (a : α) (s : σ) : (pure a : Run σ α) s = (.ok a, s) := rfl

@[simp] theorem read_apply (f : σ → Except Error α) (s : σ) : read f s = (f s, s) := rfl

theorem bind_of_ok {r : Run σ α} {s s' : σ} {a : α} (h : r s = (.ok a, s'))
    (f : α → Run σ β) : (r >>= f) s = f a s' := by
  show (ExceptT.bindCont f (r s).1) (r s).2 = _
  rw [h]
  rfl

theorem bind_of_error {r : Run σ α} {s s' : σ} {e : Error} (h : r s = (.error e, s'))
    (f : α → Run σ β) : (r >>= f) s = (.error e, s') := by
  show (ExceptT.bindCont f (r s).1) (r s).2 = _
  rw [h]
  rfl

theorem eq_of_answer {r : Run σ α} {s : σ} {result : Except Error α} (h : (r s).1 = result) :
    r s = (result, (r s).2) :=
  Prod.ext h rfl

theorem read_bind_of_ok {f : σ → Except Error α} {s : σ} {a : α} (h : f s = .ok a)
    (g : α → Run σ β) : (read f >>= g) s = g a s :=
  bind_of_ok (by rw [read_apply, h]) g

theorem read_bind_of_error {f : σ → Except Error α} {s : σ} {e : Error} (h : f s = .error e)
    (g : α → Run σ β) : (read f >>= g) s = (.error e, s) :=
  bind_of_error (by rw [read_apply, h]) g

theorem change_of_ok {f : σ → Except Error (α × σ)} {s s' : σ} {a : α} (h : f s = .ok (a, s')) :
    change f s = (.ok a, s') := by
  unfold change
  rw [h]

theorem change_of_error {f : σ → Except Error (α × σ)} {s : σ} {e : Error}
    (h : f s = .error e) : change f s = (.error e, s) := by
  unfold change
  rw [h]

theorem within_of_eq {part : σ → τ} {put : τ → σ → σ} {r : Run τ α} {s : σ}
    {result : Except Error α} {t : τ} (h : r (part s) = (result, t)) :
    within part put r s = (result, put t s) := by
  unfold within
  rw [h]

/-- A computation succeeds if and only if both its steps do. -/
theorem bind_eq_ok {r : Run σ α} {f : α → Run σ β} {s s' : σ} {b : β} :
    (r >>= f) s = (.ok b, s') ↔ ∃ a t, r s = (.ok a, t) ∧ f a t = (.ok b, s') := by
  constructor
  · intro h
    cases hrun : r s with
    | mk result t =>
        cases result with
        | ok a =>
            rw [bind_of_ok hrun] at h
            exact ⟨a, t, rfl, h⟩
        | error e =>
            rw [bind_of_error hrun] at h
            cases h
  · rintro ⟨a, t, hrun, h⟩
    rw [bind_of_ok hrun, h]

theorem bind_pure_state (r : Run σ α) (f : α → β) (s : σ) :
    ((r >>= fun a => pure (f a)) s).2 = (r s).2 := by
  cases hrun : r s with
  | mk result t =>
      cases result with
      | ok a => rw [bind_of_ok hrun, pure_apply]
      | error e => rw [bind_of_error hrun]

/-- A computation whose answer is only passed on fails where it fails itself. -/
theorem bind_pure_eq_error {r : Run σ α} {f : α → β} {s s' : σ} {e : Error}
    (h : (r >>= fun a => pure (f a)) s = (.error e, s')) : r s = (.error e, s') := by
  cases hrun : r s with
  | mk result t =>
      cases result with
      | ok a =>
          rw [bind_of_ok hrun] at h
          cases h
      | error e' =>
          rw [bind_of_error hrun] at h
          obtain ⟨he, rfl⟩ := Prod.mk.inj h
          cases he
          rfl

/-! ### Computations that leave the state alone -/

/-- The state afterwards is the one before. -/
def Reads (r : Run σ α) : Prop := ∀ s, (r s).2 = s

theorem reads_pure (a : α) : Reads (pure a : Run σ α) := fun _ => rfl

theorem reads_throw (e : Error) : Reads (throw e : Run σ α) := fun _ => rfl

theorem reads_read (f : σ → Except Error α) : Reads (read f) := fun _ => rfl

theorem Reads.bind {r : Run σ α} {f : α → Run σ β} (hr : Reads r) (hf : ∀ a, Reads (f a)) :
    Reads (r >>= f) := by
  intro s
  have hs := hr s
  cases h : r s with
  | mk result s' =>
      rw [h] at hs
      cases result with
      | ok a =>
          rw [bind_of_ok h]
          exact (hf a s').trans hs
      | error e =>
          rw [bind_of_error h]
          exact hs

/-! ### Computations that leave a part of the state alone -/

section

variable {γ : Type} {view : σ → γ}

/-- What is seen of the state afterwards is what was seen before. -/
def Keeps (view : σ → γ) (r : Run σ α) : Prop := ∀ s, view (r s).2 = view s

theorem Reads.keeps {r : Run σ α} (h : Reads r) : Keeps view r := fun s => by rw [h s]

theorem keeps_change {f : σ → Except Error (α × σ)}
    (h : ∀ s a s', f s = .ok (a, s') → view s' = view s) : Keeps view (change f) := by
  intro s
  cases hf : f s with
  | ok p => rw [change_of_ok hf]; exact h s p.1 p.2 hf
  | error e => rw [change_of_error hf]

theorem Keeps.bind {r : Run σ α} {f : α → Run σ β} (hr : Keeps view r)
    (hf : ∀ a, Keeps view (f a)) : Keeps view (r >>= f) := by
  intro s
  have hs := hr s
  cases h : r s with
  | mk result s' =>
      rw [h] at hs
      cases result with
      | ok a =>
          rw [bind_of_ok h]
          exact (hf a s').trans hs
      | error e =>
          rw [bind_of_error h]
          exact hs

end

/-! ### Computations that leave the state alone if they fail -/

/-- A failure leaves the state as it was. -/
def Atomic (r : Run σ α) : Prop := ∀ s e s', r s = (.error e, s') → s' = s

theorem Reads.atomic {r : Run σ α} (h : Reads r) : Atomic r := by
  intro s e s' hr
  have := h s
  rw [hr] at this
  exact this

theorem atomic_change (f : σ → Except Error (α × σ)) : Atomic (change f) := by
  intro s e s' h
  cases hf : f s with
  | ok p =>
      rw [change_of_ok hf] at h
      cases h
  | error e' =>
      rw [change_of_error hf] at h
      exact (Prod.mk.inj h).2.symm

/-- Reading first keeps what follows atomic. -/
theorem Reads.bind_atomic {r : Run σ α} {f : α → Run σ β} (hr : Reads r)
    (hf : ∀ a, Atomic (f a)) : Atomic (r >>= f) := by
  intro s e s' h
  have hs := hr s
  cases hrun : r s with
  | mk result t =>
      rw [hrun] at hs
      cases result with
      | ok a =>
          rw [bind_of_ok hrun] at h
          exact (hf a t e s' h).trans hs
      | error e' =>
          rw [bind_of_error hrun] at h
          exact (Prod.mk.inj h).2.symm.trans hs

/-- What cannot fail may follow. -/
theorem Atomic.bind_of_total {r : Run σ α} {f : α → Run σ β} (hr : Atomic r)
    (hf : ∀ a s, ∃ b s', f a s = (.ok b, s')) : Atomic (r >>= f) := by
  intro s e s' h
  cases hrun : r s with
  | mk result t =>
      cases result with
      | ok a =>
          obtain ⟨b, t', hb⟩ := hf a t
          rw [bind_of_ok hrun, hb] at h
          cases h
      | error e' =>
          rw [bind_of_error hrun] at h
          obtain ⟨-, ht⟩ := Prod.mk.inj h
          rw [← ht]
          exact hr s e' t hrun

theorem Atomic.bind_pure {r : Run σ α} (hr : Atomic r) (f : α → β) :
    Atomic (r >>= fun a => pure (f a)) :=
  hr.bind_of_total fun a s => ⟨f a, s, rfl⟩

/-! ### Errors -/

section

variable {expected : Error → Prop}

/-- A computation that fails fails with an error of the expected kind. -/
def Raises (expected : Error → Prop) (r : Run σ α) : Prop :=
  ∀ s, Ends (fun _ => True) expected (r s).1

theorem raises_pure (a : α) : Raises expected (pure a : Run σ α) := fun _ => trivial

theorem raises_throw {e : Error} (h : expected e) : Raises expected (throw e : Run σ α) :=
  fun _ => h

theorem raises_read {f : σ → Except Error α} (h : ∀ s, Ends (fun _ => True) expected (f s)) :
    Raises expected (read f) := h

theorem raises_change {f : σ → Except Error (α × σ)}
    (h : ∀ s, Ends (fun _ => True) expected (f s)) : Raises expected (change f) := by
  intro s
  have hs := h s
  cases hf : f s with
  | ok p =>
      rw [change_of_ok hf]
      trivial
  | error e =>
      rw [change_of_error hf]
      exact hs.of_eq_error hf

theorem Raises.bind {r : Run σ α} {f : α → Run σ β} (hr : Raises expected r)
    (hf : ∀ a, Raises expected (f a)) : Raises expected (r >>= f) := by
  intro s
  have hs := hr s
  cases hrun : r s with
  | mk result t =>
      rw [hrun] at hs
      cases result with
      | ok a =>
          rw [bind_of_ok hrun]
          exact hf a t
      | error e =>
          rw [bind_of_error hrun]
          exact hs

end

end Stencil.Run
