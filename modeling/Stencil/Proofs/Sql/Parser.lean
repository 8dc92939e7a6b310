/-
What comes out of a parser.

A parser that is put together from others succeeds if and only if each of them does
in turn.  Where only the shape of the outcome matters, `Yields` forgets the tokens:
whatever ran before it, the last step alone decides what comes out.
-/
import Stencil.Sql.Parser

namespace Stencil.Sql.Parser

variable {α β : Type} {p : Parser α} {f : α → Parser β} {ts rest : List Token}

/-! ### One step after another -/

theorem bind_eq_some {b : β} :
    (p >>= f) ts = some (b, rest)
      ↔ ∃ a mid, p ts = some (a, mid) ∧ f a mid = some (b, rest) := by
  show (p ts).bind (fun r => f r.1 r.2) = _ ↔ _
  rw [Option.bind_eq_some_iff]
  constructor
  · rintro ⟨⟨a, mid⟩, hp, hf⟩
    exact ⟨a, mid, hp, hf⟩
  · rintro ⟨a, mid, hp, hf⟩
    exact ⟨(a, mid), hp, hf⟩

theorem pure_eq_some {a b : α} :
    (pure a : Parser α) ts = some (b, rest) ↔ a = b ∧ ts = rest := by
  show some (a, ts) = _ ↔ _
  simp

theorem failure_ne_some {a : α} : (failure : Parser α) ts ≠ some (a, rest) := nofun

/-! ### Looking ahead -/

theorem peekKeys_apply (keys : List String) (ts : List Token) :
    peekKeys keys ts = some (ts.head?.any (·.isAnyKey keys), ts) := by
  cases ts with
  | nil => rfl
  | cons t rest => rfl

theorem peekSymbol_apply (s : String) (ts : List Token) :
    peekSymbol s ts = some (ts.head?.any (·.isSymbol s), ts) := by
  cases ts with
  | nil => rfl
  | cons t rest => rfl

theorem attempt_eq_some {a : α} {r : Option α} (h : attempt p ts = some (r, rest))
    (hr : r = some a) : p ts = some (a, rest) := by
  unfold attempt at h
  subst hr
  split at h
  · rename_i a' rest' hp
    cases h
    exact hp
  · cases h

/-! ### The shape of the outcome -/

/-- Whatever comes out has the property. -/
def Yields (p : Parser α) (P : α → Prop) : Prop := ∀ ts a rest, p ts = some (a, rest) → P a

variable {P : α → Prop} {Q : β → Prop}

theorem yields_pure {a : α} (h : P a) : Yields (pure a) P := by
  intro ts b rest hp
  obtain ⟨rfl, -⟩ := pure_eq_some.mp hp
  exact h

theorem yields_failure : Yields (failure : Parser α) P := by
  intro ts a rest hp
  exact absurd hp failure_ne_some

theorem yields_bind_of (hp : Yields p P) (hf : ∀ a, P a → Yields (f a) Q) :
    Yields (p >>= f) Q := by
  intro ts b rest h
  obtain ⟨a, mid, ha, hb⟩ := bind_eq_some.mp h
  exact hf a (hp ts a mid ha) mid b rest hb

/-- What ran before does not matter. -/
theorem yields_bind (h : ∀ a, Yields (f a) Q) : Yields (p >>= f) Q := by
  intro ts b rest hp
  obtain ⟨a, mid, -, hf⟩ := bind_eq_some.mp hp
  exact h a mid b rest hf

theorem yields_ite {q : Parser α} {t : Prop} [Decidable t] (hp : Yields p P) (hq : Yields q P) :
    Yields (if t then p else q) P := by
  split
  · exact hp
  · exact hq

end Stencil.Sql.Parser
