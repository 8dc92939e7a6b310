/-
No explanation is explained.

What stands behind EXPLAIN is read as a statement, and refused if its first word
begins an explanation.  That is enough, because no other word does: `Flat` holds of
everything that a text can be read as.
-/
import Stencil.Proofs.Sql.Parser
import Stencil.Sql.Grammar

namespace Stencil.Sql

namespace Statement

def isExplanation : Statement → Bool
  | .explain .. => true
  | _ => false

/-- An explained statement is not itself an explanation. -/
def Flat : Statement → Prop
  | .explain _ inner => inner.isExplanation = false
  | _ => True

theorem flat_of_not_explanation {s : Statement} (h : s.isExplanation = false) : s.Flat := by
  cases s with
  | explain lead inner => cases h
  | _ => trivial

end Statement

open Sql.Parser

namespace Grammar

/-! ### Statements that are no explanations -/

-- In each of these the last step of every branch builds the statement.

theorem yields_create (g : Grammar) : Yields (create g) (·.isExplanation = false) := by
  unfold create
  repeat' first
    | exact yields_pure rfl
    | exact yields_failure
    | refine yields_bind fun _ => ?_
    | refine yields_ite ?_ ?_

theorem yields_drop (g : Grammar) : Yields (drop g) (·.isExplanation = false) := by
  unfold drop
  repeat' first
    | exact yields_pure rfl
    | exact yields_failure
    | refine yields_bind fun _ => ?_
    | refine yields_ite ?_ ?_
    | split

theorem yields_listing (g : Grammar) : Yields (listing g) (·.isExplanation = false) := by
  unfold listing
  repeat' first
    | exact yields_pure rfl
    | exact yields_failure
    | refine yields_bind fun _ => ?_
    | refine yields_ite ?_ ?_
    | split

/-- The words that begin an explanation. -/
def explaining : List String := ["EXPLAIN", "DESCRIBE", "DESC"]

/-- Behind any other word stands no explanation. -/
theorem yields_statementAfter (g : Grammar) {k : String} (h : k ∉ explaining) :
    Yields (statementAfter g k) (·.isExplanation = false) := by
  unfold statementAfter
  split
  all_goals first
    | exact absurd (by decide) h
    | exact yields_create g
    | exact yields_drop g
    | exact yields_listing g
    | exact yields_bind fun _ => yields_pure rfl

/-! ### What begins an explanation -/

/-- The next token is a word that begins an explanation. -/
def explainsNext (ts : List Token) : Bool := ts.head?.any (·.isAnyKey explaining)

theorem mem_explaining_iff {text k : String} {ts : List Token} :
    explainsNext (.word text none k :: ts) = true ↔ k ∈ explaining := by
  simp [explainsNext, Token.isAnyKey, Token.key?]

/-- An explanation that is read begins with a word for it. -/
theorem explainsNext_of_statementBody {g : Grammar} {ts rest : List Token} {s : Statement}
    (h : statementBody g ts = some (s, rest)) (hs : s.isExplanation = true) :
    explainsNext ts = true := by
  unfold statementBody at h
  obtain ⟨opens, mid, hopens, hmid⟩ := bind_eq_some.mp h
  rw [peekSymbol_apply] at hopens
  cases hopens
  obtain ⟨queries, mid, hqueries, hread⟩ := bind_eq_some.mp hmid
  rw [peekKeys_apply] at hqueries
  cases hqueries
  split at hread
  · obtain ⟨q, mid, -, hpure⟩ := bind_eq_some.mp hread
    obtain ⟨rfl, -⟩ := pure_eq_some.mp hpure
    cases hs
  · obtain ⟨t, mid, hnext, hafter⟩ := bind_eq_some.mp hread
    cases ts with
    | nil => cases hnext
    | cons t' ts =>
        cases hnext
        split at hafter
        · rename_i text k _
          refine mem_explaining_iff.mpr ?_
          by_cases hk : k ∈ explaining
          · exact hk
          · rw [yields_statementAfter g hk _ _ _ hafter] at hs
            cases hs
        · exact absurd hafter failure_ne_some

/-! ### Explanations -/

theorem yields_description (k : String) : Yields (description k) (·.isExplanation = false) :=
  yields_bind fun _ => yields_bind fun _ => yields_pure rfl

/-- What is explained is not an explanation, if explanations begin with a word for it one level
further inside. -/
theorem flat_of_explanation {g : Grammar}
    (hg : ∀ ts s rest, g.statement ts = some (s, rest) → s.isExplanation = true →
      explainsNext ts = true)
    (k : String) : Yields (explanation g k) Statement.Flat := by
  intro ts s rest h
  unfold explanation at h
  obtain ⟨analyze, mid₁, -, h₁⟩ := bind_eq_some.mp h
  obtain ⟨verbose, mid₂, -, h₂⟩ := bind_eq_some.mp h₁
  obtain ⟨format, mid₃, -, h₃⟩ := bind_eq_some.mp h₂
  obtain ⟨again, mid₄, hagain, h₄⟩ := bind_eq_some.mp h₃
  rw [peekKeys_apply, Option.some.injEq, Prod.mk.injEq] at hagain
  obtain ⟨hagain, rfl⟩ := hagain
  replace hagain : explainsNext mid₃ = again := hagain
  obtain ⟨inner, mid₅, hinner, h₅⟩ := bind_eq_some.mp h₄
  cases inner with
  | none => exact Statement.flat_of_not_explanation (yields_description k _ _ _ h₅)
  | some inner =>
      have hstatement := attempt_eq_some hinner rfl
      cases again with
      | true =>
          obtain ⟨_, _, hfailure, -⟩ := bind_eq_some.mp h₅
          exact absurd hfailure failure_ne_some
      | false =>
          obtain ⟨rfl, -⟩ := pure_eq_some.mp h₅
          cases hexplains : inner.isExplanation with
          | false => exact hexplains
          | true =>
              rw [hg _ _ _ hstatement hexplains] at hagain
              cases hagain

theorem flat_of_statementAfter {g : Grammar}
    (hg : ∀ ts s rest, g.statement ts = some (s, rest) → s.isExplanation = true →
      explainsNext ts = true)
    (k : String) : Yields (statementAfter g k) Statement.Flat := by
  by_cases hk : k ∈ explaining
  · have hexplanation : statementAfter g k = explanation g k := by
      simp only [explaining, List.mem_cons, List.not_mem_nil, or_false] at hk
      rcases hk with rfl | rfl | rfl <;> rfl
    rw [hexplanation]
    exact flat_of_explanation hg k
  · intro ts s rest h
    exact Statement.flat_of_not_explanation (yields_statementAfter g hk ts s rest h)

theorem flat_of_statementBody {g : Grammar}
    (hg : ∀ ts s rest, g.statement ts = some (s, rest) → s.isExplanation = true →
      explainsNext ts = true) : Yields (statementBody g) Statement.Flat := by
  unfold statementBody
  refine yields_bind fun _ => yields_bind fun _ => yields_ite ?_ ?_
  · exact yields_bind fun _ => yields_pure trivial
  · refine yields_bind fun t => ?_
    split
    · exact flat_of_statementAfter hg _
    · exact yields_failure

/-! ### Levels and texts -/

theorem explainsNext_of_ofDepth (n : Nat) {ts rest : List Token} {s : Statement}
    (h : (ofDepth n).statement ts = some (s, rest)) (hs : s.isExplanation = true) :
    explainsNext ts = true := by
  cases n with
  | zero => exact absurd h failure_ne_some
  | succ n => exact explainsNext_of_statementBody h hs

theorem flat_of_ofDepth (n : Nat) : Yields (ofDepth n).statement Statement.Flat := by
  cases n with
  | zero => exact yields_failure
  | succ n => exact flat_of_statementBody fun _ _ _ => explainsNext_of_ofDepth n

end Grammar

theorem flat_of_statementsFrom (n : Nat) (delimited : Bool) :
    Yields (statementsFrom n delimited) (∀ s ∈ ·, s.Flat) := by
  induction n generalizing delimited with
  | zero => exact yields_failure
  | succ n ih =>
      have hnil : ∀ s ∈ ([] : List Statement), s.Flat := fun _ hs => nomatch hs
      unfold statementsFrom
      refine yields_bind fun _ => yields_ite (ih true) ?_
      refine yields_bind fun _ => yields_ite (yields_pure hnil) (yields_ite ?_ ?_)
      · refine yields_bind_of (Grammar.flat_of_ofDepth Grammar.maxDepth) fun s hs => ?_
        refine yields_bind_of (ih false) fun rest hrest => yields_pure ?_
        exact List.forall_mem_cons.mpr ⟨hs, hrest⟩
      · exact yields_bind fun _ => yields_ite (yields_pure hnil) yields_failure

/-- Nothing that a text is read as is the explanation of an explanation. -/
theorem Statement.flat_of_readAll {text : String} {statements : List Statement}
    (h : readAll text = .ok statements) : ∀ s ∈ statements, s.Flat := by
  unfold readAll at h
  split at h
  · rename_i statements' hread
    cases h
    obtain ⟨ts, -, hts⟩ := Option.bind_eq_some_iff.mp hread
    obtain ⟨⟨read, rest⟩, hfrom, rfl⟩ := Option.map_eq_some_iff.mp hts
    exact flat_of_statementsFrom _ _ _ _ _ hfrom
  · cases h

end Stencil.Sql
