/-
Texts that hold nothing but blanks and comments.

`Filler` says so without the reader: a text is filler if it is a sequence of blanks,
of line comments with the line feed that ends them, and of block comments up to the
first `*/`; a comment that is never closed may stand at the end.  What the reader
strips off the front of a piece is exactly that, so a piece is stripped to nothing
if and only if it is filler (`statement_eq_nil_iff`).
-/
import Stencil.Proofs.Fragment.Statement

namespace Stencil.Fragment.Scan

open Text

/-- The two characters that close a block comment. -/
def closing : List Char := ['*', '/']

/-- Nothing but blanks and comments. -/
inductive Filler : List Char → Prop
  | nil : Filler []
  | blank {c : Char} {rest : List Char} (hc : isBlank c = true) (hrest : Filler rest) :
      Filler (c :: rest)
  | line {body rest : List Char} (hbody : '\n' ∉ body) (hrest : Filler rest) :
      Filler ('-' :: '-' :: (body ++ '\n' :: rest))
  | openLine {body : List Char} (hbody : '\n' ∉ body) : Filler ('-' :: '-' :: body)
  | block {body rest : List Char} (hbody : ¬ closing <:+: body) (hrest : Filler rest) :
      Filler ('/' :: '*' :: (body ++ '*' :: '/' :: rest))
  | openBlock {body : List Char} (hbody : ¬ closing <:+: body) : Filler ('/' :: '*' :: body)

/-! ### The rest of a comment -/

/-- A text that is filler behind the opening of a line comment. -/
def LineRest (text : List Char) : Prop :=
  '\n' ∉ text ∨ ∃ body rest, '\n' ∉ body ∧ Filler rest ∧ text = body ++ '\n' :: rest

/-- A text that is filler behind the opening of a block comment. -/
def BlockRest (text : List Char) : Prop :=
  ¬ closing <:+: text
    ∨ ∃ body rest, ¬ closing <:+: body ∧ Filler rest ∧ text = body ++ '*' :: '/' :: rest

theorem lineRest_nil : LineRest [] := Or.inl (by simp)

theorem lineRest_newline {rest : List Char} : LineRest ('\n' :: rest) ↔ Filler rest := by
  constructor
  · rintro (hno | ⟨body, rest', hbody, hrest, heq⟩)
    · exact absurd List.mem_cons_self hno
    · cases body with
      | nil => exact (List.cons.inj heq).2 ▸ hrest
      | cons b body =>
          rw [← (List.cons.inj heq).1] at hbody
          exact absurd List.mem_cons_self hbody
  · intro hrest
    exact Or.inr ⟨[], rest, by simp, hrest, rfl⟩

theorem lineRest_cons {c : Char} (hc : c ≠ '\n') {rest : List Char} :
    LineRest (c :: rest) ↔ LineRest rest := by
  constructor
  · rintro (hno | ⟨body, rest', hbody, hrest, heq⟩)
    · exact Or.inl fun h => hno (List.mem_cons_of_mem _ h)
    · cases body with
      | nil => exact absurd (List.cons.inj heq).1 hc
      | cons b body =>
          exact Or.inr ⟨body, rest', fun h => hbody (List.mem_cons_of_mem _ h), hrest,
            (List.cons.inj heq).2⟩
  · rintro (hno | ⟨body, rest', hbody, hrest, rfl⟩)
    · exact Or.inl (by simp [hc.symm, hno])
    · exact Or.inr ⟨c :: body, rest', by simp [hc.symm, hbody], hrest, rfl⟩

theorem blockRest_nil : BlockRest [] := Or.inl (by simp [closing])

/-- The two characters stand at the front exactly if they are read together there. -/
theorem closing_prefix_iff {c : Char} {rest : List Char} :
    closing <+: c :: rest ↔ ¬ Alone blockComment c rest := by
  rcases rest with _ | ⟨d, rest⟩
  · simp [closing]
  · rw [alone_cons]
    constructor
    · rintro ⟨behind, heq⟩
      simp only [closing, List.cons_append, List.nil_append, List.cons.injEq] at heq
      rw [← heq.1, ← heq.2.1]
      simp [pair?]
    · intro hpair
      cases hp : pair? blockComment c d with
      | none => exact absurd hp hpair
      | some s =>
          obtain ⟨h, -⟩ | ⟨h, -⟩ | ⟨-, rfl, rfl, -⟩ := pair?_cases hp
          · cases h
          · cases h
          · exact ⟨rest, rfl⟩

theorem blockRest_close {rest : List Char} : BlockRest ('*' :: '/' :: rest) ↔ Filler rest := by
  constructor
  · rintro (hno | ⟨body, rest', hbody, hrest, heq⟩)
    · exact absurd ⟨[], rest, rfl⟩ hno
    · rcases body with _ | ⟨b, _ | ⟨b', body⟩⟩
      · simp only [List.nil_append, List.cons.injEq, true_and] at heq
        exact heq ▸ hrest
      · simp at heq
      · -- A longer body would begin with the two characters that close it.
        simp only [List.cons_append, List.cons.injEq] at heq
        rw [← heq.1, ← heq.2.1] at hbody
        exact absurd ⟨[], body, rfl⟩ hbody
  · intro hrest
    exact Or.inr ⟨[], rest, by simp [closing], hrest, rfl⟩

/-- A character read alone does not bring the two characters into a text. -/
theorem closing_infix_cons {c : Char} {rest : List Char} (ha : Alone blockComment c rest) :
    closing <:+: c :: rest ↔ closing <:+: rest := by
  rw [List.infix_cons_iff, closing_prefix_iff]
  simp [ha]

theorem blockRest_cons {c : Char} {rest : List Char} (ha : Alone blockComment c rest) :
    BlockRest (c :: rest) ↔ BlockRest rest := by
  constructor
  · rintro (hno | ⟨body, rest', hbody, hrest, heq⟩)
    · exact Or.inl fun h => hno ((closing_infix_cons ha).mpr h)
    · cases body with
      | nil => exact absurd ha (closing_prefix_iff.mp ⟨rest', heq.symm⟩)
      | cons b body =>
          exact Or.inr ⟨body, rest', fun h => hbody (h.trans (List.suffix_cons b body).isInfix),
            hrest, (List.cons.inj heq).2⟩
  · rintro (hno | ⟨body, rest', hbody, hrest, rfl⟩)
    · exact Or.inl fun h => hno ((closing_infix_cons ha).mp h)
    · exact Or.inr ⟨c :: body, rest',
        fun h => hbody ((closing_infix_cons (alone_of_append ha)).mp h), hrest, rfl⟩

/-! ### Filler and the reader -/

theorem filler_line {rest : List Char} : Filler ('-' :: '-' :: rest) ↔ LineRest rest := by
  constructor
  · intro h
    cases h with
    | blank hc hrest => exact absurd hc (by decide)
    | line hbody hrest => exact Or.inr ⟨_, _, hbody, hrest, rfl⟩
    | openLine hbody => exact Or.inl hbody
  · rintro (hbody | ⟨body, rest, hbody, hrest, rfl⟩)
    · exact .openLine hbody
    · exact .line hbody hrest

theorem filler_block {rest : List Char} : Filler ('/' :: '*' :: rest) ↔ BlockRest rest := by
  constructor
  · intro h
    cases h with
    | blank hc hrest => exact absurd hc (by decide)
    | block hbody hrest => exact Or.inr ⟨_, _, hbody, hrest, rfl⟩
    | openBlock hbody => exact Or.inl hbody
  · rintro (hbody | ⟨body, rest, hbody, hrest, rfl⟩)
    · exact .openBlock hbody
    · exact .block hbody hrest

/-- In front of a text that opens no comment, filler goes on with a blank only. -/
theorem filler_cons {c : Char} {rest : List Char} (ha : Alone code c rest) :
    Filler (c :: rest) ↔ isBlank c = true ∧ Filler rest := by
  constructor
  · intro h
    cases h with
    | blank hc hrest => exact ⟨hc, hrest⟩
    | line hbody hrest => exact absurd (alone_cons.mp ha) (by simp [pair?])
    | openLine hbody => exact absurd (alone_cons.mp ha) (by simp [pair?])
    | block hbody hrest => exact absurd (alone_cons.mp ha) (by simp [pair?])
    | openBlock hbody => exact absurd (alone_cons.mp ha) (by simp [pair?])
  · rintro ⟨hc, hrest⟩
    exact .blank hc hrest

/-- A text that is filler if it is read from a state. -/
def FillerFrom : Scan → List Char → Prop
  | code, text => Filler text
  | lineComment, text => LineRest text
  | blockComment, text => BlockRest text
  | quoted _, _ => False

/-- The lead of a text is all of it if and only if the text is filler. -/
theorem dropLeadFrom_eq_nil_iff {s : Scan} (hs : Unquoted s) (text : List Char) :
    dropLeadFrom s text = [] ↔ FillerFrom s text := by
  induction s, text using tokensInduction with
  | nil s =>
      cases s with
      | code => simp [FillerFrom, Filler.nil]
      | quoted m => exact absurd rfl (hs m)
      | lineComment => simp [FillerFrom, lineRest_nil]
      | blockComment => simp [FillerFrom, blockRest_nil]
  | pair s s' c d rest hp ih =>
      rw [dropLeadFrom_pair hp, ih (unquoted_of_pair hp)]
      obtain ⟨rfl, rfl, rfl, rfl⟩ | ⟨rfl, rfl, rfl, rfl⟩ | ⟨rfl, rfl, rfl, rfl⟩ := pair?_cases hp
      · exact filler_line.symm
      · exact filler_block.symm
      · exact blockRest_close.symm
  | alone s c rest ha ih =>
      cases s with
      | code =>
          rw [dropLeadFrom_code ha, FillerFrom, filler_cons ha]
          by_cases hc : isBlank c = true
          · rw [if_pos hc]
            rw [step_code_of_blank hc] at ih
            exact (ih unquoted_code).trans (by simp [FillerFrom, hc])
          · simp [hc]
      | quoted m => exact absurd rfl (hs m)
      | lineComment =>
          rw [dropLeadFrom_lineComment]
          by_cases hc : c = '\n'
          · subst hc
            exact (ih unquoted_code).trans lineRest_newline.symm
          · have hstep : step lineComment c = lineComment := by simp [step, hc]
            rw [hstep] at ih ⊢
            exact (ih hs).trans (lineRest_cons hc).symm
      | blockComment =>
          rw [dropLeadFrom_blockComment ha]
          exact (ih hs).trans (blockRest_cons ha).symm

/-- **A piece is stripped to nothing if and only if it holds nothing but blanks and comments.** -/
theorem statement_eq_nil_iff {piece : List Char} : statement piece = [] ↔ Filler piece := by
  have hlead : dropLeadFrom code piece = [] ↔ Filler piece :=
    dropLeadFrom_eq_nil_iff unquoted_code piece
  rw [← hlead]
  unfold statement
  constructor
  · intro h
    by_contra hne
    -- What is left without the lead begins with a character that is not blank.
    have hleadless := leadless_dropLeadFrom unquoted_code piece
    cases hdrop : dropLeadFrom code piece with
    | nil => exact hne hdrop
    | cons c rest =>
        rw [hdrop] at hleadless h
        have hc := (leadless_cons.mp hleadless).1
        have hblank := dropEndBlanks_eq_nil_iff.mp h c List.mem_cons_self
        rw [hc] at hblank
        cases hblank
  · intro h
    rw [h, dropEndBlanks_nil]

end Stencil.Fragment.Scan
