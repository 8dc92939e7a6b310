/-
What trimming leaves.

A text is what `dropEndBlanks` keeps of it followed by blanks, and what is kept
ends in a character that is not blank.  Later files use both: the first to undo a
trim, the second to know that trimming again changes nothing.  So a text that
trimming leaves alone is empty or `Visible`.  In front of a text, blanks do not matter to
what reads past a single one (`apply_dropBlanks`).

Blanks also part the words of a text, of which the last is the one that only blanks stand
behind (`LastWord`).
-/
import Mathlib.Data.List.DropRight
import Stencil.Text.Blank

namespace Stencil.Text

/-! ### Characters that are not blank -/

theorem ne_of_isBlank {c d : Char} (hc : isBlank c = true) (hd : isBlank d = false) : c ≠ d := by
  intro heq
  rw [heq, hd] at hc
  exact Bool.noConfusion hc

/-! ### Dropping the blanks at the end -/

theorem dropEndBlanks_eq_rdropWhile (cs : List Char) :
    dropEndBlanks cs = cs.rdropWhile isBlank := rfl

@[simp] theorem dropEndBlanks_nil : dropEndBlanks [] = [] := rfl

/-- Trimming only takes blanks off. -/
theorem dropEndBlanks_append_blanks (cs : List Char) :
    ∃ blanks, (∀ b ∈ blanks, isBlank b = true) ∧ cs = dropEndBlanks cs ++ blanks := by
  refine ⟨cs.rtakeWhile isBlank, ?_, ?_⟩
  · intro b hb
    exact List.mem_rtakeWhile_imp hb
  · rw [dropEndBlanks_eq_rdropWhile, List.rdropWhile_append_rtakeWhile]

@[simp] theorem dropEndBlanks_idem (cs : List Char) :
    dropEndBlanks (dropEndBlanks cs) = dropEndBlanks cs :=
  List.rdropWhile_idempotent isBlank cs

/-- A trimmed text keeps its end whatever stands in front of it. -/
theorem dropEndBlanks_append {front back : List Char} (hne : back ≠ [])
    (hback : dropEndBlanks back = back) : dropEndBlanks (front ++ back) = front ++ back := by
  rw [dropEndBlanks_eq_rdropWhile, List.rdropWhile_eq_self_iff] at hback ⊢
  intro hl
  rw [List.getLast_append_of_ne_nil hl hne]
  exact hback hne

/-- A text that trimming empties has no character but blanks. -/
theorem dropEndBlanks_eq_nil_iff {cs : List Char} :
    dropEndBlanks cs = [] ↔ ∀ c ∈ cs, isBlank c = true := by
  rw [dropEndBlanks_eq_rdropWhile, List.rdropWhile_eq_nil_iff]

/-! ### Dropping the blanks in front -/

theorem blanks_append_dropBlanks (cs : List Char) :
    ∃ blanks, (∀ b ∈ blanks, isBlank b = true) ∧ cs = blanks ++ dropBlanks cs :=
  ⟨cs.takeWhile isBlank, fun _ => List.mem_takeWhile_imp, List.takeWhile_append_dropWhile.symm⟩

theorem dropBlanks_isSuffix (cs : List Char) : dropBlanks cs <:+ cs :=
  List.dropWhile_suffix isBlank

@[simp] theorem dropBlanks_idem (cs : List Char) : dropBlanks (dropBlanks cs) = dropBlanks cs :=
  List.dropWhile_idempotent isBlank cs

/-- What a blank in front does not change is not changed by all of them. -/
theorem apply_dropBlanks {α : Type} {f : List Char → α}
    (h : ∀ b rest, isBlank b = true → f (b :: rest) = f rest) (cs : List Char) :
    f (dropBlanks cs) = f cs := by
  induction cs with
  | nil => rfl
  | cons c rest ih =>
      by_cases hc : isBlank c = true
      · rw [h c rest hc, ← ih, dropBlanks, List.dropWhile_cons_of_pos hc]
        rfl
      · rw [dropBlanks, List.dropWhile_cons_of_neg hc]

/-! ### Dropping the blanks at both ends -/

/-- What trimming leaves has no blank in front. -/
theorem dropBlanks_trimmed (cs : List Char) : dropBlanks (trimmed cs) = trimmed cs := by
  unfold trimmed
  cases hkept : dropEndBlanks (dropBlanks cs) with
  | nil => rfl
  | cons c rest =>
      obtain ⟨blanks, -, heq⟩ := dropEndBlanks_append_blanks (dropBlanks cs)
      rw [hkept, dropBlanks] at heq
      -- The first character kept is the first one behind the blanks in front.
      have hc := List.head?_dropWhile_not isBlank cs
      rw [heq] at hc
      exact List.dropWhile_cons_of_neg (by simpa using hc)

@[simp] theorem trimmed_idem (cs : List Char) : trimmed (trimmed cs) = trimmed cs := by
  conv_lhs => rw [trimmed, dropBlanks_trimmed]
  exact dropEndBlanks_idem _

/-- What trimming leaves is a stretch of the text. -/
theorem trimmed_isInfix (cs : List Char) : trimmed cs <:+: cs := by
  obtain ⟨blanks, -, heq⟩ := dropEndBlanks_append_blanks (dropBlanks cs)
  have hfront : trimmed cs <+: dropBlanks cs := ⟨blanks, heq.symm⟩
  exact hfront.isInfix.trans (dropBlanks_isSuffix cs).isInfix

/-! ### Texts with a character that is not blank -/

/-- Some character of the text is not blank. -/
def Visible (cs : List Char) : Prop := ∃ c ∈ cs, isBlank c = false

theorem visible_iff (s : String) : Visible s.toList ↔ isBlankText s = false := by
  simp [Visible, isBlankText]

theorem Visible.ne_nil {cs : List Char} (h : Visible cs) : cs ≠ [] := by
  rintro rfl
  obtain ⟨c, hc, -⟩ := h
  cases hc

/-- A text that has been trimmed is empty or visible. -/
theorem visible_of_dropEndBlanks {cs : List Char} (h : dropEndBlanks cs = cs) (hne : cs ≠ []) :
    Visible cs := by
  by_contra hblank
  refine hne (h ▸ dropEndBlanks_eq_nil_iff.mpr fun c hc => ?_)
  by_contra hvisible
  exact hblank ⟨c, hc, by simpa using hvisible⟩

/-! ### Words -/

/-- The last word of a text: a longest run without blanks that only blanks stand behind. -/
def LastWord (text word : List Char) : Prop :=
  ∃ front gap, text = front ++ word ++ gap ∧ word ≠ [] ∧ (∀ c ∈ word, isBlank c = false)
    ∧ (∀ c ∈ gap, isBlank c = true) ∧ ∀ c ∈ front.getLast?, isBlank c = true

theorem wordsFrom_append_visible {piece : List Char} (h : ∀ c ∈ piece, isBlank c = false)
    (word rest : List Char) :
    wordsFrom word (piece ++ rest) = wordsFrom (piece.reverse ++ word) rest := by
  induction piece generalizing word with
  | nil => rfl
  | cons c piece ih =>
      have hc : ¬ isBlank c = true := by simp [h c List.mem_cons_self]
      rw [List.cons_append, wordsFrom, if_neg hc, ih fun d hd => h d (List.mem_cons_of_mem _ hd),
        List.reverse_cons, List.append_assoc]
      rfl

theorem wordsFrom_append_blank {c : Char} (hc : isBlank c = true) (word front rest : List Char) :
    wordsFrom word (front ++ c :: rest) = wordsFrom word front ++ wordsFrom [] rest := by
  induction front generalizing word with
  | nil =>
      have hstep : wordsFrom word (c :: rest)
          = if word.isEmpty then wordsFrom [] rest else word.reverse :: wordsFrom [] rest := by
        rw [wordsFrom, if_pos hc]
      rw [List.nil_append, hstep, wordsFrom]
      split <;> rfl
  | cons d front ih =>
      rw [List.cons_append, wordsFrom, wordsFrom, ih, ih]
      split
      · split <;> rfl
      · rfl

theorem wordsFrom_blanks {gap : List Char} (hgap : ∀ c ∈ gap, isBlank c = true)
    (word : List Char) : wordsFrom word gap = wordsFrom word [] := by
  induction gap generalizing word with
  | nil => rfl
  | cons c gap ih =>
      have hrest := ih fun d hd => hgap d (List.mem_cons_of_mem _ hd)
      have h := wordsFrom_append_blank (hgap c List.mem_cons_self) word [] gap
      rw [List.nil_append] at h
      rw [h, hrest []]
      exact List.append_nil _

/-- The last word of a text comes last among its words. -/
theorem LastWord.getLast?_words {text word : List Char} (h : LastWord text word) :
    (words (String.ofList text)).getLast? = some (String.ofList word) := by
  obtain ⟨front, gap, rfl, hne, hword, hgap, hfront⟩ := h
  have hlast : wordsFrom [] (word ++ gap) = [word] := by
    rw [wordsFrom_append_visible hword, wordsFrom_blanks hgap, wordsFrom,
      if_neg (by simpa using hne)]
    simp
  have hwords : ∃ others, wordsFrom [] (front ++ word ++ gap) = others ++ [word] := by
    rcases List.eq_nil_or_concat' front with rfl | ⟨front, c, rfl⟩
    · exact ⟨[], hlast⟩
    · have hc : isBlank c = true := hfront c (by simp)
      refine ⟨wordsFrom [] front, ?_⟩
      rw [List.append_assoc, List.append_assoc, List.singleton_append, wordsFrom_append_blank hc,
        hlast]
  obtain ⟨others, hwords⟩ := hwords
  unfold words
  rw [String.toList_ofList, hwords, List.map_append, List.map_singleton, List.getLast?_concat]

end Stencil.Text
