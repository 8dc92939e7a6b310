/-
Splitting a text at a mark.

The pieces of a text are taken off its front one after the other, each up to the
leftmost occurrence of the mark in what is left of the text.  `Pieces` says so
without the walk over the text, and it is the induction by which a statement about
all pieces is proved.

A text falls into pieces in one way only (`Pieces.unique`), so pieces that were joined
come back as soon as no mark begins in one of them.
-/
import Mathlib.Data.List.Infix
import Stencil.Text.Search

namespace Stencil.Text

/-- The pieces that a text falls into: no mark is in the last one, and none ends before the mark
that stands behind another. -/
inductive Pieces (mark : List Char) : List Char → List (List Char) → Prop
  | last {text : List Char} (hnone : ¬ mark <:+: text) : Pieces mark text [text]
  | more {piece rest : List Char} {pieces : List (List Char)}
      (hfirst : ¬ mark <:+: (piece ++ mark).dropLast) (hrest : Pieces mark rest pieces) :
      Pieces mark (piece ++ mark ++ rest) (piece :: pieces)

variable {mark text : List Char}

theorem after?_eq_some_iff {start rest : List Char} :
    after? start text = some rest ↔ text = start ++ rest := by
  induction start generalizing text with
  | nil => simp [after?, eq_comm]
  | cons s start ih =>
      cases text with
      | nil => simp [after?]
      | cons c cs =>
          rw [after?]
          by_cases hc : s = c
          · simp [hc, ih]
          · simp [hc, Ne.symm hc]

theorem splitFrom_skip (mark piece : List Char) (skip : Nat) (text : List Char) :
    splitFrom mark piece skip text = splitFrom mark piece 0 (text.drop skip) := by
  induction text generalizing skip with
  | nil => cases skip <;> rfl
  | cons c cs ih =>
      cases skip with
      | zero => rfl
      | succ skip => exact ih skip

/-- The walk up to the first occurrence of the mark. -/
theorem splitFrom_cases (hmark : mark ≠ []) (piece text : List Char) :
    (¬ mark <:+: text ∧ splitFrom mark piece 0 text = [piece.reverse ++ text])
      ∨ ∃ front rest, text = front ++ mark ++ rest ∧ ¬ mark <:+: (front ++ mark).dropLast
        ∧ splitFrom mark piece 0 text = (piece.reverse ++ front) :: splitFrom mark [] 0 rest := by
  induction text generalizing piece with
  | nil => exact Or.inl ⟨by simpa using hmark, by simp [splitFrom]⟩
  | cons c cs ih =>
      have hlen : mark.length - 1 + 1 = mark.length :=
        Nat.succ_pred_eq_of_pos (List.length_pos_iff.mpr hmark)
      by_cases hstart : mark <+: c :: cs
      · obtain ⟨rest, hrest⟩ := hstart
        refine Or.inr ⟨[], rest, hrest.symm, fun h => ?_, ?_⟩
        · have hle := h.length_le
          rw [List.nil_append, List.length_dropLast] at hle
          omega
        · have hdrop : cs.drop (mark.length - 1) = rest := by
            have := congrArg (List.drop mark.length) hrest
            rw [List.drop_left, ← hlen, List.drop_succ_cons] at this
            exact this.symm
          rw [splitFrom, if_pos (List.isPrefixOf_iff_prefix.mpr ⟨rest, hrest⟩), splitFrom_skip,
            hdrop, List.append_nil]
      · have hstep : splitFrom mark piece 0 (c :: cs) = splitFrom mark (c :: piece) 0 cs := by
          rw [splitFrom, if_neg fun h => hstart (List.isPrefixOf_iff_prefix.mp h)]
        rw [hstep]
        rcases ih (c :: piece) with ⟨hnone, hsplit⟩ | ⟨front, rest, rfl, hfirst, hsplit⟩
        · refine Or.inl ⟨fun h => ?_, by rw [hsplit]; simp⟩
          exact (List.infix_cons_iff.mp h).elim hstart hnone
        · refine Or.inr ⟨c :: front, rest, rfl, fun h => ?_, by rw [hsplit]; simp⟩
          have hne : front ++ mark ≠ [] := by simp [hmark]
          rw [List.cons_append, List.dropLast_cons_of_ne_nil hne] at h
          rcases List.infix_cons_iff.mp h with h | h
          · refine hstart (h.trans (List.cons_prefix_cons.mpr ⟨rfl, ?_⟩))
            exact (List.dropLast_prefix _).trans (List.prefix_append _ _)
          · exact hfirst h

/-- **Splitting a text yields its pieces.** -/
theorem pieces_split (hmark : mark ≠ []) (text : List Char) :
    Pieces mark text (split mark text) := by
  -- What is left behind a mark is shorter than the text, hence the induction on a bound.
  suffices h : ∀ n text, List.length text ≤ n → Pieces mark text (split mark text) from
    h _ text (Nat.le_refl _)
  intro n
  induction n with
  | zero =>
      intro text hlen
      rw [List.length_eq_zero_iff.mp (Nat.le_zero.mp hlen)]
      exact .last (by simpa using hmark)
  | succ n ih =>
      intro text hlen
      unfold split at ih ⊢
      rcases splitFrom_cases hmark [] text with ⟨hnone, hsplit⟩ | ⟨front, rest, rfl, hfirst, hsplit⟩
      · rw [hsplit]
        exact .last hnone
      · rw [hsplit]
        refine .more hfirst (ih rest ?_)
        have hpos := List.length_pos_iff.mpr hmark
        simp only [List.length_append] at hlen
        omega

/-! ### Where a mark stands first -/

theorem ne_nil_of_first {piece : List Char} (h : ¬ mark <:+: (piece ++ mark).dropLast) :
    mark ≠ [] := by
  rintro rfl
  exact h List.nil_infix

/-- A mark does not stand further in front than where it stands first. -/
theorem eq_nil_of_first {front piece rest : List Char}
    (hfirst : ¬ mark <:+: (front ++ piece ++ mark).dropLast)
    (h : mark <+: piece ++ (mark ++ rest)) : piece = [] := by
  by_contra hne
  have hpos := List.length_pos_iff.mpr hne
  have hle : mark.length ≤ (piece ++ mark).dropLast.length := by
    rw [List.length_dropLast, List.length_append]
    omega
  have hlong : (piece ++ mark).dropLast <+: piece ++ (mark ++ rest) := by
    rw [← List.append_assoc]
    exact (List.dropLast_prefix _).trans (List.prefix_append _ _)
  have hstart : mark <+: (piece ++ mark).dropLast := List.prefix_of_prefix_length_le h hlong hle
  refine hfirst ?_
  rw [List.append_assoc, List.dropLast_append_of_ne_nil (by simp [hne])]
  exact hstart.isInfix.trans (List.suffix_append _ _).isInfix

/-- A mark whose last character is not found elsewhere in it does not end inside another one. -/
theorem not_infix_dropLast_append {front piece : List Char} {c : Char} (hc : c ∉ front)
    (h : ¬ front ++ [c] <:+: piece) : ¬ front ++ [c] <:+: (piece ++ (front ++ [c])).dropLast := by
  rw [← List.append_assoc, List.dropLast_concat]
  rintro ⟨before, behind, heq⟩
  rw [← List.append_assoc] at heq
  rcases List.append_eq_append_iff.mp heq with ⟨x, hpiece, -⟩ | ⟨x, hbefore, hfront⟩
  · exact h ⟨before, x, by rw [hpiece, List.append_assoc before front]⟩
  · rcases List.eq_nil_or_concat' x with rfl | ⟨x, d, rfl⟩
    · rw [List.append_nil] at hbefore
      exact h ⟨before, [], by rw [← hbefore, List.append_nil, List.append_assoc]⟩
    · -- The last character of the mark would be one of those in front.
      rw [← List.append_assoc] at hbefore
      have hd : c = d := (List.append_inj' hbefore rfl).2 |> List.singleton_inj.mp
      rw [hfront, hd] at hc
      simp at hc

theorem behind?_of_not_isInfix (h : ¬ mark <:+: text) : behind? mark text = none := by
  induction text with
  | nil =>
      cases hafter : after? mark [] with
      | none => exact hafter
      | some rest => exact absurd ⟨[], rest, (after?_eq_some_iff.mp hafter).symm⟩ h
  | cons c cs ih =>
      rw [behind?]
      cases hafter : after? mark (c :: cs) with
      | none => exact ih fun hin => h (hin.trans (List.suffix_cons c cs).isInfix)
      | some rest => exact absurd ⟨[], rest, (after?_eq_some_iff.mp hafter).symm⟩ h

theorem behind?_of_first {front : List Char} (hfirst : ¬ mark <:+: (front ++ mark).dropLast)
    (rest : List Char) : behind? mark (front ++ mark ++ rest) = some rest := by
  have hmark := ne_nil_of_first hfirst
  induction front with
  | nil =>
      have hafter : after? mark (mark ++ rest) = some rest := after?_eq_some_iff.mpr rfl
      rw [List.nil_append]
      cases mark with
      | nil => exact absurd rfl hmark
      | cons m mark =>
          rw [List.cons_append] at hafter ⊢
          rw [behind?, hafter]
  | cons c front ih =>
      have hlater : after? mark (c :: front ++ mark ++ rest) = none := by
        cases hafter : after? mark (c :: front ++ mark ++ rest) with
        | none => rfl
        | some other =>
            have hstart := after?_eq_some_iff.mp hafter
            rw [List.append_assoc] at hstart
            have hsole : ¬ mark <:+: ([] ++ (c :: front) ++ mark).dropLast := hfirst
            exact absurd (eq_nil_of_first hsole ⟨other, hstart.symm⟩) (List.cons_ne_nil c front)
      have hrest : ¬ mark <:+: (front ++ mark).dropLast := by
        intro hin
        refine hfirst (hin.trans ?_)
        rw [List.cons_append, List.dropLast_cons_of_ne_nil (by simp [hmark])]
        exact (List.suffix_cons _ _).isInfix
      rw [List.cons_append, List.cons_append] at hlater ⊢
      rw [behind?, hlater]
      exact ih hrest

/-- What is found stands at the end of the text. -/
theorem behind?_isSuffix {rest : List Char} (h : behind? mark text = some rest) :
    rest <:+ text := by
  induction text with
  | nil => exact ⟨mark, (after?_eq_some_iff.mp h).symm⟩
  | cons c cs ih =>
      rw [behind?] at h
      cases hafter : after? mark (c :: cs) with
      | none =>
          rw [hafter] at h
          exact (ih h).trans (List.suffix_cons c cs)
      | some other =>
          rw [hafter] at h
          cases h
          exact ⟨mark, (after?_eq_some_iff.mp hafter).symm⟩

/-- **Looking for a mark finds where it stands first.** -/
theorem behind?_eq_some_iff (hmark : mark ≠ []) {rest : List Char} :
    behind? mark text = some rest
      ↔ ∃ front, text = front ++ mark ++ rest ∧ ¬ mark <:+: (front ++ mark).dropLast := by
  constructor
  · intro h
    rcases splitFrom_cases hmark [] text with ⟨hnone, -⟩ | ⟨front, rest', rfl, hfirst, -⟩
    · rw [behind?_of_not_isInfix hnone] at h
      cases h
    · rw [behind?_of_first hfirst] at h
      cases h
      exact ⟨front, rfl, hfirst⟩
  · rintro ⟨front, rfl, hfirst⟩
    exact behind?_of_first hfirst rest

/-- A mark whose last character is not found elsewhere in it stands first where it is not found
before. -/
theorem behind?_concat_eq_some_iff {front rest : List Char} {c : Char} (hc : c ∉ front) :
    behind? (front ++ [c]) text = some rest
      ↔ ∃ body, text = body ++ (front ++ [c]) ++ rest ∧ ¬ front ++ [c] <:+: body := by
  have hmark : front ++ [c] ≠ [] := List.append_ne_nil_of_right_ne_nil _ (List.cons_ne_nil _ _)
  rw [behind?_eq_some_iff hmark]
  refine exists_congr fun body => and_congr_right fun _ => ⟨fun hfirst hin => hfirst ?_,
    not_infix_dropLast_append hc⟩
  rw [List.dropLast_append_of_ne_nil hmark]
  exact hin.trans (List.prefix_append _ _).isInfix

/-! ### Pieces that were joined -/

/-- No piece holds the mark. -/
theorem Pieces.unmarked {pieces : List (List Char)} (h : Pieces mark text pieces) :
    ∀ piece ∈ pieces, ¬ mark <:+: piece := by
  induction h with
  | last hnone => simpa using hnone
  | more hfirst _ ih =>
      refine List.forall_mem_cons.mpr ⟨fun hin => hfirst ?_, ih⟩
      rw [List.dropLast_append_of_ne_nil (ne_nil_of_first hfirst)]
      exact hin.trans (List.prefix_append _ _).isInfix

/-- A text falls into pieces in one way only. -/
theorem Pieces.unique {pieces pieces' : List (List Char)} (h : Pieces mark text pieces)
    (h' : Pieces mark text pieces') : pieces = pieces' := by
  induction h generalizing pieces' with
  | last hnone =>
      cases h' with
      | last => rfl
      | more => exact absurd ((List.suffix_append _ _).isInfix.trans
          (List.prefix_append _ _).isInfix) hnone
  | @more piece rest pieces hfirst hrest ih =>
      generalize htext : piece ++ mark ++ rest = whole at h'
      cases h' with
      | last hnone =>
          rw [← htext] at hnone
          exact absurd ((List.suffix_append _ _).isInfix.trans
            (List.prefix_append _ _).isInfix) hnone
      | @more piece' rest' pieces' hfirst' hrest' =>
          rw [List.append_assoc, List.append_assoc] at htext
          -- Of two marks that both stand first, neither is in front of the other.
          have hpiece : piece = piece' := by
            rcases List.append_eq_append_iff.mp htext with ⟨x, rfl, hx⟩ | ⟨x, rfl, hx⟩
            · rw [eq_nil_of_first hfirst' ⟨rest, hx⟩, List.append_nil]
            · rw [eq_nil_of_first hfirst ⟨rest', hx⟩, List.append_nil]
          subst hpiece
          have hrests := List.append_cancel_left (List.append_cancel_left htext)
          subst hrests
          rw [ih hrest']

/-- Pieces in which no mark begins are those of the text that they are joined to. -/
theorem pieces_intercalate {pieces : List (List Char)} (hne : pieces ≠ [])
    (h : ∀ piece ∈ pieces, ¬ mark <:+: (piece ++ mark).dropLast) :
    Pieces mark (mark.intercalate pieces) pieces := by
  induction pieces with
  | nil => exact absurd rfl hne
  | cons piece pieces ih =>
      obtain ⟨hpiece, hpieces⟩ := List.forall_mem_cons.mp h
      cases pieces with
      | nil =>
          rw [List.intercalate_singleton]
          refine .last fun hin => hpiece ?_
          rw [List.dropLast_append_of_ne_nil (ne_nil_of_first hpiece)]
          exact hin.trans (List.prefix_append _ _).isInfix
      | cons next pieces =>
          rw [List.intercalate_cons_cons]
          exact .more hpiece (ih (List.cons_ne_nil _ _) hpieces)

/-! ### Line ends -/

/-- A character that is no carriage return is read as it stands. -/
theorem readLineEnds_cons_of_ne {c : Char} (h : c ≠ '\r') (text : List Char) :
    readLineEnds (c :: text) = c :: readLineEnds text := by
  have hstart : ¬ ['\r', '\n'].isPrefixOf (c :: text) = true := by
    simp [List.isPrefixOf, h.symm]
  unfold readLineEnds
  rw [replaceFrom, if_neg hstart]

/-- A text without carriage returns has nothing but line feeds at its line ends. -/
theorem readLineEnds_of_not_mem (h : '\r' ∉ text) : readLineEnds text = text := by
  induction text with
  | nil => rfl
  | cons c cs ih =>
      obtain ⟨hc, hcs⟩ := List.ne_and_not_mem_of_not_mem_cons h
      rw [readLineEnds_cons_of_ne hc.symm, ih hcs]

theorem readLineEnds_ne_nil (h : text ≠ []) : readLineEnds text ≠ [] := by
  cases text with
  | nil => exact absurd rfl h
  | cons c cs =>
      unfold readLineEnds
      rw [replaceFrom]
      split
      · exact List.cons_ne_nil _ _
      · exact List.cons_ne_nil _ _

/-- The text with a carriage return in front of every line feed. -/
def withReturns (text : List Char) : List Char :=
  text.flatMap fun c => if c = '\n' then ['\r', '\n'] else [c]

/-- Carriage returns in front of the line feeds of a text that has none do not matter. -/
theorem readLineEnds_withReturns (h : '\r' ∉ text) : readLineEnds (withReturns text) = text := by
  induction text with
  | nil => rfl
  | cons c cs ih =>
      obtain ⟨hc, hcs⟩ := List.ne_and_not_mem_of_not_mem_cons h
      unfold withReturns at ih ⊢
      rw [List.flatMap_cons]
      split
      · rename_i hfeed
        subst hfeed
        exact congrArg ('\n' :: ·) (ih hcs)
      · rw [List.singleton_append, readLineEnds_cons_of_ne hc.symm, ih hcs]

/-! ### Joining -/

/-- Pieces that end in a mark one by one are parted by it, with nothing behind the last mark. -/
theorem flatMap_concat_eq_intercalate {α : Type} (x : α) (pieces : List (List α)) :
    pieces.flatMap (· ++ [x]) = [x].intercalate (pieces ++ [[]]) := by
  induction pieces with
  | nil => rfl
  | cons piece pieces ih =>
      have hne : pieces ++ [[]] ≠ [] := List.append_ne_nil_of_right_ne_nil _ (List.cons_ne_nil _ _)
      rw [List.flatMap_cons, ih, List.cons_append, List.intercalate_cons_of_ne_nil hne]

/-- Joined lines are taken apart at the line ends. -/
theorem splitOn_join {lines : List String} (hne : lines ≠ [])
    (h : ∀ line ∈ lines, '\n' ∉ line.toList) :
    (join "\n" lines).toList.splitOn '\n' = lines.map String.toList := by
  have hmark : "\n".toList = ['\n'] := rfl
  unfold join
  rw [String.toList_intercalate, hmark]
  refine List.splitOn_intercalate _ (fun l hl => ?_) (by simpa using hne)
  obtain ⟨line, hline, rfl⟩ := List.mem_map.mp hl
  exact h line hline

end Stencil.Text
