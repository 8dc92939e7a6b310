/-
What a rejoined submission reads as.

The statements that a submission leaves over are joined by a semicolon and a line
feed.  The semicolon separates them again if the statement before it ends in code.
If that statement ends inside a line comment, whose line feed was trimmed off, the
semicolon is part of the comment and the statement runs on into the next one.
`merged` says which statements come out, and `merged_eq_self_iff` that they are the
ones that went in exactly if no statement but the last one ends inside a line
comment.
-/
import Stencil.Proofs.Fragment.Submission

namespace Stencil.Fragment

namespace Scan

/-- The mark between statements that are joined. -/
def mark : List Char := [';', '\n']

/-- Statements run together wherever one that ends inside a line comment stands before another. -/
def merged : List (List Char) → List (List Char)
  | [] => []
  | [s] => [s]
  | s :: t :: rest =>
    if run code s = lineComment then (merged (t :: rest)).modifyHead (s ++ mark ++ ·)
    else s :: merged (t :: rest)

/-- The statements can stand one after the other: each is stripped, and each before another ends
in code or inside a line comment. -/
structure Joinable (l : List (List Char)) : Prop where
  bare : ∀ s ∈ l, Bare s
  ends : ∀ s ∈ l.dropLast, run code s = code ∨ run code s = lineComment

theorem Joinable.tail {s : List Char} {l : List (List Char)} (h : Joinable (s :: l)) :
    Joinable l := by
  refine ⟨fun t ht => h.bare t (List.mem_cons_of_mem _ ht), fun t ht => ?_⟩
  cases l with
  | nil => simp at ht
  | cons u l => exact h.ends t (by rw [List.dropLast_cons_cons]; exact List.mem_cons_of_mem _ ht)

theorem Joinable.head_ends {s t : List Char} {l : List (List Char)}
    (h : Joinable (s :: t :: l)) : run code s = code ∨ run code s = lineComment :=
  h.ends s (by simp)

/-! ### Splitting what was joined -/

/-- The statements of a text as its cuts leave them: each one behind another begins with the line
feed of the mark. -/
theorem split_intercalate {l : List (List Char)} (hl : Joinable l) (hne : l ≠ []) :
    ∃ first others, merged l = first :: others
      ∧ split (mark.intercalate l) = first :: others.map ('\n' :: ·) := by
  induction l with
  | nil => exact absurd rfl hne
  | cons s l ih =>
      cases l with
      | nil =>
          refine ⟨s, [], rfl, ?_⟩
          rw [List.intercalate_singleton]
          exact (hl.bare s (by simp)).whole
      | cons t rest =>
          obtain ⟨first, others, hmerged, hsplit⟩ := ih hl.tail (List.cons_ne_nil _ _)
          have hwhole : Whole code s := (hl.bare s (by simp)).whole
          have hfresh : Fresh (';' :: '\n' :: mark.intercalate (t :: rest)) :=
            fresh_cons (by decide) _
          have htext : mark.intercalate (s :: t :: rest)
              = s ++ ';' :: '\n' :: mark.intercalate (t :: rest) := by
            rw [List.intercalate_cons_cons]
            simp [mark]
          have hstep : split (mark.intercalate (s :: t :: rest))
              = (splitFrom (run code s) [] (';' :: '\n' :: mark.intercalate (t :: rest))).modifyHead
                  (s ++ ·) := by
            rw [htext]
            exact splitFrom_append hwhole hfresh
          -- Behind the line feed the reader is in code, whether the semicolon was a cut or not.
          have hlf : splitFrom code [] ('\n' :: mark.intercalate (t :: rest))
              = ('\n' :: first) :: others.map ('\n' :: ·) := by
            rw [splitFrom_alone (alone_of_blank code (by decide) _) (by decide),
              splitFrom_eq_modifyHead, step_code_of_blank (by decide)]
            show (split (mark.intercalate (t :: rest))).modifyHead _ = _
            rw [hsplit]
            rfl
          rcases hl.head_ends with hcode | hcomment
          · refine ⟨s, first :: others, ?_, ?_⟩
            · rw [merged, if_neg (by simp [hcode]), hmerged]
            · rw [hstep, hcode, splitFrom_cut, hlf]
              simp
          · refine ⟨s ++ mark ++ first, others, ?_, ?_⟩
            · rw [merged, if_pos hcomment, hmerged]
              rfl
            · rw [hstep, hcomment, splitFrom_alone (alone_of_ne _ (by decide) _) (by decide),
                splitFrom_eq_modifyHead]
              have hsemi : step lineComment ';' = lineComment := by decide
              have hback : step lineComment '\n' = code := by decide
              rw [hsemi, splitFrom_alone (alone_of_ne _ (by decide) _) (by decide),
                splitFrom_eq_modifyHead, hback]
              show ((((split (mark.intercalate (t :: rest))).modifyHead _).modifyHead
                _).modifyHead _) = _
              rw [hsplit]
              simp [mark]

/-- A statement that others have run into is still stripped at both ends. -/
theorem stripped_of_mem_merged {l : List (List Char)} (hl : ∀ s ∈ l, Bare s) :
    ∀ m ∈ merged l, m ≠ [] ∧ Leadless m ∧ Text.dropEndBlanks m = m := by
  induction l with
  | nil => simp [merged]
  | cons s l ih =>
      have hs : Bare s := hl s (by simp)
      cases l with
      | nil =>
          intro m hm
          rw [merged, List.mem_singleton] at hm
          exact hm ▸ ⟨hs.nonempty, hs.leadless, hs.trimmed⟩
      | cons t rest =>
          have hrest := ih fun u hu => hl u (List.mem_cons_of_mem _ hu)
          intro m hm
          rw [merged] at hm
          split at hm
          · cases hmerged : merged (t :: rest) with
            | nil => simp [hmerged] at hm
            | cons first others =>
                rw [hmerged] at hm hrest
                rw [List.modifyHead_cons] at hm
                rcases List.mem_cons.mp hm with rfl | hm
                · obtain ⟨hne, -, htrim⟩ := hrest first (by simp)
                  refine ⟨by simp [hs.nonempty], ?_, Text.dropEndBlanks_append hne htrim⟩
                  rw [List.append_assoc]
                  exact leadless_append hs.nonempty hs.leadless (fresh_cons (by decide) _)
                · exact hrest m (List.mem_cons_of_mem _ hm)
          · rcases List.mem_cons.mp hm with rfl | hm
            · exact ⟨hs.nonempty, hs.leadless, hs.trimmed⟩
            · exact hrest m hm

/-- **Joined statements read as `merged` says.** -/
theorem statements_intercalate {l : List (List Char)} (hl : Joinable l) :
    statements (mark.intercalate l) = merged l := by
  by_cases hne : l = []
  · subst hne
    decide
  obtain ⟨first, others, hmerged, hsplit⟩ := split_intercalate hl hne
  have hstripped := stripped_of_mem_merged hl.bare
  have hstatement : ∀ m ∈ merged l, statement m = m := by
    intro m hm
    obtain ⟨-, hlead, htrim⟩ := hstripped m hm
    rw [statement_of_leadless hlead, htrim]
  have hmap : (split (mark.intercalate l)).map statement = merged l := by
    rw [hsplit, hmerged, List.map_cons, List.map_map]
    congr 1
    · exact hstatement first (by simp [hmerged])
    · refine (List.map_congr_left fun m hm => ?_).trans (List.map_id others)
      rw [Function.comp_apply, statement_cons_of_blank (by decide)]
      exact hstatement m (by simp [hmerged, hm])
  unfold statements
  rw [hmap, List.filter_eq_self]
  intro m hm
  simpa using (hstripped m hm).1

/-! ### When nothing runs together -/

theorem length_merged_le (l : List (List Char)) : (merged l).length ≤ l.length := by
  induction l with
  | nil => exact Nat.le_refl _
  | cons s l ih =>
      cases l with
      | nil => exact Nat.le_refl _
      | cons t rest =>
          rw [merged]
          split
          · rw [List.length_modifyHead]
            exact Nat.le_succ_of_le ih
          · exact Nat.succ_le_succ ih

/-- **Nothing runs together if and only if no statement but the last one ends inside a line
comment.** -/
theorem merged_eq_self_iff (l : List (List Char)) :
    merged l = l ↔ ∀ s ∈ l.dropLast, run code s ≠ lineComment := by
  induction l with
  | nil => simp [merged]
  | cons s l ih =>
      cases l with
      | nil => simp [merged]
      | cons t rest =>
          rw [merged, List.dropLast_cons_cons, List.forall_mem_cons]
          by_cases hcomment : run code s = lineComment
          · rw [if_pos hcomment]
            refine ⟨fun heq => ?_, fun h => absurd hcomment h.1⟩
            -- Running together has left one statement less.
            have hlen := congrArg List.length heq
            rw [List.length_modifyHead, List.length_cons] at hlen
            have := length_merged_le (t :: rest)
            omega
          · rw [if_neg hcomment, List.cons.injEq, ih]
            exact ⟨fun h => ⟨hcomment, h.2⟩, fun h => ⟨rfl, h.2⟩⟩

end Scan

/-! ### Submissions -/

/-- The ordinary statements of a text can stand one after the other. -/
theorem joinable_ordinary (text : String) : Scan.Joinable (ordinary text) := by
  refine ⟨fun s hs => ?_, fun s hs => ?_⟩
  · exact Scan.bare_of_mem_statements (List.mem_of_mem_filter hs)
  · have hsub := (List.filter_sublist (p := isOrdinary)
      (l := Scan.statements text.toList)).reverse.tail
    rw [List.tail_reverse, List.tail_reverse, List.reverse_sublist] at hsub
    exact Scan.run_of_mem_dropLast_statements (hsub.subset hs)

namespace Registry

/--
**A submission leaves its ordinary statements over, unless one of them ends inside a
line comment and another follows.**  What is left over of a text without references
reads as the ordinary statements of the text, run together behind each line comment
that ends one of them; so they come out as they went in exactly if none but the last
one ends so.
-/
theorem statements_submit {r r' : Registry} {text out : String} (hplain : Plain text.toList)
    (h : r.submit text = .ok (out, r')) :
    Scan.statements out.toList = Scan.merged (ordinary text)
      ∧ (Scan.statements out.toList = ordinary text
        ↔ ∀ s ∈ (ordinary text).dropLast, Scan.run .code s ≠ .lineComment) := by
  have hmerged : Scan.statements out.toList = Scan.merged (ordinary text) := by
    rw [toList_submit hplain h]
    exact Scan.statements_intercalate (joinable_ordinary text)
  refine ⟨hmerged, ?_⟩
  rw [hmerged]
  exact Scan.merged_eq_self_iff _

/-- A semicolon in a literal, one in a comment, a definition, and a comment at the very end. -/
theorem statements_submit_comments :
    Plain "SELECT ';' /* two; */; x := 1; SELECT 2 -- three".toList
      ∧ empty.submit "SELECT ';' /* two; */; x := 1; SELECT 2 -- three"
        = .ok ("SELECT ';' /* two; */;\nSELECT 2 -- three", ⟨[("x", "1")]⟩)
      ∧ Scan.statements "SELECT ';' /* two; */;\nSELECT 2 -- three".toList
        = ordinary "SELECT ';' /* two; */; x := 1; SELECT 2 -- three" := by
  have hplain : Plain "SELECT ';' /* two; */; x := 1; SELECT 2 -- three".toList := by decide +kernel
  have hsubmit : empty.submit "SELECT ';' /* two; */; x := 1; SELECT 2 -- three"
      = .ok ("SELECT ';' /* two; */;\nSELECT 2 -- three", ⟨[("x", "1")]⟩) := by decide +kernel
  exact ⟨hplain, hsubmit, (statements_submit hplain hsubmit).2.mpr (by decide +kernel)⟩

/-- A semicolon behind a line comment is swallowed, and two statements become one. -/
theorem statements_submit_line_comment :
    empty.submit "SELECT 1 -- one\n; SELECT 2" = .ok ("SELECT 1 -- one;\nSELECT 2", empty)
      ∧ Scan.statements "SELECT 1 -- one;\nSELECT 2".toList
        = ["SELECT 1 -- one;\nSELECT 2".toList]
      ∧ ordinary "SELECT 1 -- one\n; SELECT 2"
        = ["SELECT 1 -- one".toList, "SELECT 2".toList] := by
  decide +kernel

end Registry
end Stencil.Fragment
