/-
Which texts a script falls into.

A submission of a script is a text that stands alone between separators: it is trimmed,
neither empty nor a lone semicolon, and the separator is nowhere inside it.  `Single`
says so, and it is all there is to say: texts of this kind, joined by the usual
separator, are the submissions of the script that they make.  A separator of one's own
may begin in the submission before it (`;;` behind `a;`), so this is said of the usual
one only, whose last character is not found elsewhere in it.

Separator and script are compared with every line end read as a line feed, so a
carriage return in front of a line feed does not matter in either of them.
-/
import Stencil.Proofs.Text.Blank
import Stencil.Proofs.Text.Search
import Stencil.Script

namespace Stencil.Script

open Text

/-- A text that is one submission where `separator` stands between submissions. -/
structure Single (separator : List Char) (s : String) : Prop where
  nonempty : s ≠ ""
  trimmed : trim s = s
  notSemicolon : s ≠ ";"
  undivided : ¬ separator <:+: s.toList

theorem mem_submissions {separator script s : String} :
    s ∈ submissions separator script
      ↔ ∃ piece ∈ split (readLineEnds separator.toList) (readLineEnds script.toList),
        isSubmission (trimmed piece) = true ∧ String.ofList (trimmed piece) = s := by
  unfold submissions pieces
  simp only [List.mem_map, List.mem_filter]
  constructor
  · rintro ⟨_, ⟨⟨piece, hpiece, rfl⟩, hkept⟩, rfl⟩
    exact ⟨piece, hpiece, hkept, rfl⟩
  · rintro ⟨piece, hpiece, hkept, rfl⟩
    exact ⟨_, ⟨⟨piece, hpiece, rfl⟩, hkept⟩, rfl⟩

theorem isSubmission_iff {text : List Char} :
    isSubmission text = true ↔ text ≠ [] ∧ text ≠ [';'] := by
  simp [isSubmission]

/-- A separator that is not blank is not empty, however its line ends are read. -/
theorem readLineEnds_separator_ne_nil {separator : String}
    (h : isBlankText separator = false) : readLineEnds separator.toList ≠ [] := by
  refine readLineEnds_ne_nil fun hnil => ?_
  rw [isBlankText, hnil] at h
  cases h

/-- Every submission of a script stands alone. -/
theorem single_of_mem_submissions {separator script s : String}
    (hseparator : isBlankText separator = false) (h : s ∈ submissions separator script) :
    Single (readLineEnds separator.toList) s := by
  obtain ⟨piece, hpiece, hkept, rfl⟩ := mem_submissions.mp h
  obtain ⟨hne, hsemicolon⟩ := isSubmission_iff.mp hkept
  have hpieces := pieces_split (readLineEnds_separator_ne_nil hseparator)
    (readLineEnds script.toList)
  refine ⟨?_, ?_, ?_, ?_⟩
  · exact fun heq => hne (String.ofList_injective heq)
  · rw [trim, String.toList_ofList, trimmed_idem]
  · exact fun heq => hsemicolon (String.ofList_injective heq)
  · rw [String.toList_ofList]
    exact fun hin => hpieces.unmarked piece hpiece (hin.trans (trimmed_isInfix piece))

/-! ### Line ends -/

/-- Only what the line ends are read as matters. -/
theorem submissions_congr {separator separator' script script' : String}
    (hseparator : readLineEnds separator'.toList = readLineEnds separator.toList)
    (hscript : readLineEnds script'.toList = readLineEnds script.toList) :
    submissions separator' script' = submissions separator script := by
  unfold submissions pieces
  rw [hseparator, hscript]

/-- The text with a carriage return in front of every line feed. -/
def returned (s : String) : String := String.ofList (withReturns s.toList)

theorem readLineEnds_returned {s : String} (h : '\r' ∉ s.toList) :
    readLineEnds (returned s).toList = readLineEnds s.toList := by
  rw [returned, String.toList_ofList, readLineEnds_withReturns h, readLineEnds_of_not_mem h]

/-! ### Joined submissions -/

theorem readLineEnds_usual : readLineEnds ";\n".toList = [';', '\n'] := by decide

theorem not_mem_join {statements : List String} (h : ∀ s ∈ statements, '\r' ∉ s.toList) :
    '\r' ∉ (join ";\n" statements).toList := by
  unfold join
  rw [String.toList_intercalate]
  induction statements with
  | nil => simp
  | cons s statements ih =>
      obtain ⟨hs, hrest⟩ := List.forall_mem_cons.mp h
      cases statements with
      | nil => simpa using hs
      | cons t statements =>
          rw [List.map_cons, List.map_cons, List.intercalate_cons_cons]
          simp only [List.mem_append, not_or]
          exact ⟨⟨hs, by decide⟩, ih hrest⟩

/-- A script of texts that stand alone falls into the same texts again. -/
theorem submissions_join {statements : List String} (h : ∀ s ∈ statements, '\r' ∉ s.toList)
    (hsingle : ∀ s ∈ statements, Single [';', '\n'] s) :
    submissions ";\n" (join ";\n" statements) = statements := by
  by_cases hne : statements = []
  · subst hne
    decide
  have hsplit : split [';', '\n'] (join ";\n" statements).toList
      = statements.map String.toList := by
    have hjoined : (join ";\n" statements).toList
        = [';', '\n'].intercalate (statements.map String.toList) := String.toList_intercalate
    have hpieces : Pieces [';', '\n'] (join ";\n" statements).toList
        (statements.map String.toList) := by
      rw [hjoined]
      refine pieces_intercalate (by simpa using hne) fun piece hpiece => ?_
      obtain ⟨s, hs, rfl⟩ := List.mem_map.mp hpiece
      have hmark : '\n' ∉ [';'] := by decide
      exact not_infix_dropLast_append hmark (hsingle s hs).undivided
    exact (pieces_split (by decide) _).unique hpieces
  have htrimmed : (statements.map String.toList).map trimmed = statements.map String.toList := by
    rw [List.map_map]
    refine List.map_congr_left fun s hs => ?_
    have := congrArg String.toList (hsingle s hs).trimmed
    rwa [trim, String.toList_ofList] at this
  have hkept : ∀ s ∈ statements, isSubmission s.toList = true := by
    intro s hs
    refine isSubmission_iff.mpr ⟨?_, ?_⟩
    · exact fun heq => (hsingle s hs).nonempty (String.toList_injective heq)
    · exact fun heq => (hsingle s hs).notSemicolon (String.toList_injective heq)
  unfold submissions pieces
  rw [readLineEnds_usual, readLineEnds_of_not_mem (not_mem_join h), hsplit, htrimmed,
    List.filter_eq_self.mpr (by simpa using hkept), List.map_map]
  exact (List.map_congr_left fun s _ => String.ofList_toList).trans (List.map_id _)

/--
**Splitting a script undoes joining and ignores how its lines end.**  Every submission of a
script stands alone, whatever separator that is not blank is used.  Separator and script may
have their lines ended by line feeds or by carriage returns and line feeds.  And texts that
are joined by the usual separator are the submissions of the script if and only if each of
them stands alone.
-/
theorem submissions_undo_join :
    (∀ separator script, isBlankText separator = false →
      ∀ s ∈ submissions separator script, Single (readLineEnds separator.toList) s)
    ∧ (∀ separator script, '\r' ∉ separator.toList → '\r' ∉ script.toList →
      submissions (returned separator) script = submissions separator script
        ∧ submissions separator (returned script) = submissions separator script
        ∧ submissions (returned separator) (returned script) = submissions separator script)
    ∧ ∀ statements, (∀ s ∈ statements, '\r' ∉ s.toList) →
      (submissions ";\n" (join ";\n" statements) = statements
        ↔ ∀ s ∈ statements, Single [';', '\n'] s) := by
  refine ⟨?_, ?_, ?_⟩
  · intro separator script hseparator s hs
    exact single_of_mem_submissions hseparator hs
  · intro separator script hseparator hscript
    have hleft := readLineEnds_returned hseparator
    have hright := readLineEnds_returned hscript
    exact ⟨submissions_congr hleft rfl, submissions_congr rfl hright,
      submissions_congr hleft hright⟩
  · intro statements hcr
    refine ⟨fun heq s hs => ?_, submissions_join hcr⟩
    rw [← readLineEnds_usual]
    exact single_of_mem_submissions (by decide) (heq ▸ hs)

/-- A separator that overlaps itself, line ends of both kinds, and statements that end in a
semicolon or have a line feed inside. -/
theorem submissions_undo_join_overlapping :
    (isBlankText ";;" = false ∧ "b\n;c" ∈ submissions ";;" "a;;;;b\r\n;c ;;;"
        ∧ Single (readLineEnds ";;".toList) "b\n;c")
      ∧ ('\r' ∉ "\n--\n".toList ∧ '\r' ∉ "a\n--\nb\n;\n--\n;".toList
        ∧ submissions "\r\n--\r\n" "a\r\n--\r\nb\r\n;\r\n--\r\n;"
          = submissions "\n--\n" "a\n--\nb\n;\n--\n;"
        ∧ submissions "\n--\n" "a\n--\nb\n;\n--\n;" = ["a", "b\n;"])
      ∧ (∀ s ∈ ["SELECT 1;", "a\n;b", ";;"], '\r' ∉ s.toList)
      ∧ submissions ";\n" "SELECT 1;;\na\n;b;\n;;" = ["SELECT 1;", "a\n;b", ";;"] := by
  have hcr : ∀ s ∈ ["SELECT 1;", "a\n;b", ";;"], '\r' ∉ s.toList := by decide +kernel
  have hsingle : ∀ s ∈ ["SELECT 1;", "a\n;b", ";;"],
      s ≠ "" ∧ trim s = s ∧ s ≠ ";" ∧ ¬ [';', '\n'] <:+: s.toList := by decide +kernel
  have hjoin : join ";\n" ["SELECT 1;", "a\n;b", ";;"] = "SELECT 1;;\na\n;b;\n;;" := by
    decide +kernel
  have hmem : "b\n;c" ∈ submissions ";;" "a;;;;b\r\n;c ;;;" := by decide +kernel
  have hreturns : returned "\n--\n" = "\r\n--\r\n"
      ∧ returned "a\n--\nb\n;\n--\n;" = "a\r\n--\r\nb\r\n;\r\n--\r\n;" := by decide +kernel
  have hlines := submissions_undo_join.2.1 "\n--\n" "a\n--\nb\n;\n--\n;" (by decide +kernel)
    (by decide +kernel)
  have hjoined := (submissions_undo_join.2.2 _ hcr).mpr fun s hs =>
    have ⟨hne, htrimmed, hsemicolon, hundivided⟩ := hsingle s hs
    ⟨hne, htrimmed, hsemicolon, hundivided⟩
  rw [hreturns.1, hreturns.2] at hlines
  rw [hjoin] at hjoined
  exact ⟨⟨by decide +kernel, hmem, submissions_undo_join.1 _ _ (by decide +kernel) _ hmem⟩,
    ⟨by decide +kernel, by decide +kernel, hlines.2.2, by decide +kernel⟩, hcr, hjoined⟩

end Stencil.Script
