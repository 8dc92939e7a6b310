/-
The statements of a script, cut at its separators.

A script falls into submissions wherever the separator stands, whatever stands around
it.  Where the reader of SQL text is in code, that is a cut between statements, and
inside a line comment in front of a statement it does no harm either: the line feed of
the separator ends the comment in any case.  Everywhere else the separator belongs to
a literal, a name or a comment, and the script falls apart in the middle of it.

Behind a separator that stands between statements the reader goes on as it would from
the start of a text (`run_append_mark`), so the first separator that does not is the
one that decides.
-/
import Stencil.Proofs.Fragment.Ending
import Stencil.Proofs.Fragment.Filler
import Stencil.Proofs.Fragment.Rejoin
import Stencil.Proofs.Fragment.Sequence
import Stencil.Proofs.Text.Search
import Stencil.Script

namespace Stencil

namespace Fragment.Scan

open Text

/-! ### What a separator does to the statements -/

/-- A separator behind the text stands between statements: in code, or inside a line comment in
front of a statement. -/
def Apart (text : List Char) : Prop :=
  run code text = code ∨ (run code text = lineComment ∧ begun text = [])

theorem fresh_mark (b : List Char) : Fresh (mark ++ b) := fresh_cons (by decide) _

theorem run_mark {s : Scan} (hs : s = code ∨ s = lineComment) (b : List Char) :
    run s (mark ++ b) = run code b := by
  have hsemi : ∀ s : Scan, Alone s ';' ('\n' :: b) := fun s => alone_of_ne s (by decide) _
  have hfeed : ∀ s : Scan, Alone s '\n' b := fun s => alone_of_ne s (by decide) _
  show run s (';' :: '\n' :: b) = run code b
  rw [run_alone (hsemi s), run_alone (hfeed _)]
  rcases hs with rfl | rfl
  · rfl
  · rfl

theorem Apart.run_cases {text : List Char} (h : Apart text) :
    run code text = code ∨ run code text = lineComment :=
  h.imp_right And.left

/-- What has begun in front of code or a comment is nothing but lead. -/
theorem lead_of_begun_eq_nil {text : List Char} (h : begun text = []) :
    dropLeadFrom code ((split text).getLastD []) = [] :=
  (dropLeadFrom_eq_nil_iff unquoted_code _).mpr (statement_eq_nil_iff.mp h)

/-- Where nothing has begun, the reader is not inside a quotation. -/
theorem unquoted_of_begun_eq_nil {text : List Char} (h : begun text = []) :
    Unquoted (run code text) := by
  have hfresh : Fresh [] := by simp [Fresh]
  rw [← run_getLastD_split text]
  exact (dropLeadFrom_append_of_nil unquoted_code (lead_of_begun_eq_nil h) hfresh).1

/-- A separator in code parts the statements before it from those behind it. -/
theorem stripped_append_mark_of_code {a : List Char} (h : run code a = code) (b : List Char) :
    stripped (a ++ (mark ++ b)) = stripped a ++ stripped b := by
  have hcut : split (a ++ (mark ++ b)) = split a ++ split ('\n' :: b) := split_append_cut h _
  unfold stripped
  rw [hcut, List.map_append]
  exact congrArg ((split a).map statement ++ ·) (stripped_cons_of_blank (by decide) b)

/-- A separator in a line comment in front of a statement ends the comment. -/
theorem stripped_append_mark_of_lineComment {a : List Char} (h : run code a = lineComment)
    (hbegun : begun a = []) (b : List Char) :
    stripped (a ++ (mark ++ b)) = (split a).dropLast.map statement ++ stripped b := by
  have hrest : splitFrom lineComment [] (mark ++ b) = (split b).modifyHead (mark ++ ·) := by
    show splitFrom lineComment [] (';' :: '\n' :: b) = _
    rw [splitFrom_alone (alone_of_ne _ (by decide) _) (by decide),
      splitFrom_alone (alone_of_ne _ (by decide) _) (by decide), splitFrom_eq_modifyHead]
    rfl
  have hhead : ∀ p, statement ((split a).getLastD [] ++ (mark ++ p)) = statement p := by
    intro p
    have hlead := dropLeadFrom_append_of_nil unquoted_code (lead_of_begun_eq_nil hbegun)
      (fresh_mark p)
    unfold statement
    rw [hlead.2, run_getLastD_split, h]
    rfl
  have hsplit : split (a ++ (mark ++ b)) = (split a).dropLast
      ++ (split b).modifyHead fun p => (split a).getLastD [] ++ (mark ++ p) := by
    have hfresh := splitFrom_append_fresh code a (fresh_mark b)
    rw [h, hrest, List.modifyHead_modifyHead] at hfresh
    exact hfresh
  unfold stripped
  rw [hsplit, List.map_append]
  congr 1
  cases split b with
  | nil => rfl
  | cons p l => rw [List.modifyHead_cons, List.map_cons, List.map_cons, hhead]

/-- A separator elsewhere prolongs the statement that has begun. -/
theorem stripped_append_mark_of_begun {a : List Char} (h : run code a ≠ code)
    (hbegun : begun a ≠ []) (b : List Char) :
    ∃ longer more, stripped (a ++ (mark ++ b)) = (split a).dropLast.map statement ++ longer :: more
      ∧ (begun a).length < longer.length := by
  have hlead : dropLeadFrom code ((split a).getLastD []) ≠ [] := by
    intro hnil
    exact hbegun (by rw [begun, statement, hnil, dropEndBlanks_nil])
  have hsplit := splitFrom_append_fresh code a (fresh_mark b)
  have hrest : ∃ q l, splitFrom (run code a) [] (mark ++ b) = (';' :: q) :: l := by
    show ∃ q l, splitFrom (run code a) [] (';' :: '\n' :: b) = (';' :: q) :: l
    rw [splitFrom_alone (alone_of_ne _ (by decide) _) (fun hcut => h hcut.1),
      splitFrom_eq_modifyHead]
    cases hsplit : splitFrom ((run code a).step ';') [] ('\n' :: b) with
    | nil => exact absurd hsplit (splitFrom_ne_nil _ _)
    | cons q l => exact ⟨q, l, rfl⟩
  obtain ⟨q, l, hrest⟩ := hrest
  rw [hrest, List.modifyHead_cons] at hsplit
  refine ⟨statement ((split a).getLastD [] ++ ';' :: q), l.map statement, ?_, ?_⟩
  · unfold stripped
    rw [split, hsplit, List.map_append, List.map_cons]
    rfl
  · have hfresh : Fresh (';' :: q) := fresh_cons (by decide) q
    obtain ⟨blanks, hblanks, hq⟩ := dropEndBlanks_append_blanks (';' :: q)
    have hkept : dropEndBlanks (';' :: q) ≠ [] := by
      intro hnil
      have := dropEndBlanks_eq_nil_iff.mp hnil ';' List.mem_cons_self
      cases this
    have hlonger : statement ((split a).getLastD [] ++ ';' :: q)
        = dropLeadFrom code ((split a).getLastD []) ++ dropEndBlanks (';' :: q) := by
      unfold statement
      rw [dropLeadFrom_append_of_ne_nil unquoted_code hlead hfresh]
      conv_lhs => rw [hq]
      rw [← List.append_assoc, dropEndBlanks_append_of_blanks hblanks,
        dropEndBlanks_append hkept (dropEndBlanks_idem _)]
    obtain ⟨ends, -, hends⟩ := dropEndBlanks_append_blanks
      (dropLeadFrom code ((split a).getLastD []))
    have hle : (begun a).length ≤ (dropLeadFrom code ((split a).getLastD [])).length := by
      conv_rhs => rw [hends]
      rw [List.length_append]
      exact Nat.le_add_right _ _
    have hpos := List.length_pos_iff.mpr hkept
    rw [hlonger, List.length_append]
    omega

/-! ### Separators that stand between statements -/

/-- Behind a separator between statements the reader goes on as from the start of a text. -/
theorem run_append_mark {a : List Char} (h : Apart a) (b : List Char) :
    run code (a ++ (mark ++ b)) = run code b := by
  rw [run_append _ _ (fresh_mark b), run_mark h.run_cases]

/-- Behind a separator between statements they begin as from the start of a text. -/
theorem begun_append_mark {a : List Char} (h : Apart a) (b : List Char) :
    begun (a ++ (mark ++ b)) = begun b := by
  have hlast : ∀ l : List (List Char),
      (l ++ stripped b).getLastD [] = (stripped b).getLastD [] := by
    intro l
    rw [List.getLastD_eq_getLast?, List.getLastD_eq_getLast?, List.getLast?_append,
      List.getLast?_eq_some_getLast (stripped_ne_nil b)]
    rfl
  rw [begun_eq_getLastD, begun_eq_getLastD]
  rcases h with hcode | ⟨hline, hbegun⟩
  · rw [stripped_append_mark_of_code hcode, hlast]
  · rw [stripped_append_mark_of_lineComment hline hbegun, hlast]

theorem statements_append_mark {a : List Char} (h : Apart a) (b : List Char) :
    statements (a ++ (mark ++ b)) = statements a ++ statements b := by
  simp only [statements_eq]
  rcases h with hcode | ⟨hline, hbegun⟩
  · rw [stripped_append_mark_of_code hcode, List.filter_append]
  · rw [stripped_append_mark_of_lineComment hline hbegun, stripped_eq a, hbegun,
      List.filter_append, List.filter_append]
    simp

/-- The statements of a text go on as others do not if a separator stands inside the last one. -/
theorem statements_append_mark_ne {a : List Char} (h : run code a ≠ code) (hbegun : begun a ≠ [])
    (b : List Char) (others : List (List Char)) :
    statements a ++ others ≠ statements (a ++ (mark ++ b)) := by
  obtain ⟨longer, more, hstripped, hlen⟩ := stripped_append_mark_of_begun h hbegun b
  have hne : longer ≠ [] := List.length_pos_iff.mp (Nat.zero_lt_of_lt hlen)
  simp only [statements_eq]
  rw [hstripped, stripped_eq a, List.filter_append, List.filter_append,
    List.filter_cons_of_pos (by simpa using hbegun), List.filter_cons_of_pos (by simpa using hne),
    List.append_assoc]
  intro heq
  have hfirst := (List.cons.inj (List.append_cancel_left heq)).1
  rw [hfirst] at hlen
  exact Nat.lt_irrefl _ hlen

/-- The first separator of a text is one of its separators, and the others are those of the rest. -/
theorem separator_cases {p rest a b : List Char} (hfirst : ¬ mark <:+: (p ++ mark).dropLast)
    (h : p ++ mark ++ rest = a ++ (mark ++ b)) :
    (a = p ∧ b = rest) ∨ ∃ a', a = p ++ (mark ++ a') ∧ rest = a' ++ (mark ++ b) := by
  rw [List.append_assoc] at h
  rcases List.append_eq_append_iff.mp h with ⟨x, rfl, hx⟩ | ⟨x, rfl, hx⟩
  · rcases x with _ | ⟨c, _ | ⟨d, x⟩⟩
    · rw [List.nil_append] at hx
      exact Or.inl ⟨List.append_nil p, (List.append_cancel_left hx).symm⟩
    · -- The separator would stand across itself.
      simp only [mark, List.cons_append, List.nil_append, List.cons.injEq] at hx
      obtain ⟨-, hx, -⟩ := hx
      cases hx
    · simp only [mark, List.cons_append, List.nil_append, List.cons.injEq] at hx
      obtain ⟨rfl, rfl, hx⟩ := hx
      exact Or.inr ⟨x, rfl, hx⟩
  · obtain rfl := Text.eq_nil_of_first hfirst ⟨b, hx⟩
    rw [List.append_nil]
    exact Or.inl ⟨rfl, List.append_cancel_left hx⟩

end Fragment.Scan

namespace Script

open Fragment.Scan

/-- Pieces between separators have the statements of the text if and only if every separator
stands between statements. -/
theorem flatMap_statements_iff {text : List Char} {pieces : List (List Char)}
    (h : Text.Pieces mark text pieces)
    (hblock : ∀ a b, text = a ++ (mark ++ b) → ¬ (run .code a = .blockComment ∧ begun a = [])) :
    pieces.flatMap statements = statements text ↔ ∀ a b, text = a ++ (mark ++ b) → Apart a := by
  induction h with
  | last hnone =>
      refine ⟨fun _ a b heq => absurd ⟨a, b, ?_⟩ hnone, fun _ => List.flatMap_singleton _ _⟩
      rw [heq, List.append_assoc]
  | @more piece rest pieces hfirst hrest ih =>
      have hbehind : ∀ {a b}, rest = a ++ (mark ++ b) →
          piece ++ mark ++ rest = piece ++ (mark ++ a) ++ (mark ++ b) := by
        rintro a b rfl
        simp
      by_cases hp : Apart piece
      · have happart : ∀ a, Apart (piece ++ (mark ++ a)) ↔ Apart a := by
          intro a
          unfold Apart
          rw [run_append_mark hp, begun_append_mark hp]
        have hblock' : ∀ a b, rest = a ++ (mark ++ b) →
            ¬ (run .code a = .blockComment ∧ begun a = []) := by
          intro a b heq hin
          refine hblock _ _ (hbehind heq) ?_
          rw [run_append_mark hp, begun_append_mark hp]
          exact hin
        rw [List.flatMap_cons, List.append_assoc, statements_append_mark hp,
          List.append_right_inj, ih hblock']
        constructor
        · intro hall a b heq
          rcases separator_cases hfirst ((List.append_assoc _ _ _).trans heq) with
            ⟨rfl, -⟩ | ⟨a', rfl, heq'⟩
          · exact hp
          · exact (happart a').mpr (hall a' b heq')
        · intro hall a b heq
          exact (happart a).mp (hall _ _ ((List.append_assoc _ _ _).symm.trans (hbehind heq)))
      · -- The first separator stands inside a statement, which is longer than what is before it.
        have hrun : run .code piece ≠ .code := fun hcode => hp (Or.inl hcode)
        have hbegun : begun piece ≠ [] := by
          intro hnil
          cases hs : run .code piece with
          | code => exact hrun hs
          | quoted m => exact unquoted_of_begun_eq_nil hnil m hs
          | lineComment => exact hp (Or.inr ⟨hs, hnil⟩)
          | blockComment => exact hblock piece rest (List.append_assoc _ _ _) ⟨hs, hnil⟩
        refine ⟨fun heq => ?_, fun hall => absurd (hall piece rest (List.append_assoc _ _ _)) hp⟩
        rw [List.flatMap_cons, List.append_assoc] at heq
        exact absurd heq (statements_append_mark_ne hrun hbegun rest _)

/-- What is dropped between separators holds no statement. -/
theorem statements_of_not_isSubmission {piece : List Char} (h : isSubmission piece = false) :
    statements piece = [] := by
  have hcases : piece = [] ∨ piece = [';'] := by
    simpa [isSubmission, or_iff_not_imp_left] using h
  rcases hcases with rfl | rfl
  · rfl
  · rfl

/-- The statements of the submissions of a script are those of its pieces. -/
theorem flatMap_submissions {script : String} (hcr : '\r' ∉ script.toList) :
    ((submissions ";\n" script).flatMap fun s => statements s.toList)
      = (Text.split mark script.toList).flatMap statements := by
  have hfilter : ∀ l : List (List Char),
      (l.filter isSubmission).flatMap statements = l.flatMap statements := by
    intro l
    induction l with
    | nil => rfl
    | cons p l ih =>
        by_cases hp : isSubmission p = true
        · rw [List.filter_cons_of_pos hp, List.flatMap_cons, List.flatMap_cons, ih]
        · rw [List.filter_cons_of_neg hp, ih, List.flatMap_cons,
            statements_of_not_isSubmission (by simpa using hp)]
          rfl
  have hmark : Text.readLineEnds (";\n" : String).toList = mark := by decide
  unfold submissions pieces
  rw [hmark, Text.readLineEnds_of_not_mem hcr, List.flatMap_map]
  simp only [String.toList_ofList]
  rw [hfilter, List.flatMap_map]
  simp only [statements_trimmed]

/--
**Where the submissions of a script hold its statements.**  Take a script without
carriage returns.  If every separator in it stands in code or inside a line comment in
front of a statement, the statements of its submissions are the statements of the
script, in order.  If one stands anywhere else, they are not: inside a literal or a
quoted name it cuts a statement in two, and so it does inside a comment once a
statement has begun.  Only the effect of a separator inside a block comment in front of
a statement depends on what the comment goes on with.
-/
theorem statements_submissions {script : String} (hcr : '\r' ∉ script.toList) :
    ((∀ a, a ++ mark <+: script.toList →
        run .code a = .code ∨ (run .code a = .lineComment ∧ begun a = [])) →
      ((submissions ";\n" script).flatMap fun s => statements s.toList)
        = statements script.toList)
    ∧ ((∀ a, a ++ mark <+: script.toList → ¬ (run .code a = .blockComment ∧ begun a = [])) →
      ((submissions ";\n" script).flatMap fun s => statements s.toList)
        = statements script.toList →
      ∀ a, a ++ mark <+: script.toList →
        run .code a = .code ∨ (run .code a = .lineComment ∧ begun a = [])) := by
  have hstart : ∀ {a b}, script.toList = a ++ (mark ++ b) → a ++ mark <+: script.toList := by
    intro a b heq
    exact ⟨b, by rw [heq, List.append_assoc]⟩
  have hpieces : Text.Pieces mark script.toList (Text.split mark script.toList) :=
    Text.pieces_split (by decide) _
  rw [flatMap_submissions hcr]
  constructor
  · intro hall
    refine (flatMap_statements_iff hpieces fun a b heq hin => ?_).mpr
      fun a b heq => hall a (hstart heq)
    rcases hall a (hstart heq) with hcode | ⟨hline, -⟩
    · rw [hcode] at hin
      exact Fragment.Scan.noConfusion hin.1
    · rw [hline] at hin
      exact Fragment.Scan.noConfusion hin.1
  · rintro hblock heq a ⟨b, hb⟩
    exact (flatMap_statements_iff hpieces fun a b h => hblock a (hstart h)).mp heq a b
      (by rw [← hb, List.append_assoc])

/-- A semicolon in a literal, a separator behind a closed comment, and one in a line comment in
front of a statement. -/
theorem statements_submissions_comments :
    '\r' ∉ "SELECT ';' -- one\n;\n-- two;\nSELECT 2 /* ; */;\n".toList
      ∧ (submissions ";\n" "SELECT ';' -- one\n;\n-- two;\nSELECT 2 /* ; */;\n").flatMap
          (fun s => statements s.toList)
        = statements "SELECT ';' -- one\n;\n-- two;\nSELECT 2 /* ; */;\n".toList := by
  have hcr : '\r' ∉ "SELECT ';' -- one\n;\n-- two;\nSELECT 2 /* ; */;\n".toList := by decide
  have hseparators : ∀ a ∈ "SELECT ';' -- one\n;\n-- two;\nSELECT 2 /* ; */;\n".toList.inits,
      a ++ mark <+: "SELECT ';' -- one\n;\n-- two;\nSELECT 2 /* ; */;\n".toList →
        run .code a = .code ∨ (run .code a = .lineComment ∧ begun a = []) := by
    decide +kernel
  refine ⟨hcr, (statements_submissions hcr).1 fun a h => hseparators a ?_ h⟩
  exact (List.mem_inits _ _).mpr ((List.prefix_append _ _).trans h)

/-- A separator inside a literal, one inside a comment behind the beginning of a statement, and one
inside a block comment in front of a statement: each of them cuts a statement in two. -/
theorem statements_submissions_literal :
    (submissions ";\n" "SELECT 'a;\nb'" = ["SELECT 'a", "b'"]
        ∧ statements "SELECT 'a;\nb'".toList = ["SELECT 'a;\nb'".toList]
        ∧ (submissions ";\n" "SELECT 'a;\nb'").flatMap (fun s => statements s.toList)
          ≠ statements "SELECT 'a;\nb'".toList)
      ∧ (submissions ";\n" "SELECT 1 -- a;\n, 2").flatMap (fun s => statements s.toList)
        ≠ statements "SELECT 1 -- a;\n, 2".toList
      ∧ (submissions ";\n" "/* a;\nb */ SELECT 1").flatMap (fun s => statements s.toList)
        ≠ statements "/* a;\nb */ SELECT 1".toList := by
  decide +kernel

end Script

end Stencil
