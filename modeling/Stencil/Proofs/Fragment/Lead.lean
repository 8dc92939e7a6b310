/-
What stands in front of a statement.

The lead of a piece is taken off with the reader: blanks and comments go as long as the
reader sees nothing else.  One may as well take the comments off one by one, looking for
the end of each, and the blanks in between (`behindComments`).  Both come to the same,
because a comment ends for the reader where its end is found first; a comment without
an end takes the rest of the piece with it in either case.

What is taken off in front of a statement is a `Lead`: blanks and comments that are
closed, so the reader is in code behind it.  Nothing is left to be taken off then, which
is why stripping twice is the same as stripping once.
-/
import Stencil.Proofs.Fragment.Complete

namespace Stencil.Fragment.Scan

open Text

/-! ### Comments taken off one by one -/

/-- What is left behind the comment that a text begins with, if it begins with one. -/
def behindComment? (text : List Char) : Option (List Char) :=
  match after? ['-', '-'] text with
  | some body => some ((behind? lineComment.closer body).getD [])
  | none => (after? ['/', '*'] text).map fun body => (behind? blockComment.closer body).getD []

/-- The two ways in which a comment is taken off. -/
theorem behindComment?_eq_some {text rest : List Char} (h : behindComment? text = some rest) :
    (∃ body, text = '-' :: '-' :: body ∧ rest = (behind? lineComment.closer body).getD [])
      ∨ ∃ body, text = '/' :: '*' :: body ∧ rest = (behind? blockComment.closer body).getD [] := by
  unfold behindComment? at h
  cases hline : after? ['-', '-'] text with
  | some body =>
      rw [hline] at h
      exact Or.inl ⟨body, after?_eq_some_iff.mp hline, (Option.some.inj h).symm⟩
  | none =>
      rw [hline] at h
      obtain ⟨body, hblock, hrest⟩ := Option.map_eq_some_iff.mp h
      exact Or.inr ⟨body, after?_eq_some_iff.mp hblock, hrest.symm⟩

theorem behindComment?_eq_none_iff {text : List Char} :
    behindComment? text = none ↔ ¬ Opens text := by
  have hprefix : ∀ start : List Char, after? start text = none ↔ ¬ start <+: text := by
    intro start
    rw [Option.eq_none_iff_forall_ne_some]
    simp only [ne_eq, after?_eq_some_iff]
    exact ⟨fun h ⟨rest, heq⟩ => h rest heq.symm, fun h rest heq => h ⟨rest, heq.symm⟩⟩
  rw [Opens, not_or, ← hprefix, ← hprefix]
  unfold behindComment?
  cases after? ['-', '-'] text <;> simp

theorem getD_behind?_isSuffix (mark body : List Char) : (behind? mark body).getD [] <:+ body := by
  cases h : behind? mark body with
  | none => exact List.nil_suffix
  | some rest => exact behind?_isSuffix h

theorem length_lt_of_behindComment? {text rest : List Char} (h : behindComment? text = some rest) :
    rest.length < text.length := by
  obtain ⟨body, rfl, rfl⟩ | ⟨body, rfl, rfl⟩ := behindComment?_eq_some h
  · have hle := (getD_behind?_isSuffix lineComment.closer body).length_le
    exact hle.trans_lt (Nat.lt_add_of_pos_right (Nat.succ_pos 1))
  · have hle := (getD_behind?_isSuffix blockComment.closer body).length_le
    exact hle.trans_lt (Nat.lt_add_of_pos_right (Nat.succ_pos 1))

/-- The text behind the blanks and comments in front, which are taken off one by one. -/
def behindComments (text : List Char) : List Char :=
  match _ : behindComment? (dropBlanks text) with
  | some rest => behindComments rest
  | none => dropBlanks text
termination_by text.length
decreasing_by
  exact (length_lt_of_behindComment? ‹_›).trans_le (dropBlanks_isSuffix text).length_le

theorem behindComments_of_some {text rest : List Char}
    (h : behindComment? (dropBlanks text) = some rest) :
    behindComments text = behindComments rest := by
  rw [behindComments]
  split
  · rename_i rest' h'
    rw [h] at h'
    rw [Option.some.inj h']
  · rename_i h'
    rw [h] at h'
    cases h'

theorem behindComments_of_none {text : List Char} (h : behindComment? (dropBlanks text) = none) :
    behindComments text = dropBlanks text := by
  rw [behindComments]
  split
  · rename_i h'
    rw [h] at h'
    cases h'
  · rfl

/-! ### The reader and the search -/

theorem follows_dropLeadFrom {s : Scan} (h : s = lineComment ∨ s = blockComment) :
    Follows dropLeadFrom s where
  pair hp rest := dropLeadFrom_pair hp rest
  alone ha := by
    rcases h with rfl | rfl
    · exact dropLeadFrom_lineComment _ _
    · exact dropLeadFrom_blockComment ha

/-- A comment is taken off up to where its end is found. -/
theorem dropLeadFrom_comment {s : Scan} (h : s = lineComment ∨ s = blockComment)
    (body : List Char) :
    dropLeadFrom s body = dropLeadFrom code ((behind? s.closer body).getD []) := by
  have hs : s ≠ code := by
    rcases h with rfl | rfl
    · exact Scan.noConfusion
    · exact Scan.noConfusion
  rw [read_to_closer (follows_dropLeadFrom h) hs]
  cases behind? s.closer body with
  | none => exact (dropLeadFrom_nil s).trans (dropLeadFrom_nil code).symm
  | some rest => rfl

theorem dropLeadFrom_of_behindComment? {text rest : List Char}
    (h : behindComment? text = some rest) : dropLeadFrom code text = dropLeadFrom code rest := by
  obtain ⟨body, rfl, rfl⟩ | ⟨body, rfl, rfl⟩ := behindComment?_eq_some h
  · have hopen : pair? code '-' '-' = some lineComment := rfl
    rw [dropLeadFrom_pair hopen, dropLeadFrom_comment (Or.inl rfl)]
  · have hopen : pair? code '/' '*' = some blockComment := rfl
    rw [dropLeadFrom_pair hopen, dropLeadFrom_comment (Or.inr rfl)]

theorem dropLeadFrom_dropBlanks (text : List Char) :
    dropLeadFrom code (dropBlanks text) = dropLeadFrom code text := by
  refine apply_dropBlanks (fun b rest hb => ?_) text
  rw [dropLeadFrom_code (alone_of_blank code hb rest), if_pos hb]

/-- Nothing is in front of a text that begins with neither a blank nor a comment. -/
theorem leadless_iff {text : List Char} :
    Leadless text ↔ dropBlanks text = text ∧ ¬ Opens text := by
  cases text with
  | nil => simp [Leadless, dropBlanks, Opens]
  | cons c rest =>
      rw [leadless_cons, alone_code_iff]
      refine and_congr_left fun _ => ⟨fun hc => ?_, fun heq => ?_⟩
      · exact List.dropWhile_cons_of_neg (by simp [hc])
      · by_contra hc
        have hle := (dropBlanks_isSuffix rest).length_le
        rw [dropBlanks, List.dropWhile_cons_of_pos (by simpa using hc)] at heq
        rw [dropBlanks, heq, List.length_cons] at hle
        exact Nat.not_succ_le_self _ hle

/-- **The reader takes off what is taken off by looking for the ends of the comments.** -/
theorem dropLeadFrom_eq_behindComments (text : List Char) :
    dropLeadFrom code text = behindComments text := by
  induction text using behindComments.induct with
  | case1 text rest h ih =>
      rw [behindComments_of_some h, ← ih, ← dropLeadFrom_dropBlanks,
        dropLeadFrom_of_behindComment? h]
  | case2 text h =>
      rw [behindComments_of_none h, ← dropLeadFrom_dropBlanks]
      exact leadless_iff.mpr ⟨dropBlanks_idem text, behindComment?_eq_none_iff.mp h⟩

/-! ### What is taken off -/

/-- Nothing but blanks and comments that are closed. -/
inductive Lead : List Char → Prop
  | nil : Lead []
  | blank {c : Char} {rest : List Char} (hc : isBlank c = true) (hrest : Lead rest) :
      Lead (c :: rest)
  | line {body rest : List Char} (hbody : '\n' ∉ body) (hrest : Lead rest) :
      Lead ('-' :: '-' :: (body ++ '\n' :: rest))
  | block {body rest : List Char} (hbody : ¬ closing <:+: body) (hrest : Lead rest) :
      Lead ('/' :: '*' :: (body ++ '*' :: '/' :: rest))

theorem Lead.complete {text : List Char} (h : Lead text) : Complete text := by
  induction h with
  | nil => exact .nil
  | @blank c rest hc _ ih =>
      exact .char (ne_of_blank hc).2.1 (alone_code_iff.mp (alone_of_blank code hc rest)) ih
  | line hbody _ ih => exact .line hbody ih
  | block hbody _ ih => exact .block hbody ih

theorem Lead.blanks {front text : List Char} (hfront : ∀ c ∈ front, isBlank c = true)
    (h : Lead text) : Lead (front ++ text) := by
  induction front with
  | nil => exact h
  | cons c front ih =>
      obtain ⟨hc, hrest⟩ := List.forall_mem_cons.mp hfront
      exact .blank hc (ih hrest)

/-- A comment that is taken off is closed, or nothing is left behind it. -/
theorem comment_cases {text rest : List Char} (h : behindComment? text = some rest) :
    rest = [] ∨ ∃ comment, text = comment ++ rest ∧ ∀ lead, Lead lead → Lead (comment ++ lead) := by
  obtain ⟨body, rfl, rfl⟩ | ⟨body, rfl, rfl⟩ := behindComment?_eq_some h
  · cases hend : behind? lineComment.closer body with
    | none => exact Or.inl rfl
    | some rest =>
        obtain ⟨front, rfl, hbody⟩ := behind?_mark_eq_some_iff.mp hend
        refine Or.inr ⟨'-' :: '-' :: (front ++ ['\n']), by simp, fun lead hlead => ?_⟩
        simpa using Lead.line hbody hlead
  · cases hend : behind? blockComment.closer body with
    | none => exact Or.inl rfl
    | some rest =>
        obtain ⟨front, rfl, hbody⟩ := behind?_closing_eq_some_iff.mp hend
        refine Or.inr ⟨'/' :: '*' :: (front ++ ['*', '/']), by simp, fun lead hlead => ?_⟩
        simpa using Lead.block hbody hlead

/-- What is taken off in front of something are blanks and comments that are closed. -/
theorem lead_cases (text : List Char) :
    behindComments text = [] ∨ ∃ lead, Lead lead ∧ text = lead ++ behindComments text := by
  induction text using behindComments.induct with
  | case1 text rest h ih =>
      obtain ⟨front, hfront, htext⟩ := blanks_append_dropBlanks text
      rw [behindComments_of_some h]
      rcases ih with hnil | ⟨lead, hlead, hrest⟩
      · exact Or.inl hnil
      · rcases comment_cases h with rfl | ⟨comment, hcomment, hclosed⟩
        · rw [behindComments_of_none rfl]
          exact Or.inl rfl
        · refine Or.inr ⟨front ++ (comment ++ lead), (hclosed lead hlead).blanks hfront, ?_⟩
          conv_lhs => rw [htext, hcomment, hrest]
          simp
  | case2 text h =>
      obtain ⟨front, hfront, htext⟩ := blanks_append_dropBlanks text
      rw [behindComments_of_none h]
      exact Or.inr ⟨front, by simpa using Lead.nil.blanks hfront, htext⟩

/-! ### What is left -/

theorem leadless_statement (text : List Char) : Leadless (statement text) := by
  obtain ⟨blanks, -, heq⟩ := dropEndBlanks_append_blanks (dropLeadFrom code text)
  have hleadless := leadless_dropLeadFrom unquoted_code text
  rw [heq] at hleadless
  exact leadless_of_append hleadless

/--
**Stripping takes off blanks and whole comments, and nothing else.**  It comes to the same
as taking the comments off one by one.  What is left has no blank at either end and
begins with no comment, so stripping it again changes nothing.  Either nothing is left of
a text of blanks and comments, of which the last may be open, or what has been taken off
in front are blanks and closed comments, behind which the reader is in code, and behind it
there were only blanks.
-/
theorem statement_strips_lead (text : List Char) :
    statement text = dropEndBlanks (behindComments text)
    ∧ trimmed (statement text) = statement text ∧ ¬ Opens (statement text)
    ∧ (statement text = [] ∧ Filler text
      ∨ ∃ lead blanks, text = lead ++ statement text ++ blanks ∧ Lead lead ∧ run code lead = code
        ∧ blanks.all isBlank = true)
    ∧ statement (statement text) = statement text := by
  have hloop : statement text = dropEndBlanks (behindComments text) := by
    rw [statement, dropLeadFrom_eq_behindComments]
  have hleadless := leadless_statement text
  obtain ⟨hblanks, hopens⟩ := leadless_iff.mp hleadless
  have hend : dropEndBlanks (statement text) = statement text := dropEndBlanks_idem _
  refine ⟨hloop, ?_, hopens, ?_, ?_⟩
  · rw [trimmed, hblanks, hend]
  · rcases lead_cases text with hnil | ⟨lead, hlead, htext⟩
    · have hempty : statement text = [] := by rw [hloop, hnil, dropEndBlanks_nil]
      exact Or.inl ⟨hempty, statement_eq_nil_iff.mp hempty⟩
    · obtain ⟨blanks, hall, hkept⟩ := dropEndBlanks_append_blanks (behindComments text)
      refine Or.inr ⟨lead, blanks, ?_, hlead, hlead.complete.run_eq, List.all_eq_true.mpr hall⟩
      rw [hloop, List.append_assoc, ← hkept]
      exact htext
  · rw [statement_of_leadless hleadless, hend]

/-- A comment with only three characters, one in a comment, and blanks of other kinds. -/
example : (["/*/ a */ -- b /*\n\u2003x -- c\n".toList, "-- a\n/* b".toList].map statement)
    = ["x -- c".toList, []] := by decide +kernel

end Stencil.Fragment.Scan
