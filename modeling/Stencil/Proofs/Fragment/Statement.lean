/-
What a statement looks like once its piece has been stripped.

`dropLeadFrom` takes whole comments and blanks off the front, so the reader is in
code where the statement begins and reads it as it would have read it in place
(`lead_dropped`).  What is left begins with neither blank nor comment, ends with no
blank, and has no cut inside: it is `Bare`.  The blanks taken off the end are the
one thing that can change how the text goes on, because the line feed that closes a
line comment is one of them.  So a statement in front of another ends in code or
inside a line comment, and nowhere else.
-/
import Stencil.Proofs.Fragment.Scan
import Stencil.Proofs.Text.Blank

namespace Stencil.Fragment.Scan

open Text

/-! ### Blanks and the reader -/

/-- No blank belongs to a pair, is a quote or is a semicolon. -/
theorem ne_of_blank {c : Char} (h : isBlank c = true) :
    (c ≠ '-' ∧ c ≠ '*' ∧ c ≠ '/') ∧ isQuote c = false ∧ c ≠ ';' := by
  have hdash : c ≠ '-' := ne_of_isBlank h (by decide)
  have hstar : c ≠ '*' := ne_of_isBlank h (by decide)
  have hslash : c ≠ '/' := ne_of_isBlank h (by decide)
  have hsingle : c ≠ '\x27' := ne_of_isBlank h (by decide)
  have hdouble : c ≠ '\x22' := ne_of_isBlank h (by decide)
  have hback : c ≠ '\x60' := ne_of_isBlank h (by decide)
  have hsemi : c ≠ ';' := ne_of_isBlank h (by decide)
  exact ⟨⟨hdash, hstar, hslash⟩, by simp [isQuote, hsingle, hdouble, hback], hsemi⟩

theorem alone_of_blank {c : Char} (s : Scan) (h : isBlank c = true) (rest : List Char) :
    Alone s c rest :=
  alone_of_ne s (ne_of_blank h).1 rest

theorem step_code_of_blank {c : Char} (h : isBlank c = true) : step code c = code := by
  simp [step, (ne_of_blank h).2.1]

/-- Blanks lead into code only from code itself, or from the line comment that they close. -/
theorem run_blanks {s : Scan} {blanks : List Char} (hb : ∀ b ∈ blanks, isBlank b = true)
    (hs : ∀ m, s = quoted m → isQuote m = true) (h : run s blanks = code) :
    s = code ∨ s = lineComment := by
  induction blanks generalizing s with
  | nil => exact Or.inl (by simpa using h)
  | cons b rest ih =>
      have hblank : isBlank b = true := hb b (by simp)
      rw [run_alone (alone_of_blank s hblank rest)] at h
      have hrest : ∀ c ∈ rest, isBlank c = true := fun c hc => hb c (by simp [hc])
      cases s with
      | code => exact Or.inl rfl
      | lineComment => exact Or.inr rfl
      | blockComment =>
          rcases ih hrest (by simp [step]) h with hc | hc
          · simp [step] at hc
          · simp [step] at hc
      | quoted m =>
          have hm : isQuote m = true := hs m rfl
          have hbm : b ≠ m := by
            intro heq
            have hquote := (ne_of_blank hblank).2.1
            rw [heq, hm] at hquote
            exact Bool.noConfusion hquote
          have hstep : step (quoted m) b = quoted m := by simp [step, hbm]
          rw [hstep] at h
          rcases ih hrest hs h with hc | hc
          · exact Scan.noConfusion hc
          · exact Scan.noConfusion hc

/-! ### The lead of a piece -/

/-- The reader is not inside a quotation. -/
def Unquoted (s : Scan) : Prop := ∀ m, s ≠ quoted m

theorem unquoted_code : Unquoted code := fun _ => Scan.noConfusion

theorem unquoted_of_pair {s s' : Scan} {c d : Char} (h : pair? s c d = some s') :
    Unquoted s' := by
  obtain ⟨-, -, -, rfl⟩ | ⟨-, -, -, rfl⟩ | ⟨-, -, -, rfl⟩ := pair?_cases h
  all_goals exact fun _ => Scan.noConfusion

@[simp] theorem dropLeadFrom_nil (s : Scan) : dropLeadFrom s [] = [] := by
  cases s <;> rfl

theorem dropLeadFrom_pair {s s' : Scan} {c d : Char} (h : pair? s c d = some s')
    (rest : List Char) : dropLeadFrom s (c :: d :: rest) = dropLeadFrom s' rest := by
  obtain ⟨rfl, rfl, rfl, rfl⟩ | ⟨rfl, rfl, rfl, rfl⟩ | ⟨rfl, rfl, rfl, rfl⟩ := pair?_cases h
  all_goals rfl

/-- In code the lead goes on with a blank and ends at any other character. -/
theorem dropLeadFrom_code {c : Char} {rest : List Char} (h : Alone code c rest) :
    dropLeadFrom code (c :: rest)
      = if isBlank c then dropLeadFrom code rest else c :: rest := by
  rw [dropLeadFrom.eq_def]
  split <;> simp_all [Alone, pair?]

/-- A line comment goes on up to the end of the line. -/
theorem dropLeadFrom_lineComment (c : Char) (rest : List Char) :
    dropLeadFrom lineComment (c :: rest) = dropLeadFrom (step lineComment c) rest := by
  rw [dropLeadFrom.eq_def]
  split <;> simp_all [step]

/-- A block comment goes on with every character that does not close it. -/
theorem dropLeadFrom_blockComment {c : Char} {rest : List Char}
    (h : Alone blockComment c rest) :
    dropLeadFrom blockComment (c :: rest) = dropLeadFrom blockComment rest := by
  rw [dropLeadFrom.eq_def]
  split <;> simp_all [Alone, pair?]

/-- A character read alone either ends the lead, or belongs to it. -/
theorem dropLeadFrom_alone {s : Scan} {c : Char} {rest : List Char} (hs : Unquoted s)
    (h : Alone s c rest) :
    (s = code ∧ isBlank c = false ∧ dropLeadFrom s (c :: rest) = c :: rest)
      ∨ (dropLeadFrom s (c :: rest) = dropLeadFrom (s.step c) rest ∧ Unquoted (s.step c)) := by
  cases s with
  | code =>
      rw [dropLeadFrom_code h]
      by_cases hb : isBlank c = true
      · rw [step_code_of_blank hb, if_pos hb]
        exact Or.inr ⟨rfl, unquoted_code⟩
      · exact Or.inl ⟨rfl, by simpa using hb, if_neg hb⟩
  | quoted m => exact absurd rfl (hs m)
  | lineComment =>
      refine Or.inr ⟨dropLeadFrom_lineComment c rest, ?_⟩
      intro m
      simp only [step]
      split <;> simp
  | blockComment =>
      exact Or.inr ⟨dropLeadFrom_blockComment h, fun m => by simp [step]⟩

theorem dropLeadFrom_isSuffix {s : Scan} (hs : Unquoted s) (text : List Char) :
    dropLeadFrom s text <:+ text := by
  induction s, text using tokensInduction with
  | nil s => simp
  | pair s s' c d rest hp ih =>
      rw [dropLeadFrom_pair hp]
      exact (ih (unquoted_of_pair hp)).trans ⟨[c, d], rfl⟩
  | alone s c rest ha ih =>
      rcases dropLeadFrom_alone hs ha with ⟨-, -, heq⟩ | ⟨heq, hs'⟩
      · exact ⟨[], heq⟩
      · rw [heq]
        exact (ih hs').trans ⟨[c], rfl⟩

/--
**The lead does not matter for what follows it.**  Unless the whole text is a lead,
the reader is in code where the lead ends; what is left leads where the text leads
and has no cut that the text does not have.
-/
theorem lead_dropped {s : Scan} (hs : Unquoted s) {text : List Char}
    (hne : dropLeadFrom s text ≠ []) :
    run code (dropLeadFrom s text) = run s text
      ∧ (Whole s text → Whole code (dropLeadFrom s text)) := by
  induction s, text using tokensInduction with
  | nil s => simp at hne
  | pair s s' c d rest hp ih =>
      rw [dropLeadFrom_pair hp] at hne ⊢
      rw [run_pair hp, whole_pair hp]
      exact ih (unquoted_of_pair hp) hne
  | alone s c rest ha ih =>
      rcases dropLeadFrom_alone hs ha with ⟨rfl, -, heq⟩ | ⟨heq, hs'⟩
      · rw [heq]
        exact ⟨rfl, id⟩
      · rw [heq] at hne ⊢
        rw [run_alone ha, whole_alone ha]
        obtain ⟨hrun, hwhole⟩ := ih hs' hne
        exact ⟨hrun, fun h => hwhole h.2⟩

/-! ### Texts without a lead -/

/-- The text begins with neither a blank nor a comment. -/
def Leadless (text : List Char) : Prop := dropLeadFrom code text = text

theorem leadless_cons {c : Char} {rest : List Char} :
    Leadless (c :: rest) ↔ isBlank c = false ∧ Alone code c rest := by
  constructor
  · intro h
    -- A pair or a blank in front would make the result shorter than the text.
    have hlong : ∀ s, Unquoted s → ∀ tail : List Char, tail.length < (c :: rest).length →
        dropLeadFrom s tail ≠ c :: rest := by
      intro s hs tail hlen heq
      have hle := (dropLeadFrom_isSuffix hs tail).length_le
      rw [heq] at hle
      omega
    have ha : Alone code c rest := by
      cases rest with
      | nil => exact alone_nil code c
      | cons d rest =>
          refine alone_cons.mpr ?_
          cases hp : pair? code c d with
          | none => rfl
          | some s' =>
              unfold Leadless at h
              rw [dropLeadFrom_pair hp] at h
              refine absurd h (hlong s' (unquoted_of_pair hp) rest ?_)
              simp only [List.length_cons]
              omega
    refine ⟨?_, ha⟩
    rcases dropLeadFrom_alone unquoted_code ha with ⟨-, hb, -⟩ | ⟨heq, hs'⟩
    · exact hb
    · exact absurd (heq.symm.trans h) (hlong _ hs' rest (by simp))
  · rintro ⟨hb, ha⟩
    unfold Leadless
    rw [dropLeadFrom_code ha, if_neg (by simp [hb])]

theorem leadless_dropLeadFrom {s : Scan} (hs : Unquoted s) (text : List Char) :
    Leadless (dropLeadFrom s text) := by
  induction s, text using tokensInduction with
  | nil s => simp [Leadless]
  | pair s s' c d rest hp ih =>
      rw [dropLeadFrom_pair hp]
      exact ih (unquoted_of_pair hp)
  | alone s c rest ha ih =>
      rcases dropLeadFrom_alone hs ha with ⟨rfl, hb, heq⟩ | ⟨heq, hs'⟩
      · rw [heq]
        exact leadless_cons.mpr ⟨hb, ha⟩
      · rw [heq]
        exact ih hs'

theorem leadless_of_append {a b : List Char} (h : Leadless (a ++ b)) : Leadless a := by
  cases a with
  | nil => simp [Leadless]
  | cons c a =>
      obtain ⟨hb, ha⟩ := leadless_cons.mp h
      exact leadless_cons.mpr ⟨hb, alone_of_append ha⟩

theorem leadless_append {a b : List Char} (hne : a ≠ []) (ha : Leadless a) (hb : Fresh b) :
    Leadless (a ++ b) := by
  cases a with
  | nil => exact absurd rfl hne
  | cons c a =>
      obtain ⟨hblank, halone⟩ := leadless_cons.mp ha
      exact leadless_cons.mpr ⟨hblank, alone_append halone hb⟩

/-! ### Statements -/

theorem statement_isInfix (piece : List Char) : statement piece <:+: piece := by
  obtain ⟨blanks, -, heq⟩ := dropEndBlanks_append_blanks (dropLeadFrom code piece)
  have hfront : statement piece <+: dropLeadFrom code piece := ⟨blanks, heq.symm⟩
  exact hfront.isInfix.trans (dropLeadFrom_isSuffix unquoted_code piece).isInfix

/-- A blank in front changes nothing. -/
theorem statement_cons_of_blank {c : Char} (h : isBlank c = true) (rest : List Char) :
    statement (c :: rest) = statement rest := by
  unfold statement
  rw [dropLeadFrom_code (alone_of_blank code h rest), if_pos h]

/-- What is left of a piece that is not all blanks and comments. -/
structure Bare (text : List Char) : Prop where
  nonempty : text ≠ []
  whole : Whole code text
  leadless : Leadless text
  trimmed : dropEndBlanks text = text

theorem statement_of_leadless {text : List Char} (h : Leadless text) :
    statement text = dropEndBlanks text := by
  unfold statement
  rw [h]

theorem bare_statement {piece : List Char} (hwhole : Whole code piece)
    (hne : statement piece ≠ []) : Bare (statement piece) := by
  have hlead : dropLeadFrom code piece ≠ [] := by
    intro h
    exact hne (by rw [statement, h, dropEndBlanks_nil])
  obtain ⟨blanks, -, heq⟩ := dropEndBlanks_append_blanks (dropLeadFrom code piece)
  refine ⟨hne, ?_, ?_, dropEndBlanks_idem _⟩
  · have := (lead_dropped unquoted_code hlead).2 hwhole
    rw [heq] at this
    exact whole_of_append this
  · have := leadless_dropLeadFrom unquoted_code piece
    rw [heq] at this
    exact leadless_of_append this

/-- Where a statement ends whose piece leads back into code. -/
theorem run_statement {piece : List Char} (hrun : run code piece = code)
    (hne : statement piece ≠ []) :
    run code (statement piece) = code ∨ run code (statement piece) = lineComment := by
  have hlead : dropLeadFrom code piece ≠ [] := by
    intro h
    exact hne (by rw [statement, h, dropEndBlanks_nil])
  obtain ⟨blanks, hblanks, heq⟩ := dropEndBlanks_append_blanks (dropLeadFrom code piece)
  have hfresh : Fresh blanks := by
    intro d hd
    exact (ne_of_blank (hblanks d (List.mem_of_mem_head? hd))).1
  have hcode : run (run code (statement piece)) blanks = code := by
    rw [← run_append _ _ hfresh, statement, ← heq, (lead_dropped unquoted_code hlead).1, hrun]
  refine run_blanks hblanks (fun m hm => ?_) hcode
  exact (isQuote_of_run_eq_quoted hm).resolve_left Scan.noConfusion

theorem mem_statements_iff {text s : List Char} :
    s ∈ statements text ↔ ∃ p ∈ split text, statement p = s ∧ s ≠ [] := by
  unfold statements
  rw [List.mem_filter, List.mem_map]
  constructor
  · rintro ⟨⟨p, hp, rfl⟩, hne⟩
    exact ⟨p, hp, rfl, by simpa using hne⟩
  · rintro ⟨p, hp, rfl, hne⟩
    exact ⟨⟨p, hp, rfl⟩, by simpa using hne⟩

/-- The only statement of a text without a cut. -/
theorem statements_of_uncut {text : List Char} (h : split text = [text])
    (hne : statement text ≠ []) : statements text = [statement text] := by
  unfold statements
  rw [h, List.map_singleton, List.filter_singleton, List.isEmpty_eq_false_iff.mpr hne]
  rfl

theorem bare_of_mem_statements {text s : List Char} (h : s ∈ statements text) : Bare s := by
  obtain ⟨p, hp, rfl, hne⟩ := mem_statements_iff.mp h
  exact bare_statement (whole_of_mem_split hp) hne

theorem infix_of_mem_statements {text s : List Char} (h : s ∈ statements text) : s <:+: text := by
  obtain ⟨p, hp, rfl, -⟩ := mem_statements_iff.mp h
  exact (statement_isInfix p).trans (infix_of_mem_split hp)

/-- Where a statement of a text ends that is not the last one. -/
theorem run_of_mem_dropLast_statements {text s : List Char} (h : s ∈ (statements text).dropLast) :
    run code s = code ∨ run code s = lineComment := by
  have hsub : List.Sublist (statements text).dropLast ((split text).map statement).dropLast := by
    have := (List.filter_sublist (p := fun s => !s.isEmpty)
      (l := (split text).map statement)).reverse.tail
    rw [List.tail_reverse, List.tail_reverse, List.reverse_sublist] at this
    exact this
  have hmem := hsub.subset h
  rw [← List.map_dropLast, List.mem_map] at hmem
  obtain ⟨p, hp, rfl⟩ := hmem
  exact run_statement (run_of_mem_dropLast_split hp)
    (bare_of_mem_statements (List.dropLast_subset _ h)).nonempty

end Stencil.Fragment.Scan
