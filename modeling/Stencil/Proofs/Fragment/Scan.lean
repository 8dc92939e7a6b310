/-
The reader of SQL text, token by token.

The reader takes one character at a time, or two where they open or close a
comment together.  `pair?` says which two, and `tokensInduction` is the induction
that follows: every function over a text and a state goes one token on, so a
statement about it has a case for the end, one for a pair and one for a character
alone.

What is shown of the cuts is what joining and splitting again needs.  A text is
`Whole` if no semicolon in it is a cut; a whole text in front of another only
prolongs the first piece of what comes after it (`split_append`), and the pieces
that a split yields are whole, each but the last one leading back into code
(`pieces_of_splitFrom`).
-/
import Mathlib.Data.List.Basic
import Stencil.Fragment.Scan

namespace Stencil.Fragment.Scan

/-! ### Tokens -/

/-- The state behind two characters that are read together. -/
def pair? : Scan → Char → Char → Option Scan
  | code, '-', '-' => some lineComment
  | code, '/', '*' => some blockComment
  | blockComment, '*', '/' => some code
  | _, _, _ => none

/-- The character is read alone in front of the text. -/
def Alone (s : Scan) (c : Char) (rest : List Char) : Prop :=
  ∀ d ∈ rest.head?, pair? s c d = none

/-- No character in front of the text forms a pair with its first one. -/
def Fresh (text : List Char) : Prop :=
  ∀ d ∈ text.head?, d ≠ '-' ∧ d ≠ '*' ∧ d ≠ '/'

theorem fresh_cons {c : Char} (h : c ≠ '-' ∧ c ≠ '*' ∧ c ≠ '/') (rest : List Char) :
    Fresh (c :: rest) := by
  intro d hd
  rw [List.head?_cons, Option.mem_some_iff] at hd
  rw [← hd]
  exact h

theorem pair?_cases {s s' : Scan} {c d : Char} (h : pair? s c d = some s') :
    (s = code ∧ c = '-' ∧ d = '-' ∧ s' = lineComment)
      ∨ (s = code ∧ c = '/' ∧ d = '*' ∧ s' = blockComment)
      ∨ (s = blockComment ∧ c = '*' ∧ d = '/' ∧ s' = code) := by
  unfold pair? at h
  split at h <;> simp_all

theorem pair?_eq_none {c d : Char} (s : Scan) (h : d ≠ '-' ∧ d ≠ '*' ∧ d ≠ '/') :
    pair? s c d = none := by
  cases hp : pair? s c d with
  | none => rfl
  | some s' =>
      obtain ⟨-, -, hd, -⟩ | ⟨-, -, hd, -⟩ | ⟨-, -, hd, -⟩ := pair?_cases hp
      · exact absurd hd h.1
      · exact absurd hd h.2.1
      · exact absurd hd h.2.2

@[simp] theorem alone_nil (s : Scan) (c : Char) : Alone s c [] := by
  intro d hd
  simp at hd

theorem alone_of_fresh (s : Scan) (c : Char) {rest : List Char} (h : Fresh rest) :
    Alone s c rest :=
  fun d hd => pair?_eq_none s (h d hd)

theorem alone_cons {s : Scan} {c d : Char} {rest : List Char} :
    Alone s c (d :: rest) ↔ pair? s c d = none := by
  simp [Alone]

/-- A character that no pair begins with is read alone. -/
theorem alone_of_ne {c : Char} (s : Scan) (h : c ≠ '-' ∧ c ≠ '*' ∧ c ≠ '/')
    (rest : List Char) : Alone s c rest := by
  intro d _
  cases hp : pair? s c d with
  | none => rfl
  | some s' =>
      obtain ⟨-, hc, -⟩ | ⟨-, hc, -⟩ | ⟨-, hc, -⟩ := pair?_cases hp
      · exact absurd hc h.1
      · exact absurd hc h.2.2
      · exact absurd hc h.2.1

/-- The text behind a text that is not empty does not matter for reading alone. -/
theorem alone_append {s : Scan} {c : Char} {a b : List Char} (h : Alone s c a) (hb : Fresh b) :
    Alone s c (a ++ b) := by
  cases a with
  | nil => exact alone_of_fresh s c hb
  | cons d a => exact alone_cons.mpr (alone_cons.mp h)

theorem alone_of_append {s : Scan} {c : Char} {a b : List Char} (h : Alone s c (a ++ b)) :
    Alone s c a := by
  cases a with
  | nil => exact alone_nil s c
  | cons d a => exact alone_cons.mpr (alone_cons.mp h)

/-- Induction along the tokens of a text. -/
@[elab_as_elim] theorem tokensInduction {motive : Scan → List Char → Prop}
    (nil : ∀ s, motive s [])
    (pair : ∀ s s' c d rest, pair? s c d = some s' → motive s' rest → motive s (c :: d :: rest))
    (alone : ∀ s c rest, Alone s c rest → motive (s.step c) rest → motive s (c :: rest))
    (s : Scan) (text : List Char) : motive s text := by
  -- The text behind a pair is two characters shorter, hence the induction on a bound.
  suffices h : ∀ n s text, List.length text ≤ n → motive s text from h _ s text (Nat.le_refl _)
  intro n
  induction n with
  | zero =>
      intro s text hlen
      rw [List.length_eq_zero_iff.mp (Nat.le_zero.mp hlen)]
      exact nil s
  | succ n ih =>
      intro s text hlen
      rcases text with _ | ⟨c, _ | ⟨d, rest⟩⟩
      · exact nil s
      · exact alone s c [] (alone_nil s c) (nil _)
      · simp only [List.length_cons] at hlen
        cases hp : pair? s c d with
        | some s' => exact pair s s' c d rest hp (ih s' rest (by omega))
        | none =>
            refine alone s c (d :: rest) (alone_cons.mpr hp) (ih _ _ ?_)
            simp only [List.length_cons]
            omega

/-! ### The state behind a text -/

-- The equations of one pattern each are slow to derive, so the cases of a definition on
-- two characters are split all at once.

@[simp] theorem run_nil (s : Scan) : run s [] = s := by
  cases s <;> rfl

theorem run_pair {s s' : Scan} {c d : Char} (h : pair? s c d = some s') (rest : List Char) :
    run s (c :: d :: rest) = run s' rest := by
  obtain ⟨rfl, rfl, rfl, rfl⟩ | ⟨rfl, rfl, rfl, rfl⟩ | ⟨rfl, rfl, rfl, rfl⟩ := pair?_cases h
  all_goals rfl

theorem run_alone {s : Scan} {c : Char} {rest : List Char} (h : Alone s c rest) :
    run s (c :: rest) = run (s.step c) rest := by
  rw [run.eq_def]
  split <;> simp_all [Alone, pair?]

/-- Reading on. -/
theorem run_append (s : Scan) (a : List Char) {b : List Char} (hb : Fresh b) :
    run s (a ++ b) = run (run s a) b := by
  induction s, a using tokensInduction with
  | nil s => simp
  | pair s s' c d rest hp ih =>
      rw [List.cons_append, List.cons_append, run_pair hp, run_pair hp]
      exact ih
  | alone s c rest ha ih =>
      rw [List.cons_append, run_alone (alone_append ha hb), run_alone ha]
      exact ih

/-- A quotation that a text leads into has been opened by a quote. -/
theorem isQuote_of_run_eq_quoted {s : Scan} {text : List Char} {mark : Char}
    (h : run s text = quoted mark) : s = quoted mark ∨ isQuote mark = true := by
  induction s, text using tokensInduction with
  | nil s => exact Or.inl (by simpa using h)
  | pair s s' c d rest hp ih =>
      rw [run_pair hp] at h
      obtain ⟨-, -, -, rfl⟩ | ⟨-, -, -, rfl⟩ | ⟨-, -, -, rfl⟩ := pair?_cases hp
      all_goals exact Or.inr (by simpa using ih h)
  | alone s c rest ha ih =>
      rw [run_alone ha] at h
      rcases ih h with hstep | hq
      · cases s with
        | code =>
            by_cases hc : isQuote c = true
            · simp only [step, if_pos hc, quoted.injEq] at hstep
              exact Or.inr (hstep ▸ hc)
            · simp [step, hc] at hstep
        | quoted m =>
            simp only [step] at hstep
            split at hstep
            · exact Scan.noConfusion hstep
            · exact Or.inl hstep
        | lineComment => simp only [step] at hstep; split at hstep <;> simp at hstep
        | blockComment => simp [step] at hstep
      · exact Or.inr hq

/-! ### Cuts -/

@[simp] theorem splitFrom_nil (s : Scan) (piece : List Char) :
    splitFrom s piece [] = [piece.reverse] := by
  cases s <;> rfl

/-- A semicolon in code is a cut. -/
theorem splitFrom_cut (piece rest : List Char) :
    splitFrom code piece (';' :: rest) = piece.reverse :: splitFrom code [] rest := rfl

theorem splitFrom_pair {s s' : Scan} {c d : Char} (h : pair? s c d = some s')
    (piece rest : List Char) :
    splitFrom s piece (c :: d :: rest) = splitFrom s' (d :: c :: piece) rest := by
  obtain ⟨rfl, rfl, rfl, rfl⟩ | ⟨rfl, rfl, rfl, rfl⟩ | ⟨rfl, rfl, rfl, rfl⟩ := pair?_cases h
  all_goals rfl

theorem splitFrom_alone {s : Scan} {c : Char} {rest : List Char} (h : Alone s c rest)
    (hcut : ¬ (s = code ∧ c = ';')) (piece : List Char) :
    splitFrom s piece (c :: rest) = splitFrom (s.step c) (c :: piece) rest := by
  rw [splitFrom.eq_def]
  split <;> simp_all [Alone, pair?]

/-- What has been read of the first piece only stands in front of it. -/
theorem splitFrom_eq_modifyHead (s : Scan) (piece text : List Char) :
    splitFrom s piece text = (splitFrom s [] text).modifyHead (piece.reverse ++ ·) := by
  induction s, text using tokensInduction generalizing piece with
  | nil s => simp
  | pair s s' c d rest hp ih =>
      rw [splitFrom_pair hp, splitFrom_pair hp, ih (d :: c :: piece), ih [d, c],
        List.modifyHead_modifyHead]
      congr 1
      funext x
      simp
  | alone s c rest ha ih =>
      by_cases hcut : s = code ∧ c = ';'
      · obtain ⟨rfl, rfl⟩ := hcut
        simp [splitFrom_cut]
      · rw [splitFrom_alone ha hcut, splitFrom_alone ha hcut, ih (c :: piece), ih [c],
          List.modifyHead_modifyHead]
        congr 1
        funext x
        simp

theorem splitFrom_ne_nil (s : Scan) (text : List Char) : splitFrom s [] text ≠ [] := by
  induction s, text using tokensInduction with
  | nil s => simp
  | pair s s' c d rest hp ih =>
      rw [splitFrom_pair hp, splitFrom_eq_modifyHead]
      simpa using ih
  | alone s c rest ha ih =>
      by_cases hcut : s = code ∧ c = ';'
      · obtain ⟨rfl, rfl⟩ := hcut
        rw [splitFrom_cut]
        exact List.cons_ne_nil _ _
      · rw [splitFrom_alone ha hcut, splitFrom_eq_modifyHead]
        simpa using ih

/-- **What is read behind a text.**  The last piece of the text goes on with the first piece of what
follows, which is read from the state that the text leads into. -/
theorem splitFrom_append_fresh (s : Scan) (a : List Char) {b : List Char} (hb : Fresh b) :
    splitFrom s [] (a ++ b) = (splitFrom s [] a).dropLast
      ++ (splitFrom (run s a) [] b).modifyHead ((splitFrom s [] a).getLastD [] ++ ·) := by
  have hfront : ∀ (front : List Char) (l l' : List (List Char)), l ≠ [] →
      (l.dropLast ++ l'.modifyHead (l.getLastD [] ++ ·)).modifyHead (front ++ ·)
        = (l.modifyHead (front ++ ·)).dropLast
          ++ l'.modifyHead ((l.modifyHead (front ++ ·)).getLastD [] ++ ·) := by
    intro front l l' hl
    rcases l with _ | ⟨p, _ | ⟨q, l⟩⟩
    · exact absurd rfl hl
    · simp [List.modifyHead_modifyHead, Function.comp_def, List.append_assoc]
    · simp
  induction s, a using tokensInduction with
  | nil s =>
      rw [run_nil, splitFrom_nil]
      exact (congrFun List.modifyHead_id _).symm
  | pair s s' c d rest hp ih =>
      rw [List.cons_append, List.cons_append, splitFrom_pair hp, splitFrom_pair hp,
        splitFrom_eq_modifyHead s' [d, c], splitFrom_eq_modifyHead s' [d, c] rest, ih, run_pair hp]
      exact hfront _ _ _ (splitFrom_ne_nil _ _)
  | alone s c rest ha ih =>
      rw [run_alone ha]
      by_cases hcut : s = code ∧ c = ';'
      · obtain ⟨rfl, rfl⟩ := hcut
        have hstep : step code ';' = code := by decide
        rw [hstep] at ih
        rw [List.cons_append, splitFrom_cut, splitFrom_cut, ih, hstep,
          List.dropLast_cons_of_ne_nil (splitFrom_ne_nil _ _)]
        cases hsplit : splitFrom code [] rest with
        | nil => exact absurd hsplit (splitFrom_ne_nil _ _)
        | cons p l => rfl
      · rw [List.cons_append, splitFrom_alone (alone_append ha hb) hcut, splitFrom_alone ha hcut,
          splitFrom_eq_modifyHead _ [c], splitFrom_eq_modifyHead _ [c] rest, ih]
        exact hfront _ _ _ (splitFrom_ne_nil _ _)

/-- The first piece is read off the front of the text. -/
theorem head_splitFrom_isPrefix (s : Scan) (text : List Char) :
    ∀ p ∈ (splitFrom s [] text).head?, p <+: text := by
  induction s, text using tokensInduction with
  | nil s => simp
  | pair s s' c d rest hp ih =>
      intro p hmem
      rw [splitFrom_pair hp, splitFrom_eq_modifyHead, List.head?_modifyHead] at hmem
      obtain ⟨q, hq, rfl⟩ := Option.map_eq_some_iff.mp hmem
      exact List.cons_prefix_cons.mpr ⟨rfl, List.cons_prefix_cons.mpr ⟨rfl, ih q hq⟩⟩
  | alone s c rest ha ih =>
      intro p hmem
      by_cases hcut : s = code ∧ c = ';'
      · obtain ⟨rfl, rfl⟩ := hcut
        rw [splitFrom_cut, List.head?_cons, Option.mem_some_iff] at hmem
        rw [← hmem]
        exact List.nil_prefix
      · rw [splitFrom_alone ha hcut, splitFrom_eq_modifyHead, List.head?_modifyHead] at hmem
        obtain ⟨q, hq, rfl⟩ := Option.map_eq_some_iff.mp hmem
        exact List.cons_prefix_cons.mpr ⟨rfl, ih q hq⟩

/-- The pieces, with the semicolons between them, are the text. -/
theorem intercalate_splitFrom (s : Scan) (text : List Char) :
    List.intercalate [';'] (splitFrom s [] text) = text := by
  have hfront : ∀ (front : List Char) (l : List (List Char)), l ≠ [] →
      List.intercalate [';'] (l.modifyHead (front ++ ·)) = front ++ List.intercalate [';'] l := by
    intro front l hl
    rcases l with _ | ⟨p, _ | ⟨q, l⟩⟩
    · exact absurd rfl hl
    · simp
    · simp [List.intercalate_cons_cons]
  induction s, text using tokensInduction with
  | nil s => simp
  | pair s s' c d rest hp ih =>
      rw [splitFrom_pair hp, splitFrom_eq_modifyHead, hfront _ _ (splitFrom_ne_nil _ _), ih]
      rfl
  | alone s c rest ha ih =>
      by_cases hcut : s = code ∧ c = ';'
      · obtain ⟨rfl, rfl⟩ := hcut
        rw [splitFrom_cut, List.intercalate_cons_of_ne_nil (splitFrom_ne_nil _ _)]
        exact congrArg (';' :: ·) ih
      · rw [splitFrom_alone ha hcut, splitFrom_eq_modifyHead,
          hfront _ _ (splitFrom_ne_nil _ _), ih]
        rfl

/-- A piece is a stretch of the text. -/
theorem infix_of_mem_split {text p : List Char} (h : p ∈ split text) : p <:+: text := by
  have hsub : ∀ l : List (List Char), p ∈ l → p <:+: List.intercalate [';'] l := by
    intro l
    induction l with
    | nil => simp
    | cons q l ih =>
        intro hp
        cases l with
        | nil => simp_all
        | cons u l =>
            rw [List.intercalate_cons_cons]
            rcases List.mem_cons.mp hp with rfl | hp
            · exact ⟨[], [';'] ++ List.intercalate [';'] (u :: l), by simp⟩
            · obtain ⟨a, b, hab⟩ := ih hp
              exact ⟨q ++ [';'] ++ a, b, by simp [← hab]⟩
  rw [← intercalate_splitFrom code text]
  exact hsub _ h

/-! ### Texts without a cut -/

/-- No semicolon in the text is a cut if it is read from the state. -/
def Whole (s : Scan) (text : List Char) : Prop := splitFrom s [] text = [text]

theorem modifyHead_append_eq_singleton (front : List Char) {text : List Char}
    {l : List (List Char)} :
    l.modifyHead (front ++ ·) = [front ++ text] ↔ l = [text] := by
  cases l with
  | nil => simp
  | cons p ps => simp

@[simp] theorem whole_nil (s : Scan) : Whole s [] := by
  simp [Whole]

theorem whole_pair {s s' : Scan} {c d : Char} (h : pair? s c d = some s') {rest : List Char} :
    Whole s (c :: d :: rest) ↔ Whole s' rest := by
  unfold Whole
  rw [splitFrom_pair h, splitFrom_eq_modifyHead]
  exact modifyHead_append_eq_singleton [c, d]

theorem whole_alone {s : Scan} {c : Char} {rest : List Char} (h : Alone s c rest) :
    Whole s (c :: rest) ↔ ¬ (s = code ∧ c = ';') ∧ Whole (s.step c) rest := by
  by_cases hcut : s = code ∧ c = ';'
  · obtain ⟨rfl, rfl⟩ := hcut
    simp [Whole, splitFrom_cut]
  · unfold Whole
    rw [splitFrom_alone h hcut, splitFrom_eq_modifyHead]
    simp only [hcut, not_false_eq_true, true_and]
    exact modifyHead_append_eq_singleton [c]

/-- A whole text only prolongs the first piece of what is read behind it. -/
theorem splitFrom_append {s : Scan} {a b : List Char} (ha : Whole s a) (hb : Fresh b) :
    splitFrom s [] (a ++ b) = (splitFrom (run s a) [] b).modifyHead (a ++ ·) := by
  rw [splitFrom_append_fresh s a hb, ha]
  rfl

/-- A text without a semicolon is whole, wherever it is read from. -/
theorem whole_of_notMem {text : List Char} (h : ';' ∉ text) (s : Scan) : Whole s text := by
  induction s, text using tokensInduction with
  | nil s => exact whole_nil s
  | pair s s' c d rest hp ih =>
      have hrest := List.not_mem_of_not_mem_cons (List.not_mem_of_not_mem_cons h)
      exact (whole_pair hp).mpr (ih hrest)
  | alone s c rest ha ih =>
      refine (whole_alone ha).mpr ⟨?_, ih (List.not_mem_of_not_mem_cons h)⟩
      rintro ⟨-, rfl⟩
      exact h List.mem_cons_self

theorem whole_append {s : Scan} {a b : List Char} (ha : Whole s a) (hfresh : Fresh b)
    (hb : Whole (run s a) b) : Whole s (a ++ b) := by
  unfold Whole at hb ⊢
  rw [splitFrom_append ha hfresh, hb]
  rfl

/-- The front of a whole text is whole. -/
theorem whole_of_append {s : Scan} {a b : List Char} (h : Whole s (a ++ b)) : Whole s a := by
  induction s, a using tokensInduction with
  | nil s => exact whole_nil s
  | pair s s' c d rest hp ih => exact (whole_pair hp).mpr (ih ((whole_pair hp).mp h))
  | alone s c rest ha ih =>
      cases rest with
      | nil =>
          -- The character may form a pair with what follows, but then it is no semicolon.
          refine (whole_alone ha).mpr ⟨?_, whole_nil _⟩
          rintro ⟨rfl, rfl⟩
          simp [Whole, splitFrom_cut] at h
      | cons d rest =>
          have ha' : Alone s c (d :: rest ++ b) := alone_cons.mpr (alone_cons.mp ha)
          obtain ⟨hcut, hwhole⟩ := (whole_alone ha').mp h
          exact (whole_alone ha).mpr ⟨hcut, ih hwhole⟩

/-! ### The pieces of a text -/

/-- Pieces as cuts leave them, the first one read from a state: none has a cut inside, and each
one before a cut leads back into code. -/
inductive Cuts : Scan → List (List Char) → Prop
  | last {s : Scan} {p : List Char} (hwhole : Whole s p) : Cuts s [p]
  | more {s : Scan} {p : List Char} {rest : List (List Char)} (hwhole : Whole s p)
      (hcode : run s p = code) (hrest : Cuts code rest) : Cuts s (p :: rest)

/-- Putting a token in front of the first piece. -/
theorem Cuts.modifyHead {s s' : Scan} {token : List Char} {l : List (List Char)}
    (h : Cuts s' l) (hwhole : ∀ p ∈ l.head?, Whole s' p → Whole s (token ++ p))
    (hrun : ∀ p ∈ l.head?, run s (token ++ p) = run s' p) :
    Cuts s (l.modifyHead (token ++ ·)) := by
  cases h with
  | last hp => exact .last (hwhole _ (by simp) hp)
  | more hp hcode hrest =>
      exact .more (hwhole _ (by simp) hp) ((hrun _ (by simp)).trans hcode) hrest

theorem cuts_splitFrom (s : Scan) (text : List Char) : Cuts s (splitFrom s [] text) := by
  induction s, text using tokensInduction with
  | nil s => exact .last (by simp)
  | pair s s' c d rest hp ih =>
      rw [splitFrom_pair hp, splitFrom_eq_modifyHead]
      exact ih.modifyHead (fun p _ => (whole_pair hp).mpr) (fun p _ => run_pair hp p)
  | alone s c rest ha ih =>
      by_cases hcut : s = code ∧ c = ';'
      · obtain ⟨rfl, rfl⟩ := hcut
        rw [splitFrom_cut]
        exact .more (whole_nil _) (run_nil _) ih
      · rw [splitFrom_alone ha hcut, splitFrom_eq_modifyHead]
        -- The first piece begins as the text does, so the character is alone before it too.
        have halone : ∀ p ∈ (splitFrom (s.step c) [] rest).head?, Alone s c p := by
          intro p hp
          obtain ⟨t, ht⟩ := head_splitFrom_isPrefix _ _ p hp
          exact alone_of_append (ht ▸ ha)
        exact ih.modifyHead (fun p hp hw => (whole_alone (halone p hp)).mpr ⟨hcut, hw⟩)
          (fun p hp => run_alone (halone p hp))

theorem Cuts.whole {l : List (List Char)} (h : Cuts code l) : ∀ p ∈ l, Whole code p := by
  generalize hs : code = s at h
  induction h with
  | last hwhole => simpa [hs] using hwhole
  | more hwhole hcode hrest ih =>
      subst hs
      intro p hp
      rcases List.mem_cons.mp hp with rfl | hp
      · exact hwhole
      · exact ih rfl p hp

theorem Cuts.code_of_mem_dropLast {l : List (List Char)} (h : Cuts code l) :
    ∀ p ∈ l.dropLast, run code p = code := by
  generalize hs : code = s at h
  induction h with
  | last hwhole => simp
  | @more s p rest hwhole hcode hrest ih =>
      subst hs
      intro q hq
      cases rest with
      | nil => simp at hq
      | cons r rest =>
          rw [List.dropLast_cons_cons] at hq
          rcases List.mem_cons.mp hq with rfl | hq
          · exact hcode
          · exact ih rfl q hq

/-- No piece of a text has a cut inside. -/
theorem whole_of_mem_split {text p : List Char} (h : p ∈ split text) : Whole code p :=
  (cuts_splitFrom code text).whole p h

/-- Every piece of a text but the last one leads back into code. -/
theorem run_of_mem_dropLast_split {text p : List Char} (h : p ∈ (split text).dropLast) :
    run code p = code :=
  (cuts_splitFrom code text).code_of_mem_dropLast p h

end Stencil.Fragment.Scan
