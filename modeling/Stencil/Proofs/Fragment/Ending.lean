/-
What a text has begun where it ends.

The last piece of a text is the one that what follows goes on with.  `begun` is its
statement as far as it goes: if it is empty, the text ends between statements or in a
comment in front of one, and if it is not, whatever follows and is no cut prolongs
that statement.  Blanks at either end of a text begin nothing and end nothing.
-/
import Stencil.Proofs.Fragment.Statement

namespace Stencil.Fragment.Scan

open Text

/-! ### Leads that go on -/

/-- A text that is all lead leaves the lead to what follows. -/
theorem dropLeadFrom_append_of_nil {s : Scan} (hs : Unquoted s) {a b : List Char}
    (h : dropLeadFrom s a = []) (hb : Fresh b) :
    Unquoted (run s a) ∧ dropLeadFrom s (a ++ b) = dropLeadFrom (run s a) b := by
  induction s, a using tokensInduction with
  | nil s =>
      rw [run_nil]
      exact ⟨hs, rfl⟩
  | pair s s' c d rest hp ih =>
      rw [dropLeadFrom_pair hp] at h
      rw [List.cons_append, List.cons_append, dropLeadFrom_pair hp, run_pair hp]
      exact ih (unquoted_of_pair hp) h
  | alone s c rest ha ih =>
      rw [run_alone ha]
      rcases dropLeadFrom_alone hs ha with ⟨-, -, heq⟩ | ⟨heq, hs'⟩
      · rw [heq] at h
        cases h
      · rw [heq] at h
        obtain ⟨hunquoted, hrest⟩ := ih hs' h
        refine ⟨hunquoted, ?_⟩
        rcases dropLeadFrom_alone hs (alone_append ha hb) with ⟨rfl, hc, -⟩ | ⟨heq', -⟩
        · -- The character would have ended the lead of the text as well.
          rw [dropLeadFrom_code ha, if_neg (by simp [hc])] at heq
          rw [← heq] at h
          cases h
        · exact heq'.trans hrest

/-- A text that is not all lead keeps what it has begun. -/
theorem dropLeadFrom_append_of_ne_nil {s : Scan} (hs : Unquoted s) {a b : List Char}
    (h : dropLeadFrom s a ≠ []) (hb : Fresh b) :
    dropLeadFrom s (a ++ b) = dropLeadFrom s a ++ b := by
  induction s, a using tokensInduction with
  | nil s => exact absurd (dropLeadFrom_nil s) h
  | pair s s' c d rest hp ih =>
      rw [dropLeadFrom_pair hp] at h
      rw [List.cons_append, List.cons_append, dropLeadFrom_pair hp, dropLeadFrom_pair hp]
      exact ih (unquoted_of_pair hp) h
  | alone s c rest ha ih =>
      have ha' := alone_append ha hb
      rcases dropLeadFrom_alone hs ha with ⟨rfl, hc, heq⟩ | ⟨heq, hs'⟩
      · rw [heq, List.cons_append, dropLeadFrom_code ha', if_neg (by simp [hc])]
      · rw [heq] at h ⊢
        rcases dropLeadFrom_alone hs ha' with ⟨rfl, hc, -⟩ | ⟨heq', -⟩
        · rw [dropLeadFrom_code ha, if_neg (by simp [hc])] at heq
          rw [← heq, List.cons_append, dropLeadFrom_code ha', if_neg (by simp [hc])]
        · rw [List.cons_append, heq']
          exact ih hs' h

/-! ### Blanks around a text -/

theorem fresh_blanks {blanks : List Char} (hb : ∀ b ∈ blanks, isBlank b = true) : Fresh blanks :=
  fun d hd => (ne_of_blank (hb d (List.mem_of_mem_head? hd))).1

theorem dropEndBlanks_append_of_blanks {text blanks : List Char}
    (hb : ∀ b ∈ blanks, isBlank b = true) :
    dropEndBlanks (text ++ blanks) = dropEndBlanks text := by
  unfold dropEndBlanks
  rw [List.reverse_append, List.dropWhile_append_of_pos fun b h => hb b (List.mem_reverse.mp h)]

/-- Blanks hold no cut. -/
theorem whole_blanks (s : Scan) {blanks : List Char} (hb : ∀ b ∈ blanks, isBlank b = true) :
    Whole s blanks := by
  induction blanks generalizing s with
  | nil => exact whole_nil s
  | cons b rest ih =>
      have hblank := hb b List.mem_cons_self
      refine (whole_alone (alone_of_blank s hblank rest)).mpr ⟨?_, ?_⟩
      · rintro ⟨-, rfl⟩
        exact (ne_of_blank hblank).2.2 rfl
      · exact ih _ fun c hc => hb c (List.mem_cons_of_mem _ hc)

theorem dropLeadFrom_blanks {s : Scan} (hs : Unquoted s) {blanks : List Char}
    (hb : ∀ b ∈ blanks, isBlank b = true) : dropLeadFrom s blanks = [] := by
  induction blanks generalizing s with
  | nil => exact dropLeadFrom_nil s
  | cons b rest ih =>
      have hblank := hb b List.mem_cons_self
      rcases dropLeadFrom_alone hs (alone_of_blank s hblank rest) with ⟨-, hc, -⟩ | ⟨heq, hs'⟩
      · rw [hblank] at hc
        cases hc
      · rw [heq]
        exact ih hs' fun c hc => hb c (List.mem_cons_of_mem _ hc)

/-- Blanks behind a piece are not part of its statement. -/
theorem statement_append_blanks (piece : List Char) {blanks : List Char}
    (hb : ∀ b ∈ blanks, isBlank b = true) : statement (piece ++ blanks) = statement piece := by
  unfold statement
  by_cases h : dropLeadFrom code piece = []
  · obtain ⟨hunquoted, heq⟩ := dropLeadFrom_append_of_nil unquoted_code h (fresh_blanks hb)
    rw [heq, dropLeadFrom_blanks hunquoted hb, h]
  · rw [dropLeadFrom_append_of_ne_nil unquoted_code h (fresh_blanks hb),
      dropEndBlanks_append_of_blanks hb]

/-! ### The statements of a text, the empty ones kept -/

/-- The pieces of a text, each stripped. -/
def stripped (text : List Char) : List (List Char) := (split text).map statement

theorem statements_eq (text : List Char) :
    statements text = (stripped text).filter fun s => !s.isEmpty := rfl

/-- The statement that is being read where the text ends, as far as it goes. -/
def begun (text : List Char) : List Char := statement ((split text).getLastD [])

theorem stripped_eq (text : List Char) :
    stripped text = (split text).dropLast.map statement ++ [begun text] := by
  have hne : split text ≠ [] := splitFrom_ne_nil code text
  unfold stripped begun
  conv_lhs => rw [← List.dropLast_append_getLast hne]
  rw [List.map_append, List.getLastD_eq_getLast?, List.getLast?_eq_some_getLast hne]
  rfl

theorem begun_eq_getLastD (text : List Char) : begun text = (stripped text).getLastD [] := by
  rw [stripped_eq, List.getLastD_concat]

theorem stripped_ne_nil (text : List Char) : stripped text ≠ [] := by
  simp [stripped_eq]

theorem stripped_append_blanks (text : List Char) {blanks : List Char}
    (hb : ∀ b ∈ blanks, isBlank b = true) : stripped (text ++ blanks) = stripped text := by
  have hsplit : split (text ++ blanks)
      = (split text).dropLast ++ [(split text).getLastD [] ++ blanks] := by
    unfold split
    rw [splitFrom_append_fresh code text (fresh_blanks hb), whole_blanks _ hb]
    rfl
  rw [stripped_eq text, stripped, hsplit, List.map_append, List.map_singleton,
    statement_append_blanks _ hb]
  rfl

theorem stripped_cons_of_blank {c : Char} (h : isBlank c = true) (text : List Char) :
    stripped (c :: text) = stripped text := by
  have hsemi : ¬ (code = code ∧ c = ';') := fun hcut => (ne_of_blank h).2.2 hcut.2
  unfold stripped split
  rw [splitFrom_alone (alone_of_blank code h text) hsemi, splitFrom_eq_modifyHead,
    step_code_of_blank h]
  cases splitFrom code [] text with
  | nil => rfl
  | cons p l => simp [statement_cons_of_blank h]

theorem stripped_dropBlanks (text : List Char) : stripped (dropBlanks text) = stripped text :=
  apply_dropBlanks (fun _ rest hb => stripped_cons_of_blank hb rest) text

/-- **Trimming a text does not change its statements.** -/
theorem statements_trimmed (text : List Char) : statements (trimmed text) = statements text := by
  obtain ⟨blanks, hb, heq⟩ := dropEndBlanks_append_blanks (dropBlanks text)
  have hend : stripped (trimmed text) = stripped (dropBlanks text) := by
    conv_rhs => rw [heq, stripped_append_blanks _ hb]
    rfl
  rw [statements_eq, statements_eq, hend, stripped_dropBlanks]

/-! ### The state at the end of a text -/

/-- The last piece of a text leads where the text leads. -/
theorem run_getLastD_split (text : List Char) :
    run code ((split text).getLastD []) = run code text := by
  suffices h : ∀ s text, run (if (splitFrom s [] text).length = 1 then s else code)
      ((splitFrom s [] text).getLastD []) = run s text by
    simpa [split] using h code text
  intro s text
  -- A token in front of the first piece matters only if there is no other piece.
  have hfront : ∀ {s s' : Scan} {front : List Char} {l : List (List Char)}, l ≠ [] →
      (∀ p, l = [p] → run s (front ++ p) = run s' p) →
      run (if (l.modifyHead (front ++ ·)).length = 1 then s else code)
          ((l.modifyHead (front ++ ·)).getLastD [])
        = run (if l.length = 1 then s' else code) (l.getLastD []) := by
    intro s s' front l hl h
    rcases l with _ | ⟨p, _ | ⟨q, l⟩⟩
    · exact absurd rfl hl
    · exact h p rfl
    · simp
  induction s, text using tokensInduction with
  | nil s => simp
  | pair s s' c d rest hp ih =>
      rw [splitFrom_pair hp, splitFrom_eq_modifyHead, run_pair hp, ← ih]
      exact hfront (splitFrom_ne_nil _ _) fun p _ => run_pair hp p
  | alone s c rest ha ih =>
      rw [run_alone ha, ← ih]
      by_cases hcut : s = code ∧ c = ';'
      · obtain ⟨rfl, rfl⟩ := hcut
        have hstep : step code ';' = code := by decide
        rw [splitFrom_cut, hstep]
        cases hsplit : splitFrom code [] rest with
        | nil => exact absurd hsplit (splitFrom_ne_nil _ _)
        | cons p l => simp
      · rw [splitFrom_alone ha hcut, splitFrom_eq_modifyHead]
        refine hfront (splitFrom_ne_nil _ _) fun p hp => run_alone ?_
        obtain ⟨t, ht⟩ := head_splitFrom_isPrefix (s.step c) rest p (by simp [hp])
        exact alone_of_append (ht ▸ ha)

end Stencil.Fragment.Scan
