/-
Where a text is cut.

A semicolon is a cut if and only if the reader is in code in front of it, and whether
it is there can be said without the reader: every quotation and every comment that the
text in front of the semicolon opens is closed in it.  A quotation goes up to the next
mark like the one that opens it, a line comment up to the line feed, and a block comment
up to the first `*/` behind the two characters that open it.  A text of which this holds
is `Complete`.

The reader takes a stretch character by character, and `read_to_closer` says that this
comes to the same as looking for what closes it.
-/
import Stencil.Proofs.Fragment.Filler
import Stencil.Proofs.Fragment.Passage
import Stencil.Proofs.Fragment.Sequence
import Stencil.Proofs.Text.Search

namespace Stencil.Fragment.Scan

open Text

/-! ### The ends of stretches -/

/-- What leads the reader back into code. -/
def closer : Scan → List Char
  | code => []
  | quoted mark => [mark]
  | lineComment => ['\n']
  | blockComment => closing

/-- A function of a state and a text that goes on with each token as the reader does. -/
structure Follows {α : Type} (f : Scan → List Char → α) (s : Scan) : Prop where
  pair : ∀ {s' : Scan} {c d : Char}, pair? s c d = some s' →
    ∀ rest, f s (c :: d :: rest) = f s' rest
  alone : ∀ {c : Char} {rest : List Char}, Alone s c rest → f s (c :: rest) = f (s.step c) rest

theorem follows_run (s : Scan) : Follows run s := ⟨run_pair, run_alone⟩

/-- Looking for a single character. -/
theorem behind?_singleton_cons (mark c : Char) (rest : List Char) :
    behind? [mark] (c :: rest) = if mark == c then some rest else behind? [mark] rest := by
  by_cases h : (mark == c) = true
  · rw [if_pos h, behind?, after?, if_pos h]
    rfl
  · rw [if_neg h, behind?, after?, if_neg h]

/-- The two characters that close a block comment are found behind one that is read alone. -/
theorem behind?_closing_cons {c : Char} {rest : List Char} (h : Alone blockComment c rest) :
    behind? closing (c :: rest) = behind? closing rest := by
  cases hafter : after? closing (c :: rest) with
  | none => rw [behind?, hafter]
  | some other =>
      have hstart := (after?_eq_some_iff.mp hafter).symm
      exact absurd h (closing_prefix_iff.mp ⟨other, hstart⟩)

/-- **Reading up to the end of a stretch comes to the same as looking for what closes it.** -/
theorem read_to_closer {α : Type} {f : Scan → List Char → α} {s : Scan} (h : Follows f s)
    (hs : s ≠ code) (text : List Char) :
    f s text = (behind? s.closer text).elim (f s []) (f code) := by
  induction s, text using tokensInduction with
  | nil s => cases s <;> first | exact absurd rfl hs | rfl
  | pair s s' c d rest hp ih =>
      rw [h.pair hp]
      obtain ⟨rfl, -⟩ | ⟨rfl, -⟩ | ⟨rfl, rfl, rfl, rfl⟩ := pair?_cases hp
      · exact absurd rfl hs
      · exact absurd rfl hs
      · rfl
  | alone s c rest ha ih =>
      rw [h.alone ha]
      -- The character closes the stretch, or else the reader goes on in the same state.
      cases s with
      | code => exact absurd rfl hs
      | quoted mark =>
          rw [closer, behind?_singleton_cons]
          by_cases hc : c = mark
          · subst hc
            simp [step]
          · have hstep : step (quoted mark) c = quoted mark := by simp [step, hc]
            rw [hstep] at ih ⊢
            rw [ih h hs, if_neg (by simpa using Ne.symm hc), closer]
      | lineComment =>
          rw [closer, behind?_singleton_cons]
          by_cases hc : c = '\n'
          · subst hc
            rfl
          · have hstep : step lineComment c = lineComment := by simp [step, hc]
            rw [hstep] at ih ⊢
            rw [ih h hs, if_neg (by simpa using Ne.symm hc), closer]
      | blockComment =>
          rw [closer, behind?_closing_cons ha]
          exact ih h hs

/-- The reader is back in code behind what closes the stretch, or does not leave it. -/
theorem run_to_closer {s : Scan} (hs : s ≠ code) (text : List Char) :
    run s text = (behind? s.closer text).elim s (run code) := by
  rw [read_to_closer (follows_run s) hs, run_nil]

theorem behind?_mark_eq_some_iff {mark : Char} {text rest : List Char} :
    behind? [mark] text = some rest ↔ ∃ body, text = body ++ mark :: rest ∧ mark ∉ body := by
  have h : behind? ([] ++ [mark]) text = some rest ↔ _ :=
    behind?_concat_eq_some_iff List.not_mem_nil
  simpa [List.singleton_infix_iff] using h

theorem behind?_closing_eq_some_iff {text rest : List Char} :
    behind? closing text = some rest
      ↔ ∃ body, text = body ++ '*' :: '/' :: rest ∧ ¬ closing <:+: body := by
  have h : behind? (['*'] ++ ['/']) text = some rest ↔ _ :=
    behind?_concat_eq_some_iff (by decide)
  simpa [closing] using h

/-! ### Texts that close what they open -/

/-- The text begins with the two characters that open a comment. -/
def Opens (text : List Char) : Prop := ['-', '-'] <+: text ∨ ['/', '*'] <+: text

/-- Every quotation and every comment in the text is closed. -/
inductive Complete : List Char → Prop
  | nil : Complete []
  | char {c : Char} {rest : List Char} (hquote : isQuote c = false) (hopens : ¬ Opens (c :: rest))
      (hrest : Complete rest) : Complete (c :: rest)
  | quotation {mark : Char} {body rest : List Char} (hmark : isQuote mark = true)
      (hbody : mark ∉ body) (hrest : Complete rest) : Complete (mark :: (body ++ mark :: rest))
  | line {body rest : List Char} (hbody : '\n' ∉ body) (hrest : Complete rest) :
      Complete ('-' :: '-' :: (body ++ '\n' :: rest))
  | block {body rest : List Char} (hbody : ¬ closing <:+: body) (hrest : Complete rest) :
      Complete ('/' :: '*' :: (body ++ '*' :: '/' :: rest))

/-- In code a character is read alone if and only if no comment begins with it. -/
theorem alone_code_iff {c : Char} {rest : List Char} :
    Alone code c rest ↔ ¬ Opens (c :: rest) := by
  cases rest with
  | nil => simp [Opens]
  | cons d rest =>
      rw [alone_cons, Opens]
      simp only [List.cons_prefix_cons, List.nil_prefix, and_true]
      constructor
      · rintro hpair (⟨rfl, rfl⟩ | ⟨rfl, rfl⟩)
        · cases hpair
        · cases hpair
      · intro hnone
        cases hp : pair? code c d with
        | none => rfl
        | some s' =>
            obtain ⟨-, rfl, rfl, -⟩ | ⟨-, rfl, rfl, -⟩ | ⟨hs, -⟩ := pair?_cases hp
            · exact absurd (Or.inl ⟨rfl, rfl⟩) hnone
            · exact absurd (Or.inr ⟨rfl, rfl⟩) hnone
            · cases hs

/-- How a text may begin in code. -/
theorem begins_cases (text : List Char) :
    text = []
      ∨ (∃ c rest, text = c :: rest ∧ isQuote c = false ∧ ¬ Opens (c :: rest))
      ∨ (∃ mark rest, text = mark :: rest ∧ isQuote mark = true)
      ∨ (∃ rest, text = '-' :: '-' :: rest) ∨ ∃ rest, text = '/' :: '*' :: rest := by
  rcases text with _ | ⟨c, rest⟩
  · exact Or.inl rfl
  by_cases hopens : Opens (c :: rest)
  · rcases hopens with ⟨behind, htext⟩ | ⟨behind, htext⟩
    · exact Or.inr (Or.inr (Or.inr (Or.inl ⟨behind, htext.symm⟩)))
    · exact Or.inr (Or.inr (Or.inr (Or.inr ⟨behind, htext.symm⟩)))
  · by_cases hquote : isQuote c = true
    · exact Or.inr (Or.inr (Or.inl ⟨c, rest, rfl, hquote⟩))
    · exact Or.inr (Or.inl ⟨c, rest, rfl, by simpa using hquote, hopens⟩)

theorem run_char {c : Char} {rest : List Char} (hquote : isQuote c = false)
    (hopens : ¬ Opens (c :: rest)) : run code (c :: rest) = run code rest := by
  rw [run_alone (alone_code_iff.mpr hopens), step, hquote]
  rfl

theorem run_quote {mark : Char} (h : isQuote mark = true) (rest : List Char) :
    run code (mark :: rest) = run (quoted mark) rest := by
  rw [run_alone (alone_of_isQuote h code rest), step, if_pos h]

theorem run_openLine (rest : List Char) : run code ('-' :: '-' :: rest) = run lineComment rest :=
  run_pair rfl rest

theorem run_openBlock (rest : List Char) : run code ('/' :: '*' :: rest) = run blockComment rest :=
  run_pair rfl rest

/-- Behind the end of a stretch the reader goes on in code. -/
theorem run_of_end {s : Scan} (hs : s ≠ code) {text rest : List Char}
    (h : behind? s.closer text = some rest) : run s text = run code rest := by
  rw [run_to_closer hs, h]
  rfl

/-- A stretch that leads back into code has an end, and so has what stands behind it. -/
theorem exists_of_run_eq {s : Scan} (hs : s ≠ code) {text : List Char} (h : run s text = code) :
    ∃ rest, behind? s.closer text = some rest ∧ run code rest = code := by
  cases hend : behind? s.closer text with
  | none =>
      rw [run_to_closer hs, hend] at h
      exact absurd h hs
  | some rest => exact ⟨rest, rfl, (run_of_end hs hend).symm.trans h⟩

/-- A text that closes what it opens leads back into code. -/
theorem Complete.run_eq {text : List Char} (h : Complete text) : run code text = code := by
  induction h with
  | nil => rfl
  | char hquote hopens _ ih => rw [run_char hquote hopens, ih]
  | @quotation mark body rest hmark hbody _ ih =>
      have hend : behind? (quoted mark).closer (body ++ mark :: rest) = some rest :=
        behind?_mark_eq_some_iff.mpr ⟨body, rfl, hbody⟩
      rw [run_quote hmark, run_of_end (by simp) hend, ih]
  | @line body rest hbody _ ih =>
      have hend : behind? lineComment.closer (body ++ '\n' :: rest) = some rest :=
        behind?_mark_eq_some_iff.mpr ⟨body, rfl, hbody⟩
      rw [run_openLine, run_of_end (by simp) hend, ih]
  | @block body rest hbody _ ih =>
      have hend : behind? blockComment.closer (body ++ '*' :: '/' :: rest) = some rest :=
        behind?_closing_eq_some_iff.mpr ⟨body, rfl, hbody⟩
      rw [run_openBlock, run_of_end (by simp) hend, ih]

/-- **The reader is in code behind the texts that close what they open, and behind no others.** -/
theorem complete_iff {text : List Char} : Complete text ↔ run code text = code := by
  refine ⟨Complete.run_eq, ?_⟩
  -- What stands behind a stretch is shorter than the text, hence the induction on a bound.
  suffices h : ∀ n text, List.length text ≤ n → run code text = code → Complete text from
    h _ text (Nat.le_refl _)
  intro n
  induction n with
  | zero =>
      intro text hlen _
      rw [List.length_eq_zero_iff.mp (Nat.le_zero.mp hlen)]
      exact .nil
  | succ n ih =>
      intro text hlen hrun
      rcases begins_cases text with rfl | ⟨c, rest, rfl, hquote, hopens⟩
        | ⟨mark, rest, rfl, hmark⟩ | ⟨rest, rfl⟩ | ⟨rest, rfl⟩
      · exact .nil
      · rw [List.length_cons] at hlen
        rw [run_char hquote hopens] at hrun
        exact .char hquote hopens (ih rest (by omega) hrun)
      · rw [run_quote hmark] at hrun
        obtain ⟨behind, hend, hcode⟩ := exists_of_run_eq (by simp) hrun
        obtain ⟨body, rfl, hbody⟩ := behind?_mark_eq_some_iff.mp hend
        simp only [List.length_append, List.length_cons] at hlen
        exact .quotation hmark hbody (ih behind (by omega) hcode)
      · rw [run_openLine] at hrun
        obtain ⟨behind, hend, hcode⟩ := exists_of_run_eq (by simp) hrun
        obtain ⟨body, rfl, hbody⟩ := behind?_mark_eq_some_iff.mp hend
        simp only [List.length_append, List.length_cons] at hlen
        exact .line hbody (ih behind (by omega) hcode)
      · rw [run_openBlock] at hrun
        obtain ⟨behind, hend, hcode⟩ := exists_of_run_eq (by simp) hrun
        obtain ⟨body, rfl, hbody⟩ := behind?_closing_eq_some_iff.mp hend
        simp only [List.length_append, List.length_cons] at hlen
        exact .block hbody (ih behind (by omega) hcode)

/-! ### The cuts of a text -/

/-- **A text is cut at the semicolons that the reader meets in code.** -/
theorem mem_seams_splitFrom {s : Scan} {text : List Char} {i : Nat} :
    i ∈ seams 0 (splitFrom s [] text) ↔ text[i]? = some ';' ∧ run s (text.take i) = code := by
  induction s, text using tokensInduction generalizing i with
  | nil s => simp [seams]
  | pair s s' c d rest hp ih =>
      have hcut : c ≠ ';' ∧ d ≠ ';' := by
        obtain ⟨-, rfl, rfl, -⟩ | ⟨-, rfl, rfl, -⟩ | ⟨-, rfl, rfl, -⟩ := pair?_cases hp <;> decide
      have hseams := seams_of_passes (passes_pair hp rest)
      rw [show [c, d] ++ rest = c :: d :: rest from rfl] at hseams
      rw [hseams, List.mem_map]
      rcases i with _ | _ | i
      · simp [hcut.1]
      · simp [hcut.2]
      · simp [ih, run_pair hp]
  | alone s c rest ha ih =>
      have htake : ∀ i, run s (c :: rest.take i) = run (s.step c) (rest.take i) := by
        intro i
        rw [← List.take_append_drop i rest] at ha
        exact run_alone (alone_of_append ha)
      by_cases hcut : s = code ∧ c = ';'
      · obtain ⟨rfl, rfl⟩ := hcut
        have hstep : step code ';' = code := by decide
        have hrest : ∀ {i}, i ∈ cuts rest
            ↔ rest[i]? = some ';' ∧ run code (rest.take i) = code := by
          rwa [hstep] at ih
        show i ∈ cuts (';' :: rest) ↔ _
        rw [cuts_semicolon, List.mem_cons, List.mem_map]
        rcases i with _ | i
        · simp
        · simp [hrest, htake, hstep]
      · have hseams := seams_of_passes (passes_alone ha hcut)
        rw [List.singleton_append] at hseams
        rw [hseams, List.mem_map]
        rcases i with _ | i
        · simpa [and_comm] using hcut
        · simp [ih, htake]

/-- The cut between two rows of pieces stands behind what the first ones make. -/
theorem seams_append {left right : List (List Char)} (hleft : left ≠ []) (hright : right ≠ [])
    (start : Nat) : start + ([';'].intercalate left).length ∈ seams start (left ++ right) := by
  induction left generalizing start with
  | nil => exact absurd rfl hleft
  | cons p left ih =>
      cases left with
      | nil =>
          obtain ⟨q, right, rfl⟩ := List.exists_cons_of_ne_nil hright
          rw [List.intercalate_singleton]
          exact List.mem_cons_self
      | cons q left =>
          have hrest := ih (List.cons_ne_nil _ _) (start + p.length + 1)
          have hlen : start + ([';'].intercalate (p :: q :: left)).length
              = start + p.length + 1 + ([';'].intercalate (q :: left)).length := by
            rw [List.intercalate_cons_cons]
            simp only [List.length_append, List.length_singleton, Nat.add_assoc]
          rw [hlen]
          exact List.mem_cons_of_mem _ hrest

/-- The pieces of two texts stay apart only if the semicolon between them is a cut. -/
theorem run_eq_of_split_append {a b : List Char} (h : split (a ++ ';' :: b) = split a ++ split b) :
    run code a = code := by
  have hcut := seams_append (splitFrom_ne_nil code a) (splitFrom_ne_nil code b) 0
  rw [intercalate_splitFrom, Nat.zero_add] at hcut
  have hmem : a.length ∈ seams 0 (split (a ++ ';' :: b)) := by
    rw [h]
    exact hcut
  have hrun := (mem_seams_splitFrom.mp hmem).2
  rwa [List.take_left] at hrun

/--
**Splitting loses nothing and cuts where the reader is in code.**  The pieces of a text
with semicolons between them are the text.  It is cut at position `i` if and only if a
semicolon stands there and the text before it closes every quotation and comment that it
opens.  And a text with a semicolon and another one behind it falls into the pieces of
both, if and only if it closes what it opens.
-/
theorem split_exact (text : List Char) :
    [';'].intercalate (split text) = text
    ∧ (∀ i, i ∈ cuts text ↔ text[i]? = some ';' ∧ Complete (text.take i))
    ∧ ∀ behind, split (text ++ ';' :: behind) = split text ++ split behind ↔ Complete text := by
  refine ⟨intercalate_splitFrom code text, fun i => ?_, fun behind => ?_⟩
  · rw [complete_iff]
    exact mem_seams_splitFrom
  · rw [complete_iff]
    exact ⟨run_eq_of_split_append, fun h => split_append_cut h behind⟩

/-- A doubled quote, a comment with only three characters, a comment in a literal, a quote in a
comment, and letters of several bytes. -/
example : (split "é'';'--;';/*/;*/--';\n;`\"`".toList).map String.ofList
    = ["é''", "'--;'", "/*/;*/--';\n", "`\"`"] := by decide +kernel

end Stencil.Fragment.Scan
