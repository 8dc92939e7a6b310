/-
Stretches of text that the reader of SQL text passes over.

`Passes` says of a stretch that stands in front of another text that the reader makes no
cut in it and goes on from a given state.  What follows belongs to it, because the last
character of the stretch and the first one behind it may be read together.  Passages
follow one another (`Passes.append`), so each kind of stretch needs one lemma: characters
that mean nothing to the reader, a quotation, a comment.

The cuts are also given as positions, which move along with the text in front of them.
-/
import Stencil.Proofs.Fragment.Statement

namespace Stencil.Fragment.Scan

/-! ### Passages -/

/-- The reader comes over the text without a cut, from one state to the other. -/
def Passes (s : Scan) (text rest : List Char) (s' : Scan) : Prop :=
  splitFrom s [] (text ++ rest) = (splitFrom s' [] rest).modifyHead (text ++ ·)

variable {s s' s'' : Scan} {a b rest : List Char}

theorem passes_nil (s : Scan) (rest : List Char) : Passes s [] rest s :=
  (congrFun List.modifyHead_id _).symm

theorem Passes.append (ha : Passes s a (b ++ rest) s') (hb : Passes s' b rest s'') :
    Passes s (a ++ b) rest s'' := by
  unfold Passes at ha hb ⊢
  rw [List.append_assoc, ha, hb, List.modifyHead_modifyHead]
  congr 1
  funext p
  exact (List.append_assoc a b p).symm

theorem passes_pair {c d : Char} (h : pair? s c d = some s') (rest : List Char) :
    Passes s [c, d] rest s' := by
  show splitFrom s [] (c :: d :: rest) = _
  rw [splitFrom_pair h, splitFrom_eq_modifyHead]
  rfl

theorem passes_alone {c : Char} (h : Alone s c rest) (hcut : ¬ (s = code ∧ c = ';')) :
    Passes s [c] rest (s.step c) := by
  show splitFrom s [] (c :: rest) = _
  rw [splitFrom_alone h hcut, splitFrom_eq_modifyHead]
  rfl

/-- Characters that leave the reader where it is. -/
theorem passes_of_forall (halone : ∀ c ∈ a, ∀ rest, Alone s c rest)
    (hcut : ∀ c ∈ a, ¬ (s = code ∧ c = ';')) (hstep : ∀ c ∈ a, s.step c = s)
    (rest : List Char) : Passes s a rest s := by
  induction a with
  | nil => exact passes_nil s rest
  | cons c a ih =>
      have hfirst := passes_alone (halone c List.mem_cons_self (a ++ rest))
        (hcut c List.mem_cons_self)
      rw [hstep c List.mem_cons_self] at hfirst
      exact hfirst.append (ih (fun d hd => halone d (List.mem_cons_of_mem _ hd))
        (fun d hd => hcut d (List.mem_cons_of_mem _ hd))
        fun d hd => hstep d (List.mem_cons_of_mem _ hd))

/-! ### Code -/

/-- A character that means nothing to the reader in code, whatever stands behind it. -/
def plain (c : Char) : Bool := !isQuote c && c != ';' && c != '-' && c != '/'

/-- In code two characters are read together only where a comment begins. -/
theorem alone_code {c : Char} (hminus : c = '-' → rest.head? ≠ some '-')
    (hslash : c = '/' → rest.head? ≠ some '*') : Alone code c rest := by
  intro d hd
  cases hp : pair? code c d with
  | none => rfl
  | some s' =>
      obtain ⟨-, hc, rfl, -⟩ | ⟨-, hc, rfl, -⟩ | ⟨hs, -⟩ := pair?_cases hp
      · exact absurd hd (hminus hc)
      · exact absurd hd (hslash hc)
      · exact Scan.noConfusion hs

theorem ne_of_plain {c : Char} (h : plain c = true) :
    isQuote c = false ∧ c ≠ ';' ∧ c ≠ '-' ∧ c ≠ '/' := by
  simpa [plain, and_assoc] using h

theorem plain_of_isBlank {c : Char} (h : Text.isBlank c = true) : plain c = true := by
  obtain ⟨⟨hminus, -, hslash⟩, hquote, hsemicolon⟩ := ne_of_blank h
  simp [plain, hquote, hsemicolon, hminus, hslash]

theorem alone_of_plain {c : Char} (h : plain c = true) (rest : List Char) : Alone code c rest := by
  obtain ⟨-, -, hminus, hslash⟩ := ne_of_plain h
  exact alone_code (absurd · hminus) (absurd · hslash)

theorem step_of_plain {c : Char} (h : plain c = true) : step code c = code := by
  simp [step, (ne_of_plain h).1]

/-- Plain characters keep the reader in code. -/
theorem run_plain (h : ∀ c ∈ a, plain c = true) : run code a = code := by
  induction a with
  | nil => exact run_nil code
  | cons c a ih =>
      obtain ⟨hfirst, hrest⟩ := List.forall_mem_cons.mp h
      rw [run_alone (alone_of_plain hfirst a), step_of_plain hfirst, ih hrest]

theorem passes_plain (h : a.all plain = true) (rest : List Char) : Passes code a rest code := by
  have hplain : ∀ c ∈ a, plain c = true := List.all_eq_true.mp h
  exact passes_of_forall (fun c hc => alone_of_plain (hplain c hc))
    (fun c hc hcut => (ne_of_plain (hplain c hc)).2.1 hcut.2)
    (fun c hc => step_of_plain (hplain c hc)) rest

/-- The text of a quotation behind the mark that opens it: the mark is written twice inside. -/
inductive Enclosed (mark : Char) : List Char → Prop
  | close : Enclosed mark [mark]
  | other {c : Char} {text : List Char} (hc : c ≠ mark) (h : Enclosed mark text) :
      Enclosed mark (c :: text)
  | double {text : List Char} (h : Enclosed mark text) : Enclosed mark (mark :: mark :: text)

theorem Enclosed.append {mark : Char} {front text : List Char} (hfront : ∀ c ∈ front, c ≠ mark)
    (h : Enclosed mark text) : Enclosed mark (front ++ text) := by
  induction front with
  | nil => exact h
  | cons c front ih =>
      have hrest := ih fun d hd => hfront d (List.mem_cons_of_mem _ hd)
      exact .other (hfront c List.mem_cons_self) hrest

theorem alone_of_isQuote {mark : Char} (h : isQuote mark = true) (s : Scan) (rest : List Char) :
    Alone s mark rest := by
  refine alone_of_ne s ?_ rest
  refine ⟨?_, ?_, ?_⟩
  all_goals
    rintro rfl
    cases h

/-- The positions of the semicolons between pieces, of which the first begins at `start`. -/
def seams (start : Nat) : List (List Char) → List Nat
  | [] => []
  | [_] => []
  | p :: q :: rest => (start + p.length) :: seams (start + p.length + 1) (q :: rest)

/-- The positions at which a text is cut. -/
def cuts (text : List Char) : List Nat := seams 0 (split text)

theorem seams_modifyHead (start : Nat) (front : List Char) (l : List (List Char)) :
    seams start (l.modifyHead (front ++ ·)) = seams (start + front.length) l := by
  rcases l with _ | ⟨p, _ | ⟨q, l⟩⟩
  · rfl
  · rfl
  · simp only [List.modifyHead_cons, seams, List.length_append, Nat.add_assoc]

theorem seams_add (start n : Nat) (l : List (List Char)) :
    seams (start + n) l = (seams start l).map (· + n) := by
  induction l generalizing start with
  | nil => rfl
  | cons p l ih =>
      cases l with
      | nil => rfl
      | cons q l =>
          have hfirst : start + n + p.length = start + p.length + n := Nat.add_right_comm _ _ _
          have hrest : start + p.length + n + 1 = start + p.length + 1 + n :=
            Nat.add_right_comm _ _ _
          rw [seams, seams, List.map_cons, hfirst, hrest, ih]

/-- The positions behind a passage move along with it. -/
theorem seams_of_passes (h : Passes s a rest s') :
    seams 0 (splitFrom s [] (a ++ rest))
      = (seams 0 (splitFrom s' [] rest)).map (· + a.length) := by
  rw [h, seams_modifyHead, seams_add]

theorem cuts_semicolon (rest : List Char) : cuts (';' :: rest) = 0 :: (cuts rest).map (· + 1) := by
  unfold cuts split
  rw [splitFrom_cut]
  cases hsplit : splitFrom code [] rest with
  | nil => exact absurd hsplit (splitFrom_ne_nil _ _)
  | cons p l => exact congrArg (0 :: ·) (seams_add 0 1 (p :: l))

end Stencil.Fragment.Scan
