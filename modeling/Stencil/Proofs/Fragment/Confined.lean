/-
What a value can do to the text that it is put into.

Putting a value in is done to the characters, so a value that leaves a comment or a quotation
open swallows what stands behind it.  A value is `Closed` if it leads the reader from code back
into code.  Where such a value stands in code, and its ends form no comment with what stands
next to them, everything behind it is read as if a word stood there (`run_between`).

Values are made of other values, so the same is asked of the references in a definition
(`StandFree`), and then a stored value is closed if and only if the text of the definition is,
with words in place of its references.  Nothing checks that it is: this is left to whoever
writes the definition.
-/
import Stencil.Proofs.Fragment.FirstSign
import Stencil.Proofs.Fragment.InForce
import Stencil.Proofs.Fragment.Passage

namespace Stencil.Fragment

namespace Scan

variable {a b w front : List Char}

/-! ### Texts side by side -/

/-- The last character of a text opens no comment together with the first one of another. -/
def Unjoined (a b : List Char) : Prop :=
  ∀ c ∈ a.getLast?, ∀ d ∈ b.head?, pair? code c d = none

-- Without the instance for options all characters would be tried.
instance (a b : List Char) : Decidable (Unjoined a b) :=
  have (c : Char) : Decidable (∀ d ∈ b.head?, pair? code c d = none) := Option.decidableForallMem _
  Option.decidableForallMem a.getLast?

theorem unjoined_of_getLast_blank (h : a.getLast?.all Text.isBlank = true) (b : List Char) :
    Unjoined a b := by
  intro c hc d _
  have halone := alone_of_blank code ((Option.all_eq_true _ _).mp h c hc) [d]
  exact alone_cons.mp halone

theorem unjoined_of_head_blank (a : List Char) (h : b.head?.all Text.isBlank = true) :
    Unjoined a b :=
  fun _ _ d hd => pair?_eq_none code (ne_of_blank ((Option.all_eq_true _ _).mp h d hd)).1

/-- Only the first character of the second text counts. -/
theorem Unjoined.of_head {b' : List Char} (h : Unjoined a b) (hb : b' = [] ∨ b'.head? = b.head?) :
    Unjoined a b' := by
  rcases hb with rfl | hb
  · exact fun _ _ _ hd => nomatch hd
  · exact fun c hc d hd => h c hc d (hb ▸ hd)

/-- Behind a text that leads into code the reader goes on as in a new text. -/
theorem run_append_of_code {s : Scan} (h : run s a = code) (hunjoined : Unjoined a b) :
    run s (a ++ b) = run code b := by
  induction s, a using tokensInduction with
  | nil s =>
      rw [run_nil] at h
      rw [h, List.nil_append]
  | pair s s' c d rest hp ih =>
      rw [run_pair hp] at h
      rw [List.cons_append, List.cons_append, run_pair hp]
      refine ih h fun e he => hunjoined e ?_
      cases rest with
      | nil => cases he
      | cons f rest => exact he
  | alone s c rest ha ih =>
      rw [run_alone ha] at h
      have halone : Alone s c (rest ++ b) := by
        cases rest with
        | cons f rest => exact alone_cons.mpr (alone_cons.mp ha)
        | nil =>
            intro d hd
            cases s with
            | code => exact hunjoined c rfl d hd
            | quoted mark => rfl
            | lineComment => rfl
            | blockComment => exact absurd h (by simp [step])
      rw [List.cons_append, run_alone halone]
      refine ih h fun e he => hunjoined e ?_
      cases rest with
      | nil => cases he
      | cons f rest => exact he

/-- The text leads the reader from code back into code. -/
def Closed (text : List Char) : Prop := run code text = code

instance (text : List Char) : Decidable (Closed text) :=
  inferInstanceAs (Decidable (run code text = code))

/-- What stands between two texts does not matter if it is closed and joins neither of them. -/
theorem run_between (hfront : run code front = code) (hw : Closed w)
    (hbefore : Unjoined front (w ++ b)) (hbehind : Unjoined w b) :
    run code (front ++ (w ++ b)) = run code b := by
  rw [run_append_of_code hfront hbefore, run_append_of_code hw hbehind]

/-! ### Words -/

/-- Characters that mean nothing to the reader, whatever stands next to them. -/
structure Inert (word : List Char) : Prop where
  nonempty : word ≠ []
  plain : ∀ c ∈ word, plain c = true ∧ c ≠ '*'

variable {word : List Char}

instance : Decidable (Inert word) :=
  have := List.decidableBAll (fun c => Scan.plain c = true ∧ c ≠ '*') word
  decidable_of_iff (word ≠ [] ∧ ∀ c ∈ word, Scan.plain c = true ∧ c ≠ '*')
    ⟨fun ⟨hne, hplain⟩ => ⟨hne, hplain⟩, fun ⟨hne, hplain⟩ => ⟨hne, hplain⟩⟩

theorem Inert.closed (h : Inert word) : Closed word := run_plain fun c hc => (h.plain c hc).1

theorem Inert.unjoined_before (h : Inert word) (a b : List Char) : Unjoined a (word ++ b) := by
  intro c _ d hd
  have hmem : d ∈ word := by
    cases hword : word with
    | nil => exact absurd hword h.nonempty
    | cons e word =>
        rw [hword] at hd
        exact List.mem_cons.mpr (Or.inl (Option.some.inj hd).symm)
  obtain ⟨hplain, hstar⟩ := h.plain d hmem
  obtain ⟨-, -, hminus, hslash⟩ := ne_of_plain hplain
  exact pair?_eq_none code ⟨hminus, hstar, hslash⟩

theorem Inert.unjoined_behind (h : Inert word) (b : List Char) : Unjoined word b := by
  intro c hc d _
  have halone := alone_of_plain (h.plain c (List.mem_of_getLast? hc)).1 [d]
  exact alone_cons.mp halone

/-- A word in code does not matter for what stands behind it. -/
theorem run_word (h : Inert word) (hfront : run code front = code) (b : List Char) :
    run code (front ++ (word ++ b)) = run code b :=
  run_between hfront h.closed (h.unjoined_before front b) (h.unjoined_behind b)

end Scan

open Scan

/-! ### Values as they are cut out -/

namespace Definition

open Text

variable {statement before behind : List Char} {d : Definition}

/-- Behind its sign a statement is read as it is without what stands in front. -/
theorem run_of_signAt (h : SignAt statement before behind) :
    run code statement = run code behind := by
  have hfront : Unjoined before (sign ++ behind) := fun _ _ d hd =>
    pair?_eq_none code (fresh_cons (by decide) _ d hd)
  have hback : Unjoined sign behind := fun c hc d _ =>
    alone_cons.mp (alone_of_plain (by rw [← Option.some.inj hc]; rfl) [d])
  rw [h.1, List.append_assoc, run_append_of_code h.2 hfront, run_append_of_code (by decide) hback]

/-- The blanks around a text matter only at its end. -/
theorem run_dropBlanks (text : List Char) : run code (dropBlanks text) = run code text := by
  refine apply_dropBlanks (fun b rest hb => ?_) text
  rw [run_alone (alone_of_blank code hb rest), step_code_of_blank hb]

theorem dropEndBlanks_of_suffix {text back : List Char} (h : dropEndBlanks text = text)
    (hback : back <:+ text) : dropEndBlanks back = back := by
  rw [dropEndBlanks_eq_rdropWhile, List.rdropWhile_eq_self_iff] at h ⊢
  intro hne
  obtain ⟨front, rfl⟩ := hback
  have hlast := h (List.append_ne_nil_of_right_ne_nil front hne)
  rwa [List.getLast_append_of_ne_nil _ hne] at hlast

/-- **Of the values that are cut out behind a sign in code, only that of the last piece can leave
a quotation or a block comment open.** -/
theorem run_value {text piece : List Char} (h : piece ∈ (Scan.split text).dropLast)
    (hcut : byFirstSign? (Scan.statement piece) = some d) :
    run code d.value = code ∨ run code d.value = lineComment := by
  obtain ⟨⟨before, behind⟩, hsign, hd⟩ := Option.bind_eq_some_iff.mp hcut
  have hvalue : d.value = trimmed behind := by
    dsimp only at hd
    split at hd
    · cases hd
      rfl
    · cases hd
  have hhere := (firstSign?_eq_some_iff.mp hsign).here
  have hne : Scan.statement piece ≠ [] := by
    rw [hhere.1]
    simp [sign]
  have hbare := bare_statement (whole_of_mem_split (List.dropLast_subset _ h)) hne
  have hsuffix : dropBlanks behind <:+ Scan.statement piece := by
    rw [hhere.1]
    exact (List.dropWhile_suffix _).trans (List.suffix_append _ _)
  rw [hvalue, trimmed, dropEndBlanks_of_suffix hbare.trimmed hsuffix, run_dropBlanks,
    ← run_of_signAt hhere]
  exact run_statement (run_of_mem_dropLast_split h) hne

end Definition

/-! ### References that stand free -/

namespace Part

/-- The value that a part is replaced by. -/
def value? (values : Values) : Part → Option (List Char)
  | plain _ => none
  | reference name => values name

theorem image_eq (values : Values) (p : Part) :
    p.image values = (p.value? values).getD p.written := by
  cases p <;> rfl

theorem written_ne_nil (p : Part) : p.written ≠ [] := by
  cases p <;> exact List.cons_ne_nil _ _

end Part

namespace Values

variable {values : Values} {word front front' : List Char} {parts : List Part}

/-- The parts with references replaced. -/
def images (values : Values) (parts : List Part) : List Char := parts.flatMap (Part.image values)

/-- A word under each name with a value. -/
def masked (values : Values) (word : List Char) : Values := fun name =>
  (values name).map fun _ => word

/-- Each reference with a value stands in code, and neither end of the value opens a comment
together with what stands next to it; `front` is the text that the parts stand behind. -/
def StandFree (values : Values) (front : List Char) : List Part → Prop
  | [] => True
  | p :: rest =>
    (∀ w ∈ p.value? values, run code front = code ∧ Unjoined front (w ++ values.images rest)
        ∧ Unjoined w (values.images rest))
      ∧ StandFree values (front ++ p.image values) rest

instance decidableStandFree (values : Values) :
    ∀ (front : List Char) (parts : List Part), Decidable (StandFree values front parts)
  | _, [] => .isTrue trivial
  | front, p :: rest =>
    have := decidableStandFree values (front ++ p.image values) rest
    inferInstanceAs (Decidable (_ ∧ _))

/-! ### Words in place of values -/

theorem value?_masked (values : Values) (word : List Char) (p : Part) :
    p.value? (values.masked word) = (p.value? values).map fun _ => word := by
  cases p <;> rfl

/-- **Closed values that stand free may be exchanged for words.**  What the two fronts have in
common is how they go on with nothing, or with the character that follows. -/
theorem run_images (hword : Inert word)
    (hclosed : ∀ p ∈ parts, ∀ w ∈ p.value? values, Closed w)
    (hfree : values.StandFree front parts)
    (halike : ∀ b, b = [] ∨ b.head? = (values.images parts).head? →
      run code (front ++ b) = run code (front' ++ b)) :
    run code (front ++ values.images parts)
      = run code (front' ++ (values.masked word).images parts) := by
  induction parts generalizing front front' with
  | nil => exact halike [] (.inl rfl)
  | cons p rest ih =>
      obtain ⟨hclosed, hrest⟩ := List.forall_mem_cons.mp hclosed
      obtain ⟨hhere, hfree⟩ := hfree
      have himage : values.images (p :: rest) = p.image values ++ values.images rest := rfl
      have himage' : (values.masked word).images (p :: rest)
          = p.image (values.masked word) ++ (values.masked word).images rest := rfl
      rw [himage] at halike ⊢
      rw [himage', ← List.append_assoc, ← List.append_assoc]
      rw [Part.image_eq] at hfree halike ⊢
      rw [Part.image_eq, value?_masked]
      cases hvalue : p.value? values with
      | none =>
          rw [hvalue] at hfree halike
          refine ih hrest hfree fun b _ => ?_
          rw [List.append_assoc, List.append_assoc]
          refine halike _ (.inr ?_)
          exact (List.head?_append_of_ne_nil _ (Part.written_ne_nil p)).trans
            (List.head?_append_of_ne_nil _ (Part.written_ne_nil p)).symm
      | some w =>
          rw [hvalue] at hfree
          obtain ⟨hcode, hbefore, hbehind⟩ := hhere w hvalue
          have hcode' : run code front' = code := by
            have hnil := halike [] (.inl rfl)
            rw [List.append_nil, List.append_nil] at hnil
            rw [← hnil, hcode]
          refine ih hrest hfree fun b hb => ?_
          show run code (front ++ w ++ b) = run code (front' ++ word ++ b)
          rw [List.append_assoc, List.append_assoc, run_word hword hcode']
          refine run_between hcode (hclosed w hvalue) (hbefore.of_head ?_) (hbehind.of_head hb)
          cases w with
          | nil => exact hb
          | cons c w => exact .inr rfl

/-- The texts in force are closed. -/
def AllClosed (values : Values) : Prop := ∀ name w, values name = some w → Closed w

/-- The text is closed, and stays so if words stand for the references in it. -/
structure SelfContained (values : Values) (word text : List Char) : Prop where
  free : values.StandFree [] (Part.read text)
  closed : Closed (expand (values.masked word) text)

instance (values : Values) (word text : List Char) : Decidable (values.SelfContained word text) :=
  decidable_of_iff
    (values.StandFree [] (Part.read text) ∧ Closed (expand (values.masked word) text))
    ⟨fun ⟨hfree, hclosed⟩ => ⟨hfree, hclosed⟩, fun ⟨hfree, hclosed⟩ => ⟨hfree, hclosed⟩⟩

/-- **An expanded text is closed if and only if it is with words for its references.** -/
theorem closed_expand_iff (hclosed : values.AllClosed) (hword : Inert word) {text : List Char}
    (hfree : values.StandFree [] (Part.read text)) :
    Closed (expand values text) ↔ Closed (expand (values.masked word) text) := by
  have hparts : ∀ p ∈ Part.read text, ∀ w ∈ p.value? values, Closed w := by
    intro p _ w hw
    cases p with
    | plain c => cases hw
    | reference name => exact hclosed name w hw
  have hrun := run_images hword hparts hfree fun b _ => rfl
  unfold Closed
  rw [show run code (expand values text) = run code (expand (values.masked word) text) from hrun]

variable {statement : List Char} {d : Definition} {l : List (List Char)}

theorem AllClosed.update (h : values.AllClosed) (name : List Char) {w : List Char}
    (hw : Closed w) : AllClosed (Function.update values name (some w)) := by
  intro name' w' hw'
  by_cases heq : name' = name
  · rw [heq, Function.update_self] at hw'
    cases hw'
    exact hw
  · rw [Function.update_of_ne heq] at hw'
    exact h name' w' hw'

/-- A definition whose text is self-contained keeps the texts in force closed. -/
theorem AllClosed.behind (h : values.AllClosed) (hword : Inert word)
    (hself : ∀ d ∈ Definition.read? statement, values.SelfContained word d.value) :
    (values.behind statement).AllClosed := by
  unfold Values.behind
  cases hread : Definition.read? statement with
  | none => exact h
  | some d =>
      obtain ⟨hfree, hclosed⟩ := hself d hread
      exact h.update d.name ((closed_expand_iff h hword hfree).mpr hclosed)

/-- Each definition among the statements is self-contained where it is carried out. -/
def DefinedClosed (values : Values) (word : List Char) (l : List (List Char)) : Prop :=
  ∀ before statement after d, l = before ++ statement :: after →
    Definition.read? statement = some d → (values.behindAll before).SelfContained word d.value

theorem definedClosed_nil : values.DefinedClosed word [] := by
  intro before statement after d h
  simp at h

theorem definedClosed_cons : values.DefinedClosed word (statement :: l)
    ↔ (∀ d ∈ Definition.read? statement, values.SelfContained word d.value)
      ∧ (values.behind statement).DefinedClosed word l := by
  constructor
  · intro h
    refine ⟨fun d hread => h [] statement l d rfl hread, ?_⟩
    intro before statement' after d hl
    exact h (statement :: before) statement' after d (congrArg (statement :: ·) hl)
  · rintro ⟨hfirst, hrest⟩ before statement' after d hl hread
    cases before with
    | nil =>
        obtain ⟨rfl, -⟩ := List.cons.inj hl
        exact hfirst d hread
    | cons first before =>
        obtain ⟨rfl, htail⟩ := List.cons.inj hl
        exact hrest before statement' after d htail hread

theorem AllClosed.behindAll (h : values.AllClosed) (hword : Inert word)
    (hself : values.DefinedClosed word l) : (values.behindAll l).AllClosed := by
  induction l generalizing values with
  | nil => exact h
  | cons statement rest ih =>
      obtain ⟨hfirst, hrest⟩ := definedClosed_cons.mp hself
      exact ih (h.behind hword hfirst) hrest

end Values

/-! ### Submissions -/

namespace Registry

open Values

variable {r r' : Registry} {word : List Char}

theorem allClosed_values (h : ∀ entry ∈ r.entries, Closed entry.2.toList) :
    r.values.AllClosed := by
  intro name w hw
  obtain ⟨sql, hget, rfl⟩ := Option.map_eq_some_iff.mp hw
  exact h _ (Keyed.mem_of_find? hget)

/-- A later statement with a reference in it. -/
theorem run_expand_later {later w : List Char} {ps qs : List Part} {name : List Char}
    (hword : Inert word) (hread : Part.read later = ps ++ .reference name :: qs)
    (hvalue : r.values name = some w) (hw : Closed w)
    (hfront : run code (r.values.images ps) = code)
    (hbefore : Unjoined (r.values.images ps) (w ++ r.values.images qs))
    (hbehind : Unjoined w (r.values.images qs)) :
    r.expand later = r.values.images ps ++ (w ++ r.values.images qs)
      ∧ ∀ b, b <+: r.values.images qs →
        run code (r.values.images ps ++ (w ++ b))
          = run code (r.values.images ps ++ (word ++ b)) := by
  refine ⟨?_, fun b hb => ?_⟩
  · show (Part.read later).flatMap (Part.image r.values) = _
    rw [hread, List.flatMap_append, List.flatMap_cons, Part.image_eq,
      show Part.value? r.values (.reference name) = some w from hvalue]
    rfl
  · have hhead : b = [] ∨ b.head? = (r.values.images qs).head? := by
      obtain ⟨rest, hrest⟩ := hb
      cases b with
      | nil => exact .inl rfl
      | cons c b => exact .inr (by rw [← hrest]; rfl)
    rw [run_word hword hfront]
    refine run_between hfront hw (hbefore.of_head ?_) (hbehind.of_head hhead)
    cases w with
    | nil => exact hhead
    | cons c w => exact .inr rfl

/--
**Substitution is confined where definitions are.**  If each definition of a submission is closed
with words for its references, and these stand free, then all texts in force are closed behind
it; and in general such a definition puts a closed text in force if and only if its own text is
closed.  But for the last piece, all that a value can leave open is a line comment.  In any
later statement, what stands behind a reference to a closed text is read as it would be read
behind a word.
-/
theorem submit_confined {text out : String} (hclosed : r.values.AllClosed) (hword : Inert word)
    (h : r.submit text = .ok (out, r')) :
    (∀ piece ∈ (Scan.split text.toList).dropLast, ∀ d,
        Definition.read? (Scan.statement piece) = some d →
        Definition.byFirstSign? (Scan.statement piece) = some d →
          Closed d.value ∨ run code d.value = lineComment)
      ∧ (∀ before statement after d,
        Scan.statements text.toList = before ++ statement :: after →
        Definition.read? statement = some d → (r.values.behindAll before).AllClosed →
        (r.values.behindAll before).StandFree [] (Part.read d.value) →
        ∃ w, r.values.behindAll (before ++ [statement]) d.name = some w
          ∧ (Closed w ↔ Closed (Fragment.expand ((r.values.behindAll before).masked word) d.value)))
      ∧ (r.values.DefinedClosed word (Scan.statements text.toList) →
        r'.values.AllClosed ∧ ∀ before after, Scan.statements text.toList = before ++ after →
          (r.values.behindAll before).AllClosed)
      ∧ ∀ later ps qs name w, Part.read later = ps ++ .reference name :: qs →
        r'.values name = some w → Closed w → run code (r'.values.images ps) = code →
        Unjoined (r'.values.images ps) (w ++ r'.values.images qs) →
        Unjoined w (r'.values.images qs) →
          r'.expand later = r'.values.images ps ++ (w ++ r'.values.images qs)
            ∧ ∀ b, b <+: r'.values.images qs →
              run code (r'.values.images ps ++ (w ++ b))
                = run code (r'.values.images ps ++ (word ++ b)) := by
  refine ⟨fun _ hmem _ _ hcut => Definition.run_value hmem hcut,
    fun before statement after d _ hread hbefore hfree => ?_, fun hself => ⟨?_, ?_⟩, ?_⟩
  · refine ⟨_, ?_, closed_expand_iff hbefore hword hfree⟩
    rw [behindAll_append, behindAll_cons, behind_of_read? hread]
    exact Function.update_self _ _ _
  · rw [values_submit h]
    exact hclosed.behindAll hword hself
  · intro before after hsplit
    refine hclosed.behindAll hword fun front statement back d hl => ?_
    refine hself front statement (back ++ after) d ?_
    rw [hsplit, hl, List.append_assoc, List.cons_append]
  · intro later ps qs name w hread hvalue hw hfront hbefore hbehind
    exact run_expand_later hword hread hvalue hw hfront hbefore hbehind

/-- A quotation that holds a cut and a comment, and a value made of two others.  Blanks stand
around the reference in the query. -/
theorem submit_confined_nested :
    let r : Registry := ⟨[("t", "orders")]⟩
    let r' : Registry :=
      ⟨[("t", "orders"), ("x", "'a;--' orders"), ("y", "(orders 'a;--' orders)")]⟩
    r.submit "x := 'a;--' ${t} ; y := (${t} ${x})" = .ok ("", r')
      ∧ r'.values.AllClosed
      ∧ r'.expand "SELECT ${y} FROM b".toList = "SELECT (orders 'a;--' orders) FROM b".toList
      ∧ ∀ b, b <+: " FROM b".toList →
        run code ("SELECT ".toList ++ ("(orders 'a;--' orders)".toList ++ b))
          = run code ("SELECT ".toList ++ ("word".toList ++ b)) := by
  intro r r'
  have hsubmit : r.submit "x := 'a;--' ${t} ; y := (${t} ${x})" = .ok ("", r') := by
    decide +kernel
  have hword : Inert "word".toList := by decide +kernel
  have hclosed : r.values.AllClosed := allClosed_values (by decide +kernel)
  have hstatements : Scan.statements "x := 'a;--' ${t} ; y := (${t} ${x})".toList
      = ["x := 'a;--' ${t}".toList, "y := (${t} ${x})".toList] := by decide +kernel
  have hself : r.values.DefinedClosed "word".toList
      (Scan.statements "x := 'a;--' ${t} ; y := (${t} ${x})".toList) := by
    rw [hstatements, definedClosed_cons, definedClosed_cons]
    exact ⟨by decide +kernel, by decide +kernel, definedClosed_nil⟩
  obtain ⟨-, -, hall, hlater⟩ := submit_confined hclosed hword hsubmit
  have hclosed' := (hall hself).1
  have hread : Part.read "SELECT ${y} FROM b".toList = "SELECT ".toList.map .plain
      ++ .reference "y".toList :: " FROM b".toList.map .plain := by decide +kernel
  have hvalue : r'.values "y".toList = some "(orders 'a;--' orders)".toList := by decide +kernel
  obtain ⟨hexpand, hrest⟩ := hlater _ _ _ _ _ hread hvalue (hclosed' _ _ hvalue)
    (by decide +kernel) (unjoined_of_getLast_blank (by decide +kernel) _)
    (unjoined_of_head_blank _ (by decide +kernel))
  exact ⟨hsubmit, hclosed', hexpand, hrest⟩

/-- A definition that ends inside a comment, and a statement that loses its condition to it. -/
theorem submit_not_confined :
    let r : Registry := ⟨[("x", "a -- note")]⟩
    empty.submit "x := a -- note" = .ok ("", r)
      ∧ empty.values.AllClosed ∧ ¬ r.values.AllClosed
      ∧ r.expand "SELECT i FROM ${x} WHERE j = 1".toList
        = "SELECT i FROM a -- note WHERE j = 1".toList
      ∧ run code "SELECT i FROM ".toList = code
      ∧ run code "SELECT i FROM a -- note WHERE".toList = lineComment
      ∧ run code "SELECT i FROM word WHERE".toList = code := by
  intro r
  refine ⟨by decide +kernel, allClosed_values (by decide), fun h => ?_, by decide +kernel⟩
  have hx := h "x".toList "a -- note".toList (by decide +kernel)
  exact absurd hx (by decide +kernel)

end Registry
end Stencil.Fragment
