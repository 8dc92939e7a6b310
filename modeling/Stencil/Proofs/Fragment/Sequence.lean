/-
Two submissions, one after the other.

A semicolon behind a text that ends in code is a cut, so the statements of both sides
are those of the left one followed by those of the right one
(`statements_append_cut`).  Carrying out statements does not depend on what has been
put aside before them (`foldlM_behind`), so the right side can as well begin anew
with the fragments that the left side left behind.

What both leave over is joined as it would be in one submission, as long as an empty
text means that nothing was left over.  It does where no fragment is blank, and no
other registry can be reached.
-/
import Stencil.Proofs.Fragment.Reachable

namespace Stencil.Fragment

namespace Scan

/-! ### Cuts between two texts -/

/-- A semicolon behind a text that leads into code is a cut. -/
theorem splitFrom_append_cut {s : Scan} {a : List Char} (h : run s a = code) (b : List Char) :
    splitFrom s [] (a ++ ';' :: b) = splitFrom s [] a ++ splitFrom code [] b := by
  have hfresh : Fresh (';' :: b) := fresh_cons (by decide) b
  have hne := splitFrom_ne_nil s a
  rw [splitFrom_append_fresh s a hfresh, h, splitFrom_cut, List.modifyHead_cons,
    List.reverse_nil, List.append_nil, List.getLastD_eq_getLast?, List.getLast?_eq_some_getLast hne,
    Option.getD_some, List.append_cons, List.dropLast_append_getLast hne]

/-- The pieces of two texts with a cut in between. -/
theorem split_append_cut {a : List Char} (h : run code a = code) (b : List Char) :
    split (a ++ ';' :: b) = split a ++ split b :=
  splitFrom_append_cut h b

/-- The statements of two texts with a cut in between. -/
theorem statements_append_cut {a : List Char} (h : run code a = code) (b : List Char) :
    statements (a ++ ';' :: b) = statements a ++ statements b := by
  unfold statements
  rw [split_append_cut h, List.map_append, List.filter_append]

end Scan

namespace Registry

/-! ### Statements behind others -/

/-- The submission with more statements put aside before those that are. -/
def Staged.behind (front : List (List Char)) (s : Staged) : Staged :=
  { s with remaining := front ++ s.remaining }

/-- What has been put aside before does not matter for a statement. -/
theorem take_behind (front : List (List Char)) (s : Staged) (statement : List Char) :
    (s.behind front).take statement = (s.take statement).map (Staged.behind front) := by
  unfold Staged.take
  cases Definition.read? statement with
  | none => simp [Except.map, Staged.behind]
  | some d =>
      dsimp only
      split
      · rfl
      · split
        · rfl
        · rfl

/-- What has been put aside before does not matter for any number of statements. -/
theorem foldlM_behind (front : List (List Char)) (l : List (List Char)) (s : Staged) :
    l.foldlM Staged.take (s.behind front) = (l.foldlM Staged.take s).map (Staged.behind front) := by
  induction l generalizing s with
  | nil => rfl
  | cons p rest ih =>
      rw [List.foldlM_cons, List.foldlM_cons, take_behind]
      cases s.take p with
      | error e => rfl
      | ok t => exact ih t

/-- The joined statements of both are the outputs of both, joined where neither is empty. -/
theorem text_behind {s t : Staged} (hs : ∀ p ∈ s.remaining, p ≠ [])
    (ht : ∀ p ∈ t.remaining, p ≠ []) :
    (t.behind s.remaining).text = Text.join ";\n" ([s.text, t.text].filter (· ≠ "")) := by
  have hsingle : ∀ u : Staged, Text.join ";\n" [u.text] = u.text := by
    intro u
    simp [Text.join]
  have hsplit : (t.behind s.remaining).text
      = Text.join ";\n" (s.remaining.map String.ofList ++ t.remaining.map String.ofList) := by
    rw [← List.map_append]
    rfl
  rw [hsplit]
  by_cases hsnil : s.remaining = []
  · have hsempty : s.text = "" := (text_eq_empty_iff hs).mpr hsnil
    rw [hsnil, hsempty, List.filter_cons_of_neg (by simp)]
    by_cases htnil : t.remaining = []
    · have htempty : t.text = "" := (text_eq_empty_iff ht).mpr htnil
      rw [htnil, htempty, List.filter_cons_of_neg (by simp)]
      rfl
    · have htfull : t.text ≠ "" := fun h => htnil ((text_eq_empty_iff ht).mp h)
      rw [List.filter_cons_of_pos (by simpa using htfull), List.filter_nil, hsingle]
      rfl
  · have hsfull : s.text ≠ "" := fun h => hsnil ((text_eq_empty_iff hs).mp h)
    rw [List.filter_cons_of_pos (by simpa using hsfull)]
    by_cases htnil : t.remaining = []
    · have htempty : t.text = "" := (text_eq_empty_iff ht).mpr htnil
      rw [htnil, htempty, List.filter_cons_of_neg (by simp), List.filter_nil, hsingle,
        List.map_nil, List.append_nil]
      rfl
    · have htfull : t.text ≠ "" := fun h => htnil ((text_eq_empty_iff ht).mp h)
      have hboth : Text.join ";\n" [s.text, t.text] = s.text ++ ";\n" ++ t.text := by
        simp [Text.join]
      rw [List.filter_cons_of_pos (by simpa using htfull), List.filter_nil, hboth, Text.join,
        String.intercalate_append_of_ne_nil (by simpa using hsnil) (by simpa using htnil)]
      rfl

/-! ### Submissions behind others -/

theorem submit_eq_map (r : Registry) (text : String) :
    r.submit text = ((Scan.statements text.toList).foldlM Staged.take ⟨r, []⟩).map
      fun s => (s.text, s.registry) := by
  unfold submit
  cases (Scan.statements text.toList).foldlM Staged.take ⟨r, []⟩ with
  | ok s => rfl
  | error e => rfl

/--
**One submission of two texts is two submissions.**  If the first text ends in code,
submitting both with a semicolon in between comes to submitting the first and then,
to the fragments it left behind, the second: it fails where one of them fails, leaves
the same fragments behind, and joins what both leave over.
-/
theorem submit_append {r : Registry} (h : Reachable r) {a : String} (b : String)
    (hcode : Scan.run .code a.toList = .code) :
    r.submit (a ++ ";" ++ b) = do
      let (first, r₁) ← r.submit a
      let (second, r₂) ← r₁.submit b
      return (Text.join ";\n" ([first, second].filter (· ≠ "")), r₂) := by
  have htext : (a ++ ";" ++ b).toList = a.toList ++ ';' :: b.toList := by
    simp [String.toList_append]
  rw [submit_eq_map, htext, Scan.statements_append_cut hcode, List.foldlM_append,
    submit_eq_map r a]
  cases hfirst : (Scan.statements a.toList).foldlM Staged.take ⟨r, []⟩ with
  | error e => rfl
  | ok s =>
      -- The second text goes on where the first one stopped.
      have hbehind : Staged.behind s.remaining ⟨s.registry, []⟩ = s := by
        simp [Staged.behind]
      have hsecond := foldlM_behind s.remaining (Scan.statements b.toList) ⟨s.registry, []⟩
      rw [hbehind] at hsecond
      have hs := h.noBlanks.staged hfirst
      show ((Scan.statements b.toList).foldlM Staged.take s).map (fun t => (t.text, t.registry))
        = s.registry.submit b >>= fun p =>
            return (Text.join ";\n" ([s.text, p.1].filter (· ≠ "")), p.2)
      rw [hsecond, submit_eq_map]
      cases hrest : (Scan.statements b.toList).foldlM Staged.take ⟨s.registry, []⟩ with
      | error e => rfl
      | ok t =>
          have ht := hs.registry.staged hrest
          show Except.ok ((t.behind s.remaining).text, t.registry) = _
          rw [text_behind (fun p hp => (hs.remaining p hp).ne_nil)
            fun p hp => (ht.remaining p hp).ne_nil]
          rfl

/-- A definition of the first text is in force in the second, which then redefines what it was
made of. -/
theorem submit_append_definition :
    Reachable ⟨[("t", "orders")]⟩
      ∧ Scan.run .code "SELECT ';'; x := ${t} /* ; */".toList = .code
      ∧ Registry.submit ⟨[("t", "orders")]⟩
          ("SELECT ';'; x := ${t} /* ; */" ++ ";" ++ "t := users; SELECT ${x} -- end")
        = .ok ("SELECT ';';\nSELECT orders /* ; */ -- end",
          ⟨[("t", "users"), ("x", "orders /* ; */")]⟩) := by
  have hreach : Reachable ⟨[("t", "orders")]⟩ :=
    .change .empty (.register "t" "orders") (by decide +kernel)
  have hcode : Scan.run .code "SELECT ';'; x := ${t} /* ; */".toList = .code := by decide +kernel
  refine ⟨hreach, hcode, ?_⟩
  rw [submit_append hreach _ hcode]
  decide +kernel

end Registry
end Stencil.Fragment
