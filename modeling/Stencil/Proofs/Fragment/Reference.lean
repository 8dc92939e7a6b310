/-
What replacing references keeps.

Reading a text into parts loses nothing: the parts as they were written are the text
again.  So a character that is not blank is either kept or belongs to a reference
that is replaced, and if no value is blank, a text that is not blank never becomes
so.

What a text expands to depends on the values of the names in its references and on no
others (`expand_congr`).

A reference begins with a dollar sign and an opening brace.  A text without the two
of them side by side is read as its characters, whatever fragments are in force, so
replacing references leaves it as it is.
-/
import Mathlib.Data.List.Infix
import Stencil.Fragment.Reference
import Stencil.Proofs.Text.Blank

namespace Stencil.Fragment

/-- The two characters that begin a reference. -/
def opening : List Char := ['$', '\x7b']

/-- The two characters that begin a reference stand side by side nowhere in the text. -/
def Plain (text : List Char) : Prop := ¬ opening <:+: text

instance (text : List Char) : Decidable (Plain text) :=
  inferInstanceAs (Decidable (¬ opening <:+: text))

theorem Plain.of_isInfix {a b : List Char} (hb : Plain b) (h : a <:+: b) : Plain a :=
  fun ha => hb (ha.trans h)

theorem Plain.tail {c : Char} {rest : List Char} (h : Plain (c :: rest)) : Plain rest :=
  h.of_isInfix (List.suffix_cons c rest).isInfix

namespace Part

theorem opening_prefix_of_name? {text name : List Char} (h : name? text = some name) :
    opening <+: text := by
  unfold name? at h
  split at h
  · rename_i c rest
    exact ⟨c :: rest, rfl⟩
  · exact absurd h (by simp)

/-! ### Reading and writing -/

theorem closing?_eq_some {text name : List Char} (h : closing? text = some name) :
    ∃ rest, text = name ++ '\x7d' :: rest := by
  induction text generalizing name with
  | nil => cases h
  | cons c text ih =>
      rw [closing?] at h
      split at h
      · rename_i hc
        rw [← Option.some.inj h, beq_iff_eq.mp hc]
        exact ⟨text, rfl⟩
      · split at h
        · cases h
        · obtain ⟨front, hfront, rfl⟩ := Option.map_eq_some_iff.mp h
          obtain ⟨rest, rfl⟩ := ih hfront
          exact ⟨rest, rfl⟩

/-- A text that begins with a reference begins with the reference as it is written. -/
theorem name?_eq_some {text name : List Char} (h : name? text = some name) :
    ∃ rest, text = written (reference name) ++ rest := by
  unfold name? at h
  split at h
  · split at h
    · cases h
    · obtain ⟨front, hfront, rfl⟩ := Option.map_eq_some_iff.mp h
      obtain ⟨rest, rfl⟩ := closing?_eq_some hfront
      exact ⟨rest, by simp [written]⟩
  · cases h

theorem written_readFrom (skip : Nat) (text : List Char) :
    (readFrom skip text).flatMap written = text.drop skip := by
  induction text generalizing skip with
  | nil => simp [readFrom]
  | cons c rest ih =>
      cases skip with
      | succ skip => exact ih skip
      | zero =>
          rw [readFrom]
          cases hname : name? (c :: rest) with
          | none =>
              simp only [List.flatMap_cons, ih]
              rfl
          | some name =>
              simp only [List.flatMap_cons, ih]
              obtain ⟨behind, heq⟩ := name?_eq_some hname
              have hlen : (written (reference name)).length = name.length + 3 := by
                simp [written]
              have hdrop : rest.drop (name.length + 2) = behind := by
                have := congrArg (List.drop (name.length + 3)) heq
                rwa [← hlen, List.drop_left, hlen, List.drop_succ_cons] at this
              rw [hdrop, ← heq]
              rfl

/-- **The parts of a text, as they were written, are the text.** -/
theorem written_read (text : List Char) : (read text).flatMap written = text :=
  written_readFrom 0 text

/-! ### A cursor between two parts -/

theorem closing?_append {text name : List Char} (h : closing? text = some name)
    (behind : List Char) : closing? (text ++ behind) = some name := by
  induction text generalizing name with
  | nil => cases h
  | cons c text ih =>
      rw [List.cons_append, closing?]
      rw [closing?] at h
      split
      · rwa [if_pos ‹_›] at h
      · rw [if_neg ‹_›] at h
        split
        · rwa [if_pos ‹_›] at h
        · rw [if_neg ‹_›] at h
          obtain ⟨front, hfront, rfl⟩ := Option.map_eq_some_iff.mp h
          rw [ih hfront]
          rfl

/-- Only the name up to its brace matters. -/
theorem closing?_written {text name : List Char} (h : closing? text = some name)
    (behind : List Char) : closing? (name ++ '\x7d' :: behind) = some name := by
  induction text generalizing name with
  | nil => cases h
  | cons c text ih =>
      rw [closing?] at h
      split at h
      · cases h
        rfl
      · split at h
        · cases h
        · obtain ⟨front, hfront, rfl⟩ := Option.map_eq_some_iff.mp h
          rw [List.cons_append, closing?, if_neg ‹_›, if_neg ‹_›, ih hfront]
          rfl

/-- A reference stays one whatever stands behind it. -/
theorem name?_append {text name : List Char} (h : name? text = some name) (behind : List Char) :
    name? (text ++ behind) = some name := by
  unfold name? at h
  split at h
  · split at h
    · cases h
    · obtain ⟨front, hfront, rfl⟩ := Option.map_eq_some_iff.mp h
      show (if _ then none else (closing? (_ ++ behind)).map _) = _
      rw [if_neg ‹_›, closing?_append hfront]
      rfl
  · cases h

theorem name?_written {text name : List Char} (h : name? text = some name) (behind : List Char) :
    name? (written (reference name) ++ behind) = some name := by
  unfold name? at h
  split at h
  · split at h
    · cases h
    · obtain ⟨front, hfront, rfl⟩ := Option.map_eq_some_iff.mp h
      have hclosing := closing?_written hfront behind
      simp only [written, List.cons_append, List.nil_append, List.append_assoc, name?]
      rw [if_neg ‹_›, hclosing]
      rfl
  · cases h

theorem readFrom_drop (skip : Nat) (text : List Char) :
    readFrom skip text = read (text.drop skip) := by
  induction text generalizing skip with
  | nil =>
      rw [List.drop_nil]
      rfl
  | cons c rest ih =>
      cases skip with
      | zero => rfl
      | succ skip => exact ih skip

theorem read_cons_of_none {c : Char} {rest : List Char} (h : name? (c :: rest) = none) :
    read (c :: rest) = plain c :: read rest := by
  unfold read
  rw [readFrom]
  simp only [h]

theorem read_cons_of_some {c : Char} {rest name : List Char}
    (h : name? (c :: rest) = some name) :
    read (c :: rest) = reference name :: read (rest.drop (name.length + 2)) := by
  unfold read
  rw [readFrom]
  simp only [h]
  rw [readFrom_drop]
  rfl

theorem read_written {name behind : List Char}
    (h : name? (written (reference name) ++ behind) = some name) :
    read (written (reference name) ++ behind) = reference name :: read behind := by
  have hwritten : written (reference name) ++ behind
      = '$' :: ('\x7b' :: (name ++ '\x7d' :: behind)) := by simp [written]
  have hdrop : ('\x7b' :: (name ++ '\x7d' :: behind)).drop (name.length + 2) = behind := by
    simp [List.drop_append]
  rw [hwritten] at h ⊢
  rw [read_cons_of_some h, hdrop]

/-- What stands behind a cursor between two parts may be cut off anywhere: the parts before the
cursor stay the same. -/
theorem read_append {ps qs : List Part} {b rest : List Char}
    (h : read (ps.flatMap written ++ (b ++ rest)) = ps ++ qs) :
    read (ps.flatMap written ++ b) = ps ++ read b := by
  induction ps with
  | nil => rfl
  | cons p ps ih =>
      rw [List.flatMap_cons, List.append_assoc] at h ⊢
      generalize hbehind : ps.flatMap written ++ (b ++ rest) = behind at h ih
      have hshort : ps.flatMap written ++ b ++ rest = behind := by
        rw [← hbehind, List.append_assoc]
      cases p with
      | plain c =>
          have hnone : name? (c :: behind) = none := by
            by_contra hsome
            obtain ⟨name, hname⟩ := Option.ne_none_iff_exists'.mp hsome
            rw [show written (plain c) ++ behind = c :: behind from rfl,
              read_cons_of_some hname] at h
            cases h
          have hnone' : name? (c :: (ps.flatMap written ++ b)) = none := by
            by_contra hsome
            obtain ⟨name, hname⟩ := Option.ne_none_iff_exists'.mp hsome
            have := name?_append hname rest
            rw [List.cons_append, hshort, hnone] at this
            cases this
          rw [show written (plain c) ++ behind = c :: behind from rfl, read_cons_of_none hnone] at h
          rw [show written (plain c) ++ (ps.flatMap written ++ b)
              = c :: (ps.flatMap written ++ b) from rfl, read_cons_of_none hnone',
            ih (List.cons.inj h).2]
          rfl
      | reference name =>
          have hname : name? (written (reference name) ++ behind) = some name := by
            cases hfound : name? (written (reference name) ++ behind) with
            | none =>
                have := read_cons_of_none (c := '$') hfound
                exact absurd (h.symm.trans this) (by simp)
            | some found =>
                have := read_cons_of_some (c := '$') hfound
                exact congrArg some (reference.inj (List.cons.inj (h.symm.trans this)).1).symm
          rw [read_written hname] at h
          rw [read_written (name?_written hname _), ih (List.cons.inj h).2]
          rfl

/-! ### Texts that are not blank -/

/-- A part that is not blank is replaced by something that is not blank, if no value is blank. -/
theorem visible_image {value? : List Char → Option (List Char)}
    (hvalues : ∀ name value, value? name = some value → Text.Visible value)
    {p : Part} (h : Text.Visible p.written) : Text.Visible (p.image value?) := by
  cases p with
  | plain c => exact h
  | reference name =>
      rw [image]
      cases hvalue : value? name with
      | none => exact h
      | some value => exact hvalues name value hvalue

/-! ### Texts without references -/

/-- A plain text is read as its characters. -/
theorem read_of_plain {text : List Char} (h : Plain text) : read text = text.map plain := by
  unfold read
  induction text with
  | nil => rfl
  | cons c rest ih =>
      cases hname : name? (c :: rest) with
      | some name => exact absurd (opening_prefix_of_name? hname).isInfix h
      | none =>
          rw [readFrom]
          simp only [hname]
          rw [ih h.tail]
          rfl

end Part

/-- **Replacing references by values that are not blank leaves no blank text.** -/
theorem visible_expand {value? : List Char → Option (List Char)}
    (hvalues : ∀ name value, value? name = some value → Text.Visible value)
    {text : List Char} (h : Text.Visible text) : Text.Visible (expand value? text) := by
  obtain ⟨c, hc, hvisible⟩ := h
  rw [← Part.written_read text, List.mem_flatMap] at hc
  obtain ⟨p, hp, hc⟩ := hc
  obtain ⟨d, hd, hvisible⟩ := Part.visible_image hvalues ⟨c, hc, hvisible⟩
  exact ⟨d, List.mem_flatMap.mpr ⟨p, hp, hd⟩, hvisible⟩

/-- A text may be expanded on either side of a cursor between two parts. -/
theorem expand_append {value? : List Char → Option (List Char)} {ps qs : List Part}
    {b rest : List Char}
    (h : Part.read (ps.flatMap Part.written ++ (b ++ rest)) = ps ++ qs) :
    expand value? (ps.flatMap Part.written ++ b)
      = expand value? (ps.flatMap Part.written) ++ expand value? b := by
  have hfront := Part.read_append (b := []) h
  rw [List.append_nil, show Part.read [] = [] from rfl, List.append_nil] at hfront
  unfold expand
  rw [Part.read_append h, hfront, List.flatMap_append]

/-- **Only the references in a text matter for what it expands to.** -/
theorem expand_congr {value? value?' : List Char → Option (List Char)} {text : List Char}
    (h : ∀ name, .reference name ∈ Part.read text → value? name = value?' name) :
    expand value? text = expand value?' text := by
  unfold expand
  refine List.flatMap_congr fun p hp => ?_
  cases p with
  | plain c => rfl
  | reference name => rw [Part.image, Part.image, h name hp]

theorem expand_of_plain (value? : List Char → Option (List Char)) {text : List Char}
    (h : Plain text) : expand value? text = text := by
  unfold expand
  rw [Part.read_of_plain h, List.flatMap_map]
  exact List.flatMap_singleton' text

end Stencil.Fragment
