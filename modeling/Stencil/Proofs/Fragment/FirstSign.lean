/-
Where definitions are cut.

A definition is cut at a sign that is looked for without an eye to quotations and comments,
and inside the first word the last one counts.  `byFirstSign?` cuts a statement at the first
sign that stands in code instead.  Both are taken apart along the first word: what stands in
the word is found there (`signAt_cases`), and what stands behind it has to follow the word
at once, blanks apart.  So the two are compared word by word (`read?_eq_byFirstSign?_iff`).
-/
import Stencil.Proofs.Fragment.Definition
import Stencil.Proofs.Fragment.Passage
import Stencil.Proofs.Fragment.Submission
import Stencil.Proofs.Text.Search

namespace Stencil.Fragment.Definition

open Text Scan

variable {text before behind statement : List Char}

/-! ### The first sign in code -/

/-- A sign stands in the text, in code, between two others. -/
def SignAt (text before behind : List Char) : Prop :=
  text = before ++ sign ++ behind ∧ run code before = code

/-- The text before and behind the first sign in code; `front` is what has been read already. -/
def firstSignFrom (front : List Char) : List Char → Option (List Char × List Char)
  | [] => none
  | c :: rest =>
    match if run code front = code then after? sign (c :: rest) else none with
    | some behind => some (front, behind)
    | none => firstSignFrom (front ++ [c]) rest

/-- The text before and behind the first sign in code. -/
def firstSign? (text : List Char) : Option (List Char × List Char) := firstSignFrom [] text

/-- The sign at a place is the first one in code. -/
structure FirstSign (text before behind : List Char) : Prop where
  here : SignAt text before behind
  first : ∀ before' behind', SignAt text before' behind' → before.length ≤ before'.length

theorem signAt_length (h : SignAt text before behind) :
    text.length = before.length + 2 + behind.length := by
  rw [h.1, List.length_append, List.length_append]
  rfl

/-- Two cuts at the same distance are the same. -/
theorem FirstSign.unique {before' behind' : List Char} (h : FirstSign text before behind)
    (h' : FirstSign text before' behind') : before = before' ∧ behind = behind' := by
  have hlen : before.length = before'.length :=
    Nat.le_antisymm (h.first _ _ h'.here) (h'.first _ _ h.here)
  have heq := h.here.1.symm.trans h'.here.1
  rw [List.append_assoc, List.append_assoc] at heq
  obtain ⟨hbefore, hrest⟩ := List.append_inj heq hlen
  exact ⟨hbefore, List.append_cancel_left hrest⟩

theorem firstSignFrom_eq_some {front : List Char}
    (h : firstSignFrom front text = some (before, behind)) :
    ∃ mid, before = front ++ mid ∧ text = mid ++ sign ++ behind ∧ run code before = code
      ∧ ∀ mid' behind', text = mid' ++ sign ++ behind' → run code (front ++ mid') = code →
        mid.length ≤ mid'.length := by
  induction text generalizing front with
  | nil => cases h
  | cons c rest ih =>
      rw [firstSignFrom] at h
      split at h
      · rename_i hfound
        obtain ⟨rfl, rfl⟩ := Prod.mk.inj (Option.some.inj h)
        split at hfound
        · rename_i hcode
          exact ⟨[], (List.append_nil front).symm, after?_eq_some_iff.mp hfound, hcode,
            fun _ _ _ _ => Nat.zero_le _⟩
        · cases hfound
      · rename_i hfound
        obtain ⟨mid, hbefore, hrest, hcode, hfirst⟩ := ih h
        refine ⟨c :: mid, by simp [hbefore], by simp [hrest], hcode, ?_⟩
        intro mid' behind' htext hrun
        cases mid' with
        | nil =>
            have hafter : after? sign (c :: rest) = some behind' := after?_eq_some_iff.mpr htext
            rw [List.append_nil] at hrun
            rw [if_pos hrun, hafter] at hfound
            cases hfound
        | cons d mid' =>
            obtain ⟨rfl, hback⟩ := List.cons.inj htext
            exact Nat.succ_le_succ (hfirst mid' behind' hback (by simpa using hrun))

theorem firstSignFrom_eq_none {front : List Char} (h : firstSignFrom front text = none)
    {mid behind : List Char} (htext : text = mid ++ sign ++ behind) :
    run code (front ++ mid) ≠ code := by
  induction text generalizing front mid with
  | nil => simp [sign] at htext
  | cons c rest ih =>
      rw [firstSignFrom] at h
      split at h
      · cases h
      · rename_i hfound
        cases mid with
        | nil =>
            intro hrun
            have hafter : after? sign (c :: rest) = some behind := after?_eq_some_iff.mpr htext
            rw [List.append_nil] at hrun
            rw [if_pos hrun, hafter] at hfound
            cases hfound
        | cons d mid =>
            obtain ⟨rfl, hback⟩ := List.cons.inj htext
            simpa using ih h hback

theorem firstSign?_eq_none_iff :
    firstSign? text = none ↔ ∀ before behind, ¬ SignAt text before behind := by
  constructor
  · intro h before behind hsign
    exact firstSignFrom_eq_none h hsign.1 hsign.2
  · intro h
    cases hfound : firstSign? text with
    | none => rfl
    | some found =>
        obtain ⟨mid, hbefore, htext, hcode, -⟩ := firstSignFrom_eq_some hfound
        exact absurd ⟨by rw [hbefore]; exact htext, hcode⟩ (h found.1 found.2)

theorem firstSign?_eq_some_iff :
    firstSign? text = some (before, behind) ↔ FirstSign text before behind := by
  have hspec {before behind : List Char} (h : firstSign? text = some (before, behind)) :
      FirstSign text before behind := by
    obtain ⟨mid, rfl, htext, hcode, hfirst⟩ := firstSignFrom_eq_some h
    exact ⟨⟨htext, hcode⟩, fun _ _ hsign => hfirst _ _ hsign.1 hsign.2⟩
  refine ⟨hspec, fun h => ?_⟩
  cases hfound : firstSign? text with
  | none => exact absurd h.here (firstSign?_eq_none_iff.mp hfound before behind)
  | some found =>
      obtain ⟨hbefore, hbehind⟩ := h.unique (hspec hfound)
      rw [hbefore, hbehind]

/-! ### The first word -/

/-- The characters in front of the first blank. -/
def firstWord (text : List Char) : List Char := text.takeWhile fun c => !isBlank c

/-- What follows the first word. -/
def behindWord (text : List Char) : List Char := text.dropWhile fun c => !isBlank c

/-- The blanks behind the first word. -/
def gap (text : List Char) : List Char := (behindWord text).takeWhile isBlank

theorem firstWord_append_behindWord (text : List Char) :
    firstWord text ++ behindWord text = text :=
  List.takeWhile_append_dropWhile

theorem isBlank_of_mem_firstWord {c : Char} (h : c ∈ firstWord text) : isBlank c = false := by
  simpa using List.mem_takeWhile_imp h

theorem isBlank_head_behindWord {c : Char} (h : c ∈ (behindWord text).head?) :
    isBlank c = true := by
  have hhead := List.head?_dropWhile_not (fun c => !isBlank c) text
  unfold behindWord at h
  rw [Option.mem_def.mp h] at hhead
  simpa using hhead

theorem isBlank_of_mem_gap {c : Char} (h : c ∈ gap text) : isBlank c = true :=
  List.mem_takeWhile_imp h

/-- A word with what follows it is taken apart again. -/
theorem firstWord_append {word rest : List Char} (hword : ∀ c ∈ word, isBlank c = false)
    (hrest : ∀ c ∈ rest.head?, isBlank c = true) :
    firstWord (word ++ rest) = word ∧ behindWord (word ++ rest) = rest := by
  have hall : ∀ c ∈ word, (!isBlank c) = true := fun c hc => by rw [hword c hc]; rfl
  unfold firstWord behindWord
  rw [List.takeWhile_append_of_pos hall, List.dropWhile_append_of_pos hall]
  cases rest with
  | nil => simp
  | cons c rest => simp [hrest c rfl]

/-- A word ends at the first blank behind it. -/
theorem firstWord_append_cons {word : List Char} (hword : ∀ c ∈ word, isBlank c = false) {b : Char}
    (hb : isBlank b = true) (rest : List Char) :
    firstWord (word ++ b :: rest) = word ∧ behindWord (word ++ b :: rest) = b :: rest := by
  refine firstWord_append hword fun c hc => ?_
  rw [List.head?_cons, Option.mem_some_iff] at hc
  rw [← hc]
  exact hb

/-- A sign stands in the first word, or behind it. -/
theorem signAt_cases (h : SignAt statement before behind) :
    (∃ rest, SignAt (firstWord statement) before rest ∧ behind = rest ++ behindWord statement)
      ∨ ∃ mid, before = firstWord statement ++ mid
        ∧ behindWord statement = mid ++ sign ++ behind := by
  obtain ⟨htext, hcode⟩ := h
  rw [← firstWord_append_behindWord statement, List.append_assoc] at htext
  rcases List.append_eq_append_iff.mp htext with ⟨mid, hbefore, hrest⟩ | ⟨tail, hword, hback⟩
  · exact .inr ⟨mid, hbefore, by rw [hrest, List.append_assoc]⟩
  · rcases tail with _ | ⟨c, _ | ⟨d, tail⟩⟩
    · refine .inr ⟨[], ?_, hback.symm⟩
      rw [hword, List.append_nil, List.append_nil]
    · -- The second character of the sign would be the first one behind the word.
      have hrest : '=' :: behind = behindWord statement := (List.cons.inj hback).2
      have hhead : (behindWord statement).head? = some '=' := by
        rw [← hrest]
        rfl
      have hblank := isBlank_head_behindWord hhead
      exact absurd hblank (by decide)
    · have hrest : ':' = c ∧ '=' = d ∧ behind = tail ++ behindWord statement := by
        simpa [sign] using hback
      obtain ⟨rfl, rfl, hbehind⟩ := hrest
      exact .inl ⟨tail, ⟨by rw [hword]; simp [sign], hcode⟩, hbehind⟩

theorem signAt_of_firstWord {rest : List Char} (h : SignAt (firstWord statement) before rest) :
    SignAt statement before (rest ++ behindWord statement) := by
  refine ⟨?_, h.2⟩
  conv_lhs => rw [← firstWord_append_behindWord statement, h.1]
  rw [List.append_assoc]

/-- The first sign of the word is the first sign of the statement. -/
theorem FirstSign.of_firstWord {rest : List Char}
    (h : FirstSign (firstWord statement) before rest) :
    FirstSign statement before (rest ++ behindWord statement) := by
  refine ⟨signAt_of_firstWord h.here, fun before' behind' hsign => ?_⟩
  rcases signAt_cases hsign with ⟨rest', hword, -⟩ | ⟨mid, rfl, -⟩
  · exact h.first before' rest' hword
  · have hle := signAt_length h.here
    rw [List.length_append]
    omega

/-! ### Cutting at the first sign -/

/-- Reads a statement as a definition that is cut at its first sign in code, if nothing but one
word and blanks behind it stand in front of the sign. -/
def byFirstSign? (statement : List Char) : Option Definition :=
  (firstSign? statement).bind fun (before, behind) =>
    if (behindWord before).all isBlank then some ⟨firstWord before, trimmed behind⟩ else none

theorem read?_eq (statement : List Char) :
    read? statement = match after? sign (dropBlanks (behindWord statement)) with
      | some value => some ⟨firstWord statement, trimmed value⟩
      | none => (lastSign? (firstWord statement)).map fun (name, behind) =>
          ⟨name, trimmed (behind ++ behindWord statement)⟩ := rfl

theorem byFirstSign?_of_word {name rest : List Char}
    (h : firstSign? (firstWord statement) = some (name, rest)) :
    byFirstSign? statement = some ⟨name, trimmed (rest ++ behindWord statement)⟩ := by
  have hfirst := firstSign?_eq_some_iff.mp h
  have hname : ∀ c ∈ name, isBlank c = false := by
    intro c hc
    have hmem : c ∈ firstWord statement := by
      rw [hfirst.here.1]
      simp [hc]
    exact isBlank_of_mem_firstWord hmem
  have hparts : firstWord name = name ∧ behindWord name = [] := by
    have happend : firstWord (name ++ []) = name ∧ behindWord (name ++ []) = [] :=
      firstWord_append hname fun _ h => nomatch h
    rwa [List.append_nil] at happend
  unfold byFirstSign?
  rw [firstSign?_eq_some_iff.mpr hfirst.of_firstWord, Option.bind_some]
  dsimp only
  rw [hparts.1, hparts.2]
  rfl

/-- The sign follows the word, blanks apart. -/
theorem after?_eq_some_iff_gap {value : List Char} :
    after? sign (dropBlanks (behindWord statement)) = some value
      ↔ behindWord statement = gap statement ++ sign ++ value := by
  rw [after?_eq_some_iff, List.append_assoc]
  constructor
  · intro h
    conv_lhs => rw [← List.takeWhile_append_dropWhile (p := isBlank) (l := behindWord statement)]
    exact congrArg (gap statement ++ ·) h
  · intro h
    have hsplit := List.takeWhile_append_dropWhile (p := isBlank) (l := behindWord statement)
    exact List.append_cancel_left (hsplit.trans h)

/-- A sign behind blanks only is the one that follows the word. -/
theorem eq_gap_of_blank {mid : List Char} (h : behindWord statement = mid ++ sign ++ behind)
    (hmid : ∀ c ∈ mid, isBlank c = true) : mid = gap statement := by
  unfold gap
  rw [h, List.append_assoc, List.takeWhile_append_of_pos hmid]
  show mid = mid ++ []
  rw [List.append_nil]

theorem byFirstSign?_of_no_word (h : firstSign? (firstWord statement) = none) :
    byFirstSign? statement
      = if run code (firstWord statement ++ gap statement) = code then
          (after? sign (dropBlanks (behindWord statement))).map fun value =>
            ⟨firstWord statement, trimmed value⟩
        else none := by
  -- A sign that follows the word is a sign of the statement.
  have hfollows {value : List Char}
      (hcode : run code (firstWord statement ++ gap statement) = code)
      (hvalue : after? sign (dropBlanks (behindWord statement)) = some value) :
      SignAt statement (firstWord statement ++ gap statement) value := by
    refine ⟨?_, hcode⟩
    conv_lhs =>
      rw [← firstWord_append_behindWord statement, after?_eq_some_iff_gap.mp hvalue]
    simp [List.append_assoc]
  unfold byFirstSign?
  cases hfirst : firstSign? statement with
  | none =>
      split
      · rename_i hcode
        cases hvalue : after? sign (dropBlanks (behindWord statement)) with
        | none => rfl
        | some value =>
            exact absurd (hfollows hcode hvalue) (firstSign?_eq_none_iff.mp hfirst _ _)
      · rfl
  | some found =>
      obtain ⟨before, behind⟩ := found
      have hsign := firstSign?_eq_some_iff.mp hfirst
      rcases signAt_cases hsign.here with ⟨rest, hword, -⟩ | ⟨mid, rfl, hmid⟩
      · exact absurd hword (firstSign?_eq_none_iff.mp h _ _)
      · have hhead : ∀ c ∈ mid.head?, isBlank c = true := by
          intro c hc
          have hmem : c ∈ (behindWord statement).head? := by
            rw [hmid]
            cases mid with
            | nil => cases hc
            | cons d mid => exact hc
          exact isBlank_head_behindWord hmem
        have hword : ∀ c ∈ firstWord statement, isBlank c = false :=
          fun _ => isBlank_of_mem_firstWord
        have hparts := firstWord_append hword hhead
        rw [Option.bind_some]
        dsimp only
        rw [hparts.1, hparts.2]
        by_cases hblank : mid.all isBlank = true
        · obtain rfl := eq_gap_of_blank hmid (List.all_eq_true.mp hblank)
          rw [if_pos hblank, if_pos hsign.here.2, after?_eq_some_iff_gap.mpr hmid]
          rfl
        · rw [if_neg hblank]
          split
          · rename_i hcode
            cases hvalue : after? sign (dropBlanks (behindWord statement)) with
            | none => rfl
            | some value =>
                -- The sign that follows the word would come first, and only blanks before it.
                have hle := hsign.first _ _ (hfollows hcode hvalue)
                rw [List.length_append, List.length_append, Nat.add_le_add_iff_left] at hle
                have hfollow := after?_eq_some_iff_gap.mp hvalue
                rw [hmid, List.append_assoc, List.append_assoc] at hfollow
                have hprefix : mid <+: gap statement :=
                  List.prefix_of_prefix_length_le ⟨_, hfollow⟩ ⟨_, rfl⟩ hle
                refine absurd (List.all_eq_true.mpr fun c hc => ?_) hblank
                exact isBlank_of_mem_gap (List.IsPrefix.subset hprefix hc)
          · rfl

/-! ### Both cuts compared -/

theorem lastSign?_eq_some (h : lastSign? text = some (before, behind)) :
    text = before ++ sign ++ behind := by
  induction text generalizing before with
  | nil => cases h
  | cons c rest ih =>
      rw [lastSign?] at h
      split at h
      · rename_i front back hrest
        obtain ⟨rfl, rfl⟩ := Prod.mk.inj (Option.some.inj h)
        rw [ih hrest]
        rfl
      · obtain ⟨value, hvalue, h⟩ := Option.map_eq_some_iff.mp h
        obtain ⟨rfl, rfl⟩ := Prod.mk.inj h
        exact after?_eq_some_iff.mp hvalue

/-- The sign is looked for in the right place: where it follows the first word, no sign in code
comes before it and it stands in code itself; in any other case the last sign of the word is the
first one in code. -/
def CutRight (statement : List Char) : Prop :=
  if (after? sign (dropBlanks (behindWord statement))).isSome then
    firstSign? (firstWord statement) = none ∧ run code (firstWord statement ++ gap statement) = code
  else firstSign? (firstWord statement) = lastSign? (firstWord statement)

instance (statement : List Char) : Decidable (CutRight statement) := by
  unfold CutRight
  infer_instance

/-- **A statement is read as a definition that is cut at its first sign in code if and only if the
sign is looked for in the right place.** -/
theorem read?_eq_byFirstSign?_iff (statement : List Char) :
    read? statement = byFirstSign? statement ↔ CutRight statement := by
  rw [read?_eq]
  unfold CutRight
  cases hvalue : after? sign (dropBlanks (behindWord statement)) with
  | some value =>
      rw [if_pos Option.isSome_some]
      cases hword : firstSign? (firstWord statement) with
      | some found =>
          obtain ⟨name, rest⟩ := found
          rw [byFirstSign?_of_word hword]
          refine ⟨fun h => ?_, fun h => nomatch h.1⟩
          -- The name would be shorter than the word.
          injection h with h
          injection h with hname
          have hlen := signAt_length (firstSign?_eq_some_iff.mp hword).here
          rw [hname] at hlen
          omega
      | none =>
          rw [byFirstSign?_of_no_word hword, hvalue]
          by_cases hcode : run code (firstWord statement ++ gap statement) = code
          · simp [hcode]
          · simp [hcode]
  | none =>
      rw [if_neg (by simp)]
      cases hword : firstSign? (firstWord statement) with
      | some found =>
          obtain ⟨name, rest⟩ := found
          rw [byFirstSign?_of_word hword]
          constructor
          · intro h
            obtain ⟨⟨name', rest'⟩, hlast, heq⟩ := Option.map_eq_some_iff.mp h
            injection heq with hname
            have htext := (firstSign?_eq_some_iff.mp hword).here.1
            rw [lastSign?_eq_some hlast, hname] at htext
            rw [hlast, hname, List.append_cancel_left htext]
          · intro h
            rw [← h]
            rfl
      | none =>
          rw [byFirstSign?_of_no_word hword, hvalue]
          cases lastSign? (firstWord statement) <;> simp

/-- A definition with a blank in front of its sign is cut right, whatever its value is, if its name
holds no sign and no character that means something to the reader. -/
theorem cutRight_of_gap {name blanks : List Char}
    (hname : ∀ c ∈ name, isBlank c = false ∧ plain c = true) (hsign : ¬ sign <:+: name)
    (hne : blanks ≠ []) (hblanks : ∀ c ∈ blanks, isBlank c = true) (value : List Char) :
    CutRight (name ++ (blanks ++ sign ++ value)) := by
  have hhead : ∀ c ∈ (blanks ++ sign ++ value).head?, isBlank c = true := by
    intro c hc
    cases blanks with
    | nil => exact absurd rfl hne
    | cons b blanks => exact hblanks c (by simpa [eq_comm] using Or.inl (Option.some.inj hc))
  obtain ⟨hword, hrest⟩ := firstWord_append (fun c hc => (hname c hc).1) hhead
  have hgap := eq_gap_of_blank hrest hblanks
  have hvalue : after? sign (dropBlanks (behindWord (name ++ (blanks ++ sign ++ value))))
      = some value := by
    rw [after?_eq_some_iff_gap, ← hgap]
    exact hrest
  unfold CutRight
  rw [if_pos (Option.isSome_of_eq_some hvalue), hword, ← hgap]
  refine ⟨firstSign?_eq_none_iff.mpr fun before behind h => ?_, run_plain fun c hc => ?_⟩
  · exact hsign ⟨before, behind, h.1.symm⟩
  · rcases List.mem_append.mp hc with hc | hc
    · exact (hname c hc).2
    · exact plain_of_isBlank (hblanks c hc)

/-- The last sign of a word counts, and one in a quotation does: a name is longer than it should
be, and a query is taken for a definition. -/
theorem read?_ne_byFirstSign? :
    Scan.statements "x:=a:=b".toList = ["x:=a:=b".toList]
      ∧ read? "x:=a:=b".toList = some ⟨"x:=a".toList, "b".toList⟩
      ∧ byFirstSign? "x:=a:=b".toList = some ⟨"x".toList, "a:=b".toList⟩
      ∧ Scan.statements "SELECT':=' FROM t".toList = ["SELECT':=' FROM t".toList]
      ∧ read? "SELECT':=' FROM t".toList = some ⟨"SELECT'".toList, "' FROM t".toList⟩
      ∧ byFirstSign? "SELECT':=' FROM t".toList = none := by
  decide +kernel

end Stencil.Fragment.Definition
