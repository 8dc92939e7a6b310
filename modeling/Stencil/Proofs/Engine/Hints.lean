/-
What completion offers.

A cursor parts a text into the word that ends there, what stands before the word and what
stands behind the cursor (`Cursor`).  What is behind makes no difference.  The hints are
those candidates that begin with the word, both in lower case, in ascending order.

A name begins with each of its fronts, but its lower case need not: a capital sigma at the
end of a front is final there, and inside the name it is not.  In every other case a name of
the default database is offered behind FROM and any of its fronts.
-/
import Mathlib.Data.List.DropRight
import Mathlib.Data.String.Basic
import Stencil.Proofs.Catalog.History
import Stencil.Proofs.Engine.Completion
import Stencil.Proofs.Text.Blank
import Stencil.Proofs.Text.Case

namespace Stencil

namespace Catalog

/-- The default database has an object of the name. -/
def HasObject (c : Catalog) (name : String) : Prop :=
  ∃ object, c.get? ⟨c.defaultCatalog, c.defaultDatabase, name⟩ = some object

end Catalog

namespace Completion

variable {c : Catalog} {text text' : String} {position position' : Nat}
  {before word after after' : List Char}

/-! ### The word at the cursor -/

/-- A cursor stands in a text behind `before` and `word`, and in front of `after`. -/
structure Cursor (text : String) (position : Nat) (before word after : List Char) : Prop where
  parts : text.toList = before ++ word ++ after
  /-- The cursor is where the position is, or at the start of the character it is inside of. -/
  place : Text.Fills position (before ++ word) after
  /-- The word is a run of word characters, -/
  run : ∀ c ∈ word, isWordChar c = true
  /-- and the longest one that ends at the cursor. -/
  longest : ∀ c ∈ before.getLast?, isWordChar c = false

theorem wordBefore_append (hrun : ∀ c ∈ word, isWordChar c = true)
    (hlongest : ∀ c ∈ before.getLast?, isWordChar c = false) :
    wordBefore (before ++ word) = (before, word) := by
  have hnone : before.reverse.takeWhile isWordChar = [] := by
    rw [← List.head?_reverse] at hlongest
    cases hreverse : before.reverse with
    | nil => rfl
    | cons c others =>
        rw [hreverse] at hlongest
        exact List.takeWhile_cons_of_neg (by simp [hlongest c rfl])
  have htake : (before ++ word).reverse.takeWhile isWordChar = word.reverse := by
    rw [List.reverse_append, List.takeWhile_append_of_pos (by simpa using hrun), hnone,
      List.append_nil]
  unfold wordBefore
  rw [htake, List.reverse_reverse]
  simp

theorem exists_cursor (text : String) (position : Nat) :
    ∃ before word after, Cursor text position before word after := by
  obtain ⟨after, hafter⟩ := Text.takeBytes_prefix position text.toList
  have hplace := Text.takeBytes_eq_iff.mp (congrArg (Text.takeBytes position) hafter)
  have hparts := List.rdropWhile_append_rtakeWhile (p := isWordChar)
    (l := Text.takeBytes position text.toList)
  refine ⟨_, _, after, ⟨by rw [hparts, hafter], by rwa [hparts], fun c hc => ?_, fun c hc => ?_⟩⟩
  · exact List.mem_rtakeWhile_imp hc
  · obtain ⟨hne, rfl⟩ := List.mem_getLast?_eq_getLast hc
    simpa using List.rdropWhile_last_not isWordChar _ hne

theorem Cursor.takeBytes (h : Cursor text position before word after) :
    Text.takeBytes position text.toList = before ++ word := by
  rw [h.parts]
  exact Text.takeBytes_eq_iff.mpr h.place

theorem Cursor.hints_eq (h : Cursor text position before word after) (c : Catalog) :
    hints c text position = ascending ((candidates c before).filter (begins word)) := by
  unfold hints
  rw [h.takeBytes, wordBefore_append h.run h.longest]

theorem begins_iff {hint : String} :
    begins word hint = true
      ↔ (Text.lower (String.ofList word)).toList <+: (Text.lower hint).toList :=
  List.isPrefixOf_iff_prefix

theorem Cursor.mem_hints (h : Cursor text position before word after) {hint : String} :
    hint ∈ hints c text position ↔ hint ∈ candidates c before
      ∧ (Text.lower (String.ofList word)).toList <+: (Text.lower hint).toList := by
  rw [h.hints_eq, mem_ascending, List.mem_filter, begins_iff]

theorem ascending_pairwise (texts : List String) : (ascending texts).Pairwise (· < ·) := by
  have hfold : ∀ (texts : List String) (done : Keyed String Unit), done.Ascending →
      (texts.foldl (fun done text => Keyed.put text () done) done).Ascending := by
    intro texts
    induction texts with
    | nil => exact fun _ h => h
    | cons text texts ih => exact fun done h => ih _ (h.put text ())
  unfold ascending Keyed.keys
  rw [List.pairwise_map]
  exact hfold texts [] List.Pairwise.nil

/-! ### Where tables are expected -/

/-- The last word asks for a table or a view, in any case of its letters. -/
def BehindTableKeyword (before : List Char) : Prop :=
  ∃ word keyword, Text.LastWord before word
    ∧ keyword ∈ ["FROM", "JOIN", "INTO", "TABLE", "UPDATE", "VIEW"]
    ∧ Text.sameIgnoringCase (String.ofList word) keyword = true

theorem asksForTable_of_keyword (h : BehindTableKeyword before) : asksForTable before = true := by
  obtain ⟨word, keyword, hlast, hkeyword, hsame⟩ := h
  have hcapitals : (tableContext.all fun keyword => keyword.toList.all Char.isUpper) = true := by
    decide +kernel
  have hupper := Text.upper_of_sameIgnoringCase
    (List.all_eq_true.mp (List.all_eq_true.mp hcapitals keyword hkeyword)) hsame
  unfold asksForTable
  rw [hlast.getLast?_words]
  show tableContext.contains (Text.upper (String.ofList word)) = true
  rw [hupper]
  exact List.elem_eq_true_of_mem hkeyword

/-! ### What is offered -/

/-- The start of a query up to a table that is named so far. -/
def queryOf (front : List Char) : String := "SELECT * FROM " ++ String.ofList front

theorem cursor_queryOf {front : List Char} (h : ∀ c ∈ front, isWordChar c = true) :
    Cursor (queryOf front) (Text.byteLength (queryOf front)) "SELECT * FROM ".toList front [] := by
  have hparts : (queryOf front).toList = "SELECT * FROM ".toList ++ front := by
    rw [queryOf, String.toList_append, String.toList_ofList (l := front)]
  have hblank : "SELECT * FROM ".toList.getLast? = some ' ' := by decide +kernel
  refine ⟨by rw [hparts, List.append_nil], ⟨?_, by simp⟩, h, fun c hc => ?_⟩
  · rw [← hparts, String.ofList_toList]
  · rw [hblank] at hc
    obtain rfl := Option.some.inj hc
    decide +kernel

theorem behindTableKeyword_from : BehindTableKeyword "SELECT * FROM ".toList := by
  have hword : ("FROM".toList.all fun c => !Text.isBlank c) = true := by decide +kernel
  have hgap : ([' '].all Text.isBlank) = true := by decide +kernel
  have hfront : "SELECT * ".toList.getLast? = some ' ' := by decide +kernel
  refine ⟨"FROM".toList, "FROM", ⟨"SELECT * ".toList, [' '], by decide +kernel, by decide,
    fun c hc => ?_, List.all_eq_true.mp hgap, fun c hc => ?_⟩, by decide, by decide +kernel⟩
  · simpa using List.all_eq_true.mp hword c hc
  · rw [hfront] at hc
    obtain rfl := Option.some.inj hc
    exact List.all_eq_true.mp hgap ' ' List.mem_cons_self

theorem mem_hints_queryOf {name : String} {front rest : List Char} (hname : c.HasObject name)
    (hword : ∀ d ∈ name.toList, isWordChar d = true) (hparts : name.toList = front ++ rest) :
    name ∈ hints c (queryOf front) (Text.byteLength (queryOf front))
      ↔ ¬ Text.SigmaGoesOn front rest := by
  have hfront : ∀ d ∈ front, isWordChar d = true := fun d hd =>
    hword d (hparts ▸ List.mem_append_left _ hd)
  have hcandidate : name ∈ candidates c "SELECT * FROM ".toList := by
    rw [candidates, if_pos (asksForTable_of_keyword behindTableKeyword_from)]
    exact Catalog.mem_objectNames.mpr hname
  rw [(cursor_queryOf hfront).mem_hints, and_iff_right hcandidate, ← Text.lower_prefix_iff,
    ← hparts, String.ofList_toList]

/--
**Hints extend the word at the cursor.**  They ascend, and they are those candidates that begin
with the word, both in lower case.  The text behind the cursor makes no difference.  Behind a word
that asks for a table only objects of the default database are offered.  Of these, one with a name
of word characters is offered behind FROM and a front of its name, if and only if the front does
not end in a capital sigma that goes on.
-/
theorem hints_extend_word (c : Catalog) :
    (∀ text position, (hints c text position).Pairwise (· < ·)
        ∧ ∃ before word after, Cursor text position before word after
          ∧ (∀ hint, hint ∈ hints c text position ↔ hint ∈ candidates c before
              ∧ (Text.lower (String.ofList word)).toList <+: (Text.lower hint).toList)
          ∧ (∀ text' position' after', Cursor text' position' before word after' →
              hints c text' position' = hints c text position)
          ∧ (BehindTableKeyword before → ∀ hint ∈ hints c text position, c.HasObject hint))
      ∧ ∀ name, c.HasObject name → (∀ d ∈ name.toList, isWordChar d = true) →
          ∀ front rest, name.toList = front ++ rest →
            (name ∈ hints c (queryOf front) (Text.byteLength (queryOf front))
              ↔ ¬ Text.SigmaGoesOn front rest) := by
  refine ⟨fun text position => ?_, fun name hname hword front rest hparts =>
    mem_hints_queryOf hname hword hparts⟩
  obtain ⟨before, word, after, hcursor⟩ := exists_cursor text position
  refine ⟨?_, before, word, after, hcursor, fun hint => hcursor.mem_hints,
    fun text' position' after' hcursor' => ?_, fun hkeyword hint hhint => ?_⟩
  · rw [hcursor.hints_eq]
    exact ascending_pairwise _
  · rw [hcursor'.hints_eq, hcursor.hints_eq]
  · have hcandidate := (hcursor.mem_hints.mp hhint).1
    rw [candidates, if_pos (asksForTable_of_keyword hkeyword)] at hcandidate
    exact Catalog.mem_objectNames.mp hcandidate

/-- A sigma that ends the whole name is final in it as well. -/
theorem hints_extend_word_final_sigma :
    "ΟΔΟΣ" ∈ hints (oneObject "ΟΔΟΣ") (queryOf "ΟΔΟΣ".toList)
      (Text.byteLength (queryOf "ΟΔΟΣ".toList)) := by
  refine ((hints_extend_word (oneObject "ΟΔΟΣ")).2 "ΟΔΟΣ" ⟨_, rfl⟩
    (List.all_eq_true.mp (by decide +kernel)) "ΟΔΟΣ".toList [] (List.append_nil _).symm).mpr ?_
  rintro ⟨word, skipped, -, -, -, hrest⟩
  cases hrest

/-- The front `ΑΣ` of the name `ΑΣΑ` is lowered to `ας`, with the final form of the letter, and
the name to `ασα`.  Behind a shorter front and behind the whole name the table is offered. -/
theorem hints_miss_inner_sigma :
    (oneObject "ΑΣΑ").HasObject "ΑΣΑ" ∧ (∀ d ∈ "ΑΣΑ".toList, isWordChar d = true)
      ∧ "ΑΣΑ".toList = "ΑΣ".toList ++ "Α".toList
      ∧ hints (oneObject "ΑΣΑ") "SELECT * FROM Α" 16 = ["ΑΣΑ"]
      ∧ hints (oneObject "ΑΣΑ") "SELECT * FROM ΑΣ" 18 = []
      ∧ hints (oneObject "ΑΣΑ") "SELECT * FROM ΑΣΑ" 20 = ["ΑΣΑ"] := by
  refine ⟨⟨_, rfl⟩, List.all_eq_true.mp (by decide +kernel), ?_⟩
  decide +kernel

end Completion
end Stencil
