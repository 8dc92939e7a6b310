/-
How descriptions of operators are written.

Every description begins with a capital letter and ends in a parenthesis, and a physical one
always has an attribute.  So details are put into its text without looking at the operator:
the changes in front of the last character, the estimate behind it (`detailed_eq_annotated`).
They can be taken out again as well, because neither detail holds the sign that it begins
with a second time (`written_of_detailed`).
-/
import Mathlib.Data.List.Infix
import Stencil.Plan.Description
import Stencil.Proofs.Json.RoundTrip

namespace Stencil

namespace Decimal

/-! ### Numbers in scientific notation -/

/-- A character of a number, of the sign in front of it or of a word in its place. -/
def IsNumeral (c : Char) : Prop := c.isAlphanum = true ∨ c = '.' ∨ c = '-'

instance (c : Char) : Decidable (IsNumeral c) :=
  inferInstanceAs (Decidable (c.isAlphanum = true ∨ c = '.' ∨ c = '-'))

theorem IsNumeral.ne {c d : Char} (h : IsNumeral c) (hd : ¬ IsNumeral d) : c ≠ d := by
  rintro rfl
  exact hd h

theorem isNumeral_of_digits {n : Nat} {c : Char} (hc : c ∈ Nat.toDigits 10 n) : IsNumeral c := by
  have hdigit := Nat.isDigit_of_mem_toDigits (by decide) (by decide) hc
  exact .inl (by simp [Char.isAlphanum, hdigit])

theorem isNumeral_of_nat {n : Nat} {c : Char} (hc : c ∈ (toString n).toList) : IsNumeral c := by
  rw [Nat.toString_eq_repr, Nat.toList_repr] at hc
  exact isNumeral_of_digits hc

theorem isNumeral_of_int {i : Int} {c : Char} (hc : c ∈ (toString i).toList) : IsNumeral c := by
  rw [Json.toList_toString_int] at hc
  split at hc
  · exact isNumeral_of_digits hc
  · rcases List.mem_cons.mp hc with rfl | hc
    · exact .inr (.inr rfl)
    · exact isNumeral_of_digits hc

theorem isNumeral_of_scientific {x : Binary64} {c : Char} (hc : c ∈ x.scientific.toList) :
    IsNumeral c := by
  have htext : ∀ (digits : Nat) (power : Int),
      ∀ c ∈ (toString (digits / 10) ++ "." ++ toString (digits % 10) ++ "E"
        ++ toString power).toList, IsNumeral c := by
    intro digits power c hc
    simp only [String.toList_append, List.mem_append] at hc
    rcases hc with (((hc | hc) | hc) | hc) | hc
    · exact isNumeral_of_nat hc
    · exact .inr (.inl (List.mem_singleton.mp hc))
    · exact isNumeral_of_nat hc
    · rw [List.mem_singleton.mp hc]
      exact .inl rfl
    · exact isNumeral_of_int hc
  cases x with
  | nan =>
      have hword : ("NaN".toList.all fun c => IsNumeral c) = true := by decide +kernel
      exact of_decide_eq_true (List.all_eq_true.mp hword c hc)
  | infinite negative =>
      have hword : ("-inf".toList.all fun c => IsNumeral c) = true := by decide +kernel
      have hall := fun c hc => of_decide_eq_true (List.all_eq_true.mp hword c hc)
      cases negative with
      | false => exact hall c (List.mem_cons_of_mem '-' hc)
      | true => exact hall c hc
  | finite negative m e =>
      unfold Binary64.scientific at hc
      simp only at hc
      split at hc
      · rw [String.toList_append, List.mem_append] at hc
        rcases hc with hc | hc
        · exact .inr (.inr (List.mem_singleton.mp hc))
        · exact htext _ _ c hc
      · exact htext _ _ c hc

end Decimal

namespace Plan

variable {p q : Plan} {details : List Detail}

/-! ### Texts of descriptions -/

namespace Description

/-- The head begins with a capital letter. -/
def Capitalized (d : Description) : Prop := d.head.toList.head?.any Char.isUpper = true

theorem toList_written (d : Description) :
    d.written.toList
      = d.head.toList ++ '(' :: (writtenAttributes d.attributes).toList ++ [')'] := by
  simp [written]

theorem getLast?_written (d : Description) : d.written.toList.getLast? = some ')' := by
  rw [toList_written, List.getLast?_concat]

theorem Capitalized.written {d : Description} (h : d.Capitalized) :
    ∃ c rest, d.written.toList = c :: rest ∧ c.isUpper = true := by
  unfold Capitalized at h
  rw [toList_written]
  cases hhead : d.head.toList with
  | nil =>
      rw [hhead] at h
      cases h
  | cons c rest =>
      rw [hhead] at h
      exact ⟨c, _, rfl, h⟩

theorem writtenAttributes_append {attributes : List (String × String)} (h : attributes ≠ [])
    (name value : String) :
    writtenAttributes (attributes ++ [(name, value)])
      = writtenAttributes attributes ++ ", " ++ (name ++ "=[" ++ value ++ "]") := by
  unfold writtenAttributes Text.join
  rw [List.map_append, String.intercalate_append_of_ne_nil (by simpa using h) (by simp)]
  rfl

/-- One more attribute goes in front of the last character, if there are others. -/
theorem written_add {d : Description} (h : d.attributes ≠ []) (name value : String) :
    (d.add name value).written
      = String.ofList d.written.toList.dropLast ++ ", " ++ name ++ "=[" ++ value ++ "])" := by
  have hinner : d.written.toList.dropLast
      = d.head.toList ++ '(' :: (writtenAttributes d.attributes).toList := by
    rw [toList_written, List.dropLast_concat]
  rw [hinner, ← String.toList_inj, toList_written]
  simp [add, writtenAttributes_append h]

end Description

/-- The heads of all descriptions. -/
def heads : List String :=
  ["LogicalSink", "LogicalProject", "LogicalFilter", "LogicalAggregate", "LogicalJoin",
   "LogicalUnion", "LogicalIntersect", "LogicalMinus", "LogicalSort", "LogicalValues",
   "LogicalTableScan", "Sink", "Calc", "GroupAggregate", "Join", "Union", "Intersect", "Minus",
   "Limit", "SortLimit", "Sort", "Values", "TableSourceScan"]

theorem capitalized_of_mem_heads {d : Description} (h : d.head ∈ heads) : d.Capitalized := by
  have hheads : (heads.all fun head => head.toList.head?.any Char.isUpper) = true := by
    decide +kernel
  exact List.all_eq_true.mp hheads d.head h

theorem head_logical (p : Plan) : p.logical.head ∈ heads := by
  unfold logical
  cases p.operator with
  | combine how all => cases how <;> simp [Operator.logical, Combination.name, heads]
  | _ => simp [Operator.logical, heads]

theorem head_physical (p : Plan) : p.physical.head ∈ heads := by
  unfold physical
  cases p.operator with
  | combine how all => cases how <;> simp [Operator.physical, Combination.name, heads]
  | sort keys offset limit => cases keys <;> cases limit <;> simp [Operator.physical, heads]
  | _ => simp [Operator.physical, heads]

theorem attributes_physical (p : Plan) : p.physical.attributes ≠ [] := by
  unfold physical
  cases p.operator with
  | sort keys offset limit => cases keys <;> cases limit <;> exact List.cons_ne_nil _ _
  | aggregate keys calls => cases keys <;> exact List.cons_ne_nil _ _
  | _ => exact List.cons_ne_nil _ _

theorem capitalized_logical (p : Plan) : p.logical.Capitalized :=
  capitalized_of_mem_heads (head_logical p)

theorem capitalized_physical (p : Plan) : p.physical.Capitalized :=
  capitalized_of_mem_heads (head_physical p)

/-! ### Details put into a text -/

/-- The text with the changes as an attribute in front of its last character. -/
def withChanges (changes text : String) : String :=
  String.ofList text.toList.dropLast ++ ", changelogMode=[" ++ changes ++ "])"

/-- The text with an estimate at its end. -/
def withEstimate (rows cost : Decimal.Binary64) (text : String) : String :=
  text ++ ": rowcount = " ++ rows.scientific ++ ", cumulative cost = \x7b" ++ cost.scientific
    ++ " rows\x7d"

/-- The text with the details asked for. -/
def annotated (details : List Detail) (changes : String) (rows cost : Decimal.Binary64)
    (text : String) : String :=
  let text := if .changelogMode ∈ details then withChanges changes text else text
  if .estimatedCost ∈ details then withEstimate rows cost text else text

theorem written_add_changes (p : Plan) :
    (p.physical.add "changelogMode" p.changes).written
      = withChanges p.changes p.physical.written := by
  have hname : ", " ++ ("changelogMode" ++ ("=[" ++ (p.changes ++ "])")))
      = ", changelogMode=[" ++ (p.changes ++ "])") := by
    simp only [← String.append_assoc]
    rfl
  rw [Description.written_add (attributes_physical p), withChanges]
  simp only [String.append_assoc, hname]

/-- Details change the text of a description in the same way for all operators. -/
theorem detailed_eq_annotated (details : List Detail) (p : Plan) :
    p.detailed details = annotated details p.changes p.rows p.cost p.physical.written := by
  have hestimate : ∀ text : String, text ++ p.estimate = withEstimate p.rows p.cost text := by
    intro text
    simp only [estimate, withEstimate, String.append_assoc]
  unfold detailed annotated
  simp only [List.contains_iff_mem, ← hestimate, ← written_add_changes]
  split <;> split
  · rfl
  · exact String.append_empty
  · rfl
  · exact String.append_empty

/-! ### Details taken out of a text -/

/-- Texts are the same in front of the last occurrence of a sign. -/
theorem append_cons_inj_of_last {α : Type} {a : α} {x x' z z' : List α} (hz : a ∉ z) (hz' : a ∉ z')
    (h : x ++ a :: z = x' ++ a :: z') : x = x' := by
  rcases List.append_eq_append_iff.mp h with ⟨y, rfl, hy⟩ | ⟨y, rfl, hy⟩
  · cases y with
    | nil => exact (List.append_nil _).symm
    | cons b y =>
        obtain ⟨rfl, rfl⟩ := List.cons.inj hy
        exact absurd (List.mem_append_right _ List.mem_cons_self) hz
  · cases y with
    | nil => exact List.append_nil _
    | cons b y =>
        obtain ⟨rfl, rfl⟩ := List.cons.inj hy
        exact absurd (List.mem_append_right _ List.mem_cons_self) hz'

theorem changes_cases (p : Plan) : p.changes = "I" ∨ p.changes = "I,UB,UA" := by
  unfold changes
  split
  · exact .inr rfl
  · exact .inl rfl

/-- Neither a bracket nor the end of a line is among the changes. -/
theorem notMem_changes (p : Plan) : '[' ∉ p.changes.toList ∧ '\n' ∉ p.changes.toList := by
  rcases changes_cases p with h | h <;> rw [h] <;> decide +kernel

theorem withChanges_inj {text text' : String} (htext : text.toList.getLast? = some ')')
    (htext' : text'.toList.getLast? = some ')')
    (h : withChanges p.changes text = withChanges q.changes text') : text = text' := by
  have hbracket : ∀ n : Plan, '[' ∉ n.changes.toList ++ [']', ')'] := by
    intro n
    simp [(notMem_changes n).1]
  have hlist : ∀ (n : Plan) (t : String), (withChanges n.changes t).toList
      = (t.toList.dropLast ++ ", changelogMode=".toList)
        ++ '[' :: (n.changes.toList ++ [']', ')']) := by
    intro n t
    simp [withChanges]
  have hfront := congrArg String.toList h
  rw [hlist, hlist] at hfront
  have hinner := List.append_cancel_right
    (append_cons_inj_of_last (hbracket p) (hbracket q) hfront)
  rw [← String.toList_inj, ← List.dropLast_append_getLast? _ htext,
    ← List.dropLast_append_getLast? _ htext', hinner]

/-- An estimate has one colon, in front, and no end of a line. -/
theorem toList_withEstimate (rows cost : Decimal.Binary64) (text : String) :
    ∃ rest, (withEstimate rows cost text).toList = text.toList ++ ':' :: rest ∧ ':' ∉ rest
      ∧ '\n' ∉ rest := by
  have hrest : ∀ c, ¬ Decimal.IsNumeral c →
      c ∉ " rowcount = ".toList ++ ", cumulative cost = \x7b".toList ++ " rows\x7d".toList →
      c ∉ " rowcount = ".toList ++ rows.scientific.toList ++ ", cumulative cost = \x7b".toList
        ++ cost.scientific.toList ++ " rows\x7d".toList := by
    intro c hc htexts hmem
    simp only [List.mem_append, not_or] at htexts hmem
    obtain ⟨⟨hfirst, hsecond⟩, hthird⟩ := htexts
    rcases hmem with (((h | h) | h) | h) | h
    · exact hfirst h
    · exact (Decimal.isNumeral_of_scientific h).ne hc rfl
    · exact hsecond h
    · exact (Decimal.isNumeral_of_scientific h).ne hc rfl
    · exact hthird h
  refine ⟨_, ?_, hrest ':' (by decide) (by decide +kernel),
    hrest '\n' (by decide) (by decide +kernel)⟩
  simp [withEstimate]

theorem withEstimate_inj {rows cost rows' cost' : Decimal.Binary64} {text text' : String}
    (h : withEstimate rows cost text = withEstimate rows' cost' text') : text = text' := by
  obtain ⟨rest, htext, hrest, -⟩ := toList_withEstimate rows cost text
  obtain ⟨rest', htext', hrest', -⟩ := toList_withEstimate rows' cost' text'
  have hlist := congrArg String.toList h
  rw [htext, htext'] at hlist
  exact String.toList_inj.mp (append_cons_inj_of_last hrest hrest' hlist)

/-- **The description can be read off the text with details.** -/
theorem written_of_detailed (h : p.detailed details = q.detailed details) :
    p.physical.written = q.physical.written := by
  rw [detailed_eq_annotated, detailed_eq_annotated] at h
  unfold annotated at h
  have hbody : (if .changelogMode ∈ details then withChanges p.changes p.physical.written
        else p.physical.written)
      = if .changelogMode ∈ details then withChanges q.changes q.physical.written
        else q.physical.written := by
    by_cases hestimate : Detail.estimatedCost ∈ details
    · simp only [if_pos hestimate] at h
      exact withEstimate_inj h
    · simpa only [if_neg hestimate] using h
  by_cases hchanges : Detail.changelogMode ∈ details
  · rw [if_pos hchanges, if_pos hchanges] at hbody
    exact withChanges_inj (Description.getLast?_written _) (Description.getLast?_written _) hbody
  · rwa [if_neg hchanges, if_neg hchanges] at hbody

/-- Details leave the start of a text as it is. -/
theorem exists_detailed_eq_cons (details : List Detail) (p : Plan) :
    ∃ c rest, (p.detailed details).toList = c :: rest ∧ c.isUpper = true := by
  have hbody : ∃ c rest, (if details.contains .changelogMode then
      p.physical.add "changelogMode" p.changes else p.physical).written.toList = c :: rest
        ∧ c.isUpper = true := by
    split
    · exact Description.Capitalized.written (capitalized_physical p)
    · exact (capitalized_physical p).written
  obtain ⟨c, rest, hbody, hc⟩ := hbody
  have htext : (p.detailed details).toList
      = c :: (rest ++ (if details.contains .estimatedCost then p.estimate else "").toList) := by
    unfold detailed
    rw [String.toList_append, hbody, List.cons_append]
  exact ⟨c, _, htext, hc⟩

/-- Details put no end of a line into a text. -/
theorem notMem_detailed (h : '\n' ∉ p.physical.written.toList) (details : List Detail) :
    '\n' ∉ (p.detailed details).toList := by
  have hbody : '\n' ∉ (if .changelogMode ∈ details then
      withChanges p.changes p.physical.written else p.physical.written).toList := by
    split
    · have htexts : '\n' ∉ ", changelogMode=[".toList ++ "])".toList := by decide +kernel
      simp only [withChanges, String.toList_append, String.toList_ofList, List.mem_append,
        not_or] at htexts ⊢
      exact ⟨⟨⟨fun hmem => h (List.mem_of_mem_dropLast hmem), htexts.1⟩, (notMem_changes p).2⟩,
        htexts.2⟩
    · exact h
  rw [detailed_eq_annotated]
  unfold annotated
  simp only
  split
  · obtain ⟨rest, htext, -, hrest⟩ := toList_withEstimate p.rows p.cost
      (if .changelogMode ∈ details then withChanges p.changes p.physical.written
        else p.physical.written)
    rw [htext, List.mem_append, List.mem_cons, not_or, not_or]
    exact ⟨hbody, by decide, hrest⟩
  · exact hbody

end Plan
end Stencil
