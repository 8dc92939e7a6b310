/-
Names of fragments, as they are defined and as they are referred to.

A definition and a reference are read by rules of their own.  A name is the word in front of
the sign, whatever it is made of, and a reference ends at the first closing brace behind the
first character of its name.  `Definable` says which names a definition can have
(`exists_stores_iff`): quotes, comments and semicolons may stand in them, as long as none of
it cuts the name or leads it in.  All of them can be referred to, but for the names with a
closing brace behind the first character: what looks like a reference to such a name is one
to the front of it (`expand_reference_to_front`).
-/
import Stencil.Proofs.Fragment.Expansion
import Stencil.Proofs.Fragment.FirstSign
import Stencil.Proofs.Fragment.Passage

namespace Stencil.Fragment

open Text

variable {name statement : List Char} {d : Definition}

/-! ### Names that can be defined -/

/-- A word that begins a statement and is not cut. -/
structure Definable (name : List Char) : Prop where
  nonempty : name ≠ []
  unbroken : ∀ c ∈ name, isBlank c = false
  whole : Scan.Whole .code name
  leadless : Scan.Leadless name

instance (name : List Char) : Decidable (Definable name) :=
  decidable_of_iff
    (name ≠ [] ∧ name.all (fun c => !isBlank c) = true ∧ Scan.splitFrom .code [] name = [name]
      ∧ Scan.dropLeadFrom .code name = name)
    ⟨fun ⟨h₁, h₂, h₃, h₄⟩ => ⟨h₁, by simpa using h₂, h₃, h₄⟩,
      fun ⟨h₁, h₂, h₃, h₄⟩ => ⟨h₁, by simpa using h₂, h₃, h₄⟩⟩

/-- The name that a statement defines can be defined. -/
theorem definable_of_read? (hbare : Scan.Bare statement)
    (hread : Definition.read? statement = some d) (hne : d.name ≠ []) : Definable d.name := by
  obtain ⟨rest, hrest⟩ := (Definition.read?_eq_some hread).1.trans (List.takeWhile_prefix _)
  obtain rfl := hrest
  exact ⟨hne, Definition.name_of_read? hread, Scan.whole_of_append hbare.whole,
    Scan.leadless_of_append hbare.leadless⟩

theorem Definable.oneLine (h : Definable name) : '\n' ∉ name := by
  intro hmem
  have hblank := h.unbroken _ hmem
  cases hblank

/-- A definable name with a text behind it that neither belongs to it nor holds a cut. -/
theorem Definable.append (h : Definable name) (rest : List Char) (hfresh : Scan.Fresh rest)
    (hrest : ';' ∉ rest) :
    Scan.split (name ++ rest) = [name ++ rest] ∧ Scan.Leadless (name ++ rest) :=
  ⟨Scan.whole_append h.whole hfresh (Scan.whole_of_notMem hrest _),
    Scan.leadless_append h.nonempty h.leadless hfresh⟩

/-- What the name is read as with a sign and a value behind it. -/
theorem Definable.read? (h : Definable name) (value : List Char) :
    Definition.read? (name ++ ' ' :: ':' :: '=' :: value) = some ⟨name, trimmed value⟩ := by
  obtain ⟨hword, hbehind⟩ :=
    Definition.firstWord_append_cons h.unbroken (b := ' ') rfl (':' :: '=' :: value)
  rw [Definition.read?_eq, hword, hbehind]
  rfl

namespace Registry

variable {r r' : Registry}

/-- The submission of a name with a value is carried out, and defines a fragment of the name. -/
structure Stores (r : Registry) (name value : String) (r' : Registry) : Prop where
  accepted : ∃ out, r.submit (name ++ " := " ++ value) = .ok (out, r')
  defines : ∃ d ∈ definitions (Scan.statements (name ++ " := " ++ value).toList),
    d.name = name.toList

/-- The definitions of a submission that is carried out have a name and a value. -/
theorem legal_of_submit {text out : String} (h : r.submit text = .ok (out, r'))
    (hd : d ∈ definitions (Scan.statements text.toList)) : d.name ≠ [] ∧ d.value ≠ [] := by
  obtain ⟨s, hfold, -, -⟩ := submit_eq_ok h
  obtain ⟨statement, hmem, hread⟩ := List.mem_filterMap.mp hd
  obtain ⟨t, t', htake⟩ := exists_step_of_foldlM hfold hmem
  rcases take_eq_ok htake with ⟨d', hread', hname, hvalue, -⟩ | ⟨hord, -⟩
  · obtain rfl : d' = d := Option.some.inj (hread'.symm.trans hread)
    exact ⟨hname, hvalue⟩
  · rw [isOrdinary, hread] at hord
    cases hord

variable {name : String}

/-- What a definition puts in force has a definable name. -/
theorem Stores.definable {value : String} (h : r.Stores name value r') :
    Definable name.toList := by
  obtain ⟨⟨out, hsubmit⟩, d, hd, hname⟩ := h
  obtain ⟨statement, hmem, hread⟩ := List.mem_filterMap.mp hd
  rw [← hname]
  exact definable_of_read? (Scan.bare_of_mem_statements hmem) hread (legal_of_submit hsubmit hd).1

/-- Something is stored under the name. -/
theorem Stores.exists_get? {value : String} (h : r.Stores name value r') :
    ∃ stored, r'.get? name = some stored := by
  obtain ⟨⟨out, hsubmit⟩, d, hd, hname⟩ := h
  have hvalue : r.values.behindAll _ d.name ≠ none := Values.behindAll_ne_none_of_mem hd
  rw [← values_submit hsubmit, hname] at hvalue
  obtain ⟨w, hw⟩ := Option.ne_none_iff_exists'.mp hvalue
  obtain ⟨stored, hget, -⟩ := Option.map_eq_some_iff.mp hw
  rw [String.ofList_toList] at hget
  exact ⟨stored, hget⟩

/-- A definable name can be defined. -/
theorem stores_one (h : Definable name.toList) :
    empty.Stores name "1" ⟨[(name, "1")]⟩ := by
  obtain ⟨hsplit, hlead⟩ := h.append [' ', ':', '=', ' ', '1']
    (Scan.fresh_cons (by decide) _) (by decide)
  have htext : (name ++ " := " ++ "1").toList = name.toList ++ [' ', ':', '=', ' ', '1'] := by
    simp [String.toList_append]
  have hstatement : Scan.statement (name.toList ++ [' ', ':', '=', ' ', '1'])
      = name.toList ++ [' ', ':', '=', ' ', '1'] := by
    rw [Scan.statement_of_leadless hlead]
    exact dropEndBlanks_append (List.cons_ne_nil _ _) (by decide)
  have hstatements : Scan.statements (name ++ " := " ++ "1").toList
      = [name.toList ++ [' ', ':', '=', ' ', '1']] := by
    rw [htext, Scan.statements_of_uncut hsplit (by simp [hstatement]), hstatement]
  have hread : Definition.read? (name.toList ++ [' ', ':', '=', ' ', '1'])
      = some ⟨name.toList, ['1']⟩ := h.read? [' ', '1']
  have hdefine : [(⟨name.toList, ['1']⟩ : Definition)].foldl define empty = ⟨[(name, "1")]⟩ := by
    rw [List.foldl_cons, List.foldl_nil, define, String.ofList_toList]
    rfl
  constructor
  · refine ⟨"", ?_⟩
    rw [submit_definitions [⟨name.toList, ['1']⟩] ?_ ?_ empty, hdefine]
    · rw [hstatements, List.map_singleton, hread]
      rfl
    · rw [List.forall_mem_singleton]
      exact ⟨h.nonempty, List.cons_ne_nil _ _⟩
  · rw [hstatements]
    exact ⟨_, List.mem_filterMap.mpr ⟨_, List.mem_singleton_self _, hread⟩, rfl⟩

/-- **The names that a definition can have are the definable ones.** -/
theorem exists_stores_iff : (∃ r value r', Stores r name value r') ↔ Definable name.toList :=
  ⟨fun ⟨_, _, _, h⟩ => h.definable, fun h => ⟨_, _, _, stores_one h⟩⟩

/-- A name may hold a quotation with a semicolon in it, and a comment behind it. -/
example : Definable "a';'b--c".toList ∧ ¬ Definable "a;b".toList ∧ ¬ Definable "--a".toList := by
  decide +kernel

/-! ### Names that can be referred to -/

/-- A query with a reference in it ends with no blank. -/
theorem dropEndBlanks_query (name : List Char) :
    dropEndBlanks ("SELECT ".toList ++ (Part.reference name).written)
      = "SELECT ".toList ++ (Part.reference name).written := by
  unfold Part.written
  rw [← List.append_assoc]
  exact dropEndBlanks_append (List.cons_ne_nil _ _) (by decide)

/-- A query with a reference to the name is one statement, and no definition. -/
theorem single_query (h : Definable name.toList) :
    Single ("SELECT ".toList ++ (Part.reference name.toList).written) := by
  have htext : "SELECT ".toList ++ (Part.reference name.toList).written
      = "SELECT $\x7b".toList ++ (name.toList ++ ['\x7d']) := by
    simp [Part.written]
  obtain ⟨hsplit, -⟩ := h.append ['\x7d'] (Scan.fresh_cons (by decide) _) (by decide)
  have hlead : Scan.Leadless ("SELECT ".toList ++ (Part.reference name.toList).written) :=
    Scan.leadless_cons.mpr ⟨rfl, Scan.alone_of_plain rfl _⟩
  refine ⟨?_, hlead, ?_⟩
  · rw [htext]
    refine (Scan.passes_plain (by decide) _).trans ?_
    rw [show Scan.splitFrom .code [] (name.toList ++ ['\x7d']) = _ from hsplit]
    rfl
  · have hselect : ∀ c ∈ "SELECT".toList, isBlank c = false := by
      have hall : "SELECT".toList.all (fun c => !isBlank c) = true := by decide
      simpa only [List.all_eq_true, Bool.not_eq_true'] using hall
    obtain ⟨hword, hbehind⟩ := Definition.firstWord_append_cons hselect (b := ' ') rfl
      (Part.reference name.toList).written
    have hread : Definition.read?
        ("SELECT".toList ++ ' ' :: (Part.reference name.toList).written) = none := by
      rw [Definition.read?_eq, hword, hbehind]
      rfl
    rw [Scan.statement_of_leadless hlead, dropEndBlanks_query]
    exact Option.isNone_iff_eq_none.mpr hread

/-- What a query with a reference to the name is left over as. -/
theorem submit_query (h : Definable name.toList) (r : Registry) :
    r.submit ("SELECT $\x7b" ++ name ++ "\x7d")
      = .ok ("SELECT " ++ String.ofList (r.expand (Part.reference name.toList).written), r) := by
  have htext : ("SELECT $\x7b" ++ name ++ "\x7d").toList
      = "SELECT ".toList ++ (Part.reference name.toList).written := by
    simp [String.toList_append, Part.written]
  have hne : "SELECT $\x7b" ++ name ++ "\x7d" ≠ "" := by
    rw [← String.toList_inj.ne, htext]
    exact List.cons_ne_nil _ _
  have hexpand : r.expand ("SELECT ".toList ++ (Part.reference name.toList).written)
      = "SELECT ".toList ++ r.expand (Part.reference name.toList).written :=
    expand_append_of_noDollar (by decide) _
  rw [submit_single (by rw [htext]; exact single_query h) hne, htext, dropEndBlanks_query, hexpand,
    String.ofList_append]
  rfl

/-- A reference to a name is replaced by its value, if no brace closes the name before its end. -/
theorem expand_reference (h : Definable name.toList) (hbrace : '\x7d' ∉ name.toList.tail)
    (r : Registry) :
    r.expand (Part.reference name.toList).written
      = (r.values name.toList).getD (Part.reference name.toList).written := by
  have hname : Part.name? ((Part.reference name.toList).written ++ []) = some name.toList :=
    Part.name?_eq_some_iff.mpr ⟨⟨[], h.nonempty, h.oneLine, rfl⟩, hbrace⟩
  have hexpand : r.expand ((Part.reference name.toList).written ++ []) = _ := expand_written hname
  rw [List.append_nil] at hexpand
  exact hexpand.trans (List.append_nil _)

/-- A reference to a name with a brace in it is one to the front of the name. -/
theorem expand_reference_to_front {front back : List Char} (h : Definable name.toList)
    (hname : name.toList = front ++ '\x7d' :: back) (hfront : front ≠ [])
    (hbrace : '\x7d' ∉ front.tail) (r : Registry) :
    r.expand (Part.reference name.toList).written
      = (r.values front).getD (Part.reference front).written ++ r.expand (back ++ ['\x7d']) := by
  have hline : '\n' ∉ front := by
    intro hmem
    refine h.oneLine ?_
    rw [hname]
    exact List.mem_append_left _ hmem
  have htext : (Part.reference name.toList).written
      = (Part.reference front).written ++ (back ++ ['\x7d']) := by
    rw [hname]
    simp [Part.written]
  have hhere : Part.name? ((Part.reference front).written ++ (back ++ ['\x7d'])) = some front :=
    Part.name?_eq_some_iff.mpr ⟨⟨_, hfront, hline, rfl⟩, hbrace⟩
  rw [htext]
  exact expand_written hhere

/-- A name with a brace behind its first character has a front that a reference would end at. -/
theorem exists_front {name : List Char} (h : '\x7d' ∈ name.tail) :
    ∃ front back, name = front ++ '\x7d' :: back ∧ front ≠ [] ∧ '\x7d' ∉ front.tail := by
  cases name with
  | nil => cases h
  | cons c name =>
      obtain ⟨front, back, hname, hfront⟩ := List.eq_append_cons_of_mem h
      rw [List.tail_cons] at hname
      exact ⟨c :: front, back, by rw [hname]; rfl, List.cons_ne_nil _ _, hfront⟩

/--
**Whatever is defined can be referred to, unless a brace closes its name too early.**  A name
that a submission gives a value to is put in for a reference to it in a later query, and this is
so for all registries and values if and only if no closing brace stands behind the first
character of the name, or no definition can have the name.
-/
theorem reference_of_definition_iff (name : String) :
    (∀ r value r', Stores r name value r' →
        ∃ stored, r'.get? name = some stored
          ∧ r'.submit ("SELECT $\x7b" ++ name ++ "\x7d") = .ok ("SELECT " ++ stored, r'))
      ↔ (Definable name.toList → '\x7d' ∉ name.toList.tail) := by
  constructor
  · intro hall h hmem
    obtain ⟨front, back, hname, hfront, hbrace⟩ := exists_front hmem
    obtain ⟨stored, hget, hsubmit⟩ := hall _ _ _ (stores_one h)
    -- Nothing is stored under the front, so the query keeps its dollar sign.
    have hnone : values ⟨[(name, "1")]⟩ front = none := by
      have hne : name ≠ String.ofList front := by
        intro heq
        have hlength := congrArg List.length hname
        rw [heq, String.toList_ofList, List.length_append, List.length_cons] at hlength
        omega
      unfold values get?
      rw [Keyed.find?_cons, if_neg hne]
      rfl
    have hstored : stored = "1" := by
      have hone : get? ⟨[(name, "1")]⟩ name = some "1" := if_pos rfl
      exact Option.some.inj (hget.symm.trans hone)
    rw [submit_query h, expand_reference_to_front h hname hfront hbrace, hnone, hstored] at hsubmit
    have htext := congrArg String.toList (Prod.mk.inj (Except.ok.inj hsubmit)).1
    simp [String.toList_append, Part.written] at htext
  · intro hbrace r value r' hstores
    obtain ⟨stored, hget⟩ := hstores.exists_get?
    have hdefinable := hstores.definable
    have hvalue : r'.values name.toList = some stored.toList := by
      unfold values
      rw [String.ofList_toList, hget]
      rfl
    refine ⟨stored, hget, ?_⟩
    rw [submit_query hdefinable, expand_reference hdefinable (hbrace hdefinable), hvalue,
      Option.getD_some, String.ofList_toList]

/-- A definition that no reference reaches. -/
theorem reference_not_of_definition :
    empty.submit "a\x7db := 1" = .ok ("", ⟨[("a\x7db", "1")]⟩)
      ∧ get? ⟨[("a\x7db", "1")]⟩ "a\x7db" = some "1"
      ∧ submit ⟨[("a\x7db", "1")]⟩ "SELECT ${a}b\x7d"
        = .ok ("SELECT ${a}b\x7d", ⟨[("a\x7db", "1")]⟩) := by
  refine ⟨by decide +kernel, by decide +kernel, by decide +kernel⟩

end Registry
end Stencil.Fragment
