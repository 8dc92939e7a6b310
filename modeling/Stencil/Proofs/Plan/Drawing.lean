/-
What a drawing shows.

A drawing has one line for each node, from the root on, and in front of a line stands a lead
that is made of three characters for each step down to the node: whether the step leads to
the last input is what they tell (`lines_eq`).  Descriptions begin with a letter and no lead
does, so lead and description are told apart (`readLine_lead`).  The places of the nodes then
tell the tree: behind a node come its inputs, and behind these nothing that stands deeper.
So plans with the same drawing have the same shape and the same descriptions, as long as no
description breaks its line.
-/
import Mathlib.Data.List.Infix
import Stencil.Plan.Drawing
import Stencil.Proofs.Plan.Description
import Stencil.Proofs.Plan.Nodes
import Stencil.Proofs.Text.Search

namespace Stencil.Plan

variable {describe : Plan → String} {p q : Plan}

/-! ### Lines and places -/

mutual

/-- The nodes of a plan from the root on, each with its place: for every step down to it, whether
that leads to the last input. -/
def walk (place : List Bool) : Plan → List (List Bool × Plan)
  | ⟨op, inputs, fields⟩ => (place, ⟨op, inputs, fields⟩) :: walkInputs place inputs

/-- The nodes of the inputs of an operator. -/
def walkInputs (place : List Bool) : List Plan → List (List Bool × Plan)
  | [] => []
  | p :: rest => walk (place ++ [rest.isEmpty]) p ++ walkInputs place rest

end

/-- What stands in front of a line for a step that leads to the node itself. -/
def branch (last : Bool) : List Char := if last then ['+', '-', ' '] else [':', '-', ' ']

/-- What stands in front of a line for a step that leads to a node above. -/
def stem (last : Bool) : List Char := if last then [' ', ' ', ' '] else [':', ' ', ' ']

/-- What stands in front of the line of a node. -/
def lead : List Bool → List Char
  | [] => []
  | [last] => branch last
  | last :: step :: place => stem last ++ lead (step :: place)

theorem lead_concat (place : List Bool) (last : Bool) :
    lead (place ++ [last]) = place.flatMap stem ++ branch last := by
  induction place with
  | nil => rfl
  | cons step place ih =>
      rw [List.flatMap_cons, List.append_assoc, ← ih]
      cases place <;> rfl

/-- The line of a node. -/
def lineOf (describe : Plan → String) (s : List Bool × Plan) : String :=
  String.ofList (lead s.1) ++ describe s.2

mutual

/-- A drawing has a line for each node of the walk, in its order. -/
theorem lines_eq (describe : Plan → String) : ∀ (p : Plan) (place : List Bool),
    lines describe (String.ofList (lead place)) (String.ofList (place.flatMap stem)) p
      = (walk place p).map (lineOf describe)
  | ⟨op, inputs, fields⟩, place => by
    rw [lines, walk, List.map_cons, linesOfInputs_eq describe inputs place]
    rfl

theorem linesOfInputs_eq (describe : Plan → String) : ∀ (inputs : List Plan) (place : List Bool),
    linesOfInputs describe (String.ofList (place.flatMap stem)) inputs
      = (walkInputs place inputs).map (lineOf describe)
  | [], place => rfl
  | p :: rest, place => by
    have hfirst : String.ofList (place.flatMap stem) ++ (if rest.isEmpty then "+- " else ":- ")
        = String.ofList (lead (place ++ [rest.isEmpty])) := by
      rw [lead_concat, String.ofList_append]
      cases rest.isEmpty <;> rfl
    have hmargin : String.ofList (place.flatMap stem) ++ (if rest.isEmpty then "   " else ":  ")
        = String.ofList ((place ++ [rest.isEmpty]).flatMap stem) := by
      rw [List.flatMap_append, String.ofList_append]
      cases rest.isEmpty <;> rfl
    rw [linesOfInputs, walkInputs, List.map_append, hfirst, hmargin, lines_eq describe p,
      linesOfInputs_eq describe rest place]

end

/-- A drawing is what its lines say, each of them ended. -/
theorem draw_eq (describe : Plan → String) (p : Plan) :
    draw describe p = String.join ((walk [] p).map fun s => lineOf describe s ++ "\n") := by
  unfold draw
  have hlines := lines_eq describe p []
  rw [show lines describe "" "" p = (walk [] p).map (lineOf describe) from hlines, List.map_map]
  rfl

mutual

/-- The walk comes to nodes of the plan only. -/
theorem mem_nodes_of_mem_walk {s : List Bool × Plan} : ∀ (p : Plan) (place : List Bool),
    s ∈ walk place p → s.2 ∈ p.nodes
  | ⟨op, inputs, fields⟩, place, h => by
    rw [walk, List.mem_cons] at h
    rw [nodes, List.mem_append, List.mem_singleton]
    rcases h with rfl | h
    · exact .inr rfl
    · exact .inl (mem_nodes_of_mem_walkInputs inputs place h)

theorem mem_nodes_of_mem_walkInputs {s : List Bool × Plan} :
    ∀ (inputs : List Plan) (place : List Bool), s ∈ walkInputs place inputs →
      s.2 ∈ nodesOfEach inputs
  | [], place, h => by
    rw [walkInputs] at h
    cases h
  | p :: rest, place, h => by
    rw [walkInputs, List.mem_append] at h
    rw [nodesOfEach, List.mem_append]
    exact h.imp (mem_nodes_of_mem_walk p _) (mem_nodes_of_mem_walkInputs rest place)

end

/-! ### Reading a line -/

/-- The place that the lead of a line tells, and the rest of the line. -/
def readLine : List Char → List Bool × List Char
  | ':' :: ' ' :: ' ' :: rest => ((false :: (readLine rest).1), (readLine rest).2)
  | ' ' :: ' ' :: ' ' :: rest => ((true :: (readLine rest).1), (readLine rest).2)
  | ':' :: '-' :: ' ' :: rest => ([false], rest)
  | '+' :: '-' :: ' ' :: rest => ([true], rest)
  | text => ([], text)

theorem readLine_of_isUpper {c : Char} (hc : c.isUpper = true) (rest : List Char) :
    readLine (c :: rest) = ([], c :: rest) := by
  have hne : ∀ d : Char, d.isUpper = false → c ≠ d := by
    rintro d hd rfl
    exact Bool.noConfusion (hc.symm.trans hd)
  unfold readLine
  split
  · rename_i heq
    exact absurd (List.cons.inj heq).1 (hne ':' rfl)
  · rename_i heq
    exact absurd (List.cons.inj heq).1 (hne ' ' rfl)
  · rename_i heq
    exact absurd (List.cons.inj heq).1 (hne ':' rfl)
  · rename_i heq
    exact absurd (List.cons.inj heq).1 (hne '+' rfl)
  · rfl

/-- **The lead of a line tells the place of its node**, since no description begins like a lead. -/
theorem readLine_lead {c : Char} (hc : c.isUpper = true) (rest : List Char) (place : List Bool) :
    readLine (lead place ++ c :: rest) = (place, c :: rest) := by
  induction place with
  | nil => exact readLine_of_isUpper hc rest
  | cons last place ih =>
      cases place with
      | nil => cases last <;> rfl
      | cons step place =>
          rw [lead, List.append_assoc]
          cases last <;> simp [stem, readLine, ih]

/-- Texts that stand on one line, and begin with a capital letter. -/
structure OneLine (text : String) : Prop where
  capital : ∃ c rest, text.toList = c :: rest ∧ c.isUpper = true
  unbroken : '\n' ∉ text.toList

theorem notMem_lead (place : List Bool) : '\n' ∉ lead place := by
  induction place with
  | nil => exact List.not_mem_nil
  | cons last place ih =>
      cases place with
      | nil => cases last <;> decide
      | cons step place =>
          rw [lead, List.mem_append, not_or]
          exact ⟨by cases last <;> decide, ih⟩

theorem toList_lineOf (describe : Plan → String) (s : List Bool × Plan) :
    (lineOf describe s).toList = lead s.1 ++ (describe s.2).toList := by
  rw [lineOf, String.toList_append, String.toList_ofList]

theorem OneLine.readLine {s : List Bool × Plan} (h : OneLine (describe s.2)) :
    Plan.readLine (lineOf describe s).toList = (s.1, (describe s.2).toList) := by
  obtain ⟨c, rest, htext, hc⟩ := h.capital
  rw [toList_lineOf, htext, readLine_lead hc]

theorem OneLine.notMem_lineOf {s : List Bool × Plan} (h : OneLine (describe s.2)) :
    '\n' ∉ (lineOf describe s).toList := by
  rw [toList_lineOf, List.mem_append, not_or]
  exact ⟨notMem_lead _, h.unbroken⟩

/-! ### Reading a drawing -/

/-- What the lines of a drawing tell: the places of the nodes and their descriptions. -/
def told (describe : Plan → String) (s : List Bool × Plan) : List Bool × List Char :=
  (s.1, (describe s.2).toList)

/-- The drawing reads back as the walk: the lines are those of the nodes, and there is nothing
behind them. -/
def ReadsBack (drawing : String) (describe : Plan → String) (p : Plan) : Prop :=
  ∃ lines, drawing.toList.splitOn '\n' = lines ++ [[]]
    ∧ lines.map readLine = (walk [] p).map (told describe)

theorem readsBack_draw (h : ∀ n ∈ p.nodes, OneLine (describe n)) :
    ReadsBack (draw describe p) describe p := by
  have hline : ∀ s ∈ walk [] p, OneLine (describe s.2) := fun s hs =>
    h s.2 (mem_nodes_of_mem_walk p [] hs)
  refine ⟨(walk [] p).map fun s => (lineOf describe s).toList, ?_, ?_⟩
  · have htext : (draw describe p).toList
        = ['\n'].intercalate (((walk [] p).map fun s => (lineOf describe s).toList) ++ [[]]) := by
      rw [draw_eq, String.toList_join, List.flatMap_map, ← Text.flatMap_concat_eq_intercalate,
        List.flatMap_map]
      simp
    rw [htext]
    refine List.splitOn_intercalate _ (fun l hl => ?_) (by simp)
    rcases List.mem_append.mp hl with hl | hl
    · obtain ⟨s, hs, rfl⟩ := List.mem_map.mp hl
      exact (hline s hs).notMem_lineOf
    · rw [List.mem_singleton.mp hl]
      exact List.not_mem_nil
  · rw [List.map_map]
    exact List.map_congr_left fun s hs => (hline s hs).readLine

/-! ### The tree behind the walk -/

/-- A tree of texts. -/
inductive Outline where
  | node (text : String) (inputs : List Outline)

mutual

/-- The shape of a plan with the description of each node. -/
def outline (describe : Plan → String) : Plan → Outline
  | ⟨op, inputs, fields⟩ => .node (describe ⟨op, inputs, fields⟩) (outlines describe inputs)

def outlines (describe : Plan → String) : List Plan → List Outline
  | [] => []
  | p :: rest => outline describe p :: outlines describe rest

end

theorem walk_eq (place : List Bool) (p : Plan) :
    walk place p = (place, p) :: walkInputs place p.inputs := by
  cases p
  rw [walk]

/-- What stands in front is no deeper than a number of steps below the root. -/
def Shallow (depth : Nat) (l : List (List Bool × List Char)) : Prop :=
  ∀ s ∈ l.head?, s.1.length ≤ depth

theorem not_shallow_input (place : List Bool) (p : Plan) (inputs : List Plan)
    (rest : List (List Bool × List Char)) :
    ¬ Shallow place.length ((walkInputs place (p :: inputs)).map (told describe) ++ rest) := by
  intro h
  rw [walkInputs, walk_eq] at h
  have hlength := h _ rfl
  rw [told, List.length_append, List.length_singleton] at hlength
  omega

theorem shallow_inputs (place : List Bool) (last : Bool) (inputs : List Plan)
    {rest : List (List Bool × List Char)} (h : Shallow place.length rest) :
    Shallow (place ++ [last]).length ((walkInputs place inputs).map (told describe) ++ rest) := by
  rw [List.length_append, List.length_singleton]
  cases inputs with
  | nil => exact fun s hs => Nat.le_succ_of_le (h s hs)
  | cons p inputs =>
      intro s hs
      rw [walkInputs, walk_eq] at hs
      obtain rfl := Option.some.inj hs
      rw [told, List.length_append, List.length_singleton]

mutual

/-- A walk tells the tree, and in a longer list where it ends. -/
theorem outline_of_walk : ∀ (p q : Plan) (place : List Bool)
    {rest rest' : List (List Bool × List Char)}, Shallow place.length rest →
      Shallow place.length rest' →
      (walk place p).map (told describe) ++ rest = (walk place q).map (told describe) ++ rest' →
      outline describe p = outline describe q ∧ rest = rest'
  | ⟨op, inputs, fields⟩, ⟨op', inputs', fields'⟩, place, rest, rest', hrest, hrest', h => by
    rw [walk, walk, List.map_cons, List.map_cons, List.cons_append, List.cons_append] at h
    obtain ⟨hroot, hbelow⟩ := List.cons.inj h
    obtain ⟨hinputs, hsame⟩ := outlines_of_walk inputs inputs' place hrest hrest' hbelow
    have htext := String.toList_inj.mp (congrArg Prod.snd hroot)
    refine ⟨?_, hsame⟩
    rw [outline, outline, hinputs, htext]

theorem outlines_of_walk : ∀ (ps qs : List Plan) (place : List Bool)
    {rest rest' : List (List Bool × List Char)}, Shallow place.length rest →
      Shallow place.length rest' →
      (walkInputs place ps).map (told describe) ++ rest
        = (walkInputs place qs).map (told describe) ++ rest' →
      outlines describe ps = outlines describe qs ∧ rest = rest'
  | [], [], place, rest, rest', hrest, hrest', h => ⟨rfl, h⟩
  | [], q :: qs, place, rest, rest', hrest, hrest', h => by
    have hrest : Shallow place.length ([] ++ rest) := hrest
    exact absurd (h ▸ hrest) (not_shallow_input place q qs rest')
  | p :: ps, [], place, rest, rest', hrest, hrest', h => by
    have hrest' : Shallow place.length ([] ++ rest') := hrest'
    exact absurd (h ▸ hrest') (not_shallow_input place p ps rest)
  | p :: ps, q :: qs, place, rest, rest', hrest, hrest', h => by
    rw [walkInputs, walkInputs, List.map_append, List.map_append, List.append_assoc,
      List.append_assoc] at h
    -- The first line tells whether more inputs follow.
    have hlast : ps.isEmpty = qs.isEmpty := by
      rw [walk_eq, walk_eq] at h
      have hplace := congrArg Prod.fst (List.cons.inj h).1
      exact (List.cons.inj (List.append_cancel_left hplace)).1
    rw [hlast] at h
    obtain ⟨hfirst, hothers⟩ := outline_of_walk p q (place ++ [qs.isEmpty])
      (shallow_inputs place _ ps hrest) (shallow_inputs place _ qs hrest') h
    obtain ⟨hrest, hsame⟩ := outlines_of_walk ps qs place hrest hrest' hothers
    refine ⟨?_, hsame⟩
    rw [outlines, outlines, hfirst, hrest]

end

theorem outline_of_draw (hp : ∀ n ∈ p.nodes, OneLine (describe n))
    (hq : ∀ n ∈ q.nodes, OneLine (describe n)) (h : draw describe p = draw describe q) :
    outline describe p = outline describe q := by
  obtain ⟨lines, hlines, hwalk⟩ := readsBack_draw hp
  obtain ⟨lines', hlines', hwalk'⟩ := readsBack_draw hq
  have hsame : lines = lines' := by
    rw [h, hlines'] at hlines
    exact (List.append_cancel_right hlines).symm
  rw [hsame, hwalk'] at hwalk
  have hnone : Shallow ([] : List Bool).length [] := fun s hs => nomatch hs
  refine (outline_of_walk p q [] hnone hnone ?_).1
  rw [hwalk]

mutual

/-- Descriptions that tell others apart tell the trees of the others apart. -/
theorem outline_congr {describe' : Plan → String}
    (h : ∀ m n, describe m = describe n → describe' m = describe' n) : ∀ p q : Plan,
    outline describe p = outline describe q → outline describe' p = outline describe' q
  | ⟨op, inputs, fields⟩, ⟨op', inputs', fields'⟩, heq => by
    rw [outline, outline] at heq ⊢
    obtain ⟨htext, hinputs⟩ := Outline.node.inj heq
    rw [h _ _ htext, outlines_congr h inputs inputs' hinputs]

theorem outlines_congr {describe' : Plan → String}
    (h : ∀ m n, describe m = describe n → describe' m = describe' n) : ∀ ps qs : List Plan,
    outlines describe ps = outlines describe qs → outlines describe' ps = outlines describe' qs
  | [], [], _ => rfl
  | [], q :: qs, heq => by
    rw [outlines, outlines] at heq
    cases heq
  | p :: ps, [], heq => by
    rw [outlines, outlines] at heq
    cases heq
  | p :: ps, q :: qs, heq => by
    rw [outlines, outlines] at heq ⊢
    obtain ⟨hfirst, hothers⟩ := List.cons.inj heq
    rw [outline_congr h p q hfirst, outlines_congr h ps qs hothers]

end

/-! ### Logical and physical drawings -/

/-- The logical description of a node as it is written. -/
def logicalText (n : Plan) : String := n.logical.written

/-- The physical description of a node as it is written, without details. -/
def physicalText (n : Plan) : String := n.physical.written

theorem oneLine_logical {n : Plan} (h : '\n' ∉ n.logicalText.toList) : OneLine n.logicalText :=
  ⟨(capitalized_logical n).written, h⟩

theorem oneLine_detailed {n : Plan} (h : '\n' ∉ n.physicalText.toList) (details : List Detail) :
    OneLine (n.detailed details) :=
  ⟨exists_detailed_eq_cons details n, notMem_detailed h details⟩

/--
**A drawing determines what it shows.**  If no description breaks its line, the logical drawing
and the physical one, whatever its details, read back as one line for each node, from the root on
and in front of its inputs, with the place of the node in the tree and its text.  Two plans with
the same drawing have the same shape and the same description at each node, with the details and
without them.
-/
theorem drawing_determines_outline (details : List Detail) (p q : Plan) :
    ((∀ n ∈ p.nodes ++ q.nodes, '\n' ∉ n.logicalText.toList) →
        ReadsBack p.drawLogical logicalText p
          ∧ (p.drawLogical = q.drawLogical → outline logicalText p = outline logicalText q))
      ∧ ((∀ n ∈ p.nodes ++ q.nodes, '\n' ∉ n.physicalText.toList) →
        ReadsBack (p.drawPhysical details) (detailed details) p
          ∧ (p.drawPhysical details = q.drawPhysical details →
            outline (detailed details) p = outline (detailed details) q
              ∧ outline physicalText p = outline physicalText q)) := by
  refine ⟨fun h => ?_, fun h => ?_⟩
  · have hp : ∀ n ∈ p.nodes, OneLine n.logicalText := fun n hn =>
      oneLine_logical (h n (List.mem_append_left _ hn))
    have hq : ∀ n ∈ q.nodes, OneLine n.logicalText := fun n hn =>
      oneLine_logical (h n (List.mem_append_right _ hn))
    exact ⟨readsBack_draw hp, outline_of_draw hp hq⟩
  · have hp : ∀ n ∈ p.nodes, OneLine (n.detailed details) := fun n hn =>
      oneLine_detailed (h n (List.mem_append_left _ hn)) details
    have hq : ∀ n ∈ q.nodes, OneLine (n.detailed details) := fun n hn =>
      oneLine_detailed (h n (List.mem_append_right _ hn)) details
    refine ⟨readsBack_draw hp, fun hsame => ?_⟩
    have houtline := outline_of_draw hp hq hsame
    exact ⟨houtline, outline_congr (fun m n => written_of_detailed) p q houtline⟩

/-- The table `a` with a column of some type, over rows that are filtered first. -/
def unionOf (dataType : String) : Plan :=
  let fields : List Field := [⟨some "a", "i", dataType⟩]
  let scan : Plan := ⟨.scan ⟨"c", "d", "a"⟩, [], fields⟩
  ⟨.combine .union true, [⟨.filter "i > 1", [scan], fields⟩, scan], fields⟩

/-- Drawings do not show types, so plans that differ in types only are drawn alike. -/
theorem drawing_determines_outline_types :
    (unionOf "INT").drawPhysical [.changelogMode]
        = "Union(all=[true], union=[i], changelogMode=[I])\n"
          ++ ":- Calc(where=[i > 1], changelogMode=[I])\n"
          ++ ":  +- TableSourceScan(table=[[c, d, a]], fields=[i], changelogMode=[I])\n"
          ++ "+- TableSourceScan(table=[[c, d, a]], fields=[i], changelogMode=[I])\n"
      ∧ (unionOf "BIGINT").drawPhysical [.changelogMode]
        = (unionOf "INT").drawPhysical [.changelogMode]
      ∧ outline physicalText (unionOf "BIGINT") = outline physicalText (unionOf "INT")
      ∧ outline logicalText (unionOf "BIGINT") = outline logicalText (unionOf "INT") := by
  have hphysical : (unionOf "BIGINT").drawPhysical [.changelogMode]
      = (unionOf "INT").drawPhysical [.changelogMode] := by
    decide +kernel
  have hlogical : (unionOf "BIGINT").drawLogical = (unionOf "INT").drawLogical := by
    decide +kernel
  obtain ⟨hread, hread'⟩ :=
    drawing_determines_outline [.changelogMode] (unionOf "BIGINT") (unionOf "INT")
  exact ⟨by decide +kernel, hphysical, ((hread' (by decide +kernel)).2 hphysical).2,
    (hread (by decide +kernel)).2 hlogical⟩

end Stencil.Plan
