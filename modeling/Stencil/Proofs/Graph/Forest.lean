/-
Transformations picture the plans they come from.

The transformations of a plan are its nodes in the order in which they run, and the
numbers stand for nodes: `Stands` says that the transformation of a number does what
a node does, and draws on the numbers that stand for the inputs of the node, in
order.  Numbers are given out from one plan to the next, so every lemma is about
plans that are translated behind a number `last` given out before; what a node adds
to its inputs is said once, in `transformations_eq`.
-/
import Mathlib.Data.List.Forall2
import Mathlib.Data.List.Nodup
import Stencil.Graph.Transformation
import Stencil.Proofs.Plan.Nodes

namespace Stencil

/-- The numbers that a transformation draws on. -/
def Transformation.sources (t : Transformation) : List Nat := t.inputs.map (·.id)

namespace Plan

variable {parallelism : Nat}

/-! ### What is kept of a node -/

/-- The transformation does what the node does. -/
structure Runs (parallelism : Nat) (n : Plan) (t : Transformation) : Prop where
  name : t.name = n.physical.written
  /-- It is a sink if and only if the operator writes. -/
  sink : t.role = .sink ↔ n.isSink = true
  /-- Any other one is a source if and only if it draws on nothing. -/
  source : t.role = .source ↔ n.isSink = false ∧ t.sources = []
  /-- One instance runs if rows come together in one place, or if no more are configured. -/
  alone : t.parallelism = 1 ↔ n.operator.distribution = .global ∨ parallelism = 1
  /-- In any other case as many run as are configured. -/
  together : t.parallelism ≠ 1 → t.parallelism = parallelism
  shipped : ∀ i ∈ t.inputs, i.strategy = n.operator.distribution

mutual

/-- The number stands for the root of the plan: its transformation does what the root does, and
draws on the numbers that stand for the inputs. -/
def Stands (parallelism : Nat) (ts : List Transformation) (id : Nat) : Plan → Prop
  | ⟨op, inputs, fields⟩ =>
    ∃ t ∈ ts, t.id = id ∧ Runs parallelism ⟨op, inputs, fields⟩ t
      ∧ StandForEach parallelism ts t.sources inputs

/-- The numbers stand for the plans, one for each and in order. -/
def StandForEach (parallelism : Nat) (ts : List Transformation) (ids : List Nat) :
    List Plan → Prop
  | [] => ids = []
  | p :: rest =>
    ∃ id others, ids = id :: others ∧ Stands parallelism ts id p
      ∧ StandForEach parallelism ts others rest

end

/-! ### One node -/

/-- The numbers of the roots of plans that are numbered behind `last`. -/
def rootsFrom (last : Nat) : List Plan → List Nat
  | [] => []
  | p :: rest => (last + p.nodes.length) :: rootsFrom (last + p.nodes.length) rest

mutual

theorem length_transformations : ∀ (p : Plan) (last : Nat),
    (transformations parallelism last p).length = p.nodes.length
  | ⟨op, inputs, fields⟩, last => by
    rw [transformations, length_nodes, List.length_append, List.length_singleton,
      length_inputTransformations inputs last]

theorem length_inputTransformations : ∀ (plans : List Plan) (last : Nat),
    (inputTransformations parallelism last plans).1.length = (nodesOfEach plans).length
  | [], last => by
    rw [inputTransformations, nodesOfEach]
    rfl
  | p :: rest, last => by
    rw [inputTransformations, nodesOfEach, List.length_append, List.length_append,
      length_transformations p last, length_inputTransformations rest]

end

theorem inputTransformations_snd (plans : List Plan) (last : Nat) :
    (inputTransformations parallelism last plans).2 = rootsFrom last plans := by
  induction plans generalizing last with
  | nil => rw [inputTransformations, rootsFrom]
  | cons p rest ih => rw [inputTransformations, rootsFrom, ih, length_transformations]

/-- An operator writes if and only if its transformation is a sink. -/
theorem role_eq_sink (n : Plan) (isLeaf : Bool) :
    n.operator.role isLeaf = .sink ↔ n.isSink = true := by
  obtain ⟨op, inputs, fields⟩ := n
  cases op <;> cases isLeaf <;> simp [Operator.role, isSink]

theorem role_eq_source (n : Plan) (isLeaf : Bool) :
    n.operator.role isLeaf = .source ↔ n.isSink = false ∧ isLeaf = true := by
  obtain ⟨op, inputs, fields⟩ := n
  cases op <;> cases isLeaf <;> simp [Operator.role, isSink]

theorem instances_eq_one (op : Operator) :
    op.instances parallelism = 1 ↔ op.distribution = .global ∨ parallelism = 1 := by
  unfold Operator.instances
  split
  · rename_i h
    simp [h]
  · rename_i h
    simp [h]

theorem instances_of_ne_one {op : Operator} (h : op.instances parallelism ≠ 1) :
    op.instances parallelism = parallelism := by
  unfold Operator.instances at h ⊢
  split
  · rename_i hglobal
    rw [if_pos hglobal] at h
    exact absurd rfl h
  · rfl

/-- Behind the transformations of its inputs, a plan adds one for its root. -/
theorem transformations_eq (parallelism : Nat) (p : Plan) (last : Nat) :
    ∃ t, transformations parallelism last p
          = (inputTransformations parallelism last p.inputs).1 ++ [t]
      ∧ Runs parallelism p t ∧ t.id = last + p.nodes.length
      ∧ t.sources = rootsFrom last p.inputs := by
  obtain ⟨op, inputs, fields⟩ := p
  refine ⟨_, by rw [transformations], ?_, ?_, ?_⟩
  · have hleaf : inputs.isEmpty = true ↔ rootsFrom last inputs = [] := by
      cases inputs <;> simp [rootsFrom]
    constructor
    · rfl
    · exact role_eq_sink ⟨op, inputs, fields⟩ _
    · rw [role_eq_source ⟨op, inputs, fields⟩, hleaf]
      simp [Transformation.sources, Function.comp_def, inputTransformations_snd]
    · exact instances_eq_one op
    · exact instances_of_ne_one
    · simp
  · rw [length_nodes, length_inputTransformations]
    rfl
  · simp [Transformation.sources, Function.comp_def, inputTransformations_snd]

/-! ### All nodes, in order -/

mutual

/-- The transformations do what the nodes do, one for each. -/
theorem runs_transformations : ∀ (p : Plan) (last : Nat),
    List.Forall₂ (Runs parallelism) p.nodes (transformations parallelism last p)
  | ⟨op, inputs, fields⟩, last => by
    obtain ⟨t, heq, hruns, -, -⟩ := transformations_eq parallelism ⟨op, inputs, fields⟩ last
    rw [heq, nodes_eq]
    exact List.rel_append (runs_inputTransformations inputs last) (.cons hruns .nil)

theorem runs_inputTransformations : ∀ (plans : List Plan) (last : Nat),
    List.Forall₂ (Runs parallelism) (nodesOfEach plans)
      (inputTransformations parallelism last plans).1
  | [], last => by
    rw [nodesOfEach, inputTransformations]
    exact .nil
  | p :: rest, last => by
    rw [nodesOfEach, inputTransformations]
    exact List.rel_append (runs_transformations p last) (runs_inputTransformations rest _)

end

mutual

/-- Numbers are given out without a gap. -/
theorem ids_transformations : ∀ (p : Plan) (last : Nat),
    (transformations parallelism last p).map (·.id) = List.range' (last + 1) p.nodes.length
  | ⟨op, inputs, fields⟩, last => by
    obtain ⟨t, heq, -, hid, -⟩ := transformations_eq parallelism ⟨op, inputs, fields⟩ last
    rw [heq, List.map_append, ids_inputTransformations inputs last, length_nodes,
      List.range'_1_concat, List.map_singleton, hid, length_nodes]
    congr 2
    omega

theorem ids_inputTransformations : ∀ (plans : List Plan) (last : Nat),
    (inputTransformations parallelism last plans).1.map (·.id)
      = List.range' (last + 1) (nodesOfEach plans).length
  | [], last => by
    rw [inputTransformations, nodesOfEach]
    rfl
  | p :: rest, last => by
    rw [inputTransformations, nodesOfEach, List.map_append, ids_transformations p last,
      ids_inputTransformations rest, length_transformations, List.length_append,
      ← List.range'_append_1]
    congr 2
    omega

end

/-! ### Edges -/

/-- The numbers that some transformation draws on, each as often as it is drawn on. -/
def drawnOn (ts : List Transformation) : List Nat := ts.flatMap Transformation.sources

theorem drawnOn_append (ts ts' : List Transformation) :
    drawnOn (ts ++ ts') = drawnOn ts ++ drawnOn ts' := List.flatMap_append

mutual

/-- Every number is drawn on once, that of the root apart. -/
theorem drawnOn_transformations : ∀ (p : Plan) (last : Nat),
    (drawnOn (transformations parallelism last p) ++ [last + p.nodes.length]).Perm
      (List.range' (last + 1) p.nodes.length)
  | ⟨op, inputs, fields⟩, last => by
    obtain ⟨t, heq, -, -, hsources⟩ := transformations_eq parallelism ⟨op, inputs, fields⟩ last
    have hroot : drawnOn [t] = rootsFrom last inputs := by
      rw [drawnOn, List.flatMap_singleton, hsources]
    rw [heq, drawnOn_append, hroot, length_nodes, List.range'_1_concat]
    refine (drawnOn_inputTransformations inputs last).append (List.Perm.of_eq ?_)
    congr 1
    omega

theorem drawnOn_inputTransformations : ∀ (plans : List Plan) (last : Nat),
    (drawnOn (inputTransformations parallelism last plans).1 ++ rootsFrom last plans).Perm
      (List.range' (last + 1) (nodesOfEach plans).length)
  | [], last => by
    rw [inputTransformations, nodesOfEach, rootsFrom]
    exact .nil
  | p :: rest, last => by
    rw [inputTransformations, nodesOfEach, rootsFrom, drawnOn_append, length_transformations,
      List.length_append, ← List.range'_append_1]
    -- The root of the first plan moves in front of what the others draw on.
    have hmove : (drawnOn (transformations parallelism last p)
          ++ drawnOn (inputTransformations parallelism (last + p.nodes.length) rest).1
          ++ (last + p.nodes.length) :: rootsFrom (last + p.nodes.length) rest).Perm
        ((drawnOn (transformations parallelism last p) ++ [last + p.nodes.length])
          ++ (drawnOn (inputTransformations parallelism (last + p.nodes.length) rest).1
            ++ rootsFrom (last + p.nodes.length) rest)) := by
      rw [List.append_assoc, List.append_assoc]
      exact List.perm_middle.append_left _
    have hothers := drawnOn_inputTransformations rest (last + p.nodes.length)
    rw [Nat.add_right_comm] at hothers
    exact hmove.trans ((drawnOn_transformations p last).append hothers)

end

theorem mem_rootsFrom {plans : List Plan} {last id : Nat} (h : id ∈ rootsFrom last plans) :
    last < id ∧ id ≤ last + (nodesOfEach plans).length := by
  induction plans generalizing last with
  | nil => cases h
  | cons p rest ih =>
      have hpos := length_nodes p
      rw [nodesOfEach, List.length_append]
      rcases List.mem_cons.mp h with rfl | hrest
      · omega
      · have := ih hrest
        omega

mutual

/-- A transformation draws only on smaller numbers that were given out behind `last`. -/
theorem sources_transformations : ∀ (p : Plan) (last : Nat),
    ∀ t ∈ transformations parallelism last p, ∀ id ∈ t.sources, last < id ∧ id < t.id
  | ⟨op, inputs, fields⟩, last, t, ht, id, hid => by
    obtain ⟨root, heq, -, hroot, hsources⟩ :=
      transformations_eq parallelism ⟨op, inputs, fields⟩ last
    rw [heq] at ht
    rcases List.mem_append.mp ht with hbelow | hlast
    · exact sources_inputTransformations inputs last t hbelow id hid
    · obtain rfl := List.mem_singleton.mp hlast
      rw [hsources] at hid
      have hbound := mem_rootsFrom hid
      rw [hroot, length_nodes]
      omega

theorem sources_inputTransformations : ∀ (plans : List Plan) (last : Nat),
    ∀ t ∈ (inputTransformations parallelism last plans).1, ∀ id ∈ t.sources,
      last < id ∧ id < t.id
  | [], last, t, ht, id, hid => by
    rw [inputTransformations] at ht
    cases ht
  | p :: rest, last, t, ht, id, hid => by
    rw [inputTransformations] at ht
    rcases List.mem_append.mp ht with hfirst | hothers
    · exact sources_transformations p last t hfirst id hid
    · have hlater := sources_inputTransformations rest _ t hothers id hid
      omega

end

/-! ### Numbers stand for nodes -/

mutual

/-- Further transformations change nothing about what a number stands for. -/
theorem Stands.mono {ts ts' : List Transformation} (h : ∀ t ∈ ts, t ∈ ts') :
    ∀ (p : Plan) (id : Nat), Stands parallelism ts id p → Stands parallelism ts' id p
  | ⟨op, inputs, fields⟩, id, hstands => by
    rw [Stands] at hstands ⊢
    obtain ⟨t, ht, hid, hruns, hinputs⟩ := hstands
    exact ⟨t, h t ht, hid, hruns, StandForEach.mono h inputs _ hinputs⟩

theorem StandForEach.mono {ts ts' : List Transformation} (h : ∀ t ∈ ts, t ∈ ts') :
    ∀ (plans : List Plan) (ids : List Nat), StandForEach parallelism ts ids plans →
      StandForEach parallelism ts' ids plans
  | [], ids, hstand => hstand
  | p :: rest, ids, hstand => by
    rw [StandForEach] at hstand ⊢
    obtain ⟨id, others, rfl, hfirst, hothers⟩ := hstand
    exact ⟨id, others, rfl, Stands.mono h p id hfirst, StandForEach.mono h rest others hothers⟩

end

mutual

/-- The last number of a plan stands for its root. -/
theorem stands_transformations : ∀ (p : Plan) (last : Nat),
    Stands parallelism (transformations parallelism last p) (last + p.nodes.length) p
  | ⟨op, inputs, fields⟩, last => by
    obtain ⟨t, heq, hruns, hid, hsources⟩ :=
      transformations_eq parallelism ⟨op, inputs, fields⟩ last
    rw [Stands, heq]
    refine ⟨t, List.mem_append_right _ List.mem_cons_self, hid, hruns, ?_⟩
    rw [hsources]
    exact StandForEach.mono (fun t => List.mem_append_left _) inputs _
      (standForEach_inputTransformations inputs last)

theorem standForEach_inputTransformations : ∀ (plans : List Plan) (last : Nat),
    StandForEach parallelism (inputTransformations parallelism last plans).1
      (rootsFrom last plans) plans
  | [], last => by rw [StandForEach, rootsFrom]
  | p :: rest, last => by
    rw [StandForEach, rootsFrom, inputTransformations, length_transformations]
    refine ⟨_, _, rfl, ?_, ?_⟩
    · exact Stands.mono (fun t => List.mem_append_left _) p _ (stands_transformations p last)
    · exact StandForEach.mono (fun t => List.mem_append_right _) rest _
        (standForEach_inputTransformations rest _)

end

/-! ### Plans that are translated together -/

/-- What a plan becomes: its transformations, and the number of the one for its root. -/
structure Block where
  steps : List Transformation
  root : Nat

/-- The transformations are a picture of the plan. -/
structure Pictures (parallelism : Nat) (p : Plan) (b : Block) : Prop where
  /-- There is one for each node, in the order in which the nodes run. -/
  runs : List.Forall₂ (Runs parallelism) p.nodes b.steps
  /-- Every one draws on those that stand for the inputs of its node, in order. -/
  stands : Stands parallelism b.steps b.root p
  /-- What is drawn on has a smaller number, and is of the same plan. -/
  descends : ∀ t ∈ b.steps, ∀ id ∈ t.sources, id < t.id ∧ id ∈ b.steps.map (·.id)

/-- The plans with their transformations, numbered behind `last`. -/
def blocksFrom (parallelism last : Nat) : List Plan → List Block
  | [] => []
  | p :: rest =>
    ⟨transformations parallelism last p, last + p.nodes.length⟩
      :: blocksFrom parallelism (last + p.nodes.length) rest

theorem pictures_transformations (p : Plan) (last : Nat) :
    Pictures parallelism p ⟨transformations parallelism last p, last + p.nodes.length⟩ := by
  refine ⟨runs_transformations p last, stands_transformations p last, fun t ht id hid => ?_⟩
  obtain ⟨hlow, hhigh⟩ := sources_transformations p last t ht id hid
  have hmem : t.id ∈ (transformations parallelism last p).map (·.id) := List.mem_map_of_mem ht
  rw [ids_transformations, List.mem_range'_1] at hmem
  refine ⟨hhigh, ?_⟩
  rw [ids_transformations, List.mem_range'_1]
  omega

theorem pictures_blocksFrom (plans : List Plan) (last : Nat) :
    List.Forall₂ (Pictures parallelism) plans (blocksFrom parallelism last plans) := by
  induction plans generalizing last with
  | nil => exact .nil
  | cons p rest ih => exact .cons (pictures_transformations p last) (ih _)

theorem steps_blocksFrom (plans : List Plan) (last : Nat) :
    (blocksFrom parallelism last plans).flatMap (·.steps)
      = (inputTransformations parallelism last plans).1 := by
  induction plans generalizing last with
  | nil =>
      rw [inputTransformations]
      rfl
  | cons p rest ih =>
      rw [blocksFrom, List.flatMap_cons, ih, inputTransformations, length_transformations]

theorem root_blocksFrom (plans : List Plan) (last : Nat) :
    (blocksFrom parallelism last plans).map (·.root) = rootsFrom last plans := by
  induction plans generalizing last with
  | nil => rfl
  | cons p rest ih => rw [blocksFrom, rootsFrom, List.map_cons, ih]

/-- Of two lists that together have every number once, the one has those that the other lacks. -/
theorem count_of_perm_range' {drawn roots : List Nat} {start n id : Nat}
    (h : (drawn ++ roots).Perm (List.range' start n)) (hid : id ∈ List.range' start n) :
    drawn.count id = if id ∈ roots then 0 else 1 := by
  have hnodup : (drawn ++ roots).Nodup := h.nodup_iff.mpr List.nodup_range'
  have hone : (drawn ++ roots).count id = 1 :=
    List.count_eq_one_of_mem hnodup (h.mem_iff.mpr hid)
  rw [List.count_append] at hone
  split
  · rename_i hmem
    have := List.count_pos_iff.mpr hmem
    omega
  · rename_i hmem
    rw [List.count_eq_zero_of_not_mem hmem] at hone
    exact hone

/--
**The transformations of plans are the plans as a forest, in the order in which they run.**
They are numbered from one without a gap; each plan becomes a block of its own that
pictures it; and a number is drawn on once, or not at all if it is that of a root.
-/
theorem translate_eq_blocks (parallelism : Nat) (plans : List Plan) :
    ∃ blocks : List Block,
      translate parallelism plans = blocks.flatMap (·.steps)
      ∧ List.Forall₂ (Pictures parallelism) plans blocks
      ∧ (translate parallelism plans).map (·.id) = List.range' 1 (nodesOfEach plans).length
      ∧ ∀ id ∈ (translate parallelism plans).map (·.id),
          (drawnOn (translate parallelism plans)).count id
            = if id ∈ blocks.map (·.root) then 0 else 1 := by
  have hids : (translate parallelism plans).map (·.id)
      = List.range' 1 (nodesOfEach plans).length := ids_inputTransformations plans 0
  refine ⟨blocksFrom parallelism 0 plans, (steps_blocksFrom plans 0).symm,
    pictures_blocksFrom plans 0, hids, fun id hid => ?_⟩
  rw [hids] at hid
  rw [root_blocksFrom]
  exact count_of_perm_range' (drawnOn_inputTransformations plans 0) hid

end Plan
end Stencil
