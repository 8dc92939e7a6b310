/-
The nodes of a plan.

A plan is a tree, and what holds of all its operators is said of the list of its
nodes.  They stand in the order in which they run: every node behind its inputs,
the root last.
-/
import Stencil.Plan.Node

namespace Stencil.Plan

variable {p : Plan}

mutual

/-- The nodes of a plan, each as the plan below it; the root is the last. -/
def nodes : Plan → List Plan
  | ⟨op, inputs, fields⟩ => nodesOfEach inputs ++ [⟨op, inputs, fields⟩]

/-- The nodes of several plans. -/
def nodesOfEach : List Plan → List Plan
  | [] => []
  | p :: rest => p.nodes ++ nodesOfEach rest

end

theorem nodes_eq (p : Plan) : p.nodes = nodesOfEach p.inputs ++ [p] := by
  cases p
  rw [nodes]

theorem mem_nodesOfEach {plans : List Plan} {n : Plan} :
    n ∈ nodesOfEach plans ↔ ∃ p ∈ plans, n ∈ p.nodes := by
  induction plans with
  | nil => simp [nodesOfEach]
  | cons p rest ih => simp [nodesOfEach, ih]

/-- A node is the root, or a node of an input. -/
theorem mem_nodes {n : Plan} : n ∈ p.nodes ↔ n = p ∨ ∃ q ∈ p.inputs, n ∈ q.nodes := by
  rw [nodes_eq, List.mem_append, List.mem_singleton, mem_nodesOfEach, or_comm]

theorem filter_nodesOfEach (P : Plan → Bool) (plans : List Plan) :
    (nodesOfEach plans).filter P = plans.flatMap fun p => p.nodes.filter P := by
  induction plans with
  | nil => rfl
  | cons p rest ih => rw [nodesOfEach, List.filter_append, ih, List.flatMap_cons]

/-- The nodes of a kind below a node, and the node if it is one. -/
theorem filter_nodes (P : Plan → Bool) (p : Plan) :
    p.nodes.filter P = p.inputs.flatMap (fun q => q.nodes.filter P) ++ [p].filter P := by
  rw [nodes_eq, List.filter_append, filter_nodesOfEach]

theorem length_nodes (p : Plan) : p.nodes.length = (nodesOfEach p.inputs).length + 1 := by
  rw [nodes_eq, List.length_append, List.length_singleton]

mutual

/-- No node has more nodes than the plan it stands in. -/
theorem length_nodes_le {n : Plan} : ∀ p : Plan, n ∈ p.nodes → n.nodes.length ≤ p.nodes.length
  | ⟨op, inputs, fields⟩, h => by
    rw [nodes, List.mem_append, List.mem_singleton] at h
    rcases h with hbelow | rfl
    · rw [nodes, List.length_append, List.length_singleton]
      exact Nat.le_succ_of_le (length_nodes_le_ofEach inputs hbelow)
    · exact Nat.le_refl _

theorem length_nodes_le_ofEach {n : Plan} : ∀ plans : List Plan, n ∈ nodesOfEach plans →
    n.nodes.length ≤ (nodesOfEach plans).length
  | [], h => by
    rw [nodesOfEach] at h
    cases h
  | p :: rest, h => by
    rw [nodesOfEach, List.mem_append] at h
    rw [nodesOfEach, List.length_append]
    rcases h with hfirst | hrest
    · exact Nat.le_add_right_of_le (length_nodes_le p hfirst)
    · exact Nat.le_add_left_of_le (length_nodes_le_ofEach rest hrest)

end

mutual

/-- The nodes of a node are nodes of the plan. -/
theorem nodes_trans {m n : Plan} (hm : m ∈ n.nodes) : ∀ p : Plan, n ∈ p.nodes → m ∈ p.nodes
  | ⟨op, inputs, fields⟩, hn => by
    rw [nodes, List.mem_append, List.mem_singleton] at hn
    rcases hn with hn | rfl
    · rw [nodes]
      exact List.mem_append_left _ (nodesOfEach_trans hm inputs hn)
    · exact hm

theorem nodesOfEach_trans {m n : Plan} (hm : m ∈ n.nodes) :
    ∀ plans : List Plan, n ∈ nodesOfEach plans → m ∈ nodesOfEach plans
  | [], hn => by
    rw [nodesOfEach] at hn
    cases hn
  | p :: rest, hn => by
    rw [nodesOfEach, List.mem_append] at hn ⊢
    exact hn.imp (nodes_trans hm p) (nodesOfEach_trans hm rest)

end

/-- A node whose inputs hold a plan is no node of that plan. -/
theorem notMem_nodes_of_input {n q : Plan} (hq : q ∈ n.inputs) (hp : p ∈ q.nodes) :
    n ∉ p.nodes := by
  intro hn
  have hle := length_nodes_le p hn
  have hlt := length_nodes_le_ofEach n.inputs (mem_nodesOfEach.mpr ⟨q, hq, hp⟩)
  rw [length_nodes] at hle
  omega

mutual

/-- A plan may take back rows if and only if some of its nodes may by itself. -/
theorem updates_eq_any : ∀ p : Plan, p.updates = p.nodes.any (·.operator.updates)
  | ⟨op, inputs, fields⟩ => by
    rw [updates, nodes, List.any_append, anyUpdates_eq_any inputs, Bool.or_comm]
    simp

theorem anyUpdates_eq_any : ∀ plans : List Plan,
    anyUpdates plans = (nodesOfEach plans).any (·.operator.updates)
  | [] => rfl
  | p :: rest => by
    rw [anyUpdates, nodesOfEach, List.any_append, updates_eq_any p, anyUpdates_eq_any rest]

end

/-- The operator writes into a table. -/
def isSink (p : Plan) : Bool :=
  match p.operator with
  | .sink .. => true
  | _ => false

end Stencil.Plan
