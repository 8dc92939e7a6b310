/-
The document of a graph holds the graph.

A graph is written as records in records, and it is read from the document as written
as well as from the one with its members in order: a record reader asks for its fields
by name.  All it takes is that the numbers fit: the number of a node 64 bits, a
parallelism 32.  The numbers of transformations do if there are not too many of them,
since they are given out one after the other.
-/
import Stencil.Graph.StreamGraph
import Stencil.Proofs.Graph.Forest
import Stencil.Proofs.Json.Record
import Stencil.Proofs.Json.RoundTrip

namespace Stencil

namespace Json

theorem canonicalItems_eq_map (items : List Json) :
    canonicalItems items = items.map canonical := by
  induction items with
  | nil => rfl
  | cons item rest ih => rw [canonicalItems, ih, List.map_cons]

theorem natBelow?_integer {bound n : Nat} (h : n < bound) :
    natBelow? bound (integer n) = some n := by
  have hlt : (n : Int) < bound := Int.ofNat_lt.mpr h
  simp [natBelow?, hlt]

/-- Items that are each read as what they were written for are read as all of it. -/
theorem mapM_map_eq_some {α : Type} {read : Json → Option α} {write : α → Json} {l : List α}
    (h : ∀ a ∈ l, read (write a) = some a) : (l.map write).mapM read = some l := by
  induction l with
  | nil => rfl
  | cons a l ih =>
      rw [List.map_cons, List.mapM_cons, h a List.mem_cons_self,
        ih fun b hb => h b (List.mem_cons_of_mem _ hb)]
      rfl

theorem fitsInteger_of_lt {n : Nat} (h : n < Nat.pow 2 64) : FitsInteger n := by
  have hpow : Nat.pow 2 64 = 18446744073709551616 := by decide
  unfold FitsInteger
  omega

end Json

namespace StreamGraph

open Json

/-! ### Numbers that fit -/

/-- The numbers of the node fit: its own and those it draws from, and its parallelism. -/
structure StreamNode.Fits (n : StreamNode) : Prop where
  id : n.id < Nat.pow 2 64
  parallelism : n.parallelism < Nat.pow 2 32
  predecessors : ∀ p ∈ n.predecessors, p.id < Nat.pow 2 64

/-- The numbers of all nodes fit. -/
def Fits (g : StreamGraph) : Prop := ∀ n ∈ g.nodes, StreamNode.Fits n

/-! ### Reading records -/

theorem strategyOf?_strategyName (d : Plan.Distribution) :
    strategyOf? (strategyName d) = some d := by
  cases d <;> rfl

theorem Predecessor.ofJson?_of_fields {j : Json} {p : Predecessor} (hid : p.id < Nat.pow 2 64)
    (h : j.fields? ["id", "ship_strategy", "side"]
      = some [some (.integer p.id), some (.string (strategyName p.strategy)),
        some (.string p.side)]) :
    Predecessor.ofJson? j = some p := by
  unfold Predecessor.ofJson?
  refine Option.bind_eq_some_iff.mpr ⟨_, h, ?_⟩
  refine Option.bind_eq_some_iff.mpr ⟨_, natBelow?_integer hid, ?_⟩
  refine Option.bind_eq_some_iff.mpr ⟨strategyName p.strategy, rfl, ?_⟩
  exact Option.bind_eq_some_iff.mpr ⟨p.strategy, strategyOf?_strategyName _, rfl⟩

theorem StreamNode.ofJson?_of_fields {j : Json} {n : StreamNode} (hn : StreamNode.Fits n)
    {list : Option Json} (hlist : predecessors? list = some n.predecessors)
    (h : j.fields? ["id", "type", "pact", "contents", "parallelism", "predecessors"]
      = some [some (.integer n.id), some (.string n.type), some (.string n.pact),
        some (.string n.contents), some (.integer n.parallelism), list]) :
    StreamNode.ofJson? j = some n := by
  unfold StreamNode.ofJson?
  refine Option.bind_eq_some_iff.mpr ⟨_, h, ?_⟩
  refine Option.bind_eq_some_iff.mpr ⟨_, natBelow?_integer hn.id, ?_⟩
  refine Option.bind_eq_some_iff.mpr ⟨n.type, rfl, ?_⟩
  refine Option.bind_eq_some_iff.mpr ⟨n.pact, rfl, ?_⟩
  refine Option.bind_eq_some_iff.mpr ⟨n.contents, rfl, ?_⟩
  refine Option.bind_eq_some_iff.mpr ⟨_, natBelow?_integer hn.parallelism, ?_⟩
  exact Option.bind_eq_some_iff.mpr ⟨_, hlist, rfl⟩

/-- The predecessors of a node are left out if there are none. -/
def StreamNode.list (n : StreamNode) : Option Json :=
  if n.predecessors.isEmpty then none else some (.array (n.predecessors.map Predecessor.json))

theorem Predecessor.fields?_json (p : Predecessor) :
    (Predecessor.json p).fields? ["id", "ship_strategy", "side"]
      = some [some (.integer p.id), some (.string (strategyName p.strategy)),
        some (.string p.side)] := by
  simp [Predecessor.json, fields?, under]

theorem StreamNode.fields?_json (n : StreamNode) :
    (StreamNode.json n).fields? ["id", "type", "pact", "contents", "parallelism", "predecessors"]
      = some [some (.integer n.id), some (.string n.type), some (.string n.pact),
        some (.string n.contents), some (.integer n.parallelism), StreamNode.list n] := by
  unfold StreamNode.json StreamNode.list
  split
  · simp [fields?, under]
  · simp [fields?, under]

/-- A predecessor is read from its record, as written and with the members in order. -/
theorem Predecessor.ofJson?_json {p : Predecessor} (hid : p.id < Nat.pow 2 64) :
    Predecessor.ofJson? (Predecessor.json p) = some p
      ∧ Predecessor.ofJson? (Predecessor.json p).canonical = some p := by
  have hfields := Predecessor.fields?_json p
  refine ⟨Predecessor.ofJson?_of_fields hid hfields, Predecessor.ofJson?_of_fields hid ?_⟩
  have hnames : ["id", "ship_strategy", "side"].Nodup := by decide
  refine fields?_canonical ?_ hfields
  exact hnames

/-- The predecessors of a node are read from their list, or from its absence. -/
theorem StreamNode.predecessors?_list {n : StreamNode} (hn : StreamNode.Fits n) :
    predecessors? (StreamNode.list n) = some n.predecessors
      ∧ predecessors? ((StreamNode.list n).map canonical) = some n.predecessors := by
  have hread := fun p hp => Predecessor.ofJson?_json (hn.predecessors p hp)
  unfold StreamNode.list
  split
  · next hempty =>
      rw [List.isEmpty_iff.mp hempty]
      exact ⟨rfl, rfl⟩
  · refine ⟨mapM_map_eq_some fun p hp => (hread p hp).1, ?_⟩
    rw [Option.map_some, canonical, canonicalItems_eq_map, List.map_map]
    exact mapM_map_eq_some fun p hp => (hread p hp).2

theorem StreamNode.ofJson?_json {n : StreamNode} (hn : StreamNode.Fits n) :
    StreamNode.ofJson? (StreamNode.json n) = some n
      ∧ StreamNode.ofJson? (StreamNode.json n).canonical = some n := by
  have hfields := StreamNode.fields?_json n
  obtain ⟨hlist, hcanonical⟩ := StreamNode.predecessors?_list hn
  refine ⟨StreamNode.ofJson?_of_fields hn hlist hfields,
    StreamNode.ofJson?_of_fields hn hcanonical ?_⟩
  refine fields?_canonical ?_ hfields
  have hnames : ["id", "type", "pact", "contents", "parallelism", "predecessors"].Nodup
    ∧ ["id", "type", "pact", "contents", "parallelism"].Nodup := by decide
  split
  · exact hnames.2
  · exact hnames.1

/-- A graph is read from its document, as written and with the members in order. -/
theorem ofJson?_json {g : StreamGraph} (hg : g.Fits) :
    ofJson? g.json = some g ∧ ofJson? g.json.canonical = some g := by
  have hread := fun n hn => StreamNode.ofJson?_json (hg n hn)
  have hfields : g.json.fields? ["nodes"] = some [some (.array (g.nodes.map StreamNode.json))] := by
    simp [json, fields?, under]
  have hnodes : (g.nodes.map StreamNode.json).mapM StreamNode.ofJson? = some g.nodes :=
    mapM_map_eq_some fun n hn => (hread n hn).1
  have hcanonical : (canonicalItems (g.nodes.map StreamNode.json)).mapM StreamNode.ofJson?
      = some g.nodes := by
    rw [canonicalItems_eq_map, List.map_map]
    exact mapM_map_eq_some fun n hn => (hread n hn).2
  have hordered : g.json.canonical.fields? ["nodes"]
      = some [some (.array (canonicalItems (g.nodes.map StreamNode.json)))] := by
    have hnames : ["nodes"].Nodup := by decide
    rw [← canonical]
    refine fields?_canonical ?_ hfields
    exact hnames
  unfold ofJson?
  constructor
  · refine Option.bind_eq_some_iff.mpr ⟨_, hfields, ?_⟩
    refine Option.bind_eq_some_iff.mpr ⟨_, rfl, ?_⟩
    exact Option.bind_eq_some_iff.mpr ⟨_, hnodes, rfl⟩
  · refine Option.bind_eq_some_iff.mpr ⟨_, hordered, ?_⟩
    refine Option.bind_eq_some_iff.mpr ⟨_, rfl, ?_⟩
    exact Option.bind_eq_some_iff.mpr ⟨_, hcanonical, rfl⟩

/-! ### Reading what was written -/

theorem Predecessor.readable_json {p : Predecessor} (hid : p.id < Nat.pow 2 64) (depth : Nat) :
    Readable (depth + 1) (Predecessor.json p) := by
  refine .object fun m hm => ?_
  simp only [List.mem_cons, List.not_mem_nil, or_false] at hm
  rcases hm with rfl | rfl | rfl
  · exact .integer (fitsInteger_of_lt hid)
  · exact .string _
  · exact .string _

theorem StreamNode.readable_json {n : StreamNode} (hn : StreamNode.Fits n) (depth : Nat) :
    Readable (depth + 3) (StreamNode.json n) := by
  have hparallelism : n.parallelism < Nat.pow 2 64 :=
    Nat.lt_trans hn.parallelism (by decide)
  refine .object fun m hm => ?_
  rcases List.mem_append.mp hm with hm | hm
  · simp only [List.mem_cons, List.not_mem_nil, or_false] at hm
    rcases hm with rfl | rfl | rfl | rfl | rfl
    · exact .integer (fitsInteger_of_lt hn.id)
    · exact .string _
    · exact .string _
    · exact .string _
    · exact .integer (fitsInteger_of_lt hparallelism)
  · split at hm
    · cases hm
    · rw [List.mem_singleton.mp hm]
      refine .array fun j hj => ?_
      obtain ⟨p, hp, rfl⟩ := List.mem_map.mp hj
      exact Predecessor.readable_json (hn.predecessors p hp) depth

theorem readable_json {g : StreamGraph} (hg : g.Fits) : Readable maxDepth g.json := by
  refine .object fun m hm => ?_
  rw [List.mem_singleton.mp hm]
  refine .array fun j hj => ?_
  obtain ⟨n, hn, rfl⟩ := List.mem_map.mp hj
  exact StreamNode.readable_json (hg n hn) _

/-- A graph that is written is read as it was. -/
theorem read?_written {g : StreamGraph} (hg : g.Fits) :
    Json.read? g.written = some g.json ∧ read? g.written = some g := by
  have hread : Json.read? g.written = some g.json := read?_pretty (readable_json hg)
  refine ⟨hread, ?_⟩
  unfold read?
  rw [hread]
  exact (ofJson?_json hg).1

/-! ### Graphs of transformations -/

/-- The numbers of a plan that is translated fit if there are not too many nodes. -/
theorem fits_ofTransformations {parallelism : Nat} (hparallelism : parallelism < Nat.pow 2 32)
    {plans : List Plan} (hlength : (Plan.nodesOfEach plans).length < Nat.pow 2 64) :
    (ofTransformations (Plan.translate parallelism plans)).Fits := by
  intro n hn
  obtain ⟨t, ht, rfl⟩ := List.mem_map.mp hn
  have hid : t.id ∈ (Plan.inputTransformations parallelism 0 plans).1.map (·.id) :=
    List.mem_map_of_mem ht
  rw [Plan.ids_inputTransformations, List.mem_range'_1] at hid
  have hinstances : ∀ t ∈ Plan.translate parallelism plans, t.parallelism < Nat.pow 2 32 := by
    have hruns := (@Plan.runs_inputTransformations parallelism plans 0).imp
      (S := flip fun t _ => t.parallelism < Nat.pow 2 32 ∧ True) fun n t h => by
        refine ⟨?_, trivial⟩
        by_cases hone : t.parallelism = 1
        · rw [hone]
          decide
        · rw [h.together hone]
          exact hparallelism
    exact ((List.forall₂_and_left _ _).mp hruns.flip).1
  refine ⟨?_, hinstances t ht, fun p hp => ?_⟩
  · show t.id < _
    omega
  · obtain ⟨i, hi, rfl⟩ := List.mem_map.mp hp
    have := (Plan.sources_inputTransformations plans 0 t ht i.id (List.mem_map_of_mem hi)).2
    show i.id < _
    omega

end StreamGraph
end Stencil
