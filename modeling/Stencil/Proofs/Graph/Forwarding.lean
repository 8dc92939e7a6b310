/-
How many instances run at the two ends of an edge.

An edge ships rows as the operator it leads into asks for, and each operator runs with as many
instances as its own distribution says.  So an edge that forwards rows leads into an operator that
runs as often as is configured.  It comes from one that runs as often unless that operator brings
its rows together in one place: then a single instance forwards to all the others.
-/
import Stencil.Proofs.Graph.Forest
import Stencil.Proofs.Plan.Folding

namespace Stencil.Plan

variable {parallelism : Nat} {ts : List Transformation} {t u : Transformation} {n : Plan}
  {i : Transformation.Input}

/-! ### Gathering -/

/-- The operator needs all rows in one place: it folds them without keys, joins them on no
condition, or puts them in order or cuts them to size. -/
inductive Operator.Gathers : Operator → Prop
  | fold (calls : List (String × String)) : Gathers (.aggregate [] calls)
  | cross (mode : JoinMode) : Gathers (.join mode none)
  | sort (keys : List String) (offset limit : Option String) : Gathers (.sort keys offset limit)

theorem distribution_eq_global_iff {op : Operator} :
    op.distribution = .global ↔ op.Gathers := by
  constructor
  · intro h
    unfold Operator.distribution at h
    split at h
    · exact .fold _
    · cases h
    · cases h
    · exact .cross _
    · exact .sort _ _ _
    · cases h
  · rintro (calls | mode | ⟨keys, offset, limit⟩)
    · rfl
    · rfl
    · rfl

theorem Runs.parallelism_of_gathers (h : Runs parallelism n t) (hn : n.operator.Gathers) :
    t.parallelism = 1 :=
  h.alone.mpr (.inl (distribution_eq_global_iff.mpr hn))

/-- What does not gather its rows runs as often as is configured. -/
theorem Runs.parallelism_of_not_gathers (h : Runs parallelism n t)
    (hn : ¬ n.operator.Gathers) : t.parallelism = parallelism := by
  by_cases hone : t.parallelism = 1
  · rcases h.alone.mp hone with hglobal | hconfigured
    · exact absurd (distribution_eq_global_iff.mp hglobal) hn
    · rw [hone, hconfigured]
  · exact h.together hone

/-! ### Edges -/

/-- The edge leads from one transformation to another, and so do the operators that they run. -/
structure Connects (parallelism : Nat) (ts : List Transformation) (i : Transformation.Input)
    (m n : Plan) (t u : Transformation) : Prop where
  consumer : Runs parallelism m t
  producer : Runs parallelism n u
  input : n ∈ m.inputs
  /-- The number of the edge is that of the producer, and of no other transformation. -/
  number : ∀ u' ∈ ts, u'.id = i.id ↔ u' = u

theorem exists_of_standForEach {ids : List Nat} {plans : List Plan}
    (h : StandForEach parallelism ts ids plans) {id : Nat} (hid : id ∈ ids) :
    ∃ n ∈ plans, ∃ u ∈ ts, u.id = id ∧ Runs parallelism n u := by
  induction plans generalizing ids with
  | nil =>
      rw [StandForEach] at h
      subst h
      cases hid
  | cons p rest ih =>
      rw [StandForEach] at h
      obtain ⟨first, others, rfl, hfirst, hothers⟩ := h
      rcases List.mem_cons.mp hid with rfl | hid
      · obtain ⟨op, inputs, fields⟩ := p
        rw [Stands] at hfirst
        obtain ⟨u, hu, hid, hruns, -⟩ := hfirst
        exact ⟨_, List.mem_cons_self, u, hu, hid, hruns⟩
      · obtain ⟨n, hn, u, hu, hid, hruns⟩ := ih hothers hid
        exact ⟨n, List.mem_cons_of_mem _ hn, u, hu, hid, hruns⟩

mutual

/-- Each transformation runs some node, and draws on what stands for the inputs of that node. -/
theorem exists_node_of_transformation : ∀ (p : Plan) (last : Nat),
    ∀ t ∈ transformations parallelism last p, ∃ m ∈ p.nodes, Runs parallelism m t
      ∧ StandForEach parallelism (transformations parallelism last p) t.sources m.inputs
  | ⟨op, inputs, fields⟩, last, t, ht => by
    obtain ⟨root, heq, hruns, -, hsources⟩ :=
      transformations_eq parallelism ⟨op, inputs, fields⟩ last
    rw [heq] at ht ⊢
    have hmono : ∀ t ∈ (inputTransformations parallelism last inputs).1,
        t ∈ (inputTransformations parallelism last inputs).1 ++ [root] :=
      fun t => List.mem_append_left _
    rcases List.mem_append.mp ht with hbelow | hroot
    · obtain ⟨m, hm, hmruns, hstands⟩ := exists_node_of_inputTransformation inputs last t hbelow
      refine ⟨m, ?_, hmruns, StandForEach.mono hmono m.inputs _ hstands⟩
      rw [nodes]
      exact List.mem_append_left _ hm
    · obtain rfl := List.mem_singleton.mp hroot
      refine ⟨⟨op, inputs, fields⟩, mem_nodes.mpr (.inl rfl), hruns, ?_⟩
      rw [hsources]
      exact StandForEach.mono hmono inputs _ (standForEach_inputTransformations inputs last)

theorem exists_node_of_inputTransformation : ∀ (plans : List Plan) (last : Nat),
    ∀ t ∈ (inputTransformations parallelism last plans).1,
      ∃ m ∈ nodesOfEach plans, Runs parallelism m t
        ∧ StandForEach parallelism (inputTransformations parallelism last plans).1 t.sources
          m.inputs
  | [], last, t, ht => by
    rw [inputTransformations] at ht
    cases ht
  | p :: rest, last, t, ht => by
    rw [inputTransformations] at ht ⊢
    rw [nodesOfEach]
    rcases List.mem_append.mp ht with hfirst | hothers
    · obtain ⟨m, hm, hruns, hstands⟩ := exists_node_of_transformation p last t hfirst
      exact ⟨m, List.mem_append_left _ hm, hruns,
        StandForEach.mono (fun t => List.mem_append_left _) m.inputs _ hstands⟩
    · obtain ⟨m, hm, hruns, hstands⟩ := exists_node_of_inputTransformation rest _ t hothers
      exact ⟨m, List.mem_append_right _ hm, hruns,
        StandForEach.mono (fun t => List.mem_append_right _) m.inputs _ hstands⟩

end

theorem nodup_ids_translate (parallelism : Nat) (plans : List Plan) :
    ((translate parallelism plans).map (·.id)).Nodup := by
  rw [translate, ids_inputTransformations]
  exact List.nodup_range'

/-- **Each edge connects two transformations as the plans connect what they run.** -/
theorem exists_connects (parallelism : Nat) (plans : List Plan) :
    ∀ t ∈ translate parallelism plans, ∀ i ∈ t.inputs,
      ∃ m ∈ nodesOfEach plans, ∃ n, ∃ u ∈ translate parallelism plans,
        Connects parallelism (translate parallelism plans) i m n t u := by
  intro t ht i hi
  obtain ⟨m, hm, hruns, hstands⟩ := exists_node_of_inputTransformation plans 0 t ht
  obtain ⟨n, hn, u, hu, hid, hproducer⟩ :=
    exists_of_standForEach hstands (List.mem_map_of_mem (f := Transformation.Input.id) hi)
  refine ⟨m, hm, n, u, hu, hruns, hproducer, hn,
    fun u' hu' => ⟨fun hsame => ?_, fun hsame => hsame ▸ hid⟩⟩
  exact List.inj_on_of_nodup_map (nodup_ids_translate parallelism plans) hu' hu
    (hsame.trans hid.symm)

/--
**Edges that forward rows.**  Such an edge leads into a transformation that runs as often as is
configured, from the only one with the number of the edge.  A producer that gathers its rows runs
once, and any other one runs as often as the consumer: the two ends of the edge have the same
parallelism if and only if the producer does not gather its rows or a parallelism of one is
configured.
-/
theorem forward_edges (parallelism : Nat) (plans : List Plan) :
    ∀ t ∈ translate parallelism plans, ∀ i ∈ t.inputs, i.strategy = .forward →
      t.parallelism = parallelism
        ∧ ∃ m ∈ nodesOfEach plans, ∃ n, ∃ u ∈ translate parallelism plans,
          Connects parallelism (translate parallelism plans) i m n t u
            ∧ (n.operator.Gathers → u.parallelism = 1)
            ∧ (u.parallelism = t.parallelism ↔ ¬ n.operator.Gathers ∨ parallelism = 1) := by
  intro t ht i hi hforward
  obtain ⟨m, hm, n, u, hu, hconnects⟩ := exists_connects parallelism plans t ht i hi
  have hconsumer : t.parallelism = parallelism := by
    refine hconnects.consumer.parallelism_of_not_gathers fun hgathers => ?_
    rw [hconnects.consumer.shipped i hi, distribution_eq_global_iff.mpr hgathers] at hforward
    cases hforward
  refine ⟨hconsumer, m, hm, n, u, hu, hconnects, hconnects.producer.parallelism_of_gathers, ?_⟩
  rw [hconsumer]
  by_cases hgathers : n.operator.Gathers
  · rw [hconnects.producer.parallelism_of_gathers hgathers]
    simp [hgathers, eq_comm]
  · simp [hconnects.producer.parallelism_of_not_gathers hgathers, hgathers]

/-- The tables `a` and `g`. -/
def tablesAG : Catalog :=
  ⟨"default_catalog", "default_database",
    [(⟨"default_catalog", "default_database", "a"⟩, .table [⟨"i", "INT"⟩] []),
      (⟨"default_catalog", "default_database", "g"⟩, .table [⟨"t", "INT"⟩] [])], []⟩

/-- The insertion of one column over the table `a` into the table `g`. -/
def intoG (e : Sql.Expr) : Sql.Statement :=
  .insert ⟨"INSERT INTO", [.plain "g"], [], [], some (plainly (.select (selecting false e))), []⟩

/-- Rows that are only computed are forwarded from four instances to four. -/
theorem forward_edges_computed :
    (intoG (.name (.plain "i"))).written = "INSERT INTO g SELECT i FROM a"
      ∧ ∃ p, ofStatement tablesAG (intoG (.name (.plain "i"))) = .ok (some p)
        ∧ ∃ m n t u, Connects 4 (translate 4 [p]) ⟨2, .forward⟩ m n t u
          ∧ t.parallelism = 4 ∧ u.parallelism = 4 ∧ ¬ n.operator.Gathers := by
  obtain ⟨p, hp, hedge, hfour⟩ : ∃ p,
      ofStatement tablesAG (intoG (.name (.plain "i"))) = .ok (some p)
      ∧ (∃ t ∈ translate 4 [p], (⟨2, .forward⟩ : Transformation.Input) ∈ t.inputs)
      ∧ ∀ t ∈ translate 4 [p], t.parallelism = 4 :=
    ⟨_, rfl, by decide +kernel, by decide +kernel⟩
  obtain ⟨t, ht, hi⟩ := hedge
  obtain ⟨hconsumer, m, -, n, u, hu, hconnects, -, hsame⟩ := forward_edges 4 [p] t ht _ hi rfl
  have hnot := (hsame.mp ((hfour u hu).trans (hfour t ht).symm)).resolve_right (by decide)
  exact ⟨by decide +kernel, p, hp, m, n, t, u, hconnects, hconsumer, hfour u hu, hnot⟩

/-- A sum is forwarded from one instance to four. -/
theorem forward_edges_gathered :
    (intoG sumOfColumn).written = "INSERT INTO g SELECT SUM(i) FROM a"
      ∧ ∃ p, ofStatement tablesAG (intoG sumOfColumn) = .ok (some p)
        ∧ (translate 4 [p]).map (fun t => (t.id, t.parallelism, t.inputs))
          = [(1, 4, []), (2, 1, [⟨1, .global⟩]), (3, 4, [⟨2, .forward⟩])]
        ∧ ¬ ∀ t ∈ translate 4 [p], ∀ i ∈ t.inputs, i.strategy = .forward →
          ∀ u ∈ translate 4 [p], u.id = i.id → u.parallelism = t.parallelism := by
  refine ⟨by decide +kernel, _, rfl, by decide +kernel, by decide +kernel⟩

end Stencil.Plan
