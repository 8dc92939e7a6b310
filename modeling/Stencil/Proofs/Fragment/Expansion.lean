/-
One pass over the references of a text.

`Falls` says without the walk how a text falls into literal stretches and references: each
reference is the leftmost one in what is left of the text, and of the references that begin
there it is the shortest.  A text falls apart in one way only, and replacing references puts
the values into their places and changes nothing else (`expand_of_falls`).

A second pass meets what the first one has left: references without a value, and signs that
begin no reference.  If the values are `Seamless`, no reference comes about or goes away where
one was put in, and two passes come to one pass with both collections of values
(`expand_expand`).
-/
import Stencil.Proofs.Fragment.InForce

namespace Stencil.Fragment

namespace Part

variable {text front rest name : List Char} {c : Char}

/-! ### Where a reference begins -/

/-- A reference to the name stands in front of the rest. -/
structure Occurs (text name rest : List Char) : Prop where
  nonempty : name ≠ []
  oneLine : '\n' ∉ name
  here : text = written (reference name) ++ rest

/-- A name is closed by the first brace, if no line ends before it. -/
theorem closing?_append_brace (hbrace : '\x7d' ∉ name) (hline : '\n' ∉ name) (rest : List Char) :
    closing? (name ++ '\x7d' :: rest) = some name := by
  induction name with
  | nil => rfl
  | cons c name ih =>
      have hc : c ≠ '\x7d' := (List.ne_of_not_mem_cons hbrace).symm
      have hc' : c ≠ '\n' := (List.ne_of_not_mem_cons hline).symm
      rw [List.cons_append, closing?, if_neg (by simpa using hc), if_neg (by simpa using hc'),
        ih (List.not_mem_of_not_mem_cons hbrace) (List.not_mem_of_not_mem_cons hline)]
      rfl

/-- A brace that no line ends before closes some name. -/
theorem closing?_ne_none (hline : '\n' ∉ name) (rest : List Char) :
    closing? (name ++ '\x7d' :: rest) ≠ none := by
  induction name with
  | nil => exact Option.some_ne_none _
  | cons c name ih =>
      have hc : c ≠ '\n' := (List.ne_of_not_mem_cons hline).symm
      rw [List.cons_append, closing?]
      split
      · exact Option.some_ne_none _
      · rw [if_neg (by simpa using hc)]
        simpa using ih (List.not_mem_of_not_mem_cons hline)

theorem notMem_of_closing? (h : closing? text = some name) : '\x7d' ∉ name ∧ '\n' ∉ name := by
  induction text generalizing name with
  | nil => cases h
  | cons c text ih =>
      rw [closing?] at h
      split at h
      · cases h
        exact ⟨List.not_mem_nil, List.not_mem_nil⟩
      · rename_i hbrace
        split at h
        · cases h
        · rename_i hline
          obtain ⟨front, hfront, rfl⟩ := Option.map_eq_some_iff.mp h
          obtain ⟨hbraces, hlines⟩ := ih hfront
          exact ⟨List.not_mem_cons_of_ne_of_not_mem (by rintro rfl; exact hbrace rfl) hbraces,
            List.not_mem_cons_of_ne_of_not_mem (by rintro rfl; exact hline rfl) hlines⟩

/-- **A text begins with the shortest reference that stands in front of it.**  The first
character of a name may be a brace, and no other can. -/
theorem name?_eq_some_iff :
    name? text = some name ↔ (∃ rest, Occurs text name rest) ∧ '\x7d' ∉ name.tail := by
  constructor
  · intro h
    obtain ⟨rest, htext⟩ := name?_eq_some h
    unfold name? at h
    split at h
    · rename_i c behind
      split at h
      · cases h
      · rename_i hline
        obtain ⟨front, hfront, rfl⟩ := Option.map_eq_some_iff.mp h
        obtain ⟨hbraces, hlines⟩ := notMem_of_closing? hfront
        have hlines' : '\n' ∉ c :: front :=
          List.not_mem_cons_of_ne_of_not_mem (by rintro rfl; exact hline rfl) hlines
        exact ⟨⟨rest, List.cons_ne_nil _ _, hlines', htext⟩, hbraces⟩
    · cases h
  · rintro ⟨⟨rest, hne, hlines, rfl⟩, hbraces⟩
    cases name with
    | nil => exact absurd rfl hne
    | cons c name =>
        rw [List.tail_cons] at hbraces
        have hc : c ≠ '\n' := (List.ne_of_not_mem_cons hlines).symm
        have hclosing := closing?_append_brace hbraces (List.not_mem_of_not_mem_cons hlines) rest
        simp only [written, List.cons_append, List.nil_append, List.append_assoc, name?]
        rw [if_neg (by simpa using hc), hclosing]
        rfl

/-- A text begins with no reference only if none stands in front of it. -/
theorem name?_eq_none_iff :
    name? text = none ↔ ∀ name rest, ¬ Occurs text name rest := by
  constructor
  · rintro h name rest ⟨hne, hlines, rfl⟩
    cases name with
    | nil => exact hne rfl
    | cons c name =>
        have hc : c ≠ '\n' := (List.ne_of_not_mem_cons hlines).symm
        have hclosing := closing?_ne_none (List.not_mem_of_not_mem_cons hlines) rest
        simp only [written, List.cons_append, List.nil_append, List.append_assoc, name?] at h
        rw [if_neg (by simpa using hc), Option.map_eq_none_iff] at h
        exact hclosing h
  · intro h
    by_contra hsome
    obtain ⟨name, hname⟩ := Option.ne_none_iff_exists'.mp hsome
    obtain ⟨⟨rest, hhere⟩, -⟩ := name?_eq_some_iff.mp hname
    exact h name rest hhere

theorem name?_cons_of_ne (h : c ≠ '$') : name? (c :: text) = none := by
  rw [name?_eq_none_iff]
  rintro name behind ⟨-, -, hhere⟩
  exact h (List.cons.inj hhere).1

theorem name?_dollar_of_head? (h : text.head? ≠ some '\x7b') : name? ('$' :: text) = none := by
  rw [name?_eq_none_iff]
  rintro name behind ⟨-, -, hhere⟩
  obtain rfl : text = '\x7b' :: (name ++ '\x7d' :: behind) := by
    simpa [written] using (List.cons.inj hhere).2
  exact h rfl

/-- Where no brace closes a name before the line ends, no reference begins either. -/
theorem name?_of_closing?_eq_none (h : closing? rest = none) : name? (c :: rest) = none := by
  rw [name?_eq_none_iff]
  rintro name behind ⟨-, hline, hhere⟩
  obtain ⟨-, rfl⟩ := List.cons.inj hhere
  have hbraced : '\n' ∉ '\x7b' :: name := List.not_mem_cons_of_ne_of_not_mem (by decide) hline
  exact closing?_ne_none hbraced behind (by simpa using h)

/-- A reference without a brace behind the first character of its name is the shortest. -/
theorem Occurs.shortest_iff (h : Occurs text name rest) :
    (∀ name' rest', Occurs text name' rest' → name.length ≤ name'.length)
      ↔ '\x7d' ∉ name.tail := by
  have hne := h.nonempty
  constructor
  · intro hshortest hmem
    obtain ⟨front, back, htail⟩ := List.append_of_mem hmem
    obtain ⟨c, name, rfl⟩ := List.exists_cons_of_ne_nil hne
    obtain rfl : name = front ++ '\x7d' :: back := htail
    have hshorter : Occurs text (c :: front) (back ++ '\x7d' :: rest) := by
      refine ⟨List.cons_ne_nil _ _, fun hline => h.oneLine ?_, ?_⟩
      · rw [← List.cons_append]
        exact List.mem_append_left _ hline
      · rw [h.here]
        simp [written]
    have hle := hshortest _ _ hshorter
    simp only [List.length_cons, List.length_append] at hle
    omega
  · intro hbrace name' rest' h'
    by_contra hlt
    obtain ⟨c, name, rfl⟩ := List.exists_cons_of_ne_nil hne
    obtain ⟨c', name', rfl⟩ := List.exists_cons_of_ne_nil h'.nonempty
    have htext := h.here.symm.trans h'.here
    simp only [written, List.cons_append, List.nil_append, List.append_assoc, List.cons.injEq,
      true_and] at htext
    -- The brace behind the shorter name stands inside the longer one.
    have hfront : name' ++ ['\x7d'] <+: name := by
      refine List.prefix_of_prefix_length_le ⟨rest', ?_⟩ ⟨'\x7d' :: rest, rfl⟩ ?_
      · rw [htext.2, List.append_assoc]
        rfl
      · simp only [List.length_cons] at hlt
        rw [List.length_append, List.length_singleton]
        omega
    exact hbrace (hfront.subset (by simp))

/-! ### How a text falls apart -/

/-- Induction along the parts of a text: a character that begins no reference, or a whole
reference. -/
theorem readInduction {motive : List Char → Prop} (nil : motive [])
    (plain : ∀ c rest, name? (c :: rest) = none → motive rest → motive (c :: rest))
    (reference : ∀ name rest, name? (written (reference name) ++ rest) = some name →
      motive rest → motive (written (.reference name) ++ rest))
    (text : List Char) : motive text := by
  -- What is left behind a reference is shorter than the text, hence the induction on a bound.
  suffices h : ∀ n text, List.length text ≤ n → motive text from h _ text (Nat.le_refl _)
  intro n
  induction n with
  | zero =>
      intro text hlen
      rw [List.length_eq_zero_iff.mp (Nat.le_zero.mp hlen)]
      exact nil
  | succ n ih =>
      intro text hlen
      cases text with
      | nil => exact nil
      | cons c text =>
          rw [List.length_cons] at hlen
          cases hname : name? (c :: text) with
          | none => exact plain c text hname (ih text (by omega))
          | some name =>
              obtain ⟨rest, htext⟩ := name?_eq_some hname
              have hshorter : rest.length ≤ n := by
                have hlength := congrArg List.length htext
                simp only [written, List.length_append, List.length_cons] at hlength
                omega
              rw [htext] at hname ⊢
              exact reference name rest hname (ih rest hshorter)

/-- No reference begins in the front of a text. -/
def Clear (front rest : List Char) : Prop :=
  ∀ back, back <:+ front → back ≠ [] → ∀ name behind, ¬ Occurs (back ++ rest) name behind

theorem clear_nil (rest : List Char) : Clear [] rest :=
  fun _ hback hne => absurd (List.suffix_nil.mp hback) hne

theorem clear_cons :
    Clear (c :: front) rest ↔ name? (c :: (front ++ rest)) = none ∧ Clear front rest := by
  rw [name?_eq_none_iff]
  constructor
  · intro h
    refine ⟨h (c :: front) (List.suffix_refl _) (List.cons_ne_nil _ _), fun back hback => ?_⟩
    exact h back (hback.trans (List.suffix_cons c front))
  · rintro ⟨hhere, hfront⟩ back hback hne
    rcases List.suffix_cons_iff.mp hback with rfl | hback
    · exact hhere
    · exact hfront back hback hne

/-- A text falls into references, each with the literal stretch in front of it, and a last
literal stretch. -/
inductive Falls : List Char → List (List Char × List Char) → List Char → Prop
  | last {text : List Char} (hclear : Clear text []) : Falls text [] text
  | more {front text name rest last : List Char} {stretches : List (List Char × List Char)}
      (hclear : Clear front text) (hhere : Occurs text name rest)
      (hshortest : ∀ name' rest', Occurs text name' rest' → name.length ≤ name'.length)
      (hrest : Falls rest stretches last) :
      Falls (front ++ text) ((front, name) :: stretches) last

variable {last : List Char} {stretches : List (List Char × List Char)}

/-- One more literal character in front. -/
theorem Falls.cons (hnone : name? (c :: text) = none) (h : Falls text stretches last) :
    ∃ stretches' last', Falls (c :: text) stretches' last' := by
  cases h with
  | last hclear => exact ⟨_, _, .last (clear_cons.mpr ⟨by simpa using hnone, hclear⟩)⟩
  | more hclear hhere hshortest hrest =>
      exact ⟨_, _, .more (clear_cons.mpr ⟨hnone, hclear⟩) hhere hshortest hrest⟩

theorem exists_falls (text : List Char) : ∃ stretches last, Falls text stretches last := by
  induction text using readInduction with
  | nil => exact ⟨[], [], .last (clear_nil [])⟩
  | plain c rest hnone ih =>
      obtain ⟨stretches, last, h⟩ := ih
      exact h.cons hnone
  | reference name rest hname ih =>
      obtain ⟨stretches, last, h⟩ := ih
      obtain ⟨⟨rest', hhere⟩, hbrace⟩ := name?_eq_some_iff.mp hname
      obtain rfl : rest = rest' := List.append_cancel_left hhere.here
      have hmore := Falls.more (clear_nil _) hhere (hhere.shortest_iff.mpr hbrace) h
      exact ⟨_, _, hmore⟩

/-- The parts that a text falls into. -/
def partsOf (stretches : List (List Char × List Char)) (last : List Char) : List Part :=
  stretches.flatMap (fun s => s.1.map plain ++ [reference s.2]) ++ last.map plain

theorem partsOf_cons (front name : List Char) :
    partsOf ((front, name) :: stretches) last
      = front.map plain ++ reference name :: partsOf stretches last := by
  simp [partsOf]

theorem read_append_of_clear (h : Clear front rest) :
    read (front ++ rest) = front.map plain ++ read rest := by
  induction front with
  | nil => rfl
  | cons c front ih =>
      obtain ⟨hnone, hfront⟩ := clear_cons.mp h
      rw [List.cons_append, read_cons_of_none hnone, ih hfront]
      rfl

/-- **The walk over a text finds what it falls into.** -/
theorem read_of_falls (h : Falls text stretches last) : read text = partsOf stretches last := by
  induction h with
  | @last text hclear =>
      have hread := read_append_of_clear hclear
      rwa [List.append_nil, show read [] = [] from rfl, List.append_nil] at hread
  | @more front text name rest last stretches hclear hhere hshortest hrest ih =>
      have hname : name? text = some name :=
        name?_eq_some_iff.mpr ⟨⟨rest, hhere⟩, hhere.shortest_iff.mp hshortest⟩
      rw [hhere.here] at hname
      rw [read_append_of_clear hclear, hhere.here, read_written hname, ih, partsOf_cons]

/-- The parts in front of the first reference, and its name, can be told from the parts. -/
theorem plain_append_reference_inj {front front' name name' : List Char} {ps ps' : List Part}
    (h : front.map plain ++ reference name :: ps = front'.map plain ++ reference name' :: ps') :
    front = front' ∧ name = name' ∧ ps = ps' := by
  induction front generalizing front' with
  | nil =>
      cases front' with
      | nil =>
          obtain ⟨hname, hps⟩ := List.cons.inj h
          exact ⟨rfl, reference.inj hname, hps⟩
      | cons d front' => cases (List.cons.inj h).1
  | cons c front ih =>
      cases front' with
      | nil => cases (List.cons.inj h).1
      | cons d front' =>
          obtain ⟨hc, hrest⟩ := List.cons.inj h
          obtain ⟨rfl, hname, hps⟩ := ih hrest
          exact ⟨by rw [plain.inj hc], hname, hps⟩

theorem plain_ne_append_reference {last front name : List Char} {ps : List Part} :
    last.map plain ≠ front.map plain ++ reference name :: ps := by
  intro h
  have hmem : reference name ∈ last.map plain := by
    rw [h]
    exact List.mem_append_right _ List.mem_cons_self
  obtain ⟨c, -, hc⟩ := List.mem_map.mp hmem
  cases hc

theorem partsOf_injective {stretches' : List (List Char × List Char)} {last' : List Char}
    (h : partsOf stretches last = partsOf stretches' last') :
    stretches = stretches' ∧ last = last' := by
  induction stretches generalizing stretches' with
  | nil =>
      cases stretches' with
      | nil => exact ⟨rfl, List.map_injective_iff.mpr (fun _ _ => plain.inj) h⟩
      | cons s stretches' =>
          rw [partsOf_cons] at h
          exact absurd h plain_ne_append_reference
  | cons s stretches ih =>
      rw [partsOf_cons] at h
      cases stretches' with
      | nil => exact absurd h.symm plain_ne_append_reference
      | cons s' stretches' =>
          rw [partsOf_cons] at h
          obtain ⟨hfront, hname, hrest⟩ := plain_append_reference_inj h
          obtain ⟨rfl, hlast⟩ := ih hrest
          exact ⟨by rw [Prod.ext hfront hname], hlast⟩

/-- **A text falls apart in one way only.** -/
theorem Falls.unique {stretches' : List (List Char × List Char)} {last' : List Char}
    (h : Falls text stretches last) (h' : Falls text stretches' last') :
    stretches = stretches' ∧ last = last' :=
  partsOf_injective ((read_of_falls h).symm.trans (read_of_falls h'))

end Part

open Fragment.Part

variable {values : Values} {text rest name value : List Char}

/-- **Replacing references keeps the literal stretches and the references without a value, and
puts each value in as it is.** -/
theorem expand_of_falls {stretches : List (List Char × List Char)} {last : List Char}
    (h : Falls text stretches last) :
    expand values text
      = stretches.flatMap
          (fun s => s.1 ++ (values s.2).getD (['$', '\x7b'] ++ s.2 ++ ['\x7d'])) ++ last := by
  unfold expand
  rw [read_of_falls h, partsOf, List.flatMap_append, List.flatMap_assoc, List.flatMap_map]
  congr 1
  · congr 1
    funext s
    rw [List.flatMap_append, List.flatMap_map, List.flatMap_singleton]
    exact congrArg (· ++ _) (List.flatMap_singleton' s.1)
  · exact List.flatMap_singleton' last

/-! ### What a second pass meets -/

theorem expand_cons_of_none {c : Char} (h : name? (c :: rest) = none) :
    expand values (c :: rest) = c :: expand values rest := by
  unfold expand
  rw [read_cons_of_none h]
  rfl

theorem expand_written (h : name? (written (reference name) ++ rest) = some name) :
    expand values (written (reference name) ++ rest)
      = (values name).getD (written (reference name)) ++ expand values rest := by
  unfold expand
  rw [read_written h]
  rfl

/-- A text that makes no reference where it is put in: it begins none, and it ends none that a
dollar sign in front of it begins. -/
structure Seamless (value : List Char) : Prop where
  nonempty : value ≠ []
  noDollar : '$' ∉ value
  noBrace : value.head? ≠ some '\x7b'

/-- All values are seamless. -/
def Values.AllSeamless (values : Values) : Prop :=
  ∀ name value, values name = some value → Seamless value

/-- A text without a dollar sign is kept, whatever stands behind it. -/
theorem expand_append_of_noDollar (h : '$' ∉ value) (rest : List Char) :
    expand values (value ++ rest) = value ++ expand values rest := by
  induction value with
  | nil => rfl
  | cons c value ih =>
      have hc : c ≠ '$' := (List.ne_of_not_mem_cons h).symm
      rw [List.cons_append, expand_cons_of_none (name?_cons_of_ne hc),
        ih (List.not_mem_of_not_mem_cons h)]
      rfl

/-- A name that no brace closes before the line ends is closed by no value either. -/
theorem closing?_expand (h : closing? text = none) : closing? (expand values text) = none := by
  induction text with
  | nil => rfl
  | cons c text ih =>
      rw [closing?] at h
      split at h
      · cases h
      · rename_i hbrace
        split at h
        · rename_i hline
          obtain rfl : c = '\n' := beq_iff_eq.mp hline
          have hnone : name? ('\n' :: text) = none := rfl
          rw [expand_cons_of_none hnone]
          rfl
        · rename_i hline
          have hrest : closing? text = none := Option.map_eq_none_iff.mp h
          rw [expand_cons_of_none (name?_of_closing?_eq_none hrest), closing?, if_neg hbrace,
            if_neg hline, ih hrest]
          rfl

/-- What replaces a reference begins with no brace. -/
theorem head?_image_ne (hvalues : values.AllSeamless)
    (name rest : List Char) :
    ((values name).getD (written (reference name)) ++ rest).head? ≠ some '\x7b' := by
  cases hvalue : values name with
  | none => simp [written]
  | some value =>
      have hseamless := hvalues name value hvalue
      rw [Option.getD_some, List.head?_append_of_ne_nil _ hseamless.nonempty]
      exact hseamless.noBrace

/-- An opening that begins no reference begins none once the text behind it is expanded. -/
theorem name?_opening_expand (h : name? ('$' :: '\x7b' :: text) = none) :
    name? ('$' :: '\x7b' :: expand values text) = none := by
  cases text with
  | nil => rfl
  | cons c rest =>
      rw [name?] at h
      split at h
      · rename_i hline
        obtain rfl : c = '\n' := beq_iff_eq.mp hline
        rw [expand_cons_of_none (name?_cons_of_ne (by decide))]
        rfl
      · rename_i hline
        have hclosing : closing? rest = none := Option.map_eq_none_iff.mp h
        rw [expand_cons_of_none (name?_of_closing?_eq_none hclosing), name?, if_neg hline,
          closing?_expand hclosing]
        rfl

/-- **Where no reference begins, none begins once the text behind is expanded.** -/
theorem name?_cons_expand (hvalues : values.AllSeamless)
    {c : Char} (h : name? (c :: text) = none) : name? (c :: expand values text) = none := by
  by_cases hc : c = '$'
  · subst hc
    induction text using readInduction with
    | nil => rfl
    | reference name rest hname _ =>
        rw [expand_written hname]
        exact name?_dollar_of_head? (head?_image_ne hvalues name _)
    | plain d rest hnone _ =>
        rw [expand_cons_of_none hnone]
        by_cases hd : d = '\x7b'
        · subst hd
          exact name?_opening_expand h
        · exact name?_dollar_of_head? (by simpa using hd)
  · exact name?_cons_of_ne hc

/-- **Two passes come to one pass with both collections of values.** -/
theorem expand_expand (hvalues : values.AllSeamless) (values' : Values) (text : List Char) :
    expand values' (expand values text)
      = expand (fun name => (values name).or (values' name)) text := by
  induction text using readInduction with
  | nil => rfl
  | plain c rest hnone ih =>
      rw [expand_cons_of_none hnone, expand_cons_of_none hnone,
        expand_cons_of_none (name?_cons_expand hvalues hnone), ih]
  | reference name rest hname ih =>
      rw [expand_written hname, expand_written hname]
      cases hvalue : values name with
      | none =>
          rw [Option.getD_none, Option.none_or, expand_written (name?_written hname _), ih]
      | some value =>
          rw [Option.getD_some, Option.some_or, Option.getD_some,
            expand_append_of_noDollar (hvalues name value hvalue).noDollar, ih]

/-! ### Fragments in force -/

namespace Registry

variable {r : Registry}

theorem allSeamless_values (h : ∀ entry ∈ r.entries, Seamless entry.2.toList) :
    r.values.AllSeamless := by
  intro name value hvalue
  obtain ⟨sql, hget, rfl⟩ := Option.map_eq_some_iff.mp hvalue
  exact h _ (Keyed.mem_of_find? hget)

/--
**Expansion is one faithful pass.**  A text falls in one way into literal stretches and the
leftmost and shortest references between them; the stretches and the references without a value
are kept, and each other reference is replaced by the value as it is stored.  If no value is
empty, holds a dollar sign or begins with an opening brace, a second pass changes nothing.
-/
theorem expand_single_pass (r : Registry) (text : List Char) :
    (∃ stretches last, Falls text stretches last
        ∧ (∀ stretches' last', Falls text stretches' last' →
            stretches' = stretches ∧ last' = last)
        ∧ r.expand text = stretches.flatMap (fun s =>
            s.1 ++ (r.values s.2).getD (['$', '\x7b'] ++ s.2 ++ ['\x7d'])) ++ last)
      ∧ (r.values.AllSeamless → r.expand (r.expand text) = r.expand text) := by
  constructor
  · obtain ⟨stretches, last, h⟩ := exists_falls text
    exact ⟨stretches, last, h, fun _ _ h' => h'.unique h, expand_of_falls h⟩
  · intro hvalues
    have htwice := expand_expand hvalues r.values text
    simp only [Option.or_self] at htwice
    exact htwice

/-- A dollar sign in front of a reference, a reference inside of one, one that a line ends, and
one whose name begins with a brace. -/
theorem expand_single_pass_broken :
    let r : Registry := ⟨[("x", "1")]⟩
    let text := "$${x}\x7d ${y} $\x7b${x}\x7d $\x7bx\n\x7d ${x} $\x7b\x7d ${x}"
    let out := "$1\x7d ${y} $\x7b${x}\x7d $\x7bx\n\x7d 1 $\x7b\x7d ${x}"
    r.values.AllSeamless ∧ r.expand text.toList = out.toList
      ∧ r.expand out.toList = out.toList := by
  intro r text out
  have hseamless : r.values.AllSeamless := allSeamless_values fun entry hentry => by
    obtain rfl : entry = ("x", "1") := List.mem_singleton.mp hentry
    exact ⟨by decide, by decide, by decide⟩
  have hfirst : r.expand text.toList = out.toList := by decide +kernel
  have hsecond := (expand_single_pass r text.toList).2 hseamless
  rw [hfirst] at hsecond
  exact ⟨hseamless, hfirst, hsecond⟩

/-- A value that begins with a brace makes a reference with the dollar sign in front of it. -/
example :
    expand ⟨[("a", "1"), ("x", "\x7ba")]⟩ "$${x}\x7d".toList = "${a}".toList := by
  decide +kernel

end Registry
end Stencil.Fragment
