/-
No fragment is ever blank.

Names and texts come into the registry in two ways.  Those that are registered are
tested as they are given; those that a submission defines are tested before the
references in the text are replaced.  Neither way lets a blank one in, because
replacing references by texts that are not blank leaves none blank
(`visible_expand`), and so the registry keeps the property it needs itself.

It follows that a submission leaves the empty text over only if it leaves no
statement over: everything in it is a definition, a comment or a blank.
-/
import Stencil.Proofs.Fragment.Definition
import Stencil.Proofs.Fragment.Filler
import Stencil.Proofs.Fragment.Submission
import Stencil.Proofs.Keyed
import Stencil.Settings.Setup

namespace Stencil.Fragment.Registry

open Text

/-- What can be done to the fragments. -/
inductive Change where
  | register (name sql : String)
  | unregister (name : String)
  | clear
  | submit (text : String)
  | preload (texts : Keyed String String)

/-- The fragments behind a change.  What fails changes nothing. -/
def Change.carryOut (r : Registry) : Change → Except Error Registry
  | register name sql => r.register name sql
  | unregister name => Prod.snd <$> r.unregister name
  | clear => .ok empty
  | submit text => Prod.snd <$> r.submit text
  | preload texts => r.registerAll texts

/-- Reachable from the registry without fragments. -/
inductive Reachable : Registry → Prop
  | empty : Reachable empty
  | change {r r' : Registry} (h : Reachable r) (change : Change) (hr : change.carryOut r = .ok r') :
      Reachable r'

/-- Neither the name nor the text of a fragment is blank. -/
def NoBlanks (r : Registry) : Prop :=
  ∀ entry ∈ r.entries, Visible entry.1.toList ∧ Visible entry.2.toList

variable {r r' : Registry}

/-! ### Registering -/

theorem noBlanks_empty : NoBlanks empty := by
  intro entry h
  cases h

theorem NoBlanks.insert (h : r.NoBlanks) {name sql : String} (hname : Visible name.toList)
    (hsql : Visible sql.toList) : (r.insert name sql).NoBlanks := by
  intro entry hmem
  rcases Keyed.mem_of_mem_put hmem with rfl | hmem
  · exact ⟨hname, hsql⟩
  · exact h entry hmem

theorem register_eq_ok {name sql : String} (h : r.register name sql = .ok r') :
    isBlankText name = false ∧ isBlankText sql = false ∧ r' = r.insert name sql := by
  unfold register at h
  split at h
  · cases h
  · rename_i hname
    split at h
    · cases h
    · rename_i hsql
      cases h
      exact ⟨by simpa using hname, by simpa using hsql, rfl⟩

theorem NoBlanks.register (h : r.NoBlanks) {name sql : String}
    (hreg : r.register name sql = .ok r') : r'.NoBlanks := by
  obtain ⟨hname, hsql, rfl⟩ := register_eq_ok hreg
  exact h.insert ((visible_iff name).mpr hname) ((visible_iff sql).mpr hsql)

theorem NoBlanks.registerAll (h : r.NoBlanks) {texts : Keyed String String}
    (hreg : r.registerAll texts = .ok r') : r'.NoBlanks := by
  unfold Registry.registerAll at hreg
  exact invariant_of_foldlM (fun _ _ _ _ ht hstep => ht.register hstep) h hreg

theorem unregister_eq_ok {name sql : String} (h : r.unregister name = .ok (sql, r')) :
    r' = ⟨r.entries.remove name⟩ := by
  unfold Registry.unregister at h
  split at h
  · cases h
    rfl
  · cases h

theorem NoBlanks.unregister (h : r.NoBlanks) {name sql : String}
    (hun : r.unregister name = .ok (sql, r')) : r'.NoBlanks := by
  rw [unregister_eq_ok hun]
  intro entry hmem
  exact h entry (List.mem_of_mem_filter hmem)

/-! ### Submitting -/

/-- A text that is not blank is expanded to one that is not. -/
theorem NoBlanks.expand (h : r.NoBlanks) {text : List Char} (htext : Visible text) :
    Visible (r.expand text) := by
  refine visible_expand (fun name value hvalue => ?_) htext
  obtain ⟨sql, hget, rfl⟩ := Option.map_eq_some_iff.mp hvalue
  exact (h _ (Keyed.mem_of_find? hget)).2

/-- Nothing in a submission in progress is blank. -/
structure Staged.NoBlanks (s : Staged) : Prop where
  registry : s.registry.NoBlanks
  remaining : ∀ p ∈ s.remaining, Visible p

theorem noBlanks_take {s s' : Staged} (hs : s.NoBlanks) {statement : List Char}
    (hvisible : Visible statement) (h : s.take statement = .ok s') : s'.NoBlanks := by
  rcases take_eq_ok h with ⟨d, hread, hname, hvalue, rfl⟩ | ⟨-, rfl⟩
  · refine ⟨hs.registry.insert ?_ ?_, hs.remaining⟩
    · rw [String.toList_ofList]
      exact Definition.visible_name hread hname
    · rw [String.toList_ofList]
      exact hs.registry.expand (Definition.visible_value hread hvalue)
  · refine ⟨hs.registry, fun p hp => ?_⟩
    rcases List.mem_append.mp hp with hp | hp
    · exact hs.remaining p hp
    · rw [List.mem_singleton.mp hp]
      exact hs.registry.expand hvisible

theorem noBlanks_foldlM {l : List (List Char)} (hl : ∀ p ∈ l, Visible p) {s s' : Staged}
    (hs : s.NoBlanks) (h : l.foldlM Staged.take s = .ok s') : s'.NoBlanks :=
  invariant_of_foldlM (fun p hp _ _ ht htake => noBlanks_take ht (hl p hp) htake) hs h

theorem visible_of_mem_statements {text s : List Char} (h : s ∈ Scan.statements text) :
    Visible s :=
  have hbare := Scan.bare_of_mem_statements h
  visible_of_dropEndBlanks hbare.trimmed hbare.nonempty

/-- A submission to fragments that are not blank leaves nothing blank behind. -/
theorem NoBlanks.staged (h : r.NoBlanks) {text : String} {s : Staged}
    (hfold : (Scan.statements text.toList).foldlM Staged.take ⟨r, []⟩ = .ok s) : s.NoBlanks := by
  have hstart : Staged.NoBlanks ⟨r, []⟩ := ⟨h, fun _ hp => absurd hp List.not_mem_nil⟩
  exact noBlanks_foldlM (fun _ hp => visible_of_mem_statements hp) hstart hfold

theorem NoBlanks.submit (h : r.NoBlanks) {text out : String}
    (hsub : r.submit text = .ok (out, r')) : r'.NoBlanks := by
  obtain ⟨s, hfold, -, rfl⟩ := submit_eq_ok hsub
  exact (h.staged hfold).registry

/-! ### Every registry that can be reached -/

theorem NoBlanks.carryOut (h : r.NoBlanks) {change : Change}
    (hr : change.carryOut r = .ok r') : r'.NoBlanks := by
  cases change with
  | register name sql => exact h.register hr
  | unregister name =>
      obtain ⟨⟨sql, t⟩, hun, rfl⟩ := map_eq_ok.mp hr
      exact h.unregister hun
  | clear =>
      cases hr
      exact noBlanks_empty
  | submit text =>
      obtain ⟨⟨out, t⟩, hsub, rfl⟩ := map_eq_ok.mp hr
      exact h.submit hsub
  | preload texts => exact h.registerAll hr

/-- **No fragment of a registry that can be reached is blank.** -/
theorem Reachable.noBlanks (h : Reachable r) : r.NoBlanks := by
  induction h with
  | empty => exact noBlanks_empty
  | change _ change hr ih => exact ih.carryOut hr

/-- An environment is set up with fragments that can be reached. -/
theorem reachable_of_configured {σ : Type} {engine : σ} {c : Configuration} {env : Environment σ}
    (h : Environment.configured engine c = .ok env) : env.fragments.Reachable := by
  unfold Environment.configured at h
  obtain ⟨-, -, h⟩ := bind_eq_ok.mp h
  obtain ⟨fragments, hpreload, h⟩ := bind_eq_ok.mp h
  cases h
  exact .change .empty (.preload c.fragments) hpreload

/-! ### Submissions that leave nothing over -/

/-- As many statements are left over as do not define a fragment. -/
theorem length_remaining {l : List (List Char)} {s s' : Staged}
    (h : l.foldlM Staged.take s = .ok s') :
    s'.remaining.length = s.remaining.length + (l.filter isOrdinary).length := by
  induction l generalizing s with
  | nil =>
      rw [List.foldlM_nil] at h
      cases h
      rfl
  | cons p rest ih =>
      rw [List.foldlM_cons] at h
      obtain ⟨t, htake, h⟩ := bind_eq_ok.mp h
      rw [ih h]
      rcases take_eq_ok htake with ⟨d, hread, -, -, rfl⟩ | ⟨hord, rfl⟩
      · rw [List.filter_cons_of_neg (by simp [isOrdinary, hread])]
        rfl
      · rw [List.filter_cons_of_pos hord]
        simp only [Staged.putAside, List.length_append, List.length_cons, List.length_nil]
        omega

/-- Statements that are not empty are joined to the empty text only if there are none. -/
theorem text_eq_empty_iff {s : Staged} (hne : ∀ p ∈ s.remaining, p ≠ []) :
    s.text = "" ↔ s.remaining = [] := by
  rw [← String.toList_inj, toList_text]
  constructor
  · intro h
    cases hrem : s.remaining with
    | nil => rfl
    | cons p rest =>
        refine absurd ?_ (hne p (by simp [hrem]))
        rw [hrem] at h
        cases rest with
        | nil => simpa using h
        | cons q rest => simp [List.intercalate_cons_cons] at h
  · intro h
    rw [h]
    rfl

/-- The piece of a text defines a fragment. -/
def Defines (piece : List Char) : Prop := ∃ d, Definition.read? (Scan.statement piece) = some d

theorem ordinary_eq_nil_iff (text : String) :
    ordinary text = [] ↔ ∀ p ∈ Scan.split text.toList, Scan.Filler p ∨ Defines p := by
  unfold ordinary
  rw [List.filter_eq_nil_iff]
  constructor
  · intro h p hp
    by_cases hempty : Scan.statement p = []
    · exact Or.inl (Scan.statement_eq_nil_iff.mp hempty)
    · have hdef := h _ (Scan.mem_statements_iff.mpr ⟨p, hp, rfl, hempty⟩)
      exact Or.inr (Option.ne_none_iff_exists'.mp (by simpa [isOrdinary] using hdef))
  · intro h s hs hord
    obtain ⟨p, hp, rfl, hne⟩ := Scan.mem_statements_iff.mp hs
    rcases h p hp with hfiller | ⟨d, hread⟩
    · exact hne (Scan.statement_eq_nil_iff.mpr hfiller)
    · simp [isOrdinary, hread] at hord

/--
**The empty text is left over of definitions only.**  No fragment of a registry that
can be reached has a blank name or a blank text; so a submission leaves the empty
text over exactly if each of its pieces defines a fragment or holds nothing but
blanks and comments.
-/
theorem submit_eq_empty_iff (h : Reachable r) :
    (∀ entry ∈ r.entries, Visible entry.1.toList ∧ Visible entry.2.toList)
      ∧ ∀ text out r', r.submit text = .ok (out, r') →
        (out = "" ↔ ∀ p ∈ Scan.split text.toList, Scan.Filler p ∨ Defines p) := by
  refine ⟨h.noBlanks, fun text out r' hsub => ?_⟩
  obtain ⟨s, hfold, rfl, -⟩ := submit_eq_ok hsub
  have hne : ∀ p ∈ s.remaining, p ≠ [] :=
    fun p hp => ((h.noBlanks.staged hfold).remaining p hp).ne_nil
  have hlen : s.remaining.length = (ordinary text).length := by
    simpa [ordinary] using length_remaining hfold
  rw [text_eq_empty_iff hne, ← ordinary_eq_nil_iff, ← List.length_eq_zero_iff, hlen,
    List.length_eq_zero_iff]

/-- A definition, a line comment with a cut behind it and a comment that is never closed. -/
theorem submit_eq_empty_comments :
    Reachable ⟨[("t", "orders")]⟩
      ∧ Registry.submit ⟨[("t", "orders")]⟩ "x := ${t}; -- one; two\n ; /* x := 1; "
        = .ok ("", ⟨[("t", "orders"), ("x", "orders")]⟩)
      ∧ ∀ p ∈ Scan.split "x := ${t}; -- one; two\n ; /* x := 1; ".toList,
        Scan.Filler p ∨ Defines p := by
  have hloaded : Reachable ⟨[("a", "b"), ("t", "orders")]⟩ :=
    .change .empty (.preload [("a", "b"), ("t", "orders")]) (by decide +kernel)
  have hreach : Reachable ⟨[("t", "orders")]⟩ :=
    .change hloaded (.unregister "a") (by decide +kernel)
  have hsub : Registry.submit ⟨[("t", "orders")]⟩ "x := ${t}; -- one; two\n ; /* x := 1; "
      = .ok ("", ⟨[("t", "orders"), ("x", "orders")]⟩) := by decide +kernel
  exact ⟨hreach, hsub, ((submit_eq_empty_iff hreach).2 _ _ _ hsub).mp rfl⟩

end Stencil.Fragment.Registry
