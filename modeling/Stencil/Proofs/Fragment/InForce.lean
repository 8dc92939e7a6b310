/-
What a submission does to each fragment.

`Values.behind` says what a statement does without mentioning a registry: a definition
puts its value in force under its name, with the references in it replaced by the
values in force just before, and nothing else changes.  A submission that succeeds
does this for its statements in order (`values_submit`).  So a name that is not
defined keeps its value, and a name that is holds the value of its last definition as
it was made then, whatever becomes of the names that it was made of.
-/
import Mathlib.Logic.Function.Basic
import Stencil.Proofs.Environment.Submission
import Stencil.Proofs.Fragment.Reachable

namespace Stencil.Fragment

/-- The definitions among some statements, in order. -/
def definitions (statements : List (List Char)) : List Definition :=
  statements.filterMap Definition.read?

/-- Texts in force under names. -/
abbrev Values := List Char → Option (List Char)

namespace Values

/-- The values in force behind a statement. -/
def behind (values : Values) (statement : List Char) : Values :=
  match Definition.read? statement with
  | some d => Function.update values d.name (some (expand values d.value))
  | none => values

/-- The values in force behind some statements. -/
def behindAll (values : Values) (statements : List (List Char)) : Values :=
  statements.foldl behind values

variable {values : Values} {statement : List Char} {d : Definition}

theorem behind_of_read? (h : Definition.read? statement = some d) :
    values.behind statement = Function.update values d.name (some (expand values d.value)) := by
  unfold behind
  rw [h]

theorem behind_of_ordinary (h : isOrdinary statement = true) :
    values.behind statement = values := by
  unfold behind
  rw [Option.isNone_iff_eq_none.mp h]

/-- A statement changes the value of the name that it defines, and of no other. -/
theorem behind_apply_of_ne {name : List Char}
    (h : ∀ d, Definition.read? statement = some d → d.name ≠ name) :
    values.behind statement name = values name := by
  unfold behind
  cases hread : Definition.read? statement with
  | none => rfl
  | some d => exact Function.update_of_ne (h d hread).symm _ _

theorem behindAll_append (l l' : List (List Char)) :
    values.behindAll (l ++ l') = (values.behindAll l).behindAll l' :=
  List.foldl_append

theorem behindAll_cons (l : List (List Char)) :
    values.behindAll (statement :: l) = (values.behind statement).behindAll l :=
  rfl

/-- **A name that is not defined keeps its value.** -/
theorem behindAll_apply_of_ne {l : List (List Char)} {name : List Char}
    (h : ∀ d ∈ definitions l, d.name ≠ name) : values.behindAll l name = values name := by
  induction l generalizing values with
  | nil => rfl
  | cons statement rest ih =>
      have hfirst : ∀ d, Definition.read? statement = some d → d.name ≠ name :=
        fun d hread => h d (List.mem_filterMap.mpr ⟨statement, List.mem_cons_self, hread⟩)
      have hrest : ∀ d ∈ definitions rest, d.name ≠ name := by
        intro d hd
        obtain ⟨s, hs, hread⟩ := List.mem_filterMap.mp hd
        exact h d (List.mem_filterMap.mpr ⟨s, List.mem_cons_of_mem _ hs, hread⟩)
      rw [behindAll_cons, ih hrest, behind_apply_of_ne hfirst]

/-- **A name holds the value of its last definition, made of the values in force before it.** -/
theorem behindAll_apply_of_last {before after : List (List Char)}
    (hread : Definition.read? statement = some d)
    (hlast : ∀ d' ∈ definitions after, d'.name ≠ d.name) :
    values.behindAll (before ++ statement :: after) d.name
      = some (expand (values.behindAll before) d.value) := by
  rw [behindAll_append, behindAll_cons, behindAll_apply_of_ne hlast, behind_of_read? hread,
    Function.update_self]

/-- No value is lost behind a statement. -/
theorem behind_ne_none {name : List Char} (h : values name ≠ none) :
    values.behind statement name ≠ none := by
  cases hread : Definition.read? statement with
  | none => rwa [behind_of_ordinary (by rw [isOrdinary, hread]; rfl)]
  | some d =>
      rw [behind_of_read? hread]
      by_cases hname : name = d.name
      · rw [hname, Function.update_self]
        exact Option.some_ne_none _
      · rwa [Function.update_of_ne hname]

theorem behindAll_ne_none {l : List (List Char)} {name : List Char} (h : values name ≠ none) :
    values.behindAll l name ≠ none := by
  induction l generalizing values with
  | nil => exact h
  | cons statement rest ih => exact ih (behind_ne_none h)

/-- A name that is defined has a value. -/
theorem behindAll_ne_none_of_mem {l : List (List Char)} (hd : d ∈ definitions l) :
    values.behindAll l d.name ≠ none := by
  obtain ⟨statement, hmem, hread⟩ := List.mem_filterMap.mp hd
  obtain ⟨before, after, rfl⟩ := List.append_of_mem hmem
  rw [behindAll_append, behindAll_cons]
  refine behindAll_ne_none ?_
  rw [behind_of_read? hread, Function.update_self]
  exact Option.some_ne_none _

end Values

namespace Registry

/-! ### The values in a registry -/

/-- The texts of the fragments under their names. -/
def values (r : Registry) : Values := fun name => (r.get? (String.ofList name)).map String.toList

theorem get?_eq_values (r : Registry) (name : List Char) :
    r.get? (String.ofList name) = (r.values name).map String.ofList := by
  simp [values, Option.map_map, Function.comp_def]

theorem get?_eq_of_values {r r' : Registry} {name : String}
    (h : r'.values name.toList = r.values name.toList) : r'.get? name = r.get? name := by
  rw [← String.ofList_toList (s := name), get?_eq_values, get?_eq_values, h]

theorem values_insert (r : Registry) (name value : List Char) :
    (r.insert (String.ofList name) (String.ofList value)).values
      = Function.update r.values name (some value) := by
  funext other
  by_cases h : other = name
  · subst h
    rw [Function.update_self, values, get?, insert, Keyed.find?_put_self]
    simp
  · have hne : String.ofList name ≠ String.ofList other :=
      fun heq => h (String.ofList_injective heq).symm
    rw [Function.update_of_ne h, values, get?, insert, Keyed.find?_put_of_ne hne]
    rfl

/-! ### The values behind a submission -/

theorem values_take {s s' : Staged} {statement : List Char} (h : s.take statement = .ok s') :
    s'.registry.values = s.registry.values.behind statement := by
  rcases take_eq_ok h with ⟨d, hread, -, -, rfl⟩ | ⟨hord, rfl⟩
  · rw [Values.behind_of_read? hread]
    exact values_insert _ _ _
  · rw [Values.behind_of_ordinary hord]
    rfl

/-- **A submission puts the values of its definitions in force, in order.** -/
theorem values_submit {r r' : Registry} {text out : String} (h : r.submit text = .ok (out, r')) :
    r'.values = r.values.behindAll (Scan.statements text.toList) := by
  obtain ⟨s, hfold, -, rfl⟩ := submit_eq_ok h
  exact view_of_foldlM (fun s : Staged => s.registry.values)
    (fun _ _ _ htake => values_take htake) hfold

/-- A name that a submission does not define keeps its value. -/
theorem get?_of_submit {r r' : Registry} {text out name : String}
    (h : r.submit text = .ok (out, r'))
    (hname : ∀ d ∈ definitions (Scan.statements text.toList), String.ofList d.name ≠ name) :
    r'.get? name = r.get? name := by
  apply get?_eq_of_values
  rw [values_submit h]
  refine Values.behindAll_apply_of_ne fun d hd heq => hname d hd ?_
  rw [heq, String.ofList_toList]

/-! ### Changes behind a submission -/

/-- The change neither defines the name nor removes it. -/
def Change.Leaves (name : String) : Change → Prop
  | register other _ | unregister other => other ≠ name
  | clear => False
  | submit text => ∀ d ∈ definitions (Scan.statements text.toList), String.ofList d.name ≠ name
  | preload texts => ∀ entry ∈ texts, entry.1 ≠ name

theorem get?_of_register {r r' : Registry} {other sql name : String}
    (h : r.register other sql = .ok r') (hne : other ≠ name) : r'.get? name = r.get? name := by
  obtain ⟨-, -, rfl⟩ := register_eq_ok h
  exact Keyed.find?_put_of_ne hne sql r.entries

/-- A change keeps the value of every name that it leaves. -/
theorem get?_of_carryOut {r r' : Registry} {change : Change} {name : String}
    (h : change.carryOut r = .ok r') (hleaves : change.Leaves name) :
    r'.get? name = r.get? name := by
  cases change with
  | register other sql => exact get?_of_register h hleaves
  | unregister other =>
      obtain ⟨⟨sql, t⟩, hun, rfl⟩ := map_eq_ok.mp h
      rw [unregister_eq_ok hun]
      exact Keyed.find?_remove_of_ne hleaves r.entries
  | clear => exact hleaves.elim
  | submit text =>
      obtain ⟨⟨out, t⟩, hsub, rfl⟩ := map_eq_ok.mp h
      exact get?_of_submit hsub hleaves
  | preload texts =>
      refine invariant_of_foldlM (P := fun t => t.get? name = r.get? name)
        (fun entry hentry t t' ht hstep => ?_) rfl h
      exact (get?_of_register hstep (hleaves entry hentry)).trans ht

/-- The fragments behind some changes that all succeed. -/
def carryOutAll (r : Registry) (changes : List Change) : Except Error Registry :=
  changes.foldlM Change.carryOut r

/-- Some changes keep the value of every name that all of them leave. -/
theorem get?_of_carryOutAll {r r' : Registry} {changes : List Change} {name : String}
    (h : r.carryOutAll changes = .ok r') (hleaves : ∀ change ∈ changes, change.Leaves name) :
    r'.get? name = r.get? name := by
  refine invariant_of_foldlM (P := fun t => t.get? name = r.get? name)
    (fun change hmem t t' ht hstep => ?_) rfl h
  exact (get?_of_carryOut hstep (hleaves change hmem)).trans ht

/--
**A submission is all or nothing, and touches only what it defines.**  If it fails,
an environment that submits it is what it was.  If it succeeds, a name that it does
not define keeps its value, and a name that it defines holds the trimmed value of the
last definition, with references replaced by the values in force just before that;
later changes that leave the name alone keep it, whatever they do to the names that
it was made of.
-/
theorem submit_all_or_nothing (r : Registry) (text : String) :
    (∀ e, r.submit text = .error e → ∀ (σ : Type) (env : Environment σ), env.fragments = r →
        env.substituting = true → Environment.submit text env = (.error e, env))
      ∧ ∀ out r', r.submit text = .ok (out, r') →
        (∀ name, (∀ d ∈ definitions (Scan.statements text.toList), String.ofList d.name ≠ name) →
            r'.get? name = r.get? name)
          ∧ (∀ before statement after d,
              Scan.statements text.toList = before ++ statement :: after →
              Definition.read? statement = some d →
              (∀ d' ∈ definitions after, d'.name ≠ d.name) →
                Text.trimmed d.value = d.value
                  ∧ r'.get? (String.ofList d.name)
                    = some (String.ofList (Fragment.expand (r.values.behindAll before) d.value)))
          ∧ ∀ later r'' name, r'.carryOutAll later = .ok r'' →
              (∀ change ∈ later, change.Leaves name) → r''.get? name = r'.get? name := by
  refine ⟨fun e h σ env henv hon => ?_, fun out r' h => ⟨?_, ?_, ?_⟩⟩
  · exact Environment.submit_of_error hon (henv ▸ h)
  · intro name hname
    exact get?_of_submit h hname
  · intro before statement after d hsplit hread hlast
    refine ⟨Definition.value_of_read? hread, ?_⟩
    rw [get?_eq_values, values_submit h, hsplit, Values.behindAll_apply_of_last hread hlast]
    rfl
  · intro later r'' name hlater hname
    exact get?_of_carryOutAll hlater hname

/-- What `b` was made of is redefined behind it, redefined later and removed. -/
theorem submit_all_or_nothing_redefined :
    Registry.submit ⟨[("z", "0")]⟩ "a := 1; b := ${a}${z} ; a := 2; z := 9"
        = .ok ("", ⟨[("a", "2"), ("b", "10"), ("z", "9")]⟩)
      ∧ carryOutAll ⟨[("a", "2"), ("b", "10"), ("z", "9")]⟩
          [.register "a" "3", .submit "z := ${b}", .unregister "a"]
        = .ok ⟨[("b", "10"), ("z", "10")]⟩
      ∧ get? ⟨[("b", "10"), ("z", "10")]⟩ "b"
        = some (String.ofList (Fragment.expand
          (Values.behindAll (values ⟨[("z", "0")]⟩) ["a := 1".toList]) "${a}${z}".toList)) := by
  have hsub : Registry.submit ⟨[("z", "0")]⟩ "a := 1; b := ${a}${z} ; a := 2; z := 9"
      = .ok ("", ⟨[("a", "2"), ("b", "10"), ("z", "9")]⟩) := by decide +kernel
  have hlater : carryOutAll ⟨[("a", "2"), ("b", "10"), ("z", "9")]⟩
      [.register "a" "3", .submit "z := ${b}", .unregister "a"]
      = .ok ⟨[("b", "10"), ("z", "10")]⟩ := by decide +kernel
  have hleaves : ∀ change ∈ [Change.register "a" "3", .submit "z := ${b}", .unregister "a"],
      change.Leaves "b" := by
    simp only [List.forall_mem_cons, Change.Leaves]
    exact ⟨by decide, by decide +kernel, by decide, by simp⟩
  obtain ⟨-, hlast, hkept⟩ := (submit_all_or_nothing ⟨[("z", "0")]⟩ _).2 _ _ hsub
  refine ⟨hsub, hlater, ?_⟩
  rw [hkept _ _ "b" hlater hleaves]
  exact (hlast ["a := 1".toList] "b := ${a}${z}".toList ["a := 2".toList, "z := 9".toList]
    ⟨"b".toList, "${a}${z}".toList⟩ (by decide +kernel) (by decide +kernel) (by decide +kernel)).2

end Registry
end Stencil.Fragment
