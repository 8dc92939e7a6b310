/-
Completion behind the fragments.

The position of the cursor counts the bytes of the text as it was submitted, but the
engine completes what is left over of it: the text without the blanks at its end and
with its references replaced.  So the word in front of the cursor is completed only if
what the engine sees there (`seen`) looks like the expanded text before the cursor.

The two are the same where the cursor stands between two parts of the text, in front of
the blanks at its end, and expanding the text before it keeps its length in bytes.
-/
import Stencil.Engine.Planning
import Stencil.Proofs.Engine.Completion
import Stencil.Proofs.Environment.Submission
import Stencil.Proofs.Fragment.Reachable

namespace Stencil

/-! ### What is completed -/

namespace Completion

/-- The position of the cursor behind a text. -/
def position (before : List Char) : Nat := Text.byteLength (String.ofList before)

/-- What stands in front of the cursor in what is left over of a text. -/
def seen (r : Fragment.Registry) (text before : List Char) : List Char :=
  Text.takeBytes (position before) (r.expand (Text.dropEndBlanks text))

/-- The cursor stands between two parts of the text. -/
def BetweenParts (text before : List Char) : Prop :=
  ∃ ps qs, Fragment.Part.read text = ps ++ qs ∧ ps.flatMap Fragment.Part.written = before

/-- Keywords are offered where nothing stands in front of the cursor. -/
theorem offered_nil_ne (c : Catalog) : offered c [] ≠ [] := by
  have hmem : "ALL" ∈ offered c [] :=
    mem_offered.mpr ⟨List.mem_append_left _ (List.mem_append_left _ List.mem_cons_self), rfl⟩
  exact List.ne_nil_of_mem hmem

/-- A cursor between two parts stays where it is if the texts before it are of one length. -/
theorem seen_of_position {r : Fragment.Registry} {text before : List Char}
    (hkept : before <+: Text.dropEndBlanks text) (hbetween : BetweenParts text before)
    (hlength : position (r.expand before) = position before) :
    seen r text before = r.expand before := by
  obtain ⟨kept, hkept⟩ := hkept
  obtain ⟨ps, qs, hread, rfl⟩ := hbetween
  obtain ⟨blanks, -, htext⟩ := Text.dropEndBlanks_append_blanks text
  rw [← hkept, List.append_assoc] at htext
  rw [htext] at hread
  unfold seen
  rw [← hkept, ← hlength]
  unfold Fragment.Registry.expand
  rw [Fragment.expand_append hread]
  exact Text.takeBytes_append _ _

end Completion

namespace Environment

open Completion

/-- What is left over is completed, be it the command that lists the fragments or not. -/
theorem hints_of_left {σ : Type} {engine : Engine σ} {env env' : Environment σ}
    {text left : String} (h : submit text env = (.ok (remainder left), env')) (hne : left ≠ "")
    (position : Nat) :
    hints engine text position env = onEngine (engine.hints left position) env' := by
  have hempty : left.isEmpty = false := by simpa using hne
  unfold remainder at h
  rw [hempty] at h
  by_cases hlisting : Fragment.isListingCommand left = true
  · rw [hlisting] at h
    exact Run.bind_of_ok h _
  · rw [Bool.eq_false_iff.mpr hlisting] at h
    exact Run.bind_of_ok h _

variable {env : Environment Planning.State} {text : String}

theorem hints_empty (hon : env.substituting = true) (position : Nat) :
    hints Planning.engine "" position env = (.ok [], env) :=
  Run.bind_of_ok (submit_of_ok hon (Fragment.Registry.submit_empty _)) _

/-- Behind a single statement the engine offers what goes with what it sees. -/
theorem hints_single (hon : env.substituting = true) (hreach : env.fragments.Reachable)
    (hsingle : Fragment.Single text.toList) (hne : text ≠ "") (before : List Char) :
    (hints Planning.engine text (position before) env).1
      = .ok (offered env.engine.catalog (seen env.fragments text.toList before)) := by
  have hvisible := hreach.noBlanks.expand (hsingle.visible hne)
  have hleft : String.ofList (env.fragments.expand (Text.dropEndBlanks text.toList)) ≠ "" := by
    rw [Ne, String.ofList_eq_empty_iff]
    exact hvisible.ne_nil
  rw [hints_of_left (submit_of_ok hon (Fragment.Registry.submit_single hsingle hne)) hleft]
  show Except.ok (Completion.hints _ _ _) = _
  rw [Completion.hints_eq, String.toList_ofList]
  rfl

/-- The engine offers what goes with a whole text at its end. -/
theorem hints_at_end (state : Planning.State) (expanded : List Char) :
    (Planning.engine.hints (String.ofList expanded) (position expanded) state).1
      = .ok (offered state.catalog expanded) := by
  show Except.ok (Completion.hints _ _ _) = _
  rw [Completion.hints_eq, String.toList_ofList]
  have htake := Text.takeBytes_append expanded []
  rw [List.append_nil] at htake
  unfold position
  rw [htake]

/-- The environment looks at the word in front of the cursor: it offers what the engine offers at
the end of the expanded text before the cursor. -/
def CompletesWord (env : Environment Planning.State) (text : String) (before : List Char) : Prop :=
  (hints Planning.engine text (position before) env).1
    = (Planning.engine.hints (String.ofList (env.fragments.expand before))
        (position (env.fragments.expand before)) env.engine).1

instance (env : Environment Planning.State) (text : String) (before : List Char) :
    Decidable (CompletesWord env text before) :=
  inferInstanceAs (Decidable ((_ : Except Error (List String)) = _))

variable {before after : List Char}

theorem completesWord_iff (hon : env.substituting = true) (hreach : env.fragments.Reachable)
    (hsingle : Fragment.Single text.toList) (hcursor : text.toList = before ++ after) :
    CompletesWord env text before
      ↔ text ≠ "" ∧ offered env.engine.catalog (seen env.fragments text.toList before)
          = offered env.engine.catalog (env.fragments.expand before) := by
  unfold CompletesWord
  rw [hints_at_end]
  by_cases hne : text = ""
  · subst hne
    obtain ⟨rfl, -⟩ := List.append_eq_nil_iff.mp hcursor.symm
    rw [hints_empty hon]
    refine iff_of_false (fun heq => ?_) fun h => h.1 rfl
    exact offered_nil_ne env.engine.catalog (Except.ok.inj heq).symm
  · rw [hints_single hon hreach hsingle hne, Except.ok.injEq]
    exact (and_iff_right hne).symm

/--
**Completion looks at the word in front of the cursor if the engine sees it.**  A single
statement without a lead is submitted with the cursor anywhere in it.  What is offered is
what the engine offers at the end of the expanded text before the cursor, if and only if
the text is not empty and the engine offers the same behind what it sees in front of the
cursor; and this is so for every state of the engine if and only if both are seen alike.
It suffices that the cursor stands between two parts of the text, in front of the blanks
that are taken off its end, and that expanding the text before the cursor keeps its length.
-/
theorem hints_at_cursor (hon : env.substituting = true) (hreach : env.fragments.Reachable)
    (hsingle : Fragment.Single text.toList) (hcursor : text.toList = before ++ after) :
    (CompletesWord env text before
        ↔ text ≠ "" ∧ offered env.engine.catalog (seen env.fragments text.toList before)
            = offered env.engine.catalog (env.fragments.expand before))
      ∧ ((∀ state, CompletesWord { env with engine := state } text before)
        ↔ text ≠ "" ∧ sight (seen env.fragments text.toList before)
            = sight (env.fragments.expand before))
      ∧ (text ≠ "" → before.length ≤ (Text.dropEndBlanks text.toList).length →
          BetweenParts text.toList before →
          position (env.fragments.expand before) = position before →
          CompletesWord env text before) := by
  have hiff : ∀ state : Planning.State, CompletesWord { env with engine := state } text before
      ↔ text ≠ "" ∧ offered state.catalog (seen env.fragments text.toList before)
          = offered state.catalog (env.fragments.expand before) :=
    fun _ => completesWord_iff hon hreach hsingle hcursor
  refine ⟨hiff env.engine, ?_, fun hne hkept hbetween hlength => ?_⟩
  · -- The engine offers what its catalog holds, so the states stand for all catalogs.
    rw [← offered_eq_iff]
    constructor
    · intro h
      exact ⟨((hiff env.engine).mp (h env.engine)).1, fun c => ((hiff ⟨c, 1⟩).mp (h ⟨c, 1⟩)).2⟩
    · rintro ⟨hne, h⟩ state
      exact (hiff state).mpr ⟨hne, h state.catalog⟩
  · obtain ⟨blanks, -, htext⟩ := Text.dropEndBlanks_append_blanks text.toList
    have hstart : before <+: Text.dropEndBlanks text.toList :=
      List.prefix_of_prefix_length_le ⟨after, hcursor.symm⟩ ⟨blanks, htext.symm⟩ hkept
    exact (hiff env.engine).mpr ⟨hne, by rw [seen_of_position hstart hbetween hlength]⟩

/-- The reference in front of the cursor takes five bytes, and so does what replaces it. -/
theorem hints_at_cursor_reference :
    (hints Planning.engine "SELECT * FROM ${tb}" 19
        ⟨⟨oneObject "orders", 1⟩, ⟨[("tb", "order")]⟩, true, ";\n"⟩).1 = .ok ["orders"]
      ∧ CompletesWord ⟨⟨oneObject "orders", 1⟩, ⟨[("tb", "order")]⟩, true, ";\n"⟩
        "SELECT * FROM ${tb}" "SELECT * FROM ${tb}".toList := by
  have hreach : Fragment.Registry.Reachable ⟨[("tb", "order")]⟩ :=
    .change .empty (.register "tb" "order") (by decide +kernel)
  have hbetween : BetweenParts "SELECT * FROM ${tb}".toList "SELECT * FROM ${tb}".toList :=
    ⟨_, [], (List.append_nil _).symm, Fragment.Part.written_read _⟩
  have hcursor : "SELECT * FROM ${tb}".toList = "SELECT * FROM ${tb}".toList ++ [] :=
    (List.append_nil _).symm
  refine ⟨by decide +kernel, ?_⟩
  exact (hints_at_cursor rfl hreach (by decide +kernel) hcursor).2.2
    (by decide +kernel) (by decide +kernel) hbetween (by decide +kernel)

/-- The blank in front of the cursor is taken off, and the engine completes the word before it:
the table `a` is not offered.  Likewise only a part of a longer text for a reference is seen. -/
theorem not_completesWord :
    (Fragment.Single "SELECT * FROM ".toList
        ∧ BetweenParts "SELECT * FROM ".toList "SELECT * FROM ".toList
        ∧ (hints Planning.engine "SELECT * FROM " 14
          ⟨⟨oneObject "a", 1⟩, .empty, true, ";\n"⟩).1 = .ok ["FROM"]
        ∧ (Planning.engine.hints "SELECT * FROM " 14 ⟨oneObject "a", 1⟩).1 = .ok ["a"]
        ∧ ¬ CompletesWord ⟨⟨oneObject "a", 1⟩, .empty, true, ";\n"⟩ "SELECT * FROM "
          "SELECT * FROM ".toList)
      ∧ ¬ CompletesWord ⟨⟨oneObject "order_lines", 1⟩, ⟨[("tb", "orders")]⟩, true, ";\n"⟩
        "SELECT * FROM ${tb}" "SELECT * FROM ${tb}".toList := by
  have hbetween : BetweenParts "SELECT * FROM ".toList "SELECT * FROM ".toList :=
    ⟨_, [], (List.append_nil _).symm, Fragment.Part.written_read _⟩
  refine ⟨⟨?_, hbetween, ?_, ?_, ?_⟩, ?_⟩
  all_goals decide +kernel

end Environment
end Stencil
