/-
What changes of case keep of a text.

Letters are lowered one by one, except for the capital sigma, which looks at the letters
around it.  So the lower case of a text begins with that of its front, unless the front
ends in a sigma that is final there and no longer so in the whole text.

A word in capital letters of ASCII is the upper case of each of its spellings.
-/
import Mathlib.Data.List.Infix
import Mathlib.Data.List.TakeWhile
import Stencil.Text.Case

namespace Stencil.Text

/-! ### Capital sigma -/

/-- A capital sigma ends the last word of `front`, characters that do not count for case apart,
and stands inside that word once `rest` follows. -/
def SigmaGoesOn (front rest : List Char) : Prop :=
  ∃ word skipped, front = word ++ 'Σ' :: skipped ∧ meetsCased word.reverse = true
    ∧ (∀ c ∈ skipped, caseIgnorable.contains c = true) ∧ meetsCased rest = true

theorem meetsCased_append_of_ignorable {skipped : List Char}
    (h : ∀ c ∈ skipped, caseIgnorable.contains c = true) (rest : List Char) :
    meetsCased (skipped ++ rest) = meetsCased rest := by
  unfold meetsCased
  rw [List.dropWhile_append_of_pos h]

theorem meetsCased_of_ignorable {skipped : List Char}
    (h : ∀ c ∈ skipped, caseIgnorable.contains c = true) : meetsCased skipped = false := by
  unfold meetsCased
  rw [List.dropWhile_eq_nil_iff.mpr h]

/-- The first character that counts for case decides, whatever follows. -/
theorem meetsCased_append_of_not_ignorable {front : List Char}
    (h : ¬ ∀ c ∈ front, caseIgnorable.contains c = true) (rest : List Char) :
    meetsCased (front ++ rest) = meetsCased front := by
  have hne : front.dropWhile caseIgnorable.contains ≠ [] := by
    rwa [Ne, List.dropWhile_eq_nil_iff]
  unfold meetsCased
  rw [List.dropWhile_append, if_neg (by simpa using hne)]
  cases hdrop : front.dropWhile caseIgnorable.contains with
  | nil => exact absurd hdrop hne
  | cons c behind => rfl

/-! ### Lower case -/

/-- The lower-case form of a character between two texts, the first of them read backwards. -/
def lowerAmid (before : List Char) (c : Char) (rest : List Char) : List Char :=
  if c == 'Σ' && meetsCased before && !meetsCased rest then ['ς'] else lowerOf c

variable {before front rest : List Char} {c : Char}

theorem lowerFrom_cons (before : List Char) (c : Char) (rest : List Char) :
    lowerFrom before (c :: rest) = lowerAmid before c rest ++ lowerFrom (c :: before) rest := rfl

theorem toList_lower (s : String) : (lower s).toList = lowerFrom [] s.toList :=
  String.toList_ofList

theorem lowerAmid_of_not_final (h : ¬ (c = 'Σ' ∧ meetsCased before = true)) :
    lowerAmid before c rest = lowerOf c := by
  have hfalse : (c == 'Σ' && meetsCased before) = false := by
    rw [Bool.eq_false_iff]
    simpa using h
  rw [lowerAmid, hfalse, Bool.false_and, if_neg Bool.false_ne_true]

/-- A sigma behind a cased letter is final if no cased letter follows. -/
theorem lowerAmid_sigma (hbefore : meetsCased before = true) (rest : List Char) :
    lowerAmid before 'Σ' rest = if meetsCased rest = true then ['σ'] else ['ς'] := by
  have hlower : lowerOf 'Σ' = ['σ'] := by decide +kernel
  rw [lowerAmid, hbefore, hlower]
  cases meetsCased rest <;> rfl

/-- What follows a text makes a difference for the character in front of it only if that is a
sigma, and final in front of the text alone. -/
theorem lowerAmid_append_eq_iff :
    lowerAmid before c (front ++ rest) = lowerAmid before c front
      ↔ ¬ (c = 'Σ' ∧ meetsCased before = true ∧ (∀ d ∈ front, caseIgnorable.contains d = true)
          ∧ meetsCased rest = true) := by
  by_cases hsigma : c = 'Σ' ∧ meetsCased before = true
  · obtain ⟨rfl, hbefore⟩ := hsigma
    rw [lowerAmid_sigma hbefore, lowerAmid_sigma hbefore]
    by_cases hfront : ∀ d ∈ front, caseIgnorable.contains d = true
    · rw [meetsCased_append_of_ignorable hfront, meetsCased_of_ignorable hfront]
      cases meetsCased rest with
      | false => exact iff_of_true rfl fun h => Bool.false_ne_true h.2.2.2
      | true => exact iff_of_false (by decide) fun h => h ⟨rfl, hbefore, hfront, rfl⟩
    · rw [meetsCased_append_of_not_ignorable hfront]
      exact iff_of_true rfl fun h => hfront h.2.2.1
  · rw [lowerAmid_of_not_final hsigma, lowerAmid_of_not_final hsigma]
    exact iff_of_true rfl fun h => hsigma ⟨h.1, h.2.1⟩

/-- Forms of one character that differ do not begin alike. -/
theorem lowerAmid_prefix_iff (tail tail' : List Char) :
    lowerAmid before c front ++ tail <+: lowerAmid before c (front ++ rest) ++ tail'
      ↔ lowerAmid before c (front ++ rest) = lowerAmid before c front ∧ tail <+: tail' := by
  by_cases hsame : lowerAmid before c (front ++ rest) = lowerAmid before c front
  · rw [hsame, List.prefix_append_right_inj]
    exact (and_iff_right rfl).symm
  · refine iff_of_false (fun h => ?_) fun h => hsame h.1
    obtain ⟨rfl, hbefore, hfront, hrest⟩ := not_not.mp (mt lowerAmid_append_eq_iff.mpr hsame)
    rw [lowerAmid_sigma hbefore, lowerAmid_sigma hbefore, meetsCased_append_of_ignorable hfront,
      meetsCased_of_ignorable hfront, hrest] at h
    exact absurd (List.cons_prefix_cons.mp h).1 (by decide)

theorem lowerFrom_prefix_iff (before front rest : List Char) :
    lowerFrom before front <+: lowerFrom before (front ++ rest)
      ↔ ¬ ∃ word skipped, front = word ++ 'Σ' :: skipped
          ∧ meetsCased (word.reverse ++ before) = true
          ∧ (∀ c ∈ skipped, caseIgnorable.contains c = true) ∧ meetsCased rest = true := by
  induction front generalizing before with
  | nil =>
      refine iff_of_true List.nil_prefix ?_
      rintro ⟨word, skipped, hfront, -⟩
      simp at hfront
  | cons c front ih =>
      rw [List.cons_append, lowerFrom_cons, lowerFrom_cons, lowerAmid_prefix_iff,
        lowerAmid_append_eq_iff, ih, ← not_or]
      refine not_congr ⟨?_, ?_⟩
      · rintro (⟨rfl, hbefore, hfront, hrest⟩ | ⟨word, skipped, rfl, hbefore, hskipped, hrest⟩)
        · exact ⟨[], front, rfl, hbefore, hfront, hrest⟩
        · exact ⟨c :: word, skipped, rfl, by simpa using hbefore, hskipped, hrest⟩
      · rintro ⟨word, skipped, hfront, hbefore, hskipped, hrest⟩
        cases word with
        | nil =>
            obtain ⟨rfl, rfl⟩ := List.cons.inj hfront
            exact .inl ⟨rfl, hbefore, hskipped, hrest⟩
        | cons d word =>
            obtain ⟨rfl, rfl⟩ := List.cons.inj hfront
            exact .inr ⟨word, skipped, rfl, by simpa using hbefore, hskipped, hrest⟩

/-- **The lower case of a text begins with that of its front**, unless the front ends in a capital
sigma that goes on. -/
theorem lower_prefix_iff (front rest : List Char) :
    (lower (String.ofList front)).toList <+: (lower (String.ofList (front ++ rest))).toList
      ↔ ¬ SigmaGoesOn front rest := by
  rw [toList_lower, toList_lower, String.toList_ofList, String.toList_ofList,
    lowerFrom_prefix_iff]
  simp only [List.append_nil]
  rfl

/-! ### Words in capital letters -/

theorem toNat_toLower (c : Char) :
    c.toLower.toNat = if 65 ≤ c.toNat ∧ c.toNat ≤ 90 then c.toNat + 32 else c.toNat := by
  unfold Char.toLower
  by_cases h : c.val ≥ 'A'.val ∧ c.val ≤ 'Z'.val
  · have hcapital : 65 ≤ c.toNat ∧ c.toNat ≤ 90 := h
    rw [dif_pos h, if_pos hcapital]
    show (c.val + ('a'.val - 'A'.val)).toNat = c.toNat + 32
    rw [UInt32.toNat_add]
    show (c.toNat + 32) % _ = _
    omega
  · have hother : ¬ (65 ≤ c.toNat ∧ c.toNat ≤ 90) := h
    rw [dif_neg h, if_neg hother]

theorem toNat_toUpper (c : Char) :
    c.toUpper.toNat = if 97 ≤ c.toNat ∧ c.toNat ≤ 122 then c.toNat - 32 else c.toNat := by
  unfold Char.toUpper
  by_cases h : 'a'.val ≤ c.val ∧ c.val ≤ 'z'.val
  · have hsmall : 97 ≤ c.toNat ∧ c.toNat ≤ 122 := h
    have hdistance : ('A'.val - 'a'.val).toNat = 4294967264 := rfl
    rw [dif_pos h, if_pos hsmall]
    show (c.val + ('A'.val - 'a'.val)).toNat = c.toNat - 32
    rw [UInt32.toNat_add, hdistance]
    show (c.toNat + 4294967264) % 4294967296 = _
    omega
  · have hother : ¬ (97 ≤ c.toNat ∧ c.toNat ≤ 122) := h
    rw [dif_neg h, if_neg hother]

theorem upperOf_of_toLower_eq {k : Char} (hk : k.isUpper = true) (h : c.toLower = k.toLower) :
    upperOf c = [k] := by
  have hcapital : 65 ≤ k.toNat ∧ k.toNat ≤ 90 :=
    of_decide_eq_true (p := k.val ≥ 'A'.val ∧ k.val ≤ 'Z'.val) hk
  have hnat := congrArg Char.toNat h
  rw [toNat_toLower, toNat_toLower, if_pos hcapital] at hnat
  have hascii : c.toNat < 0x80 := by
    split at hnat <;> omega
  have hupper : c.toUpper = k := by
    rw [← Char.toNat_inj, toNat_toUpper]
    split at hnat <;> split <;> omega
  rw [upperOf, if_pos hascii, hupper]

/-- A word in capital letters is the upper case of each of its spellings. -/
theorem upper_of_sameIgnoringCase {word capitals : String}
    (hcapitals : ∀ k ∈ capitals.toList, k.isUpper = true)
    (h : sameIgnoringCase word capitals = true) : upper word = capitals := by
  have hfold : word.toList.map Char.toLower = capitals.toList.map Char.toLower := by
    unfold sameIgnoringCase foldAscii at h
    exact String.ofList_inj.mp (beq_iff_eq.mp h)
  have hupper : ∀ ks cs : List Char, (∀ k ∈ ks, k.isUpper = true) →
      cs.map Char.toLower = ks.map Char.toLower → cs.flatMap upperOf = ks := by
    intro ks
    induction ks with
    | nil =>
        intro cs _ hmap
        rw [List.map_eq_nil_iff.mp hmap]
        rfl
    | cons k ks ih =>
        intro cs hks hmap
        obtain ⟨c, cs, rfl, hc, hcs⟩ := List.map_eq_cons_iff.mp hmap
        rw [List.flatMap_cons, upperOf_of_toLower_eq (hks k List.mem_cons_self) hc,
          ih cs (fun k hk => hks k (List.mem_cons_of_mem _ hk)) hcs]
        rfl
  unfold upper
  rw [hupper _ _ hcapitals hfold, String.ofList_toList]

end Stencil.Text
