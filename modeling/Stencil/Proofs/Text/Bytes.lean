/-
Lengths and cuts in bytes.

No text has more characters than bytes.  A cut after a number of bytes keeps the longest front
of a text that does not take more (`takeBytes_eq_iff`), so a cut at a character keeps what
stands before it.
-/
import Mathlib.Data.List.Infix
import Stencil.Text.Bytes

namespace Stencil.Text

/-! ### Lengths -/

theorem byteLength_append (a b : List Char) :
    byteLength (String.ofList (a ++ b))
      = byteLength (String.ofList a) + byteLength (String.ofList b) := by
  unfold byteLength
  simp

theorem byteLength_cons (c : Char) (cs : List Char) :
    byteLength (String.ofList (c :: cs)) = c.utf8Size + byteLength (String.ofList cs) := by
  unfold byteLength
  simp

/-- Every character takes a byte at least. -/
theorem length_le_byteLength (s : String) : s.toList.length ≤ byteLength s := by
  have hlist : ∀ cs : List Char, cs.length ≤ byteLength (String.ofList cs) := by
    intro cs
    induction cs with
    | nil => exact Nat.zero_le _
    | cons c cs ih =>
        have hpos := c.utf8Size_pos
        rw [byteLength_cons, List.length_cons]
        omega
  have hs := hlist s.toList
  rwa [String.ofList_toList] at hs

/-! ### Cuts -/

theorem takeBytes_prefix (count : Nat) (text : List Char) : takeBytes count text <+: text := by
  induction text generalizing count with
  | nil => exact List.prefix_refl _
  | cons c text ih =>
      rw [takeBytes]
      split
      · exact List.cons_prefix_cons.mpr ⟨rfl, ih _⟩
      · exact List.nil_prefix

/-- The front of a text takes no more than a number of bytes, and one character more does. -/
structure Fills (count : Nat) (front rest : List Char) : Prop where
  fits : byteLength (String.ofList front) ≤ count
  furthest : ∀ c ∈ rest.head?, count < byteLength (String.ofList (front ++ [c]))

theorem fills_cons_iff {count : Nat} {c : Char} {front rest : List Char} :
    Fills count (c :: front) rest
      ↔ c.utf8Size ≤ count ∧ Fills (count - c.utf8Size) front rest := by
  constructor
  · rintro ⟨hfits, hfurthest⟩
    rw [byteLength_cons] at hfits
    refine ⟨by omega, by omega, fun d hd => ?_⟩
    have hd := hfurthest d hd
    rw [List.cons_append, byteLength_cons] at hd
    omega
  · rintro ⟨hc, hfits, hfurthest⟩
    refine ⟨?_, fun d hd => ?_⟩
    · rw [byteLength_cons]
      omega
    · have hd := hfurthest d hd
      rw [List.cons_append, byteLength_cons]
      omega

theorem takeBytes_eq_iff {count : Nat} {front rest : List Char} :
    takeBytes count (front ++ rest) = front ↔ Fills count front rest := by
  induction front generalizing count with
  | nil =>
      have hempty : byteLength (String.ofList []) = 0 := rfl
      cases rest with
      | nil => exact iff_of_true rfl ⟨Nat.zero_le _, by simp⟩
      | cons c rest =>
          have hone : byteLength (String.ofList [c]) = c.utf8Size := by
            rw [byteLength_cons, hempty, Nat.add_zero]
          rw [List.nil_append, takeBytes]
          split
          · rename_i hc
            refine iff_of_false (List.cons_ne_nil _ _) fun h => ?_
            have := h.furthest c rfl
            rw [List.nil_append, hone] at this
            omega
          · rename_i hc
            refine iff_of_true rfl ⟨Nat.zero_le _, fun d hd => ?_⟩
            obtain rfl := Option.some.inj hd
            rw [List.nil_append, hone]
            omega
  | cons c front ih =>
      rw [List.cons_append, takeBytes, fills_cons_iff, ← ih]
      split
      · rename_i hc
        simp [hc]
      · rename_i hc
        exact iff_of_false (List.cons_ne_nil _ _).symm fun h => hc h.1

/-- The bytes of a text are the text, whatever stands behind it. -/
theorem takeBytes_append (a b : List Char) :
    takeBytes (byteLength (String.ofList a)) (a ++ b) = a := by
  refine takeBytes_eq_iff.mpr ⟨Nat.le_refl _, fun c _ => ?_⟩
  have hpos := c.utf8Size_pos
  rw [byteLength_append, byteLength_cons]
  omega

end Stencil.Text
