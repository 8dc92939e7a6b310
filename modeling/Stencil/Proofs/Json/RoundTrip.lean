/-
What is written as JSON reads back.

The reader is followed over the text the printer lays out: a string character by
character, a number up to the first character that cannot go on with it, and the items
of an array or the members of an object one by one, each read back by the induction
over the document.  Behind a document stands a comma, the line feed before a closing
bracket, or nothing; none of these goes on with a number, which is all a value needs
to know about the text behind it.

Doubles are left out.  Their text is the shortest one that names them, and no record of
this project holds one.
-/
import Stencil.Json.Printer
import Stencil.Json.Reader

namespace Stencil.Json

/-! ### Strings -/

theorem hexValue?_controlDigits :
    ∀ n < 0x20, Text.hexValue? (Nat.digitChar (n / 16)) = some (n / 16)
      ∧ Text.hexValue? (Nat.digitChar (n % 16)) = some (n % 16) := by
  decide

/-- A control character is read back from its number. -/
theorem readEscape_controlDigits {c : Char} (h : c.toNat < 0x20) (rest : List Char) :
    readEscape ('u' :: '0' :: '0' :: (controlDigits c ++ rest)) = some (c, rest) := by
  obtain ⟨hhigh, hlow⟩ := hexValue?_controlDigits c.toNat h
  have hzero : Text.hexValue? '0' = some 0 := by decide
  have hunit : readUnit ('0' :: '0' :: (controlDigits c ++ rest)) = some (c.toNat, rest) := by
    simp only [controlDigits, List.cons_append, List.nil_append, readUnit, hzero, hhigh, hlow,
      Option.bind_eq_bind, Option.bind_some, Option.some.injEq, Prod.mk.injEq, and_true]
    omega
  have hlowSurrogate : (decide (0xDC00 ≤ c.toNat) && decide (c.toNat ≤ 0xDFFF)) = false := by
    simp
    omega
  have hhighSurrogate : (decide (0xD800 ≤ c.toNat) && decide (c.toNat ≤ 0xDBFF)) = false := by
    simp
    omega
  show readEscapedUnits ('0' :: '0' :: (controlDigits c ++ rest)) = _
  simp only [readEscapedUnits, hunit, Option.bind_eq_bind, Option.bind_some, hlowSurrogate,
    hhighSurrogate, Bool.false_eq_true, if_false, Char.ofNat_toNat]

/-- A character stands for itself between quotes, or behind a backslash for the one read there. -/
theorem escape_cases (c : Char) :
    (escape c = [c] ∧ c ≠ '\x22' ∧ c ≠ '\\' ∧ ¬ c.toNat < 0x20)
      ∨ ∃ e, escape c = '\\' :: e ∧ ∀ rest, readEscape (e ++ rest) = some (c, rest) := by
  unfold escape
  simp only [beq_iff_eq]
  split
  · next h => exact Or.inr ⟨_, rfl, fun _ => by rw [h]; rfl⟩
  split
  · next h => exact Or.inr ⟨_, rfl, fun _ => by rw [h]; rfl⟩
  split
  · next h => exact Or.inr ⟨_, rfl, fun _ => by rw [h]; rfl⟩
  split
  · next h => exact Or.inr ⟨_, rfl, fun _ => by rw [h]; rfl⟩
  split
  · next h => exact Or.inr ⟨_, rfl, fun _ => by rw [h]; rfl⟩
  split
  · next h => exact Or.inr ⟨_, rfl, fun _ => by rw [h]; rfl⟩
  split
  · next h => exact Or.inr ⟨_, rfl, fun _ => by rw [h]; rfl⟩
  split
  · next h => exact Or.inr ⟨_, rfl, readEscape_controlDigits h⟩
  · next hquote hbackslash _ _ _ _ _ hcontrol => exact Or.inl ⟨rfl, hquote, hbackslash, hcontrol⟩

theorem length_le_flatMap_escape (cs : List Char) : cs.length ≤ (cs.flatMap escape).length := by
  induction cs with
  | nil => exact Nat.le_refl _
  | cons c cs ih =>
      have hpos : 0 < (escape c).length := by
        rcases escape_cases c with ⟨h, -⟩ | ⟨e, h, -⟩
        · rw [h]; exact Nat.one_pos
        · rw [h]; exact Nat.succ_pos _
      rw [List.flatMap_cons, List.length_append, List.length_cons]
      omega

theorem readStringFrom_escape (cs : List Char) :
    ∀ (done : List Char) (fuel : Nat) (rest : List Char), cs.length < fuel →
      readStringFrom done fuel (cs.flatMap escape ++ '\x22' :: rest)
        = some (String.ofList (done.reverse ++ cs), rest) := by
  induction cs with
  | nil =>
      intro done fuel rest hfuel
      obtain ⟨fuel, rfl⟩ := Nat.exists_eq_add_of_lt hfuel
      simp [readStringFrom]
  | cons c cs ih =>
      intro done fuel rest hfuel
      cases fuel with
      | zero => exact absurd hfuel (Nat.not_lt_zero _)
      | succ fuel =>
          have hcs := ih (c :: done) fuel rest (Nat.lt_of_succ_lt_succ hfuel)
          rw [List.reverse_cons, List.append_assoc, List.singleton_append] at hcs
          rw [List.flatMap_cons, List.append_assoc]
          rcases escape_cases c with ⟨he, hquote, hbackslash, hcontrol⟩ | ⟨e, he, hread⟩
          · simp only [he, List.cons_append, List.nil_append, readStringFrom, beq_iff_eq, hquote,
              hbackslash, hcontrol, if_false, hcs]
          · simp [he, readStringFrom, hread, hcs]

/-- A string reads back, whatever stands behind it. -/
theorem readString_escape (s : String) (rest : List Char) :
    readString (s.toList.flatMap escape ++ '\x22' :: rest) = some (s, rest) := by
  have hlength := length_le_flatMap_escape s.toList
  unfold readString
  rw [readStringFrom_escape _ _ _ _ (by rw [List.length_append]; omega), List.reverse_nil,
    List.nil_append, String.ofList_toList]

/-! ### Numbers -/

/-- What may stand behind a number: nothing that goes on with it. -/
def EndsNumber (rest : List Char) : Prop :=
  ∀ c ∈ rest.head?, c.isDigit = false ∧ c ≠ '.' ∧ c ≠ 'e' ∧ c ≠ 'E'

theorem endsNumber_nil : EndsNumber [] := by simp [EndsNumber]

theorem endsNumber_cons {c : Char} (h : c.isDigit = false ∧ c ≠ '.' ∧ c ≠ 'e' ∧ c ≠ 'E')
    (rest : List Char) : EndsNumber (c :: rest) := by
  simpa [EndsNumber] using h

theorem EndsNumber.takeWhile {rest : List Char} (h : EndsNumber rest) :
    rest.takeWhile Char.isDigit = [] := by
  cases rest with
  | nil => rfl
  | cons c rest => exact List.takeWhile_cons_of_neg (by simp [h c rfl])

theorem EndsNumber.dropWhile {rest : List Char} (h : EndsNumber rest) :
    rest.dropWhile Char.isDigit = rest := by
  cases rest with
  | nil => rfl
  | cons c rest => exact List.dropWhile_cons_of_neg (by simp [h c rfl])

theorem digitsValue_toDigits (n : Nat) : Decimal.digitsValue (Nat.toDigits 10 n) = n := by
  have hfold := Nat.ofDigitChars_toDigits (b := 10) (n := n) (by decide) (by decide)
  rw [Nat.ofDigitChars_eq_foldl] at hfold
  simpa only [Decimal.digitsValue, Nat.mul_comm] using hfold

/-- The digits of a number other than zero do not begin with a zero. -/
theorem toDigits_head (n : Nat) : 0 < n → (Nat.toDigits 10 n).head? ≠ some '0' := by
  induction n using Nat.strongRecOn with
  | ind n ih =>
      intro hpos
      by_cases hlt : n < 10
      · have hdigit : ∀ n < 10, 0 < n → n.digitChar ≠ '0' := by decide
        rw [Nat.toDigits_of_lt_base hlt]
        simpa using hdigit n hlt hpos
      · have hquotient := ih (n / 10) (by omega) (by omega)
        rw [Nat.toDigits_of_base_le (by decide) (by omega), List.head?_append]
        cases hdigits : Nat.toDigits 10 (n / 10) with
        | nil => exact absurd hdigits Nat.toDigits_ne_nil
        | cons c cs => rwa [hdigits] at hquotient

theorem toDigits_append_ne_minus (n : Nat) (rest cs : List Char) :
    Nat.toDigits 10 n ++ rest ≠ '-' :: cs := by
  intro heq
  have hdigit : ∀ c ∈ Nat.toDigits 10 n, c.isDigit = true :=
    fun _ => Nat.isDigit_of_mem_toDigits (by decide) (by decide)
  cases hn : Nat.toDigits 10 n with
  | nil => exact Nat.toDigits_ne_nil hn
  | cons c cs' =>
      rw [hn] at heq hdigit
      have hc := hdigit c List.mem_cons_self
      rw [(List.cons.inj heq).1] at hc
      exact absurd hc (by decide)

theorem readWhole_toDigits (n : Nat) {rest : List Char} (h : EndsNumber rest) :
    readWhole (Nat.toDigits 10 n ++ rest) = some (Nat.toDigits 10 n, rest) := by
  rcases Nat.eq_zero_or_pos n with rfl | hpos
  · rw [Nat.toDigits_zero]
    cases rest with
    | nil => rfl
    | cons c rest => simp [readWhole, h c rfl]
  · have hdigits : ∀ c ∈ Nat.toDigits 10 n, c.isDigit = true :=
      fun _ => Nat.isDigit_of_mem_toDigits (by decide) (by decide)
    have hhead := toDigits_head n hpos
    have htake : (Nat.toDigits 10 n ++ rest).takeWhile Char.isDigit = Nat.toDigits 10 n := by
      rw [List.takeWhile_append_of_pos hdigits, h.takeWhile, List.append_nil]
    have hdrop : (Nat.toDigits 10 n ++ rest).dropWhile Char.isDigit = rest := by
      rw [List.dropWhile_append_of_pos hdigits, h.dropWhile]
    unfold readWhole
    split
    · next rest' heq =>
        cases hn : Nat.toDigits 10 n with
        | nil => exact absurd hn Nat.toDigits_ne_nil
        | cons c cs =>
            rw [hn] at heq hhead
            exact absurd (congrArg some (List.cons.inj heq).1) hhead
    · simp only [htake, hdrop, List.isEmpty_iff, Nat.toDigits_ne_nil, if_false]

theorem readFraction_of_endsNumber {rest : List Char} (h : EndsNumber rest) :
    readFraction rest = some (none, rest) := by
  unfold readFraction
  split
  · exact absurd rfl (h '.' rfl).2.1
  · rfl

theorem readExponent_of_endsNumber {rest : List Char} (h : EndsNumber rest) :
    readExponent rest = some (none, rest) := by
  cases rest with
  | nil => rfl
  | cons c rest =>
      obtain ⟨-, -, he, hE⟩ := h c rfl
      simp [readExponent, he, hE]

/-- The digits of an integer, with its sign. -/
theorem toList_toString_int (i : Int) :
    (toString i).toList
      = if 0 ≤ i then Nat.toDigits 10 i.toNat else '-' :: Nat.toDigits 10 (-i).toNat := by
  show i.repr.toList = _
  rw [Int.repr_eq_if]
  split
  · rw [Nat.repr_eq_ofList_toDigits, String.toList_ofList]
  · rw [Nat.repr_eq_ofList_toDigits, String.toList_append]
    exact congrArg ('-' :: ·) String.toList_ofList

/-- The integers of 64 bits, with or without sign. -/
def FitsInteger (i : Int) : Prop := -(Nat.pow 2 63 : Int) ≤ i ∧ i < Nat.pow 2 64

/-- An integer of 64 bits reads back. -/
theorem readNumber_integer {i : Int} (hi : FitsInteger i) {rest : List Char}
    (h : EndsNumber rest) :
    readNumber ((toString i).toList ++ rest) = some (integer i, rest) := by
  have hpow : Nat.pow 2 64 = 18446744073709551616 ∧ Nat.pow 2 63 = 9223372036854775808 := by
    decide
  unfold FitsInteger at hi
  rw [toList_toString_int]
  split
  · next hsign =>
      have hvalue : numberOf false (Nat.toDigits 10 i.toNat) none none = some (integer i) := by
        have hlt : i.toNat < Nat.pow 2 64 := by omega
        simp only [numberOf, digitsValue_toDigits, Bool.not_false, Bool.true_and, hlt, decide_true,
          if_true, Int.toNat_of_nonneg hsign]
      unfold readNumber
      split
      next negative rest' heq =>
        split at heq
        · next cs hcs => exact absurd hcs (toDigits_append_ne_minus _ _ _)
        · obtain ⟨rfl, rfl⟩ := Prod.mk.inj heq
          simp [readWhole_toDigits _ h, readFraction_of_endsNumber h, readExponent_of_endsNumber h,
            hvalue]
  · next hsign =>
      have hvalue : numberOf true (Nat.toDigits 10 (-i).toNat) none none = some (integer i) := by
        have hpos : 0 < (-i).toNat := by omega
        have hle : (-i).toNat ≤ Nat.pow 2 63 := by omega
        have hneg : -((-i).toNat : Int) = i := by omega
        simp only [numberOf, digitsValue_toDigits, Bool.not_true, Bool.false_and,
          Bool.false_eq_true, if_false, hpos, hle, decide_true, Bool.and_self, if_true, hneg]
      simp [readNumber, readWhole_toDigits _ h, readFraction_of_endsNumber h,
        readExponent_of_endsNumber h, hvalue]

/-! ### Arrays and objects -/

/-- A text that begins with a character other than a blank and a closing bracket. -/
def Begins (text : List Char) : Prop :=
  ∃ c cs, text = c :: cs ∧ isSpace c = false ∧ c ≠ ']' ∧ c ≠ '\x7d'

theorem Begins.append {text : List Char} (h : Begins text) (rest : List Char) :
    Begins (text ++ rest) := by
  obtain ⟨c, cs, rfl, hc⟩ := h
  exact ⟨c, cs ++ rest, rfl, hc⟩

theorem Begins.skipSpaces {text : List Char} (h : Begins text) :
    skipSpaces text = text := by
  obtain ⟨c, cs, rfl, hc, -⟩ := h
  exact List.dropWhile_cons_of_neg (by simp [hc])

theorem skipSpaces_newline (level : Nat) (rest : List Char) :
    skipSpaces (newline level ++ rest) = skipSpaces rest := by
  have hspaces : ∀ c ∈ newline level, isSpace c = true := by
    intro c hc
    rcases List.mem_cons.mp hc with rfl | hc
    · decide
    · rw [List.eq_of_mem_replicate hc]
      decide
  exact List.dropWhile_append_of_pos hspaces

theorem skipSpaces_cons {c : Char} (h : isSpace c = false) (rest : List Char) :
    skipSpaces (c :: rest) = c :: rest :=
  List.dropWhile_cons_of_neg (by simp [h])

/-- The blank behind a colon. -/
theorem skipSpaces_blank {text : List Char} (h : Begins text) : skipSpaces (' ' :: text) = text :=
  (List.dropWhile_cons_of_pos (by decide)).trans h.skipSpaces

theorem endsNumber_newline (level : Nat) (rest : List Char) :
    EndsNumber (newline level ++ rest) :=
  endsNumber_cons (by decide) _

theorem endsNumber_layoutItems (level : Nat) (items : List Json) {rest : List Char}
    (h : EndsNumber rest) : EndsNumber (layoutItems level items ++ rest) := by
  cases items with
  | nil => exact h
  | cons _ _ => exact endsNumber_cons (by decide) _

theorem endsNumber_layoutMembers (level : Nat) (members : List (String × Json)) {rest : List Char}
    (h : EndsNumber rest) : EndsNumber (layoutMembers level members ++ rest) := by
  cases members with
  | nil => exact h
  | cons _ _ => exact endsNumber_cons (by decide) _

/-- A reader that reads a document back from its text at any level. -/
def ReadsBack (item : Reader Json) (j : Json) : Prop :=
  (∀ level, Begins (j.layout level))
    ∧ ∀ level rest, EndsNumber rest → item (j.layout level ++ rest) = some (j, rest)

/-- The items of an array read back up to the bracket that closes it. -/
theorem readItems_layout {item : Reader Json} (level outer : Nat) (tail : List Char)
    (items : List Json) :
    ∀ (first : Json) (done : List Json) (fuel : Nat) (cs : List Char), items.length < fuel →
      (∀ j ∈ first :: items, ReadsBack item j) →
      skipSpaces cs = first.layout level ++ (layoutItems level items
        ++ (newline outer ++ ']' :: tail)) →
      readItems item done fuel cs = some (array (done.reverse ++ first :: items), tail) := by
  -- The reader skips the blanks in front of an item, so the text is given behind them only.
  induction items with
  | nil =>
      intro first done fuel cs hfuel hitems hcs
      obtain ⟨fuel, rfl⟩ := Nat.exists_eq_succ_of_ne_zero (Nat.ne_of_gt hfuel)
      have hread := (hitems first List.mem_cons_self).2 level _
        (endsNumber_newline outer (']' :: tail))
      rw [layoutItems, List.nil_append] at hcs
      simp only [readItems, hcs, hread, Option.bind_eq_bind, Option.bind_some,
        skipSpaces_newline, skipSpaces_cons (show isSpace ']' = false by decide),
        List.reverse_cons]
  | cons second items ih =>
      intro first done fuel cs hfuel hitems hcs
      cases fuel with
      | zero => exact absurd hfuel (Nat.not_lt_zero _)
      | succ fuel =>
          have hread := (hitems first List.mem_cons_self).2 level _
            (endsNumber_layoutItems level (second :: items)
              (endsNumber_newline outer (']' :: tail)))
          have hbegins := (hitems second (by simp)).1 level
          have hnext : skipSpaces (newline level ++ (second.layout level
              ++ (layoutItems level items ++ (newline outer ++ ']' :: tail))))
              = second.layout level
                ++ (layoutItems level items ++ (newline outer ++ ']' :: tail)) := by
            rw [skipSpaces_newline, (hbegins.append _).skipSpaces]
          have hrest := ih second (first :: done) fuel _ (Nat.lt_of_succ_lt_succ hfuel)
            (fun j hj => hitems j (List.mem_cons_of_mem _ hj)) hnext
          simp only [readItems, hcs, hread, Option.bind_eq_bind, Option.bind_some]
          simp only [layoutItems, List.cons_append, List.append_assoc,
            skipSpaces_cons (show isSpace ',' = false by decide), hrest, List.reverse_cons,
            List.nil_append]

/-- The members of an object read back up to the brace that closes it. -/
theorem readMembers_layout {item : Reader Json} (level outer : Nat) (tail : List Char)
    (members : List (String × Json)) :
    ∀ (name : String) (value : Json) (done : List (String × Json)) (fuel : Nat) (cs : List Char),
      members.length < fuel →
      (∀ m ∈ (name, value) :: members, ReadsBack item m.2) →
      skipSpaces cs = quoted name ++ ([':', ' '] ++ (value.layout level
        ++ (layoutMembers level members ++ (newline outer ++ '\x7d' :: tail)))) →
      readMembers item done fuel cs
        = some (object (done.reverse ++ (name, value) :: members), tail) := by
  induction members with
  | nil =>
      intro name value done fuel cs hfuel hmembers hcs
      obtain ⟨fuel, rfl⟩ := Nat.exists_eq_succ_of_ne_zero (Nat.ne_of_gt hfuel)
      obtain ⟨hbegins, hread⟩ := hmembers (name, value) List.mem_cons_self
      have hread := hread level _ (endsNumber_newline outer ('\x7d' :: tail))
      have hvalue := skipSpaces_blank ((hbegins level).append (newline outer ++ '\x7d' :: tail))
      rw [layoutMembers, List.nil_append] at hcs
      simp only [readMembers, hcs, quoted, List.cons_append, List.nil_append, List.append_assoc,
        readString_escape, Option.bind_eq_bind, Option.bind_some,
        skipSpaces_cons (show isSpace ':' = false by decide), hvalue, hread,
        skipSpaces_newline, skipSpaces_cons (show isSpace '\x7d' = false by decide),
        List.reverse_cons]
  | cons second members ih =>
      intro name value done fuel cs hfuel hmembers hcs
      cases fuel with
      | zero => exact absurd hfuel (Nat.not_lt_zero _)
      | succ fuel =>
          obtain ⟨hbegins, hread⟩ := hmembers (name, value) List.mem_cons_self
          have hread := hread level _ (endsNumber_layoutMembers level (second :: members)
            (endsNumber_newline outer ('\x7d' :: tail)))
          have hvalue := skipSpaces_blank ((hbegins level).append
            (layoutMembers level (second :: members) ++ (newline outer ++ '\x7d' :: tail)))
          have hnext : skipSpaces (newline level ++ (quoted second.1 ++ ([':', ' ']
              ++ (second.2.layout level ++ (layoutMembers level members
                ++ (newline outer ++ '\x7d' :: tail))))))
              = quoted second.1 ++ ([':', ' '] ++ (second.2.layout level
                ++ (layoutMembers level members ++ (newline outer ++ '\x7d' :: tail)))) := by
            rw [skipSpaces_newline]
            exact skipSpaces_cons (by decide) _
          have hrest := ih second.1 second.2 ((name, value) :: done) fuel _
            (Nat.lt_of_succ_lt_succ hfuel)
            (fun m hm => hmembers m (List.mem_cons_of_mem _ hm)) hnext
          simp only [readMembers, hcs, quoted, List.cons_append, List.nil_append,
            List.append_assoc, readString_escape, Option.bind_eq_bind, Option.bind_some,
            skipSpaces_cons (show isSpace ':' = false by decide), hvalue, hread]
          simp only [layoutMembers, List.cons_append, List.append_assoc, List.nil_append,
            skipSpaces_cons (show isSpace ',' = false by decide), quoted] at hrest ⊢
          simp only [hrest, List.reverse_cons, List.append_assoc, List.cons_append,
            List.nil_append]

/-! ### Documents -/

/-- Documents without doubles whose arrays and objects are nested at most `depth` deep. -/
inductive Readable : Nat → Json → Prop
  | null {depth} : Readable depth null
  | bool {depth} (b : Bool) : Readable depth (bool b)
  | integer {depth} {i : Int} (h : FitsInteger i) : Readable depth (integer i)
  | string {depth} (s : String) : Readable depth (string s)
  | array {depth} {items : List Json} (h : ∀ j ∈ items, Readable depth j) :
      Readable (depth + 1) (array items)
  | object {depth} {members : List (String × Json)} (h : ∀ m ∈ members, Readable depth m.2) :
      Readable (depth + 1) (object members)

/-- A text that begins a scalar is read as one, however deep the reader may go. -/
theorem readValue_of_scalar {depth : Nat} {cs : List Char}
    (h : ∀ c ∈ cs.head?, c ≠ '[' ∧ c ≠ '\x7b') : readValue depth cs = readScalar cs := by
  cases depth with
  | zero => rfl
  | succ depth =>
      unfold readValue
      split
      · exact absurd rfl (h _ rfl).1
      · exact absurd rfl (h _ rfl).2
      · rfl

/-- A character with which a number begins. -/
def StartsNumber (c : Char) : Prop := c.isDigit = true ∨ c = '-'

theorem StartsNumber.ne {c d : Char} (h : StartsNumber c) (hd : d.isDigit = false ∧ d ≠ '-') :
    c ≠ d := by
  rintro rfl
  rcases h with h | rfl
  · exact Bool.noConfusion (h.symm.trans hd.1)
  · exact hd.2 rfl

theorem toString_int_cons (i : Int) :
    ∃ c cs, (toString i).toList = c :: cs ∧ StartsNumber c := by
  rw [toList_toString_int]
  split
  · cases hn : Nat.toDigits 10 i.toNat with
    | nil => exact absurd hn Nat.toDigits_ne_nil
    | cons c cs =>
        refine ⟨c, cs, rfl, Or.inl ?_⟩
        exact Nat.isDigit_of_mem_toDigits (by decide) (by decide) (hn ▸ List.mem_cons_self)
  · exact ⟨_, _, rfl, Or.inr rfl⟩

theorem readScalar_of_startsNumber {c : Char} (h : StartsNumber c) (cs : List Char) :
    readScalar (c :: cs) = readNumber (c :: cs) := by
  unfold readScalar
  split
  · next heq => exact absurd (List.cons.inj heq).1 (h.ne (by decide))
  · next heq => exact absurd (List.cons.inj heq).1 (h.ne (by decide))
  · next heq => exact absurd (List.cons.inj heq).1 (h.ne (by decide))
  · next heq => exact absurd (List.cons.inj heq).1 (h.ne (by decide))
  · rfl

theorem readsBack_integer (depth : Nat) {i : Int} (h : FitsInteger i) :
    ReadsBack (readValue depth) (integer i) := by
  obtain ⟨c, cs, hcs, hc⟩ := toString_int_cons i
  have hspace : isSpace c = false := by
    simp only [isSpace, Bool.or_eq_false_iff, beq_eq_false_iff_ne]
    exact ⟨⟨⟨hc.ne (by decide), hc.ne (by decide)⟩, hc.ne (by decide)⟩, hc.ne (by decide)⟩
  refine ⟨fun _ => ⟨c, cs, hcs, hspace, hc.ne (by decide), hc.ne (by decide)⟩, ?_⟩
  intro level rest hrest
  show readValue depth ((toString i).toList ++ rest) = _
  rw [← readNumber_integer h hrest, hcs, List.cons_append, readValue_of_scalar,
    readScalar_of_startsNumber hc]
  rintro d ⟨⟩
  exact ⟨hc.ne (by decide), hc.ne (by decide)⟩

theorem readsBack_string (depth : Nat) (s : String) : ReadsBack (readValue depth) (string s) := by
  refine ⟨fun _ => ⟨_, _, rfl, by decide⟩, fun level rest _ => ?_⟩
  show readValue depth ('\x22' :: (s.toList.flatMap escape ++ ['\x22']) ++ rest) = _
  rw [List.cons_append, List.append_assoc, readValue_of_scalar (by rintro c ⟨⟩; decide)]
  show (readString _).map _ = _
  rw [List.singleton_append, readString_escape]
  rfl

theorem length_le_layoutItems (level : Nat) (items : List Json) :
    items.length ≤ (layoutItems level items).length := by
  induction items with
  | nil => exact Nat.le_refl _
  | cons item items ih =>
      simp only [layoutItems, List.length_cons, List.length_append]
      omega

theorem length_le_layoutMembers (level : Nat) (members : List (String × Json)) :
    members.length ≤ (layoutMembers level members).length := by
  induction members with
  | nil => exact Nat.le_refl _
  | cons m members ih =>
      simp only [layoutMembers, List.length_cons, List.length_append]
      omega

theorem readsBack_array {depth : Nat} {items : List Json}
    (h : ∀ j ∈ items, ReadsBack (readValue depth) j) :
    ReadsBack (readValue (depth + 1)) (array items) := by
  cases items with
  | nil => exact ⟨fun _ => ⟨_, _, rfl, by decide⟩, fun _ _ _ => rfl⟩
  | cons first items =>
      refine ⟨fun _ => ⟨_, _, rfl, by decide⟩, fun level rest _ => ?_⟩
      have htext := ((h first List.mem_cons_self).1 (level + 1)).append
        (layoutItems (level + 1) items ++ (newline level ++ ']' :: rest))
      have hitems := fun fuel hfuel => readItems_layout (level + 1) level rest items first []
        fuel _ hfuel h htext.skipSpaces
      rw [layout]
      simp only [List.cons_append, List.append_assoc, List.nil_append, readValue,
        skipSpaces_newline, htext.skipSpaces]
      split
      · next heq =>
          obtain ⟨c, cs, hc, -, hbracket, -⟩ := htext
          rw [hc] at heq
          exact absurd (List.cons.inj heq).1 hbracket
      · refine hitems _ ?_
        have hlength := length_le_layoutItems (level + 1) items
        simp only [List.length_append]
        omega

theorem readsBack_object {depth : Nat} {members : List (String × Json)}
    (h : ∀ m ∈ members, ReadsBack (readValue depth) m.2) :
    ReadsBack (readValue (depth + 1)) (object members) := by
  cases members with
  | nil => exact ⟨fun _ => ⟨_, _, rfl, by decide⟩, fun _ _ _ => rfl⟩
  | cons first members =>
      obtain ⟨name, value⟩ := first
      refine ⟨fun _ => ⟨_, _, rfl, by decide⟩, fun level rest _ => ?_⟩
      have htext : skipSpaces (quoted name ++ ([':', ' '] ++ (value.layout (level + 1)
          ++ (layoutMembers (level + 1) members ++ (newline level ++ '\x7d' :: rest)))))
          = quoted name ++ ([':', ' '] ++ (value.layout (level + 1)
            ++ (layoutMembers (level + 1) members ++ (newline level ++ '\x7d' :: rest)))) :=
        skipSpaces_cons (by decide) _
      have hmembers := fun fuel hfuel => readMembers_layout (level + 1) level rest members name
        value [] fuel _ hfuel h htext
      rw [layout]
      simp only [List.cons_append, List.append_assoc, List.nil_append, readValue,
        skipSpaces_newline] at htext hmembers ⊢
      rw [htext]
      split
      · next heq => exact absurd (List.cons.inj heq).1 (by decide)
      · refine hmembers _ ?_
        have hlength := length_le_layoutMembers (level + 1) members
        simp only [List.length_append, List.length_cons]
        omega

/-- The text of a document reads back, whatever stands behind it but the rest of a number. -/
theorem readsBack_of_readable {depth : Nat} {j : Json} (h : Readable depth j) :
    ReadsBack (readValue depth) j := by
  induction h with
  | null =>
      refine ⟨fun _ => ⟨_, _, rfl, by decide⟩, fun _ _ _ => readValue_of_scalar ?_⟩
      rintro c ⟨⟩
      decide
  | bool b =>
      cases b with
      | false =>
          refine ⟨fun _ => ⟨_, _, rfl, by decide⟩, fun _ _ _ => readValue_of_scalar ?_⟩
          rintro c ⟨⟩
          decide
      | true =>
          refine ⟨fun _ => ⟨_, _, rfl, by decide⟩, fun _ _ _ => readValue_of_scalar ?_⟩
          rintro c ⟨⟩
          decide
  | integer h => exact readsBack_integer _ h
  | string s => exact readsBack_string _ s
  | array _ ih => exact readsBack_array ih
  | object _ ih => exact readsBack_object ih

/-- A document that is written is read as it was. -/
theorem read?_pretty {j : Json} (h : Readable maxDepth j) : read? j.pretty = some j := by
  obtain ⟨hbegins, hread⟩ := readsBack_of_readable h
  have hread := hread 0 [] endsNumber_nil
  rw [List.append_nil] at hread
  unfold read? pretty
  rw [String.toList_ofList, (hbegins 0).skipSpaces, hread]
  rfl

end Stencil.Json
