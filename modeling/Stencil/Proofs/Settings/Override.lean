/-
What the variables leave of the settings.

The variables are read one after the other, and what the first one says is in place
before the second one is looked at.  So if the second one is refused, the settings are
as they were only if the first one had nothing to change.  If neither is refused, only
the settings that they are about are replaced, by what they say.  A number in decimal
digits is good enough for the parallelism, and zero is such a number: it is the one
value that is accepted here and breaks the rules for settings.
-/
import Stencil.Proofs.Settings

namespace Stencil

open Text

/-! ### Numbers -/

namespace Decimal

/-- The text is a number in decimal digits, which may have a plus in front. -/
def Denotes (text : List Char) (n : Nat) : Prop :=
  ∃ digits, (text = digits ∨ text = '+' :: digits) ∧ digits ≠ []
    ∧ (∀ c ∈ digits, c.isDigit = true) ∧ digitsValue digits = n

theorem unsignedDigits_cases (text : List Char) :
    text = unsignedDigits text ∨ text = '+' :: unsignedDigits text := by
  unfold unsignedDigits
  split
  · exact Or.inr rfl
  · exact Or.inl rfl

theorem unsignedDigits_of_digits {digits : List Char} (h : ∀ c ∈ digits, c.isDigit = true) :
    unsignedDigits digits = digits := by
  unfold unsignedDigits
  split
  · have hplus := h '+' List.mem_cons_self
    cases hplus
  · rfl

theorem readNatural?_eq_some {bound n : Nat} {text : List Char} :
    readNatural? bound text = some n ↔ Denotes text n ∧ n < bound := by
  unfold readNatural?
  constructor
  · intro h
    dsimp only at h
    split at h
    · cases h
    · rename_i hdigits
      simp only [Bool.or_eq_true, Bool.not_eq_true', not_or, List.isEmpty_iff,
        Bool.not_eq_false, List.all_eq_true] at hdigits
      split at h
      · rename_i hlt
        cases h
        exact ⟨⟨_, unsignedDigits_cases text, hdigits.1, hdigits.2, rfl⟩, hlt⟩
      · cases h
  · rintro ⟨⟨digits, htext, hne, hdigits, rfl⟩, hlt⟩
    have hunsigned : unsignedDigits text = digits := by
      rcases htext with rfl | rfl
      · exact unsignedDigits_of_digits hdigits
      · rfl
    have hkept : (digits.isEmpty || !digits.all Char.isDigit) = false := by
      rw [List.isEmpty_eq_false_iff.mpr hne, List.all_eq_true.mpr hdigits]
      rfl
    rw [hunsigned]
    dsimp only
    rw [hkept, if_neg Bool.false_ne_true, if_pos hlt]

end Decimal

namespace Settings

variable {values : Variables} {s s' : Settings}

/-! ### What the variables say -/

/-- The variable for the parallelism is a number that can be kept. -/
def GivesParallelism (values : Variables) (n : Nat) : Prop :=
  ∃ value ∈ values parallelismVariable,
    Decimal.Denotes (trimmed value.toList) n ∧ n < parallelismBound

/-- The words that switch something on, and those that switch it off. -/
def switchWords : Bool → List String
  | true => ["1", "true", "yes", "on"]
  | false => ["0", "false", "no", "off"]

/-- The variable for the fragments is one of the words for on or off, in any case. -/
def GivesSwitch (values : Variables) (b : Bool) : Prop :=
  ∃ value ∈ values switchVariable, lower (trim value) ∈ switchWords b

theorem readSwitch?_eq_some {value : String} {b : Bool} :
    readSwitch? value = some b ↔ lower (trim value) ∈ switchWords b := by
  unfold readSwitch?
  split <;> cases b <;> simp_all [switchWords]

theorem bind_readParallelism? {n : Nat} :
    (values parallelismVariable).bind readParallelism? = some n ↔ GivesParallelism values n := by
  rw [Option.bind_eq_some_iff]
  exact exists_congr fun value => and_congr_right fun _ => Decimal.readNatural?_eq_some

theorem bind_readSwitch? {b : Bool} :
    (values switchVariable).bind readSwitch? = some b ↔ GivesSwitch values b := by
  rw [Option.bind_eq_some_iff]
  exact exists_congr fun value => and_congr_right fun _ => readSwitch?_eq_some

/-- A value is not refused if there is none, or if something is read from it. -/
theorem not_refused_iff {α : Type} {read : String → Option α} {value? : Option String} :
    (∀ value, ¬ Refused read value? value) ↔ value? = none ∨ ∃ a, value?.bind read = some a := by
  cases value? with
  | none => simp [Refused]
  | some value => simp [Refused, Option.ne_none_iff_exists']

theorem overridden_parallelism_of_gives {n : Nat} (h : GivesParallelism values n) :
    (s.overridden values).parallelism = n := by
  rw [overridden, bind_readParallelism?.mpr h]
  rfl

theorem overridden_substituting_of_gives {b : Bool} (h : GivesSwitch values b) :
    (s.overridden values).substituting = b := by
  rw [overridden, bind_readSwitch?.mpr h]
  rfl

/-- The parallelism stays as it is exactly if no other one is given. -/
theorem overridden_parallelism_eq_iff :
    (s.overridden values).parallelism = s.parallelism
      ↔ ∀ n, GivesParallelism values n → n = s.parallelism := by
  constructor
  · intro h n hn
    rw [← h, overridden_parallelism_of_gives hn]
  · intro h
    cases hread : (values parallelismVariable).bind readParallelism? with
    | none =>
        rw [overridden, hread]
        rfl
    | some n =>
        have hn := bind_readParallelism?.mp hread
        rw [overridden_parallelism_of_gives hn, h n hn]

/-! ### What comes of it -/

/-- Nothing but what the variables are about is replaced, and that by what they say. -/
structure OverriddenBy (values : Variables) (s s' : Settings) : Prop where
  parallelism : ∀ n, GivesParallelism values n → s'.parallelism = n
  parallelism_absent : values parallelismVariable = none → s'.parallelism = s.parallelism
  substituting : ∀ b, GivesSwitch values b → s'.substituting = b
  substituting_absent : values switchVariable = none → s'.substituting = s.substituting
  others : s' = { s with parallelism := s'.parallelism, substituting := s'.substituting }

theorem overriddenBy_overridden (values : Variables) (s : Settings) :
    OverriddenBy values s (s.overridden values) where
  parallelism _ h := overridden_parallelism_of_gives h
  parallelism_absent h := by rw [overridden, h]; rfl
  substituting _ h := overridden_substituting_of_gives h
  substituting_absent h := by rw [overridden, h]; rfl
  others := rfl

/-- The variables are accepted if each that is there can be read. -/
theorem override_isOk_iff :
    (∃ s', override values s = (.ok (), s'))
      ↔ (values parallelismVariable = none ∨ ∃ n, GivesParallelism values n)
        ∧ (values switchVariable = none ∨ ∃ b, GivesSwitch values b) := by
  simp only [← bind_readParallelism?, ← bind_readSwitch?, ← not_refused_iff]
  rcases override_cases values s with ⟨value, hrefused, heq⟩ | ⟨hread, hsecond⟩
  · refine iff_of_false ?_ fun h => h.1 value hrefused
    rintro ⟨s', h⟩
    rw [heq] at h
    cases h
  · rcases hsecond with ⟨value, hrefused, heq⟩ | ⟨hread', heq⟩
    · refine iff_of_false ?_ fun h => h.2 value hrefused
      rintro ⟨s', h⟩
      rw [heq] at h
      cases h
    · exact iff_of_true ⟨_, heq⟩ ⟨hread, hread'⟩

/-- Settings in which at most the parallelism differs are the same if it does not. -/
theorem with_parallelism_eq_iff {n : Nat} :
    { s with parallelism := n } = s ↔ n = s.parallelism := by
  constructor
  · intro h
    exact congrArg parallelism h
  · rintro rfl
    rfl

/-- What is left behind a refusal: nothing has changed, or the parallelism has. -/
theorem override_eq_error {e : Error} (h : override values s = (.error e, s')) :
    s' = { s with parallelism := s'.parallelism }
      ∧ (s' = s ↔ ∀ n, GivesParallelism values n → n = s.parallelism) := by
  rcases override_cases values s with ⟨value, hrefused, heq⟩ | ⟨-, ⟨value, -, heq⟩ | ⟨-, heq⟩⟩
  · rw [heq] at h
    obtain ⟨-, rfl⟩ := Prod.mk.inj h
    refine ⟨rfl, fun _ n hn => ?_, fun _ => rfl⟩
    obtain ⟨value', hvalue', hread⟩ := Option.bind_eq_some_iff.mp (bind_readParallelism?.mpr hn)
    rw [hrefused.1] at hvalue'
    rw [← Option.some.inj hvalue', hrefused.2] at hread
    cases hread
  · rw [heq] at h
    obtain ⟨-, rfl⟩ := Prod.mk.inj h
    exact ⟨rfl, with_parallelism_eq_iff.trans overridden_parallelism_eq_iff⟩
  · rw [heq] at h
    exact nomatch (Prod.mk.inj h).1

/--
**What is left behind an override.**  The variables are accepted exactly if each that is
there can be read.  If they are not, the settings are as they were exactly if no other
parallelism is given by the first variable.  If they are, nothing but what they are about
is replaced; a parallelism that is given is positive, and settings that keep the rules go
on keeping them, exactly if it is not zero.
-/
theorem override_all_or_nothing_iff (values : Variables) (s s' : Settings) :
    ((∃ s', override values s = (.ok (), s'))
      ↔ (values parallelismVariable = none ∨ ∃ n, GivesParallelism values n)
        ∧ (values switchVariable = none ∨ ∃ b, GivesSwitch values b))
    ∧ (∀ e, override values s = (.error e, s') →
      s' = { s with parallelism := s'.parallelism }
        ∧ (s' = s ↔ ∀ n, GivesParallelism values n → n = s.parallelism))
    ∧ (override values s = (.ok (), s') →
      OverriddenBy values s s'
        ∧ (values parallelismVariable ≠ none →
          (1 ≤ s'.parallelism ↔ ¬ GivesParallelism values 0))
        ∧ (s.validate = .ok () → (s'.validate = .ok () ↔ ¬ GivesParallelism values 0))) := by
  refine ⟨override_isOk_iff, fun e => override_eq_error, fun h => ?_⟩
  have hread := (override_isOk_iff.mp ⟨s', h⟩).1
  obtain rfl := override_eq_ok h
  have hby := overriddenBy_overridden values s
  have hpos : values parallelismVariable ≠ none →
      (1 ≤ (s.overridden values).parallelism ↔ ¬ GivesParallelism values 0) := by
    intro hthere
    obtain ⟨n, hn⟩ := hread.resolve_left hthere
    constructor
    · intro hone hzero
      rw [hby.parallelism 0 hzero] at hone
      exact absurd hone (by decide)
    · intro hzero
      rw [hby.parallelism n hn, Nat.one_le_iff_ne_zero]
      rintro rfl
      exact hzero hn
  refine ⟨hby, hpos, fun hvalid => ?_⟩
  obtain ⟨hone, hseparator⟩ := validate_eq_ok.mp hvalid
  have hseparator' : isBlankText (s.overridden values).separator = false := hseparator
  rw [validate_eq_ok, and_iff_left hseparator']
  by_cases hthere : values parallelismVariable = none
  · rw [hby.parallelism_absent hthere]
    refine iff_of_true hone ?_
    rintro ⟨value, hvalue, -⟩
    rw [hthere] at hvalue
    cases hvalue
  · exact hpos hthere

/-- Variables of which at most two are there. -/
def only (parallelism? switch? : Option String) : Variables := fun name =>
  if name = parallelismVariable then parallelism?
  else if name = switchVariable then switch?
  else none

/-- Two values with blanks, a plus and capitals, and a refusal behind a number that is in place. -/
theorem override_all_or_nothing_iff_off :
    (override (only (some " +4\t") (some "OFF")) standard
          = (.ok (), { standard with parallelism := 4, substituting := false })
        ∧ only (some " +4\t") (some "OFF") parallelismVariable ≠ none
        ∧ standard.validate = .ok ()
        ∧ ¬ GivesParallelism (only (some " +4\t") (some "OFF")) 0
        ∧ validate { standard with parallelism := 4, substituting := false } = .ok ())
      ∧ override (only (some "8") (some "maybe")) { standard with parallelism := 8 }
          = (.error (.badSwitch "maybe"), { standard with parallelism := 8 })
        ∧ ∀ n, GivesParallelism (only (some "8") (some "maybe")) n → n = 8 := by
  have hok : override (only (some " +4\t") (some "OFF")) standard
      = (.ok (), { standard with parallelism := 4, substituting := false }) :=
    Prod.ext (by decide +kernel) (by decide +kernel)
  have herror : override (only (some "8") (some "maybe")) { standard with parallelism := 8 }
      = (.error (.badSwitch "maybe"), { standard with parallelism := 8 }) :=
    Prod.ext (by decide +kernel) (by decide +kernel)
  have hthere : only (some " +4\t") (some "OFF") parallelismVariable ≠ none := by decide +kernel
  have hvalid : standard.validate = .ok () := by decide +kernel
  obtain ⟨-, hpos, hkeeps⟩ := (override_all_or_nothing_iff _ _ _).2.2 hok
  have hzero := (hpos hthere).mp (by decide)
  exact ⟨⟨hok, hthere, hvalid, hzero, (hkeeps hvalid).mpr hzero⟩, herror,
    ((override_all_or_nothing_iff _ _ _).2.1 _ herror).2.mp rfl⟩

/-- Zero is accepted, although the message for what is not says that a positive integer is asked
for, and the settings keep the rules no more.  A number stays in place when the switch behind it is
refused. -/
theorem override_not_all_or_nothing :
    (override (only (some "0") none) standard = (.ok (), { standard with parallelism := 0 })
        ∧ standard.validate = .ok ()
        ∧ validate { standard with parallelism := 0 } = .error .zeroParallelism
        ∧ (Error.badParallelism "0").detail
          = "FRAGSQL_PARALLELISM must be a positive integer, got '0'")
      ∧ override (only (some "8") (some "maybe")) standard
        = (.error (.badSwitch "maybe"), { standard with parallelism := 8 })
      ∧ { standard with parallelism := 8 } ≠ standard :=
  ⟨⟨Prod.ext (by decide +kernel) (by decide +kernel), by decide +kernel, by decide +kernel,
    by decide +kernel⟩, Prod.ext (by decide +kernel) (by decide +kernel), by decide +kernel⟩

end Settings
end Stencil
