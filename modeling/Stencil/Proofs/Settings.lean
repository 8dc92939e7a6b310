/-
Which configurations an environment is set up with.

Settings come in layers: a file, the variables, and the command line.  The rules are
checked for the file alone, and what a variable or the command line puts in place of a
setting may break them again.  So nothing is known of a configuration because of the
layers it came through; what is known of it is what setting up an environment checks
once more, and `Valid` says what that is.
-/
import Stencil.Command.Run
import Stencil.Proofs.Fragment.Reachable
import Stencil.Proofs.Run

namespace Stencil

open Fragment Text

/-- A configuration that an environment can be set up with. -/
structure Configuration.Valid (c : Configuration) : Prop where
  parallelism : 1 ≤ c.settings.parallelism
  separator : isBlankText c.settings.separator = false
  dialect : Sql.Dialect.isKnown c.settings.dialect = true
  /-- No fragment has a blank name or a blank text. -/
  fragments : ∀ entry ∈ c.fragments, isBlankText entry.1 = false ∧ isBlankText entry.2 = false

/-! ### Layers -/

namespace Settings

/-- The settings with what the variables say about them. -/
def overridden (s : Settings) (values : Variables) : Settings :=
  { s with
    parallelism := ((values parallelismVariable).bind readParallelism?).getD s.parallelism
    substituting := ((values switchVariable).bind readSwitch?).getD s.substituting }

/-- A value that is there and cannot be read. -/
def Refused {α : Type} (read : String → Option α) (value? : Option String) (value : String) :
    Prop :=
  value? = some value ∧ read value = none

/-- A value is refused, or else the setting is replaced by what is read from it, if there is one. -/
theorem overrideIf_cases {α : Type} (read : String → Option α) (put : Settings → α → Settings)
    (e : String → Error) (set : String → Run Settings Unit)
    (hset : ∀ value, set value = Run.change fun s =>
      match read value with
      | some a => .ok ((), put s a)
      | none => .error (e value))
    (value? : Option String) (s : Settings) :
    (∃ value, Refused read value? value ∧ overrideIf set value? s = (.error (e value), s))
      ∨ ((∀ value, ¬ Refused read value? value)
        ∧ overrideIf set value? s = (.ok (), ((value?.bind read).map (put s)).getD s)) := by
  cases value? with
  | none => exact Or.inr ⟨fun value h => absurd h.1.symm (Option.some_ne_none value), rfl⟩
  | some value =>
      have happly : overrideIf set (some value) s = set value s := rfl
      rw [happly, hset, Option.bind_some]
      cases hread : read value with
      | none => exact Or.inl ⟨value, ⟨rfl, hread⟩, Run.change_of_error rfl⟩
      | some a =>
          refine Or.inr ⟨?_, Run.change_of_ok rfl⟩
          rintro value' ⟨heq, hnone⟩
          rw [← Option.some.inj heq, hread] at hnone
          cases hnone

/-- What the variables can come to: the first value is refused, or the second one is when the first
has already been put in place, or neither is. -/
theorem override_cases (values : Variables) (s : Settings) :
    (∃ value, Refused readParallelism? (values parallelismVariable) value
        ∧ override values s = (.error (.badParallelism value), s))
      ∨ (∀ value, ¬ Refused readParallelism? (values parallelismVariable) value)
        ∧ ((∃ value, Refused readSwitch? (values switchVariable) value
            ∧ override values s = (.error (.badSwitch value),
              { s with parallelism := (s.overridden values).parallelism }))
          ∨ (∀ value, ¬ Refused readSwitch? (values switchVariable) value)
            ∧ override values s = (.ok (), s.overridden values)) := by
  unfold override
  have hfirst := overrideIf_cases readParallelism? (fun s parallelism => { s with parallelism })
    .badParallelism overrideParallelism
    (fun value => by unfold overrideParallelism; cases readParallelism? value <;> rfl)
    (values parallelismVariable) s
  rcases hfirst with ⟨value, hrefused, heq⟩ | ⟨hread, heq⟩
  · exact Or.inl ⟨value, hrefused, Run.bind_of_error heq _⟩
  · refine Or.inr ⟨hread, ?_⟩
    have hput : (((values parallelismVariable).bind readParallelism?).map
          (fun parallelism => { s with parallelism })).getD s
        = { s with parallelism := (s.overridden values).parallelism } := by
      unfold overridden
      cases (values parallelismVariable).bind readParallelism? <;> rfl
    rw [hput] at heq
    rw [Run.bind_of_ok heq]
    have hsecond := overrideIf_cases readSwitch? (fun s substituting => { s with substituting })
      .badSwitch overrideSwitch
      (fun value => by unfold overrideSwitch; cases readSwitch? value <;> rfl)
      (values switchVariable) { s with parallelism := (s.overridden values).parallelism }
    rcases hsecond with hrefused | ⟨hread', heq'⟩
    · exact Or.inl hrefused
    · refine Or.inr ⟨hread', heq'.trans ?_⟩
      unfold overridden
      cases (values switchVariable).bind readSwitch? <;> rfl

theorem override_eq_ok {s s' : Settings} {values : Variables}
    (h : override values s = (.ok (), s')) : s' = s.overridden values := by
  rcases override_cases values s with ⟨value, -, heq⟩ | ⟨-, ⟨value, -, heq⟩ | ⟨-, heq⟩⟩
  · rw [heq] at h
    cases h
  · rw [heq] at h
    cases h
  · rw [heq] at h
    exact (Prod.mk.inj h).2.symm

end Settings

/-- **The variables have their say about the settings of the file, and the command line has it
about both.**  Nothing but the parallelism and the switch for fragments is ever replaced. -/
theorem Command.configuration_eq_ok {w : Command.Surroundings} {r : Command.Request}
    {c : Configuration} (h : Command.configuration w r = .ok c) :
    ∃ file, Command.loadConfiguration w.files (r.config.getD w.settingsPath) = .ok file
      ∧ c = { file with settings := r.apply (file.settings.overridden w.values) } := by
  unfold Command.configuration at h
  obtain ⟨file, hfile, h⟩ := bind_eq_ok.mp h
  refine ⟨file, hfile, ?_⟩
  cases hrun : Settings.override w.values file.settings with
  | mk result settings =>
      have hrun' : (Settings.override w.values).run.run file.settings = (result, settings) := hrun
      rw [hrun'] at h
      obtain ⟨⟨⟩, hresult, h⟩ := bind_eq_ok.mp h
      rw [hresult] at hrun
      rw [← Settings.override_eq_ok hrun]
      cases h
      rfl

/-! ### What is checked -/

theorem Settings.validate_eq_ok {s : Settings} :
    s.validate = .ok () ↔ 1 ≤ s.parallelism ∧ isBlankText s.separator = false := by
  unfold Settings.validate
  split
  · rename_i hzero
    simp [hzero]
  · rename_i hpos
    split
    · rename_i hblank
      simp [hblank]
    · rename_i hvisible
      have hseparator : isBlankText s.separator = false := by simpa using hvisible
      simp [Nat.one_le_iff_ne_zero.mpr hpos, hseparator]

namespace Fragment.Registry

theorem register_of_visible {name sql : String} (hname : isBlankText name = false)
    (hsql : isBlankText sql = false) (r : Registry) :
    r.register name sql = .ok (r.insert name sql) := by
  unfold register
  rw [hname, hsql]
  rfl

/-- Texts are registered one after the other if and only if none of them is blank, nor is any of
their names. -/
theorem registerAll_isOk_iff {texts : Keyed String String} {r : Registry} :
    (∃ r', r.registerAll texts = .ok r')
      ↔ ∀ entry ∈ texts, isBlankText entry.1 = false ∧ isBlankText entry.2 = false := by
  unfold registerAll
  induction texts generalizing r with
  | nil => exact ⟨fun _ _ h => absurd h List.not_mem_nil, fun _ => ⟨r, rfl⟩⟩
  | cons entry rest ih =>
      rw [List.forall_mem_cons, List.foldlM_cons]
      constructor
      · rintro ⟨r', h⟩
        obtain ⟨r₁, hfirst, hrest⟩ := bind_eq_ok.mp h
        obtain ⟨hname, hsql, rfl⟩ := register_eq_ok hfirst
        exact ⟨⟨hname, hsql⟩, ih.mp ⟨r', hrest⟩⟩
      · rintro ⟨⟨hname, hsql⟩, hrest⟩
        obtain ⟨r', h⟩ := ih.mpr hrest
        exact ⟨r', bind_eq_ok.mpr ⟨_, register_of_visible hname hsql r, h⟩⟩

end Fragment.Registry

namespace Planning

theorem State.configured_eq_ok {settings : Settings} {s : State} :
    State.configured settings = .ok s
      ↔ Sql.Dialect.isKnown settings.dialect = true ∧ 1 ≤ settings.parallelism
        ∧ s = .new settings := by
  unfold State.configured
  cases hknown : Sql.Dialect.isKnown settings.dialect with
  | false => simp
  | true =>
      rw [Bool.not_true, if_neg (by decide)]
      split
      · rename_i hzero
        simp [hzero]
      · rename_i hpos
        have hone : 1 ≤ settings.parallelism := Nat.one_le_iff_ne_zero.mpr hpos
        simp [hone, eq_comm]

/-- An environment is set up with what a valid configuration says, and with nothing else. -/
theorem environment_eq_ok {c : Configuration} {env : Environment State} :
    environment c = .ok env
      ↔ c.Valid ∧ Registry.empty.registerAll c.fragments = .ok env.fragments
        ∧ env.engine = .new c.settings ∧ env.substituting = c.settings.substituting
        ∧ env.separator = c.settings.separator := by
  unfold environment Environment.configured
  constructor
  · intro h
    obtain ⟨s, hengine, h⟩ := bind_eq_ok.mp h
    obtain ⟨⟨⟩, hvalidate, h⟩ := bind_eq_ok.mp h
    obtain ⟨fragments, hfragments, h⟩ := bind_eq_ok.mp h
    cases h
    obtain ⟨hdialect, hpos, rfl⟩ := State.configured_eq_ok.mp hengine
    obtain ⟨-, hseparator⟩ := Settings.validate_eq_ok.mp hvalidate
    have htexts := Registry.registerAll_isOk_iff.mp ⟨fragments, hfragments⟩
    exact ⟨⟨hpos, hseparator, hdialect, htexts⟩, hfragments, rfl, rfl, rfl⟩
  · rintro ⟨hvalid, hfragments, hengine, hsubstituting, hseparator⟩
    have hstate := State.configured_eq_ok.mpr ⟨hvalid.dialect, hvalid.parallelism, rfl⟩
    have hvalidate := Settings.validate_eq_ok.mpr ⟨hvalid.parallelism, hvalid.separator⟩
    refine bind_eq_ok.mpr ⟨_, hstate, bind_eq_ok.mpr ⟨(), hvalidate, ?_⟩⟩
    refine bind_eq_ok.mpr ⟨_, hfragments, ?_⟩
    rw [← hengine, ← hsubstituting, ← hseparator]
    rfl

/-- **An environment is set up with the valid configurations, and with no others.** -/
theorem exists_environment_iff (c : Configuration) :
    (∃ env, environment c = .ok env) ↔ c.Valid := by
  constructor
  · rintro ⟨env, h⟩
    exact (environment_eq_ok.mp h).1
  · intro h
    obtain ⟨fragments, hfragments⟩ :=
      (Registry.registerAll_isOk_iff (r := .empty)).mpr h.fragments
    exact ⟨⟨.new c.settings, fragments, c.settings.substituting, c.settings.separator⟩,
      environment_eq_ok.mpr ⟨h, hfragments, rfl, rfl, rfl⟩⟩

end Planning
end Stencil
