import Bindings.Proofs.BindingDocument.Functions

/-!
# Which of a header's configuration is used

The configuration of a function is looked up when the function is met, so what is configured under other names is never
looked at.

* `configured_exposed_iff`: in a generated header, what is configured for a function of the header belongs to one of its
  exposed parameters; everything configured does exactly when the header has all functions that something is configured
  for.
* `misspelt_function_ignored`: a default under a name that is no function's stops nothing.
-/

namespace Bindings

/-- A default or an override is configured for a parameter of a function, both by name. -/
def HeaderConfig.Configures (c : HeaderConfig) (function parameter : String) : Prop :=
  ∃ entry, c.functions.get? function = some entry ∧
    (parameter ∈ entry.defaults.names ∨ parameter ∈ entry.overrides.names)

/-- The function has an exposed parameter of the given name. -/
def NativeFunction.Exposes (module : String) (f : NativeFunction) (parameter : String) : Prop :=
  ∃ exposed, exposedName module f.name = .ok exposed ∧ parameter ∈ f.effectiveNames exposed

/-- What is configured for an accepted function belongs to one of its exposed parameters. -/
theorem NativeFunction.Accepted.exposes {module : String} {f : NativeFunction} {c : HeaderConfig}
    (h : Accepted module f (c.entry f.name)) {parameter : String} (hc : c.Configures f.name parameter) :
    f.Exposes module parameter := by
  obtain ⟨exposed, hx, hb⟩ := h
  obtain ⟨entry, hentry, hp⟩ := hc
  have he : c.entry f.name = entry := by simp [HeaderConfig.entry, hentry]
  rw [he] at hb
  exact ⟨exposed, hx, hp.elim (hb.defaults_known parameter) (hb.overrides_known parameter)⟩

/-- **Configuration in use.** -/
theorem configured_exposed_iff {h : Header} {c : HeaderConfig} {module : String} {d : BindingDocument}
    (hm : c.moduleName = some module) (hd : (h.generate c).outcome = .ok d) :
    (∀ f ∈ h.functions, ∀ parameter, c.Configures f.name parameter → f.Exposes module parameter) ∧
      ((∀ function parameter, c.Configures function parameter →
          ∃ f ∈ h.functions, f.name = function ∧ f.Exposes module parameter) ↔
        ∀ function parameter, c.Configures function parameter → ∃ f ∈ h.functions, f.name = function) := by
  have hused : ∀ f ∈ h.functions, ∀ parameter, c.Configures f.name parameter → f.Exposes module parameter := by
    intro f hf parameter hc
    have hall := ((outcome_generate_eq_ok_iff h c).1 hd).2.2.2
    obtain ⟨b, hb⟩ := exists_bindsEach_iff.1 ⟨_, (outcome_transformAll_eq_ok_iff hm).1 hall⟩ f hf
    exact (NativeFunction.accepted_of_outcome hm hb).exposes hc
  refine ⟨hused, fun hall function parameter hc => ?_, fun hall function parameter hc => ?_⟩
  · obtain ⟨f, hf, hname, _⟩ := hall function parameter hc
    exact ⟨f, hf, hname⟩
  · obtain ⟨f, hf, rfl⟩ := hall function parameter hc
    exact ⟨f, hf, rfl, hused f hf parameter hc⟩

/-- A header with a function that has one exposed parameter. -/
def motor : Header :=
  ⟨"Mot", [], [⟨"c_Mot_Set", "void",
    [⟨"handle", "void *", false, false, none⟩, ⟨"speed", "int", false, false, none⟩]⟩]⟩

/-- A default for the speed of the function of the given name. -/
def speedDefault (function : String) : HeaderConfig :=
  ⟨some "Mot", .ofList [(function, { FunctionConfig.empty with defaults := .ofList [("speed", .int 1)] })]⟩

theorem configures_speedDefault (function : String) : (speedDefault function).Configures function "speed" :=
  ⟨{ FunctionConfig.empty with defaults := .ofList [("speed", .int 1)] },
    by simp [speedDefault, Table.ofList, Table.get?_insert], .inl (by decide)⟩

theorem eq_of_configures_speedDefault {function g parameter : String}
    (h : (speedDefault function).Configures g parameter) : g = function := by
  obtain ⟨entry, hentry, _⟩ := h
  by_cases hg : g = function
  · exact hg
  · have hnone : (speedDefault function).functions.get? g = none := by
      simp only [speedDefault, Table.ofList, List.foldl_cons, List.foldl_nil, Table.get?_insert, if_neg hg]
      rfl
    rw [hnone] at hentry
    cases hentry

theorem speedDefault_exposed :
    (speedDefault "c_Mot_Set").moduleName = some "Mot" ∧
      (∃ d, (motor.generate (speedDefault "c_Mot_Set")).outcome = .ok d) ∧
      ∀ function parameter, (speedDefault "c_Mot_Set").Configures function parameter →
        ∃ f ∈ motor.functions, f.name = function ∧ f.Exposes "Mot" parameter := by
  obtain ⟨d, hd⟩ := exists_ok_of_isOk (x := (motor.generate (speedDefault "c_Mot_Set")).outcome) (by decide +kernel)
  refine ⟨rfl, ⟨d, hd⟩, (configured_exposed_iff rfl hd).2.2 fun function parameter hc => ?_⟩
  exact ⟨_, List.mem_cons_self, (eq_of_configures_speedDefault hc).symm⟩

/-- A header is generated although a default is configured for a function that it does not have. -/
theorem misspelt_function_ignored :
    (∃ d, (motor.generate (speedDefault "c_Mot_Sett")).outcome = .ok d) ∧
      (speedDefault "c_Mot_Sett").moduleName = some "Mot" ∧
      (speedDefault "c_Mot_Sett").Configures "c_Mot_Sett" "speed" ∧
      ¬∃ f ∈ motor.functions, f.name = "c_Mot_Sett" ∧ f.Exposes "Mot" "speed" := by
  refine ⟨exists_ok_of_isOk (by decide +kernel), rfl, configures_speedDefault _, ?_⟩
  rintro ⟨f, hf, hname, _⟩
  cases List.mem_singleton.1 hf
  exact absurd hname (by decide)

end Bindings
