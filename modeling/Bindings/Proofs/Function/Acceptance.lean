import Bindings.BindingDocument.Basic
import Bindings.Proofs.Function.Return

/-!
# Which functions are bound

Six conditions decide whether a function of a named module is bound: its name, the types of its exposed parameters, the
names that defaults and overrides are configured for, its return type and its configured code.

* `Bindable`: what the last five ask of a function that exposes the given parameters.
* `Refused`: which of them fails first, and what is reported of it.
* `accepted_of_outcome`, `outcome_transform_of_accepted`: a function is bound exactly when it is `Accepted`, that is
  `Bindable` under its exposed name.
* `rejected_of_outcome`, `outcome_transform_of_rejected`: otherwise it is `Rejected` by the first condition that fails,
  which is reported at that function.
-/

namespace Bindings

/-- The configuration of a function, empty if there is none. -/
def HeaderConfig.entry (c : HeaderConfig) (function : String) : FunctionConfig :=
  (c.functions.get? function).getD .empty

/-- Configured names that are not among the given ones, in order. -/
def Table.strayNames {α : Type} (t : Table α) (names : List String) : List String :=
  t.names.filter (· ∉ names)

namespace NativeFunction

/-- The names that the exposed parameters go by. -/
def effectiveNames (f : NativeFunction) (exposed : String) : List String :=
  (f.exposedParameters exposed).mapIdx fun i p => p.nameAt i

theorem namesFrom_zero (f : NativeFunction) (exposed : String) :
    namesFrom 0 (f.exposedParameters exposed) = f.effectiveNames exposed := by
  simp [namesFrom, effectiveNames]

/-- The names that parameters go by: their own, and that of their position for those that have none. -/
def goBy (ps : List NativeParameter) : List String :=
  ps.mapIdx fun i p => if p.name = "" then "param" ++ toString i else p.name

theorem effectiveNames_eq (f : NativeFunction) (exposed : String) :
    f.effectiveNames exposed = goBy (f.exposedParameters exposed) := rfl

/-- Every one of the parameters has a type that may be exposed. -/
def ParametersTyped (ps : List NativeParameter) : Prop :=
  ∀ p ∈ ps, HasHostType p.rawType

/-- All of the names are names that one of the parameters goes by. -/
def Knows (ps : List NativeParameter) (names : List String) : Prop :=
  ∀ n ∈ names, n ∈ goBy ps

/-- The return type carries nothing or may be exposed. -/
def ReturnTyped (f : NativeFunction) : Prop :=
  f.returnType = "void" ∨ f.returnType = "void *" ∨ HasHostType f.returnType

/-- What a function needs to be bound if it exposes the given parameters. -/
structure Bindable (f : NativeFunction) (ps : List NativeParameter) (c : FunctionConfig) : Prop where
  parameters_typed : ParametersTyped ps
  defaults_known : Knows ps c.defaults.names
  overrides_known : Knows ps c.overrides.names
  return_typed : f.ReturnTyped
  code_open : ∀ code, c.code = some code → ¬"return".toList <:+: code.toList

/-- The cause and the code by which a function that exposes the given parameters is refused: those of its first
condition that fails. -/
inductive Refused (f : NativeFunction) (ps : List NativeParameter) (c : FunctionConfig) : Cause → String → Prop
  | parameterType {before after : List NativeParameter} {p : NativeParameter} :
      ps = before ++ p :: after → ParametersTyped before → ¬HasHostType p.rawType →
      Refused f ps c (.unknownType p.rawType) "BG-ERR-UNKNOWN-TYPE"
  | strayDefaults : ParametersTyped ps → ¬Knows ps c.defaults.names →
      Refused f ps c (.strayDefaults f.name (c.defaults.strayNames (goBy ps))) "BG-ERR-UNDRAINED-DEFAULT"
  | strayOverrides : ParametersTyped ps → Knows ps c.defaults.names → ¬Knows ps c.overrides.names →
      Refused f ps c (.strayOverrides f.name (c.overrides.strayNames (goBy ps))) "BG-ERR-UNDRAINED-OVERRIDE"
  | returnType : ParametersTyped ps → Knows ps c.defaults.names → Knows ps c.overrides.names → ¬f.ReturnTyped →
      Refused f ps c (.unknownType f.returnType) "BG-ERR-UNKNOWN-TYPE"
  | earlyReturn {code : String} : ParametersTyped ps → Knows ps c.defaults.names → Knows ps c.overrides.names →
      f.ReturnTyped → c.code = some code → "return".toList <:+: code.toList →
      Refused f ps c (.earlyReturn f.name) "BG-ERR-EARLY-RETURN"

variable {f : NativeFunction} {exposed : String} {c : FunctionConfig}

theorem returnTyped_iff : f.ReturnTyped ↔ carriesNothing f.returnType = true ∨ HasHostType f.returnType := by
  simp [ReturnTyped, carriesNothing, NativeType.spelling, or_assoc]

/-- A function that is not bindable fails one of the conditions first. -/
theorem bindable_or_refused (f : NativeFunction) (ps : List NativeParameter) (c : FunctionConfig) :
    f.Bindable ps c ∨ ∃ cause code, f.Refused ps c cause code := by
  by_cases hp : ParametersTyped ps
  case neg =>
    obtain ⟨p, hfind⟩ : ∃ p, ps.find? (fun p => ¬HasHostType p.rawType) = some p := by
      rw [← Option.isSome_iff_exists, List.find?_isSome]
      simpa [ParametersTyped] using hp
    obtain ⟨hun, before, after, hsplit, hbefore⟩ := List.find?_eq_some_iff_append.1 hfind
    have htyped : ParametersTyped before := by simpa [ParametersTyped] using hbefore
    exact .inr ⟨_, _, .parameterType hsplit htyped (by simpa using hun)⟩
  by_cases hd : Knows ps c.defaults.names
  case neg => exact .inr ⟨_, _, .strayDefaults hp hd⟩
  by_cases ho : Knows ps c.overrides.names
  case neg => exact .inr ⟨_, _, .strayOverrides hp hd ho⟩
  by_cases hr : f.ReturnTyped
  case neg => exact .inr ⟨_, _, .returnType hp hd ho hr⟩
  by_cases hc : ∃ code, c.code = some code ∧ "return".toList <:+: code.toList
  · obtain ⟨code, hcode, hret⟩ := hc
    exact .inr ⟨_, _, .earlyReturn hp hd ho hr hcode hret⟩
  · exact .inl ⟨hp, hd, ho, hr, fun code hcode hret => hc ⟨code, hcode, hret⟩⟩

/-- What is left of the configuration when the exposed parameters have been bound. -/
def remaining (f : NativeFunction) (exposed : String) (c : FunctionConfig) : Pending :=
  Pending.eraseAll ⟨c.defaults, c.overrides⟩ (f.effectiveNames exposed)

theorem remaining_defaults_eq_nil_iff :
    (f.remaining exposed c).defaults.names = [] ↔ Knows (f.exposedParameters exposed) c.defaults.names := by
  rw [remaining, (Pending.names_eraseAll _ _).1, effectiveNames_eq]
  simp [Knows, List.filter_eq_nil_iff]

theorem remaining_overrides_eq_nil_iff :
    (f.remaining exposed c).overrides.names = [] ↔ Knows (f.exposedParameters exposed) c.overrides.names := by
  rw [remaining, (Pending.names_eraseAll _ _).2, effectiveNames_eq]
  simp [Knows, List.filter_eq_nil_iff]

theorem bindAll_exposed (h : ParametersTyped (f.exposedParameters exposed)) (c : FunctionConfig) :
    ∃ bs, bindAll 0 ⟨c.defaults, c.overrides⟩ (f.exposedParameters exposed) = .ok (bs, f.remaining exposed c) := by
  obtain ⟨bs, hbs⟩ := bindAll_of_typed h 0 ⟨c.defaults, c.overrides⟩
  exact ⟨bs, by rw [hbs, namesFrom_zero, remaining]⟩

theorem drained_of_knows (hd : Knows (f.exposedParameters exposed) c.defaults.names)
    (ho : Knows (f.exposedParameters exposed) c.overrides.names) : (f.remaining exposed c).drained f.name = .ok () :=
  Pending.drained_eq_ok f.name (remaining_defaults_eq_nil_iff.2 hd) (remaining_overrides_eq_nil_iff.2 ho)

theorem any_returnsEarly_eq_true_iff {code : Option String} :
    code.any returnsEarly = true ↔ ∃ text, code = some text ∧ "return".toList <:+: text.toList := by
  cases code <;> simp [returnsEarly, Text.occursIn_eq_true_iff]

/-- A bindable function is bound. -/
theorem bindAs_of_bindable (h : f.Bindable (f.exposedParameters exposed) c) : ∃ b, f.bindAs exposed c = .ok b := by
  obtain ⟨bs, hbs⟩ := bindAll_exposed h.parameters_typed c
  have hdrained := drained_of_knows h.defaults_known h.overrides_known
  obtain ⟨shape, hshape⟩ := ReturnShape.ofOutputs_of_typed (bs.filter (·.direction.isOutput))
    (returnTyped_iff.1 h.return_typed)
  have hcode : ¬c.code.any returnsEarly = true := fun hearly => by
    obtain ⟨code, hc, hret⟩ := any_returnsEarly_eq_true_iff.1 hearly
    exact h.code_open code hc hret
  refine ⟨?b, bind_eq_ok_iff.2 ⟨_, hbs, bind_eq_ok_iff.2 ⟨(), hdrained, bind_eq_ok_iff.2 ⟨shape, hshape, ?kept⟩⟩⟩⟩
  case kept =>
    rw [if_neg hcode]
    rfl

/-- A refused function is reported by the cause of its refusal. -/
theorem bindAs_of_refused {cause : Cause} {code : String}
    (h : f.Refused (f.exposedParameters exposed) c cause code) :
    f.bindAs exposed c = .error (.ofCause cause) ∧ cause.code = code := by
  refine ⟨?_, by cases h <;> rfl⟩
  cases h with
  | parameterType hsplit hbefore hun =>
    refine bind_eq_error_iff.2 (.inl ?_)
    rw [hsplit]
    exact bindAll_of_untyped hbefore hun 0 _
  | strayDefaults hp hd =>
    obtain ⟨bs, hbs⟩ := bindAll_exposed hp c
    have hstray := Pending.drained_eq_strayDefaults f.name (mt remaining_defaults_eq_nil_iff.1 hd)
    rw [remaining, (Pending.names_eraseAll _ _).1] at hstray
    exact bind_eq_error_iff.2 (.inr ⟨_, hbs, bind_eq_error_iff.2 (.inl hstray)⟩)
  | strayOverrides hp hd ho =>
    obtain ⟨bs, hbs⟩ := bindAll_exposed hp c
    have hstray := Pending.drained_eq_strayOverrides f.name (remaining_defaults_eq_nil_iff.2 hd)
      (mt remaining_overrides_eq_nil_iff.1 ho)
    rw [remaining, (Pending.names_eraseAll _ _).2] at hstray
    exact bind_eq_error_iff.2 (.inr ⟨_, hbs, bind_eq_error_iff.2 (.inl hstray)⟩)
  | returnType hp hd ho hr =>
    obtain ⟨bs, hbs⟩ := bindAll_exposed hp c
    obtain ⟨hn, ht⟩ := not_or.1 (mt returnTyped_iff.2 hr)
    exact bind_eq_error_iff.2 (.inr ⟨_, hbs, bind_eq_error_iff.2 (.inr ⟨(), drained_of_knows hd ho,
      bind_eq_error_iff.2 (.inl (ReturnShape.ofOutputs_of_untyped hn ht))⟩)⟩)
  | earlyReturn hp hd ho hr hcode hret =>
    obtain ⟨bs, hbs⟩ := bindAll_exposed hp c
    obtain ⟨shape, hshape⟩ := ReturnShape.ofOutputs_of_typed (bs.filter (·.direction.isOutput)) (returnTyped_iff.1 hr)
    refine bind_eq_error_iff.2 (.inr ⟨_, hbs, bind_eq_error_iff.2 (.inr ⟨(), drained_of_knows hd ho,
      bind_eq_error_iff.2 (.inr ⟨shape, hshape, ?_⟩)⟩)⟩)
    rw [if_pos (any_returnsEarly_eq_true_iff.2 ⟨_, hcode, hret⟩)]
    rfl

/-! ## Functions of a module -/

theorem outcome_functionConfig (c : HeaderConfig) (function : String) :
    (c.functionConfig function).outcome = .ok (c.entry function) := by
  unfold HeaderConfig.functionConfig HeaderConfig.entry
  cases c.functions.get? function <;> rfl

theorem outcome_transform_of_module {c : HeaderConfig} {module : String} (h : c.moduleName = some module) :
    (f.transform c).outcome = do
      let exposed ← exposedName module f.name
      let b ← (f.bindAs exposed (c.entry f.name)).mapError (·.inFunction f.name)
      return some b := by
  unfold transform
  simp only [h, Traced.outcome_bind, Traced.outcome_ofExcept, Traced.outcome_report, Traced.outcome_pure,
    outcome_functionConfig]
  rfl

/-- A name that is not as the module asks is reported as such. -/
theorem exposedName_eq_error {module function : String} {e : Failure} (h : exposedName module function = .error e) :
    e = ⟨.misnamed function module, none, some function, []⟩ := by
  unfold exposedName at h
  split at h
  · cases h
  · cases h
    rfl

/-- A function of a module is accepted if it has an exposed name and is bindable under it. -/
def Accepted (module : String) (f : NativeFunction) (c : FunctionConfig) : Prop :=
  ∃ exposed, exposedName module f.name = .ok exposed ∧ f.Bindable (f.exposedParameters exposed) c

/-- The cause and the code by which a function of a module is rejected. -/
inductive Rejected (module : String) (f : NativeFunction) (c : FunctionConfig) : Cause → String → Prop
  | misnamed : (∀ exposed, exposedName module f.name ≠ .ok exposed) →
      Rejected module f c (.misnamed f.name module) "BG-ERR-NAMING"
  | refused {exposed : String} {cause : Cause} {code : String} : exposedName module f.name = .ok exposed →
      f.Refused (f.exposedParameters exposed) c cause code → Rejected module f c cause code

theorem accepted_or_rejected (module : String) (f : NativeFunction) (c : FunctionConfig) :
    Accepted module f c ∨ ∃ cause code, Rejected module f c cause code := by
  cases hx : exposedName module f.name with
  | error e => exact .inr ⟨_, _, .misnamed fun exposed h => by rw [hx] at h; cases h⟩
  | ok exposed =>
    rcases f.bindable_or_refused (f.exposedParameters exposed) c with h | ⟨cause, code, h⟩
    · exact .inl ⟨exposed, hx, h⟩
    · exact .inr ⟨cause, code, .refused hx h⟩

section Module

variable {c : HeaderConfig} {module : String}

theorem outcome_transform_of_accepted (hm : c.moduleName = some module) (h : Accepted module f (c.entry f.name)) :
    ∃ b, (f.transform c).outcome = .ok (some b) := by
  obtain ⟨exposed, hx, hbind⟩ := h
  obtain ⟨b, hb⟩ := bindAs_of_bindable hbind
  refine ⟨b, ?_⟩
  rw [outcome_transform_of_module hm]
  exact bind_eq_ok_iff.2 ⟨exposed, hx, bind_eq_ok_iff.2 ⟨b, mapError_eq_ok_iff.2 hb, rfl⟩⟩

theorem outcome_transform_of_rejected (hm : c.moduleName = some module) {cause : Cause} {code : String}
    (h : Rejected module f (c.entry f.name) cause code) :
    (f.transform c).outcome = .error ⟨cause, none, some f.name, cause.hints⟩ ∧ cause.code = code := by
  rw [outcome_transform_of_module hm]
  cases h with
  | misnamed hx =>
    cases hname : exposedName module f.name with
    | ok exposed => exact absurd hname (hx exposed)
    | error e =>
      rw [exposedName_eq_error hname]
      exact ⟨rfl, rfl⟩
  | refused hx hr =>
    obtain ⟨hb, hcode⟩ := bindAs_of_refused hr
    exact ⟨bind_eq_error_iff.2 (.inr ⟨_, hx, bind_eq_error_iff.2 (.inl (mapError_eq_error_iff.2 ⟨_, hb, rfl⟩))⟩), hcode⟩

/-- What does not fail in a module was accepted. -/
theorem accepted_of_outcome {bound : Option BoundFunction} (hm : c.moduleName = some module)
    (h : (f.transform c).outcome = .ok bound) : Accepted module f (c.entry f.name) := by
  rcases accepted_or_rejected module f (c.entry f.name) with ha | ⟨cause, code, hr⟩
  · exact ha
  · rw [(outcome_transform_of_rejected hm hr).1] at h
    cases h

/-- What fails in a module was rejected. -/
theorem rejected_of_outcome {e : Failure} (hm : c.moduleName = some module)
    (h : (f.transform c).outcome = .error e) :
    Rejected module f (c.entry f.name) e.cause e.cause.code ∧ e = ⟨e.cause, none, some f.name, e.cause.hints⟩ := by
  rcases accepted_or_rejected module f (c.entry f.name) with ha | ⟨cause, code, hr⟩
  · obtain ⟨b, hb⟩ := outcome_transform_of_accepted hm ha
    rw [hb] at h
    cases h
  · obtain ⟨he, hcode⟩ := outcome_transform_of_rejected hm hr
    rw [he] at h
    cases h
    exact ⟨hcode ▸ hr, rfl⟩

end Module

end NativeFunction

end Bindings
