import Bindings.Proofs.Function.Binding
import Mathlib.Data.List.Forall2

/-!
# The functions of a header

A header is bound function by function: in the order of declaration, each for itself, and no further than the first that
cannot be bound.

* `transform_of_bound`, `transform_of_refused`, `transform_of_misnamed`: what binding one function of a module reports and
  comes to.
* `transformAll_cases`: what binding several does. All of them are bound, or those before one that is not.
* `outcome_generate`: the law for a header, with where its failures are placed.
-/

namespace Bindings

/-! ## One function -/

/-- What is reported of a function before it is bound, if it has no configuration of its own. -/
def HeaderConfig.warning (c : HeaderConfig) (function : String) : List Event :=
  if (c.functions.get? function).isSome then [] else [.unconfigured function]

/-- What is reported of a function that has been bound. -/
def BoundFunction.report (b : BoundFunction) : Event :=
  .transformed b.name b.exposedName b.inputs.length b.returns.length

theorem HeaderConfig.functionConfig_eq (c : HeaderConfig) (function : String) :
    c.functionConfig function = ⟨c.warning function, .ok (c.entry function)⟩ := by
  unfold functionConfig warning entry
  cases c.functions.get? function <;> rfl

namespace NativeFunction

variable {f : NativeFunction} {c : HeaderConfig} {b : BoundFunction} {e : Failure} {module exposed : String}

theorem transform_of_unnamed (f : NativeFunction) (hm : c.moduleName = none) : f.transform c = ⟨[], .ok none⟩ := by
  rw [transform, hm]
  rfl

theorem name_of_bindAs {config : FunctionConfig} (h : f.bindAs exposed config = .ok b) : b.name = f.name := by
  obtain ⟨parameters, pending, shape, _, _, _, rfl⟩ := exists_parts_of_bindAs h
  rfl

section Module

variable (hm : c.moduleName = some module)
include hm

theorem transform_of_misnamed (hx : exposedName module f.name = .error e) : f.transform c = ⟨[], .error e⟩ := by
  rw [transform, hm]
  simp only [hx, Traced.ofExcept, Traced.bind_error]

theorem transform_of_refused (hx : exposedName module f.name = .ok exposed)
    (hb : f.bindAs exposed (c.entry f.name) = .error e) :
    f.transform c = ⟨c.warning f.name, .error (e.inFunction f.name)⟩ := by
  rw [transform, hm]
  simp only [hx, Traced.ofExcept, Traced.bind_ok, c.functionConfig_eq, hb, Except.mapError, Traced.bind_error,
    List.nil_append, List.append_nil]

theorem transform_of_bound (hx : exposedName module f.name = .ok exposed)
    (hb : f.bindAs exposed (c.entry f.name) = .ok b) :
    f.transform c = ⟨c.warning f.name ++ [b.report], .ok (some b)⟩ := by
  rw [transform, hm, BoundFunction.report, name_of_bindAs hb]
  simp only [hx, Traced.ofExcept, Traced.bind_ok, c.functionConfig_eq, hb, Except.mapError, List.nil_append]
  rfl

/-- A function of a module is bound or fails; either way it is warned of if its name is as the module asks. -/
theorem transform_cases (f : NativeFunction) :
    (∃ b, f.transform c = ⟨c.warning f.name ++ [b.report], .ok (some b)⟩ ∧ b.name = f.name) ∨
      ∃ e, f.transform c = ⟨if (exposedName module f.name).isOk then c.warning f.name else [], .error e⟩ := by
  cases hx : exposedName module f.name with
  | error e => exact .inr ⟨e, transform_of_misnamed hm hx⟩
  | ok exposed =>
    cases hb : f.bindAs exposed (c.entry f.name) with
    | error e => exact .inr ⟨_, transform_of_refused hm hx hb⟩
    | ok b => exact .inl ⟨b, transform_of_bound hm hx hb, name_of_bindAs hb⟩

end Module

end NativeFunction

/-! ## Several functions -/

/-- The functions are bound, one by one, as the given ones. -/
abbrev HeaderConfig.BindsEach (c : HeaderConfig) (fs : List NativeFunction) (bs : List BoundFunction) : Prop :=
  List.Forall₂ (fun f b => (f.transform c).outcome = .ok (some b)) fs bs

/-- What is reported while functions are bound. -/
def HeaderConfig.account (c : HeaderConfig) (bs : List BoundFunction) : List Event :=
  bs.flatMap fun b => c.warning b.name ++ [b.report]

section

variable {c : HeaderConfig} {module : String} {fs before after : List NativeFunction} {f : NativeFunction}
  {bs : List BoundFunction} {e : Failure}

/-- There is something that the functions are bound as exactly when each of them is bound. -/
theorem exists_bindsEach_iff :
    (∃ bs, c.BindsEach fs bs) ↔ ∀ f ∈ fs, ∃ b, (f.transform c).outcome = .ok (some b) := by
  induction fs with
  | nil => exact ⟨fun _ => List.forall_mem_nil _, fun _ => ⟨[], .nil⟩⟩
  | cons f fs ih =>
    rw [List.forall_mem_cons, ← ih]
    constructor
    · rintro ⟨_ | ⟨b, bs⟩, hbs⟩
      · cases hbs
      · obtain ⟨hb, hbs⟩ := List.forall₂_cons.1 hbs
        exact ⟨⟨b, hb⟩, bs, hbs⟩
    · rintro ⟨⟨b, hb⟩, bs, hbs⟩
      exact ⟨b :: bs, .cons hb hbs⟩

theorem transformAll_of_unnamed (hm : c.moduleName = none) (fs : List NativeFunction) :
    transformAll c fs = ⟨[], .ok []⟩ := by
  induction fs with
  | nil => rfl
  | cons f fs ih =>
    rw [transformAll, f.transform_of_unnamed hm, Traced.bind_ok, ih]
    rfl

theorem transformAll_cases (hm : c.moduleName = some module) (fs : List NativeFunction) :
    (∃ bs, c.BindsEach fs bs ∧ transformAll c fs = ⟨c.account bs, .ok bs⟩) ∨
      ∃ before f after bs e, fs = before ++ f :: after ∧ c.BindsEach before bs ∧ (f.transform c).outcome = .error e ∧
        transformAll c fs = ⟨c.account bs ++ (f.transform c).events, .error e⟩ := by
  induction fs with
  | nil => exact .inl ⟨[], .nil, rfl⟩
  | cons g fs ih =>
    rcases g.transform_cases hm with ⟨b, hb, hname⟩ | ⟨e, he⟩
    · have hg : (g.transform c).outcome = .ok (some b) := by rw [hb]
      have haccount (bs : List BoundFunction) :
          c.account (b :: bs) = (c.warning g.name ++ [b.report]) ++ c.account bs := by
        rw [HeaderConfig.account, List.flatMap_cons, hname, HeaderConfig.account]
      rw [transformAll, hb, Traced.bind_ok]
      rcases ih with ⟨bs, hbs, hall⟩ | ⟨before, f, after, bs, e, rfl, hbs, he, hall⟩
      · refine .inl ⟨b :: bs, .cons hg hbs, ?_⟩
        rw [hall, haccount, Traced.bind_ok]
        simp only [List.append_assoc, pure, Traced.ofExcept, List.append_nil, Option.toList_some, List.singleton_append]
      · refine .inr ⟨g :: before, f, after, b :: bs, e, rfl, .cons hg hbs, he, ?_⟩
        rw [hall, haccount, Traced.bind_error]
        simp only [List.append_assoc]
    · refine .inr ⟨[], g, fs, [], e, rfl, .nil, by rw [he], ?_⟩
      rw [transformAll, he, Traced.bind_error]
      rfl

/-- Functions that are bound are followed by the next ones. -/
theorem outcome_transformAll_append (c : HeaderConfig) (before after : List NativeFunction) :
    (transformAll c (before ++ after)).outcome = do
      let first ← (transformAll c before).outcome
      let rest ← (transformAll c after).outcome
      return first ++ rest := by
  induction before with
  | nil =>
    show (transformAll c after).outcome = (transformAll c after).outcome >>= fun rest => pure ([] ++ rest)
    simp only [List.nil_append, bind_pure]
  | cons f before ih =>
    simp only [List.cons_append, transformAll, Traced.outcome_bind, ih]
    cases (f.transform c).outcome with
    | error e => rfl
    | ok bound =>
      cases (transformAll c before).outcome with
      | error e => rfl
      | ok first =>
        cases (transformAll c after).outcome with
        | error e => rfl
        | ok rest => exact congrArg Except.ok (List.append_assoc bound.toList first rest).symm

theorem outcome_transformAll_of_bindsEach (h : c.BindsEach fs bs) : (transformAll c fs).outcome = .ok bs := by
  induction h with
  | nil => rfl
  | cons hf _ ih =>
    rw [transformAll, Traced.outcome_bind, hf]
    refine bind_eq_ok_iff.2 ⟨_, rfl, ?_⟩
    rw [Traced.outcome_bind, ih]
    rfl

theorem outcome_transformAll_eq_ok_iff (hm : c.moduleName = some module) :
    (transformAll c fs).outcome = .ok bs ↔ c.BindsEach fs bs := by
  refine ⟨fun h => ?_, outcome_transformAll_of_bindsEach⟩
  rcases transformAll_cases hm fs with ⟨bs', hbs, hall⟩ | ⟨_, _, _, _, e, _, _, _, hall⟩
  · rw [hall] at h
    exact Except.ok.inj h ▸ hbs
  · rw [hall] at h
    cases h

/-- Each bound function is what some function is bound as. -/
theorem exists_of_mem_transformAll (h : (transformAll c fs).outcome = .ok bs) :
    ∀ b ∈ bs, ∃ f : NativeFunction, (f.transform c).outcome = .ok (some b) := by
  intro b hb
  cases hm : c.moduleName with
  | none =>
    rw [transformAll_of_unnamed hm] at h
    cases h
    cases hb
  | some module =>
    obtain ⟨i, hi, rfl⟩ := List.mem_iff_getElem.1 hb
    obtain ⟨hlength, hbound⟩ := List.forall₂_iff_get.1 ((outcome_transformAll_eq_ok_iff hm).1 h)
    exact ⟨_, hbound i (hlength ▸ hi) hi⟩

theorem outcome_transformAll_eq_error_iff (hm : c.moduleName = some module) :
    (transformAll c fs).outcome = .error e ↔ ∃ before f after bs,
      fs = before ++ f :: after ∧ c.BindsEach before bs ∧ (f.transform c).outcome = .error e := by
  constructor
  · intro h
    rcases transformAll_cases hm fs with ⟨bs, _, hall⟩ | ⟨before, f, after, bs, e', hsplit, hbs, he, hall⟩
    · rw [hall] at h
      cases h
    · rw [hall] at h
      exact ⟨before, f, after, bs, hsplit, hbs, Except.error.inj h ▸ he⟩
  · rintro ⟨before, f, after, bs, rfl, hbs, he⟩
    rw [outcome_transformAll_append, outcome_transformAll_of_bindsEach hbs, transformAll, Traced.outcome_bind, he]
    rfl

end

/-! ## Headers -/

section

variable {h : Header} {c : HeaderConfig} {d : BindingDocument} {e : Failure} {module : String}

theorem outcome_generate_eq_ok_iff (h : Header) (c : HeaderConfig) :
    (h.generate c).outcome = .ok d ↔ d.header = h.name ∧ d.moduleName = c.moduleName ∧
      d.enums = h.enums.map HostEnum.ofNative ∧ (transformAll c h.functions).outcome = .ok d.functions := by
  obtain ⟨header, moduleName, enums, functions⟩ := d
  rw [Header.generate, Traced.outcome_bind, Traced.outcome_mapFailure, bind_eq_ok_iff]
  constructor
  · rintro ⟨bs, hbs, hd⟩
    cases hd
    exact ⟨rfl, rfl, rfl, mapError_eq_ok_iff.1 hbs⟩
  · rintro ⟨rfl, rfl, rfl, hbs⟩
    exact ⟨functions, mapError_eq_ok_iff.2 hbs, rfl⟩

theorem outcome_generate_eq_error_iff (h : Header) (c : HeaderConfig) :
    (h.generate c).outcome = .error e ↔ ∃ e₀, (transformAll c h.functions).outcome = .error e₀ ∧ e₀.inHeader h.name = e := by
  rw [Header.generate, Traced.outcome_bind, Traced.outcome_mapFailure, bind_eq_error_iff, mapError_eq_error_iff]
  refine or_iff_left ?_
  rintro ⟨_, _, hno⟩
  cases hno

/-- A function is bound by its module and its own entry of the configuration. -/
theorem NativeFunction.transform_congr {f : NativeFunction} {c' : HeaderConfig} (hm : c'.moduleName = c.moduleName)
    (hentry : c'.functions.get? f.name = c.functions.get? f.name) : f.transform c' = f.transform c := by
  rw [transform, transform, hm, HeaderConfig.functionConfig, HeaderConfig.functionConfig, hentry]

/-- The functions of a header in two parts are bound part by part. -/
theorem outcome_generate_append (h : Header) (c : HeaderConfig) (before after : List NativeFunction) :
    ({ h with functions := before ++ after }.generate c).outcome = do
      let first ← ({ h with functions := before }.generate c).outcome
      let rest ← ({ h with functions := after }.generate c).outcome
      return { first with functions := first.functions ++ rest.functions } := by
  simp only [Header.generate, Traced.outcome_bind, Traced.outcome_mapFailure, outcome_transformAll_append]
  cases (transformAll c before).outcome with
  | error e => rfl
  | ok first =>
    cases (transformAll c after).outcome with
    | error e => rfl
    | ok rest => rfl

/-- The first function that fails is named, and so is the header. -/
theorem outcome_generate_eq_error_iff_of_module (hm : c.moduleName = some module) :
    (h.generate c).outcome = .error e ↔ ∃ before f after e₀, h.functions = before ++ f :: after ∧
      (∀ g ∈ before, ∃ b, (g.transform c).outcome = .ok (some b)) ∧ (f.transform c).outcome = .error e₀ ∧
      e = ⟨e₀.cause, some h.name, some f.name, e₀.hints⟩ := by
  have hplaced {f : NativeFunction} {e₀ : Failure} (he : (f.transform c).outcome = .error e₀) :
      e₀.inHeader h.name = ⟨e₀.cause, some h.name, some f.name, e₀.hints⟩ := by
    rw [(NativeFunction.rejected_of_outcome hm he).2]
    rfl
  rw [outcome_generate_eq_error_iff]
  constructor
  · rintro ⟨e₀, hfails, rfl⟩
    obtain ⟨before, f, after, bs, hsplit, hbs, he⟩ := (outcome_transformAll_eq_error_iff hm).1 hfails
    exact ⟨before, f, after, e₀, hsplit, exists_bindsEach_iff.1 ⟨bs, hbs⟩, he, hplaced he⟩
  · rintro ⟨before, f, after, e₀, hsplit, hbefore, he, rfl⟩
    obtain ⟨bs, hbs⟩ := exists_bindsEach_iff.2 hbefore
    exact ⟨e₀, (outcome_transformAll_eq_error_iff hm).2 ⟨before, f, after, bs, hsplit, hbs, he⟩, hplaced he⟩

/--
**Headers, function by function.** A header without a module has no functions. In a module it is bound exactly when all of
its functions are, and has them in their order, each as it is bound for itself; otherwise it fails with the first that does,
which is named together with the header.
-/
theorem outcome_generate (h : Header) (c : HeaderConfig) :
    match c.moduleName with
    | none => (h.generate c).outcome = .ok ⟨h.name, none, h.enums.map HostEnum.ofNative, []⟩
    | some module =>
      ((∃ d, (h.generate c).outcome = .ok d) ↔ ∀ f ∈ h.functions, ∃ bound, (f.transform c).outcome = .ok bound) ∧
      (∀ d, (h.generate c).outcome = .ok d ↔ d.header = h.name ∧ d.moduleName = some module ∧
        d.enums = h.enums.map HostEnum.ofNative ∧
        List.Forall₂ (fun f b => (f.transform c).outcome = .ok (some b)) h.functions d.functions) ∧
      (∀ before after, ({ h with functions := before ++ after }.generate c).outcome = do
        let first ← ({ h with functions := before }.generate c).outcome
        let rest ← ({ h with functions := after }.generate c).outcome
        return { first with functions := first.functions ++ rest.functions }) ∧
      (∀ (f : NativeFunction) (c' : HeaderConfig), c'.moduleName = some module →
        c'.functions.get? f.name = c.functions.get? f.name → f.transform c' = f.transform c) ∧
      ∀ e, (h.generate c).outcome = .error e ↔ ∃ before f after e₀, h.functions = before ++ f :: after ∧
        (∀ g ∈ before, ∃ b, (g.transform c).outcome = .ok (some b)) ∧ (f.transform c).outcome = .error e₀ ∧
        e = ⟨e₀.cause, some h.name, some f.name, e₀.hints⟩ := by
  cases hm : c.moduleName with
  | none =>
    refine (outcome_generate_eq_ok_iff h c).2 ⟨rfl, hm.symm, rfl, ?_⟩
    rw [transformAll_of_unnamed hm]
  | some module =>
    have hok (d : BindingDocument) := outcome_generate_eq_ok_iff (d := d) h c
    simp only [hm, outcome_transformAll_eq_ok_iff hm] at hok
    refine ⟨⟨fun ⟨d, hd⟩ f hf => ?_, fun hall => ?_⟩, hok, outcome_generate_append h c,
      fun f c' hm' hentry => NativeFunction.transform_congr (hm'.trans hm.symm) hentry,
      fun e => outcome_generate_eq_error_iff_of_module hm⟩
    · obtain ⟨b, hb⟩ := exists_bindsEach_iff.1 ⟨d.functions, ((hok d).1 hd).2.2.2⟩ f hf
      exact ⟨some b, hb⟩
    · cases hfails : (h.generate c).outcome with
      | ok d => exact ⟨d, rfl⟩
      | error e =>
        obtain ⟨before, f, after, e₀, hsplit, _, he, _⟩ := (outcome_generate_eq_error_iff_of_module hm).1 hfails
        obtain ⟨bound, hbound⟩ := hall f (hsplit ▸ List.mem_append_right before List.mem_cons_self)
        cases he.symm.trans hbound

end

/-- A header whose second function returns a type that is not exposed, and whose third is not named as its module asks. -/
def twoFaults : Header :=
  ⟨"Motor", [⟨"Mode", [⟨"Mode_Off", none⟩]⟩], [motorGet "int" [], motorGet "long" [], ⟨"Mot_Set", "void", []⟩]⟩

theorem first_fault_named :
    ∃ e₀, ((motorGet "long" []).transform (plainModule "Mot")).outcome = .error e₀ ∧ e₀.cause = .unknownType "long" ∧
      (twoFaults.generate (plainModule "Mot")).outcome =
        .error ⟨.unknownType "long", some "Motor", some "c_Mot_Get", e₀.hints⟩ := by
  obtain ⟨_, _, _, _, herror⟩ := outcome_generate twoFaults (plainModule "Mot")
  obtain ⟨b, hb, _⟩ := exists_bound_of_any (f := motorGet "int" []) (c := plainModule "Mot") (p := fun _ => true)
    (by decide +kernel)
  have hlong : ((motorGet "long" []).transform (plainModule "Mot")).outcome =
      .error ⟨.unknownType "long", none, some "c_Mot_Get", (Cause.unknownType "long").hints⟩ := by
    rw [NativeFunction.transform_of_refused rfl exposedName_motorGet rfl]
    rfl
  refine ⟨_, hlong, rfl, (herror _).2 ⟨[motorGet "int" []], _, _, _, rfl, ?_, hlong, rfl⟩⟩
  rintro g hg
  obtain rfl := List.mem_singleton.1 hg
  exact ⟨b, hb⟩

end Bindings
