import Bindings.Proofs.Function.Acceptance

/-!
# What a bound function is made of

* `outcome_transform_eq_some`: a function is bound by its exposed name, in a module and with its own entry of the
  configuration.
* `exists_parts_of_bindAs`: all that a bound function is made of; `bindAs_eq_ok`, `shape_of_bindAs`: the parts of it that
  other functions compute.
* `type_of_bind`, `bind_type_of_array`: the type of a parameter in the wrapper; a buffer of fixed size is an array,
  whatever its override says.
-/

namespace Bindings

/-- How a bound function returns its values. -/
def BoundFunction.shape (b : BoundFunction) : ReturnShape :=
  ⟨b.returns, b.returnChecks, b.callStart, b.returnStatement, b.wrapperType, b.returnHostType⟩

namespace NativeFunction

variable {f : NativeFunction} {b : BoundFunction}

theorem outcome_transform_eq_some {c : HeaderConfig} (h : (f.transform c).outcome = .ok (some b)) :
    ∃ module exposed, c.moduleName = some module ∧ exposedName module f.name = .ok exposed ∧
      f.bindAs exposed (c.entry f.name) = .ok b := by
  cases hm : c.moduleName with
  | none =>
    unfold transform at h
    rw [hm] at h
    cases h
  | some module =>
    rw [outcome_transform_of_module hm] at h
    obtain ⟨exposed, hx, h⟩ := bind_eq_ok_iff.1 h
    obtain ⟨b', hb, h⟩ := bind_eq_ok_iff.1 h
    cases h
    exact ⟨module, exposed, rfl, hx, mapError_eq_ok_iff.1 hb⟩

/-- All that a bound function is made of. -/
theorem exists_parts_of_bindAs {exposed : String} {c : FunctionConfig} (h : f.bindAs exposed c = .ok b) :
    ∃ parameters pending shape,
      bindAll 0 ⟨c.defaults, c.overrides⟩ (f.exposedParameters exposed) = .ok (parameters, pending) ∧
      pending.drained f.name = .ok () ∧
      ReturnShape.ofOutputs f.returnType (parameters.filter (·.direction.isOutput)) = .ok shape ∧
      b = {
        name := f.name
        exposedName := finalName exposed c
        returnType := f.returnType
        instanceParameter := f.handle? exposed
        parameters
        inputs := parameters.filter (!·.direction.isOutput)
        outputs := parameters.filter (·.direction.isOutput)
        returns := shape.values
        inputChecks := inputChecks f.returnType (parameters.filter (!·.direction.isOutput))
        returnChecks := shape.checks
        callStart := shape.callStart
        returnStatement := shape.statement
        wrapperType := shape.type
        returnHostType := shape.hostType
        temporaries := temporaries (parameters.filter (·.direction.isOutput))
        comma := if (parameters.filter (!·.direction.isOutput)).isEmpty then "" else ", "
        internal := c.internal
        rename := c.rename
        hasCode := c.hasCode
        code := c.code
        getter := c.getter
        setter := c.setter } := by
  unfold bindAs at h
  obtain ⟨⟨parameters, pending⟩, hall, h⟩ := bind_eq_ok_iff.1 h
  obtain ⟨_, hdrained, h⟩ := bind_eq_ok_iff.1 h
  obtain ⟨shape, hshape, h⟩ := bind_eq_ok_iff.1 h
  by_cases hcode : c.code.any returnsEarly = true
  · rw [if_pos hcode] at h
    cases h
  · rw [if_neg hcode] at h
    cases h
    exact ⟨parameters, pending, shape, hall, hdrained, hshape, rfl⟩

theorem bindAs_eq_ok {exposed : String} {c : FunctionConfig} (h : f.bindAs exposed c = .ok b) :
    ∃ pending shape,
      bindAll 0 ⟨c.defaults, c.overrides⟩ (f.exposedParameters exposed) = .ok (b.parameters, pending) ∧
      pending.drained f.name = .ok () ∧
      b.inputs = b.parameters.filter (!·.direction.isOutput) ∧
      b.outputs = b.parameters.filter (·.direction.isOutput) ∧
      ReturnShape.ofOutputs f.returnType b.outputs = .ok shape ∧
      b.returns = shape.values ∧ b.returnChecks = shape.checks := by
  obtain ⟨parameters, pending, shape, hall, hdrained, hshape, rfl⟩ := exists_parts_of_bindAs h
  exact ⟨pending, shape, hall, hdrained, rfl, rfl, hshape, rfl, rfl⟩

theorem bindAs_of_outcome {c : HeaderConfig} {module exposed : String} (hm : c.moduleName = some module)
    (hx : exposedName module f.name = .ok exposed) (h : (f.transform c).outcome = .ok (some b)) :
    f.bindAs exposed (c.entry f.name) = .ok b := by
  obtain ⟨module', exposed', hm', hx', hb⟩ := outcome_transform_eq_some h
  rw [hm] at hm'
  cases hm'
  rw [hx] at hx'
  cases hx'
  exact hb

/-- What a bound function returns is shaped by its return type and its outputs. -/
theorem shape_of_bindAs {exposed : String} {c : FunctionConfig} (h : f.bindAs exposed c = .ok b) :
    ReturnShape.ofOutputs f.returnType b.outputs = .ok b.shape ∧ b.temporaries = temporaries b.outputs := by
  obtain ⟨parameters, pending, shape, _, _, hshape, rfl⟩ := exists_parts_of_bindAs h
  exact ⟨hshape, rfl⟩

/-- A text that follows each of the pieces follows the last one when it separates them. -/
theorem intercalate_append_mark (mark first : String) (rest : List String) :
    mark.intercalate (first :: rest) ++ mark = String.join ((first :: rest).map (· ++ mark)) := by
  induction rest generalizing first with
  | nil => simp
  | cons second rest ih =>
    rw [String.intercalate_cons_cons, List.map_cons, String.join_cons, ← ih second]
    simp only [String.append_assoc]

/-- The variables of a wrapper are declared one after another. -/
theorem temporaries_eq_join (outputs : List BoundParameter) :
    temporaries outputs = String.join (outputs.map fun p => p.type ++ " " ++ p.name ++ ";") := by
  unfold temporaries
  cases outputs with
  | nil => rfl
  | cons p ps =>
    rw [List.isEmpty_cons, if_neg Bool.false_ne_true, List.map_cons, intercalate_append_mark, List.map_cons,
      List.map_cons, List.map_map]
    rfl

/-- An output of a bound function is the binding of one of its exposed parameters. -/
theorem exists_bind_of_mem_outputs {exposed : String} {c : FunctionConfig} (h : f.bindAs exposed c = .ok b)
    {p : BoundParameter} (hp : p ∈ b.outputs) :
    ∃ q ∈ f.exposedParameters exposed, ∃ i o d, q.bind i o d = .ok p := by
  obtain ⟨pending, shape, hall, _, _, houtputs, _⟩ := bindAs_eq_ok h
  rw [houtputs] at hp
  exact mem_bindAll hall (List.mem_filter.1 hp).1

end NativeFunction

namespace NativeParameter

theorem Overridden.fixedSize?_isSome_of_array {o : Overridden} (h : o.direction = .array) :
    o.fixedSize?.isSome = true := by
  unfold Overridden.direction at h
  split at h
  · cases h
  · split at h
    · split at h
      · assumption
      · cases h
    · cases h

/-- The direction and the type of a parameter do not depend on its host type. -/
theorem override_congr (p : NativeParameter) (host host' : String) (o : Option ParameterOverride) :
    (p.override host o).direction = (p.override host' o).direction ∧
      (p.override host o).type = (p.override host' o).type := by
  cases o <;> exact ⟨rfl, rfl⟩

theorem rawType_of_bind {p : NativeParameter} {i : Nat} {o : Option ParameterOverride} {d : Option DefaultValue}
    {b : BoundParameter} (h : p.bind i o d = .ok b) : b.rawType = p.rawType := by
  obtain ⟨host, _, h⟩ := bind_eq_ok_iff.1 h
  cases h
  rfl

theorem direction_of_bind {p : NativeParameter} {i : Nat} {o : Option ParameterOverride} {d : Option DefaultValue}
    {b : BoundParameter} (h : p.bind i o d = .ok b) : b.direction = (p.override "" o).direction := by
  obtain ⟨host, _, h⟩ := bind_eq_ok_iff.1 h
  cases h
  exact (p.override_congr host "" o).1

/-- The type of a parameter that is no buffer of fixed size is the configured one, or its own. -/
theorem type_of_bind {p : NativeParameter} {i : Nat} {o : Option ParameterOverride} {d : Option DefaultValue}
    {b : BoundParameter} (h : p.bind i o d = .ok b) (hd : b.direction ≠ .array) :
    b.type = (p.override "" o).type := by
  obtain ⟨host, _, h⟩ := bind_eq_ok_iff.1 h
  cases h
  rw [← (p.override_congr host "" o).2]
  simp only at hd ⊢
  split
  · rename_i harray _
    exact absurd harray hd
  · rfl

theorem bind_type_of_array {p : NativeParameter} {i : Nat} {o : Option ParameterOverride} {d : Option DefaultValue}
    {b : BoundParameter} (h : p.bind i o d = .ok b) (hd : b.direction = .array) :
    ∃ rest, b.type = "std::array<" ++ rest := by
  unfold bind at h
  obtain ⟨host, _, h⟩ := bind_eq_ok_iff.1 h
  cases h
  obtain ⟨size, hsize⟩ := Option.isSome_iff_exists.1 (Overridden.fixedSize?_isSome_of_array hd)
  refine ⟨(p.override host o).type ++ ", " ++ size.text ++ ">", ?_⟩
  simp only at hd
  simp only [hd, hsize, String.append_assoc]

end NativeParameter

/-! ## Functions of a motor -/

/-- The configuration of a module, with nothing for its functions. -/
def plainModule (module : String) : HeaderConfig :=
  ⟨some module, .empty⟩

/-- A function of the module `Mot` that returns a value of the given type and exposes the given parameters. -/
def motorGet (returnType : String) (exposed : List NativeParameter) : NativeFunction :=
  ⟨"c_Mot_Get", returnType, ⟨"handle", "void *", false, false, none⟩ :: exposed⟩

/-- A parameter that is passed by address. -/
def byAddress (name type : String) : NativeParameter :=
  ⟨name, type, true, false, none⟩

theorem exposedName_motorGet : exposedName "Mot" "c_Mot_Get" = .ok "get" := by
  have h : exposedName? "Mot".toList "c_Mot_Get".toList = some "get".toList := by decide +kernel
  unfold exposedName
  rw [h]
  rfl

theorem exists_bound_of_any {f : NativeFunction} {c : HeaderConfig} {p : BoundFunction → Bool}
    (h : (f.transform c).outcome.toOption.any (·.any p) = true) :
    ∃ b, (f.transform c).outcome = .ok (some b) ∧ p b = true := by
  obtain ⟨bound, hbound, hany⟩ := exists_ok_of_any h
  cases bound with
  | none => cases hany
  | some b => exact ⟨b, hbound, hany⟩

end Bindings
