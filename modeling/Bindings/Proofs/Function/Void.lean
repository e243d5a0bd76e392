import Bindings.Proofs.Function.Configured
import Bindings.Proofs.Function.Returned

/-!
# Values of type `void`

A lone value of type `void` is not returned, but nothing keeps an output from having that type.

* `GivesBack.nothing_iff`: nothing is given back when there is no value, or a lone one of type `void`.
* `exists_void_output_iff`: which parameters become outputs of type `void`.
* `no_void_iff`: a wrapper has no value and no variable of type `void` exactly when no parameter becomes such an output.
* `void_output_returned`: a tuple with a component of type `void`.
-/

namespace Bindings

/-! ## Giving nothing back -/

theorem GivesBack.nothing_iff {values : List ReturnValue} {statement type hostType : String} {checks : List String}
    (h : GivesBack values statement type hostType checks) :
    (statement = "" ∧ type = "void") ↔ values = [] ∨ ∃ v, values = [v] ∧ v.type = "void" := by
  cases h with
  | nothing => simp
  | void hv => simp [hv]
  | lone hv => simp [hv]
  | tuple hlength =>
    refine ⟨fun h => absurd h.1 (by simp), ?_⟩
    rintro (rfl | ⟨v, rfl, _⟩) <;> simp at hlength

/-! ## Outputs of type `void` -/

namespace NativeParameter

/-- The parameter becomes an output of type `void` under an override. -/
def BecomesVoid (p : NativeParameter) (o : Option ParameterOverride) : Prop :=
  ((p.override "" o).direction = .pointer ∨ (p.override "" o).direction = .vector) ∧ (p.override "" o).type = "void"

instance (p : NativeParameter) (o : Option ParameterOverride) : Decidable (p.BecomesVoid o) :=
  inferInstanceAs (Decidable (_ ∧ _))

theorem becomesVoid_iff_of_bind {p : NativeParameter} {i : Nat} {o : Option ParameterOverride}
    {d : Option DefaultValue} {b : BoundParameter} (h : p.bind i o d = .ok b) :
    p.BecomesVoid o ↔ b.direction.isOutput = true ∧ b.type = "void" := by
  rw [BecomesVoid, ← direction_of_bind h]
  by_cases hd : b.direction = .array
  · -- a buffer is an array of some type
    obtain ⟨rest, hrest⟩ := bind_type_of_array h hd
    have hne : b.type ≠ "void" := by
      rw [hrest]
      intro hvoid
      have hhead := congrArg (fun s => s.toList.head?) hvoid
      simp at hhead
    simp [hd, hne]
  · rw [← type_of_bind h hd]
    cases hdirection : b.direction <;> simp_all [Direction.isOutput]

end NativeParameter

namespace NativeFunction

/-- One of the exposed parameters becomes an output of type `void`, with the override that is left for it. -/
def OutputsVoid (f : NativeFunction) (exposed : String) (c : FunctionConfig) : Prop :=
  ∃ (i : Nat) (p : NativeParameter),
    (f.exposedParameters exposed)[i]? = some p ∧ p.BecomesVoid (f.entryAt exposed c.overrides i p)

variable {f : NativeFunction} {b : BoundFunction} {exposed : String}

theorem exists_void_output_iff {c : FunctionConfig} (h : f.bindAs exposed c = .ok b) :
    (∃ q ∈ b.outputs, q.type = "void") ↔ f.OutputsVoid exposed c := by
  obtain ⟨pending, _, hall, _, _, houtputs, _⟩ := f.bindAs_eq_ok h
  rw [houtputs]
  constructor
  · rintro ⟨q, hq, htype⟩
    obtain ⟨hmem, hout⟩ := List.mem_filter.1 hq
    obtain ⟨i, hi, rfl⟩ := List.mem_iff_getElem.1 hmem
    have hlt : i < (f.exposedParameters exposed).length := length_bindAll hall ▸ hi
    obtain ⟨q, hget, hbind⟩ := getElem?_parameters h (List.getElem?_eq_getElem hlt)
    rw [List.getElem?_eq_getElem hi, Option.some.injEq] at hget
    rw [hget] at hout htype
    exact ⟨i, _, List.getElem?_eq_getElem hlt, (NativeParameter.becomesVoid_iff_of_bind hbind).2 ⟨hout, htype⟩⟩
  · rintro ⟨i, p, hp, hvoid⟩
    obtain ⟨q, hget, hbind⟩ := getElem?_parameters h hp
    obtain ⟨hout, htype⟩ := (NativeParameter.becomesVoid_iff_of_bind hbind).1 hvoid
    exact ⟨q, List.mem_filter.2 ⟨List.mem_of_getElem? hget, hout⟩, htype⟩

end NativeFunction

/-! ## Wrappers without `void` -/

/-- No value and no variable of a wrapper is of type `void`, and it has no values exactly when it gives nothing
back. -/
structure BoundFunction.NoVoid (b : BoundFunction) : Prop where
  returned : ∀ v ∈ b.returns, v.type ≠ "void"
  declared : ∀ p ∈ b.outputs, p.type ≠ "void"
  nothing_iff : b.returns = [] ↔ b.returnStatement = "" ∧ b.wrapperType = "void"

section

variable {f : NativeFunction} {c : HeaderConfig} {b : BoundFunction} {module exposed : String}

/-- The values are of other types than `void` if the outputs are. -/
theorem values_ne_void (h : (f.transform c).outcome = .ok (some b)) (hout : ∀ p ∈ b.outputs, p.type ≠ "void") :
    ∀ v ∈ b.returns, v.type ≠ "void" := by
  have houtputs : ∀ v ∈ b.outputs.map ReturnValue.ofParameter, v.type ≠ "void" := by
    intro v hv
    obtain ⟨p, hp, rfl⟩ := List.mem_map.1 hv
    exact hout p hp
  rcases f.returns_cases h with ⟨hnative, _, host, _, hreturns⟩ | ⟨_, _, hreturns⟩
  · rw [hreturns]
    exact List.forall_mem_cons.2 ⟨hnative.1, houtputs⟩
  · rw [hreturns]
    exact houtputs

theorem noVoid_of_outputs (h : (f.transform c).outcome = .ok (some b)) (hout : ∀ p ∈ b.outputs, p.type ≠ "void") :
    b.NoVoid := by
  have hvalues := values_ne_void h hout
  refine ⟨hvalues, hout, ?_⟩
  rw [(f.givesBack_of_outcome h).nothing_iff]
  refine ⟨.inl, fun hnothing => ?_⟩
  rcases hnothing with hnil | ⟨v, hlone, hvoid⟩
  · exact hnil
  · exact absurd hvoid (hvalues v (by simp [hlone]))

/-- **Values of type `void`.** -/
theorem no_void_iff (hm : c.moduleName = some module) (hx : exposedName module f.name = .ok exposed)
    (h : (f.transform c).outcome = .ok (some b)) :
    b.temporaries = String.join (b.outputs.map fun p => p.type ++ " " ++ p.name ++ ";") ∧
      (2 ≤ b.returns.length →
        b.wrapperType = "std::tuple<" ++ ", ".intercalate (b.returns.map (·.type)) ++ ">") ∧
      ((b.returnStatement = "" ∧ b.wrapperType = "void") ↔
        b.returns = [] ∨ ∃ v, b.returns = [v] ∧ v.type = "void") ∧
      (b.NoVoid ↔ ¬f.OutputsVoid exposed (c.entry f.name)) := by
  have hb := f.bindAs_of_outcome hm hx h
  have hgives := f.givesBack_of_outcome h
  refine ⟨?_, fun hlength => (hgives.eq_of_two_le hlength).2.1, hgives.nothing_iff, ?_⟩
  · rw [(f.shape_of_bindAs hb).2, NativeFunction.temporaries_eq_join]
  · rw [← NativeFunction.exists_void_output_iff hb]
    constructor
    · rintro hno ⟨p, hp, htype⟩
      exact hno.declared p hp htype
    · exact fun hno => noVoid_of_outputs h fun p hp htype => hno ⟨p, hp, htype⟩

end

/-- The configuration of a function whose parameter `data` is passed by address as a value of the given type. -/
def dataOfType (type : String) : HeaderConfig :=
  ⟨some "Mot", .ofList [("c_Mot_Get",
    { FunctionConfig.empty with overrides := .ofList [("data", ⟨some true, none, none, some type, none⟩)] })]⟩

theorem void_overridden :
    ∃ b, ((motorGet "int" [byAddress "data" "void"]).transform (dataOfType "double")).outcome = .ok (some b) ∧
      b.wrapperType = "std::tuple<" ++ ", ".intercalate (b.returns.map (·.type)) ++ ">" ∧ b.NoVoid := by
  obtain ⟨b, hb, hlength⟩ := exists_bound_of_any (f := motorGet "int" [byAddress "data" "void"])
    (c := dataOfType "double") (p := fun b => b.returns.length = 2) (by decide +kernel)
  obtain ⟨_, htuple, _, hiff⟩ := no_void_iff rfl exposedName_motorGet hb
  have hnot : ¬(motorGet "int" [byAddress "data" "void"]).OutputsVoid "get"
      ((dataOfType "double").entry "c_Mot_Get") := by
    rintro ⟨i, p, hp, hvoid⟩
    match i with
    | 0 =>
      cases hp
      exact absurd hvoid (by decide +kernel)
    | i + 1 => cases hp
  exact ⟨b, hb, htuple (of_decide_eq_true hlength).ge, hiff.2 hnot⟩

/-- An output of type `void` is declared, and becomes a component of the returned tuple. -/
theorem void_output_returned :
    ∃ b, ((motorGet "int" [byAddress "data" "void"]).transform (plainModule "Mot")).outcome = .ok (some b) ∧
      b.returns.map (·.type) = ["int", "void"] ∧ b.wrapperType = "std::tuple<int, void>" ∧
      b.temporaries = "void data;" ∧ ¬b.NoVoid := by
  obtain ⟨b, hb, hvoid⟩ := exists_bound_of_any (f := motorGet "int" [byAddress "data" "void"]) (c := plainModule "Mot")
    (p := fun b => b.returns.map (·.type) = ["int", "void"] && b.wrapperType = "std::tuple<int, void>" &&
      b.temporaries = "void data;") (by decide +kernel)
  obtain ⟨⟨htypes, hwrapper⟩, htemporaries⟩ :
      (b.returns.map (·.type) = ["int", "void"] ∧ b.wrapperType = "std::tuple<int, void>") ∧
        b.temporaries = "void data;" := by
    simpa using hvoid
  refine ⟨b, hb, htypes, hwrapper, htemporaries, fun hno => ?_⟩
  have hmem : "void" ∈ b.returns.map (·.type) := by simp [htypes]
  obtain ⟨v, hv, hvoid⟩ := List.mem_map.1 hmem
  exact hno.returned v hv hvoid

end Bindings
