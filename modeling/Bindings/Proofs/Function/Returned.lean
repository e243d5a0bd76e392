import Bindings.Proofs.Function.Binding
import Bindings.Proofs.Function.Return
import Mathlib.Data.List.FinRange

/-!
# What a wrapper returns

* `GivesBack`: how given values are returned: not at all, one as it is, or several as a tuple (`eq_of_two_le`).
* `givesBack_of_outcome`, `returns_cases`: a bound function gives back its values so, and these are the
  native one, if it is kept, and then the outputs.
* `returned_values`: the law.
-/

namespace Bindings

/-! ## Ways to give values back -/

/-- The assertion on a target of the given type, if the type has a check. -/
def strictAssertion? (target type : String) : Option String :=
  (condition? true target (some type)).map ("assert " ++ ·)

/-- How values are given back: by which statement, as which native and host type, and under which assertions. -/
inductive GivesBack : List ReturnValue → String → String → String → List String → Prop
  | nothing : GivesBack [] "" "void" "None" []
  /-- A lone value of type `void` is not returned. -/
  | void {v : ReturnValue} : v.type = "void" → GivesBack [v] "" "void" "None" []
  | lone {v : ReturnValue} : v.type ≠ "void" →
      GivesBack [v] ("return " ++ v.name ++ ";") v.type v.hostType (strictAssertion? "retval" v.type).toList
  | tuple {values : List ReturnValue} : 2 ≤ values.length →
      GivesBack values ("return std::make_tuple(" ++ ",".intercalate (values.map (·.name)) ++ ");")
        ("std::tuple<" ++ ", ".intercalate (values.map (·.type)) ++ ">")
        ("typing.Tuple[" ++ ", ".intercalate (values.map (·.hostType)) ++ "]")
        (("assert isinstance(retval, tuple) and len(retval) == " ++ toString values.length) ::
          (List.finRange values.length).filterMap fun i =>
            strictAssertion? ("retval[" ++ toString i.val ++ "]") values[i].rawType)

/-- Two values or more are given back as a tuple. -/
theorem GivesBack.eq_of_two_le {values : List ReturnValue} {statement type hostType : String} {checks : List String}
    (h : GivesBack values statement type hostType checks) (hlength : 2 ≤ values.length) :
    statement = "return std::make_tuple(" ++ ",".intercalate (values.map (·.name)) ++ ");" ∧
      type = "std::tuple<" ++ ", ".intercalate (values.map (·.type)) ++ ">" ∧
      hostType = "typing.Tuple[" ++ ", ".intercalate (values.map (·.hostType)) ++ "]" ∧
      checks = ("assert isinstance(retval, tuple) and len(retval) == " ++ toString values.length) ::
        (List.finRange values.length).filterMap fun i =>
          strictAssertion? ("retval[" ++ toString i.val ++ "]") values[i].rawType := by
  cases h with
  | nothing => simp at hlength
  | void _ => simp at hlength
  | lone _ => simp at hlength
  | tuple _ => exact ⟨rfl, rfl, rfl, rfl⟩

theorem assertion_eq_toList (target type : String) :
    ReturnShape.assertion target type = (strictAssertion? target type).toList := rfl

theorem zipIdx_eq_map_finRange {α : Type} (l : List α) :
    l.zipIdx = (List.finRange l.length).map fun i => (l[i], i.val) := by
  refine List.ext_getElem (by simp) fun i _ _ => ?_
  simp

/-- The assertions on a tuple, position by position. -/
theorem tupleChecks_eq (values : List ReturnValue) :
    ReturnShape.tupleChecks values =
      ("assert isinstance(retval, tuple) and len(retval) == " ++ toString values.length) ::
        (List.finRange values.length).filterMap fun i =>
          strictAssertion? ("retval[" ++ toString i.val ++ "]") values[i].rawType := by
  rw [ReturnShape.tupleChecks, zipIdx_eq_map_finRange, List.flatMap_map, List.filterMap_eq_flatMap_toList]
  rfl

theorem givesBack_ofValues (start : String) (values : List ReturnValue) :
    GivesBack values (ReturnShape.ofValues start values).statement (ReturnShape.ofValues start values).type
      (ReturnShape.ofValues start values).hostType (ReturnShape.ofValues start values).checks := by
  match values with
  | [] => exact .nothing
  | [v] =>
    by_cases hv : v.type = "void"
    · simpa [ReturnShape.ofValues, hv] using GivesBack.void hv
    · simpa [ReturnShape.ofValues, hv, assertion_eq_toList] using GivesBack.lone hv
  | v :: w :: rest =>
    have hlength : 2 ≤ (v :: w :: rest).length := by simp
    have htuple := GivesBack.tuple hlength
    rw [← tupleChecks_eq] at htuple
    exact htuple

theorem callStart_ofValues (start : String) (values : List ReturnValue) :
    (ReturnShape.ofValues start values).callStart = start := by
  unfold ReturnShape.ofValues
  split
  · rfl
  · split <;> rfl
  · rfl

/-! ## The values of a bound function -/

namespace NativeFunction

/-- The native return value is given back: it carries something, and is not an error code on its own. -/
def ReturnsNative (f : NativeFunction) (outputs : List BoundParameter) : Prop :=
  f.returnType ≠ "void" ∧ f.returnType ≠ "void *" ∧
    ¬(f.returnType = "ctre::phoenix::ErrorCode" ∧ outputs = [])

variable {f : NativeFunction} {c : HeaderConfig} {b : BoundFunction}

theorem keepsNative_iff (f : NativeFunction) (outputs : List BoundParameter) :
    ReturnShape.keepsNative f.returnType outputs = true ↔ f.ReturnsNative outputs := by
  simp only [ReturnShape.keepsNative, carriesNothing, isErrorCode, NativeType.spelling, ReturnsNative]
  by_cases hv : f.returnType = "void"
  · simp [hv]
  by_cases hp : f.returnType = "void *"
  · simp [hp]
  by_cases he : f.returnType = "ctre::phoenix::ErrorCode" <;> simp [hv, hp, he]

/-- The native return value comes first if it is given back, and the outputs follow as they are. -/
theorem returns_cases (h : (f.transform c).outcome = .ok (some b)) :
    (f.ReturnsNative b.outputs ∧ b.callStart = "auto __ret =" ∧
      ∃ host, HostType.ofSpelling? f.returnType = some host ∧
        b.returns = ⟨"__ret", f.returnType, f.returnType, host.text⟩ :: b.outputs.map .ofParameter) ∨
    (¬f.ReturnsNative b.outputs ∧ b.callStart = "" ∧ b.returns = b.outputs.map .ofParameter) := by
  obtain ⟨module, exposed, _, _, hb⟩ := f.outcome_transform_eq_some h
  have hstart : b.shape.callStart = b.callStart := rfl
  have hvalues : b.shape.values = b.returns := rfl
  rcases ReturnShape.ofOutputs_cases (f.shape_of_bindAs hb).1 with ⟨hk, host, hhost, hshape⟩ | ⟨hk, hshape⟩
  · obtain ⟨a, ha, rfl⟩ := hostTypeOf_eq_ok hhost
    rw [hshape, callStart_ofValues] at hstart
    rw [hshape, ReturnShape.values_ofValues] at hvalues
    exact .inl ⟨(f.keepsNative_iff _).1 hk, hstart.symm, a, ha, hvalues.symm⟩
  · rw [hshape, callStart_ofValues] at hstart
    rw [hshape, ReturnShape.values_ofValues] at hvalues
    have hnot : ¬f.ReturnsNative b.outputs := fun hr => by simp [(f.keepsNative_iff _).2 hr] at hk
    exact .inr ⟨hnot, hstart.symm, hvalues.symm⟩

theorem givesBack_of_outcome (h : (f.transform c).outcome = .ok (some b)) :
    GivesBack b.returns b.returnStatement b.wrapperType b.returnHostType b.returnChecks := by
  obtain ⟨module, exposed, _, _, hb⟩ := f.outcome_transform_eq_some h
  obtain ⟨start, native, hshape, _⟩ := ReturnShape.ofOutputs_eq_ok (f.shape_of_bindAs hb).1
  have hgives := givesBack_ofValues start (native ++ b.outputs.map ReturnValue.ofParameter)
  have hvalues : b.returns = native ++ b.outputs.map ReturnValue.ofParameter := by
    rw [← ReturnShape.values_ofValues start (native ++ _), ← hshape]
    rfl
  rw [← hshape, ← hvalues] at hgives
  exact hgives

/--
**Returned values.** The native return value is given back, before the outputs, exactly when it carries something and is
not an error code on its own; the outputs follow in order and field by field. No value, or a lone one of type `void`, is
not returned; a lone one of another type is returned as it is; two or more are returned as a tuple. The length of a tuple
is asserted, and then each component whose native type has a check, at its position.
-/
theorem returned_values (h : (f.transform c).outcome = .ok (some b)) :
    ((f.ReturnsNative b.outputs ∧ b.callStart = "auto __ret =" ∧
        ∃ host, HostType.ofSpelling? f.returnType = some host ∧
          b.returns = ⟨"__ret", f.returnType, f.returnType, host.text⟩ ::
            b.outputs.map fun p => ⟨p.name, p.rawType, p.type, p.hostType⟩) ∨
      (¬f.ReturnsNative b.outputs ∧ b.callStart = "" ∧
        b.returns = b.outputs.map fun p => ⟨p.name, p.rawType, p.type, p.hostType⟩)) ∧
      GivesBack b.returns b.returnStatement b.wrapperType b.returnHostType b.returnChecks :=
  ⟨f.returns_cases h, f.givesBack_of_outcome h⟩

theorem error_code_and_output_returned :
    ∃ b, ((motorGet "ctre::phoenix::ErrorCode" [byAddress "position" "int"]).transform (plainModule "Mot")).outcome =
        .ok (some b) ∧
      b.callStart = "auto __ret =" ∧
      b.returns = [⟨"__ret", "ctre::phoenix::ErrorCode", "ctre::phoenix::ErrorCode", "ErrorCode"⟩,
        ⟨"position", "int", "int", "int"⟩] ∧
      b.returnStatement = "return std::make_tuple(__ret,position);" ∧
      b.wrapperType = "std::tuple<ctre::phoenix::ErrorCode, int>" ∧
      b.returnHostType = "typing.Tuple[ErrorCode, int]" ∧
      b.returnChecks = ["assert isinstance(retval, tuple) and len(retval) == 2",
        "assert isinstance(retval[0], ErrorCode)", "assert isinstance(retval[1], int)"] := by
  obtain ⟨b, hb, houtputs⟩ := exists_bound_of_any
    (f := motorGet "ctre::phoenix::ErrorCode" [byAddress "position" "int"]) (c := plainModule "Mot")
    (p := fun b => b.outputs.map ReturnValue.ofParameter = [⟨"position", "int", "int", "int"⟩]) (by decide +kernel)
  have hvalues : (b.outputs.map fun p => (⟨p.name, p.rawType, p.type, p.hostType⟩ : ReturnValue)) =
      [⟨"position", "int", "int", "int"⟩] := of_decide_eq_true houtputs
  obtain ⟨hreturns, hgives⟩ := returned_values hb
  rcases hreturns with ⟨_, hstart, host, hhost, hreturns⟩ | ⟨hnot, _, _⟩
  · have herror : HostType.errorCode = host := Option.some.inj hhost
    rw [hvalues, ← herror] at hreturns
    rw [hreturns] at hgives
    obtain ⟨hstatement, htype, hhostType, hchecks⟩ := hgives.eq_of_two_le (Nat.le_refl 2)
    exact ⟨b, hb, hstart, hreturns, hstatement.trans (by decide +kernel), htype.trans (by decide +kernel),
      hhostType.trans (by decide +kernel), hchecks.trans (by decide +kernel)⟩
  · refine absurd ⟨by decide, by decide, fun ⟨_, hempty⟩ => ?_⟩ hnot
    rw [hempty] at hvalues
    cases hvalues

end NativeFunction

end Bindings
