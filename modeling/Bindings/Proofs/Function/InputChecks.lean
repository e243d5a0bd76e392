import Bindings.Proofs.Function.Configured
import Bindings.Proofs.Function.Marshalling
import Mathlib.Data.List.Basic

/-!
# Assertions on arguments

The simulation asserts of each argument what its type in the wrapper asks for, if that type has a check, and starts from
success where a function reports by an error code.

* `AssertsArgument`: what is asserted of an argument, for each kind of check.
* `AssertsInputs`: the assertions on inputs, one after another; `assertsInputs_iff`: there is one such list.
* `exists_input_of_parameter`: the type that an input is checked by is its overridden one.
* `input_assertions`: the law.
-/

namespace Bindings

/-! ## One argument -/

/-- What is asserted of the argument of the given name. An integer will do where a float is expected. -/
inductive AssertsArgument (name : String) : CheckKind → String → Prop
  | bool : AssertsArgument name .bool ("assert isinstance(" ++ name ++ ", bool)")
  | float : AssertsArgument name .float ("assert isinstance(" ++ name ++ ", (int, float))")
  | int : AssertsArgument name .int ("assert isinstance(" ++ name ++ ", int)")
  | signedRange (bits : Nat) : AssertsArgument name (.signedRange bits)
      ("assert isinstance(" ++ name ++ ", int) and -1<<" ++ toString (bits - 1) ++ " <= " ++ name ++ " < 1<<" ++
        toString (bits - 1))
  | unsignedRange (bits : Nat) : AssertsArgument name (.unsignedRange bits)
      ("assert isinstance(" ++ name ++ ", int) and 0 <= " ++ name ++ " < 1<<" ++ toString bits)
  | errorCode : AssertsArgument name .errorCode ("assert isinstance(" ++ name ++ ", ErrorCode)")

section Argument

variable {name assertion : String} {kind : CheckKind}

theorem exists_assertsArgument (name : String) (h : kind ≠ .unchecked) :
    ∃ assertion, AssertsArgument name kind assertion := by
  cases kind with
  | bool => exact ⟨_, .bool⟩
  | float => exact ⟨_, .float⟩
  | int => exact ⟨_, .int⟩
  | signedRange bits => exact ⟨_, .signedRange bits⟩
  | unsignedRange bits => exact ⟨_, .unsignedRange bits⟩
  | errorCode => exact ⟨_, .errorCode⟩
  | unchecked => exact absurd rfl h

theorem AssertsArgument.condition? (h : AssertsArgument name kind assertion) :
    (kind.condition? false name).map ("assert " ++ ·) = some assertion := by
  cases h <;> simp [CheckKind.condition?, ← String.toList_inj]

theorem assertsArgument_iff :
    AssertsArgument name kind assertion ↔ (kind.condition? false name).map ("assert " ++ ·) = some assertion := by
  constructor
  · exact AssertsArgument.condition?
  · intro h
    have hkind : kind ≠ .unchecked := by
      rintro rfl
      cases h
    obtain ⟨assertion', h'⟩ := exists_assertsArgument name hkind
    rw [h'.condition?, Option.some.injEq] at h
    exact h ▸ h'

/-- An assertion is none of the statements that set the result. -/
theorem AssertsArgument.ne_success (h : AssertsArgument name kind assertion) : assertion ≠ "retval = ErrorCode.OK" := by
  obtain ⟨condition, _, rfl⟩ := Option.map_eq_some_iff.1 h.condition?
  intro heq
  have hhead := congrArg (fun s => s.toList.head?) heq
  simp at hhead

end Argument

/-! ## The inputs of a function -/

/-- The assertions on inputs, in their order: one for each input whose type is in the table and has a check. -/
inductive AssertsInputs : List BoundParameter → List String → Prop
  | nil : AssertsInputs [] []
  | checked {p : BoundParameter} {ps : List BoundParameter} {t : NativeType} {assertion : String}
      {assertions : List String} : t.spelling = p.type → AssertsArgument p.name t.checkKind assertion →
      AssertsInputs ps assertions → AssertsInputs (p :: ps) (assertion :: assertions)
  | silent {p : BoundParameter} {ps : List BoundParameter} {assertions : List String} :
      (∀ t : NativeType, t.spelling = p.type → t.checkKind = .unchecked) →
      AssertsInputs ps assertions → AssertsInputs (p :: ps) assertions

/-- The assertion on an input, if its type has a check. -/
def BoundParameter.assertion? (p : BoundParameter) : Option String :=
  (condition? false p.name (some p.type)).map ("assert " ++ ·)

theorem BoundParameter.assertion?_of_spelling {p : BoundParameter} {t : NativeType} (h : t.spelling = p.type) :
    p.assertion? = (t.checkKind.condition? false p.name).map ("assert " ++ ·) := by
  rw [assertion?, Bindings.condition?, CheckKind.ofSpelling, NativeType.ofSpelling?_eq_some_iff.2 h]
  rfl

theorem BoundParameter.assertion?_of_unchecked {p : BoundParameter}
    (h : ∀ t : NativeType, t.spelling = p.type → t.checkKind = .unchecked) : p.assertion? = none := by
  cases ht : NativeType.ofSpelling? p.type with
  | none =>
    rw [assertion?, Bindings.condition?, CheckKind.ofSpelling, ht]
    rfl
  | some t =>
    have hspelling := NativeType.ofSpelling?_eq_some_iff.1 ht
    rw [assertion?_of_spelling hspelling, h t hspelling]
    rfl

theorem BoundParameter.exists_of_assertion? {p : BoundParameter} {assertion : String} (h : p.assertion? = some assertion) :
    ∃ t : NativeType, t.spelling = p.type ∧ AssertsArgument p.name t.checkKind assertion := by
  by_cases hchecked : ∃ t : NativeType, t.spelling = p.type
  · obtain ⟨t, ht⟩ := hchecked
    rw [assertion?_of_spelling ht] at h
    exact ⟨t, ht, assertsArgument_iff.2 h⟩
  · rw [assertion?_of_unchecked fun t ht => absurd ⟨t, ht⟩ hchecked] at h
    cases h

theorem assertsInputs_filterMap (ps : List BoundParameter) : AssertsInputs ps (ps.filterMap (·.assertion?)) := by
  induction ps with
  | nil => exact .nil
  | cons p ps ih =>
    cases h : p.assertion? with
    | some assertion =>
      obtain ⟨t, ht, hassertion⟩ := p.exists_of_assertion? h
      rw [List.filterMap_cons_some h]
      exact .checked ht hassertion ih
    | none =>
      rw [List.filterMap_cons_none h]
      refine .silent (fun t ht => ?_) ih
      -- a type with a check would have given an assertion
      apply Decidable.byContradiction
      intro hkind
      obtain ⟨assertion, hassertion⟩ := exists_assertsArgument p.name hkind
      rw [p.assertion?_of_spelling ht, hassertion.condition?] at h
      cases h

/-- Inputs have one list of assertions. -/
theorem assertsInputs_iff {ps : List BoundParameter} {assertions : List String} :
    AssertsInputs ps assertions ↔ assertions = ps.filterMap (·.assertion?) := by
  constructor
  · intro h
    induction h with
    | nil => rfl
    | checked ht hassertion _ ih =>
      rw [List.filterMap_cons_some ((BoundParameter.assertion?_of_spelling ht).trans hassertion.condition?), ih]
    | silent hsilent _ ih => rw [List.filterMap_cons_none (BoundParameter.assertion?_of_unchecked hsilent), ih]
  · rintro rfl
    exact assertsInputs_filterMap ps

/-- Assertions are told by the names and the types of the inputs. -/
theorem filterMap_assertion? (ps : List BoundParameter) :
    ps.filterMap (·.assertion?) = (ps.map fun p => (p.name, p.type)).filterMap fun (name, type) =>
      (condition? false name (some type)).map ("assert " ++ ·) := by
  rw [List.filterMap_map]
  rfl

theorem AssertsInputs.success_notMem {ps : List BoundParameter} {assertions : List String}
    (h : AssertsInputs ps assertions) : "retval = ErrorCode.OK" ∉ assertions := by
  induction h with
  | nil => simp
  | checked _ hassertion _ ih =>
    intro hmem
    rcases List.mem_cons.1 hmem with heq | hmem
    · exact hassertion.ne_success heq.symm
    · exact ih hmem
  | silent _ _ ih => exact ih

/-! ## Bound functions -/

namespace NativeFunction

variable {f : NativeFunction} {b : BoundFunction} {exposed : String} {c : FunctionConfig}

theorem inputChecks_eq (returnType : String) (inputs : List BoundParameter) :
    inputChecks returnType inputs = inputs.filterMap (·.assertion?) ++
      if returnType = "ctre::phoenix::ErrorCode" then ["retval = ErrorCode.OK"] else [] := by
  have hreports : isErrorCode returnType = true ↔ returnType = "ctre::phoenix::ErrorCode" := by
    simp [isErrorCode, NativeType.spelling]
  rw [inputChecks, List.filterMap_eq_flatMap_toList]
  simp only [hreports]
  rfl

theorem inputs_of_bindAs (h : f.bindAs exposed c = .ok b) :
    b.inputs = b.parameters.filter (·.direction = .input) ∧ b.inputChecks = inputChecks f.returnType b.inputs := by
  obtain ⟨parameters, pending, shape, _, _, _, rfl⟩ := exists_parts_of_bindAs h
  refine ⟨List.filter_congr fun q _ => ?_, rfl⟩
  cases q.direction <;> rfl

/-- The type of an input is the configured one, or else its own. -/
theorem exists_input_of_parameter (h : f.bindAs exposed c = .ok b) {i : Nat} {q : BoundParameter}
    (hq : b.parameters[i]? = some q) (hinput : q.direction = .input) :
    ∃ p, (f.exposedParameters exposed)[i]? = some p ∧ q.name = p.nameAt i ∧
      q.type = ((f.entryAt exposed c.overrides i p).bind (·.type)).getD p.rawType := by
  obtain ⟨p, hp, hbind⟩ := exists_bind_of_getElem? h hq
  have hdirection : q.direction ≠ .array := by
    rw [hinput]
    decide
  have htype := NativeParameter.type_of_bind hbind hdirection
  rw [p.override_eq] at htype
  exact ⟨p, hp, NativeParameter.name_of_bind hbind, htype⟩

/--
**Assertions on arguments.** They are those on the inputs, each by the type that it has after its override, and then, for
a function that reports by an error code, the statement that lets a simulation start from success. Nothing else of a
function plays a part.
-/
theorem input_assertions {c : HeaderConfig} (h : (f.transform c).outcome = .ok (some b)) :
    ∃ module exposed assertions, c.moduleName = some module ∧ exposedName module f.name = .ok exposed ∧
      b.inputs = b.parameters.filter (·.direction = .input) ∧
      (∀ i q, b.parameters[i]? = some q → q.direction = .input →
        ∃ p, (f.exposedParameters exposed)[i]? = some p ∧ q.name = p.nameAt i ∧
          q.type = ((f.entryAt exposed (c.entry f.name).overrides i p).bind (·.type)).getD p.rawType) ∧
      AssertsInputs b.inputs assertions ∧ "retval = ErrorCode.OK" ∉ assertions ∧
      b.inputChecks = (assertions ++
        if f.returnType = "ctre::phoenix::ErrorCode" then ["retval = ErrorCode.OK"] else []) ∧
      ∀ (f' : NativeFunction) (c' : HeaderConfig) (b' : BoundFunction), (f'.transform c').outcome = .ok (some b') →
        f'.returnType = f.returnType →
        b'.inputs.map (fun p => (p.name, p.type)) = b.inputs.map (fun p => (p.name, p.type)) →
        b'.inputChecks = b.inputChecks := by
  obtain ⟨module, exposed, hm, hx, hb⟩ := f.outcome_transform_eq_some h
  obtain ⟨hinputs, hchecks⟩ := inputs_of_bindAs hb
  have hasserts := assertsInputs_filterMap b.inputs
  refine ⟨module, exposed, _, hm, hx, hinputs, fun i q => exists_input_of_parameter hb, hasserts,
    hasserts.success_notMem, ?_, ?_⟩
  · rw [hchecks, inputChecks_eq]
  · intro f' c' b' h' hreturn hsame
    obtain ⟨_, _, _, _, hb'⟩ := f'.outcome_transform_eq_some h'
    rw [(inputs_of_bindAs hb').2, hchecks, hreturn, inputChecks_eq, inputChecks_eq]
    rw [filterMap_assertion?, filterMap_assertion?, hsame]

/-- A function that reports by an error code and has three parameters before the given ones, one without a name. -/
def configure (outputs : List NativeParameter) : NativeFunction :=
  motorGet "ctre::phoenix::ErrorCode" ([⟨"", "int", false, false, none⟩, ⟨"gain", "double", false, false, none⟩,
    ⟨"mode", "int", false, false, none⟩] ++ outputs)

/-- An override that passes a parameter as a value of the given type. -/
def valueOf (type : String) : ParameterOverride :=
  ⟨none, none, none, some type, none⟩

/-- One input has a type that no table knows, another the type of a byte. -/
def configureConfig : HeaderConfig :=
  ⟨some "Mot", .ofList [("c_Mot_Get",
    { FunctionConfig.empty with overrides := .ofList [("gain", valueOf "Gain"), ("mode", valueOf "uint8_t")] })]⟩

theorem exists_configured (outputs : List NativeParameter) (start : String)
    (h : ((configure outputs).transform configureConfig).outcome.toOption.any (·.any fun b =>
      b.inputs.map (fun p => (p.name, p.type)) = [("param0", "int"), ("gain", "Gain"), ("mode", "uint8_t")] &&
        b.callStart = start) = true) :
    ∃ b, ((configure outputs).transform configureConfig).outcome = .ok (some b) ∧
      b.inputs.map (fun p => (p.name, p.type)) = [("param0", "int"), ("gain", "Gain"), ("mode", "uint8_t")] ∧
      b.callStart = start := by
  obtain ⟨b, hb, hparts⟩ := exists_bound_of_any h
  simp only [Bool.and_eq_true, decide_eq_true_eq] at hparts
  exact ⟨b, hb, hparts⟩

/-- The type that no table knows is passed over, and success is assumed whether or not the error code is returned. -/
theorem inputs_asserted_before_success :
    ∃ b b', ((configure [byAddress "position" "int"]).transform configureConfig).outcome = .ok (some b) ∧
      b.callStart = "auto __ret =" ∧ ((configure []).transform configureConfig).outcome = .ok (some b') ∧
      b'.callStart = "" ∧
      b.inputChecks = ["assert isinstance(param0, int)", "assert isinstance(mode, int) and 0 <= mode < 1<<8",
        "retval = ErrorCode.OK"] ∧
      b'.inputChecks = b.inputChecks := by
  obtain ⟨b, hb, hinputs, hstart⟩ := exists_configured [byAddress "position" "int"] "auto __ret =" (by decide +kernel)
  obtain ⟨b', hb', hinputs', hstart'⟩ := exists_configured [] "" (by decide +kernel)
  obtain ⟨module, exposed, assertions, _, _, _, _, hasserts, _, hchecks, hsame⟩ := input_assertions hb
  have hassertions : assertions =
      ["assert isinstance(param0, int)", "assert isinstance(mode, int) and 0 <= mode < 1<<8"] := by
    rw [assertsInputs_iff.1 hasserts, filterMap_assertion?, hinputs]
    decide +kernel
  refine ⟨b, b', hb, hstart, hb', hstart', ?_, hsame _ _ b' hb' rfl (hinputs'.trans hinputs.symm)⟩
  rw [hchecks, hassertions]
  rfl

end NativeFunction

end Bindings
