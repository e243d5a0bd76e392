import Bindings.Proofs.Function.Alignment

/-!
# The conditions on a bound function

Whether a function is bound is told by its native name, its native parameters and what is configured for it.

* `IsNamed`: the names that a module asks of its functions; `IsNamed.exists_exposedName`, `exists_isNamed`: these are the
  names that are exposed.
* `accepted_iff`, `rejected_iff`: the conditions, on the native parameters after the handle.
* `outcome_transform`: the law.
-/

namespace Bindings

/-! ## Names -/

/-- The name of a function is made of that of its module and the given rest, which goes on in the same line. -/
def IsNamed (module function rest : String) : Prop :=
  function = "c_" ++ module ++ "_" ++ rest ∧ ∃ first tail, rest.toList = first :: tail ∧ first ≠ '\n'

section

variable {module function exposed rest : String}

theorem exists_isNamed (h : exposedName module function = .ok exposed) : ∃ rest, IsNamed module function rest := by
  obtain ⟨first, tail, hname, hfirst, _⟩ := exposedName_eq_ok_iff.1 h
  exact ⟨_, hname, first, tail, String.toList_ofList, hfirst⟩

theorem IsNamed.exists_exposedName (h : IsNamed module function rest) :
    ∃ exposed, exposedName module function = .ok exposed := by
  obtain ⟨hname, first, tail, hrest, hfirst⟩ := h
  obtain rfl : String.ofList (first :: tail) = rest := by
    rw [← hrest, String.ofList_toList]
  exact ⟨String.ofList _, exposedName_eq_ok_iff.2 ⟨first, tail, hname, hfirst, String.toList_ofList⟩⟩

end

namespace NativeFunction

/-! ## Conditions -/

section

variable {f : NativeFunction} {module : String} {c : FunctionConfig}

/-- A function is accepted by its native name and the parameters after its handle. -/
theorem accepted_iff :
    Accepted module f c ↔
      ∃ rest, IsNamed module f.name rest ∧ f.Bindable (f.parameters.drop (exposedFrom rest)) c := by
  constructor
  · rintro ⟨exposed, hx, hbindable⟩
    obtain ⟨rest, hnamed⟩ := exists_isNamed hx
    rw [exposedParameters_eq_drop hx hnamed.1] at hbindable
    exact ⟨rest, hnamed, hbindable⟩
  · rintro ⟨rest, hnamed, hbindable⟩
    obtain ⟨exposed, hx⟩ := hnamed.exists_exposedName
    rw [← exposedParameters_eq_drop hx hnamed.1] at hbindable
    exact ⟨exposed, hx, hbindable⟩

/-- It is rejected for its name, or for the first other condition that fails. -/
theorem rejected_iff {cause : Cause} {code : String} :
    Rejected module f c cause code ↔
      ((∀ rest, ¬IsNamed module f.name rest) ∧ cause = .misnamed f.name module ∧ code = "BG-ERR-NAMING") ∨
        ∃ rest, IsNamed module f.name rest ∧ f.Refused (f.parameters.drop (exposedFrom rest)) c cause code := by
  constructor
  · intro h
    cases h with
    | misnamed hx =>
      refine .inl ⟨fun rest hnamed => ?_, rfl, rfl⟩
      obtain ⟨exposed, hname⟩ := hnamed.exists_exposedName
      exact hx exposed hname
    | refused hx hrefused =>
      obtain ⟨rest, hnamed⟩ := exists_isNamed hx
      rw [exposedParameters_eq_drop hx hnamed.1] at hrefused
      exact .inr ⟨rest, hnamed, hrefused⟩
  · rintro (⟨hnot, rfl, rfl⟩ | ⟨rest, hnamed, hrefused⟩)
    · refine .misnamed fun exposed hx => ?_
      obtain ⟨rest, hnamed⟩ := exists_isNamed hx
      exact hnot rest hnamed
    · obtain ⟨exposed, hx⟩ := hnamed.exists_exposedName
      rw [← exposedParameters_eq_drop hx hnamed.1] at hrefused
      exact .refused hx hrefused

end

/-! ## The law -/

/--
**Acceptance.** Without a module nothing is bound. In a module a function is bound exactly when it is named as the module
asks and, with all of its parameters exposed if it creates and all but the first if not, is bindable. Otherwise it fails
as the first condition that is not met says, at that function and in no header.
-/
theorem outcome_transform (f : NativeFunction) (c : HeaderConfig) :
    match c.moduleName with
    | none => (f.transform c).outcome = .ok none
    | some module =>
      (f.transform c).outcome ≠ .ok none ∧
      ((∃ b, (f.transform c).outcome = .ok (some b)) ↔
        ∃ rest, IsNamed module f.name rest ∧ f.Bindable (f.parameters.drop (exposedFrom rest)) (c.entry f.name)) ∧
      ∀ e, (f.transform c).outcome = .error e ↔
        e = ⟨e.cause, none, some f.name, e.cause.hints⟩ ∧
          (((∀ rest, ¬IsNamed module f.name rest) ∧ e.cause = .misnamed f.name module ∧
              e.cause.code = "BG-ERR-NAMING") ∨
            ∃ rest, IsNamed module f.name rest ∧
              f.Refused (f.parameters.drop (exposedFrom rest)) (c.entry f.name) e.cause e.cause.code) := by
  cases hm : c.moduleName with
  | none =>
    show (f.transform c).outcome = .ok none
    unfold transform
    rw [hm]
    rfl
  | some module =>
    dsimp only
    rw [← accepted_iff]
    simp only [← rejected_iff]
    refine ⟨?_, ?_, fun e => ?_⟩
    · intro h
      obtain ⟨b, hb⟩ := outcome_transform_of_accepted hm (accepted_of_outcome hm h)
      rw [hb] at h
      cases h
    · constructor
      · rintro ⟨b, h⟩
        exact accepted_of_outcome hm h
      · exact outcome_transform_of_accepted hm
    · constructor
      · intro h
        exact (rejected_of_outcome hm h).symm
      · rintro ⟨he, hrejected⟩
        rw [he]
        exact (outcome_transform_of_rejected hm hrejected).1

/-- A configuration for the parameters of a function that have no name of their own. -/
def numberedConfig : HeaderConfig :=
  ⟨some "Mot", .ofList [("c_Mot_CreateAt", { FunctionConfig.empty with
    defaults := .ofList [("param2", .int 1)]
    overrides := .ofList [("param0", ⟨some false, none, none, some "long", none⟩)] })]⟩

/-- A function of a return type that may not be exposed. -/
def motorSet : NativeFunction :=
  ⟨"c_Mot_Set", "long", [⟨"handle", "void *", false, false, none⟩, ⟨"", "int", false, false, none⟩]⟩

/-- A configuration for its handle and for its only other parameter. -/
def handleConfig : HeaderConfig :=
  ⟨some "Mot", .ofList [("c_Mot_Set", { FunctionConfig.empty with
    defaults := .ofList [("handle", .int 1), ("param0", .int 2)] })]⟩

theorem handle_not_exposed :
    (∃ b, (motorCreate.transform numberedConfig).outcome = .ok (some b)) ∧
      (motorSet.transform handleConfig).outcome =
        .error ⟨.strayDefaults "c_Mot_Set" ["handle"], none, some "c_Mot_Set", []⟩ := by
  constructor
  · obtain ⟨_, hbound, _⟩ := outcome_transform motorCreate numberedConfig
    have hfrom : exposedFrom "CreateAt" = 0 := by decide
    refine hbound.2 ⟨"CreateAt", ⟨rfl, 'C', "reateAt".toList, rfl, by decide⟩, ?_⟩
    rw [hfrom, List.drop_zero]
    refine ⟨?_, ?_, ?_, .inr (.inr (by decide)), fun code hcode => by cases hcode⟩
    · unfold ParametersTyped
      decide
    · unfold Knows
      decide +kernel
    · unfold Knows
      decide +kernel
  · obtain ⟨_, _, hfails⟩ := outcome_transform motorSet handleConfig
    have hfrom : exposedFrom "Set" = 1 := by decide
    have hstray : (handleConfig.entry "c_Mot_Set").defaults.strayNames (goBy (motorSet.parameters.drop 1)) =
        ["handle"] := by decide +kernel
    have htyped : ParametersTyped (motorSet.parameters.drop 1) := by
      unfold ParametersTyped
      decide
    have hknows : ¬Knows (motorSet.parameters.drop 1) (handleConfig.entry "c_Mot_Set").defaults.names := by
      unfold Knows
      decide +kernel
    have hrefused := Refused.strayDefaults (f := motorSet) htyped hknows
    refine (hfails _).2 ⟨rfl, .inr ⟨"Set", ⟨rfl, 'S', "et".toList, rfl, by decide⟩, ?_⟩⟩
    rw [hfrom, ← hstray]
    exact hrefused

end NativeFunction

end Bindings
