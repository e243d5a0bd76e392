import Bindings.Function.Return
import Bindings.Proofs.Function.Parameters

/-!
# The shape of what is returned

* `ofOutputs_of_typed`, `ofOutputs_of_untyped`: there is a shape exactly when the return type carries nothing or may be
  exposed.
* `ofOutputs_cases`, `ofOutputs_eq_ok`: the values of a shape are the native one, if it is kept, and then the outputs.
-/

namespace Bindings

theorem hasHostType_of_isErrorCode {raw : String} (h : isErrorCode raw = true) : HasHostType raw := by
  have hraw : raw = NativeType.errorCode.spelling := by simpa [isErrorCode] using h
  rw [hraw]
  decide

namespace ReturnShape

variable {returnType : String} {outputs : List BoundParameter}

theorem ofOutputs_of_typed (outputs : List BoundParameter)
    (h : carriesNothing returnType = true ∨ HasHostType returnType) : ∃ shape, ofOutputs returnType outputs = .ok shape := by
  unfold ofOutputs
  by_cases hk : keepsNative returnType outputs = true
  · rw [if_pos hk]
    have hn : carriesNothing returnType = false := by
      rw [keepsNative, Bool.and_eq_true] at hk
      simpa using hk.2
    obtain ⟨host, hh⟩ := hostTypeOf_of_hasHostType (h.resolve_left (by simp [hn]))
    exact ⟨_, bind_eq_ok_iff.2 ⟨host, hh, rfl⟩⟩
  · rw [if_neg hk]
    exact ⟨_, rfl⟩

theorem ofOutputs_of_untyped (hn : ¬carriesNothing returnType = true) (h : ¬HasHostType returnType) :
    ofOutputs returnType outputs = .error (.ofCause (.unknownType returnType)) := by
  have he : isErrorCode returnType = false := by
    simpa using fun he => h (hasHostType_of_isErrorCode he)
  have hk : keepsNative returnType outputs = true := by simp [keepsNative, he, hn]
  unfold ofOutputs
  rw [if_pos hk]
  exact bind_eq_error_iff.2 (.inl (hostTypeOf_of_not_hasHostType h))

/-- The native value comes first if it is kept, and then the outputs. -/
theorem ofOutputs_cases {shape : ReturnShape} (h : ofOutputs returnType outputs = .ok shape) :
    (keepsNative returnType outputs = true ∧ ∃ host, hostTypeOf returnType = .ok host ∧
      shape = ofValues "auto __ret =" (.ofNative returnType host :: outputs.map .ofParameter)) ∨
    (keepsNative returnType outputs = false ∧ shape = ofValues "" (outputs.map .ofParameter)) := by
  unfold ofOutputs at h
  by_cases hk : keepsNative returnType outputs = true
  · rw [if_pos hk] at h
    obtain ⟨host, hhost, h⟩ := bind_eq_ok_iff.1 h
    cases h
    exact .inl ⟨hk, host, hhost, rfl⟩
  · rw [if_neg hk] at h
    cases h
    exact .inr ⟨by simpa using hk, rfl⟩

theorem ofOutputs_eq_ok {shape : ReturnShape} (h : ofOutputs returnType outputs = .ok shape) :
    ∃ start native, shape = ofValues start (native ++ outputs.map ReturnValue.ofParameter) ∧
      native.length = if keepsNative returnType outputs then 1 else 0 := by
  rcases ofOutputs_cases h with ⟨hk, host, _, rfl⟩ | ⟨hk, rfl⟩
  · exact ⟨_, [.ofNative returnType host], rfl, by simp [hk]⟩
  · exact ⟨_, [], rfl, by simp [hk]⟩

@[simp] theorem values_ofValues (start : String) (values : List ReturnValue) :
    (ofValues start values).values = values := by
  unfold ofValues
  split
  · rfl
  · split <;> rfl
  · rfl

end ReturnShape

end Bindings
