import Bindings.Proofs.Function.Binding
import Bindings.Proofs.Function.Return
import Std.Data.String.ToNat

/-!
# Checks on returned buffers

The simulation checks a lone return by its type in the wrapper and the components of a tuple by their raw types. A
buffer of fixed size has the raw type of its elements, so the two disagree on it.

* `AssertsInstance.unique`: an assertion is about one target only.
* `tupleChecks_assertsScalar_iff`: a component of a tuple is checked by its raw type.
* `array_asserted_iff`: a buffer is asserted to be a scalar exactly when it is returned in a tuple and the type of its
  elements has a check.
* `tuple_array_asserted`: a list that is asserted to be a number.
-/

namespace Bindings

/-! ## Assertions and their targets -/

/-- The check asserts that the target is a scalar of some kind. -/
def AssertsScalar (target check : String) : Prop :=
  ∃ (kind : CheckKind) (strict : Bool) (condition : String),
    kind.condition? strict target = some condition ∧ check = "assert " ++ condition

/-- How assertions call the returned value at position `i` of `count`. -/
def returnTarget (count i : Nat) : String :=
  if count = 1 then "retval" else "retval[" ++ toString i ++ "]"

/-- The check asserts first that the target is an instance of something. -/
def AssertsInstance (target check : String) : Prop :=
  ∃ rest, check.toList = "assert isinstance(".toList ++ (target.toList ++ ',' :: rest)

theorem CheckKind.toList_of_condition?_eq_some {kind : CheckKind} {strict : Bool} {name condition : String}
    (h : kind.condition? strict name = some condition) :
    ∃ rest, condition.toList = "isinstance(".toList ++ (name.toList ++ ',' :: rest) := by
  cases kind with
  | unchecked => cases h
  | float => cases strict <;> cases h <;> simp
  | bool => cases h; simp
  | int => cases h; simp
  | signedRange bits => cases h; simp
  | unsignedRange bits => cases h; simp
  | errorCode => cases h; simp

theorem AssertsScalar.assertsInstance {target check : String} (h : AssertsScalar target check) :
    AssertsInstance target check := by
  obtain ⟨kind, strict, condition, hc, rfl⟩ := h
  obtain ⟨rest, hrest⟩ := CheckKind.toList_of_condition?_eq_some hc
  exact ⟨rest, by simp [hrest]⟩

theorem takeWhile_ne_append_cons {α : Type} [DecidableEq α] {l : List α} {a : α} (h : a ∉ l) (rest : List α) :
    (l ++ a :: rest).takeWhile (· ≠ a) = l := by
  rw [List.takeWhile_append_of_pos fun b hb => by simpa using fun e : b = a => h (e ▸ hb)]
  simp

/-- An assertion has one target only, for targets have no commas. -/
theorem AssertsInstance.unique {s t check : String} (hs : ',' ∉ s.toList) (ht : ',' ∉ t.toList)
    (h : AssertsInstance s check) (h' : AssertsInstance t check) : s = t := by
  obtain ⟨rest, hrest⟩ := h
  obtain ⟨rest', hrest'⟩ := h'
  have hcancel : s.toList ++ ',' :: rest = t.toList ++ ',' :: rest' := by
    rw [hrest] at hrest'
    exact List.append_cancel_left hrest'
  have hlist : s.toList = t.toList := by
    rw [← takeWhile_ne_append_cons hs rest, hcancel, takeWhile_ne_append_cons ht rest']
  exact String.toList_inj.1 hlist

theorem comma_notMem_returnTarget (count i : Nat) : ',' ∉ (returnTarget count i).toList := by
  unfold returnTarget
  split
  · decide
  · intro h
    have hdigit : ',' ∈ Nat.toDigits 10 i := by simpa [Nat.toList_repr] using h
    exact absurd (Nat.isDigit_of_mem_toDigits (by decide) (by decide) hdigit) (by decide)

theorem returnTarget_inj {count i j : Nat} (hc : count ≠ 1) (h : returnTarget count i = returnTarget count j) :
    i = j := by
  have hlist := congrArg String.toList h
  simp only [returnTarget, if_neg hc, String.toList_append, List.append_assoc] at hlist
  have hrepr := List.append_cancel_right (List.append_cancel_left hlist)
  exact Nat.repr_inj.1 (String.toList_inj.1 hrepr)

theorem returnTarget_ne_retval {count i : Nat} (hc : count ≠ 1) : returnTarget count i ≠ "retval" := by
  intro h
  have hlen := congrArg (fun s => s.toList.length) h
  simp [returnTarget, if_neg hc] at hlen

/-! ## The checks of a shape -/

theorem CheckKind.exists_condition?_iff {kind : CheckKind} {strict : Bool} {name : String} :
    (∃ condition, kind.condition? strict name = some condition) ↔ kind ≠ .unchecked := by
  cases kind <;> simp [CheckKind.condition?]

namespace ReturnShape

theorem mem_assertion_iff {target type check : String} :
    check ∈ assertion target type ↔
      ∃ condition, (CheckKind.ofSpelling type).condition? true target = some condition ∧
        check = "assert " ++ condition := by
  simp only [assertion, condition?, Option.mem_toList, Option.map_eq_some_iff]
  exact exists_congr fun _ => and_congr_right fun _ => eq_comm

theorem assertion_eq_nil {target type : String} (h : CheckKind.ofSpelling type = .unchecked) :
    assertion target type = [] := by
  simp [assertion, condition?, h, CheckKind.condition?]

/-- The length of a tuple is asserted of all of it, and every component as its raw type asks. -/
theorem mem_tupleChecks_iff {values : List ReturnValue} (hn : values.length ≠ 1) {check : String} :
    check ∈ tupleChecks values ↔
      check = "assert isinstance(retval, tuple) and len(retval) == " ++ toString values.length ∨
        ∃ i v, values[i]? = some v ∧ check ∈ assertion (returnTarget values.length i) v.rawType := by
  simp only [tupleChecks, List.mem_cons, List.mem_flatMap, returnTarget, if_neg hn]
  refine or_congr_right ⟨fun ⟨⟨v, i⟩, hv, hcheck⟩ => ?_, fun ⟨i, v, hv, hcheck⟩ => ?_⟩
  · exact ⟨i, v, List.mk_mem_zipIdx_iff_getElem?.1 hv, hcheck⟩
  · exact ⟨(v, i), List.mk_mem_zipIdx_iff_getElem?.2 hv, hcheck⟩

/-- A component of a tuple is asserted to be a scalar exactly when its raw type has a check. -/
theorem tupleChecks_assertsScalar_iff {values : List ReturnValue} (hn : values.length ≠ 1) {i : Nat} {v : ReturnValue}
    (hv : values[i]? = some v) :
    (∃ check ∈ tupleChecks values, AssertsScalar (returnTarget values.length i) check) ↔
      CheckKind.ofSpelling v.rawType ≠ .unchecked := by
  constructor
  · rintro ⟨check, hmem, hscalar⟩
    have hcomma := comma_notMem_returnTarget values.length
    rcases (mem_tupleChecks_iff hn).1 hmem with hlength | ⟨j, w, hw, hassertion⟩
    · -- the assertion on the length is about the tuple
      have hretval : AssertsInstance "retval" check := by
        rw [hlength]
        exact ⟨" tuple) and len(retval) == ".toList ++ (toString values.length).toList, by simp⟩
      exact absurd (hscalar.assertsInstance.unique (hcomma i) (by decide) hretval) (returnTarget_ne_retval hn)
    · obtain ⟨condition, hcond, hcheck⟩ := mem_assertion_iff.1 hassertion
      have hj : AssertsScalar (returnTarget values.length j) check := ⟨_, _, _, hcond, hcheck⟩
      have hij := returnTarget_inj hn
        (hscalar.assertsInstance.unique (hcomma i) (hcomma j) hj.assertsInstance)
      rw [hij, hw] at hv
      cases hv
      exact CheckKind.exists_condition?_iff.1 ⟨condition, hcond⟩
  · intro hkind
    obtain ⟨condition, hcond⟩ := CheckKind.exists_condition?_iff.2 hkind
    refine ⟨"assert " ++ condition, ?_, ⟨_, true, condition, hcond, rfl⟩⟩
    exact (mem_tupleChecks_iff hn).2 (.inr ⟨i, v, hv, mem_assertion_iff.2 ⟨condition, hcond, rfl⟩⟩)

theorem checks_ofValues_of_two_le {start : String} {values : List ReturnValue} (h : 2 ≤ values.length) :
    (ofValues start values).checks = tupleChecks values := by
  match values with
  | [] => cases h
  | [_] => exact absurd h (by simp)
  | _ :: _ :: _ => rfl

theorem checks_ofValues_singleton {start : String} {v : ReturnValue} (h : CheckKind.ofSpelling v.type = .unchecked) :
    (ofValues start [v]).checks = [] := by
  simp only [ofValues]
  split
  · rfl
  · exact assertion_eq_nil h

end ReturnShape

/-! ## Buffers of fixed size -/

/-- No type in the table is spelled like an array. -/
theorem NativeType.ofSpelling?_array (rest : String) : NativeType.ofSpelling? ("std::array<" ++ rest) = none := by
  cases h : NativeType.ofSpelling? ("std::array<" ++ rest) with
  | none => rfl
  | some t =>
    have hspelling := congrArg String.toList (NativeType.ofSpelling?_eq_some_iff.1 h)
    rw [String.toList_append] at hspelling
    have hprefix : "std::array<".toList <+: t.spelling.toList := ⟨_, hspelling.symm⟩
    revert hprefix
    cases t <;> decide

/-- The position among the returned values of the output at position `j`. -/
def NativeFunction.returnPosition (f : NativeFunction) (j : Nat) : Nat :=
  if carriesNothing f.returnType then j else j + 1

section

variable {f : NativeFunction} {c : HeaderConfig} {b : BoundFunction} {j : Nat} {p : BoundParameter}

theorem returnPosition_eq_length_add {native : List ReturnValue}
    (hlen : native.length = if ReturnShape.keepsNative f.returnType b.outputs then 1 else 0)
    (hp : b.outputs[j]? = some p) : f.returnPosition j = native.length + j := by
  have hne : b.outputs ≠ [] := by
    rintro hnil
    rw [hnil] at hp
    cases hp
  have hkeeps : ReturnShape.keepsNative f.returnType b.outputs = !carriesNothing f.returnType := by
    simp [ReturnShape.keepsNative, hne]
  rw [hlen, hkeeps, NativeFunction.returnPosition]
  cases carriesNothing f.returnType <;> simp [Nat.add_comm]

/-- What a bound function returns has its outputs in their order, and fixes the checks. -/
theorem returns_of_outcome (h : (f.transform c).outcome = .ok (some b)) :
    (∃ start, b.returnChecks = (ReturnShape.ofValues start b.returns).checks) ∧
      ∀ {j p}, b.outputs[j]? = some p → b.returns[f.returnPosition j]? = some (.ofParameter p) := by
  obtain ⟨module, exposed, _, _, hb⟩ := f.outcome_transform_eq_some h
  obtain ⟨_, shape, _, _, _, _, hshape, hreturns, hchecks⟩ := f.bindAs_eq_ok hb
  obtain ⟨start, native, rfl, hlen⟩ := ReturnShape.ofOutputs_eq_ok hshape
  rw [ReturnShape.values_ofValues] at hreturns
  refine ⟨⟨start, by rw [hchecks, hreturns]⟩, fun hp => ?_⟩
  rw [hreturns, returnPosition_eq_length_add hlen hp, List.getElem?_append_right (Nat.le_add_right _ _),
    Nat.add_sub_cancel_left, List.getElem?_map, hp]
  rfl

/-- An output that is a buffer has a type without a check. -/
theorem ofSpelling_type_of_array (h : (f.transform c).outcome = .ok (some b)) (hp : b.outputs[j]? = some p)
    (hd : p.direction = .array) : CheckKind.ofSpelling p.type = .unchecked := by
  obtain ⟨module, exposed, _, _, hb⟩ := f.outcome_transform_eq_some h
  obtain ⟨q, _, i, o, d, hbind⟩ := f.exists_bind_of_mem_outputs hb (List.mem_of_getElem? hp)
  obtain ⟨rest, hrest⟩ := NativeParameter.bind_type_of_array hbind hd
  simp [hrest, CheckKind.ofSpelling, NativeType.ofSpelling?_array]

/-- **Checks on buffers.** -/
theorem array_asserted_iff (h : (f.transform c).outcome = .ok (some b)) (hp : b.outputs[j]? = some p)
    (hd : p.direction = .array) :
    b.returns[f.returnPosition j]? = some (.ofParameter p) ∧
      ((∃ check ∈ b.returnChecks, AssertsScalar (returnTarget b.returns.length (f.returnPosition j)) check) ↔
        2 ≤ b.returns.length ∧ CheckKind.ofSpelling p.rawType ≠ .unchecked) := by
  obtain ⟨⟨start, hchecks⟩, hreturns⟩ := returns_of_outcome h
  have hget := hreturns hp
  refine ⟨hget, ?_⟩
  rw [hchecks]
  by_cases htwo : 2 ≤ b.returns.length
  · rw [ReturnShape.checks_ofValues_of_two_le htwo, ReturnShape.tupleChecks_assertsScalar_iff (by omega) hget]
    simp [htwo, ReturnValue.ofParameter]
  · -- a lone value is checked by its type in the wrapper
    obtain ⟨hlt, hval⟩ := List.getElem?_eq_some_iff.1 hget
    obtain ⟨v, hv⟩ := List.length_eq_one_iff.1 (show b.returns.length = 1 by omega)
    have hvp : v = .ofParameter p := by simpa [hv] using hval
    have hkind : CheckKind.ofSpelling v.type = .unchecked := by
      rw [hvp]
      exact ofSpelling_type_of_array h hp hd
    rw [hv, ReturnShape.checks_ofValues_singleton hkind]
    simp

end

/-- A getter that fills a buffer of four numbers and returns a value of the given type. -/
def readout (returnType : String) : NativeFunction :=
  ⟨"c_Mot_Get", returnType,
    [⟨"handle", "void *", false, false, none⟩, ⟨"values", "int", false, true, some (.count 4)⟩]⟩

/-- One buffer is returned, among the given number of values and with the given checks. -/
def returnsBuffer (count : Nat) (checks : List String) (bound : Option BoundFunction) : Bool :=
  bound.any fun b =>
    b.outputs.map (·.direction) = [.array] && b.returns.length = count && b.returnChecks = checks

theorem exists_of_returnsBuffer (f : NativeFunction) (c : HeaderConfig) (count : Nat) (checks : List String)
    (h : (f.transform c).outcome.toOption.any (returnsBuffer count checks) = true) :
    ∃ b p, (f.transform c).outcome = .ok (some b) ∧ b.outputs[0]? = some p ∧ p.direction = .array ∧
      b.returns.length = count ∧ b.returnChecks = checks := by
  obtain ⟨bound, hb, hbuffer⟩ := exists_ok_of_any h
  cases bound with
  | none => cases hbuffer
  | some b =>
    obtain ⟨⟨hdirections, hcount⟩, hchecks⟩ :
        (b.outputs.map (·.direction) = [.array] ∧ b.returns.length = count) ∧ b.returnChecks = checks := by
      simpa [returnsBuffer] using hbuffer
    obtain ⟨p, hp, hd⟩ := List.map_eq_singleton_iff.1 hdirections
    exact ⟨b, p, hb, by simp [hp], hd, hcount, hchecks⟩

theorem lone_array_unasserted :
    ∃ b p, ((readout "void").transform (plainModule "Mot")).outcome = .ok (some b) ∧ b.outputs[0]? = some p ∧
      p.direction = .array ∧ b.returns[0]? = some (.ofParameter p) ∧
      ¬∃ check ∈ b.returnChecks, AssertsScalar (returnTarget b.returns.length 0) check := by
  obtain ⟨b, p, hb, hp, hd, hcount, _⟩ :=
    exists_of_returnsBuffer (readout "void") (plainModule "Mot") 1 [] (by decide +kernel)
  have hi : (readout "void").returnPosition 0 = 0 := by decide
  obtain ⟨hget, hiff⟩ := array_asserted_iff hb hp hd
  rw [hi] at hget hiff
  exact ⟨b, p, hb, hp, hd, hget, fun hasserted => absurd (hiff.1 hasserted).1 (by omega)⟩

/-- A list that is returned after an error code is asserted to be a number. -/
theorem tuple_array_asserted :
    ∃ b p, ((readout "ctre::phoenix::ErrorCode").transform (plainModule "Mot")).outcome = .ok (some b) ∧
      b.outputs[0]? = some p ∧ p.direction = .array ∧ b.returns[1]? = some (.ofParameter p) ∧
      ∃ check ∈ b.returnChecks, AssertsScalar (returnTarget b.returns.length 1) check := by
  obtain ⟨b, p, hb, hp, hd, hcount, hchecks⟩ :=
    exists_of_returnsBuffer (readout "ctre::phoenix::ErrorCode") (plainModule "Mot") 2
      ["assert isinstance(retval, tuple) and len(retval) == 2", "assert isinstance(retval[0], ErrorCode)",
        "assert isinstance(retval[1], int)"] (by decide +kernel)
  have hi : (readout "ctre::phoenix::ErrorCode").returnPosition 0 = 1 := by decide
  have hget := (returns_of_outcome hb).2 hp
  rw [hi] at hget
  refine ⟨b, p, hb, hp, hd, hget, "assert isinstance(retval[1], int)", by simp [hchecks], .int, true, _, rfl, ?_⟩
  rw [hcount]
  decide

end Bindings
