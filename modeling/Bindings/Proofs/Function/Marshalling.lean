import Bindings.Proofs.Function.Names

/-!
# How a parameter is passed

An override replaces parts of what the parser reports of a parameter; what comes of it decides the direction of the
parameter, and the direction decides how it is passed.

* `ArraySize.isFixed_iff`: which lengths make a buffer of fixed size.
* `Overridden.direction_eq_*_iff`: the direction by the flags and the length.
* `Passed`: type, native argument and host type by the direction.
* `Marshalled`: what a bound parameter has of the native one and of its override.
* `bind_marshalled`: the law for one parameter, with any override and any default.
-/

namespace Bindings

/-! ## Lengths -/

/-- A length that makes a buffer one of fixed size: a count above zero, or a name that is not blank. -/
inductive ArraySize.Fixes : ArraySize → Prop
  | count {n : UInt64} : 0 < n.toNat → Fixes (.count n)
  | symbol {name : String} {c : Char} : c ∈ name.toList → Text.isBlank c = false → Fixes (.symbol name)

theorem ArraySize.isFixed_iff {size : ArraySize} : size.isFixed = true ↔ size.Fixes := by
  cases size with
  | count n =>
    have hzero : n ≠ 0 ↔ 0 < n.toNat := by
      rw [Nat.pos_iff_ne_zero, Ne, Ne, ← UInt64.toNat_inj]
      rfl
    rw [isFixed, bne_iff_ne, hzero]
    exact ⟨.count, fun h => by cases h; assumption⟩
  | symbol name =>
    have hblank : name.toList.all Text.isBlank = false ↔ ∃ c ∈ name.toList, Text.isBlank c = false := by simp
    rw [isFixed, Bool.not_eq_true', Text.allBlank, hblank]
    constructor
    · rintro ⟨c, hc, hb⟩
      exact .symbol hc hb
    · intro h
      cases h with
      | symbol hc hb => exact ⟨_, hc, hb⟩

namespace NativeParameter

/-! ## Directions -/

namespace Overridden

variable {o : Overridden}

theorem fixedSize?_eq_some_iff {size : ArraySize} :
    o.fixedSize? = some size ↔ o.arraySize = some size ∧ size.Fixes := by
  rw [fixedSize?, Option.filter_eq_some_iff, ArraySize.isFixed_iff]

theorem isSome_fixedSize?_iff : o.fixedSize?.isSome = true ↔ ∃ size, o.arraySize = some size ∧ size.Fixes := by
  simp only [Option.isSome_iff_exists, fixedSize?_eq_some_iff]

theorem direction_eq_pointer_iff : o.direction = .pointer ↔ o.pointer = true := by
  unfold direction
  cases o.pointer <;> cases o.array <;> cases o.fixedSize?.isSome <;> decide

theorem direction_eq_input_iff : o.direction = .input ↔ o.pointer = false ∧ o.array = false := by
  unfold direction
  cases o.pointer <;> cases o.array <;> cases o.fixedSize?.isSome <;> decide

theorem direction_eq_array_iff : o.direction = .array ↔
    o.pointer = false ∧ o.array = true ∧ ∃ size, o.arraySize = some size ∧ size.Fixes := by
  rw [← isSome_fixedSize?_iff]
  unfold direction
  cases o.pointer <;> cases o.array <;> cases o.fixedSize?.isSome <;> decide

theorem direction_eq_vector_iff : o.direction = .vector ↔
    o.pointer = false ∧ o.array = true ∧ ¬∃ size, o.arraySize = some size ∧ size.Fixes := by
  rw [← isSome_fixedSize?_iff]
  unfold direction
  cases o.pointer <;> cases o.array <;> cases o.fixedSize?.isSome <;> decide

end Overridden

end NativeParameter

/-! ## Passing -/

/-- How a parameter of the given name and direction is passed, if it is of the given types when it is no buffer: its
type, what stands for it in the native call, and its host type. A buffer lists values of a host type of its own. -/
inductive Passed (name type hostType listed : String) (size : Option ArraySize) :
    Direction → String → String → String → Prop
  | input : Passed name type hostType listed size .input type name hostType
  | pointer : Passed name type hostType listed size .pointer type ("&" ++ name) hostType
  | vector : Passed name type hostType listed size .vector type name hostType
  | array {length : ArraySize} : size = some length →
      Passed name type hostType listed size .array ("std::array<" ++ type ++ ", " ++ length.text ++ ">")
        (name ++ ".data()") ("typing.List[" ++ listed ++ "]")

theorem Passed.eq_of_array {name type hostType listed passedType call passedHost : String} {length : ArraySize}
    (h : Passed name type hostType listed (some length) .array passedType call passedHost) :
    passedType = "std::array<" ++ type ++ ", " ++ length.text ++ ">" ∧ call = name ++ ".data()" ∧
      passedHost = "typing.List[" ++ listed ++ "]" := by
  cases h with
  | array hlength =>
    cases hlength
    exact ⟨rfl, rfl, rfl⟩

/-- A parameter of the given host type is bound as its override asks. -/
structure Marshalled (p : NativeParameter) (o : Option ParameterOverride) (host : HostType) (b : BoundParameter) :
    Prop where
  /-- An override that does not speak of pointers makes the parameter none. -/
  pointer : b.pointer = o.elim p.pointer fun o => o.pointer.getD false
  array : b.array = (o.bind (·.array)).getD p.array
  arraySize : b.arraySize = (o.bind (·.arraySize)).or p.arraySize
  pointer_iff : b.direction = .pointer ↔ b.pointer = true
  array_iff : b.direction = .array ↔
    b.pointer = false ∧ b.array = true ∧ ∃ size, b.arraySize = some size ∧ size.Fixes
  vector_iff : b.direction = .vector ↔
    b.pointer = false ∧ b.array = true ∧ ¬∃ size, b.arraySize = some size ∧ size.Fixes
  input_iff : b.direction = .input ↔ b.pointer = false ∧ b.array = false
  passed : Passed b.name ((o.bind (·.type)).getD p.rawType) ((o.bind (·.hostType)).getD host.text) host.text
    b.arraySize b.direction b.type b.callName b.hostType
  declaration : b.declaration = b.type ++ " " ++ b.name
  /-- The signature of a buffer, too, has the host type of a single value. -/
  signature : b.signature = b.name ++ ": " ++ (o.bind (·.hostType)).getD host.text ++ b.default.elim "" (" = " ++ ·)
  argument : b.argument = "py::arg(\"" ++ b.name ++ "\")" ++ b.default.elim "" ("=" ++ ·)

namespace NativeParameter

variable {p : NativeParameter} {host : HostType}

theorem hostTypeOf_eq_text {raw : String} (h : HostType.ofSpelling? raw = some host) :
    hostTypeOf raw = .ok host.text := by
  rw [hostTypeOf, h]

/-- Each part of an override counts where it is given; the flag of a pointer counts in any case. -/
theorem override_eq (p : NativeParameter) (hostType : String) (o : Option ParameterOverride) :
    p.override hostType o = ⟨o.elim p.pointer fun o => o.pointer.getD false, (o.bind (·.array)).getD p.array,
      (o.bind (·.arraySize)).or p.arraySize, (o.bind (·.type)).getD p.rawType, (o.bind (·.hostType)).getD hostType⟩ := by
  cases o with
  | none => rfl
  | some o =>
    simp only [override, Option.elim_some, Option.bind_some, Overridden.mk.injEq, true_and, and_true]
    exact Option.orElse_eq_or

theorem exists_hostType_of_bind {i : Nat} {o : Option ParameterOverride} {d : Option DefaultValue} {b : BoundParameter}
    (h : p.bind i o d = .ok b) : ∃ host, HostType.ofSpelling? p.rawType = some host := by
  obtain ⟨text, htext, _⟩ := bind_eq_ok_iff.1 h
  obtain ⟨host, hhost, _⟩ := hostTypeOf_eq_ok htext
  exact ⟨host, hhost⟩

theorem marshalled_of_bind {i : Nat} {o : Option ParameterOverride} {d : Option DefaultValue} {b : BoundParameter}
    (hhost : HostType.ofSpelling? p.rawType = some host) (h : p.bind i o d = .ok b) : Marshalled p o host b := by
  obtain ⟨text, htext, h⟩ := bind_eq_ok_iff.1 h
  obtain rfl : host.text = text := Except.ok.inj ((hostTypeOf_eq_text hhost).symm.trans htext)
  cases h
  have hoverride := p.override_eq host.text o
  have htype : (p.override host.text o).type = (o.bind (·.type)).getD p.rawType := by rw [hoverride]
  have hlisted : (p.override host.text o).hostType = (o.bind (·.hostType)).getD host.text := by rw [hoverride]
  exact {
    pointer := by simp only [hoverride]
    array := by simp only [hoverride]
    arraySize := by simp only [hoverride]
    pointer_iff := Overridden.direction_eq_pointer_iff
    array_iff := Overridden.direction_eq_array_iff
    vector_iff := Overridden.direction_eq_vector_iff
    input_iff := Overridden.direction_eq_input_iff
    passed := by
      rw [← htype, ← hlisted]
      cases hd : (p.override host.text o).direction with
      | input => exact .input
      | pointer => exact .pointer
      | vector => exact .vector
      | array =>
        obtain ⟨_, _, size, hsize⟩ := Overridden.direction_eq_array_iff.1 hd
        rw [Overridden.fixedSize?_eq_some_iff.2 hsize]
        exact .array hsize.1
    declaration := rfl
    signature := by rw [← hlisted]
    argument := rfl }

/-- **Marshalling.** A parameter whose type has a host type is bound, and passed as its override asks. -/
theorem bind_marshalled (h : HostType.ofSpelling? p.rawType = some host) (i : Nat) (o : Option ParameterOverride)
    (d : Option DefaultValue) :
    ∃ b, p.bind i o d = .ok b ∧ b.name = p.nameAt i ∧ b.rawType = p.rawType ∧ Marshalled p o host b := by
  obtain ⟨b, hb⟩ := p.bind_of_hasHostType i o d (Option.isSome_iff_exists.2 ⟨host, h⟩)
  exact ⟨b, hb, name_of_bind hb, rawType_of_bind hb, marshalled_of_bind h hb⟩

/-- An override that makes a buffer of a named length out of a pointer, of another type and host type. -/
def asBuffer : ParameterOverride :=
  ⟨none, some true, some (.symbol "N"), some "long", some "Sequence[int]"⟩

theorem pointer_as_buffer :
    ∃ b, (byAddress "" "int").bind 2 (some asBuffer) (some (.text "[]")) = .ok b ∧ b.direction = .array ∧
      b.pointer = false ∧ b.arraySize = some (.symbol "N") ∧ b.type = "std::array<long, N>" ∧
      b.callName = "param2.data()" ∧ b.hostType = "typing.List[int]" ∧ b.declaration = "std::array<long, N> param2" ∧
      b.signature = "param2: Sequence[int]" ++ b.default.elim "" (" = " ++ ·) := by
  have hhost : HostType.ofSpelling? (byAddress "" "int").rawType = some .int := by decide
  obtain ⟨b, hb, hname, -, hm⟩ := bind_marshalled hhost 2 (some asBuffer) (some (.text "[]"))
  have hname' : b.name = "param2" := hname.trans (by decide)
  have hsize : b.arraySize = some (.symbol "N") := hm.arraySize
  have hd : b.direction = .array := hm.array_iff.2
    ⟨hm.pointer, hm.array, _, hsize, .symbol (c := 'N') (by decide) (by decide)⟩
  have hpassed := hm.passed
  rw [hname', hsize, hd] at hpassed
  obtain ⟨htype, hcall, hhost⟩ := hpassed.eq_of_array
  refine ⟨b, hb, hd, hm.pointer, hsize, htype, hcall, hhost, ?_, ?_⟩
  · rw [hm.declaration, htype, hname']
    rfl
  · rw [hm.signature, hname']
    rfl

end NativeParameter

end Bindings
