import Bindings.Proofs.Function.Configured
import Bindings.Proofs.Function.Marshalling
import Bindings.Proofs.Text.Lowercase

/-!
# Defaults of parameters

A parameter has the default that is configured under its name, if it is the first of that name; otherwise a timeout has
a default of zero.

* `defaultText?_none`: the default of a parameter for which none is configured; a timeout is told by its name, but for
  the case of ASCII letters.
* `default_of_bound`: the law.
-/

namespace Bindings

/-! ## Timeouts -/

/-- The name is that of a timeout, in small or large letters of ASCII. -/
def IsTimeout (name : String) : Prop :=
  name.toList.map Char.toLower = "timeoutms".toList

instance (name : String) : Decidable (IsTimeout name) :=
  inferInstanceAs (Decidable (_ = _))

namespace NativeParameter

theorem lowercase_eq_timeoutName_iff (name : String) : Text.lowercase name.toList = timeoutName ↔ IsTimeout name :=
  Text.lowercase_eq_iff (by decide)

/-- Without a configured default only timeouts have one. -/
theorem defaultText?_none (name : String) : defaultText? name none = if IsTimeout name then some "0" else none := by
  simp only [defaultText?, lowercase_eq_timeoutName_iff]

theorem default_of_bind {p : NativeParameter} {i : Nat} {o : Option ParameterOverride} {d : Option DefaultValue}
    {b : BoundParameter} (h : p.bind i o d = .ok b) : b.default = defaultText? b.name d := by
  obtain ⟨host, _, h⟩ := bind_eq_ok_iff.1 h
  cases h
  rfl

end NativeParameter

/-! ## How a default is written -/

/-- The default of a bound parameter ends its signature and its argument declaration. -/
structure BoundParameter.WritesDefault (q : BoundParameter) : Prop where
  signature : ∀ text, q.default = some text → ∃ hostType, q.signature = q.name ++ ": " ++ hostType ++ " = " ++ text
  argument : ∀ text, q.default = some text → q.argument = "py::arg(\"" ++ q.name ++ "\")=" ++ text
  bare : q.default = none → q.argument = "py::arg(\"" ++ q.name ++ "\")"

theorem Marshalled.writesDefault {p : NativeParameter} {o : Option ParameterOverride} {host : HostType}
    {q : BoundParameter} (h : Marshalled p o host q) : q.WritesDefault := by
  refine ⟨fun text htext => ⟨(o.bind (·.hostType)).getD host.text, ?_⟩, fun text htext => ?_, fun hnone => ?_⟩
  · rw [h.signature, htext, Option.elim_some, ← String.append_assoc]
  · have hmark : "\")=" = "\")" ++ "=" := rfl
    rw [h.argument, htext, Option.elim_some, hmark]
    simp only [String.append_assoc]
  · rw [h.argument, hnone, Option.elim_none, String.append_empty]

namespace NativeFunction

variable {f : NativeFunction}

/-- The default of an exposed parameter, whatever overrides it. -/
def defaultTextAt (f : NativeFunction) (exposed : String) (defaults : Table DefaultValue) (i : Nat)
    (p : NativeParameter) : Option String :=
  NativeParameter.defaultText? (p.nameAt i) (f.entryAt exposed defaults i p)

theorem map_default_parameters {exposed : String} {c : FunctionConfig} {b : BoundFunction}
    (h : f.bindAs exposed c = .ok b) :
    b.parameters.map (fun q => (q.default, q.argument)) = (f.exposedParameters exposed).mapIdx fun i p =>
      (f.defaultTextAt exposed c.defaults i p,
        "py::arg(\"" ++ p.nameAt i ++ "\")" ++ (f.defaultTextAt exposed c.defaults i p).elim "" ("=" ++ ·)) := by
  refine map_parameters h fun hbind => ?_
  obtain ⟨host, hhost⟩ := NativeParameter.exists_hostType_of_bind hbind
  rw [(NativeParameter.marshalled_of_bind hhost hbind).argument, NativeParameter.default_of_bind hbind,
    NativeParameter.name_of_bind hbind]
  rfl

/--
**Defaults.** A bound parameter has the default that is configured under its name, if no earlier one has that name, and
otherwise that of a timeout or none; its default ends what is written of it. Overrides play no part.
-/
theorem default_of_bound {c : HeaderConfig} {b : BoundFunction} (h : (f.transform c).outcome = .ok (some b)) :
    (∀ i q, b.parameters[i]? = some q →
      (∀ value, (c.entry f.name).defaults.get? q.name = some value → q.name ∉ (b.parameters.take i).map (·.name) →
        q.default = some value.literal) ∧
      ((c.entry f.name).defaults.get? q.name = none ∨ q.name ∈ (b.parameters.take i).map (·.name) →
        q.default = if IsTimeout q.name then some "0" else none) ∧
      q.WritesDefault) ∧
    ∀ (c' : HeaderConfig) (b' : BoundFunction), c'.moduleName = c.moduleName →
      (c'.entry f.name).defaults = (c.entry f.name).defaults → (f.transform c').outcome = .ok (some b') →
      b'.parameters.map (fun q => (q.default, q.argument)) = b.parameters.map fun q => (q.default, q.argument) := by
  obtain ⟨module, exposed, hm, hx, hb⟩ := f.outcome_transform_eq_some h
  constructor
  · intro i q hq
    obtain ⟨p, hp, hbind⟩ := exists_bind_of_getElem? hb hq
    obtain ⟨host, hhost⟩ := NativeParameter.exists_hostType_of_bind hbind
    have hname : p.nameAt i = q.name := (NativeParameter.name_of_bind hbind).symm
    have hdefault := NativeParameter.default_of_bind hbind
    have hbefore : (b.parameters.take i).map (·.name) = (f.effectiveNames exposed).take i := by
      rw [List.map_take, map_name_parameters hb]
    rw [entryAt, hname] at hdefault
    rw [hbefore]
    refine ⟨fun value hvalue hfirst => ?_, fun hnone => ?_,
      (NativeParameter.marshalled_of_bind hhost hbind).writesDefault⟩
    · rw [hdefault, if_neg hfirst, hvalue]
      rfl
    · rw [hdefault, ← NativeParameter.defaultText?_none]
      split
      · rfl
      · rw [hnone.resolve_right ‹_›]
  · intro c' b' hm' hdefaults h'
    have hb' := f.bindAs_of_outcome (hm'.trans hm) hx h'
    rw [map_default_parameters hb, map_default_parameters hb', hdefaults]

/-- A function with two timeouts of one name, and a parameter that has such a name only where the dot of its second
letter is overlooked. -/
def awaitTwice : NativeFunction :=
  motorGet "void" [byAddress "TimeOutMs" "int", byAddress "TimeOutMs" "int", byAddress "Tİmeoutms" "int"]

/-- A default for the timeouts, and an override that makes the first an input. -/
def awaitTwiceConfig : HeaderConfig :=
  ⟨some "Mot", .ofList [("c_Mot_Get",
    { FunctionConfig.empty with
      defaults := .ofList [("TimeOutMs", .int 10)]
      overrides := .ofList [("TimeOutMs", byValue)] })]⟩

theorem second_timeout_zero :
    ∃ b q₀ q₁ q₂, (awaitTwice.transform awaitTwiceConfig).outcome = .ok (some b) ∧ b.parameters = [q₀, q₁, q₂] ∧
      q₀.default = some "10" ∧ q₀.argument = "py::arg(\"TimeOutMs\")=10" ∧
      q₁.default = some "0" ∧ q₁.argument = "py::arg(\"TimeOutMs\")=0" ∧
      q₂.default = none ∧ q₂.argument = "py::arg(\"Tİmeoutms\")" := by
  obtain ⟨b, hb, hnames⟩ := exists_bound_of_any (f := awaitTwice) (c := awaitTwiceConfig)
    (p := fun b => b.parameters.map (·.name) = ["TimeOutMs", "TimeOutMs", "Tİmeoutms"]) (by decide +kernel)
  obtain ⟨q₀, rest, hparameters, hname₀, hrest⟩ := List.map_eq_cons_iff.1 (of_decide_eq_true hnames)
  obtain ⟨q₁, rest, rfl, hname₁, hrest⟩ := List.map_eq_cons_iff.1 hrest
  obtain ⟨q₂, rest, rfl, hname₂, hrest⟩ := List.map_eq_cons_iff.1 hrest
  obtain rfl := List.map_eq_nil_iff.1 hrest
  have hlaw := (default_of_bound hb).1
  rw [hparameters] at hlaw
  obtain ⟨hconfigured, -, hwrites₀⟩ := hlaw 0 q₀ rfl
  obtain ⟨-, hlater, hwrites₁⟩ := hlaw 1 q₁ rfl
  obtain ⟨-, hnone, hwrites₂⟩ := hlaw 2 q₂ rfl
  have hdefault₀ := hconfigured (.int 10) (hname₀ ▸ rfl) List.not_mem_nil
  have hdefault₁ := hlater (.inr (by simp [hname₀, hname₁]))
  have hdefault₂ := hnone (.inl (hname₂ ▸ rfl))
  rw [hname₁, if_pos (by decide)] at hdefault₁
  rw [hname₂, if_neg (by decide)] at hdefault₂
  refine ⟨b, q₀, q₁, q₂, hb, hparameters, hdefault₀, ?_, hdefault₁, ?_, hdefault₂, ?_⟩
  · rw [hwrites₀.argument _ hdefault₀, hname₀]
    rfl
  · rw [hwrites₁.argument _ hdefault₁, hname₁]
    rfl
  · rw [hwrites₂.bare hdefault₂, hname₂]
    rfl

end NativeFunction

end Bindings
