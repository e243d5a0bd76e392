import Bindings.Proofs.Function.Binding
import Bindings.Proofs.Function.Return
import Std.Data.String.ToNat

/-!
# Names in a wrapper

A parameter without a name is numbered by its position among the exposed ones, whatever the others are called.

* `names_bindAll`: bound parameters have the names that the exposed ones go by.
* `nodup_namesFrom_iff`: the names are pairwise different exactly when no number is the name of another parameter.
* `parameter_names_nodup_iff`: the law for a bound function, and what follows for its returned values and variables.
* `positional_name_taken`: a parameter that is given the name of another one.
-/

namespace Bindings

/-! ## Numbers as names -/

/-- The name of an exposed parameter that has none of its own. -/
def positionalName (position : Nat) : String :=
  "param" ++ toString position

theorem positionalName_injective : Function.Injective positionalName := by
  intro i j h
  exact Nat.repr_inj.1 ((String.append_right_inj _).1 h)

theorem positionalName_ne_empty (position : Nat) : positionalName position ≠ "" := by
  simp [positionalName]

theorem positionalName_ne_native (position : Nat) : positionalName position ≠ "__ret" := by
  intro h
  have hhead := congrArg (fun s => s.toList.head?) h
  simp [positionalName] at hhead

namespace NativeParameter

variable {p : NativeParameter}

theorem nameAt_of_unnamed (h : p.name = "") (position : Nat) : p.nameAt position = positionalName position := by
  simp [nameAt, positionalName, h]

theorem nameAt_of_named (h : p.name ≠ "") (position : Nat) : p.nameAt position = p.name := by
  simp [nameAt, h]

theorem name_of_bind {i : Nat} {o : Option ParameterOverride} {d : Option DefaultValue} {b : BoundParameter}
    (h : p.bind i o d = .ok b) : b.name = p.nameAt i := by
  obtain ⟨host, _, h⟩ := bind_eq_ok_iff.1 h
  cases h
  rfl

end NativeParameter

/-! ## Names of parameters -/

/-- The names that parameters have are pairwise different, and none is that of the native return value. -/
structure WellNamed (ps : List NativeParameter) : Prop where
  distinct : ((ps.map (·.name)).filter (· ≠ "")).Nodup
  not_native : "__ret" ∉ ps.map (·.name)

instance (ps : List NativeParameter) : Decidable (WellNamed ps) :=
  decidable_of_iff (((ps.map (·.name)).filter (· ≠ "")).Nodup ∧ "__ret" ∉ ps.map (·.name))
    ⟨fun ⟨h₁, h₂⟩ => ⟨h₁, h₂⟩, fun ⟨h₁, h₂⟩ => ⟨h₁, h₂⟩⟩

/-- The number of a parameter without a name is the name of no parameter. -/
def NumbersFree (ps : List NativeParameter) : Prop :=
  ∀ {i p}, ps[i]? = some p → p.name = "" → positionalName i ∉ ps.map (·.name)

theorem getElem?_namesFrom_zero (ps : List NativeParameter) (i : Nat) :
    (namesFrom 0 ps)[i]? = ps[i]?.map (·.nameAt i) := by
  simp [namesFrom]

theorem names_bindAll {pending pending' : Pending} {ps : List NativeParameter} {bs : List BoundParameter}
    (h : bindAll 0 pending ps = .ok (bs, pending')) : bs.map (·.name) = namesFrom 0 ps := by
  rw [map_bindAll NativeParameter.name_of_bind h]
  simp [namesFrom]

namespace WellNamed

variable {ps : List NativeParameter} (hn : WellNamed ps)
include hn

/-- Different positions have different names if no number is taken. -/
theorem nameAt_ne (hfree : NumbersFree ps) {i j : Nat} {p q : NativeParameter} (hp : ps[i]? = some p)
    (hq : ps[j]? = some q) (hij : i < j) : p.nameAt i ≠ q.nameAt j := by
  have hpm : p.name ∈ ps.map (·.name) := List.mem_map_of_mem (List.mem_of_getElem? hp)
  have hqm : q.name ∈ ps.map (·.name) := List.mem_map_of_mem (List.mem_of_getElem? hq)
  by_cases hpn : p.name = "" <;> by_cases hqn : q.name = ""
  · rw [p.nameAt_of_unnamed hpn, q.nameAt_of_unnamed hqn]
    exact positionalName_injective.ne (Nat.ne_of_lt hij)
  · rw [p.nameAt_of_unnamed hpn, q.nameAt_of_named hqn]
    exact fun h => hfree hp hpn (h ▸ hqm)
  · rw [p.nameAt_of_named hpn, q.nameAt_of_unnamed hqn]
    exact fun h => hfree hq hqn (h ▸ hpm)
  · rw [p.nameAt_of_named hpn, q.nameAt_of_named hqn]
    obtain ⟨hi, rfl⟩ := List.getElem?_eq_some_iff.1 hp
    obtain ⟨hj, rfl⟩ := List.getElem?_eq_some_iff.1 hq
    have hpairwise := List.pairwise_map.1 (List.pairwise_filter.1 hn.distinct)
    exact List.pairwise_iff_getElem.1 hpairwise i j hi hj hij (by simpa using hpn) (by simpa using hqn)

theorem nodup_namesFrom_iff : (namesFrom 0 ps).Nodup ↔ NumbersFree ps := by
  constructor
  · intro hnodup i p hp hpn hmem
    obtain ⟨q, hq, hqn⟩ := List.mem_map.1 hmem
    obtain ⟨j, hj, rfl⟩ := List.mem_iff_getElem.1 hq
    have hnamed : ps[j].name ≠ "" := hqn ▸ positionalName_ne_empty i
    have hi : (namesFrom 0 ps)[i]? = some (positionalName i) := by
      rw [getElem?_namesFrom_zero, hp, Option.map_some, p.nameAt_of_unnamed hpn]
    have hj : (namesFrom 0 ps)[j]? = some (positionalName i) := by
      rw [getElem?_namesFrom_zero, List.getElem?_eq_getElem hj, Option.map_some,
        NativeParameter.nameAt_of_named hnamed, hqn]
    obtain ⟨hlt, _⟩ := List.getElem?_eq_some_iff.1 hi
    obtain rfl : i = j := (List.getElem?_inj hlt hnodup).1 (hi.trans hj.symm)
    obtain ⟨_, rfl⟩ := List.getElem?_eq_some_iff.1 hp
    exact hnamed hpn
  · intro hfree
    refine List.pairwise_iff_getElem.2 fun i j hi hj hij => ?_
    have hlen : (namesFrom 0 ps).length = ps.length := by simp [namesFrom]
    have hne := hn.nameAt_ne hfree (List.getElem?_eq_getElem (hlen ▸ hi)) (List.getElem?_eq_getElem (hlen ▸ hj)) hij
    simpa [namesFrom] using hne

/-- No parameter goes by the name of the native return value. -/
theorem native_notMem_namesFrom : "__ret" ∉ namesFrom 0 ps := by
  intro hmem
  obtain ⟨i, hi⟩ := List.mem_iff_getElem?.1 hmem
  rw [getElem?_namesFrom_zero, Option.map_eq_some_iff] at hi
  obtain ⟨p, hp, hname⟩ := hi
  by_cases hpn : p.name = ""
  · rw [p.nameAt_of_unnamed hpn] at hname
    exact positionalName_ne_native i hname
  · rw [p.nameAt_of_named hpn] at hname
    exact hn.not_native (hname ▸ List.mem_map_of_mem (List.mem_of_getElem? hp))

end WellNamed

/-! ## Names of values and variables -/

/-- The returned values are named apart if the outputs are. -/
theorem nodup_returned_names {returnType : String} {outputs : List BoundParameter} {shape : ReturnShape}
    (h : ReturnShape.ofOutputs returnType outputs = .ok shape) (hnodup : (outputs.map (·.name)).Nodup)
    (hnative : "__ret" ∉ outputs.map (·.name)) : (shape.values.map (·.name)).Nodup := by
  have hnames : (outputs.map ReturnValue.ofParameter).map (·.name) = outputs.map (·.name) := by
    rw [List.map_map]
    rfl
  rcases ReturnShape.ofOutputs_cases h with ⟨_, host, _, rfl⟩ | ⟨_, rfl⟩
  · rw [ReturnShape.values_ofValues, List.map_cons, hnames]
    exact List.nodup_cons.2 ⟨hnative, hnodup⟩
  · rw [ReturnShape.values_ofValues, hnames]
    exact hnodup

section

variable {f : NativeFunction} {c : HeaderConfig} {b : BoundFunction} {module exposed : String}

/-- **Names of a wrapper.** -/
theorem parameter_names_nodup_iff (hm : c.moduleName = some module) (hx : exposedName module f.name = .ok exposed)
    (h : (f.transform c).outcome = .ok (some b)) (hn : WellNamed (f.exposedParameters exposed)) :
    b.parameters.map (·.name) = f.effectiveNames exposed ∧
      ((b.parameters.map (·.name)).Nodup ↔ NumbersFree (f.exposedParameters exposed)) ∧
      ((b.parameters.map (·.name)).Nodup →
        (b.returns.map (·.name)).Nodup ∧ (b.outputs.map (·.name)).Nodup) ∧
      b.temporaries = String.join (b.outputs.map fun p => p.type ++ " " ++ p.name ++ ";") := by
  have hb := f.bindAs_of_outcome hm hx h
  obtain ⟨pending, _, hall, _, _, houtputs, _⟩ := f.bindAs_eq_ok hb
  obtain ⟨hshape, htemporaries⟩ := f.shape_of_bindAs hb
  have hnames := names_bindAll hall
  have hsub : (b.outputs.map (·.name)).Sublist (b.parameters.map (·.name)) := by
    rw [houtputs]
    exact List.filter_sublist.map _
  refine ⟨by rw [hnames, f.namesFrom_zero], by rw [hnames, hn.nodup_namesFrom_iff], fun hnodup => ?_, ?_⟩
  · have hout := hnodup.sublist hsub
    have hnative : "__ret" ∉ b.outputs.map (·.name) :=
      fun hmem => hn.native_notMem_namesFrom (hnames ▸ hsub.subset hmem)
    exact ⟨nodup_returned_names hshape hout hnative, hout⟩
  · rw [htemporaries, NativeFunction.temporaries_eq_join]

end

theorem numbers_kept_apart :
    WellNamed ((motorGet "int" [byAddress "" "int", byAddress "param1" "int"]).exposedParameters "get") ∧
      ∃ b, ((motorGet "int" [byAddress "" "int", byAddress "param1" "int"]).transform (plainModule "Mot")).outcome =
          .ok (some b) ∧
        (b.parameters.map (·.name)).Nodup ∧ (b.returns.map (·.name)).Nodup := by
  have hn : WellNamed ((motorGet "int" [byAddress "" "int", byAddress "param1" "int"]).exposedParameters "get") := by
    decide
  obtain ⟨b, hb, hnames⟩ := exists_bound_of_any (f := motorGet "int" [byAddress "" "int", byAddress "param1" "int"])
    (c := plainModule "Mot") (p := fun b => b.parameters.map (·.name) = ["param0", "param1"]) (by decide +kernel)
  obtain ⟨_, _, hreturns, _⟩ := parameter_names_nodup_iff rfl exposedName_motorGet hb hn
  have hnodup : (b.parameters.map (·.name)).Nodup := by
    rw [of_decide_eq_true hnames]
    decide
  exact ⟨hn, b, hb, hnodup, (hreturns hnodup).1⟩

/-- A parameter is named by its number although another one has that name: two variables and two returned values
have one name. -/
theorem positional_name_taken :
    WellNamed ((motorGet "void" [byAddress "" "int", byAddress "param0" "int"]).exposedParameters "get") ∧
      ∃ b, ((motorGet "void" [byAddress "" "int", byAddress "param0" "int"]).transform (plainModule "Mot")).outcome =
          .ok (some b) ∧
        ¬(b.parameters.map (·.name)).Nodup ∧ ¬(b.returns.map (·.name)).Nodup ∧
        b.temporaries = "int param0;int param0;" := by
  obtain ⟨b, hb, hnames⟩ := exists_bound_of_any (f := motorGet "void" [byAddress "" "int", byAddress "param0" "int"])
    (c := plainModule "Mot")
    (p := fun b => b.parameters.map (·.name) = ["param0", "param0"] && b.returns.map (·.name) = ["param0", "param0"] &&
      b.temporaries = "int param0;int param0;") (by decide +kernel)
  obtain ⟨⟨hparameters, hreturns⟩, htemporaries⟩ :
      (b.parameters.map (·.name) = ["param0", "param0"] ∧ b.returns.map (·.name) = ["param0", "param0"]) ∧
        b.temporaries = "int param0;int param0;" := by
    simpa using hnames
  refine ⟨by decide, b, hb, ?_, ?_, htemporaries⟩
  · rw [hparameters]
    decide
  · rw [hreturns]
    decide

end Bindings
