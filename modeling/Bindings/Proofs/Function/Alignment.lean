import Bindings.Proofs.Function.Names
import Bindings.Proofs.Function.Naming

/-!
# The parameters of a bound function

Parameters are bound one for one and in order, after the handle of the instance if the function takes one.

* `creates_iff`: whether a function takes a handle is told by its native name.
* `exposedParameters_eq_drop`: the parameters after the handle, told by the native name.
* `parameters_aligned`: the law, with how the parameters are divided into inputs and outputs.
-/

namespace Bindings

/-! ## Functions that create -/

theorem exposedName_eq_ok {module function exposed : String} (h : exposedName module function = .ok exposed) :
    ∃ first rest, function = "c_" ++ module ++ "_" ++ String.ofList (first :: rest) ∧
      exposed.toList = Text.lower first ++ rest.takeWhile (· != '\n') := by
  obtain ⟨first, rest, hname, _, hexposed⟩ := exposedName_eq_ok_iff.1 h
  exact ⟨first, rest, hname, hexposed⟩

/-- A text without line feeds is the beginning of a line exactly when it is the beginning of what the line starts. -/
theorem prefix_takeWhile_iff {α : Type} {p : α → Bool} {word s : List α} (hp : ∀ a ∈ word, p a = true) :
    word <+: s.takeWhile p ↔ word <+: s := by
  refine ⟨fun h => h.trans (List.takeWhile_prefix p), ?_⟩
  rintro ⟨rest, rfl⟩
  rw [List.takeWhile_append_of_pos hp]
  exact List.prefix_append word _

/-- What follows the module in the native name starts with the word that creating functions start with. -/
def StartsWithCreate (rest : String) : Prop :=
  "create".toList <+: rest.toList ∨ "Create".toList <+: rest.toList

instance (rest : String) : Decidable (StartsWithCreate rest) :=
  inferInstanceAs (Decidable (_ ∨ _))

/-- A function is exposed as one that creates exactly when it is called so, with a small letter or a large one. -/
theorem creates_iff {module function exposed rest : String} (hx : exposedName module function = .ok exposed)
    (hname : function = "c_" ++ module ++ "_" ++ rest) :
    NativeFunction.creates exposed = true ↔ StartsWithCreate rest := by
  obtain ⟨first, tail, hfunction, hexposed⟩ := exposedName_eq_ok hx
  obtain rfl : rest = String.ofList (first :: tail) := (String.append_right_inj _).1 (hname.symm.trans hfunction)
  have hword : ∀ a ∈ "reate".toList, (a != '\n') = true := List.all_eq_true.1 rfl
  have hcreates : NativeFunction.creates exposed = true ↔
      'c' :: "reate".toList <+: Text.lower first ++ tail.takeWhile (· != '\n') := by
    rw [NativeFunction.creates, List.isPrefixOf_iff_prefix, hexposed]
    exact Iff.rfl
  have hstarts : StartsWithCreate (String.ofList (first :: tail)) ↔
      ('c' = first ∨ 'C' = first) ∧ "reate".toList <+: tail := by
    have hlist : (String.ofList (first :: tail)).toList = first :: tail := String.toList_ofList
    rw [StartsWithCreate, hlist, or_and_right, ← List.cons_prefix_cons, ← List.cons_prefix_cons]
    exact Iff.rfl
  rw [hcreates, hstarts]
  obtain ⟨d, ds, hlower⟩ := List.exists_cons_of_ne_nil (Text.lower_ne_nil first)
  rw [hlower, List.cons_append, List.cons_prefix_cons]
  constructor
  · rintro ⟨rfl, hrest⟩
    obtain ⟨hfirst, rfl⟩ := Text.lower_eq_cons_c_iff.1 hlower
    exact ⟨hfirst.imp Eq.symm Eq.symm, (prefix_takeWhile_iff hword).1 hrest⟩
  · rintro ⟨hfirst, hrest⟩
    have hc := Text.lower_eq_cons_c_iff.2 ⟨hfirst.imp Eq.symm Eq.symm, rfl⟩
    rw [hc] at hlower
    obtain ⟨rfl, rfl⟩ := List.cons.inj hlower
    exact ⟨rfl, (prefix_takeWhile_iff hword).2 hrest⟩

/-! ## Parameters -/

/-- How many native parameters stand before the exposed ones. -/
def exposedFrom (rest : String) : Nat :=
  if StartsWithCreate rest then 0 else 1

namespace NativeFunction

variable {f : NativeFunction} {c : HeaderConfig} {b : BoundFunction} {module exposed rest : String}

section

variable (hx : exposedName module f.name = .ok exposed) (hname : f.name = "c_" ++ module ++ "_" ++ rest)
include hx hname

theorem exposedParameters_eq_drop : f.exposedParameters exposed = f.parameters.drop (exposedFrom rest) := by
  have hcreates := creates_iff hx hname
  by_cases hcreate : StartsWithCreate rest
  · rw [exposedParameters, if_pos (hcreates.2 hcreate), exposedFrom, if_pos hcreate, List.drop_zero]
  · rw [exposedParameters, if_neg (mt hcreates.1 hcreate), exposedFrom, if_neg hcreate, List.drop_one]

theorem handle?_eq_some_iff {p : NativeParameter} :
    f.handle? exposed = some p ↔ exposedFrom rest = 1 ∧ f.parameters.head? = some p := by
  have hcreates := creates_iff hx hname
  by_cases hcreate : StartsWithCreate rest
  · simp [handle?, exposedFrom, hcreate, hcreates.2 hcreate]
  · simp [handle?, exposedFrom, hcreate, mt hcreates.1 hcreate]

end

/--
**Alignment.** The native parameters after the handle are bound one for one and in order, under their own names or
numbered from the first exposed one on. Each is an input or an output, and neither are inputs or outputs reordered.
-/
theorem parameters_aligned (h : (f.transform c).outcome = .ok (some b)) :
    ∃ module rest, c.moduleName = some module ∧ f.name = "c_" ++ module ++ "_" ++ rest ∧
      (∀ p, b.instanceParameter = some p ↔ exposedFrom rest = 1 ∧ f.parameters.head? = some p) ∧
      (b.parameters.map fun q => (q.name, q.rawType)) = (f.parameters.drop (exposedFrom rest)).mapIdx
        (fun i p => (if p.name = "" then "param" ++ toString i else p.name, p.rawType)) ∧
      b.inputs = b.parameters.filter (·.direction = .input) ∧
      b.outputs = b.parameters.filter (·.direction ≠ .input) ∧
      (b.inputs ++ b.outputs).Perm b.parameters ∧
      b.comma = if b.inputs = [] then "" else ", " := by
  obtain ⟨module, exposed, hm, hx, hb⟩ := f.outcome_transform_eq_some h
  obtain ⟨first, tail, hname, _⟩ := exposedName_eq_ok hx
  obtain ⟨parameters, pending, shape, hall, _, _, rfl⟩ := exists_parts_of_bindAs hb
  have hinput : (fun q : BoundParameter => !q.direction.isOutput) = fun q => decide (q.direction = .input) := by
    funext q
    cases q.direction <;> rfl
  have houtput : (fun q : BoundParameter => q.direction.isOutput) = fun q => decide (q.direction ≠ .input) := by
    funext q
    cases q.direction <;> rfl
  have hperm := List.filter_append_perm (fun q : BoundParameter => !q.direction.isOutput) parameters
  simp only [Bool.not_not] at hperm
  rw [exposedParameters_eq_drop hx hname] at hall
  refine ⟨module, _, hm, hname, fun p => handle?_eq_some_iff hx hname, ?_, by rw [hinput], by rw [houtput], hperm, ?_⟩
  · exact map_bindAll (fun hbind => Prod.ext (NativeParameter.name_of_bind hbind)
      (NativeParameter.rawType_of_bind hbind)) hall
  · simp only [List.isEmpty_iff]

/-- A function that creates, with two parameters without a name, which is exposed under a name that does not say so. -/
def motorCreate : NativeFunction :=
  ⟨"c_Mot_CreateAt", "int", [⟨"", "int", false, false, none⟩, byAddress "port" "int", ⟨"", "double", false, false, none⟩]⟩

/-- The configuration that renames it. -/
def renamedCreate : HeaderConfig :=
  ⟨some "Mot", .ofList [("c_Mot_CreateAt", { FunctionConfig.empty with internal := true, rename := some "open" })]⟩

theorem create_exposes_first :
    ∃ b, (motorCreate.transform renamedCreate).outcome = .ok (some b) ∧ b.exposedName = "open" ∧
      b.instanceParameter = none ∧
      (b.parameters.map fun q => (q.name, q.rawType)) = [("param0", "int"), ("port", "int"), ("param2", "double")] ∧
      b.inputs.map (·.name) = ["param0", "param2"] ∧ b.comma = ", " := by
  obtain ⟨b, hb, hnames⟩ := exists_bound_of_any (f := motorCreate) (c := renamedCreate)
    (p := fun b => b.exposedName = "open" && (b.inputs.map (·.name) = ["param0", "param2"])) (by decide +kernel)
  simp only [Bool.and_eq_true, decide_eq_true_eq] at hnames
  obtain ⟨hexposed, hinputs⟩ := hnames
  obtain ⟨module, rest, hm, hname, hhandle, hparameters, _, _, _, hcomma⟩ := parameters_aligned hb
  obtain rfl : "Mot" = module := Option.some.inj hm
  obtain rfl : "CreateAt" = rest := (String.append_right_inj ("c_" ++ "Mot" ++ "_")).1 hname
  have hfrom : exposedFrom "CreateAt" = 0 := by decide
  rw [hfrom] at hparameters
  refine ⟨b, hb, hexposed, Option.eq_none_iff_forall_ne_some.2 fun p hp => ?_, hparameters.trans (by decide), hinputs, ?_⟩
  · have hone := ((hhandle p).1 hp).1
    rw [hfrom] at hone
    cases hone
  · rw [hcomma, if_neg]
    intro hempty
    rw [hempty] at hinputs
    cases hinputs

end NativeFunction

end Bindings
