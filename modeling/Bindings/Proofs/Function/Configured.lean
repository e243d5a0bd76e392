import Bindings.Proofs.Function.Names
import Mathlib.Logic.ExistsUnique

/-!
# What is configured for a parameter

The parameters of a function use up its configuration one after another. That comes to a look-up for each of them: a
parameter has what is configured under its name if it is the first of that name, and nothing otherwise.

* `getElem?_parameters`: the parameter at a position is bound with what is configured for it there.
* `existsUnique_firstNamed`: a name of exposed parameters has a first one.
* `Bindable.of_differsAt`: other values for the name of a parameter do not keep a function from being bound.
* `parameters_configured`: the law.
-/

namespace Bindings

theorem Table.mem_names_iff {α : Type} {t : Table α} {name : String} : name ∈ t.names ↔ t.get? name ≠ none := by
  rw [Table.get?, Ne, List.lookup_eq_none_iff]
  simp [Table.names]

/-- Two configurations of a function differ in what is configured under one name at most, as far as parameters and code
go. -/
structure FunctionConfig.DiffersAt (name : String) (c c' : FunctionConfig) : Prop where
  defaults : ∀ n ≠ name, c'.defaults.get? n = c.defaults.get? n
  overrides : ∀ n ≠ name, c'.overrides.get? n = c.overrides.get? n
  code : c'.code = c.code

namespace NativeFunction

/-- What a table has for the exposed parameter at a position, unless an earlier one of its name has used it up. -/
def entryAt {α : Type} (f : NativeFunction) (exposed : String) (t : Table α) (i : Nat) (p : NativeParameter) :
    Option α :=
  if p.nameAt i ∈ (f.effectiveNames exposed).take i then none else t.get? (p.nameAt i)

/-- The exposed parameter at a position is the first of the given name. -/
def FirstNamed (f : NativeFunction) (exposed name : String) (i : Nat) : Prop :=
  (f.effectiveNames exposed)[i]? = some name ∧ name ∉ (f.effectiveNames exposed).take i

variable {f : NativeFunction} {exposed name : String} {i : Nat} {p : NativeParameter}

theorem getElem?_effectiveNames (hp : (f.exposedParameters exposed)[i]? = some p) :
    (f.effectiveNames exposed)[i]? = some (p.nameAt i) := by
  rw [effectiveNames, List.getElem?_mapIdx, hp, Option.map_some]

theorem FirstNamed.unique {j : Nat} (hi : f.FirstNamed exposed name i) (hj : f.FirstNamed exposed name j) : i = j := by
  -- the later of two would have the earlier one before it
  have hle : ∀ {i j}, f.FirstNamed exposed name i → f.FirstNamed exposed name j → j ≤ i := fun {i j} hi hj =>
    Nat.le_of_not_lt fun hlt =>
      hj.2 (List.mem_iff_getElem?.2 ⟨i, by rw [List.getElem?_take_of_lt hlt, hi.1]⟩)
  exact Nat.le_antisymm (hle hj hi) (hle hi hj)

theorem existsUnique_firstNamed (h : name ∈ f.effectiveNames exposed) : ∃! i, f.FirstNamed exposed name i := by
  have hlt := List.idxOf_lt_length_iff.2 h
  have hfirst : f.FirstNamed exposed name ((f.effectiveNames exposed).idxOf name) := by
    refine ⟨by rw [List.getElem?_eq_getElem hlt, List.getElem_idxOf], fun hmem => ?_⟩
    obtain ⟨j, hj, hname⟩ := List.mem_take_iff_getElem.1 hmem
    have hbefore := List.not_of_lt_findIdx (Nat.lt_of_lt_of_le hj (Nat.min_le_left _ _))
    simp [hname] at hbefore
  exact ⟨_, hfirst, fun j hj => hj.unique hfirst⟩

section Entry

variable {α : Type} {t t' : Table α}

theorem entryAt_of_firstNamed (h : f.FirstNamed exposed (p.nameAt i) i) :
    f.entryAt exposed t i p = t.get? (p.nameAt i) :=
  if_neg h.2

theorem entryAt_of_named_before (h : p.nameAt i ∈ (f.effectiveNames exposed).take i) :
    f.entryAt exposed t i p = none :=
  if_pos h

/-- Tables that differ at one name only have the same for all parameters but the first of that name. -/
theorem entryAt_congr (ht : ∀ n ≠ name, t'.get? n = t.get? n) (hp : (f.exposedParameters exposed)[i]? = some p)
    (hi : ¬f.FirstNamed exposed name i) : f.entryAt exposed t' i p = f.entryAt exposed t i p := by
  by_cases hbefore : p.nameAt i ∈ (f.effectiveNames exposed).take i
  · rw [entryAt_of_named_before hbefore, entryAt_of_named_before hbefore]
  · have hfirst : f.FirstNamed exposed (p.nameAt i) i := ⟨getElem?_effectiveNames hp, hbefore⟩
    rw [entryAt_of_firstNamed hfirst, entryAt_of_firstNamed hfirst]
    exact ht _ fun hn => hi (hn ▸ hfirst)

end Entry

/-! ## Bound parameters -/

section Bound

variable {c c' : FunctionConfig} {b b' : BoundFunction}

theorem length_parameters (h : f.bindAs exposed c = .ok b) :
    b.parameters.length = (f.exposedParameters exposed).length := by
  obtain ⟨pending, _, hall, _⟩ := f.bindAs_eq_ok h
  exact length_bindAll hall

/-- The exposed parameter at a position is bound with what is configured for it there. -/
theorem getElem?_parameters (h : f.bindAs exposed c = .ok b) (hp : (f.exposedParameters exposed)[i]? = some p) :
    ∃ q, b.parameters[i]? = some q ∧
      p.bind i (f.entryAt exposed c.overrides i p) (f.entryAt exposed c.defaults i p) = .ok q := by
  obtain ⟨pending, _, hall, _⟩ := f.bindAs_eq_ok h
  obtain ⟨q, hq, hbind⟩ := getElem?_bindAll hall hp
  rw [Nat.zero_add, (Pending.get?_eraseAll _ _ _).1, (Pending.get?_eraseAll _ _ _).2, f.namesFrom_zero] at hbind
  exact ⟨q, hq, hbind⟩

/-- A bound parameter is the binding of the exposed one at its position. -/
theorem exists_bind_of_getElem? (h : f.bindAs exposed c = .ok b) {q : BoundParameter} (hq : b.parameters[i]? = some q) :
    ∃ p, (f.exposedParameters exposed)[i]? = some p ∧
      p.bind i (f.entryAt exposed c.overrides i p) (f.entryAt exposed c.defaults i p) = .ok q := by
  obtain ⟨hi, _⟩ := List.getElem?_eq_some_iff.1 hq
  have hp := List.getElem?_eq_getElem (length_parameters h ▸ hi)
  obtain ⟨q', hq', hbind⟩ := getElem?_parameters h hp
  rw [hq, Option.some.injEq] at hq'
  exact ⟨_, hp, hq' ▸ hbind⟩

/-- What the binding of a parameter at its position gives is found along the list. -/
theorem map_parameters {α : Type} {part : BoundParameter → α} {ofNative : Nat → NativeParameter → α}
    (h : f.bindAs exposed c = .ok b)
    (hpart : ∀ {i p q}, p.bind i (f.entryAt exposed c.overrides i p) (f.entryAt exposed c.defaults i p) = .ok q →
      part q = ofNative i p) :
    b.parameters.map part = (f.exposedParameters exposed).mapIdx ofNative := by
  refine List.ext_getElem (by simp [length_parameters h]) fun i hi _ => ?_
  rw [List.length_map] at hi
  obtain ⟨p, hp, hbind⟩ := exists_bind_of_getElem? h (List.getElem?_eq_getElem hi)
  obtain ⟨_, rfl⟩ := List.getElem?_eq_some_iff.1 hp
  rw [List.getElem_map, List.getElem_mapIdx, hpart hbind]

theorem map_name_parameters (h : f.bindAs exposed c = .ok b) :
    b.parameters.map (·.name) = f.effectiveNames exposed :=
  map_parameters h NativeParameter.name_of_bind

/-- The first parameter of a name is bound with all that is configured under it. -/
theorem getElem?_parameters_of_firstNamed (h : f.bindAs exposed c = .ok b) (hi : f.FirstNamed exposed name i) :
    ∃ p q, (f.exposedParameters exposed)[i]? = some p ∧ b.parameters[i]? = some q ∧
      p.bind i (c.overrides.get? name) (c.defaults.get? name) = .ok q := by
  have hname := hi.1
  rw [effectiveNames, List.getElem?_mapIdx, Option.map_eq_some_iff] at hname
  obtain ⟨p, hp, rfl⟩ := hname
  obtain ⟨q, hq, hbind⟩ := getElem?_parameters h hp
  rw [entryAt_of_firstNamed hi, entryAt_of_firstNamed hi] at hbind
  exact ⟨p, q, hp, hq, hbind⟩

/-- A later parameter of a name is bound as if nothing were configured. -/
theorem getElem?_parameters_of_named_before (h : f.bindAs exposed c = .ok b)
    (hp : (f.exposedParameters exposed)[i]? = some p) (hbefore : p.nameAt i ∈ (f.effectiveNames exposed).take i) :
    ∃ q, b.parameters[i]? = some q ∧ p.bind i none none = .ok q := by
  obtain ⟨q, hq, hbind⟩ := getElem?_parameters h hp
  rw [entryAt_of_named_before hbefore, entryAt_of_named_before hbefore] at hbind
  exact ⟨q, hq, hbind⟩

/-! ## Changing what is configured under a name -/

/-- Other values for the name of a parameter do not keep a function from being bound. -/
theorem Bindable.of_differsAt {ps : List NativeParameter} (h : f.Bindable ps c) (hname : name ∈ goBy ps)
    (hc : c.DiffersAt name c') : f.Bindable ps c' := by
  have hknows : ∀ {α : Type} {t t' : Table α}, (∀ n ≠ name, t'.get? n = t.get? n) → Knows ps t.names →
      Knows ps t'.names := by
    intro α t t' ht hknown n hn
    by_cases heq : n = name
    · exact heq ▸ hname
    · refine hknown n (Table.mem_names_iff.2 ?_)
      rw [← ht n heq]
      exact Table.mem_names_iff.1 hn
  exact ⟨h.parameters_typed, hknows hc.defaults h.defaults_known, hknows hc.overrides h.overrides_known,
    h.return_typed, fun code hcode => h.code_open code (hc.code ▸ hcode)⟩

/-- Other values for a name change no parameter but the first of that name. -/
theorem getElem?_parameters_congr (h : f.bindAs exposed c = .ok b) (h' : f.bindAs exposed c' = .ok b')
    (hc : c.DiffersAt name c') (hi : ¬f.FirstNamed exposed name i) : b'.parameters[i]? = b.parameters[i]? := by
  cases hp : (f.exposedParameters exposed)[i]? with
  | none =>
    have hlen := List.getElem?_eq_none_iff.1 hp
    rw [List.getElem?_eq_none (length_parameters h' ▸ hlen), List.getElem?_eq_none (length_parameters h ▸ hlen)]
  | some p =>
    obtain ⟨q, hq, hbind⟩ := getElem?_parameters h hp
    obtain ⟨q', hq', hbind'⟩ := getElem?_parameters h' hp
    rw [entryAt_congr hc.overrides hp hi, entryAt_congr hc.defaults hp hi, hbind, Except.ok.injEq] at hbind'
    rw [hq, hq', hbind']

end Bound

/--
**Configuration of parameters.** Each exposed parameter is bound on its own, with what is configured under its name if
no earlier one has that name. Everything configured is for exactly one of them, and another value for it leaves all
others as they are; later parameters of the name are bound as if nothing were configured.
-/
theorem parameters_configured {c : HeaderConfig} {b : BoundFunction} (h : (f.transform c).outcome = .ok (some b)) :
    ∃ module exposed, c.moduleName = some module ∧ exposedName module f.name = .ok exposed ∧
      (b.parameters.map .ok = (f.exposedParameters exposed).mapIdx fun i p =>
        p.bind i (f.entryAt exposed (c.entry f.name).overrides i p) (f.entryAt exposed (c.entry f.name).defaults i p)) ∧
      (∀ name ∈ (c.entry f.name).defaults.names ++ (c.entry f.name).overrides.names,
        ∃! i, f.FirstNamed exposed name i) ∧
      (∀ name i, f.FirstNamed exposed name i →
        ∃ p q, (f.exposedParameters exposed)[i]? = some p ∧ b.parameters[i]? = some q ∧
          p.bind i ((c.entry f.name).overrides.get? name) ((c.entry f.name).defaults.get? name) = .ok q) ∧
      (∀ i p, (f.exposedParameters exposed)[i]? = some p → p.nameAt i ∈ (f.effectiveNames exposed).take i →
        ∃ q, b.parameters[i]? = some q ∧ p.bind i none none = .ok q) ∧
      ∀ name ∈ f.effectiveNames exposed, ∀ c' : HeaderConfig, c'.moduleName = c.moduleName →
        (c.entry f.name).DiffersAt name (c'.entry f.name) →
        ∃ b', (f.transform c').outcome = .ok (some b') ∧ b'.parameters.length = b.parameters.length ∧
          ∀ i, ¬f.FirstNamed exposed name i → b'.parameters[i]? = b.parameters[i]? := by
  obtain ⟨module, exposed, hm, hx, hb⟩ := f.outcome_transform_eq_some h
  have hbindable : f.Bindable (f.exposedParameters exposed) (c.entry f.name) := by
    obtain ⟨exposed', hx', hbindable⟩ := accepted_of_outcome hm h
    rw [hx, Except.ok.injEq] at hx'
    exact hx' ▸ hbindable
  refine ⟨module, exposed, hm, hx, map_parameters hb Eq.symm, fun name hname => existsUnique_firstNamed ?_,
    fun name i => getElem?_parameters_of_firstNamed hb, fun i p => getElem?_parameters_of_named_before hb,
    fun name hname c' hm' hc => ?_⟩
  · exact (List.mem_append.1 hname).elim (hbindable.defaults_known name) (hbindable.overrides_known name)
  · obtain ⟨b', h'⟩ := outcome_transform_of_accepted (hm'.trans hm) ⟨exposed, hx, hbindable.of_differsAt hname hc⟩
    have hb' := f.bindAs_of_outcome (hm'.trans hm) hx h'
    exact ⟨b', h', by rw [length_parameters hb, length_parameters hb'],
      fun i hi => getElem?_parameters_congr hb hb' hc hi⟩

/-- A function whose first exposed parameter has no name and goes by that of the second. -/
def namesakes : NativeFunction :=
  motorGet "void" [byAddress "" "int", byAddress "param0" "double"]

/-- An override that passes a parameter by value. -/
def byValue : ParameterOverride :=
  ⟨some false, none, none, some "long", none⟩

/-- A default and an override for the name of both. -/
def namesakesEntry (value : Int64) : FunctionConfig :=
  { FunctionConfig.empty with
    defaults := .ofList [("param0", .int value)]
    overrides := .ofList [("param0", byValue)] }

def namesakesConfig (value : Int64) : HeaderConfig :=
  ⟨some "Mot", .ofList [("c_Mot_Get", namesakesEntry value)]⟩

theorem differsAt_namesakesEntry (value value' : Int64) :
    (namesakesEntry value).DiffersAt "param0" (namesakesEntry value') :=
  ⟨fun n hn => by simp [namesakesEntry, Table.ofList, Table.get?_insert, hn], fun _ _ => rfl, rfl⟩

theorem second_namesake_unconfigured :
    ∃ b q₀ q₁, (namesakes.transform (namesakesConfig 5)).outcome = .ok (some b) ∧
      b.parameters[0]? = some q₀ ∧ (byAddress "" "int").bind 0 (some byValue) (some (.int 5)) = .ok q₀ ∧
      b.parameters[1]? = some q₁ ∧ (byAddress "param0" "double").bind 1 none none = .ok q₁ ∧
      ∃ b', (namesakes.transform (namesakesConfig 7)).outcome = .ok (some b') ∧ b'.parameters[1]? = some q₁ := by
  obtain ⟨b, hb, -⟩ := exists_bound_of_any (f := namesakes) (c := namesakesConfig 5) (p := fun _ => true)
    (by decide +kernel)
  obtain ⟨module, exposed, hm, hx, -, -, hfirst, hlater, hchange⟩ := parameters_configured hb
  obtain rfl : "Mot" = module := Option.some.inj hm
  obtain rfl : "get" = exposed := Except.ok.inj (exposedName_motorGet.symm.trans hx)
  have hnames : namesakes.effectiveNames "get" = ["param0", "param0"] := by decide
  have hzero : namesakes.FirstNamed "get" "param0" 0 := by simp [FirstNamed, hnames]
  obtain ⟨p₀, q₀, hp₀, hq₀, hbind₀⟩ := hfirst "param0" 0 hzero
  obtain ⟨q₁, hq₁, hbind₁⟩ := hlater 1 (byAddress "param0" "double") rfl (by decide)
  obtain ⟨b', hb', -, hrest⟩ := hchange "param0" (by simp [hnames]) (namesakesConfig 7) rfl
    (differsAt_namesakesEntry 5 7)
  cases hp₀
  refine ⟨b, q₀, q₁, hb, hq₀, hbind₀, hq₁, hbind₁, b', hb', ?_⟩
  rw [hrest 1 fun hone => absurd (hone.unique hzero) (by decide), hq₁]

end NativeFunction

end Bindings
