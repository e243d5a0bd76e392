import Bindings.Proofs.Config.Fields
import Bindings.Proofs.Outcome
import Mathlib

/-!
# Reading configuration

What a configuration says is read from a tree of tables, each value at its own place: `Data.functionTree` leads to the
tree of a function, `Data.overrideTree` from there to an override, and `Data.at?` to the fields. What the values there
say, `Data.IsFlag` and its like tell.

* `HeaderConfig.reflects_of_ofData?`: whatever is read stands at its own place, and what is absent there is absent.
* `HeaderConfig.ofData?_renamed`, `HeaderConfig.ofData?_extended`: the table of functions may have either of its names,
  and names that no one asks for do not matter but in overrides.
* `HeaderConfig.parse_reading`: all of it, for texts.
-/

namespace Bindings

open Record

/-! ## Places -/

def HeaderConfig.fieldNames : List String :=
  ["module_name", "functions"]

def FunctionConfig.fieldNames : List String :=
  ["defaults", "param_override", "internal", "rename", "code", "get", "set"]

def ParameterOverride.fieldNames : List String :=
  ["pointer", "array", "array_size", "x_type", "annotation"]

namespace Data

/-- The tree of a function; the table of functions has two names. -/
def functionTree (d : Data) (function : String) : Option Data :=
  (d.at? HeaderConfig.fieldNames "functions" <|> d.at? HeaderConfig.fieldNames "data").bind (under? function)

/-- The default of a parameter in the tree of a function. -/
def defaultTree (d : Data) (parameter : String) : Option Data :=
  (d.at? FunctionConfig.fieldNames "defaults").bind (under? parameter)

/-- The override of a parameter in the tree of a function. -/
def overrideTree (d : Data) (parameter : String) : Option Data :=
  (d.at? FunctionConfig.fieldNames "param_override").bind (under? parameter)

end Data

/-! ## What is read -/

/-- An override says what stands at the places of its fields, and its tree has no other names. -/
structure ParameterOverride.Reflects (d : Data) (o : ParameterOverride) : Prop where
  known : ∀ members, d = .table members → ∀ m ∈ members, m.1 ∈ fieldNames
  pointer : Option.Rel Data.IsFlag (d.at? fieldNames "pointer") o.pointer
  array : Option.Rel Data.IsFlag (d.at? fieldNames "array") o.array
  arraySize : Option.Rel ArraySize.IsSize (d.at? fieldNames "array_size") o.arraySize
  type : Option.Rel Data.IsText (d.at? fieldNames "x_type") o.type
  hostType : Option.Rel Data.IsText (d.at? fieldNames "annotation") o.hostType

/-- The configuration of a function says what stands in its tree. -/
structure FunctionConfig.Reflects (d : Data) (c : FunctionConfig) : Prop where
  defaults : ∀ parameter, Option.Rel DefaultValue.IsDefault (d.defaultTree parameter) (c.defaults.get? parameter)
  overrides : ∀ parameter, Option.Rel ParameterOverride.Reflects (d.overrideTree parameter) (c.overrides.get? parameter)
  internal : (d.at? fieldNames "internal").getD (.bool false) = .bool c.internal
  rename : Option.Rel Data.IsText (d.at? fieldNames "rename") c.rename
  code : Option.Rel Data.IsText (d.at? fieldNames "code") c.code
  getter : Option.Rel Data.IsFinite (d.at? fieldNames "get") c.getter
  setter : Option.Rel Data.IsFinite (d.at? fieldNames "set") c.setter

/-- A configuration says what stands in its tree, function by function. -/
structure HeaderConfig.Reflects (d : Data) (c : HeaderConfig) : Prop where
  moduleName : Option.Rel Data.IsText (d.at? fieldNames "module_name") c.moduleName
  functions : ∀ function, Option.Rel FunctionConfig.Reflects (d.functionTree function) (c.functions.get? function)

/-! ## Everything is read from its own place -/

theorem Data.isToml_of_functionTree {d t : Data} {function : String} (hd : d.IsToml)
    (h : d.functionTree function = some t) : t.IsToml := by
  obtain ⟨functions, hfunctions, h⟩ := Option.bind_eq_some_iff.1 h
  simp only [Option.orElse_eq_orElse, Option.orElse_eq_or, Option.or_eq_some_iff] at hfunctions
  rcases hfunctions with hfunctions | ⟨_, hfunctions⟩
  · exact isToml_of_under? (isToml_of_at? hd hfunctions) h
  · exact isToml_of_under? (isToml_of_at? hd hfunctions) h

theorem Data.isToml_of_overrideTree {d o : Data} {parameter : String} (hd : d.IsToml)
    (h : d.overrideTree parameter = some o) : o.IsToml := by
  obtain ⟨overrides, hoverrides, h⟩ := Option.bind_eq_some_iff.1 h
  exact isToml_of_under? (isToml_of_at? hd hoverrides) h

/-- What is read from a place stands in every relation to it that reading implies. -/
theorem Data.Reads.rel {α : Type} {read : Data → Option α} {r : Data → α → Prop} {place : Option Data}
    {value : Option α} (h : Data.Reads read place value) (hr : ∀ d a, place = some d → read d = some a → r d a) :
    Option.Rel r place value := by
  cases h with
  | none => exact .none
  | some h => exact .some (hr _ _ rfl h)

/-- An optional field of a record is read from its own place. -/
theorem Data.rel_at?_of_optional {α : Type} {read : Data → Option α} {r : Data → α → Prop} {d : Data}
    {fields : List String} {members : List (String × Data)} {name : String} {value : Option α} (hfields : fields.Nodup)
    (hd : d.IsToml) (hmembers : d.record? fields = some members)
    (h : optional [name] none (Data.nullable? read) members = some value) (hr : ∀ {d a}, read d = some a → r d a) :
    Option.Rel r (d.at? fields name) value := by
  rw [at?_eq_lookup hmembers]
  have hreads := reads_of_nullable (nodup_of_record? hfields hd hmembers) (isToml_of_record? hd hmembers) h
  exact hreads.rel fun _ _ _ => hr

theorem ParameterOverride.reflects_of_ofData? {d : Data} {o : ParameterOverride} (hd : d.IsToml)
    (h : ofData? d = some o) : Reflects d o := by
  obtain ⟨members, hmembers, h⟩ := Option.bind_eq_some_iff.1 h
  obtain ⟨_, hguard, h⟩ := Option.bind_eq_some_iff.1 h
  obtain ⟨pointer, hpointer, h⟩ := Option.bind_eq_some_iff.1 h
  obtain ⟨array, harray, h⟩ := Option.bind_eq_some_iff.1 h
  obtain ⟨arraySize, hsize, h⟩ := Option.bind_eq_some_iff.1 h
  obtain ⟨type, htype, h⟩ := Option.bind_eq_some_iff.1 h
  obtain ⟨hostType, hhost, h⟩ := Option.bind_eq_some_iff.1 h
  cases h
  have hfields : fieldNames.Nodup := by decide
  refine ⟨?_, ?_, ?_, ?_, ?_, ?_⟩
  · -- the guard has let all names pass
    rintro ms rfl m hm
    cases hmembers
    by_cases hall : members.all (fields.contains ·.1)
    · exact List.contains_iff_mem.1 (List.all_eq_true.1 hall m hm)
    · rw [guard, if_neg hall] at hguard
      cases hguard
  · exact Data.rel_at?_of_optional hfields hd hmembers hpointer Data.isFlag_iff.2
  · exact Data.rel_at?_of_optional hfields hd hmembers harray Data.isFlag_iff.2
  · exact Data.rel_at?_of_optional hfields hd hmembers hsize ArraySize.isSize_iff.2
  · exact Data.rel_at?_of_optional hfields hd hmembers htype Data.isText_iff.2
  · exact Data.rel_at?_of_optional hfields hd hmembers hhost Data.isText_iff.2

theorem FunctionConfig.reflects_of_ofData? {d : Data} {c : FunctionConfig} (hd : d.IsToml) (h : ofData? d = some c) :
    Reflects d c := by
  obtain ⟨members, hmembers, h⟩ := Option.bind_eq_some_iff.1 h
  obtain ⟨defaults, hdefaults, h⟩ := Option.bind_eq_some_iff.1 h
  obtain ⟨overrides, hoverrides, h⟩ := Option.bind_eq_some_iff.1 h
  obtain ⟨internal, hinternal, h⟩ := Option.bind_eq_some_iff.1 h
  obtain ⟨rename, hrename, h⟩ := Option.bind_eq_some_iff.1 h
  obtain ⟨code, hcode, h⟩ := Option.bind_eq_some_iff.1 h
  obtain ⟨getter, hgetter, h⟩ := Option.bind_eq_some_iff.1 h
  obtain ⟨setter, hsetter, h⟩ := Option.bind_eq_some_iff.1 h
  cases h
  have hfields : fieldNames.Nodup := by decide
  have hnodup := nodup_of_record? hfields hd hmembers
  have htoml := isToml_of_record? hd hmembers
  have hat : ∀ name, d.at? fieldNames name = members.lookup name := Data.at?_eq_lookup hmembers
  have hfinite {v v' : Data} (hv : some v.finite = some v') : v.IsFinite v' :=
    Data.isFinite_iff.2 (Option.some.inj hv).symm
  refine ⟨fun parameter => ?_, fun parameter => ?_, ?_, ?_, ?_, ?_, ?_⟩
  · rw [Data.defaultTree, hat]
    exact (Data.reads_of_optional_table hnodup htoml hdefaults).rel fun _ _ _ => DefaultValue.isDefault_iff.2
  · have hreads : Data.Reads ParameterOverride.ofData? (d.overrideTree parameter) (overrides.get? parameter) := by
      rw [Data.overrideTree, hat]
      exact Data.reads_of_optional_table hnodup htoml hoverrides
    exact hreads.rel fun o _ ho => ParameterOverride.reflects_of_ofData? (Data.isToml_of_overrideTree hd ho)
  · rw [Record.optional, member?_eq_lookup hnodup] at hinternal
    rw [hat]
    cases hlookup : members.lookup "internal" with
    | none =>
      rw [hlookup] at hinternal
      cases hinternal
      rfl
    | some value =>
      rw [hlookup] at hinternal
      cases value <;> cases hinternal
      rfl
  · exact Data.rel_at?_of_optional hfields hd hmembers hrename Data.isText_iff.2
  · exact Data.rel_at?_of_optional hfields hd hmembers hcode Data.isText_iff.2
  · exact Data.rel_at?_of_optional hfields hd hmembers hgetter hfinite
  · exact Data.rel_at?_of_optional hfields hd hmembers hsetter hfinite

/-- The table of functions is found under the one of its names that it has. -/
theorem lookup_of_member? {members : List (String × Data)} {a b : String} {found : Option Data}
    (h : member? [a, b] members = some found) : (members.lookup a <|> members.lookup b) = found := by
  have hone {name : String} (hname : name ∈ [a, b]) {d : Data} (hd : members.lookup name = some d) : found = some d := by
    rcases member?_of_mem hname (mem_of_lookup hd) with h' | h'
    · cases h.symm.trans h'
    · exact Option.some.inj (h.symm.trans h')
  cases ha : members.lookup a with
  | some d => exact (hone (by simp) ha).symm
  | none =>
    cases hb : members.lookup b with
    | some d => exact (hone (by simp) hb).symm
    | none =>
      cases found with
      | none => rfl
      | some d =>
        -- what is found stands under one of the two names, where nothing is
        obtain ⟨name, hname, hmem⟩ := mem_of_member? h
        have hnone : members.lookup name = none := by
          rcases List.mem_pair.1 hname with rfl | rfl
          · exact ha
          · exact hb
        simpa using List.lookup_eq_none_iff.1 hnone _ hmem

namespace HeaderConfig

theorem reflects_of_ofData? {d : Data} {c : HeaderConfig} (hd : d.IsToml) (h : ofData? d = some c) : Reflects d c := by
  obtain ⟨members, hmembers, h⟩ := Option.bind_eq_some_iff.1 h
  obtain ⟨moduleName, hmodule, h⟩ := Option.bind_eq_some_iff.1 h
  obtain ⟨functions, hfunctions, h⟩ := Option.bind_eq_some_iff.1 h
  cases h
  have hfields : fieldNames.Nodup := by decide
  have htoml := isToml_of_record? hd hmembers
  have hat : ∀ name, d.at? fieldNames name = members.lookup name := Data.at?_eq_lookup hmembers
  refine ⟨Data.rel_at?_of_optional hfields hd hmembers hmodule Data.isText_iff.2, fun function => ?_⟩
  have hreads : Data.Reads FunctionConfig.ofData? (d.functionTree function) (functions.get? function) := by
    rw [Data.functionTree, hat, hat]
    unfold Record.optional at hfunctions
    split at hfunctions
    · rename_i table htable
      rw [lookup_of_member? htable, Option.bind_some]
      obtain ⟨name, _, hmem⟩ := mem_of_member? htable
      exact Data.reads_of_table? (htoml _ hmem) hfunctions
    · rename_i hnone
      rw [lookup_of_member? hnone]
      cases hfunctions
      exact .none
    · cases hfunctions
  exact hreads.rel fun t _ ht => FunctionConfig.reflects_of_ofData? (Data.isToml_of_functionTree hd ht)

theorem exists_of_parse {text origin : String} {c : HeaderConfig} (h : parse text origin = .ok c) :
    ∃ d, Toml.ofText? text = some d ∧ ofData? d = some c := by
  unfold parse at h
  split at h
  · rename_i hc
    cases h
    exact Option.bind_eq_some_iff.1 hc
  · cases h

end HeaderConfig

/-! ## Nothing else is read -/

theorem rel_unique {α β : Type} {r : α → β → Prop} {place : Option α} {value value' : Option β}
    (h : Option.Rel r place value) (h' : Option.Rel r place value') (hr : ∀ a b b', r a b → r a b' → b = b') :
    value = value' := by
  cases h with
  | none =>
    cases h'
    rfl
  | some h =>
    cases h' with
    | some h' => rw [hr _ _ _ h h']

/-- A relation that tells what is read gives one value. -/
theorem rel_unique_of_iff {α : Type} {read : Data → Option α} {r : Data → α → Prop}
    {place : Option Data} {value value' : Option α} (h : Option.Rel r place value) (h' : Option.Rel r place value')
    (hr : ∀ {d a}, r d a ↔ read d = some a) : value = value' :=
  rel_unique h h' fun _ _ _ h h' => Option.some.inj ((hr.1 h).symm.trans (hr.1 h'))

theorem ParameterOverride.Reflects.unique {d : Data} {o o' : ParameterOverride} (h : Reflects d o) (h' : Reflects d o') :
    o = o' := by
  have hpointer := rel_unique_of_iff h.pointer h'.pointer Data.isFlag_iff
  have harray := rel_unique_of_iff h.array h'.array Data.isFlag_iff
  have hsize := rel_unique_of_iff h.arraySize h'.arraySize ArraySize.isSize_iff
  have htype := rel_unique_of_iff h.type h'.type Data.isText_iff
  have hhost := rel_unique_of_iff h.hostType h'.hostType Data.isText_iff
  cases o
  cases o'
  cases hpointer
  cases harray
  cases hsize
  cases htype
  cases hhost
  rfl

theorem FunctionConfig.Reflects.unique {d : Data} {c c' : FunctionConfig} (h : Reflects d c) (h' : Reflects d c') :
    c = c' := by
  have hdefaults : c.defaults = c'.defaults := Table.ext fun p =>
    rel_unique_of_iff (h.defaults p) (h'.defaults p) DefaultValue.isDefault_iff
  have hoverrides : c.overrides = c'.overrides := Table.ext fun p =>
    rel_unique (h.overrides p) (h'.overrides p) fun _ _ _ h h' => h.unique h'
  have hinternal := h.internal.symm.trans h'.internal
  have hrename := rel_unique_of_iff h.rename h'.rename Data.isText_iff
  have hcode := rel_unique_of_iff h.code h'.code Data.isText_iff
  have hgetter := rel_unique h.getter h'.getter fun _ _ _ h h' => h.eq_finite.trans h'.eq_finite.symm
  have hsetter := rel_unique h.setter h'.setter fun _ _ _ h h' => h.eq_finite.trans h'.eq_finite.symm
  cases c
  cases c'
  cases hdefaults
  cases hoverrides
  cases hinternal
  cases hrename
  cases hcode
  cases hgetter
  cases hsetter
  rfl

/-- A tree has one configuration: what is read of a function or a parameter does not depend on the others. -/
theorem HeaderConfig.Reflects.unique {d : Data} {c c' : HeaderConfig} (h : Reflects d c) (h' : Reflects d c') : c = c' := by
  have hmodule := rel_unique_of_iff h.moduleName h'.moduleName Data.isText_iff
  have hfunctions : c.functions = c'.functions := Table.ext fun f =>
    rel_unique (h.functions f) (h'.functions f) fun _ _ _ h h' => h.unique h'
  cases c
  cases c'
  cases hmodule
  cases hfunctions
  rfl

/-! ## Names that do not matter -/

/-- The names of the table of functions. -/
def HeaderConfig.functionsNames : List String :=
  ["functions", "data"]

/-- One change in a tree that does not change the configuration. -/
inductive HeaderConfig.Respelled : Data → Data → Prop
  /-- The table of functions under the other of its names. -/
  | renamed {name name' : String} {functions : Data} {ms ms' rest : List (String × Data)} :
      name ∈ functionsNames → name' ∈ functionsNames → ms.Perm ((name, functions) :: rest) →
        ms'.Perm ((name', functions) :: rest) → Respelled (.table ms) (.table ms')
  /-- A member with an unknown name at the top. -/
  | unknown {name : String} {d : Data} {ms ms' : List (String × Data)} :
      name ∉ fieldNames → name ∉ functionsNames → ms'.Perm ((name, d) :: ms) → Respelled (.table ms) (.table ms')
  /-- A member with an unknown name in the table of a function. -/
  | unknownOfFunction {name function field : String} {d : Data} {fs fs' : List (String × Data)}
      (before after first last : List (String × Data)) :
      name ∈ functionsNames → field ∉ FunctionConfig.fieldNames → fs'.Perm ((field, d) :: fs) →
        Respelled (.table (before ++ (name, .table (first ++ (function, .table fs) :: last)) :: after))
          (.table (before ++ (name, .table (first ++ (function, .table fs') :: last)) :: after))

theorem FunctionConfig.ofData?_of_unknown {field : String} {d : Data} {fs fs' : List (String × Data)}
    (hfield : field ∉ fieldNames) (h : fs'.Perm ((field, d) :: fs)) : ofData? (.table fs) = ofData? (.table fs') := by
  have hread {α : Type} {name : String} {default : α} {read : Data → Option α} (hname : name ∈ fieldNames) :
      optional [name] default read fs' = optional [name] default read fs := by
    rw [optional_perm h, optional_cons_of_notMem]
    rintro hmem
    exact hfield (List.mem_singleton.1 hmem ▸ hname)
  have hrecord : (Data.table fs).record? fields = some fs := rfl
  have hrecord' : (Data.table fs').record? fields = some fs' := rfl
  rw [ofData?, ofData?, bind_of_eq_some hrecord, bind_of_eq_some hrecord']
  rw [hread (by decide), hread (by decide), hread (by decide), hread (by decide), hread (by decide), hread (by decide),
    hread (by decide)]

namespace HeaderConfig

variable {ms ms' : List (String × Data)} {name name' : String} {d d' : Data}

/-- A configuration is what its two fields are. -/
theorem ofData?_congr
    (hmodule : optional ["module_name"] none (Data.nullable? Data.text?) ms =
      optional ["module_name"] none (Data.nullable? Data.text?) ms')
    (hfunctions : optional functionsNames .empty (Data.table? FunctionConfig.ofData?) ms =
      optional functionsNames .empty (Data.table? FunctionConfig.ofData?) ms') :
    ofData? (.table ms) = ofData? (.table ms') := by
  have hrecord : (Data.table ms).record? ["module_name", "functions"] = some ms := rfl
  have hrecord' : (Data.table ms').record? ["module_name", "functions"] = some ms' := rfl
  rw [functionsNames] at hfunctions
  rw [ofData?, ofData?, bind_of_eq_some hrecord, bind_of_eq_some hrecord', hmodule, hfunctions]

theorem notMem_of_functionsNames (h : name ∈ functionsNames) : name ∉ ["module_name"] := by
  rcases List.mem_pair.1 h with rfl | rfl <;> decide

/-- The table of functions may have either of its names, and be replaced by one that is read alike. -/
theorem ofData?_functions {rest : List (String × Data)} (hname : name ∈ functionsNames) (hname' : name' ∈ functionsNames)
    (hd : d.table? FunctionConfig.ofData? = d'.table? FunctionConfig.ofData?) (h : ms.Perm ((name, d) :: rest))
    (h' : ms'.Perm ((name', d') :: rest)) : ofData? (.table ms) = ofData? (.table ms') := by
  refine ofData?_congr ?_ ?_
  · rw [optional_perm h, optional_perm h', optional_cons_of_notMem (notMem_of_functionsNames hname),
      optional_cons_of_notMem (notMem_of_functionsNames hname')]
  · rw [optional_perm h, optional_perm h', optional_cons_of_mem hname, optional_cons_of_mem hname', hd]

theorem ofData?_respelled (h : Respelled d d') : ofData? d = ofData? d' := by
  cases h with
  | renamed hname hname' h h' => exact ofData?_functions hname hname' rfl h h'
  | unknown hfields hfunctions h =>
    refine ofData?_congr ?_ ?_
    · rw [optional_perm h, optional_cons_of_notMem]
      rintro hmem
      exact hfields (List.mem_singleton.1 hmem ▸ List.mem_cons_self)
    · rw [optional_perm h, optional_cons_of_notMem hfunctions]
  | unknownOfFunction before after first last hname hfield h =>
    refine ofData?_functions hname hname ?_ List.perm_middle List.perm_middle
    rw [Data.table?, Data.table?, List.mapM_append, List.mapM_append, List.mapM_cons, List.mapM_cons,
      FunctionConfig.ofData?_of_unknown hfield h]

/-- There is one table of functions, under one name. -/
theorem ofData?_of_both (h : ("functions", d) ∈ ms) (h' : ("data", d') ∈ ms) : ofData? (.table ms) = none := by
  have hrecord : (Data.table ms).record? ["module_name", "functions"] = some ms := rfl
  have hnone : optional ["functions", "data"] .empty (Data.table? FunctionConfig.ofData?) ms = none := by
    rw [Record.optional, member?_of_two_names (by simp) (by simp) (by decide) h h']
  rw [ofData?, bind_of_eq_some hrecord, hnone]
  cases optional ["module_name"] none (Data.nullable? Data.text?) ms <;> rfl

end HeaderConfig

/-! ## Overrides that cannot be read -/

/-- A number with a point, a text, a list or a table. -/
def Data.isNoFlag : Data → Bool
  | .float _ | .text _ | .list _ | .table _ => true
  | _ => false

/-- An override with an unknown name, or with a flag that is none. -/
def ParameterOverride.Malformed (d : Data) : Prop :=
  (∃ members, d = .table members ∧ ∃ m ∈ members, m.1 ∉ fieldNames) ∨
    ∃ name ∈ ["pointer", "array"], ∃ v, d.at? fieldNames name = some v ∧ v.isNoFlag

theorem Data.IsFlag.not_isNoFlag {d : Data} {b : Bool} (h : d.IsFlag b) : d.isNoFlag = false := by
  cases h <;> rfl

theorem ParameterOverride.Reflects.not_malformed {d : Data} {o : ParameterOverride} (h : Reflects d o) : ¬Malformed d := by
  rintro (⟨members, hd, m, hm, hunknown⟩ | ⟨name, hname, v, hv, hnone⟩)
  · exact hunknown (h.known members hd m hm)
  · have hflag : ∃ value, Option.Rel Data.IsFlag (d.at? fieldNames name) value := by
      rcases List.mem_pair.1 hname with rfl | rfl
      · exact ⟨_, h.pointer⟩
      · exact ⟨_, h.array⟩
    obtain ⟨value, hflag⟩ := hflag
    rw [hv] at hflag
    cases hflag with
    | some hflag => exact Bool.false_ne_true (hflag.not_isNoFlag.symm.trans hnone)

/-- All overrides of all functions are in order. -/
theorem HeaderConfig.Reflects.not_malformed {d t o : Data} {c : HeaderConfig} (h : Reflects d c)
    {function parameter : String} (ht : d.functionTree function = some t) (ho : t.overrideTree parameter = some o) :
    ¬ParameterOverride.Malformed o := by
  have hfunction := h.functions function
  rw [ht] at hfunction
  generalize c.functions.get? function = entry at hfunction
  cases hfunction with
  | some hfunction =>
    have hoverride := hfunction.overrides parameter
    rw [ho] at hoverride
    generalize Table.get? _ parameter = override at hoverride
    cases hoverride with
    | some hoverride => exact hoverride.not_malformed

/-! ## Texts -/

namespace HeaderConfig

variable {text : String} {d : Data}

theorem parse_eq (hd : Toml.ofText? text = some d) (origin : String) :
    parse text origin = (ofData? d).elim (.error (.ofCause (.malformedConfig origin))) .ok := by
  rw [parse, hd, Option.bind_some]
  cases ofData? d <;> rfl

/-- A tree that names the table of functions twice, or has an override that cannot be read, however deep in it. -/
def Malformed (d : Data) : Prop :=
  (∃ members functions functions', d = .table members ∧ ("functions", functions) ∈ members ∧
    ("data", functions') ∈ members) ∨
  ∃ function parameter t o, d.functionTree function = some t ∧ t.overrideTree parameter = some o ∧
    ParameterOverride.Malformed o

theorem ofData?_of_malformed (hd : d.IsToml) (h : Malformed d) : ofData? d = none := by
  rcases h with ⟨members, functions, functions', rfl, hf, hf'⟩ | ⟨function, parameter, t, o, ht, ho, hmalformed⟩
  · exact ofData?_of_both hf hf'
  · refine Option.eq_none_iff_forall_ne_some.2 fun c hc => ?_
    exact (reflects_of_ofData? hd hc).not_malformed ht ho hmalformed

/--
**Reading configuration.** A configuration that is read has all of its values from their own places in the tree of its
text, and no other configuration has; it is the same for every text whose tree differs by names that do not matter. A
text whose tree names the table of functions twice, or has an override with an unknown name or with a flag that is none,
is no configuration.
-/
theorem parse_reading (hd : Toml.ofText? text = some d) (origin : String) :
    (∀ c, parse text origin = .ok c → Reflects d c ∧ (∀ c', Reflects d c' → c' = c) ∧
      ∀ text' d', Toml.ofText? text' = some d' → Relation.EqvGen Respelled d d' → parse text' origin = .ok c) ∧
    (Malformed d → ∃ failure, parse text origin = .error failure ∧ failure.cause.code = "BG-ERR-CONFIG-PARSE") := by
  have htoml := Toml.isToml_of_ofText? hd
  constructor
  · intro c hc
    obtain ⟨e, he, hread⟩ := exists_of_parse hc
    cases hd.symm.trans he
    have hreflects := reflects_of_ofData? htoml hread
    refine ⟨hreflects, fun c' hc' => hc'.unique hreflects, fun text' d' hd' h => ?_⟩
    rw [parse_eq hd', ← eq_of_eqvGen (fun _ _ h => ofData?_respelled h) h, hread]
    rfl
  · intro h
    rw [parse_eq hd, ofData?_of_malformed htoml h]
    exact ⟨_, rfl, rfl⟩

/-- The tree of a function with a default, a flag and an override, after members that no one asks for. -/
def setTree (others : List (String × Data)) : Data :=
  .table [("c_M_Set", .table (others ++ [("defaults", .table [("y", .int 5)]), ("internal", .bool true),
    ("param_override", .table [("x", .table [("pointer", .int 1)])])]))]

/-- What it says. -/
def setConfig : HeaderConfig :=
  ⟨some "M", .ofList [("c_M_Set",
    ⟨.ofList [("y", .int 5)], .ofList [("x", ⟨some true, none, none, none, none⟩)], true, none, none, none, none⟩)]⟩

theorem rel_singleton {α : Type} {r : Data → α → Prop} {key : String} {a : α} (h : r d a) (name : String) :
    Option.Rel r ((Data.table [(key, d)]).under? name) ((Table.ofList [(key, a)]).get? name) := by
  have hget : (Table.ofList [(key, a)]).get? name = if name = key then some a else none := Table.get?_insert _ _ _ _
  rw [hget, Data.under?, lookup_entry_cons]
  split
  · exact .some h
  · exact .none

theorem reflects_setConfig : Reflects (.table [("functions", setTree []), ("module_name", .text "M")]) setConfig := by
  refine ⟨.some (.text "M"), rel_singleton ⟨rel_singleton (.int 5), rel_singleton ?_, rfl, .none, .none, .none, .none⟩⟩
  refine ⟨?_, .some (.nonzero (i := 1) (by decide)), .none, .none, .none, .none⟩
  rintro _ ⟨⟩ m hm
  rw [List.mem_singleton.1 hm]
  decide

def setText : String :=
  "module_name = \"M\"\n[functions.c_M_Set]\ninternal = true\ndefaults.y = 5\nparam_override.x.pointer = 1\n"

/-- The same with the other name for the table of functions, and two members that no one asks for. -/
def respelledConfigText : String :=
  "n = 2\nmodule_name = \"M\"\n[data.c_M_Set]\ninternal = true\na = []\ndefaults.y = 5\nparam_override.x.pointer = 1"

/-- An override with a flag that is none, next to a function that is in order. -/
def malformedConfigText : String :=
  "[functions.c_M_Get]\ninternal = true\n[functions.c_M_Set.param_override.x]\npointer = \"1\"\n"

theorem respelled_setTree :
    Relation.EqvGen Respelled (.table [("functions", setTree []), ("module_name", .text "M")])
      (.table [("data", setTree [("a", .list [])]), ("module_name", .text "M"), ("n", .int 2)]) := by
  have hrenamed : Respelled (.table [("functions", setTree []), ("module_name", .text "M")])
      (.table [("data", setTree []), ("module_name", .text "M")]) :=
    .renamed (by decide) (by decide) (List.Perm.refl _) (List.Perm.refl _)
  have hunknown : Respelled (.table [("data", setTree []), ("module_name", .text "M")])
      (.table [("data", setTree []), ("module_name", .text "M"), ("n", .int 2)]) :=
    .unknown (by decide) (by decide) (List.perm_append_singleton _ [_, _])
  have hfunction : Respelled (.table [("data", setTree []), ("module_name", .text "M"), ("n", .int 2)])
      (.table [("data", setTree [("a", .list [])]), ("module_name", .text "M"), ("n", .int 2)]) :=
    .unknownOfFunction [] _ [] [] (by decide) (show "a" ∉ FunctionConfig.fieldNames by decide) (List.Perm.refl _)
  exact .trans _ _ _ (.rel _ _ hrenamed) (.trans _ _ _ (.rel _ _ hunknown) (.rel _ _ hfunction))

theorem ofText?_setText :
    Toml.ofText? setText = some (.table [("functions", setTree []), ("module_name", .text "M")]) := by
  cbv

theorem ofText?_respelledConfigText :
    Toml.ofText? respelledConfigText = some
      (.table [("data", setTree [("a", .list [])]), ("module_name", .text "M"), ("n", .int 2)]) := by
  cbv

theorem ofText?_malformedConfigText :
    Toml.ofText? malformedConfigText = some
      (.table [("functions", .table [("c_M_Get", .table [("internal", .bool true)]),
        ("c_M_Set", .table [("param_override", .table [("x", .table [("pointer", .text "1")])])])])]) := by
  cbv

theorem parse_respelledConfigText :
    parse setText "M.toml" = .ok setConfig ∧ parse respelledConfigText "M.toml" = .ok setConfig ∧
      ∃ failure, parse malformedConfigText "M.toml" = .error failure ∧ failure.cause.code = "BG-ERR-CONFIG-PARSE" := by
  obtain ⟨c, hc⟩ := exists_ok_of_isOk (x := parse setText "M.toml") (by decide +kernel)
  obtain ⟨-, hunique, hsame⟩ := (parse_reading ofText?_setText "M.toml").1 c hc
  cases hunique setConfig reflects_setConfig
  refine ⟨hc, hsame _ _ ofText?_respelledConfigText respelled_setTree, ?_⟩
  refine (parse_reading ofText?_malformedConfigText "M.toml").2 (.inr ⟨"c_M_Set", "x", _, _, rfl, rfl, .inr ?_⟩)
  exact ⟨"pointer", by decide, .text "1", rfl, rfl⟩

end HeaderConfig

end Bindings
