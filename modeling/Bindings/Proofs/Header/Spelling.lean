import Bindings.Header.Reader
import Bindings.Proofs.Outcome
import Bindings.Proofs.Record

/-!
# Spellings of header metadata

The same header can be written in many ways: members in any order, with members that no one asks for, with defaults
written out or left out, a return type under either name, flags as numbers, and records as lists of their fields.
`Part.fields` is the table of all records and their fields; `Part.Respelled` is one change of spelling anywhere in a
document.

* `Part.read_respelled`: a respelled document is read as before.
* `Part.read_of_repeats`: a document with a field given twice is not read at all.
* `parse_spelling`: both, for texts.
-/

namespace Bindings.Header

open Json Record

/-! ## Records and their fields -/

/-- The records that header metadata is made of. -/
inductive Part where
  | header
  | enum
  | enumValue
  | function
  | parameter
deriving DecidableEq

/-- What a field holds. -/
inductive Content where
  | text
  | flag
  /-- The number of an enum value, of free shape. -/
  | number
  | length
  | parts (part : Part)

/-- A field with its second name, if it has one, and what stands for it where it is left out. -/
structure Field where
  name : String
  otherName : Option String
  fallback : Option Document
  content : Content

def Field.spellings (f : Field) : List String :=
  f.name :: f.otherName.toList

namespace Field

abbrev requiredName : Field := ⟨"name", none, none, .text⟩

abbrev optionalName : Field := ⟨"name", none, some (.text (some "")), .text⟩

abbrev enums : Field := ⟨"enums", none, some (.list []), .parts .enum⟩

abbrev functions : Field := ⟨"functions", none, some (.list []), .parts .function⟩

abbrev values : Field := ⟨"values", none, some (.list []), .parts .enumValue⟩

abbrev value : Field := ⟨"value", none, some .null, .number⟩

abbrev returnType : Field := ⟨"rtnType", some "rtn_type", none, .text⟩

abbrev parameters : Field := ⟨"parameters", none, some (.list []), .parts .parameter⟩

abbrev rawType : Field := ⟨"raw_type", none, none, .text⟩

abbrev pointer : Field := ⟨"pointer", none, some (.bool false), .flag⟩

abbrev array : Field := ⟨"array", none, some (.bool false), .flag⟩

abbrev arraySize : Field := ⟨"array_size", none, some .null, .length⟩

end Field

namespace Part

/-- The fields of a record, in the order of a list. -/
def fields : Part → List Field
  | header => [.optionalName, .enums, .functions]
  | enum => [.requiredName, .values]
  | enumValue => [.requiredName, .value]
  | function => [.requiredName, .returnType, .parameters]
  | parameter => [.optionalName, .rawType, .pointer, .array, .arraySize]

def names (part : Part) : List String :=
  part.fields.map (·.name)

/-- Each name belongs to one field of a record. -/
theorem field_unique {part : Part} {f g : Field} {name : String} (hf : f ∈ part.fields) (hg : g ∈ part.fields)
    (hnf : name ∈ f.spellings) (hng : name ∈ g.spellings) : f = g := by
  cases part <;> simp only [fields, List.mem_cons, List.not_mem_nil, or_false] at hf hg <;>
    rcases hf with rfl | rfl | rfl | rfl | rfl <;> rcases hg with rfl | rfl | rfl | rfl | rfl <;>
    simp_all [Field.spellings]

end Part

/-! ## Changes of spelling -/

mutual

/-- One change in how a record is spelled, in the record itself or in one below it. -/
inductive Part.Respelled : Part → Document → Document → Prop
  /-- Members in another order. -/
  | order {part : Part} {ms ms' : List (Option String × Document)} :
      ms.Perm ms' → Part.Respelled part (.object ms) (.object ms')
  /-- A member with a name that is none of the record's. -/
  | unknown {part : Part} {name : String} {d : Document} {ms : List (Option String × Document)} :
      (∀ f ∈ part.fields, name ∉ f.spellings) → Part.Respelled part (.object ms) (.object ((some name, d) :: ms))
  /-- A default that is written out. -/
  | default {part : Part} {f : Field} {d : Document} {ms : List (Option String × Document)} :
      f ∈ part.fields → f.fallback = some d → (∀ m ∈ ms, ∀ name ∈ f.spellings, m.1 ≠ some name) →
        Part.Respelled part (.object ms) (.object ((some f.name, d) :: ms))
  /-- A field under the other of its names. -/
  | otherName {part : Part} {f : Field} {name name' : String} {d : Document} {ms : List (Option String × Document)} :
      f ∈ part.fields → name ∈ f.spellings → name' ∈ f.spellings →
        Part.Respelled part (.object ((some name, d) :: ms)) (.object ((some name', d) :: ms))
  /-- A record with all of its fields and no others, as a list. -/
  | list {part : Part} {ds : List Document} :
      ds.length = part.names.length → Part.Respelled part (.object ((part.names.map some).zip ds)) (.list ds)
  /-- The content of a member, spelled in another way. -/
  | member {part : Part} {f : Field} {name : String} {d d' : Document} {ms : List (Option String × Document)} :
      f ∈ part.fields → name ∈ f.spellings → Content.Respelled f.content d d' →
        Part.Respelled part (.object ((some name, d) :: ms)) (.object ((some name, d') :: ms))
  /-- The content of a field of a list, spelled in another way. -/
  | item {part : Part} {f : Field} {d d' : Document} (before after : List Document) :
      part.fields[before.length]? = some f → Content.Respelled f.content d d' →
        Part.Respelled part (.list (before ++ d :: after)) (.list (before ++ d' :: after))

/-- One change in how the content of a field is spelled. -/
inductive Content.Respelled : Content → Document → Document → Prop
  | cleared {n : Numeral} : n.toData? = some (.int 0) → Content.Respelled .flag (.bool false) (.numeral n)
  | set {n : Numeral} {i : Int} :
      n.toData? = some (.int i) → FitsSigned i → i ≠ 0 → Content.Respelled .flag (.bool true) (.numeral n)
  | parts {part : Part} {d d' : Document} (before after : List Document) :
      Part.Respelled part d d' →
        Content.Respelled (.parts part) (.list (before ++ d :: after)) (.list (before ++ d' :: after))

end

/-! ## Reading by the table -/

abbrev Part.Result : Part → Type
  | header => Header
  | enum => NativeEnum
  | enumValue => NativeEnumValue
  | function => NativeFunction
  | parameter => NativeParameter

def Part.read : (part : Part) → Document → Option part.Result
  | header => Header.ofDocument?
  | enum => NativeEnum.ofDocument?
  | enumValue => NativeEnumValue.ofDocument?
  | function => NativeFunction.ofDocument?
  | parameter => NativeParameter.ofDocument?

abbrev Content.Result : Content → Type
  | text => String
  | flag => Bool
  | number => Option Data
  | length => Option ArraySize
  | parts part => List part.Result

def Content.read : (content : Content) → Document → Option content.Result
  | text => Document.text?
  | flag => Document.flag?
  | number => Document.nullable? (Document.toData? valueDepth)
  | length => Document.nullable? ArraySize.ofDocument?
  | parts part => Document.list? part.read

/-- The content of a field among the members of a record. -/
def Field.read (f : Field) (members : List (String × Document)) : Option f.content.Result :=
  match member? f.spellings members with
  | some (some d) => f.content.read d
  | some none => f.fallback.bind f.content.read
  | none => none

namespace Field

variable {ns : List (String × Document)}

theorem required_eq_read (f : Field) (hf : f.fallback = none) : required f.spellings f.content.read ns = f.read ns := by
  rw [read, required, hf]
  cases member? f.spellings ns with
  | none => rfl
  | some found => cases found <;> rfl

theorem optional_eq_read (f : Field) {d : Document} {default : f.content.Result} (hf : f.fallback = some d)
    (hd : f.content.read d = some default) : optional f.spellings default f.content.read ns = f.read ns := by
  rw [read, Record.optional, hf, Option.bind_some, hd]
  cases member? f.spellings ns with
  | none => rfl
  | some found => cases found <;> rfl

end Field

namespace Part

variable {part : Part} {d d' : Document} {ns ns' : List (String × Document)}

/-- A record, from its fields among the given members. -/
def readFields : (part : Part) → List (String × Document) → Option part.Result
  | header, ns => do
    return ⟨← Field.optionalName.read ns, ← Field.enums.read ns, ← Field.functions.read ns⟩
  | enum, ns => do
    return ⟨← Field.requiredName.read ns, ← Field.values.read ns⟩
  | enumValue, ns => do
    return ⟨← Field.requiredName.read ns, ← Field.value.read ns⟩
  | function, ns => do
    return ⟨← Field.requiredName.read ns, ← Field.returnType.read ns, ← Field.parameters.read ns⟩
  | parameter, ns => do
    return ⟨← Field.optionalName.read ns, ← Field.rawType.read ns, ← Field.pointer.read ns, ← Field.array.read ns,
      ← Field.arraySize.read ns⟩

/-- The records are read by the table. -/
theorem read_eq (part : Part) (d : Document) : part.read d = (d.record? part.names).bind part.readFields := by
  cases hns : d.record? part.names with
  | none => cases part <;> exact congrArg (Option.bind · _) hns
  | some ns =>
    have name : optional ["name"] "" Document.text? ns = Field.optionalName.read ns :=
      Field.optional_eq_read .optionalName rfl rfl
    have name' : required ["name"] Document.text? ns = Field.requiredName.read ns :=
      Field.required_eq_read .requiredName rfl
    cases part with
    | header =>
      have enums : optional ["enums"] [] (Document.list? NativeEnum.ofDocument?) ns = Field.enums.read ns :=
        Field.optional_eq_read .enums rfl rfl
      have functions : optional ["functions"] [] (Document.list? NativeFunction.ofDocument?) ns =
          Field.functions.read ns :=
        Field.optional_eq_read .functions rfl rfl
      have hns : d.record? ["name", "enums", "functions"] = some ns := hns
      rw [read, Header.ofDocument?, bind_of_eq_some hns, name, enums, functions]
      rfl
    | enum =>
      have values : optional ["values"] [] (Document.list? NativeEnumValue.ofDocument?) ns = Field.values.read ns :=
        Field.optional_eq_read .values rfl rfl
      have hns : d.record? ["name", "values"] = some ns := hns
      rw [read, NativeEnum.ofDocument?, bind_of_eq_some hns, name', values]
      rfl
    | enumValue =>
      have value : optional ["value"] none (Document.nullable? (Document.toData? valueDepth)) ns = Field.value.read ns :=
        Field.optional_eq_read .value rfl rfl
      have hns : d.record? ["name", "value"] = some ns := hns
      rw [read, NativeEnumValue.ofDocument?, bind_of_eq_some hns, name', value]
      rfl
    | function =>
      have returnType : required ["rtnType", "rtn_type"] Document.text? ns = Field.returnType.read ns :=
        Field.required_eq_read .returnType rfl
      have parameters : optional ["parameters"] [] (Document.list? NativeParameter.ofDocument?) ns =
          Field.parameters.read ns :=
        Field.optional_eq_read .parameters rfl rfl
      have hns : d.record? ["name", "rtnType", "parameters"] = some ns := hns
      rw [read, NativeFunction.ofDocument?, bind_of_eq_some hns, name', returnType, parameters]
      rfl
    | parameter =>
      have rawType : required ["raw_type"] Document.text? ns = Field.rawType.read ns :=
        Field.required_eq_read .rawType rfl
      have pointer : optional ["pointer"] false Document.flag? ns = Field.pointer.read ns :=
        Field.optional_eq_read .pointer rfl rfl
      have array : optional ["array"] false Document.flag? ns = Field.array.read ns :=
        Field.optional_eq_read .array rfl rfl
      have arraySize : optional ["array_size"] none (Document.nullable? ArraySize.ofDocument?) ns =
          Field.arraySize.read ns :=
        Field.optional_eq_read .arraySize rfl rfl
      have hns : d.record? ["name", "raw_type", "pointer", "array", "array_size"] = some ns := hns
      rw [read, NativeParameter.ofDocument?, bind_of_eq_some hns, name, rawType, pointer, array, arraySize]
      rfl

theorem readFields_congr (h : ∀ f ∈ part.fields, f.read ns = f.read ns') : part.readFields ns = part.readFields ns' := by
  cases part <;> simp only [fields, List.forall_mem_cons] at h
  case header => rw [readFields, readFields, h.1, h.2.1, h.2.2.1]
  case enum => rw [readFields, readFields, h.1, h.2.1]
  case enumValue => rw [readFields, readFields, h.1, h.2.1]
  case function => rw [readFields, readFields, h.1, h.2.1, h.2.2.1]
  case parameter => rw [readFields, readFields, h.1, h.2.1, h.2.2.1, h.2.2.2.1, h.2.2.2.2.1]

theorem readFields_eq_none {f : Field} (hf : f ∈ part.fields) (h : f.read ns = none) : part.readFields ns = none := by
  cases part <;> simp only [fields, List.mem_cons, List.not_mem_nil, or_false] at hf
  case header => rcases hf with rfl | rfl | rfl <;> simp [readFields, h]
  case enum => rcases hf with rfl | rfl <;> simp [readFields, h]
  case enumValue => rcases hf with rfl | rfl <;> simp [readFields, h]
  case function => rcases hf with rfl | rfl | rfl <;> simp [readFields, h]
  case parameter => rcases hf with rfl | rfl | rfl | rfl | rfl <;> simp [readFields, h]

end Part

/-! ## Fields among members -/

section Members

variable {fields : List String} {ms ms' : List (Option String × Document)}

theorem record?_object (fields : List String) (ms : List (Option String × Document)) :
    (Document.object ms).record? fields =
      if ms.all (·.1.isSome) then some (ms.filterMap fun m => m.1.map (·, m.2)) else none := by
  rw [Document.record?]
  induction ms with
  | nil => rfl
  | cons m ms ih =>
    obtain ⟨name, d⟩ := m
    rw [List.mapM_cons, ih]
    cases name with
    | none => simp
    | some name => by_cases hms : ms.all (·.1.isSome) <;> simp [hms]

theorem record?_object_cons (name : String) (d : Document) :
    (Document.object ((some name, d) :: ms)).record? fields =
      ((Document.object ms).record? fields).map ((name, d) :: ·) := by
  rw [record?_object, record?_object]
  by_cases hms : ms.all (·.1.isSome) <;> simp [hms]

end Members

namespace Field

variable {f : Field} {name : String} {d : Document} {ns ns' : List (String × Document)}

theorem read_perm (h : ns.Perm ns') : f.read ns = f.read ns' := by
  rw [read, read, member?_perm _ h]

theorem read_cons_of_notMem (h : name ∉ f.spellings) : f.read ((name, d) :: ns) = f.read ns := by
  rw [read, read, member?_cons_of_notMem h]

theorem read_cons_of_mem (h : name ∈ f.spellings) :
    f.read ((name, d) :: ns) = if ns.any (f.spellings.contains ·.1) then none else f.content.read d := by
  rw [read, member?_cons_of_mem h]
  by_cases hany : ns.any (f.spellings.contains ·.1)
  · rw [if_pos hany, if_pos hany]
  · rw [if_neg hany, if_neg hany]

theorem read_of_absent (h : ns.any (f.spellings.contains ·.1) = false) : f.read ns = f.fallback.bind f.content.read := by
  rw [read, member?_of_absent h]

end Field

namespace Part

variable {part : Part} {f : Field} {name name' : String} {d d' : Document} {ns : List (String × Document)}
  {ms ms' : List (Option String × Document)}

/-- The fields of a record do not tell the names of a field apart, nor contents that are read alike. -/
theorem read_cons_congr (hf : f ∈ part.fields) (hname : name ∈ f.spellings) (hname' : name' ∈ f.spellings)
    (hd : f.content.read d = f.content.read d') :
    ∀ g ∈ part.fields, g.read ((name, d) :: ns) = g.read ((name', d') :: ns) := by
  intro g hg
  by_cases hng : name ∈ g.spellings
  · obtain rfl := field_unique hf hg hname hng
    rw [Field.read_cons_of_mem hname, Field.read_cons_of_mem hname', hd]
  · have hng' : name' ∉ g.spellings := fun h => hng (field_unique hf hg hname' h ▸ hname)
    rw [Field.read_cons_of_notMem hng, Field.read_cons_of_notMem hng']

theorem read_object_cons :
    part.read (.object ((some name, d) :: ms)) =
      ((Document.object ms).record? part.names).bind fun ns => part.readFields ((name, d) :: ns) := by
  rw [read_eq, record?_object_cons, Option.bind_map]
  rfl

theorem read_order (h : ms.Perm ms') : part.read (.object ms) = part.read (.object ms') := by
  have hall : ms.all (·.1.isSome) = ms'.all (·.1.isSome) := h.all_eq
  rw [read_eq, read_eq, record?_object, record?_object, hall]
  split
  · exact readFields_congr fun f _ => Field.read_perm (h.filterMap _)
  · rfl

theorem read_unknown (h : ∀ f ∈ part.fields, name ∉ f.spellings) :
    part.read (.object ms) = part.read (.object ((some name, d) :: ms)) := by
  rw [read_object_cons, read_eq]
  congr 1
  funext ns
  exact readFields_congr fun f hf => (Field.read_cons_of_notMem (h f hf)).symm

theorem read_default (hf : f ∈ part.fields) (hd : f.fallback = some d)
    (habsent : ∀ m ∈ ms, ∀ name ∈ f.spellings, m.1 ≠ some name) :
    part.read (.object ms) = part.read (.object ((some f.name, d) :: ms)) := by
  rw [read_object_cons, read_eq, record?_object]
  split
  · have hany : (ms.filterMap fun m => m.1.map (·, m.2)).any (f.spellings.contains ·.1) = false := by
      refine List.any_eq_false.2 fun n hn hc => ?_
      obtain ⟨⟨name, d⟩, hm, hn⟩ := List.mem_filterMap.1 hn
      obtain ⟨k, rfl, rfl⟩ := Option.map_eq_some_iff.1 hn
      exact habsent _ hm k (List.contains_iff_mem.1 hc) rfl
    refine readFields_congr fun g hg => ?_
    by_cases hng : f.name ∈ g.spellings
    · obtain rfl := field_unique hf hg List.mem_cons_self hng
      rw [Field.read_of_absent hany, Field.read_cons_of_mem hng, hany, hd]
      rfl
    · exact (Field.read_cons_of_notMem hng).symm
  · rfl

theorem read_member (hf : f ∈ part.fields) (hname : name ∈ f.spellings) (hname' : name' ∈ f.spellings)
    (hd : f.content.read d = f.content.read d') :
    part.read (.object ((some name, d) :: ms)) = part.read (.object ((some name', d') :: ms)) := by
  rw [read_object_cons, read_object_cons]
  congr 1
  funext ns
  exact readFields_congr (read_cons_congr hf hname hname' hd)

theorem read_list {ds : List Document} (h : ds.length = part.names.length) :
    part.read (.object ((part.names.map some).zip ds)) = part.read (.list ds) := by
  have hobject (names : List String) (ds : List Document) :
      (Document.object ((names.map some).zip ds)).record? part.names = some (names.zip ds) := by
    induction names generalizing ds with
    | nil => rfl
    | cons name names ih =>
      cases ds with
      | nil => rfl
      | cons d ds =>
        rw [List.map_cons, List.zip_cons_cons, record?_object_cons, ih]
        rfl
  rw [read_eq, read_eq, hobject, Document.record?, if_pos (Nat.le_of_eq h)]

theorem read_item {before after : List Document} (hf : part.fields[before.length]? = some f)
    (hd : f.content.read d = f.content.read d') :
    part.read (.list (before ++ d :: after)) = part.read (.list (before ++ d' :: after)) := by
  have hname : part.names[before.length]? = some f.name := by rw [names, List.getElem?_map, hf, Option.map_some]
  obtain ⟨first, last, hnames, hfirst⟩ :
      ∃ first last, part.names = first ++ f.name :: last ∧ first.length = before.length := by
    obtain ⟨hlt, hname⟩ := List.getElem?_eq_some_iff.1 hname
    refine ⟨part.names.take before.length, part.names.drop (before.length + 1), ?_, ?_⟩
    · rw [← hname, List.getElem_cons_drop, List.take_append_drop]
    · rw [List.length_take, Nat.min_eq_left (Nat.le_of_lt hlt)]
  -- order does not matter among members, so the one that changes may stand in front
  have hzip (d : Document) :
      (part.names.zip (before ++ d :: after)).Perm ((f.name, d) :: (first.zip before ++ last.zip after)) := by
    rw [hnames, List.zip_append hfirst, List.zip_cons_cons]
    exact List.perm_middle
  rw [read_eq, read_eq, Document.record?, Document.record?]
  simp only [List.length_append, List.length_cons]
  split
  · refine readFields_congr fun g hg => ?_
    rw [Field.read_perm (hzip d), Field.read_perm (hzip d')]
    exact read_cons_congr (List.mem_of_getElem? hf) List.mem_cons_self List.mem_cons_self hd g hg
  · rfl

end Part

/-! ## Respelled documents -/

theorem Content.read_parts {part : Part} {d d' : Document} (before after : List Document)
    (h : part.read d = part.read d') :
    (Content.parts part).read (.list (before ++ d :: after)) =
      (Content.parts part).read (.list (before ++ d' :: after)) := by
  show (before ++ d :: after).mapM part.read = (before ++ d' :: after).mapM part.read
  rw [List.mapM_append, List.mapM_append, List.mapM_cons, List.mapM_cons, h]

theorem Content.read_cleared {n : Numeral} (h : n.toData? = some (.int 0)) :
    flag.read (.bool false) = flag.read (.numeral n) := by
  show some false = Document.flag? (.numeral n)
  rw [Document.flag?, h]
  rfl

theorem Content.read_set {n : Numeral} {i : Int} (h : n.toData? = some (.int i)) (hfits : FitsSigned i) (hi : i ≠ 0) :
    flag.read (.bool true) = flag.read (.numeral n) := by
  show some true = Document.flag? (.numeral n)
  rw [Document.flag?, h]
  simp only
  rw [if_pos hfits.2, bne_iff_ne.2 hi]

mutual

/-- One change of spelling, anywhere in a record, does not change what is read. -/
theorem Part.read_respelled {part : Part} {d d' : Document} : part.Respelled d d' → part.read d = part.read d'
  | .order h => Part.read_order h
  | .unknown h => Part.read_unknown h
  | .default hf hd habsent => Part.read_default hf hd habsent
  | .otherName hf hname hname' => Part.read_member hf hname hname' rfl
  | .list h => Part.read_list h
  | .member hf hname h => Part.read_member hf hname hname (Content.read_respelled h)
  | .item _ _ hf h => Part.read_item hf (Content.read_respelled h)

theorem Content.read_respelled {content : Content} {d d' : Document} :
    content.Respelled d d' → content.read d = content.read d'
  | .cleared h => Content.read_cleared h
  | .set h hfits hi => Content.read_set h hfits hi
  | .parts before after h => Content.read_parts before after (Part.read_respelled h)

end

/-! ## Fields that are given twice -/

/-- A record, or one below it, gives a field twice, under the same name or under both of its names. -/
inductive Part.Repeats : Part → Document → Prop
  | here {part : Part} {f : Field} {name name' : String} {d d' : Document} {ms : List (Option String × Document)} :
      f ∈ part.fields → name ∈ f.spellings → name' ∈ f.spellings → [(some name, d), (some name', d')].Sublist ms →
        Part.Repeats part (.object ms)
  | member {part below : Part} {f : Field} {name : String} {ds : List Document} {d : Document}
      {ms : List (Option String × Document)} :
      f ∈ part.fields → f.content = .parts below → name ∈ f.spellings → (some name, .list ds) ∈ ms → d ∈ ds →
        Part.Repeats below d → Part.Repeats part (.object ms)
  | item {part below : Part} {f : Field} {items ds : List Document} {d : Document} {i : Nat} :
      part.fields[i]? = some f → f.content = .parts below → items[i]? = some (.list ds) → d ∈ ds →
        Part.Repeats below d → Part.Repeats part (.list items)

theorem filterMap_of_record? {fields : List String} {ms : List (Option String × Document)} {ns : List (String × Document)}
    (h : (Document.object ms).record? fields = some ns) : ms.filterMap (fun m => m.1.map (·, m.2)) = ns := by
  rw [record?_object] at h
  split at h
  · exact Option.some.inj h
  · cases h

namespace Field

variable {f : Field} {name name' : String} {d d' : Document} {ns : List (String × Document)}

theorem read_eq_none_of_sublist (hname : name ∈ f.spellings) (hname' : name' ∈ f.spellings)
    (h : [(name, d), (name', d')].Sublist ns) : f.read ns = none := by
  rw [read, member?_of_sublist hname hname' h]

theorem read_eq_none_of_mem (hname : name ∈ f.spellings) (hmem : (name, d) ∈ ns) (hd : f.content.read d = none) :
    f.read ns = none := by
  rw [read]
  rcases member?_of_mem hname hmem with h | h
  · rw [h]
  · rw [h]
    exact hd

end Field

theorem Content.read_eq_none {content : Content} {part : Part} {ds : List Document} {d : Document}
    (hcontent : content = .parts part) (hmem : d ∈ ds) (hd : part.read d = none) : content.read (.list ds) = none := by
  subst hcontent
  refine Option.eq_none_iff_forall_ne_some.2 fun rs hrs => ?_
  obtain ⟨r, _, hr⟩ := exists_of_mapM_left hrs hmem
  cases hd.symm.trans hr

namespace Part

theorem read_eq_none {part : Part} {f : Field} {d : Document} (hf : f ∈ part.fields)
    (h : ∀ ns, d.record? part.names = some ns → f.read ns = none) : part.read d = none := by
  rw [read_eq]
  cases hns : d.record? part.names with
  | none => rfl
  | some ns => exact readFields_eq_none hf (h ns hns)

/-- A record in which a field is given twice, or that has such a record below it, is not read. -/
theorem read_of_repeats {part : Part} {d : Document} (h : part.Repeats d) : part.read d = none := by
  induction h with
  | @here part f name name' d d' ms hf hname hname' hsub =>
    refine read_eq_none hf fun ns hns => ?_
    have hsub : [(name, d), (name', d')].Sublist ns := by
      rw [← filterMap_of_record? hns]
      exact hsub.filterMap fun m : Option String × Document => m.1.map (·, m.2)
    exact Field.read_eq_none_of_sublist hname hname' hsub
  | member hf hcontent hname hmem hd _ ih =>
    refine read_eq_none hf fun ns hns => ?_
    refine Field.read_eq_none_of_mem hname ?_ (Content.read_eq_none hcontent hd ih)
    rw [← filterMap_of_record? hns]
    exact List.mem_filterMap.2 ⟨_, hmem, rfl⟩
  | @item part below f items ds d i hf hcontent hitem hd _ ih =>
    refine read_eq_none (List.mem_of_getElem? hf) fun ns hns => ?_
    refine Field.read_eq_none_of_mem List.mem_cons_self ?_ (Content.read_eq_none hcontent hd ih)
    rw [Document.record?] at hns
    split at hns
    · cases hns
      have hname : part.names[i]? = some f.name := by rw [names, List.getElem?_map, hf, Option.map_some]
      exact List.mem_of_getElem? (List.getElem?_zip_eq_some.2 ⟨hname, hitem⟩)
    · cases hns

end Part

/-! ## Texts -/

variable {text text' : String} {d d' : Document}

theorem parse_eq (hd : Document.ofText? text = some d) (origin : String) :
    parse text origin = (Part.header.read d).elim (.error (.ofCause (.malformedHeader origin))) .ok := by
  rw [parse, hd, Option.bind_some]
  show (match Part.header.read d with | some h => Except.ok h | none => _) = _
  cases Part.header.read d <;> rfl

/--
**Spellings of header metadata.** Two texts whose documents differ by any number of changes of spelling, anywhere in
them, are read alike: as the same header, or neither as one. A text with a record that gives a field twice is read as no
header, wherever the record is.
-/
theorem parse_spelling :
    (∀ text text' d d', Document.ofText? text = some d → Document.ofText? text' = some d' →
      Relation.EqvGen Part.header.Respelled d d' → ∀ origin, parse text origin = parse text' origin) ∧
    ∀ text d, Document.ofText? text = some d → Part.header.Repeats d →
      ∀ origin, ∃ failure, parse text origin = .error failure ∧ failure.cause.code = "BG-ERR-IR-PARSE" := by
  constructor
  · intro text text' d d' hd hd' h origin
    rw [parse_eq hd, parse_eq hd', eq_of_eqvGen (fun _ _ h => Part.read_respelled h) h]
  · intro text d hd h origin
    rw [parse_eq hd, Part.read_of_repeats h]
    exact ⟨_, rfl, rfl⟩

/-- A function with a parameter that is a pointer by the given flag. -/
def flagged (flag : Document) : Document :=
  .object [(some "parameters", .list [.object [(some "pointer", flag), (some "raw_type", .text (some "int"))]]),
    (some "name", .text (some "f")), (some "rtnType", .text (some "int"))]

def seven : Document :=
  .numeral ⟨false, [7], [], none⟩

/-- A header with a flag, and the same with the flag as a number and a member that no one asks for. -/
def flaggedText : String :=
  "\x7b\"functions\":[\x7b\"parameters\":[\x7b\"pointer\":true,\"raw_type\":\"int\"\x7d],\"name\":\"f\",\"rtnType\":\"int\"\x7d]\x7d"

def respelledText : String :=
  "\x7b\"note\":[[]],\"functions\":[\x7b\"parameters\":[\x7b\"pointer\":7,\"raw_type\":\"int\"\x7d],"
    ++ "\"name\":\"f\",\"rtnType\":\"int\"\x7d]\x7d"

/-- A header with a function that has its return type under both names. -/
def repeatedText : String :=
  "\x7b\"functions\":[\x7b\"rtnType\":\"int\",\"rtn_type\":\"int\",\"name\":\"f\"\x7d]\x7d"

theorem respelled_flagged :
    Relation.EqvGen Part.header.Respelled (.object [(some "functions", .list [flagged (.bool true)])])
      (.object [(some "note", .list [.list []]), (some "functions", .list [flagged seven])]) := by
  have hset : Content.flag.Respelled (.bool true) seven := .set (i := 7) rfl (by decide) (by decide)
  have hparameter : Part.parameter.Respelled
      (.object [(some "pointer", .bool true), (some "raw_type", .text (some "int"))])
      (.object [(some "pointer", seven), (some "raw_type", .text (some "int"))]) :=
    .member (f := .pointer) (by simp [Part.fields]) List.mem_cons_self hset
  have hfunction : Part.function.Respelled (flagged (.bool true)) (flagged seven) :=
    .member (f := .parameters) (by simp [Part.fields]) List.mem_cons_self (.parts [] [] hparameter)
  have hheader : Part.header.Respelled (.object [(some "functions", .list [flagged (.bool true)])])
      (.object [(some "functions", .list [flagged seven])]) :=
    .member (f := .functions) (by simp [Part.fields]) List.mem_cons_self (.parts [] [] hfunction)
  have hnote : ∀ f ∈ Part.header.fields, "note" ∉ f.spellings := by
    simp [Part.fields, Field.spellings]
  exact .trans _ _ _ (.rel _ _ hheader) (.rel _ _ (.unknown hnote))

theorem repeats_returnType : Part.header.Repeats (.object [(some "functions", .list [.object
    [(some "rtnType", .text (some "int")), (some "rtn_type", .text (some "int")), (some "name", .text (some "f"))]])]) := by
  have hother : "rtn_type" ∈ Field.returnType.spellings := by simp [Field.spellings]
  refine .member (f := .functions) (by simp [Part.fields]) rfl List.mem_cons_self List.mem_cons_self List.mem_cons_self ?_
  exact .here (f := .returnType) (by simp [Part.fields]) List.mem_cons_self hother
    (.cons_cons _ (.cons_cons _ (List.nil_sublist _)))

theorem parse_respelledText :
    (∃ h, parse flaggedText "f.json" = .ok h ∧ parse respelledText "f.json" = .ok h) ∧
      ∃ failure, parse repeatedText "f.json" = .error failure ∧ failure.cause.code = "BG-ERR-IR-PARSE" := by
  constructor
  · obtain ⟨h, hok⟩ := exists_ok_of_isOk (x := parse flaggedText "f.json") (by decide +kernel)
    have hsame := parse_spelling.1 flaggedText respelledText _ _ rfl rfl respelled_flagged "f.json"
    exact ⟨h, hok, hsame ▸ hok⟩
  · exact parse_spelling.2 repeatedText _ rfl repeats_returnType "f.json"

end Bindings.Header
