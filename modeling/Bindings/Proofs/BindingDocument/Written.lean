import Bindings.BindingDocument.Reader
import Bindings.BindingDocument.Writer
import Bindings.Proofs.Header.Written

/-!
# Binding documents, written and read

Record by record, a document that writes a binding document is read as that binding document, but for values of free
shape that are `null`: they are absent when they are read.

* `BoundFunction.ofDocument?_of_writes`: so it is with a function,
* `BindingDocument.ofText?_of_isTextOf`: and with every text of a binding document.
-/

namespace Bindings

open Json Record

/-! ## Values of free shape -/

def HostEnumValue.nullAsAbsent (v : HostEnumValue) : HostEnumValue :=
  { v with value := Data.present v.value }

def HostEnum.nullAsAbsent (e : HostEnum) : HostEnum :=
  { e with values := e.values.map HostEnumValue.nullAsAbsent }

def BoundFunction.nullAsAbsent (f : BoundFunction) : BoundFunction :=
  { f with getter := Data.present f.getter, setter := Data.present f.setter }

/-- The binding document without the values of free shape that are `null`. -/
def BindingDocument.nullAsAbsent (b : BindingDocument) : BindingDocument :=
  { b with enums := b.enums.map HostEnum.nullAsAbsent, functions := b.functions.map BoundFunction.nullAsAbsent }

def HostEnum.HasJsonValues (e : HostEnum) : Prop :=
  ∀ v ∈ e.values, ∀ d ∈ v.value, d.IsJson

def BoundFunction.HasJsonHooks (f : BoundFunction) : Prop :=
  (∀ d ∈ f.getter, d.IsJson) ∧ ∀ d ∈ f.setter, d.IsJson

/-- All values of free shape are values as they are read. -/
structure BindingDocument.HasJsonValues (b : BindingDocument) : Prop where
  enums : ∀ e ∈ b.enums, e.HasJsonValues
  functions : ∀ f ∈ b.functions, f.HasJsonHooks

/-! ## Reading documents that write records -/

variable {d : Document}

theorem Json.Document.complete?_of_writes {vs : List (String × Data)} (h : d.Writes (.table vs)) :
    ∃ ns, (∀ fields, d.complete? fields = some ns) ∧ Document.Names ns vs := by
  obtain ⟨ns, hns, hnames⟩ := record?_of_writes h []
  cases h
  exact ⟨ns, fun _ => hns, hnames⟩

theorem Json.Document.bool?_of_writes {b : Bool} (h : d.Writes (.bool b)) : d.bool? = some b := by
  cases h
  rfl

theorem Json.Document.Names.nullable {α : Type} {ns : List (String × Document)} {vs : List (String × Data)}
    {read : Document → Option α} {toData : α → Data} {value : Option α} (h : Document.Names ns vs) (name : String)
    (hv : Record.member? [name] vs = some (some (.ofOption toData value))) (hne : ∀ a, toData a ≠ .null)
    (hread : ∀ a d, d.Writes (toData a) → read d = some a) : Record.nullable name read ns = some value :=
  h.optional [name] hv (fun _ => nullable?_of_writes hne hread) none

theorem Json.Document.Names.nullableText {ns : List (String × Document)} {vs : List (String × Data)}
    {value : Option String} (h : Document.Names ns vs) (name : String) (hv : Record.member? [name] vs = some (some (.ofOption .text value))) :
    Record.nullable name Document.text? ns = some value :=
  h.nullable name hv (fun _ => nofun) fun _ _ => text?_of_writes

theorem Json.Document.Names.nullableValue {ns : List (String × Document)} {vs : List (String × Data)}
    {value : Option Data} {depth : Nat} (h : Document.Names ns vs) (name : String)
    (hv : Record.member? [name] vs = some (some (.ofOption id value))) (hvalue : ∀ d ∈ value, d.IsJson)
    (hdepth : (Data.ofOption id value).depth ≤ depth) :
    Record.nullable name (Document.toData? depth) ns = some (Data.present value) :=
  h.optional [name] hv (fun _ => nullable?_of_writes_value hvalue hdepth) none

theorem HostEnumValue.ofDocument?_of_writes {v : HostEnumValue} (hv : ∀ d ∈ v.value, d.IsJson)
    (hdepth : (Data.ofOption id v.value).depth ≤ valueDepth) (h : d.Writes v.toData) :
    HostEnumValue.ofDocument? d = some v.nullAsAbsent := by
  obtain ⟨ns, hns, hnames⟩ := Document.complete?_of_writes h
  have hname := hnames.required ["name"] rfl fun _ => Document.text?_of_writes
  have hhost := hnames.required ["x_name"] rfl fun _ => Document.text?_of_writes
  have hvalue := hnames.nullableValue "value" rfl hv hdepth
  simp [HostEnumValue.ofDocument?, hns, hname, hhost, hvalue, nullAsAbsent]

theorem HostEnum.ofDocument?_of_writes {e : HostEnum} (he : e.HasJsonValues)
    (hdepth : ∀ v ∈ e.values, (Data.ofOption id v.value).depth ≤ valueDepth) (h : d.Writes e.toData) :
    HostEnum.ofDocument? d = some e.nullAsAbsent := by
  obtain ⟨ns, hns, hnames⟩ := Document.complete?_of_writes h
  have hname := hnames.required ["name"] rfl fun _ => Document.text?_of_writes
  have hvalues := hnames.required ["values"] rfl fun _ =>
    Document.list?_of_writes _ fun v hv _ => HostEnumValue.ofDocument?_of_writes (he v hv) (hdepth v hv)
  simp [HostEnum.ofDocument?, hns, hname, hvalues, nullAsAbsent]

theorem Direction.ofText?_text (x : Direction) : ofText? x.text = some x := by
  cases x <;> decide

theorem Direction.ofDocument?_of_writes {x : Direction} (h : d.Writes (.text x.text)) : ofDocument? d = some x := by
  cases h
  exact x.ofText?_text

theorem BoundParameter.ofDocument?_of_writes {p : BoundParameter} (h : d.Writes p.toData) :
    BoundParameter.ofDocument? d = some p := by
  obtain ⟨ns, hns, hnames⟩ := Document.complete?_of_writes h
  have hname := hnames.required ["name"] rfl fun _ => Document.text?_of_writes
  have hraw := hnames.required ["raw_type"] rfl fun _ => Document.text?_of_writes
  have hkind := hnames.required ["kind"] rfl fun _ => Direction.ofDocument?_of_writes
  have hpointer := hnames.required ["pointer"] rfl fun _ => Document.bool?_of_writes
  have harray := hnames.required ["array"] rfl fun _ => Document.bool?_of_writes
  have hsize := hnames.nullable "array_size" rfl ArraySize.toData_ne_null ArraySize.ofDocument?_of_writes
  have hdefault := hnames.nullableText "default" rfl
  have htype := hnames.required ["x_type"] rfl fun _ => Document.text?_of_writes
  have hcall := hnames.required ["x_callname"] rfl fun _ => Document.text?_of_writes
  have hhost := hnames.required ["x_pyann_type"] rfl fun _ => Document.text?_of_writes
  have hsignature := hnames.required ["x_pyann"] rfl fun _ => Document.text?_of_writes
  have hargument := hnames.required ["x_pyarg"] rfl fun _ => Document.text?_of_writes
  have hdeclaration := hnames.required ["x_decl"] rfl fun _ => Document.text?_of_writes
  rw [BoundParameter.ofDocument?, bind_of_eq_some (hns _), bind_of_eq_some hname, bind_of_eq_some hraw,
    bind_of_eq_some hkind, bind_of_eq_some hpointer, bind_of_eq_some harray, bind_of_eq_some hsize,
    bind_of_eq_some hdefault, bind_of_eq_some htype, bind_of_eq_some hcall, bind_of_eq_some hhost,
    bind_of_eq_some hsignature, bind_of_eq_some hargument, bind_of_eq_some hdeclaration]
  rfl

theorem ReturnValue.ofDocument?_of_writes {v : ReturnValue} (h : d.Writes v.toData) :
    ReturnValue.ofDocument? d = some v := by
  obtain ⟨ns, hns, hnames⟩ := Document.complete?_of_writes h
  have hname := hnames.required ["name"] rfl fun _ => Document.text?_of_writes
  have hraw := hnames.required ["raw_type"] rfl fun _ => Document.text?_of_writes
  have htype := hnames.required ["x_type"] rfl fun _ => Document.text?_of_writes
  have hhost := hnames.required ["x_pyann_type"] rfl fun _ => Document.text?_of_writes
  simp [ReturnValue.ofDocument?, hns, hname, hraw, htype, hhost]

theorem NativeParameter.toData_ne_null (p : NativeParameter) : p.toData ≠ .null := nofun

/-- Lists of records, and of texts, that come back as they are. -/
theorem Json.Document.list?_of_writes_same {α : Type} {read : Document → Option α} {toData : α → Data} {as : List α}
    (hread : ∀ a ∈ as, ∀ d : Document, d.Writes (toData a) → read d = some a) (h : d.Writes (.list (as.map toData))) :
    d.list? read = some as := by
  rw [list?_of_writes id hread h, List.map_id]

theorem BoundFunction.ofDocument?_of_writes {f : BoundFunction} (hf : f.HasJsonHooks)
    (hgetter : (Data.ofOption id f.getter).depth ≤ hookDepth) (hsetter : (Data.ofOption id f.setter).depth ≤ hookDepth)
    (h : d.Writes f.toData) : BoundFunction.ofDocument? d = some f.nullAsAbsent := by
  obtain ⟨ns, hns, hnames⟩ := Document.complete?_of_writes h
  have parameters {ps : List BoundParameter} {d : Document} (h : d.Writes (.list (ps.map BoundParameter.toData))) :
      d.list? BoundParameter.ofDocument? = some ps :=
    Document.list?_of_writes_same (fun _ _ _ => BoundParameter.ofDocument?_of_writes) h
  have texts {ss : List String} {d : Document} (h : d.Writes (.list (ss.map .text))) : d.list? Document.text? = some ss :=
    Document.list?_of_writes_same (fun _ _ _ => Document.text?_of_writes) h
  have hname := hnames.required ["name"] rfl fun _ => Document.text?_of_writes
  have hexposed := hnames.required ["x_name"] rfl fun _ => Document.text?_of_writes
  have hreturn := hnames.required ["rtn_type"] rfl fun _ => Document.text?_of_writes
  have hinstance := hnames.nullable "instance_param" rfl NativeParameter.toData_ne_null fun _ _ =>
    NativeParameter.ofDocument?_of_writes
  have hparameters := hnames.required ["params"] rfl fun _ => parameters
  have hinputs := hnames.required ["x_in_params"] rfl fun _ => parameters
  have houtputs := hnames.required ["x_out_params"] rfl fun _ => parameters
  have hreturns := hnames.required ["x_rets"] rfl fun _ =>
    Document.list?_of_writes_same fun _ _ _ => ReturnValue.ofDocument?_of_writes
  have hinput := hnames.required ["x_param_checks"] rfl fun _ => texts
  have houtput := hnames.required ["x_return_checks"] rfl fun _ => texts
  have hcall := hnames.required ["x_callstart"] rfl fun _ => Document.text?_of_writes
  have hstatement := hnames.required ["x_wrap_return"] rfl fun _ => Document.text?_of_writes
  have hwrapper := hnames.required ["x_wrap_return_type"] rfl fun _ => Document.text?_of_writes
  have hhost := hnames.required ["x_pyann_ret"] rfl fun _ => Document.text?_of_writes
  have htemporaries := hnames.required ["x_temprefs"] rfl fun _ => Document.text?_of_writes
  have hcomma := hnames.required ["args_comma"] rfl fun _ => Document.text?_of_writes
  have hinternal := hnames.required ["internal"] rfl fun _ => Document.bool?_of_writes
  have hrename := hnames.nullableText "rename" rfl
  have hhas := hnames.required ["has_code"] rfl fun _ => Document.bool?_of_writes
  have hcode := hnames.nullableText "code" rfl
  have hget := hnames.nullableValue "get" rfl hf.1 hgetter
  have hset := hnames.nullableValue "set" rfl hf.2 hsetter
  rw [BoundFunction.ofDocument?, bind_of_eq_some (hns _), bind_of_eq_some hname, bind_of_eq_some hexposed,
    bind_of_eq_some hreturn, bind_of_eq_some hinstance, bind_of_eq_some hparameters, bind_of_eq_some hinputs,
    bind_of_eq_some houtputs, bind_of_eq_some hreturns, bind_of_eq_some hinput, bind_of_eq_some houtput,
    bind_of_eq_some hcall, bind_of_eq_some hstatement, bind_of_eq_some hwrapper, bind_of_eq_some hhost,
    bind_of_eq_some htemporaries, bind_of_eq_some hcomma, bind_of_eq_some hinternal, bind_of_eq_some hrename,
    bind_of_eq_some hhas, bind_of_eq_some hcode, bind_of_eq_some hget, bind_of_eq_some hset]
  rfl

theorem BindingDocument.ofDocument?_of_writes {b : BindingDocument} (hb : b.HasJsonValues)
    (hvalues : ∀ e ∈ b.enums, ∀ v ∈ e.values, (Data.ofOption id v.value).depth ≤ valueDepth)
    (hhooks : ∀ f ∈ b.functions, (Data.ofOption id f.getter).depth ≤ hookDepth ∧
      (Data.ofOption id f.setter).depth ≤ hookDepth)
    (h : d.Writes b.toData) : BindingDocument.ofDocument? d = some b.nullAsAbsent := by
  obtain ⟨ns, hns, hnames⟩ := Document.complete?_of_writes h
  have hheader := hnames.required ["header"] rfl fun _ => Document.text?_of_writes
  have hmodule := hnames.nullableText "module_name" rfl
  have henums := hnames.required ["enums"] rfl fun _ =>
    Document.list?_of_writes _ fun e he _ => HostEnum.ofDocument?_of_writes (hb.enums e he) (hvalues e he)
  have hfunctions := hnames.required ["functions"] rfl fun _ => Document.list?_of_writes _ fun f hf _ =>
    BoundFunction.ofDocument?_of_writes (hb.functions f hf) (hhooks f hf).1 (hhooks f hf).2
  simp [BindingDocument.ofDocument?, hns, hheader, hmodule, henums, hfunctions, nullAsAbsent]

/-! ## Numbers that can be written -/

theorem HostEnum.all_inRange_toData {e : HostEnum} (he : e.HasJsonValues) : e.toData.all Data.inRange := by
  have hvalues : ∀ v ∈ e.values, v.toData.all Data.inRange := by
    intro v hv
    simp [HostEnumValue.toData, Data.inRange, Data.all_inRange_ofOption (he v hv)]
  simpa [toData, Data.inRange] using hvalues

theorem BoundParameter.all_inRange_toData (p : BoundParameter) : p.toData.all Data.inRange := by
  simp [toData, Data.inRange]

theorem ReturnValue.all_inRange_toData (v : ReturnValue) : v.toData.all Data.inRange := by
  simp [toData, Data.inRange]

theorem BoundFunction.all_inRange_toData {f : BoundFunction} (hf : f.HasJsonHooks) : f.toData.all Data.inRange := by
  have hinstance : (Data.ofOption NativeParameter.toData f.instanceParameter).all Data.inRange :=
    Data.all_ofOption rfl fun p _ => p.all_inRange_toData
  have hgetter := Data.all_inRange_ofOption hf.1
  have hsetter := Data.all_inRange_ofOption hf.2
  simp [toData, Data.inRange, hinstance, hgetter, hsetter, BoundParameter.all_inRange_toData,
    ReturnValue.all_inRange_toData]

/-! ## Texts of a binding document -/

namespace BindingDocument

variable {b : BindingDocument}

theorem all_inRange_toData (hb : b.HasJsonValues) : b.toData.all Data.inRange := by
  have henums : ∀ e ∈ b.enums, e.toData.all Data.inRange := fun e he => HostEnum.all_inRange_toData (hb.enums e he)
  have hfunctions : ∀ f ∈ b.functions, f.toData.all Data.inRange := fun f hf =>
    BoundFunction.all_inRange_toData (hb.functions f hf)
  simpa [toData, Data.inRange] using ⟨henums, hfunctions⟩

/-- Five containers enclose the number of an enum value. -/
theorem depth_value_le (hdepth : b.toData.depth < 128) :
    ∀ e ∈ b.enums, ∀ v ∈ e.values, (Data.ofOption id v.value).depth ≤ valueDepth := by
  intro e he v hv
  have henum := Data.depth_record_le (n := 125) (Nat.le_of_lt_succ hdepth) "enums" rfl he
  have hvalue := Data.depth_record_le (n := 123) henum "values" rfl hv
  exact Data.depth_member_le (n := 122) hvalue "value" rfl

/-- Three containers enclose a getter or a setter. -/
theorem depth_hooks_le (hdepth : b.toData.depth < 128) :
    ∀ f ∈ b.functions, (Data.ofOption id f.getter).depth ≤ hookDepth ∧ (Data.ofOption id f.setter).depth ≤ hookDepth := by
  intro f hf
  have hfunction := Data.depth_record_le (n := 125) (Nat.le_of_lt_succ hdepth) "functions" rfl hf
  exact ⟨Data.depth_member_le (n := 124) hfunction "get" rfl, Data.depth_member_le (n := 124) hfunction "set" rfl⟩

theorem ofText?_of_isTextOf (hb : b.HasJsonValues) (hdepth : b.toData.depth < 128) {text : String}
    (htext : IsTextOf text b.toData) : ofText? text = some b.nullAsAbsent := by
  obtain ⟨d, hd, hw⟩ := htext
  rw [ofText?, hd, Option.bind_some]
  exact ofDocument?_of_writes hb (depth_value_le hdepth) (depth_hooks_le hdepth) hw

theorem isTextOf_text (hb : b.HasJsonValues) (hfloat : b.toData.FloatFree) : IsTextOf b.text b.toData :=
  isTextOf_ofData (Data.all_isExact (all_inRange_toData hb) hfloat)

end BindingDocument

end Bindings
