import Bindings.Proofs.Json.Record

/-!
# Header metadata, written and read

A header is read back from any text that writes it, with the one exception that `null` says that an enum value has no
number, so that a number of `null` comes back as none.

* `Header.ofDocument?_of_writes`: a document that writes a header is read as that header, record by record.
* `Header.parse_written`: so is every text of it, and two headers with a common text are the same.
-/

namespace Bindings

open Json Record

/-! ## Numbers of enum values -/

def NativeEnumValue.nullAsAbsent (v : NativeEnumValue) : NativeEnumValue :=
  { v with value := Data.present v.value }

def NativeEnum.nullAsAbsent (e : NativeEnum) : NativeEnum :=
  { e with values := e.values.map NativeEnumValue.nullAsAbsent }

/-- The header with no number for every enum value whose number is `null`. -/
def Header.nullAsAbsent (h : Header) : Header :=
  { h with enums := h.enums.map NativeEnum.nullAsAbsent }

/-- The numbers of enum values, which are of free shape, are values as they are read. -/
def Header.HasJsonValues (h : Header) : Prop :=
  ∀ e ∈ h.enums, ∀ v ∈ e.values, ∀ d ∈ v.value, d.IsJson

/-! ## Reading documents that write records -/

variable {d : Document}

theorem NativeEnumValue.ofDocument?_of_writes {v : NativeEnumValue} (hv : ∀ d ∈ v.value, d.IsJson)
    (hdepth : (Data.ofOption id v.value).depth ≤ valueDepth) (h : d.Writes v.toData) :
    NativeEnumValue.ofDocument? d = some v.nullAsAbsent := by
  obtain ⟨ns, hns, hnames⟩ := Document.record?_of_writes h ["name", "value"]
  have hname := hnames.required ["name"] rfl fun _ => Document.text?_of_writes
  have hvalue := hnames.optional ["value"] rfl
    (fun _ => Document.nullable?_of_writes_value hv hdepth) none
  simp [NativeEnumValue.ofDocument?, hns, hname, hvalue, nullAsAbsent]

theorem NativeEnum.ofDocument?_of_writes {e : NativeEnum} (he : ∀ v ∈ e.values, ∀ d ∈ v.value, d.IsJson)
    (hdepth : ∀ v ∈ e.values, (Data.ofOption id v.value).depth ≤ valueDepth) (h : d.Writes e.toData) :
    NativeEnum.ofDocument? d = some e.nullAsAbsent := by
  obtain ⟨ns, hns, hnames⟩ := Document.record?_of_writes h ["name", "values"]
  have hname := hnames.required ["name"] rfl fun _ => Document.text?_of_writes
  have hvalues := hnames.optional ["values"] rfl
    (fun _ => Document.list?_of_writes _ fun v hv _ => NativeEnumValue.ofDocument?_of_writes (he v hv) (hdepth v hv)) []
  simp [NativeEnum.ofDocument?, hns, hname, hvalues, nullAsAbsent]

theorem NativeParameter.ofDocument?_of_writes {p : NativeParameter} (h : d.Writes p.toData) :
    NativeParameter.ofDocument? d = some p := by
  obtain ⟨ns, hns, hnames⟩ := Document.record?_of_writes h ["name", "raw_type", "pointer", "array", "array_size"]
  have hname := hnames.optional ["name"] rfl (fun _ => Document.text?_of_writes) ""
  have htype := hnames.required ["raw_type"] rfl fun _ => Document.text?_of_writes
  have hpointer := hnames.optional ["pointer"] rfl (fun _ => Document.flag?_of_writes) false
  have harray := hnames.optional ["array"] rfl (fun _ => Document.flag?_of_writes) false
  have hsize := hnames.optional ["array_size"] rfl
    (fun _ => Document.nullable?_of_writes ArraySize.toData_ne_null ArraySize.ofDocument?_of_writes) none
  simp [NativeParameter.ofDocument?, hns, hname, htype, hpointer, harray, hsize]

theorem NativeFunction.ofDocument?_of_writes {f : NativeFunction} (h : d.Writes f.toData) :
    NativeFunction.ofDocument? d = some f := by
  obtain ⟨ns, hns, hnames⟩ := Document.record?_of_writes h ["name", "rtnType", "parameters"]
  have hname := hnames.required ["name"] rfl fun _ => Document.text?_of_writes
  have htype := hnames.required ["rtnType", "rtn_type"] rfl fun _ => Document.text?_of_writes
  have hparameters := hnames.optional ["parameters"] rfl
    (fun _ => Document.list?_of_writes id fun p _ _ => NativeParameter.ofDocument?_of_writes (p := p)) []
  simp [NativeFunction.ofDocument?, hns, hname, htype, hparameters]

theorem Header.ofDocument?_of_writes {h : Header} (hvalues : h.HasJsonValues)
    (hdepth : ∀ e ∈ h.enums, ∀ v ∈ e.values, (Data.ofOption id v.value).depth ≤ valueDepth) (hd : d.Writes h.toData) :
    Header.ofDocument? d = some h.nullAsAbsent := by
  obtain ⟨ns, hns, hnames⟩ := Document.record?_of_writes hd ["name", "enums", "functions"]
  have hname := hnames.optional ["name"] rfl (fun _ => Document.text?_of_writes) ""
  have henums := hnames.optional ["enums"] rfl
    (fun _ => Document.list?_of_writes _ fun e he _ => NativeEnum.ofDocument?_of_writes (hvalues e he) (hdepth e he)) []
  have hfunctions := hnames.optional ["functions"] rfl
    (fun _ => Document.list?_of_writes id fun f _ _ => NativeFunction.ofDocument?_of_writes (f := f)) []
  simp [Header.ofDocument?, hns, hname, henums, hfunctions, nullAsAbsent]

/-! ## Texts of a header -/

theorem ArraySize.all_inRange_toData (size : ArraySize) : size.toData.all Data.inRange := by
  cases size with
  | count n => exact Data.all_inRange_count n.toNat_lt_size
  | symbol name => rfl

@[simp] theorem ArraySize.all_inRange_ofOption (size : Option ArraySize) :
    (Data.ofOption ArraySize.toData size).all Data.inRange :=
  Data.all_ofOption rfl fun size _ => size.all_inRange_toData

theorem NativeParameter.all_inRange_toData (p : NativeParameter) : p.toData.all Data.inRange := by
  simp [toData, Data.inRange]

theorem NativeFunction.all_inRange_toData (f : NativeFunction) : f.toData.all Data.inRange := by
  have hparameters : ∀ p ∈ f.parameters, p.toData.all Data.inRange := fun p _ => p.all_inRange_toData
  simpa [toData, Data.inRange] using hparameters

theorem NativeEnumValue.all_inRange_toData {v : NativeEnumValue} (hv : ∀ d ∈ v.value, d.IsJson) :
    v.toData.all Data.inRange := by
  simp [toData, Data.inRange, Data.all_inRange_ofOption hv]

theorem NativeEnum.all_inRange_toData {e : NativeEnum} (he : ∀ v ∈ e.values, ∀ d ∈ v.value, d.IsJson) :
    e.toData.all Data.inRange := by
  have hvalues : ∀ v ∈ e.values, v.toData.all Data.inRange := fun v hv => NativeEnumValue.all_inRange_toData (he v hv)
  simpa [toData, Data.inRange] using hvalues

namespace Header

variable {h : Header}

theorem all_inRange_toData (hvalues : h.HasJsonValues) : h.toData.all Data.inRange := by
  have henums : ∀ e ∈ h.enums, e.toData.all Data.inRange := fun e he => NativeEnum.all_inRange_toData (hvalues e he)
  have hfunctions : ∀ f ∈ h.functions, f.toData.all Data.inRange := fun f _ => f.all_inRange_toData
  simpa [toData, Data.inRange] using ⟨henums, hfunctions⟩

/-- Five containers enclose the number of an enum value. -/
theorem depth_value_le (hdepth : h.toData.depth < 128) :
    ∀ e ∈ h.enums, ∀ v ∈ e.values, (Data.ofOption id v.value).depth ≤ valueDepth := by
  intro e he v hv
  have henum := Data.depth_record_le (n := 125) (Nat.le_of_lt_succ hdepth) "enums" rfl he
  have hvalue := Data.depth_record_le (n := 123) henum "values" rfl hv
  exact Data.depth_member_le (n := 122) hvalue "value" rfl

theorem parse_of_isTextOf (hvalues : h.HasJsonValues) (hdepth : h.toData.depth < 128) {text : String}
    (htext : IsTextOf text h.toData) (origin : String) : parse text origin = .ok h.nullAsAbsent := by
  obtain ⟨d, hd, hw⟩ := htext
  rw [parse, hd, Option.bind_some, ofDocument?_of_writes hvalues (depth_value_le hdepth) hw]

/--
**Header metadata, written and read.** A header whose enum values have any numbers but floating-point ones, and whose
containers nest at most 127 deep, has a text. Every text of it is read as the header itself, but for a number of `null`,
which is absent after that; so two headers with a common text differ in no more than this.
-/
theorem parse_written (hvalues : h.HasJsonValues) (hfloat : h.toData.FloatFree) (hdepth : h.toData.depth < 128) :
    IsTextOf (ofData h.toData) h.toData ∧
      ∀ text, IsTextOf text h.toData →
        (∀ origin, parse text origin = .ok h.nullAsAbsent) ∧
        ∀ h' : Header, h'.HasJsonValues → h'.toData.depth < 128 → IsTextOf text h'.toData →
          h'.nullAsAbsent = h.nullAsAbsent := by
  refine ⟨isTextOf_ofData (Data.all_isExact (all_inRange_toData hvalues) hfloat), fun text htext => ?_⟩
  have hparse := parse_of_isTextOf hvalues hdepth htext
  refine ⟨hparse, fun h' hvalues' hdepth' htext' => ?_⟩
  have hparse' := parse_of_isTextOf hvalues' hdepth' htext' ""
  rw [hparse] at hparse'
  exact (Except.ok.inj hparse').symm

/-- A header with numbers of several shapes and at the limits, a text to be escaped, and both kinds of lengths. -/
def ofModes : Header where
  name := "modes"
  enums := [⟨"Mode", [⟨"Mode_Off", some .null⟩, ⟨"Mode_On", some (.int 18446744073709551615)⟩,
    ⟨"Mode_Auto", some (.table [("a\n\"b\"", .list [.int (-9223372036854775808), .null]), ("é", .text "\\")])⟩]⟩]
  functions := [⟨"c_Motor_Set", "void", [⟨"", "int", true, false, none⟩, ⟨"xs", "double", false, true, some (.count 3)⟩,
    ⟨"ys", "double", false, true, some (.symbol "N")⟩]⟩]

theorem parse_ofModes :
    parse (ofData ofModes.toData) "modes.json" = .ok
      { ofModes with enums := [⟨"Mode", [⟨"Mode_Off", none⟩, ⟨"Mode_On", some (.int 18446744073709551615)⟩,
        ⟨"Mode_Auto", some (.table [("a\n\"b\"", .list [.int (-9223372036854775808), .null]), ("é", .text "\\")])⟩]⟩] } := by
  have hvalues : ofModes.HasJsonValues := by unfold HasJsonValues; decide +kernel
  obtain ⟨htext, hread⟩ := parse_written hvalues (by decide +kernel) (by decide +kernel)
  exact (hread _ htext).1 "modes.json"

end Header

end Bindings
