import Bindings.Proofs.BindingDocument.Functions
import Bindings.Proofs.BindingDocument.Written
import Bindings.Proofs.Config.Reading

/-!
# Nothing is lost in a binding document

What is generated from a header and a configuration that have been read is read back from its text, with the one
exception that a getter or a setter of `null` comes back as none: this is what becomes of a number that is not finite.

* `Header.IsRead.values`, `HeaderConfig.IsRead.hooks`: what values of free shape are like when they have been read.
* `BindingDocument.IsGenerated.hasJsonValues`: binding keeps them as they are.
* `BindingDocument.read_text`: the text of a generated document says all of it.
-/

namespace Bindings

open Json Record

/-! ## What has been read -/

/-- A header that has been read; its name may have been given to it later. -/
def Header.IsRead (h : Header) : Prop :=
  ∃ text origin parsed name, parse text origin = .ok parsed ∧ h = { parsed with name := name }

/-- A configuration that has been read, or that of a header without one. -/
def HeaderConfig.IsRead (c : HeaderConfig) : Prop :=
  c = .empty ∨ ∃ text origin, parse text origin = .ok c

def FunctionConfig.HasJsonHooks (c : FunctionConfig) : Prop :=
  (∀ d ∈ c.getter, d.IsJson) ∧ ∀ d ∈ c.setter, d.IsJson

/-- A binding document that is generated from what has been read. -/
def BindingDocument.IsGenerated (b : BindingDocument) : Prop :=
  ∃ h c, h.IsRead ∧ c.IsRead ∧ (Header.generate h c).outcome = .ok b

theorem Json.Document.exists_of_list? {α : Type} {read : Document → Option α} {d : Document} {as : List α}
    (h : d.list? read = some as) {a : α} (ha : a ∈ as) : ∃ d, read d = some a := by
  cases d with
  | list items =>
    obtain ⟨d, _, hd⟩ := exists_of_mapM_right h ha
    exact ⟨d, hd⟩
  | _ => cases h

/-- Only `null` has the value `null`. -/
theorem Json.Document.eq_null_of_toData? {depth : Nat} {d : Document} (h : d.toData? depth = some .null) : d = .null := by
  cases d with
  | null => rfl
  | bool b => cases h
  | numeral n =>
    have h : n.toData? = some .null := h
    unfold Numeral.toData? at h
    simp only at h
    split at h
    · cases h
    · split at h
      · cases h
      · obtain ⟨x, _, hx⟩ := Option.map_eq_some_iff.1 h
        cases hx
  | text s =>
    obtain ⟨t, _, ht⟩ := Option.map_eq_some_iff.1 h
    cases ht
  | list items =>
    cases depth with
    | zero => cases h
    | succ depth =>
      obtain ⟨vs, _, hvs⟩ := Option.map_eq_some_iff.1 h
      cases hvs
  | object members =>
    cases depth with
    | zero => cases h
    | succ depth =>
      obtain ⟨vs, _, hvs⟩ := Option.map_eq_some_iff.1 h
      cases hvs

/-- A value of free shape is as it is read; it is not `null`, which says that it is absent. -/
theorem Json.Document.isJson_of_nullable? {depth : Nat} {d : Document} {value : Option Data}
    (h : d.nullable? (toData? depth) = some value) : ∀ v ∈ value, v.IsJson ∧ v ≠ .null := by
  rintro v rfl
  by_cases hd : d = .null
  · subst hd
    cases h
  · rw [nullable?_of_ne_null hd] at h
    obtain ⟨w, hw, h⟩ := Option.map_eq_some_iff.1 h
    cases h
    refine ⟨isJson_of_toData? hw, ?_⟩
    rintro rfl
    exact hd (eq_null_of_toData? hw)

theorem NativeEnumValue.value_of_ofDocument? {d : Document} {v : NativeEnumValue} (h : ofDocument? d = some v) :
    ∀ d ∈ v.value, d.IsJson ∧ d ≠ .null := by
  obtain ⟨members, _, h⟩ := Option.bind_eq_some_iff.1 h
  obtain ⟨name, _, h⟩ := Option.bind_eq_some_iff.1 h
  obtain ⟨value, hvalue, h⟩ := Option.bind_eq_some_iff.1 h
  cases h
  rcases exists_of_optional hvalue with rfl | ⟨m, _, _, hread⟩
  · exact fun d hd => absurd hd nofun
  · exact Document.isJson_of_nullable? hread

theorem NativeEnum.values_of_ofDocument? {d : Document} {e : NativeEnum} (h : ofDocument? d = some e) :
    ∀ v ∈ e.values, ∀ d ∈ v.value, d.IsJson ∧ d ≠ .null := by
  obtain ⟨members, _, h⟩ := Option.bind_eq_some_iff.1 h
  obtain ⟨name, _, h⟩ := Option.bind_eq_some_iff.1 h
  obtain ⟨values, hvalues, h⟩ := Option.bind_eq_some_iff.1 h
  cases h
  rcases exists_of_optional hvalues with rfl | ⟨m, _, _, hread⟩
  · exact List.forall_mem_nil _
  · intro v hv
    obtain ⟨d, hd⟩ := Document.exists_of_list? hread hv
    exact NativeEnumValue.value_of_ofDocument? hd

theorem Header.values_of_ofDocument? {d : Document} {h : Header} (hd : ofDocument? d = some h) :
    ∀ e ∈ h.enums, ∀ v ∈ e.values, ∀ d ∈ v.value, d.IsJson ∧ d ≠ .null := by
  obtain ⟨members, _, hd⟩ := Option.bind_eq_some_iff.1 hd
  obtain ⟨name, _, hd⟩ := Option.bind_eq_some_iff.1 hd
  obtain ⟨enums, henums, hd⟩ := Option.bind_eq_some_iff.1 hd
  obtain ⟨functions, _, hd⟩ := Option.bind_eq_some_iff.1 hd
  cases hd
  rcases exists_of_optional henums with rfl | ⟨m, _, _, hread⟩
  · exact List.forall_mem_nil _
  · intro e he
    obtain ⟨d, hd⟩ := Document.exists_of_list? hread he
    exact NativeEnum.values_of_ofDocument? hd

/-- The number of an enum value that has been read is never `null`. -/
theorem Header.IsRead.values {h : Header} (hh : h.IsRead) :
    ∀ e ∈ h.enums, ∀ v ∈ e.values, ∀ d ∈ v.value, d.IsJson ∧ d ≠ .null := by
  obtain ⟨text, origin, parsed, name, hparsed, rfl⟩ := hh
  unfold parse at hparsed
  split at hparsed
  · rename_i h' hd
    cases hparsed
    obtain ⟨d, _, hd⟩ := Option.bind_eq_some_iff.1 hd
    have hvalues := values_of_ofDocument? hd
    exact hvalues
  · cases hparsed

theorem FunctionConfig.Reflects.hasJsonHooks {d : Data} {c : FunctionConfig} (h : Reflects d c) (hd : d.IsToml) :
    c.HasJsonHooks := by
  have hook {name : String} {hook : Option Data} (hrel : Option.Rel Data.IsFinite (d.at? fieldNames name) hook) :
      ∀ v ∈ hook, v.IsJson := by
    intro v hv
    cases hv
    generalize hplace : d.at? fieldNames name = place at hrel
    cases hrel with
    | some hfinite =>
      rw [hfinite.eq_finite]
      exact (Data.isToml_of_at? hd hplace).isJson.finite
  exact ⟨hook h.getter, hook h.setter⟩

theorem HeaderConfig.IsRead.hooks {c : HeaderConfig} (hc : c.IsRead) (function : String) :
    (c.entry function).HasJsonHooks := by
  unfold entry
  cases hentry : c.functions.get? function with
  | none => exact ⟨nofun, nofun⟩
  | some entry =>
    rcases hc with rfl | ⟨text, origin, hparse⟩
    · cases hentry
    · obtain ⟨d, hd, hc⟩ := exists_of_parse hparse
      have hfunction := (reflects_of_ofData? (Toml.isToml_of_ofText? hd) hc).functions function
      rw [hentry] at hfunction
      generalize htree : d.functionTree function = tree at hfunction
      cases hfunction with
      | some hreflects => exact hreflects.hasJsonHooks (Data.isToml_of_functionTree (Toml.isToml_of_ofText? hd) htree)

/-! ## What is generated from it -/

/-- A bound function has the getter and the setter that are configured for it. -/
theorem NativeFunction.hooks_of_bindAs {f : NativeFunction} {exposed : String} {c : FunctionConfig} {b : BoundFunction}
    (h : f.bindAs exposed c = .ok b) : b.getter = c.getter ∧ b.setter = c.setter := by
  obtain ⟨parameters, pending, shape, _, _, _, rfl⟩ := exists_parts_of_bindAs h
  exact ⟨rfl, rfl⟩

namespace BindingDocument

variable {b : BindingDocument}

/-- The document without the getters and setters that are `null`. -/
def withoutNullHooks (b : BindingDocument) : BindingDocument :=
  { b with functions := b.functions.map BoundFunction.nullAsAbsent }

theorem IsGenerated.values (hb : b.IsGenerated) : ∀ e ∈ b.enums, ∀ v ∈ e.values, ∀ d ∈ v.value, d.IsJson ∧ d ≠ .null := by
  obtain ⟨h, c, hh, hc, hb⟩ := hb
  rw [((outcome_generate_eq_ok_iff h c).1 hb).2.2.1]
  refine List.forall_mem_map.2 fun e he => List.forall_mem_map.2 fun v hv => ?_
  exact hh.values e he v hv

theorem IsGenerated.hooks (hb : b.IsGenerated) : ∀ f ∈ b.functions, f.HasJsonHooks := by
  obtain ⟨h, c, hh, hc, hb⟩ := hb
  intro bound hbound
  obtain ⟨f, hf⟩ := exists_of_mem_transformAll ((outcome_generate_eq_ok_iff h c).1 hb).2.2.2 bound hbound
  obtain ⟨module, exposed, _, _, hbind⟩ := NativeFunction.outcome_transform_eq_some hf
  obtain ⟨hgetter, hsetter⟩ := NativeFunction.hooks_of_bindAs hbind
  rw [BoundFunction.HasJsonHooks, hgetter, hsetter]
  exact hc.hooks f.name

theorem IsGenerated.hasJsonValues (hb : b.IsGenerated) : b.HasJsonValues where
  enums e he v hv d hd := (hb.values e he v hv d hd).1
  functions := hb.hooks

theorem present_eq_self {value : Option Data} (h : ∀ d ∈ value, d ≠ .null) : Data.present value = value := by
  unfold Data.present
  split
  · exact absurd rfl (h _ rfl)
  · rfl

/-- Numbers of enum values are not `null`, so only getters and setters can be. -/
theorem IsGenerated.nullAsAbsent_eq (hb : b.IsGenerated) : b.nullAsAbsent = b.withoutNullHooks := by
  have hvalue : ∀ e ∈ b.enums, ∀ v ∈ e.values, v.nullAsAbsent = v := by
    intro e he v hv
    rw [HostEnumValue.nullAsAbsent, present_eq_self fun d hd => (hb.values e he v hv d hd).2]
  have henum : ∀ e ∈ b.enums, e.nullAsAbsent = e := by
    intro e he
    rw [HostEnum.nullAsAbsent, List.map_congr_left (hvalue e he), List.map_id']
  rw [nullAsAbsent, List.map_congr_left henum, List.map_id', withoutNullHooks]

/--
**Nothing is lost.** The text of a generated document is a text of its records, if these have no floating-point number
and nest at most 127 deep. It is read as the document itself, but for getters and setters of `null`, which are absent
after that; so two generated documents with the same text differ in no more than this.
-/
theorem read_text (hb : b.IsGenerated) (hfloat : b.toData.FloatFree) (hdepth : b.toData.depth < 128) :
    IsTextOf b.text b.toData ∧ ofText? b.text = some b.withoutNullHooks ∧
      ∀ b' : BindingDocument, b'.IsGenerated → b'.toData.FloatFree → b'.toData.depth < 128 → b'.text = b.text →
        b'.withoutNullHooks = b.withoutNullHooks := by
  have hread : ∀ {b : BindingDocument}, b.IsGenerated → b.toData.FloatFree → b.toData.depth < 128 →
      ofText? b.text = some b.withoutNullHooks := by
    intro b hb hfloat hdepth
    rw [ofText?_of_isTextOf hb.hasJsonValues hdepth (isTextOf_text hb.hasJsonValues hfloat), hb.nullAsAbsent_eq]
  refine ⟨isTextOf_text hb.hasJsonValues hfloat, hread hb hfloat hdepth, fun b' hb' hfloat' hdepth' htext => ?_⟩
  have hread' := hread hb' hfloat' hdepth'
  rw [htext, hread hb hfloat hdepth] at hread'
  exact (Option.some.inj hread').symm

/-- A header with an enum and a function. -/
def motorHeader : Header :=
  ⟨"Mot", [⟨"Mode", [⟨"Mode_Off", some (.int 0)⟩, ⟨"Mode_\"é\"", some (.list [.text "\t", .null])⟩]⟩],
    [⟨"c_Mot_Get", "void", [⟨"handle", "void *", false, false, none⟩, ⟨"xs", "int", false, true, some (.count 3)⟩]⟩]⟩

theorem isRead_motorHeader : motorHeader.IsRead := by
  have hvalues : motorHeader.HasJsonValues := by unfold Header.HasJsonValues; decide +kernel
  have hexact : motorHeader.toData.all Data.isExact := by decide +kernel
  have hparse := Header.parse_of_isTextOf hvalues (by decide +kernel) (isTextOf_ofData hexact) "Mot.json"
  exact ⟨_, _, motorHeader, "Mot", hparse, rfl⟩

/-- A configuration with a getter that is no number and a setter with several values. -/
def motorConfigText : String :=
  "module_name = \"Mot\"\n[functions.c_Mot_Get]\nget = nan\nset = [1, [\"a\\nb\"]]\n"

/-- There is a getter of `null`, and nothing that would keep the text from being read. -/
def hasNullGetter (b : BindingDocument) : Bool :=
  decide b.toData.FloatFree && decide (b.toData.depth < 128) &&
    b.functions.any fun f => f.getter matches some .null

theorem read_text_motor :
    ∃ b : BindingDocument, b.IsGenerated ∧ b.toData.FloatFree ∧ b.toData.depth < 128 ∧
      (b.functions.any fun f => f.getter matches some .null) ∧ ofText? b.text = some b.withoutNullHooks := by
  obtain ⟨c, hc, hgenerated⟩ := exists_ok_of_any (x := HeaderConfig.parse motorConfigText "Mot.toml")
    (p := fun c => (motorHeader.generate c).outcome.toOption.any hasNullGetter) (by decide +kernel)
  obtain ⟨b, hb, hnull⟩ := exists_ok_of_any (x := (motorHeader.generate c).outcome) (p := hasNullGetter) hgenerated
  simp only [hasNullGetter, Bool.and_eq_true, decide_eq_true_eq] at hnull
  obtain ⟨⟨hfloat, hdepth⟩, hnull⟩ := hnull
  have hgen : b.IsGenerated := ⟨motorHeader, c, isRead_motorHeader, .inr ⟨_, _, hc⟩, hb⟩
  exact ⟨b, hgen, hfloat, hdepth, hnull, (read_text hgen hfloat hdepth).2.1⟩

end BindingDocument

end Bindings
