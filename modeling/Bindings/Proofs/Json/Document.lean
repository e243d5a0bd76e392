import Bindings.Json.Document
import Bindings.Proofs.Data
import Bindings.Proofs.Json.Token

/-!
# Reading written documents

A document consists of tokens, from which it is read back; a document writes a value if it has its shape, with members
in the same order and any numeral for an integer.

* `steps_tokens`: reading the tokens of a document gives the document, whatever is open around it.
* `toData?_of_writes`: the value of a document that writes a value.
* `isTextOf_ofData`: the rendered text of a value without floating-point numbers is a document that writes it.
* `isJson_of_toData?`: integers that are read have 64 bits, and tables are in order.
-/

namespace Bindings.Json

namespace Document

/-! ## Tokens -/

section Induction

variable {motive : Document → Prop}

mutual

/-- A property that passes from the parts of a list or an object to the whole holds of every document. -/
theorem ind (null : motive .null) (bool : ∀ b, motive (.bool b)) (numeral : ∀ n, motive (.numeral n))
    (text : ∀ s, motive (.text s)) (list : ∀ items, (∀ d ∈ items, motive d) → motive (.list items))
    (object : ∀ members, (∀ m ∈ members, motive m.2) → motive (.object members)) : ∀ d, motive d
  | .null => null
  | .bool b => bool b
  | .numeral n => numeral n
  | .text s => text s
  | .list items => list items (indItems null bool numeral text list object items)
  | .object members => object members (indMembers null bool numeral text list object members)

theorem indItems (null : motive .null) (bool : ∀ b, motive (.bool b)) (numeral : ∀ n, motive (.numeral n))
    (text : ∀ s, motive (.text s)) (list : ∀ items, (∀ d ∈ items, motive d) → motive (.list items))
    (object : ∀ members, (∀ m ∈ members, motive m.2) → motive (.object members)) :
    ∀ items : List Document, ∀ d ∈ items, motive d
  | [] => nofun
  | d :: ds => List.forall_mem_cons.2
      ⟨ind null bool numeral text list object d, indItems null bool numeral text list object ds⟩

theorem indMembers (null : motive .null) (bool : ∀ b, motive (.bool b)) (numeral : ∀ n, motive (.numeral n))
    (text : ∀ s, motive (.text s)) (list : ∀ items, (∀ d ∈ items, motive d) → motive (.list items))
    (object : ∀ members, (∀ m ∈ members, motive m.2) → motive (.object members)) :
    ∀ members : List (Option String × Document), ∀ m ∈ members, motive m.2
  | [] => nofun
  | (_, d) :: ms => List.forall_mem_cons.2
      ⟨ind null bool numeral text list object d, indMembers null bool numeral text list object ms⟩

end

end Induction

mutual

/-- The tokens that a document consists of. -/
def tokens : Document → List Token
  | .null => [.null]
  | .bool b => [.bool b]
  | .numeral n => [.numeral n]
  | .text s => [.text s]
  | .list [] => [.openList, .closeList]
  | .list (d :: ds) => .openList :: (tokens d ++ tokensOfItems ds ++ [.closeList])
  | .object [] => [.openObject, .closeObject]
  | .object ((name, d) :: ms) =>
    .openObject :: .text name :: .colon :: (tokens d ++ tokensOfMembers ms ++ [.closeObject])

/-- The tokens of the items after the first. -/
def tokensOfItems : List Document → List Token
  | [] => []
  | d :: ds => .comma :: (tokens d ++ tokensOfItems ds)

/-- The tokens of the members after the first. -/
def tokensOfMembers : List (Option String × Document) → List Token
  | [] => []
  | (name, d) :: ms => .comma :: .text name :: .colon :: (tokens d ++ tokensOfMembers ms)

end

/-- Reading the tokens of a document in place of a value leaves the document as read. -/
def ReadsBack (d : Document) : Prop :=
  ∀ frames ts, steps ⟨frames, .value⟩ (d.tokens ++ ts) = steps ⟨frames, .after d⟩ ts

theorem steps_item {d : Document} (hd : ReadsBack d) (frames : List Frame) (ts : List Token) :
    steps ⟨frames, .item⟩ (d.tokens ++ ts) = steps ⟨.list [] :: frames, .after d⟩ ts := by
  rw [← hd]
  -- an end of the list may stand here, too, but no document starts with one
  cases d with
  | list items => cases items <;> simp [tokens, steps, step]
  | object members => cases members <;> simp [tokens, steps, step]
  | _ => simp [tokens, steps, step]

theorem steps_tokensOfItems {ds : List Document} (hds : ∀ d ∈ ds, ReadsBack d) (frames : List Frame)
    (read : List Document) (first : Document) (ts : List Token) :
    steps ⟨.list read :: frames, .after first⟩ (tokensOfItems ds ++ .closeList :: ts) =
      steps ⟨frames, .after (.list (read.reverse ++ first :: ds))⟩ ts := by
  induction ds generalizing read first with
  | nil => simp [tokensOfItems, steps, step, endValue]
  | cons d ds ih =>
    have hd : ReadsBack d := hds d List.mem_cons_self
    rw [tokensOfItems, List.cons_append, steps]
    simp only [step, endValue]
    rw [List.append_assoc, hd, ih fun d' hd' => hds d' (List.mem_cons_of_mem _ hd')]
    simp

theorem steps_tokensOfMembers {ms : List (Option String × Document)} (hms : ∀ m ∈ ms, ReadsBack m.2)
    (frames : List Frame) (read : List (Option String × Document)) (name : Option String) (first : Document)
    (ts : List Token) :
    steps ⟨.object read name :: frames, .after first⟩ (tokensOfMembers ms ++ .closeObject :: ts) =
      steps ⟨frames, .after (.object (read.reverse ++ (name, first) :: ms))⟩ ts := by
  induction ms generalizing read name first with
  | nil => simp [tokensOfMembers, steps, step, endValue]
  | cons m ms ih =>
    obtain ⟨name', d⟩ := m
    have hd : ReadsBack d := hms _ List.mem_cons_self
    rw [tokensOfMembers, List.cons_append, List.cons_append, List.cons_append, steps]
    simp only [step, endValue, steps]
    rw [List.append_assoc, hd, ih fun m hm => hms m (List.mem_cons_of_mem _ hm)]
    simp

theorem steps_tokens (d : Document) : ReadsBack d := by
  induction d using ind with
  | null => exact fun _ _ => rfl
  | bool b => exact fun _ _ => rfl
  | numeral n => exact fun _ _ => rfl
  | text s => exact fun _ _ => rfl
  | list items ih =>
    intro frames ts
    cases items with
    | nil => rfl
    | cons d ds =>
      have hd : ReadsBack d := ih d List.mem_cons_self
      rw [tokens, List.cons_append, steps]
      simp only [step, startValue]
      rw [List.append_assoc, List.append_assoc, steps_item hd, List.singleton_append,
        steps_tokensOfItems fun d' hd' => ih d' (List.mem_cons_of_mem _ hd')]
      rfl
  | object members ih =>
    intro frames ts
    cases members with
    | nil => rfl
    | cons m ms =>
      obtain ⟨name, d⟩ := m
      have hd : ReadsBack d := ih _ List.mem_cons_self
      rw [tokens, List.cons_append, List.cons_append, List.cons_append, steps]
      simp only [step, startValue, steps]
      rw [List.append_assoc, List.append_assoc, hd, List.singleton_append,
        steps_tokensOfMembers fun m hm => ih m (List.mem_cons_of_mem _ hm)]
      rfl

theorem ofText?_of_scans {s : String} {d : Document} (h : Token.Scans s.toList d.tokens []) : ofText? s = some d := by
  have hread := steps_tokens d [] []
  rw [List.append_nil] at hread
  rw [ofText?, Token.ofText?_of_scans h, Option.bind_some, hread, steps]

/-! ## Documents that write a value -/

mutual

/-- A document has the shape of a value without floating-point numbers. -/
inductive Writes : Document → Data → Prop
  | null : Writes .null .null
  | bool (b : Bool) : Writes (.bool b) (.bool b)
  | int {n : Numeral} {i : Int} : n.toData? = some (.int i) → Writes (.numeral n) (.int i)
  | text (s : String) : Writes (.text (some s)) (.text s)
  | list {ds : List Document} {vs : List Data} : WritesItems ds vs → Writes (.list ds) (.list vs)
  | table {ms : List (Option String × Document)} {vs : List (String × Data)} :
      WritesMembers ms vs → Writes (.object ms) (.table vs)

inductive WritesItems : List Document → List Data → Prop
  | nil : WritesItems [] []
  | cons {d : Document} {v : Data} {ds : List Document} {vs : List Data} :
      Writes d v → WritesItems ds vs → WritesItems (d :: ds) (v :: vs)

inductive WritesMembers : List (Option String × Document) → List (String × Data) → Prop
  | nil : WritesMembers [] []
  | cons {name : String} {d : Document} {v : Data} {ms : List (Option String × Document)}
      {vs : List (String × Data)} :
      Writes d v → WritesMembers ms vs → WritesMembers ((some name, d) :: ms) ((name, v) :: vs)

end

section Values

variable {depth : Nat}

theorem itemsToData?_of_writes {vs : List Data} (hvs : ∀ v ∈ vs, ∀ d : Document, d.Writes v → d.toData? depth = some v)
    {ds : List Document} (h : WritesItems ds vs) : itemsToData? depth ds = some vs := by
  induction vs generalizing ds with
  | nil =>
    cases h
    rfl
  | cons v vs ih =>
    cases h with
    | cons hd h =>
      have hv := hvs v List.mem_cons_self _ hd
      rw [itemsToData?, hv, ih (fun v hv => hvs v (List.mem_cons_of_mem _ hv)) h]

theorem membersToData?_of_writes {vs : List (String × Data)}
    (hvs : ∀ v ∈ vs, ∀ d : Document, d.Writes v.2 → d.toData? depth = some v.2)
    {ms : List (Option String × Document)} (h : WritesMembers ms vs) : membersToData? depth ms = some vs := by
  induction vs generalizing ms with
  | nil =>
    cases h
    rfl
  | cons v vs ih =>
    cases h with
    | @cons name _ v _ _ hd h =>
      have hv : toData? depth _ = some v := hvs (name, v) List.mem_cons_self _ hd
      have hms := ih (fun v hv => hvs v (List.mem_cons_of_mem _ hv)) h
      simp only [membersToData?, hv, hms]

/-- A document that writes a value has this value, if it may nest that deep. -/
theorem toData?_of_writes {v : Data} (hv : v.IsJson) (hdepth : v.depth ≤ depth) {d : Document} (h : d.Writes v) :
    d.toData? depth = some v := by
  induction v using Data.ind generalizing depth d with
  | scalar v hl ht =>
    cases h with
    | null => rfl
    | bool b => rfl
    | int hn => exact hn
    | text s => rfl
    | list h => exact absurd rfl (hl _)
    | table h => exact absurd rfl (ht _)
  | list vs ih =>
    cases h with
    | @list ds _ h =>
      cases depth with
      | zero => simp [Data.depth] at hdepth
      | succ depth =>
        have hvs := Data.isJson_list.1 hv
        have hdepths := Data.depth_list_le_iff.1 hdepth
        rw [toData?, itemsToData?_of_writes (fun v hv d hd => ih v hv (hvs v hv) (hdepths v hv) hd) h, Option.map_some]
  | table vs ih =>
    cases h with
    | @table ms _ h =>
      cases depth with
      | zero => simp [Data.depth] at hdepth
      | succ depth =>
        obtain ⟨hordered, hvs⟩ := Data.isJson_table.1 hv
        have hdepths := Data.depth_table_le_iff.1 hdepth
        rw [toData?, membersToData?_of_writes (fun v hv d hd => ih v hv (hvs v hv) (hdepths v hv) hd) h, Option.map_some,
          Data.object_of_ordered hordered]

end Values

/-! ## Values that are read -/

theorem isJson_of_numeral {n : Numeral} {v : Data} (h : n.toData? = some v) : v.IsJson := by
  unfold Numeral.toData? at h
  simp only [Bool.and_eq_true, decide_eq_true_eq, Bool.not_eq_true'] at h
  split at h
  · rename_i hn
    cases h
    simp only [Data.IsJson, Data.all, Data.inRange, Data.isOrdered, Bool.and_true, decide_eq_true_eq]
    omega
  · split at h
    · rename_i hn
      cases h
      simp only [Data.IsJson, Data.all, Data.inRange, Data.isOrdered, Bool.and_true, decide_eq_true_eq]
      omega
    · obtain ⟨x, _, rfl⟩ := Option.map_eq_some_iff.1 h
      rfl

theorem isJson_of_itemsToData? {depth : Nat} {ds : List Document}
    (hds : ∀ d ∈ ds, ∀ v, d.toData? depth = some v → v.IsJson) {vs : List Data} (h : itemsToData? depth ds = some vs) :
    ∀ v ∈ vs, v.IsJson := by
  induction ds generalizing vs with
  | nil =>
    cases h
    exact List.forall_mem_nil _
  | cons d ds ih =>
    unfold itemsToData? at h
    split at h
    · rename_i v vs' hv hvs
      cases h
      exact List.forall_mem_cons.2 ⟨hds d List.mem_cons_self v hv, ih (fun d hd => hds d (List.mem_cons_of_mem _ hd)) hvs⟩
    · cases h

theorem isJson_of_membersToData? {depth : Nat} {ms : List (Option String × Document)}
    (hms : ∀ m ∈ ms, ∀ v, m.2.toData? depth = some v → v.IsJson) {vs : List (String × Data)}
    (h : membersToData? depth ms = some vs) : ∀ v ∈ vs, v.2.IsJson := by
  induction ms generalizing vs with
  | nil =>
    cases h
    exact List.forall_mem_nil _
  | cons m ms ih =>
    obtain ⟨name, d⟩ := m
    unfold membersToData? at h
    split at h
    · rename_i v vs' hv hvs
      cases h
      exact List.forall_mem_cons.2 ⟨hms _ List.mem_cons_self v hv, ih (fun m hm => hms m (List.mem_cons_of_mem _ hm)) hvs⟩
    · cases h

theorem isJson_of_toData? {depth : Nat} {d : Document} {v : Data} (h : d.toData? depth = some v) : v.IsJson := by
  induction d using ind generalizing depth v with
  | null =>
    cases h
    rfl
  | bool b =>
    cases h
    rfl
  | numeral n => exact isJson_of_numeral h
  | text s =>
    obtain ⟨s, _, rfl⟩ := Option.map_eq_some_iff.1 h
    rfl
  | list items ih =>
    cases depth with
    | zero => cases h
    | succ depth =>
      obtain ⟨vs, hvs, rfl⟩ := Option.map_eq_some_iff.1 h
      exact Data.isJson_list.2 (isJson_of_itemsToData? (fun d hd v hv => ih d hd hv) hvs)
  | object members ih =>
    cases depth with
    | zero => cases h
    | succ depth =>
      obtain ⟨vs, hvs, rfl⟩ := Option.map_eq_some_iff.1 h
      exact Data.isJson_object (isJson_of_membersToData? (fun m hm v hv => ih m hm hv) hvs)

end Document

/-! ## Written values -/

/-- A value is written wherever a value may stand, by the text that is rendered at any level. -/
def Rendered (v : Data) : Prop :=
  ∃ d : Document, d.Writes v ∧
    ∀ level rest, EndsValue rest → Token.Scans (render level v ++ rest) d.tokens rest

theorem endsValue_comma (cs : List Char) : EndsValue (',' :: cs) := by
  rintro c h
  exact .inl (Option.some.inj h).symm

theorem endsValue_newLine (level : Nat) (cs : List Char) : EndsValue (newLine level ++ cs) := by
  rintro c h
  exact .inr (Option.some.inj h).symm

theorem endsValue_renderItems {level : Nat} {vs : List Data} {rest : List Char} (h : EndsValue rest) :
    EndsValue (renderItems level vs ++ rest) := by
  cases vs with
  | nil => exact h
  | cons v vs => exact endsValue_comma _

theorem endsValue_renderMembers {level : Nat} {vs : List (String × Data)} {rest : List Char} (h : EndsValue rest) :
    EndsValue (renderMembers level vs ++ rest) := by
  cases vs with
  | nil => exact h
  | cons v vs => exact endsValue_comma _

theorem exists_items {vs : List Data} (hvs : ∀ v ∈ vs, Rendered v) :
    ∃ ds, Document.WritesItems ds vs ∧
      ∀ level rest, EndsValue rest → Token.Scans (renderItems level vs ++ rest) (Document.tokensOfItems ds) rest := by
  induction vs with
  | nil => exact ⟨[], .nil, fun _ _ _ => .nil _⟩
  | cons v vs ih =>
    obtain ⟨d, hd, hscan⟩ := hvs v List.mem_cons_self
    obtain ⟨ds, hds, hscans⟩ := ih fun v hv => hvs v (List.mem_cons_of_mem _ hv)
    refine ⟨d :: ds, .cons hd hds, fun level rest hrest => ?_⟩
    simp only [renderItems, List.append_assoc, List.cons_append]
    refine .cons rfl (.newLine level ?_)
    exact (hscan level _ (endsValue_renderItems hrest)).append (hscans level rest hrest)

/-- The name of a member, and the colon after it. -/
theorem scans_name (name : String) {cs rest : List Char} {ts : List Token} (h : Token.Scans cs ts rest) :
    Token.Scans (text name ++ ([':', ' '] ++ cs)) (.text (some name) :: .colon :: ts) rest :=
  .cons (first_text name _) (.cons rfl (.blank rfl h))

theorem exists_members {vs : List (String × Data)} (hvs : ∀ v ∈ vs, Rendered v.2) :
    ∃ ms, Document.WritesMembers ms vs ∧ ∀ level rest, EndsValue rest →
      Token.Scans (renderMembers level vs ++ rest) (Document.tokensOfMembers ms) rest := by
  induction vs with
  | nil => exact ⟨[], .nil, fun _ _ _ => .nil _⟩
  | cons v vs ih =>
    obtain ⟨name, v⟩ := v
    obtain ⟨d, hd, hscan⟩ := hvs _ List.mem_cons_self
    obtain ⟨ms, hms, hscans⟩ := ih fun v hv => hvs v (List.mem_cons_of_mem _ hv)
    refine ⟨(some name, d) :: ms, .cons hd hms, fun level rest hrest => ?_⟩
    simp only [renderMembers, List.append_assoc, List.cons_append]
    refine .cons rfl (.newLine level (scans_name name ?_))
    exact (hscan level _ (endsValue_renderMembers hrest)).append (hscans level rest hrest)

theorem rendered_of_exact {v : Data} (hv : v.all Data.isExact) : Rendered v := by
  induction v using Data.ind with
  | scalar v hl ht =>
    cases v with
    | null => exact ⟨.null, .null, fun _ _ _ => .cons rfl (.nil _)⟩
    | bool b => exact ⟨.bool b, .bool b, fun _ _ _ => by cases b <;> exact .cons rfl (.nil _)⟩
    | int i =>
      have hi : -signedLimit ≤ i ∧ i < unsignedLimit := by
        simpa [Data.all, Data.isExact, Data.inRange, Data.isFloat] using hv
      exact ⟨.numeral (.ofInt i), .int (Numeral.toData?_ofInt hi.1 hi.2),
        fun _ _ hrest => .cons (first_integer i hrest) (.nil _)⟩
    | float x => simp [Data.all, Data.isExact, Data.isFloat] at hv
    | text s => exact ⟨.text (some s), .text s, fun _ _ _ => .cons (first_text s _) (.nil _)⟩
    | list vs => exact absurd rfl (hl vs)
    | table vs => exact absurd rfl (ht vs)
  | list vs ih =>
    have hvs := (Data.all_list.1 hv).2
    cases vs with
    | nil => exact ⟨.list [], .list .nil, fun _ _ _ => .cons rfl (.cons rfl (.nil _))⟩
    | cons v vs =>
      obtain ⟨d, hd, hscan⟩ := ih v List.mem_cons_self (hvs v List.mem_cons_self)
      obtain ⟨ds, hds, hscans⟩ := exists_items fun v hv =>
        ih v (List.mem_cons_of_mem _ hv) (hvs v (List.mem_cons_of_mem _ hv))
      refine ⟨.list (d :: ds), .list (.cons hd hds), fun level rest hrest => ?_⟩
      simp only [render, Document.tokens, List.append_assoc, List.cons_append]
      refine .cons rfl (.newLine _ ?_)
      have hend := endsValue_newLine level (']' :: rest)
      refine (hscan _ _ (endsValue_renderItems hend)).append ((hscans _ _ hend).append (.newLine level ?_))
      exact .cons rfl (.nil _)
  | table vs ih =>
    have hvs := (Data.all_table.1 hv).2
    cases vs with
    | nil => exact ⟨.object [], .table .nil, fun _ _ _ => .cons rfl (.cons rfl (.nil _))⟩
    | cons v vs =>
      obtain ⟨name, v⟩ := v
      obtain ⟨d, hd, hscan⟩ := ih _ List.mem_cons_self (hvs _ List.mem_cons_self)
      obtain ⟨ms, hms, hscans⟩ := exists_members fun v hv =>
        ih v (List.mem_cons_of_mem _ hv) (hvs v (List.mem_cons_of_mem _ hv))
      refine ⟨.object ((some name, d) :: ms), .table (.cons hd hms), fun level rest hrest => ?_⟩
      simp only [render, Document.tokens, List.append_assoc, List.cons_append]
      refine .cons rfl (.newLine _ (scans_name name ?_))
      have hend := endsValue_newLine level ('}' :: rest)
      refine (hscan _ _ (endsValue_renderMembers hend)).append ((hscans _ _ hend).append (.newLine level ?_))
      exact .cons rfl (.nil _)

/-- A text is one document, and this writes a value: in any layout, with any escapes. -/
def IsTextOf (s : String) (v : Data) : Prop :=
  ∃ d, Document.ofText? s = some d ∧ d.Writes v

theorem isTextOf_ofData {v : Data} (hv : v.all Data.isExact) : IsTextOf (ofData v) v := by
  obtain ⟨d, hd, hscan⟩ := rendered_of_exact hv
  refine ⟨d, Document.ofText?_of_scans ?_, hd⟩
  have h := hscan 0 [] nofun
  rwa [List.append_nil, ← String.toList_ofList (l := render 0 v)] at h

end Bindings.Json
