import Bindings.Proofs.Data
import Bindings.Toml.Document

/-!
# Values of configuration documents

Whatever a configuration document holds, its tables have increasing names, its integers fit into 64 bits, and it has no
`null`.

* `isToml_of_value?`: so it is with every value that is read,
* `Members.update_isToml`: with the tables, as they are put together,
* `isToml_of_ofText?`: and with the document as a whole.
-/

namespace Bindings.Toml

variable {cs rest : List Char} {d : Data}

/-! ## Numbers and moments -/

theorem isToml_of_integer? {i : Int} (h : integer? i = some d) : d.IsToml := by
  unfold integer? at h
  split at h
  · rename_i hi
    cases h
    simp only [FitsSigned] at hi
    simp only [Data.IsToml, Data.all_int, Data.inRange, Data.isOrdered, Data.isNull, Bool.and_true, Bool.not_false,
      decide_eq_true_eq]
    have hlimit : (signedLimit : Int) ≤ unsignedLimit := by decide
    omega
  · cases h

theorem isToml_of_float? {negative : Bool} {digits : Nat} {exponent : Int} (h : float? negative digits exponent = some d) :
    d.IsToml := by
  unfold float? at h
  extract_lets _ x at h
  split at h
  · cases h
  · cases h
    rfl

theorem isToml_of_special? {negative : Bool} (h : special? negative cs = some (d, rest)) : d.IsToml := by
  unfold special? at h
  split at h
  · cases h
    rfl
  · cases h
    rfl
  · cases h

theorem isToml_of_decimal? {negative : Bool} (h : decimal? negative cs = some (d, rest)) : d.IsToml := by
  unfold decimal? at h
  obtain ⟨⟨whole, _⟩, _, h⟩ := Option.bind_eq_some_iff.1 h
  obtain ⟨⟨fraction, _⟩, _, h⟩ := Option.bind_eq_some_iff.1 h
  obtain ⟨⟨exponent, _⟩, _, h⟩ := Option.bind_eq_some_iff.1 h
  dsimp only at h
  split at h
  · obtain ⟨value, hvalue, h⟩ := Option.bind_eq_some_iff.1 h
    cases h
    exact isToml_of_integer? hvalue
  · obtain ⟨value, hvalue, h⟩ := Option.bind_eq_some_iff.1 h
    cases h
    exact isToml_of_float? hvalue

theorem isToml_of_based? {base : Nat} (h : based? base cs = some (d, rest)) : d.IsToml := by
  unfold based? at h
  obtain ⟨digits, _, h⟩ := Option.bind_eq_some_iff.1 h
  obtain ⟨value, hvalue, h⟩ := Option.bind_eq_some_iff.1 h
  cases h
  exact isToml_of_integer? hvalue

theorem isToml_of_number? (h : number? cs = some (d, rest)) : d.IsToml := by
  unfold number? at h
  split at h
  · exact isToml_of_based? h
  · exact isToml_of_based? h
  · exact isToml_of_based? h
  · simp only [Option.orElse_eq_orElse, Option.orElse_eq_or, Option.or_eq_some_iff] at h
    rcases h with h | ⟨_, h⟩
    · exact isToml_of_special? h
    · exact isToml_of_decimal? h

theorem isToml_of_scalarNumber? (h : scalarNumber? cs = some (d, rest)) : d.IsToml := by
  unfold scalarNumber? at h
  split at h
  · cases h
    exact Data.isToml_table.2 ⟨List.pairwise_singleton _ _, by
      simp [Data.IsToml, Data.inRange, Data.isOrdered, Data.isNull]⟩
  · exact isToml_of_number? h
  · cases h

/-! ## Tables as they are put together -/

/-- All values below an entry are as they are read. -/
inductive Entry.IsToml : Entry → Prop
  | value {d : Data} : d.IsToml → IsToml (.value d)
  | table {implicit dotted : Bool} {members : Members} :
      (∀ m ∈ members, IsToml m.2) → IsToml (.table implicit dotted members)
  | tables {elements : List Members} : (∀ members ∈ elements, ∀ m ∈ members, IsToml m.2) → IsToml (.tables elements)

abbrev Members.IsToml (members : Members) : Prop :=
  ∀ m ∈ members, Entry.IsToml m.2

abbrev PairsAreToml (pairs : List (List String × String × Data)) : Prop :=
  ∀ p ∈ pairs, p.2.2.IsToml

theorem isToml_membersToData {members : Members} (h : ∀ m ∈ members, m.2.toData.IsToml) :
    (Data.object (membersToData members)).IsToml := by
  refine Data.isToml_object ?_
  induction members with
  | nil => simp [membersToData]
  | cons m ms ih =>
    obtain ⟨name, e⟩ := m
    obtain ⟨he, hms⟩ := List.forall_mem_cons.1 h
    rw [membersToData]
    exact List.forall_mem_cons.2 ⟨he, ih hms⟩

theorem isToml_elementsToData {elements : List Members} (h : ∀ members ∈ elements, ∀ m ∈ members, m.2.toData.IsToml) :
    ∀ d ∈ elementsToData elements, d.IsToml := by
  induction elements with
  | nil => simp [elementsToData]
  | cons members elements ih =>
    obtain ⟨hmembers, helements⟩ := List.forall_mem_cons.1 h
    rw [elementsToData]
    exact List.forall_mem_cons.2 ⟨isToml_membersToData hmembers, ih helements⟩

theorem Entry.IsToml.toData {e : Entry} (h : e.IsToml) : e.toData.IsToml := by
  induction h with
  | value h => simpa [Entry.toData] using h
  | table _ ih =>
    rw [Entry.toData]
    exact isToml_membersToData ih
  | tables _ ih =>
    rw [Entry.toData, Data.isToml_list]
    exact fun d hd => isToml_elementsToData ih d (List.mem_reverse.1 hd)

namespace Members

variable {members result : Members}

theorem IsToml.toData (h : members.IsToml) : (Data.object (membersToData members)).IsToml :=
  isToml_membersToData fun m hm => (h m hm).toData

theorem IsToml.lookup (h : members.IsToml) {name : String} {e : Entry} (he : members.lookup name = some e) : e.IsToml :=
  h _ (mem_of_lookup he)

theorem IsToml.put (h : members.IsToml) (name : String) {e : Entry} (he : e.IsToml) : (members.put name e).IsToml := by
  induction members with
  | nil => simpa [Members.put] using he
  | cons m ms ih =>
    obtain ⟨n, old⟩ := m
    obtain ⟨hold, hms⟩ := List.forall_mem_cons.1 h
    rw [Members.put]
    split
    · exact List.forall_mem_cons.2 ⟨he, hms⟩
    · exact List.forall_mem_cons.2 ⟨hold, ih hms⟩

/-- A change below a path keeps what the change itself keeps. -/
theorem update_isToml {byDottedKey : Bool} {change : Bool → Members → Option Members}
    (hchange : ∀ dotted members result, change dotted members = some result → members.IsToml → result.IsToml)
    {path : List String} {dotted : Bool} (h : members.IsToml)
    (hr : update byDottedKey change path dotted members = some result) : result.IsToml := by
  induction path generalizing dotted members result with
  | nil => exact hchange dotted members result hr h
  | cons name path ih =>
    unfold update at hr
    split at hr
    · obtain ⟨sub, hsub, rfl⟩ := Option.map_eq_some_iff.1 hr
      exact h.put name (.table (ih (List.forall_mem_nil _) hsub))
    · rename_i implicit dotted' sub hlookup
      split at hr
      · cases hr
      · obtain ⟨sub', hsub, rfl⟩ := Option.map_eq_some_iff.1 hr
        cases h.lookup hlookup with
        | table hold => exact h.put name (.table (ih hold hsub))
    · rename_i last others hlookup
      obtain ⟨last', hlast, rfl⟩ := Option.map_eq_some_iff.1 hr
      cases h.lookup hlookup with
      | tables hold =>
        obtain ⟨hl, ho⟩ := List.forall_mem_cons.1 hold
        exact h.put name (.tables (List.forall_mem_cons.2 ⟨ih hl hlast, ho⟩))
    · cases hr

theorem define_isToml {path : List String} {name : String} (h : members.IsToml) (hd : d.IsToml)
    (hr : members.define path name d = some result) : result.IsToml := by
  refine update_isToml (fun dotted members result hr h => ?_) h hr
  split at hr
  · cases hr
  · cases hr
    exact h.put name (.value hd)

theorem defineAll_isToml {pairs : List (List String × String × Data)} (h : members.IsToml) (hpairs : PairsAreToml pairs)
    (hr : members.defineAll pairs = some result) : result.IsToml := by
  induction pairs generalizing members with
  | nil =>
    cases hr
    exact h
  | cons p ps ih =>
    obtain ⟨path, name, d⟩ := p
    obtain ⟨hd, hps⟩ := List.forall_mem_cons.1 hpairs
    obtain ⟨next, hnext, hr⟩ := Option.bind_eq_some_iff.1 hr
    exact ih (define_isToml h hd hnext) hps hr

theorem addBlock_isToml {b : Block} (h : members.IsToml) (hb : PairsAreToml b.pairs)
    (hr : members.addBlock b = some result) : result.IsToml := by
  refine update_isToml (fun dotted members result hr h => ?_) h hr
  split at hr
  · obtain ⟨sub, hsub, rfl⟩ := Option.map_eq_some_iff.1 hr
    exact h.put b.name (.table (defineAll_isToml (List.forall_mem_nil _) hb hsub))
  · rename_i hlookup
    obtain ⟨sub, hsub, rfl⟩ := Option.map_eq_some_iff.1 hr
    cases h.lookup hlookup with
    | table hold => exact h.put b.name (.table (defineAll_isToml hold hb hsub))
  · obtain ⟨sub, hsub, rfl⟩ := Option.map_eq_some_iff.1 hr
    exact h.put b.name (.tables (List.forall_mem_singleton.2 (defineAll_isToml (List.forall_mem_nil _) hb hsub)))
  · rename_i hlookup
    obtain ⟨sub, hsub, rfl⟩ := Option.map_eq_some_iff.1 hr
    cases h.lookup hlookup with
    | tables hold =>
      have hlast := defineAll_isToml (List.forall_mem_nil _) hb hsub
      exact h.put b.name (.tables (List.forall_mem_cons.2 ⟨hlast, hold⟩))
  · cases hr

end Members

/-! ## Values -/

/-- Whatever is read is as values are read. -/
abbrev ReadsToml (read : List Char → Option (Data × List Char)) : Prop :=
  ∀ cs d rest, read cs = some (d, rest) → d.IsToml

section Containers

variable {read : List Char → Option (Data × List Char)}

theorem isToml_of_items? (hread : ReadsToml read) {fuel : Nat} {items result : List Data}
    (hitems : ∀ d ∈ items, d.IsToml) (h : items? read fuel items cs = some (result, rest)) : ∀ d ∈ result, d.IsToml := by
  induction fuel generalizing items cs with
  | zero => cases h
  | succ fuel ih =>
    unfold items? at h
    obtain ⟨_, _, h⟩ := Option.bind_eq_some_iff.1 h
    split at h
    · cases h
      simpa using hitems
    · obtain ⟨⟨item, _⟩, hitem, h⟩ := Option.bind_eq_some_iff.1 h
      have hcons : ∀ d ∈ item :: items, d.IsToml := List.forall_mem_cons.2 ⟨hread _ _ _ hitem, hitems⟩
      obtain ⟨_, _, h⟩ := Option.bind_eq_some_iff.1 h
      split at h
      · exact ih hcons h
      · cases h
        exact fun d hd => hcons d (List.mem_reverse.1 hd)
      · cases h

theorem isToml_of_pair? (hread : ReadsToml read) {p : List String × String × Data} (h : pair? read cs = some (p, rest)) :
    p.2.2.IsToml := by
  unfold pair? at h
  obtain ⟨key, _, h⟩ := Option.bind_eq_some_iff.1 h
  obtain ⟨cs', _, h⟩ := Option.bind_eq_some_iff.1 h
  obtain ⟨⟨d, cs''⟩, hd, h⟩ := Option.bind_eq_some_iff.1 h
  cases h
  exact hread _ _ _ hd

theorem isToml_of_pairs? (hread : ReadsToml read) {fuel : Nat} {pairs result : List (List String × String × Data)}
    (hpairs : PairsAreToml pairs) (h : pairs? read fuel pairs cs = some (result, rest)) : PairsAreToml result := by
  induction fuel generalizing pairs cs with
  | zero => cases h
  | succ fuel ih =>
    unfold pairs? at h
    obtain ⟨⟨pair, cs'⟩, hpair, h⟩ := Option.bind_eq_some_iff.1 h
    have hcons : PairsAreToml (pair :: pairs) := List.forall_mem_cons.2 ⟨isToml_of_pair? hread hpair, hpairs⟩
    dsimp only at h
    split at h
    · exact ih hcons h
    · cases h
      intro p hp
      exact hcons p (List.mem_reverse.1 hp)
    · cases h

theorem isToml_of_inlineTable? (hread : ReadsToml read) (h : inlineTable? read cs = some (d, rest)) : d.IsToml := by
  unfold inlineTable? at h
  split at h
  · cases h
    rfl
  · obtain ⟨⟨pairs, cs'⟩, hpairs, h⟩ := Option.bind_eq_some_iff.1 h
    obtain ⟨members, hmembers, h⟩ := Option.bind_eq_some_iff.1 h
    cases h
    have hpairs := isToml_of_pairs? hread (List.forall_mem_nil _) hpairs
    exact (Members.defineAll_isToml (List.forall_mem_nil _) hpairs hmembers).toData

end Containers

theorem isToml_of_value? (depth : Nat) : ReadsToml (value? depth) := by
  have hscalar (cs d rest) (h : (text? cs).map (fun read => (Data.text read.1, read.2)) = some (d, rest)) : d.IsToml := by
    obtain ⟨_, _, h⟩ := Option.map_eq_some_iff.1 h
    cases h
    rfl
  induction depth with
  | zero =>
    intro cs d rest h
    unfold value? at h
    split at h
    · exact hscalar _ _ _ h
    · exact hscalar _ _ _ h
    · cases h
    · cases h
    · cases h
      rfl
    · cases h
      rfl
    · exact isToml_of_scalarNumber? h
  | succ depth ih =>
    intro cs d rest h
    unfold value? at h
    split at h
    · exact hscalar _ _ _ h
    · exact hscalar _ _ _ h
    · obtain ⟨⟨items, cs'⟩, hitems, h⟩ := Option.map_eq_some_iff.1 h
      cases h
      exact Data.isToml_list.2 (isToml_of_items? ih (List.forall_mem_nil _) hitems)
    · exact isToml_of_inlineTable? ih h
    · cases h
      rfl
    · cases h
      rfl
    · exact isToml_of_scalarNumber? h

/-! ## Documents -/

/-- The value of a line, if it has one, is as it is read. -/
def Line.IsToml : Line → Prop
  | .heading .. => True
  | .pair _ _ d => d.IsToml

theorem isToml_of_line? {line : Line} (h : line? cs = some (line, rest)) : line.IsToml := by
  unfold line? at h
  split at h
  · unfold heading? at h
    split at h
    · obtain ⟨key, _, h⟩ := Option.bind_eq_some_iff.1 h
      obtain ⟨_, _, h⟩ := Option.bind_eq_some_iff.1 h
      obtain ⟨_, _, h⟩ := Option.bind_eq_some_iff.1 h
      cases h
      trivial
    · obtain ⟨key, _, h⟩ := Option.bind_eq_some_iff.1 h
      obtain ⟨_, _, h⟩ := Option.bind_eq_some_iff.1 h
      cases h
      trivial
  · obtain ⟨⟨p, cs'⟩, hp, h⟩ := Option.map_eq_some_iff.1 h
    cases h
    exact isToml_of_pair? (isToml_of_value? depthLimit) hp

theorem isToml_of_lines? {fuel : Nat} {lines result : List Line} (hlines : ∀ line ∈ lines, line.IsToml)
    (h : lines? fuel lines cs = some result) : ∀ line ∈ result, line.IsToml := by
  induction fuel generalizing lines cs with
  | zero => cases h
  | succ fuel ih =>
    unfold lines? at h
    split at h
    · cases h
      simpa using hlines
    · obtain ⟨_, _, h⟩ := Option.bind_eq_some_iff.1 h
      exact ih hlines h
    · exact ih hlines h
    · obtain ⟨_, _, h⟩ := Option.bind_eq_some_iff.1 h
      exact ih hlines h
    · split at h
      · rename_i line cs' hline
        obtain ⟨_, _, h⟩ := Option.bind_eq_some_iff.1 h
        exact ih (List.forall_mem_cons.2 ⟨isToml_of_line? hline, hlines⟩) h
      · cases h

theorem isToml_blocks {lines : List Line} (h : ∀ line ∈ lines, line.IsToml) :
    PairsAreToml (blocks lines).1 ∧ ∀ b ∈ (blocks lines).2, PairsAreToml b.pairs := by
  induction lines with
  | nil => exact ⟨List.forall_mem_nil _, List.forall_mem_nil _⟩
  | cons line lines ih =>
    obtain ⟨hline, hlines⟩ := List.forall_mem_cons.1 h
    obtain ⟨hpairs, hblocks⟩ := ih hlines
    cases line with
    | heading heading path name => exact ⟨List.forall_mem_nil _, List.forall_mem_cons.2 ⟨hpairs, hblocks⟩⟩
    | pair path name d => exact ⟨List.forall_mem_cons.2 ⟨hline, hpairs⟩, hblocks⟩

theorem addBlocks_isToml {members result : Members} {sections : List Block} (h : members.IsToml)
    (hs : ∀ b ∈ sections, PairsAreToml b.pairs) (hr : sections.foldlM Members.addBlock members = some result) :
    result.IsToml := by
  induction sections generalizing members with
  | nil =>
    cases hr
    exact h
  | cons b bs ih =>
    obtain ⟨hb, hbs⟩ := List.forall_mem_cons.1 hs
    obtain ⟨next, hnext, hr⟩ := Option.bind_eq_some_iff.1 hr
    exact ih (Members.addBlock_isToml h hb hnext) hbs hr

/-- What a configuration document says is a value as values are read. -/
theorem isToml_of_ofText? {s : String} (h : ofText? s = some d) : d.IsToml := by
  unfold ofText? at h
  obtain ⟨lines, hlines, h⟩ := Option.bind_eq_some_iff.1 h
  obtain ⟨hpairs, hblocks⟩ := isToml_blocks (isToml_of_lines? (List.forall_mem_nil _) hlines)
  obtain ⟨members, hmembers, h⟩ := Option.bind_eq_some_iff.1 h
  obtain ⟨result, hresult, h⟩ := Option.bind_eq_some_iff.1 h
  cases h
  exact (addBlocks_isToml (Members.defineAll_isToml (List.forall_mem_nil _) hpairs hmembers) hblocks hresult).toData

end Bindings.Toml
