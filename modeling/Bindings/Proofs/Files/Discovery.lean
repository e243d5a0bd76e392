import Bindings.Proofs.Files.Path
import Bindings.Proofs.Table
import Bindings.Workspace

/-!
# Well-formed trees and the names of headers

* `FileTree.WellFormed`: entries have names of files and stand in increasing order.
* `FileTree.ind`: induction on a tree, over the entries of its directories.
* `headerStem?_generatedName`, `generatedName_ne_config`: what documents are called is what no header and no
  configuration is called.
-/

namespace Bindings

namespace FileTree

/-! ## Well-formed trees -/

section Induction

variable {P : FileTree → Prop}

mutual

/-- What holds of a directory whenever it holds of its entries holds of all trees, if it holds of files. -/
theorem ind (file : ∀ content, P (.file content))
    (directory : ∀ entries, (∀ e ∈ entries, P e.2) → P (.directory entries)) : ∀ t : FileTree, P t
  | .file content => file content
  | .directory entries => directory entries (indEntries file directory entries)

theorem indEntries (file : ∀ content, P (.file content))
    (directory : ∀ entries, (∀ e ∈ entries, P e.2) → P (.directory entries)) :
    ∀ entries : List (String × FileTree), ∀ e ∈ entries, P e.2
  | [] => nofun
  | (_, t) :: rest => List.forall_mem_cons.2 ⟨ind file directory t, indEntries file directory rest⟩

end

end Induction

mutual

/-- The entries of every directory have names of files and stand in increasing order. -/
def WellFormed : FileTree → Prop
  | .file _ => True
  | .directory entries => Ordered entries ∧ WellFormedEntries entries

def WellFormedEntries : List (String × FileTree) → Prop
  | [] => True
  | (name, t) :: rest => IsName name ∧ t.WellFormed ∧ WellFormedEntries rest

end

section Decision

mutual

def decideWellFormed : (t : FileTree) → Decidable t.WellFormed
  | .file _ => .isTrue trivial
  | .directory entries =>
    have := decideWellFormedEntries entries
    inferInstanceAs (Decidable (Ordered entries ∧ WellFormedEntries entries))

def decideWellFormedEntries : (entries : List (String × FileTree)) → Decidable (WellFormedEntries entries)
  | [] => .isTrue trivial
  | (name, t) :: rest =>
    have := decideWellFormed t
    have := decideWellFormedEntries rest
    inferInstanceAs (Decidable (IsName name ∧ t.WellFormed ∧ WellFormedEntries rest))

end

instance (t : FileTree) : Decidable t.WellFormed :=
  decideWellFormed t

end Decision

theorem wellFormedEntries_iff {entries : List (String × FileTree)} :
    WellFormedEntries entries ↔ ∀ e ∈ entries, IsName e.1 ∧ e.2.WellFormed := by
  induction entries with
  | nil => simp [WellFormedEntries]
  | cons e rest ih => simp [WellFormedEntries, ih, and_assoc]

theorem WellFormed.get? {t u : FileTree} (ht : t.WellFormed) {l : List String} (h : t.get? l = some u) :
    u.WellFormed := by
  induction l generalizing t with
  | nil =>
    cases t <;> cases h <;> exact ht
  | cons name rest ih =>
    cases t with
    | file content => cases h
    | directory entries =>
      obtain ⟨child, hchild, h⟩ := Option.bind_eq_some_iff.1 h
      exact ih (wellFormedEntries_iff.1 ht.2 _ (mem_of_lookup hchild)).2 h

end FileTree

/-! ## Names of headers -/

theorem toList_of_headerStem? {name stem : String} (h : headerStem? name = some stem) :
    name.toList = stem.toList ++ ".json".toList := by
  unfold headerStem? at h
  split at h
  · rename_i hbefore
    cases h
    simpa using Text.before?_eq_some_iff.1 hbefore
  · cases h

theorem eq_of_headerStem? {name stem : String} (h : headerStem? name = some stem) : name = stem ++ ".json" :=
  String.toList_inj.1 (by rw [toList_of_headerStem? h, String.toList_append])

/-- A generated document is not taken for a header. -/
theorem headerStem?_generatedName (stem : String) : headerStem? (generatedName stem) = none := by
  have hgenerated : Text.before? generatedSuffix.toList (generatedName stem).toList = some stem.toList :=
    Text.before?_eq_some_iff.2 (by rw [generatedName, String.toList_append])
  rw [headerStem?, hgenerated]

/-- A generated document is not taken for a configuration. -/
theorem generatedName_ne_config (stem config : String) : generatedName stem ≠ config ++ ".toml" := by
  intro h
  have hlast := congrArg (fun name : String => name.toList.getLast?) h
  simp [generatedName, generatedSuffix] at hlast

/-- The metadata of a header is not taken for a configuration. -/
theorem headerName_ne_config (stem config : String) : stem ++ ".json" ≠ config ++ ".toml" := by
  intro h
  have hlast := congrArg (fun name : String => name.toList.getLast?) h
  simp at hlast

theorem isName_generatedName {name stem : String} (hn : IsName name) (h : headerStem? name = some stem) :
    IsName (generatedName stem) := by
  have hstem : '/' ∉ stem.toList := by
    have hno := hn.no_slash
    rw [toList_of_headerStem? h] at hno
    exact fun hmem => hno (List.mem_append_left _ hmem)
  have hlong : 9 ≤ (generatedName stem).toList.length := by
    simp [generatedName, generatedSuffix]
  have hne (short : String) (hshort : short.toList.length < 9) : generatedName stem ≠ short := by
    rintro rfl
    omega
  refine ⟨hne "" (by decide), hne "." (by decide), hne ".." (by decide), ?_⟩
  simp [generatedName, generatedSuffix, hstem]

theorem generatedName_injective : Function.Injective generatedName := by
  intro a b h
  exact (String.append_left_inj _).1 h

end Bindings
