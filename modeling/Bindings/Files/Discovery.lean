import Bindings.Files.Path
import Bindings.Text.Cut

/-!
# Discovering headers

The metadata of a header is a file `<stem>.json`; its configuration, if it has one, is the file `<stem>.toml` beside it,
except that a header whose stem is a single dot has none. Generated documents have a name of their own and are not taken
for headers. Headers are listed directory by directory, the entries of a directory in order of name and what is in a
directory at the place of its name.

* `byName_perm`, `byName_pairwise`: ordering entries by name keeps them all and puts no greater name before a smaller.
-/

namespace Bindings

/-- What is below a path, without what the files hold. -/
inductive Listing where
  | file
  | directory (entries : List (String × Listing))
deriving Inhabited

def Listing.isFile : Listing → Bool
  | .file => true
  | .directory _ => false

/-- The end of the names of generated documents. -/
def generatedSuffix : String := ".gen.json"

/-- The name of the generated document for a stem. -/
def generatedName (stem : String) : String :=
  stem ++ generatedSuffix

/-- The stem of a file name that is a header's. -/
def headerStem? (name : String) : Option String :=
  match Text.before? generatedSuffix.toList name.toList, Text.before? ".json".toList name.toList with
  | none, some (c :: cs) => some (String.ofList (c :: cs))
  | _, _ => none

structure HeaderSource where
  stem : String
  headerPath : String
  configPath : Option String
deriving DecidableEq, Repr

/-- The header in a directory that has the given entry, if that is a header's metadata. -/
def HeaderSource.ofEntry? (directory : String) (siblings : List (String × Listing)) (name : String) (entry : Listing) :
    Option HeaderSource :=
  if entry.isFile then
    (headerStem? name).map fun stem =>
      let config := stem ++ ".toml"
      -- what is left of `..json` without its extension is the name of the directory above: nothing is looked up beside it
      let hasConfig := stem != "." && siblings.any fun (sibling, l) => sibling == config && l.isFile
      ⟨stem, Path.join directory name, if hasConfig then some (Path.join directory config) else none⟩
  else none

/-! ## Order of names -/

section Order
variable {α : Type}

/-- Put an entry before the first one of a list whose name is not smaller. -/
def putInOrder (e : String × α) : List (String × α) → List (String × α)
  | [] => [e]
  | f :: rest => if f.1 < e.1 then f :: putInOrder e rest else e :: f :: rest

/-- The entries in order of name. -/
def byName (entries : List (String × α)) : List (String × α) :=
  entries.foldr putInOrder []

theorem putInOrder_perm (e : String × α) (entries : List (String × α)) :
    (putInOrder e entries).Perm (e :: entries) := by
  induction entries with
  | nil => exact .refl _
  | cons f rest ih =>
    rw [putInOrder]
    split
    · exact (ih.cons f).trans (.swap e f rest)
    · exact .refl _

theorem byName_perm (entries : List (String × α)) : (byName entries).Perm entries := by
  induction entries with
  | nil => exact .refl _
  | cons e rest ih => exact (putInOrder_perm e _).trans (ih.cons e)

theorem putInOrder_pairwise (e : String × α) {entries : List (String × α)}
    (h : entries.Pairwise fun a b => a.1 ≤ b.1) : (putInOrder e entries).Pairwise fun a b => a.1 ≤ b.1 := by
  induction entries with
  | nil => simp [putInOrder]
  | cons f rest ih =>
    obtain ⟨hf, hrest⟩ := List.pairwise_cons.1 h
    rw [putInOrder]
    split
    · rename_i hlt
      refine List.pairwise_cons.2 ⟨fun g hg => ?_, ih hrest⟩
      rcases List.mem_cons.1 ((putInOrder_perm e rest).mem_iff.1 hg) with rfl | hg
      · exact Std.le_of_lt hlt
      · exact hf g hg
    · rename_i hle
      have hle : e.1 ≤ f.1 := Std.not_lt.1 hle
      refine List.pairwise_cons.2 ⟨fun g hg => ?_, h⟩
      rcases List.mem_cons.1 hg with rfl | hg
      · exact hle
      · exact Std.le_trans hle (hf g hg)

theorem byName_pairwise (entries : List (String × α)) : (byName entries).Pairwise fun a b => a.1 ≤ b.1 := by
  induction entries with
  | nil => exact .nil
  | cons e rest ih => exact putInOrder_pairwise e ih

end Order

/-! ## Headers -/

namespace Listing

mutual

/-- The headers below a directory with the given path. -/
def headers (path : String) : Listing → List HeaderSource
  | .file => []
  | .directory entries => (byName (entryHeaders path entries entries)).flatMap (·.2)

/-- For each entry of a directory, the header that it is or those below it. -/
def entryHeaders (path : String) (siblings : List (String × Listing)) :
    List (String × Listing) → List (String × List HeaderSource)
  | [] => []
  | (name, entry) :: rest =>
    (name, (HeaderSource.ofEntry? path siblings name entry).toList ++ headers (Path.join path name) entry)
      :: entryHeaders path siblings rest

end

end Listing

end Bindings
