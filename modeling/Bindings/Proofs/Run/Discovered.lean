import Bindings.Proofs.Files.Places
import Bindings.Proofs.Run.Steps

/-!
# What a run discovers

* `discover_exact`: below a directory every file of metadata is discovered once, in increasing order of place, with the
  configuration beside it. Where there is no directory nothing is discovered, and that is reported.
* `dot_unconfigured`: a configuration that is passed over.
-/

namespace Bindings

open FileTree

theorem FileTree.WellFormed.at? {t u : FileTree} {path : String} (ht : t.WellFormed) (h : t.at? path = some u) :
    u.WellFormed := by
  rw [FileTree.at?] at h
  split at h
  · cases h
  · obtain ⟨l, _, hget⟩ := Option.bind_eq_some_iff.1 h
    exact ht.get? hget

/-- **Discovery.** -/
theorem discover_exact {s : Session} (hw : s.files.WellFormed) (directory : String) :
    (∀ entries, s.files.at? directory = some (.directory entries) →
      ∃ sources events places, s.perform (Session.workspace.discover directory) = (.ok sources, ⟨s.files, events⟩) ∧
        List.Pairwise Before places ∧ (∀ l, l ∈ places ↔ (FileTree.directory entries).HasHeader l) ∧
        List.Forall₂ ((FileTree.directory entries).Found directory) places sources) ∧
      ((∀ entries, s.files.at? directory ≠ some (.directory entries)) →
        s.perform (Session.workspace.discover directory) = (.error ⟨.noInputDirectory directory, none, none, []⟩, s) ∧
          (Cause.noInputDirectory directory).code = "BG-ERR-IO") := by
  refine ⟨fun entries hat => ?_, fun hno => ⟨?_, rfl⟩⟩
  · have hlist : s.files.list? directory = some (FileTree.directory entries).listing := by
      rw [FileTree.list?, hat]
    obtain ⟨events, hperform⟩ := Session.perform_discover directory s
    rw [hlist] at hperform
    have hbelow := hw.at? hat
    exact ⟨_, events, _, hperform, pairwise_headerPlaces hbelow, fun l => mem_headerPlaces_iff hbelow,
      forall₂_found hbelow directory⟩
  · have hlist : s.files.list? directory = none := by
      rw [FileTree.list?]
      split
      · rename_i entries hat
        exact absurd hat (hno entries)
      · rfl
    rw [Workspace.discover, Session.perform_bind, Session.perform_list?, hlist]
    rfl

/-- A session with the given entries in the directory `in`. -/
def inputSession (entries : List (String × FileTree)) : Session :=
  ⟨.directory [("in", .directory entries)], []⟩

theorem at?_inputSession (entries : List (String × FileTree)) :
    (inputSession entries).files.at? "in" = some (.directory entries) := by
  have hin : IsName "in" := by decide
  rw [FileTree.at?, if_neg hin.ne_empty, Path.parts_of_isName hin]
  rfl

/-- Hidden files, documents, directories that are called as headers and configurations are, and a directory whose path
is, as a text, after that of the next file. -/
def mixedInput : List (String × FileTree) :=
  [(".h.json", .file .empty), (".json", .file .empty), ("a", .directory [("x.json", .file .empty)]),
    ("a-b.json", .file .empty), ("a-b.toml", .file .empty), ("c.gen.json", .file .empty),
    ("d.json", .directory [("d.json", .file .empty), ("d.toml", .directory [])])]

theorem mixed_input_discovered :
    (inputSession mixedInput).files.WellFormed ∧
      ∃ sources events places,
        (inputSession mixedInput).perform (Session.workspace.discover "in") =
          (.ok sources, ⟨(inputSession mixedInput).files, events⟩) ∧
        sources = [⟨".h", "in/.h.json", none⟩, ⟨"x", "in/a/x.json", none⟩,
          ⟨"a-b", "in/a-b.json", some "in/a-b.toml"⟩, ⟨"d", "in/d.json/d.json", none⟩] ∧
        List.Pairwise Before places ∧ (∀ l, l ∈ places ↔ (FileTree.directory mixedInput).HasHeader l) ∧
        List.Forall₂ ((FileTree.directory mixedInput).Found "in") places sources := by
  have hw : (inputSession mixedInput).files.WellFormed := by decide +kernel
  obtain ⟨sources, events, places, hperform, hfound⟩ := (discover_exact hw "in").1 mixedInput (at?_inputSession _)
  obtain ⟨sources', s', hperform', hsources⟩ := Session.exists_perform_of_any (s := inputSession mixedInput)
    (x := Session.workspace.discover "in")
    (p := fun sources => sources = [⟨".h", "in/.h.json", none⟩, ⟨"x", "in/a/x.json", none⟩,
      ⟨"a-b", "in/a-b.json", some "in/a-b.toml"⟩, ⟨"d", "in/d.json/d.json", none⟩]) (by decide +kernel)
  rw [hperform, Prod.mk.injEq, Except.ok.injEq] at hperform'
  exact ⟨hw, sources, events, places, hperform, hperform'.1.trans (of_decide_eq_true hsources), hfound⟩

/-- A header whose name is `..json`, with a file of its stem beside it. -/
def dotInput : List (String × FileTree) :=
  [("..json", .file .empty), ("..toml", .file .empty)]

/-- The file beside a header of the stem `.` is not taken for its configuration. -/
theorem dot_unconfigured :
    (inputSession dotInput).files.WellFormed ∧
      (∃ sources s', (inputSession dotInput).perform (Session.workspace.discover "in") = (.ok sources, s') ∧
        sources = [⟨".", "in/..json", none⟩]) ∧
      (FileTree.directory dotInput).HasFile ["." ++ ".toml"] .empty := by
  obtain ⟨sources, s', hperform, hsources⟩ := Session.exists_perform_of_any (s := inputSession dotInput)
    (x := Session.workspace.discover "in") (p := fun sources => sources = [⟨".", "in/..json", none⟩]) (by decide +kernel)
  exact ⟨by decide +kernel, ⟨sources, s', hperform, of_decide_eq_true hsources⟩, rfl⟩

end Bindings
