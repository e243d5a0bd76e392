import Bindings.Files.Path

/-!
# Paths of names

* `parts_join`: the path of a name in a directory has one part more than the directory.
* `join_injective`: different names in a directory have different paths.
* `isName_of_mem_parts`: a path is made of names and steps upwards.
-/

namespace Bindings

/-- The name of a file or a directory. -/
structure IsName (name : String) : Prop where
  ne_empty : name ≠ ""
  ne_here : name ≠ "."
  ne_above : name ≠ ".."
  no_slash : '/' ∉ name.toList

theorem isName_iff {name : String} :
    IsName name ↔ name ≠ "" ∧ name ≠ "." ∧ name ≠ ".." ∧ '/' ∉ name.toList :=
  ⟨fun ⟨h₁, h₂, h₃, h₄⟩ => ⟨h₁, h₂, h₃, h₄⟩, fun ⟨h₁, h₂, h₃, h₄⟩ => ⟨h₁, h₂, h₃, h₄⟩⟩

instance (name : String) : Decidable (IsName name) :=
  decidable_of_iff' _ isName_iff

namespace Path

variable {directory name : String}

theorem join_injective (directory : String) : Function.Injective (join directory) := by
  intro a b h
  unfold join at h
  split at h
  · exact (String.append_right_inj _).1 h
  · exact (String.append_right_inj _).1 h

theorem join_ne_empty (h : IsName name) : join directory name ≠ "" := by
  unfold join
  split <;> simp [h.ne_empty]

/-- What stands between two separators has none. -/
theorem notMem_of_mem_split {c : Char} {s part : List Char} (h : part ∈ Text.split c s) : c ∉ part := by
  induction s generalizing part with
  | nil =>
    obtain rfl := List.mem_singleton.1 h
    exact List.not_mem_nil
  | cons d s ih =>
    rw [Text.split] at h
    split at h
    · rcases List.mem_cons.1 h with rfl | h
      · exact List.not_mem_nil
      · exact ih h
    · rename_i hd
      split at h
      · obtain rfl := List.mem_singleton.1 h
        exact fun hmem => hd (List.mem_singleton.1 hmem).symm
      · rename_i first rest hsplit
        rcases List.mem_cons.1 h with rfl | h
        · refine fun hmem => ?_
          rcases List.mem_cons.1 hmem with hc | hmem
          · exact hd hc.symm
          · exact ih (hsplit ▸ List.mem_cons_self) hmem
        · exact ih (hsplit ▸ List.mem_cons_of_mem _ h)

/-- The parts of a path are names, apart from those that lead up. -/
theorem isName_of_mem_parts {path part : String} (h : part ∈ parts path) (hup : part ≠ "..") : IsName part := by
  obtain ⟨hmem, hpart⟩ := List.mem_filter.1 h
  obtain ⟨cs, hcs, rfl⟩ := List.mem_map.1 hmem
  obtain ⟨hempty, hhere⟩ : String.ofList cs ≠ "" ∧ String.ofList cs ≠ "." := by simpa using hpart
  exact ⟨hempty, hhere, hup, by simpa using notMem_of_mem_split hcs⟩

theorem parts_empty : parts "" = [] := by
  simp [parts, Text.split]

theorem ne_empty_of_endsInDot {path : String} (h : endsInDot path = true) : path ≠ "" := by
  rintro rfl
  exact absurd h (by decide)

theorem parts_of_isName (h : IsName name) : parts name = [name] := by
  simp [parts, Text.split_of_notMem h.no_slash, h.ne_empty, h.ne_here]

/-- A slash separates the parts before it from those after it. -/
theorem parts_append_slash (before after : String) : parts (before ++ "/" ++ after) = parts before ++ parts after := by
  have hlist : (before ++ "/" ++ after).toList = before.toList ++ '/' :: after.toList := by simp
  rw [parts, hlist, Text.split_append_cons, List.map_append, List.filter_append]
  rfl

theorem parts_join (directory : String) (h : IsName name) :
    parts (join directory name) = parts directory ++ [name] := by
  rw [← parts_of_isName h]
  unfold join
  split
  · rename_i hend
    rcases hend with rfl | hlast
    · rw [String.empty_append, parts_empty, List.nil_append]
    · obtain ⟨before, hbefore⟩ := List.getLast?_eq_some_iff.1 hlast
      have hdirectory : directory = String.ofList before ++ "/" := String.toList_inj.1 (by simp [hbefore])
      have hself : parts directory = parts (String.ofList before) := by
        have hslash := parts_append_slash (String.ofList before) ""
        rw [String.append_empty, parts_empty, List.append_nil] at hslash
        rw [hdirectory, hslash]
      rw [hself, hdirectory]
      exact parts_append_slash _ name
  · exact parts_append_slash directory name

end Path

end Bindings
