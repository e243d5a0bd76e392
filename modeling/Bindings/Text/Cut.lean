/-!
# Cutting texts

Removing a given beginning (`after?`) or end (`before?`), removing a run of one character from the end (`dropEnd`),
cutting at every occurrence of a character (`split`), and asking whether a word occurs (`occursIn`). Texts are lists of
characters.

* `after?_eq_some_iff`: a beginning is removed exactly when the text is that beginning followed by the rest.
* `before?_eq_some_iff`: an end is removed exactly when the text is the rest followed by that end.
* `dropEnd_eq_iff`: what is left of a text does not end in the character, and only that has followed it.
* `split_append_cons`, `split_of_notMem`: a text is cut at each of its separators, and not without one.
* `intercalate_split`, `notMem_of_mem_split`: the parts with separators between them are the text, and have none.
* `occursIn_eq_true_iff`: a word occurs exactly when the text is that word between two others.
-/

namespace Bindings.Text

/-- What follows `lead`, if the text starts with it. -/
def after? : List Char → List Char → Option (List Char)
  | [], s => some s
  | _ :: _, [] => none
  | c :: lead, d :: s => if c = d then after? lead s else none

theorem after?_append (lead s : List Char) : after? lead (lead ++ s) = some s := by
  induction lead with
  | nil => rfl
  | cons c lead ih => simp [after?, ih]

theorem after?_eq_some_iff {lead s rest : List Char} : after? lead s = some rest ↔ s = lead ++ rest := by
  constructor
  · intro h
    induction lead generalizing s with
    | nil => simpa [after?] using h
    | cons c lead ih =>
      cases s with
      | nil => simp [after?] at h
      | cons d s =>
        by_cases hc : c = d
        · subst hc
          simp only [after?, if_true] at h
          rw [ih h, List.cons_append]
        · simp [after?, hc] at h
  · rintro rfl
    exact after?_append lead rest

/-- What stands before `tail`, if the text ends with it. -/
def before? (tail s : List Char) : Option (List Char) :=
  (after? tail.reverse s.reverse).map List.reverse

theorem before?_eq_some_iff {tail s rest : List Char} : before? tail s = some rest ↔ s = rest ++ tail := by
  rw [before?, Option.map_eq_some_iff]
  constructor
  · rintro ⟨r, hr, rfl⟩
    rw [after?_eq_some_iff] at hr
    simpa using congrArg List.reverse hr
  · rintro rfl
    exact ⟨rest.reverse, by rw [List.reverse_append, after?_append], List.reverse_reverse rest⟩

/-- The text without the characters `c` at its end. -/
def dropEnd (c : Char) (s : List Char) : List Char :=
  (s.reverse.dropWhile (· == c)).reverse

theorem dropEnd_append_replicate (c : Char) (s : List Char) (n : Nat) :
    dropEnd c (s ++ List.replicate n c) = dropEnd c s := by
  rw [dropEnd, List.reverse_append, List.reverse_replicate,
    List.dropWhile_append_of_pos fun d hd => beq_iff_eq.2 (List.eq_of_mem_replicate hd), dropEnd]

theorem dropEnd_eq_self {c : Char} {s : List Char} (h : s.getLast? ≠ some c) : dropEnd c s = s := by
  rw [← List.head?_reverse] at h
  rw [dropEnd]
  cases hs : s.reverse with
  | nil => rw [List.dropWhile_nil, List.reverse_nil, List.reverse_eq_nil_iff.1 hs]
  | cons d rest =>
    have hd : (d == c) = false := by
      rw [hs] at h
      simpa using h
    rw [List.dropWhile_cons, hd, if_neg Bool.false_ne_true, ← hs, List.reverse_reverse]

theorem getLast?_dropEnd (c : Char) (s : List Char) : (dropEnd c s).getLast? ≠ some c := by
  rw [dropEnd, List.getLast?_reverse]
  intro h
  have hhead := List.head?_dropWhile_not (· == c) s.reverse
  rw [h] at hhead
  simp at hhead

theorem exists_eq_dropEnd_append (c : Char) (s : List Char) : ∃ n, s = dropEnd c s ++ List.replicate n c := by
  have hrun : ∀ d ∈ s.reverse.takeWhile (· == c), d = c := by
    intro d hd
    simpa using List.all_eq_true.1 List.all_takeWhile d hd
  refine ⟨(s.reverse.takeWhile (· == c)).length, ?_⟩
  rw [← List.reverse_replicate, ← List.eq_replicate_of_mem hrun, dropEnd, ← List.reverse_append,
    List.takeWhile_append_dropWhile, List.reverse_reverse]

theorem dropEnd_eq_iff {c : Char} {s t : List Char} :
    dropEnd c s = t ↔ t.getLast? ≠ some c ∧ ∃ n, s = t ++ List.replicate n c := by
  constructor
  · rintro rfl
    exact ⟨getLast?_dropEnd c s, exists_eq_dropEnd_append c s⟩
  · rintro ⟨hlast, n, rfl⟩
    rw [dropEnd_append_replicate, dropEnd_eq_self hlast]

/-- The parts of a text between the characters `c`. -/
def split (c : Char) : List Char → List (List Char)
  | [] => [[]]
  | d :: ds =>
    if d = c then [] :: split c ds
    else match split c ds with
      | [] => [[d]]
      | part :: parts => (d :: part) :: parts

theorem split_ne_nil (c : Char) (s : List Char) : split c s ≠ [] := by
  cases s with
  | nil => simp [split]
  | cons d s =>
    rw [split]
    split
    · simp
    · split <;> simp

theorem split_append_cons (c : Char) (s t : List Char) : split c (s ++ c :: t) = split c s ++ split c t := by
  induction s with
  | nil => simp [split]
  | cons d s ih =>
    by_cases hd : d = c
    · simp [split, hd, ih]
    · simp only [List.cons_append, split, if_neg hd, ih]
      cases h : split c s with
      | nil => exact absurd h (split_ne_nil c s)
      | cons part parts => rfl

theorem split_of_notMem {c : Char} {s : List Char} (h : c ∉ s) : split c s = [s] := by
  induction s with
  | nil => rfl
  | cons d s ih =>
    obtain ⟨hd, hs⟩ := not_or.1 (mt List.mem_cons.2 h)
    rw [split, if_neg (Ne.symm hd), ih hs]

theorem intercalate_split (c : Char) (s : List Char) : [c].intercalate (split c s) = s := by
  induction s with
  | nil => simp [split]
  | cons d s ih =>
    rw [split]
    cases h : split c s with
    | nil => exact absurd h (split_ne_nil c s)
    | cons part parts =>
      rw [h] at ih
      by_cases hd : d = c
      · rw [if_pos hd, List.intercalate_cons_cons, ih, hd]
        rfl
      · rw [if_neg hd]
        dsimp only
        cases parts with
        | nil => simpa using ih
        | cons part' parts =>
          rw [List.intercalate_cons_cons] at ih ⊢
          rw [List.cons_append, List.cons_append, ih]

theorem notMem_of_mem_split {c : Char} {s part : List Char} (h : part ∈ split c s) : c ∉ part := by
  induction s generalizing part with
  | nil => simp_all [split]
  | cons d s ih =>
    rw [split] at h
    cases hs : split c s with
    | nil => exact absurd hs (split_ne_nil c s)
    | cons first rest =>
      rw [hs] at h ih
      by_cases hd : d = c
      · rw [if_pos hd] at h
        rcases List.mem_cons.1 h with rfl | h
        · exact List.not_mem_nil
        · exact ih h
      · rw [if_neg hd] at h
        rcases List.mem_cons.1 h with rfl | h
        · exact fun hmem => (List.mem_cons.1 hmem).elim (fun heq => hd heq.symm) (ih List.mem_cons_self)
        · exact ih (List.mem_cons_of_mem _ h)

/-- Whether `word` occurs in a text without gaps. -/
def occursIn (word : List Char) : List Char → Bool
  | [] => word.isEmpty
  | c :: s => word.isPrefixOf (c :: s) || occursIn word s

theorem occursIn_eq_true_iff {word s : List Char} : occursIn word s = true ↔ word <:+: s := by
  induction s with
  | nil => simp [occursIn, List.infix_nil]
  | cons c s ih => rw [occursIn, Bool.or_eq_true, List.isPrefixOf_iff_prefix, ih, List.infix_cons_iff]

end Bindings.Text
