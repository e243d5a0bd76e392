import Bindings.Json.Printer
import Bindings.Json.Token
import Mathlib.Tactic.IntervalCases

/-!
# Reading written tokens

What the writer puts down for a text or an integer is one token for the reader, wherever it stands.

* `first_text`: a quoted text, with all its escapes.
* `first_integer`, `Numeral.toData?_ofInt`: an integer, and the number that its numeral stands for.
* `Token.Scans`: the tokens that the first part of a text is cut into; `scan_of_scans` says that this is what the reader
  does.
-/

namespace Bindings.Json

/-! ## Quoted texts -/

theorem hexDigit?_hexDigit {n : Nat} (h : n < 16) : Token.hexDigit? (hexDigit n) = some n := by
  interval_cases n <;> rfl

/-- A character is written by a letter after a backslash, by its number, or as it is. -/
theorem escaped_cases (c : Char) :
    (∃ letter, letter ≠ 'u' ∧ Token.escape? letter = some c ∧ escaped c = ['\\', letter]) ∨
      (c.toNat < 0x20 ∧
        escaped c = ['\\', 'u', '0', '0', hexDigit (c.toNat / 16), hexDigit (c.toNat % 16)]) ∨
      (0x20 ≤ c.toNat ∧ c ≠ '"' ∧ c ≠ '\\' ∧ escaped c = [c]) := by
  unfold escaped
  split
  case h_8 hquote hslash _ _ _ _ _ =>
    by_cases hc : c.toNat < 0x20
    · exact .inr (.inl ⟨hc, if_pos hc⟩)
    · exact .inr (.inr ⟨Nat.le_of_not_lt hc, hquote, hslash, if_neg hc⟩)
  all_goals exact .inl ⟨_, by decide, rfl, rfl⟩

/-- A written character is read as one piece, which stands for it. -/
theorem exists_piece (c : Char) :
    ∃ p : Piece, (∀ cs read, Token.pieces (escaped c ++ cs) read = Token.pieces cs (p :: read)) ∧
      ∀ ps read, joinPieces none (p :: ps) read = joinPieces none ps (c :: read) := by
  rcases escaped_cases c with ⟨letter, hu, hletter, he⟩ | ⟨hc, he⟩ | ⟨hc, hquote, hslash, he⟩
  · refine ⟨.char c, fun cs read => ?_, fun _ _ => rfl⟩
    rw [he, List.cons_append, List.singleton_append, Token.pieces, hletter]
    exact fun _ _ _ _ _ h _ => hu h
  · refine ⟨.unit c.toNat, fun cs read => ?_, fun ps read => ?_⟩
    · have hzero : Token.hexDigit? '0' = some 0 := rfl
      have hnumber : ((0 * 16 + 0) * 16 + c.toNat / 16) * 16 + c.toNat % 16 = c.toNat := by omega
      simp only [he, List.cons_append, List.nil_append, Token.pieces, hzero,
        hexDigit?_hexDigit (n := c.toNat / 16) (by omega), hexDigit?_hexDigit (n := c.toNat % 16) (by omega), hnumber]
    · rw [joinPieces, if_neg (by omega), if_neg (by omega), Char.ofNat_toNat]
  · refine ⟨.char c, fun cs read => ?_, fun _ _ => rfl⟩
    have hplain : ¬(c = '\\' ∨ c.toNat < 0x20) := by
      rintro (h | h)
      · exact hslash h
      · omega
    rw [he, List.singleton_append, Token.pieces, if_neg hplain]
    · exact hquote
    · exact fun _ _ _ _ _ h _ => hslash h
    · exact fun _ _ h _ => hslash h

theorem exists_pieces (s rest : List Char) (read : List Piece) :
    ∃ ps, Token.pieces (s.flatMap escaped ++ '"' :: rest) read = some (read.reverse ++ ps, rest) ∧
      ∀ chars, joinPieces none ps chars = some (String.ofList (chars.reverse ++ s)) := by
  induction s generalizing read with
  | nil => exact ⟨[], by simp [Token.pieces], by simp [joinPieces]⟩
  | cons c cs ih =>
    obtain ⟨p, hread, hjoin⟩ := exists_piece c
    obtain ⟨ps, hps, hchars⟩ := ih (p :: read)
    refine ⟨p :: ps, ?_, fun chars => ?_⟩
    · rw [List.flatMap_cons, List.append_assoc, hread, hps]
      simp
    · rw [hjoin, hchars]
      simp

theorem first_text (s : String) (rest : List Char) : Token.first (text s ++ rest) = some (.text (some s), rest) := by
  obtain ⟨ps, hps, hjoin⟩ := exists_pieces s.toList rest []
  have hjoined : joinPieces none ps [] = some s := by simp [hjoin]
  simp [text, Token.first, hps, hjoined]

/-! ## Integers -/

/-- The numeral of an integer: its digits, and a sign if it is negative. -/
def Numeral.ofInt (i : Int) : Numeral :=
  ⟨i < 0, (Decimal.digits i.natAbs).map (·.toNat - 48), [], none⟩

/-- What follows a written value: nothing, a comma or the end of a line. -/
def EndsValue (cs : List Char) : Prop :=
  ∀ c ∈ cs.head?, c = ',' ∨ c = '\n'

theorem isDigit_of_mem_digits {n : Nat} {c : Char} (h : c ∈ Decimal.digits n) : Token.isDigit c = true := by
  have hd : c.isDigit = true := Nat.isDigit_of_mem_toDigits (by decide) (by decide) h
  simpa [Token.isDigit, Char.isDigit, Char.le_def] using hd

theorem natOf_digits (n : Nat) : Numeral.natOf 0 ((Decimal.digits n).map (·.toNat - 48)) = n := by
  rw [Numeral.natOf, List.foldl_map]
  have h := Nat.ofDigitChars_ten_toDigits (n := n)
  rw [Nat.ofDigitChars_eq_foldl] at h
  exact h

/-- Only zero is written with a leading zero. -/
theorem head_digits {n : Nat} (h : n ≠ 0) : ∃ c cs, Decimal.digits n = c :: cs ∧ c ≠ '0' := by
  induction n using Nat.strongRecOn with
  | _ n ih =>
    by_cases hn : n < 10
    · refine ⟨n.digitChar, [], Nat.toDigits_of_lt_base hn, ?_⟩
      rwa [ne_eq, Nat.digitChar_eq_zero]
    · obtain ⟨c, cs, hcs, hc⟩ := ih (n / 10) (by omega) (by omega)
      refine ⟨c, cs ++ [(n % 10).digitChar], ?_, hc⟩
      rw [Decimal.digits, Nat.toDigits_of_base_le (by decide) (by omega)]
      rw [Decimal.digits] at hcs
      rw [hcs, List.cons_append]

theorem digits_append {ds rest : List Char} (hd : ∀ c ∈ ds, Token.isDigit c = true) (hrest : EndsValue rest) :
    Token.digits (ds ++ rest) = (ds.map (·.toNat - 48), rest) := by
  have hstop : rest.takeWhile Token.isDigit = [] ∧ rest.dropWhile Token.isDigit = rest := by
    cases rest with
    | nil => exact ⟨rfl, rfl⟩
    | cons c cs =>
      have hc : Token.isDigit c = false := by
        rcases hrest c rfl with rfl | rfl <;> rfl
      simp [hc]
  rw [Token.digits, List.takeWhile_append_of_pos hd, List.dropWhile_append_of_pos hd, hstop.1, hstop.2, List.append_nil]

theorem whole_digits (n : Nat) {rest : List Char} (hrest : EndsValue rest) :
    Token.whole (Decimal.digits n ++ rest) = some ((Decimal.digits n).map (·.toNat - 48), rest) := by
  by_cases hn : n = 0
  · subst hn
    rfl
  · obtain ⟨c, cs, hcs, hc⟩ := head_digits hn
    have hd := digits_append (fun c hc => isDigit_of_mem_digits (n := n) hc) hrest
    rw [hcs] at hd ⊢
    unfold Token.whole
    split
    · rename_i heq
      rw [List.cons_append] at heq
      exact absurd (List.cons.inj heq).1 hc
    · rw [Token.someDigits, hd]
      rfl

theorem unsigned_digits (negative : Bool) (n : Nat) {rest : List Char} (hrest : EndsValue rest) :
    Token.unsigned negative (Decimal.digits n ++ rest) =
      some (⟨negative, (Decimal.digits n).map (·.toNat - 48), [], none⟩, rest) := by
  have hfraction : Token.fraction rest = some ([], rest) := by
    unfold Token.fraction
    split
    · rcases hrest _ rfl with h | h <;> cases h
    · rfl
  have hexponent : Token.exponent rest = some (none, rest) := by
    unfold Token.exponent
    split
    · rcases hrest _ rfl with h | h <;> cases h
    · rcases hrest _ rfl with h | h <;> cases h
    · rfl
  simp [Token.unsigned, whole_digits n hrest, hfraction, hexponent]

/-- A text that starts with a digit starts with a numeral. -/
theorem first_of_isDigit {c : Char} (hc : Token.isDigit c = true) (cs : List Char) :
    Token.first (c :: cs) = (Token.unsigned false (c :: cs)).map fun (n, rest) => (.numeral n, rest) := by
  unfold Token.first
  split
  all_goals first
    | rfl
    | rename_i heq
      cases (List.cons.inj heq).1
      cases hc

theorem first_integer (i : Int) {rest : List Char} (hrest : EndsValue rest) :
    Token.first (integer i ++ rest) = some (.numeral (.ofInt i), rest) := by
  by_cases hi : i < 0
  · have hu := unsigned_digits true i.natAbs hrest
    simp [integer, hi, Token.first, hu, Numeral.ofInt]
  · have hu := unsigned_digits false i.natAbs hrest
    rw [integer, if_neg hi, List.nil_append]
    obtain ⟨c, cs, hcs⟩ := List.exists_cons_of_ne_nil (Nat.toDigits_ne_nil (n := i.natAbs) (b := 10))
    have hc : Token.isDigit c = true := isDigit_of_mem_digits (n := i.natAbs) (by rw [Decimal.digits, hcs]; simp)
    rw [Decimal.digits, hcs, List.cons_append, first_of_isDigit hc, ← List.cons_append, ← hcs, ← Decimal.digits, hu]
    simp [Numeral.ofInt, hi]

theorem Numeral.toData?_ofInt {i : Int} (hlow : -signedLimit ≤ i) (hhigh : i < unsignedLimit) :
    (Numeral.ofInt i).toData? = some (.int i) := by
  simp only [Numeral.toData?, Numeral.ofInt, Numeral.isInteger, natOf_digits]
  by_cases hi : i < 0
  · have hpos : 0 < i.natAbs := by omega
    have hle : i.natAbs ≤ signedLimit := by omega
    have hvalue : (-(i.natAbs : Int)) = i := by omega
    simp only [hi, hpos, hle, hvalue, decide_true, List.isEmpty_nil, Option.isNone_none, Bool.and_self, if_true]
  · have hlt : i.natAbs < unsignedLimit := by omega
    simp [hi, hlt]
    omega

/-! ## Cutting a text into tokens -/

namespace Token

/-- The first part of a text, up to `rest`, is cut into the given tokens. -/
inductive Scans : List Char → List Token → List Char → Prop
  | nil (cs : List Char) : Scans cs [] cs
  | blank {c : Char} {cs : List Char} {ts : List Token} {rest : List Char} :
      isBlank c = true → Scans cs ts rest → Scans (c :: cs) ts rest
  | cons {cs : List Char} {t : Token} {mid : List Char} {ts : List Token} {rest : List Char} :
      first cs = some (t, mid) → Scans mid ts rest → Scans cs (t :: ts) rest

theorem Scans.append {cs mid rest : List Char} {ts us : List Token} (h : Scans cs ts mid) (h' : Scans mid us rest) :
    Scans cs (ts ++ us) rest := by
  induction h with
  | nil cs => exact h'
  | blank hc _ ih => exact .blank hc (ih h')
  | cons hf _ ih => exact .cons hf (ih h')

theorem Scans.newLine (level : Nat) {cs rest : List Char} {ts : List Token} (h : Scans cs ts rest) :
    Scans (newLine level ++ cs) ts rest := by
  have hspaces : ∀ n, Scans (List.replicate n ' ' ++ cs) ts rest := by
    intro n
    induction n with
    | zero => exact h
    | succ n ih => exact .blank rfl ih
  exact .blank rfl (hspaces _)

/-! A text has no more tokens than characters, since each token takes one. -/

theorem length_pieces {cs rest : List Char} {read ps : List Piece} (h : pieces cs read = some (ps, rest)) :
    rest.length < cs.length := by
  fun_induction pieces cs read with
  | case1 => cases h
  | case2 cs read =>
    cases h
    simp
  | case3 read a b c d cs _ _ _ _ _ _ _ _ ih =>
    have := ih h
    simp only [List.length_cons]
    omega
  | case4 => cases h
  | case5 cs read e c _ _ ih =>
    have := ih h
    simp only [List.length_cons]
    omega
  | case6 => cases h
  | case7 => cases h
  | case8 read c cs _ _ _ _ ih =>
    have := ih h
    simp only [List.length_cons]
    omega

theorem length_someDigits {cs rest : List Char} {ds : List Nat} (h : someDigits cs = some (ds, rest)) :
    rest.length < cs.length := by
  unfold someDigits digits at h
  split at h
  · cases h
  · rename_i hne heq
    cases h
    obtain ⟨hds, rfl⟩ := Prod.mk.inj heq
    have hlength := congrArg List.length (List.takeWhile_append_dropWhile (p := isDigit) (l := cs))
    have hpos : 0 < (cs.takeWhile isDigit).length := by
      rw [List.length_pos_iff]
      rintro hnil
      rw [hnil] at hds
      exact hne hds.symm
    rw [List.length_append] at hlength
    omega

theorem length_whole {cs rest : List Char} {ds : List Nat} (h : whole cs = some (ds, rest)) :
    rest.length < cs.length := by
  unfold whole at h
  split at h
  · cases h
    simp
  · exact length_someDigits h

theorem length_fraction {cs rest : List Char} {ds : List Nat} (h : fraction cs = some (ds, rest)) :
    rest.length ≤ cs.length := by
  unfold fraction at h
  split at h
  · have := length_someDigits h
    simp only [List.length_cons]
    omega
  · cases h
    exact Nat.le_refl _

theorem length_power {cs rest : List Char} {down : Bool} {ds : List Nat} (h : power cs = some (down, ds, rest)) :
    rest.length ≤ cs.length := by
  unfold power at h
  split at h
  all_goals
    obtain ⟨⟨ds', rest'⟩, hds, heq⟩ := Option.map_eq_some_iff.1 h
    cases heq
    exact Nat.le_of_lt (Nat.lt_of_lt_of_le (length_someDigits hds) (by simp))

theorem length_exponent {cs rest : List Char} {e : Option (Bool × List Nat)} (h : exponent cs = some (e, rest)) :
    rest.length ≤ cs.length := by
  unfold exponent at h
  split at h
  · obtain ⟨⟨down, ds, rest'⟩, hp, heq⟩ := Option.map_eq_some_iff.1 h
    cases heq
    have := length_power hp
    simp only [List.length_cons]
    omega
  · obtain ⟨⟨down, ds, rest'⟩, hp, heq⟩ := Option.map_eq_some_iff.1 h
    cases heq
    have := length_power hp
    simp only [List.length_cons]
    omega
  · cases h
    exact Nat.le_refl _

theorem length_unsigned {negative : Bool} {cs rest : List Char} {n : Numeral}
    (h : unsigned negative cs = some (n, rest)) : rest.length < cs.length := by
  unfold unsigned at h
  obtain ⟨⟨whole, cs₁⟩, hw, h⟩ := Option.bind_eq_some_iff.1 h
  obtain ⟨⟨fraction, cs₂⟩, hf, h⟩ := Option.bind_eq_some_iff.1 h
  obtain ⟨⟨exponent, cs₃⟩, he, h⟩ := Option.bind_eq_some_iff.1 h
  cases h
  have := length_whole hw
  have := length_fraction hf
  have := length_exponent he
  omega

theorem length_first {cs rest : List Char} {t : Token} (h : first cs = some (t, rest)) : rest.length < cs.length := by
  unfold first at h
  split at h
  case h_10 =>
    obtain ⟨⟨ps, rest'⟩, hp, heq⟩ := Option.map_eq_some_iff.1 h
    cases heq
    have := length_pieces hp
    simp only [List.length_cons]
    omega
  case h_11 =>
    obtain ⟨⟨n, rest'⟩, hu, heq⟩ := Option.map_eq_some_iff.1 h
    cases heq
    have := length_unsigned hu
    simp only [List.length_cons]
    omega
  case h_12 =>
    obtain ⟨⟨n, rest'⟩, hu, heq⟩ := Option.map_eq_some_iff.1 h
    cases heq
    exact length_unsigned hu
  all_goals
    cases h
    simp only [List.length_cons]
    omega

theorem Scans.length_le {cs rest : List Char} {ts : List Token} (h : Scans cs ts rest) :
    ts.length + rest.length ≤ cs.length := by
  induction h with
  | nil cs => simp
  | blank _ _ ih =>
    simp only [List.length_cons]
    omega
  | cons hf _ ih =>
    have := length_first hf
    simp only [List.length_cons]
    omega

/-- No token starts with a blank. -/
theorem exists_cons_of_first {cs mid : List Char} {t : Token} (h : first cs = some (t, mid)) :
    ∃ c rest, cs = c :: rest ∧ cs.dropWhile isBlank = cs := by
  cases cs with
  | nil => cases h
  | cons c rest =>
    refine ⟨c, rest, rfl, List.dropWhile_cons_of_neg fun hc => ?_⟩
    simp only [isBlank, Bool.or_eq_true, beq_iff_eq] at hc
    rcases hc with ((rfl | rfl) | rfl) | rfl <;> cases h

theorem scan_of_scans {cs rest : List Char} {ts : List Token} (h : Scans cs ts rest) (fuel : Nat) (read : List Token) :
    scan (ts.length + fuel) cs read = scan fuel rest (ts.reverse ++ read) := by
  -- the reader spends fuel on tokens and none on blanks
  induction h generalizing read with
  | nil cs => simp
  | @blank c cs ts rest hc _ ih =>
    rw [← ih, scan, scan, List.dropWhile_cons_of_pos hc]
  | @cons cs t mid ts rest hf _ ih =>
    obtain ⟨c, cs', rfl, hdrop⟩ := exists_cons_of_first hf
    have hlength : (t :: ts).length + fuel = ts.length + fuel + 1 := by
      simp only [List.length_cons]
      omega
    rw [hlength, scan, hdrop]
    simp only [hf]
    rw [ih]
    simp

theorem ofText?_of_scans {s : String} {ts : List Token} (h : Scans s.toList ts []) : ofText? s = some ts := by
  have hle := h.length_le
  obtain ⟨fuel, hfuel⟩ := Nat.exists_eq_add_of_le hle
  rw [ofText?, hfuel, Nat.add_assoc, scan_of_scans h]
  simp [scan]

end Token

end Bindings.Json
