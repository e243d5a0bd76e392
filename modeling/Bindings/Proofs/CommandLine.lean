import Bindings.CommandLine

/-!
# What a command line asks for

* `Reads`: the arguments of a command, read one after another up to the last. `arguments_eq_run_iff`: a run is asked for by
  arguments that can be read so.
* `exists_command`: a run that is not verbose is asked for by a command and its arguments alone.
* `request_insert`: the flag for a verbose log, wherever it is put, makes the same run verbose or the command line wrong.
-/

namespace Bindings.CommandLine

variable {c : Command} {verbose : Bool} {g g' : Given} {args : List String} {o : RunOptions}

/-- The flag for a verbose log, in its two forms. -/
def IsVerboseFlag (flag : String) : Prop :=
  flag = "-v" ∨ flag = "--verbose"

/-! ## The flag -/

/-- With the flag set. -/
def Given.loud (g : Given) : Given :=
  { g with verbose := true }

def Step.loud : Step → Step
  | .done g => .done g.loud
  | .awaits f g => .awaits f g.loud
  | s => s

/-- What has been given after a step, unless that ends the reading. -/
def Step.given? : Step → Option Given
  | .done g | .awaits _ g => some g
  | _ => none

theorem Given.set_eq (g : Given) (f : Field) (value : List Char) :
    g.set f value = if String.ofList value = "" then none
      else match f, g.input, g.output with
        | .input, none, _ => some { g with input := some (String.ofList value) }
        | .output, _, none => some { g with output := some (String.ofList value) }
        | _, _, _ => none := rfl

theorem Given.verbose_of_set {f : Field} {value : List Char} (h : g.set f value = some g') : g'.verbose = g.verbose := by
  rw [set_eq] at h
  split at h
  · cases h
  · split at h <;> cases h <;> rfl

theorem Given.set_loud (g : Given) (f : Field) (value : List Char) :
    g.loud.set f value = (g.set f value).map Given.loud := by
  obtain ⟨verbose, input, output⟩ := g
  rw [set_eq, set_eq]
  split
  · rfl
  · cases f <;> cases input <;> cases output <;> rfl

theorem Given.setVerbose_of_verbose (hg : g.verbose = true) : g.setVerbose = none := by
  rw [setVerbose, if_pos hg]

theorem given?_ofOption {r : Option Given} (h : (Step.ofOption r).given? = some g') : r = some g' := by
  cases r with
  | none => cases h
  | some g => exact h

theorem ofOption_loud (r : Option Given) : Step.ofOption (r.map Given.loud) = (Step.ofOption r).loud := by
  cases r <;> rfl

/-- A flag that is set stays so. -/
theorem verbose_of_short {letters : List Char} (h : (short c g letters).given? = some g') (hg : g.verbose = true) :
    g'.verbose = true := by
  fun_induction short c g letters with
  | case1 g =>
    cases h
    exact hg
  | case3 g letters g₁ hset _ => cases hset.symm.trans (Given.setVerbose_of_verbose hg)
  | case6 g letter _ _ f _ =>
    cases h
    exact hg
  | case7 g letter _ _ f value _ => rw [Given.verbose_of_set (given?_ofOption h), hg]
  | case8 g letter _ _ f value _ _ _ => rw [Given.verbose_of_set (given?_ofOption h), hg]
  | case2 | case4 | case5 => cases h

theorem short_loud {letters : List Char} (h : (short c g letters).given? = some g') (hg : g'.verbose = false) :
    short c g.loud letters = (short c g letters).loud := by
  fun_induction short c g letters with
  | case1 g => rfl
  | case3 g letters g₁ hset _ =>
    have hloud : g₁.verbose = true := by
      rw [Given.setVerbose] at hset
      split at hset <;> cases hset
      rfl
    cases hg.symm.trans (verbose_of_short h hloud)
  | case6 g letter hh hv f hf => exact short.eq_5 c g.loud letter f hh hv hf
  | case7 g letter hh hv f value hf =>
    rw [short.eq_6 c g.loud letter f value hh hv hf, Given.set_loud, ofOption_loud]
  | case8 g letter hh hv f value hnil heq hf =>
    rw [short.eq_7 c g.loud letter value f hh hv hf hnil heq, Given.set_loud, ofOption_loud]
  | case2 | case4 | case5 => cases h

theorem long_eq (c : Command) (g : Given) (argument : List Char) :
    long c g argument =
      match c.fields.find? (·.name == argument.takeWhile (· != '=')), argument.dropWhile (· != '=') with
      | some f, [] => .awaits f g
      | some f, _ :: value => .ofOption (g.set f value)
      | none, [] =>
        if argument.takeWhile (· != '=') = "help".toList then .help
        else if argument.takeWhile (· != '=') = "verbose".toList then .ofOption g.setVerbose
        else .misuse
      | none, _ :: _ => .misuse := rfl

theorem verbose_of_long {name : List Char} (h : (long c g name).given? = some g') (hg : g.verbose = true) :
    g'.verbose = true := by
  rw [long_eq] at h
  split at h
  · cases h
    exact hg
  · rw [Given.verbose_of_set (given?_ofOption h), hg]
  · split at h
    · cases h
    · split at h
      · cases (given?_ofOption h).symm.trans (Given.setVerbose_of_verbose hg)
      · cases h
  · cases h

theorem long_loud {name : List Char} (h : (long c g name).given? = some g') (hg : g'.verbose = false) :
    long c g.loud name = (long c g name).loud := by
  rw [long_eq] at h
  rw [long_eq, long_eq]
  split at h
  · rfl
  · rw [Given.set_loud, ofOption_loud]
  · split at h
    · cases h
    · split at h
      · have hset := given?_ofOption h
        rw [Given.setVerbose] at hset
        split at hset <;> cases hset
        cases hg
      · cases h
  · cases h

theorem verbose_of_step {argument : List Char} (h : (step c g argument).given? = some g') (hg : g.verbose = true) :
    g'.verbose = true := by
  unfold step at h
  split at h
  · exact verbose_of_long h hg
  · exact verbose_of_short h hg
  · cases h

/-- A step that does not set the flag is the same with the flag set. -/
theorem step_loud {argument : List Char} (h : (step c g argument).given? = some g') (hg : g'.verbose = false) :
    step c g.loud argument = (step c g argument).loud := by
  unfold step at h ⊢
  split at h
  · exact long_loud h hg
  · exact short_loud h hg
  · cases h

theorem step_flag (c : Command) (hg : g.verbose = false) {flag : String} (hf : IsVerboseFlag flag) :
    step c g flag.toList = .done g.loud := by
  have hset : g.setVerbose = some g.loud := by
    rw [Given.setVerbose, hg]
    rfl
  rcases hf with rfl | rfl
  · have hshort : step c g "-v".toList = short c g ['v'] := rfl
    rw [hshort, short, hset]
    rfl
  · have hlong : step c g "--verbose".toList = .ofOption g.setVerbose := by cases c <;> rfl
    rw [hlong, hset]
    rfl

/-! ## Arguments of a command -/

/-- What has been given after all arguments of a command. -/
inductive Reads (c : Command) : Given → List String → Given → Prop
  | nil {g : Given} : Reads c g [] g
  | dashes {g : Given} : Reads c g ["--"] g
  | done {g g₁ g' : Given} {argument : String} {rest : List String} : argument ≠ "--" →
      step c g argument.toList = .done g₁ → Reads c g₁ rest g' → Reads c g (argument :: rest) g'
  | value {g g₁ g₂ g' : Given} {f : Field} {argument value : String} {rest : List String} : argument ≠ "--" →
      step c g argument.toList = .awaits f g₁ → isValue value.toList = true → g₁.set f value.toList = some g₂ →
      Reads c g₂ rest g' → Reads c g (argument :: value :: rest) g'

/-- What a command is to do with what has been given. -/
def Given.options? (c : Command) (g : Given) : Option RunOptions :=
  match c, g.input, g.output with
  | .generate, some input, some output => some ⟨input, some output⟩
  | .check, some input, _ => some ⟨input, none⟩
  | _, _, _ => none

theorem Given.request_eq_run_iff {loud : Bool} :
    g.request c verbose = .run loud o ↔ g.options? c = some o ∧ (verbose || g.verbose) = loud := by
  obtain ⟨flag, input, output⟩ := g
  cases c <;> cases input <;> cases output <;> simp [request, options?, and_comm]

theorem Given.isSome_output (h : g.options? c = some o) : o.output.isSome ↔ c = .generate := by
  obtain ⟨flag, input, output⟩ := g
  cases c <;> cases input <;> cases output <;> cases h <;> simp

section Steps

variable {g₁ : Given} {argument : String} (ha : argument ≠ "--") (verbose : Bool)
include ha

theorem arguments_of_done (hstep : step c g argument.toList = .done g₁) (rest : List String) :
    arguments c verbose g (argument :: rest) = arguments c verbose g₁ rest := by
  rw [arguments.eq_3 c verbose g argument rest g₁ hstep fun h _ => ha h, if_neg ha]

theorem arguments_of_awaits {f : Field} (hstep : step c g argument.toList = .awaits f g₁) (value : String)
    (rest : List String) :
    arguments c verbose g (argument :: value :: rest) =
      if isValue value.toList then
        match g₁.set f value.toList with
        | some g₂ => arguments c verbose g₂ rest
        | none => .misuse
      else .misuse :=
  (arguments.eq_4 c verbose g argument f g₁ value rest hstep fun h _ => ha h).trans (if_neg ha)

end Steps

/-- Nothing may follow the two dashes. -/
theorem arguments_of_dashes (c : Command) (verbose : Bool) (g : Given) (argument : String) (rest : List String) :
    arguments c verbose g ("--" :: argument :: rest) = .misuse := by
  have hstep : step c g "--".toList = .misuse := by cases c <;> rfl
  rw [arguments.eq_7 c verbose g "--" (argument :: rest) hstep fun _ => List.cons_ne_nil argument rest]
  rfl

theorem Reads.arguments_eq (h : Reads c g args g') (verbose : Bool) :
    arguments c verbose g args = g'.request c verbose := by
  induction h with
  | nil => rfl
  | dashes => rfl
  | done ha hstep _ ih => rw [arguments_of_done ha verbose hstep, ih]
  | value ha hstep hvalue hset _ ih =>
    rw [arguments_of_awaits ha verbose hstep, if_pos hvalue, hset]
    exact ih

theorem exists_reads {loud : Bool} (h : arguments c verbose g args = .run loud o) : ∃ g', Reads c g args g' := by
  fun_induction arguments c verbose g args with
  | case1 g => exact ⟨g, .nil⟩
  | case2 g => exact ⟨g, .dashes⟩
  | case4 g argument ha g₁ rest hstep _ ih =>
    obtain ⟨g', hreads⟩ := ih h
    exact ⟨g', .done ha hstep hreads⟩
  | case5 g argument ha f g₁ value rest hstep hvalue g₂ hset _ ih =>
    obtain ⟨g', hreads⟩ := ih h
    exact ⟨g', .value ha hstep hvalue hset hreads⟩
  | _ => cases h

/-- A run is asked for by arguments that can all be read. -/
theorem arguments_eq_run_iff {loud : Bool} :
    arguments c verbose g args = .run loud o ↔
      ∃ g', Reads c g args g' ∧ g'.options? c = some o ∧ (verbose || g'.verbose) = loud := by
  constructor
  · intro h
    obtain ⟨g', hreads⟩ := exists_reads h
    rw [hreads.arguments_eq, Given.request_eq_run_iff] at h
    exact ⟨g', hreads, h⟩
  · rintro ⟨g', hreads, hg'⟩
    rw [hreads.arguments_eq, Given.request_eq_run_iff]
    exact hg'

theorem Reads.keeps_verbose (h : Reads c g args g') (hg : g.verbose = true) : g'.verbose = true := by
  induction h with
  | nil => exact hg
  | dashes => exact hg
  | done _ hstep _ ih => exact ih (verbose_of_step (congrArg Step.given? hstep) hg)
  | value _ hstep _ hset _ ih =>
    exact ih ((Given.verbose_of_set hset).trans (verbose_of_step (congrArg Step.given? hstep) hg))

theorem Reads.verbose_eq_false (h : Reads c g args g') (hg : g'.verbose = false) : g.verbose = false :=
  Bool.eq_false_iff.2 fun hloud => Bool.eq_false_iff.1 hg (h.keeps_verbose hloud)

/-- What could be read without the flag can be read after it. -/
theorem Reads.loud (h : Reads c g args g') (hg : g'.verbose = false) : Reads c g.loud args g'.loud := by
  induction h with
  | nil => exact .nil
  | dashes => exact .dashes
  | done ha hstep hrest ih =>
    refine .done ha ?_ (ih hg)
    rw [step_loud (congrArg Step.given? hstep) (hrest.verbose_eq_false hg), hstep]
    rfl
  | @value g₀ g₁ g₂ _ f argument value _ ha hstep hvalue hset hrest ih =>
    have hquiet : g₁.verbose = false := (Given.verbose_of_set hset).symm.trans (hrest.verbose_eq_false hg)
    have hawaits : step c g₀.loud argument.toList = .awaits f g₁.loud := by
      rw [step_loud (congrArg Step.given? hstep) hquiet, hstep]
      rfl
    have hset' : g₁.loud.set f value.toList = some g₂.loud := by
      rw [Given.set_loud, hset]
      rfl
    exact .value ha hawaits hvalue hset' (ih hg)

theorem IsVerboseFlag.ne_dashes {flag : String} (hf : IsVerboseFlag flag) : flag ≠ "--" := by
  rcases hf with rfl | rfl <;> decide

theorem Reads.flag_cons {flag : String} (h : Reads c g args g') (hg : g'.verbose = false) (hf : IsVerboseFlag flag) :
    Reads c g (flag :: args) g'.loud :=
  .done hf.ne_dashes (step_flag c (h.verbose_eq_false hg) hf) (h.loud hg)

/-- With the flag put between them the arguments are read to the same end, or are wrong. -/
theorem Reads.insert {flag : String} {before after : List String} (h : Reads c g (before ++ after) g')
    (hg : g'.verbose = false) (hf : IsVerboseFlag flag) :
    Reads c g (before ++ flag :: after) g'.loud ∨ ∀ verbose, arguments c verbose g (before ++ flag :: after) = .misuse := by
  have hno : isValue flag.toList = false := by
    rcases hf with rfl | rfl <;> rfl
  generalize hargs : before ++ after = args at h
  induction h generalizing before with
  | nil =>
    obtain ⟨rfl, rfl⟩ := List.append_eq_nil_iff.1 hargs
    exact .inl (Reads.nil.flag_cons hg hf)
  | dashes =>
    cases before with
    | nil =>
      obtain rfl : after = _ := hargs
      exact .inl (Reads.dashes.flag_cons hg hf)
    | cons first before =>
      obtain ⟨rfl, hnil⟩ := List.cons.inj hargs
      obtain ⟨rfl, rfl⟩ := List.append_eq_nil_iff.1 hnil
      exact .inr fun verbose => arguments_of_dashes c verbose _ flag []
  | done ha hstep hrest ih =>
    cases before with
    | nil =>
      obtain rfl : after = _ := hargs
      exact .inl ((Reads.done ha hstep hrest).flag_cons hg hf)
    | cons first before =>
      obtain ⟨rfl, htail⟩ := List.cons.inj hargs
      rcases ih hg htail with hreads | hmisuse
      · exact .inl (.done ha hstep hreads)
      · exact .inr fun verbose => (arguments_of_done ha verbose hstep _).trans (hmisuse verbose)
  | value ha hstep hvalue hset hrest ih =>
    cases before with
    | nil =>
      obtain rfl : after = _ := hargs
      exact .inl ((Reads.value ha hstep hvalue hset hrest).flag_cons hg hf)
    | cons first before =>
      obtain ⟨rfl, htail⟩ := List.cons.inj hargs
      cases before with
      | nil =>
        -- The flag stands where a value is awaited.
        refine .inr fun verbose => (arguments_of_awaits ha verbose hstep _ _).trans ?_
        rw [hno]
        rfl
      | cons second before =>
        obtain ⟨rfl, hlast⟩ := List.cons.inj htail
        rcases ih hg hlast with hreads | hmisuse
        · exact .inl (.value ha hstep hvalue hset hreads)
        · refine .inr fun verbose => (arguments_of_awaits ha verbose hstep _ _).trans ?_
          rw [if_pos hvalue, hset]
          exact hmisuse verbose

/-! ## Command lines -/

/-- What has been given before the first argument of a command. -/
def Given.nothing : Given :=
  ⟨false, none, none⟩

theorem helpRequest_ne_run (rest : List String) (loud : Bool) (o : RunOptions) : helpRequest rest ≠ .run loud o := by
  unfold helpRequest
  split
  · nofun
  · split <;> nofun
  · nofun

/-- Letters before a command set the flag, if they ask for no help. -/
theorem flags_cons {letter : Char} {letters : List Char} {loud : Bool}
    (h : flags verbose (letter :: letters) = some (false, loud)) : loud = true := by
  have hset {letters : List Char} (h : flags true letters = some (false, loud)) : loud = true := by
    unfold flags at h
    split at h <;> cases h
    rfl
  unfold flags at h
  split at h
  · rename_i hnil
    cases hnil
  · cases h
  · split at h
    · cases h
    · exact hset h
  · cases h

/-- A run that is not verbose is asked for by a command and its arguments alone. -/
theorem exists_command {args : List String} (h : parse verbose args = .run false o) :
    verbose = false ∧ ∃ name c rest g, args = name :: rest ∧ name ≠ "help" ∧ command? name = some c ∧
      Reads c .nothing rest g ∧ g.options? c = some o ∧ g.verbose = false := by
  induction args generalizing verbose with
  | nil => cases h
  | cons argument rest ih =>
    rw [parse] at h
    split at h
    · exact absurd h (helpRequest_ne_run rest false o)
    · rename_i hhelp
      split at h
      · rename_i c hcommand
        obtain ⟨g, hreads, hoptions, hquiet⟩ := arguments_eq_run_iff.1 h
        obtain ⟨hverbose, hg⟩ := Bool.or_eq_false_iff.1 hquiet
        exact ⟨hverbose, argument, c, rest, g, rfl, hhelp, hcommand, hreads, hoptions, hg⟩
      · split at h
        · cases h
        · split at h
          · cases (ih h).1
          · cases h
      · split at h
        · cases h
        · rename_i hflags
          rw [flags_cons hflags] at h
          cases (ih h).1
        · cases h
      · cases h

section

variable {name flag : String} {before after : List String}

theorem parse_of_command (hne : name ≠ "help") (hc : command? name = some c) (verbose : Bool) (rest : List String) :
    parse verbose (name :: rest) = arguments c verbose .nothing rest := by
  rw [parse, if_neg hne, hc]
  rfl

theorem parse_flag_cons (hf : IsVerboseFlag flag) (args : List String) : parse false (flag :: args) = parse true args := by
  rcases hf with rfl | rfl <;> rfl

theorem eq_of_command? (hc : command? name = some c) :
    name = "generate" ∧ c = .generate ∨ name = "check" ∧ c = .check := by
  rw [command?] at hc
  split at hc
  · exact .inl ⟨‹_›, (Option.some.inj hc).symm⟩
  · split at hc
    · exact .inr ⟨‹_›, (Option.some.inj hc).symm⟩
    · cases hc

/-- Documents are written on `generate` only, and only checked on `check`. -/
theorem output_of_request (h : request args = .run false o) :
    args.head? = some "generate" ∧ o.output.isSome ∨ args.head? = some "check" ∧ o.output = none := by
  obtain ⟨_, name, c, rest, g, rfl, _, hc, _, hoptions, _⟩ := exists_command h
  have houtput := Given.isSome_output hoptions
  rcases eq_of_command? hc with ⟨rfl, rfl⟩ | ⟨rfl, rfl⟩
  · exact .inl ⟨rfl, houtput.2 rfl⟩
  · exact .inr ⟨rfl, Option.not_isSome_iff_eq_none.1 fun hsome => nomatch houtput.1 hsome⟩

/-- A command line with the flag in front asks for the same run, verbose. -/
theorem request_flag_cons (h : request args = .run false o) (hf : IsVerboseFlag flag) :
    request (flag :: args) = .run true o := by
  obtain ⟨_, name, c, rest, g, rfl, hne, hc, hreads, hoptions, _⟩ := exists_command h
  rw [request, parse_flag_cons hf, parse_of_command hne hc, hreads.arguments_eq, Given.request_eq_run_iff]
  exact ⟨hoptions, rfl⟩

/-- With the flag anywhere, a command line asks for the same run, verbose, or is wrong. -/
theorem request_insert (h : request (before ++ after) = .run false o) (hf : IsVerboseFlag flag) :
    request (before ++ flag :: after) = .run true o ∨ request (before ++ flag :: after) = .misuse := by
  cases before with
  | nil => exact .inl (request_flag_cons h hf)
  | cons first before =>
    obtain ⟨_, name, c, rest, g, hsplit, hne, hc, hreads, hoptions, hquiet⟩ := exists_command h
    obtain ⟨rfl, rfl⟩ := List.cons.inj hsplit
    rw [request, List.cons_append, parse_of_command hne hc]
    rcases hreads.insert hquiet hf with hloud | hmisuse
    · exact .inl (arguments_eq_run_iff.2 ⟨_, hloud, hoptions, rfl⟩)
    · exact .inr (hmisuse false)

/-- The flag is wrong where a value is awaited. -/
example : request ["check", "-i", "-v", "in"] = .misuse := by rfl

end

end Bindings.CommandLine
