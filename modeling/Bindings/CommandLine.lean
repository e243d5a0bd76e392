import Bindings.Run

/-!
# The command line

`generate` writes documents, `check` does all but that. Arguments are taken from left to right: the first one that is
wrong makes a misuse, and a call for help before it is answered.
-/

namespace Bindings.CommandLine

/-- What a command line asks for. -/
inductive Request where
  | run (verbose : Bool) (options : RunOptions)
  | help
  | misuse

inductive Command where
  | generate
  | check
deriving DecidableEq

/-- The options that take a value. -/
inductive Field where
  | input
  | output
deriving DecidableEq

/-- What the arguments of a command have said so far. -/
structure Given where
  verbose : Bool
  input : Option String
  output : Option String

/-- What follows from an argument. -/
inductive Step where
  | done (g : Given)
  /-- The next argument is the value of a field. -/
  | awaits (f : Field) (g : Given)
  | help
  | misuse

def Command.field? (c : Command) : Char → Option Field
  | 'i' => some .input
  | 'o' => if c = .generate then some .output else none
  | _ => none

def Field.name : Field → List Char
  | .input => "input".toList
  | .output => "output".toList

def Command.fields : Command → List Field
  | .generate => [.input, .output]
  | .check => [.input]

namespace Given

/-- A flag may be set once. -/
def setVerbose (g : Given) : Option Given :=
  if g.verbose then none else some { g with verbose := true }

/-- A field may be given once, and not the empty value. -/
def set (g : Given) (f : Field) (value : List Char) : Option Given :=
  let value := String.ofList value
  if value = "" then none
  else match f, g.input, g.output with
    | .input, none, _ => some { g with input := some value }
    | .output, _, none => some { g with output := some value }
    | _, _, _ => none

/-- The request that all arguments make, with whether an earlier flag asked for a verbose log. -/
def request (c : Command) (verbose : Bool) (g : Given) : Request :=
  match c, g.input, g.output with
  | .generate, some input, some output => .run (verbose || g.verbose) ⟨input, some output⟩
  | .check, some input, _ => .run (verbose || g.verbose) ⟨input, none⟩
  | _, _, _ => .misuse

end Given

def Step.ofOption : Option Given → Step
  | some g => .done g
  | none => .misuse

/-- Letters after a single dash: flags, and at last a field with its value, after an equals sign or not. -/
def short (c : Command) (g : Given) : List Char → Step
  | [] => .done g
  | 'h' :: _ => .help
  | 'v' :: letters =>
    match g.setVerbose with
    | some g => short c g letters
    | none => .misuse
  | letter :: rest =>
    match c.field? letter, rest with
    | none, _ => .misuse
    | some f, [] => .awaits f g
    | some f, '=' :: value => .ofOption (g.set f value)
    | some f, value => .ofOption (g.set f value)

/-- A name after two dashes, with a value after an equals sign or without. -/
def long (c : Command) (g : Given) (argument : List Char) : Step :=
  let name := argument.takeWhile (· != '=')
  match c.fields.find? (·.name == name), argument.dropWhile (· != '=') with
  | some f, [] => .awaits f g
  | some f, _ :: value => .ofOption (g.set f value)
  | none, [] =>
    if name = "help".toList then .help
    else if name = "verbose".toList then .ofOption g.setVerbose
    else .misuse
  | none, _ :: _ => .misuse

/-- Commands take no arguments but options. -/
def step (c : Command) (g : Given) (argument : List Char) : Step :=
  match argument with
  | '-' :: '-' :: name => long c g name
  | '-' :: letter :: letters => short c g (letter :: letters)
  | _ => .misuse

/-- A value may start with a dash only if it is no more than that. -/
def isValue : List Char → Bool
  | '-' :: _ :: _ => false
  | _ => true

/-- The arguments of a command; two dashes may end them. -/
def arguments (c : Command) (verbose : Bool) : Given → List String → Request
  | g, [] => g.request c verbose
  | g, ["--"] => g.request c verbose
  | g, argument :: rest =>
    if argument = "--" then .misuse
    else match step c g argument.toList, rest with
      | .done g, rest => arguments c verbose g rest
      | .awaits f g, value :: rest =>
        if isValue value.toList then
          match g.set f value.toList with
          | some g => arguments c verbose g rest
          | none => .misuse
        else .misuse
      | .awaits _ _, [] => .misuse
      | .help, _ => .help
      | .misuse, _ => .misuse

/-- The command that a name stands for. -/
def command? (name : String) : Option Command :=
  if name = "generate" then some .generate
  else if name = "check" then some .check
  else none

/-- Letters after a single dash before a command: whether they ask for help, or else for a verbose log. -/
def flags (verbose : Bool) : List Char → Option (Bool × Bool)
  | [] => some (false, verbose)
  | 'h' :: _ => some (true, verbose)
  | 'v' :: letters => if verbose then none else flags true letters
  | _ => none

/-- The help command may name one command, or itself. -/
def helpRequest : List String → Request
  | [] => .help
  | [name] => if (command? name).isSome || name = "help" then .help else .misuse
  | _ => .misuse

/-- The request of a whole command line, after a flag that may have been given. -/
def parse (verbose : Bool) : List String → Request
  | [] => .misuse
  | argument :: rest =>
    if argument = "help" then helpRequest rest
    else match command? argument, argument.toList with
      | some c, _ => arguments c verbose ⟨false, none, none⟩ rest
      | none, '-' :: '-' :: name =>
        if name = "help".toList then .help
        else if name = "verbose".toList ∧ !verbose then parse true rest
        else .misuse
      | none, '-' :: letter :: letters =>
        match flags verbose (letter :: letters) with
        | some (true, _) => .help
        | some (false, verbose) => parse verbose rest
        | none => .misuse
      | none, _ => .misuse

/-- The request that the arguments of the program make. -/
def request (args : List String) : Request :=
  parse false args

def usage : String :=
  "Generate binding fragments from header metadata\n\nUsage: bindings [-v|--verbose] <command>\n\nCommands:\n" ++
  "  generate -i|--input <dir> -o|--output <dir>   Write the binding document of every header\n" ++
  "  check    -i|--input <dir>                     Run every pass without writing anything\n" ++
  "  help     [command]                            Print this text\n"

end Bindings.CommandLine
