/-!
# Command-line arguments

The grammar of the command line. An option is written with its name behind two dashes or with its
letter behind one; a value follows as the next argument, behind an equals sign or, for a letter, at
once. Letters of flags may share a dash. Two dashes alone end the options. Each option may stand
once among the options of the program and once among those of its command; where both give a general
option, the command's counts.
-/

namespace Provision.Cli

/-- What an option takes. -/
inductive Takes where
  /-- Nothing: it is a flag. -/
  | nothing
  | text
  /-- A path, which is not empty. -/
  | path
deriving DecidableEq

/-- An option of a command. -/
structure Switch where
  name : String
  /-- The letter behind one dash. -/
  letter : Option Char := none
  /-- What follows. -/
  takes : Takes := .text

/-- Why reading the arguments ends without a command. -/
inductive Stop where
  /-- They do not follow the grammar. -/
  | misuse
  | help
  | version
deriving DecidableEq

/-- The options of a command, or of the program itself. -/
structure Grammar where
  /-- The options. -/
  switches : List Switch
  operands : Nat := 0
  /-- The commands, one of which ends the arguments read by this grammar. -/
  commands : List String := []
  /-- Whether the version can be asked for. -/
  hasVersion : Bool := false

/-- What was read. -/
structure Given where
  /-- The options by name, with their values. -/
  options : List (String × String) := []
  operands : List String := []
  /-- The command, with the arguments behind it. -/
  command : Option (String × List String) := none

namespace Given

/-- The value of an option. -/
def value? (g : Given) (name : String) : Option String := g.options.lookup name

/-- Whether a flag is set. -/
def isSet (g : Given) (name : String) : Bool := (g.value? name).isSome

/-- Adds an option, which must not be there yet and must not be an empty path. -/
def add (g : Given) (s : Switch) (value : String) : Except Stop Given :=
  if g.isSet s.name ∨ (s.takes = .path ∧ value = "") then .error .misuse
  else .ok { g with options := g.options ++ [(s.name, value)] }

/-- Adds an argument that stands by itself. -/
def addOperand (g : Given) (grammar : Grammar) (value : String) : Except Stop Given :=
  if g.operands.length < grammar.operands ∧ value ≠ "" then
    .ok { g with operands := g.operands ++ [value] }
  else .error .misuse

end Given

/-- Whether an argument looks like an option. -/
def isOption (arg : String) : Bool := arg.startsWith "-" && arg ≠ "-"

/-- A text cut at its first equals sign. -/
def cutAtEquals (cs : List Char) : String × Option String :=
  match cs.dropWhile (· ≠ '=') with
  | [] => (String.ofList cs, none)
  | _ :: value => (String.ofList (cs.takeWhile (· ≠ '=')), some (String.ofList value))

/-- The options behind one dash. What is returned besides is the option that still waits for a
value. -/
def readLetters (grammar : Grammar) (g : Given) : List Char → Except Stop (Given × Option Switch)
  | [] => .ok (g, none)
  | c :: cs =>
    match grammar.switches.find? (·.letter == some c) with
    | some s =>
      if s.takes = .nothing then do
        let g ← g.add s ""
        readLetters grammar g cs
      else
        match cs with
        | [] => .ok (g, some s)
        | '=' :: value => (g.add s (String.ofList value)).map (·, none)
        | value => (g.add s (String.ofList value)).map (·, none)
    | none =>
      if c = 'h' then .error .help
      else if c = 'V' ∧ grammar.hasVersion then .error .version
      else .error .misuse

/-- An option behind two dashes, and the option that still waits for a value. -/
def readName (grammar : Grammar) (g : Given) (cs : List Char) :
    Except Stop (Given × Option Switch) :=
  let (name, value?) := cutAtEquals cs
  match grammar.switches.find? (·.name == name) with
  | some s =>
    match value? with
    | some value => if s.takes = .nothing then .error .misuse else (g.add s value).map (·, none)
    | none => if s.takes = .nothing then (g.add s "").map (·, none) else .ok (g, some s)
  | none =>
    if value?.isSome then .error .misuse
    else if name = "help" then .error .help
    else if name = "version" ∧ grammar.hasVersion then .error .version
    else .error .misuse

/-- Adds arguments that stand by themselves. -/
def readOperands (grammar : Grammar) (g : Given) : List String → Except Stop Given
  | [] => .ok g
  | arg :: rest => do
    let g ← g.addOperand grammar arg
    readOperands grammar g rest

/-- What the help command does with the arguments behind it. -/
def helpOn (grammar : Grammar) : List String → Stop
  | [] => .help
  | [name] => if grammar.commands.contains name ∨ name = "help" then .help else .misuse
  | _ => .misuse

/-- Reads arguments, with an option that may be waiting for its value. -/
def read (grammar : Grammar) (g : Given) (waiting : Option Switch) :
    List String → Except Stop Given
  | [] => if waiting.isSome then .error .misuse else .ok g
  | arg :: rest =>
    match waiting with
    | some s =>
      if isOption arg then .error .misuse
      else do
        let g ← g.add s arg
        read grammar g none rest
    | none =>
      if arg = "--" then readOperands grammar g rest
      else if isOption arg then do
        let (g, waiting) ← match arg.toList with
          | '-' :: '-' :: cs => readName grammar g cs
          | cs => readLetters grammar g cs.tail
        read grammar g waiting rest
      else if grammar.commands.contains arg then .ok { g with command := some (arg, rest) }
      else if arg = "help" ∧ !grammar.commands.isEmpty then .error (helpOn grammar rest)
      else do
        let g ← g.addOperand grammar arg
        read grammar g none rest

end Provision.Cli
