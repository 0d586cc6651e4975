import Provision.Cli.Arguments

/-!
# Invocations

The four commands of the program with their options, as read from the arguments.
-/

namespace Provision.Cli

/-- Where a step's parameters come from. -/
inductive ParameterSource where
  /-- There are none. -/
  | nowhere
  | file (path : String)
  | inline (text : String)
deriving DecidableEq

/-- A command. -/
inductive Command where
  | convert (step module : String) (platform : Option String) (parameters : ParameterSource)
      (registry : Option String)
  | plan (path : String) (registry : Option String)
  | modules (registry : Option String)
  | validateRegistry (path : String)
deriving DecidableEq

/-- A command with the general options. -/
structure Invocation where
  verbose : Bool
  pretty : Bool
  config : Option String
  command : Command
deriving DecidableEq

/-- The options that may stand before and behind the command. -/
def generalSwitches : List Switch :=
  [{ name := "verbose", letter := some 'v', takes := .nothing },
    { name := "pretty", takes := .nothing },
    { name := "config", letter := some 'c', takes := .path }]

/-- The registry file in place of the standard modules. -/
def registrySwitch : Switch := { name := "registry", letter := some 'r', takes := .path }

/-- What may stand before the command. -/
def programGrammar : Grammar where
  switches := generalSwitches
  commands := ["convert", "plan", "modules", "validate-registry"]
  hasVersion := true

/-- What may stand behind a command. -/
def commandGrammar (command : String) : Grammar :=
  match command with
  | "convert" =>
    { switches := generalSwitches ++ [{ name := "step", letter := some 's' },
        { name := "module", letter := some 'm' }, { name := "platform", letter := some 'p' },
        { name := "params", takes := .path }, { name := "params-json" }, registrySwitch] }
  | "plan" => { switches := generalSwitches ++ [registrySwitch], operands := 1 }
  | "modules" => { switches := generalSwitches ++ [registrySwitch] }
  | _ => { switches := generalSwitches, operands := 1 }

/-- The command that its options make. -/
def commandOf (name : String) (g : Given) : Except Stop Command :=
  match name with
  | "convert" =>
    match g.value? "step", g.value? "module", g.value? "params", g.value? "params-json" with
    | none, _, _, _ | _, none, _, _ | _, _, some _, some _ => .error .misuse
    | some step, some module, some path, none =>
      .ok (.convert step module (g.value? "platform") (.file path) (g.value? "registry"))
    | some step, some module, none, some text =>
      .ok (.convert step module (g.value? "platform") (.inline text) (g.value? "registry"))
    | some step, some module, none, none =>
      .ok (.convert step module (g.value? "platform") .nowhere (g.value? "registry"))
  | "plan" =>
    match g.operands with
    | [path] => .ok (.plan path (g.value? "registry"))
    | _ => .error .misuse
  | "modules" => .ok (.modules (g.value? "registry"))
  | _ =>
    match g.operands with
    | [path] => .ok (.validateRegistry path)
    | _ => .error .misuse

/-- Reads the arguments of the program. -/
def Invocation.ofArguments (args : List String) : Except Stop Invocation := do
  let outer ← read programGrammar {} none args
  match outer.command with
  | none => .error .misuse
  | some (name, rest) => do
    let inner ← read (commandGrammar name) {} none rest
    let command ← commandOf name inner
    return {
      verbose := outer.isSet "verbose" || inner.isSet "verbose"
      pretty := outer.isSet "pretty" || inner.isSet "pretty"
      config := inner.value? "config" <|> outer.value? "config"
      command }

/-- The files that an invocation names, settings first. -/
def Invocation.paths (i : Invocation) : List String :=
  i.config.toList ++
    match i.command with
    | .convert _ _ _ parameters registry =>
      (match parameters with
        | .file path => [path]
        | _ => []) ++ registry.toList
    | .plan path registry => path :: registry.toList
    | .modules registry => registry.toList
    | .validateRegistry path => [path]

end Provision.Cli
