import Provision.Cli.Run

/-!
# The program

Reads the files that the arguments name, and the registry file that the settings name, runs the
command on them, and writes what it leaves behind.
-/

namespace Provision.Cli

/-- The number of a system error, which comes with either sign. -/
def errorNumber (code : UInt32) : Nat :=
  if code < 0x80000000 then code.toNat else (0 - code).toNat

/-- What an error says about a file. -/
def faultOf (e : IO.Error) : FileFault :=
  match e with
  | .noFileOrDirectory .. => .notFound
  | .inappropriateType _ code _ | .invalidArgument _ code _ =>
    match errorNumber code with
    | 20 => .notADirectory
    | 21 => .isADirectory
    | 36 => .nameTooLong
    | _ => .other (toString e)
  | e => .other (toString e)

/-- What is under a path, as a run sees it. -/
def look (path : String) : IO (Except FileFault String) := do
  try
    match String.fromUTF8? (← IO.FS.readBinFile path) with
    | some text => return .ok text
    | none => return .error .notText
  catch e => return .error (faultOf e)

/-- Looks at some paths. -/
def snapshot (paths : List String) : IO (Table (Except FileFault String)) :=
  paths.foldlM (fun seen path => do return seen.insert path (← look path)) ∅

/-- The files that were looked at. -/
def filesOf (seen : Table (Except FileFault String)) : Files where
  read path := (seen.get? path).getD (.error .notFound)

/-- The files that a run on some arguments may read. -/
def filesFor (args : List String) : IO Files := do
  match Invocation.ofArguments args with
  | .error _ => return filesOf ∅
  | .ok i =>
    let seen ← snapshot i.paths
    match settingsOf (filesOf seen) i.config with
    | .ok _ => return filesOf seen
    | .error (.noRegistryFile path) => return filesOf (seen.insert path (← look path))
    | .error _ => return filesOf seen

end Provision.Cli

/-- Runs the program on its arguments. -/
def main (args : List String) : IO UInt32 := do
  let report := Provision.Cli.run (← Provision.Cli.filesFor args) args
  (← IO.getStdout).putStr report.output
  (← IO.getStderr).putStr report.messages
  return report.exit.toUInt32
