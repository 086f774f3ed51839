import Lifeline.Command.Arguments
import Lifeline.Command.Run

namespace Lifeline

def IoFault.ofError : IO.Error → IoFault
  | .noFileOrDirectory _ _ _ => .notFound
  | .alreadyExists _ _ _ => .exists
  | .inappropriateType _ code details =>
    if code == 20 then .notDirectory else if code == 21 then .isDirectory else .other details
  | .invalidArgument _ code details => if code == 36 then .nameTooLong else .other details
  | e => .other (toString e)

def IoFault.catching (p : Path) (action : IO α) : IO (Except IoFault α) := do
  match p.check with
  | .error cause => return .error cause
  | .ok _ =>
    try return .ok (← action)
    catch e => return .error (IoFault.ofError e)

instance : Files IO where
  workingDir := do return ⟨(← IO.currentDir).toString⟩
  kind? p := do
    let path := (← IO.currentDir) / p.text
    if p.check matches .error _ || !(← path.pathExists) then return none
    else if ← path.isDir then return some .directory
    else return some .file
  absolute? p := do
    match ← IoFault.catching p (IO.FS.realPath p.text) with
    | .ok path => return some ⟨path.toString⟩
    | .error _ => return none
  read p := do
    if !(p.check matches .error _) && (← ((← IO.currentDir) / p.text).isDir) then
      return .error .isDirectory
    else IoFault.catching p (IO.FS.readBinFile p.text)
  list p := IoFault.catching p do
    let entries ← ((← IO.currentDir) / p.text).readDir
    entries.toList.mapM
      fun e => do return (e.fileName, if ← e.path.isDir then .directory else .file)
  createDir p := IoFault.catching p (IO.FS.createDir p.text)
  write p text := IoFault.catching p (IO.FS.writeFile p.text text)

def usageText : String :=
  "Usage: lifeline [-c FILE] [-v] <init|generate|list|check> [OPTIONS]"

def Usage.explanation : Usage → String
  | .unknownArgument => "unexpected argument"
  | .unknownCommand => "unrecognized subcommand"
  | .badValue => "invalid or missing value"
  | .tooManyValues => "unexpected value"
  | .conflict => "an argument cannot be used multiple times"
  | .missingCommand => "a subcommand is required"
  | .help => "help"
  | .version => "version"
  | .helpInstead => "help"

def Usage.report : Usage → IO UInt32
  | .help => do IO.println usageText; return 0
  | .version => do IO.println "lifeline"; return 0
  | .helpInstead => do IO.eprintln usageText; return 2
  | u => do IO.eprintln ("error: " ++ u.explanation ++ "\n\n" ++ usageText); return 2

end Lifeline

open Lifeline in
def main (args : List String) : IO UInt32 := do
  match Invocation.ofArgs args with
  | .error usage => usage.report
  | .ok invocation =>
    match ← (invocation.run : ExceptT Failure IO Output).run with
    | .ok lines => do
      lines.forM IO.println
      return 0
    | .error failure => do
      IO.eprintln ("Error: " ++ failure.message)
      return 1
