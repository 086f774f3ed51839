import Lifeline.Command.Basic

namespace Lifeline

inductive OptionAction
  | flag
  | once
  | repeated
  | help
  | version
  deriving DecidableEq, Repr

structure OptionSpec where
  short : Char
  long : String
  action : OptionAction
  accepts : String → Bool := fun _ => true

namespace OptionSpec

def takesValue (o : OptionSpec) : Bool :=
  o.action == .once || o.action == .repeated

end OptionSpec

structure Grammar where
  options : List OptionSpec
  commands : List String

structure Given where
  values : List (String × String) := []
  /-- The last option, and its value if that was given. It counts only when the next option comes,
  or at the end. -/
  pending : Option (OptionSpec × Option String) := none
  isTrailing : Bool := false

namespace Given

def has (g : Given) (o : OptionSpec) : Bool :=
  g.values.any (·.1 == o.long)

def add (g : Given) (o : OptionSpec) (value : String) : Given :=
  { g with values := g.values ++ [(o.long, value)] }

def apply (g : Given) (o : OptionSpec) (value : String) : Except Usage Given :=
  match o.action with
  | .help => .error .help
  | .version => .error .version
  | .flag => if g.has o then .error .conflict else .ok (g.add o value)
  | .once =>
    if g.has o then .error .conflict
    else if o.accepts value then .ok (g.add o value)
    else .error .badValue
  | .repeated => if o.accepts value then .ok (g.add o value) else .error .badValue

def settle (g : Given) : Except Usage Given :=
  match g.pending with
  | none => .ok g
  | some (_, none) => .error .badValue
  | some (o, some value) => { g with pending := none }.apply o value

def awaitsValue (g : Given) : Bool :=
  match g.pending with
  | some (_, none) => true
  | _ => false

def option (g : Given) (o : OptionSpec) (attached : Option String) : Except Usage Given := do
  let g ← g.settle
  if o.takesValue then
    match attached with
    | some value => g.apply o value
    | none => return { g with pending := some (o, none) }
  else g.apply o ""

def value? (g : Given) (long : String) : Option String :=
  g.values.lookup long

def values? (g : Given) (long : String) : List String :=
  (g.values.filter (·.1 == long)).map (·.2)

end Given

namespace Grammar

def splitLong (cs : List Char) : String × Option String :=
  let name := String.ofList (cs.takeWhile (· != '='))
  match cs.dropWhile (· != '=') with
  | [] => (name, none)
  | _ :: value => (name, some (String.ofList value))

def readLong (grammar : Grammar) (g : Given) (cs : List Char) : Except Usage Given :=
  let (name, attached) := splitLong cs
  match grammar.options.find? (·.long == name) with
  | none => .error .unknownArgument
  | some o =>
    if attached.isSome && !o.takesValue then .error .tooManyValues else g.option o attached

def attachedValue : List Char → Option String
  | [] => none
  | '=' :: value => some (String.ofList value)
  | value => some (String.ofList value)

def readShort (grammar : Grammar) (g : Given) : List Char → Except Usage Given
  | [] => .ok g
  | c :: rest =>
    match grammar.options.find? (·.short == c) with
    | none => .error .unknownArgument
    | some o =>
      if o.takesValue then g.option o (attachedValue rest)
      else do grammar.readShort (← g.option o none) rest

def stray (grammar : Grammar) (g : Given) (arg : String) : Usage :=
  if grammar.commands.isEmpty then .unknownArgument
  else if g.isTrailing && grammar.commands.contains arg then .unknownArgument
  else .unknownCommand

def readArg (grammar : Grammar) (g : Given) (arg : String) : Except Usage Given :=
  if g.isTrailing then .error (grammar.stray g arg)
  else
    match arg.toList with
    | ['-', '-'] => .ok { g with isTrailing := true }
    | '-' :: '-' :: cs => grammar.readLong g cs
    | '-' :: c :: cs => grammar.readShort g (c :: cs)
    | _ =>
      match g.pending with
      | some (o, none) => .ok { g with pending := some (o, some arg) }
      | _ => .error (grammar.stray g arg)

def isCommand (grammar : Grammar) (g : Given) (arg : String) : Bool :=
  !g.isTrailing && !g.awaitsValue && grammar.commands.contains arg

def read (grammar : Grammar) (g : Given) :
    List String → Except Usage (Given × Option (String × List String))
  | [] => .ok (g, none)
  | arg :: rest =>
    if grammar.isCommand g arg then .ok (g, some (arg, rest))
    else do grammar.read (← grammar.readArg g arg) rest

def readAll (grammar : Grammar) (args : List String) : Except Usage Given := do
  let (g, _) ← grammar.read {} args
  g.settle

end Grammar

namespace Command

def isPath (s : String) : Bool :=
  !s.isEmpty

def isFormat (s : String) : Bool :=
  (Format.ofWord? s).isSome

def helpOption : OptionSpec := { short := 'h', long := "help", action := .help }

def dumpsOption : OptionSpec :=
  { short := 'a', long := "ast", action := .repeated, accepts := isPath }

def names : List String := ["init", "generate", "list", "check", "help"]

def topGrammar : Grammar where
  options := [
    { short := 'c', long := "config", action := .once, accepts := isPath },
    { short := 'v', long := "verbose", action := .flag },
    helpOption,
    { short := 'V', long := "version", action := .version }]
  commands := names

def initGrammar : Grammar where
  options := [{ short := 'p', long := "path", action := .once, accepts := isPath }, helpOption]
  commands := []

def generateGrammar : Grammar where
  options := [
    dumpsOption,
    { short := 'o', long := "output", action := .once, accepts := isPath },
    { short := 'd', long := "diagram", action := .repeated },
    { short := 'f', long := "format", action := .repeated, accepts := isFormat },
    helpOption]
  commands := []

def listGrammar : Grammar where
  options := [helpOption]
  commands := []

def checkGrammar : Grammar where
  options := [dumpsOption, helpOption]
  commands := []

def helpOn : List String → Usage
  | [] => .help
  | [name] => if names.contains name then .help else .unknownCommand
  | _ => .unknownCommand

def ofArgs (name : String) (args : List String) : Except Usage Command := do
  match name with
  | "init" =>
    let g ← initGrammar.readAll args
    return .init ((g.value? "path").map Path.mk)
  | "generate" =>
    let g ← generateGrammar.readAll args
    return .generate ((g.values? "ast").map Path.mk) ((g.value? "output").map Path.mk)
      (g.values? "diagram") ((g.values? "format").filterMap Format.ofWord?)
  | "list" =>
    let _ ← listGrammar.readAll args
    return .list
  | "check" =>
    let g ← checkGrammar.readAll args
    return .check ((g.values? "ast").map Path.mk)
  | _ => throw (helpOn args)

end Command

namespace Invocation

def ofArgs (args : List String) : Except Usage Invocation := do
  let (g, command) ← Command.topGrammar.read {} args
  match command with
  | some (name, rest) =>
    let command ← Command.ofArgs name rest
    let g ← g.settle
    return {
      settings := (g.value? "config").map Path.mk, verbose := (g.value? "verbose").isSome, command }
  | none =>
    let g ← g.settle
    throw (if g.values.isEmpty then .helpInstead else .missingCommand)

end Invocation

end Lifeline
