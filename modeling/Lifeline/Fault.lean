import Lifeline.Participant
import Lifeline.Source.Code

namespace Lifeline

inductive IoFault
  | notFound
  | exists
  | notDirectory
  | isDirectory
  | nameTooLong
  | nameHasNull
  | notText
  | other (text : String)
  deriving DecidableEq, Repr

def IoFault.message : IoFault → String
  | .notFound => "No such file or directory (os error 2)"
  | .exists => "File exists (os error 17)"
  | .notDirectory => "Not a directory (os error 20)"
  | .isDirectory => "Is a directory (os error 21)"
  | .nameTooLong => "File name too long (os error 36)"
  | .nameHasNull => "file name contained an unexpected NUL byte"
  | .notText => "stream did not contain valid UTF-8"
  | .other text => text

inductive Malformed
  | unknownDecl (id : DeclId)
  | notCallable (id : DeclId) (name : String)
  | notRecord (id : DeclId)
  | endlessScope (id : DeclId)
  | ownerNotRecord (owner : DeclId) (method : String)
  | endlessOrigin (id : DeclId)
  | unknownCoroutine (id : ParticipantId)
  | entryNotCallable (name : String)
  | entryWithoutBody (name : String)
  | undefinedEntry (selector : String)
  | unreadable (path : Path)
  deriving DecidableEq, Repr

def Malformed.message : Malformed → String
  | .unknownDecl id => s!"reference to unknown declaration {id.toNat}"
  | .notCallable id name => s!"declaration {id.toNat} ({name}) is not callable"
  | .notRecord id => s!"declaration {id.toNat} is not a record"
  | .endlessScope id => s!"scope chain of declaration {id.toNat} does not terminate"
  | .ownerNotRecord owner method => s!"owner {owner.toNat} of method {method} is not a record"
  | .endlessOrigin id => s!"instantiation chain of declaration {id.toNat} does not terminate"
  | .unknownCoroutine id => s!"coroutine state for unknown participant {id.hex}"
  | .entryNotCallable name => s!"entry point {name} is not callable"
  | .entryWithoutBody name => s!"entry point {name} has no body"
  | .undefinedEntry selector => s!"entry point {selector} has no definition in the loaded dumps"
  | .unreadable path => s!"{path.text}: not a translation unit"

inductive MissingEntry
  | noMatch (selector : String)
  | emptyFile (file : Path)
  | noCallers (selector : String)
  | excluded (name : String)
  deriving DecidableEq, Repr

def MissingEntry.message : MissingEntry → String
  | .noMatch selector => selector
  | .emptyFile file => s!"no functions defined in {file.text}"
  | .noCallers selector => s!"no callers of {selector}"
  | .excluded name => s!"{name} is excluded by the diagram filters"

inductive BadSettings
  | unreadable
  | unwritable
  | nothingToDraw (diagram : String)
  | targetOutsideChains (diagram : String)
  | noDepth (diagram : String)
  | unknownDiagram (diagram : String)
  deriving DecidableEq, Repr

def BadSettings.message : BadSettings → String
  | .unreadable => "the file does not hold settings"
  | .unwritable => "the settings have no written form"
  | .nothingToDraw d => s!"diagram '{d}' has neither start_from entries nor a 'to' target"
  | .targetOutsideChains d => s!"diagram '{d}' sets 'to' but is not in chains mode"
  | .noDepth d => s!"diagram '{d}' has max_depth = 0"
  | .unknownDiagram d => s!"Unknown diagram: {d}"

inductive Fault
  | settings (cause : BadSettings)
  | malformed (cause : Malformed)
  | missingEntry (cause : MissingEntry)
  | pattern (text : String)
  | io (cause : IoFault)
  | walk (path : Path) (cause : IoFault)
  | oversized (path : Path)
  | diagram (name : String) (cause : Fault)
  deriving DecidableEq, Repr

def Fault.message : Fault → String
  | .settings cause => "Configuration error: " ++ cause.message
  | .malformed cause => "Malformed AST: " ++ cause.message
  | .missingEntry cause => "Entry point not found: " ++ cause.message
  | .pattern text => "Invalid filter pattern: " ++ text
  | .io cause => "IO error: " ++ cause.message
  | .walk path cause =>
    s!"File system error: {path.text}: IO error for operation on {path.text}: {cause.message}"
  | .oversized path => s!"File system error: AST dump {path.text} exceeds maximum size limit"
  | .diagram name cause => s!"Diagram '{name}' failed: " ++ cause.message

end Lifeline
