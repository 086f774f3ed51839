import Lifeline.Settings.Basic

namespace Lifeline

inductive Command
  | init (dir : Option Path)
  | generate (dumps : List Path) (outputDir : Option Path)
    (diagrams : List String) (formats : List Format)
  | list
  | check (dumps : List Path)
  deriving DecidableEq, Repr

structure Invocation where
  settings : Option Path
  verbose : Bool
  command : Command
  deriving DecidableEq, Repr

inductive Usage
  | unknownArgument
  | unknownCommand
  | badValue
  | tooManyValues
  | conflict
  | missingCommand
  | help
  | version
  | helpInstead
  deriving DecidableEq, Repr

end Lifeline
