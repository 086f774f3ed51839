import Lifeline.Participant

namespace Lifeline

inductive BranchKind
  | ifElse
  | atCompileTime
  | switch
  | conditional
  deriving DecidableEq, Repr

def BranchKind.word : BranchKind → String
  | .ifElse => "if"
  | .atCompileTime => "constexpr"
  | .switch => "switch"
  | .conditional => "conditional"

inductive LoopKind
  | forLoop
  | forEach
  | whileLoop
  | doLoop
  deriving DecidableEq, Repr

def LoopKind.word : LoopKind → String
  | .forLoop => "for"
  | .forEach => "for_range"
  | .whileLoop => "while"
  | .doLoop => "do_while"

/-- `block` numbers the statements with frames in the order in which a trace comes upon them. -/
inductive Frame
  | branch (block : Nat) (kind : BranchKind) (index total : Nat) (label : Option String)
  | loop (block : Nat) (kind : LoopKind) (label : Option String)
  | handler (block : Nat) (index : Nat) (label : Option String)
  | coroutine (block : Nat) (label : Option String)
  deriving DecidableEq, Repr

abbrev Context := List Frame

namespace Frame

def block : Frame → Nat
  | .branch b _ _ _ _ => b
  | .loop b _ _ => b
  | .handler b _ _ => b
  | .coroutine b _ => b

def label : Frame → Option String
  | .branch _ _ _ _ l => l
  | .loop _ _ l => l
  | .handler _ _ l => l
  | .coroutine _ l => l

def isAlternativeOf : Frame → Frame → Bool
  | .branch a _ i _ _, .branch b _ j _ _ => a == b && i != j
  | .handler a i _, .handler b j _ => a == b && i != j
  | _, _ => false

open Json (optionalField)

def toJson : Frame → Json
  | .branch block kind index total label =>
    .obj ([("frame", .str "branch"), ("block", .num block), ("kind", .str kind.word),
      ("index", .num index), ("total", .num total)] ++ optionalField "label" .str label)
  | .loop block kind label =>
    .obj ([("frame", .str "loop"), ("block", .num block), ("kind", .str kind.word)] ++
      optionalField "label" .str label)
  | .handler block index label =>
    .obj ([("frame", .str "try_catch"), ("block", .num block), ("handler", .num index)] ++
      optionalField "label" .str label)
  | .coroutine block label =>
    .obj ([("frame", .str "coroutine"), ("block", .num block)] ++ optionalField "label" .str label)

end Frame

namespace Context

def sharedLength : Context → Context → Nat
  | f :: fs, g :: gs => if f = g then sharedLength fs gs + 1 else 0
  | _, _ => 0

end Context

structure FrameStack where
  frames : Context := []
  blocks : Nat := 0

namespace FrameStack

def nextBlock (s : FrameStack) : Nat × FrameStack :=
  (s.blocks, { s with blocks := s.blocks + 1 })

def enter (s : FrameStack) (f : Frame) : Nat × FrameStack :=
  (s.frames.length, { s with frames := s.frames ++ [f] })

def leave (s : FrameStack) (mark : Nat) : FrameStack :=
  { s with frames := s.frames.take mark }

end FrameStack

end Lifeline
