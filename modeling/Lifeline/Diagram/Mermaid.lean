import Lifeline.Diagram.Basic

namespace Lifeline.Mermaid

/-- A semicolon would end the statement, and a number sign starts an entity. -/
def escapeChar : Char → List Char
  | '#' => "#35;".toList
  | ';' => "#59;".toList
  | c => [c]

def escape (text : String) : String :=
  String.ofList (text.toList.flatMap escapeChar)

def keyword : ParticipantKind → String
  | .external => "actor"
  | _ => "participant"

def declaration (p : Participant) : String :=
  keyword p.kind ++ " " ++ p.id.alias ++ " as " ++ escape p.fullName

def opening : Frame → String × String
  | .branch _ _ _ _ _ => ("alt", "")
  | .loop _ _ _ => ("loop", "")
  | .handler _ _ _ => ("critical", "catch")
  | .coroutine _ _ => ("opt", "coroutine")

def alternative : Frame → String
  | .handler _ _ _ => "option"
  | _ => "else"

def fragmentLine : Fragment → String
  | .opening f => (opening f).1 ++ " " ++ escape (f.caption?.getD (opening f).2)
  | .alternative f => alternative f ++ " " ++ escape (f.caption?.getD "")
  | .closing _ => "end"

def label (m : Message) : String :=
  let operation := escape m.operation
  let awaited := if m.kind = .coAwait then "co_await " ++ operation else operation
  if m.scope = .condition then "[" ++ awaited ++ "]" else awaited

def arrow (m : Message) : String :=
  if m.kind = .asyncCall then "-)" else "->>"

def messageLines (d : Diagram) (m : Message) : List String :=
  let sender := (d.lifeline m.sender).alias
  let receiver := (d.lifeline m.receiver).alias
  if m.isResponse then
    [sender ++ "-->>" ++ receiver ++ ": " ++
      (if m.operation = "void" then "" else escape m.operation)]
  else
    let note := match m.note with
      | some note => ["Note right of " ++ receiver ++ ": " ++ escape (Text.noteText note)]
      | none => []
    (sender ++ arrow m ++ receiver ++ ": " ++ label m) :: note

def stepLines (d : Diagram) : DrawStep → List String
  | .fragment f => [fragmentLine f]
  | .message m => messageLines d m

def headingAlias (d : Diagram) (s : Interaction) : String :=
  match s.entryPoints with
  | id :: _ => (d.lifeline id).alias
  | [] => (d.lifelines.head?.map (·.id.alias)).getD ""

def interactionLines (d : Diagram) (s : Interaction) : List String :=
  let body := s.steps.flatMap (stepLines d)
  if d.interactions.length > 1 then
    ["rect rgb(250, 250, 250)", "Note over " ++ headingAlias d s ++ ": " ++ escape s.label] ++
      body ++ ["end"]
  else body

def lines (d : Diagram) : List String :=
  "sequenceDiagram" ::
    (d.lifelines.map declaration ++ d.interactions.flatMap (interactionLines d)).map ("    " ++ ·)

def render (d : Diagram) : String :=
  Text.unlines (lines d)

end Lifeline.Mermaid
