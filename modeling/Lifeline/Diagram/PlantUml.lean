import Lifeline.Diagram.Basic

namespace Lifeline.PlantUml

def keyword : ParticipantKind → String
  | .external => "entity"
  | .file => "collections"
  | _ => "participant"

def declaration (p : Participant) : String :=
  keyword p.kind ++ " \"" ++ p.fullName ++ "\" as " ++ p.id.alias

def withCaption (keyword : String) (f : Frame) : String :=
  match f.caption? with
  | some caption => keyword ++ " " ++ caption
  | none => keyword

def fragmentKeyword : Frame → String
  | .branch _ _ _ _ _ => "alt"
  | .loop _ _ _ => "loop"
  | .handler _ _ _ => "group catch"
  | .coroutine _ _ => "group coroutine"

def fragmentLine : Fragment → String
  | .opening f => withCaption (fragmentKeyword f) f
  | .alternative f => withCaption "else" f
  | .closing _ => "end"

def label (d : Diagram) (m : Message) : String :=
  let isStatic := (d.participant? m.receiver).any (·.isStatic)
  let operation := if isStatic then "__" ++ m.operation ++ "__" else m.operation
  let awaited := if m.kind = .coAwait then "<<co_await>> " ++ operation else operation
  if m.scope = .condition then "**[**" ++ awaited ++ "**]**" else awaited

def arrow (m : Message) : String :=
  if m.kind = .asyncCall then "->>" else "->"

def messageLines (d : Diagram) (m : Message) : List String :=
  let sender := (d.lifeline m.sender).alias
  let receiver := (d.lifeline m.receiver).alias
  if m.isResponse then
    if m.operation = "" || m.operation = "void" then [sender ++ " --> " ++ receiver]
    else [sender ++ " --> " ++ receiver ++ " : //" ++ m.operation ++ "//"]
  else
    let note := match m.note with
      | some note => ["note right", Text.noteText note, "end note"]
      | none => []
    (sender ++ " " ++ arrow m ++ " " ++ receiver ++ " : " ++ label d m) :: note

def stepLines (d : Diagram) : DrawStep → List String
  | .fragment f => [fragmentLine f]
  | .message m => messageLines d m

def heading (d : Diagram) (index : Nat) (s : Interaction) : List String :=
  if d.interactions.length > 1 then
    (if index > 0 then ["newpage"] else []) ++ ["== " ++ s.label ++ " =="]
  else []

def interactionLines (d : Diagram) (index : Nat) (s : Interaction) : List String :=
  heading d index s ++ s.steps.flatMap (stepLines d)

def lines (d : Diagram) : List String :=
  ["@startuml", "title " ++ d.name] ++ d.lifelines.map declaration ++
    (d.interactions.mapIdx (interactionLines d)).flatten ++ ["@enduml"]

def render (d : Diagram) : String :=
  Text.unlines (lines d)

end Lifeline.PlantUml
