import Lifeline.Roster
import Lifeline.Interaction.Basic
import Lifeline.Fragment

namespace Lifeline

structure Diagram where
  name : String
  participants : List Participant
  interactions : List Interaction

namespace Diagram

/-- Adds a participant that is not there yet, after its owner and before the template it was made
from. Owners and templates are registered before what refers to them, so no chain of them is longer
than the roster. -/
def collect (r : Roster) : (room : Nat) → ParticipantId → List Participant → List Participant
  | 0, _, ps => ps
  | room + 1, id, ps =>
    if ps.any (·.id == id) then ps
    else
      match r.get? id with
      | none => ps
      | some p =>
        let withOwner := match p.owner with
          | some owner => collect r room owner ps
          | none => ps
        match p.instantiatedFrom with
        | some template => collect r room template (withOwner ++ [p])
        | none => withOwner ++ [p]

def assemble (name : String) (r : Roster) (interactions : List Interaction) : Diagram :=
  let mentioned := interactions.flatMap (·.participants)
  { name, interactions,
    participants := mentioned.foldl (fun ps id => collect r (r.size + 1) id ps) [] }

def participant? (d : Diagram) (id : ParticipantId) : Option Participant :=
  d.participants.find? (·.id == id)

def lifeline (d : Diagram) (id : ParticipantId) : ParticipantId :=
  ((d.participant? id).map (·.lifeline)).getD id

def used (d : Diagram) : List ParticipantId :=
  (d.interactions.flatMap (·.mentions)).map d.lifeline

def lifelines (d : Diagram) : List Participant :=
  d.participants.filter fun p => d.used.contains p.id

def messageCount (d : Diagram) : Nat :=
  d.interactions.foldl (fun n s => n + s.size) 0

def toJson (d : Diagram) : Json :=
  .obj [("name", .str d.name), ("participants", .arr (d.participants.map Participant.toJson)),
    ("sequences", .arr (d.interactions.map Interaction.toJson))]

end Diagram

inductive DrawStep
  | fragment (f : Fragment)
  | message (m : Message)

namespace Interaction

def stepsFrom (context : Context) : List Message → List DrawStep
  | [] => (Fragment.between context []).map .fragment
  | m :: rest =>
    (Fragment.between context m.context).map .fragment ++ .message m :: stepsFrom m.context rest

def steps (s : Interaction) : List DrawStep :=
  stepsFrom [] s.messages.toList

end Interaction

def ParticipantId.alias (id : ParticipantId) : String :=
  "P_" ++ id.hex

def Text.unlines (lines : List String) : String :=
  String.join (lines.map (· ++ "\n"))

end Lifeline
