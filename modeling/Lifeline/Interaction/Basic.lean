import Lifeline.Message
import Lifeline.Text.White
import Lifeline.Distinct

namespace Lifeline

structure Interaction where
  label : String := ""
  entryPoints : List ParticipantId := []
  messages : Array Message := #[]
  deriving DecidableEq, Repr

namespace Interaction

def push (s : Interaction) (m : Message) : Interaction :=
  { s with messages := s.messages.push m }

def size (s : Interaction) : Nat :=
  s.messages.size

def calls (s : Interaction) : List Message :=
  s.messages.toList.filter fun m => !m.isResponse

def lastCallAt? (s : Interaction) (site : Location) : Option Nat :=
  (List.range s.size).reverse.find? fun i =>
    match s.messages[i]? with
    | some m => !m.isResponse && m.isAt site
    | none => false

def setNote (s : Interaction) (i : Nat) (note : String) : Interaction :=
  { s with messages := s.messages.modify i fun m => { m with note := some (Text.trim note) } }

def attachNote? (s : Interaction) (site : Location) (note : String) : Option Interaction :=
  (s.lastCallAt? site).map (s.setNote · note)

def mentions (s : Interaction) : List ParticipantId :=
  s.entryPoints ++ s.messages.toList.flatMap fun m => [m.sender, m.receiver]

def participants (s : Interaction) : List ParticipantId :=
  distinctBy id s.mentions

def toJson (s : Interaction) : Json :=
  .obj [("label", .str s.label), ("entry_points", .arr (s.entryPoints.map ParticipantId.toJson)),
    ("messages", .arr (s.messages.toList.map Message.toJson))]

end Interaction

end Lifeline
