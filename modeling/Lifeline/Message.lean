import Lifeline.Frame

namespace Lifeline

inductive MessageKind
  | call
  | response
  | asyncCall
  | coAwait
  deriving DecidableEq, Repr

def MessageKind.word : MessageKind → String
  | .call => "call"
  | .response => "response"
  | .asyncCall => "async_call"
  | .coAwait => "co_await"

inductive MessageScope
  | normal
  | condition
  deriving DecidableEq, Repr

def MessageScope.word : MessageScope → String
  | .normal => "normal"
  | .condition => "condition"

/-- How sure it is that the message goes where it is drawn. -/
inductive Certainty
  | exact
  | staticType
  | approximate
  | external
  deriving DecidableEq, Repr

def Certainty.word : Certainty → String
  | .exact => "exact"
  | .staticType => "static_type_only"
  | .approximate => "approximate"
  | .external => "external"

structure Message where
  sender : ParticipantId
  receiver : ParticipantId
  operation : String
  kind : MessageKind
  context : Context
  /-- How many calls lie between the entry point and the sender. -/
  depth : Nat
  scope : MessageScope
  certainty : Certainty
  location : Option Location
  returnType : Option String
  note : Option String
  deriving DecidableEq, Repr

namespace Message

def isResponse (m : Message) : Bool :=
  m.kind == .response

def isAt (m : Message) (site : Location) : Bool :=
  match m.location with
  | some l => l.same site
  | none => false

open Json (optionalField)

def toJson (m : Message) : Json :=
  .obj ([("from", m.sender.toJson), ("to", m.receiver.toJson), ("operation", .str m.operation),
    ("kind", .str m.kind.word), ("context", .arr (m.context.map Frame.toJson)),
    ("depth", .num m.depth), ("scope", .str m.scope.word), ("resolution", .str m.certainty.word)] ++
    optionalField "location" Location.toJson m.location ++
    optionalField "return_type" .str m.returnType ++
    optionalField "note" .str m.note)

end Message

end Lifeline
