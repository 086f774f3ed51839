import Lifeline.Source.Location
import Lifeline.Text.Hex

namespace Lifeline

structure ParticipantId where
  value : UInt64
  deriving DecidableEq, Repr, Inhabited

namespace ParticipantId

/-- Stands for whatever the filter keeps out of the diagram. -/
def tombstone : ParticipantId := ⟨0⟩

def isTombstone (id : ParticipantId) : Bool :=
  id == tombstone

def hex (id : ParticipantId) : String :=
  Text.hex 16 id.value.toNat

def toJson (id : ParticipantId) : Json :=
  .str id.hex

end ParticipantId

inductive ParticipantKind
  | function
  | method
  | cls
  | lambda
  | coroutineState
  | file
  | external
  deriving DecidableEq, Repr

namespace ParticipantKind

def word : ParticipantKind → String
  | .function => "function"
  | .method => "method"
  | .cls => "class"
  | .lambda => "lambda"
  | .coroutineState => "coroutine_state"
  | .file => "file"
  | .external => "external"

def tag : ParticipantKind → String
  | .coroutineState => "coroutine"
  | kind => kind.word

end ParticipantKind

structure Participant where
  id : ParticipantId
  kind : ParticipantKind
  qualifiedName : String
  fullName : String
  operation : String
  namespaceName : String
  location : Option Location
  /-- The class or file on whose lifeline this participant is drawn. -/
  owner : Option ParticipantId
  instantiatedFrom : Option ParticipantId
  returnType : Option String
  isStatic : Bool
  deriving DecidableEq, Repr

namespace Participant

def keyOf (kind : ParticipantKind) (fullName : String) : String :=
  kind.tag ++ ":" ++ fullName

def key (p : Participant) : String :=
  keyOf p.kind p.fullName

def lifeline (p : Participant) : ParticipantId :=
  p.owner.getD p.id

def toJson (p : Participant) : Json :=
  .obj ([("id", p.id.toJson), ("kind", .str p.kind.word), ("qualified_name", .str p.qualifiedName),
    ("full_name", .str p.fullName), ("operation", .str p.operation),
    ("namespace", .str p.namespaceName)] ++
    Json.optionalField "location" Location.toJson p.location ++
    Json.optionalField "owner" ParticipantId.toJson p.owner ++
    Json.optionalField "instantiated_from" ParticipantId.toJson p.instantiatedFrom ++
    Json.optionalField "return_type" .str p.returnType ++
    [("is_static", .bool p.isStatic)])

end Participant

end Lifeline
