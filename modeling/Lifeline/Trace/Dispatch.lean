import Lifeline.Trace.Basic

namespace Lifeline

inductive Flow
  | goOn
  | exit
  deriving DecidableEq, Repr

inductive Descent
  | visited
  | noBody
  | refused
  deriving DecidableEq, Repr

def Descent.orElse (unvisited : Visit Unit) : Descent → Visit Unit
  | .noBody => unvisited
  | .visited => pure ()
  | .refused => pure ()

abbrev Enter := Activation → Function → Stmt → String → Visit Unit

namespace Tracer

def caption (t : Tracer) (text : Option String) : Option String :=
  if t.options.conditionText then text else none

def send (a : Activation) (kind : MessageKind) (certainty : Certainty) (target : Target)
    (location : Option Location) : Visit (Option Nat) := do
  let s ← get
  if s.roster.isVisible a.caller && s.roster.isVisible target.participant then
    Visit.push {
      sender := a.caller, receiver := target.participant, operation := target.operation, kind,
      context := a.context, depth := a.depth, scope := a.scope, certainty, location,
      returnType := (s.roster.get? target.participant).bind (·.returnType), note := none }
    return some s.interaction.size
  else return none

def respond (a : Activation) (sender receiver : ParticipantId) (operation : String)
    (location : Option Location) : Visit Unit :=
  Visit.push {
    sender, receiver, operation, kind := .response, context := a.context, depth := a.depth,
    scope := .normal, certainty := .exact, location, returnType := none, note := none }

def comment (t : Tracer) (sent : Option Nat) (location : Option Location)
    (text : Option String) : Visit Unit :=
  match sent, text with
  | some i, some text =>
    if t.options.comments then
      modify fun s =>
        match location with
        | some site =>
          { s with interaction := (s.interaction.attachNote? site text).getD s.interaction }
        | none => { s with interaction := s.interaction.setNote i text }
    else pure ()
  | _, _ => pure ()

def descend (enter : Enter) (a : Activation) (target : Target) (args : List Value)
    (inlined : Bool) : Visit Descent := do
  match target.function with
  | none => return .noBody
  | some f =>
    match f.body with
    | none => return .noBody
    | some body =>
      match a.path.enter (target.participant, target.operation) with
      | .recursive => return .refused
      | .tooDeep => return .refused
      | .entered path =>
        Visit.withScopes (.forBody target.captured f.params args)
          (enter (a.calling path target.participant inlined) f body target.operation)
        return .visited

def externalTarget (t : Tracer) (name : String) : Visit (Option Target) := do
  match t.options.unresolved with
  | .elide => return none
  | .external =>
    let participant ← Visit.cast (t.casting.intern (.external name))
    if participant.isTombstone then return none
    return some {
      participant, function := none, operation := (← get).roster.operation participant,
      captured := none }

def isInlined (t : Tracer) (roster : Roster) (target : Target) : Bool :=
  t.options.inlineLambdas && ((roster.get? target.participant).map (·.kind)) == some .lambda

def announce (t : Tracer) (a : Activation) (kind : MessageKind) (certainty : Certainty)
    (target : Target) (location : Option Location) (text : Option String) : Visit (Option Nat) := do
  let sent ← send a kind certainty target location
  t.comment sent location text
  return sent

def answer (t : Tracer) (a : Activation) (kind : MessageKind) (target : Target)
    (sent : Option Nat) : Visit Unit := do
  if sent.isSome && kind != .asyncCall && t.options.returnMessages then
    let returnType := ((← get).roster.get? target.participant).bind (·.returnType)
    respond a target.participant a.caller (returnType.getD "") none

/-- A call that lands: message, body and response. `unvisited` is done in place of the body when
there is none to visit. -/
def deliver (t : Tracer) (enter : Enter) (a : Activation) (kind : MessageKind)
    (certainty : Certainty) (target : Target) (args : List Value) (location : Option Location)
    (text : Option String) (unvisited : Visit Unit) : Visit Unit := do
  let inlined := t.isInlined (← get).roster target
  let sent ← if inlined then pure none else t.announce a kind certainty target location text
  (← descend enter a target args inlined).orElse unvisited
  t.answer a kind target sent

def follow (t : Tracer) (enter : Enter) (a : Activation) (kind : MessageKind)
    (resolution : Resolution) (args : List Value) (location : Option Location)
    (text : Option String) (unvisited : Visit Unit) :
    Visit Unit := do
  match resolution with
  | .found certainty target => t.deliver enter a kind certainty target args location text unvisited
  | .filtered => unvisited
  | .unresolved name =>
    match ← t.externalTarget name with
    | some target => t.deliver enter a kind .external target args location text unvisited
    | none => unvisited

/-- Closures handed to a callee that is not visited are taken to be called by it, so they are drawn
as called from here. -/
def callClosures (t : Tracer) (enter : Enter) (a : Activation) (location : Option Location) :
    List Value → Visit Unit
  | [] => pure ()
  | .lambda operator captured :: rest => do
    let resolution ← Visit.cast (t.casting.resolveValue (.lambda operator captured) "lambda")
    t.follow enter a .call resolution [] location none (pure ())
    t.callClosures enter a location rest
  | _ :: rest => t.callClosures enter a location rest

def dispatch (t : Tracer) (enter : Enter) (a : Activation) (kind : MessageKind)
    (resolution : Resolution) (args : List Value) (location : Option Location)
    (text : Option String) : Visit Unit :=
  t.follow enter a kind resolution args location text (t.callClosures enter a location args)

end Tracer

end Lifeline
