import Lifeline.Trace.Run

/-! Walking through code in place. A visit is handed the activation, so it cannot change it for
those who come after. A walker holds everything that visits read and change in one state; what is
changed for the time of a part of the code has to be put back afterwards, also when that part fails.
Frames and calls are left at the marks given out when they were entered, scopes are popped, and the
rest is put back as it was saved. -/

namespace Lifeline

structure Walker where
  stack : FrameStack
  path : CallPath
  scopes : Scopes
  caller : ParticipantId
  returnTo : Option ParticipantId
  scope : MessageScope
  inlined : Nat
  roster : Roster
  interaction : Interaction

abbrev Walk := ExceptT Fault (StateM Walker)

namespace Walker

def depth (x : Walker) : Nat :=
  x.path.depth - (1 + x.inlined)

def activation (x : Walker) : Activation where
  path := x.path
  context := x.stack.frames
  caller := x.caller
  returnTo := x.returnTo
  scope := x.scope
  inlined := x.inlined

def trace (x : Walker) : Trace where
  roster := x.roster
  blocks := x.stack.blocks
  interaction := x.interaction
  scopes := x.scopes

def of (a : Activation) (s : Trace) : Walker where
  stack := ⟨a.context, s.blocks⟩
  path := a.path
  scopes := s.scopes
  caller := a.caller
  returnTo := a.returnTo
  scope := a.scope
  inlined := a.inlined
  roster := s.roster
  interaction := s.interaction

def calling (x : Walker) (path : CallPath) (scopes : Scopes) (callee : ParticipantId)
    (inlined : Bool) : Walker :=
  if inlined then { x with path, scopes, inlined := x.inlined + 1 }
  else { x with path, scopes, caller := callee, returnTo := some x.caller, scope := .normal }

/-- Back from a callee that was entered from `x`. The call is left at its mark, the count of
closures goes down again, and what had been saved is put back. -/
def back (x y : Walker) (inlined : Bool) : Walker :=
  { y with
    path := y.path.leave x.path.depth, scopes := x.scopes, caller := x.caller,
      returnTo := x.returnTo, scope := x.scope,
    inlined := if inlined then y.inlined - 1 else y.inlined }

def begin (x : Walker) (p : ParticipantId) : Walker :=
  { x with
    interaction := { x.interaction with entryPoints := x.interaction.entryPoints ++ [p] } }

end Walker

namespace Walk

abbrev Enter := Function → Stmt → String → Walk Unit

def cast (v : Cast α) : Walk α := fun x =>
  match v x.roster with
  | (result, roster) => (result, { x with roster })

def nextBlock : Walk Nat :=
  modifyGet fun x => (x.stack.nextBlock.1, { x with stack := x.stack.nextBlock.2 })

def push (m : Message) : Walk Unit :=
  modify fun x => { x with interaction := x.interaction.push m }

def inFrame (f : Frame) (w : Walk α) : Walk α := fun x =>
  match w { x with stack := (x.stack.enter f).2 } with
  | (result, y) => (result, { y with stack := y.stack.leave (x.stack.enter f).1 })

def inScope (w : Walk α) : Walk α := fun x =>
  match w { x with scopes := x.scopes.push } with
  | (result, y) => (result, { y with scopes := y.scopes.pop })

def inCondition (w : Walk α) : Walk α := fun x =>
  match w { x with scope := .condition } with
  | (result, y) => (result, { y with scope := x.scope })

def inCallee (path : CallPath) (scopes : Scopes) (callee : ParticipantId) (inlined : Bool)
    (w : Walk α) : Walk α := fun x =>
  match w (x.calling path scopes callee inlined) with
  | (result, y) => (result, x.back y inlined)

def inEntry (path : CallPath) (entry : ParticipantId) (w : Walk α) : Walk α := fun x =>
  match w
    { x with path, scopes := .empty, caller := entry, returnTo := none, scope := .normal } with
  | (result, y) => (result, { y with path := y.path.leave x.path.depth })

end Walk

def Descent.orWalk (unvisited : Walk Unit) : Descent → Walk Unit
  | .noBody => unvisited
  | .visited => pure ()
  | .refused => pure ()

namespace Tracer

def walkSend (kind : MessageKind) (certainty : Certainty) (target : Target)
    (location : Option Location) : Walk (Option Nat) := do
  let x ← get
  if x.roster.isVisible x.caller && x.roster.isVisible target.participant then
    Walk.push {
      sender := x.caller, receiver := target.participant, operation := target.operation, kind,
      context := x.stack.frames, depth := x.depth, scope := x.scope, certainty, location,
      returnType := (x.roster.get? target.participant).bind (·.returnType), note := none }
    return some x.interaction.size
  else return none

def walkRespond (sender receiver : ParticipantId) (operation : String)
    (location : Option Location) : Walk Unit := do
  let x ← get
  Walk.push {
    sender, receiver, operation, kind := .response, context := x.stack.frames, depth := x.depth,
    scope := .normal, certainty := .exact, location, returnType := none, note := none }

def walkComment (t : Tracer) (sent : Option Nat) (location : Option Location)
    (text : Option String) : Walk Unit :=
  match sent, text with
  | some i, some text =>
    if t.options.comments then
      modify fun x =>
        match location with
        | some site =>
          { x with interaction := (x.interaction.attachNote? site text).getD x.interaction }
        | none => { x with interaction := x.interaction.setNote i text }
    else pure ()
  | _, _ => pure ()

def walkDescend (enter : Walk.Enter) (target : Target) (args : List Value)
    (inlined : Bool) : Walk Descent := do
  match target.function with
  | none => return .noBody
  | some f =>
    match f.body with
    | none => return .noBody
    | some body =>
      match (← get).path.enter (target.participant, target.operation) with
      | .recursive => return .refused
      | .tooDeep => return .refused
      | .entered path =>
        Walk.inCallee path (.forBody target.captured f.params args) target.participant inlined
          (enter f body target.operation)
        return .visited

def walkExternalTarget (t : Tracer) (name : String) : Walk (Option Target) := do
  match t.options.unresolved with
  | .elide => return none
  | .external =>
    let participant ← Walk.cast (t.casting.intern (.external name))
    if participant.isTombstone then return none
    return some {
      participant, function := none, operation := (← get).roster.operation participant,
      captured := none }

def walkAnnounce (t : Tracer) (kind : MessageKind) (certainty : Certainty) (target : Target)
    (location : Option Location) (text : Option String) : Walk (Option Nat) := do
  let sent ← walkSend kind certainty target location
  t.walkComment sent location text
  return sent

def walkAnswer (t : Tracer) (kind : MessageKind) (target : Target)
    (sent : Option Nat) : Walk Unit := do
  if sent.isSome && kind != .asyncCall && t.options.returnMessages then
    let x ← get
    let returnType := (x.roster.get? target.participant).bind (·.returnType)
    walkRespond target.participant x.caller (returnType.getD "") none

def walkDeliver (t : Tracer) (enter : Walk.Enter) (kind : MessageKind) (certainty : Certainty)
    (target : Target) (args : List Value) (location : Option Location) (text : Option String)
    (unvisited : Walk Unit) : Walk Unit := do
  let inlined := t.isInlined (← get).roster target
  let sent ← if inlined then pure none else t.walkAnnounce kind certainty target location text
  (← walkDescend enter target args inlined).orWalk unvisited
  t.walkAnswer kind target sent

def walkFollow (t : Tracer) (enter : Walk.Enter) (kind : MessageKind) (resolution : Resolution)
    (args : List Value) (location : Option Location) (text : Option String)
    (unvisited : Walk Unit) : Walk Unit := do
  match resolution with
  | .found certainty target =>
    t.walkDeliver enter kind certainty target args location text unvisited
  | .filtered => unvisited
  | .unresolved name =>
    match ← t.walkExternalTarget name with
    | some target => t.walkDeliver enter kind .external target args location text unvisited
    | none => unvisited

def walkClosures (t : Tracer) (enter : Walk.Enter) (location : Option Location) :
    List Value → Walk Unit
  | [] => pure ()
  | .lambda operator captured :: rest => do
    let resolution ← Walk.cast (t.casting.resolveValue (.lambda operator captured) "lambda")
    t.walkFollow enter .call resolution [] location none (pure ())
    t.walkClosures enter location rest
  | _ :: rest => t.walkClosures enter location rest

def walkDispatch (t : Tracer) (enter : Walk.Enter) (kind : MessageKind) (resolution : Resolution)
    (args : List Value) (location : Option Location) (text : Option String) : Walk Unit :=
  t.walkFollow enter kind resolution args location text (t.walkClosures enter location args)

mutual

def walkExpr (t : Tracer) (enter : Walk.Enter) : Expr → Walk Value
  | .call callee object args location comment => do
    let calleeValue ← t.walkCallee enter callee
    t.walkOption enter object
    let values ← t.walkArgs enter args
    let resolution ← match calleeValue with
      | some value => Walk.cast (t.casting.resolveValue value "<expression>")
      | none => do Walk.cast (t.casting.resolveCallee callee (← get).scopes)
    t.walkDispatch enter .call resolution values location comment
    return .unknown
  | .construct cls ctor args location comment => do
    let values ← t.walkArgs enter args
    let handedOn := if (takenOver values).isSome then [] else values
    let resolution ← Walk.cast (t.casting.resolveConstruct cls ctor)
    t.walkDispatch enter .call resolution handedOn location comment
    return (takenOver values).getD .unknown
  | .lambda operator _ => return .lambda operator (← get).scopes.snapshot
  | .coAwait operand awaiter location => do
    let _ ← t.walkExpr enter operand
    let resolution ← Walk.cast (t.casting.resolveAwaiter awaiter (← get).caller)
    t.walkDispatch enter .coAwait resolution [] location none
    return .unknown
  | .coYield operand location => do
    let _ ← t.walkExpr enter operand
    let x ← get
    match x.returnTo with
    | some receiver =>
      if t.options.returnMessages then walkRespond x.caller receiver "co_yield" location
      return .unknown
    | none => return .unknown
  | .async launcher callable args location => do
    let value ← t.walkExpr enter callable
    let values ← t.walkArgs enter args
    let resolution ← Walk.cast (t.casting.resolveValue value launcher)
    t.walkDispatch enter .asyncCall resolution values location none
    return .unknown
  | .declRef decl => return .function decl
  | .var name => return ((← get).scopes.get? name).getD .unknown
  | .assign target value => do
    let v ← t.walkExpr enter value
    modify fun x => { x with scopes := x.scopes.assign target v }
    return v
  | .conditional cond yes no text => do
    let block ← Walk.nextBlock
    let _ ← Walk.inFrame (.branch block .conditional 0 2 (t.caption text)) do
      let _ ← Walk.inCondition (t.walkExpr enter cond)
      t.walkExpr enter yes
    let _ ← Walk.inFrame (.branch block .conditional 1 2 (t.caption (some "else")))
      (t.walkExpr enter no)
    return .unknown
  | .other children => do
    let _ ← t.walkArgs enter children
    return .unknown

def walkCallee (t : Tracer) (enter : Walk.Enter) : Callee → Walk (Option Value)
  | .expr e => do return some (← t.walkExpr enter e)
  | .decl _ _ _ => return none
  | .var _ => return none
  | .unresolved _ _ => return none

def walkOption (t : Tracer) (enter : Walk.Enter) : Option Expr → Walk Unit
  | none => pure ()
  | some e => do let _ ← t.walkExpr enter e

def walkArgs (t : Tracer) (enter : Walk.Enter) : List Expr → Walk (List Value)
  | [] => return []
  | e :: rest => do
    let v ← t.walkExpr enter e
    return v :: (← t.walkArgs enter rest)

end

def walkCondition (t : Tracer) (enter : Walk.Enter) (e : Expr) : Walk Unit := do
  let _ ← Walk.inCondition (t.walkExpr enter e)

def walkConditionOption (t : Tracer) (enter : Walk.Enter) : Option Expr → Walk Unit
  | none => pure ()
  | some e => t.walkCondition enter e

mutual

def walkStmt (t : Tracer) (enter : Walk.Enter) : Stmt → Walk Flow
  | .block body => Walk.inScope (t.walkBlock enter body)
  | .expr e => do
    let _ ← t.walkExpr enter e
    return .goOn
  | .declare name value => do
    let v ← match value with
      | some e => t.walkExpr enter e
      | none => pure .unknown
    modify fun x => { x with scopes := x.scopes.bind name v }
    return .goOn
  | .ifElse cond yes no atCompileTime text => do
    let kind :=
      if atCompileTime || Stmt.anyAtCompileTime no then BranchKind.atCompileTime else .ifElse
    let total := Stmt.alternatives no + 1
    let block ← Walk.nextBlock
    let _ ← Walk.inFrame (.branch block kind 0 total (t.caption text)) do
      t.walkCondition enter cond
      t.walkStmt enter yes
    t.walkElse enter block kind total 1 no
    return .goOn
  | .switch cond cases _ => do
    let block ← Walk.nextBlock
    match cases with
    | [] => t.walkCondition enter cond
    | ⟨label, body⟩ :: rest =>
      let total := rest.length + 1
      let _ ← Walk.inFrame (.branch block .switch 0 total (t.caption (some (caseLabel label)))) do
        t.walkCondition enter cond
        Walk.inScope (t.walkBlock enter body)
      t.walkCases enter block total 1 rest
    return .goOn
  | .whileLoop cond body text => do
    let block ← Walk.nextBlock
    let _ ← Walk.inFrame (.loop block .whileLoop (t.caption text)) do
      t.walkCondition enter cond
      t.walkStmt enter body
    return .goOn
  | .doLoop body cond text => do
    let block ← Walk.nextBlock
    Walk.inFrame (.loop block .doLoop (t.caption text)) do
      let _ ← t.walkStmt enter body
      t.walkCondition enter cond
    return .goOn
  | .forLoop first cond step body text =>
    Walk.inScope do
      t.walkFirst enter first
      let block ← Walk.nextBlock
      Walk.inFrame (.loop block .forLoop (t.caption text)) do
        t.walkConditionOption enter cond
        let _ ← t.walkStmt enter body
        t.walkOption enter step
      return .goOn
  | .forEach range body text => do
    let _ ← t.walkExpr enter range
    let block ← Walk.nextBlock
    let _ ← Walk.inFrame (.loop block .forEach (t.caption text)) (t.walkStmt enter body)
    return .goOn
  | .tryCatch body handlers => do
    let flow ← t.walkStmt enter body
    let block ← Walk.nextBlock
    t.walkHandlers enter block 0 handlers
    return flow
  | .ret value => do
    t.walkOption enter value
    return .exit
  | .coReturn value => do
    t.walkOption enter value
    return .exit
  | .breakOut => return .exit
  | .continueOn => return .exit
  | .skip => return .goOn

def walkBlock (t : Tracer) (enter : Walk.Enter) : List Stmt → Walk Flow
  | [] => return .goOn
  | s :: rest => do
    match ← t.walkStmt enter s with
    | .exit => return .exit
    | .goOn => t.walkBlock enter rest

def walkElse (t : Tracer) (enter : Walk.Enter) (block : Nat) (kind : BranchKind)
    (total index : Nat) : Option Stmt → Walk Unit
  | none => pure ()
  | some (.ifElse cond yes no _ text) => do
    let _ ← Walk.inFrame (.branch block kind index total (t.caption text)) do
      t.walkCondition enter cond
      t.walkStmt enter yes
    t.walkElse enter block kind total (index + 1) no
  | some s => do
    let _ ← Walk.inFrame (.branch block kind index total (t.caption (some "else")))
      (t.walkStmt enter s)

def walkCases (t : Tracer) (enter : Walk.Enter) (block total index : Nat) : List Case → Walk Unit
  | [] => pure ()
  | ⟨label, body⟩ :: rest => do
    let _ ← Walk.inFrame (.branch block .switch index total (t.caption (some (caseLabel label))))
      (Walk.inScope (t.walkBlock enter body))
    t.walkCases enter block total (index + 1) rest

def walkHandlers (t : Tracer) (enter : Walk.Enter) (block index : Nat) : List Handler → Walk Unit
  | [] => pure ()
  | ⟨exception, body⟩ :: rest => do
    let _ ← Walk.inFrame (.handler block index (some (exception.getD "...")))
      (t.walkStmt enter body)
    t.walkHandlers enter block (index + 1) rest

def walkFirst (t : Tracer) (enter : Walk.Enter) : Option Stmt → Walk Unit
  | none => pure ()
  | some s => do let _ ← t.walkStmt enter s

end

def walkBody (t : Tracer) (enter : Walk.Enter) (f : Function) (body : Stmt)
    (operation : String) : Walk Unit := do
  if f.isCoroutine then
    let block ← Walk.nextBlock
    let _ ← Walk.inFrame (.coroutine block (some operation)) (t.walkStmt enter body)
  else
    let _ ← t.walkStmt enter body

def walkInto (t : Tracer) : (room : Nat) → Walk.Enter
  | 0, _, _, _ => pure ()
  | room + 1, f, body, operation => t.walkBody (t.walkInto room) f body operation

def walkProceed (enter : Walk.Enter) (entry : Decl) (f : Function) (body : Stmt)
    (participant : ParticipantId) : Walk Unit := do
  if participant.isTombstone then throw (.missingEntry (.excluded entry.name))
  modify (·.begin participant)
  let x ← get
  let operation := x.roster.operation participant
  match x.path.enter (participant, operation) with
  | .entered path => Walk.inEntry path participant (enter f body operation)
  | .recursive => pure ()
  | .tooDeep => pure ()

def walkFrom (t : Tracer) (enter : Walk.Enter) (entry : Decl) : Walk Unit := do
  match entry.function? with
  | none => throw (.malformed (.entryNotCallable entry.name))
  | some f =>
    match f.body with
    | none => throw (.malformed (.entryWithoutBody entry.name))
    | some body =>
      walkProceed enter entry f body (← Walk.cast (t.casting.intern (.decl entry)))

def walkEntry (t : Tracer) (entry : Decl) : Walk Unit :=
  t.walkFrom (t.walkInto (t.casting.program.pathBound + 1)) entry

/-- One walker for all entry points, also after those that fail. -/
def walkAll (t : Tracer) (entries : List Decl) (x : Walker) : Walker :=
  entries.foldl (fun x entry => (t.walkEntry entry x).2) x

def newWalker (t : Tracer) (r : Roster) : Walker where
  stack := {}
  path := { maxDepth := t.options.maxDepth }
  scopes := .empty
  caller := .tombstone
  returnTo := none
  scope := .normal
  inlined := 0
  roster := r
  interaction := {}

def walked (t : Tracer) (entries : List Decl) : Cast Interaction := fun r =>
  match (entries.forM t.walkEntry : Walk Unit) (t.newWalker r) with
  | (.ok _, x) => (.ok x.interaction, x.roster)
  | (.error f, x) => (.error f, x.roster)

end Tracer

end Lifeline
