import Lifeline.Proofs.Aliases

namespace Lifeline

theorem Context.take_sharedLength (prev next : Context) :
    prev.take (prev.sharedLength next) = next.take (prev.sharedLength next) := by
  induction prev generalizing next with
  | nil => simp [sharedLength]
  | cons f fs ih =>
    cases next with
    | nil => simp [sharedLength]
    | cons g gs =>
      simp only [sharedLength]
      split
      case isTrue h => simp [h, ih gs]
      case isFalse => rfl

namespace Fragment

/-- What a boundary does to the open frames, the innermost first. Only the innermost frame can be
closed, and only by its own end; and only an alternative to it can take its place. -/
def after? : List Frame → Fragment → Option (List Frame)
  | stack, .opening f => some (f :: stack)
  | t :: stack, .alternative f => if f.isAlternativeOf t then some (f :: stack) else none
  | t :: stack, .closing f => if t = f then some stack else none
  | [], _ => none

def replay? (stack : List Frame) (events : List Fragment) : Option (List Frame) :=
  events.foldlM after? stack

variable {stack stack' base : List Frame} {events : List Fragment}

@[simp] theorem replay?_nil (stack : List Frame) : replay? stack [] = some stack := rfl

@[simp] theorem replay?_cons (stack : List Frame) (e : Fragment) (events : List Fragment) :
    replay? stack (e :: events) = (after? stack e).bind (replay? · events) := rfl

@[simp] theorem replay?_append (stack : List Frame) (events more : List Fragment) :
    replay? stack (events ++ more) = (replay? stack events).bind (replay? · more) :=
  List.foldlM_append

inductive Step : List Frame → Fragment → List Frame → Prop
  | opening {f : Frame} {stack : List Frame} : Step stack (.opening f) (f :: stack)
  | alternative {f t : Frame} {stack : List Frame} (h : f.isAlternativeOf t = true) :
    Step (t :: stack) (.alternative f) (f :: stack)
  | closing {f : Frame} {stack : List Frame} : Step (f :: stack) (.closing f) stack

theorem after?_eq_some {e : Fragment} : after? stack e = some stack' ↔ Step stack e stack' := by
  constructor
  · intro h
    cases e with
    | opening f =>
      cases h
      exact .opening
    | alternative f =>
      cases stack with
      | nil => cases h
      | cons t stack =>
        obtain ⟨halternative, hstack⟩ := Option.ite_none_right_eq_some.mp h
        cases hstack
        exact .alternative halternative
    | closing f =>
      cases stack with
      | nil => cases h
      | cons t stack =>
        obtain ⟨rfl, hstack⟩ := Option.ite_none_right_eq_some.mp h
        cases hstack
        exact .closing
  · intro h
    cases h with
    | opening => rfl
    | alternative halternative => exact if_pos halternative
    | closing => exact if_pos rfl

theorem after?_append {e : Fragment} (h : after? stack e = some stack') :
    after? (stack ++ base) e = some (stack' ++ base) := by
  rw [after?_eq_some] at h ⊢
  cases h with
  | opening => exact .opening
  | alternative halternative => exact .alternative halternative
  | closing => exact .closing

theorem replay?_append_stack (h : replay? stack events = some stack') :
    replay? (stack ++ base) events = some (stack' ++ base) := by
  induction events generalizing stack with
  | nil =>
    cases h
    rfl
  | cons e events ih =>
    obtain ⟨next, hnext, hrest⟩ := Option.bind_eq_some_iff.mp h
    rw [replay?_cons, after?_append hnext]
    exact ih hrest

theorem replay?_closing (fs base : List Frame) :
    replay? (fs ++ base) (fs.map closing) = some base := by
  induction fs with
  | nil => rfl
  | cons f fs ih => simp [after?, ih]

theorem replay?_opening (stack gs : List Frame) :
    replay? stack (gs.map opening) = some (gs.reverse ++ stack) := by
  induction gs generalizing stack with
  | nil => rfl
  | cons g gs ih => simp [after?, ih]

theorem replay?_closing_all (fs : List Frame) : replay? fs (fs.map closing) = some [] := by
  simpa using replay?_closing fs []

theorem replay?_cross (fs gs : Context) : replay? fs.reverse (cross fs gs) = some gs.reverse := by
  have hplain :
      replay? fs.reverse (fs.reverse.map closing ++ gs.map opening) = some gs.reverse := by
    rw [replay?_append, replay?_closing_all]
    simp [replay?_opening]
  cases fs with
  | nil => exact hplain
  | cons f fs =>
    cases gs with
    | nil => exact hplain
    | cons g gs =>
      simp only [cross]
      split
      case isTrue halternative =>
        rw [List.reverse_cons, replay?_append, replay?_closing]
        simp [after?, halternative, replay?_opening]
      case isFalse => exact hplain

/-- The events lead from the one context to the other. At no time is any of the frames touched that
both share: what is above them develops as it would if they were not there. -/
structure Crosses (prev next : Context) (events : List Fragment) : Prop where
  arrives : replay? prev.reverse events = some next.reverse
  untouched : ∀ done rest, events = done ++ rest →
    ∃ stack, replay? (prev.drop (prev.sharedLength next)).reverse done = some stack ∧
      replay? prev.reverse done = some (stack ++ (prev.take (prev.sharedLength next)).reverse)

theorem crosses_between (prev next : Context) : Crosses prev next (between prev next) := by
  have habove :=
    replay?_cross (prev.drop (prev.sharedLength next)) (next.drop (prev.sharedLength next))
  have hprev : prev.reverse = (prev.drop (prev.sharedLength next)).reverse ++
      (prev.take (prev.sharedLength next)).reverse := by
    rw [← List.reverse_append, List.take_append_drop]
  have hnext : next.reverse = (next.drop (prev.sharedLength next)).reverse ++
      (prev.take (prev.sharedLength next)).reverse := by
    rw [Context.take_sharedLength, ← List.reverse_append, List.take_append_drop]
  constructor
  · rw [hprev, hnext]
    exact replay?_append_stack habove
  · intro done rest hevents
    have hdone : replay? (prev.drop (prev.sharedLength next)).reverse (done ++ rest) =
        some (next.drop (prev.sharedLength next)).reverse := hevents ▸ habove
    rw [replay?_append] at hdone
    obtain ⟨stack, hstack, -⟩ := Option.bind_eq_some_iff.mp hdone
    exact ⟨stack, hstack, hprev ▸ replay?_append_stack hstack⟩

end Fragment

namespace DrawStep

/-- A message can be drawn only where the open frames are those around it. -/
def after? (stack : List Frame) : DrawStep → Option (List Frame)
  | .fragment f => f.after? stack
  | .message m => if stack = m.context.reverse then some stack else none

def replay? (stack : List Frame) (steps : List DrawStep) : Option (List Frame) :=
  steps.foldlM after? stack

def message? : DrawStep → Option Message
  | .fragment _ => none
  | .message m => some m

@[simp] theorem replay?_nil (stack : List Frame) : replay? stack [] = some stack := rfl

@[simp] theorem replay?_cons (stack : List Frame) (step : DrawStep) (steps : List DrawStep) :
    replay? stack (step :: steps) = (step.after? stack).bind (replay? · steps) := rfl

theorem replay?_append (stack : List Frame) (steps more : List DrawStep) :
    replay? stack (steps ++ more) = (replay? stack steps).bind (replay? · more) :=
  List.foldlM_append

theorem replay?_fragments (stack : List Frame) (events : List Fragment) :
    replay? stack (events.map .fragment) = Fragment.replay? stack events :=
  List.foldlM_map

end DrawStep

/-- How the boundaries of fragments and the messages between them are written down. -/
structure Script (α : Type) where
  boundary : Fragment → α
  message : Message → List α

namespace Script

variable {α : Type}

def write (w : Script α) : DrawStep → List α
  | .fragment e => [w.boundary e]
  | .message m => w.message m

mutual

/-- Messages and fragments one after the other, where the frames of the context are open. -/
inductive Drawn (w : Script α) : Context → List Message → List α → Prop
  | nil {context : Context} : Drawn w context [] []
  | message {context : Context} {m : Message} {ms : List Message} {rest : List α}
    (hm : m.context = context) (hrest : Drawn w context ms rest) :
    Drawn w context (m :: ms) (w.message m ++ rest)
  | fragment {context : Context} {f : Frame} {within after : List Message} {inside rest : List α}
    (hinside : Arms w context f within inside) (hrest : Drawn w context after rest) :
    Drawn w context (within ++ after) (w.boundary (.opening f) :: (inside ++ rest))

/-- What stands in a fragment after the beginning of this arm, with the end of the fragment. -/
inductive Arms (w : Script α) : Context → Frame → List Message → List α → Prop
  | last {context : Context} {f : Frame} {ms : List Message} {body : List α}
    (hbody : Drawn w (context ++ [f]) ms body) :
    Arms w context f ms (body ++ [w.boundary (.closing f)])
  | next {context : Context} {f g : Frame} {ms more : List Message} {body rest : List α}
    (hbody : Drawn w (context ++ [f]) ms body) (hg : g.isAlternativeOf f = true)
    (hrest : Arms w context g more rest) :
    Arms w context f (ms ++ more) (body ++ w.boundary (.alternative g) :: rest)

end

variable {w : Script α} {context : Context} {stack : List Frame} {f : Frame}
variable {ms : List Message} {inside out : List α} {steps : List DrawStep}

theorem Arms.prepend (h : Arms w context f ms inside) (first : List Message) (front : List α)
    (hfront : ∀ ms body, Drawn w (context ++ [f]) ms body →
      Drawn w (context ++ [f]) (first ++ ms) (front ++ body)) :
    Arms w context f (first ++ ms) (front ++ inside) := by
  cases h with
  | last hbody =>
    rw [← List.append_assoc]
    exact .last (hfront _ _ hbody)
  | next hbody hg hrest =>
    rw [← List.append_assoc, ← List.append_assoc]
    exact .next (hfront _ _ hbody) hg hrest

def Closes (w : Script α) : List Frame → List Message → List α → Prop
  | [], ms, out => Drawn w [] ms out
  | f :: outer, ms, out => ∃ within after inside rest, ms = within ++ after ∧
      out = inside ++ rest ∧ Arms w outer.reverse f within inside ∧ Closes w outer after rest

theorem Closes.prepend (h : Closes w stack ms out) (first : List Message) (front : List α)
    (hfront : ∀ ms body, Drawn w stack.reverse ms body →
      Drawn w stack.reverse (first ++ ms) (front ++ body)) :
    Closes w stack (first ++ ms) (front ++ out) := by
  cases stack with
  | nil => exact hfront _ _ h
  | cons f outer =>
    obtain ⟨within, after, inside, rest, rfl, rfl, hinside, hrest⟩ := h
    rw [List.reverse_cons] at hfront
    exact ⟨first ++ within, after, front ++ inside, rest, (List.append_assoc ..).symm,
      (List.append_assoc ..).symm, hinside.prepend first front hfront, hrest⟩

theorem Closes.opening (h : Closes w (f :: stack) ms out) :
    Closes w stack ms (w.boundary (.opening f) :: out) := by
  obtain ⟨within, after, inside, rest, rfl, rfl, hinside, hrest⟩ := h
  apply hrest.prepend within (w.boundary (.opening f) :: inside)
  intro ms body hbody
  exact .fragment hinside hbody

/-- Steps after which nothing is open close what was open before them. -/
theorem closes_of_replay? (w : Script α) (h : DrawStep.replay? stack steps = some []) :
    Closes w stack (steps.filterMap DrawStep.message?) (steps.flatMap w.write) := by
  -- A step comes before the rest, which closes the stack after the step, so each case adds to the
  -- front of an arm.
  induction steps generalizing stack with
  | nil =>
    cases h
    exact Drawn.nil
  | cons step steps ih =>
    obtain ⟨next, hnext, hsteps⟩ := Option.bind_eq_some_iff.mp h
    have hclosed := ih hsteps
    cases step with
    | message m =>
      obtain ⟨hm, hstack⟩ := Option.ite_none_right_eq_some.mp hnext
      cases hstack
      apply hclosed.prepend [m] (w.message m)
      intro ms body hbody
      exact .message (by rw [hm, List.reverse_reverse]) hbody
    | fragment e =>
      cases Fragment.after?_eq_some.mp hnext with
      | opening => exact hclosed.opening
      | alternative hg =>
        obtain ⟨within, after, inside, rest, hms, hout, hinside, hrest⟩ := hclosed
        exact ⟨within, after, _ :: inside, rest, hms, congrArg _ hout, .next .nil hg hinside, hrest⟩
      | closing => exact ⟨[], _, [_], _, rfl, rfl, .last .nil, hclosed⟩

def verbatim : Script DrawStep where
  boundary := .fragment
  message m := [.message m]

theorem flatMap_write_verbatim (steps : List DrawStep) : steps.flatMap verbatim.write = steps := by
  have hwrite : verbatim.write = fun step => [step] := by
    funext step
    cases step <;> rfl
  rw [hwrite, List.flatMap_singleton']

end Script

namespace Interaction

theorem replay?_stepsFrom (context : Context) (ms : List Message) :
    DrawStep.replay? context.reverse (stepsFrom context ms) = some [] := by
  induction ms generalizing context with
  | nil =>
    rw [stepsFrom, DrawStep.replay?_fragments]
    exact (Fragment.crosses_between context []).arrives
  | cons m ms ih =>
    rw [stepsFrom, DrawStep.replay?_append, DrawStep.replay?_fragments,
      (Fragment.crosses_between context m.context).arrives]
    simp [DrawStep.after?, ih]

theorem filterMap_message?_stepsFrom (context : Context) (ms : List Message) :
    (stepsFrom context ms).filterMap DrawStep.message? = ms := by
  have hfragments : ∀ events : List Fragment,
      (events.map DrawStep.fragment).filterMap DrawStep.message? = [] := by
    simp [DrawStep.message?]
  induction ms generalizing context with
  | nil => exact hfragments _
  | cons m ms ih =>
    rw [stepsFrom, List.filterMap_append, hfragments, List.filterMap_cons, DrawStep.message?, ih,
      List.nil_append]

theorem drawn_flatMap_write {α : Type} (w : Script α) (s : Interaction) :
    w.Drawn [] s.messages.toList (s.steps.flatMap w.write) := by
  have hclosed := Script.closes_of_replay? w (replay?_stepsFrom [] s.messages.toList)
  rwa [filterMap_message?_stepsFrom] at hclosed

/-- The steps draw the messages in their order. Replayed from the start they never get stuck, every
message stands within the frames of its context and no others, and all fragments are closed in the
end. -/
structure DrawnBy (s : Interaction) (steps : List DrawStep) : Prop where
  messages : steps.filterMap DrawStep.message? = s.messages.toList
  within : ∀ before m after, steps = before ++ .message m :: after →
    DrawStep.replay? [] before = some m.context.reverse
  closed : DrawStep.replay? [] steps = some []
  bracketed : Script.verbatim.Drawn [] s.messages.toList steps

theorem drawnBy_steps (s : Interaction) : s.DrawnBy s.steps := by
  have hclosed : DrawStep.replay? [] s.steps = some [] := replay?_stepsFrom [] s.messages.toList
  have hdrawn := drawn_flatMap_write Script.verbatim s
  rw [Script.flatMap_write_verbatim] at hdrawn
  refine ⟨filterMap_message?_stepsFrom [] _, ?_, hclosed, hdrawn⟩
  intro before m after hsteps
  rw [hsteps, DrawStep.replay?_append] at hclosed
  obtain ⟨stack, hbefore, hm⟩ := Option.bind_eq_some_iff.mp hclosed
  obtain ⟨next, hnext, -⟩ := Option.bind_eq_some_iff.mp hm
  obtain ⟨rfl, -⟩ := Option.ite_none_right_eq_some.mp hnext
  exact hbefore

end Interaction

namespace PlantUml

def boundaryWords : Fragment → List String
  | .opening f =>
    (match f with
      | .branch _ _ _ _ _ => "alt"
      | .loop _ _ _ => "loop"
      | .handler _ _ _ => "group catch"
      | .coroutine _ _ => "group coroutine") :: f.caption?.toList
  | .alternative f => "else" :: f.caption?.toList
  | .closing _ => ["end"]

def script (d : Diagram) : Script String where
  boundary e := " ".intercalate (boundaryWords e)
  message m := (messageTokens d m).map Token.line

theorem intercalate_caption (keyword : String) (f : Frame) :
    " ".intercalate (keyword :: f.caption?.toList) = withCaption keyword f := by
  unfold withCaption
  cases f.caption? <;> simp

theorem intercalate_boundaryWords (e : Fragment) :
    " ".intercalate (boundaryWords e) = fragmentLine e := by
  cases e with
  | opening f => cases f <;> exact intercalate_caption _ _
  | alternative f => exact intercalate_caption "else" f
  | closing f => rfl

theorem write_script (d : Diagram) : (script d).write = stepLines d := by
  funext step
  cases step with
  | fragment e => exact congrArg ([·]) (intercalate_boundaryWords e)
  | message m => exact map_line_messageTokens d m

end PlantUml

namespace Mermaid

def boundaryWords : Fragment → List String
  | .opening f =>
    match f with
    | .branch _ _ _ _ _ => ["alt", escape (f.caption?.getD "")]
    | .loop _ _ _ => ["loop", escape (f.caption?.getD "")]
    | .handler _ _ _ => ["critical", escape (f.caption?.getD "catch")]
    | .coroutine _ _ => ["opt", escape (f.caption?.getD "coroutine")]
  | .alternative f =>
    match f with
    | .handler _ _ _ => ["option", escape (f.caption?.getD "")]
    | _ => ["else", escape (f.caption?.getD "")]
  | .closing _ => ["end"]

def script (d : Diagram) : Script String where
  boundary e := " ".intercalate (boundaryWords e)
  message m := (messageTokens d m).map Token.line

theorem intercalate_boundaryWords (e : Fragment) :
    " ".intercalate (boundaryWords e) = fragmentLine e := by
  cases e with
  | opening f => cases f <;> simp [boundaryWords, fragmentLine, opening]
  | alternative f => cases f <;> simp [boundaryWords, fragmentLine, alternative]
  | closing f => rfl

theorem write_script (d : Diagram) : (script d).write = stepLines d := by
  funext step
  cases step with
  | fragment e => exact congrArg ([·]) (intercalate_boundaryWords e)
  | message m => exact map_line_messageTokens d m

end Mermaid

namespace Interaction

/-- Boundaries lead from any context to any other without touching what they share, so an
interaction with any messages is drawn in nested fragments. Both formats write each boundary as its
line and each message as its lines, so what they write between the headings is nested as well. -/
theorem fragments_nested :
    (∀ prev next : Context, Fragment.Crosses prev next (Fragment.between prev next)) ∧
    (∀ s : Interaction, s.DrawnBy s.steps) ∧
    ∀ d : Diagram,
      (∃ body : Interaction → List String,
        (∀ s, (PlantUml.script d).Drawn [] s.messages.toList (body s)) ∧
        PlantUml.render d = Text.unlines
          (["@startuml", "title " ++ d.name] ++ d.lifelines.map PlantUml.declaration ++
            (d.interactions.mapIdx fun index s => PlantUml.heading d index s ++ body s).flatten ++
            ["@enduml"])) ∧
      ∃ body : Interaction → List String,
        (∀ s, (Mermaid.script d).Drawn [] s.messages.toList (body s)) ∧
        Mermaid.render d = Text.unlines
          ("sequenceDiagram" :: (d.lifelines.map Mermaid.declaration ++
            d.interactions.flatMap fun s =>
              if d.interactions.length > 1 then
                ["rect rgb(250, 250, 250)",
                  "Note over " ++ Mermaid.headingAlias d s ++ ": " ++ Mermaid.escape s.label] ++
                  body s ++ ["end"]
              else body s).map ("    " ++ ·)) := by
  refine ⟨Fragment.crosses_between, drawnBy_steps, fun d => ⟨?_, ?_⟩⟩
  · refine ⟨fun s => s.steps.flatMap (PlantUml.stepLines d), fun s => ?_, rfl⟩
    rw [← PlantUml.write_script]
    exact drawn_flatMap_write _ s
  · refine ⟨fun s => s.steps.flatMap (Mermaid.stepLines d), fun s => ?_, rfl⟩
    rw [← Mermaid.write_script]
    exact drawn_flatMap_write _ s

end Interaction

end Lifeline
