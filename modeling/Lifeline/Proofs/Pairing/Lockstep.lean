import Lifeline.Proofs.Pairing.Calls

namespace Lifeline

namespace Tracer

def draws (t : Tracer) (a : Activation) (r : Roster) (target : Target) : Bool :=
  !t.isInlined r target && (r.isVisible a.caller && r.isVisible target.participant)

def announced (t : Tracer) (a : Activation) (kind : MessageKind) (certainty : Certainty)
    (target : Target) (location : Option Location) (text : Option String) (s : Trace) : Trace :=
  if t.draws a s.roster target then
    s.push (t.callMessage a kind certainty target location text s.roster) else s

def responseMessage (a : Activation) (target : Target) (r : Roster) : Message where
  sender := target.participant
  receiver := a.caller
  operation := ((r.get? target.participant).bind (·.returnType)).getD ""
  kind := .response
  context := a.context
  depth := a.depth
  scope := .normal
  certainty := .exact
  location := none
  returnType := none
  note := none

def answered (t : Tracer) (a : Activation) (kind : MessageKind) (target : Target) (drawn : Bool)
    (s : Trace) : Trace :=
  if drawn && kind != .asyncCall && t.options.returnMessages then
    s.push (responseMessage a target s.roster) else s

variable {t : Tracer} {E : Enter} {a : Activation} {kind : MessageKind} {target : Target}

theorem isInlined_off (hoff : t.options.inlineLambdas = false) (r : Roster) (x : Target) :
    t.isInlined r x = false := by
  rw [isInlined, hoff, Bool.false_and]

@[simp] theorem announced_roster (certainty : Certainty) (location : Option Location)
    (text : Option String) (s : Trace) :
    (t.announced a kind certainty target location text s).roster = s.roster := by
  unfold announced
  split <;> rfl

@[simp] theorem announced_scopes (certainty : Certainty) (location : Option Location)
    (text : Option String) (s : Trace) :
    (t.announced a kind certainty target location text s).scopes = s.scopes := by
  unfold announced
  split <;> rfl

@[simp] theorem announced_blocks (certainty : Certainty) (location : Option Location)
    (text : Option String) (s : Trace) :
    (t.announced a kind certainty target location text s).blocks = s.blocks := by
  unfold announced
  split <;> rfl

@[simp] theorem answered_roster (drawn : Bool) (s : Trace) :
    (t.answered a kind target drawn s).roster = s.roster := by
  unfold answered
  split <;> rfl

@[simp] theorem answered_blocks (drawn : Bool) (s : Trace) :
    (t.answered a kind target drawn s).blocks = s.blocks := by
  unfold answered
  split <;> rfl

@[simp] theorem answered_scopes (drawn : Bool) (s : Trace) :
    (t.answered a kind target drawn s).scopes = s.scopes := by
  unfold answered
  split <;> rfl

theorem answer_run (sent : Option Nat) (s : Trace) :
    t.answer a kind target sent s = (.ok (), t.answered a kind target sent.isSome s) := by
  unfold answer answered
  cases sent.isSome && kind != .asyncCall && t.options.returnMessages <;> rfl

/-- What is left of a call once it is announced: the visit of the body, and the response. -/
def attend (t : Tracer) (E : Enter) (a : Activation) (kind : MessageKind) (target : Target)
    (args : List Value) (inlined : Bool) (u : Visit Unit) (sent : Option Nat) : Visit Unit := do
  (← descend E a target args inlined).orElse u
  t.answer a kind target sent

theorem deliver_eq (certainty : Certainty) (args : List Value) (location : Option Location)
    (text : Option String) (u : Visit Unit) (s : Trace) :
    t.deliver E a kind certainty target args location text u s =
      if t.isInlined s.roster target then t.attend E a kind target args true u none s
      else
          (t.announce a kind certainty target location text >>=
              t.attend E a kind target args false u) s := by
  have hget : (get : Visit Trace) s = (.ok s, s) := rfl
  unfold deliver
  rw [Agree.run_bind, hget]
  dsimp only
  cases t.isInlined s.roster target <;> rfl

theorem attend_of_body {f : Function} {body : Stmt} (hf : target.function = some f)
    (hbody : f.body = some body) (args : List Value) (inlined : Bool) (u : Visit Unit)
    (sent : Option Nat) (s : Trace) :
    t.attend E a kind target args inlined u sent s =
      (descend E a target args inlined >>= fun _ => t.answer a kind target sent) s := by
  unfold attend descend
  rw [hf]
  dsimp only
  rw [hbody]
  dsimp only
  cases a.path.enter (target.participant, target.operation) with
  | recursive => rfl
  | tooDeep => rfl
  | entered path =>
    simp only [bind_assoc, pure_bind]
    rfl

theorem attend_of_no_body (h : target.function.bind (·.body) = none) (args : List Value)
    (inlined : Bool) (u : Visit Unit) (sent : Option Nat) (s : Trace) :
    t.attend E a kind target args inlined u sent s =
      (u >>= fun _ => t.answer a kind target sent) s := by
  unfold attend descend
  cases hf : target.function with
  | none => rfl
  | some f =>
    rw [hf, Option.bind_some] at h
    dsimp only
    rw [h]
    rfl

theorem deliver_run (E : Enter) (a : Activation) (target : Target) (hkind : kind ≠ .response)
    (certainty : Certainty) (args : List Value) (location : Option Location) (text : Option String)
    (u : Visit Unit) (s : Trace) :
    ∃ sent : Option Nat, sent.isSome = t.draws a s.roster target ∧
      t.deliver E a kind certainty target args location text u s =
        t.attend E a kind target args (t.isInlined s.roster target) u sent
          (t.announced a kind certainty target location text s) := by
  rw [deliver_eq, announced, draws]
  cases t.isInlined s.roster target with
  | true => exact ⟨none, rfl, rfl⟩
  | false =>
    simp only [Bool.not_false, Bool.true_and, Bool.false_eq_true, if_false]
    cases hv : s.roster.isVisible a.caller && s.roster.isVisible target.participant with
    | true =>
      obtain ⟨hcaller, htarget⟩ := Bool.and_eq_true_iff.1 hv
      refine ⟨some s.interaction.size, rfl, ?_⟩
      rw [Agree.run_bind, announce_visible hcaller htarget hkind]
      rfl
    | false =>
      refine ⟨none, rfl, ?_⟩
      rw [Agree.run_bind, announce_unseen hv]
      rfl

end Tracer

inductive CallPath.Entry.Twins (Q : CallPath → CallPath → Prop) :
    CallPath.Entry → CallPath.Entry → Prop
  | entered {p p' : CallPath} : Q p p' → Twins Q (.entered p) (.entered p')
  | recursive : Twins Q .recursive .recursive
  | tooDeep : Twins Q .tooDeep .tooDeep

theorem CallPath.Entry.Twins.of_eq {Q : CallPath → CallPath → Prop} {x : CallPath.Entry}
    (h : ∀ path, x = .entered path → Q path path) : Twins Q x x := by
  cases x with
  | entered path => exact .entered (h path rfl)
  | recursive => exact .recursive
  | tooDeep => exact .tooDeep

theorem CallPath.Entry.Twins.mono {Q R : CallPath → CallPath → Prop} {x y : CallPath.Entry}
    (h : Twins Q x y) (imp : ∀ p p', Q p p' → R p p') : Twins R x y := by
  cases h with
  | entered hQ => exact .entered (imp _ _ hQ)
  | recursive => exact .recursive
  | tooDeep => exact .tooDeep

namespace Pairing

open Tracer

variable {t : Tracer} {o : TraceOptions} {since : Option Relation} (P : Pairing t o since)

structure Entering (post : Option Fault → Trace → Trace → Prop) (callee callee' : Activation)
    (body : Stmt) (operation operation' : String) (s s' : Trace) : Prop where
  inv : P.inv callee callee' s s'
  own : body.awaitsOwn = true → P.own callee.caller callee'.caller
  wording : P.wording operation operation'
  leave : ∀ f s₁ s₁', P.rel callee callee' s s' f s₁ s₁' →
    post f { s₁ with scopes := s.scopes } { s₁' with scopes := s'.scopes }

structure Delivery where
  meets : Activation → Activation → Trace → Trace → Target → Target → Prop
  function : ∀ {a b s s' x y}, meets a b s s' x y → y.function = x.function
  captured : ∀ {a b s s' x y}, meets a b s s' x y → y.captured = x.captured
  announce : ∀ {a b s s' x y} kind certainty location text, kind ≠ .response →
    P.inv a b s s' → meets a b s s' x y →
    P.rel a b s s' none (t.announced a kind certainty x location text s)
      ((t.tuned o).announced b kind certainty y location text s')
  enter : ∀ {a b s s' x y f body} kind certainty location text, kind ≠ .response → P.inv a b s s' →
    meets a b s s' x y → x.function = some f → f.body = some body →
    CallPath.Entry.Twins
      (fun path path' => P.Entering
        (P.rel a b (t.announced a kind certainty x location text s)
          ((t.tuned o).announced b kind certainty y location text s'))
        (a.calling path x.participant (t.isInlined s.roster x))
        (b.calling path' y.participant ((t.tuned o).isInlined s'.roster y))
          body x.operation y.operation
        (t.announced a kind certainty x location text s)
        ((t.tuned o).announced b kind certainty y location text s'))
      (a.path.enter (x.participant, x.operation)) (b.path.enter (y.participant, y.operation))
  answer : ∀ {a b s s' x y} kind certainty location text s₁ s₁', kind ≠ .response → P.inv a b s s' →
    meets a b s s' x y →
    P.rel a b (t.announced a kind certainty x location text s)
      ((t.tuned o).announced b kind certainty y location text s') none s₁ s₁' →
    P.rel a b s₁ s₁' none (t.answered a kind x (t.draws a s.roster x) s₁)
      ((t.tuned o).answered b kind y ((t.tuned o).draws b s'.roster y) s₁')

structure Lockstep extends P.Delivery where
  fulfil : ∀ {a b s s'} q, P.inv a b s s' → q.Within t.casting.program →
    (q = .ownState → P.own a.caller b.caller) →
    P.Gets (meets a b) a b s s' (t.casting.fulfil a.caller q s.roster)
      (t.casting.fulfil b.caller q s'.roster)

variable {P} {E E' : Enter} {a b : Activation} {s s' : Trace} {x y : Target}

theorem orElse_obeys {u u' : Visit Unit} (hu : P.Obeys a b u u') (x : Descent) :
    P.Obeys a b (x.orElse u) (x.orElse u') := by
  cases x with
  | noBody => exact hu
  | visited => exact .pure ()
  | refused => exact .pure ()

theorem Entering.visit {post : Option Fault → Trace → Trace → Prop} {callee callee' : Activation}
    {body : Stmt} {operation operation' : String}
    (h : P.Entering post callee callee' body operation operation' s s') (hE : P.Enters E E')
    (hscopes : s.scopes = s'.scopes) (f : Function) (scopes : Scopes) :
    Beside P.void post P.lenient (Visit.withScopes scopes (E callee f body operation) s)
      (Visit.withScopes scopes (E' callee' f body operation') s') := by
  have hvisit := (hE.both _ _ f body _ _ h.own h.wording).both { s with scopes } { s' with scopes }
    (P.scopes h.inv) rfl
  refine hvisit.withScopes hscopes fun g s₁ s₁' hrel => ?_
  have hback := P.rescope s.scopes s'.scopes s₁.scopes s₁'.scopes hrel
  exact h.leave g s₁ s₁' hback

theorem descend_both {post : Option Fault → Trace → Trace → Prop} (hE : P.Enters E E')
    (h : post none s s') (hscopes : s.scopes = s'.scopes) (hfunction : y.function = x.function)
    (hcaptured : y.captured = x.captured) (inlined inlined' : Bool)
    (henter : ∀ f body, x.function = some f → f.body = some body →
      CallPath.Entry.Twins
        (fun path path' => P.Entering post (a.calling path x.participant inlined)
          (b.calling path' y.participant inlined') body x.operation y.operation s s')
        (a.path.enter (x.participant, x.operation)) (b.path.enter (y.participant, y.operation)))
    (args : List Value) :
    Beside P.void post P.lenient (descend E a x args inlined s)
      (descend E' b y args inlined' s') := by
  have stay (d : Descent) : Beside P.void post P.lenient (.ok d, s) (.ok d, s') := .done hscopes h
  unfold descend
  rw [hfunction]
  cases hf : x.function with
  | none => exact stay .noBody
  | some f =>
    dsimp only
    cases hbody : f.body with
    | none => exact stay .noBody
    | some body =>
      dsimp only
      generalize hp : a.path.enter (x.participant, x.operation) = p,
        hp' : b.path.enter (y.participant, y.operation) = p'
      have htwins := henter f body hf hbody
      rw [hp, hp'] at htwins
      cases htwins with
      | recursive => exact stay .refused
      | tooDeep => exact stay .refused
      | entered hentering =>
        rw [hcaptured]
        refine (hentering.visit hE hscopes f _).bind P.lasts ?_ (fun _ _ _ h => h)
          (fun _ => .pure _) fun _ => .pure _
        exact fun _ s₁ s₁' hscopes₁ hrel => .done hscopes₁ hrel

theorem Delivery.deliver (L : P.Delivery) {kind : MessageKind} {u u' : Visit Unit}
    (certainty : Certainty) (args : List Value) (location : Option Location) (text : Option String)
    (hE : P.Enters E E') (hu : P.Obeys a b u u') (hkind : kind ≠ .response) (h : P.inv a b s s')
    (hscopes : s.scopes = s'.scopes) (hmeets : L.meets a b s s' x y) :
    Beside P.void (P.rel a b s s') P.lenient (t.deliver E a kind certainty x args location text u s)
      ((t.tuned o).deliver E' b kind certainty y args location text u' s') := by
  obtain ⟨sent, hsent, hrun⟩ := t.deliver_run E a x hkind certainty args location text u s
  obtain ⟨sent', hsent', hrun'⟩ :=
    (t.tuned o).deliver_run E' b y hkind certainty args location text u' s'
  rw [hrun, hrun']
  -- Three parts, each of which keeps the pairing: the message, the body or what stands for it, and
  -- the response.
  have hnow := L.announce kind certainty location text hkind h hmeets
  have hdescend := descend_both hE (P.refl (P.keeps h hnow)) (by simpa using hscopes)
    (L.function hmeets) (L.captured hmeets) _ _
    (fun f body hf hbody => L.enter kind certainty location text hkind h hmeets hf hbody) args
  have hrest (d : Descent) := orElse_obeys hu d
  refine hdescend.bind P.lasts ?_ (fun _ _ _ h' => P.trans hnow h')
    (fun d => (hrest d).left.bind fun _ => answer_grows sent)
    fun d => (hrest d).right.bind fun _ => answer_grows sent'
  intro d s₁ s₁' hscopes₁ h₁
  refine ((hrest d).both s₁ s₁' (P.keeps (P.keeps h hnow) h₁) hscopes₁).bind P.lasts ?_
    (fun _ _ _ h₂ => P.trans hnow (P.trans h₁ h₂)) (fun _ => answer_grows sent)
      fun _ => answer_grows sent'
  intro _ s₂ s₂' hscopes₂ h₂
  rw [answer_run, answer_run, hsent, hsent']
  have hdone := P.trans h₁ h₂
  exact .done (by simpa using hscopes₂)
    (P.trans hnow
      (P.trans hdone (L.answer kind certainty location text s₂ s₂' hkind h hmeets hdone)))

def Lockstep.dispatching (L : P.Lockstep) : P.Dispatching where
  meets := L.meets
  fulfil := L.fulfil
  deliver := L.toDelivery.deliver

end Pairing

end Lifeline
