import Lifeline.Proofs.Pairing.Visit

/-! Calls of two visits at once. What a pairing has to say of them comes down to three things: what
becomes of what they ask for, what a call does that lands, and what a call does whose callee is
known by name only. -/

namespace Lifeline

theorem Visit.Grows.cast {x : Cast α} (h : ∀ r, r.Sound → r.Extends (x r).2 ∧ (x r).2.Sound) :
    (Visit.cast x).Grows :=
  fun s hs => h s.roster hs

theorem Beside.withScopes {void : Roster → Roster → Prop}
    {mid post : Option Fault → Trace → Trace → Prop} {lenient : Bool} {v w : Visit α} {s s' : Trace}
    {x : Scopes} (hscopes : s.scopes = s'.scopes)
    (h : Beside void mid lenient (v { s with scopes := x }) (w { s' with scopes := x }))
    (imp : ∀ f s₁ s₁', mid f s₁ s₁' →
      post f { s₁ with scopes := s.scopes } { s₁' with scopes := s'.scopes }) :
    Beside void post lenient (Visit.withScopes x v s) (Visit.withScopes x w s') := by
  simp only [Visit.withScopes]
  generalize v { s with scopes := x } = y, w { s' with scopes := x } = z at h
  cases h with
  | lost hvoid hs hs' => exact .lost hvoid hs hs'
  | done _ hmid => exact .done hscopes (imp _ _ _ hmid)
  | failed _ hmid => exact .failed hscopes (imp _ _ _ hmid)
  | abandoned => exact .abandoned

namespace Tracer

open Visit

variable {t : Tracer} {E : Enter} {a : Activation} {s : Trace} {kind : MessageKind}
  {target : Target}

section Growth

variable (hE : ∀ a f body operation, (E a f body operation).Grows)

theorem send_grows (certainty : Certainty) (location : Option Location) :
    (send a kind certainty target location).Grows := by
  unfold send
  refine .bind (.of_roster fun _ => rfl) fun s => ?_
  exact .ite (.bind (.modify fun _ => rfl) fun _ => .pure _) (.pure _)

theorem comment_grows (sent : Option Nat) (location : Option Location) (text : Option String) :
    (t.comment sent location text).Grows := by
  unfold comment
  cases sent with
  | none => exact .pure ()
  | some i =>
    cases text with
    | none => exact .pure ()
    | some text => exact .ite (.modify fun s => by cases location <;> rfl) (.pure ())

theorem announce_grows (certainty : Certainty) (location : Option Location) (text : Option String) :
    (t.announce a kind certainty target location text).Grows :=
  .bind (send_grows certainty location) fun sent => .bind (comment_grows sent location text)
    fun _ => .pure _

theorem answer_grows (sent : Option Nat) : (t.answer a kind target sent).Grows := by
  unfold answer
  exact .ite (.bind (.of_roster fun _ => rfl) fun _ => .modify fun _ => rfl) (.pure ())

include hE

theorem descend_grows (args : List Value) (inlined : Bool) :
    (descend E a target args inlined).Grows := by
  unfold descend
  cases target.function with
  | none => exact .pure _
  | some f =>
    dsimp only
    cases f.body with
    | none => exact .pure _
    | some body =>
      dsimp only
      cases a.path.enter (target.participant, target.operation) with
      | recursive => exact .pure _
      | tooDeep => exact .pure _
      | entered path => exact .bind (.withScopes (hE _ _ _ _) _) fun _ => .pure _

theorem deliver_grows {u : Visit Unit} (hu : u.Grows) (certainty : Certainty) (args : List Value)
    (location : Option Location) (text : Option String) :
    (t.deliver E a kind certainty target args location text u).Grows := by
  have rest (inlined : Bool) (sent : Option Nat) :
      (do
        (← descend E a target args inlined).orElse u
        t.answer a kind target sent : Visit Unit).Grows := by
    refine .bind (descend_grows hE args inlined) fun x => .bind ?_ fun _ => answer_grows sent
    cases x with
    | noBody => exact hu
    | visited => exact .pure ()
    | refused => exact .pure ()
  unfold deliver
  refine .bind (.of_roster fun _ => rfl) fun s => ?_
  cases t.isInlined s.roster target with
  | true => exact .bind (.pure none) (rest true)
  | false => exact .bind (announce_grows certainty location text) (rest false)

theorem follow_grows {u : Visit Unit} (hu : u.Grows) (res : Resolution) (args : List Value)
    (location : Option Location) (text : Option String) :
    (t.follow E a kind res args location text u).Grows := by
  cases res with
  | found certainty target => exact deliver_grows hE hu certainty args location text
  | filtered => exact hu
  | unresolved name =>
    have hexternal : (t.externalTarget name).Grows := by
      unfold externalTarget
      cases t.options.unresolved with
      | elide => exact .pure _
      | external =>
        refine .bind (.cast fun r hr => ?_) fun id =>
          .ite (.pure _) (.bind (.of_roster fun _ => rfl) fun _ => .pure _)
        have hgrows := (Casting.intern_grows (c := t.casting) hr (.external name)).result
        exact ⟨hgrows.grown, hgrows.sound⟩
    refine .bind hexternal fun x => ?_
    cases x with
    | none => exact hu
    | some target => exact deliver_grows hE hu .external args location text

theorem callClosures_grows (location : Option Location) (values : List Value) :
    (t.callClosures E a location values).Grows := by
  induction values with
  | nil => exact .pure ()
  | cons v rest ih =>
    cases v with
    | lambda operator captured =>
      have hasks :
          t.casting.Asks True fun _ =>
            t.casting.resolveValue (.lambda operator captured) "lambda" :=
        Casting.resolveValue_asks _ _
      have hcast :
          (Visit.cast (t.casting.resolveValue (.lambda operator captured) "lambda")).Grows :=
        .cast fun r hr => hasks.grows hr .tombstone
      exact .bind hcast fun res => .bind (follow_grows hE (.pure ()) res [] location none) fun _ =>
        ih
    | function decl => exact ih
    | unknown => exact ih

theorem call_grows (q : Request) (args : List Value) (location : Option Location)
    (text : Option String) : (t.call E a kind q args location text).Grows :=
  .bind (.cast fun _ hr => Casting.fulfil_grows hr _ q) fun res =>
    follow_grows hE (callClosures_grows hE location args) res args location text

end Growth

end Tracer

namespace Pairing

open Tracer

variable {t : Tracer} {o : TraceOptions} {since : Option Relation} (P : Pairing t o since)

structure Enters (E E' : Enter) : Prop where
  left : ∀ a f body operation, (E a f body operation).Grows
  right : ∀ a f body operation, (E' a f body operation).Grows
  both : ∀ a b f body operation operation', (body.awaitsOwn = true → P.own a.caller b.caller) →
    P.wording operation operation' → P.Obeys a b (E a f body operation) (E' b f body operation')

end Pairing

inductive Resolution.Twins (meets : Target → Target → Prop) : Resolution → Resolution → Prop
  | found {certainty : Certainty} {x y : Target} : meets x y →
    Twins meets (.found certainty x) (.found certainty y)
  | unresolved (name : String) : Twins meets (.unresolved name) (.unresolved name)
  | filtered : Twins meets .filtered .filtered

namespace Pairing

open Tracer

variable {t : Tracer} {o : TraceOptions} {since : Option Relation} (P : Pairing t o since)

inductive Gets (meets : Trace → Trace → Target → Target → Prop) (a b : Activation) (s s' : Trace) :
    Except Fault Resolution × Roster → Except Fault Resolution × Roster → Prop
  | lost {x y : Except Fault Resolution} {r r' : Roster} : P.void r r' → r.Sound → r'.Sound →
    Gets meets a b s s' (x, r) (y, r')
  | failed {f : Fault} {r r' : Roster} :
    P.rel a b s s' (some f) { s with roster := r } { s' with roster := r' } →
    Gets meets a b s s' (.error f, r) (.error f, r')
  | done {res res' : Resolution} {r r' : Roster} :
    P.rel a b s s' none { s with roster := r } { s' with roster := r' } →
    Resolution.Twins (meets { s with roster := r } { s' with roster := r' }) res res' →
    Gets meets a b s s' (.ok res, r) (.ok res', r')
  | abandoned {f : Fault} {y : Except Fault Resolution} {r r' : Roster} : P.lenient = true →
    Gets meets a b s s' (.error f, r) (y, r')

abbrev EntersAt (room : Nat) : Prop :=
  P.Enters (t.enterAt room) ((t.tuned o).enterAt room)

structure Following where
  meets : Activation → Activation → Trace → Trace → Target → Target → Prop
  fulfil : ∀ {a b s s'} q, P.inv a b s s' → q.Within t.casting.program → q.Known →
    (q = .ownState → P.own a.caller b.caller) →
    P.Gets (meets a b) a b s s' (t.casting.fulfil a.caller q s.roster)
      (t.casting.fulfil b.caller q s'.roster)
  deliver : ∀ {room a b s s' x y kind u u'} certainty args location text, P.EntersAt room →
    P.Obeys a b u u' →
    kind ≠ .response → P.inv a b s s' → s.scopes = s'.scopes → meets a b s s' x y →
    Beside P.void (P.rel a b s s') P.lenient
    (t.deliver (t.enterAt room) a kind certainty x args location text u s)
      ((t.tuned o).deliver ((t.tuned o).enterAt room) b kind certainty y args location text u' s')
  unresolved : ∀ {room a b s s' kind u u'} name args location text, P.EntersAt room →
    P.Obeys a b u u' → kind ≠ .response → P.inv a b s s' → s.scopes = s'.scopes →
    Beside P.void (P.rel a b s s') P.lenient
      (t.follow (t.enterAt room) a kind (.unresolved name) args location text u s)
      ((t.tuned o).follow ((t.tuned o).enterAt room) b kind
        (.unresolved name) args location text u' s')

structure Dispatching where
  meets : Activation → Activation → Trace → Trace → Target → Target → Prop
  fulfil : ∀ {a b s s'} q, P.inv a b s s' → q.Within t.casting.program →
    (q = .ownState → P.own a.caller b.caller) →
    P.Gets (meets a b) a b s s' (t.casting.fulfil a.caller q s.roster)
      (t.casting.fulfil b.caller q s'.roster)
  deliver : ∀ {E E' a b s s' x y kind u u'} certainty args location text, P.Enters E E' →
    P.Obeys a b u u' →
    kind ≠ .response → P.inv a b s s' → s.scopes = s'.scopes → meets a b s s' x y →
    Beside P.void (P.rel a b s s') P.lenient (t.deliver E a kind certainty x args location text u s)
      ((t.tuned o).deliver E' b kind certainty y args location text u' s')

variable {P} {E E' : Enter} {a b : Activation} {s s' : Trace}

theorem Gets.of_lost {meets : Trace → Trace → Target → Target → Prop}
    {x y : Except Fault Resolution × Roster} (h : P.void x.2 y.2) (hx : x.2.Sound)
    (hy : y.2.Sound) : P.Gets meets a b s s' x y :=
  .lost h hx hy

theorem cast_bind {meets : Trace → Trace → Target → Target → Prop} {x y : Cast Resolution}
    {k l : Resolution → Visit α} (hscopes : s.scopes = s'.scopes)
    (h : P.Gets meets a b s s' (x s.roster) (y s'.roster))
    (next : ∀ res res' s₁ s₁', P.rel a b s s' none s₁ s₁' → s₁.scopes = s₁'.scopes →
      x s.roster = (.ok res, s₁.roster) →
      Resolution.Twins (meets s₁ s₁') res res' →
      Beside P.void (P.rel a b s₁ s₁') P.lenient (k res s₁) (l res' s₁'))
    (hk : ∀ res, (k res).Grows) (hl : ∀ res, (l res).Grows) :
    Beside P.void (P.rel a b s s') P.lenient ((Visit.cast x >>= k) s)
      ((Visit.cast y >>= l) s') := by
  have hv : Visit.cast x s = ((x s.roster).1, { s with roster := (x s.roster).2 }) := rfl
  have hw : Visit.cast y s' = ((y s'.roster).1, { s' with roster := (y s'.roster).2 }) := rfl
  generalize hx : x s.roster = v, y s'.roster = w at h hv hw
  cases h with
  | lost hvoid hr hr' => exact .bind_lost P.lasts hv hw hvoid hr hr' hk hl
  | failed hrel =>
    rw [Agree.run_bind, Agree.run_bind, hv, hw]
    exact .failed hscopes hrel
  | done hrel htwins =>
    rw [Agree.run_bind, Agree.run_bind, hv, hw]
    exact (next _ _ _ _ hrel hscopes hx htwins).mono fun _ _ _ h' => P.trans hrel h'
  | @abandoned f _ _ _ hlenient =>
    refine .of_abandoned (f := f) hlenient ?_
    rw [Agree.run_bind, hv]

def Following.uniform (meets : Activation → Activation → Trace → Trace → Target → Target → Prop)
    (fulfil : ∀ {a b s s'} q, P.inv a b s s' → q.Within t.casting.program →
      (q = .ownState → P.own a.caller b.caller) →
      P.Gets (meets a b) a b s s' (t.casting.fulfil a.caller q s.roster)
        (t.casting.fulfil b.caller q s'.roster))
    (deliver : ∀ {room a b s s' x y kind u u'} certainty args location text,
      P.EntersAt room → P.Obeys a b u u' →
      kind ≠ .response → P.inv a b s s' → s.scopes = s'.scopes → meets a b s s' x y →
      Beside P.void (P.rel a b s s') P.lenient
      (t.deliver (t.enterAt room) a kind certainty x args location text u s)
        ((t.tuned o).deliver ((t.tuned o).enterAt room)
          b kind certainty y args location text u' s'))
    (hpolicy : o.unresolved = t.options.unresolved) : P.Following where
  meets := meets
  fulfil q h hq _ hown := fulfil q h hq hown
  deliver := deliver
  unresolved := by
    intro room a b s s' kind u u' name args location text hE hu hkind h hscopes
    cases hunresolved : t.options.unresolved with
    | elide =>
      rw [follow_elide hunresolved, follow_elide (hpolicy.trans hunresolved)]
      exact hu.both s s' h hscopes
    | external =>
      rw [follow_external hunresolved, follow_external (hpolicy.trans hunresolved)]
      have hgets := fulfil (.entity .external (.external name) none none) h
        (.entity trivial (by simp) (by simp)) (by simp)
      refine cast_bind hscopes hgets ?_
        (fun res => follow_grows hE.left hu.left res args location text)
        (fun res => follow_grows hE.right hu.right res args location text)
      intro res res' s₁ s₁' hrel hscopes₁ hrun hres
      have h₁ := P.keeps h hrel
      cases hres with
      | found hmeets => exact deliver _ args location text hE hu hkind h₁ hscopes₁ hmeets
      | filtered => exact hu.both s₁ s₁' h₁ hscopes₁
      | unresolved other => exact absurd hrun (Casting.fulfil_entity_ne _ _)

def Dispatching.following (D : P.Dispatching) (hpolicy : o.unresolved = t.options.unresolved) :
    P.Following :=
  .uniform D.meets D.fulfil D.deliver hpolicy

namespace Following

variable (F : P.Following) {room : Nat} {kind : MessageKind} {u u' : Visit Unit}

include F

theorem follow (hE : P.EntersAt room) (hu : P.Obeys a b u u') (hkind : kind ≠ .response)
    (h : P.inv a b s s') (hscopes : s.scopes = s'.scopes) {res res' : Resolution}
    (hres : Resolution.Twins (F.meets a b s s') res res') (args : List Value)
    (location : Option Location) (text : Option String) :
    Beside P.void (P.rel a b s s') P.lenient
      (t.follow (t.enterAt room) a kind res args location text u s)
      ((t.tuned o).follow ((t.tuned o).enterAt room) b kind res' args location text u' s') := by
  cases hres with
  | found hmeets => exact F.deliver _ args location text hE hu hkind h hscopes hmeets
  | filtered => exact hu.both s s' h hscopes
  | unresolved name => exact F.unresolved name args location text hE hu hkind h hscopes

theorem callsWith (hE : P.EntersAt room) {args : List Value}
    (hu : ∀ a b location, P.Obeys a b (t.callClosures (t.enterAt room) a location args)
      ((t.tuned o).callClosures ((t.tuned o).enterAt room) b location args)) :
    P.CallsWith (t.enterAt room) ((t.tuned o).enterAt room) args := by
  intro a b kind q location text hkind hq hknown hown
  refine ⟨call_grows hE.left q args location text, call_grows hE.right q args location text, ?_⟩
  intro s s' h hscopes
  refine cast_bind hscopes (F.fulfil q h hq hknown hown) ?_
    (fun res => follow_grows hE.left (hu a b location).left res args location text)
    (fun res => follow_grows hE.right (hu a b location).right res args location text)
  intro res res' s₁ s₁' hrel hscopes₁ _ hres
  exact F.follow hE (hu a b location) hkind (P.keeps h hrel) hscopes₁ hres args location text

theorem callClosures (hE : P.EntersAt room) (location : Option Location) (values : List Value) :
    P.Obeys a b (t.callClosures (t.enterAt room) a location values)
      ((t.tuned o).callClosures ((t.tuned o).enterAt room) b location values) := by
  have hnone : P.CallsWith (t.enterAt room) ((t.tuned o).enterAt room) [] :=
    F.callsWith hE fun a b location => .pure ()
  induction values with
  | nil => exact .pure ()
  | cons v rest ih =>
    cases v with
    | lambda operator captured =>
      have hasks : t.casting.Asks (P.own a.caller b.caller) fun _ =>
          t.casting.resolveValue (.lambda operator captured) "lambda" :=
            Casting.resolveValue_asks _ _
      have hcall :=
        Obeys.ask hnone hasks (show MessageKind.call ≠ .response by simp) location none ()
      simpa only [Tracer.callClosures, dispatch, bind_assoc, pure_bind] using hcall.bind fun _ => ih
    | function decl => exact ih
    | unknown => exact ih

theorem calls (hE : P.EntersAt room) : P.Calls (t.enterAt room) ((t.tuned o).enterAt room) :=
  fun args => F.callsWith hE fun _ _ location => F.callClosures hE location args

end Following

end Pairing

end Lifeline
