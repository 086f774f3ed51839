import Lifeline.Proofs.Pairing.Lockstep

namespace Lifeline

namespace Tracer

def proceed (t : Tracer) (E : Enter) (entry : Decl) (f : Function) (body : Stmt)
    (p : ParticipantId) : Visit Unit := do
  if p.isTombstone then throw (.missingEntry (.excluded entry.name))
  modify fun s => { s with
    interaction := { s.interaction with entryPoints := s.interaction.entryPoints ++ [p] } }
  let operation := (← get).roster.operation p
  let path : CallPath := { maxDepth := t.options.maxDepth }
  match path.enter (p, operation) with
  | .entered path => Visit.withScopes .empty (E { path, caller := p } f body operation)
  | .recursive => pure ()
  | .tooDeep => pure ()

variable {t : Tracer} {E : Enter} {entry : Decl} {f : Function} {body : Stmt} {p : ParticipantId}

theorem traceWith_eq (hfun : entry.function? = some f) (hbody : f.body = some body) :
    t.traceWith E entry =
      Visit.cast (t.casting.intern (.decl entry)) >>= t.proceed E entry f body := by
  unfold traceWith
  rw [hfun]
  dsimp only
  rw [hbody]
  rfl

theorem proceed_tombstone (hp : p.isTombstone = true) (s : Trace) :
    t.proceed E entry f body p s = (.error (.missingEntry (.excluded entry.name)), s) := by
  unfold proceed
  rw [hp]
  rfl

theorem proceed_eq (hp : p.isTombstone = false) (s : Trace) :
    t.proceed E entry f body p s =
      if ({ maxDepth := t.options.maxDepth } : CallPath).isFull then (.ok (), s.begin s.roster p)
      else Visit.withScopes .empty (E (t.start s.roster p) f body (s.roster.operation p))
          (s.begin s.roster p) := by
  have henter (c : Call) : ({ maxDepth := t.options.maxDepth } : CallPath).enter c =
      if ({ maxDepth := t.options.maxDepth } : CallPath).isFull then .tooDeep
      else .entered { maxDepth := t.options.maxDepth, calls := [c] } := rfl
  simp only [proceed, hp, henter]
  cases ({ maxDepth := t.options.maxDepth } : CallPath).isFull <;> rfl

theorem proceed_grows (hE : ∀ a f body operation, (E a f body operation).Grows) :
    (t.proceed E entry f body p).Grows := by
  intro s hs
  cases hp : p.isTombstone with
  | true =>
    rw [proceed_tombstone hp]
    exact ⟨.refl _, hs⟩
  | false =>
    rw [proceed_eq hp]
    split
    · exact ⟨.refl _, hs⟩
    · exact Visit.Grows.withScopes (hE _ _ _ _) _ (s.begin s.roster p) hs

end Tracer

namespace Pairing

open Tracer

variable {t : Tracer} {o : TraceOptions}

def silent (t : Tracer) (o : TraceOptions) : Pairing t o where
  inv _ _ _ _ := False
  rel _ _ _ _ _ _ _ := True
  void _ _ := False
  own _ _ := True
  wording _ _ := True
  refl _ := trivial
  trans _ _ := trivial
  keeps h _ := h
  lasts h _ _ := h
  scopes h := h
  rescope _ _ _ _ _ := trivial
  condition h := h
  ofCondition _ _ := trivial
  opens _ := trivial
  enter h _ _ := h
  ofEnter h _ _ _ := h.elim
  yield _ := trivial

def silentDispatching (t : Tracer) : (silent t t.options).Dispatching where
  meets _ _ _ _ _ _ := True
  fulfil _ h := h.elim
  deliver _ _ _ _ _ _ _ h := h.elim

theorem enterAt_grows (room : Nat) (a : Activation) (f : Function) (body : Stmt)
    (operation : String) : (t.enterAt room a f body operation).Grows := by
  induction room generalizing a f body operation with
  | zero => exact .pure ()
  | succ room ih =>
    -- A visit beside itself, of which the pairing has nothing more to say.
    have hE : (silent t t.options).Enters (t.enterAt room) (t.enterAt room) :=
      ⟨ih, ih, fun _ _ _ _ _ _ _ _ => ⟨ih _ _ _ _, ih _ _ _ _, fun _ _ h => h.elim⟩⟩
    have hbody : (silent t t.options).Obeys a a (t.visitBody (t.enterAt room) a f body operation)
        (t.visitBody (t.enterAt room) a f body operation) :=
      visitBody_obeys (((silentDispatching t).following rfl).calls hE) (fun _ => trivial) f trivial
    exact hbody.left

theorem trace_grows (entry : Decl) : (t.trace entry).Grows := by
  unfold trace
  cases hfun : entry.function? with
  | none =>
    unfold traceWith
    rw [hfun]
    exact .of_roster fun _ => rfl
  | some f =>
    cases hbody : f.body with
    | none =>
      unfold traceWith
      rw [hfun]
      dsimp only
      rw [hbody]
      exact .of_roster fun _ => rfl
    | some body =>
      rw [traceWith_eq hfun hbody]
      refine .bind (.cast fun r hr => ?_) fun p => proceed_grows (enterAt_grows _)
      have hgrows := (Casting.intern_grows (c := t.casting) hr (.decl entry)).result
      exact ⟨hgrows.grown, hgrows.sound⟩

variable {since : Option Relation} {P : Pairing t o since}

theorem enterAt_enters (F : P.Following) (room : Nat) :
    P.Enters (t.enterAt room) ((t.tuned o).enterAt room) := by
  induction room with
  | zero => exact ⟨enterAt_grows 0, enterAt_grows 0, fun _ _ _ _ _ _ _ _ => .pure ()⟩
  | succ room ih =>
    refine ⟨enterAt_grows _, enterAt_grows _, ?_⟩
    exact fun a b f body operation operation' hown hword =>
      visitBody_obeys (F.calls ih) hown f hword

variable (P)

structure Begins (entry : Decl) (s s' : Trace) (post : Option Fault → Trace → Trace → Prop)
    (p : ParticipantId) (r r' : Roster) : Prop where
  idle : post none (s.begin r p) (s'.begin r' p)
  inv : P.inv (t.start r p) ((t.tuned o).start r' p) (s.begin r p) (s'.begin r' p)
  own : ∀ body, entry.body? = some body → body.awaitsOwn = true → P.own p p
  wording : P.wording (r.operation p) (r'.operation p)
  leave : ∀ f s₁ s₁', P.rel (t.start r p) ((t.tuned o).start r' p) (s.begin r p)
    (s'.begin r' p) f s₁ s₁' →
    post f { s₁ with scopes := s.scopes } { s₁' with scopes := s'.scopes }

inductive Starts (entry : Decl) (s s' : Trace) (post : Option Fault → Trace → Trace → Prop) :
    Except Fault ParticipantId × Roster → Except Fault ParticipantId × Roster → Prop
  | lost {x y : Except Fault ParticipantId} {r r' : Roster} : P.void r r' → r.Sound → r'.Sound →
    Starts entry s s' post (x, r) (y, r')
  | failed {f : Fault} {r r' : Roster} :
    post (some f) { s with roster := r } { s' with roster := r' } →
    Starts entry s s' post (.error f, r) (.error f, r')
  | excluded {p : ParticipantId} {r r' : Roster} : p.isTombstone = true →
    (∀ f, post (some f) { s with roster := r } { s' with roster := r' }) →
    Starts entry s s' post (.ok p, r) (.ok p, r')
  | begins {p : ParticipantId} {r r' : Roster} : p.isTombstone = false →
    P.Begins entry s s' post p r r' → Starts entry s s' post (.ok p, r) (.ok p, r')
  | abandoned {f : Fault} {y : Except Fault ParticipantId} {r r' : Roster} : P.lenient = true →
    Starts entry s s' post (.error f, r) (y, r')

variable {P} {E E' : Enter} {entry : Decl} {s s' : Trace}
  {post : Option Fault → Trace → Trace → Prop}

theorem Starts.of_lost {x y : Except Fault ParticipantId × Roster} (h : P.void x.2 y.2)
    (hx : x.2.Sound) (hy : y.2.Sound) : P.Starts entry s s' post x y :=
  .lost h hx hy

theorem traceWith_both (hE : P.Enters E E')
    (hfull : ({ maxDepth := o.maxDepth } : CallPath).isFull =
      ({ maxDepth := t.options.maxDepth } : CallPath).isFull)
    (hscopes : s.scopes = s'.scopes) (hrefused : ∀ f, post (some f) s s')
    (hstart : entry.hasBody = true →
      P.Starts entry s s' post (t.casting.intern (.decl entry) s.roster)
      (t.casting.intern (.decl entry) s'.roster)) :
    Beside P.void post P.lenient (t.traceWith E entry s) ((t.tuned o).traceWith E' entry s') := by
  cases hfun : entry.function? with
  | none =>
    unfold traceWith
    rw [hfun]
    exact .failed hscopes (hrefused _)
  | some f =>
    cases hbody : f.body with
    | none =>
      unfold traceWith
      rw [hfun]
      dsimp only
      rw [hbody]
      exact .failed hscopes (hrefused _)
    | some body =>
      rw [traceWith_eq hfun hbody, traceWith_eq hfun hbody]
      have hv (t : Tracer) (s : Trace) : Visit.cast (t.casting.intern (.decl entry)) s =
          ((t.casting.intern (.decl entry) s.roster).1,
            { s with roster := (t.casting.intern (.decl entry) s.roster).2 }) := rfl
      have hleft := hv t s
      have hright := hv (t.tuned o) s'
      have hstart := hstart (by simp [Decl.hasBody, Decl.body?, hfun, hbody])
      generalize t.casting.intern (.decl entry) s.roster = x,
        t.casting.intern (.decl entry) s'.roster = y at hstart hleft hright
      cases hstart with
      | lost hvoid hr hr' =>
        exact .bind_lost P.lasts hleft hright hvoid hr hr' (fun _ => proceed_grows hE.left)
          fun _ => proceed_grows hE.right
      | failed hpost =>
        rw [Agree.run_bind, Agree.run_bind, hleft, hright]
        exact .failed hscopes hpost
      | excluded hp hpost =>
        rw [Agree.run_bind, Agree.run_bind, hleft, hright]
        dsimp only
        rw [proceed_tombstone hp, proceed_tombstone hp]
        exact .failed hscopes (hpost _)
      | @begins p r r' hp hbegins =>
        rw [Agree.run_bind, Agree.run_bind, hleft, hright]
        dsimp only
        rw [proceed_eq hp, proceed_eq hp, hfull]
        split
        · exact .done hscopes hbegins.idle
        · have hown : body.awaitsOwn = true → P.own p p :=
            hbegins.own body (by simp [Decl.body?, hfun, hbody])
          have hvisit := (hE.both _ _ f body _ _ hown hbegins.wording).both
            { s.begin r p with scopes := .empty } { s'.begin r' p with scopes := .empty }
              (P.scopes hbegins.inv) rfl
          exact hvisit.withScopes hscopes fun _ _ _ hrel => hbegins.leave _ _ _ (unscope hrel)
      | @abandoned f _ _ _ hlenient =>
        refine .of_abandoned (f := f) hlenient ?_
        rw [Agree.run_bind, hleft]

theorem Following.trace_both (F : P.Following)
    (hfull : ({ maxDepth := o.maxDepth } : CallPath).isFull =
      ({ maxDepth := t.options.maxDepth } : CallPath).isFull)
    (hscopes : s.scopes = s'.scopes) (hrefused : ∀ f, post (some f) s s')
    (hstart : entry.hasBody = true →
      P.Starts entry s s' post (t.casting.intern (.decl entry) s.roster)
      (t.casting.intern (.decl entry) s'.roster)) :
    Beside P.void post P.lenient (t.trace entry s) ((t.tuned o).trace entry s') :=
  traceWith_both (enterAt_enters F _) hfull hscopes hrefused hstart

theorem trace_both (D : P.Dispatching) (hpolicy : o.unresolved = t.options.unresolved)
    (hdepth : o.maxDepth = t.options.maxDepth) (hscopes : s.scopes = s'.scopes)
    (hrefused : ∀ f, post (some f) s s')
    (hstart : entry.hasBody = true →
      P.Starts entry s s' post (t.casting.intern (.decl entry) s.roster)
      (t.casting.intern (.decl entry) s'.roster)) :
    Beside P.void post P.lenient (t.trace entry s) ((t.tuned o).trace entry s') :=
  (D.following hpolicy).trace_both (by rw [hdepth]) hscopes hrefused hstart

end Pairing

end Lifeline
