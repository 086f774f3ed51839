import Lifeline.Proofs.Law.Basic

/-! Pairings: what holds of two visits of the same code, one beside the other.

The visits may start from different traces and with different options. A pairing says what is known
before them and what they make of the two traces; as with laws, it is given by what it makes of the
few things that a visit can do. Both visits yield the same values, or fail in the same way. A
lenient pairing says nothing if the first visit fails. Where the frames of a statement have to be
remembered from when it was opened, a pairing also says what is known since then. -/

namespace Lifeline

abbrev Tracer.tuned (t : Tracer) (o : TraceOptions) : Tracer :=
  { t with options := o }

def Trace.opened (s : Trace) : Trace :=
  { s with blocks := s.blocks + 1 }

def Visit.Grows (v : Visit α) : Prop :=
  ∀ s, s.roster.Sound → s.roster.Extends (v s).2.roster ∧ (v s).2.roster.Sound

namespace Visit

variable {v : Visit α} {k : α → Visit β}

theorem Grows.of_roster (h : ∀ s, (v s).2.roster = s.roster) : v.Grows := by
  intro s hs
  rw [h s]
  exact ⟨.refl _, hs⟩

theorem Grows.pure (x : α) : (Pure.pure x : Visit α).Grows :=
  .of_roster fun _ => rfl

theorem Grows.rest {x : Except Fault α} {s s₁ : Trace} (hv : v s = (x, s₁)) (hs : s₁.roster.Sound)
    (hk : ∀ x, (k x).Grows) :
    s₁.roster.Extends ((v >>= k) s).2.roster ∧ ((v >>= k) s).2.roster.Sound := by
  rw [Agree.run_bind, hv]
  cases x with
  | error f => exact ⟨.refl _, hs⟩
  | ok x => exact hk x s₁ hs

theorem Grows.bind (hv : v.Grows) (hk : ∀ x, (k x).Grows) : (v >>= k).Grows := by
  intro s hs
  obtain ⟨hgrown, hsound⟩ := hv s hs
  obtain ⟨hgrown', hsound'⟩ := Grows.rest (x := (v s).1) rfl hsound hk
  exact ⟨hgrown.trans hgrown', hsound'⟩

theorem Grows.ite {p : Prop} [Decidable p] {w : Visit α} (hv : v.Grows) (hw : w.Grows) :
    (if p then v else w).Grows := by
  split
  · exact hv
  · exact hw

theorem Grows.inScope (hv : v.Grows) : (Visit.inScope v).Grows :=
  fun s hs => hv { s with scopes := s.scopes.push } hs

theorem Grows.withScopes (hv : v.Grows) (x : Scopes) : (Visit.withScopes x v).Grows :=
  fun s hs => hv { s with scopes := x } hs

theorem Grows.modify {u : Trace → Trace} (h : ∀ s, (u s).roster = s.roster) :
    (modify u : Visit PUnit).Grows :=
  .of_roster h

end Visit

/-- How two visits end: alike, in traces that are as stated; or on rosters of which nothing is said.
To be lenient is to say nothing either where the first one fails. -/
inductive Beside (void : Roster → Roster → Prop) (post : Option Fault → Trace → Trace → Prop) :
    (lenient : Bool) → Except Fault α × Trace → Except Fault α × Trace → Prop
  | lost {lenient : Bool} {x y : Except Fault α} {s s' : Trace} :
    void s.roster s'.roster → s.roster.Sound →
    s'.roster.Sound → Beside void post lenient (x, s) (y, s')
  | done {lenient : Bool} {x : α} {s s' : Trace} : s.scopes = s'.scopes → post none s s' →
    Beside void post lenient (.ok x, s) (.ok x, s')
  | failed {lenient : Bool} {f : Fault} {s s' : Trace} : s.scopes = s'.scopes → post (some f) s s' →
    Beside void post lenient (.error f, s) (.error f, s')
  | abandoned {f : Fault} {y : Except Fault α} {s s' : Trace} :
    Beside void post true (.error f, s) (y, s')

abbrev Both (void : Roster → Roster → Prop) (post : Option Fault → Trace → Trace → Prop)
    (x y : Except Fault α × Trace) : Prop :=
  Beside void post false x y

namespace Beside

variable {void : Roster → Roster → Prop} {post mid : Option Fault → Trace → Trace → Prop}
  {lenient : Bool}
variable {v w : Visit α} {k l : α → Visit β} {s s' : Trace}

theorem mono {x y : Except Fault α × Trace} (h : Beside void mid lenient x y)
    (imp : ∀ f s s', mid f s s' → post f s s') : Beside void post lenient x y := by
  cases h with
  | lost hvoid hs hs' => exact .lost hvoid hs hs'
  | done hscopes h => exact .done hscopes (imp _ _ _ h)
  | failed hscopes h => exact .failed hscopes (imp _ _ _ h)
  | abandoned => exact .abandoned

def Lasting (void : Roster → Roster → Prop) : Prop :=
  ∀ {r r' q q' : Roster}, void r r' → r.Extends q → r'.Extends q' → void q q'

theorem of_lost {x y : Except Fault α × Trace} (h : void x.2.roster y.2.roster)
    (hx : x.2.roster.Sound) (hy : y.2.roster.Sound) : Beside void post lenient x y :=
  .lost h hx hy

theorem of_abandoned {f : Fault} {x y : Except Fault α × Trace} (hlenient : lenient = true)
    (h : x.1 = .error f) : Beside void post lenient x y := by
  rw [hlenient, show x = (.error f, x.2) from Prod.ext h rfl]
  exact .abandoned

theorem bind_lost (hlasts : Lasting void) {x y : Except Fault α} {s₁ s₁' : Trace}
    (hv : v s = (x, s₁)) (hw : w s' = (y, s₁')) (hvoid : void s₁.roster s₁'.roster)
    (hs : s₁.roster.Sound) (hs' : s₁'.roster.Sound) (hk : ∀ x, (k x).Grows)
    (hl : ∀ x, (l x).Grows) : Beside void post lenient ((v >>= k) s) ((w >>= l) s') := by
  obtain ⟨hleft, hsound⟩ := Visit.Grows.rest hv hs hk
  obtain ⟨hright, hsound'⟩ := Visit.Grows.rest hw hs' hl
  exact of_lost (hlasts hvoid hleft hright) hsound hsound'

theorem bind (hlasts : Lasting void) (h : Beside void mid lenient (v s) (w s'))
    (next : ∀ x s s', s.scopes = s'.scopes → mid none s s' →
      Beside void post lenient (k x s) (l x s'))
    (fail : ∀ f s s', mid (some f) s s' → post (some f) s s') (hk : ∀ x, (k x).Grows)
    (hl : ∀ x, (l x).Grows) :
    Beside void post lenient ((v >>= k) s) ((w >>= l) s') := by
  generalize hv : v s = x, hw : w s' = y at h
  cases h with
  | lost hvoid hs hs' => exact bind_lost hlasts hv hw hvoid hs hs' hk hl
  | done hscopes hmid =>
    rw [Agree.run_bind, Agree.run_bind, hv, hw]
    exact next _ _ _ hscopes hmid
  | failed hscopes hmid =>
    rw [Agree.run_bind, Agree.run_bind, hv, hw]
    exact .failed hscopes (fail _ _ _ hmid)
  | abandoned =>
    rw [Agree.run_bind, hv]
    exact .abandoned

theorem inScope (h : Beside void mid lenient (v { s with scopes := s.scopes.push })
      (w { s' with scopes := s'.scopes.push }))
    (imp : ∀ f s₁ s₁', mid f s₁ s₁' →
      post f { s₁ with scopes := s₁.scopes.pop } { s₁' with scopes := s₁'.scopes.pop }) :
    Beside void post lenient (Visit.inScope v s) (Visit.inScope w s') := by
  simp only [Visit.inScope]
  generalize v { s with scopes := s.scopes.push } = x,
    w { s' with scopes := s'.scopes.push } = y at h
  cases h with
  | lost hvoid hs hs' => exact .lost hvoid hs hs'
  | done hscopes h => exact .done (congrArg Scopes.pop hscopes) (imp _ _ _ h)
  | failed hscopes h => exact .failed (congrArg Scopes.pop hscopes) (imp _ _ _ h)
  | abandoned => exact .abandoned

end Beside

/-- The frames of one part of a statement in two visits, with the number that the statement has in
each. -/
inductive Frame.Twins (t u : Tracer) (wording : String → String → Prop) (m n : Nat) :
    Frame → Frame → Prop
  | branch (kind : BranchKind) (index total : Nat) (text : Option String) :
    Twins t u wording m n (.branch m kind index total (t.caption text))
      (.branch n kind index total (u.caption text))
  | loop (kind : LoopKind) (text : Option String) :
    Twins t u wording m n (.loop m kind (t.caption text)) (.loop n kind (u.caption text))
  | handler (index : Nat) (label : Option String) :
    Twins t u wording m n (.handler m index label) (.handler n index label)
  | coroutine {operation operation' : String} : wording operation operation' →
    Twins t u wording m n (.coroutine m (some operation)) (.coroutine n (some operation'))

theorem Frame.Twins.eq {t u : Tracer} {n : Nat} {f g : Frame}
    (h : Frame.Twins t u (fun x y => x = y) n n f g)
    (htext : u.options.conditionText = t.options.conditionText) : f = g := by
  cases h with
  | branch kind index total text => simp only [Tracer.caption, htext]
  | loop kind text => simp only [Tracer.caption, htext]
  | handler index label => rfl
  | coroutine h => rw [h]

namespace Tracer

def yieldMessage (a : Activation) (receiver : ParticipantId)
    (location : Option Location) : Message where
  sender := a.caller
  receiver := receiver
  operation := "co_yield"
  kind := .response
  context := a.context
  depth := a.depth
  scope := .normal
  certainty := .exact
  location := location
  returnType := none
  note := none

def yielded (t : Tracer) (a : Activation) (location : Option Location) (s : Trace) : Trace :=
  match a.returnTo with
  | some receiver =>
    if t.options.returnMessages then s.push (yieldMessage a receiver location) else s
  | none => s

variable {t : Tracer} {a : Activation} {s : Trace}

theorem yielded_some {receiver : ParticipantId} (h : a.returnTo = some receiver)
    (location : Option Location) :
    t.yielded a location s =
      if t.options.returnMessages then s.push (yieldMessage a receiver location) else s := by
  rw [yielded, h]

theorem yielded_none (h : a.returnTo = none) (location : Option Location) :
    t.yielded a location s = s := by
  rw [yielded, h]

theorem yielded_quiet (h : t.options.returnMessages = false) (location : Option Location) :
    t.yielded a location s = s := by
  cases hr : a.returnTo with
  | none => exact yielded_none hr location
  | some receiver => rw [yielded_some hr, h, if_neg Bool.false_ne_true]

end Tracer

namespace Pairing

abbrev Relation :=
  Activation → Activation → Trace → Trace → Option Fault → Trace → Trace → Prop

/-- What is known since a statement was opened: if nothing else is said, what a visit right after
that comes to. -/
def Since (since : Option Relation) (rel : Relation) : Relation := fun a b s s' f s₁ s₁' =>
  match since with
  | some R => R a b s s' f s₁ s₁'
  | none => rel a b s.opened s'.opened f s₁ s₁'

def Framed (since : Option Relation) (rel : Relation) (a b : Activation) (s s' s₁ s₁' : Trace)
    (f : Option Fault) (s₂ s₂' : Trace) : Prop :=
  match since with
  | some R => R a b s s' f s₂ s₂'
  | none => rel a b s₁ s₁' f s₂ s₂'

/-- What is known since a statement was opened is known at first and is kept up, and in the end it
says what a visit of the whole statement comes to. -/
structure Spans (inv : Activation → Activation → Trace → Trace → Prop)
    (rel R : Relation) : Prop where
  begins : ∀ {a b s s'}, inv a b s s' → R a b s s' none s.opened s'.opened
  more : ∀ {a b s s' s₁ s₁' f s₂ s₂'}, R a b s s' none s₁ s₁' →
    rel a b s₁ s₁' f s₂ s₂' → R a b s s' f s₂ s₂'
  ends : ∀ {a b s s' f s₁ s₁'}, R a b s s' f s₁ s₁' → rel a b s s' f s₁ s₁'

end Pairing

structure Pairing (t : Tracer) (o : TraceOptions) (since : Option Pairing.Relation := none) where
  lenient : Bool := false
  /-- What is known before two visits. -/
  inv : Activation → Activation → Trace → Trace → Prop
  rel : Pairing.Relation
  /-- Nothing is said of visits that led to such rosters. -/
  void : Roster → Roster → Prop
  /-- Between which callers code may wait on the state of its own coroutine. -/
  own : ParticipantId → ParticipantId → Prop
  wording : String → String → Prop
  refl : ∀ {a b s s' f}, inv a b s s' → rel a b s s' f s s'
  trans : ∀ {a b s s' s₁ s₁' f s₂ s₂'}, rel a b s s' none s₁ s₁' →
    rel a b s₁ s₁' f s₂ s₂' → rel a b s s' f s₂ s₂'
  keeps : ∀ {a b s s' s₁ s₁'}, inv a b s s' → rel a b s s' none s₁ s₁' → inv a b s₁ s₁'
  lasts : Beside.Lasting void
  scopes : ∀ {a b s s' x x'}, inv a b s s' → inv a b { s with scopes := x } { s' with scopes := x' }
  rescope : ∀ {a b s s' f s₁ s₁'} x x' y y', rel a b s s' f s₁ s₁' →
    rel a b { s with scopes := x } { s' with scopes := x' } f
      { s₁ with scopes := y } { s₁' with scopes := y' }
  condition : ∀ {a b s s'}, inv a b s s' → inv a.inCondition b.inCondition s s'
  ofCondition : ∀ {a b s s' f s₁ s₁'}, inv a b s s' →
    rel a.inCondition b.inCondition s s' f s₁ s₁' → rel a b s s' f s₁ s₁'
  opens : ∀ {a b s s'}, inv a b s s' → rel a b s s' none s.opened s'.opened
  enter : ∀ {a b s s' s₁ s₁' f g}, inv a b s s' → Pairing.Since since rel a b s s' none s₁ s₁' →
    Frame.Twins t (t.tuned o) wording s.blocks s'.blocks f g → inv (a.enter f) (b.enter g) s₁ s₁'
  ofEnter : ∀ {a b s s' s₁ s₁' f g e s₂ s₂'}, inv a b s s' →
    Pairing.Since since rel a b s s' none s₁ s₁' →
    Frame.Twins t (t.tuned o) wording s.blocks s'.blocks f g →
    rel (a.enter f) (b.enter g) s₁ s₁' e s₂ s₂' →
    Pairing.Framed since rel a b s s' s₁ s₁' e s₂ s₂'
  yield : ∀ {a b s s' location}, inv a b s s' →
    rel a b s s' none (t.yielded a location s) ((t.tuned o).yielded b location s')
  spans : ∀ R, since = some R → Pairing.Spans inv rel R := by nofun

namespace Pairing

variable {t : Tracer} {o : TraceOptions} {since : Option Relation} (P : Pairing t o since)

structure Obeys (a b : Activation) (v w : Visit α) : Prop where
  left : v.Grows
  right : w.Grows
  both : ∀ s s', P.inv a b s s' → s.scopes = s'.scopes →
    Beside P.void (P.rel a b s s') P.lenient (v s) (w s')

abbrev Opened (a b : Activation) (s s' : Trace) : Option Fault → Trace → Trace → Prop :=
  Since since P.rel a b s s'

structure Inside (a b : Activation) (m n : Nat) (v w : Visit α) : Prop where
  left : v.Grows
  right : w.Grows
  both : ∀ s s' s₁ s₁', P.inv a b s s' → s.blocks = m → s'.blocks = n →
    P.Opened a b s s' none s₁ s₁' →
    s₁.scopes = s₁'.scopes → Beside P.void (P.Opened a b s s') P.lenient (v s₁) (w s₁')

variable {P} {a b : Activation} {s s' s₁ s₁' s₂ s₂' : Trace} {m n : Nat} {v w : Visit α}
  {k l : α → Visit β}

theorem Obeys.pure (x : α) : P.Obeys a b (Pure.pure x) (Pure.pure x) :=
  ⟨.pure x, .pure x, fun _ _ h hscopes => .done hscopes (P.refl h)⟩

theorem Obeys.bind (hv : P.Obeys a b v w) (next : ∀ x, P.Obeys a b (k x) (l x)) :
    P.Obeys a b (v >>= k) (w >>= l) := by
  refine ⟨hv.left.bind fun x => (next x).left, hv.right.bind fun x => (next x).right, ?_⟩
  intro s s' h hscopes
  refine (hv.both s s' h hscopes).bind P.lasts ?_ (fun _ _ _ h => h) (fun x => (next x).left)
    fun x => (next x).right
  intro x s₁ s₁' hscopes' hrel
  exact ((next x).both s₁ s₁' (P.keeps h hrel) hscopes').mono fun _ _ _ h' => P.trans hrel h'

theorem Obeys.reading (x : Scopes → α) :
    P.Obeys a b (do return x (← get).scopes) (do return x (← get).scopes) := by
  refine ⟨.of_roster fun _ => rfl, .of_roster fun _ => rfl, fun s s' h hscopes => ?_⟩
  show Beside P.void _ P.lenient (.ok (x s.scopes), s) (.ok (x s'.scopes), s')
  rw [hscopes]
  exact .done hscopes (P.refl h)

theorem Obeys.rescope (u : Scopes → Scopes) :
    P.Obeys a b (modify fun s => { s with scopes := u s.scopes })
      (modify fun s => { s with scopes := u s.scopes }) := by
  refine ⟨.modify fun _ => rfl, .modify fun _ => rfl, fun s s' h hscopes => ?_⟩
  exact .done (congrArg u hscopes) (P.rescope s.scopes s'.scopes _ _ (P.refl h))

theorem unscope {f : Option Fault} {x x' y y' : Scopes}
    (h : P.rel a b { s with scopes := x } { s' with scopes := x' } f s₁ s₁') :
    P.rel a b s s' f { s₁ with scopes := y } { s₁' with scopes := y' } := by
  have hback := P.rescope s.scopes s'.scopes y y' h
  exact hback

theorem Obeys.inScope (hv : P.Obeys a b v w) : P.Obeys a b (Visit.inScope v) (Visit.inScope w) := by
  refine ⟨hv.left.inScope, hv.right.inScope, fun s s' h hscopes => ?_⟩
  have hboth := hv.both { s with scopes := s.scopes.push } { s' with scopes := s'.scopes.push }
    (P.scopes h) (congrArg Scopes.push hscopes)
  exact hboth.inScope fun _ _ _ hrel => unscope hrel

theorem Obeys.inCondition (hv : P.Obeys a.inCondition b.inCondition v w) : P.Obeys a b v w :=
  ⟨hv.left, hv.right, fun s s' h hscopes =>
    (hv.both s s' (P.condition h) hscopes).mono fun _ _ _ h' => P.ofCondition h h'⟩

theorem Opened.begins (h : P.inv a b s s') : P.Opened a b s s' none s.opened s'.opened := by
  cases since with
  | none => exact P.refl (P.keeps h (P.opens h))
  | some R => exact (P.spans R rfl).begins h

theorem Opened.more {f : Option Fault} (h : P.Opened a b s s' none s₁ s₁')
    (hrel : P.rel a b s₁ s₁' f s₂ s₂') : P.Opened a b s s' f s₂ s₂' := by
  cases since with
  | none => exact P.trans (show P.rel a b s.opened s'.opened none s₁ s₁' from h) hrel
  | some R => exact (P.spans R rfl).more h hrel

theorem Opened.enter {f g : Frame} {e : Option Fault} (hinv : P.inv a b s s')
    (h : P.Opened a b s s' none s₁ s₁')
    (hfg : Frame.Twins t (t.tuned o) P.wording s.blocks s'.blocks f g)
    (hrel : P.rel (a.enter f) (b.enter g) s₁ s₁' e s₂ s₂') : P.Opened a b s s' e s₂ s₂' := by
  have hframed := P.ofEnter hinv h hfg hrel
  cases since with
  | none => exact Opened.more h hframed
  | some R => exact hframed

theorem Opened.ends {f : Option Fault} (hinv : P.inv a b s s') (h : P.Opened a b s s' f s₁ s₁') :
    P.rel a b s s' f s₁ s₁' := by
  cases since with
  | none => exact P.trans (P.opens hinv) h
  | some R => exact (P.spans R rfl).ends h

theorem Obeys.block {k l : Nat → Visit β} (h : ∀ m n, P.Inside a b m n (k m) (l n)) :
    P.Obeys a b (Visit.nextBlock >>= k) (Visit.nextBlock >>= l) := by
  have hnext : Visit.nextBlock.Grows := .of_roster fun _ => rfl
  refine ⟨hnext.bind fun m => (h m m).left, hnext.bind fun n => (h n n).right, ?_⟩
  intro s s' hinv hscopes
  show Beside P.void (P.rel a b s s') P.lenient (k s.blocks s.opened) (l s'.blocks s'.opened)
  exact ((h _ _).both s s' _ _ hinv rfl rfl (.begins hinv) hscopes).mono fun _ _ _ h' =>
    Opened.ends hinv h'

theorem Inside.bind (hv : P.Inside a b m n v w) (next : ∀ x, P.Inside a b m n (k x) (l x)) :
    P.Inside a b m n (v >>= k) (w >>= l) := by
  refine ⟨hv.left.bind fun x => (next x).left, hv.right.bind fun x => (next x).right, ?_⟩
  intro s s' s₁ s₁' hinv hm hn h hscopes
  refine (hv.both s s' s₁ s₁' hinv hm hn h hscopes).bind P.lasts ?_
    (fun _ _ _ h => h) (fun x => (next x).left) fun x => (next x).right
  intro x s₂ s₂' hscopes' h'
  exact (next x).both s s' s₂ s₂' hinv hm hn h' hscopes'

theorem Inside.of (hv : P.Obeys a b v w) : P.Inside a b m n v w := by
  refine ⟨hv.left, hv.right, fun s s' s₁ s₁' hinv _ _ h hscopes => ?_⟩
  exact (hv.both s₁ s₁' (P.keeps hinv (Opened.ends hinv h)) hscopes).mono fun _ _ _ h' =>
    Opened.more h h'

theorem Inside.enter {f g : Frame} (hfg : Frame.Twins t (t.tuned o) P.wording m n f g)
    (hv : P.Obeys (a.enter f) (b.enter g) v w) : P.Inside a b m n v w := by
  refine ⟨hv.left, hv.right, ?_⟩
  rintro s s' s₁ s₁' hinv rfl rfl h hscopes
  exact (hv.both s₁ s₁' (P.enter hinv h hfg) hscopes).mono fun _ _ _ h' =>
    Opened.enter hinv h hfg h'

end Pairing

end Lifeline
