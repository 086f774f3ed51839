import Lifeline.Proofs.Law.Run

/-! What calls ask the casting for. However a callee is written, to resolve it is to look something
up in the program and then to intern one entity at most. -/

namespace Lifeline

inductive Request
  | entity (certainty : Certainty) (entity : Entity) (function : Option Function)
    (captured : Option Bindings)
  | ownState
  | unknown (name : String)

namespace Request

def entity? (caller : ParticipantId) : Request → Option Entity
  | .entity _ e _ _ => some e
  | .ownState => some (.coroutineState caller)
  | .unknown _ => none

def reply (id : ParticipantId) (r : Roster) : Request → Resolution
  | .entity certainty _ function captured =>
    if id.isTombstone then .filtered
    else .found certainty { participant := id, function, operation := r.operation id, captured }
  | .ownState =>
    .found .exact { participant := id, function := none, operation := "co_await", captured := none }
  | .unknown name => .unresolved name

structure Leads (p : Program) (e : Entity) (f : Function) (d : Decl)
    (args : List String) : Prop where
  declared : p.Declares d
  function : d.function? = some f
  known : ∀ id r, e.KnownAs id r → r.remembered? d.id args = some id

inductive Within (p : Program) : Request → Prop
  | entity {certainty : Certainty} {e : Entity} {function : Option Function}
    {captured : Option Bindings} :
    e.Within p → (∀ id, e ≠ .coroutineState id) →
    (∀ f, function = some f → ∃ d args, Leads p e f d args) →
      Within p (.entity certainty e function captured)
  | ownState : Within p .ownState
  | unknown (name : String) : Within p (.unknown name)

def Known (q : Request) : Prop :=
  ∀ certainty name function captured, q ≠ .entity certainty (.external name) function captured

end Request

namespace Casting

def fulfil (c : Casting) (caller : ParticipantId) : Request → Cast Resolution
  | .entity certainty e function captured => c.target certainty e function captured
  | .ownState => c.resolveAwaiter none caller
  | .unknown name => pure (.unresolved name)

variable {c : Casting} {q : Request} {caller id : ParticipantId} {e : Entity} {r r' : Roster}

theorem fulfil_ok (he : q.entity? caller = some e) (h : c.intern e r = (.ok id, r')) :
    c.fulfil caller q r = (.ok (q.reply id r'), r') := by
  cases q with
  | entity certainty e' function captured =>
    cases he
    simp only [fulfil, target, Agree.run_bind, h, Request.reply]
    split <;> rfl
  | ownState =>
    cases he
    simp only [fulfil, resolveAwaiter, Agree.run_bind, h]
    rfl
  | unknown name => cases he

theorem fulfil_error {f : Fault} (he : q.entity? caller = some e)
    (h : c.intern e r = (.error f, r')) : c.fulfil caller q r = (.error f, r') := by
  cases q with
  | entity certainty e' function captured =>
    cases he
    simp only [fulfil, target, Agree.run_bind, h]
  | ownState =>
    cases he
    simp only [fulfil, resolveAwaiter, Agree.run_bind, h]
  | unknown name => cases he

theorem fulfil_entity_ne {certainty : Certainty} {function : Option Function}
    {captured : Option Bindings} (name : String) (r' : Roster) :
    c.fulfil caller (.entity certainty e function captured) r ≠ (.ok (.unresolved name), r') := by
  intro h
  rcases hrun : c.intern e r with ⟨f | id, r₁⟩
  · rw [fulfil_error rfl hrun] at h
    cases h
  · rw [fulfil_ok rfl hrun, Request.reply] at h
    split at h <;> cases h

theorem fulfil_roster (he : q.entity? caller = some e) :
    (c.fulfil caller q r).2 = (c.intern e r).2 := by
  rcases hrun : c.intern e r with ⟨f | id, r'⟩
  · rw [fulfil_error he hrun]
  · rw [fulfil_ok he hrun]

theorem fulfil_grows (hr : r.Sound) (caller : ParticipantId) (q : Request) :
    r.Extends (c.fulfil caller q r).2 ∧ (c.fulfil caller q r).2.Sound := by
  cases he : q.entity? caller with
  | none =>
    cases q with
    | unknown name => exact ⟨.refl r, hr⟩
    | entity => cases he
    | ownState => cases he
  | some e =>
    have hgrows := (intern_grows (c := c) hr e).result
    rw [fulfil_roster he]
    exact ⟨hgrows.grown, hgrows.sound⟩

theorem fulfil_visible (hr : r.Sound) {certainty : Certainty} {target : Target} {f : Function}
    (h : c.fulfil caller q r = (.ok (.found certainty target), r'))
    (hf : target.function = some f) :
    r'.isVisible target.participant = true := by
  cases q with
  | entity certainty e function captured =>
    have hshows := (intern_grows (c := c) hr e).result.outcome
    rcases hrun : c.intern e r with ⟨g | id, r₁⟩
    · rw [fulfil_error rfl hrun] at h
      cases h
    · rw [hrun] at hshows
      rw [fulfil_ok rfl hrun, Request.reply] at h
      split at h
      · cases h
      case isFalse hid =>
        cases h
        exact hshows (by simpa [ParticipantId.isTombstone] using hid)
  | ownState =>
    rcases hrun : c.intern (.coroutineState caller) r with ⟨g | id, r₁⟩
    · rw [fulfil_error rfl hrun] at h
      cases h
    · rw [fulfil_ok rfl hrun] at h
      cases h
      cases hf
  | unknown name => cases h

theorem fulfil_lands (hr : r.Sound) (hq : q.Within c.program) {certainty : Certainty}
    {target : Target} {f : Function} (h : c.fulfil caller q r = (.ok (.found certainty target), r'))
    (hf : target.function = some f) :
    ∃ d args, c.program.Declares d ∧ d.function? = some f ∧
      r'.remembered? d.id args = some target.participant := by
  cases hq with
  | @entity certainty e function captured _ _ hleads =>
    rcases hrun : c.intern e r with ⟨g | id, r₁⟩
    · rw [fulfil_error rfl hrun] at h
      cases h
    · rw [fulfil_ok rfl hrun, Request.reply] at h
      split at h
      · cases h
      · cases h
        obtain ⟨d, args, hd⟩ := hleads f hf
        exact ⟨d, args, hd.declared, hd.function, hd.known _ _ (intern_knownAs hr hrun)⟩
  | ownState =>
    rcases hrun : c.intern (.coroutineState caller) r with ⟨g | id, r₁⟩
    · rw [fulfil_error rfl hrun] at h
      cases h
    · rw [fulfil_ok rfl hrun] at h
      cases h
      cases hf
  | unknown name => cases h

/-- Whoever asks, a look-up that depends on the program alone fails, or there is something to be
asked for. The state of the own coroutine is asked for only where `own` holds. -/
def Asks (c : Casting) (own : Prop) (x : ParticipantId → Cast Resolution) : Prop :=
  (∃ f, ∀ p r, x p r = (.error f, r)) ∨
    ∃ q : Request, q.Within c.program ∧ q.Known ∧ (q = .ownState → own) ∧ ∀ p, x p = c.fulfil p q

theorem Asks.grows {own : Prop} {x : ParticipantId → Cast Resolution} (h : c.Asks own x)
    (hr : r.Sound) (p : ParticipantId) : r.Extends (x p r).2 ∧ (x p r).2.Sound := by
  rcases h with ⟨f, hf⟩ | ⟨q, -, -, -, heq⟩
  · rw [hf]
    exact ⟨.refl r, hr⟩
  · rw [heq]
    exact fulfil_grows hr p q

theorem asks_request {own : Prop} {q : Request} (hq : q.Within c.program) (hknown : q.Known)
    (hown : q = .ownState → own) : c.Asks own (c.fulfil · q) :=
  .inr ⟨q, hq, hknown, hown, fun _ => rfl⟩

theorem asks_lift {own : Prop} {x : Except Fault α} {k : ParticipantId → α → Cast Resolution}
    (h : ∀ y, x = .ok y → c.Asks own (k · y)) : c.Asks own fun p => liftM x >>= k p := by
  cases x with
  | error f => exact .inl ⟨f, fun p r => Agree.run_lift_error f (k p) r⟩
  | ok y =>
    rcases h y rfl with ⟨f, hf⟩ | ⟨q, hq, hknown, hown, heq⟩
    · exact .inl ⟨f, hf⟩
    · exact .inr ⟨q, hq, hknown, hown, heq⟩

variable {own : Prop}

theorem asks_function {id : DeclId} {k : Decl × Function → Cast Resolution} {certainty : Certainty}
    {args : List String} {captured : Option Bindings}
    (hk : ∀ d f, k (d, f) =
      c.target certainty (if args.isEmpty then .decl d else .instantiation d args)
        (some f) captured) :
    c.Asks own fun _ => liftM (c.program.function id) >>= k := by
  refine asks_lift (k := fun _ => k) ?_
  rintro ⟨d, f⟩ hdf
  obtain ⟨hd, -, hfun⟩ := function_eq_ok hdf
  simp only [hk]
  cases hargs : args.isEmpty with
  | true =>
    refine asks_request (q := .entity certainty (.decl d) (some f) captured)
      (.entity hd (by simp) ?_) (by simp [Request.Known]) (by simp)
    rintro g ⟨rfl⟩
    exact ⟨d, [], hd, hfun, fun _ _ h => h⟩
  | false =>
    refine asks_request (q := .entity certainty (.instantiation d args) (some f) captured)
      (.entity hd (by simp) ?_) (by simp [Request.Known]) (by simp)
    rintro g ⟨rfl⟩
    exact ⟨d, _, hd, hfun, fun _ _ h => h⟩

theorem resolveDecl_asks (id : DeclId) (args : List String) (dispatch : Dispatch)
    (captured : Option Bindings) : c.Asks own fun _ => c.resolveDecl id args dispatch captured :=
  asks_function fun _ _ => rfl

theorem resolveValue_asks (v : Value) (name : String) :
    c.Asks own fun _ => c.resolveValue v name := by
  cases v with
  | lambda operator captured => exact resolveDecl_asks operator [] .static (some captured)
  | function decl => exact resolveDecl_asks decl [] .static none
  | unknown => exact asks_request (.unknown name) (by simp [Request.Known]) (by simp)

theorem resolveCallee_asks (callee : Callee) (scopes : Scopes) :
    c.Asks own fun _ => c.resolveCallee callee scopes := by
  cases callee with
  | decl id args dispatch => exact resolveDecl_asks id args dispatch none
  | var name =>
    simp only [resolveCallee]
    cases scopes.get? name with
    | none => exact asks_request (.unknown name) (by simp [Request.Known]) (by simp)
    | some v => exact resolveValue_asks v name
  | unresolved name template =>
    cases template with
    | none => exact asks_request (.unknown name) (by simp [Request.Known]) (by simp)
    | some id =>
      have htarget (d : Decl) (f : Function) : c.target .approximate (.decl d) (some f) none =
          c.target .approximate (if ([] : List String).isEmpty then .decl d
            else .instantiation d []) (some f) none := rfl
      exact asks_function htarget
  | expr e => exact asks_request (.unknown "<expression>") (by simp [Request.Known]) (by simp)

theorem resolveConstruct_asks (cls : DeclId) (ctor : Option DeclId) :
    c.Asks own fun _ => c.resolveConstruct cls ctor := by
  cases ctor with
  | some id => exact resolveDecl_asks id [] .static none
  | none =>
    refine asks_lift (k := fun _ d => c.target .exact (.decl d) none none) ?_
    intro d hd
    refine asks_request (q := .entity .exact (.decl d) none none) (.entity ?_ (by simp) (by simp))
      (by simp [Request.Known]) (by simp)
    exact (Program.declares_of_get? (Program.decl_eq_ok_iff.1 hd)).1

theorem resolveAwaiter_asks (awaiter : Option DeclId) (hown : awaiter = none → own) :
    c.Asks own fun p => c.resolveAwaiter awaiter p := by
  cases awaiter with
  | some id => exact resolveDecl_asks id [] .static none
  | none => exact asks_request .ownState (by simp [Request.Known]) fun _ => hown rfl

end Casting

namespace Tracer

variable {t : Tracer} {E : Enter} {a : Activation}

def call (t : Tracer) (E : Enter) (a : Activation) (kind : MessageKind) (q : Request)
    (args : List Value) (location : Option Location) (text : Option String) : Visit Unit := do
  t.dispatch E a kind (← Visit.cast (t.casting.fulfil a.caller q)) args location text

theorem follow_external (h : t.options.unresolved = .external) (kind : MessageKind) (name : String)
    (args : List Value) (location : Option Location) (text : Option String) (u : Visit Unit)
    (s : Trace) :
    t.follow E a kind (.unresolved name) args location text u s =
      (Visit.cast
        (t.casting.fulfil a.caller (.entity .external (.external name) none none)) >>= fun res =>
        t.follow E a kind res args location text u) s := by
  simp only [follow, externalTarget, h, Agree.run_bind, Visit.cast]
  rcases hrun : t.casting.intern (.external name) s.roster with ⟨f | id, r⟩
  · simp only [Casting.fulfil_error (q := .entity .external (.external name) none none) rfl hrun]
  · simp only [Casting.fulfil_ok (q := .entity .external (.external name) none none) rfl hrun,
      Request.reply]
    cases id.isTombstone <;> rfl

theorem follow_elide (h : t.options.unresolved = .elide) (kind : MessageKind) (name : String)
    (args : List Value) (location : Option Location) (text : Option String) (u : Visit Unit)
    (s : Trace) :
    t.follow E a kind (.unresolved name) args location text u s = u s := by
  simp only [follow, externalTarget, h]
  rfl

end Tracer

end Lifeline
