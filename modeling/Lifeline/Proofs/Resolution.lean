import Lifeline.Proofs.Mention
import Lifeline.Proofs.Origin

namespace Lifeline

def Entity.Within (p : Program) : Entity → Prop
  | .decl d => p.Declares d
  | .instantiation d _ => p.Declares d
  | .coroutineState _ => True
  | .external _ => True

def Entity.KnownAs (id : ParticipantId) (r : Roster) : Entity → Prop
  | .decl d => r.remembered? d.id [] = some id
  | .instantiation d args =>
    r.remembered? d.id (if d.templateArgs.isEmpty then args else []) = some id
  | .coroutineState _ => id ≠ .tombstone → r.Seats .coroutineState id
  | .external _ => id ≠ .tombstone → r.Seats .external id

/-- What code means by this participant: something that may be mentioned, or something that is not
declared. -/
inductive Casting.Meant (c : Casting) (P : Mention → Prop) (r : Roster) (id : ParticipantId) : Prop
  | function {d : Decl} {given args : List String} : c.program.Declares d →
    P (.function d.id given) → r.remembered? d.id args = some id → Meant c P r id
  | declaration {d : Decl} : c.program.Declares d → P (.declaration d.id) →
    r.remembered? d.id [] = some id → Meant c P r id
  | undeclared {kind : ParticipantKind} : kind = .coroutineState ∨ kind = .external →
    r.Seats kind id → Meant c P r id

/-- A target that is a function of the program. -/
structure Target.Lands (c : Casting) (P : Mention → Prop) (r : Roster) (target : Target)
    (f : Function) : Prop where
  visible : r.isVisible target.participant = true
  operation : target.operation = r.operation target.participant
  declared : ∃ d, c.program.Declares d ∧ ∃ args, d.function? = some f ∧
    (args = [] ∨ P (.function d.id args)) ∧ r.remembered? d.id args = some target.participant
  meant : c.Meant P r target.participant

structure Target.Sound (c : Casting) (P : Mention → Prop) (r : Roster)
    (target : Target) : Prop where
  lands : ∀ f, target.function = some f → target.Lands c P r f
  captured : ∀ b, target.captured = some b → b.Mentions P
  meant : r.isVisible target.participant = true → c.Meant P r target.participant

def Resolution.Sound (c : Casting) (P : Mention → Prop) (r : Roster) : Resolution → Prop
  | .found _ target => target.Sound c P r
  | .unresolved _ => True
  | .filtered => True

namespace Casting

structure Faults (c : Casting) (P : Mention → Prop) (fault : Fault → Prop) : Prop where
  function : ∀ id args f, P (.function id args) → c.program.function id = .error f → fault f
  declaration : ∀ id f, P (.declaration id) → c.program.decl id = .error f → fault f
  interning : ∀ d ∈ c.program.decls, ∀ args r f, r.Sound →
    (c.internDecl d args r).1 = .error f → fault f

/-- Resolving interns one entity of the program at most, and the state of no coroutine but the
caller. -/
def Step (c : Casting) (caller : ParticipantId) (r r' : Roster) : Prop :=
  r' = r ∨ ∃ e : Entity, e.Within c.program ∧
    (∀ p, e = .coroutineState p → p = caller) ∧ r' = (c.intern e r).2

structure Resolves (c : Casting) (caller : ParticipantId) (fault : Fault → Prop)
    (ok : α → Roster → Prop) (r : Roster) (result : Except Fault α) (r' : Roster) : Prop where
  step : c.Step caller r r'
  grown : r.Extends r'
  sound : r'.Sound
  outcome : Ends fault (ok · r') result

variable {c : Casting} {P : Mention → Prop} {fault : Fault → Prop} {r : Roster}
  {caller : ParticipantId}

theorem internExternal_eq_ite (c : Casting) (name : String) : ∃ candidate p, p.kind = .external ∧
    c.internExternal name = if !c.filter candidate then pure .tombstone else c.insert p :=
  ⟨_, _, rfl, rfl⟩

theorem internExternal_grows (hr : r.Sound) (name : String) :
    Agree (c.internExternal name) (c.internExternal name) r (r.Grows fault Roster.Shows) := by
  unfold internExternal
  refine .ite (fun _ => grows_pure hr (fun h => absurd rfl h)) (fun _ => ?_)
  exact insert_grows hr _

theorem internCoroutineState_grows (hr : r.Sound) {coroutine : ParticipantId}
    (hv : r.isVisible coroutine = true) :
    Agree (c.internCoroutineState coroutine) (c.internCoroutineState coroutine) r
      (r.Grows fault Roster.Shows) := by
  obtain ⟨base, hbase⟩ := Roster.exists_of_isVisible hv
  unfold internCoroutineState
  refine .get_bind ?_
  rw [hbase]
  exact insert_grows hr _

theorem internDecl_grows (hr : r.Sound) (d : Decl) (args : List String) :
    Agree (c.internDecl d args) (c.internDecl d args) r
      (r.Grows (fun _ => True) fun id r' => r'.remembered? d.id args = some id) :=
  internAt_grows _ hr

theorem internDecl_resolves (hf : c.Faults P fault) (hr : r.Sound) {d : Decl}
    (hd : d ∈ c.program.decls) (args : List String) :
    Agree (c.internDecl d args) (c.internDecl d args) r
      (r.Grows fault fun id r' => r'.remembered? d.id args = some id) := by
  obtain ⟨_, hgrows⟩ := c.internDecl_grows hr d args
  refine ⟨rfl, hgrows.grown, hgrows.sound, ?_⟩
  have houtcome := hgrows.outcome
  cases hres : (c.internDecl d args r).1 with
  | ok id =>
    rw [hres] at houtcome
    exact houtcome
  | error f => exact hf.interning d hd args r f hr hres

theorem intern_knownAs {e : Entity} {id : ParticipantId} {r' : Roster} (hr : r.Sound)
    (h : c.intern e r = (.ok id, r')) : e.KnownAs id r' := by
  have hdecl (d : Decl) (args : List String) (h : c.internDecl d args r = (.ok id, r')) :
      r'.remembered? d.id args = some id := by
    have houtcome := (internDecl_grows (c := c) hr d args).result.outcome
    rw [h] at houtcome
    exact houtcome
  have hinsert (p : Participant) (h : c.insert p r = (.ok id, r')) : r'.Seats p.kind id := by
    cases h
    exact r.insert_seats c.seed p
  cases e with
  | decl d => exact hdecl d [] h
  | instantiation d args => exact hdecl d _ h
  | coroutineState p =>
    intro _
    have hget : (get : Cast Roster) r = (.ok r, r) := rfl
    rw [intern, internCoroutineState, Agree.run_bind, hget] at h
    cases hbase : r.get? p with
    | none =>
      simp only [hbase] at h
      cases h
    | some base =>
      simp only [hbase] at h
      exact hinsert _ h
  | external name =>
    intro hid
    obtain ⟨candidate, p, hkind, heq⟩ := c.internExternal_eq_ite name
    rw [intern, heq] at h
    split at h
    · cases h
      exact absurd rfl hid
    · exact hkind ▸ hinsert p h

theorem intern_resolves (hf : c.Faults P fault) (hr : r.Sound) {e : Entity}
    (he : e.Within c.program)
    (hv : ∀ p, e = .coroutineState p → p = caller ∧ r.isVisible p = true) :
    Agree (c.intern e) (c.intern e) r
      (c.Resolves caller fault (fun id r' => r'.Shows id ∧ e.KnownAs id r') r) := by
  have ofGrows {ok : ParticipantId → Roster → Prop}
    (h : r.Grows fault ok (c.intern e r).1 (c.intern e r).2)
      (hok : ∀ id r', r'.Sound → ok id r' → r'.Shows id) :
      Agree (c.intern e) (c.intern e) r
        (c.Resolves caller fault (fun id r' => r'.Shows id ∧ e.KnownAs id r') r) := by
    refine ⟨rfl, .inr ⟨e, he, fun p hp => (hv p hp).1, rfl⟩, h.grown, h.sound, ?_⟩
    have houtcome := h.outcome
    cases hres : (c.intern e r).1 with
    | ok id =>
      rw [hres] at houtcome
      exact ⟨hok id _ h.sound houtcome, intern_knownAs hr (Prod.ext hres rfl)⟩
    | error f =>
      rw [hres] at houtcome
      exact houtcome
  cases e with
  | decl d =>
    exact ofGrows (internDecl_resolves hf hr he.mem []).result fun id r' hr' h => hr' d.id [] id h
  | instantiation d args =>
    exact ofGrows (internDecl_resolves hf hr he.mem _).result fun id r' hr' h => hr' d.id _ id h
  | coroutineState p =>
    exact ofGrows (internCoroutineState_grows hr (hv p rfl).2).result fun _ _ _ h => h
  | external name => exact ofGrows (internExternal_grows hr name).result fun _ _ _ h => h

theorem resolves_pure {x : α} {ok : α → Roster → Prop} (hr : r.Sound) (h : ok x r) :
    Agree (pure x) (pure x : Cast α) r (c.Resolves caller fault ok r) :=
  .pure ⟨.inl rfl, .refl r, hr, h⟩

theorem resolves_lift_bind {x : Except Fault α} {k l : α → Cast β} {after : β → Roster → Prop}
    (hr : r.Sound) (fail : ∀ f, x = .error f → fault f)
    (next : ∀ a, x = .ok a → Agree (k a) (l a) r (c.Resolves caller fault after r)) :
    Agree ((liftM x : Cast α) >>= k) ((liftM x : Cast α) >>= l) r
      (c.Resolves caller fault after r) :=
  .lift_bind next fun f hx => ⟨.inl rfl, .refl r, hr, fail f hx⟩

theorem target_resolves (hf : c.Faults P fault) (hr : r.Sound) {e : Entity}
    (he : e.Within c.program) (hv : ∀ p, e = .coroutineState p → p = caller ∧ r.isVisible p = true)
    {function : Option Function} {captured : Option Bindings}
    (hfun : ∀ f, function = some f → ∃ d, c.program.Declares d ∧ ∃ args, d.function? = some f ∧
      (args = [] ∨ P (.function d.id args)) ∧ ∀ id r', e.KnownAs id r' →
      r'.remembered? d.id args = some id)
    (hmeant : ∀ id r', e.KnownAs id r' → c.Meant P r' id)
    (hcap : ∀ b, captured = some b → b.Mentions P) (certainty : Certainty) :
    Agree (c.target certainty e function captured) (c.target certainty e function captured) r
      (c.Resolves caller fault (fun res r' => res.Sound c P r') r) := by
  unfold target
  refine (intern_resolves hf hr he hv).bind ?_ ?_
  · intro id r' h
    obtain ⟨hshows, hknown⟩ := h.outcome
    refine .ite (fun _ => .pure ⟨h.step, h.grown, h.sound, trivial⟩) (fun hid => ?_)
    refine .pure ⟨h.step, h.grown, h.sound, ?_, hcap, fun _ => hmeant id r' hknown⟩
    intro f hfunction
    obtain ⟨d, hd, args, hdf, hargs, hrem⟩ := hfun f hfunction
    exact ⟨hshows (by simpa [ParticipantId.isTombstone] using hid), rfl,
      ⟨d, hd, args, hdf, hargs, hrem id r' hknown⟩, hmeant id r' hknown⟩
  · intro f r' h
    exact ⟨h.step, h.grown, h.sound, h.outcome⟩

theorem function_eq_ok {p : Program} {id : DeclId} {d : Decl} {f : Function}
    (h : p.function id = .ok (d, f)) : p.Declares d ∧ d.id = id ∧ d.function? = some f := by
  cases hget : p.get? id with
  | none =>
    simp only [Program.function, Program.decl, hget] at h
    cases h
  | some e =>
    simp only [Program.function, Program.decl_eq_ok_iff.2 hget, bind, Except.bind] at h
    cases hfun : e.function? with
    | none =>
      rw [hfun] at h
      cases h
    | some g =>
      rw [hfun] at h
      cases h
      obtain ⟨hdeclares, hid⟩ := Program.declares_of_get? hget
      exact ⟨hdeclares, hid, hfun⟩

theorem resolveDecl_resolves (hf : c.Faults P fault) (hr : r.Sound) {id : DeclId}
    {args : List String} (hid : P (.function id args)) {captured : Option Bindings}
    (hcap : ∀ b, captured = some b → b.Mentions P) (dispatch : Dispatch) :
    Agree (c.resolveDecl id args dispatch captured) (c.resolveDecl id args dispatch captured) r
      (c.Resolves caller fault (fun res r' => res.Sound c P r') r) := by
  unfold resolveDecl
  refine resolves_lift_bind hr (fun f hx => hf.function id args f hid hx) ?_
  rintro ⟨d, f⟩ hdf
  obtain ⟨hd, rfl, hfun⟩ := function_eq_ok hdf
  dsimp only
  have hmeant (args' : List String) (p : ParticipantId) (r' : Roster)
      (h : r'.remembered? d.id args' = some p) :
      c.Meant P r' p := .function hd hid h
  by_cases hargs : args = []
  · subst hargs
    refine target_resolves hf hr (e := .decl d) hd (by simp) ?_ (hmeant _) hcap _
    intro g hg
    cases hg
    exact ⟨d, hd, [], hfun, .inl rfl, fun _ _ h => h⟩
  · rw [if_neg (by simpa using hargs)]
    refine target_resolves hf hr (e := .instantiation d args) hd (by simp) ?_ (hmeant _) hcap _
    intro g hg
    cases hg
    refine ⟨d, hd, _, hfun, ?_, fun _ _ h => h⟩
    split
    · exact .inr hid
    · exact .inl rfl

theorem resolveValue_resolves (hf : c.Faults P fault) (hr : r.Sound) {v : Value} (hv : v.Mentions P)
    (name : String) :
    Agree (c.resolveValue v name) (c.resolveValue v name) r
      (c.Resolves caller fault (fun res r' => res.Sound c P r') r) := by
  cases hv with
  | @lambda operator captured hop hcap =>
    refine resolveDecl_resolves hf hr hop ?_ .static
    intro b hb
    cases hb
    exact hcap
  | function hdecl => exact resolveDecl_resolves hf hr hdecl (by simp) .static
  | unknown => exact resolves_pure hr trivial

theorem resolveCallee_resolves (hf : c.Faults P fault) (hr : r.Sound) {callee : Callee}
    (hc : callee.Mentions P) {scopes : Scopes} (hs : scopes.Mentions P) :
    Agree (c.resolveCallee callee scopes) (c.resolveCallee callee scopes) r
      (c.Resolves caller fault (fun res r' => res.Sound c P r') r) := by
  cases callee with
  | decl id args dispatch =>
    simp only [Callee.Mentions] at hc
    exact resolveDecl_resolves hf hr hc (by simp) dispatch
  | var name =>
    simp only [resolveCallee]
    cases hv : scopes.get? name with
    | none => exact resolves_pure hr trivial
    | some v => exact resolveValue_resolves hf hr (hs.get? hv) name
  | unresolved name template =>
    cases template with
    | none => exact resolves_pure hr trivial
    | some id =>
      simp only [Callee.Mentions, Mention.OfOption] at hc
      refine resolves_lift_bind hr (fun f hx => hf.function id [] f hc hx) ?_
      rintro ⟨d, f⟩ hdf
      obtain ⟨hd, rfl, hfun⟩ := function_eq_ok hdf
      refine target_resolves hf hr (e := .decl d) hd (by simp) ?_
        (fun _ _ h => .function hd hc h) (by simp) _
      intro g hg
      cases hg
      exact ⟨d, hd, [], hfun, .inl rfl, fun _ _ h => h⟩
  | expr e => exact resolves_pure hr trivial

theorem resolveConstruct_resolves (hf : c.Faults P fault) (hr : r.Sound) {cls : DeclId}
    (hc : P (.declaration cls)) {ctor : Option DeclId} (hctor : Mention.OfOption P ctor) :
    Agree (c.resolveConstruct cls ctor) (c.resolveConstruct cls ctor) r
      (c.Resolves caller fault (fun res r' => res.Sound c P r') r) := by
  cases ctor with
  | some id => exact resolveDecl_resolves hf hr hctor (by simp) .static
  | none =>
    refine resolves_lift_bind hr (fun f hx => hf.declaration cls f hc hx) ?_
    intro d hd
    obtain ⟨hdeclares, rfl⟩ := Program.declares_of_get? (Program.decl_eq_ok_iff.1 hd)
    exact target_resolves hf hr (e := .decl d) hdeclares (by simp) (by simp)
      (fun _ _ h => .declaration hdeclares hc h) (by simp) .exact

theorem resolveAwaiter_resolves (hf : c.Faults P fault) (hr : r.Sound) {awaiter : Option DeclId}
    (ha : Mention.OfOption P awaiter) (hv : r.isVisible caller = true) :
    Agree (c.resolveAwaiter awaiter caller) (c.resolveAwaiter awaiter caller) r
      (c.Resolves caller fault (fun res r' => res.Sound c P r') r) := by
  cases awaiter with
  | some id => exact resolveDecl_resolves hf hr ha (by simp) .static
  | none =>
    have hself :
        ∀ p, Entity.coroutineState caller = .coroutineState p →
          p = caller ∧ r.isVisible p = true := by
      rintro p ⟨rfl⟩
      exact ⟨rfl, hv⟩
    refine (intern_resolves hf hr (e := .coroutineState caller) trivial hself).bind ?_ ?_
    · intro id r' h
      refine .pure ⟨h.step, h.grown, h.sound, by simp, by simp, fun hid => ?_⟩
      exact .undeclared (.inl rfl) (h.outcome.2 (Roster.isVisible_iff.1 hid).1)
    · intro f r' h
      exact ⟨h.step, h.grown, h.sound, h.outcome⟩

structure Twin (c c' : Casting) (P : Mention → Prop) (r : Roster) : Prop where
  decl : ∀ id args dispatch captured, P (.function id args) →
    c.resolveDecl id args dispatch captured r = c'.resolveDecl id args dispatch captured r
  template : ∀ name id scopes, P (.function id []) →
    c.resolveCallee (.unresolved name (some id)) scopes r =
      c'.resolveCallee (.unresolved name (some id)) scopes r
  cls : ∀ id, P (.declaration id) → c.resolveConstruct id none r = c'.resolveConstruct id none r
  state : ∀ p, c.resolveAwaiter none p r = c'.resolveAwaiter none p r
  external : ∀ name, c.intern (.external name) r = c'.intern (.external name) r

namespace Twin

variable {c' : Casting}

theorem refl (c : Casting) (P : Mention → Prop) (r : Roster) : c.Twin c P r :=
  ⟨fun _ _ _ _ _ => rfl, fun _ _ _ _ => rfl, fun _ _ => rfl, fun _ => rfl, fun _ => rfl⟩

theorem value (h : c.Twin c' P r) {v : Value} (hv : v.Mentions P) (name : String) :
    c.resolveValue v name r = c'.resolveValue v name r := by
  cases hv with
  | lambda hop _ => exact h.decl _ _ _ _ hop
  | function hdecl => exact h.decl _ _ _ _ hdecl
  | unknown => rfl

theorem callee (h : c.Twin c' P r) {callee : Callee} (hc : callee.Mentions P) {scopes : Scopes}
    (hs : scopes.Mentions P) :
    c.resolveCallee callee scopes r = c'.resolveCallee callee scopes r := by
  cases callee with
  | decl id args dispatch =>
    simp only [Callee.Mentions] at hc
    exact h.decl id args dispatch none hc
  | var name =>
    simp only [resolveCallee]
    cases hv : scopes.get? name with
    | none => rfl
    | some v => exact h.value (hs.get? hv) name
  | unresolved name template =>
    cases template with
    | none => rfl
    | some id =>
      simp only [Callee.Mentions, Mention.OfOption] at hc
      exact h.template name id scopes hc
  | expr e => rfl

theorem construct (h : c.Twin c' P r) {cls : DeclId} (hc : P (.declaration cls))
    {ctor : Option DeclId} (hctor : Mention.OfOption P ctor) :
    c.resolveConstruct cls ctor r = c'.resolveConstruct cls ctor r := by
  cases ctor with
  | none => exact h.cls cls hc
  | some id => exact h.decl id [] .static none hctor

theorem awaiter (h : c.Twin c' P r) {awaiter : Option DeclId} (ha : Mention.OfOption P awaiter)
    (p : ParticipantId) : c.resolveAwaiter awaiter p r = c'.resolveAwaiter awaiter p r := by
  cases awaiter with
  | none => exact h.state p
  | some id => exact h.decl id [] .static none ha

end Twin

end Casting

end Lifeline
