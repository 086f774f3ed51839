import Lifeline.Proofs.Resolution

/-! Laws: what holds of every visit of code.

A law says what is known before a visit and what relates the trace before it to the trace after it.
It is given by what it makes of the few things a visit can do; that it then holds of all code is
shown once for all laws. -/

namespace Lifeline

namespace Frame

def index : Frame → Nat
  | .branch _ _ i _ _ => i
  | .loop _ _ _ => 0
  | .handler _ i _ => i
  | .coroutine _ _ => 0

def Proper : Frame → Prop
  | .branch _ _ i total _ => i < total
  | .loop _ _ _ => True
  | .handler _ _ _ => True
  | .coroutine _ _ => True

inductive Precedes : Frame → Frame → Prop
  | branch {b n i j : Nat} {kind : BranchKind} {l m : Option String} :
    i < j → Precedes (.branch b kind i n l) (.branch b kind j n m)
  | handler {b i j : Nat} {l m : Option String} : i < j → Precedes (.handler b i l) (.handler b j m)

end Frame

/-- Alternatives of the statement with this number, in order. -/
structure Alternatives (block : Nat) (fs : List Frame) : Prop where
  block : ∀ f ∈ fs, f.block = block
  proper : ∀ f ∈ fs, f.Proper
  ordered : fs.Pairwise Frame.Precedes

inductive Steps (R : Frame → Trace → Trace → Prop) : List Frame → Trace → Trace → Prop
  | none {s : Trace} : Steps R [] s s
  | next {fs : List Frame} {f : Frame} {s s' s'' : Trace} :
    Steps R fs s s' → R f s' s'' → Steps R (fs ++ [f]) s s''

structure Message.SentIn (m : Message) (a : Activation) : Prop where
  sender : m.sender = a.caller
  depth : m.depth = a.depth
  context : m.context = a.context
  kind : m.kind ≠ .response

structure Message.AnsweredIn (m : Message) (a : Activation) : Prop where
  depth : m.depth = a.depth
  context : m.context = a.context
  kind : m.kind = .response

def Trace.push (s : Trace) (m : Message) : Trace :=
  { s with interaction := s.interaction.push m }

structure Activation.Live (a : Activation) (r : Roster) : Prop where
  caller : r.isVisible a.caller = true
  returnTo : ∀ p, a.returnTo = some p → r.isVisible p = true
  entered : a.inlined < a.path.depth

theorem Activation.Live.mono {a : Activation} {r r' : Roster} (h : a.Live r)
    (hr : r.Extends r') : a.Live r' :=
  ⟨hr.isVisible h.caller, fun p hp => hr.isVisible (h.returnTo p hp), h.entered⟩

namespace Visit

variable {v w : Visit α} {s : Trace} {post after : Except Fault α → Trace → Prop}

theorem agree_inScope (h : Agree v w { s with scopes := s.scopes.push } post)
    (imp : ∀ r s', post r s' → after r { s' with scopes := s'.scopes.pop }) :
    Agree (inScope v) (inScope w) s after := by
  refine ⟨?_, imp _ _ h.2⟩
  simp only [inScope, h.1]

theorem agree_withScopes {x : Scopes} (h : Agree v w { s with scopes := x } post)
    (imp : ∀ r s', post r s' → after r { s' with scopes := s.scopes }) :
    Agree (withScopes x v) (withScopes x w) s after := by
  refine ⟨?_, imp _ _ h.2⟩
  simp only [withScopes, h.1]

end Visit

abbrev Tracer.recast (t : Tracer) (c : Casting) : Tracer :=
  { t with casting := c }

structure Activation.Follows (a : Activation) (c : Casting) (P : Mention → Prop) (r : Roster)
    (target : Target) (path : CallPath) : Prop where
  entered : a.path.enter (target.participant, target.operation) = .entered path
  lands : ∃ f, f.body.isSome ∧ target.Lands c P r f

structure Law (t : Tracer) where
  /-- What is known before a visit. -/
  inv : Activation → Trace → Prop
  /-- What a visit can make of a trace. -/
  rel : Activation → Trace → Trace → Prop
  mention : Mention → Prop
  fault : Fault → Prop
  refl : ∀ {a s}, inv a s → rel a s s
  trans : ∀ {a s s' s''}, rel a s s' → rel a s' s'' → rel a s s''
  keeps : ∀ {a s s'}, inv a s → rel a s s' → inv a s'
  program : ∀ d ∈ t.casting.program.decls, Stmt.MentionsOption mention d.body?
  faults : t.casting.Faults mention fault
  step : ∀ {a s r}, inv a s → s.roster.Sound →
    t.casting.Step a.caller s.roster r → s.roster.Extends r → rel a s { s with roster := r }
  scopes : ∀ {a s x}, inv a s → inv a { s with scopes := x }
  rescope : ∀ {a s x}, inv a s → x.depth = s.scopes.depth → rel a s { s with scopes := x }
  ofScope : ∀ {a s s'}, inv a s → rel a { s with scopes := s.scopes.push } s' →
    rel a s { s' with scopes := s'.scopes.pop }
  condition : ∀ {a s}, inv a s → inv a.inCondition s
  ofCondition : ∀ {a s s'}, inv a s → rel a.inCondition s s' → rel a s s'
  alternative : ∀ {a s s' fs f}, inv a s → Alternatives s.blocks (fs ++ [f]) →
    Steps (fun f => rel (a.enter f)) fs { s with blocks := s.blocks + 1 } s' → inv (a.enter f) s'
  ofAlternatives : ∀ {a s s' fs}, inv a s → Alternatives s.blocks fs →
    Steps (fun f => rel (a.enter f)) fs { s with blocks := s.blocks + 1 } s' → rel a s s'
  send : ∀ {a s m}, inv a s → a.Live s.roster → m.SentIn a → s.roster.isVisible m.receiver = true →
    t.casting.Meant mention s.roster m.receiver → rel a s (s.push m)
  answer : ∀ {a s m}, inv a s → a.Live s.roster → m.AnsweredIn a →
    s.roster.isVisible m.sender = true → s.roster.isVisible m.receiver = true → rel a s (s.push m)
  call : ∀ {a s m target path}, inv a s → a.Live s.roster → m.SentIn a →
    m.receiver = target.participant →
    a.Follows t.casting mention s.roster target path →
    inv (a.calling path target.participant false) (s.push m)
  ofCall : ∀ {a s m target path x s'}, inv a s → a.Live s.roster → m.SentIn a →
    m.receiver = target.participant → a.Follows t.casting mention s.roster target path →
    rel (a.calling path target.participant false) { s.push m with scopes := x } s' →
    rel a s { s' with scopes := s.scopes }
  inline : ∀ {a s target path}, inv a s → a.Live s.roster →
    a.Follows t.casting mention s.roster target path →
    inv (a.calling path target.participant true) s
  ofInline : ∀ {a s target path x s'}, inv a s → a.Live s.roster →
    a.Follows t.casting mention s.roster target path →
    rel (a.calling path target.participant true) { s with scopes := x } s' →
    rel a s { s' with scopes := s.scopes }

namespace Law

variable {t : Tracer} (L : Law t)

structure Pre (a : Activation) (s : Trace) : Prop where
  sound : s.roster.Sound
  live : a.Live s.roster
  scopes : s.scopes.Mentions L.mention
  inv : L.inv a s

/-- What is known of a visit that has ended, or failed. -/
structure Post (a : Activation) (s : Trace) (ok : α → Prop) (result : Except Fault α)
    (s' : Trace) : Prop where
  rel : L.rel a s s'
  grown : s.roster.Extends s'.roster
  sound : s'.roster.Sound
  scopes : s'.scopes.Mentions L.mention
  outcome : Ends L.fault ok result

def Twin (c : Casting) : Prop :=
  ∀ a s, L.Pre a s → t.casting.Twin c L.mention s.roster

theorem twin_self : L.Twin t.casting :=
  fun _ _ _ => .refl _ _ _

/-- From every trace it may start from, a visit does the same in both ways, and by the law. -/
def Obeys (a : Activation) (v w : Visit α) (ok : α → Prop) : Prop :=
  ∀ s, L.Pre a s → Agree v w s (L.Post a s ok)

def Enters (enter enter' : Enter) (depth : Nat) : Prop :=
  ∀ a f body operation, a.path.depth = depth → body.Mentions L.mention →
    L.Obeys a (enter a f body operation) (enter' a f body operation) fun _ => True

def Calls (enter enter' : Enter) (a : Activation) : Prop :=
  L.Enters enter enter' (a.path.depth + 1)

variable {L} {a : Activation} {s s' : Trace}

theorem Calls.enter {E E' : Enter} (h : L.Calls E E' a) (f : Frame) : L.Calls E E' (a.enter f) := h

theorem Calls.inCondition {E E' : Enter} (h : L.Calls E E' a) : L.Calls E E' a.inCondition := h

theorem Pre.after {ok : α → Prop} {result : Except Fault α} (h : L.Pre a s)
    (hs' : L.Post a s ok result s') : L.Pre a s' :=
  ⟨hs'.sound, h.live.mono hs'.grown, hs'.scopes, L.keeps h.inv hs'.rel⟩

theorem Pre.refl (h : L.Pre a s) {ok : α → Prop} {result : Except Fault α}
    (hr : Ends L.fault ok result) : L.Post a s ok result s :=
  ⟨L.refl h.inv, .refl _, h.sound, h.scopes, hr⟩

theorem Post.trans {ok : α → Prop} {after : β → Prop} {result : Except Fault α}
    {result' : Except Fault β} {s'' : Trace} (h : L.Post a s ok result s')
    (h' : L.Post a s' after result' s'') : L.Post a s after result' s'' :=
  ⟨L.trans h.rel h'.rel, h.grown.trans h'.grown, h'.sound, h'.scopes, h'.outcome⟩

theorem Post.ends {ok : α → Prop} {after : β → Prop} {result : Except Fault α}
    {result' : Except Fault β} (h : L.Post a s ok result s') (hr : Ends L.fault after result') :
    L.Post a s after result' s' :=
  ⟨h.rel, h.grown, h.sound, h.scopes, hr⟩

theorem Obeys.pure {x : α} {ok : α → Prop} (hx : ok x) : L.Obeys a (Pure.pure x) (Pure.pure x) ok :=
  fun _ h => .pure (h.refl hx)

theorem bind_grown {v w : Visit α} {k l : α → Visit β} {ok : α → Prop} {after : β → Prop}
    {now : Trace} (h : L.Pre a s) (hv : Agree v w now (L.Post a s ok))
    (next : ∀ x s', L.Pre a s' → s.roster.Extends s'.roster → ok x →
      Agree (k x) (l x) s' (L.Post a s' after)) :
    Agree (v >>= k) (w >>= l) now (L.Post a s after) := by
  refine hv.bind ?_ ?_
  · intro x s' hs'
    exact (next x s' (h.after hs') hs'.grown hs'.outcome).mono fun _ _ h' => hs'.trans h'
  · intro f s' hs'
    exact hs'.ends hs'.outcome

theorem Obeys.bind {v w : Visit α} {k l : α → Visit β} {ok : α → Prop} {after : β → Prop}
    (hv : L.Obeys a v w ok) (next : ∀ x, ok x → L.Obeys a (k x) (l x) after) :
    L.Obeys a (v >>= k) (w >>= l) after :=
  fun s h => bind_grown h (hv s h) fun x s' h' _ hx => next x hx s' h'

theorem cast {x y : Cast α} {ok : α → Roster → Prop} (h : L.Pre a s)
    (hx : Agree x y s.roster (t.casting.Resolves a.caller L.fault ok s.roster)) :
    Agree (Visit.cast x) (Visit.cast y) s fun result s' =>
      L.Post a s (fun _ => True) result s' ∧ Ends L.fault (ok · s'.roster) result := by
  obtain ⟨heq, hres⟩ := hx
  have houtcome := hres.outcome
  have hsame : Visit.cast x s = Visit.cast y s := by simp only [Visit.cast, heq]
  refine ⟨hsame, ⟨L.step h.inv h.sound hres.step hres.grown, hres.grown, hres.sound, h.scopes, ?_⟩,
    houtcome⟩
  show Ends L.fault (fun _ => True) (x s.roster).1
  cases hr : (x s.roster).1 with
  | ok y => trivial
  | error f =>
    rw [hr] at houtcome
    exact houtcome

theorem cast_bind {x y : Cast α} {k l : α → Visit β} {ok : α → Roster → Prop} {after : β → Prop}
    (h : L.Pre a s) (hx : Agree x y s.roster (t.casting.Resolves a.caller L.fault ok s.roster))
    (next : ∀ z s', L.Pre a s' → ok z s'.roster → Agree (k z) (l z) s' (L.Post a s' after)) :
    Agree (Visit.cast x >>= k) (Visit.cast y >>= l) s (L.Post a s after) := by
  refine (L.cast h hx).bind ?_ ?_
  · rintro z s' ⟨hs', hz⟩
    exact (next z s' (h.after hs') hz).mono fun _ _ h' => hs'.trans h'
  · rintro f s' ⟨hs', hf⟩
    exact hs'.ends hf

theorem Obeys.rescope {u : Scopes → Scopes}
    (hu : ∀ x, x.Mentions L.mention → (u x).Mentions L.mention)
    (hdepth : ∀ x, (u x).depth = x.depth) :
    L.Obeys a (modify fun s => { s with scopes := u s.scopes })
      (modify fun s => { s with scopes := u s.scopes }) fun _ => True :=
  fun _ h => ⟨rfl, L.rescope h.inv (hdepth _), .refl _, h.sound, hu _ h.scopes, trivial⟩

theorem Obeys.inScope {v w : Visit α} {ok : α → Prop} (hv : L.Obeys a v w ok) :
    L.Obeys a (Visit.inScope v) (Visit.inScope w) ok := by
  intro s h
  have hpushed : L.Pre a { s with scopes := s.scopes.push } :=
    ⟨h.sound, h.live, h.scopes.push, L.scopes h.inv⟩
  refine Visit.agree_inScope (hv _ hpushed) ?_
  intro result s' hs'
  exact ⟨L.ofScope h.inv hs'.rel, hs'.grown, hs'.sound, hs'.scopes.pop, hs'.outcome⟩

theorem Obeys.inCondition {v w : Visit α} {ok : α → Prop} (hv : L.Obeys a.inCondition v w ok) :
    L.Obeys a v w ok := by
  intro s h
  have hcond : L.Pre a.inCondition s :=
    ⟨h.sound, ⟨h.live.caller, h.live.returnTo, h.live.entered⟩, h.scopes, L.condition h.inv⟩
  refine (hv s hcond).mono ?_
  intro result s' hs'
  exact ⟨L.ofCondition h.inv hs'.rel, hs'.grown, hs'.sound, hs'.scopes, hs'.outcome⟩

end Law

end Lifeline
