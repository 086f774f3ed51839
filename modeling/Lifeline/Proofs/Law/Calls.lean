import Lifeline.Proofs.Law.Run

namespace Lifeline

structure Place where
  path : CallPath
  caller : ParticipantId
  depth : Nat

def Activation.place (a : Activation) : Place :=
  ⟨a.path, a.caller, a.depth⟩

namespace Activation

variable {a : Activation} {c : Casting} {P : Mention → Prop} {r : Roster} {target : Target}
  {path : CallPath}

theorem Follows.calls (h : a.Follows c P r target path) :
    path.calls = a.path.calls ++ [(target.participant, target.operation)] := by
  rw [(CallPath.enter_eq_entered h.entered).2]

theorem Follows.place_calling (h : a.Follows c P r target path) (ha : a.Live r) :
    (a.calling path target.participant false).place = ⟨path, target.participant, a.depth + 1⟩ := by
  have hdepth := CallPath.depth_enter h.entered
  have hlive := ha.entered
  simp only [place, calling, Bool.false_eq_true, if_false, depth, Place.mk.injEq, true_and]
  omega

theorem Follows.place_inlining (h : a.Follows c P r target path) :
    (a.calling path target.participant true).place = ⟨path, a.caller, a.depth⟩ := by
  have hdepth := CallPath.depth_enter h.entered
  simp only [place, calling, if_true, depth, Place.mk.injEq, true_and]
  omega

end Activation

namespace Interaction

structure Adds (depth : Nat) (i i' : Interaction) (new : List Message) : Prop where
  calls : i'.calls = i.calls ++ new
  deep : ∀ m ∈ new, depth ≤ m.depth

variable {depth : Nat} {i i' i'' : Interaction} {new more : List Message} {a : Activation}
  {m : Message}

theorem Adds.refl (depth : Nat) (i : Interaction) : Adds depth i i [] :=
  ⟨(List.append_nil _).symm, by simp⟩

theorem Adds.trans (h : Adds depth i i' new) (h' : Adds depth i' i'' more) :
    Adds depth i i'' (new ++ more) :=
  ⟨by rw [h'.calls, h.calls, List.append_assoc], List.forall_mem_append.2 ⟨h.deep, h'.deep⟩⟩

theorem Adds.mono {outer : Nat} (h : Adds depth i i' new) (hdepth : outer ≤ depth) :
    Adds outer i i' new :=
  ⟨h.calls, fun m hm => Nat.le_trans hdepth (h.deep m hm)⟩

theorem Adds.send (hm : m.SentIn a) : Adds a.depth i (i.push m) [m] :=
  ⟨calls_push (by simpa [Message.isResponse] using hm.kind), by simp [hm.depth]⟩

theorem Adds.answer (hm : m.AnsweredIn a) : Adds a.depth i (i.push m) [] :=
  ⟨by rw [calls_push_response (by simp [Message.isResponse, hm.kind]), List.append_nil], by simp⟩

end Interaction

structure CallLaw (t : Tracer) where
  inv : Place → Roster → Interaction → Prop
  rel : Place → Roster → Interaction → Roster → Interaction → Prop
  mention : Mention → Prop
  fault : Fault → Prop
  refl : ∀ {p r i}, inv p r i → rel p r i r i
  trans : ∀ {p r i r' i' r'' i''}, rel p r i r' i' → rel p r' i' r'' i'' → rel p r i r'' i''
  keeps : ∀ {p r i r' i'}, inv p r i → rel p r i r' i' → inv p r' i'
  program : ∀ d ∈ t.casting.program.decls, Stmt.MentionsOption mention d.body?
  faults : t.casting.Faults mention fault
  step : ∀ {p r i r'}, inv p r i → r.Sound → t.casting.Step p.caller r r' →
    r.Extends r' → rel p r i r' i
  send : ∀ {a : Activation} {r i m}, inv a.place r i → a.Live r → m.SentIn a →
    r.isVisible m.receiver = true →
    t.casting.Meant mention r m.receiver → rel a.place r i r (i.push m)
  answer : ∀ {a : Activation} {r i m}, inv a.place r i → a.Live r → m.AnsweredIn a →
    r.isVisible m.sender = true → r.isVisible m.receiver = true → rel a.place r i r (i.push m)
  call : ∀ {a : Activation} {r i m target path}, inv a.place r i → a.Live r → m.SentIn a →
    m.receiver = target.participant → a.Follows t.casting mention r target path →
    inv ⟨path, target.participant, a.depth + 1⟩ r (i.push m)
  ofCall : ∀ {a : Activation} {r i m target path r' i'}, inv a.place r i → a.Live r → m.SentIn a →
    m.receiver = target.participant → a.Follows t.casting mention r target path →
    rel ⟨path, target.participant, a.depth + 1⟩ r (i.push m) r' i' → rel a.place r i r' i'
  inline : ∀ {a : Activation} {r i target path}, inv a.place r i → a.Live r →
    a.Follows t.casting mention r target path → inv ⟨path, a.caller, a.depth⟩ r i
  ofInline : ∀ {a : Activation} {r i target path r' i'}, inv a.place r i → a.Live r →
    a.Follows t.casting mention r target path →
    rel ⟨path, a.caller, a.depth⟩ r i r' i' → rel a.place r i r' i'

namespace CallLaw

variable {t : Tracer} (L : CallLaw t)

theorem steps {a : Activation} {fs : List Frame} {s s' : Trace}
    (h : L.inv a.place s.roster s.interaction)
    (hs : Steps
      (fun f s s' => L.rel (a.enter f).place s.roster s.interaction s'.roster s'.interaction) fs
      { s with blocks := s.blocks + 1 } s') :
    L.rel a.place s.roster s.interaction s'.roster s'.interaction := by
  generalize hstart : { s with blocks := s.blocks + 1 } = start at hs
  induction hs with
  | none =>
    subst hstart
    exact L.refl h
  | next _ hlast ih => exact L.trans (ih hstart) hlast

def toLaw : Law t where
  inv a s := L.inv a.place s.roster s.interaction
  rel a s s' := L.rel a.place s.roster s.interaction s'.roster s'.interaction
  mention := L.mention
  fault := L.fault
  refl := L.refl
  trans := L.trans
  keeps := L.keeps
  program := L.program
  faults := L.faults
  step := L.step
  scopes h := h
  rescope h _ := L.refl h
  ofScope _ h := h
  condition h := h
  ofCondition _ h := h
  alternative h _ hs := L.keeps h (L.steps h hs)
  ofAlternatives h _ hs := L.steps h hs
  send := L.send
  answer := L.answer
  call h ha hm hreceiver hf := hf.place_calling ha ▸ L.call h ha hm hreceiver hf
  ofCall h ha hm hreceiver hf hrel := L.ofCall h ha hm hreceiver hf (hf.place_calling ha ▸ hrel)
  inline h ha hf := hf.place_inlining ▸ L.inline h ha hf
  ofInline h ha hf hrel := L.ofInline h ha hf (hf.place_inlining ▸ hrel)

def ofFaults {mention : Mention → Prop} {fault : Fault → Prop}
    (program : ∀ d ∈ t.casting.program.decls, Stmt.MentionsOption mention d.body?)
    (faults : t.casting.Faults mention fault) : CallLaw t where
  inv _ _ _ := True
  rel _ _ _ _ _ := True
  mention := mention
  fault := fault
  refl _ := trivial
  trans _ _ := trivial
  keeps _ _ := trivial
  program := program
  faults := faults
  step _ _ _ _ := trivial
  send _ _ _ _ _ := trivial
  answer _ _ _ _ _ := trivial
  call _ _ _ _ _ := trivial
  ofCall _ _ _ _ _ _ := trivial
  inline _ _ _ := trivial
  ofInline _ _ _ _ := trivial

end CallLaw

theorem Casting.faults_any (c : Casting) (P : Mention → Prop) : c.Faults P fun _ => True :=
  ⟨fun _ _ _ _ _ => trivial, fun _ _ _ _ => trivial, fun _ _ _ _ _ _ _ => trivial⟩

namespace Tracer

variable (t : Tracer)

theorem mentions_all : ∀ d ∈ t.casting.program.decls, Stmt.MentionsOption (fun _ => True) d.body? :=
  fun d _ => Stmt.mentions_all d.body?

theorem faults_all : t.casting.Faults (fun _ => True) (fun _ => True) :=
  t.casting.faults_any _

variable {t}

theorem sound_traceAll {s : Trace} (hr : s.roster.Sound) (entries : List Decl) :
    (t.traceAll entries s).roster.Sound := by
  refine traceAll_induction (Q := fun s => s.roster.Sound) hr ?_
  intro entry _ s hr
  let L := CallLaw.ofFaults t.mentions_all t.faults_all
  have hadmits : L.toLaw.Admits entry := ⟨Stmt.mentions_all _, fun _ _ _ _ => trivial⟩
  exact ((Law.trace_traced hr hadmits fun _ _ _ => trivial).roster hr).2

end Tracer

end Lifeline
