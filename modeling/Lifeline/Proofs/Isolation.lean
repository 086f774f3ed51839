import Lifeline.Proofs.Consistency
import Lifeline.Proofs.Exclusion
import Lifeline.Proofs.Resumption

namespace Lifeline

def Frame.unworded : Frame → Frame
  | .coroutine block _ => .coroutine block none
  | f => f

def Message.unworded (m : Message) : Message :=
  { m with operation := "", returnType := none, context := m.context.map Frame.unworded }

def Interaction.unworded (i : Interaction) : Interaction :=
  { i with messages := i.messages.map Message.unworded }

def CallPath.unworded (p : CallPath) : CallPath :=
  { p with calls := p.calls.map fun call => (call.1, "") }

def Activation.unworded (a : Activation) : Activation :=
  { a with path := a.path.unworded, context := a.context.map Frame.unworded }

theorem Frame.Twins.unworded {t : Tracer} {wording : String → String → Prop} {n : Nat} {f g : Frame}
    (h : Frame.Twins t t wording n n f g) : g.unworded = f.unworded := by
  cases h <;> rfl

theorem Activation.unworded_depth (a : Activation) : a.unworded.depth = a.depth := by
  simp [unworded, depth, CallPath.unworded, CallPath.depth]

namespace CallPath

variable {p p' : CallPath} {r r' : Roster} {id : ParticipantId}

def Worded (p : CallPath) (r : Roster) : Prop :=
  ∀ call ∈ p.calls, r.isVisible call.1 = true ∧ call.2 = r.operation call.1

theorem Worded.mono (h : p.Worded r) (hr : r.Extends r') : p.Worded r' := by
  intro call hcall
  obtain ⟨hvisible, hword⟩ := h call hcall
  exact ⟨hr.isVisible hvisible, by rw [hword, hr.operation hvisible]⟩

theorem Worded.contains (h : p.Worded r) (id : ParticipantId) :
    p.contains (id, r.operation id) = p.unworded.contains (id, "") := by
  -- On the path every id goes with one operation.
  rw [Bool.eq_iff_iff]
  simp only [CallPath.contains, unworded, List.contains_iff_mem, List.mem_map]
  constructor
  · intro hmem
    exact ⟨_, hmem, rfl⟩
  · rintro ⟨⟨id', word⟩, hmem, heq⟩
    obtain ⟨-, hword⟩ := h _ hmem
    cases heq
    rwa [← hword]

theorem isFull_unworded (p : CallPath) : p.unworded.isFull = p.isFull := by
  simp [isFull, unworded, depth]

theorem Worded.enter (h : p.Worded r) (h' : p'.Worded r') (heq : p'.unworded = p.unworded)
    (hid : r.isVisible id = true) (hid' : r'.isVisible id = true) :
    CallPath.Entry.Twins (fun q q' => q.Worded r ∧ q'.Worded r' ∧ q'.unworded = q.unworded)
      (p.enter (id, r.operation id)) (p'.enter (id, r'.operation id)) := by
  unfold CallPath.enter
  rw [h.contains, h'.contains, ← isFull_unworded p, ← isFull_unworded p', heq]
  split
  · exact .recursive
  · split
    · exact .tooDeep
    · refine .entered ⟨?_, ?_, ?_⟩
      · simpa [Worded, or_imp, forall_and, hid] using h
      · simpa [Worded, or_imp, forall_and, hid'] using h'
      · simpa [unworded] using heq

end CallPath

structure Target.Alike (x y : Target) (r r' : Roster) : Prop where
  participant : y.participant = x.participant
  function : y.function = x.function
  captured : y.captured = x.captured
  visible : r.isVisible x.participant = true
  visible' : r'.isVisible x.participant = true
  operation : ∀ f, x.function = some f →
    x.operation = r.operation x.participant ∧ y.operation = r'.operation x.participant

namespace Casting

variable {c : Casting} {r r' : Roster} {caller : ParticipantId}

inductive Fulfilled (c : Casting) :
    Except Fault Resolution × Roster → Except Fault Resolution × Roster → Prop
  | lost {x y : Except Fault Resolution} {q q' : Roster} : ¬ c.Separates q q' →
    Fulfilled c (x, q) (y, q')
  | failed {f : Fault} {q q' : Roster} : c.Consistent q q' →
    Fulfilled c (.error f, q) (.error f, q')
  | done {res res' : Resolution} {q q' : Roster} : c.Consistent q q' →
    Resolution.Twins (fun x y => x.Alike y q q') res res' → Fulfilled c (.ok res, q) (.ok res', q')

theorem Consistent.fulfilled (h : c.Consistent r r') (hcaller : r.isVisible caller = true)
    (hcaller' : r'.isVisible caller = true) {q : Request} (hq : q.Within c.program)
    (hintern : ∀ e, q.entity? caller = some e → e.Within c.program →
      (∀ p, e = .coroutineState p → r.isVisible p = true ∧ r'.isVisible p = true) →
      c.Interned e (c.intern e r) (c.intern e r')) :
    c.Fulfilled (c.fulfil caller q r) (c.fulfil caller q r') := by
  cases he : q.entity? caller with
  | none =>
    cases q with
    | unknown name => exact .done h (.unresolved name)
    | entity => cases he
    | ownState => cases he
  | some e =>
    have hroster := fulfil_roster (c := c) (r := r) he
    have hroster' := fulfil_roster (c := c) (r := r') he
    have hinterned : c.Interned e (c.intern e r) (c.intern e r') := by
      cases hq with
      | entity hwithin hstate _ =>
        cases he
        exact hintern _ rfl hwithin fun p hp => absurd hp (hstate p)
      | ownState =>
        cases he
        refine hintern _ rfl trivial ?_
        rintro p ⟨rfl⟩
        exact ⟨hcaller, hcaller'⟩
      | unknown name => cases he
    generalize hx : c.intern e r = x, hy : c.intern e r' = y at *
    cases hinterned with
    | lost hlost =>
      have hnow : ¬ c.Separates (c.fulfil caller q r).2 (c.fulfil caller q r').2 := by
        rwa [hroster, hroster']
      exact .lost hnow
    | failed hnow =>
      rw [fulfil_error he hx, fulfil_error he hy]
      exact .failed hnow
    | excluded hnow hstate =>
      rw [fulfil_ok he hx, fulfil_ok he hy]
      cases q with
      | entity certainty e' function captured => exact .done hnow .filtered
      | ownState => exact absurd (Option.some.inj he).symm (hstate _)
      | unknown name => cases he
    | @seen p r r' hnow hvisible hvisible' =>
      rw [fulfil_ok he hx, fulfil_ok he hy]
      refine .done hnow ?_
      cases q with
      | entity certainty e' function captured =>
        simp only [Request.reply, Roster.isTombstone_of_isVisible hvisible,
          Bool.false_eq_true, if_false]
        exact .found ⟨rfl, rfl, rfl, hvisible, hvisible', fun _ _ => ⟨rfl, rfl⟩⟩
      | ownState => exact .found ⟨rfl, rfl, rfl, hvisible, hvisible', by simp⟩
      | unknown name => cases he

end Casting

structure Activation.Alike (a b : Activation) (r r' : Roster) : Prop where
  same : b.unworded = a.unworded
  path : a.path.Worded r
  path' : b.path.Worded r'
  visible : r.isVisible a.caller = true
  visible' : r'.isVisible a.caller = true

structure Trace.Alike (c : Casting) (s s' : Trace) : Prop where
  rosters : c.Consistent s.roster s'.roster
  blocks : s'.blocks = s.blocks
  interaction : s'.interaction.unworded = s.interaction.unworded
  entries : ∀ p ∈ s.interaction.entryPoints, s.roster.isVisible p = true ∧
    s'.roster.isVisible p = true

namespace Activation.Alike

variable {a b : Activation} {r r' q q' : Roster}

theorem mono (h : a.Alike b r r') (hr : r.Extends q) (hr' : r'.Extends q') : a.Alike b q q' :=
  ⟨h.same, h.path.mono hr, h.path'.mono hr', hr.isVisible h.visible, hr'.isVisible h.visible'⟩

theorem caller (h : a.Alike b r r') : b.caller = a.caller := by
  have hsame := congrArg Activation.caller h.same
  exact hsame

theorem returnTo (h : a.Alike b r r') : b.returnTo = a.returnTo := by
  have hsame := congrArg Activation.returnTo h.same
  exact hsame

theorem unworded_path (h : a.Alike b r r') : b.path.unworded = a.path.unworded :=
  congrArg Activation.path h.same

theorem scope (h : a.Alike b r r') : b.scope = a.scope := by
  have hsame := congrArg Activation.scope h.same
  exact hsame

theorem context (h : a.Alike b r r') :
    b.context.map Frame.unworded = a.context.map Frame.unworded :=
  congrArg Activation.context h.same

theorem depth (h : a.Alike b r r') : b.depth = a.depth := by
  rw [← unworded_depth a, ← unworded_depth b, h.same]

theorem enter (h : a.Alike b r r') {f g : Frame} (hfg : g.unworded = f.unworded) :
    (a.enter f).Alike (b.enter g) r r' := by
  refine ⟨?_, h.path, h.path', h.visible, h.visible'⟩
  have hsame := h.same
  simp only [unworded, Activation.enter, mk.injEq, List.map_append, List.map_cons] at hsame ⊢
  simp [hsame, hfg]

theorem inCondition (h : a.Alike b r r') : a.inCondition.Alike b.inCondition r r' := by
  refine ⟨?_, h.path, h.path', h.visible, h.visible'⟩
  have hsame := h.same
  simp only [unworded, Activation.inCondition, mk.injEq] at hsame ⊢
  simp [hsame]

theorem calling (h : a.Alike b r r') {p p' : CallPath} {callee : ParticipantId} (hp : p.Worded r)
    (hp' : p'.Worded r') (hpath : p'.unworded = p.unworded) (hcallee : r.isVisible callee = true)
    (hcallee' : r'.isVisible callee = true) (inlined : Bool) :
    (a.calling p callee inlined).Alike (b.calling p' callee inlined) r r' := by
  have hsame := h.same
  simp only [unworded, mk.injEq] at hsame
  cases inlined with
  | true =>
    exact ⟨by simp [unworded, Activation.calling, hsame, hpath], hp, hp', h.visible, h.visible'⟩
  | false =>
    exact ⟨by simp [unworded, Activation.calling, hsame, hpath], hp, hp', hcallee, hcallee'⟩

end Activation.Alike

namespace Trace.Alike

variable {c : Casting} {s s' : Trace}

theorem rescope (h : Alike c s s') (x x' : Scopes) :
    Alike c { s with scopes := x } { s' with scopes := x' } :=
  ⟨h.rosters, h.blocks, h.interaction, h.entries⟩

theorem opened (h : Alike c s s') : Alike c s.opened s'.opened :=
  ⟨h.rosters, congrArg (· + 1) h.blocks, h.interaction, h.entries⟩

theorem recast (h : Alike c s s') {r r' : Roster} (hc : c.Consistent r r') (hr : s.roster.Extends r)
    (hr' : s'.roster.Extends r') : Alike c { s with roster := r } { s' with roster := r' } := by
  refine ⟨hc, h.blocks, h.interaction, fun p hp => ?_⟩
  obtain ⟨hleft, hright⟩ := h.entries p hp
  exact ⟨hr.isVisible hleft, hr'.isVisible hright⟩

theorem push (h : Alike c s s') {m m' : Message} (hm : m'.unworded = m.unworded) :
    Alike c (s.push m) (s'.push m') := by
  refine ⟨h.rosters, h.blocks, ?_, h.entries⟩
  have hsame := h.interaction
  simp only [Interaction.unworded, Interaction.mk.injEq] at hsame
  simp [Interaction.unworded, Trace.push, Interaction.push, hsame, hm]

theorem begin (h : Alike c s s') {r r' : Roster} (hc : c.Consistent r r') (hr : s.roster.Extends r)
    (hr' : s'.roster.Extends r') {p : ParticipantId} (hp : r.isVisible p = true)
    (hp' : r'.isVisible p = true) :
    Alike c (s.begin r p) (s'.begin r' p) := by
  have hsame := h.interaction
  simp only [Interaction.unworded, Interaction.mk.injEq] at hsame
  refine ⟨hc, h.blocks, by simp [Interaction.unworded, Trace.begin, hsame], ?_⟩
  intro q hq
  rcases List.mem_append.1 hq with hold | hnew
  · obtain ⟨hleft, hright⟩ := h.entries q hold
    exact ⟨hr.isVisible hleft, hr'.isVisible hright⟩
  · rw [List.mem_singleton.1 hnew]
    exact ⟨hp, hp'⟩

theorem label_eq (h : Alike c s s') (name : String) :
    ((s'.interaction.entryPoints.head?.bind s'.roster.get?).map (·.fullName)).getD name =
      ((s.interaction.entryPoints.head?.bind s.roster.get?).map (·.fullName)).getD name := by
  have hentries := congrArg Interaction.entryPoints h.interaction
  simp only [Interaction.unworded] at hentries
  rw [hentries]
  cases hhead : s.interaction.entryPoints.head? with
  | none => rfl
  | some p =>
    obtain ⟨hp, hp'⟩ := h.entries p (List.mem_of_head? hhead)
    obtain ⟨x, y, hx, hy, -, hname⟩ := h.rosters.get? hp hp'
    simp [hx, hy, hname]

end Trace.Alike

namespace Tracer

variable {t : Tracer} {a b : Activation} {s s' : Trace} {x y : Target} {r r' : Roster}

theorem yieldMessage_unworded (h : a.Alike b r r') (receiver : ParticipantId)
    (location : Option Location) :
    (yieldMessage b receiver location).unworded = (yieldMessage a receiver location).unworded := by
  simp [yieldMessage, Message.unworded, h.caller, h.context, h.depth]

theorem callMessage_unworded (h : a.Alike b r r') (hxy : x.Alike y r r') (kind : MessageKind)
    (certainty : Certainty) (location : Option Location) (text : Option String) :
    (t.callMessage b kind certainty y location text r').unworded =
      (t.callMessage a kind certainty x location text r).unworded := by
  simp [callMessage, Message.unworded, h.caller, h.context, h.depth, h.scope, hxy.participant]

theorem responseMessage_unworded (h : a.Alike b r r') (hxy : x.participant = y.participant)
    (q q' : Roster) : (responseMessage b y q').unworded = (responseMessage a x q).unworded := by
  simp [responseMessage, Message.unworded, h.caller, h.context, h.depth, hxy]

theorem isInlined_eq (hc : t.casting.Consistent r r') (hxy : x.Alike y r r') :
    t.isInlined r' y = t.isInlined r x := by
  obtain ⟨p, q, hp, hq, hkind, -⟩ := hc.get? hxy.visible hxy.visible'
  simp only [isInlined, hxy.participant, hp, hq, Option.map_some, hkind]

theorem draws_eq (hc : t.casting.Consistent r r') (h : a.Alike b r r') (hxy : x.Alike y r r') :
    t.draws b r' y = t.draws a r x := by
  simp only [draws, isInlined_eq hc hxy, h.caller, hxy.participant, h.visible, h.visible',
    hxy.visible, hxy.visible']

theorem announced_alike (hs : s.Alike t.casting s') (h : a.Alike b s.roster s'.roster)
    (hxy : x.Alike y s.roster s'.roster) (kind : MessageKind) (certainty : Certainty)
    (location : Option Location) (text : Option String) :
    Trace.Alike t.casting (t.announced a kind certainty x location text s)
      (t.announced b kind certainty y location text s') := by
  unfold announced
  rw [draws_eq hs.rosters h hxy]
  split
  · exact hs.push (callMessage_unworded h hxy kind certainty location text)
  · exact hs

theorem mistaken_lasts (t : Tracer) : Beside.Lasting fun r r' => ¬ t.casting.Separates r r' :=
  fun h hr hr' hseparates => h (hseparates.of_extends hr hr')

def isolated (t : Tracer) : Pairing t t.options where
  inv a b s s' := a.Alike b s.roster s'.roster ∧ Trace.Alike t.casting s s'
  rel _ _ s s' _ s₁ s₁' := Trace.Alike t.casting s₁ s₁' ∧ s.roster.Extends s₁.roster ∧
    s'.roster.Extends s₁'.roster
  void r r' := ¬ t.casting.Separates r r'
  own _ _ := True
  wording _ _ := True
  refl h := ⟨h.2, .refl _, .refl _⟩
  trans h h' := ⟨h'.1, h.2.1.trans h'.2.1, h.2.2.trans h'.2.2⟩
  keeps h h' := ⟨h.1.mono h'.2.1 h'.2.2, h'.1⟩
  lasts := mistaken_lasts t
  scopes h := ⟨h.1, h.2.rescope _ _⟩
  rescope _ _ y y' h := ⟨h.1.rescope y y', h.2⟩
  condition h := ⟨h.1.inCondition, h.2⟩
  ofCondition _ h := h
  opens h := ⟨h.2.opened, .refl _, .refl _⟩
  enter := by
    rintro a b s s' s₁ s₁' f g ⟨h, hs⟩ ⟨hs₁, hr, hr'⟩ hfg
    rw [hs.blocks] at hfg
    exact ⟨(h.mono hr hr').enter hfg.unworded, hs₁⟩
  ofEnter _ _ _ h := h
  yield := by
    rintro a b s s' location ⟨h, hs⟩
    cases hreturn : a.returnTo with
    | none =>
      rw [yielded_none hreturn, yielded_none (h.returnTo.trans hreturn)]
      exact ⟨hs, .refl _, .refl _⟩
    | some receiver =>
      rw [yielded_some hreturn, yielded_some (h.returnTo.trans hreturn)]
      cases t.options.returnMessages with
      | false => exact ⟨hs, .refl _, .refl _⟩
      | true => exact ⟨hs.push (yieldMessage_unworded h receiver location), .refl _, .refl _⟩

theorem fulfil_gets (hp : t.casting.program.Acyclic) (h : a.Alike b s.roster s'.roster)
    (hs : s.Alike t.casting s') {q : Request} (hq : q.Within t.casting.program) :
    t.isolated.Gets (fun s s' x y => x.Alike y s.roster s'.roster) a b s s'
      (t.casting.fulfil a.caller q s.roster) (t.casting.fulfil b.caller q s'.roster) := by
  rw [h.caller]
  have hgrows := Casting.fulfil_grows (c := t.casting) hs.rosters.left.sound a.caller q
  have hgrows' := Casting.fulfil_grows (c := t.casting) hs.rosters.right.sound a.caller q
  have hfulfilled := hs.rosters.fulfilled h.visible h.visible' hq fun e _ hwithin he =>
    hs.rosters.intern hp hwithin he
  generalize t.casting.fulfil a.caller q s.roster = x,
    t.casting.fulfil a.caller q s'.roster = y at *
  cases hfulfilled with
  | lost hlost => exact .lost hlost hgrows.2 hgrows'.2
  | failed hnow => exact .failed ⟨hs.recast hnow hgrows.1 hgrows'.1, hgrows.1, hgrows'.1⟩
  | done hnow hres => exact .done ⟨hs.recast hnow hgrows.1 hgrows'.1, hgrows.1, hgrows'.1⟩ hres

def isolatedLockstep (hp : t.casting.program.Acyclic) : t.isolated.Lockstep where
  meets _ _ s s' x y := x.Alike y s.roster s'.roster
  fulfil := by
    rintro a b s s' q ⟨h, hs⟩ hq -
    exact fulfil_gets hp h hs hq
  function hxy := hxy.function
  captured hxy := hxy.captured
  announce := by
    rintro a b s s' x y kind certainty location text - ⟨h, hs⟩ hxy
    refine ⟨announced_alike hs h hxy kind certainty location text, ?_, ?_⟩
    · rw [announced_roster]
      exact .refl _
    · rw [announced_roster]
      exact .refl _
  enter := by
    rintro a b s s' x y f body kind certainty location text - ⟨h, hs⟩ hxy hf -
    obtain ⟨hword, hword'⟩ := hxy.operation f hf
    rw [hxy.participant, hword, hword', isInlined_eq hs.rosters hxy]
    have hpath : b.path.unworded = a.path.unworded := h.unworded_path
    refine (h.path.enter h.path' hpath hxy.visible hxy.visible').mono ?_
    rintro path path' ⟨hpath, hpath', heq⟩
    refine ⟨⟨?_, announced_alike hs h hxy kind certainty location text⟩,
      fun _ => trivial, trivial, ?_⟩
    · rw [announced_roster, announced_roster]
      exact h.calling hpath hpath' heq hxy.visible hxy.visible' _
    · exact fun _ _ _ h₁ => ⟨h₁.1.rescope _ _, h₁.2⟩
  answer := by
    rintro a b s s' x y kind certainty location text s₁ s₁' - ⟨h, hs⟩ hxy ⟨hs₁, -, -⟩
    rw [draws_eq hs.rosters h hxy]
    unfold answered
    split
    · exact ⟨hs₁.push (responseMessage_unworded h hxy.participant.symm _ _), .refl _, .refl _⟩
    · exact ⟨hs₁, .refl _, .refl _⟩

theorem start_alike {p : ParticipantId} (hp : r.isVisible p = true) (hp' : r'.isVisible p = true) :
    (t.start r p).Alike (t.start r' p) r r' := by
  refine ⟨?_, ?_, ?_, hp, hp'⟩
  · simp [start, Activation.unworded, CallPath.unworded]
  · simp [start, CallPath.Worded, hp]
  · simp [start, CallPath.Worded, hp']

theorem trace_alike (hp : t.casting.program.Acyclic) {entry : Decl}
    (hentry : t.casting.program.Declares entry) (hc : t.casting.Consistent r r') :
    Both (fun q q' => ¬ t.casting.Separates q q') (fun _ => Trace.Alike t.casting)
      (t.trace entry { roster := r }) (t.trace entry { roster := r' }) := by
  have hstart : Trace.Alike t.casting { roster := r } { roster := r' } := ⟨hc, rfl, rfl, by simp⟩
  refine Pairing.trace_both (P := t.isolated) (isolatedLockstep hp).dispatching rfl rfl rfl
    (fun _ => hstart) fun _ => ?_
  have hinterned := hc.intern hp (e := .decl entry) hentry (by simp)
  have hgrows := (Casting.intern_grows (c := t.casting) hc.left.sound (.decl entry)).result
  have hgrows' := (Casting.intern_grows (c := t.casting) hc.right.sound (.decl entry)).result
  generalize t.casting.intern (.decl entry) r = x, t.casting.intern (.decl entry) r' = y at *
  cases hinterned with
  | lost hlost => exact .lost hlost hgrows.sound hgrows'.sound
  | failed hnow => exact .failed (hstart.recast hnow hgrows.grown hgrows'.grown)
  | excluded hnow _ => exact .excluded rfl fun _ => hstart.recast hnow hgrows.grown hgrows'.grown
  | @seen p _ _ hnow hvisible hvisible' =>
    have hbegin := hstart.begin hnow hgrows.grown hgrows'.grown hvisible hvisible'
    refine .begins (Roster.isTombstone_of_isVisible hvisible) ⟨hbegin,
      ⟨start_alike hvisible hvisible', hbegin⟩, fun _ _ _ => trivial, trivial, ?_⟩
    exact fun _ _ _ h => h.1.rescope _ _

theorem chainsFrom_roster (entry : Decl) (r : Roster) :
    (t.chainsFrom none entry r).2 = (t.trace entry { roster := r }).2.roster := by
  rcases htrace : t.trace entry { roster := r } with ⟨f | _, s⟩
  · rw [chainsFrom_error htrace]
  · rw [chainsFrom_ok htrace]

theorem chainsFrom_unworded (hp : t.casting.program.Acyclic) {entry : Decl}
    (hentry : t.casting.program.Declares entry) (hc : t.casting.Consistent r r')
    (hend : t.casting.Separates (t.chainsFrom none entry r).2 (t.chainsFrom none entry r').2) :
    (t.chainsFrom none entry r').1.map (List.map Interaction.unworded) =
      (t.chainsFrom none entry r).1.map (List.map Interaction.unworded) := by
  have hboth := trace_alike hp hentry hc
  rw [chainsFrom_roster, chainsFrom_roster] at hend
  generalize hx : t.trace entry { roster := r } = x,
    hy : t.trace entry { roster := r' } = y at hboth hend
  cases hboth with
  | lost hlost => exact absurd hend hlost
  | failed _ _ => rw [chainsFrom_error hx, chainsFrom_error hy]
  | done _ h =>
    rw [chainsFrom_ok hx, chainsFrom_ok hy, h.label_eq]
    have hsame := h.interaction
    simp only [Interaction.unworded, Interaction.mk.injEq] at hsame
    simp [Interaction.unworded, hsame, Except.map]

theorem interactions_cons (entry : Decl) (rest : List Decl) :
    t.interactions .chains none (entry :: rest) = do
      let chain ← t.chainsFrom none entry
      return chain ++ (← t.interactions .chains none rest) := by
  simp [interactions]

theorem interactions_single (entry : Decl) :
    t.interactions .chains none [entry] = t.chainsFrom none entry := by
  simp [interactions]

theorem chainsFrom_grows (hr : r.Sound) (entry : Decl) :
    r.Extends (t.chainsFrom none entry r).2 := by
  rw [chainsFrom_roster]
  exact (Pairing.trace_grows entry { roster := r } hr).1

theorem chainsFrom_enrolled (hr : t.casting.Enrolled r) {entry : Decl}
    (hentry : t.casting.program.Declares entry) :
    t.casting.Enrolled (t.chainsFrom none entry r).2 := by
  rw [chainsFrom_roster]
  exact (trace_enrolled (s := { roster := r }) hr hentry).1

theorem interactions_cons_ok {entry : Decl} {rest : List Decl} {chains : List Interaction}
    {last : Roster} (h : t.interactions .chains none (entry :: rest) r = (.ok chains, last)) :
    ∃ chain mid others, t.chainsFrom none entry r = (.ok chain, mid) ∧
      t.interactions .chains none rest mid = (.ok others, last) ∧ chains = chain ++ others := by
  rw [interactions_cons] at h
  obtain ⟨chain, mid, hchain, hrest⟩ := Casting.bind_eq_ok h
  obtain ⟨others, _, hothers, hpure⟩ := Casting.bind_eq_ok hrest
  cases hpure
  exact ⟨chain, mid, others, hchain, hothers, rfl⟩

theorem interactions_grows (hr : t.casting.Enrolled r) {entries : List Decl}
    (hentries : ∀ e ∈ entries, t.casting.program.Declares e) {chains : List Interaction}
    {last : Roster} (hrun : t.interactions .chains none entries r = (.ok chains, last)) :
    r.Extends last := by
  induction entries generalizing r chains with
  | nil =>
    cases hrun
    exact .refl _
  | cons entry rest ih =>
    obtain ⟨hentry, hentries⟩ := List.forall_mem_cons.1 hentries
    have hmid := chainsFrom_enrolled hr hentry
    have hgrown := chainsFrom_grows (t := t) hr.drawn.sound entry
    obtain ⟨chain, mid, others, hchain, hothers, rfl⟩ := interactions_cons_ok hrun
    rw [hchain] at hmid hgrown
    exact hgrown.trans (ih hmid hentries hothers)

theorem chainsFrom_alone (hp : t.casting.program.Acyclic) (hr : t.casting.Enrolled r) {entry : Decl}
    (hentry : t.casting.program.Declares entry) {chain : List Interaction} {last : Roster}
    (hrun : t.chainsFrom none entry r = (.ok chain, last))
    (hend : t.casting.Separates (t.chainsFrom none entry {}).2 last) :
    ∃ i, chain = [i] ∧
      (t.chainsFrom none entry {}).1.map (List.map Interaction.unworded) = .ok [i.unworded] := by
  have hgrown := chainsFrom_grows (t := t) hr.drawn.sound entry
  rw [hrun] at hgrown
  have hbegin : t.casting.Separates {} r := hend.of_extends (chainsFrom_grows .empty entry) hgrown
  have hsame := chainsFrom_unworded hp hentry ⟨.refl, hr.drawn, hbegin⟩ (by rwa [hrun])
  rw [← hsame, hrun]
  rcases htrace : t.trace entry { roster := r } with ⟨f | _, s⟩
  · rw [chainsFrom_error htrace] at hrun
    cases hrun
  · rw [chainsFrom_ok htrace] at hrun
    cases hrun
    exact ⟨_, rfl, rfl⟩

/-- Whatever is drawn before and after it, an entry point is drawn as it is drawn alone, up to the
words. -/
theorem chains_as_alone (hp : t.casting.program.Acyclic) (hr : t.casting.Enrolled r)
    {entries : List Decl} (hentries : ∀ e ∈ entries, t.casting.program.Declares e)
    {chains : List Interaction} {last : Roster}
    (hrun : t.interactions .chains none entries r = (.ok chains, last))
    (hseparates : ∀ e ∈ entries, t.casting.Separates (t.interactions .chains none [e] {}).2 last) :
    entries.map
      (fun e => (t.interactions .chains none [e] {}).1.map (List.map Interaction.unworded)) =
      chains.map fun chain => .ok [chain.unworded] := by
  simp only [interactions_single] at hseparates ⊢
  induction entries generalizing r chains with
  | nil =>
    cases hrun
    rfl
  | cons entry rest ih =>
    obtain ⟨hentry, hentries⟩ := List.forall_mem_cons.1 hentries
    obtain ⟨hseparates, hrests⟩ := List.forall_mem_cons.1 hseparates
    have hmid := chainsFrom_enrolled hr hentry
    obtain ⟨chain, mid, others, hchain, hothers, rfl⟩ := interactions_cons_ok hrun
    rw [hchain] at hmid
    -- Different keys have different ids at the end, so they had at every stage before.
    have hend := hseparates.of_extends (.refl _) (interactions_grows hmid hentries hothers)
    obtain ⟨i, rfl, halone⟩ := chainsFrom_alone hp hr hentry hchain hend
    rw [List.map_cons, halone, ih hmid hentries hothers hrests]
    rfl

end Tracer

def Sample.distinct : Tracer :=
  { Sample.tracer with casting := Sample.casting }

theorem Tracer.chains_as_alone_sample : Sample.program.Acyclic ∧ Sample.casting.Enrolled {} ∧
    ∃ chains last,
      Sample.distinct.interactions .chains none [Sample.run, Sample.work] {} = (.ok chains, last) ∧
      (∀ e ∈ [Sample.run, Sample.work], Sample.program.Declares e ∧
        Sample.casting.Separates (Sample.distinct.interactions .chains none [e] {}).2 last) ∧
      [Sample.run, Sample.work].map (fun e =>
        (Sample.distinct.interactions .chains none [e] {}).1.map (List.map Interaction.unworded)) =
        chains.map fun chain => .ok [chain.unworded] := by
  have hok : (Sample.distinct.interactions .chains none [Sample.run, Sample.work] {}).1.isOk =
    true := by decide +kernel
  have hseparates : ∀ e ∈ [Sample.run, Sample.work],
      Sample.casting.Separates (Sample.distinct.interactions .chains none [e] {}).2
        (Sample.distinct.interactions .chains none [Sample.run, Sample.work] {}).2 := by
    unfold Casting.Separates
    decide +kernel
  have hdeclares : ∀ e ∈ [Sample.run, Sample.work], Sample.program.Declares e := by
    rw [List.forall_mem_cons, List.forall_mem_singleton]
    exact ⟨rfl, rfl⟩
  rcases hrun : Sample.distinct.interactions .chains none [Sample.run, Sample.work]
    {} with ⟨f | chains, last⟩
  · rw [hrun] at hok
    cases hok
  · rw [hrun] at hseparates
    exact ⟨Sample.acyclic, .empty, chains, last, rfl, fun e he => ⟨hdeclares e he, hseparates e he⟩,
      chains_as_alone (t := Sample.distinct) Sample.acyclic .empty hdeclares hrun hseparates⟩

end Lifeline
