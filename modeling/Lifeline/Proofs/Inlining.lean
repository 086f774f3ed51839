import Lifeline.CallGraph
import Lifeline.Proofs.Nesting
import Lifeline.Proofs.Pairing.Run
import Lifeline.Proofs.Representation

namespace Lifeline

def Roster.isLambda (r : Roster) (id : ParticipantId) : Bool :=
  (r.get? id).map (·.kind) == some .lambda

theorem Roster.Extends.isLambda {r r' : Roster} {id : ParticipantId} (h : r.Extends r')
    (hid : r.isVisible id = true) : r'.isLambda id = r.isLambda id := by
  obtain ⟨p, hp⟩ := Roster.exists_of_isVisible hid
  simp only [Roster.isLambda, hp, h.get? hp]

def Message.unscoped (m : Message) : Message :=
  { m with scope := .normal }

namespace Interaction

variable {lambda : ParticipantId → Bool} {m : Message}

/-- What is left of a call without the activations of closures, given the calls that lead to it:
nothing of a call to a closure; any other call comes from the last caller that is no closure, and is
as many levels higher as closures lead to it. -/
def folded (lambda : ParticipantId → Bool) (path : List Message) : Option Message :=
  path.getLast?.bind fun m =>
    if lambda m.receiver then none
    else some { m with
      sender := ((path.map (·.sender)).filter (!lambda ·)).getLastD m.sender
      depth := m.depth - path.countP fun call => lambda call.sender
      scope := .normal }

theorem folded_closure {path : List Message} (hm : lambda m.receiver = true) :
    folded lambda (path ++ [m]) = none := by
  simp [folded, hm]

theorem folded_call {path : List Message} {senders : List ParticipantId} {caller : ParticipantId}
    (hm : lambda m.receiver = false) (hsenders : path.map (·.sender) ++ [m.sender] = senders)
    (hcaller : (senders.filter (!lambda ·)).getLast? = some caller) :
    folded lambda (path ++ [m]) =
      some { m with
        sender := caller, depth := m.depth - senders.countP lambda, scope := .normal } := by
  have hcount : (path ++ [m]).countP (fun call => lambda call.sender) = senders.countP lambda := by
    rw [← hsenders]
    simp [List.countP_append, List.countP_map, Function.comp_def]
  have hmap : (path ++ [m]).map (·.sender) = senders := by simpa using hsenders
  simp only [folded, List.getLast?_concat, Option.bind_some, hm, Bool.false_eq_true,
    if_false, hcount, hmap, List.getLastD_eq_getLast?, hcaller, Option.getD_some]

end Interaction

open Interaction

/-- The second trace is the first one without the activations of closures. -/
structure Trace.Folds (c : Casting) (last : Roster) (s s' : Trace) : Prop where
  roster : s'.roster = s.roster
  drawn : c.Drawn s.roster
  within : s.roster.Extends last
  blocks : s'.blocks = s.blocks
  entryPoints : s'.interaction.entryPoints = s.interaction.entryPoints
  calls : s.interaction.calls = s.interaction.messages.toList
  messages : s'.interaction.messages.toList.map Message.unscoped =
    s.interaction.paths.filterMap (folded last.isLambda)
  plain : ∀ m ∈ s'.interaction.messages, last.isLambda m.sender = false ∧
    last.isLambda m.receiver = false

structure Activation.Folds (lambda : ParticipantId → Bool) (a b : Activation) : Prop where
  path : b.path = a.path
  context : b.context = a.context
  whole : a.inlined = 0
  inlined : b.inlined = (a.path.calls.map Prod.fst).countP lambda
  caller : ((a.path.calls.map Prod.fst).filter (!lambda ·)).getLast? = some b.caller

structure Activation.Stands (a : Activation) (r : Roster) (i : Interaction) : Prop where
  deep : a.depth ≤ (opened [] i.calls).length
  senders : ((opened [] i.calls).take a.depth).map (·.sender) ++ [a.caller] =
    a.path.calls.map Prod.fst
  visible : ∀ call ∈ a.path.calls, r.isVisible call.1 = true

namespace Trace.Folds

variable {c : Casting} {last : Roster} {s s' : Trace} {m n : Message}

theorem rescope (h : Folds c last s s') (x x' : Scopes) :
    Folds c last { s with scopes := x } { s' with scopes := x' } :=
  { h with }

theorem opened (h : Folds c last s s') : Folds c last s.opened s'.opened :=
  { h with blocks := congrArg (· + 1) h.blocks }

theorem recast (h : Folds c last s s') {r : Roster} (hdrawn : c.Drawn r)
    (hwithin : r.Extends last) : Folds c last { s with roster := r } { s' with roster := r } :=
  { h with roster := rfl, drawn := hdrawn, within := hwithin }

theorem begin (h : Folds c last s s') {r : Roster} (hdrawn : c.Drawn r) (hwithin : r.Extends last)
    (p : ParticipantId) : Folds c last (s.begin r p) (s'.begin r p) :=
  { h with
    roster := rfl, drawn := hdrawn, within := hwithin,
      entryPoints := congrArg (· ++ [p]) h.entryPoints }

theorem push_closure (h : Folds c last s s') (hm : m.isResponse = false)
    (hlambda : last.isLambda m.receiver = true) : Folds c last (s.push m) s' := by
  refine { h with calls := ?_, messages := ?_ }
  · simp only [Trace.push, calls_push hm, toList_push, h.calls]
  · simp only [Trace.push, paths_push hm, List.filterMap_append, h.messages]
    simp [folded_closure hlambda]

theorem push (h : Folds c last s s') (hm : m.isResponse = false)
    (hfolded : folded last.isLambda
      ((Interaction.opened [] s.interaction.calls).take m.depth ++ [m]) = some n.unscoped)
    (hn : last.isLambda n.sender = false ∧ last.isLambda n.receiver = false) :
    Folds c last (s.push m) (s'.push n) := by
  refine { h with calls := ?_, messages := ?_, plain := ?_ }
  · simp only [Trace.push, calls_push hm, toList_push, h.calls]
  · simp only [Trace.push, paths_push hm, toList_push, List.map_append,
      List.filterMap_append, h.messages]
    simp [hfolded]
  · intro m' hm'
    rcases Array.mem_push.1 hm' with hold | rfl
    · exact h.plain m' hold
    · exact hn

end Trace.Folds

namespace Activation

variable {lambda : ParticipantId → Bool} {a b : Activation} {r r' : Roster} {i i' : Interaction}
  {m : Message}
variable {p : ParticipantId} {operation : String} {path : CallPath}

theorem Stands.depth_eq (h : a.Stands r i) : a.path.depth = a.depth + 1 := by
  have hlength := congrArg List.length h.senders
  have hdeep := h.deep
  simp only [List.length_append, List.length_map, List.length_take,
    List.length_singleton] at hlength
  rw [CallPath.depth]
  omega

theorem Stands.visible_of_mem (h : a.Stands r i) (hp : p ∈ a.path.calls.map Prod.fst) :
    r.isVisible p = true := by
  obtain ⟨call, hcall, rfl⟩ := List.mem_map.1 hp
  exact h.visible call hcall

theorem Stands.caller_visible (h : a.Stands r i) : r.isVisible a.caller = true := by
  refine h.visible_of_mem ?_
  rw [← h.senders]
  exact List.mem_append_right _ (List.mem_singleton_self _)

theorem Stands.after (h : a.Stands r i) (hr : r.Extends r') {new : List Message}
    (hadds : Adds a.depth i i' new) : a.Stands r' i' := by
  obtain ⟨hdeep, htake⟩ := hadds.take h.deep
  exact ⟨hdeep, htake ▸ h.senders, fun call hcall => hr.isVisible (h.visible call hcall)⟩

theorem Folds.caller_mem (h : a.Folds lambda b) :
    b.caller ∈ a.path.calls.map Prod.fst ∧ lambda b.caller = false := by
  have hmem := List.mem_of_getLast? h.caller
  rw [List.mem_filter] at hmem
  simpa using hmem

theorem Folds.depth_eq (h : a.Folds lambda b) (hstands : a.Stands r i) :
    b.depth = a.depth - (a.path.calls.map Prod.fst).countP lambda := by
  have hdepth := hstands.depth_eq
  rw [depth, h.path, h.inlined, hdepth]
  omega

theorem Stands.depth_calling (h : a.Stands r i) (hwhole : a.inlined = 0)
    (henter : a.path.enter (p, operation) = .entered path) :
    (a.calling path p false).depth = a.depth + 1 := by
  have hdepth := CallPath.depth_enter henter
  have hbefore := h.depth_eq
  simp only [calling, Bool.false_eq_true, if_false, depth, hwhole] at hbefore ⊢
  omega

theorem Stands.calling (h : a.Stands r i) (hwhole : a.inlined = 0) (hm : m.SentIn a)
    (hp : r.isVisible p = true) (henter : a.path.enter (p, operation) = .entered path) :
    (a.calling path p false).Stands r (i.push m) := by
  have hdepth := h.depth_calling hwhole henter
  have hpath := (CallPath.enter_eq_entered henter).2
  have hopened : opened [] (i.push m).calls = (opened [] i.calls).take a.depth ++ [m] := by
    rw [opened_push (by simpa [Message.isResponse] using hm.kind), hm.depth]
  have hlength : ((opened [] i.calls).take a.depth ++ [m]).length = a.depth + 1 := by
    rw [List.length_append, List.length_take, Nat.min_eq_left h.deep, List.length_singleton]
  refine ⟨?_, ?_, ?_⟩
  · rw [hdepth, hopened, hlength]
  · rw [hdepth, hopened, List.take_of_length_le (Nat.le_of_eq hlength), List.map_append,
      List.map_singleton, hm.sender, h.senders, hpath]
    simp [Activation.calling]
  · intro call hcall
    simp only [Activation.calling, Bool.false_eq_true, if_false, hpath, List.mem_append,
      List.mem_singleton] at hcall
    rcases hcall with hold | rfl
    · exact h.visible call hold
    · exact hp

theorem Folds.calling (h : a.Folds lambda b)
    (henter : a.path.enter (p, operation) = .entered path) :
    (a.calling path p false).Folds lambda (b.calling path p (lambda p)) := by
  have hpath := (CallPath.enter_eq_entered henter).2
  subst hpath
  cases hp : lambda p with
  | true =>
    refine ⟨rfl, h.context, h.whole, ?_, ?_⟩
    · simp [Activation.calling, h.inlined, hp]
    · simpa [Activation.calling, hp] using h.caller
  | false =>
    refine ⟨rfl, h.context, h.whole, ?_, ?_⟩
    · simp [Activation.calling, h.inlined, hp]
    · simp [Activation.calling, hp]

end Activation

namespace Casting

variable {c : Casting} {r r' : Roster} {d : Decl} {f : Function} {args : List String}
  {id : ParticipantId}

theorem isLambda_eq (hr : c.Drawn r) (hsize : r.size < UInt64.size) (hd : c.program.Declares d)
    (hf : d.function? = some f) (hknown : r.remembered? d.id args = some id)
    (hne : id ≠ .tombstone) :
    r.isLambda id = c.program.isClosureOperator d := by
  have hkind : d.kind = .function f := by
    cases hk : d.kind <;> simp_all [Decl.function?]
  obtain ⟨_, names, hget, haccepts, q, hq, rfl, hqkind, -⟩ :=
    hr.informed.seen (Roster.notes_of_remembered? hknown) hne
  cases hget.symm.trans hd
  have hnames := haccepts.named
  simp only [Casting.names, hkind] at hnames
  rw [Roster.isLambda, hr.get?_id hsize hq, Option.map_some, hqkind, Program.isClosureOperator]
  rcases callableNames_cases hnames with ⟨ho, hk, -⟩
    | ⟨o, e, info, ho, he, hrecord, ⟨hl, hk, -⟩ | ⟨hl, hk, -⟩⟩
  · simp [Program.closure?, hf, ho, hk]
  · simp [Program.closure?, hf, ho, hk, he, Decl.record?, hrecord, hl]
  · simp [Program.closure?, hf, ho, hk, he, Decl.record?, hrecord, hl]

theorem fulfil_drawn (hr : c.Drawn r) {q : Request} (hq : q.Within c.program)
    (caller : ParticipantId) : c.Drawn (c.fulfil caller q r).2 := by
  cases hq with
  | entity hwithin _ _ =>
    rw [fulfil_roster rfl]
    exact hr.trans (intern_drawn hr hwithin).result.rel
  | ownState =>
    rw [fulfil_roster rfl]
    exact hr.trans (intern_drawn hr (e := .coroutineState caller) trivial).result.rel
  | unknown name => exact hr

end Casting

/-- No call operator of a closure waits without an awaiter, that is, on the state of its own
coroutine. -/
def Program.ClosuresAwaitOthers (p : Program) : Prop :=
  ∀ d ∈ p.decls, p.isClosureOperator d = true → d.body?.any Stmt.awaitsOwn = false

def Target.Clear (x : Target) (r : Roster) : Prop :=
  ∀ f body, x.function = some f → f.body = some body → r.isVisible x.participant = true ∧
    (r.isLambda x.participant = true → body.awaitsOwn = false)

abbrev TraceOptions.inlining (o : TraceOptions) : TraceOptions :=
  { o with inlineLambdas := true }

namespace Tracer

variable {t : Tracer} {last : Roster} {a b : Activation} {s s' : Trace} {x : Target}
  {kind : MessageKind}

def folding (t : Tracer) (last : Roster) (hquiet : t.options.returnMessages = false) :
    Pairing t t.options.inlining where
  inv a b s s' := a.Folds last.isLambda b ∧
    a.Stands s.roster s.interaction ∧ s.Folds t.casting last s'
  rel a _ s _ _ s₁ s₁' := s₁.Folds t.casting last s₁' ∧ s.roster.Extends s₁.roster ∧
    ∃ new, Adds a.depth s.interaction s₁.interaction new
  -- Who is a closure is looked up on the roster of the end, so nothing is said of rosters that do
  -- not lead there.
  void r _ := ¬ r.Extends last
  own p q := p = q
  wording operation operation' := operation = operation'
  refl h := ⟨h.2.2, .refl _, [], .refl _ _⟩
  trans := by
    rintro a b s s' s₁ s₁' f s₂ s₂' ⟨-, hr, new, hnew⟩ ⟨h, hr', more, hmore⟩
    exact ⟨h, hr.trans hr', new ++ more, hnew.trans hmore⟩
  keeps := by
    rintro a b s s' s₁ s₁' ⟨hab, hstands, -⟩ ⟨h, hr, new, hnew⟩
    exact ⟨hab, hstands.after hr hnew, h⟩
  lasts h hr _ hwithin := h (hr.trans hwithin)
  scopes h := ⟨h.1, h.2.1, h.2.2.rescope _ _⟩
  rescope _ _ y y' h := ⟨h.1.rescope y y', h.2⟩
  condition := by
    rintro a b s s' ⟨hab, hstands, h⟩
    exact ⟨⟨hab.path, hab.context, hab.whole, hab.inlined, hab.caller⟩,
      ⟨hstands.deep, hstands.senders, hstands.visible⟩, h⟩
  ofCondition _ h := h
  opens h := ⟨h.2.2.opened, .refl _, [], .refl _ _⟩
  enter := by
    rintro a b s s' s₁ s₁' f g ⟨hab, hstands, h⟩ ⟨h₁, hr, new, hnew⟩ hfg
    rw [h.blocks] at hfg
    obtain rfl := hfg.eq rfl
    have hafter := hstands.after hr hnew
    exact ⟨⟨hab.path, congrArg (· ++ [f]) hab.context, hab.whole, hab.inlined, hab.caller⟩,
      ⟨hafter.deep, hafter.senders, hafter.visible⟩, h₁⟩
  ofEnter _ _ _ h := h
  yield := by
    rintro a b s s' location ⟨-, -, h⟩
    rw [yielded_quiet hquiet, yielded_quiet (t := t.tuned t.options.inlining) hquiet]
    exact ⟨h, .refl _, [], .refl _ _⟩

theorem draws_off (hoff : t.options.inlineLambdas = false) (h : a.Stands s.roster s.interaction) :
    t.draws a s.roster x = s.roster.isVisible x.participant := by
  simp [draws, isInlined_off hoff, h.caller_visible]

theorem draws_on (hab : a.Folds last.isLambda b) (h : a.Stands s.roster s.interaction) :
    (t.tuned t.options.inlining).draws b s.roster x =
      (!s.roster.isLambda x.participant && s.roster.isVisible x.participant) := by
  simp [draws, isInlined, Roster.isLambda, h.visible_of_mem hab.caller_mem.1]

theorem announced_folds (hoff : t.options.inlineLambdas = false) (hab : a.Folds last.isLambda b)
    (hstands : a.Stands s.roster s.interaction) (hs : s.Folds t.casting last s')
    (hkind : kind ≠ .response) (certainty : Certainty) (location : Option Location)
    (text : Option String) :
    (t.announced a kind certainty x location text s).Folds t.casting last
        ((t.tuned t.options.inlining).announced b kind certainty x location text s') ∧
      ∃ new, Adds a.depth s.interaction
          (t.announced a kind certainty x location text s).interaction new := by
  unfold announced
  rw [hs.roster, draws_off hoff hstands, draws_on hab hstands]
  cases hx : s.roster.isVisible x.participant with
  | false => exact ⟨by simpa using hs, [], .refl _ _⟩
  | true =>
    have hlambda := hs.within.isLambda hx
    have hresponse :
        (t.callMessage a kind certainty x location text s.roster).isResponse = false := by
      simpa [callMessage, Message.isResponse] using hkind
    refine ⟨?_, _, .send ⟨rfl, rfl, rfl, hkind⟩⟩
    cases hclosure : s.roster.isLambda x.participant with
    | true => exact hs.push_closure hresponse (hlambda.trans hclosure)
    | false =>
      have hplain : last.isLambda x.participant = false := hlambda.trans hclosure
      -- The senders of the calls that lead here are those on the path, so what is left of this call
      -- can be read off it.
      have hfolded := folded_call (m := t.callMessage a kind certainty x location text s.roster)
        hplain hstands.senders hab.caller
      refine hs.push hresponse (hfolded.trans ?_) ⟨hab.caller_mem.2, hplain⟩
      simp [callMessage, Message.unscoped, hab.context, hab.depth_eq hstands]

variable {hquiet : t.options.returnMessages = false}

theorem fulfil_folds (hsize : last.size < UInt64.size)
    (hown : t.casting.program.ClosuresAwaitOthers) (hs : s.Folds t.casting last s') {q : Request}
    (hq : q.Within t.casting.program) (hcaller : q = .ownState → a.caller = b.caller) :
    (t.folding last hquiet).Gets (fun s _ x y => x = y ∧ x.Clear s.roster) a b s s'
      (t.casting.fulfil a.caller q s.roster) (t.casting.fulfil b.caller q s'.roster) := by
  -- Only the state of the own coroutine depends on who asks.
  have hsame : t.casting.fulfil b.caller q s'.roster = t.casting.fulfil a.caller q s.roster := by
    rw [hs.roster]
    cases q with
    | entity => rfl
    | unknown => rfl
    | ownState => rw [hcaller rfl]
  rw [hsame]
  obtain ⟨hgrown, hsound⟩ := Casting.fulfil_grows (c := t.casting) hs.drawn.sound a.caller q
  have hdrawn := Casting.fulfil_drawn hs.drawn hq a.caller
  by_cases hwithin : (t.casting.fulfil a.caller q s.roster).2.Extends last
  · rcases hrun : t.casting.fulfil a.caller q s.roster with ⟨f | res, r⟩
    · rw [hrun] at hgrown hdrawn hwithin
      exact .failed ⟨hs.recast hdrawn hwithin, hgrown, [], .refl _ _⟩
    · rw [hrun] at hgrown hdrawn hwithin
      refine .done ⟨hs.recast hdrawn hwithin, hgrown, [], .refl _ _⟩ ?_
      cases res with
      | unresolved name => exact .unresolved name
      | filtered => exact .filtered
      | found certainty x =>
        refine .found ⟨rfl, fun f body hf hbody => ?_⟩
        have hvisible := Casting.fulfil_visible hs.drawn.sound hrun hf
        obtain ⟨d, args, hd, hfun, hknown⟩ := Casting.fulfil_lands hs.drawn.sound hq hrun hf
        have hclosure :=
          Casting.isLambda_eq hdrawn (Nat.lt_of_le_of_lt hwithin.size_le hsize) hd hfun hknown
          (Roster.isVisible_iff.1 hvisible).1
        refine ⟨hvisible, fun hlambda => ?_⟩
        have hothers := hown d hd.mem (hclosure ▸ hlambda)
        simpa [Decl.body?, hfun, hbody] using hothers
  · exact .of_lost hwithin hsound hsound

theorem enter_folds (hoff : t.options.inlineLambdas = false) (hab : a.Folds last.isLambda b)
    (hstands : a.Stands s.roster s.interaction) (hs : s.Folds t.casting last s')
    (hkind : kind ≠ .response) (certainty : Certainty) (location : Option Location)
    (text : Option String) {body : Stmt} (hvisible : s.roster.isVisible x.participant = true)
    (hawaits : s.roster.isLambda x.participant = true → body.awaitsOwn = false) {path : CallPath}
    (henter : a.path.enter (x.participant, x.operation) = .entered path) :
    (t.folding last hquiet).Entering
      ((t.folding last hquiet).rel a b (t.announced a kind certainty x location text s)
        ((t.tuned t.options.inlining).announced b kind certainty x location text s'))
      (a.calling path x.participant false)
        (b.calling path x.participant (last.isLambda x.participant)) body x.operation
      x.operation (t.announced a kind certainty x location text s)
      ((t.tuned t.options.inlining).announced b kind certainty x location text s') := by
  have hlambda := hs.within.isLambda hvisible
  have hsent : t.announced a kind certainty x location text s =
      s.push (t.callMessage a kind certainty x location text s.roster) := by
    rw [announced, draws_off hoff hstands, if_pos hvisible]
  refine ⟨⟨hab.calling henter, ?_,
    (announced_folds hoff hab hstands hs hkind certainty location text).1⟩, ?_, rfl, ?_⟩
  · rw [hsent]
    exact hstands.calling hab.whole ⟨rfl, rfl, rfl, hkind⟩ hvisible henter
  · intro hawait
    cases hclosure : last.isLambda x.participant with
    | true => simp [hawaits (hlambda.symm.trans hclosure)] at hawait
    | false => rfl
  · rintro f s₁ s₁' ⟨h₁, hr, new, hnew⟩
    refine ⟨h₁.rescope _ _, hr, new, hnew.mono ?_⟩
    rw [hstands.depth_calling hab.whole henter]
    exact Nat.le_succ _

def foldingLockstep (t : Tracer) (last : Roster) (hquiet : t.options.returnMessages = false)
    (hoff : t.options.inlineLambdas = false) (hsize : last.size < UInt64.size)
    (hown : t.casting.program.ClosuresAwaitOthers) : (t.folding last hquiet).Lockstep where
  meets _ _ s _ x y := x = y ∧ x.Clear s.roster
  fulfil := by
    rintro a b s s' q ⟨-, -, hs⟩ hq hcaller
    exact fulfil_folds hsize hown hs hq hcaller
  function := by
    rintro _ _ _ _ x _ ⟨rfl, -⟩
    rfl
  captured := by
    rintro _ _ _ _ x _ ⟨rfl, -⟩
    rfl
  announce := by
    rintro a b s s' x _ kind certainty location text hkind ⟨hab, hstands, hs⟩ ⟨rfl, -⟩
    obtain ⟨hnow, hadds⟩ :=
      announced_folds (x := x) hoff hab hstands hs hkind certainty location text
    refine ⟨hnow, ?_, hadds⟩
    rw [announced_roster]
    exact .refl _
  enter := by
    rintro a b s s' x _ f body kind certainty location text hkind ⟨hab, hstands, hs⟩ ⟨rfl, hclear⟩
      hf hbody
    obtain ⟨hvisible, hawaits⟩ := hclear f body hf hbody
    have hon :
        (t.tuned t.options.inlining).isInlined s'.roster x = last.isLambda x.participant := by
      rw [hs.roster, hs.within.isLambda hvisible]
      simp [isInlined, Roster.isLambda]
    rw [isInlined_off hoff, hon, hab.path]
    exact .of_eq fun path henter =>
      enter_folds hoff hab hstands hs hkind certainty location text hvisible hawaits henter
  answer := by
    rintro a b s s' x _ kind certainty location text s₁ s₁' - - ⟨rfl, -⟩ ⟨h₁, -⟩
    simp only [answered, hquiet, Bool.and_false, Bool.false_eq_true, if_false]
    exact ⟨h₁, .refl _, [], .refl _ _⟩

theorem start_folds {r : Roster} {i : Interaction} {p : ParticipantId} (hp : r.isVisible p = true)
    (hplain : last.isLambda p = false) :
    (t.start r p).Folds last.isLambda ((t.tuned t.options.inlining).start r p) ∧
      (t.start r p).Stands r i := by
  refine ⟨⟨rfl, rfl, rfl, ?_, ?_⟩, Nat.zero_le _, rfl, ?_⟩
  · simp [start, hplain]
  · simp [start, hplain]
  · simpa [start] using hp

theorem trace_folds (hquiet : t.options.returnMessages = false)
    (hoff : t.options.inlineLambdas = false) (hown : t.casting.program.ClosuresAwaitOthers)
    {entry : Decl} (hentry : t.casting.program.Declares entry)
    (hplain : t.casting.program.isClosureOperator entry = false) {r : Roster}
    (hr : t.casting.Drawn r) (hbegin : r.Extends last) (hsize : last.size < UInt64.size) :
    Both (fun q _ => ¬ q.Extends last) (fun _ s₁ s₁' => s₁.Folds t.casting last s₁')
      (t.trace entry { roster := r })
      ((t.tuned t.options.inlining).trace entry { roster := r }) := by
  have hstart : Trace.Folds t.casting last { roster := r } { roster := r } :=
    ⟨rfl, hr, hbegin, rfl, rfl, rfl, rfl, by simp⟩
  refine Pairing.trace_both (P := t.folding last hquiet)
    (t.foldingLockstep last hquiet hoff hsize hown).dispatching rfl
    rfl rfl (fun _ => hstart) fun hhas => ?_
  have hgrows := (Casting.intern_grows (c := t.casting) hr.sound (.decl entry)).result
  have hdrawn := hr.trans (Casting.intern_drawn hr (e := .decl entry) hentry).result.rel
  by_cases hwithin : (t.casting.intern (.decl entry) r).2.Extends last
  · rcases hrun : t.casting.intern (.decl entry) r with ⟨f | p, r₁⟩
    · rw [hrun] at hdrawn hwithin
      exact .failed (hstart.recast hdrawn hwithin)
    · have hknown : r₁.remembered? entry.id [] = some p := Casting.intern_knownAs hr.sound hrun
      rw [hrun] at hgrows hdrawn hwithin
      cases hp : p.isTombstone with
      | true => exact .excluded hp fun _ => hstart.recast hdrawn hwithin
      | false =>
        have hne : p ≠ .tombstone := by simpa [ParticipantId.isTombstone] using hp
        have hvisible : r₁.isVisible p = true := hgrows.outcome hne
        obtain ⟨body, hbody⟩ := Option.isSome_iff_exists.1 hhas
        obtain ⟨f, hfun, -⟩ := Option.bind_eq_some_iff.1 hbody
        have hlambda : last.isLambda p = false := by
          rw [hwithin.isLambda hvisible,
            Casting.isLambda_eq hdrawn (Nat.lt_of_le_of_lt hwithin.size_le hsize)
              hentry hfun hknown hne, hplain]
        obtain ⟨hfolds, hstands⟩ := start_folds (t := t) (i := ({} : Interaction)) hvisible hlambda
        have hnow := hstart.begin hdrawn hwithin p
        exact .begins hp ⟨hnow, ⟨hfolds, ⟨hstands.deep, hstands.senders, hstands.visible⟩, hnow⟩,
          fun _ _ _ => rfl, rfl, fun _ _ _ h => h.1.rescope _ _⟩
  · exact .of_lost hwithin hgrows.sound hgrows.sound

/-- To draw closures as part of those that call them is to take their activations out of the tree of
calls. -/
theorem inlining_removes_closures (hquiet : t.options.returnMessages = false)
    (hoff : t.options.inlineLambdas = false) (hown : t.casting.program.ClosuresAwaitOthers)
    {entry : Decl} (hentry : t.casting.program.Declares entry)
    (hplain : t.casting.program.isClosureOperator entry = false) {r : Roster}
    (hr : t.casting.Enrolled r)
    (hsize : (t.trace entry { roster := r }).2.roster.size < UInt64.size) :
    ∃ result s s', t.trace entry { roster := r } = (result, s) ∧
      (t.tuned t.options.inlining).trace entry { roster := r } = (result, s') ∧
      s'.roster = s.roster ∧ s.interaction.calls = s.interaction.messages.toList ∧
      s'.interaction.messages.toList.map Message.unscoped =
        s.interaction.paths.filterMap (folded s.roster.isLambda) ∧
      ∀ m ∈ s'.interaction.messages,
        s.roster.isLambda m.sender = false ∧ s.roster.isLambda m.receiver = false := by
  have hgrown := (Pairing.trace_grows (t := t) entry { roster := r } hr.drawn.sound).1
  have hboth := trace_folds hquiet hoff hown hentry hplain hr.drawn hgrown hsize
  generalize t.trace entry { roster := r } = x,
    (t.tuned t.options.inlining).trace entry { roster := r } = y at hboth
  cases hboth with
  | lost hlost => exact absurd (.refl _) hlost
  | done _ h => exact ⟨_, _, _, rfl, rfl, h.roster, h.calls, h.messages, h.plain⟩
  | failed _ h => exact ⟨_, _, _, rfl, rfl, h.roster, h.calls, h.messages, h.plain⟩

end Tracer

namespace Sample

def closure : Decl where
  id := 5
  name := ""
  namespaceName := ""
  location := none
  templateArgs := []
  instantiatedFrom := none
  annotations := []
  kind := .record { isStruct := false, isLambda := true, parent := none }

def operator : Decl :=
  function 6 "operator()" (some 5) (.expr (call 7 []))

def leaf : Decl :=
  function 7 "leaf" none .skip

def start : Decl :=
  function 8 "start" none (.ifElse (call 6 []) (.expr (call 7 [])) none false none)

def indirect : Tracer :=
  { tracer with casting := { tracer.casting with program := ⟨[closure, operator, leaf, start]⟩ } }

end Sample

theorem Tracer.inlining_removes_closures_sample :
    Sample.indirect.casting.program.ClosuresAwaitOthers ∧
      Sample.indirect.casting.program.Declares Sample.start ∧
    Sample.indirect.casting.program.isClosureOperator Sample.start = false ∧
      Sample.indirect.casting.Enrolled {} ∧
    (Sample.indirect.trace Sample.start {}).2.roster.size < UInt64.size ∧
    ∃ result s s', Sample.indirect.trace Sample.start {} = (result, s) ∧
      (Sample.indirect.tuned Sample.indirect.options.inlining).trace Sample.start {} =
        (result, s') ∧
      s'.roster = s.roster ∧ s.interaction.calls = s.interaction.messages.toList ∧
      s'.interaction.messages.toList.map Message.unscoped =
        s.interaction.paths.filterMap (folded s.roster.isLambda) ∧
      ∀ m ∈ s'.interaction.messages,
        s.roster.isLambda m.sender = false ∧ s.roster.isLambda m.receiver = false := by
  have hown : Sample.indirect.casting.program.ClosuresAwaitOthers := by
    unfold Program.ClosuresAwaitOthers
    decide +kernel
  have hstart : Sample.indirect.casting.program.Declares Sample.start := rfl
  have hsize : (Sample.indirect.trace Sample.start {}).2.roster.size < UInt64.size := by
    decide +kernel
  exact ⟨hown, hstart, rfl, .empty, hsize,
    inlining_removes_closures (t := Sample.indirect) rfl rfl hown hstart rfl .empty hsize⟩

end Lifeline
