import Lifeline.Proofs.Growth
import Lifeline.Proofs.LexicalScopes
import Lifeline.Proofs.Walker

/-! Walks put back what they change and only add to what is recorded. A walk in place is a visit
from where the walker stands: it ends where it started, whatever it has come through and however it
ended. -/

namespace Lifeline

namespace Walker

variable {a : Activation} {path : CallPath} {callee : ParticipantId}

theorem path_of (s : Trace) : (of a s).path = a.path := rfl

theorem returnTo_of (s : Trace) : (of a s).returnTo = a.returnTo := rfl

theorem calling_of (s : Trace) (scopes : Scopes) (inlined : Bool) :
    (of a s).calling path scopes callee inlined =
      of (a.calling path callee inlined) { s with scopes } := by
  cases inlined <;> rfl

theorem back_of {c : Call} (h : a.path.enter c = .entered path) (s s' : Trace) (inlined : Bool) :
    (of a s).back (of (a.calling path callee inlined) s') inlined =
      of a { s' with scopes := s.scopes } := by
  have hleave : path.leave a.path.depth = a.path := by
    obtain ⟨-, rfl⟩ := CallPath.enter_eq_entered h
    simp [CallPath.leave, CallPath.depth]
  cases inlined <;> simp [of, back, Activation.calling, hleave]

end Walker

structure Trace.Appends (s s' : Trace) : Prop where
  depth : s'.scopes.depth = s.scopes.depth
  blocks : s.blocks ≤ s'.blocks
  roster : s.roster.Extends s'.roster
  messages : s.interaction.messages.toList <+: s'.interaction.messages.toList

namespace Trace.Appends

variable {s s' s'' : Trace}

theorem refl (s : Trace) : s.Appends s :=
  ⟨rfl, Nat.le_refl _, .refl _, List.prefix_rfl⟩

theorem trans (h : s.Appends s') (h' : s'.Appends s'') : s.Appends s'' :=
  ⟨h'.depth.trans h.depth, Nat.le_trans h.blocks h'.blocks, h.roster.trans h'.roster,
    h.messages.trans h'.messages⟩

theorem push (s : Trace) (m : Message) : s.Appends (s.push m) :=
  ⟨rfl, Nat.le_refl _, .refl _, by simp [Trace.push, Interaction.toList_push]⟩

theorem rescope {scopes : Scopes} (h : scopes.depth = s.scopes.depth) :
    s.Appends { s with scopes } :=
  ⟨h, Nat.le_refl _, .refl _, List.prefix_rfl⟩

end Trace.Appends

def Walk.Does (w : Walk α) (v : Activation → Visit α) : Prop :=
  ∀ a s, w (.of a s) = ((v a s).1, .of a (v a s).2)

/-- The walk is the visit in place, and the visit only adds to the trace. -/
structure Walk.Follows (w : Walk α) (v : Activation → Visit α) : Prop where
  does : w.Does v
  appends : ∀ a (s : Trace), s.Appends (v a s).2

namespace Walk

variable {w : Walk α} {v v' : Activation → Visit α} {k : α → Walk β} {l : α → Activation → Visit β}

theorem get_bind_apply (k : Walker → Walk α) (x : Walker) : (get >>= k) x = k x x := rfl

theorem Does.bind (h : w.Does v) (hk : ∀ x, (k x).Does (l x)) :
    (w >>= k).Does fun a => v a >>= fun x => l x a := by
  intro a s
  dsimp only
  rw [Agree.run_bind, Agree.run_bind, h a s]
  rcases v a s with ⟨f | x, s'⟩
  · rfl
  · exact hk x a s'

def Enters (E : Enter) (E' : Lifeline.Enter) : Prop :=
  ∀ f body operation, (E f body operation).Follows fun a => E' a f body operation

namespace Follows

theorem of_runs (h : ∀ a s, w (.of a s) = ((v a s).1, .of a (v a s).2) ∧ s.Appends (v a s).2) :
    w.Follows v :=
  ⟨fun a s => (h a s).1, fun a s => (h a s).2⟩

theorem runs (h : w.Follows v) (a : Activation) (s : Trace) :
    w (.of a s) = ((v a s).1, .of a (v a s).2) ∧ s.Appends (v a s).2 :=
  ⟨h.does a s, h.appends a s⟩

theorem get_bind {k : Walker → Walk α} {l : Activation → Trace → Visit α}
    (h : ∀ a s, k (.of a s) (.of a s) = ((l a s s).1, .of a (l a s s).2) ∧ s.Appends (l a s s).2) :
    (get >>= k).Follows fun a => get >>= l a :=
  of_runs h

theorem modify_scopes {u : Scopes → Scopes} (h : ∀ scopes, (u scopes).depth = scopes.depth) :
    (modify fun x => { x with scopes := u x.scopes } : Walk PUnit).Follows
      fun _ => modify fun s => { s with scopes := u s.scopes } :=
  ⟨fun _ _ => rfl, fun _ s => .rescope (h s.scopes)⟩

theorem congr (h : w.Follows v) (heq : ∀ a, v' a = v a) : w.Follows v' := by
  rwa [funext heq]

theorem pure (x : α) : (Pure.pure x : Walk α).Follows fun _ => Pure.pure x :=
  ⟨fun _ _ => rfl, fun _ s => .refl s⟩

theorem bind (h : w.Follows v) (hk : ∀ x, (k x).Follows (l x)) :
    (w >>= k).Follows fun a => v a >>= fun x => l x a := by
  refine ⟨h.does.bind fun x => (hk x).does, fun a s => ?_⟩
  have hfirst := h.appends a s
  rw [Agree.run_bind]
  rcases hrun : v a s with ⟨f | x, s'⟩
  · rw [hrun] at hfirst
    exact hfirst
  · rw [hrun] at hfirst
    exact hfirst.trans ((hk x).appends a s')

theorem ite {c : Prop} [Decidable c] {w' : Walk α} (h : w.Follows v) (h' : w'.Follows v') :
    (if c then w else w').Follows fun a => if c then v a else v' a := by
  split
  · exact h
  · exact h'

theorem cast {x : Cast α} (h : x.Adds) : (Walk.cast x).Follows fun _ => Visit.cast x :=
  ⟨fun _ _ => rfl, fun _ s => ⟨rfl, Nat.le_refl _, h s.roster, List.prefix_rfl⟩⟩

theorem nextBlock : Walk.nextBlock.Follows fun _ => Visit.nextBlock :=
  ⟨fun _ _ => rfl, fun _ _ => ⟨rfl, Nat.le_succ _, .refl _, List.prefix_rfl⟩⟩

theorem inFrame (h : w.Follows v) (f : Frame) :
    (Walk.inFrame f w).Follows fun a => v (a.enter f) := by
  refine ⟨fun a s => ?_, fun a s => h.appends (a.enter f) s⟩
  have hrun : w { Walker.of a s with stack := ((Walker.of a s).stack.enter f).2 } = _ :=
    h.does (a.enter f) s
  unfold Walk.inFrame
  rw [hrun]
  simp [Walker.of, Activation.enter, FrameStack.enter, FrameStack.leave]

theorem inScope (h : w.Follows v) : (Walk.inScope w).Follows fun a => Visit.inScope (v a) := by
  refine ⟨fun a s => ?_, fun a s => ?_⟩
  · have hrun : w { Walker.of a s with scopes := (Walker.of a s).scopes.push } = _ :=
      h.does a { s with scopes := s.scopes.push }
    unfold Walk.inScope
    rw [hrun]
    rfl
  · have hinside := h.appends a { s with scopes := s.scopes.push }
    have hdepth : (v a { s with scopes := s.scopes.push }).2.scopes.depth = s.scopes.depth + 1 :=
      hinside.depth
    have hpop := Scopes.depth_pop (s := (v a { s with scopes := s.scopes.push }).2.scopes)
      (by have := s.scopes.depth_pos; omega)
    refine ⟨?_, hinside.blocks, hinside.roster, hinside.messages⟩
    show (v a { s with scopes := s.scopes.push }).2.scopes.pop.depth = s.scopes.depth
    omega

theorem inFrame_bind {w' : Walk β} {u : Activation → Visit β} {rest : Walk γ}
    {v' : Activation → Visit γ} (h : w.Follows v) (h' : w'.Follows u) (hrest : rest.Follows v')
    (f : Frame) :
    (Walk.inFrame f (w >>= fun _ => w') >>= fun _ => rest).Follows
      fun a => v (a.enter f) >>= fun _ => u (a.enter f) >>= fun _ => v' a :=
  (((h.bind fun _ => h').inFrame f).bind fun _ => hrest).congr fun _ => (bind_assoc _ _ _).symm

theorem inCondition (h : w.Follows v) : (Walk.inCondition w).Follows fun a => v a.inCondition := by
  refine ⟨fun a s => ?_, fun a s => h.appends a.inCondition s⟩
  have hrun : w { Walker.of a s with scope := .condition } = _ := h.does a.inCondition s
  unfold Walk.inCondition
  rw [hrun]
  rfl

theorem inCallee (h : w.Follows v) {c : Call} {a : Activation} {path : CallPath}
    (hpath : a.path.enter c = .entered path) (scopes : Scopes) (callee : ParticipantId)
    (inlined : Bool) (s : Trace) :
    Walk.inCallee path scopes callee inlined w (.of a s) =
        ((Visit.withScopes scopes (v (a.calling path callee inlined)) s).1,
          .of a (Visit.withScopes scopes (v (a.calling path callee inlined)) s).2) ∧
      s.Appends (Visit.withScopes scopes (v (a.calling path callee inlined)) s).2 := by
  have hinside := h.appends (a.calling path callee inlined) { s with scopes }
  refine ⟨?_, rfl, hinside.blocks, hinside.roster, hinside.messages⟩
  unfold Walk.inCallee
  rw [Walker.calling_of, h.does (a.calling path callee inlined)]
  dsimp only
  rw [Walker.back_of hpath]
  rfl

end Follows

end Walk

namespace Tracer

open Walk (Follows)

variable {t : Tracer} {E : Walk.Enter} {E' : Enter} {kind : MessageKind} {target : Target}
variable {args : List Value} {location : Option Location} {text : Option String}
variable {w : Walk Unit} {v : Activation → Visit Unit}

theorem walkSend_does (kind : MessageKind) (certainty : Certainty) (target : Target)
    (location : Option Location) :
    (walkSend kind certainty target location).Does fun a =>
      send a kind certainty target location := by
  intro a s
  show (if s.roster.isVisible a.caller && s.roster.isVisible target.participant then
    _ else _ : Walk _) _ =
    (((if s.roster.isVisible a.caller && s.roster.isVisible target.participant then _
      else _ : Visit _) s).1,
      .of a
        ((if s.roster.isVisible a.caller && s.roster.isVisible target.participant then _
          else _ : Visit _) s).2)
  cases s.roster.isVisible a.caller && s.roster.isVisible target.participant <;> rfl

theorem walkComment_does (sent : Option Nat) (location : Option Location) (text : Option String) :
    (t.walkComment sent location text).Does fun _ => t.comment sent location text := by
  intro a s
  cases sent with
  | none => rfl
  | some i =>
    cases text with
    | none => rfl
    | some text =>
      simp only [walkComment, comment]
      cases t.options.comments with
      | false => rfl
      | true => cases location <;> rfl

theorem walkAnnounce_follows (hkind : kind ≠ .response) (certainty : Certainty) :
    (t.walkAnnounce kind certainty target location text).Follows
      fun a => t.announce a kind certainty target location text := by
  refine ⟨?_, fun a s => ?_⟩
  · refine (walkSend_does kind certainty target location).bind fun sent => ?_
    exact (walkComment_does sent location text).bind fun _ _ _ => rfl
  · cases hv : s.roster.isVisible a.caller && s.roster.isVisible target.participant with
    | false =>
      rw [announce_unseen hv]
      exact .refl s
    | true =>
      obtain ⟨hcaller, htarget⟩ := Bool.and_eq_true_iff.1 hv
      rw [announce_visible hcaller htarget hkind]
      exact .push s _

theorem walkRespond_follows (sender receiver : ParticipantId) (operation : String)
    (location : Option Location) :
    (walkRespond sender receiver operation location).Follows
      fun a => respond a sender receiver operation location :=
  .of_runs fun _ s => ⟨rfl, .push s _⟩

theorem walkDescend_follows (hE : Walk.Enters E E') (target : Target) (args : List Value)
    (inlined : Bool) :
    (walkDescend E target args inlined).Follows fun a => descend E' a target args inlined := by
  unfold walkDescend descend
  cases target.function with
  | none => exact .pure _
  | some f =>
    dsimp only
    cases f.body with
    | none => exact .pure _
    | some body =>
      refine .of_runs fun a s => ?_
      dsimp only
      rw [Walk.get_bind_apply, Walker.path_of]
      cases hpath : a.path.enter (target.participant, target.operation) with
      | recursive => exact ⟨rfl, .refl s⟩
      | tooDeep => exact ⟨rfl, .refl s⟩
      | entered path =>
        obtain ⟨hrun, happends⟩ := (hE f body target.operation).inCallee hpath
          (.forBody target.captured f.params args) target.participant inlined s
        dsimp only
        rw [Agree.run_bind, Agree.run_bind, hrun]
        generalize Visit.withScopes _ _ s = after at happends
        obtain ⟨f | x, s'⟩ := after <;> exact ⟨rfl, happends⟩

theorem walkExternalTarget_follows (t : Tracer) (name : String) :
    (t.walkExternalTarget name).Follows fun _ => t.externalTarget name := by
  unfold walkExternalTarget externalTarget
  cases t.options.unresolved with
  | elide => exact .pure _
  | external =>
    refine (Follows.cast (Casting.intern_adds _)).bind fun participant => .ite (.pure _) ?_
    exact .get_bind fun _ s => ⟨rfl, .refl s⟩

theorem walkAnswer_follows (t : Tracer) (kind : MessageKind) (target : Target) (sent : Option Nat) :
    (t.walkAnswer kind target sent).Follows fun a => t.answer a kind target sent :=
  .ite (.get_bind fun _ s => ⟨rfl, .push s _⟩) (.pure _)

theorem orWalk_follows (h : w.Follows v) (d : Descent) :
    (d.orWalk w).Follows fun a => d.orElse (v a) := by
  cases d with
  | noBody => exact h
  | visited => exact .pure _
  | refused => exact .pure _

theorem walkDeliver_follows (hE : Walk.Enters E E') (hkind : kind ≠ .response)
    (certainty : Certainty) (target : Target) (args : List Value) (location : Option Location)
    (text : Option String) (h : w.Follows v) :
    (t.walkDeliver E kind certainty target args location text w).Follows
      fun a => t.deliver E' a kind certainty target args location text (v a) := by
  have hrest (inlined : Bool) (sent : Option Nat) :=
    (walkDescend_follows hE target args inlined).bind fun d =>
    (orWalk_follows h d).bind fun _ => walkAnswer_follows t kind target sent
  refine .get_bind fun a s => ?_
  let inlined := t.isInlined s.roster target
  exact (Follows.ite (c := inlined = true) ((Follows.pure none).bind (hrest inlined))
    ((walkAnnounce_follows hkind certainty).bind (hrest inlined))).runs a s

theorem walkFollow_follows (hE : Walk.Enters E E') (hkind : kind ≠ .response)
    (resolution : Resolution) (args : List Value) (location : Option Location)
    (text : Option String) (h : w.Follows v) :
    (t.walkFollow E kind resolution args location text w).Follows
      fun a => t.follow E' a kind resolution args location text (v a) := by
  unfold walkFollow follow
  cases resolution with
  | found certainty target =>
    exact walkDeliver_follows hE hkind certainty target args location text h
  | filtered => exact h
  | unresolved name =>
    refine (walkExternalTarget_follows t name).bind fun found => ?_
    cases found with
    | none => exact h
    | some target => exact walkDeliver_follows hE hkind .external target args location text h

theorem walkClosures_follows (hE : Walk.Enters E E') (location : Option Location)
    (values : List Value) :
    (t.walkClosures E location values).Follows fun a => t.callClosures E' a location values := by
  induction values with
  | nil => exact .pure _
  | cons value rest ih =>
    cases value with
    | lambda operator captured =>
      refine (Follows.cast (Casting.resolveValue_adds _ _)).bind fun resolution => ?_
      exact (walkFollow_follows hE (by decide) resolution [] location none (.pure _)).bind fun _ =>
        ih
    | function decl => exact ih
    | unknown => exact ih

theorem walkDispatch_follows (hE : Walk.Enters E E') (hkind : kind ≠ .response)
    (resolution : Resolution) (args : List Value) (location : Option Location)
    (text : Option String) :
    (t.walkDispatch E kind resolution args location text).Follows
      fun a => t.dispatch E' a kind resolution args location text :=
  walkFollow_follows hE hkind resolution args location text (walkClosures_follows hE location args)

theorem dispatched_follows (hE : Walk.Enters E E') {x : Cast Resolution} (hx : x.Adds)
    (hkind : kind ≠ .response) (args : List Value) (location : Option Location)
    (text : Option String) (value : Value) :
    (do
      let resolution ← Walk.cast x
      t.walkDispatch E kind resolution args location text
      return value : Walk Value).Follows fun a => do
        let resolution ← Visit.cast x
        t.dispatch E' a kind resolution args location text
        return value :=
  (Follows.cast hx).bind fun resolution =>
    (walkDispatch_follows hE hkind resolution args location text).bind fun _ => .pure value

mutual

theorem walkExpr_follows (hE : Walk.Enters E E') :
    (e : Expr) → (t.walkExpr E e).Follows fun a => t.visitExpr E' a e
  | .call callee object args location comment => by
    unfold walkExpr visitExpr
    refine (walkCallee_follows hE callee).bind fun value =>
      (walkOption_follows hE object).bind fun _ =>
      (walkArgs_follows hE args).bind fun values => ?_
    cases value with
    | some value =>
      exact dispatched_follows hE (Casting.resolveValue_adds _ _)
        (by decide) values location comment _
    | none =>
      refine .get_bind fun a s => ?_
      exact (dispatched_follows hE (Casting.resolveCallee_adds callee s.scopes)
        (by decide) values location comment _).runs a s
  | .construct cls ctor args location comment => by
    unfold walkExpr visitExpr
    refine (walkArgs_follows hE args).bind fun values => ?_
    exact dispatched_follows hE (Casting.resolveConstruct_adds cls ctor)
      (by decide) _ location comment _
  | .lambda _ _ => .get_bind fun _ s => ⟨rfl, .refl s⟩
  | .coAwait operand awaiter location => by
    unfold walkExpr visitExpr
    refine (walkExpr_follows hE operand).bind fun _ => .of_runs fun a s => ?_
    exact (dispatched_follows hE (Casting.resolveAwaiter_adds awaiter a.caller)
      (by decide) [] location none _).runs a s
  | .coYield operand location => by
    unfold walkExpr visitExpr
    refine (walkExpr_follows hE operand).bind fun _ => .of_runs fun a s => ?_
    rw [Walk.get_bind_apply, Walker.returnTo_of]
    cases a.returnTo with
    | none => exact ⟨rfl, .refl s⟩
    | some receiver =>
      have hyielded := (walkRespond_follows a.caller receiver "co_yield" location).bind fun _ =>
        Follows.pure Value.unknown
      exact (Follows.ite (c := t.options.returnMessages = true) hyielded (.pure _)).runs a s
  | .async launcher callable args location => by
    unfold walkExpr visitExpr
    refine (walkExpr_follows hE callable).bind fun value =>
      (walkArgs_follows hE args).bind fun values => ?_
    exact dispatched_follows hE (Casting.resolveValue_adds value launcher)
      (by decide) values location none _
  | .declRef _ => .pure _
  | .var _ => .get_bind fun _ s => ⟨rfl, .refl s⟩
  | .assign target value => by
    unfold walkExpr visitExpr
    refine (walkExpr_follows hE value).bind fun v => ?_
    exact (Follows.modify_scopes fun scopes => scopes.depth_assign target v).bind fun _ => .pure _
  | .conditional cond yes no text => by
    unfold walkExpr visitExpr
    refine Follows.nextBlock.bind fun block => ?_
    refine .inFrame_bind (walkExpr_follows hE cond).inCondition (walkExpr_follows hE yes) ?_ _
    exact ((walkExpr_follows hE no).inFrame _).bind fun _ => .pure _
  | .other children => (walkArgs_follows hE children).bind fun _ => .pure _

theorem walkCallee_follows (hE : Walk.Enters E E') :
    (callee : Callee) → (t.walkCallee E callee).Follows fun a => t.visitCallee E' a callee
  | .expr e => (walkExpr_follows hE e).bind fun _ => .pure _
  | .decl _ _ _ => .pure _
  | .var _ => .pure _
  | .unresolved _ _ => .pure _

theorem walkOption_follows (hE : Walk.Enters E E') :
    (e : Option Expr) → (t.walkOption E e).Follows fun a => t.visitOption E' a e
  | none => .pure _
  | some e => (walkExpr_follows hE e).bind fun _ => .pure _

theorem walkArgs_follows (hE : Walk.Enters E E') :
    (es : List Expr) → (t.walkArgs E es).Follows fun a => t.visitArgs E' a es
  | [] => .pure _
  | e :: rest => (walkExpr_follows hE e).bind fun _ => (walkArgs_follows hE rest).bind fun _ =>
    .pure _

end

theorem walkCondition_follows (hE : Walk.Enters E E') (e : Expr) :
    (t.walkCondition E e).Follows fun a => t.visitCondition E' a e :=
  (walkExpr_follows hE e).inCondition.bind fun _ => .pure _

theorem walkConditionOption_follows (hE : Walk.Enters E E') (e : Option Expr) :
    (t.walkConditionOption E e).Follows fun a => t.visitConditionOption E' a e := by
  cases e with
  | none => exact .pure _
  | some e => exact walkCondition_follows hE e

theorem declared_follows (name : String) (v : Value) :
    (do
      modify fun x => { x with scopes := x.scopes.bind name v }
      return .goOn : Walk Flow).Follows fun _ => do
        modify fun s => { s with scopes := s.scopes.bind name v }
        return .goOn :=
  (Follows.modify_scopes fun scopes => (rfl : (scopes.bind name v).depth = scopes.depth)).bind
    fun _ => .pure _

structure Walked (t : Tracer) (E : Walk.Enter) (E' : Enter) (x : Stmt) : Prop where
  alone : (t.walkStmt E x).Follows fun a => t.visitStmt E' a x
  hanging : ∀ block kind total index, (t.walkElse E block kind total index (some x)).Follows
    fun a => t.visitElse E' a block kind total index (some x)

theorem Walked.plain {x : Stmt} (hx : Law.Stmt.isIf x = false)
    (h : (t.walkStmt E x).Follows fun a => t.visitStmt E' a x) : Walked t E E' x := by
  refine ⟨h, fun block kind total index => ?_⟩
  have hlast := (h.inFrame (.branch block kind index total (t.caption (some "else")))).bind fun _ =>
    Follows.pure ()
  cases x with
  | ifElse => cases hx
  | _ => exact hlast

mutual

theorem stmt_walked (hE : Walk.Enters E E') : (x : Stmt) → Walked t E E' x
  | .block body => .plain rfl (walkBlock_follows hE body).inScope
  | .expr e => .plain rfl ((walkExpr_follows hE e).bind fun _ => .pure _)
  | .declare name none => .plain rfl <| by
    unfold walkStmt visitStmt
    exact (Follows.pure Value.unknown).bind (declared_follows name)
  | .declare name (some e) => .plain rfl <| by
    unfold walkStmt visitStmt
    exact (walkExpr_follows hE e).bind (declared_follows name)
  | .ifElse cond yes no atCompileTime text => by
    have hthen := (stmt_walked hE yes).alone
    refine ⟨?_, fun block kind total index => ?_⟩
    · unfold walkStmt visitStmt
      refine Follows.nextBlock.bind fun block => ?_
      refine .inFrame_bind (walkCondition_follows hE cond) hthen ?_ _
      exact (walkElse_follows hE block _ _ 1 no).bind fun _ => .pure _
    · unfold walkElse visitElse
      refine .inFrame_bind (walkCondition_follows hE cond) hthen ?_ _
      exact walkElse_follows hE block kind total (index + 1) no
  | .switch cond [] text => .plain rfl <| by
    unfold walkStmt visitStmt
    exact Follows.nextBlock.bind fun block => (walkCondition_follows hE cond).bind fun _ => .pure _
  | .switch cond (⟨label, body⟩ :: rest) text => .plain rfl <| by
    unfold walkStmt visitStmt
    refine Follows.nextBlock.bind fun block => ?_
    refine .inFrame_bind (walkCondition_follows hE cond) (walkBlock_follows hE body).inScope ?_ _
    exact (walkCases_follows hE block _ 1 rest).bind fun _ => .pure _
  | .whileLoop cond body text => .plain rfl <| by
    unfold walkStmt visitStmt
    refine Follows.nextBlock.bind fun block => ?_
    exact .inFrame_bind (walkCondition_follows hE cond) (stmt_walked hE body).alone (.pure _) _
  | .doLoop body cond text => .plain rfl <| by
    unfold walkStmt visitStmt
    refine Follows.nextBlock.bind fun block => ?_
    exact .inFrame_bind (stmt_walked hE body).alone (walkCondition_follows hE cond) (.pure _) _
  | .forLoop first cond step body text => .plain rfl <| by
    unfold walkStmt visitStmt
    refine Follows.inScope
      ((walkFirst_follows hE first).bind fun _ => Follows.nextBlock.bind fun block => ?_)
    refine (Follows.inFrame_bind (walkConditionOption_follows hE cond)
        ((stmt_walked hE body).alone.bind fun _ =>
      walkOption_follows hE step) (.pure _) _).congr fun a => ?_
    simp only [bind_assoc]
  | .forEach range body text => .plain rfl <| by
    unfold walkStmt visitStmt
    refine (walkExpr_follows hE range).bind fun _ => Follows.nextBlock.bind fun block => ?_
    exact ((stmt_walked hE body).alone.inFrame _).bind fun _ => .pure _
  | .tryCatch body handlers => .plain rfl <| by
    unfold walkStmt visitStmt
    refine (stmt_walked hE body).alone.bind fun flow => Follows.nextBlock.bind fun block => ?_
    exact (walkHandlers_follows hE block 0 handlers).bind fun _ => .pure flow
  | .ret value => .plain rfl ((walkOption_follows hE value).bind fun _ => .pure _)
  | .coReturn value => .plain rfl ((walkOption_follows hE value).bind fun _ => .pure _)
  | .breakOut => .plain rfl (.pure _)
  | .continueOn => .plain rfl (.pure _)
  | .skip => .plain rfl (.pure _)

theorem walkBlock_follows (hE : Walk.Enters E E') :
    (body : List Stmt) → (t.walkBlock E body).Follows fun a => t.visitBlock E' a body
  | [] => .pure _
  | x :: rest => by
    unfold walkBlock visitBlock
    refine (stmt_walked hE x).alone.bind fun flow => ?_
    cases flow with
    | exit => exact .pure _
    | goOn => exact walkBlock_follows hE rest

theorem walkElse_follows (hE : Walk.Enters E E') (block : Nat) (kind : BranchKind)
    (total index : Nat) :
    (no : Option Stmt) →
      (t.walkElse E block kind total index no).Follows fun a =>
      t.visitElse E' a block kind total index no
  | none => .pure _
  | some x => (stmt_walked hE x).hanging block kind total index

theorem walkCases_follows (hE : Walk.Enters E E') (block total index : Nat) :
    (cases : List Case) →
      (t.walkCases E block total index cases).Follows fun a =>
      t.visitCases E' a block total index cases
  | [] => .pure _
  | ⟨_, body⟩ :: rest =>
    ((walkBlock_follows hE body).inScope.inFrame _).bind fun _ =>
      walkCases_follows hE block total (index + 1) rest

theorem walkHandlers_follows (hE : Walk.Enters E E') (block index : Nat) :
    (handlers : List Handler) →
      (t.walkHandlers E block index handlers).Follows fun a =>
      t.visitHandlers E' a block index handlers
  | [] => .pure _
  | ⟨_, body⟩ :: rest =>
    ((stmt_walked hE body).alone.inFrame _).bind fun _ =>
      walkHandlers_follows hE block (index + 1) rest

theorem walkFirst_follows (hE : Walk.Enters E E') :
    (first : Option Stmt) → (t.walkFirst E first).Follows fun a => t.visitFirst E' a first
  | none => .pure _
  | some x => (stmt_walked hE x).alone.bind fun _ => .pure _

end

theorem walkBody_follows (hE : Walk.Enters E E') (f : Function) (body : Stmt) (operation : String) :
    (t.walkBody E f body operation).Follows fun a => t.visitBody E' a f body operation := by
  have hbody := (stmt_walked (t := t) hE body).alone
  refine .ite (Follows.nextBlock.bind fun block => ?_) (hbody.bind fun _ => .pure _)
  exact (hbody.inFrame _).bind fun _ => .pure _

theorem walkInto_enters (t : Tracer) (room : Nat) :
    Walk.Enters (t.walkInto room) (t.enterAt room) := by
  induction room with
  | zero => exact fun _ _ _ => .pure _
  | succ room ih => exact fun f body operation => walkBody_follows ih f body operation

theorem send_cases (a : Activation) (kind : MessageKind) (certainty : Certainty) (target : Target)
    (location : Option Location) (s : Trace) :
    send a kind certainty target location s = (.ok none, s) ∨
    ∃ m : Message, m.kind = kind ∧ m.location = location ∧
      send a kind certainty target location s = (.ok (some s.interaction.size), s.push m) := by
  have hsend : send a kind certainty target location s =
      (if s.roster.isVisible a.caller && s.roster.isVisible target.participant then _
        else _ : Visit _) s := rfl
  rw [hsend]
  cases s.roster.isVisible a.caller && s.roster.isVisible target.participant with
  | false => exact .inl rfl
  | true => exact .inr ⟨_, rfl, rfl, rfl⟩

theorem walkSend_noted {x y : Walker} {certainty : Certainty} {site : Location} {i : Nat}
    (hkind : kind ≠ .response)
    (h : walkSend kind certainty target (some site) x = (.ok (some i), y)) :
    ∃ m, y.interaction = x.interaction.push m ∧ i = x.interaction.size ∧
      ∀ text, y.interaction.attachNote? site text =
        some (x.interaction.push { m with note := some (Text.trim text) }) := by
  have hsent : walkSend kind certainty target (some site) x = _ :=
    walkSend_does kind certainty target (some site) x.activation x.trace
  rw [hsent] at h
  dsimp only at h
  rcases send_cases x.activation kind certainty target (some site) x.trace with hnone
    | ⟨m, hm, hlocation, hsome⟩
  · rw [hnone] at h
    cases h
  · rw [hsome] at h
    cases h
    have hcall : m.isResponse = false := by simpa [Message.isResponse, hm] using hkind
    have hsite : m.isAt site = true := by
      rw [Message.isAt, hlocation]
      exact site.same_refl
    exact ⟨m, rfl, rfl, Interaction.attachNote?_push hcall hsite⟩

end Tracer

/-- The other walker stands where this one does and has recorded more. -/
structure Walker.Restored (x y : Walker) : Prop where
  frames : y.stack.frames = x.stack.frames
  path : y.path = x.path
  caller : y.caller = x.caller
  returnTo : y.returnTo = x.returnTo
  scope : y.scope = x.scope
  inlined : y.inlined = x.inlined
  depth : y.scopes.depth = x.scopes.depth
  blocks : x.stack.blocks ≤ y.stack.blocks
  roster : x.roster.Extends y.roster
  messages : x.interaction.messages.toList <+: y.interaction.messages.toList

structure Walker.Walks (x : Walker) (w : Walk α) (v : Visit α) : Prop where
  same : w x = ((v x.trace).1, .of x.activation (v x.trace).2)
  restored : x.Restored (w x).2

theorem Walk.Follows.walks {w : Walk α} {v : Activation → Visit α} (h : w.Follows v) (x : Walker) :
    x.Walks w (v x.activation) := by
  have hsame : w x = _ := h.does x.activation x.trace
  have happends := h.appends x.activation x.trace
  refine ⟨hsame, ?_⟩
  rw [hsame]
  exact ⟨rfl, rfl, rfl, rfl, rfl, rfl, happends.depth, happends.blocks,
    happends.roster, happends.messages⟩

namespace Tracer

/-- Whatever code a walker comes through, and also if that fails, it stands where it stood before,
with as many scopes; no number of a block is given out again, nobody leaves the roster, and what was
sent before is still there unchanged. A note that is put to a call from a place in the source is put
to the call just sent. -/
theorem walks_restore (t : Tracer) (room : Nat) (x : Walker) :
    (∀ stmt, x.Walks (t.walkStmt (t.walkInto room) stmt)
      (t.visitStmt (t.enterAt room) x.activation stmt)) ∧
    (∀ e, x.Walks (t.walkExpr (t.walkInto room) e) (t.visitExpr (t.enterAt room) x.activation e)) ∧
    (∀ e, x.Walks (t.walkCondition (t.walkInto room) e)
      (t.visitCondition (t.enterAt room) x.activation e)) ∧
    (∀ kind resolution args location text, kind ≠ .response →
      x.Walks (t.walkDispatch (t.walkInto room) kind resolution args location text)
        (t.dispatch (t.enterAt room) x.activation kind resolution args location text)) ∧
    (∀ target args inlined, x.Walks (walkDescend (t.walkInto room) target args inlined)
      (descend (t.enterAt room) x.activation target args inlined)) ∧
    ∀ kind certainty target site i y, kind ≠ .response →
      walkSend kind certainty target (some site) x = (.ok (some i), y) →
      ∃ m, y.interaction = x.interaction.push m ∧ i = x.interaction.size ∧
        ∀ text, y.interaction.attachNote? site text =
          some (x.interaction.push { m with note := some (Text.trim text) }) := by
  have hE := t.walkInto_enters room
  refine ⟨fun stmt => (stmt_walked hE stmt).alone.walks x, fun e => (walkExpr_follows hE e).walks x,
    fun e => (walkCondition_follows hE e).walks x, ?_, ?_, ?_⟩
  · intro kind resolution args location text hkind
    exact (walkDispatch_follows hE hkind resolution args location text).walks x
  · intro target args inlined
    exact (walkDescend_follows hE target args inlined).walks x
  · intro kind certainty target site i y hkind h
    exact walkSend_noted hkind h

end Tracer

namespace Sample

def walker : Walker where
  stack := ⟨[.loop 4 .whileLoop none], 5⟩
  path := { maxDepth := none, calls := [(⟨1⟩, "run()")] }
  scopes := .empty
  caller := ⟨1⟩
  returnTo := none
  scope := .condition
  inlined := 0
  roster := (tracer.casting.intern (.decl run) {}).2
  interaction := {}

def failing : Stmt :=
  .ifElse (call 2 []) (.block [.expr (call 9 [])]) none false none

def itself : Target where
  participant := ⟨1⟩
  function := none
  operation := "run()"
  captured := none

end Sample

theorem Tracer.walks_restore_sample :
    (Sample.tracer.walkStmt (Sample.tracer.walkInto 5) Sample.failing Sample.walker).1 =
      .error (.malformed (.unknownDecl 9)) ∧
    (Sample.tracer.walkStmt (Sample.tracer.walkInto 5)
      Sample.failing Sample.walker).2.interaction.size = 6 ∧
    Sample.walker.Restored
      (Sample.tracer.walkStmt (Sample.tracer.walkInto 5) Sample.failing Sample.walker).2 ∧
    MessageKind.call ≠ .response ∧
    Sample.walker.Restored (Sample.tracer.walkDispatch (Sample.tracer.walkInto 5) .call
      (.found .exact Sample.itself) [] none (some "again") Sample.walker).2 ∧
    ∃ y, walkSend .call .exact Sample.itself (some ⟨⟨"a.cc"⟩, 1, 1⟩) Sample.walker =
      (.ok (some 0), y) ∧ ∃ m, y.interaction = Sample.walker.interaction.push m ∧
        y.interaction.attachNote? ⟨⟨"a.cc"⟩, 1, 1⟩ " again " =
          some (Sample.walker.interaction.push { m with note := some (Text.trim " again ") }) := by
  have hcall : MessageKind.call ≠ .response := by decide
  have hrestores := walks_restore Sample.tracer 5 Sample.walker
  obtain ⟨hstmt, -, -, hdispatch, -, hsend⟩ := hrestores
  have hsent : walkSend .call .exact Sample.itself (some ⟨⟨"a.cc"⟩, 1, 1⟩) Sample.walker =
      (.ok (some 0),
        (walkSend .call .exact Sample.itself (some ⟨⟨"a.cc"⟩, 1, 1⟩) Sample.walker).2) :=
    Prod.ext (by decide +kernel) rfl
  obtain ⟨m, hpushed, -, hnoted⟩ := hsend _ _ _ _ _ _ hcall hsent
  exact ⟨by decide +kernel, by decide +kernel, (hstmt Sample.failing).restored, hcall,
    (hdispatch _ _ _ _ _ hcall).restored, _, hsent, m, hpushed, hnoted _⟩

end Lifeline
