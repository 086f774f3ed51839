import Lifeline.Proofs.Noninterference

namespace Lifeline

mutual

/-- Nothing is executed after the statement in the list where it stands. -/
def Stmt.exits : Stmt → Bool
  | .block body => Stmt.anyExits body
  | .tryCatch body _ => body.exits
  | .ret _ => true
  | .coReturn _ => true
  | .breakOut => true
  | .continueOn => true
  | _ => false

def Stmt.anyExits : List Stmt → Bool
  | [] => false
  | x :: rest => x.exits || Stmt.anyExits rest

end

mutual

/-- The statement without dead code, at every level of nesting. -/
def Stmt.pruned : Stmt → Stmt
  | .block body => .block (Stmt.prunedList body)
  | .expr e => .expr e
  | .declare name value => .declare name value
  | .ifElse cond yes no atCompileTime text =>
    .ifElse cond yes.pruned (Stmt.prunedOption no) atCompileTime text
  | .switch cond cases text => .switch cond (Case.prunedList cases) text
  | .whileLoop cond body text => .whileLoop cond body.pruned text
  | .doLoop body cond text => .doLoop body.pruned cond text
  | .forLoop first cond step body text =>
    .forLoop (Stmt.prunedOption first) cond step body.pruned text
  | .forEach range body text => .forEach range body.pruned text
  | .tryCatch body handlers => .tryCatch body.pruned (Handler.prunedList handlers)
  | .ret value => .ret value
  | .coReturn value => .coReturn value
  | .breakOut => .breakOut
  | .continueOn => .continueOn
  | .skip => .skip

def Stmt.prunedList : List Stmt → List Stmt
  | [] => []
  | x :: rest => x.pruned :: if x.exits then [] else Stmt.prunedList rest

def Stmt.prunedOption : Option Stmt → Option Stmt
  | none => none
  | some x => some x.pruned

def Case.prunedList : List Case → List Case
  | [] => []
  | ⟨label, body⟩ :: rest => ⟨label, Stmt.prunedList body⟩ :: Case.prunedList rest

def Handler.prunedList : List Handler → List Handler
  | [] => []
  | ⟨exception, body⟩ :: rest => ⟨exception, body.pruned⟩ :: Handler.prunedList rest

end

def Function.pruned (f : Function) : Function :=
  { f with body := Stmt.prunedOption f.body }

def Decl.pruned (d : Decl) : Decl :=
  { d with kind := match d.kind with
    | .record info => .record info
    | .function f => .function f.pruned }

def Program.pruned (p : Program) : Program :=
  ⟨p.decls.map Decl.pruned⟩

def Casting.pruned (c : Casting) : Casting :=
  { c with program := c.program.pruned }

def Tracer.pruned (t : Tracer) : Tracer :=
  t.recast t.casting.pruned

namespace Stmt

theorem isIf_pruned (x : Stmt) : Law.Stmt.isIf x.pruned = Law.Stmt.isIf x := by
  cases x <;> simp [pruned, Law.Stmt.isIf]

theorem alternatives_pruned (no : Option Stmt) :
    alternatives (prunedOption no) = alternatives no := by
  fun_induction alternatives no with
  | case1 => simp [prunedOption, alternatives]
  | case2 _ _ no _ _ ih => simp [prunedOption, pruned, alternatives, ih]
  | case3 x hx =>
    cases x with
    | ifElse cond yes no atCompileTime text => exact absurd rfl (hx cond yes no atCompileTime text)
    | _ => simp [prunedOption, pruned, alternatives]

theorem anyAtCompileTime_pruned (no : Option Stmt) :
    anyAtCompileTime (prunedOption no) = anyAtCompileTime no := by
  fun_induction anyAtCompileTime no with
  | case1 _ _ no _ _ ih => simp [prunedOption, pruned, anyAtCompileTime, ih]
  | case2 no hno =>
    cases no with
    | none => simp [prunedOption, anyAtCompileTime]
    | some x =>
      cases x with
      | ifElse cond yes no atCompileTime text =>
        exact absurd rfl (hno cond yes no atCompileTime text)
      | _ => simp [prunedOption, pruned, anyAtCompileTime]

end Stmt

theorem Case.length_prunedList (cases : List Case) :
    (Case.prunedList cases).length = cases.length := by
  induction cases with
  | nil => rfl
  | cons c rest ih =>
    cases c
    simp [prunedList, ih]

namespace Decl

variable (d : Decl)

theorem function?_pruned : d.pruned.function? = d.function?.map Function.pruned := by
  unfold function? pruned
  cases d.kind <;> rfl

theorem bodiless_pruned : d.pruned.bodiless = d.bodiless := by
  cases hkind : d.kind <;> simp [bodiless, pruned, hkind, Function.bodiless, Function.pruned]

end Decl

namespace Program

variable {p : Program} {d : Decl} {id : DeclId}

theorem get?_pruned : p.pruned.get? id = (p.get? id).map Decl.pruned := by
  simp only [get?, pruned, List.find?_map]
  rfl

theorem decl_pruned : p.pruned.decl id = (p.decl id).map Decl.pruned := by
  unfold decl
  rw [get?_pruned]
  cases p.get? id <;> rfl

theorem function_pruned :
    p.pruned.function id = (p.function id).map (Prod.map Decl.pruned Function.pruned) := by
  unfold function
  rw [decl_pruned]
  cases p.decl id with
  | error f => rfl
  | ok d =>
    simp only [Except.map, bind, Except.bind, Decl.function?_pruned]
    cases d.function? <;> rfl

theorem Declares.pruned (h : p.Declares d) : p.pruned.Declares d.pruned := by
  show p.pruned.get? d.id = some d.pruned
  rw [get?_pruned, h]
  rfl

theorem bodiless_pruned : p.pruned.bodiless = p.bodiless := by
  simp [bodiless, pruned, Decl.bodiless_pruned]

end Program

def Target.pruned (x : Target) : Target :=
  { x with function := x.function.map Function.pruned }

def Resolution.pruned : Resolution → Resolution
  | .found certainty target => .found certainty target.pruned
  | .unresolved name => .unresolved name
  | .filtered => .filtered

namespace Casting

variable (c : Casting)

theorem internDecl_pruned {d : Decl} (hd : c.program.Declares d) (args : List String) :
    c.pruned.internDecl d.pruned args = c.internDecl d args := by
  have hbodiless : c.pruned.bodiless = c.bodiless := by
    simp only [bodiless, pruned, Program.bodiless_pruned]
  exact internDecl_congr hbodiless hd.pruned hd d.bodiless_pruned

theorem target_pruned (e e' : Entity) (h : c.pruned.intern e' = c.intern e) (certainty : Certainty)
    (function : Option Function) (captured : Option Bindings) :
    c.pruned.target certainty e' (function.map Function.pruned) captured =
      Resolution.pruned <$> c.target certainty e function captured := by
  unfold target
  rw [h, map_bind]
  refine bind_congr fun p => ?_
  split
  · rfl
  · rfl

theorem call_pruned (id : DeclId) (args : List String) (certainty : Certainty)
    (captured : Option Bindings) :
    ((liftM (c.pruned.program.function id) : Cast (Decl × Function)) >>=
      fun df => c.pruned.target certainty
      (if args.isEmpty then .decl df.1 else .instantiation df.1 args) (some df.2) captured) =
    Resolution.pruned <$> ((liftM (c.program.function id) : Cast (Decl × Function)) >>= fun df =>
      c.target certainty (if args.isEmpty then .decl df.1 else .instantiation df.1 args)
          (some df.2) captured) := by
  rw [show c.pruned.program = c.program.pruned from rfl, Program.function_pruned]
  cases hfound : c.program.function id with
  | error f => rfl
  | ok df =>
    obtain ⟨d, f⟩ := df
    have hd : c.program.Declares d := (Casting.function_eq_ok hfound).1
    have hintern :
      c.pruned.intern (if args.isEmpty then .decl d.pruned else .instantiation d.pruned args) =
        c.intern (if args.isEmpty then .decl d else .instantiation d args) := by
      cases args.isEmpty with
      | true => exact c.internDecl_pruned hd []
      | false => exact c.internDecl_pruned hd _
    exact c.target_pruned _ _ hintern certainty (some f) captured

theorem resolveDecl_pruned (id : DeclId) (args : List String) (dispatch : Dispatch)
    (captured : Option Bindings) :
    c.pruned.resolveDecl id args dispatch captured =
      Resolution.pruned <$> c.resolveDecl id args dispatch captured :=
  c.call_pruned id args (certaintyOf dispatch) captured

theorem resolveValue_pruned (v : Value) (name : String) :
    c.pruned.resolveValue v name = Resolution.pruned <$> c.resolveValue v name := by
  cases v with
  | lambda operator captured => exact c.resolveDecl_pruned operator [] .static (some captured)
  | function id => exact c.resolveDecl_pruned id [] .static none
  | unknown => rfl

theorem resolveCallee_pruned (callee : Callee) (x : Scopes) :
    c.pruned.resolveCallee callee x = Resolution.pruned <$> c.resolveCallee callee x := by
  cases callee with
  | decl id args dispatch => exact c.resolveDecl_pruned id args dispatch none
  | var name =>
    unfold resolveCallee
    dsimp only
    cases x.get? name with
    | some v => exact c.resolveValue_pruned v name
    | none => rfl
  | unresolved name template =>
    cases template with
    | some id => exact c.call_pruned id [] .approximate none
    | none => rfl
  | expr e => rfl

theorem resolveConstruct_pruned (cls : DeclId) (ctor : Option DeclId) :
    c.pruned.resolveConstruct cls ctor = Resolution.pruned <$> c.resolveConstruct cls ctor := by
  cases ctor with
  | some id => exact c.resolveDecl_pruned id [] .static none
  | none =>
    unfold resolveConstruct
    dsimp only
    rw [show c.pruned.program = c.program.pruned from rfl, Program.decl_pruned]
    cases hfound : c.program.decl cls with
    | error f => rfl
    | ok d =>
      have hd : c.program.Declares d :=
        (Program.declares_of_get? (Program.decl_eq_ok_iff.1 hfound)).1
      exact c.target_pruned (.decl d) (.decl d.pruned) (c.internDecl_pruned hd []) .exact none none

theorem resolveAwaiter_pruned (awaiter : Option DeclId) (p : ParticipantId) :
    c.pruned.resolveAwaiter awaiter p = Resolution.pruned <$> c.resolveAwaiter awaiter p := by
  cases awaiter with
  | some id => exact c.resolveDecl_pruned id [] .static none
  | none =>
    simp only [resolveAwaiter, map_bind]
    rfl

end Casting

def Enter.Prunes (E E' : Enter) : Prop :=
  ∀ a f body operation, E' a f.pruned body.pruned operation = E a f body operation

theorem Visit.cast_map_bind (x : Cast α) (g : α → β) (k : β → Visit γ) :
    (Visit.cast (g <$> x) >>= k) = Visit.cast x >>= fun y => k (g y) := by
  funext s
  have hmap : (g <$> x) s.roster = ((x s.roster).1.map g, (x s.roster).2) := by
    rw [map_eq_pure_bind, Agree.run_bind]
    rcases x s.roster with ⟨_ | _, _⟩ <;> rfl
  simp only [Agree.run_bind, Visit.cast, hmap]
  rcases x s.roster with ⟨_ | _, _⟩ <;> rfl

namespace Tracer

variable {t : Tracer} {E E' : Enter}

theorem options_pruned : t.pruned.options = t.options := rfl

theorem caption_pruned (text : Option String) : t.pruned.caption text = t.caption text := rfl

theorem descend_pruned (hE : E.Prunes E') (a : Activation) (x : Target) (args : List Value)
    (inlined : Bool) : descend E' a x.pruned args inlined = descend E a x args inlined := by
  obtain ⟨p, function, operation, captured⟩ := x
  cases function with
  | none => rfl
  | some f =>
    cases hbody : f.body with
    | none =>
      simp only [descend, Target.pruned, Option.map_some, Function.pruned, hbody, Stmt.prunedOption]
    | some body =>
      have hbody' : f.pruned.body = some body.pruned := by
        simp only [Function.pruned, hbody, Stmt.prunedOption]
      simp only [descend, Target.pruned, Option.map_some, hbody, hbody', hE _ f body]
      rfl

theorem deliver_pruned (hE : E.Prunes E') (a : Activation) (kind : MessageKind)
    (certainty : Certainty) (x : Target) (args : List Value) (location : Option Location)
    (text : Option String) (unvisited : Visit Unit) :
    t.pruned.deliver E' a kind certainty x.pruned args location text unvisited =
      t.deliver E a kind certainty x args location text unvisited := by
  simp only [deliver, descend_pruned hE]
  rfl

theorem follow_pruned (hE : E.Prunes E') (a : Activation) (kind : MessageKind) (res : Resolution)
    (args : List Value) (location : Option Location) (text : Option String)
    (unvisited : Visit Unit) :
    t.pruned.follow E' a kind res.pruned args location text unvisited =
      t.follow E a kind res args location text unvisited := by
  cases res with
  | found certainty x => exact deliver_pruned hE a kind certainty x args location text unvisited
  | filtered => rfl
  | unresolved name =>
    cases hpolicy : t.options.unresolved with
    | elide => simp only [follow, Resolution.pruned, externalTarget, hpolicy, pruned, pure_bind]
    | external =>
      simp only [follow, Resolution.pruned, externalTarget, hpolicy, pruned, bind_assoc]
      refine bind_congr fun p => ?_
      split
      · simp only [pure_bind]
      · simp only [bind_assoc, pure_bind]
        -- A callee that is known by name only has no body.
        exact bind_congr fun s =>
          deliver_pruned hE a kind .external ⟨p, none, s.roster.operation p, none⟩ args location
            text unvisited

theorem ask_pruned (hE : E.Prunes E') {R R' : Cast Resolution} (hR : R' = Resolution.pruned <$> R)
    (a : Activation) (kind : MessageKind) (args : List Value) (location : Option Location)
    (text : Option String) {unvisited unvisited' : Visit Unit} (hu : unvisited' = unvisited) :
    (Visit.cast R' >>= fun res => t.pruned.follow E' a kind res args location text unvisited') =
      Visit.cast R >>= fun res => t.follow E a kind res args location text unvisited := by
  rw [hR, hu, Visit.cast_map_bind]
  exact bind_congr fun res => follow_pruned hE a kind res args location text unvisited

theorem callClosures_pruned (hE : E.Prunes E') (a : Activation) (location : Option Location)
    (args : List Value) :
    t.pruned.callClosures E' a location args = t.callClosures E a location args := by
  induction args with
  | nil => rfl
  | cons v rest ih =>
    cases v with
    | lambda operator captured =>
      have hask :=
        ask_pruned (t := t) hE (t.casting.resolveValue_pruned (.lambda operator captured) "lambda")
          a .call
        [] location none (rfl : (pure () : Visit Unit) = pure ())
      simp only [callClosures, ih, ← bind_assoc]
      exact congrArg (· >>= fun _ => t.callClosures E a location rest) hask
    | function id => exact ih
    | unknown => exact ih

theorem dispatch_pruned (hE : E.Prunes E') {R R' : Cast Resolution}
    (hR : R' = Resolution.pruned <$> R) (a : Activation) (kind : MessageKind) (args : List Value)
    (location : Option Location) (text : Option String) (v : Value) :
    (do
      let res ← Visit.cast R'
      t.pruned.dispatch E' a kind res args location text
      return v : Visit Value) =
      (do let res ← Visit.cast R; t.dispatch E a kind res args location text; return v) := by
  have hask := ask_pruned (t := t) hE hR a kind args location text
    (callClosures_pruned (t := t) hE a location args)
  simp only [dispatch, ← bind_assoc]
  exact congrArg (· >>= fun _ => pure v) hask

mutual

theorem visitExpr_pruned (hE : E.Prunes E') (a : Activation) : (e : Expr) →
    t.pruned.visitExpr E' a e = t.visitExpr E a e
  | .call callee object args location comment => by
    unfold visitExpr
    rw [visitCallee_pruned hE a callee, visitOption_pruned hE a object, visitArgs_pruned hE a args]
    refine bind_congr fun value => bind_congr fun _ => bind_congr fun values => ?_
    cases value with
    | some v =>
      exact dispatch_pruned hE (t.casting.resolveValue_pruned v _)
        a .call values location comment .unknown
    | none =>
      exact bind_congr fun s => dispatch_pruned hE (t.casting.resolveCallee_pruned callee s.scopes)
        a .call values location comment .unknown
  | .construct cls ctor args location comment => by
    unfold visitExpr
    rw [visitArgs_pruned hE a args]
    exact bind_congr fun values => dispatch_pruned hE (t.casting.resolveConstruct_pruned cls ctor)
      a .call _ location comment _
  | .lambda _ _ => rfl
  | .coAwait operand awaiter location => by
    unfold visitExpr
    rw [visitExpr_pruned hE a operand]
    exact bind_congr fun _ => dispatch_pruned hE (t.casting.resolveAwaiter_pruned awaiter a.caller)
      a .coAwait [] location none .unknown
  | .coYield operand location => by
    unfold visitExpr
    rw [visitExpr_pruned hE a operand, options_pruned]
  | .async launcher callable args location => by
    unfold visitExpr
    rw [visitExpr_pruned hE a callable, visitArgs_pruned hE a args]
    exact bind_congr fun v => bind_congr fun values =>
      dispatch_pruned hE (t.casting.resolveValue_pruned v launcher) a
      .asyncCall values location none .unknown
  | .declRef _ => rfl
  | .var _ => rfl
  | .assign target value => by
    unfold visitExpr
    rw [visitExpr_pruned hE a value]
  | .conditional cond yes no text => by
    unfold visitExpr
    refine bind_congr fun block => ?_
    simp only [caption_pruned, visitExpr_pruned hE _ cond, visitExpr_pruned hE _ yes,
      visitExpr_pruned hE _ no]
  | .other children => by
    unfold visitExpr
    rw [visitArgs_pruned hE a children]

theorem visitCallee_pruned (hE : E.Prunes E') (a : Activation) : (callee : Callee) →
    t.pruned.visitCallee E' a callee = t.visitCallee E a callee
  | .expr e => by
    unfold visitCallee
    rw [visitExpr_pruned hE a e]
  | .decl _ _ _ => rfl
  | .var _ => rfl
  | .unresolved _ _ => rfl

theorem visitOption_pruned (hE : E.Prunes E') (a : Activation) : (e : Option Expr) →
    t.pruned.visitOption E' a e = t.visitOption E a e
  | none => rfl
  | some e => by
    unfold visitOption
    rw [visitExpr_pruned hE a e]

theorem visitArgs_pruned (hE : E.Prunes E') (a : Activation) : (es : List Expr) →
    t.pruned.visitArgs E' a es = t.visitArgs E a es
  | [] => rfl
  | e :: rest => by
    unfold visitArgs
    rw [visitExpr_pruned hE a e, visitArgs_pruned hE a rest]

end

theorem visitCondition_pruned (hE : E.Prunes E') (a : Activation) (e : Expr) :
    t.pruned.visitCondition E' a e = t.visitCondition E a e := by
  unfold visitCondition
  rw [visitExpr_pruned hE a.inCondition e]

theorem visitConditionOption_pruned (hE : E.Prunes E') (a : Activation) (e : Option Expr) :
    t.pruned.visitConditionOption E' a e = t.visitConditionOption E a e := by
  cases e with
  | none => rfl
  | some e => exact visitCondition_pruned hE a e

def Leaves (v : Visit Flow) : Prop :=
  ∀ s, (v s).1 ≠ .ok .goOn

theorem Leaves.exit : Leaves (pure .exit) := by
  rintro s ⟨⟩

theorem Leaves.bind {v : Visit α} {k : α → Visit Flow} (hk : ∀ x, Leaves (k x)) :
    Leaves (v >>= k) := by
  intro s
  rw [Agree.run_bind]
  rcases v s with ⟨f | x, s'⟩
  · rintro ⟨⟩
  · exact hk x s'

theorem Leaves.inScope {v : Visit Flow} (h : Leaves v) : Leaves (Visit.inScope v) :=
  fun s => h { s with scopes := s.scopes.push }

theorem Leaves.bind_congr {v : Visit Flow} (h : Leaves v) (k l : Flow → Visit α)
    (hexit : k .exit = l .exit) : (v >>= k) = v >>= l := by
  funext s
  rw [Agree.run_bind, Agree.run_bind]
  rcases hv : v s with ⟨f | flow, s'⟩
  · rfl
  · cases flow with
    | exit => exact congrFun hexit s'
    | goOn => exact absurd (congrArg Prod.fst hv) (h s)

theorem Leaves.andThen {v : Visit Flow} {k : Flow → Visit Flow} (h : Leaves v)
    (hk : Leaves (k .exit)) : Leaves (v >>= k) := by
  rw [h.bind_congr k (fun _ => k .exit) rfl]
  exact .bind fun _ => hk

mutual

theorem visitStmt_leaves (a : Activation) : (x : Stmt) → x.exits = true → Leaves (t.visitStmt E a x)
  | .block body, h => by
    simp only [Stmt.exits] at h
    exact (visitBlock_leaves a body h).inScope
  | .tryCatch body handlers, h => by
    simp only [Stmt.exits] at h
    unfold visitStmt
    exact (visitStmt_leaves a body h).andThen (.bind fun _ => .bind fun _ => .exit)
  | .ret _, _ => .bind fun _ => .exit
  | .coReturn _, _ => .bind fun _ => .exit
  | .breakOut, _ => .exit
  | .continueOn, _ => .exit

theorem visitBlock_leaves (a : Activation) :
    (xs : List Stmt) → Stmt.anyExits xs = true → Leaves (t.visitBlock E a xs)
  | x :: rest, h => by
    simp only [Stmt.anyExits, Bool.or_eq_true] at h
    unfold visitBlock
    rcases h with hx | hrest
    · exact (visitStmt_leaves a x hx).andThen .exit
    · refine .bind fun flow => ?_
      cases flow with
      | exit => exact .exit
      | goOn => exact visitBlock_leaves a rest hrest

end

structure Kept (t : Tracer) (E E' : Enter) (x : Stmt) : Prop where
  alone : ∀ a, t.pruned.visitStmt E' a x.pruned = t.visitStmt E a x
  hanging : ∀ a block kind total index, t.pruned.visitElse E' a block kind total index
    (some x.pruned) = t.visitElse E a block kind total index (some x)

theorem visitElse_of_not_if {x : Stmt} (hx : Law.Stmt.isIf x = false) (a : Activation) (block : Nat)
    (kind : BranchKind) (total index : Nat) :
    t.visitElse E a block kind total index (some x) =
      t.visitStmt E (a.enter (.branch block kind index total (t.caption (some "else"))))
        x >>= fun _ => pure () := by
  cases x with
  | ifElse => cases hx
  | _ => rfl

theorem Kept.plain {x : Stmt} (hx : Law.Stmt.isIf x = false)
    (h : ∀ a, t.pruned.visitStmt E' a x.pruned = t.visitStmt E a x) : Kept t E E' x := by
  refine ⟨h, fun a block kind total index => ?_⟩
  rw [visitElse_of_not_if hx, visitElse_of_not_if (x.isIf_pruned.trans hx), caption_pruned, h]

mutual

theorem stmt_kept (hE : E.Prunes E') : (x : Stmt) → Kept t E E' x
  | .block body => .plain rfl fun a => by
    simp only [Stmt.pruned, visitStmt, visitBlock_pruned hE a body]
  | .expr e => .plain rfl fun a => by
    simp only [Stmt.pruned, visitStmt, visitExpr_pruned hE a e]
  | .declare name none => .plain rfl fun a => by
    simp only [Stmt.pruned, visitStmt]
  | .declare name (some e) => .plain rfl fun a => by
    simp only [Stmt.pruned, visitStmt, visitExpr_pruned hE a e]
  | .ifElse cond yes no atCompileTime text => by
    have hyes := (stmt_kept hE yes).alone
    refine ⟨fun a => ?_, fun a block kind total index => ?_⟩
    · simp only [Stmt.pruned, visitStmt, Stmt.anyAtCompileTime_pruned,
        Stmt.alternatives_pruned, caption_pruned,
        visitCondition_pruned hE, hyes, visitElse_pruned hE no]
    · simp only [Stmt.pruned, visitElse, caption_pruned, visitCondition_pruned hE, hyes,
        visitElse_pruned hE no]
  | .switch cond [] _ => .plain rfl fun a => by
    simp only [Stmt.pruned, Case.prunedList, visitStmt, visitCondition_pruned hE]
  | .switch cond (⟨label, body⟩ :: rest) _ => .plain rfl fun a => by
    simp only [Stmt.pruned, Case.prunedList, visitStmt, Case.length_prunedList, caption_pruned,
      visitCondition_pruned hE, visitBlock_pruned hE _ body, visitCases_pruned hE rest]
  | .whileLoop cond body text => .plain rfl fun a => by
    simp only [Stmt.pruned, visitStmt, caption_pruned, visitCondition_pruned hE,
      (stmt_kept hE body).alone]
  | .doLoop body cond text => .plain rfl fun a => by
    simp only [Stmt.pruned, visitStmt, caption_pruned, visitCondition_pruned hE,
      (stmt_kept hE body).alone]
  | .forLoop first cond step body text => .plain rfl fun a => by
    simp only [Stmt.pruned, visitStmt, caption_pruned, visitFirst_pruned hE a first,
      visitConditionOption_pruned hE, (stmt_kept hE body).alone, visitOption_pruned hE]
  | .forEach range body text => .plain rfl fun a => by
    simp only [Stmt.pruned, visitStmt, caption_pruned, visitExpr_pruned hE,
      (stmt_kept hE body).alone]
  | .tryCatch body handlers => .plain rfl fun a => by
    simp only [Stmt.pruned, visitStmt, (stmt_kept hE body).alone, visitHandlers_pruned hE handlers]
  | .ret value => .plain rfl fun a => by
    simp only [Stmt.pruned, visitStmt, visitOption_pruned hE]
  | .coReturn value => .plain rfl fun a => by
    simp only [Stmt.pruned, visitStmt, visitOption_pruned hE]
  | .breakOut => .plain rfl fun _ => rfl
  | .continueOn => .plain rfl fun _ => rfl
  | .skip => .plain rfl fun _ => rfl

theorem visitBlock_pruned (hE : E.Prunes E') (a : Activation) : (xs : List Stmt) →
    t.pruned.visitBlock E' a (Stmt.prunedList xs) = t.visitBlock E a xs
  | [] => rfl
  | x :: rest => by
    simp only [Stmt.prunedList, visitBlock, (stmt_kept hE x).alone]
    cases hx : x.exits with
    | true => exact (visitStmt_leaves a x hx).bind_congr _ _ rfl
    | false => simp only [Bool.false_eq_true, if_false, visitBlock_pruned hE a rest]

theorem visitElse_pruned (hE : E.Prunes E') :
    (no : Option Stmt) → (a : Activation) → (block : Nat) →
    (kind : BranchKind) → (total index : Nat) →
    t.pruned.visitElse E' a block kind total index (Stmt.prunedOption no) =
      t.visitElse E a block kind total index no
  | none, _, _, _, _, _ => rfl
  | some x, a, block, kind, total, index => (stmt_kept hE x).hanging a block kind total index

theorem visitCases_pruned (hE : E.Prunes E') :
    (cases : List Case) → (a : Activation) → (block total index : Nat) →
    t.pruned.visitCases E' a block total index (Case.prunedList cases) =
      t.visitCases E a block total index cases
  | [], _, _, _, _ => rfl
  | ⟨label, body⟩ :: rest, a, block, total, index => by
    simp only [Case.prunedList, visitCases, caption_pruned, visitBlock_pruned hE _ body,
      visitCases_pruned hE rest]

theorem visitHandlers_pruned (hE : E.Prunes E') :
    (handlers : List Handler) → (a : Activation) → (block index : Nat) →
    t.pruned.visitHandlers E' a block index (Handler.prunedList handlers) =
      t.visitHandlers E a block index handlers
  | [], _, _, _ => rfl
  | ⟨exception, body⟩ :: rest, a, block, index => by
    simp only [Handler.prunedList, visitHandlers, (stmt_kept hE body).alone,
      visitHandlers_pruned hE rest]

theorem visitFirst_pruned (hE : E.Prunes E') (a : Activation) : (first : Option Stmt) →
    t.pruned.visitFirst E' a (Stmt.prunedOption first) = t.visitFirst E a first
  | none => rfl
  | some x => by
    simp only [Stmt.prunedOption, visitFirst, (stmt_kept hE x).alone]

end

theorem enterAt_prunes (room : Nat) : Enter.Prunes (t.enterAt room) (t.pruned.enterAt room) := by
  induction room with
  | zero => exact fun _ _ _ _ => rfl
  | succ room ih =>
    intro a f body operation
    simp only [enterAt, visitBody, (stmt_kept ih body).alone]
    rfl

theorem traceWith_pruned (hE : E.Prunes E') {entry : Decl}
    (hentry : t.casting.program.Declares entry) :
    t.pruned.traceWith E' entry.pruned = t.traceWith E entry := by
  have hintern : t.pruned.casting.intern (.decl entry.pruned) = t.casting.intern (.decl entry) :=
    t.casting.internDecl_pruned hentry []
  unfold traceWith
  rw [Decl.function?_pruned, hintern]
  cases entry.function? with
  | none => rfl
  | some f =>
    cases hbody : f.body with
    | none =>
      simp only [Option.map_some, Function.pruned, hbody, Stmt.prunedOption]
      rfl
    | some body =>
      have hbody' : f.pruned.body = some body.pruned := by
        simp only [Function.pruned, hbody, Stmt.prunedOption]
      simp only [Option.map_some, hbody, hbody', hE _ f body]
      rfl

/-- Dead code makes no difference: without it tracing comes to the same result, the same messages in
the same blocks, and the same roster. -/
theorem trace_pruned {entry : Decl} (hentry : t.casting.program.Declares entry) {s : Trace}
    (hr : s.roster.Sound) : t.pruned.trace entry.pruned s = t.trace entry s := by
  -- The two programs have bounds of their own, so both are traced with room enough for either.
  obtain ⟨room, hroom, hroom'⟩ :
      ∃ room, t.casting.program.pathBound ≤ room ∧ t.casting.program.pruned.pathBound ≤ room :=
    ⟨max t.casting.program.pathBound t.casting.program.pruned.pathBound,
      Nat.le_max_left _ _, Nat.le_max_right _ _⟩
  rw [← traceWith_enterAt hentry.mem hr hroom,
    ← traceWith_enterAt (t := t.pruned) hentry.pruned.mem hr hroom',
    traceWith_pruned (enterAt_prunes room) hentry]

end Tracer

namespace Sample

def hasty (rest : List Stmt) : Decl :=
  function 1 "run" none (.block (.expr (call 4 []) :: .tryCatch (.ret none) [] :: rest))

def hastyTracer (rest : List Stmt) : Tracer :=
  tracer.recast { tracer.casting with program := ⟨[hasty rest, step, worker, work]⟩ }

end Sample

theorem Tracer.trace_pruned_sample :
    (Sample.hastyTracer [.expr (Sample.call 9 [])]).casting.program.Declares
      (Sample.hasty [.expr (Sample.call 9 [])]) ∧
    (Sample.hastyTracer []).trace (Sample.hasty []) {} =
      (Sample.hastyTracer [.expr (Sample.call 9 [])]).trace
        (Sample.hasty [.expr (Sample.call 9 [])]) {} := by
  have hentry : (Sample.hastyTracer [.expr (Sample.call 9 [])]).casting.program.Declares
      (Sample.hasty [.expr (Sample.call 9 [])]) := rfl
  exact ⟨hentry,
    trace_pruned (t := Sample.hastyTracer [.expr (Sample.call 9 [])]) hentry (s := {}) .empty⟩

end Lifeline
