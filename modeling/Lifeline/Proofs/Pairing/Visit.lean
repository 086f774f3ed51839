import Lifeline.Proofs.Pairing.Basic
import Lifeline.Proofs.Request

namespace Lifeline

mutual

def Expr.awaitsOwn : Expr → Bool
  | .call callee object args _ _ =>
    callee.awaitsOwn || Expr.awaitsOwnOption object || Expr.awaitsOwnList args
  | .construct _ _ args _ _ => Expr.awaitsOwnList args
  | .lambda _ _ => false
  | .coAwait operand awaiter _ => operand.awaitsOwn || awaiter.isNone
  | .coYield operand _ => operand.awaitsOwn
  | .async _ callable args _ => callable.awaitsOwn || Expr.awaitsOwnList args
  | .declRef _ => false
  | .var _ => false
  | .assign _ value => value.awaitsOwn
  | .conditional cond yes no _ => cond.awaitsOwn || yes.awaitsOwn || no.awaitsOwn
  | .other children => Expr.awaitsOwnList children

def Expr.awaitsOwnList : List Expr → Bool
  | [] => false
  | e :: rest => e.awaitsOwn || Expr.awaitsOwnList rest

def Expr.awaitsOwnOption : Option Expr → Bool
  | none => false
  | some e => e.awaitsOwn

def Callee.awaitsOwn : Callee → Bool
  | .decl _ _ _ => false
  | .expr e => e.awaitsOwn
  | .var _ => false
  | .unresolved _ _ => false

end

mutual

def Stmt.awaitsOwn : Stmt → Bool
  | .block body => Stmt.awaitsOwnList body
  | .expr e => e.awaitsOwn
  | .declare _ value => Expr.awaitsOwnOption value
  | .ifElse cond yes no _ _ => cond.awaitsOwn || yes.awaitsOwn || Stmt.awaitsOwnOption no
  | .switch cond cases _ => cond.awaitsOwn || Case.awaitsOwnList cases
  | .whileLoop cond body _ => cond.awaitsOwn || body.awaitsOwn
  | .doLoop body cond _ => body.awaitsOwn || cond.awaitsOwn
  | .forLoop first cond step body _ =>
    Stmt.awaitsOwnOption first || Expr.awaitsOwnOption cond || Expr.awaitsOwnOption step ||
      body.awaitsOwn
  | .forEach range body _ => range.awaitsOwn || body.awaitsOwn
  | .tryCatch body handlers => body.awaitsOwn || Handler.awaitsOwnList handlers
  | .ret value => Expr.awaitsOwnOption value
  | .coReturn value => Expr.awaitsOwnOption value
  | .breakOut => false
  | .continueOn => false
  | .skip => false

def Stmt.awaitsOwnList : List Stmt → Bool
  | [] => false
  | s :: rest => s.awaitsOwn || Stmt.awaitsOwnList rest

def Stmt.awaitsOwnOption : Option Stmt → Bool
  | none => false
  | some s => s.awaitsOwn

def Case.awaitsOwnList : List Case → Bool
  | [] => false
  | ⟨_, body⟩ :: rest => Stmt.awaitsOwnList body || Case.awaitsOwnList rest

def Handler.awaitsOwnList : List Handler → Bool
  | [] => false
  | ⟨_, body⟩ :: rest => body.awaitsOwn || Handler.awaitsOwnList rest

end

namespace Tracer

variable {t : Tracer} {a : Activation} {location : Option Location} {s : Trace}

theorem yielded_roster : (t.yielded a location s).roster = s.roster := by
  unfold yielded
  cases a.returnTo with
  | none => rfl
  | some receiver => cases t.options.returnMessages <;> rfl

theorem yielded_blocks : (t.yielded a location s).blocks = s.blocks := by
  unfold yielded
  cases a.returnTo with
  | none => rfl
  | some receiver => cases t.options.returnMessages <;> rfl

theorem yielded_scopes : (t.yielded a location s).scopes = s.scopes := by
  unfold yielded
  cases a.returnTo with
  | none => rfl
  | some receiver => cases t.options.returnMessages <;> rfl

end Tracer

namespace Pairing

open Tracer

variable {t : Tracer} {o : TraceOptions} {since : Option Relation} (P : Pairing t o since)

def CallsWith (E E' : Enter) (args : List Value) : Prop :=
  ∀ a b kind q location text, kind ≠ .response → q.Within t.casting.program → q.Known →
    (q = .ownState → P.own a.caller b.caller) →
    P.Obeys a b (t.call E a kind q args location text)
      ((t.tuned o).call E' b kind q args location text)

def Calls (E E' : Enter) : Prop :=
  ∀ args, P.CallsWith E E' args

variable {P} {E E' : Enter} {a b : Activation}

theorem Obeys.ask {x : ParticipantId → Cast Resolution} {kind : MessageKind} {args : List Value}
    (hE : P.CallsWith E E' args) (hx : t.casting.Asks (P.own a.caller b.caller) x)
    (hkind : kind ≠ .response) (location : Option Location) (text : Option String) (v : α) :
    P.Obeys a b (do t.dispatch E a kind (← Visit.cast (x a.caller)) args location text; return v)
      (do
        (t.tuned o).dispatch E' b kind (← Visit.cast (x b.caller)) args location text
        return v) := by
  rcases hx with ⟨f, hf⟩ | ⟨q, hq, hknown, hown, heq⟩
  · have hfail (p : ParticipantId) (k : Resolution → Visit α) (s : Trace) :
        (Visit.cast (x p) >>= k) s = (.error f, s) := by
      rw [Agree.run_bind]
      simp only [Visit.cast, hf]
    refine ⟨.of_roster fun s => ?_, .of_roster fun s => ?_, fun s s' h hscopes => ?_⟩
    · rw [hfail]
    · rw [hfail]
    · rw [hfail, hfail]
      exact .failed hscopes (P.refl h)
  · rw [heq, heq]
    have hcall := hE a b kind q location text hkind hq hknown hown
    simpa only [Tracer.call, bind_assoc] using hcall.bind fun _ => .pure v

theorem Obeys.askIn {x : Scopes → Cast Resolution} {kind : MessageKind} {args : List Value}
    (hE : P.CallsWith E E' args)
    (hx : ∀ scopes, t.casting.Asks (P.own a.caller b.caller) fun _ => x scopes)
    (hkind : kind ≠ .response) (location : Option Location) (text : Option String) (v : α) :
    P.Obeys a b
      (do
        let res ← (do Visit.cast (x (← get).scopes))
        t.dispatch E a kind res args location text
        return v)
      (do
        let res ← (do Visit.cast (x (← get).scopes))
        (t.tuned o).dispatch E' b kind res args location text
        return v) := by
  have hask (scopes : Scopes) := Obeys.ask hE (hx scopes) hkind location text v
  refine ⟨fun s hs => (hask s.scopes).left s hs, fun s hs => (hask s.scopes).right s hs,
    fun s s' h hscopes => ?_⟩
  have hboth := (hask s.scopes).both s s' h hscopes
  show Beside _ _ _ ((Visit.cast (x s.scopes) >>= _) s) ((Visit.cast (x s'.scopes) >>= _) s')
  rw [← hscopes]
  exact hboth

theorem Obeys.yield {v w : Visit α} {x : α} (location : Option Location)
    (hv : ∀ s, v s = (.ok x, t.yielded a location s))
    (hw : ∀ s, w s = (.ok x, (t.tuned o).yielded b location s)) :
    P.Obeys a b v w := by
  refine ⟨.of_roster fun s => ?_, .of_roster fun s => ?_, fun s s' h hscopes => ?_⟩
  · rw [hv, yielded_roster]
  · rw [hw, yielded_roster]
  · rw [hv, hw]
    refine .done ?_ (P.yield h)
    rw [yielded_scopes, yielded_scopes, hscopes]

mutual

theorem visitExpr_obeys (hE : P.Calls E E') {a b : Activation} :
    (e : Expr) → (e.awaitsOwn = true → P.own a.caller b.caller) →
      P.Obeys a b (t.visitExpr E a e) ((t.tuned o).visitExpr E' b e)
  | .call callee object args location comment, h => by
    simp only [Expr.awaitsOwn, Bool.or_eq_true, or_imp] at h
    obtain ⟨⟨hcallee, hobject⟩, hargs⟩ := h
    unfold visitExpr
    refine (visitCallee_obeys hE callee hcallee).bind fun value => ?_
    refine (visitOption_obeys hE object hobject).bind fun _ => ?_
    refine (visitArgs_obeys hE args hargs).bind fun values => ?_
    cases value with
    | some v =>
      exact .ask (hE values) (Casting.resolveValue_asks v _) (by simp)
        location comment Value.unknown
    | none =>
      exact .askIn (x := t.casting.resolveCallee callee) (hE values)
        (Casting.resolveCallee_asks callee) (by simp) location comment Value.unknown
  | .construct cls ctor args location comment, h => by
    simp only [Expr.awaitsOwn] at h
    unfold visitExpr
    refine (visitArgs_obeys hE args h).bind fun values => ?_
    exact .ask (hE _) (Casting.resolveConstruct_asks cls ctor) (by simp) location comment _
  | .lambda operator _, _ => .reading fun scopes => Value.lambda operator scopes.snapshot
  | .coAwait operand awaiter location, h => by
    simp only [Expr.awaitsOwn, Bool.or_eq_true, or_imp, Option.isNone_iff_eq_none] at h
    unfold visitExpr
    refine (visitExpr_obeys hE operand h.1).bind fun _ => ?_
    exact .ask (hE []) (Casting.resolveAwaiter_asks awaiter h.2) (by simp)
      location none Value.unknown
  | .coYield operand location, h => by
    simp only [Expr.awaitsOwn] at h
    unfold visitExpr
    refine (visitExpr_obeys hE operand h).bind fun _ => .yield (x := Value.unknown) location ?_ ?_
    · intro s
      unfold yielded
      cases a.returnTo <;> cases t.options.returnMessages <;> rfl
    · intro s
      unfold yielded
      cases b.returnTo <;> cases o.returnMessages <;> rfl
  | .async launcher callable args location, h => by
    simp only [Expr.awaitsOwn, Bool.or_eq_true, or_imp] at h
    unfold visitExpr
    refine (visitExpr_obeys hE callable h.1).bind fun v => ?_
    refine (visitArgs_obeys hE args h.2).bind fun values => ?_
    exact .ask (hE values) (Casting.resolveValue_asks v launcher) (by simp)
      location none Value.unknown
  | .declRef decl, _ => .pure (Value.function decl)
  | .var name, _ => .reading fun scopes => (scopes.get? name).getD .unknown
  | .assign target value, h => by
    simp only [Expr.awaitsOwn] at h
    unfold visitExpr
    refine (visitExpr_obeys hE value h).bind fun v => ?_
    exact .bind (.rescope (·.assign target v)) fun _ => .pure v
  | .conditional cond yes no text, h => by
    simp only [Expr.awaitsOwn, Bool.or_eq_true, or_imp] at h
    obtain ⟨⟨hcond, hyes⟩, hno⟩ := h
    unfold visitExpr
    refine .block fun m n => ?_
    refine .bind
      (.enter (.branch .conditional 0 2 text) (.inCondition (visitExpr_obeys hE cond hcond)))
      fun _ => ?_
    refine .bind (.enter (.branch .conditional 0 2 text) (visitExpr_obeys hE yes hyes)) fun _ => ?_
    refine .bind (.enter (.branch .conditional 1 2 (some "else")) (visitExpr_obeys hE no hno))
      fun _ => ?_
    exact .of (.pure Value.unknown)
  | .other children, h => by
    simp only [Expr.awaitsOwn] at h
    unfold visitExpr
    exact (visitArgs_obeys hE children h).bind fun _ => .pure Value.unknown

theorem visitCallee_obeys (hE : P.Calls E E') {a b : Activation} :
    (callee : Callee) → (callee.awaitsOwn = true → P.own a.caller b.caller) →
      P.Obeys a b (t.visitCallee E a callee) ((t.tuned o).visitCallee E' b callee)
  | .expr e, h => by
    simp only [Callee.awaitsOwn] at h
    exact (visitExpr_obeys hE e h).bind fun v => .pure (some v)
  | .decl _ _ _, _ => .pure none
  | .var _, _ => .pure none
  | .unresolved _ _, _ => .pure none

theorem visitOption_obeys (hE : P.Calls E E') {a b : Activation} :
    (e : Option Expr) → (Expr.awaitsOwnOption e = true → P.own a.caller b.caller) →
      P.Obeys a b (t.visitOption E a e) ((t.tuned o).visitOption E' b e)
  | none, _ => .pure ()
  | some e, h => by
    simp only [Expr.awaitsOwnOption] at h
    exact (visitExpr_obeys hE e h).bind fun _ => .pure ()

theorem visitArgs_obeys (hE : P.Calls E E') {a b : Activation} :
    (es : List Expr) → (Expr.awaitsOwnList es = true → P.own a.caller b.caller) →
      P.Obeys a b (t.visitArgs E a es) ((t.tuned o).visitArgs E' b es)
  | [], _ => .pure []
  | e :: rest, h => by
    simp only [Expr.awaitsOwnList, Bool.or_eq_true, or_imp] at h
    refine (visitExpr_obeys hE e h.1).bind fun v => ?_
    exact (visitArgs_obeys hE rest h.2).bind fun vs => .pure (v :: vs)

end

theorem visitCondition_obeys (hE : P.Calls E E') {e : Expr}
    (h : e.awaitsOwn = true → P.own a.caller b.caller) :
    P.Obeys a b (t.visitCondition E a e) ((t.tuned o).visitCondition E' b e) :=
  .inCondition
    ((visitExpr_obeys (a := a.inCondition) (b := b.inCondition) hE e h).bind fun _ => .pure ())

theorem visitConditionOption_obeys (hE : P.Calls E E') {e : Option Expr}
    (h : Expr.awaitsOwnOption e = true → P.own a.caller b.caller) :
    P.Obeys a b (t.visitConditionOption E a e) ((t.tuned o).visitConditionOption E' b e) := by
  cases e with
  | none => exact .pure ()
  | some e =>
    simp only [Expr.awaitsOwnOption] at h
    exact visitCondition_obeys hE h

structure Follows (P : Pairing t o since) (E E' : Enter) (x : Stmt) : Prop where
  alone : ∀ {a b}, (x.awaitsOwn = true → P.own a.caller b.caller) →
    P.Obeys a b (t.visitStmt E a x) ((t.tuned o).visitStmt E' b x)
  hanging : ∀ {a b m n}, (x.awaitsOwn = true → P.own a.caller b.caller) → ∀ kind total index,
    P.Inside a b m n (t.visitElse E a m kind total index (some x))
      ((t.tuned o).visitElse E' b n kind total index (some x))

theorem Follows.plain {x : Stmt} (hx : Law.Stmt.isIf x = false)
    (h : ∀ a b, (x.awaitsOwn = true → P.own a.caller b.caller) →
      P.Obeys a b (t.visitStmt E a x) ((t.tuned o).visitStmt E' b x)) : P.Follows E E' x := by
  refine ⟨fun hown => h _ _ hown, fun {a b m n} hown kind total index => ?_⟩
  have hlast : P.Inside a b m n
      (do let _ ← t.visitStmt E (a.enter (.branch m kind index total (t.caption (some "else")))) x)
      (do
        let _ ← (t.tuned o).visitStmt E'
          (b.enter (.branch n kind index total ((t.tuned o).caption (some "else")))) x) :=
    .bind (.enter (.branch kind index total (some "else")) (h _ _ hown)) fun _ => .of (.pure ())
  cases x with
  | ifElse => cases hx
  | _ => exact hlast

mutual

theorem stmt_follows (hE : P.Calls E E') : (x : Stmt) → P.Follows E E' x
  | .block body => .plain rfl fun a b h => by
    simp only [Stmt.awaitsOwn] at h
    exact .inScope (visitBlock_obeys hE body h)
  | .expr e => .plain rfl fun a b h => by
    simp only [Stmt.awaitsOwn] at h
    exact (visitExpr_obeys hE e h).bind fun _ => .pure Flow.goOn
  | .declare name none => .plain rfl fun a b _ => by
    unfold visitStmt
    refine .bind (.pure Value.unknown) fun v => ?_
    exact .bind (.rescope (·.bind name v)) fun _ => .pure Flow.goOn
  | .declare name (some e) => .plain rfl fun a b h => by
    simp only [Stmt.awaitsOwn, Expr.awaitsOwnOption] at h
    unfold visitStmt
    refine (visitExpr_obeys hE e h).bind fun v => ?_
    exact .bind (.rescope (·.bind name v)) fun _ => .pure Flow.goOn
  | .ifElse cond yes no atCompileTime text => by
    have hyes := stmt_follows hE yes
    refine ⟨fun {a b} h => ?_, fun {a b m n} h kind total index => ?_⟩
    · simp only [Stmt.awaitsOwn, Bool.or_eq_true, or_imp] at h
      unfold visitStmt
      refine .block fun m n => ?_
      refine .bind (.enter (.branch _ 0 _ text) (visitCondition_obeys hE h.1.1)) fun _ => ?_
      refine .bind (.enter (.branch _ 0 _ text) (hyes.alone h.1.2)) fun _ => ?_
      exact .bind (visitElse_inside hE no h.2) fun _ => .of (.pure Flow.goOn)
    · simp only [Stmt.awaitsOwn, Bool.or_eq_true, or_imp] at h
      unfold visitElse
      refine .bind (.enter (.branch kind index total text) (visitCondition_obeys hE h.1.1)) fun _ =>
        ?_
      refine .bind (.enter (.branch kind index total text) (hyes.alone h.1.2)) fun _ => ?_
      exact visitElse_inside hE no h.2
  | .switch cond [] _ => .plain rfl fun a b h => by
    simp only [Stmt.awaitsOwn, Bool.or_eq_true, or_imp] at h
    unfold visitStmt
    refine .block fun m n => .of ?_
    exact (visitCondition_obeys hE h.1).bind fun _ => .pure Flow.goOn
  | .switch cond (⟨label, body⟩ :: rest) _ => .plain rfl fun a b h => by
    simp only [Stmt.awaitsOwn, Case.awaitsOwnList, Bool.or_eq_true, or_imp] at h
    obtain ⟨hcond, hbody, hrest⟩ := h
    unfold visitStmt
    refine .block fun m n => ?_
    refine .bind (.enter (.branch .switch 0 _ (some (caseLabel label)))
      (visitCondition_obeys hE hcond)) fun _ => ?_
    refine .bind (.enter (.branch .switch 0 _ (some (caseLabel label)))
      (.inScope (visitBlock_obeys hE body hbody))) fun _ => ?_
    exact .bind (visitCases_inside hE rest hrest) fun _ => .of (.pure Flow.goOn)
  | .whileLoop cond body text => .plain rfl fun a b h => by
    simp only [Stmt.awaitsOwn, Bool.or_eq_true, or_imp] at h
    unfold visitStmt
    refine .block fun m n => .enter (.loop .whileLoop text) ?_
    refine .bind (visitCondition_obeys hE h.1) fun _ => ?_
    exact .bind ((stmt_follows hE body).alone h.2) fun _ => .pure Flow.goOn
  | .doLoop body cond text => .plain rfl fun a b h => by
    simp only [Stmt.awaitsOwn, Bool.or_eq_true, or_imp] at h
    unfold visitStmt
    refine .block fun m n => .enter (.loop .doLoop text) ?_
    refine .bind ((stmt_follows hE body).alone h.1) fun _ => ?_
    exact .bind (visitCondition_obeys hE h.2) fun _ => .pure Flow.goOn
  | .forLoop first cond step body text => .plain rfl fun a b h => by
    simp only [Stmt.awaitsOwn, Bool.or_eq_true, or_imp] at h
    obtain ⟨⟨⟨hfirst, hcond⟩, hstep⟩, hbody⟩ := h
    unfold visitStmt
    refine .inScope ((visitFirst_obeys hE first hfirst).bind fun _ => ?_)
    refine .block fun m n => .enter (.loop .forLoop text) ?_
    refine .bind (visitConditionOption_obeys hE hcond) fun _ => ?_
    refine .bind ((stmt_follows hE body).alone hbody) fun _ => ?_
    exact .bind (visitOption_obeys hE step hstep) fun _ => .pure Flow.goOn
  | .forEach range body text => .plain rfl fun a b h => by
    simp only [Stmt.awaitsOwn, Bool.or_eq_true, or_imp] at h
    unfold visitStmt
    refine (visitExpr_obeys hE range h.1).bind fun _ => ?_
    refine .block fun m n => .enter (.loop .forEach text) ?_
    exact .bind ((stmt_follows hE body).alone h.2) fun _ => .pure Flow.goOn
  | .tryCatch body handlers => .plain rfl fun a b h => by
    simp only [Stmt.awaitsOwn, Bool.or_eq_true, or_imp] at h
    unfold visitStmt
    refine ((stmt_follows hE body).alone h.1).bind fun flow => ?_
    refine .block fun m n => ?_
    exact .bind (visitHandlers_inside hE handlers h.2) fun _ => .of (.pure flow)
  | .ret value => .plain rfl fun a b h => by
    simp only [Stmt.awaitsOwn] at h
    exact (visitOption_obeys hE value h).bind fun _ => .pure Flow.exit
  | .coReturn value => .plain rfl fun a b h => by
    simp only [Stmt.awaitsOwn] at h
    exact (visitOption_obeys hE value h).bind fun _ => .pure Flow.exit
  | .breakOut => .plain rfl fun _ _ _ => .pure Flow.exit
  | .continueOn => .plain rfl fun _ _ _ => .pure Flow.exit
  | .skip => .plain rfl fun _ _ _ => .pure Flow.goOn

theorem visitBlock_obeys (hE : P.Calls E E') {a b : Activation} :
    (body : List Stmt) → (Stmt.awaitsOwnList body = true → P.own a.caller b.caller) →
      P.Obeys a b (t.visitBlock E a body) ((t.tuned o).visitBlock E' b body)
  | [], _ => .pure Flow.goOn
  | x :: rest, h => by
    simp only [Stmt.awaitsOwnList, Bool.or_eq_true, or_imp] at h
    unfold visitBlock
    refine ((stmt_follows hE x).alone h.1).bind fun flow => ?_
    cases flow with
    | exit => exact .pure Flow.exit
    | goOn => exact visitBlock_obeys hE rest h.2

theorem visitElse_inside (hE : P.Calls E E') {a b : Activation} {m n : Nat} {kind : BranchKind}
    {total index : Nat} :
    (no : Option Stmt) → (Stmt.awaitsOwnOption no = true → P.own a.caller b.caller) →
      P.Inside a b m n (t.visitElse E a m kind total index no)
        ((t.tuned o).visitElse E' b n kind total index no)
  | none, _ => .of (.pure ())
  | some x, h => by
    simp only [Stmt.awaitsOwnOption] at h
    exact (stmt_follows hE x).hanging h kind total index

theorem visitCases_inside (hE : P.Calls E E') {a b : Activation} {m n : Nat} {total index : Nat} :
    (cases : List Case) → (Case.awaitsOwnList cases = true → P.own a.caller b.caller) →
      P.Inside a b m n (t.visitCases E a m total index cases)
        ((t.tuned o).visitCases E' b n total index cases)
  | [], _ => .of (.pure ())
  | ⟨label, body⟩ :: rest, h => by
    simp only [Case.awaitsOwnList, Bool.or_eq_true, or_imp] at h
    refine .bind (.enter (.branch .switch index total (some (caseLabel label)))
      (.inScope (visitBlock_obeys hE body h.1))) fun _ => ?_
    exact visitCases_inside hE rest h.2

theorem visitHandlers_inside (hE : P.Calls E E') {a b : Activation} {m n : Nat} {index : Nat} :
    (handlers : List Handler) → (Handler.awaitsOwnList handlers = true → P.own a.caller b.caller) →
      P.Inside a b m n (t.visitHandlers E a m index handlers)
        ((t.tuned o).visitHandlers E' b n index handlers)
  | [], _ => .of (.pure ())
  | ⟨exception, body⟩ :: rest, h => by
    simp only [Handler.awaitsOwnList, Bool.or_eq_true, or_imp] at h
    refine .bind (.enter (.handler index (some (exception.getD "...")))
      ((stmt_follows hE body).alone h.1)) fun _ => ?_
    exact visitHandlers_inside hE rest h.2

theorem visitFirst_obeys (hE : P.Calls E E') {a b : Activation} :
    (first : Option Stmt) → (Stmt.awaitsOwnOption first = true → P.own a.caller b.caller) →
      P.Obeys a b (t.visitFirst E a first) ((t.tuned o).visitFirst E' b first)
  | none, _ => .pure ()
  | some x, h => by
    simp only [Stmt.awaitsOwnOption] at h
    exact ((stmt_follows hE x).alone h).bind fun _ => .pure ()

end

theorem visitBody_obeys (hE : P.Calls E E') {body : Stmt}
    (h : body.awaitsOwn = true → P.own a.caller b.caller) (f : Function)
    {operation operation' : String} (hword : P.wording operation operation') :
    P.Obeys a b (t.visitBody E a f body operation)
      ((t.tuned o).visitBody E' b f body operation') := by
  unfold visitBody
  cases f.isCoroutine with
  | true =>
    refine .block fun m n => .enter (.coroutine hword) ?_
    exact .bind ((stmt_follows hE body).alone h) fun _ => .pure ()
  | false => exact ((stmt_follows hE body).alone h).bind fun _ => .pure ()

end Pairing

end Lifeline
