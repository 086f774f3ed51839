import Lifeline.Proofs.Law.Block
import Lifeline.Proofs.Law.Dispatch

namespace Lifeline

namespace Scopes

theorem length_assignIn? {name : String} {v : Value} {bs cs : List Bindings}
    (h : assignIn? name v bs = some cs) : cs.length = bs.length := by
  induction bs generalizing cs with
  | nil => simp [assignIn?] at h
  | cons b rest ih =>
    unfold assignIn? at h
    split at h
    · cases h
      rfl
    · obtain ⟨ds, hds, rfl⟩ := Option.map_eq_some_iff.1 h
      simp [ih hds]

theorem depth_assign (s : Scopes) (name : String) (v : Value) :
    (s.assign name v).depth = s.depth := by
  unfold assign
  split
  case h_1 b rest heq => exact length_assignIn? heq
  · rfl

end Scopes

theorem takenOver_mentions {P : Mention → Prop} {values : List Value}
    (h : ∀ v ∈ values, v.Mentions P) : ((Tracer.takenOver values).getD .unknown).Mentions P := by
  unfold Tracer.takenOver
  split
  case h_1 v =>
    split
    · exact h v (by simp)
    · exact .unknown
  · exact .unknown

namespace Law

open Tracer

variable {t : Tracer} {L : Law t} {c : Casting} {E E' : Enter}

mutual

theorem visitExpr_obeys {a : Activation} (hc : L.Twin c) (hE : L.Calls E E' a) :
    (e : Expr) → e.Mentions L.mention →
      L.Obeys a (t.visitExpr E a e) ((t.recast c).visitExpr E' a e) (·.Mentions L.mention)
  | .call callee object args location comment, h => by
    simp only [Expr.Mentions] at h
    obtain ⟨hcallee, hobject, hargs⟩ := h
    unfold visitExpr
    refine (visitCallee_obeys hc hE callee hcallee).bind fun value hvalue => ?_
    refine (visitOption_obeys hc hE object hobject).bind fun _ _ => ?_
    refine (visitArgs_obeys hc hE args hargs).bind fun values hvalues => ?_
    cases value with
    | some v =>
      refine .dispatch hc hE (fun s h => ?_) hvalues (by simp) location comment .unknown
      exact .of_eq ((hc a s h).value (hvalue v rfl) _)
        (Casting.resolveValue_resolves L.faults h.sound (hvalue v rfl) _)
    | none =>
      intro s h
      refine Obeys.dispatch hc hE (fun s' h' => ?_) hvalues (by simp) location comment .unknown s h
      exact .of_eq ((hc a s' h').callee hcallee h.scopes)
        (Casting.resolveCallee_resolves L.faults h'.sound hcallee h.scopes)
  | .construct cls ctor args location comment, h => by
    simp only [Expr.Mentions] at h
    obtain ⟨hcls, hctor, hargs⟩ := h
    unfold visitExpr
    refine (visitArgs_obeys hc hE args hargs).bind fun values hvalues => ?_
    refine .dispatch hc hE (fun s h => ?_) ?_ (by simp) location comment
      (takenOver_mentions hvalues)
    · exact .of_eq ((hc a s h).construct hcls hctor)
        (Casting.resolveConstruct_resolves L.faults h.sound hcls hctor)
    · split
      · simp
      · exact hvalues
  | .lambda operator _, h => by
    simp only [Expr.Mentions] at h
    intro s hs
    exact .get_bind (Obeys.pure (.lambda h hs.scopes.snapshot) s hs)
  | .coAwait operand awaiter location, h => by
    simp only [Expr.Mentions] at h
    unfold visitExpr
    refine (visitExpr_obeys hc hE operand h.1).bind fun _ _ => ?_
    refine .dispatch hc hE (fun s hs => ?_) (by simp) (by simp) location none .unknown
    exact .of_eq ((hc a s hs).awaiter h.2 a.caller)
      (Casting.resolveAwaiter_resolves L.faults hs.sound h.2 hs.live.caller)
  | .coYield operand location, h => by
    simp only [Expr.Mentions] at h
    unfold visitExpr
    refine (visitExpr_obeys hc hE operand h).bind fun _ _ => ?_
    cases hreturn : a.returnTo with
    | none => exact .pure .unknown
    | some receiver =>
      intro s hs
      refine .ite (fun _ => ?_) (fun _ => Obeys.pure .unknown s hs)
      refine bind_grown hs
        (respond_agree hs hs.live.caller (hs.live.returnTo receiver hreturn) _ location) ?_
      exact fun _ s' hs' _ _ => Obeys.pure .unknown s' hs'
  | .async launcher callable args location, h => by
    simp only [Expr.Mentions] at h
    unfold visitExpr
    refine (visitExpr_obeys hc hE callable h.1).bind fun v hv => ?_
    refine (visitArgs_obeys hc hE args h.2).bind fun values hvalues => ?_
    refine .dispatch hc hE (fun s hs => ?_) hvalues (by simp) location none .unknown
    exact .of_eq ((hc a s hs).value hv launcher)
      (Casting.resolveValue_resolves L.faults hs.sound hv launcher)
  | .declRef decl, h => by
    simp only [Expr.Mentions] at h
    exact .pure (.function h)
  | .var name, h => by
    intro s hs
    exact .get_bind (Obeys.pure (hs.scopes.getD name) s hs)
  | .assign target value, h => by
    simp only [Expr.Mentions] at h
    unfold visitExpr
    refine (visitExpr_obeys hc hE value h).bind fun v hv => ?_
    refine .bind (.rescope (fun x hx => hx.assign hv target) (fun x => x.depth_assign target v))
      fun _ _ => ?_
    exact .pure hv
  | .conditional cond yes no text, h => by
    simp only [Expr.Mentions] at h
    obtain ⟨hcond, hyes, hno⟩ := h
    unfold visitExpr
    refine .block fun s _ => ?_
    have first : Numbered (.branch s.blocks .conditional · 2) 1 _ := .next .none (t.caption text)
    refine .enter (first.branches (by omega)) ?_
    refine .bind (.inCondition (visitExpr_obeys hc (hE.enter _).inCondition cond hcond)) fun _ _ =>
      ?_
    refine .bind (visitExpr_obeys hc (hE.enter _) yes hyes) fun _ _ => ?_
    refine .enter ((first.next (t.caption (some "else"))).branches (by omega)) ?_
    refine .bind (visitExpr_obeys hc (hE.enter _) no hno) fun _ _ => ?_
    exact .leave (.pure .unknown)
  | .other children, h => by
    simp only [Expr.Mentions] at h
    unfold visitExpr
    exact (visitArgs_obeys hc hE children h).bind fun _ _ => .pure .unknown

theorem visitCallee_obeys {a : Activation} (hc : L.Twin c) (hE : L.Calls E E' a) :
    (callee : Callee) → callee.Mentions L.mention →
      L.Obeys a (t.visitCallee E a callee) ((t.recast c).visitCallee E' a callee)
        fun x => ∀ v, x = some v → v.Mentions L.mention
  | .expr e, h => by
    simp only [Callee.Mentions] at h
    refine (visitExpr_obeys hc hE e h).bind fun v hv => .pure ?_
    rintro _ ⟨rfl⟩
    exact hv
  | .decl _ _ _, _ => .pure (by simp)
  | .var _, _ => .pure (by simp)
  | .unresolved _ _, _ => .pure (by simp)

theorem visitOption_obeys {a : Activation} (hc : L.Twin c) (hE : L.Calls E E' a) :
    (e : Option Expr) → Expr.MentionsOption L.mention e →
      L.Obeys a (t.visitOption E a e) ((t.recast c).visitOption E' a e) fun _ => True
  | none, _ => .pure trivial
  | some e, h => by
    simp only [Expr.MentionsOption] at h
    exact (visitExpr_obeys hc hE e h).bind fun _ _ => .pure trivial

theorem visitArgs_obeys {a : Activation} (hc : L.Twin c) (hE : L.Calls E E' a) :
    (es : List Expr) → Expr.MentionsList L.mention es →
      L.Obeys a (t.visitArgs E a es) ((t.recast c).visitArgs E' a es) fun vs =>
      ∀ v ∈ vs, v.Mentions L.mention
  | [], _ => .pure (by simp)
  | e :: rest, h => by
    simp only [Expr.MentionsList] at h
    refine (visitExpr_obeys hc hE e h.1).bind fun v hv => ?_
    refine (visitArgs_obeys hc hE rest h.2).bind fun vs hvs => ?_
    exact .pure (List.forall_mem_cons.2 ⟨hv, hvs⟩)

end

theorem visitCondition_obeys {a : Activation} (hc : L.Twin c) (hE : L.Calls E E' a) {e : Expr}
    (h : e.Mentions L.mention) :
    L.Obeys a (t.visitCondition E a e) ((t.recast c).visitCondition E' a e) fun _ => True :=
  .inCondition ((visitExpr_obeys hc hE.inCondition e h).bind fun _ _ => .pure trivial)

theorem visitConditionOption_obeys {a : Activation} (hc : L.Twin c) (hE : L.Calls E E' a)
    {e : Option Expr} (h : Expr.MentionsOption L.mention e) :
    L.Obeys a (t.visitConditionOption E a e) ((t.recast c).visitConditionOption E' a e) fun _ =>
      True := by
  cases e with
  | none => exact .pure trivial
  | some e =>
    simp only [Expr.MentionsOption] at h
    exact visitCondition_obeys hc hE h

def Stmt.isIf : Stmt → Bool
  | .ifElse _ _ _ _ _ => true
  | _ => false

structure Follows (L : Law t) (c : Casting) (E E' : Enter) (x : Stmt) : Prop where
  alone : ∀ {a}, L.Calls E E' a →
    L.Obeys a (t.visitStmt E a x) ((t.recast c).visitStmt E' a x) fun _ => True
  hanging : ∀ {a s fs kind total index}, L.Calls E E' a →
    Numbered (.branch s.blocks kind · total) index fs → index + Stmt.alternatives (some x) = total →
    L.Inside a s fs (t.visitElse E a s.blocks kind total index (some x))
      ((t.recast c).visitElse E' a s.blocks kind total index (some x)) fun _ => True

theorem Follows.plain {x : Stmt} (hx : Stmt.isIf x = false)
    (h : ∀ a, L.Calls E E' a →
      L.Obeys a (t.visitStmt E a x) ((t.recast c).visitStmt E' a x) fun _ => True) :
    L.Follows c E E' x := by
  refine ⟨fun hE => h _ hE, ?_⟩
  intro a s fs kind total index hE hfs hn
  have hlast {l : Option String} (hn : index + 1 = total) :
      L.Inside a s fs (do let _ ← t.visitStmt E (a.enter (.branch s.blocks kind index total l)) x)
        (do let _ ← (t.recast c).visitStmt E' (a.enter (.branch s.blocks kind index total l)) x)
          fun _ => True :=
    .enter ((hfs.next l).branches (Nat.le_of_eq hn))
      (.bind (h _ (hE.enter _)) fun _ _ => .leave (.pure trivial))
  cases x with
  | ifElse => cases hx
  | _ =>
    simp only [Stmt.alternatives] at hn
    exact hlast hn

mutual

theorem stmt_follows (hc : L.Twin c) : (x : Stmt) → x.Mentions L.mention → L.Follows c E E' x
  | .block body, h => .plain rfl fun a hE => by
    simp only [Stmt.Mentions] at h
    exact .inScope (visitBlock_obeys hc hE body h)
  | .expr e, h => .plain rfl fun a hE => by
    simp only [Stmt.Mentions] at h
    exact (visitExpr_obeys hc hE e h).bind fun _ _ => .pure trivial
  | .declare name none, _ => .plain rfl fun a hE => by
    unfold visitStmt
    refine .bind (show L.Obeys a _ _ (Value.Mentions L.mention) from .pure .unknown) fun v hv => ?_
    exact .bind (.rescope (fun x hx => hx.bind hv name) fun _ => rfl) fun _ _ => .pure trivial
  | .declare name (some e), h => .plain rfl fun a hE => by
    simp only [Stmt.Mentions, Expr.MentionsOption] at h
    unfold visitStmt
    refine (visitExpr_obeys hc hE e h).bind fun v hv => ?_
    exact .bind (.rescope (fun x hx => hx.bind hv name) fun _ => rfl) fun _ _ => .pure trivial
  | .ifElse cond yes no atCompileTime text, h => by
    simp only [Stmt.Mentions] at h
    obtain ⟨hcond, hyes, hno⟩ := h
    have hthen := stmt_follows hc yes hyes
    refine ⟨fun {a} hE => ?_, fun {a s fs kind total index} hE hfs hn => ?_⟩
    · unfold visitStmt
      refine .block fun s _ => ?_
      have first :
        Numbered (.branch s.blocks (if atCompileTime || Stmt.anyAtCompileTime no then .atCompileTime
          else .ifElse) · (Stmt.alternatives no + 1)) 1 _ := .next .none (t.caption text)
      refine .enter (first.branches (by omega)) ?_
      refine .bind (visitCondition_obeys hc (hE.enter _) hcond) fun _ _ => ?_
      refine .bind (hthen.alone (hE.enter _)) fun _ _ => ?_
      exact .andThen (visitElse_inside hc no hno hE first (by omega)) fun _ _ => .pure trivial
    · simp only [Stmt.alternatives] at hn
      unfold visitElse
      have next := hfs.next (t.caption text)
      refine .enter (next.branches (by omega)) ?_
      refine .bind (visitCondition_obeys hc (hE.enter _) hcond) fun _ _ => ?_
      refine .bind (hthen.alone (hE.enter _)) fun _ _ => ?_
      exact visitElse_inside hc no hno hE next (by omega)
  | .switch cond [] _, h => .plain rfl fun a hE => by
    simp only [Stmt.Mentions] at h
    unfold visitStmt
    refine .block fun s _ => .leave ?_
    exact (visitCondition_obeys hc hE h.1).bind fun _ _ => .pure trivial
  | .switch cond (⟨label, body⟩ :: rest) _, h => .plain rfl fun a hE => by
    simp only [Stmt.Mentions, Case.MentionsList] at h
    obtain ⟨hcond, hbody, hrest⟩ := h
    unfold visitStmt
    refine .block fun s _ => ?_
    have first : Numbered (.branch s.blocks .switch · (rest.length + 1)) 1 _ :=
      .next .none (t.caption (some (caseLabel label)))
    refine .enter (first.branches (by omega)) ?_
    refine .bind (visitCondition_obeys hc (hE.enter _) hcond) fun _ _ => ?_
    refine .bind (.inScope (visitBlock_obeys hc (hE.enter _) body hbody)) fun _ _ => ?_
    exact .andThen (visitCases_inside hc rest hrest hE first (by omega)) fun _ _ => .pure trivial
  | .whileLoop cond body text, h => .plain rfl fun a hE => by
    simp only [Stmt.Mentions] at h
    unfold visitStmt
    refine .block fun s _ => .enter (.loop s.blocks .whileLoop (t.caption text)) ?_
    refine .bind (visitCondition_obeys hc (hE.enter _) h.1) fun _ _ => ?_
    refine .bind ((stmt_follows hc body h.2).alone (hE.enter _)) fun _ _ => ?_
    exact .leave (.pure trivial)
  | .doLoop body cond text, h => .plain rfl fun a hE => by
    simp only [Stmt.Mentions] at h
    unfold visitStmt
    refine .block fun s _ => .enter (.loop s.blocks .doLoop (t.caption text)) ?_
    refine .bind ((stmt_follows hc body h.1).alone (hE.enter _)) fun _ _ => ?_
    refine .bind (visitCondition_obeys hc (hE.enter _) h.2) fun _ _ => ?_
    exact .leave (.pure trivial)
  | .forLoop first cond step body text, h => .plain rfl fun a hE => by
    simp only [Stmt.Mentions] at h
    obtain ⟨hfirst, hcond, hstep, hbody⟩ := h
    unfold visitStmt
    refine .inScope ((visitFirst_obeys hc hE first hfirst).bind fun _ _ => ?_)
    refine .block fun s _ => .enter (.loop s.blocks .forLoop (t.caption text)) ?_
    refine .bind (visitConditionOption_obeys hc (hE.enter _) hcond) fun _ _ => ?_
    refine .bind ((stmt_follows hc body hbody).alone (hE.enter _)) fun _ _ => ?_
    refine .bind (visitOption_obeys hc (hE.enter _) step hstep) fun _ _ => ?_
    exact .leave (.pure trivial)
  | .forEach range body text, h => .plain rfl fun a hE => by
    simp only [Stmt.Mentions] at h
    unfold visitStmt
    refine (visitExpr_obeys hc hE range h.1).bind fun _ _ => ?_
    refine .block fun s _ => .enter (.loop s.blocks .forEach (t.caption text)) ?_
    refine .bind ((stmt_follows hc body h.2).alone (hE.enter _)) fun _ _ => ?_
    exact .leave (.pure trivial)
  | .tryCatch body handlers, h => .plain rfl fun a hE => by
    simp only [Stmt.Mentions] at h
    unfold visitStmt
    refine ((stmt_follows hc body h.1).alone hE).bind fun flow _ => ?_
    refine .block fun s _ => ?_
    exact .andThen (visitHandlers_inside hc handlers h.2 hE .none) fun _ _ => .pure trivial
  | .ret value, h => .plain rfl fun a hE => by
    simp only [Stmt.Mentions] at h
    exact (visitOption_obeys hc hE value h).bind fun _ _ => .pure trivial
  | .coReturn value, h => .plain rfl fun a hE => by
    simp only [Stmt.Mentions] at h
    exact (visitOption_obeys hc hE value h).bind fun _ _ => .pure trivial
  | .breakOut, _ => .plain rfl fun _ _ => .pure trivial
  | .continueOn, _ => .plain rfl fun _ _ => .pure trivial
  | .skip, _ => .plain rfl fun _ _ => .pure trivial

theorem visitBlock_obeys {a : Activation} (hc : L.Twin c) (hE : L.Calls E E' a) :
    (body : List Stmt) → Stmt.MentionsList L.mention body →
      L.Obeys a (t.visitBlock E a body) ((t.recast c).visitBlock E' a body) fun _ => True
  | [], _ => .pure trivial
  | x :: rest, h => by
    simp only [Stmt.MentionsList] at h
    unfold visitBlock
    refine ((stmt_follows hc x h.1).alone hE).bind fun flow _ => ?_
    cases flow with
    | exit => exact .pure trivial
    | goOn => exact visitBlock_obeys hc hE rest h.2

theorem visitElse_inside (hc : L.Twin c) {a : Activation} {s : Trace} {fs : List Frame}
    {kind : BranchKind} {total index : Nat} :
    (no : Option Stmt) → Stmt.MentionsOption L.mention no → L.Calls E E' a →
      Numbered (.branch s.blocks kind · total) index fs → index + Stmt.alternatives no = total →
      L.Inside a s fs (t.visitElse E a s.blocks kind total index no)
        ((t.recast c).visitElse E' a s.blocks kind total index no) fun _ => True
  | none, _, _, _, _ => .leave (.pure trivial)
  | some x, h, hE, hfs, hn => by
    simp only [Stmt.MentionsOption] at h
    exact (stmt_follows hc x h).hanging hE hfs hn

theorem visitCases_inside (hc : L.Twin c) {a : Activation} {s : Trace} {fs : List Frame}
    {total index : Nat} :
    (cases : List Case) → Case.MentionsList L.mention cases → L.Calls E E' a →
      Numbered (.branch s.blocks .switch · total) index fs → index + cases.length = total →
      L.Inside a s fs (t.visitCases E a s.blocks total index cases)
        ((t.recast c).visitCases E' a s.blocks total index cases) fun _ => True
  | [], _, _, _, _ => .leave (.pure trivial)
  | ⟨label, body⟩ :: rest, h, hE, hfs, hn => by
    simp only [Case.MentionsList] at h
    rw [List.length_cons] at hn
    have next := hfs.next (t.caption (some (caseLabel label)))
    refine .enter (next.branches (by omega)) ?_
    refine .bind (.inScope (visitBlock_obeys hc (hE.enter _) body h.1)) fun _ _ => ?_
    exact visitCases_inside hc rest h.2 hE next (by omega)

theorem visitHandlers_inside (hc : L.Twin c) {a : Activation} {s : Trace} {fs : List Frame}
    {index : Nat} :
    (handlers : List Handler) → Handler.MentionsList L.mention handlers → L.Calls E E' a →
      Numbered (.handler s.blocks) index fs →
      L.Inside a s fs (t.visitHandlers E a s.blocks index handlers)
        ((t.recast c).visitHandlers E' a s.blocks index handlers) fun _ => True
  | [], _, _, _ => .leave (.pure trivial)
  | ⟨exception, body⟩ :: rest, h, hE, hfs => by
    simp only [Handler.MentionsList] at h
    have next := hfs.next (some (exception.getD "..."))
    refine .enter next.handlers ?_
    refine .bind ((stmt_follows hc body h.1).alone (hE.enter _)) fun _ _ => ?_
    exact visitHandlers_inside hc rest h.2 hE next

theorem visitFirst_obeys {a : Activation} (hc : L.Twin c) (hE : L.Calls E E' a) :
    (first : Option Stmt) → Stmt.MentionsOption L.mention first →
      L.Obeys a (t.visitFirst E a first) ((t.recast c).visitFirst E' a first) fun _ => True
  | none, _ => .pure trivial
  | some x, h => by
    simp only [Stmt.MentionsOption] at h
    exact ((stmt_follows hc x h).alone hE).bind fun _ _ => .pure trivial

end

theorem visitBody_obeys {a : Activation} (hc : L.Twin c) (hE : L.Calls E E' a) {body : Stmt}
    (h : body.Mentions L.mention) (f : Function) (operation : String) :
    L.Obeys a (t.visitBody E a f body operation) ((t.recast c).visitBody E' a f body operation)
      fun _ => True := by
  unfold visitBody
  cases f.isCoroutine with
  | true =>
    refine .block fun s _ => .enter (.coroutine s.blocks (some operation)) ?_
    refine .bind ((stmt_follows hc body h).alone (hE.enter _)) fun _ _ => ?_
    exact .leave (.pure trivial)
  | false => exact ((stmt_follows hc body h).alone hE).bind fun _ _ => .pure trivial

end Law

end Lifeline
