import Lifeline.Program.Callees
import Lifeline.Proofs.Mention

namespace Lifeline

inductive Aside
  | lambda (operator : DeclId)
  | awaiter (id : DeclId)
  | template (id : DeclId)
  | cls (id : DeclId)
  deriving DecidableEq

def Aside.mention : Aside → Mention
  | .lambda id => .function id []
  | .awaiter id => .function id []
  | .template id => .function id []
  | .cls id => .declaration id

mutual

def Expr.asides : Expr → List Aside
  | .call callee object args _ _ =>
    callee.asides ++ Expr.asidesOption object ++ Expr.asidesList args
  | .construct cls _ args _ _ => [.cls cls] ++ Expr.asidesList args
  | .lambda operator _ => [.lambda operator]
  | .coAwait operand awaiter _ => operand.asides ++ awaiter.toList.map .awaiter
  | .coYield operand _ => operand.asides
  | .async _ callable args _ => callable.asides ++ Expr.asidesList args
  | .declRef _ => []
  | .var _ => []
  | .assign _ value => value.asides
  | .conditional cond yes no _ => cond.asides ++ yes.asides ++ no.asides
  | .other children => Expr.asidesList children

def Expr.asidesList : List Expr → List Aside
  | [] => []
  | e :: rest => e.asides ++ Expr.asidesList rest

def Expr.asidesOption : Option Expr → List Aside
  | none => []
  | some e => e.asides

def Callee.asides : Callee → List Aside
  | .decl _ _ _ => []
  | .expr e => e.asides
  | .var _ => []
  | .unresolved _ template => template.toList.map .template

end

mutual

def Stmt.asides : Stmt → List Aside
  | .block body => Stmt.asidesList body
  | .expr e => e.asides
  | .declare _ value => Expr.asidesOption value
  | .ifElse cond yes no _ _ => cond.asides ++ yes.asides ++ Stmt.asidesOption no
  | .switch cond cases _ => cond.asides ++ Case.asidesList cases
  | .whileLoop cond body _ => cond.asides ++ body.asides
  | .doLoop body cond _ => body.asides ++ cond.asides
  | .forLoop first cond step body _ =>
    Stmt.asidesOption first ++ Expr.asidesOption cond ++ Expr.asidesOption step ++ body.asides
  | .forEach range body _ => range.asides ++ body.asides
  | .tryCatch body handlers => body.asides ++ Handler.asidesList handlers
  | .ret value => Expr.asidesOption value
  | .coReturn value => Expr.asidesOption value
  | .breakOut => []
  | .continueOn => []
  | .skip => []

def Stmt.asidesList : List Stmt → List Aside
  | [] => []
  | x :: rest => x.asides ++ Stmt.asidesList rest

def Stmt.asidesOption : Option Stmt → List Aside
  | none => []
  | some x => x.asides

def Case.asidesList : List Case → List Aside
  | [] => []
  | ⟨_, body⟩ :: rest => Stmt.asidesList body ++ Case.asidesList rest

def Handler.asidesList : List Handler → List Aside
  | [] => []
  | ⟨_, body⟩ :: rest => body.asides ++ Handler.asidesList rest

end

def Decl.asides (d : Decl) : List Aside :=
  Stmt.asidesOption d.body?

structure Mention.Allows (P : Mention → Prop) (callees : List DeclId)
    (asides : List Aside) : Prop where
  callees : ∀ id ∈ callees, ∀ args, P (.function id args)
  asides : ∀ x ∈ asides, P x.mention

namespace Mention

variable {P : Mention → Prop} {ids ids' : List DeclId} {xs xs' : List Aside}

theorem allows_append :
    Allows P (ids ++ ids') (xs ++ xs') ↔ Allows P ids xs ∧ Allows P ids' xs' := by
  constructor
  · intro h
    obtain ⟨hids, hids'⟩ := List.forall_mem_append.mp h.callees
    obtain ⟨hxs, hxs'⟩ := List.forall_mem_append.mp h.asides
    exact ⟨⟨hids, hxs⟩, hids', hxs'⟩
  · intro h
    exact ⟨List.forall_mem_append.mpr ⟨h.1.callees, h.2.callees⟩,
      List.forall_mem_append.mpr ⟨h.1.asides, h.2.asides⟩⟩

theorem Allows.ofOption {id : Option DeclId} (h : Allows P id.toList xs) : OfOption P id := by
  cases id with
  | none => trivial
  | some id => exact h.callees id (List.mem_singleton.mpr rfl) []

theorem Allows.ofAside {id : Option DeclId} {kind : DeclId → Aside}
    (hkind : ∀ id, (kind id).mention = .function id []) (h : Allows P ids (id.toList.map kind)) :
    OfOption P id := by
  cases id with
  | none => trivial
  | some id =>
    have := h.asides (kind id) (List.mem_singleton.mpr rfl)
    rwa [hkind] at this

end Mention

section

variable {P : Mention → Prop}

open Mention

mutual

theorem Expr.mentions_of_allows : (e : Expr) → Allows P e.callees e.asides → e.Mentions P
  | .call callee object args _ _, h => by
    simp only [Expr.callees, Expr.asides, allows_append] at h
    simp only [Expr.Mentions]
    exact ⟨callee.mentions_of_allows h.1.1, Expr.mentionsOption_of_allows object h.1.2,
      Expr.mentionsList_of_allows args h.2⟩
  | .construct cls ctor args _ _, h => by
    simp only [Expr.callees, Expr.asides, allows_append] at h
    simp only [Expr.Mentions]
    exact ⟨h.1.asides (.cls cls) (List.mem_singleton.mpr rfl), h.1.ofOption,
      Expr.mentionsList_of_allows args h.2⟩
  | .lambda operator _, h => by
    simp only [Expr.asides] at h
    simp only [Expr.Mentions]
    exact h.asides (.lambda operator) (List.mem_singleton.mpr rfl)
  | .coAwait operand awaiter _, h => by
    rw [Expr.callees, Expr.asides, ← List.append_nil operand.callees, allows_append] at h
    simp only [Expr.Mentions]
    exact ⟨operand.mentions_of_allows h.1, h.2.ofAside fun _ => rfl⟩
  | .coYield operand _, h => by
    simp only [Expr.callees, Expr.asides] at h
    simp only [Expr.Mentions]
    exact operand.mentions_of_allows h
  | .async _ callable args _, h => by
    simp only [Expr.callees, Expr.asides, allows_append] at h
    simp only [Expr.Mentions]
    exact ⟨callable.mentions_of_allows h.1, Expr.mentionsList_of_allows args h.2⟩
  | .declRef decl, h => by
    simp only [Expr.callees] at h
    simp only [Expr.Mentions]
    exact h.callees decl (List.mem_singleton.mpr rfl) []
  | .var _, _ => by simp only [Expr.Mentions]
  | .assign _ value, h => by
    simp only [Expr.callees, Expr.asides] at h
    simp only [Expr.Mentions]
    exact value.mentions_of_allows h
  | .conditional cond yes no _, h => by
    simp only [Expr.callees, Expr.asides, allows_append] at h
    simp only [Expr.Mentions]
    exact ⟨cond.mentions_of_allows h.1.1, yes.mentions_of_allows h.1.2, no.mentions_of_allows h.2⟩
  | .other children, h => by
    simp only [Expr.callees, Expr.asides] at h
    simp only [Expr.Mentions]
    exact Expr.mentionsList_of_allows children h

theorem Expr.mentionsList_of_allows :
    (es : List Expr) → Allows P (Expr.calleesList es) (Expr.asidesList es) → Expr.MentionsList P es
  | [], _ => by simp only [Expr.MentionsList]
  | e :: rest, h => by
    simp only [Expr.calleesList, Expr.asidesList, allows_append] at h
    simp only [Expr.MentionsList]
    exact ⟨e.mentions_of_allows h.1, Expr.mentionsList_of_allows rest h.2⟩

theorem Expr.mentionsOption_of_allows :
    (e : Option Expr) →
      Allows P (Expr.calleesOption e) (Expr.asidesOption e) → Expr.MentionsOption P e
  | none, _ => by simp only [Expr.MentionsOption]
  | some e, h => by
    simp only [Expr.calleesOption, Expr.asidesOption] at h
    simp only [Expr.MentionsOption]
    exact e.mentions_of_allows h

theorem Callee.mentions_of_allows : (c : Callee) → Allows P c.callees c.asides → c.Mentions P
  | .decl id args _, h => by
    simp only [Callee.callees] at h
    simp only [Callee.Mentions]
    exact h.callees id (List.mem_singleton.mpr rfl) args
  | .expr e, h => by
    simp only [Callee.callees, Callee.asides] at h
    simp only [Callee.Mentions]
    exact e.mentions_of_allows h
  | .var _, _ => by simp only [Callee.Mentions]
  | .unresolved _ template, h => by
    simp only [Callee.asides] at h
    simp only [Callee.Mentions]
    exact h.ofAside fun _ => rfl

end

mutual

theorem Stmt.mentions_of_allows : (x : Stmt) → Allows P x.callees x.asides → x.Mentions P
  | .block body, h => by
    simp only [Stmt.callees, Stmt.asides] at h
    simp only [Stmt.Mentions]
    exact Stmt.mentionsList_of_allows body h
  | .expr e, h => by
    simp only [Stmt.callees, Stmt.asides] at h
    simp only [Stmt.Mentions]
    exact e.mentions_of_allows h
  | .declare _ value, h => by
    simp only [Stmt.callees, Stmt.asides] at h
    simp only [Stmt.Mentions]
    exact Expr.mentionsOption_of_allows value h
  | .ifElse cond yes no _ _, h => by
    simp only [Stmt.callees, Stmt.asides, allows_append] at h
    simp only [Stmt.Mentions]
    exact ⟨cond.mentions_of_allows h.1.1, yes.mentions_of_allows h.1.2,
      Stmt.mentionsOption_of_allows no h.2⟩
  | .switch cond cases _, h => by
    simp only [Stmt.callees, Stmt.asides, allows_append] at h
    simp only [Stmt.Mentions]
    exact ⟨cond.mentions_of_allows h.1, Case.mentionsList_of_allows cases h.2⟩
  | .whileLoop cond body _, h => by
    simp only [Stmt.callees, Stmt.asides, allows_append] at h
    simp only [Stmt.Mentions]
    exact ⟨cond.mentions_of_allows h.1, body.mentions_of_allows h.2⟩
  | .doLoop body cond _, h => by
    simp only [Stmt.callees, Stmt.asides, allows_append] at h
    simp only [Stmt.Mentions]
    exact ⟨body.mentions_of_allows h.1, cond.mentions_of_allows h.2⟩
  | .forLoop first cond step body _, h => by
    simp only [Stmt.callees, Stmt.asides, allows_append] at h
    simp only [Stmt.Mentions]
    exact ⟨Stmt.mentionsOption_of_allows first h.1.1.1, Expr.mentionsOption_of_allows cond h.1.1.2,
      Expr.mentionsOption_of_allows step h.1.2, body.mentions_of_allows h.2⟩
  | .forEach range body _, h => by
    simp only [Stmt.callees, Stmt.asides, allows_append] at h
    simp only [Stmt.Mentions]
    exact ⟨range.mentions_of_allows h.1, body.mentions_of_allows h.2⟩
  | .tryCatch body handlers, h => by
    simp only [Stmt.callees, Stmt.asides, allows_append] at h
    simp only [Stmt.Mentions]
    exact ⟨body.mentions_of_allows h.1, Handler.mentionsList_of_allows handlers h.2⟩
  | .ret value, h => by
    simp only [Stmt.callees, Stmt.asides] at h
    simp only [Stmt.Mentions]
    exact Expr.mentionsOption_of_allows value h
  | .coReturn value, h => by
    simp only [Stmt.callees, Stmt.asides] at h
    simp only [Stmt.Mentions]
    exact Expr.mentionsOption_of_allows value h
  | .breakOut, _ => by simp only [Stmt.Mentions]
  | .continueOn, _ => by simp only [Stmt.Mentions]
  | .skip, _ => by simp only [Stmt.Mentions]

theorem Stmt.mentionsList_of_allows :
    (body : List Stmt) →
      Allows P (Stmt.calleesList body) (Stmt.asidesList body) → Stmt.MentionsList P body
  | [], _ => by simp only [Stmt.MentionsList]
  | x :: rest, h => by
    simp only [Stmt.calleesList, Stmt.asidesList, allows_append] at h
    simp only [Stmt.MentionsList]
    exact ⟨x.mentions_of_allows h.1, Stmt.mentionsList_of_allows rest h.2⟩

theorem Stmt.mentionsOption_of_allows :
    (x : Option Stmt) →
      Allows P (Stmt.calleesOption x) (Stmt.asidesOption x) → Stmt.MentionsOption P x
  | none, _ => by simp only [Stmt.MentionsOption]
  | some x, h => by
    simp only [Stmt.calleesOption, Stmt.asidesOption] at h
    simp only [Stmt.MentionsOption]
    exact x.mentions_of_allows h

theorem Case.mentionsList_of_allows :
    (cases : List Case) →
      Allows P (Case.calleesList cases) (Case.asidesList cases) → Case.MentionsList P cases
  | [], _ => by simp only [Case.MentionsList]
  | ⟨_, body⟩ :: rest, h => by
    simp only [Case.calleesList, Case.asidesList, allows_append] at h
    simp only [Case.MentionsList]
    exact ⟨Stmt.mentionsList_of_allows body h.1, Case.mentionsList_of_allows rest h.2⟩

theorem Handler.mentionsList_of_allows :
    (handlers : List Handler) →
      Allows P (Handler.calleesList handlers) (Handler.asidesList handlers) →
      Handler.MentionsList P handlers
  | [], _ => by simp only [Handler.MentionsList]
  | ⟨_, body⟩ :: rest, h => by
    simp only [Handler.calleesList, Handler.asidesList, allows_append] at h
    simp only [Handler.MentionsList]
    exact ⟨body.mentions_of_allows h.1, Handler.mentionsList_of_allows rest h.2⟩

end

end

end Lifeline
