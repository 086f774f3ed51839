import Lifeline.Trace.Run

namespace Lifeline

inductive Mention
  | function (id : DeclId) (args : List String)
  | declaration (id : DeclId)

variable (P : Mention → Prop)

def Mention.OfOption : Option DeclId → Prop
  | none => True
  | some id => P (.function id [])

mutual

/-- All that an expression mentions is fit to be mentioned. -/
def Expr.Mentions : Expr → Prop
  | .call callee object args _ _ =>
    callee.Mentions ∧ Expr.MentionsOption object ∧ Expr.MentionsList args
  | .construct cls ctor args _ _ =>
    P (.declaration cls) ∧ Mention.OfOption P ctor ∧ Expr.MentionsList args
  | .lambda operator _ => P (.function operator [])
  | .coAwait operand awaiter _ => operand.Mentions ∧ Mention.OfOption P awaiter
  | .coYield operand _ => operand.Mentions
  | .async _ callable args _ => callable.Mentions ∧ Expr.MentionsList args
  | .declRef decl => P (.function decl [])
  | .var _ => True
  | .assign _ value => value.Mentions
  | .conditional cond yes no _ => cond.Mentions ∧ yes.Mentions ∧ no.Mentions
  | .other children => Expr.MentionsList children

def Expr.MentionsList : List Expr → Prop
  | [] => True
  | e :: rest => e.Mentions ∧ Expr.MentionsList rest

def Expr.MentionsOption : Option Expr → Prop
  | none => True
  | some e => e.Mentions

def Callee.Mentions : Callee → Prop
  | .decl id args _ => P (.function id args)
  | .expr e => e.Mentions
  | .var _ => True
  | .unresolved _ template => Mention.OfOption P template

end

mutual

def Stmt.Mentions : Stmt → Prop
  | .block body => Stmt.MentionsList body
  | .expr e => e.Mentions P
  | .declare _ value => Expr.MentionsOption P value
  | .ifElse cond yes no _ _ => cond.Mentions P ∧ yes.Mentions ∧ Stmt.MentionsOption no
  | .switch cond cases _ => cond.Mentions P ∧ Case.MentionsList cases
  | .whileLoop cond body _ => cond.Mentions P ∧ body.Mentions
  | .doLoop body cond _ => body.Mentions ∧ cond.Mentions P
  | .forLoop first cond step body _ =>
    Stmt.MentionsOption first ∧ Expr.MentionsOption P cond ∧
      Expr.MentionsOption P step ∧ body.Mentions
  | .forEach range body _ => range.Mentions P ∧ body.Mentions
  | .tryCatch body handlers => body.Mentions ∧ Handler.MentionsList handlers
  | .ret value => Expr.MentionsOption P value
  | .coReturn value => Expr.MentionsOption P value
  | .breakOut => True
  | .continueOn => True
  | .skip => True

def Stmt.MentionsList : List Stmt → Prop
  | [] => True
  | s :: rest => s.Mentions ∧ Stmt.MentionsList rest

def Stmt.MentionsOption : Option Stmt → Prop
  | none => True
  | some s => s.Mentions

def Case.MentionsList : List Case → Prop
  | [] => True
  | ⟨_, body⟩ :: rest => Stmt.MentionsList body ∧ Case.MentionsList rest

def Handler.MentionsList : List Handler → Prop
  | [] => True
  | ⟨_, body⟩ :: rest => body.Mentions ∧ Handler.MentionsList rest

end

/-- All declarations and plain functions may be mentioned, and functions with each of these template
arguments. -/
structure Mention.Covers (args : List (List String)) : Prop where
  declaration : ∀ id, P (.declaration id)
  plain : ∀ id, P (.function id [])
  given : ∀ x ∈ args, ∀ id, P (.function id x)

section

variable {P}

theorem Mention.covers_append {xs ys : List (List String)} :
    Mention.Covers P (xs ++ ys) ↔ Mention.Covers P xs ∧ Mention.Covers P ys := by
  constructor
  · rintro ⟨hdecl, hplain, hgiven⟩
    obtain ⟨hxs, hys⟩ := List.forall_mem_append.1 hgiven
    exact ⟨⟨hdecl, hplain, hxs⟩, hdecl, hplain, hys⟩
  · rintro ⟨⟨hdecl, hplain, hxs⟩, hys⟩
    exact ⟨hdecl, hplain, List.forall_mem_append.2 ⟨hxs, hys.given⟩⟩

theorem Mention.Covers.ofOption {args : List (List String)} (h : Mention.Covers P args)
    (id : Option DeclId) : Mention.OfOption P id := by
  cases id with
  | none => trivial
  | some id => exact h.plain id

mutual

/-- What code may mention is a matter of the template arguments at its calls, if all else may be
mentioned. -/
theorem Expr.mentions_of_covers : (e : Expr) → Mention.Covers P e.callArgs → e.Mentions P
  | .call callee object args _ _, h => by
    simp only [Expr.callArgs, Mention.covers_append] at h
    simp only [Expr.Mentions]
    exact ⟨callee.mentions_of_covers h.1.1, Expr.mentionsOption_of_covers object h.1.2,
      Expr.mentionsList_of_covers args h.2⟩
  | .construct cls ctor args _ _, h => by
    simp only [Expr.callArgs] at h
    simp only [Expr.Mentions]
    exact ⟨h.declaration cls, h.ofOption ctor, Expr.mentionsList_of_covers args h⟩
  | .lambda operator _, h => by
    simp only [Expr.Mentions]
    exact h.plain operator
  | .coAwait operand awaiter _, h => by
    simp only [Expr.callArgs] at h
    simp only [Expr.Mentions]
    exact ⟨operand.mentions_of_covers h, h.ofOption awaiter⟩
  | .coYield operand _, h => by
    simp only [Expr.callArgs] at h
    simp only [Expr.Mentions]
    exact operand.mentions_of_covers h
  | .async _ callable args _, h => by
    simp only [Expr.callArgs, Mention.covers_append] at h
    simp only [Expr.Mentions]
    exact ⟨callable.mentions_of_covers h.1, Expr.mentionsList_of_covers args h.2⟩
  | .declRef decl, h => by
    simp only [Expr.Mentions]
    exact h.plain decl
  | .var _, _ => by simp only [Expr.Mentions]
  | .assign _ value, h => by
    simp only [Expr.callArgs] at h
    simp only [Expr.Mentions]
    exact value.mentions_of_covers h
  | .conditional cond yes no _, h => by
    simp only [Expr.callArgs, Mention.covers_append] at h
    simp only [Expr.Mentions]
    exact ⟨cond.mentions_of_covers h.1.1, yes.mentions_of_covers h.1.2, no.mentions_of_covers h.2⟩
  | .other children, h => by
    simp only [Expr.callArgs] at h
    simp only [Expr.Mentions]
    exact Expr.mentionsList_of_covers children h

theorem Expr.mentionsList_of_covers :
    (es : List Expr) → Mention.Covers P (Expr.callArgsList es) → Expr.MentionsList P es
  | [], _ => by simp only [Expr.MentionsList]
  | e :: rest, h => by
    simp only [Expr.callArgsList, Mention.covers_append] at h
    simp only [Expr.MentionsList]
    exact ⟨e.mentions_of_covers h.1, Expr.mentionsList_of_covers rest h.2⟩

theorem Expr.mentionsOption_of_covers :
    (e : Option Expr) → Mention.Covers P (Expr.callArgsOption e) → Expr.MentionsOption P e
  | none, _ => by simp only [Expr.MentionsOption]
  | some e, h => by
    simp only [Expr.callArgsOption] at h
    simp only [Expr.MentionsOption]
    exact e.mentions_of_covers h

theorem Callee.mentions_of_covers : (c : Callee) → Mention.Covers P c.callArgs → c.Mentions P
  | .decl id args _, h => by
    simp only [Callee.callArgs] at h
    simp only [Callee.Mentions]
    exact h.given args (List.mem_singleton.2 rfl) id
  | .expr e, h => by
    simp only [Callee.callArgs] at h
    simp only [Callee.Mentions]
    exact e.mentions_of_covers h
  | .var _, _ => by simp only [Callee.Mentions]
  | .unresolved _ template, h => by
    simp only [Callee.Mentions]
    exact h.ofOption template

end

mutual

theorem Stmt.mentions_of_covers : (x : Stmt) → Mention.Covers P x.callArgs → x.Mentions P
  | .block body, h => by
    simp only [Stmt.callArgs] at h
    simp only [Stmt.Mentions]
    exact Stmt.mentionsList_of_covers body h
  | .expr e, h => by
    simp only [Stmt.callArgs] at h
    simp only [Stmt.Mentions]
    exact e.mentions_of_covers h
  | .declare _ value, h => by
    simp only [Stmt.callArgs] at h
    simp only [Stmt.Mentions]
    exact Expr.mentionsOption_of_covers value h
  | .ifElse cond yes no _ _, h => by
    simp only [Stmt.callArgs, Mention.covers_append] at h
    simp only [Stmt.Mentions]
    exact ⟨cond.mentions_of_covers h.1.1, yes.mentions_of_covers h.1.2,
      Stmt.mentionsOption_of_covers no h.2⟩
  | .switch cond cases _, h => by
    simp only [Stmt.callArgs, Mention.covers_append] at h
    simp only [Stmt.Mentions]
    exact ⟨cond.mentions_of_covers h.1, Case.mentionsList_of_covers cases h.2⟩
  | .whileLoop cond body _, h => by
    simp only [Stmt.callArgs, Mention.covers_append] at h
    simp only [Stmt.Mentions]
    exact ⟨cond.mentions_of_covers h.1, body.mentions_of_covers h.2⟩
  | .doLoop body cond _, h => by
    simp only [Stmt.callArgs, Mention.covers_append] at h
    simp only [Stmt.Mentions]
    exact ⟨body.mentions_of_covers h.1, cond.mentions_of_covers h.2⟩
  | .forLoop first cond step body _, h => by
    simp only [Stmt.callArgs, Mention.covers_append] at h
    simp only [Stmt.Mentions]
    exact ⟨Stmt.mentionsOption_of_covers first h.1.1.1, Expr.mentionsOption_of_covers cond h.1.1.2,
      Expr.mentionsOption_of_covers step h.1.2, body.mentions_of_covers h.2⟩
  | .forEach range body _, h => by
    simp only [Stmt.callArgs, Mention.covers_append] at h
    simp only [Stmt.Mentions]
    exact ⟨range.mentions_of_covers h.1, body.mentions_of_covers h.2⟩
  | .tryCatch body handlers, h => by
    simp only [Stmt.callArgs, Mention.covers_append] at h
    simp only [Stmt.Mentions]
    exact ⟨body.mentions_of_covers h.1, Handler.mentionsList_of_covers handlers h.2⟩
  | .ret value, h => by
    simp only [Stmt.callArgs] at h
    simp only [Stmt.Mentions]
    exact Expr.mentionsOption_of_covers value h
  | .coReturn value, h => by
    simp only [Stmt.callArgs] at h
    simp only [Stmt.Mentions]
    exact Expr.mentionsOption_of_covers value h
  | .breakOut, _ => by simp only [Stmt.Mentions]
  | .continueOn, _ => by simp only [Stmt.Mentions]
  | .skip, _ => by simp only [Stmt.Mentions]

theorem Stmt.mentionsList_of_covers :
    (body : List Stmt) → Mention.Covers P (Stmt.callArgsList body) → Stmt.MentionsList P body
  | [], _ => by simp only [Stmt.MentionsList]
  | x :: rest, h => by
    simp only [Stmt.callArgsList, Mention.covers_append] at h
    simp only [Stmt.MentionsList]
    exact ⟨x.mentions_of_covers h.1, Stmt.mentionsList_of_covers rest h.2⟩

theorem Stmt.mentionsOption_of_covers :
    (x : Option Stmt) → Mention.Covers P (Stmt.callArgsOption x) → Stmt.MentionsOption P x
  | none, _ => by simp only [Stmt.MentionsOption]
  | some x, h => by
    simp only [Stmt.callArgsOption] at h
    simp only [Stmt.MentionsOption]
    exact x.mentions_of_covers h

theorem Case.mentionsList_of_covers :
    (cases : List Case) → Mention.Covers P (Case.callArgsList cases) → Case.MentionsList P cases
  | [], _ => by simp only [Case.MentionsList]
  | ⟨_, body⟩ :: rest, h => by
    simp only [Case.callArgsList, Mention.covers_append] at h
    simp only [Case.MentionsList]
    exact ⟨Stmt.mentionsList_of_covers body h.1, Case.mentionsList_of_covers rest h.2⟩

theorem Handler.mentionsList_of_covers :
    (handlers : List Handler) → Mention.Covers P (Handler.callArgsList handlers) →
      Handler.MentionsList P handlers
  | [], _ => by simp only [Handler.MentionsList]
  | ⟨_, body⟩ :: rest, h => by
    simp only [Handler.callArgsList, Mention.covers_append] at h
    simp only [Handler.MentionsList]
    exact ⟨body.mentions_of_covers h.1, Handler.mentionsList_of_covers rest h.2⟩

end

end

theorem Stmt.mentions_all (x : Option Stmt) : Stmt.MentionsOption (fun _ => True) x :=
  Stmt.mentionsOption_of_covers x ⟨fun _ => trivial, fun _ => trivial, fun _ _ _ => trivial⟩

inductive Value.Mentions : Value → Prop
  | lambda {operator : DeclId} {captured : Bindings} :
    P (.function operator []) → (∀ b ∈ captured, b.2.Mentions) →
      Mentions (.lambda operator captured)
  | function {decl : DeclId} : P (.function decl []) → Mentions (.function decl)
  | unknown : Mentions .unknown

def Bindings.Mentions (b : Bindings) : Prop :=
  ∀ v ∈ b, v.2.Mentions P

def Scopes.Mentions (s : Scopes) : Prop :=
  ∀ b ∈ s.toList, Bindings.Mentions P b

variable {P}

theorem Bindings.Mentions.nil : Bindings.Mentions P [] :=
  fun _ hv => nomatch hv

theorem Bindings.Mentions.get? {b : Bindings} (h : b.Mentions P) {name : String} {v : Value}
    (hv : b.get? name = some v) : v.Mentions P := by
  induction b with
  | nil => simp [Bindings.get?] at hv
  | cons x rest ih =>
    obtain ⟨n, w⟩ := x
    rw [Bindings.get?, List.lookup_cons] at hv
    split at hv
    · cases hv
      exact h (n, v) List.mem_cons_self
    · exact ih (fun u hu => h u (List.mem_cons_of_mem _ hu)) hv

theorem Bindings.Mentions.set {b : Bindings} (h : b.Mentions P) {v : Value} (hv : v.Mentions P)
    (name : String) : (b.set name v).Mentions P := by
  induction b with
  | nil => simpa [Bindings.set, Bindings.Mentions] using hv
  | cons x rest ih =>
    obtain ⟨n, w⟩ := x
    have hrest : Bindings.Mentions P rest := fun u hu => h u (List.mem_cons_of_mem _ hu)
    unfold Bindings.set
    split
    · intro u hu
      rcases List.mem_cons.1 hu with rfl | hu
      · exact hv
      · exact hrest u hu
    · intro u hu
      rcases List.mem_cons.1 hu with rfl | hu
      · exact h (n, w) List.mem_cons_self
      · exact ih hrest u hu

theorem Bindings.Mentions.merge {b flat : Bindings} (hflat : flat.Mentions P) (hb : b.Mentions P) :
    Bindings.Mentions P (b.foldl (fun flat (n, v) => flat.set n v) flat) := by
  induction b generalizing flat with
  | nil => exact hflat
  | cons x rest ih =>
    obtain ⟨hx, hrest⟩ := List.forall_mem_cons.1 hb
    exact ih (hflat.set hx x.1) hrest

namespace Scopes

variable {s : Scopes} {v : Value}

theorem Mentions.empty : Scopes.empty.Mentions P :=
  List.forall_mem_singleton.2 .nil

theorem Mentions.push (h : s.Mentions P) : s.push.Mentions P :=
  List.forall_mem_cons.2 ⟨.nil, h⟩

theorem Mentions.pop (h : s.Mentions P) : s.pop.Mentions P := by
  unfold Scopes.pop
  split
  · exact h
  case h_2 b rest heq =>
    intro x hx
    exact h x (by rw [toList, heq]; exact List.mem_cons_of_mem _ hx)

theorem Mentions.bind (h : s.Mentions P) (hv : v.Mentions P) (name : String) :
    (s.bind name v).Mentions P := by
  intro b hb
  rcases List.mem_cons.1 hb with rfl | hb
  · exact (h s.inner List.mem_cons_self).set hv name
  · exact h b (List.mem_cons_of_mem _ hb)

theorem assignIn?_mentions {bs cs : List Bindings} {name : String}
    (hbs : ∀ b ∈ bs, Bindings.Mentions P b) (hv : v.Mentions P)
    (h : assignIn? name v bs = some cs) : ∀ b ∈ cs, Bindings.Mentions P b := by
  induction bs generalizing cs with
  | nil => simp [assignIn?] at h
  | cons b rest ih =>
    have hb : Bindings.Mentions P b := hbs b List.mem_cons_self
    have hrest : ∀ x ∈ rest, Bindings.Mentions P x := fun x hx => hbs x (List.mem_cons_of_mem _ hx)
    unfold assignIn? at h
    split at h
    · cases h
      exact List.forall_mem_cons.2 ⟨hb.set hv name, hrest⟩
    · obtain ⟨ds, hds, rfl⟩ := Option.map_eq_some_iff.1 h
      exact List.forall_mem_cons.2 ⟨hb, ih hrest hds⟩

theorem Mentions.assign (h : s.Mentions P) (hv : v.Mentions P) (name : String) :
    (s.assign name v).Mentions P := by
  unfold Scopes.assign
  split
  case h_1 b rest heq => exact assignIn?_mentions h hv heq
  · exact h.bind hv name

theorem Mentions.get? (h : s.Mentions P) {name : String}
    (hv : s.get? name = some v) : v.Mentions P := by
  obtain ⟨b, hb, hget⟩ := List.exists_of_findSome?_eq_some hv
  exact (h b hb).get? hget

theorem Mentions.getD (h : s.Mentions P) (name : String) :
    ((s.get? name).getD .unknown).Mentions P := by
  cases hv : s.get? name with
  | none => exact .unknown
  | some v => exact h.get? hv

theorem Mentions.snapshot (h : s.Mentions P) : s.snapshot.Mentions P := by
  have flat : ∀ bs : List Bindings, (∀ b ∈ bs, Bindings.Mentions P b) →
      Bindings.Mentions P
        (bs.foldr (fun b flat => b.foldl (fun flat (n, v) => flat.set n v) flat) []) := by
    intro bs
    induction bs with
    | nil => exact fun _ => .nil
    | cons b rest ih =>
      intro hbs
      obtain ⟨hb, hrest⟩ := List.forall_mem_cons.1 hbs
      exact (ih hrest).merge hb
  exact flat s.toList h

theorem Mentions.bindParam (h : s.Mentions P) (hv : v.Mentions P) (param : Param) :
    (s.bindParam param v).Mentions P := by
  unfold Scopes.bindParam
  split
  · exact h.bind hv param.name
  · exact h

theorem Mentions.forBody {captured : Option Bindings} {args : List Value}
    (hc : ∀ b, captured = some b → b.Mentions P) (hargs : ∀ v ∈ args, v.Mentions P)
    (params : List Param) :
    (Scopes.forBody captured params args).Mentions P := by
  have bound :
    ∀ (pairs : List (Param × Value)) (s : Scopes), (∀ x ∈ pairs, x.2.Mentions P) → s.Mentions P →
      (pairs.foldl (fun s x => s.bindParam x.1 x.2) s).Mentions P := by
    intro pairs
    induction pairs with
    | nil => exact fun s _ hs => hs
    | cons x rest ih =>
      intro s hpairs hs
      obtain ⟨hx, hrest⟩ := List.forall_mem_cons.1 hpairs
      exact ih _ hrest (hs.bindParam hx x.1)
  refine bound _ _ (fun x hx => hargs x.2 (List.of_mem_zip hx).2) ?_
  cases captured with
  | none => exact .empty
  | some c =>
    have houter : ∀ b ∈ [c], Bindings.Mentions P b := List.forall_mem_singleton.2 (hc c rfl)
    exact List.forall_mem_cons.2 ⟨.nil, houter⟩

end Scopes

end Lifeline
