import Lifeline.Proofs.Interaction
import Lifeline.Proofs.Law.Basic

namespace Lifeline

theorem CallPath.enter_eq_entered {p q : CallPath} {c : Call} (h : p.enter c = .entered q) :
    c ∉ p.calls ∧ q = { p with calls := p.calls ++ [c] } := by
  unfold enter at h
  split at h
  · cases h
  case isFalse hc =>
    split at h
    · cases h
    · cases h
      exact ⟨by simpa [contains] using hc, rfl⟩

theorem CallPath.depth_enter {p q : CallPath} {c : Call} (h : p.enter c = .entered q) :
    q.depth = p.depth + 1 := by
  simp [depth, (enter_eq_entered h).2]

theorem Activation.Live.calling {a : Activation} {r : Roster} {p : ParticipantId} {c : Call}
    {path : CallPath} (h : a.Live r) (hp : r.isVisible p = true)
    (henter : a.path.enter c = .entered path) (inlined : Bool) :
    (a.calling path p inlined).Live r := by
  have hdepth : path.depth = a.path.depth + 1 := CallPath.depth_enter henter
  cases inlined with
  | true => exact ⟨h.caller, h.returnTo, by simp [Activation.calling, hdepth, h.entered]⟩
  | false =>
    refine ⟨hp, ?_, Nat.lt_of_lt_of_eq (Nat.lt_succ_of_lt h.entered) hdepth.symm⟩
    rintro q ⟨rfl⟩
    exact h.caller

namespace Tracer

variable {t : Tracer} {a : Activation} {s : Trace} {kind : MessageKind} {target : Target}

def callMessage (t : Tracer) (a : Activation) (kind : MessageKind) (certainty : Certainty)
    (target : Target) (location : Option Location) (text : Option String)
    (r : Roster) : Message where
  sender := a.caller
  receiver := target.participant
  operation := target.operation
  kind := kind
  context := a.context
  depth := a.depth
  scope := a.scope
  certainty := certainty
  location := location
  returnType := (r.get? target.participant).bind (·.returnType)
  note := if t.options.comments then text.map Text.trim else none

theorem comment_push {m : Message} {location : Option Location} (hm : m.isResponse = false)
    (hl : m.location = location) (hnote : m.note = none) (text : Option String) :
    t.comment (some s.interaction.size) location text (s.push m) =
      (.ok (),
        s.push { m with note := if t.options.comments then text.map Text.trim else none }) := by
  have hsame : s.push m = s.push { m with note := none } := by rw [← hnote]
  rcases text with _ | text
  · rw [Option.map_none, ite_self, ← hsame]
    rfl
  · simp only [comment]
    by_cases hc : t.options.comments = true
    · rw [if_pos hc, if_pos hc]
      rcases location with _ | site
      · show (Except.ok (),
          { s.push m with interaction := (s.interaction.push m).setNote s.interaction.size text }) =
          _
        rw [Interaction.setNote_push]
        rfl
      · have hsite : m.isAt site = true := by
          rw [Message.isAt, hl]
          exact site.same_refl
        show (Except.ok (), { s.push m with
          interaction :=
            ((s.interaction.push m).attachNote? site text).getD (s.interaction.push m) }) = _
        rw [Interaction.attachNote?_push hm hsite]
        rfl
    · rw [if_neg hc, if_neg hc, ← hsame]
      rfl

theorem announce_visible (hcaller : s.roster.isVisible a.caller = true)
    (htarget : s.roster.isVisible target.participant = true) (hkind : kind ≠ .response)
    (certainty : Certainty) (location : Option Location) (text : Option String) :
    t.announce a kind certainty target location text s =
      (.ok (some s.interaction.size),
        s.push (t.callMessage a kind certainty target location text s.roster)) := by
  let m : Message :=
    { t.callMessage a kind certainty target location text s.roster with note := none }
  have hsent :
      send a kind certainty target location s = (.ok (some s.interaction.size), s.push m) := by
    show (if s.roster.isVisible a.caller && s.roster.isVisible target.participant then _
      else _ : Visit _) s = _
    rw [hcaller, htarget]
    rfl
  have hm : m.isResponse = false := by simpa [m, callMessage, Message.isResponse] using hkind
  have hlocation : m.location = location := rfl
  unfold announce
  rw [Agree.run_bind, hsent]
  dsimp only
  rw [Agree.run_bind, t.comment_push (s := s) hm hlocation rfl text]
  rfl

theorem announce_run (hcaller : s.roster.isVisible a.caller = true)
    (htarget : s.roster.isVisible target.participant = true) (hkind : kind ≠ .response)
    (certainty : Certainty) (location : Option Location) (text : Option String) :
    ∃ m : Message, m.SentIn a ∧ m.receiver = target.participant ∧
      t.announce a kind certainty target location text s =
      (.ok (some s.interaction.size), s.push m) :=
  ⟨_, ⟨rfl, rfl, rfl, hkind⟩, rfl, announce_visible hcaller htarget hkind certainty location text⟩

theorem announce_unseen
    (h : (s.roster.isVisible a.caller && s.roster.isVisible target.participant) = false)
    (certainty : Certainty) (location : Option Location) (text : Option String) :
    t.announce a kind certainty target location text s = (.ok none, s) := by
  have hsent : send a kind certainty target location s = (.ok none, s) := by
    show (if s.roster.isVisible a.caller && s.roster.isVisible target.participant then _
      else _ : Visit _) s = _
    rw [h]
    rfl
  unfold announce
  rw [Agree.run_bind, hsent]
  rfl

theorem announce_hidden (htarget : s.roster.isVisible target.participant = false)
    (certainty : Certainty) (location : Option Location) (text : Option String) :
    t.announce a kind certainty target location text s = (.ok none, s) :=
  announce_unseen (by rw [htarget, Bool.and_false]) certainty location text

end Tracer

namespace Law

open Tracer

variable {t : Tracer} {L : Law t} {c : Casting} {a : Activation} {s : Trace} {E E' : Enter}

theorem calling_live {path : CallPath} {target : Target} (h : a.Live s.roster)
    (hf : a.Follows t.casting L.mention s.roster target path) (inlined : Bool) :
    (a.calling path target.participant inlined).Live s.roster ∧
      (a.calling path target.participant inlined).path.depth = a.path.depth + 1 := by
  obtain ⟨f, -, hlands⟩ := hf.lands
  refine ⟨h.calling hlands.visible hf.entered inlined, ?_⟩
  cases inlined <;> exact CallPath.depth_enter hf.entered

theorem body_mentions {f : Function} {body : Stmt} {target : Target} {r : Roster}
    (h : target.Lands t.casting L.mention r f) (hbody : f.body = some body) :
    body.Mentions L.mention := by
  obtain ⟨d, hd, _, hfun, -⟩ := h.declared
  have hprogram := L.program d hd.mem
  rw [Decl.body?, hfun, Option.bind_some, hbody] at hprogram
  simpa [Stmt.MentionsOption] using hprogram

/-- `now` is the trace when the body is visited: the present one, or that with the message of the
call. -/
theorem descend_agree {now : Trace} {target : Target} {args : List Value} {inlined : Bool}
    (hE : L.Calls E E' a) (h : L.Pre a s) (htarget : target.Sound t.casting L.mention s.roster)
    (hargs : ∀ v ∈ args, v.Mentions L.mention) (hroster : now.roster = s.roster)
    (hscopes : now.scopes = s.scopes) (hnow : L.rel a s now)
    (hcall : ∀ path, a.Follows t.casting L.mention s.roster target path →
      L.inv (a.calling path target.participant inlined) now)
    (hreturn : ∀ path x s', a.Follows t.casting L.mention s.roster target path →
      L.rel (a.calling path target.participant inlined) { now with scopes := x } s' →
      L.rel a s { s' with scopes := s.scopes }) :
    Agree (descend E a target args inlined) (descend E' a target args inlined) now
    (L.Post a s fun _ => True) := by
  have stay (x : Descent) : Agree (Pure.pure x) (Pure.pure x) now (L.Post a s fun _ => True) :=
    .pure ⟨hnow, hroster ▸ .refl _, hroster ▸ h.sound, hscopes ▸ h.scopes, trivial⟩
  unfold descend
  cases hfun : target.function with
  | none => exact stay .noBody
  | some f =>
    dsimp only
    cases hbody : f.body with
    | none => exact stay .noBody
    | some body =>
      dsimp only
      cases henter : a.path.enter (target.participant, target.operation) with
      | recursive => exact stay .refused
      | tooDeep => exact stay .refused
      | entered path =>
        have hlands := htarget.lands f hfun
        have hf : a.Follows t.casting L.mention s.roster target path :=
          ⟨henter, f, by simp [hbody], hlands⟩
        obtain ⟨hlive, hdepth⟩ := calling_live (L := L) h.live hf inlined
        let scopes := Scopes.forBody target.captured f.params args
        let callee := a.calling path target.participant inlined
        have hpre : L.Pre callee { now with scopes } :=
          ⟨hroster ▸ h.sound, hroster ▸ hlive, .forBody htarget.captured hargs f.params,
            L.scopes (hcall path hf)⟩
        have hvisit : Agree (Visit.withScopes scopes (E callee f body target.operation))
            (Visit.withScopes scopes (E' callee f body target.operation)) now
            (L.Post a s fun _ => True) := by
          refine Visit.agree_withScopes
            (hE callee f body _ hdepth (body_mentions hlands hbody) _ hpre) ?_
          intro result s' hs'
          rw [hscopes]
          exact ⟨hreturn path _ s' hf hs'.rel, hroster ▸ hs'.grown, hs'.sound,
            h.scopes, hs'.outcome⟩
        refine hvisit.bind ?_ ?_
        · exact fun _ _ hs' => .pure (hs'.ends trivial)
        · exact fun _ _ hs' => hs'.ends hs'.outcome

theorem respond_agree {sender receiver : ParticipantId} (h : L.Pre a s)
    (hsender : s.roster.isVisible sender = true) (hreceiver : s.roster.isVisible receiver = true)
    (operation : String) (location : Option Location) :
    Agree (respond a sender receiver operation location)
      (respond a sender receiver operation location) s (L.Post a s fun _ => True) :=
  ⟨rfl, L.answer h.inv h.live ⟨rfl, rfl, rfl⟩ hsender hreceiver, .refl _,
    h.sound, h.scopes, trivial⟩

theorem answer_agree {target : Target} {sent : Option Nat} (h : L.Pre a s) (kind : MessageKind)
    (hsent : sent.isSome = true → s.roster.isVisible target.participant = true) :
    Agree (t.answer a kind target sent) (t.answer a kind target sent) s
      (L.Post a s fun _ => True) := by
  unfold Tracer.answer
  refine .ite (fun hdrawn => ?_) (fun _ => Obeys.pure trivial s h)
  simp only [Bool.and_eq_true] at hdrawn
  exact .get_bind (respond_agree h (hsent hdrawn.1.1) h.live.caller _ none)

theorem orElse_obeys {u u' : Visit Unit} (hu : L.Obeys a u u' fun _ => True) (x : Descent) :
    L.Obeys a (x.orElse u) (x.orElse u') fun _ => True := by
  cases x with
  | noBody => exact hu
  | visited => exact .pure trivial
  | refused => exact .pure trivial

theorem deliver_agree {target : Target} {args : List Value} {kind : MessageKind} {u u' : Visit Unit}
    (hE : L.Calls E E' a) (h : L.Pre a s) (htarget : target.Sound t.casting L.mention s.roster)
    (hargs : ∀ v ∈ args, v.Mentions L.mention) (hkind : kind ≠ .response)
    (hu : L.Obeys a u u' fun _ => True) (certainty : Certainty) (location : Option Location)
    (text : Option String) :
    Agree (t.deliver E a kind certainty target args location text u)
      (t.deliver E' a kind certainty target args location text u') s
      (L.Post a s fun _ => True) := by
  -- After the message, if there is one, the rest is the same whether the closure is drawn or not.
  have rest {now : Trace} {inlined : Bool} {sent : Option Nat} (hroster : now.roster = s.roster)
      (hscopes : now.scopes = s.scopes) (hnow : L.rel a s now)
      (hsent : sent.isSome = true → s.roster.isVisible target.participant = true)
      (hcall : ∀ path, a.Follows t.casting L.mention s.roster target path →
        L.inv (a.calling path target.participant inlined) now)
      (hreturn : ∀ path x s', a.Follows t.casting L.mention s.roster target path →
        L.rel (a.calling path target.participant inlined) { now with scopes := x } s' →
        L.rel a s { s' with scopes := s.scopes }) :
      Agree (do (← descend E a target args inlined).orElse u; t.answer a kind target sent)
        (do (← descend E' a target args inlined).orElse u'; t.answer a kind target sent) now
        (L.Post a s fun _ => True) := by
    refine bind_grown h (descend_agree hE h htarget hargs hroster hscopes hnow hcall hreturn) ?_
    intro x s' h' hgrown _
    refine bind_grown h' (orElse_obeys hu x s' h') ?_
    intro _ s'' h'' hgrown' _
    exact answer_agree h'' kind fun hs => (hgrown.trans hgrown').isVisible (hsent hs)
  unfold deliver
  refine .get_bind ?_
  cases hin : t.isInlined s.roster target with
  | true =>
    exact rest rfl rfl (L.refl h.inv) (by simp) (fun path hf => L.inline h.inv h.live hf)
      (fun path x s' hf => L.ofInline h.inv h.live hf)
  | false =>
    cases hv : s.roster.isVisible target.participant with
    | true =>
      obtain ⟨m, hm, hreceiver, hrun⟩ :=
        announce_run (t := t) h.live.caller hv hkind certainty location text
      refine .run_then hrun (rest rfl rfl ?_ (fun _ => hv) ?_ ?_)
      · exact L.send h.inv h.live hm (hreceiver ▸ hv) (hreceiver ▸ htarget.meant hv)
      · exact fun path hf => L.call h.inv h.live hm hreceiver hf
      · exact fun path x s' hf => L.ofCall h.inv h.live hm hreceiver hf
    | false =>
      refine .run_then (announce_hidden hv certainty location text)
        (rest rfl rfl (L.refl h.inv) (by simp) ?_ ?_)
      · rintro path ⟨-, f, -, hlands⟩
        rw [hlands.visible] at hv
        cases hv
      · rintro path x s' ⟨-, f, -, hlands⟩
        rw [hlands.visible] at hv
        cases hv

theorem externalTarget_bind {k l : Option Target → Visit β} {after : β → Prop} (hc : L.Twin c)
    (h : L.Pre a s) (name : String)
    (next : ∀ x s', L.Pre a s' →
      (∀ target, x = some target → target.Sound t.casting L.mention s'.roster) →
      Agree (k x) (l x) s' (L.Post a s' after)) :
    Agree (t.externalTarget name >>= k) ((t.recast c).externalTarget name >>= l)
      s (L.Post a s after) := by
  unfold externalTarget
  dsimp only
  cases t.options.unresolved with
  | elide => exact next none s h (by simp)
  | external =>
    dsimp only
    rw [bind_assoc, bind_assoc]
    refine cast_bind h (.of_eq ((hc a s h).external name)
      (Casting.intern_resolves L.faults h.sound (e := .external name) trivial (by simp))) ?_
    intro participant s' h' hparticipant
    cases hid : participant.isTombstone with
    | true => exact next none s' h' (by simp)
    | false =>
      refine next _ s' h' ?_
      rintro target ⟨rfl⟩
      exact ⟨by simp, by simp,
        fun hv => .undeclared (.inr rfl) (hparticipant.2 (Roster.isVisible_iff.1 hv).1)⟩

theorem follow_agree {resolution : Resolution} {args : List Value} {kind : MessageKind}
    {u u' : Visit Unit} (hc : L.Twin c) (hE : L.Calls E E' a) (h : L.Pre a s)
    (hres : resolution.Sound t.casting L.mention s.roster)
    (hargs : ∀ v ∈ args, v.Mentions L.mention) (hkind : kind ≠ .response)
    (hu : L.Obeys a u u' fun _ => True) (location : Option Location) (text : Option String) :
    Agree (t.follow E a kind resolution args location text u)
      ((t.recast c).follow E' a kind resolution args location text u') s
      (L.Post a s fun _ => True) := by
  cases resolution with
  | found certainty target => exact deliver_agree hE h hres hargs hkind hu certainty location text
  | filtered => exact hu s h
  | unresolved name =>
    refine externalTarget_bind hc h name ?_
    intro x s' h' hx
    cases x with
    | none => exact hu s' h'
    | some target =>
      exact deliver_agree hE h' (hx target rfl) hargs hkind hu .external location text

theorem callClosures_obeys {values : List Value} (hc : L.Twin c) (hE : L.Calls E E' a)
    (hvalues : ∀ v ∈ values, v.Mentions L.mention) (location : Option Location) :
    L.Obeys a (t.callClosures E a location values) ((t.recast c).callClosures E' a location values)
      fun _ => True := by
  induction values with
  | nil => exact .pure trivial
  | cons v rest ih =>
    obtain ⟨hv, hrest⟩ := List.forall_mem_cons.1 hvalues
    cases v with
    | lambda operator captured =>
      intro s h
      refine cast_bind h (.of_eq ((hc a s h).value hv "lambda")
        (Casting.resolveValue_resolves L.faults h.sound hv "lambda")) ?_
      intro resolution s' h' hres
      refine bind_grown h'
        (follow_agree hc hE h' hres (by simp) (by simp) (.pure trivial) location none) ?_
      intro _ s'' h'' _ _
      exact ih hrest s'' h''
    | function decl => exact ih hrest
    | unknown => exact ih hrest

theorem Obeys.dispatch {x y : Cast Resolution} {args : List Value} {kind : MessageKind}
    (hc : L.Twin c) (hE : L.Calls E E' a)
    (hx : ∀ s, L.Pre a s → Agree x y s.roster
      (t.casting.Resolves a.caller L.fault (fun res r => res.Sound t.casting L.mention r) s.roster))
    (hargs : ∀ v ∈ args, v.Mentions L.mention) (hkind : kind ≠ .response)
    (location : Option Location) (text : Option String) {v : α} {ok : α → Prop} (hv : ok v) :
    L.Obeys a (do t.dispatch E a kind (← Visit.cast x) args location text; return v)
      (do (t.recast c).dispatch E' a kind (← Visit.cast y) args location text; return v) ok := by
  intro s h
  refine cast_bind h (hx s h) ?_
  intro resolution s' h' hres
  refine bind_grown h'
    (follow_agree hc hE h' hres hargs hkind (callClosures_obeys hc hE hargs location) location
    text) ?_
  intro _ s'' h'' _ _
  exact Obeys.pure hv s'' h''

end Law

end Lifeline
