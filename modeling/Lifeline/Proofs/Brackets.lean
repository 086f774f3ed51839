import Lifeline.Proofs.Pairing.Run

namespace Lifeline

structure Message.Answers (r : Roster) (answer m : Message) : Prop where
  kind : answer.kind = .response
  sender : answer.sender = m.receiver
  receiver : answer.receiver = m.sender
  depth : answer.depth = m.depth
  context : answer.context = m.context
  operation : ∃ p, r.get? m.receiver = some p ∧ answer.operation = p.returnType.getD ""

structure Message.Yields (m : Message) (sender receiver : ParticipantId) : Prop where
  kind : m.kind = .response
  operation : m.operation = "co_yield"
  sender : m.sender = sender
  receiver : m.receiver = receiver

structure Turn where
  caller : ParticipantId
  returnTo : Option ParticipantId

/-- Whose turn it is during a call: the callee's, or still the caller's where the body of the callee
is not visited and closures handed to it are called from here. -/
def Turn.During (x : Turn) (m : Message) (y : Turn) : Prop :=
  y = ⟨m.receiver, some m.sender⟩ ∨ y = x

/-- Messages in which calls and their responses are nested. -/
inductive Bracketed (r : Roster) : Turn → List Message → Prop
  | none {x : Turn} : Bracketed r x []
  | call {x y : Turn} {before inner : List Message} {m answer : Message} :
    Bracketed r x before → m.kind = .call ∨ m.kind = .coAwait → m.sender = x.caller → x.During m y →
    Bracketed r y inner → answer.Answers r m → Bracketed r x (before ++ m :: (inner ++ [answer]))
  | async {x y : Turn} {before inner : List Message} {m : Message} :
    Bracketed r x before → m.kind = .asyncCall → m.sender = x.caller →
      x.During m y → Bracketed r y inner →
    Bracketed r x (before ++ m :: inner)
  | yield {x : Turn} {before : List Message} {m : Message} {p : ParticipantId} :
    Bracketed r x before → x.returnTo = some p → m.Yields x.caller p → Bracketed r x (before ++ [m])

namespace Bracketed

variable {r r' : Roster} {x : Turn} {ms ms' : List Message}

theorem append (h : Bracketed r x ms) (h' : Bracketed r x ms') : Bracketed r x (ms ++ ms') := by
  induction h' with
  | none =>
    rw [List.append_nil]
    exact h
  | call _ hkind hsender hduring hinner hanswer ih _ =>
    rw [← List.append_assoc]
    exact .call (ih h) hkind hsender hduring hinner hanswer
  | async _ hkind hsender hduring hinner ih _ =>
    rw [← List.append_assoc]
    exact .async (ih h) hkind hsender hduring hinner
  | yield _ hreturn hm ih =>
    rw [← List.append_assoc]
    exact .yield (ih h) hreturn hm

theorem mono (h : Bracketed r x ms) (hr : r.Extends r') : Bracketed r' x ms := by
  induction h with
  | none => exact .none
  | call _ hkind hsender hduring _ hanswer ih ih' =>
    obtain ⟨p, hp, hop⟩ := hanswer.operation
    exact .call ih hkind hsender hduring ih' { hanswer with operation := ⟨p, hr.get? hp, hop⟩ }
  | async _ hkind hsender hduring _ ih ih' => exact .async ih hkind hsender hduring ih'
  | yield _ hreturn hm ih => exact .yield ih hreturn hm

end Bracketed

def Activation.turn (a : Activation) : Turn :=
  ⟨a.caller, a.returnTo⟩

namespace Tracer

structure Brackets (t : Tracer) (x : Turn) (s : Trace) (f : Option Fault) (s₁ : Trace) : Prop where
  grown : s.roster.Extends s₁.roster
  sound : s₁.roster.Sound
  added : ∃ new, s₁.interaction.messages.toList = s.interaction.messages.toList ++ new ∧
    (t.options.returnMessages = false → ∀ m ∈ new, m.kind ≠ .response) ∧
    (f = none → t.options.returnMessages = true → Bracketed s₁.roster x new)

namespace Brackets

variable {t : Tracer} {x : Turn} {s s₁ s₂ : Trace} {f : Option Fault}

theorem unchanged (hr : s.roster.Sound) : t.Brackets x s f s :=
  ⟨.refl _, hr, [], by simp, by simp, fun _ _ => .none⟩

theorem trans (h : t.Brackets x s none s₁) (h' : t.Brackets x s₁ f s₂) : t.Brackets x s f s₂ := by
  obtain ⟨new, hnew, hquiet, hnested⟩ := h.added
  obtain ⟨more, hmore, hquiet', hnested'⟩ := h'.added
  refine ⟨h.grown.trans h'.grown, h'.sound, new ++ more, ?_, ?_, ?_⟩
  · rw [hmore, hnew, List.append_assoc]
  · exact fun hoff => List.forall_mem_append.2 ⟨hquiet hoff, hquiet' hoff⟩
  · exact fun hf hon => ((hnested rfl hon).mono h'.grown).append (hnested' hf hon)

end Brackets

end Tracer

namespace Trace

def bare (s : Trace) : Trace :=
  { s with scopes := .empty }

variable {s s' : Trace}

theorem roster_of_bare (h : s.bare = s'.bare) : s.roster = s'.roster := by
  have hroster := congrArg roster h
  exact hroster

theorem blocks_of_bare (h : s.bare = s'.bare) : s.blocks = s'.blocks := by
  have hblocks := congrArg blocks h
  exact hblocks

theorem eq_of_bare (h : s.bare = s'.bare) (hscopes : s.scopes = s'.scopes) : s = s' := by
  have hself (s : Trace) : s = { s.bare with scopes := s.scopes } := rfl
  rw [hself s, hself s', h, hscopes]

end Trace

namespace Tracer

variable {t : Tracer} {s s' : Trace} {a : Activation}

theorem yielded_brackets (hsound : s.roster.Sound) (location : Option Location) :
    t.Brackets a.turn s none (t.yielded a location s) := by
  cases hreturn : a.returnTo with
  | none =>
    rw [yielded_none hreturn]
    exact .unchanged hsound
  | some receiver =>
    rw [yielded_some hreturn]
    cases hon : t.options.returnMessages with
    | false => exact .unchanged hsound
    | true =>
      refine ⟨.refl _, hsound, [yieldMessage a receiver location],
        Interaction.toList_push _ _, by simp [hon], ?_⟩
      exact fun _ _ => .yield (p := receiver) .none hreturn ⟨rfl, rfl, rfl, rfl⟩

theorem yielded_bare (h : s.bare = s'.bare) (location : Option Location) :
    (t.yielded a location s).bare = (t.yielded a location s').bare := by
  cases hreturn : a.returnTo with
  | none =>
    rw [yielded_none hreturn, yielded_none hreturn]
    exact h
  | some receiver =>
    rw [yielded_some hreturn, yielded_some hreturn]
    cases t.options.returnMessages with
    | false => exact h
    | true => exact congrArg (Trace.push · (yieldMessage a receiver location)) h

def bracketing (t : Tracer) : Pairing t t.options where
  inv a b s s' := a = b ∧ s.bare = s'.bare ∧ s.roster.Sound ∧ a.Live s.roster
  rel a _ s _ f s₁ s₁' := s₁.bare = s₁'.bare ∧ t.Brackets a.turn s f s₁
  void _ _ := False
  own _ _ := True
  wording operation operation' := operation = operation'
  refl h := ⟨h.2.1, .unchanged h.2.2.1⟩
  trans h h' := ⟨h'.1, h.2.trans h'.2⟩
  keeps h h' := ⟨h.1, h'.1, h'.2.sound, h.2.2.2.mono h'.2.grown⟩
  lasts h _ _ := h
  scopes h := h
  rescope _ _ _ _ h := ⟨h.1, h.2.grown, h.2.sound, h.2.added⟩
  condition := by
    rintro a _ s s' ⟨rfl, h, hsound, hlive⟩
    exact ⟨rfl, h, hsound, ⟨hlive.caller, hlive.returnTo, hlive.entered⟩⟩
  ofCondition _ h := h
  opens := by
    rintro a _ s s' ⟨rfl, h, hsound, -⟩
    exact ⟨congrArg Trace.opened h, .refl _, hsound, [], by simp [Trace.opened],
      by simp, fun _ _ => .none⟩
  enter := by
    rintro a _ s s' s₁ s₁' f g ⟨rfl, h, hsound, hlive⟩ ⟨h₁, hadded⟩ hfg
    rw [← Trace.blocks_of_bare h] at hfg
    have hlive₁ := hlive.mono hadded.grown
    exact ⟨congrArg a.enter (hfg.eq rfl), h₁, hadded.sound,
      ⟨hlive₁.caller, hlive₁.returnTo, hlive₁.entered⟩⟩
  ofEnter _ _ _ h := h
  yield := by
    rintro a _ s s' location ⟨rfl, h, hsound, -⟩
    exact ⟨yielded_bare h location, yielded_brackets hsound location⟩

theorem announced_messages (kind : MessageKind) (certainty : Certainty) (x : Target)
    (location : Option Location) (text : Option String) :
    (t.announced a kind certainty x location text s).interaction.messages.toList =
      s.interaction.messages.toList ++
        if t.draws a s.roster x then [t.callMessage a kind certainty x location text s.roster]
        else [] := by
  unfold announced
  split
  · exact Interaction.toList_push _ _
  · exact (List.append_nil _).symm

variable {x : Target} {kind : MessageKind} {certainty : Certainty} {location : Option Location}
  {text : Option String}
variable {y : Turn} {s₁ : Trace}

theorem seen_of_draws (h : t.draws a s.roster x = true) :
    (s.roster.get? x.participant).isSome = true := by
  rw [draws, Bool.and_eq_true, Bool.and_eq_true] at h
  exact Roster.get?_isSome_iff.2 (Roster.isVisible_iff.1 h.2.2).2

theorem Brackets.of_failed {g : Fault} (hkind : kind ≠ .response)
    (h : t.Brackets y (t.announced a kind certainty x location text s) (some g) s₁) :
    t.Brackets a.turn s (some g) s₁ := by
  obtain ⟨new, hnew, hquiet, -⟩ := h.added
  rw [announced_messages, List.append_assoc] at hnew
  refine ⟨by simpa using h.grown, h.sound, _, hnew, fun hoff => ?_, by simp⟩
  refine List.forall_mem_append.2 ⟨?_, hquiet hoff⟩
  split
  · simpa [callMessage] using hkind
  · simp

/-- What happens during a call is enclosed by the call and its response, if they are drawn. -/
theorem Brackets.enclosed (hkind : kind ≠ .response)
    (hturn : t.draws a s.roster x = true → y = ⟨x.participant, some a.caller⟩ ∨ y = a.turn)
    (hhidden : t.draws a s.roster x = false → y = a.turn)
    (h : t.Brackets y (t.announced a kind certainty x location text s) none s₁) :
    t.Brackets a.turn s none (t.answered a kind x (t.draws a s.roster x) s₁) := by
  obtain ⟨new, hnew, hquiet, hnested⟩ := h.added
  have hgrown : s.roster.Extends s₁.roster := by simpa using h.grown
  rw [announced_messages, List.append_assoc] at hnew
  cases hdraws : t.draws a s.roster x with
  | false =>
    rw [hdraws] at hnew
    cases hhidden hdraws
    exact ⟨hgrown, h.sound, new, hnew, hquiet, hnested⟩
  | true =>
    rw [hdraws, if_pos rfl] at hnew
    have hduring : a.turn.During (t.callMessage a kind certainty x location text s.roster) y :=
      hturn hdraws
    have hcalls : t.options.returnMessages = false →
        ∀ m ∈ [t.callMessage a kind certainty x location text s.roster] ++ new,
        m.kind ≠ .response :=
      fun hoff => List.forall_mem_append.2 ⟨by simpa [callMessage] using hkind, hquiet hoff⟩
    -- A call that is not waited for has no response.
    by_cases hasync : kind = .asyncCall
    · subst hasync
      exact ⟨hgrown, h.sound, _, hnew, hcalls,
        fun hf hon => .async .none rfl rfl hduring (hnested hf hon)⟩
    · have hcall : kind = .call ∨ kind = .coAwait := by
        cases kind <;> simp_all
      cases hon : t.options.returnMessages with
      | false =>
        have hsame : t.answered a kind x true s₁ = s₁ := by simp [answered, hon]
        rw [hsame]
        exact ⟨hgrown, h.sound, _, hnew, hcalls, by simp [hon]⟩
      | true =>
        have hpush : t.answered a kind x true s₁ = s₁.push (responseMessage a x s₁.roster) := by
          simp [answered, hon, hasync]
        obtain ⟨p, hp⟩ := Option.isSome_iff_exists.1 (seen_of_draws hdraws)
        have hp₁ := hgrown.get? hp
        rw [hpush]
        refine ⟨hgrown, h.sound,
          t.callMessage a kind certainty x location text s.roster ::
          (new ++ [responseMessage a x s₁.roster]), ?_, by simp [hon], fun hf _ => ?_⟩
        · simp [Trace.push, Interaction.push, hnew]
        · refine .call .none hcall rfl hduring (hnested hf hon) ⟨rfl, rfl,
            rfl, rfl, rfl, p, hp₁, ?_⟩
          simp [responseMessage, hp₁]

theorem turn_calling (path : CallPath) (p : ParticipantId) (inlined : Bool) :
    (a.calling path p inlined).turn = if inlined then a.turn else ⟨p, some a.caller⟩ := by
  cases inlined <;> rfl

section Deliver

variable {E E' : Enter} {u u' : Visit Unit}

theorem deliver_bodiless (hu : t.bracketing.Obeys a a u u') (hkind : kind ≠ .response)
    (hsound : s.roster.Sound) (hlive : a.Live s.roster) (hbody : x.function.bind (·.body) = none)
    (certainty : Certainty) (args : List Value) (location : Option Location)
    (text : Option String) :
    Both t.bracketing.void (t.bracketing.rel a a s s)
      (t.deliver E a kind certainty x args location text u s)
      (t.deliver E' a kind certainty x args location text u' s) := by
  obtain ⟨sent, hsent, hrun⟩ := t.deliver_run E a x hkind certainty args location text u s
  obtain ⟨sent', hsent', hrun'⟩ := t.deliver_run E' a x hkind certainty args location text u' s
  rw [hrun, hrun', attend_of_no_body hbody, attend_of_no_body hbody]
  have hinv : t.bracketing.inv a a (t.announced a kind certainty x location text s)
      (t.announced a kind certainty x location text s) :=
      ⟨rfl, rfl, by simpa using hsound, by simpa using hlive⟩
  refine (hu.both _ _ hinv rfl).bind t.bracketing.lasts ?_ ?_ (fun _ => answer_grows sent)
    fun _ => answer_grows sent'
  · rintro _ s₁ s₁' hscopes₁ ⟨hbare₁, hadded⟩
    obtain rfl := Trace.eq_of_bare hbare₁ hscopes₁
    rw [answer_run, answer_run, hsent, hsent']
    exact .done rfl ⟨rfl, hadded.enclosed hkind (fun _ => .inr rfl) fun _ => rfl⟩
  · rintro f s₁ s₁' ⟨hbare₁, hadded⟩
    exact ⟨hbare₁, hadded.of_failed hkind⟩

theorem deliver_body (hE : t.bracketing.Enters E E') (hkind : kind ≠ .response)
    (hsound : s.roster.Sound) (hlive : a.Live s.roster) {f : Function} {body : Stmt}
    (hf : x.function = some f) (hbody : f.body = some body)
    (hvisible : s.roster.isVisible x.participant = true) (certainty : Certainty) (args : List Value)
    (location : Option Location) (text : Option String) :
    Both t.bracketing.void (t.bracketing.rel a a s s)
      (t.deliver E a kind certainty x args location text u s)
      (t.deliver E' a kind certainty x args location text u' s) := by
  obtain ⟨sent, hsent, hrun⟩ := t.deliver_run E a x hkind certainty args location text u s
  obtain ⟨sent', hsent', hrun'⟩ := t.deliver_run E' a x hkind certainty args location text u' s
  rw [hrun, hrun', attend_of_body hf hbody, attend_of_body hf hbody]
  let turn : Turn := if t.isInlined s.roster x then a.turn else ⟨x.participant, some a.caller⟩
  have hdescend : Both t.bracketing.void
      (fun f s₁ s₁' => s₁.bare = s₁'.bare ∧
        t.Brackets turn (t.announced a kind certainty x location text s) f s₁)
      (descend E a x args (t.isInlined s.roster x) (t.announced a kind certainty x location text s))
      (descend E' a x args (t.isInlined s.roster x)
        (t.announced a kind certainty x location text s)) := by
    refine Pairing.descend_both hE ⟨rfl, .unchanged (by simpa using hsound)⟩ rfl rfl rfl _ _
      (fun g body' _ _ => ?_) args
    refine .of_eq fun path henter => ⟨⟨rfl, rfl, by simpa using hsound, ?_⟩,
      fun _ => trivial, rfl, ?_⟩
    · rw [announced_roster]
      exact hlive.calling hvisible henter _
    · rintro g s₁ s₁' ⟨hbare₁, hadded⟩
      rw [turn_calling] at hadded
      exact ⟨hbare₁, hadded.grown, hadded.sound, hadded.added⟩
  refine hdescend.bind t.bracketing.lasts ?_ ?_ (fun _ => answer_grows sent)
    fun _ => answer_grows sent'
  · rintro _ s₁ s₁' hscopes₁ ⟨hbare₁, hadded⟩
    obtain rfl := Trace.eq_of_bare hbare₁ hscopes₁
    rw [answer_run, answer_run, hsent, hsent']
    refine .done rfl ⟨rfl, hadded.enclosed hkind (fun hdraws => ?_) fun hdraws => ?_⟩
    · have hshown : t.isInlined s.roster x = false := by
        rw [draws, Bool.and_eq_true] at hdraws
        simpa using hdraws.1
      exact .inl (if_neg (by simp [hshown]))
    · have hinlined : t.isInlined s.roster x = true := by
        simpa [draws, hlive.caller, hvisible] using hdraws
      exact if_pos hinlined
  · rintro g s₁ s₁' ⟨hbare₁, hadded⟩
    exact ⟨hbare₁, hadded.of_failed hkind⟩

end Deliver

def bracketingDispatching (t : Tracer) : t.bracketing.Dispatching where
  meets _ _ s _ x y := x = y ∧ ∀ f, x.function = some f → s.roster.isVisible x.participant = true
  fulfil := by
    rintro a _ s s' q ⟨rfl, h, hsound, -⟩ - -
    rw [← Trace.roster_of_bare h]
    have hbare (r : Roster) : { s with roster := r }.bare = { s' with roster := r }.bare :=
      congrArg (fun s : Trace => { s with roster := r }) h
    have hgrows := Casting.fulfil_grows (c := t.casting) hsound a.caller q
    rcases hrun : t.casting.fulfil a.caller q s.roster with ⟨f | res, r⟩
    · rw [hrun] at hgrows
      exact .failed ⟨hbare r, hgrows.1, hgrows.2, [], by simp, by simp, by simp⟩
    · rw [hrun] at hgrows
      refine .done ⟨hbare r, hgrows.1, hgrows.2, [], by simp, by simp, fun _ _ => .none⟩ ?_
      cases res with
      | found certainty x => exact .found ⟨rfl, fun f hf => Casting.fulfil_visible hsound hrun hf⟩
      | unresolved name => exact .unresolved name
      | filtered => exact .filtered
  deliver := by
    intro E E' a b s s' x y kind u u' certainty args location text hE hu hkind hinv hscopes hmeets
    obtain ⟨rfl, hbare, hsound, hlive⟩ := hinv
    obtain rfl := Trace.eq_of_bare hbare hscopes
    obtain ⟨rfl, hvisible⟩ := hmeets
    cases hbody : x.function.bind (·.body) with
    | none => exact deliver_bodiless hu hkind hsound hlive hbody certainty args location text
    | some body =>
      obtain ⟨f, hf, hbody⟩ := Option.bind_eq_some_iff.1 hbody
      exact deliver_body hE hkind hsound hlive hf hbody (hvisible f hf) certainty args location text

def Answered (t : Tracer) (entry : Decl) (s : Trace) (f : Option Fault) (s₁ : Trace) : Prop :=
  ∃ new, s₁.interaction.messages.toList = s.interaction.messages.toList ++ new ∧
    (t.options.returnMessages = false → ∀ m ∈ new, m.kind ≠ .response) ∧
    (t.options.returnMessages = true → f = none →
      ∃ p, (t.casting.intern (.decl entry) s.roster).1 = .ok p ∧ Bracketed s₁.roster ⟨p, none⟩ new)

theorem trace_answered (hsound : s.roster.Sound) (entry : Decl) :
    Both (fun _ _ => False) (fun f s₁ _ => t.Answered entry s f s₁)
      (t.trace entry s) (t.trace entry s) := by
  have hfailed (f : Fault) {s₁ : Trace} (h : s₁.interaction = s.interaction) :
      t.Answered entry s (some f) s₁ :=
    ⟨[], by simp [h], by simp, by simp⟩
  refine Pairing.trace_both (P := t.bracketing) t.bracketingDispatching rfl rfl rfl
    (fun f => hfailed f rfl) fun _ => ?_
  have hgrows := (Casting.intern_grows (c := t.casting) hsound (.decl entry)).result
  rcases hrun : t.casting.intern (.decl entry) s.roster with ⟨f | p, r⟩
  · exact .failed (hfailed f rfl)
  · rw [hrun] at hgrows
    cases hp : p.isTombstone with
    | true => exact .excluded hp fun f => hfailed f rfl
    | false =>
      have hvisible : r.isVisible p = true :=
        hgrows.outcome (by simpa [ParticipantId.isTombstone] using hp)
      have hinterned : (t.casting.intern (.decl entry) s.roster).1 = .ok p := by rw [hrun]
      refine .begins hp
        ⟨?_, ⟨rfl, rfl, hgrows.sound, hvisible, by simp [start], by simp [start, CallPath.depth]⟩,
        fun _ _ _ => trivial, rfl, ?_⟩
      · exact ⟨[], by simp [Trace.begin], by simp, fun _ _ => ⟨p, hinterned, .none⟩⟩
      · rintro f s₁ s₁' ⟨-, hadded⟩
        obtain ⟨new, hnew, hquiet, hnested⟩ := hadded.added
        exact ⟨new, hnew, hquiet, fun hon hf => ⟨p, hinterned, hnested hf hon⟩⟩

/-- Responses are drawn where they should be and nowhere else: each after the call that it answers,
and around nothing but calls with their responses. -/
theorem responses_bracket_calls (hr : t.casting.Reached s.roster) (entry : Decl) :
    ∃ new, (t.trace entry s).2.interaction.messages.toList = s.interaction.messages.toList ++ new ∧
      (t.options.returnMessages = false → ∀ m ∈ new, m.kind ≠ .response) ∧
      (t.options.returnMessages = true → (t.trace entry s).1 = .ok () →
        ∃ p, (t.casting.intern (.decl entry) s.roster).1 = .ok p ∧
          Bracketed (t.trace entry s).2.roster ⟨p, none⟩ new) := by
  have hboth := trace_answered (t := t) hr.sound entry
  generalize t.trace entry s = x at hboth ⊢
  cases hboth with
  | lost h => exact h.elim
  | done _ h =>
    obtain ⟨new, hnew, hquiet, hnested⟩ := h
    exact ⟨new, hnew, hquiet, fun hon _ => hnested hon rfl⟩
  | failed _ h =>
    obtain ⟨new, hnew, hquiet, -⟩ := h
    exact ⟨new, hnew, hquiet, by simp⟩

end Tracer

def Sample.talkative : Tracer :=
  { Sample.tracer with options := { returnMessages := true } }

theorem Tracer.responses_bracket_calls_sample : Sample.talkative.casting.Reached {} ∧
    (Sample.talkative.trace Sample.run {}).1 = .ok () ∧
    ∃ new p, (Sample.talkative.trace Sample.run {}).2.interaction.messages.toList = new ∧
      new.length = 18 ∧
      Bracketed (Sample.talkative.trace Sample.run {}).2.roster ⟨p, none⟩ new := by
  obtain ⟨new, hnew, -, hnested⟩ :=
    responses_bracket_calls (t := Sample.talkative) (s := {}) .empty Sample.run
  have hok : (Sample.talkative.trace Sample.run {}).1 = .ok () := by decide +kernel
  obtain ⟨p, -, hbracketed⟩ := hnested rfl hok
  refine ⟨.empty, hok, new, p, hnew, ?_, hbracketed⟩
  have hlength :
      (Sample.talkative.trace Sample.run {}).2.interaction.messages.toList.length = 18 := by
    decide +kernel
  simpa [hnew] using hlength

end Lifeline
