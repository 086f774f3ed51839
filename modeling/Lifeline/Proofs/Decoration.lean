import Lifeline.Proofs.Pairing.Run

namespace Lifeline

def Frame.plain : Frame → Frame
  | .branch block kind index total _ => .branch block kind index total none
  | .loop block kind _ => .loop block kind none
  | .handler block index label => .handler block index label
  | .coroutine block label => .coroutine block label

def Message.plain (m : Message) : Message :=
  { m with context := m.context.map Frame.plain, note := none }

def TraceOptions.decorated (o : TraceOptions) (responses conditions comments : Bool) :
    TraceOptions :=
  { o with returnMessages := responses, conditionText := conditions, comments }

theorem Frame.Twins.plain {t u : Tracer} {n : Nat} {f g : Frame}
    (h : Frame.Twins t u (fun x y => x = y) n n f g) : g.plain = f.plain := by
  cases h with
  | branch kind index total text => rfl
  | loop kind text => rfl
  | handler index label => rfl
  | coroutine h => rw [h]

namespace Activation

variable (a : Activation) (context : Context) (path : CallPath) (callee : ParticipantId)
  (inlined : Bool)

theorem calling_inContext :
    ({ a with context } : Activation).calling path callee inlined =
      { a.calling path callee inlined with context } := by
  cases inlined <;> rfl

theorem context_calling : (a.calling path callee inlined).context = a.context := by
  cases inlined <;> rfl

end Activation

/-- The same trace up to decoration. -/
structure Trace.Resembles (s s' : Trace) : Prop where
  roster : s'.roster = s.roster
  blocks : s'.blocks = s.blocks
  entryPoints : s'.interaction.entryPoints = s.interaction.entryPoints
  calls : s'.interaction.calls.map Message.plain = s.interaction.calls.map Message.plain

namespace Trace.Resembles

variable {s s' : Trace} {m m' : Message}

theorem rescope (h : s.Resembles s') (x x' : Scopes) :
    Resembles { s with scopes := x } { s' with scopes := x' } :=
  { h with }

theorem opened (h : s.Resembles s') : s.opened.Resembles s'.opened :=
  { h with blocks := congrArg (· + 1) h.blocks }

theorem recast (h : s.Resembles s') (r : Roster) :
    Resembles { s with roster := r } { s' with roster := r } :=
  { h with roster := rfl }

theorem begin (h : s.Resembles s') (r : Roster) (p : ParticipantId) :
    (s.begin r p).Resembles (s'.begin r p) :=
  { h with roster := rfl, entryPoints := congrArg (· ++ [p]) h.entryPoints }

theorem push (h : s.Resembles s') (hm : m.isResponse = false) (hm' : m'.plain = m.plain) :
    (s.push m).Resembles (s'.push m') := by
  have hkind : m'.isResponse = m.isResponse := by
    have hplain := congrArg Message.isResponse hm'
    exact hplain
  refine { h with calls := ?_ }
  simp [Trace.push, Interaction.calls_push, hm, hkind, hm', h.calls]

theorem answer_left (h : s.Resembles s') (hm : m.isResponse = true) : (s.push m).Resembles s' :=
  { h with calls := by simp [Trace.push, Interaction.calls_push_response hm, h.calls] }

theorem answer_right (h : s.Resembles s') (hm : m.isResponse = true) : s.Resembles (s'.push m) :=
  { h with calls := by simp [Trace.push, Interaction.calls_push_response hm, h.calls] }

end Trace.Resembles

namespace Tracer

variable {t u : Tracer} {a b : Activation} {s s' : Trace}

theorem yielded_resembles (h : s.Resembles s') (location location' : Option Location) :
    (t.yielded a location s).Resembles (u.yielded b location' s') := by
  have hright : s.Resembles (u.yielded b location' s') := by
    unfold yielded
    split
    · split
      · exact h.answer_right rfl
      · exact h
    · exact h
  generalize u.yielded b location' s' = s₁' at hright
  unfold yielded
  split
  · split
    · exact hright.answer_left rfl
    · exact hright
  · exact hright

theorem answered_resembles (h : s.Resembles s') (kind : MessageKind) (x : Target)
    (drawn drawn' : Bool) :
    (t.answered a kind x drawn s).Resembles (u.answered b kind x drawn' s') := by
  have hright : s.Resembles (u.answered b kind x drawn' s') := by
    unfold answered
    split
    · exact h.answer_right rfl
    · exact h
  generalize u.answered b kind x drawn' s' = s₁' at hright
  unfold answered
  split
  · exact hright.answer_left rfl
  · exact hright

variable (t)

def decorating (responses conditions comments : Bool) :
    Pairing t (t.options.decorated responses conditions comments) where
  inv a b s s' :=
    (∃ context, b = { a with context } ∧ context.map Frame.plain = a.context.map Frame.plain) ∧
      s.Resembles s'
  rel _ _ _ _ _ s₁ s₁' := s₁.Resembles s₁'
  void _ _ := False
  own _ _ := True
  wording operation operation' := operation = operation'
  refl h := h.2
  trans _ h := h
  keeps h h' := ⟨h.1, h'⟩
  lasts h _ _ := h
  scopes h := ⟨h.1, h.2.rescope _ _⟩
  rescope _ _ y y' h := h.rescope y y'
  condition := by
    rintro a _ s s' ⟨⟨context, rfl, hcontext⟩, h⟩
    exact ⟨⟨context, rfl, hcontext⟩, h⟩
  ofCondition _ h := h
  opens h := h.2.opened
  enter := by
    rintro a _ s s' s₁ s₁' f g ⟨⟨context, rfl, hcontext⟩, h⟩ h₁ hfg
    rw [h.blocks] at hfg
    exact ⟨⟨context ++ [g], rfl, by simp [Activation.enter, hcontext, hfg.plain]⟩, h₁⟩
  ofEnter _ _ _ h := h
  yield h := yielded_resembles h.2 _ _

variable {t}

theorem announced_resembles (responses conditions comments : Bool) {context : Context}
    (hcontext : context.map Frame.plain = a.context.map Frame.plain)
    (h : s.Resembles s') {kind : MessageKind} (hkind : kind ≠ .response) (certainty : Certainty)
    (x : Target) (location : Option Location) (text : Option String) :
    (t.announced a kind certainty x location text s).Resembles
      ((t.tuned (t.options.decorated responses conditions comments)).announced
        { a with context } kind certainty x location text s') := by
  have hdraws :
    (t.tuned (t.options.decorated responses conditions comments)).draws
      { a with context } s'.roster x = t.draws a s.roster x := by
    rw [h.roster]
    rfl
  unfold announced
  rw [hdraws]
  split
  · refine h.push ?_ ?_
    · simpa [callMessage, Message.isResponse] using hkind
    · simp [callMessage, Message.plain, hcontext, h.roster, Activation.depth]
  · exact h

def decoratingLockstep (t : Tracer) (responses conditions comments : Bool) :
    (t.decorating responses conditions comments).Lockstep where
  meets _ _ _ _ x y := y = x
  fulfil := by
    rintro a _ s s' q ⟨⟨context, rfl, -⟩, h⟩ - -
    rw [h.roster]
    rcases t.casting.fulfil a.caller q s.roster with ⟨f | res, r⟩
    · exact .failed (h.recast r)
    · refine .done (h.recast r) ?_
      cases res with
      | found certainty target => exact .found rfl
      | unresolved name => exact .unresolved name
      | filtered => exact .filtered
  function := by
    rintro _ _ _ _ x _ rfl
    rfl
  captured := by
    rintro _ _ _ _ x _ rfl
    rfl
  announce := by
    rintro a _ s s' _ x kind certainty location text hkind ⟨⟨context, rfl, hcontext⟩, h⟩ rfl
    exact announced_resembles responses conditions comments hcontext h
      hkind certainty x location text
  enter := by
    rintro a _ s s' _ x f body kind certainty location text hkind
      ⟨⟨context, rfl, hcontext⟩, h⟩ rfl - -
    have hnow := announced_resembles (t := t) responses conditions comments hcontext h
      hkind certainty x location text
    refine .of_eq fun path _ => ⟨⟨⟨context, ?_, ?_⟩, hnow⟩, fun _ => trivial, rfl,
      fun _ _ _ h₁ => h₁.rescope _ _⟩
    · rw [h.roster]
      exact a.calling_inContext context path x.participant _
    · rw [Activation.context_calling]
      exact hcontext
  answer := by
    rintro a _ s s' _ x kind certainty location text s₁ s₁' - - rfl h₁
    exact answered_resembles h₁ kind x _ _

theorem trace_resembles (t : Tracer) (responses conditions comments : Bool) (entry : Decl)
    (r : Roster) :
    Both (fun _ _ => False) (fun _ s₁ s₁' => s₁.Resembles s₁') (t.trace entry { roster := r })
      ((t.tuned (t.options.decorated responses conditions comments)).trace
        entry { roster := r }) := by
  have hstart : Trace.Resembles { roster := r } { roster := r } := ⟨rfl, rfl, rfl, rfl⟩
  refine Pairing.trace_both (P := t.decorating responses conditions comments)
    (t.decoratingLockstep responses conditions comments).dispatching rfl rfl rfl
      (fun _ => hstart) fun _ => ?_
  rcases t.casting.intern (.decl entry) r with ⟨f | p, r₁⟩
  · exact .failed (hstart.recast r₁)
  · cases hp : p.isTombstone with
    | true => exact .excluded hp fun _ => hstart.recast r₁
    | false =>
      have hbegin := hstart.begin r₁ p
      exact .begins hp ⟨hbegin, ⟨⟨[], rfl, rfl⟩, hbegin⟩, fun _ _ _ => trivial, rfl,
        fun _ _ _ h => h.rescope _ _⟩

/-- Responses, texts of conditions and comments only decorate: with and without them a trace has the
same result, the same roster and the same entry points, and the same calls up to the texts and
comments. -/
theorem flags_only_decorate (t : Tracer) (responses conditions comments : Bool) (entry : Decl)
    (r : Roster) : ∃ result s s', t.trace entry { roster := r } = (result, s) ∧
      (t.tuned (t.options.decorated responses conditions comments)).trace entry { roster := r } =
        (result, s') ∧
      s'.roster = s.roster ∧ s'.interaction.entryPoints = s.interaction.entryPoints ∧
      s'.interaction.calls.map Message.plain = s.interaction.calls.map Message.plain := by
  have hboth := trace_resembles t responses conditions comments entry r
  generalize t.trace entry { roster := r } = x,
    (t.tuned (t.options.decorated responses conditions comments)).trace entry
      { roster := r } = y at hboth
  cases hboth with
  | lost h => exact h.elim
  | done _ h => exact ⟨_, _, _, rfl, rfl, h.roster, h.entryPoints, h.calls⟩
  | failed _ h => exact ⟨_, _, _, rfl, rfl, h.roster, h.entryPoints, h.calls⟩

end Tracer

end Lifeline
