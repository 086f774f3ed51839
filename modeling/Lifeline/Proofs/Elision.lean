import Lifeline.Proofs.Externals
import Lifeline.Proofs.Pairing.Run

namespace Lifeline

def Message.isInternal (r : Roster) (m : Message) : Bool :=
  !r.isExternal m.sender && !r.isExternal m.receiver

/-- What is recorded if callees known by name only are elided, and if they are drawn. Who is one of
them is looked up on the roster of the end. -/
structure Trace.Elides (c : Casting) (last : Roster) (s s' : Trace) : Prop where
  clear : c.Clear s'.roster
  within : s'.roster.Extends last
  roster : s.roster = s'.roster.internal
  blocks : s'.blocks = s.blocks
  entryPoints : s'.interaction.entryPoints = s.interaction.entryPoints
  messages : s.interaction.messages.toList =
    s'.interaction.messages.toList.filter (·.isInternal last)

theorem Visit.cast_run (x : Cast α) (s : Trace) :
    Visit.cast x s = ((x s.roster).1, { s with roster := (x s.roster).2 }) := rfl

theorem Beside.then_right {void : Roster → Roster → Prop}
    {post : Option Fault → Trace → Trace → Prop} {lenient : Bool} {v w : Visit Unit}
    {k : Unit → Visit Unit} {g : Trace → Trace} {s s' : Trace}
    (h : Beside void post lenient (v s) (w s')) (hk : ∀ s, k () s = (.ok (), g s))
    (hroster : ∀ s, (g s).roster = s.roster) (hscopes : ∀ s, (g s).scopes = s.scopes)
    (hpost : ∀ s₁ s₁', post none s₁ s₁' → post none s₁ (g s₁')) :
    Beside void post lenient (v s) ((w >>= k) s') := by
  rw [Agree.run_bind]
  generalize v s = x, w s' = y at h
  cases h with
  | @lost _ _ y s₁ s₁' hvoid hs hs' =>
    cases y with
    | error f => exact .lost hvoid hs hs'
    | ok _ =>
      dsimp only
      rw [hk]
      exact .lost (hroster s₁' ▸ hvoid) hs (hroster s₁' ▸ hs')
  | @done _ _ s₁ s₁' hsame h =>
    dsimp only
    rw [hk]
    exact .done (hsame.trans (hscopes s₁').symm) (hpost _ _ h)
  | failed hsame h => exact .failed hsame h
  | abandoned => exact .abandoned

namespace Trace.Elides

variable {c : Casting} {last : Roster} {s s' : Trace} {id : ParticipantId} {m : Message}

theorem rescope (h : s.Elides c last s') (x x' : Scopes) :
    Trace.Elides c last { s with scopes := x } { s' with scopes := x' } :=
  { h with }

theorem opened (h : s.Elides c last s') : s.opened.Elides c last s'.opened :=
  { h with blocks := congrArg (· + 1) h.blocks }

theorem recast (h : s.Elides c last s') {r : Roster} (hclear : c.Clear r)
    (hwithin : r.Extends last) :
    Trace.Elides c last { s with roster := r.internal } { s' with roster := r } :=
  { h with clear := hclear, within := hwithin, roster := rfl }

theorem push (h : s.Elides c last s') (hm : m.isInternal last = true) :
    (s.push m).Elides c last (s'.push m) := by
  refine { h with messages := ?_ }
  simp [Trace.push, Interaction.push, h.messages, hm]

theorem push_external (h : s.Elides c last s') (hm : m.isInternal last = false) :
    s.Elides c last (s'.push m) := by
  refine { h with messages := ?_ }
  simp [Trace.push, Interaction.push, h.messages, hm]

theorem hosts (h : s.Elides c last s') (hid : s.roster.isVisible id = true) :
    s'.roster.Hosts id := by
  rw [h.roster] at hid
  exact Casting.hosts_of_isVisible hid

theorem isVisible (h : s.Elides c last s') (hid : s.roster.isVisible id = true) :
    s'.roster.isVisible id = true :=
  h.clear.isVisible (h.hosts hid)

theorem get? (h : s.Elides c last s') (hid : s.roster.isVisible id = true) :
    s.roster.get? id = s'.roster.get? id := by
  rw [h.roster]
  exact h.clear.get?_internal (h.hosts hid)

theorem external (h : s.Elides c last s') (hid : s'.roster.isExternal id = true) :
    last.isExternal id = true := by
  unfold Roster.isExternal at hid ⊢
  cases hp : s'.roster.get? id with
  | none => simp [hp] at hid
  | some p => rwa [h.within.get? hp, ← hp]

theorem internal (h : s.Elides c last s') (hid : s.roster.isVisible id = true) :
    last.isExternal id = false := by
  have hhere := h.clear.isExternal_eq_false (h.hosts hid)
  obtain ⟨p, hp⟩ := Roster.exists_of_isVisible (h.isVisible hid)
  rw [Roster.isExternal, hp] at hhere
  rw [Roster.isExternal, h.within.get? hp]
  exact hhere

end Trace.Elides

abbrev TraceOptions.drawingExternals (o : TraceOptions) : TraceOptions :=
  { o with unresolved := .external }

namespace Tracer

variable {t : Tracer} {last : Roster} {a : Activation} {s s' : Trace} {x : Target}

theorem yielded_elides (h : s.Elides t.casting last s') (ha : a.Live s.roster)
    (location : Option Location) :
    (t.yielded a location s).Elides t.casting last
      ((t.tuned t.options.drawingExternals).yielded a location s') := by
  cases hreturn : a.returnTo with
  | none =>
    rw [yielded_none hreturn, yielded_none hreturn]
    exact h
  | some receiver =>
    rw [yielded_some hreturn, yielded_some hreturn]
    split
    · refine h.push ?_
      simp [Message.isInternal, yieldMessage, h.internal ha.caller,
        h.internal (ha.returnTo receiver hreturn)]
    · exact h

def eliding (t : Tracer) (last : Roster) : Pairing t t.options.drawingExternals where
  inv a b s s' := b = a ∧ a.Live s.roster ∧ s.Elides t.casting last s'
  rel _ _ s _ _ s₁ s₁' := s₁.Elides t.casting last s₁' ∧ s.roster.Extends s₁.roster
  void _ r := ¬ r.Extends last
  own _ _ := True
  wording operation operation' := operation = operation'
  refl h := ⟨h.2.2, .refl _⟩
  trans h h' := ⟨h'.1, h.2.trans h'.2⟩
  keeps h h' := ⟨h.1, h.2.1.mono h'.2, h'.1⟩
  lasts h _ hr hwithin := h (hr.trans hwithin)
  scopes h := ⟨h.1, h.2.1, h.2.2.rescope _ _⟩
  rescope _ _ y y' h := ⟨h.1.rescope y y', h.2⟩
  condition := by
    rintro a _ s s' ⟨rfl, ha, h⟩
    exact ⟨rfl, ⟨ha.caller, ha.returnTo, ha.entered⟩, h⟩
  ofCondition _ h := h
  opens h := ⟨h.2.2.opened, .refl _⟩
  enter := by
    rintro a _ s s' s₁ s₁' f g ⟨rfl, ha, h⟩ ⟨h₁, hr⟩ hfg
    rw [h.blocks] at hfg
    obtain rfl := hfg.eq rfl
    have ha₁ := ha.mono hr
    exact ⟨rfl, ⟨ha₁.caller, ha₁.returnTo, ha₁.entered⟩, h₁⟩
  ofEnter _ _ _ h := h
  yield := by
    rintro a _ s s' location ⟨rfl, ha, h⟩
    refine ⟨yielded_elides h ha location, ?_⟩
    rw [yielded_roster]
    exact .refl _

theorem isInlined_elides (h : s.Elides t.casting last s')
    (hx : s.roster.isVisible x.participant = true) :
    (t.tuned t.options.drawingExternals).isInlined s'.roster x = t.isInlined s.roster x := by
  simp only [isInlined, h.get? hx]

theorem draws_elides (h : s.Elides t.casting last s') (ha : a.Live s.roster)
    (hx : s.roster.isVisible x.participant = true) :
    (t.tuned t.options.drawingExternals).draws a s'.roster x = t.draws a s.roster x := by
  simp only [draws, isInlined_elides h hx, hx, h.isVisible hx, ha.caller, h.isVisible ha.caller]

theorem announced_elides (h : s.Elides t.casting last s') (ha : a.Live s.roster)
    (hx : s.roster.isVisible x.participant = true) (kind : MessageKind) (certainty : Certainty)
    (location : Option Location) (text : Option String) :
    (t.announced a kind certainty x location text s).Elides t.casting last
      ((t.tuned t.options.drawingExternals).announced a kind certainty x location text s') := by
  unfold announced
  rw [draws_elides h ha hx]
  split
  · have hsame :
      (t.tuned t.options.drawingExternals).callMessage a kind certainty x location text s'.roster =
        t.callMessage a kind certainty x location text s.roster := by
      simp only [callMessage, h.get? hx]
    rw [hsame]
    refine h.push ?_
    simp [Message.isInternal, callMessage, h.internal ha.caller, h.internal hx]
  · exact h

theorem answered_elides (h : s.Elides t.casting last s') (ha : a.Live s.roster)
    (hx : s.roster.isVisible x.participant = true) (kind : MessageKind) (drawn : Bool) :
    (t.answered a kind x drawn s).Elides t.casting last
      ((t.tuned t.options.drawingExternals).answered a kind x drawn s') := by
  unfold answered
  split
  · have hsame : responseMessage a x s'.roster = responseMessage a x s.roster := by
      simp only [responseMessage, h.get? hx]
    rw [hsame]
    refine h.push ?_
    simp [Message.isInternal, responseMessage, h.internal ha.caller, h.internal hx]
  · exact h

def elidingDelivery (t : Tracer) (last : Roster) : (t.eliding last).Delivery where
  meets _ _ s _ x y := y = x ∧ s.roster.isVisible x.participant = true
  function := by
    rintro _ _ _ _ x _ ⟨rfl, -⟩
    rfl
  captured := by
    rintro _ _ _ _ x _ ⟨rfl, -⟩
    rfl
  announce := by
    rintro a _ s s' x _ kind certainty location text - ⟨rfl, ha, h⟩ ⟨rfl, hx⟩
    refine ⟨announced_elides h ha hx kind certainty location text, ?_⟩
    rw [announced_roster]
    exact .refl _
  enter := by
    rintro a _ s s' x _ f body kind certainty location text - ⟨rfl, ha, h⟩ ⟨rfl, hx⟩ - -
    have hnow := announced_elides h ha hx kind certainty location text
    refine .of_eq fun path hpath => ⟨⟨?_, ?_, hnow⟩, fun _ => trivial, rfl,
      fun _ _ _ h₁ => ⟨h₁.1.rescope _ _, h₁.2⟩⟩
    · rw [isInlined_elides h hx]
    · rw [announced_roster]
      exact ha.calling hx hpath _
  answer := by
    rintro a _ s s' x _ kind certainty location text s₁ s₁' - ⟨rfl, ha, h⟩ ⟨rfl, hx⟩ ⟨h₁, hr⟩
    rw [announced_roster] at hr
    rw [draws_elides h ha hx]
    refine ⟨answered_elides h₁ (ha.mono hr) (hr.isVisible hx) kind _, ?_⟩
    rw [answered_roster]
    exact .refl _

theorem entity_mirrors (h : s.Elides t.casting last s') (ha : a.Live s.roster) {q : Request}
    (hq : q.Within t.casting.program) (hknown : q.Known) {e : Entity}
    (he : q.entity? a.caller = some e) :
    t.casting.Mirrors (fun id r' => (id = .tombstone ∧ ∀ p, e ≠ .coroutineState p) ∨ r'.Hosts id)
      (t.casting.intern e) s'.roster := by
  cases hq with
  | entity hwithin hstate _ =>
    cases he
    refine Casting.intern_mirrors h.clear hwithin (fun name heq => ?_)
      fun p heq => absurd heq (hstate p)
    subst heq
    exact hknown _ _ _ _ rfl
  | ownState =>
    cases he
    refine Casting.intern_mirrors h.clear trivial (fun name heq => ?_) fun p heq => ?_
    · cases heq
    · cases heq
      exact h.hosts ha.caller
  | unknown name => cases he

theorem reply_elides {c : Casting} {r : Roster} (hclear : c.Clear r) {q : Request}
    {caller id : ParticipantId} {e : Entity} (he : q.entity? caller = some e)
    (hid : (id = .tombstone ∧ ∀ p, e ≠ .coroutineState p) ∨ r.Hosts id) :
    Resolution.Twins (fun x y => y = x ∧ r.internal.isVisible x.participant = true)
      (q.reply id r.internal) (q.reply id r) := by
  rcases hid with ⟨rfl, hstate⟩ | hid
  · cases q with
    | entity => exact .filtered
    | ownState => exact absurd (Option.some.inj he).symm (hstate _)
    | unknown name => cases he
  · have hoperation : r.internal.operation id = r.operation id := by
      simp only [Roster.operation, hclear.get?_internal hid]
    have hvisible := hclear.isVisible_internal hid
    cases q with
    | entity =>
      simp only [Request.reply, Roster.isTombstone_of_isVisible hvisible, hoperation]
      exact .found ⟨rfl, hvisible⟩
    | ownState => exact .found ⟨rfl, hvisible⟩
    | unknown name => cases he

theorem fulfil_elides (hdistinct : t.casting.Distinct last) (h : s.Elides t.casting last s')
    (ha : a.Live s.roster) {q : Request} (hq : q.Within t.casting.program) (hknown : q.Known) :
    (t.eliding last).Gets ((t.elidingDelivery last).meets a a) a a s s'
      (t.casting.fulfil a.caller q s.roster) (t.casting.fulfil a.caller q s'.roster) := by
  have hsound : s.roster.Sound := h.roster ▸ h.clear.sound_internal
  obtain ⟨hgrown, hsound₁⟩ := Casting.fulfil_grows (c := t.casting) hsound a.caller q
  have hsound₁' := (Casting.fulfil_grows (c := t.casting) h.clear.sound a.caller q).2
  by_cases hwithin : (t.casting.fulfil a.caller q s'.roster).2.Extends last
  swap
  · exact .of_lost hwithin hsound₁ hsound₁'
  cases he : q.entity? a.caller with
  | none =>
    cases q with
    | unknown name => exact .done ⟨h, .refl _⟩ (.unresolved name)
    | entity => cases he
    | ownState => cases he
  | some e =>
    rw [Casting.fulfil_roster he] at hwithin
    obtain ⟨hclear, houtcome, heq⟩ :=
      entity_mirrors h ha hq hknown he (hdistinct.of_extends hwithin)
    rw [← h.roster] at heq
    rcases hrun : t.casting.intern e s'.roster with ⟨f | id, r⟩ <;>
      rw [hrun] at hclear hwithin houtcome heq
    · rw [Casting.fulfil_error he hrun, Casting.fulfil_error he heq]
      rw [Casting.fulfil_error he heq] at hgrown
      exact .failed ⟨h.recast hclear hwithin, hgrown⟩
    · rw [Casting.fulfil_ok he hrun, Casting.fulfil_ok he heq]
      rw [Casting.fulfil_ok he heq] at hgrown
      exact .done ⟨h.recast hclear hwithin, hgrown⟩ (reply_elides hclear he houtcome)

section Unresolved

variable {E E' : Enter} {u u' : Visit Unit} {kind : MessageKind}

theorem deliver_external (E : Enter) (x : Target) (hu : (t.eliding last).Obeys a a u u')
    (hkind : kind ≠ .response) (ha : a.Live s.roster) (h : s.Elides t.casting last s')
    (hscopes : s.scopes = s'.scopes) (hx : last.isExternal x.participant = true)
    (hbody : x.function = none) (certainty : Certainty) (args : List Value)
    (location : Option Location) (text : Option String) :
    Beside (t.eliding last).void ((t.eliding last).rel a a s s') (t.eliding last).lenient (u s)
      ((t.tuned t.options.drawingExternals).deliver E a kind certainty x args
        location text u' s') := by
  obtain ⟨sent, -, hrun⟩ :=
    (t.tuned t.options.drawingExternals).deliver_run E a x hkind certainty args location text u' s'
  have hnone : x.function.bind (·.body) = none := by rw [hbody, Option.bind_none]
  rw [hrun, attend_of_no_body hnone]
  have hnow : s.Elides t.casting last
      ((t.tuned t.options.drawingExternals).announced a kind certainty x location text s') := by
    unfold announced
    split
    · exact h.push_external (by simp [Message.isInternal, callMessage, hx])
    · exact h
  have hvisit :=
    hu.both s _ ⟨rfl, ha, hnow⟩ (hscopes.trans (announced_scopes certainty location text s').symm)
  refine Beside.then_right hvisit (answer_run sent) (answered_roster _) (answered_scopes _) ?_
  rintro s₁ s₁' ⟨h₁, hr⟩
  refine ⟨?_, hr⟩
  unfold answered
  split
  · exact h₁.push_external (by simp [Message.isInternal, responseMessage, hx])
  · exact h₁

theorem unresolved_elides (helide : t.options.unresolved = .elide)
    (hdistinct : t.casting.Distinct last) (hE : (t.eliding last).Enters E E')
    (hu : (t.eliding last).Obeys a a u u') (hkind : kind ≠ .response) (ha : a.Live s.roster)
    (h : s.Elides t.casting last s') (hscopes : s.scopes = s'.scopes) (name : String)
    (args : List Value) (location : Option Location) (text : Option String) :
    Beside (t.eliding last).void ((t.eliding last).rel a a s s') (t.eliding last).lenient
      (t.follow E a kind (.unresolved name) args location text u s)
      ((t.tuned t.options.drawingExternals).follow E' a kind (.unresolved name)
        args location text u' s') := by
  rw [follow_elide helide, follow_external rfl]
  by_cases hwithin : (t.casting.intern (.external name) s'.roster).2.Extends last
  swap
  · -- The roster leads somewhere else, and so does whatever comes after.
    have hsound : s.roster.Sound := h.roster ▸ h.clear.sound_internal
    have hroster :
      (t.casting.fulfil a.caller (.entity .external (.external name) none none) s'.roster).2 =
        (t.casting.intern (.external name) s'.roster).2 := Casting.fulfil_roster rfl
    rw [← hroster] at hwithin
    obtain ⟨hgrown, hsound'⟩ := Visit.Grows.rest (Visit.cast_run _ s')
      (Casting.fulfil_grows (c := t.casting) h.clear.sound a.caller
        (.entity .external (.external name) none none)).2
      fun res => follow_grows (t := t.tuned t.options.drawingExternals) (a := a)
        hE.right hu.right res args
          location text
    exact .of_lost (fun hlast => hwithin (hgrown.trans hlast)) (hu.left s hsound).2 hsound'
  obtain ⟨id, r, hrun, hclear, hsame, hexternal⟩ :=
    Casting.intern_external h.clear name (hdistinct.of_extends hwithin)
  rw [hrun] at hwithin
  have hnow : s.Elides t.casting last { s' with roster := r } := { h with
    clear := hclear
    within := hwithin
    roster := h.roster.trans hsame.symm }
  rw [Agree.run_bind]
  simp only [Visit.cast,
    Casting.fulfil_ok (q := .entity .external (.external name) none none) rfl hrun, Request.reply]
  cases hid : id.isTombstone with
  | true => exact hu.both s _ ⟨rfl, ha, hnow⟩ hscopes
  | false =>
    have hseen := hexternal (by simpa [ParticipantId.isTombstone] using hid)
    simp only [Bool.false_eq_true, if_false, follow]
    have hdeliver := deliver_external E' ⟨id, none, r.operation id, none⟩ hu hkind ha hnow hscopes
      (hnow.external hseen) rfl .external args location text
    exact hdeliver

end Unresolved

def elidingFollowing (t : Tracer) (last : Roster) (helide : t.options.unresolved = .elide)
    (hdistinct : t.casting.Distinct last) : (t.eliding last).Following where
  meets := (t.elidingDelivery last).meets
  fulfil := by
    rintro a _ s s' q ⟨rfl, ha, h⟩ hq hknown -
    exact fulfil_elides hdistinct h ha hq hknown
  deliver := (t.elidingDelivery last).deliver
  unresolved := by
    rintro room a _ s s' kind u u' name args location text hE hu hkind ⟨rfl, ha, h⟩ hscopes
    exact unresolved_elides helide hdistinct hE hu hkind ha h hscopes name args location text

theorem start_elides (hdistinct : t.casting.Distinct last) {entry : Decl}
    (hentry : t.casting.program.Declares entry) :
    (t.eliding last).Starts entry {} {} (fun _ s₁ s₁' => s₁.Elides t.casting last s₁')
      (t.casting.intern (.decl entry) {}) (t.casting.intern (.decl entry) {}) := by
  have hgrows := (Casting.intern_grows (c := t.casting) .empty (.decl entry)).result
  by_cases hwithin : (t.casting.intern (.decl entry) {}).2.Extends last
  swap
  · exact .of_lost hwithin hgrows.sound hgrows.sound
  have hempty : t.casting.Clear {} := Casting.Drawn.clear .refl (by simp [Casting.Distinct])
  have hmirrors := Casting.intern_mirrors hempty (e := .decl entry) hentry (by simp) (by simp)
  obtain ⟨hclear, -, heq⟩ := hmirrors (hdistinct.of_extends hwithin)
  have hinternal :
      (t.casting.intern (.decl entry) {}).2 = (t.casting.intern (.decl entry) {}).2.internal :=
    congrArg Prod.snd heq
  rcases hrun : t.casting.intern (.decl entry) {} with ⟨f | p, r⟩ <;>
    rw [hrun] at hgrows hclear hwithin hinternal
  · exact .failed ⟨hclear, hwithin, hinternal, rfl, rfl, rfl⟩
  · cases hp : p.isTombstone with
    | true => exact .excluded hp fun f => ⟨hclear, hwithin, hinternal, rfl, rfl, rfl⟩
    | false =>
      have hvisible : r.isVisible p = true :=
        hgrows.outcome (by simpa [ParticipantId.isTombstone] using hp)
      have hbegin : (({} : Trace).begin r p).Elides t.casting last (({} : Trace).begin r p) :=
        ⟨hclear, hwithin, hinternal, rfl, rfl, rfl⟩
      refine .begins hp ⟨hbegin,
        ⟨rfl, ⟨hvisible, by simp [start], by simp [start, CallPath.depth]⟩, hbegin⟩,
        fun _ _ _ => trivial, rfl, fun _ _ _ h => h.1.rescope _ _⟩

theorem trace_elides (helide : t.options.unresolved = .elide) {last : Roster}
    (hdistinct : t.casting.Distinct last) (hlast : Roster.Extends {} last) {entry : Decl}
    (hentry : t.casting.program.Declares entry) :
    Both (fun _ r => ¬ r.Extends last) (fun _ s₁ s₁' => s₁.Elides t.casting last s₁')
      (t.trace entry {}) ((t.tuned t.options.drawingExternals).trace entry {}) := by
  have hempty : Trace.Elides t.casting last {} {} :=
    ⟨Casting.Drawn.clear .refl (by simp [Casting.Distinct]), hlast, rfl, rfl, rfl, rfl⟩
  exact (t.elidingFollowing last helide hdistinct).trace_both rfl rfl (fun _ => hempty)
    fun _ => start_elides hdistinct hentry

/-- The policy for callees known by name only adds participants of that sort, and messages from and
to them. Without these, what is traced when they are drawn is what is traced when they are
elided. -/
theorem externals_only_added (t : Tracer) {entry : Decl} (hentry : t.casting.program.Declares entry)
    (hdistinct : t.casting.Distinct
      ((t.tuned t.options.drawingExternals).trace entry {}).2.roster) :
    ∃ result s s', (t.tuned { t.options with unresolved := .elide }).trace entry {} = (result, s) ∧
      (t.tuned t.options.drawingExternals).trace entry {} = (result, s') ∧
      s.roster = s'.roster.internal ∧ s.interaction.entryPoints = s'.interaction.entryPoints ∧
      s.interaction.messages.toList =
        s'.interaction.messages.toList.filter (·.isInternal s'.roster) := by
  have hlast := (Pairing.trace_grows (t := t.tuned t.options.drawingExternals) entry {} .empty).1
  have hboth := trace_elides (t := t.tuned { t.options with unresolved := .elide })
    rfl hdistinct hlast hentry
  generalize hx : (t.tuned { t.options with unresolved := .elide }).trace entry {} = x,
    hy : (t.tuned t.options.drawingExternals).trace entry {} = y at hboth
  cases hboth with
  | lost hvoid => exact absurd (.refl _) hvoid
  | done _ h => exact ⟨_, _, _, rfl, rfl, h.roster, h.entryPoints.symm, h.messages⟩
  | failed _ h => exact ⟨_, _, _, rfl, rfl, h.roster, h.entryPoints.symm, h.messages⟩

end Tracer

namespace Sample

def asking : Decl :=
  function 1 "run" none
    (.block [.expr (.call (.unresolved "std::sort" none) none [] none none), .expr (call 4 [])])

def askingTracer : Tracer where
  casting :=
    { tracer.casting with
      program := ⟨[asking, step, worker, work]⟩, seed := fun key => .ofNat key.length }
  options := { returnMessages := true }

end Sample

theorem Tracer.externals_only_added_sample :
    Sample.askingTracer.casting.program.Declares Sample.asking ∧
    Sample.askingTracer.casting.Distinct
      ((Sample.askingTracer.tuned Sample.askingTracer.options.drawingExternals).trace
        Sample.asking {}).2.roster ∧
    ∃ result s s',
      (Sample.askingTracer.tuned { Sample.askingTracer.options with unresolved := .elide }).trace
        Sample.asking {} = (result, s) ∧
      (Sample.askingTracer.tuned Sample.askingTracer.options.drawingExternals).trace
        Sample.asking {} = (result, s') ∧
      s.roster = s'.roster.internal ∧ s.interaction.entryPoints = s'.interaction.entryPoints ∧
      s.interaction.messages.toList =
        s'.interaction.messages.toList.filter (·.isInternal s'.roster) := by
  have hentry : Sample.askingTracer.casting.program.Declares Sample.asking := rfl
  have hdistinct : Sample.askingTracer.casting.Distinct
      ((Sample.askingTracer.tuned Sample.askingTracer.options.drawingExternals).trace
        Sample.asking {}).2.roster := by
    unfold Casting.Distinct
    decide +kernel
  exact ⟨hentry, hdistinct, externals_only_added Sample.askingTracer hentry hdistinct⟩

end Lifeline
