import Lifeline.Proofs.Cutting
import Lifeline.Proofs.Grounding

namespace Lifeline

def TraceOptions.cutAt (o : TraceOptions) (n : Nat) : TraceOptions :=
  { o with maxDepth := some n }

def TraceOptions.uncut (o : TraceOptions) : TraceOptions :=
  { o with maxDepth := none }

structure Tracks (c : Casting) (n k : Nat) (a b : Activation) (s s' s₁ s₁' : Trace) : Prop where
  left : s.roster.Extends s₁.roster
  right : s'.roster.Extends s₁'.roster
  blocks : k ≤ s₁'.blocks
  cuts : ∀ φ, s.Cuts c n φ s' → a.Cuts n φ b s s' → ∃ ψ, s₁.Cuts c n ψ s₁' ∧ ∀ i < k, ψ i = φ i

namespace Tracks

variable {c : Casting} {n k : Nat} {a b a₁ b₁ : Activation} {s s' s₁ s₁' s₂ s₂' : Trace}
  {φ ψ : Nat → Nat}

theorem refl : Tracks c n s'.blocks a b s s' s s' :=
  ⟨.refl _, .refl _, Nat.le_refl _, fun φ h _ => ⟨φ, h, fun _ _ => rfl⟩⟩

theorem of_cuts (hleft : s₁.roster = s.roster) (hright : s₁'.roster = s'.roster)
    (hblocks : s₁'.blocks = s'.blocks)
    (h : ∀ φ, s.Cuts c n φ s' → a.Cuts n φ b s s' → s₁.Cuts c n φ s₁') :
    Tracks c n s'.blocks a b s s' s₁ s₁' := by
  refine ⟨?_, ?_, Nat.le_of_eq hblocks.symm, fun φ hs ha => ⟨φ, h φ hs ha, fun _ _ => rfl⟩⟩
  · rw [hleft]
    exact .refl _
  · rw [hright]
    exact .refl _

theorem andThen (h : Tracks c n k a b s s' s₁ s₁') (h' : Tracks c n s₁'.blocks a₁ b₁ s₁ s₁' s₂ s₂')
    (hplace : ∀ φ ψ, s.Cuts c n φ s' → a.Cuts n φ b s s' →
      (∀ i < k, ψ i = φ i) → a₁.Cuts n ψ b₁ s₁ s₁') :
    Tracks c n k a b s s' s₂ s₂' := by
  refine ⟨h.left.trans h'.left, h.right.trans h'.right,
    Nat.le_trans h.blocks h'.blocks, fun φ hs ha => ?_⟩
  obtain ⟨ψ, hs₁, heq⟩ := h.cuts φ hs ha
  obtain ⟨χ, hs₂, heq'⟩ := h'.cuts ψ hs₁ (hplace φ ψ hs ha heq)
  exact ⟨χ, hs₂, fun i hi => (heq' i (Nat.lt_of_lt_of_le hi h.blocks)).trans (heq i hi)⟩

theorem place (h : Tracks c n k a b s s' s₁ s₁') (hk : s'.blocks ≤ k) (ha : a.Cuts n φ b s s')
    (heq : ∀ i < k, ψ i = φ i) : a.Cuts n ψ b s₁ s₁' :=
  ha.mono h.left h.right (Nat.le_trans hk h.blocks) fun i hi => heq i (Nat.lt_of_lt_of_le hi hk)

theorem trans (h : Tracks c n k a b s s' s₁ s₁') (hk : s'.blocks ≤ k)
    (h' : Tracks c n s₁'.blocks a b s₁ s₁' s₂ s₂') : Tracks c n k a b s s' s₂ s₂' :=
  h.andThen h' fun _ _ _ ha heq => h.place hk ha heq

theorem less (h : Tracks c n k a b s s' s₁ s₁') {l : Nat} (hl : l ≤ k) :
    Tracks c n l a b s s' s₁ s₁' := by
  refine ⟨h.left, h.right, Nat.le_trans hl h.blocks, fun φ hs ha => ?_⟩
  obtain ⟨ψ, hs₁, heq⟩ := h.cuts φ hs ha
  exact ⟨ψ, hs₁, fun i hi => heq i (Nat.lt_of_lt_of_le hi hl)⟩

theorem rescope (h : Tracks c n k a b s s' s₁ s₁') (x x' y y' : Scopes) :
    Tracks c n k a b { s with scopes := x } { s' with scopes := x' } { s₁ with scopes := y }
      { s₁' with scopes := y' } := by
  refine ⟨h.left, h.right, h.blocks, fun φ hs ha => ?_⟩
  have ha' : a.Cuts n φ b s s' := ⟨ha.alike, ha.bound, ha.shallow, ha.plain, ha.live, ha.counted⟩
  obtain ⟨ψ, hs₁, heq⟩ := h.cuts φ (hs.rescope s.scopes s'.scopes) ha'
  exact ⟨ψ, hs₁.rescope y y', heq⟩

theorem opened : Tracks c n (s'.blocks + 1) a b s s' s.opened s'.opened :=
  ⟨.refl _, .refl _, Nat.le_refl _, fun φ h _ => ⟨φ, h.opened, fun _ _ => rfl⟩⟩

theorem enter (h : Tracks c n (s'.blocks + 1) a b s s' s₁ s₁') {t u : Tracer}
    {wording : String → String → Prop} {f g : Frame}
    (hfg : Frame.Twins t u wording s.blocks s'.blocks f g)
    (htext : u.options.conditionText = t.options.conditionText) (hs : s.Cuts c n φ s')
    (ha : a.Cuts n φ b s s') (heq : ∀ i < s'.blocks + 1, ψ i = φ i) :
    (a.enter f).Cuts n ψ (b.enter g) s₁ s₁' := by
  have hblock : ψ s'.blocks = s.blocks := (heq _ (Nat.lt_succ_self _)).trans (hs.level 0)
  refine (h.place (Nat.le_succ _) ha heq).enter (hfg.rename htext hblock) ?_
  rw [hfg.block_eq_right]
  exact h.blocks

end Tracks

namespace Tracer

variable {t : Tracer} {n : Nat} {φ : Nat → Nat} {a b : Activation} {s s' s₁ s₁' : Trace}
  {x y : Target}

theorem draws_cuts (hs : s.Cuts t.casting n φ s') (h : a.Cuts n φ b s s')
    (hxy : x.Alike y s.roster s'.roster) :
    (t.tuned (t.options.cutAt n)).draws b s'.roster y = t.draws a s.roster x := by
  have hdraws : t.draws (b.uncut φ) s'.roster y = t.draws a s.roster x :=
    draws_eq hs.rosters h.alike hxy
  exact hdraws

theorem yielded_cuts (hn : 1 ≤ n) (hs : s.Cuts t.casting n φ s') (h : a.Cuts n φ b s s')
    (location : Option Location) :
    (t.yielded a location s).Cuts t.casting n φ
      ((t.tuned (t.options.cutAt n)).yielded b location s') := by
  cases hreturn : a.returnTo with
  | none =>
    rw [yielded_none hreturn, yielded_none (h.returnTo.trans hreturn)]
    exact hs
  | some receiver =>
    rw [yielded_some hreturn, yielded_some (h.returnTo.trans hreturn)]
    cases hon : t.options.returnMessages with
    | false => simpa [TraceOptions.cutAt, hon] using hs
    | true =>
      simp only [TraceOptions.cutAt, hon, if_true]
      exact hs.push (yieldMessage_unworded h.alike receiver location) (h.depth_lt hn) h.counted

theorem announced_cuts (hn : 1 ≤ n) (hs : s.Cuts t.casting n φ s') (h : a.Cuts n φ b s s')
    (hxy : x.Alike y s.roster s'.roster) (kind : MessageKind) (certainty : Certainty)
    (location : Option Location) (text : Option String) :
    (t.announced a kind certainty x location text s).Cuts t.casting n φ
      ((t.tuned (t.options.cutAt n)).announced b kind certainty y location text s') := by
  unfold announced
  rw [draws_cuts hs h hxy]
  split
  · exact hs.push (callMessage_unworded h.alike hxy kind certainty location text)
      (h.depth_lt hn) h.counted
  · exact hs

theorem answered_cuts (hn : 1 ≤ n) (hs : s.Cuts t.casting n φ s') (h : a.Cuts n φ b s s')
    (hxy : x.participant = y.participant) (kind : MessageKind) (drawn : Bool) :
    (t.answered a kind x drawn s).Cuts t.casting n φ
      ((t.tuned (t.options.cutAt n)).answered b kind y drawn s') := by
  have hon : (t.tuned (t.options.cutAt n)).options.returnMessages = t.options.returnMessages := rfl
  have hm :
      ((responseMessage b y s'.roster).rename φ).unworded =
        (responseMessage a x s.roster).unworded :=
    responseMessage_unworded h.alike hxy _ _
  unfold answered
  rw [hon]
  split
  · exact hs.push hm (h.depth_lt hn) h.counted
  · exact hs

def cutting (t : Tracer) (hn : 1 ≤ n) : Pairing t (t.options.cutAt n)
    (some fun a b s s' _ s₁ s₁' => Tracks t.casting n (s'.blocks + 1) a b s s' s₁ s₁') where
  lenient := true
  inv a b s s' := ∃ φ, s.Cuts t.casting n φ s' ∧ a.Cuts n φ b s s'
  rel a b s s' _ s₁ s₁' := Tracks t.casting n s'.blocks a b s s' s₁ s₁'
  void r r' := ¬ t.casting.Separates r r'
  own _ _ := True
  wording _ _ := True
  refl _ := .refl
  trans h h' := h.trans (Nat.le_refl _) h'
  keeps := by
    rintro a b s s' s₁ s₁' ⟨φ, hs, ha⟩ h
    obtain ⟨ψ, hs₁, heq⟩ := h.cuts φ hs ha
    exact ⟨ψ, hs₁, h.place (Nat.le_refl _) ha heq⟩
  lasts := mistaken_lasts t
  scopes := by
    rintro a b s s' x x' ⟨φ, hs, ha⟩
    exact ⟨φ, hs.rescope x x', ha.alike, ha.bound, ha.shallow, ha.plain, ha.live, ha.counted⟩
  rescope x x' y y' h := h.rescope x x' y y'
  condition := by
    rintro a b s s' ⟨φ, hs, ha⟩
    exact ⟨φ, hs, ha.inCondition⟩
  ofCondition _ h := ⟨h.left, h.right, h.blocks, fun φ hs ha => h.cuts φ hs ha.inCondition⟩
  opens _ := Tracks.opened.less (Nat.le_succ _)
  enter := by
    rintro a b s s' s₁ s₁' f g ⟨φ, hs, ha⟩ (h : Tracks _ _ _ _ _ _ _ _ _) hfg
    obtain ⟨ψ, hs₁, heq⟩ := h.cuts φ hs ha
    exact ⟨ψ, hs₁, h.enter hfg rfl hs ha heq⟩
  ofEnter := by
    rintro a b s s' s₁ s₁' f g e s₂ s₂' - (h : Tracks _ _ _ _ _ _ _ _ _) hfg h'
    exact h.andThen h' fun _ _ hs ha heq => h.enter hfg rfl hs ha heq
  yield := by
    rintro a b s s' location -
    exact .of_cuts yielded_roster yielded_roster yielded_blocks fun φ hs ha =>
      yielded_cuts hn hs ha location
  spans := by
    rintro R ⟨⟩
    exact ⟨fun _ => .opened, fun h h' => h.trans (Nat.le_succ _) h',
      fun h => h.less (Nat.le_succ _)⟩

theorem fulfil_cuts (hn : 1 ≤ n) (hs : s.Cuts t.casting n φ s') (h : a.Cuts n φ b s s')
    {q : Request} (hq : q.Within t.casting.program) :
    (t.cutting hn).Gets (fun s s' x y => x.Alike y s.roster s'.roster) a b s s'
      (t.casting.fulfil a.caller q s.roster) (t.casting.fulfil b.caller q s'.roster) := by
  rw [h.caller]
  have hgrows := Casting.fulfil_grows (c := t.casting) hs.rosters.left.sound a.caller q
  have hgrows' := Casting.fulfil_grows (c := t.casting) hs.rosters.right.sound a.caller q
  rcases hrun : t.casting.fulfil a.caller q s.roster with ⟨f | res, r⟩
  · exact .abandoned rfl
  have hfulfilled : t.casting.Fulfilled (t.casting.fulfil a.caller q s.roster)
      (t.casting.fulfil a.caller q s'.roster) := by
    refine hs.rosters.fulfilled h.live.caller h.alike.visible' hq fun e he hwithin hstate => ?_
    rcases hintern : t.casting.intern e s.roster with ⟨f | p, r₁⟩
    · rw [Casting.fulfil_error he hintern] at hrun
      cases hrun
    · have hok : (t.casting.intern e s.roster).1 = .ok p := by rw [hintern]
      rw [← hintern]
      exact hs.rosters.intern_ok hwithin hstate hok
  rw [hrun] at hgrows hfulfilled
  generalize t.casting.fulfil a.caller q s'.roster = w at hgrows' hfulfilled
  cases hfulfilled with
  | lost hlost => exact .lost hlost hgrows.2 hgrows'.2
  | done hnow hres =>
    refine .done ⟨hgrows.1, hgrows'.1, Nat.le_refl _, fun φ hs _ => ?_⟩ hres
    exact ⟨φ, hs.recast hnow hgrows.1 hgrows'.1, fun _ _ => rfl⟩

theorem announced_tracks (hn : 1 ≤ n) (hxy : x.Alike y s.roster s'.roster) (kind : MessageKind)
    (certainty : Certainty) (location : Option Location) (text : Option String) :
    Tracks t.casting n s'.blocks a b s s' (t.announced a kind certainty x location text s)
      ((t.tuned (t.options.cutAt n)).announced b kind certainty y location text s') :=
  .of_cuts (announced_roster ..) (announced_roster ..) (announced_blocks ..)
    fun _ hs ha => announced_cuts hn hs ha hxy kind certainty location text

theorem answered_tracks (hn : 1 ≤ n) (hxy : x.participant = y.participant) (kind : MessageKind)
    (drawn : Bool) :
    Tracks t.casting n s'.blocks a b s s' (t.answered a kind x drawn s)
      ((t.tuned (t.options.cutAt n)).answered b kind y drawn s') :=
  .of_cuts (answered_roster drawn s) (answered_roster drawn s') (answered_blocks drawn s')
    fun _ hs ha => answered_cuts hn hs ha hxy kind drawn

def cuttingDelivery (t : Tracer) (hn : 1 ≤ n) (hplain : t.options.inlineLambdas = false) :
    (t.cutting hn).Delivery where
  meets _ b s s' x y := x.Alike y s.roster s'.roster ∧
    (b.path.isFull = true → x.function.bind (·.body) = none)
  function h := h.1.function
  captured h := h.1.captured
  announce kind certainty location text _ _ h :=
    announced_tracks hn h.1 kind certainty location text
  enter := by
    rintro a b s s' x y f body kind certainty location text - ⟨φ, hs, h⟩ ⟨hxy, hfull⟩ hf hbody
    have hless : b.path.isFull = false := Bool.eq_false_iff.2 fun hnow => by
      simpa [hf, hbody] using hfull hnow
    obtain ⟨hword, hword'⟩ := hxy.operation f hf
    rw [hxy.participant, hword, hword', isInlined_off hplain,
      isInlined_off (t := t.tuned (t.options.cutAt n)) hplain]
    refine (h.enter_twins x.participant hless).mono ?_
    rintro path path' ⟨henter, henter'⟩
    have hnow := announced_cuts hn hs h hxy kind certainty location text
    have hplace := (announced_tracks (t := t) hn hxy kind certainty location text).place
      (Nat.le_refl _) h fun _ _ => rfl
    -- Wherever the callers correspond, the callees do.
    have hcallee {ψ : Nat → Nat} {s₁ s₁' : Trace} (hr : s₁.roster = s.roster)
      (hr' : s₁'.roster = s'.roster)
        (h₁ : a.Cuts n ψ b s₁ s₁') :
        (a.calling path x.participant false).Cuts n ψ (b.calling path' x.participant false)
          s₁ s₁' := by
      rw [← hr] at henter
      rw [← hr'] at henter'
      exact h₁.calling (hr ▸ hxy.visible) (hr' ▸ hxy.visible') (h.lt_of_not_full hless)
        henter henter'
    refine ⟨⟨φ, hnow, hcallee (announced_roster ..) (announced_roster ..) hplace⟩,
      fun _ => trivial, trivial, ?_⟩
    intro _ s₁ s₁' hrel
    refine Tracks.rescope ?_ _ _ _ _
    exact ⟨hrel.left, hrel.right, hrel.blocks,
      fun ψ hs ha => hrel.cuts ψ hs (hcallee (announced_roster ..) (announced_roster ..) ha)⟩
  answer := by
    rintro a b s s' x y kind certainty location text s₁ s₁' - ⟨φ, hs, h⟩ ⟨hxy, -⟩ -
    rw [draws_cuts hs h hxy]
    exact answered_tracks hn hxy.participant.symm kind _

section Full

variable {f : Function} {body : Stmt}

theorem descend_full {E : Enter} (hfull : b.path.isFull = true) (hf : y.function = some f)
    (hbody : f.body = some body) (args : List Value) (inlined : Bool) (s : Trace) :
    descend E b y args inlined s = (.ok .refused, s) := by
  unfold descend
  rw [hf]
  dsimp only
  rw [hbody]
  dsimp only
  unfold CallPath.enter
  rw [hfull]
  split
  · rfl
  · rfl

structure Below (t : Tracer) (n : Nat) (s s₁ : Trace) : Prop where
  deepens : s.Deepens t.casting n s₁
  grown : s.roster.Extends s₁.roster
  sound : s₁.roster.Sound
  scopes : s₁.scopes = s.scopes

theorem withScopes_below (hdepth : n ≤ a.depth) (hr : s.roster.Sound) (hlive : a.Live s.roster)
    (scopes : Scopes) (room : Nat) (f : Function) (body : Stmt) (operation : String) :
    t.Below n s (Visit.withScopes scopes (t.enterAt room a f body operation) s).2 := by
  have hdeepens :=
    enterAt_deepens (t := t) (s := { s with scopes }) room hdepth hr hlive f body operation
  have hgrows := Pairing.enterAt_grows (t := t) room a f body operation { s with scopes } hr
  exact ⟨hdeepens.rescope s.scopes s.scopes, hgrows.1, hgrows.2, rfl⟩

theorem descend_below (hdepth : a.path.depth = n) (hplain : a.inlined = 0) (hlive : a.Live s.roster)
    (hr : s.roster.Sound) (hx : s.roster.isVisible x.participant = true) (room : Nat)
    (args : List Value) :
    t.Below n s (descend (t.enterAt room) a x args false s).2 := by
  have hstay : t.Below n s s := ⟨.refl s, .refl _, hr, rfl⟩
  unfold descend
  cases x.function with
  | none => exact hstay
  | some f =>
    dsimp only
    cases f.body with
    | none => exact hstay
    | some body =>
      dsimp only
      cases henter : a.path.enter (x.participant, x.operation) with
      | recursive => exact hstay
      | tooDeep => exact hstay
      | entered path =>
        have hcallee : n ≤ (a.calling path x.participant false).depth := by
          have hpath := CallPath.depth_enter henter
          simp only [Activation.calling, Activation.depth, Bool.false_eq_true, if_false,
            hpath, hplain, hdepth]
          omega
        have hbelow := withScopes_below (t := t) hcallee hr (hlive.calling hx henter false)
          (.forBody x.captured f.params args) room f body x.operation
        dsimp only
        rw [Agree.run_bind]
        generalize Visit.withScopes (.forBody x.captured f.params args)
          (t.enterAt room (a.calling path x.participant false) f body x.operation) s = w at hbelow ⊢
        rcases w with ⟨g | _, s₁⟩
        · exact hbelow
        · exact hbelow

theorem Below.tracks (h : t.Below n s s₁) (hseparates : t.casting.Separates s₁.roster s'.roster) :
    Tracks t.casting n s'.blocks a b s s' s₁ s' :=
  ⟨h.grown, .refl _, Nat.le_refl _, fun _ hs _ => hs.deepened h.deepens h.grown hseparates⟩

/-- Where the path is full, the first visit goes on into the body and the second one does not. -/
theorem deliver_full (hn : 1 ≤ n) (hplain : t.options.inlineLambdas = false) {kind : MessageKind}
    {u u' : Visit Unit} (hkind : kind ≠ .response) (hs : s.Cuts t.casting n φ s')
    (h : a.Cuts n φ b s s') (hscopes : s.scopes = s'.scopes) (hxy : x.Alike y s.roster s'.roster)
    (hfull : b.path.isFull = true) (hf : x.function = some f) (hbody : f.body = some body)
    (room : Nat) (certainty : Certainty) (args : List Value) (location : Option Location)
    (text : Option String) :
    Beside (t.cutting hn).void ((t.cutting hn).rel a b s s') (t.cutting hn).lenient
      (t.deliver (t.enterAt room) a kind certainty x args location text u s)
      ((t.tuned (t.options.cutAt n)).deliver ((t.tuned (t.options.cutAt n)).enterAt room)
        b kind certainty y args location text u' s') := by
  obtain ⟨sent, hsent, hrun⟩ :=
    t.deliver_run (t.enterAt room) a x hkind certainty args location text u s
  obtain ⟨sent', hsent', hrun'⟩ := (t.tuned (t.options.cutAt n)).deliver_run
    ((t.tuned (t.options.cutAt n)).enterAt room) b y hkind certainty args location text u' s'
  have hy : y.function = some f := hxy.function.trans hf
  rw [hrun, hrun', attend_of_body hf hbody, attend_of_body hy hbody, Agree.run_bind, Agree.run_bind,
    descend_full hfull hy hbody, isInlined_off hplain]
  have hannounced := announced_tracks (t := t) (a := a) (b := b) hn hxy kind certainty location text
  have hroster : (t.announced a kind certainty x location text s).roster = s.roster :=
    announced_roster ..
  have hbelow := descend_below (t := t) (s := t.announced a kind certainty x location text s)
    (h.depth_of_full hfull)
    h.plain (hroster ▸ h.live) (hroster ▸ hs.rosters.left.sound) (hroster ▸ hxy.visible) room args
  generalize hdescend : descend (t.enterAt room) a x args false
    (t.announced a kind certainty x location text s) = w at hbelow
  rcases w with ⟨g | d, s₁⟩
  · exact .abandoned
  · dsimp only
    rw [answer_run, answer_run, hsent, hsent', draws_cuts hs h hxy]
    by_cases hseparates : t.casting.Separates s₁.roster
        ((t.tuned (t.options.cutAt n)).announced b kind certainty y location text s').roster
    · have hsame : s₁.scopes = s.scopes := hbelow.scopes.trans (announced_scopes ..)
      refine .done (by simpa [hsame] using hscopes) ?_
      have hvisited := hannounced.trans (Nat.le_refl _) (hbelow.tracks hseparates)
      exact hvisited.trans (Nat.le_refl _) (answered_tracks hn hxy.participant.symm kind _)
    · refine .of_lost ?_ (by simpa using hbelow.sound) (by simpa using hs.rosters.right.sound)
      show ¬ t.casting.Separates _ _
      simpa using hseparates

end Full

def cuttingFollowing (t : Tracer) (hn : 1 ≤ n) (hplain : t.options.inlineLambdas = false) :
    (t.cutting hn).Following := by
  refine .uniform (fun _ _ s s' x y => x.Alike y s.roster s'.roster) ?_ ?_ rfl
  · rintro a b s s' q ⟨φ, hs, h⟩ hq -
    exact fulfil_cuts hn hs h hq
  · intro room a b s s' x y kind u u' certainty args location text hE hu hkind hinv hscopes hxy
    by_cases hdeep : b.path.isFull = true → x.function.bind (·.body) = none
    · exact (t.cuttingDelivery hn hplain).deliver certainty args location text hE hu
        hkind hinv hscopes ⟨hxy, hdeep⟩
    · obtain ⟨hfull, hbody⟩ := Classical.not_imp.1 hdeep
      obtain ⟨body, hbody⟩ := Option.ne_none_iff_exists'.1 hbody
      obtain ⟨f, hf, hbody⟩ := Option.bind_eq_some_iff.1 hbody
      obtain ⟨φ, hs, h⟩ := hinv
      exact deliver_full hn hplain hkind hs h hscopes hxy hfull hf hbody room
        certainty args location text

theorem start_cuts (hunbound : t.options.maxDepth = none) {p : ParticipantId} {r r' : Roster}
    (hn : 1 ≤ n) (hp : r.isVisible p = true) (hp' : r'.isVisible p = true) (hs : s.roster = r)
    (hs' : s'.roster = r') :
    (t.start r p).Cuts n φ ((t.tuned (t.options.cutAt n)).start r' p) s s' := by
  subst hs hs'
  refine ⟨?_, rfl, by simpa [start, CallPath.depth] using hn, rfl,
    ?_, by simp [start, Context.Counted]⟩
  · have hstart :
        ((t.tuned (t.options.cutAt n)).start s'.roster p).uncut φ = t.start s'.roster p := by
      simp [start, Activation.uncut, hunbound]
    rw [hstart]
    exact start_alike hp hp'
  · exact ⟨hp, by simp [start], by simp [start, CallPath.depth]⟩

theorem trace_cuts (hunbound : t.options.maxDepth = none) (hplain : t.options.inlineLambdas = false)
    (hn : 1 ≤ n) {entry : Decl} (hentry : t.casting.program.Declares entry) :
    Beside (fun r r' => ¬ t.casting.Separates r r')
      (fun _ s s' => ∃ φ, s.Cuts t.casting n φ s') true
      (t.trace entry {}) ((t.tuned (t.options.cutAt n)).trace entry {}) := by
  have hstart : Trace.Cuts t.casting n id {} {} := .start t.casting n
  have hfull : ({ maxDepth := (t.options.cutAt n).maxDepth } : CallPath).isFull =
      ({ maxDepth := t.options.maxDepth } : CallPath).isFull := by
    rw [hunbound]
    simpa [CallPath.isFull, CallPath.depth, TraceOptions.cutAt] using Nat.one_le_iff_ne_zero.1 hn
  refine (t.cuttingFollowing hn hplain).trace_both hfull rfl (fun _ => ⟨id, hstart⟩) fun _ => ?_
  have hgrows := (Casting.intern_grows (c := t.casting) .empty (.decl entry)).result
  rcases hrun : t.casting.intern (.decl entry) {} with ⟨f | p, r⟩
  · exact .abandoned rfl
  have hok : (t.casting.intern (.decl entry) {}).1 = .ok p := by rw [hrun]
  have hinterned := hstart.rosters.intern_ok (e := .decl entry) hentry (by simp) hok
  rw [hrun] at hinterned hgrows
  cases hinterned with
  | lost hlost => exact .lost hlost hgrows.sound hgrows.sound
  | excluded hnow _ =>
    exact .excluded rfl fun _ => ⟨id, hstart.recast hnow hgrows.grown hgrows.grown⟩
  | seen hnow hvisible hvisible' =>
    have hbegin := hstart.begin hnow hgrows.grown hgrows.grown hvisible hvisible'
    have hplace :
      (t.start r p).Cuts n id ((t.tuned (t.options.cutAt n)).start r p) (({} : Trace).begin r p)
        (({} : Trace).begin r p) := start_cuts hunbound hn hvisible hvisible' rfl rfl
    refine .begins (Roster.isTombstone_of_isVisible hvisible) ⟨⟨id, hbegin⟩, ⟨id, hbegin, hplace⟩,
      fun _ _ _ => trivial, trivial, ?_⟩
    intro _ s₁ s₁' hrel
    obtain ⟨ψ, hs₁, -⟩ := hrel.cuts id hbegin hplace
    exact ⟨ψ, hs₁.rescope _ _⟩

/-- A bound on the depth only cuts. Where tracing without a bound succeeds, tracing with one does
too, and the messages are those of a lesser depth in the same order, but for the numbers of blocks
and for words that depend on the roster. -/
theorem depth_bound_only_cuts {entry : Decl} (hplain : t.options.inlineLambdas = false)
    (hentry : t.casting.program.Declares entry) (hn : 1 ≤ n)
    (hok : ((t.tuned t.options.uncut).trace entry {}).1 = .ok ())
    (hseparates : t.casting.Separates ((t.tuned t.options.uncut).trace entry {}).2.roster
      ((t.tuned (t.options.cutAt n)).trace entry {}).2.roster) :
    ((t.tuned (t.options.cutAt n)).trace entry {}).1 = .ok () ∧
    ∃ φ : Nat → Nat, StrictMono φ ∧
      ((t.tuned (t.options.cutAt n)).trace entry {}).2.interaction.messages.toList.map
          (fun m => (m.rename φ).unworded) =
        (((t.tuned t.options.uncut).trace entry {}).2.interaction.messages.toList.filter
          fun m => m.depth < n).map Message.unworded := by
  have hcuts := trace_cuts (t := t.tuned t.options.uncut) rfl hplain hn hentry
  change Beside _ _ _ ((t.tuned t.options.uncut).trace entry {})
    ((t.tuned (t.options.cutAt n)).trace entry {}) at hcuts
  generalize (t.tuned t.options.uncut).trace entry {} = v,
    (t.tuned (t.options.cutAt n)).trace entry {} = w at *
  cases hcuts with
  | lost hlost => exact absurd hseparates hlost
  | failed => cases hok
  | abandoned => cases hok
  | done _ h =>
    obtain ⟨φ, hs⟩ := h
    refine ⟨rfl, φ, hs.mono, ?_⟩
    have hmessages := congrArg (fun i : Interaction => i.messages.toList) hs.alike.interaction
    simpa [Interaction.unworded, Trace.rename, Trace.shallow,
      Interaction.rename, Interaction.shallow, Function.comp_def] using hmessages

theorem depth_bound_only_cuts_sample :
    ((Sample.distinct.tuned Sample.distinct.options.uncut).trace Sample.run {}).1 = .ok () ∧
    Sample.casting.Separates
      ((Sample.distinct.tuned Sample.distinct.options.uncut).trace Sample.run {}).2.roster
      ((Sample.distinct.tuned (Sample.distinct.options.cutAt 2)).trace Sample.run {}).2.roster ∧
    ((Sample.distinct.tuned (Sample.distinct.options.cutAt 2)).trace Sample.run {}).1 = .ok () ∧
    ∃ φ : Nat → Nat, StrictMono φ ∧
      ((Sample.distinct.tuned (Sample.distinct.options.cutAt 2)).trace
          Sample.run {}).2.interaction.messages.toList.map (fun m => (m.rename φ).unworded) =
        (((Sample.distinct.tuned Sample.distinct.options.uncut).trace
          Sample.run {}).2.interaction.messages.toList.filter
            fun m => m.depth < 2).map Message.unworded := by
  have hok :
      ((Sample.distinct.tuned Sample.distinct.options.uncut).trace Sample.run {}).1 = .ok () := by
    decide +kernel
  have hseparates : Sample.casting.Separates
      ((Sample.distinct.tuned Sample.distinct.options.uncut).trace Sample.run {}).2.roster
      ((Sample.distinct.tuned (Sample.distinct.options.cutAt 2)).trace Sample.run {}).2.roster := by
    unfold Casting.Separates
    decide +kernel
  exact ⟨hok, hseparates,
    depth_bound_only_cuts (t := Sample.distinct) rfl rfl (by decide) hok hseparates⟩

end Tracer

end Lifeline
