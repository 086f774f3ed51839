import Lifeline.Layout
import Lifeline.Proofs.Pairing.Run

/-! Going on from what has been recorded. A trace that goes on records what a trace of its own
would, and only counts its blocks from where the count stands. -/

namespace Lifeline

namespace Frame

def shift (n : Nat) : Frame → Frame
  | .branch block kind index total label => .branch (n + block) kind index total label
  | .loop block kind label => .loop (n + block) kind label
  | .handler block index label => .handler (n + block) index label
  | .coroutine block label => .coroutine (n + block) label

end Frame

def Message.shift (n : Nat) (m : Message) : Message :=
  { m with context := m.context.map (Frame.shift n) }

def Activation.shift (n : Nat) (a : Activation) : Activation :=
  { a with context := a.context.map (Frame.shift n) }

def Interaction.extend (i : Interaction) (n : Nat) (j : Interaction) : Interaction :=
  { i with
    entryPoints := i.entryPoints ++ j.entryPoints
    messages := i.messages ++ j.messages.map (Message.shift n) }

/-- What has been recorded, followed by what a trace of its own records. -/
def Trace.resume (s fresh : Trace) : Trace where
  roster := fresh.roster
  blocks := s.blocks + fresh.blocks
  interaction := s.interaction.extend s.blocks fresh.interaction
  scopes := s.scopes

theorem Interaction.extend_push (i : Interaction) (n : Nat) (j : Interaction) (m : Message) :
    i.extend n (j.push m) = (i.extend n j).push (m.shift n) := by
  simp [extend, push]

def Context.Counted (c : Context) (s : Trace) : Prop :=
  ∀ f ∈ c, f.block < s.blocks

theorem Context.Counted.mono {c : Context} {s s' : Trace} (h : c.Counted s)
    (hs : s.blocks ≤ s'.blocks) : c.Counted s' :=
  fun f hf => Nat.lt_of_lt_of_le (h f hf) hs

/-- The second trace is the first one, as it goes on from what has been recorded. -/
structure Trace.Resumes (base s s' : Trace) : Prop where
  roster : s'.roster = s.roster
  blocks : s'.blocks = base.blocks + s.blocks
  interaction : s'.interaction = base.interaction.extend base.blocks s.interaction
  counted : ∀ m ∈ s.interaction.messages, m.context.Counted s

namespace Trace.Resumes

variable {base s s' : Trace}

theorem rescope (h : Resumes base s s') (x x' : Scopes) :
    Resumes base { s with scopes := x } { s' with scopes := x' } :=
  ⟨h.roster, h.blocks, h.interaction, h.counted⟩

theorem opened (h : Resumes base s s') : Resumes base s.opened s'.opened :=
  ⟨h.roster, by simp only [Trace.opened, h.blocks, Nat.add_assoc], h.interaction,
    fun m hm => (h.counted m hm).mono (Nat.le_succ _)⟩

theorem push (h : Resumes base s s') {m : Message} (hm : m.context.Counted s) :
    Resumes base (s.push m) (s'.push (m.shift base.blocks)) := by
  refine ⟨h.roster, h.blocks, by simp only [Trace.push, h.interaction, Interaction.extend_push], ?_⟩
  intro m' hm'
  rcases Array.mem_push.1 hm' with hold | rfl
  · exact h.counted m' hold
  · exact hm

theorem recast (h : Resumes base s s') (r : Roster) :
    Resumes base { s with roster := r } { s' with roster := r } :=
  ⟨rfl, h.blocks, h.interaction, h.counted⟩

theorem begin (h : Resumes base s s') (r : Roster) (p : ParticipantId) :
    Resumes base (s.begin r p) (s'.begin r p) :=
  ⟨rfl, h.blocks, by simp [Trace.begin, h.interaction, Interaction.extend], h.counted⟩

theorem start (base : Trace) : Resumes base { roster := base.roster } base :=
  ⟨rfl, rfl, by simp [Interaction.extend], by simp⟩

theorem eq (h : Resumes base s s') (hscopes : s'.scopes = base.scopes) : s' = base.resume s := by
  rcases s' with ⟨roster, blocks, interaction, scopes⟩
  rcases h with ⟨rfl, rfl, rfl, -⟩
  cases hscopes
  rfl

end Trace.Resumes

theorem Frame.Twins.shift {t : Tracer} {m n : Nat} {f g : Frame}
    (h : Frame.Twins t t (fun x y => y = x) m (n + m) f g) : g = f.shift n := by
  cases h with
  | branch kind index total text => rfl
  | loop kind text => rfl
  | handler index label => rfl
  | coroutine h =>
    rw [h]
    rfl

theorem Frame.Twins.block_eq {t u : Tracer} {wording : String → String → Prop} {m n : Nat}
    {f g : Frame} (h : Frame.Twins t u wording m n f g) : f.block = m := by
  cases h <;> rfl

namespace Tracer

open Pairing

variable (t : Tracer) (base : Trace)

def resuming : Pairing t t.options where
  inv a b s s' := b = a.shift base.blocks ∧ base.Resumes s s' ∧ a.context.Counted s
  rel _ _ s _ _ s₁ s₁' := base.Resumes s₁ s₁' ∧ s.blocks ≤ s₁.blocks
  void _ _ := False
  own _ _ := True
  wording operation operation' := operation' = operation
  refl h := ⟨h.2.1, Nat.le_refl _⟩
  trans h h' := ⟨h'.1, Nat.le_trans h.2 h'.2⟩
  keeps h h' := ⟨h.1, h'.1, h.2.2.mono h'.2⟩
  lasts h _ _ := h
  scopes h := ⟨h.1, h.2.1.rescope _ _, h.2.2⟩
  rescope _ _ y y' h := ⟨h.1.rescope y y', h.2⟩
  condition h := ⟨by rw [h.1]; rfl, h.2⟩
  ofCondition _ h := h
  opens h := ⟨h.2.1.opened, Nat.le_succ _⟩
  enter := by
    rintro a _ s s' s₁ s₁' f g ⟨rfl, h, hcontext⟩ ⟨h₁, hle⟩ hfg
    have hlt : s.blocks < s₁.blocks := hle
    rw [h.blocks] at hfg
    refine ⟨?_, h₁, ?_⟩
    · rw [hfg.shift]
      simp [Activation.enter, Activation.shift]
    · intro f' hf'
      rcases List.mem_append.1 hf' with hold | hnew
      · exact Nat.lt_trans (hcontext f' hold) hlt
      · rw [List.mem_singleton.1 hnew, hfg.block_eq]
        exact hlt
  ofEnter _ _ _ h := h
  yield := by
    rintro a _ s s' location ⟨rfl, h, hcontext⟩
    cases hreturn : a.returnTo with
    | none =>
      rw [yielded_none hreturn, yielded_none (a := a.shift base.blocks) hreturn]
      exact ⟨h, Nat.le_refl _⟩
    | some receiver =>
      rw [yielded_some hreturn, yielded_some (a := a.shift base.blocks) hreturn]
      cases t.options.returnMessages with
      | false => exact ⟨h, Nat.le_refl _⟩
      | true => exact ⟨h.push hcontext, Nat.le_refl _⟩

variable {t base} {a : Activation} {s s' : Trace}

theorem calling_shift (n : Nat) (path : CallPath) (p : ParticipantId) (inlined : Bool) :
    (a.shift n).calling path p inlined = (a.calling path p inlined).shift n := by
  cases inlined <;> rfl

theorem announced_resumes (h : base.Resumes s s') (hcontext : a.context.Counted s)
    (kind : MessageKind) (certainty : Certainty) (x : Target) (location : Option Location)
    (text : Option String) :
    base.Resumes (t.announced a kind certainty x location text s)
        (t.announced (a.shift base.blocks) kind certainty x location text s') ∧
      s.blocks ≤ (t.announced a kind certainty x location text s).blocks := by
  have hdraws : t.draws (a.shift base.blocks) s.roster x = t.draws a s.roster x := rfl
  unfold announced
  rw [h.roster, hdraws]
  split
  · exact ⟨h.push hcontext, Nat.le_refl _⟩
  · exact ⟨h, Nat.le_refl _⟩

theorem answered_resumes (h : base.Resumes s s') (hcontext : a.context.Counted s)
    (kind : MessageKind) (x : Target) (drawn : Bool) :
    base.Resumes (t.answered a kind x drawn s) (t.answered (a.shift base.blocks) kind x drawn s') ∧
      s.blocks ≤ (t.answered a kind x drawn s).blocks := by
  unfold answered
  rw [h.roster]
  split
  · exact ⟨h.push hcontext, Nat.le_refl _⟩
  · exact ⟨h, Nat.le_refl _⟩

def resumingLockstep (t : Tracer) (base : Trace) : (t.resuming base).Lockstep where
  meets _ _ _ _ x y := x = y
  fulfil := by
    rintro a _ s s' q ⟨rfl, h, -⟩ - -
    rw [h.roster]
    show (t.resuming base).Gets _ _ _ _ _ (t.casting.fulfil a.caller q s.roster)
      (t.casting.fulfil a.caller q s.roster)
    rcases t.casting.fulfil a.caller q s.roster with ⟨f | res, r⟩
    · exact .failed ⟨h.recast r, Nat.le_refl _⟩
    · refine .done ⟨h.recast r, Nat.le_refl _⟩ ?_
      cases res with
      | found certainty target => exact .found rfl
      | unresolved name => exact .unresolved name
      | filtered => exact .filtered
  function := by
    rintro _ _ _ _ x _ rfl
    rfl
  captured := by
    rintro _ _ _ _ x _ rfl
    rfl
  announce := by
    rintro a _ s s' x _ kind certainty location text - ⟨rfl, h, hcontext⟩ rfl
    exact announced_resumes h hcontext kind certainty x location text
  enter := by
    rintro a _ s s' x _ f body kind certainty location text - ⟨rfl, h, hcontext⟩ rfl - -
    obtain ⟨hnow, hle⟩ := announced_resumes (t := t) h hcontext kind certainty x location text
    refine .of_eq fun path _ => ⟨⟨?_, hnow, ?_⟩, fun _ => trivial, rfl, fun _ _ _ h₁ => ?_⟩
    · rw [calling_shift, h.roster]
    · have hsame : (a.calling path x.participant (t.isInlined s.roster x)).context = a.context := by
        cases t.isInlined s.roster x <;> rfl
      rw [hsame]
      exact hcontext.mono hle
    · exact ⟨h₁.1.rescope _ _, h₁.2⟩
  answer := by
    rintro a _ s s' x _ kind certainty location text s₁ s₁' - ⟨rfl, h, hcontext⟩ rfl ⟨h₁, hle⟩
    obtain ⟨-, hle'⟩ := announced_resumes (t := t) h hcontext kind certainty x location text
    have hdraws : t.draws (a.shift base.blocks) s'.roster x = t.draws a s.roster x := by
      rw [h.roster]
      rfl
    rw [hdraws]
    exact answered_resumes h₁ (hcontext.mono (Nat.le_trans hle' hle)) kind x _

theorem trace_resume (hs : s.scopes = .empty) (entry : Decl) :
    t.trace entry s =
        ((t.trace entry { roster := s.roster }).1,
          s.resume (t.trace entry { roster := s.roster }).2) ∧
      ∀ m ∈ (t.trace entry { roster := s.roster }).2.interaction.messages,
        m.context.Counted (t.trace entry { roster := s.roster }).2 := by
  have hstart := Trace.Resumes.start s
  have hboth : Both (fun _ _ => False) (fun _ s₁ s₁' => s.Resumes s₁ s₁' ∧ s₁'.scopes = s.scopes)
      (t.trace entry { roster := s.roster }) (t.trace entry s) := by
    refine trace_both (P := t.resuming s) (resumingLockstep t s).dispatching rfl rfl hs.symm
      (fun _ => ⟨hstart, rfl⟩) fun _ => ?_
    rcases t.casting.intern (.decl entry) s.roster with ⟨f | p, r⟩
    · exact .failed ⟨hstart.recast r, rfl⟩
    · cases hp : p.isTombstone with
      | true => exact .excluded hp fun _ => ⟨hstart.recast r, rfl⟩
      | false =>
        have hbegin := hstart.begin r p
        refine .begins hp ⟨⟨hbegin, rfl⟩, ⟨rfl, hbegin, by simp [Context.Counted, start]⟩,
          fun _ _ _ => trivial, rfl, ?_⟩
        exact fun _ _ _ h => ⟨h.1.rescope _ _, rfl⟩
  generalize t.trace entry { roster := s.roster } = x, t.trace entry s = y at hboth
  cases hboth with
  | lost h => exact h.elim
  | done _ h => exact ⟨by rw [h.1.eq h.2], h.1.counted⟩
  | failed _ h => exact ⟨by rw [h.1.eq h.2], h.1.counted⟩

def apart (t : Tracer) : List Decl → Roster → List Trace
  | [], _ => []
  | entry :: rest, r =>
    (t.trace entry { roster := r }).2 :: t.apart rest (t.trace entry { roster := r }).2.roster

end Tracer

def Interaction.joined (starts : List Nat) (is : List Interaction) : List Message :=
  (List.zipWith (fun n (i : Interaction) => i.messages.toList.map (Message.shift n))
    starts is).flatten

namespace Tracer

variable {t : Tracer}

inductive Accords (s : Trace) (fresh : List Trace) :
    Except Fault Unit × Trace → Except Fault (List (List Interaction)) × Roster → Prop
  | failed {f : Fault} {s₁ : Trace} {r : Roster} : r = s₁.roster →
    Accords s fresh (.error f, s₁) (.error f, r)
  | done {s₁ : Trace} {r : Roster} {chains : List (List Interaction)} : r = s₁.roster →
    chains.flatten.map (fun i => (i.entryPoints, i.messages)) =
      fresh.map (fun s => (s.interaction.entryPoints, s.interaction.messages)) →
    s₁.interaction.entryPoints =
      s.interaction.entryPoints ++ chains.flatten.flatMap (·.entryPoints) →
    s₁.interaction.messages.toList = s.interaction.messages.toList ++
      Interaction.joined ((fresh.map (·.blocks)).scanl (· + ·) s.blocks) chains.flatten →
    Accords s fresh (.ok (), s₁) (.ok chains, r)

theorem forM_cons_run (entry : Decl) (rest : List Decl) (s : Trace) :
    ((entry :: rest).forM t.trace : Visit Unit) s =
      (t.trace entry >>= fun _ => rest.forM t.trace) s := rfl

theorem interaction_ok {entries : List Decl} {r : Roster} {x : Unit} {s : Trace}
    (h : (entries.forM t.trace : Visit Unit) { roster := r } = (.ok x, s)) :
    t.interaction entries r = (.ok s.interaction, s.roster) := by
  rw [interaction, h]

theorem interaction_error {entries : List Decl} {r : Roster} {f : Fault} {s : Trace}
    (h : (entries.forM t.trace : Visit Unit) { roster := r } = (.error f, s)) :
    t.interaction entries r = (.error f, s.roster) := by
  rw [interaction, h]

theorem chainsFrom_ok {entry : Decl} {r : Roster} {s : Trace}
    (h : t.trace entry { roster := r } = (.ok (), s)) : t.chainsFrom none entry r =
      (.ok [{ s.interaction with
        label :=
          ((s.interaction.entryPoints.head?.bind s.roster.get?).map (·.fullName)).getD
            entry.name }],
        s.roster) := by
  have hrun : ([entry].forM t.trace : Visit Unit) { roster := r } = (.ok (), s) := by
    rw [forM_cons_run, Agree.run_bind, h]
    rfl
  unfold chainsFrom
  rw [Agree.run_bind, interaction_ok hrun]
  rfl

theorem chainsFrom_error {entry : Decl} {r : Roster} {s : Trace} {f : Fault}
    (h : t.trace entry { roster := r } = (.error f, s)) :
    t.chainsFrom none entry r = (.error f, s.roster) := by
  have hrun : ([entry].forM t.trace : Visit Unit) { roster := r } = (.error f, s) := by
    rw [forM_cons_run, Agree.run_bind, h]
  unfold chainsFrom
  rw [Agree.run_bind, interaction_error hrun]

theorem forM_accords {s : Trace} (hs : s.scopes = .empty) (entries : List Decl) :
    Accords s (t.apart entries s.roster) ((entries.forM t.trace : Visit Unit) s)
      ((entries.mapM (t.chainsFrom none) : Cast _) s.roster) := by
  induction entries generalizing s with
  | nil => exact .done rfl rfl (by simp) (by simp [Interaction.joined, apart])
  | cons entry rest ih =>
    have hresume := (t.trace_resume hs entry).1
    rw [forM_cons_run, List.mapM_cons, Agree.run_bind, Agree.run_bind, hresume, apart]
    rcases htrace : t.trace entry { roster := s.roster } with ⟨f | x, fresh⟩
    · rw [chainsFrom_error htrace]
      exact .failed rfl
    · rw [chainsFrom_ok htrace]
      dsimp only
      rw [Agree.run_bind]
      -- The rest goes on from what the first entry point has left.
      have hrest := ih (s := s.resume fresh) hs
      generalize (rest.forM t.trace : Visit Unit) (s.resume fresh) = y at hrest ⊢
      rw [show (s.resume fresh).roster = fresh.roster from rfl] at hrest
      generalize (rest.mapM (t.chainsFrom none) : Cast _) fresh.roster = z at hrest ⊢
      cases hrest with
      | failed hr => exact .failed hr
      | done hr hsame hentries hmessages =>
        refine .done hr ?_ ?_ ?_
        · simp [hsame]
        · simp [hentries, Trace.resume, Interaction.extend]
        · simp [hmessages, Trace.resume, Interaction.extend, Interaction.joined]

theorem apart_counted (entries : List Decl) (r : Roster) :
    ∀ s ∈ t.apart entries r, ∀ m ∈ s.interaction.messages, m.context.Counted s := by
  induction entries generalizing r with
  | nil => simp [apart]
  | cons entry rest ih =>
    simp only [apart, List.forall_mem_cons]
    exact ⟨(trace_resume (s := { roster := r }) rfl entry).2, ih _⟩

/-- What becomes of several entry points in one interaction, given what becomes of each in its
own. -/
inductive Merges (fresh : List Trace) :
    Except Fault (List Interaction) → Except Fault (List Interaction) → Prop
  | failed (f : Fault) : Merges fresh (.error f) (.error f)
  | done {chains : List Interaction} {merged : Interaction} :
    chains.map (fun i => (i.entryPoints, i.messages)) =
      fresh.map (fun s => (s.interaction.entryPoints, s.interaction.messages)) →
    merged.entryPoints = chains.flatMap (·.entryPoints) →
    merged.messages.toList = Interaction.joined ((fresh.map (·.blocks)).scanl (· + ·) 0) chains →
    Merges fresh (.ok chains) (.ok [merged])

theorem interactions_merge (r : Roster) (entries : List Decl) (target : Option String) :
    (t.interactions .merged target entries r).2 = (t.interactions .chains none entries r).2 ∧
      Merges (t.apart entries r) (t.interactions .chains none entries r).1
        (t.interactions .merged target entries r).1 := by
  have haccords := t.forM_accords (s := { roster := r }) rfl entries
  simp only [interactions, merged, Agree.run_bind]
  generalize hrun : (entries.forM t.trace : Visit Unit) { roster := r } = y at haccords
  generalize (entries.mapM (t.chainsFrom none) : Cast _) r = z at haccords ⊢
  cases haccords with
  | failed hr =>
    rw [interaction_error hrun]
    exact ⟨hr.symm, .failed _⟩
  | done hr hsame hentries hmessages =>
    rw [interaction_ok hrun]
    exact ⟨hr.symm, .done hsame (by simpa using hentries) (by simpa using hmessages)⟩

end Tracer

end Lifeline
