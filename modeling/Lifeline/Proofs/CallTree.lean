import Mathlib.Data.List.Induction
import Lifeline.Proofs.Law.Calls

namespace Lifeline

/-- The last of the calls so far that is above this level is one level above it, and went to the
sender. -/
def CalledFrom (before : List Message) (depth : Nat) (sender : ParticipantId) : Prop :=
  ∃ earlier c since, before = earlier ++ c :: since ∧ c.depth + 1 = depth ∧ c.receiver = sender ∧
    ∀ m ∈ since, depth ≤ m.depth

def Placed (entryPoints : List ParticipantId) (before : List Message) (depth : Nat)
    (sender : ParticipantId) : Prop :=
  depth = 0 ∧ entryPoints.getLast? = some sender ∨ CalledFrom before depth sender

theorem CalledFrom.append {before more : List Message} {depth : Nat} {sender : ParticipantId}
    (h : CalledFrom before depth sender) (hmore : ∀ m ∈ more, depth ≤ m.depth) :
    CalledFrom (before ++ more) depth sender := by
  obtain ⟨earlier, c, since, rfl, hc, hsender, hsince⟩ := h
  refine ⟨earlier, c, since ++ more, by simp, hc, hsender, ?_⟩
  exact List.forall_mem_append.2 ⟨hsince, hmore⟩

namespace Interaction

def AllPlaced (entryPoints : List ParticipantId) : List Message → List Message → Prop
  | _, [] => True
  | before, m :: rest =>
    Placed entryPoints before m.depth m.sender ∧ AllPlaced entryPoints (before ++ [m]) rest

theorem allPlaced_append {entryPoints : List ParticipantId} {before xs ys : List Message} :
    AllPlaced entryPoints before (xs ++ ys) ↔
      AllPlaced entryPoints before xs ∧ AllPlaced entryPoints (before ++ xs) ys := by
  induction xs generalizing before with
  | nil => simp [AllPlaced]
  | cons m rest ih =>
    simp only [List.cons_append, AllPlaced, ih, List.append_assoc, List.nil_append, and_assoc]

structure Places (depth : Nat) (i i' : Interaction) (new : List Message) :
    Prop extends Adds depth i i' new where
  entryPoints : i'.entryPoints = i.entryPoints
  placed : AllPlaced i.entryPoints i.calls new

variable {depth : Nat} {i i' i'' : Interaction} {new more : List Message}

theorem Places.refl (depth : Nat) (i : Interaction) : Places depth i i [] :=
  ⟨.refl depth i, rfl, trivial⟩

theorem Places.trans (h : Places depth i i' new) (h' : Places depth i' i'' more) :
    Places depth i i'' (new ++ more) := by
  refine ⟨h.toAdds.trans h'.toAdds, h'.entryPoints.trans h.entryPoints,
    allPlaced_append.2 ⟨h.placed, ?_⟩⟩
  rw [← h.calls, ← h.entryPoints]
  exact h'.placed

end Interaction

def Place.Reached (p : Place) (i : Interaction) : Prop :=
  Placed i.entryPoints i.calls p.depth p.caller

namespace Place.Reached

open Interaction

variable {p : Place} {a : Activation} {i i' : Interaction} {new : List Message} {m : Message}

theorem after (h : p.Reached i) (hi : Places p.depth i i' new) : p.Reached i' := by
  unfold Reached
  rw [hi.entryPoints, hi.calls]
  exact h.imp_right fun hcalled => hcalled.append hi.deep

theorem send (h : a.place.Reached i) (hm : m.SentIn a) : Places a.depth i (i.push m) [m] := by
  refine ⟨.send hm, rfl, ?_, trivial⟩
  rw [hm.depth, hm.sender]
  exact h

theorem call (hm : m.SentIn a) {path : CallPath} {callee : ParticipantId}
    (hcallee : m.receiver = callee) : (⟨path, callee, a.depth + 1⟩ : Place).Reached (i.push m) := by
  refine .inr ⟨i.calls, m, [], ?_, ?_, hcallee, by simp⟩
  · exact (Adds.send hm).calls
  · rw [hm.depth]

end Place.Reached

def Tracer.placing (t : Tracer) : CallLaw t where
  inv p _ i := p.Reached i
  rel p _ i _ i' := ∃ new, Interaction.Places p.depth i i' new
  mention _ := True
  fault _ := True
  refl _ := ⟨[], .refl _ _⟩
  trans := by
    rintro p r i r' i' r'' i'' ⟨new, hnew⟩ ⟨more, hmore⟩
    exact ⟨new ++ more, hnew.trans hmore⟩
  keeps := by
    rintro p r i r' i' h ⟨new, hnew⟩
    exact h.after hnew
  program := t.mentions_all
  faults := t.faults_all
  step _ _ _ _ := ⟨[], .refl _ _⟩
  send h _ hm _ _ := ⟨_, h.send hm⟩
  answer _ _ hm _ _ := ⟨[], .answer hm, rfl, trivial⟩
  call _ _ hm hreceiver _ := Place.Reached.call hm hreceiver
  ofCall := by
    rintro a r i m target path r' i' h _ hm _ _ ⟨new, hnew⟩
    exact ⟨_, (h.send hm).trans ⟨hnew.toAdds.mono (Nat.le_succ _), hnew.entryPoints, hnew.placed⟩⟩
  inline h _ _ := h
  ofInline _ _ _ h := h

namespace Tracer

variable {t : Tracer} {s : Trace}

theorem placing_admits (entry : Decl) : t.placing.toLaw.Admits entry :=
  ⟨Stmt.mentions_all _, fun _ _ _ _ => trivial⟩

theorem placing_start {entry : Decl} {p : ParticipantId} {r : Roster}
    (_ : Law.Begins t entry s p r) : t.placing.toLaw.inv (t.start r p) (s.begin r p) :=
  .inl ⟨rfl, List.getLast?_concat⟩

theorem trace_places (hr : s.roster.Sound) (entry : Decl) :
    ∃ new, (t.trace entry s).2.interaction.calls = s.interaction.calls ++ new ∧
      ∀ earlier m later, new = earlier ++ m :: later →
        m.depth = 0 ∧
        (t.trace entry s).2.interaction.entryPoints = s.interaction.entryPoints ++ [m.sender] ∨
        CalledFrom (s.interaction.calls ++ earlier) m.depth m.sender := by
  have htraced := Law.trace_traced hr (placing_admits (t := t) entry) fun p r => placing_start
  generalize (t.trace entry s).1 = result, (t.trace entry s).2 = s' at htraced
  cases htraced with
  | refused _ => exact ⟨[], (List.append_nil _).symm, by simp⟩
  | failed _ _ _ _ => exact ⟨[], (List.append_nil _).symm, by simp⟩
  | excluded _ _ _ => exact ⟨[], (List.append_nil _).symm, by simp⟩
  | unentered _ => exact ⟨[], (List.append_nil _).symm, by simp⟩
  | @visited p r _ s' _ hpost =>
    obtain ⟨new, hnew⟩ := hpost.rel
    refine ⟨new, hnew.calls, ?_⟩
    rintro earlier m later rfl
    obtain ⟨-, hm, -⟩ := Interaction.allPlaced_append.1 hnew.placed
    refine hm.imp_left fun ⟨hdepth, hlast⟩ => ⟨hdepth, ?_⟩
    have hp : p = m.sender := Option.some.inj (List.getLast?_concat.symm.trans hlast)
    rw [← hp]
    exact hnew.entryPoints

def SentFromEntry (t : Tracer) (s : Trace) (entries : List Decl) (before : List Message)
    (m : Message) : Prop :=
  m.depth = 0 ∧ ∃ done entry rest, entries = done ++ entry :: rest ∧
    (t.traceAll done s).interaction.calls <+: before ∧
    before ++ [m] <+: (t.traceAll (done ++ [entry]) s).interaction.calls ∧
    (t.traceAll (done ++ [entry]) s).interaction.entryPoints =
      (t.traceAll done s).interaction.entryPoints ++ [m.sender]

/-- Every call was made by an entry point or from a call before it. -/
theorem traceAll_places (hr : s.roster.Sound) (hs : s.interaction.calls = []) (entries : List Decl)
    {before after : List Message} {m : Message}
    (h : (t.traceAll entries s).interaction.calls = before ++ m :: after) :
    t.SentFromEntry s entries before m ∨ CalledFrom before m.depth m.sender := by
  induction entries using List.reverseRecOn generalizing before after m with
  | nil => simp [traceAll, hs] at h
  | append_singleton done entry ih =>
    obtain ⟨new, hnew, hplaced⟩ := t.trace_places (sound_traceAll hr done) entry
    have hstep : t.traceAll (done ++ [entry]) s = (t.trace entry (t.traceAll done s)).2 :=
      traceAll_append _ _ _
    rw [hstep, hnew] at h
    -- The call is one of the new ones, or it was there before.
    have hold {since : List Message}
        (h : (t.traceAll done s).interaction.calls = before ++ m :: since) :
        t.SentFromEntry s (done ++ [entry]) before m ∨ CalledFrom before m.depth m.sender := by
      refine (ih h).imp_left ?_
      rintro ⟨hdepth, first, e, rest, rfl, hrest⟩
      exact ⟨hdepth, first, e, rest ++ [entry], by simp, hrest⟩
    have hadded {earlier : List Message}
      (hbefore : before = (t.traceAll done s).interaction.calls ++ earlier)
        (h : new = earlier ++ m :: after) :
        t.SentFromEntry s (done ++ [entry]) before m ∨ CalledFrom before m.depth m.sender := by
      rw [hbefore]
      refine (hplaced earlier m after h).imp_left ?_
      rintro ⟨hdepth, hentry⟩
      refine ⟨hdepth, done, entry, [], rfl, List.prefix_append _ _, ?_, hstep ▸ hentry⟩
      rw [hstep, hnew, h]
      exact ⟨after, by simp⟩
    rcases List.append_eq_append_iff.1 h with ⟨earlier, hbefore, h⟩ | ⟨since, hbefore, h⟩
    · exact hadded hbefore h
    · cases since with
      | nil =>
        have hnew : new = [] ++ m :: after := h.symm
        exact hadded (by rw [hbefore, List.append_nil, List.append_nil]) hnew
      | cons c since =>
        obtain ⟨rfl, -⟩ := List.cons.inj h
        exact hold hbefore

def isEntered (a : Activation) : Bool :=
  1 + a.inlined ≤ a.path.depth

/-- Depths encode the tree of calls: a call on the outermost level comes from the entry point that
was added last before it, and any other from the receiver of a call one level up since which there
was none above its own level. Bodies are only visited where the depth leaves out no more calls than
are on the path, so no depth is cut off at zero. -/
theorem depth_encodes_calls {r : Roster} (hr : t.casting.Reached r) (entries : List Decl) :
    (∀ before m after, (t.traceAll entries { roster := r }).interaction.calls =
      before ++ m :: after →
      t.SentFromEntry { roster := r } entries before m ∨ CalledFrom before m.depth m.sender) ∧
    ∀ entry otherwise, t.traceWith
      (t.enterWithin isEntered otherwise (t.enterAt 0) (t.casting.program.pathBound + 1)) entry
      (t.traceAll entries { roster := r }) =
        t.trace entry (t.traceAll entries { roster := r }) := by
  refine ⟨fun before m after h => traceAll_places hr.sound rfl entries h, ?_⟩
  intro entry otherwise
  refine (Law.traceWith_agree (Law.enterWithin_enters ?_ otherwise _ 1)
    (sound_traceAll hr.sound entries) (placing_admits entry) fun p r => placing_start).eq
  intro a s h
  exact decide_eq_true (Nat.add_comm a.inlined 1 ▸ h.live.entered)

theorem depth_encodes_calls_sample : Sample.tracer.casting.Reached {} ∧
    ∀ before m after,
    (Sample.tracer.traceAll [Sample.run, Sample.worker, Sample.run] {}).interaction.calls =
      before ++ m :: after →
      Sample.tracer.SentFromEntry {} [Sample.run, Sample.worker, Sample.run] before m ∨
        CalledFrom before m.depth m.sender :=
  ⟨.empty, (depth_encodes_calls (t := Sample.tracer) .empty _).1⟩

end Tracer

end Lifeline
