import Lifeline.Proofs.Law.Basic

namespace Lifeline

inductive Numbered (frame : Nat → Option String → Frame) : Nat → List Frame → Prop
  | none : Numbered frame 0 []
  | next {n : Nat} {fs : List Frame} (h : Numbered frame n fs) (l : Option String) :
    Numbered frame (n + 1) (fs ++ [frame n l])

namespace Numbered

variable {frame : Nat → Option String → Frame} {n : Nat} {fs : List Frame}

theorem mem (h : Numbered frame n fs) {f : Frame} (hf : f ∈ fs) : ∃ i l, i < n ∧ f = frame i l := by
  induction h with
  | none => cases hf
  | @next n fs _ l ih =>
    rcases List.mem_append.1 hf with hf | hf
    · obtain ⟨i, l, hi, rfl⟩ := ih hf
      exact ⟨i, l, by omega, rfl⟩
    · exact ⟨n, l, by omega, List.mem_singleton.1 hf⟩

theorem alternatives {block : Nat} (h : Numbered frame n fs)
    (hblock : ∀ i l, (frame i l).block = block) (hproper : ∀ i l, i < n → (frame i l).Proper)
    (hordered : ∀ {i j} l m, i < j → (frame i l).Precedes (frame j m)) : Alternatives block fs := by
  refine ⟨fun f hf => ?_, fun f hf => ?_, ?_⟩
  · obtain ⟨i, l, -, rfl⟩ := h.mem hf
    exact hblock i l
  · obtain ⟨i, l, hi, rfl⟩ := h.mem hf
    exact hproper i l hi
  · induction h with
    | none => exact .nil
    | @next n fs h l ih =>
      refine List.pairwise_append.2 ⟨ih fun i l hi => hproper i l (by omega),
        List.pairwise_singleton _ _, ?_⟩
      intro f hf g hg
      obtain ⟨i, m, hi, rfl⟩ := h.mem hf
      rw [List.mem_singleton.1 hg]
      exact hordered m l hi

theorem branches {block total : Nat} {kind : BranchKind}
    (h : Numbered (.branch block kind · total) n fs) (hn : n ≤ total) : Alternatives block fs :=
  h.alternatives (fun _ _ => rfl) (fun _ _ hi => Nat.lt_of_lt_of_le hi hn)
    fun _ _ hij => .branch hij

theorem handlers {block : Nat} (h : Numbered (.handler block) n fs) : Alternatives block fs :=
  h.alternatives (fun _ _ => rfl) (fun _ _ _ => trivial) fun _ _ hij => .handler hij

end Numbered

theorem Steps.last {R : Frame → Trace → Trace → Prop} {fs : List Frame} {f : Frame} {s s'' : Trace}
    (h : Steps R (fs ++ [f]) s s'') : ∃ s', Steps R fs s s' ∧ R f s' s'' := by
  generalize heq : fs ++ [f] = gs at h
  cases h with
  | none => simp at heq
  | next hsteps hlast =>
    obtain ⟨rfl, hf⟩ := List.append_inj' heq rfl
    cases hf
    exact ⟨_, hsteps, hlast⟩

theorem Alternatives.init {block : Nat} {fs gs : List Frame} (h : Alternatives block (fs ++ gs)) :
    Alternatives block fs :=
  ⟨fun f hf => h.block f (List.mem_append_left _ hf),
    fun f hf => h.proper f (List.mem_append_left _ hf), (List.pairwise_append.1 h.ordered).1⟩

theorem Alternatives.loop (block : Nat) (kind : LoopKind) (l : Option String) :
    Alternatives block ([] ++ [.loop block kind l]) :=
  ⟨by simp [Frame.block], by simp [Frame.Proper], List.pairwise_singleton _ _⟩

theorem Alternatives.coroutine (block : Nat) (l : Option String) :
    Alternatives block ([] ++ [.coroutine block l]) :=
  ⟨by simp [Frame.block], by simp [Frame.Proper], List.pairwise_singleton _ _⟩

namespace Law

variable {t : Tracer} (L : Law t)

/-- A statement's block was opened in the first trace, and since then these frames have been
visited. -/
structure Opened (a : Activation) (s : Trace) (fs : List Frame) (s' : Trace) : Prop where
  start : L.Pre a s
  steps : Steps (fun f => L.rel (a.enter f)) fs { s with blocks := s.blocks + 1 } s'
  alternatives : Alternatives s.blocks fs
  grown : s.roster.Extends s'.roster
  sound : s'.roster.Sound
  scopes : s'.scopes.Mentions L.mention

def Inside (a : Activation) (s : Trace) (fs : List Frame) (v w : Visit α) (ok : α → Prop) : Prop :=
  ∀ s', L.Opened a s fs s' → Agree v w s' (L.Post a s ok)

variable {L} {a : Activation} {s s' : Trace} {fs : List Frame} {f : Frame}

theorem Opened.post (h : L.Opened a s fs s') {ok : α → Prop} {result : Except Fault α}
    (hr : Ends L.fault ok result) : L.Post a s ok result s' :=
  ⟨L.ofAlternatives h.start.inv h.alternatives h.steps, h.grown, h.sound, h.scopes, hr⟩

theorem Opened.live (h : L.Opened a s fs s') (f : Frame) : (a.enter f).Live s'.roster :=
  have hlive := h.start.live.mono h.grown
  ⟨hlive.caller, hlive.returnTo, hlive.entered⟩

theorem Opened.enter (h : L.Opened a s fs s') (hf : Alternatives s.blocks (fs ++ [f])) :
    L.Opened a s (fs ++ [f]) s' :=
  ⟨h.start, .next h.steps (L.refl (L.alternative h.start.inv hf h.steps)), hf,
    h.grown, h.sound, h.scopes⟩

theorem Opened.pre (h : L.Opened a s (fs ++ [f]) s') : L.Pre (a.enter f) s' := by
  obtain ⟨between, hsteps, hlast⟩ := h.steps.last
  exact ⟨h.sound, h.live f, h.scopes,
    L.keeps (L.alternative h.start.inv h.alternatives hsteps) hlast⟩

theorem Opened.more {s'' : Trace} {ok : α → Prop} {result : Except Fault α}
    (h : L.Opened a s (fs ++ [f]) s') (hs'' : L.Post (a.enter f) s' ok result s'') :
    L.Opened a s (fs ++ [f]) s'' := by
  obtain ⟨between, hsteps, hlast⟩ := h.steps.last
  exact ⟨h.start, .next hsteps (L.trans hlast hs''.rel), h.alternatives,
    h.grown.trans hs''.grown, hs''.sound, hs''.scopes⟩

theorem Obeys.block {k l : Nat → Visit α} {ok : α → Prop}
    (h : ∀ s, L.Pre a s → L.Inside a s [] (k s.blocks) (l s.blocks) ok) :
    L.Obeys a (Visit.nextBlock >>= k) (Visit.nextBlock >>= l) ok := by
  intro s hs
  have hopened : L.Opened a s [] { s with blocks := s.blocks + 1 } :=
    ⟨hs, .none, ⟨by simp, by simp, .nil⟩, .refl _, hs.sound, hs.scopes⟩
  exact .run_then rfl (h s hs _ hopened)

theorem Inside.enter {v w : Visit α} {ok : α → Prop} (hf : Alternatives s.blocks (fs ++ [f]))
    (h : L.Inside a s (fs ++ [f]) v w ok) : L.Inside a s fs v w ok :=
  fun s' hs' => h s' (hs'.enter hf)

theorem Inside.bind {v w : Visit α} {k l : α → Visit β} {ok : α → Prop} {after : β → Prop}
    (hv : L.Obeys (a.enter f) v w ok)
    (next : ∀ x, ok x → L.Inside a s (fs ++ [f]) (k x) (l x) after) :
    L.Inside a s (fs ++ [f]) (v >>= k) (w >>= l) after := by
  intro s' hs'
  refine (hv s' hs'.pre).bind ?_ ?_
  · intro x s'' hs''
    exact next x hs''.outcome s'' (hs'.more hs'')
  · intro e s'' hs''
    exact (hs'.more hs'').post hs''.outcome

theorem Inside.leave {v w : Visit α} {ok : α → Prop} (hv : L.Obeys a v w ok) :
    L.Inside a s fs v w ok := by
  intro s' hs'
  have hpost : L.Post (α := Unit) a s (fun _ => True) (.ok ()) s' := hs'.post trivial
  exact (hv s' (hs'.start.after hpost)).mono fun _ _ h => hpost.trans h

theorem Inside.andThen {v w : Visit α} {k l : α → Visit β} {ok : α → Prop} {after : β → Prop}
    (hv : L.Inside a s fs v w ok) (next : ∀ x, ok x → L.Obeys a (k x) (l x) after) :
    L.Inside a s fs (v >>= k) (w >>= l) after :=
  fun s' hs' => bind_grown hs'.start (hv s' hs') fun x s'' h'' _ hx => next x hx s'' h''

end Law

end Lifeline
