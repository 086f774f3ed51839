import Lifeline.Proofs.Depiction
import Lifeline.Proofs.Law.Calls

namespace Lifeline

theorem Value.mentions_all : (v : Value) → v.Mentions fun _ => True
  | .lambda operator captured => .lambda trivial fun b _ => b.2.mentions_all
  | .function decl => .function trivial
  | .unknown => .unknown
decreasing_by
  rename_i hb
  have hlt := List.sizeOf_lt_of_mem hb
  rcases b with ⟨name, v⟩
  simp only [Prod.mk.sizeOf_spec] at hlt
  simp only [Value.lambda.sizeOf_spec]
  omega

theorem Scopes.mentions_all (s : Scopes) : s.Mentions fun _ => True :=
  fun _ _ v _ => v.2.mentions_all

def Interaction.shallow (n : Nat) (i : Interaction) : Interaction :=
  { i with messages := i.messages.filter fun m => m.depth < n }

theorem Interaction.shallow_push {n : Nat} {m : Message} (h : m.depth < n) (i : Interaction) :
    (i.push m).shallow n = (i.shallow n).push m := by
  simp [shallow, push, h]

theorem Interaction.shallow_push_deep {n : Nat} {m : Message} (h : n ≤ m.depth) (i : Interaction) :
    (i.push m).shallow n = i.shallow n := by
  simp [shallow, push, Nat.not_lt.2 h]

namespace Trace

/-- What is recorded on the way from one trace to another lies at this depth or below. -/
structure Deepens (c : Casting) (n : Nat) (s s' : Trace) : Prop where
  drawn : c.Drawn s.roster → c.Drawn s'.roster
  blocks : s.blocks ≤ s'.blocks
  shallow : s'.interaction.shallow n = s.interaction.shallow n

namespace Deepens

variable {c : Casting} {n : Nat} {s s' s'' : Trace} {m : Message}

theorem refl (s : Trace) : Deepens c n s s :=
  ⟨id, Nat.le_refl _, rfl⟩

theorem trans (h : Deepens c n s s') (h' : Deepens c n s' s'') : Deepens c n s s'' :=
  ⟨h'.drawn ∘ h.drawn, Nat.le_trans h.blocks h'.blocks, h'.shallow.trans h.shallow⟩

theorem rescope (h : Deepens c n s s') (x y : Scopes) :
    Deepens c n { s with scopes := x } { s' with scopes := y } :=
  ⟨h.drawn, h.blocks, h.shallow⟩

theorem push (hm : n ≤ m.depth) (s : Trace) : Deepens c n s (s.push m) :=
  ⟨id, Nat.le_refl _, Interaction.shallow_push_deep hm _⟩

theorem steps {fs : List Frame}
    (h : Steps (fun _ => Deepens c n) fs { s with blocks := s.blocks + 1 } s') :
    Deepens c n s s' := by
  have hopened : Deepens c n s { s with blocks := s.blocks + 1 } := ⟨id, Nat.le_succ _, rfl⟩
  generalize { s with blocks := s.blocks + 1 } = start at h hopened
  induction h with
  | none => exact hopened
  | next _ hlast ih => exact (ih hopened).trans hlast

end Deepens

end Trace

namespace Tracer

variable {t : Tracer} {n : Nat} {a : Activation} {s : Trace} {target : Target} {path : CallPath}

theorem depth_calling (hf : a.Follows t.casting (fun _ => True) s.roster target path)
    (ha : a.Live s.roster) : (a.calling path target.participant false).depth = a.depth + 1 := by
  have hplace := congrArg Place.depth (hf.place_calling ha)
  exact hplace

theorem depth_inlining (hf : a.Follows t.casting (fun _ => True) s.roster target path) :
    (a.calling path target.participant true).depth = a.depth := by
  have hplace := congrArg Place.depth hf.place_inlining
  exact hplace

def deepening (t : Tracer) (n : Nat) : Law t where
  inv a _ := n ≤ a.depth
  rel _ s s' := s.Deepens t.casting n s'
  mention _ := True
  fault _ := True
  refl _ := .refl _
  trans h h' := h.trans h'
  keeps h _ := h
  program := t.mentions_all
  faults := t.faults_all
  step := by
    rintro _ s r _ _ (rfl | ⟨e, he, -, rfl⟩) _
    · exact .refl _
    · exact ⟨fun hr => hr.trans (Casting.intern_drawn hr he).result.rel, Nat.le_refl _, rfl⟩
  scopes h := h
  rescope _ _ := (Trace.Deepens.refl _).rescope _ _
  ofScope _ h := h.rescope _ _
  condition h := h
  ofCondition _ h := h
  alternative h _ _ := h
  ofAlternatives _ _ h := .steps h
  send h _ hm _ _ := .push (hm.depth ▸ h) _
  answer h _ hm _ _ := .push (hm.depth ▸ h) _
  call h ha _ _ hf := (depth_calling hf ha).symm ▸ Nat.le_succ_of_le h
  ofCall {_ s m _ _ _ _} h _ hm _ _ hrel :=
    (Trace.Deepens.push (m := m) (hm.depth ▸ h) s).trans (hrel.rescope _ _)
  inline h _ hf := (depth_inlining hf).symm ▸ h
  ofInline _ _ _ hrel := hrel.rescope _ _

theorem enterAt_deepens (room : Nat) (hdepth : n ≤ a.depth) (hr : s.roster.Sound)
    (ha : a.Live s.roster) (f : Function) (body : Stmt) (operation : String) :
    s.Deepens t.casting n (t.enterAt room a f body operation s).2 := by
  have hbody : body.Mentions fun _ => True := by
    simpa only [Stmt.MentionsOption] using Stmt.mentions_all (some body)
  have hobeys :=
    Law.enterAt_enters (t.deepening n).twin_self room a.path.depth a f body operation rfl hbody
  exact (hobeys s ⟨hr, ha, s.scopes.mentions_all, hdepth⟩).result.rel

end Tracer

end Lifeline
