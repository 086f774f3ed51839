import Mathlib.Data.List.Nodup
import Lifeline.Proofs.Law.Calls

namespace Lifeline

structure Casting.Called (c : Casting) (r : Roster) (call : Call) : Prop where
  visible : r.isVisible call.1 = true
  operation : call.2 = r.operation call.1
  declared : ∃ d ∈ c.program.decls, d.hasBody = true ∧ ∃ args ∈ [] :: c.program.callArgs,
    r.remembered? d.id args = some call.1

namespace Casting

variable {c : Casting} {r r' : Roster} {calls : List Call}

theorem Called.mono {call : Call} (h : c.Called r call) (hr : r.Extends r') : c.Called r' call := by
  obtain ⟨d, hd, hbody, args, hargs, hknown⟩ := h.declared
  exact ⟨hr.isVisible h.visible, h.operation.trans (hr.operation h.visible).symm, d,
    hd, hbody, args, hargs, hr.known _ _ _ hknown⟩

theorem participants_nodup (h : ∀ call ∈ calls, c.Called r call) (hcalls : calls.Nodup) :
    (calls.map Prod.fst).Nodup := by
  refine hcalls.map_on ?_
  intro x hx y hy hxy
  refine Prod.ext hxy ?_
  rw [(h x hx).operation, (h y hy).operation, hxy]

/-- Each participant is remembered for a body of its own, or for template arguments of its own. -/
theorem length_le_pathBound (h : ∀ call ∈ calls, c.Called r call) (hcalls : calls.Nodup) :
    calls.length ≤ c.program.pathBound := by
  let bodies := c.program.decls.filter (·.hasBody)
  let remembered := bodies.flatMap fun d => ([] :: c.program.callArgs).map (r.remembered? d.id)
  have hnodup : (calls.map fun call => some call.1).Nodup := by
    have := (participants_nodup h hcalls).map (f := some) fun _ _ => Option.some.inj
    rwa [List.map_map] at this
  have hsubset : (calls.map fun call => some call.1) ⊆ remembered := by
    intro x hx
    obtain ⟨call, hcall, rfl⟩ := List.mem_map.1 hx
    obtain ⟨d, hd, hbody, args, hargs, hknown⟩ := (h call hcall).declared
    exact List.mem_flatMap.2 ⟨d, List.mem_filter.2 ⟨hd, hbody⟩,
      List.mem_map.2 ⟨args, hargs, hknown⟩⟩
  calc calls.length = (calls.map fun call => some call.1).length := (List.length_map _).symm
    _ ≤ remembered.length := hnodup.length_le_of_subset hsubset
    _ = bodies.length * (1 + c.program.callArgs.length) := by
      simp [remembered, List.length_flatMap, Nat.add_comm]
    _ = c.program.pathBound := rfl

end Casting

namespace Program

/-- Functions are mentioned plainly or with template arguments that occur at a call. -/
def ArgsOccur (p : Program) : Mention → Prop
  | .function _ args => args ∈ [] :: p.callArgs
  | .declaration _ => True

theorem body_argsOccur {p : Program} {d : Decl} (hd : d ∈ p.decls) :
    Stmt.MentionsOption p.ArgsOccur d.body? := by
  refine Stmt.mentionsOption_of_covers _ ⟨fun _ => trivial, fun _ => List.mem_cons_self, ?_⟩
  intro args hargs _
  by_cases hempty : args = []
  · exact hempty ▸ List.mem_cons_self
  · refine List.mem_cons_of_mem _
      (List.mem_eraseDups.2 (List.mem_filter.2 ⟨?_, by simpa using hempty⟩))
    exact List.mem_flatMap.2 ⟨d, hd, hargs⟩

end Program

namespace Interaction

structure Nests (depth : Nat) (i i' : Interaction) (new : List Message) :
    Prop extends Adds depth i i' new where
  senders : ∀ path ∈ pathsFrom (opened [] i.calls) new, (path.map (·.sender)).Nodup

variable {depth : Nat} {i i' i'' : Interaction} {new more : List Message}

theorem Nests.refl (depth : Nat) (i : Interaction) : Nests depth i i [] :=
  ⟨.refl depth i, by simp [pathsFrom]⟩

theorem Nests.trans (h : Nests depth i i' new) (h' : Nests depth i' i'' more) :
    Nests depth i i'' (new ++ more) := by
  refine ⟨h.toAdds.trans h'.toAdds, ?_⟩
  intro path hpath
  rw [pathsFrom_append, List.mem_append] at hpath
  refine hpath.elim (h.senders path) fun hpath => h'.senders path ?_
  rwa [h.calls, opened_append]

theorem Adds.take (h : Adds depth i i' new) (hdepth : depth ≤ (opened [] i.calls).length) :
    depth ≤ (opened [] i'.calls).length ∧
      (opened [] i'.calls).take depth = (opened [] i.calls).take depth := by
  rw [h.calls, opened_append]
  exact take_opened hdepth h.deep

end Interaction

/-- The calls on the path differ and were followed, and whoever leads here by calls is on the path,
in order. -/
structure Place.Nested (c : Casting) (p : Place) (r : Roster) (i : Interaction) : Prop where
  distinct : p.path.calls.Nodup
  called : ∀ call ∈ p.path.calls, c.Called r call
  deep : p.depth ≤ (Interaction.opened [] i.calls).length
  senders : (((Interaction.opened [] i.calls).take p.depth).map (·.sender) ++ [p.caller]).Sublist
    (p.path.calls.map Prod.fst)

namespace Place.Nested

open Interaction

variable {c : Casting} {p : Place} {a : Activation} {r r' : Roster} {i i' : Interaction}
  {new : List Message}
variable {m : Message} {target : Target} {path : CallPath}

theorem after (h : p.Nested c r i) (hr : r.Extends r') (hi : Adds p.depth i i' new) :
    p.Nested c r' i' := by
  obtain ⟨hdeep, htake⟩ := hi.take h.deep
  exact ⟨h.distinct, fun call hcall => (h.called call hcall).mono hr, hdeep, htake ▸ h.senders⟩

theorem depth_le (h : p.Nested c r i) : p.path.depth ≤ c.program.pathBound :=
  Casting.length_le_pathBound h.called h.distinct

theorem send (h : a.place.Nested c r i) (hm : m.SentIn a) : Nests a.depth i (i.push m) [m] := by
  refine ⟨.send hm, ?_⟩
  intro path hpath
  rw [pathsFrom, pathsFrom, List.mem_singleton] at hpath
  subst hpath
  rw [List.map_append, hm.depth, List.map_singleton, hm.sender]
  exact h.senders.nodup (Casting.participants_nodup h.called h.distinct)

theorem path_follows (h : a.place.Nested c r i)
    (hf : a.Follows c c.program.ArgsOccur r target path) :
    path.calls.Nodup ∧ ∀ call ∈ path.calls, c.Called r call := by
  obtain ⟨f, hbody, hlands⟩ := hf.lands
  obtain ⟨d, hd, args, hfun, hargs, hknown⟩ := hlands.declared
  rw [hf.calls]
  refine ⟨?_, ?_⟩
  · exact List.nodup_append.2 ⟨h.distinct, List.nodup_singleton _, by
      rintro x hx y hy rfl
      exact (CallPath.enter_eq_entered hf.entered).1 (List.mem_singleton.1 hy ▸ hx)⟩
  · intro call hcall
    rcases List.mem_append.1 hcall with hcall | hcall
    · exact h.called call hcall
    · rw [List.mem_singleton.1 hcall]
      refine ⟨hlands.visible, hlands.operation, d, hd.mem, ?_, args, ?_, hknown⟩
      · simp [Decl.hasBody, Decl.body?, hfun, hbody]
      · exact hargs.elim (fun hempty => hempty ▸ List.mem_cons_self) id

theorem call (h : a.place.Nested c r i) (hm : m.SentIn a)
    (hf : a.Follows c c.program.ArgsOccur r target path) :
    (⟨path, target.participant, a.depth + 1⟩ : Place).Nested c r (i.push m) := by
  obtain ⟨hdistinct, hcalled⟩ := h.path_follows hf
  have hopened : opened [] (i.push m).calls = (opened [] i.calls).take a.depth ++ [m] := by
    rw [(h.send hm).calls, opened_append, ← hm.depth]
    rfl
  have hlength : (opened [] (i.push m).calls).length = a.depth + 1 := by
    have hdeep : a.depth ≤ (opened [] i.calls).length := h.deep
    rw [hopened, List.length_append, List.length_take, List.length_singleton, Nat.min_eq_left hdeep]
  refine ⟨hdistinct, hcalled, Nat.le_of_eq hlength.symm, ?_⟩
  rw [List.take_of_length_le (Nat.le_of_eq hlength), hopened, hf.calls,
    List.map_append, List.map_append]
  refine .append ?_ (.refl _)
  rw [List.map_singleton, hm.sender]
  exact h.senders

theorem inline (h : a.place.Nested c r i) (hf : a.Follows c c.program.ArgsOccur r target path) :
    (⟨path, a.caller, a.depth⟩ : Place).Nested c r i := by
  obtain ⟨hdistinct, hcalled⟩ := h.path_follows hf
  refine ⟨hdistinct, hcalled, h.deep, h.senders.trans ?_⟩
  rw [hf.calls, List.map_append]
  exact List.sublist_append_left _ _

end Place.Nested

theorem Tracer.mentions_argsOccur (t : Tracer) :
    ∀ d ∈ t.casting.program.decls, Stmt.MentionsOption t.casting.program.ArgsOccur d.body? :=
  fun _ hd => Program.body_argsOccur hd

theorem Tracer.faults_argsOccur (t : Tracer) :
    t.casting.Faults t.casting.program.ArgsOccur fun _ => True :=
  t.casting.faults_any _

def Tracer.nesting (t : Tracer) : CallLaw t where
  inv p r i := p.Nested t.casting r i
  rel p r i r' i' := r.Extends r' ∧ ∃ new, Interaction.Nests p.depth i i' new
  mention := t.casting.program.ArgsOccur
  fault _ := True
  refl _ := ⟨.refl _, [], .refl _ _⟩
  trans := by
    rintro p r i r' i' r'' i'' ⟨hr, new, hnew⟩ ⟨hr', more, hmore⟩
    exact ⟨hr.trans hr', new ++ more, hnew.trans hmore⟩
  keeps := by
    rintro p r i r' i' h ⟨hr, new, hnew⟩
    exact h.after hr hnew.toAdds
  program := t.mentions_argsOccur
  faults := t.faults_argsOccur
  step _ _ _ hr := ⟨hr, [], .refl _ _⟩
  send h _ hm _ _ := ⟨.refl _, _, h.send hm⟩
  answer _ _ hm _ _ := ⟨.refl _, [], .answer hm, by simp [Interaction.pathsFrom]⟩
  call h _ hm _ hf := h.call hm hf
  ofCall := by
    rintro a r i m target path r' i' h _ hm _ _ ⟨hr, new, hnew⟩
    exact ⟨hr, _, (h.send hm).trans ⟨hnew.toAdds.mono (Nat.le_succ _), hnew.senders⟩⟩
  inline h _ hf := h.inline hf
  ofInline _ _ _ h := h

namespace Tracer

variable {t : Tracer} {entry : Decl} {s s' : Trace}

theorem nesting_start {p : ParticipantId} {r : Roster} (hentry : entry ∈ t.casting.program.decls)
    (h : Law.Begins t entry s p r) : t.nesting.toLaw.inv (t.start r p) (s.begin r p) := by
  refine ⟨List.nodup_singleton _, ?_, Nat.zero_le _, ?_⟩
  · intro call hcall
    rw [List.mem_singleton.1 hcall]
    exact ⟨h.visible, rfl, entry, hentry, h.body, [], List.mem_cons_self, h.known⟩
  · exact .refl _

theorem trace_nests (hentry : entry ∈ t.casting.program.decls) (hr : s.roster.Sound)
    (hs : ∀ path ∈ s.interaction.paths, (path.map (·.sender)).Nodup) :
    ∀ path ∈ (t.trace entry s).2.interaction.paths, (path.map (·.sender)).Nodup := by
  have htraced := Law.trace_traced (L := t.nesting.toLaw) hr (Law.admits_of_mem hentry)
    fun p r => nesting_start hentry
  generalize (t.trace entry s).1 = result, (t.trace entry s).2 = s' at htraced
  cases htraced with
  | refused _ => exact hs
  | failed _ _ _ _ => exact hs
  | excluded _ _ _ => exact hs
  | unentered _ => exact hs
  | visited _ hpost =>
    obtain ⟨-, new, hnew⟩ := hpost.rel
    intro path hpath
    simp only [Interaction.paths, hnew.calls, Interaction.pathsFrom_append,
      List.mem_append] at hpath
    exact hpath.elim (hs path) (hnew.senders path)

theorem traceAll_nests {entries : List Decl} (hentries : ∀ e ∈ entries, e ∈ t.casting.program.decls)
    (hr : s.roster.Sound) (hs : ∀ path ∈ s.interaction.paths, (path.map (·.sender)).Nodup) :
    ∀ path ∈ (t.traceAll entries s).interaction.paths, (path.map (·.sender)).Nodup := by
  refine (traceAll_induction (Q := fun s => s.roster.Sound ∧
    ∀ path ∈ s.interaction.paths, (path.map (·.sender)).Nodup) ⟨hr, hs⟩ ?_).2
  rintro entry hentry s ⟨hr, hs⟩
  exact ⟨sound_traceAll hr [entry], trace_nests (hentries entry hentry) hr hs⟩

def nestsWell (t : Tracer) (a : Activation) : Bool :=
  a.path.calls.Nodup ∧ a.path.depth ≤ t.casting.program.pathBound

/-- Tracing comes to an end: neither interning nor the visits of bodies inside one another ever use
up their room, and bodies are only visited where the calls on the path differ and are within the
bound. Nor does a sender occur twice among the calls that lead to a call. -/
theorem trace_terminates (hp : t.casting.program.Acyclic) {r : Roster} (hr : t.casting.Reached r)
    {before : List Decl} (hbefore : ∀ e ∈ before, e ∈ t.casting.program.decls)
    (hentry : entry ∈ t.casting.program.decls) :
    (∀ otherwise d args r', d ∈ t.casting.program.decls → t.casting.Reached r' →
      t.casting.internFrom otherwise (t.casting.program.size + 2) d args r' =
        t.casting.internDecl d args r') ∧
    (∀ otherwise last, t.traceWith
      (t.enterWithin t.nestsWell otherwise last t.casting.program.pathBound) entry
      (t.traceAll before { roster := r }) = t.trace entry (t.traceAll before { roster := r })) ∧
    ∀ path ∈ (t.trace entry (t.traceAll before { roster := r })).2.interaction.paths,
      (path.map (·.sender)).Nodup := by
  have hsound := t.sound_traceAll (s := { roster := r }) hr.sound before
  have hsenders := traceAll_nests hbefore (s := { roster := r }) hr.sound
    (by simp [Interaction.paths, Interaction.calls, Interaction.pathsFrom])
  have hinv : ∀ a s, t.nesting.toLaw.Pre a s → a.place.Nested t.casting s.roster s.interaction :=
    fun a s h => h.inv
  refine ⟨?_, ?_, trace_nests hentry hsound hsenders⟩
  · intro otherwise d args r' hd hr'
    rw [Casting.internDecl, Casting.internAt_eq_internFrom]
    exact (Casting.internFrom_agree hp (fun d _ => .of_true _ d) _ _ hd hr'.sound).eq
  · intro otherwise last
    refine (Law.traceWith_agree (L := t.nesting.toLaw) ?_ hsound (Law.admits_of_mem hentry)
      fun p r => nesting_start hentry).eq
    refine Law.enterWithin_enters_of_bound ?_ (fun a s h => (hinv a s h).depth_le)
      otherwise last (by omega) (by omega)
    intro a s h
    exact decide_eq_true ⟨(hinv a s h).distinct, (hinv a s h).depth_le⟩

theorem trace_terminates_sample : Sample.program.Acyclic ∧
    (∀ otherwise last, Sample.tracer.traceWith
      (Sample.tracer.enterWithin Sample.tracer.nestsWell otherwise last Sample.program.pathBound)
      Sample.run (Sample.tracer.traceAll [Sample.run] {}) =
        Sample.tracer.trace Sample.run (Sample.tracer.traceAll [Sample.run] {})) ∧
    ∀ path ∈ (Sample.tracer.trace Sample.run
        (Sample.tracer.traceAll [Sample.run] {})).2.interaction.paths,
      (path.map (·.sender)).Nodup :=
  ⟨Sample.acyclic, (trace_terminates (t := Sample.tracer) Sample.acyclic .empty
    (List.forall_mem_singleton.2 Sample.run_mem) Sample.run_mem).2⟩

end Tracer

end Lifeline
