import Lifeline.Proofs.Representation

namespace Lifeline

namespace Interaction

def Seen (i : Interaction) (r : Roster) : Prop :=
  ∀ id ∈ i.mentions, r.isVisible id = true

variable {i : Interaction} {r r' : Roster} {m : Message}

theorem Seen.mono (h : i.Seen r) (hr : r.Extends r') : i.Seen r' :=
  fun id hid => hr.isVisible (h id hid)

theorem Seen.push (h : i.Seen r) (hsender : r.isVisible m.sender = true)
    (hreceiver : r.isVisible m.receiver = true) : (i.push m).Seen r := by
  intro id hid
  simp only [mentions, Interaction.push, Array.toList_push, List.flatMap_append,
    List.flatMap_singleton, ← List.append_assoc] at hid
  rcases List.mem_append.1 hid with hid | hid
  · exact h id hid
  · rcases List.mem_pair.1 hid with rfl | rfl
    · exact hsender
    · exact hreceiver

theorem Seen.begin {s : Trace} {p : ParticipantId} (h : s.interaction.Seen r)
    (hp : r.isVisible p = true) : (s.begin r p).interaction.Seen r := by
  intro id hid
  simp only [mentions, Trace.begin, List.mem_append, List.mem_singleton] at hid
  rcases hid with (hid | rfl) | hid
  · exact h id (List.mem_append_left _ hid)
  · exact hp
  · exact h id (List.mem_append_right _ hid)

end Interaction

def Roster.Calls (r : Roster) (id : ParticipantId) : Prop :=
  r.size < UInt64.size → ∃ q, r.get? id = some q ∧ q.kind.isCallable = true

theorem Roster.Calls.mono {r r' : Roster} {id : ParticipantId} (h : r.Calls id)
    (hr : r.Extends r') : r'.Calls id := by
  intro hsize
  obtain ⟨q, hq, hcallable⟩ := h (Nat.lt_of_le_of_lt hr.size_le hsize)
  exact ⟨q, hr.get? hq, hcallable⟩

namespace Casting

variable {c : Casting} {d : Decl} {args : List String} {r r' r'' : Roster} {id : ParticipantId}
  {p : Participant}

theorem names_isCallable {f : Function} {names : Naming.CallableNames} (hf : d.function? = some f)
    (h : c.names d args = .ok names) : names.kind.isCallable = true := by
  cases names_cases h with
  | record hkind _ _ => simp [Decl.function?, hkind] at hf
  | function _ hk _ => rw [hk]; rfl
  | closure _ hk _ => rw [hk]; rfl
  | method _ hk _ _ _ _ _ => rw [hk]; rfl

theorem Drawn.calls (hr : c.Drawn r) (hd : c.program.Declares d) {f : Function}
    (hf : d.function? = some f) (hid : r.remembered? d.id args = some id)
    (hne : id ≠ .tombstone) : r.Calls id := by
  intro hsize
  obtain ⟨_, names, hget, haccepts, q, hq, rfl, hkind, -⟩ :=
    hr.informed.seen (Roster.notes_of_remembered? hid) hne
  cases hget.symm.trans hd
  exact ⟨q, hr.get?_id hsize hq, by rw [hkind, names_isCallable hf haccepts.named]⟩

structure Hires (c : Casting) (r r' : Roster) : Prop where
  grown : r.Extends r'
  changes : c.Changes (fun _ => True) r r'
  states : r'.size < UInt64.size → c.Changes (fun q => q.kind.isCallable = true) r r'

theorem Hires.refl (c : Casting) (r : Roster) : c.Hires r r :=
  ⟨.refl r, .refl, fun _ => .refl⟩

theorem Hires.trans (h : c.Hires r r') (h' : c.Hires r' r'') : c.Hires r r'' := by
  refine ⟨h.grown.trans h'.grown, h.changes.trans h'.changes, fun hsize => ?_⟩
  exact (h.states (Nat.lt_of_le_of_lt h'.grown.size_le hsize)).trans (h'.states hsize)

theorem intern_hires (hr : c.Drawn r) {e : Entity} (he : e.Within c.program)
    (hcalls : ∀ p, e = .coroutineState p → r.Calls p) : c.Hires r (c.intern e r).2 := by
  have hgrown := (intern_grows (c := c) hr.sound e).result.grown
  refine ⟨hgrown, (intern_drawn hr he).result.rel, fun hsize => (intern_does hr he ?_).result.rel⟩
  intro p base hp hbase
  obtain ⟨q, hq, hcallable⟩ := hcalls p hp (Nat.lt_of_le_of_lt hgrown.size_le hsize)
  cases hq.symm.trans hbase
  exact hcallable

theorem owner_ne_none_of_method {names : Naming.CallableNames} (h : c.names d args = .ok names)
    (hk : names.kind = .method) : names.owner ≠ none := by
  cases names_cases h with
  | @record info _ hk' _ => cases hlambda : info.isLambda <;> simp [hk, hlambda] at hk'
  | function _ hk' _ => cases hk.symm.trans hk'
  | closure _ hk' _ => cases hk.symm.trans hk'
  | method _ _ ho _ _ _ _ => simp [ho]

theorem kind_ne_coroutineState {names : Naming.CallableNames} (h : c.names d args = .ok names) :
    names.kind ≠ .coroutineState := by
  cases names_cases h with
  | @record info _ hk _ => cases hlambda : info.isLambda <;> simp [hk, hlambda]
  | function _ hk _ => simp [hk]
  | closure _ hk _ => simp [hk]
  | method _ hk _ _ _ _ _ => simp [hk]

def Vouches (c : Casting) (r : Roster) (p : Participant) : Prop :=
  ∃ d args names, c.Accepts d args names ∧
    p = { portrait d names p.owner p.instantiatedFrom with id := p.id } ∧
    (p.kind = .method → ∃ o e names, d.owner? = some o ∧
      c.program.get? o = some e ∧ c.Accepts e [] names ∧
      ∃ q ∈ r.participants, p.owner = some q.id ∧ q.kind = .cls ∧ q.fullName = names.fullName)

def VouchesExternal (c : Casting) (p : Participant) : Prop :=
  ∃ name, c.filter (externalCandidate name) = true ∧ p = { externalDraft name with id := p.id }

theorem Vouches.mono (h : c.Vouches r p) (hr : r.KeptIn r') : c.Vouches r' p := by
  obtain ⟨d, args, names, haccepts, hp, hmethod⟩ := h
  refine ⟨d, args, names, haccepts, hp, fun hk => ?_⟩
  obtain ⟨o, e, names', ho, he, haccepts', q, hq, howner⟩ := hmethod hk
  exact ⟨o, e, names', ho, he, haccepts', q, hr.mem hq, howner⟩

theorem Draws.vouches (hr : c.Informed r) (hd : c.program.Declares d)
    (h : c.Draws r d args p) : c.Vouches r p := by
  cases h with
  | @mk names owner origin hadmits howner hseen _ =>
    refine ⟨d, args, names, ⟨hadmits, hd⟩, rfl, fun (hk : names.kind = .method) => ?_⟩
    cases howner with
    | own hn => exact absurd hn (owner_ne_none_of_method hadmits.named hk)
    | @cls o id hn hid =>
      obtain ⟨ho, e, names', he, haccepts', q, hq, rfl, hcls, hname⟩ :=
        hr.owner hadmits.named hn hid (mt (congrArg some) hseen)
      exact ⟨o, e, names', ho, he, haccepts', q, hq, rfl, hcls, hname⟩
    | file _ hk' _ _ => cases hk.symm.trans hk'

theorem Vouches.kind_ne (h : c.Vouches r p) : p.kind ≠ .coroutineState := by
  obtain ⟨d, args, names, haccepts, hp, -⟩ := h
  rw [hp]
  exact kind_ne_coroutineState haccepts.named

/-- Somebody is made of a declaration or a name that the filter lets in, or is a file or the state
of somebody. -/
inductive Entitled (c : Casting) (S : Participant → Prop) (r : Roster) (p : Participant) : Prop
  | decl : c.Vouches r p → Entitled c S r p
  | external : c.VouchesExternal p → Entitled c S r p
  | file : p.kind = .file → Entitled c S r p
  | state {q : Participant} : q ∈ r.participants → S q →
    p = { stateDraft q with id := p.id } → Entitled c S r p

variable {S : Participant → Prop}

theorem Joins.entitled (hr : c.Informed r) (h : c.Joins S r p) : c.Entitled S r p := by
  cases h with
  | decl hd hdraws => exact .decl (hdraws.vouches hr hd)
  | file _ => exact .file rfl
  | state hq hS => exact .state hq hS rfl
  | external hfilter => exact .external ⟨_, hfilter, rfl⟩

theorem Entitled.mono (h : c.Entitled S r { p with id := .tombstone }) (hr : r.KeptIn r') :
    c.Entitled S r' p := by
  have hid {q : Participant} (h : { p with id := .tombstone } = { q with id := .tombstone }) :
      p = { q with id := p.id } :=
    congrArg (fun q : Participant => { q with id := p.id }) h
  cases h with
  | decl hvouches =>
    obtain ⟨d, args, names, haccepts, hp, hmethod⟩ := hvouches
    exact .decl (Vouches.mono ⟨d, args, names, haccepts, hid hp, hmethod⟩ hr)
  | external hvouches =>
    obtain ⟨name, hfilter, hp⟩ := hvouches
    exact .external ⟨name, hfilter, hid hp⟩
  | file hk => exact .file hk
  | state hq hS hp => exact .state (hr.mem hq) hS (hid hp)

theorem Entitled.state_of_kind (h : c.Entitled S r p) (hk : p.kind = .coroutineState) :
    ∃ q ∈ r.participants, S q ∧ p = { stateDraft q with id := p.id } := by
  cases h with
  | decl hvouches => exact absurd hk hvouches.kind_ne
  | external hvouches =>
    obtain ⟨_, -, hp⟩ := hvouches
    rw [hp] at hk
    cases hk
  | file hfile => cases hk.symm.trans hfile
  | state hq hS hp => exact ⟨_, hq, hS, hp⟩

theorem Drawn.entitled (h : c.Drawn r) (hp : p ∈ r.participants) :
    c.Entitled (fun _ => True) r p := by
  obtain ⟨mid, hmid, hkept, hjoins⟩ := h.mem hp
  exact (hjoins.entitled hmid.informed).mono hkept

theorem Drawn.entitled_of_changes (h : c.Drawn r) (hr : c.Changes S r r')
    (hp : p ∈ r'.participants) : p ∈ r.participants ∨ c.Entitled S r' p := by
  rcases hr.mem hp with hold | ⟨mid, hmid, hkept, hjoins⟩
  · exact .inl hold
  · exact .inr ((hjoins.entitled (h.trans hmid).informed).mono hkept)

end Casting

open Casting

def Tracer.hiring (t : Tracer) : CallLaw t where
  inv p r _ := t.casting.Drawn r ∧ r.Calls p.caller
  rel _ r i r' i' := t.casting.Hires r r' ∧ (i.Seen r → i'.Seen r')
  mention _ := True
  fault _ := True
  refl _ := ⟨.refl _ _, fun h => h⟩
  trans h h' := ⟨h.1.trans h'.1, fun hseen => h'.2 (h.2 hseen)⟩
  keeps h hrel := ⟨h.1.trans hrel.1.changes, h.2.mono hrel.1.grown⟩
  program := t.mentions_all
  faults := t.faults_all
  step := by
    rintro p r i r' ⟨hr, hcalls⟩ _ (rfl | ⟨e, he, hstate, rfl⟩) hgrown
    · exact ⟨.refl _ _, fun h => h⟩
    · exact ⟨intern_hires hr he fun q hq => hstate q hq ▸ hcalls, fun h => h.mono hgrown⟩
  send h ha hm hreceiver _ := ⟨.refl _ _, fun hseen => hseen.push (hm.sender ▸ ha.caller) hreceiver⟩
  answer h ha hm hsender hreceiver := ⟨.refl _ _, fun hseen => hseen.push hsender hreceiver⟩
  call := by
    rintro a r i m target path ⟨hr, -⟩ _ _ _ ⟨-, f, -, hlands⟩
    obtain ⟨d, hd, args, hf, -, hid⟩ := hlands.declared
    exact ⟨hr, hr.calls hd hf hid (Roster.isVisible_iff.1 hlands.visible).1⟩
  ofCall := by
    rintro a r i m target path r' i' _ ha hm hreceiver ⟨-, f, -, hlands⟩ ⟨hhires, hseen⟩
    refine ⟨hhires, fun h => hseen (h.push (hm.sender ▸ ha.caller) ?_)⟩
    rw [hreceiver]
    exact hlands.visible
  inline h _ _ := h
  ofInline _ _ _ h := h

namespace Tracer

variable {t : Tracer} {s : Trace} {entry : Decl}

theorem hiring_start {p : ParticipantId} {r : Roster} (hr : t.casting.Drawn s.roster)
    (hentry : t.casting.program.Declares entry) (h : Law.Begins t entry s p r) :
    t.hiring.toLaw.inv (t.start r p) (s.begin r p) := by
  have hinterned := (intern_hires hr (e := .decl entry) hentry (by simp)).changes
  rw [h.interned] at hinterned
  have hdrawn := hr.trans hinterned
  obtain ⟨f, hf⟩ : ∃ f, entry.function? = some f := by
    have hbody := h.body
    cases hf : entry.function? with
    | none => simp [Decl.body?, hf] at hbody
    | some f => exact ⟨f, rfl⟩
  exact ⟨hdrawn, hdrawn.calls hentry hf h.known (Roster.isVisible_iff.1 h.visible).1⟩

theorem trace_hires (hr : t.casting.Drawn s.roster) (hentry : t.casting.program.Declares entry) :
    t.casting.Hires s.roster (t.trace entry s).2.roster ∧
      (s.interaction.Seen s.roster →
        (t.trace entry s).2.interaction.Seen (t.trace entry s).2.roster) := by
  have hinterned : t.casting.Hires s.roster (t.casting.intern (.decl entry) s.roster).2 :=
    intern_hires hr hentry (by simp)
  have htraced := Law.trace_traced (L := t.hiring.toLaw) hr.sound (Law.admits_of_mem hentry.mem)
    fun p r hbegins => hiring_start hr hentry hbegins
  generalize (t.trace entry s).1 = result, (t.trace entry s).2 = s' at htraced
  cases htraced with
  | refused h => exact ⟨.refl _ _, fun h => h⟩
  | failed h hgrown _ _ =>
    rw [h] at hinterned
    exact ⟨hinterned, fun hseen => hseen.mono hgrown⟩
  | excluded h hgrown _ =>
    rw [h] at hinterned
    exact ⟨hinterned, fun hseen => hseen.mono hgrown⟩
  | unentered hbegins =>
    rw [hbegins.interned] at hinterned
    exact ⟨hinterned, fun hseen => (hseen.mono hbegins.grown).begin hbegins.visible⟩
  | visited hbegins hpost =>
    rw [hbegins.interned] at hinterned
    exact ⟨hinterned.trans hpost.rel.1,
      fun hseen => hpost.rel.2 ((hseen.mono hbegins.grown).begin hbegins.visible)⟩

theorem traceAll_hires {r : Roster} (hr : t.casting.Drawn r) {entries : List Decl}
    (hentries : ∀ e ∈ entries, t.casting.program.Declares e) :
    t.casting.Hires r (t.traceAll entries { roster := r }).roster ∧
      (t.traceAll entries { roster := r }).interaction.Seen
        (t.traceAll entries { roster := r }).roster := by
  refine traceAll_induction (Q := fun s => t.casting.Hires r s.roster ∧ s.interaction.Seen s.roster)
    ⟨.refl _ _, by simp [Interaction.Seen, Interaction.mentions]⟩ ?_
  rintro entry hentry s ⟨hhires, hseen⟩
  obtain ⟨hhires', hseen'⟩ := trace_hires (hr.trans hhires.changes) (hentries entry hentry)
  exact ⟨hhires.trans hhires', hseen' hseen⟩

/-- Entry points and both ends of messages are on the roster. Everybody there was let in by the
filter, or is a file, or the state of somebody there; as long as there are ids, a state that was not
there at first is that of a function, a method or a closure. -/
structure Audited (t : Tracer) (r : Roster) (s : Trace) : Prop where
  mentions : ∀ id ∈ s.interaction.mentions, id ≠ .tombstone ∧ ∃ p ∈ s.roster.participants, p.id = id
  accepted : ∀ p ∈ s.roster.participants, p.kind ≠ .file → p.kind ≠ .coroutineState →
    t.casting.Vouches s.roster p ∨ t.casting.VouchesExternal p
  states : ∀ p ∈ s.roster.participants, p.kind = .coroutineState →
    ∃ q ∈ s.roster.participants, p = { stateDraft q with id := p.id } ∧
      (p ∉ r.participants → s.roster.size < UInt64.size → q.kind.isCallable = true)

/-- Whatever is traced, also in vain, only those take part whom the filter lets in. -/
theorem traceAll_audited {r : Roster} (hr : t.casting.Enrolled r) {entries : List Decl}
    (hentries : ∀ e ∈ entries, t.casting.program.Declares e) :
    t.Audited r (t.traceAll entries { roster := r }) := by
  obtain ⟨hhires, hseen⟩ := traceAll_hires hr.drawn hentries
  have hdrawn := hr.drawn.trans hhires.changes
  refine ⟨?_, ?_, ?_⟩
  · intro id hid
    obtain ⟨hne, hused⟩ := Roster.isVisible_iff.1 (hseen id hid)
    simpa [hne] using Roster.uses_iff.1 hused
  · intro p hp hfile hstate
    cases hdrawn.entitled hp with
    | decl hvouches => exact .inl hvouches
    | external hvouches => exact .inr hvouches
    | file hk => exact absurd hk hfile
    | state _ _ hp => exact absurd (hp ▸ rfl) hstate
  · intro p hp hstate
    obtain ⟨q, hq, -, heq⟩ := (hdrawn.entitled hp).state_of_kind hstate
    by_cases hsize : (t.traceAll entries { roster := r }).roster.size < UInt64.size
    · rcases hr.drawn.entitled_of_changes (hhires.states hsize) hp with hold | hentitled
      · exact ⟨q, hq, heq, fun hnew => absurd hold hnew⟩
      · obtain ⟨q, hq, hcallable, heq⟩ := hentitled.state_of_kind hstate
        exact ⟨q, hq, heq, fun _ _ => hcallable⟩
    · exact ⟨q, hq, heq, fun _ h => absurd h hsize⟩

theorem traceAll_audited_sample : Sample.tracer.casting.Enrolled {} ∧
    (∀ e ∈ [Sample.run, Sample.worker], Sample.program.Declares e) ∧
    (Sample.tracer.traceAll [Sample.run, Sample.worker] {}).interaction.mentions ≠ [] ∧
    Sample.tracer.Audited {} (Sample.tracer.traceAll [Sample.run, Sample.worker] {}) := by
  have hentries : ∀ e ∈ [Sample.run, Sample.worker], Sample.program.Declares e := by
    simp only [List.forall_mem_cons]
    exact ⟨rfl, rfl, by simp⟩
  exact ⟨.empty, hentries, by decide +kernel, traceAll_audited (t := Sample.tracer) .empty hentries⟩

end Tracer

end Lifeline
