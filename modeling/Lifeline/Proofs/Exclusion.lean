import Lifeline.Proofs.Depiction
import Lifeline.Proofs.WellFormed

namespace Lifeline

theorem Roster.DrawnOn.notes_tombstone {r : Roster} {names : Naming.CallableNames} (hr : r.Numbered)
    (h : r.DrawnOn names (some .tombstone)) :
    ∃ o, names.owner = some o ∧ r.Notes o [] .tombstone := by
  generalize hid : some ParticipantId.tombstone = owner at h
  cases h with
  | own _ => cases hid
  | cls ho hnoted =>
    cases hid
    exact ⟨_, ho, hnoted⟩
  | file _ _ hq _ => exact absurd (Option.some.inj hid).symm (hr.ne_tombstone (uses_of_mem hq))

namespace Casting

variable {c : Casting} {d : Decl} {args : List String} {r : Roster} {id : ParticipantId}

def Rejects (c : Casting) (d : Decl) (args : List String) : Prop :=
  ∃ names, c.names d args = .ok names ∧ c.filter (c.candidate d names) = false

/-- The filter refuses a declaration, or the class that it is drawn on. -/
inductive Excludes (c : Casting) (d : Decl) (args : List String) : Prop
  | self : c.Rejects d args → Excludes c d args
  | owner {names : Naming.CallableNames} {o : DeclId} {e : Decl} :
    c.names d args = .ok names → names.owner = some o → c.program.get? o = some e →
    c.Rejects e [] → Excludes c d args

theorem Rejects.eq_tombstone (h : c.Rejects d args) (hjust : c.Justifies r d args id) :
    id = .tombstone := by
  obtain ⟨names, hnames, hfilter⟩ := h
  cases hjust with
  | refused _ _ => rfl
  | ownerHidden _ _ => rfl
  | drawn hdraws _ _ =>
    cases hdraws with
    | mk haccepts _ _ _ =>
      cases hnames.symm.trans haccepts.named
      cases hfilter.symm.trans haccepts.admitted

theorem Excludes.eq_tombstone (h : c.Excludes d args) (hr : c.Informed r)
    (hjust : c.Justifies r d args id) : id = .tombstone := by
  cases h with
  | self hrejects => exact hrejects.eq_tombstone hjust
  | owner hnames ho he hrejects =>
    cases hjust with
    | refused _ _ => rfl
    | ownerHidden _ _ => rfl
    | drawn hdraws _ _ =>
      cases hdraws with
      | mk haccepts howner hseen _ =>
        cases hnames.symm.trans haccepts.named
        cases howner with
        | own hn => cases ho.symm.trans hn
        | file hn _ _ _ => cases ho.symm.trans hn
        | cls hn hid =>
          cases ho.symm.trans hn
          obtain ⟨_, hget, hjust⟩ := hr _ _ _ hid
          cases he.symm.trans hget
          exact absurd (congrArg some (hrejects.eq_tombstone hjust)) hseen

theorem rejects_of_justifies {info : RecordInfo} (hnumbered : r.Numbered)
    (hkind : d.kind = .record info) (hjust : c.Justifies r d args .tombstone) :
    c.Rejects d args := by
  generalize hid : ParticipantId.tombstone = id at hjust
  cases hjust with
  | refused hnames hfilter => exact ⟨_, hnames, hfilter⟩
  | ownerHidden hnames howner =>
    obtain ⟨o, ho, -⟩ := howner.notes_tombstone hnumbered
    -- Only functions are drawn on somebody else's lifeline.
    obtain ⟨-, -, f, _, _, hfunction, -⟩ := names_owner hnames ho
    cases hkind.symm.trans hfunction
  | drawn _ hq _ => exact absurd hid.symm (hnumbered.ne_tombstone (Roster.uses_of_mem hq))

theorem excludes_of_justifies (hr : c.Informed r) (hnumbered : r.Numbered)
    (hjust : c.Justifies r d args .tombstone) : c.Excludes d args := by
  generalize hid : ParticipantId.tombstone = id at hjust
  cases hjust with
  | refused hnames hfilter => exact .self ⟨_, hnames, hfilter⟩
  | ownerHidden hnames howner =>
    obtain ⟨o, ho, hnoted⟩ := howner.notes_tombstone hnumbered
    obtain ⟨e, he, hjust⟩ := hr o [] _ hnoted
    obtain ⟨-, -, _, _, _, -, he', hrecord, -⟩ := names_owner hnames ho
    cases he.symm.trans he'
    exact .owner hnames ho he (rejects_of_justifies hnumbered hrecord hjust)
  | drawn _ hq _ => exact absurd hid.symm (hnumbered.ne_tombstone (Roster.uses_of_mem hq))

theorem Enrolled.reached (h : c.Enrolled r) : c.Reached r := by
  induction h with
  | empty => exact .empty
  | intern _ _ ih => exact ih.intern _

theorem Enrolled.numbered (h : c.Enrolled r) (hsize : r.size < UInt64.size) : r.Numbered := by
  induction h with
  | empty => exact Bool.eq_false_iff.2 (by simp [Roster.uses])
  | @intern r e h _ ih =>
    have hgrown := (intern_grows (c := c) h.reached.sound e).result.grown
    exact hgrown.numbered hsize (ih (Nat.lt_of_le_of_lt hgrown.size_le hsize))

end Casting

namespace Tracer

open Casting

variable {t : Tracer} {s : Trace} {entry : Decl}

def enrolling (t : Tracer) : CallLaw t where
  inv _ _ _ := True
  rel _ r _ r' _ := t.casting.Enrolled r → t.casting.Enrolled r'
  mention _ := True
  fault _ := True
  refl _ h := h
  trans h h' hr := h' (h hr)
  keeps _ _ := trivial
  program := t.mentions_all
  faults := t.faults_all
  step := by
    rintro _ _ _ _ _ _ (rfl | ⟨e, he, -, rfl⟩) _ hr
    · exact hr
    · exact hr.intern he
  send _ _ _ _ _ h := h
  answer _ _ _ _ _ h := h
  call _ _ _ _ _ := trivial
  ofCall _ _ _ _ _ h := h
  inline _ _ _ := trivial
  ofInline _ _ _ h := h

theorem trace_enrolled (hr : t.casting.Enrolled s.roster)
    (hentry : t.casting.program.Declares entry) :
    t.casting.Enrolled (t.trace entry s).2.roster ∧ (entry.body?.isSome = true →
      (t.casting.intern (.decl entry) s.roster).2.Extends (t.trace entry s).2.roster) := by
  have hinterned : t.casting.Enrolled (t.casting.intern (.decl entry) s.roster).2 :=
    hr.intern hentry
  have htraced := Law.trace_traced (L := t.enrolling.toLaw) hr.reached.sound
    (Law.admits_of_mem hentry.mem) fun _ _ _ => trivial
  generalize (t.trace entry s).1 = result, (t.trace entry s).2 = s' at htraced
  cases htraced with
  | refused h => exact ⟨hr, by simp [h]⟩
  | failed h _ _ _ =>
    rw [h] at hinterned ⊢
    exact ⟨hinterned, fun _ => .refl _⟩
  | excluded h _ _ =>
    rw [h] at hinterned ⊢
    exact ⟨hinterned, fun _ => .refl _⟩
  | unentered hbegins =>
    rw [hbegins.interned] at hinterned ⊢
    exact ⟨hinterned, fun _ => .refl _⟩
  | visited hbegins hpost =>
    rw [hbegins.interned] at hinterned ⊢
    exact ⟨hpost.rel hinterned, fun _ => hpost.grown⟩

theorem traceAll_enrolled (hr : t.casting.Enrolled s.roster) {entries : List Decl}
    (hentries : ∀ e ∈ entries, t.casting.program.Declares e) :
    t.casting.Enrolled (t.traceAll entries s).roster :=
  traceAll_induction (Q := fun s => t.casting.Enrolled s.roster) hr
    fun e he _ hr => (trace_enrolled hr (hentries e he)).1

theorem intern_eq_tombstone_iff (hp : t.casting.program.WellFormed)
    (hr : t.casting.Enrolled s.roster) (hentry : t.casting.program.Declares entry)
    (hsize : (t.casting.intern (.decl entry) s.roster).2.size < UInt64.size) :
    (t.casting.intern (.decl entry) s.roster).1 = .ok .tombstone ↔ t.casting.Excludes entry [] := by
  have hnumbered := (hr.intern (e := .decl entry) hentry).numbered hsize
  obtain ⟨id, hid⟩ : ∃ id, (t.casting.intern (.decl entry) s.roster).1 = .ok id :=
    internDecl_ok hp hentry.mem hr.reached.sound []
  have hdoes : t.casting.Does (fun _ => True) _ _ s.roster
      (t.casting.intern (.decl entry) s.roster).1 (t.casting.intern (.decl entry) s.roster).2 :=
    (internAt_does hr.drawn hentry _).result
  have hinformed := (hr.drawn.trans hdoes.rel).informed
  have hnoted := hdoes.outcome
  rw [hid] at hnoted ⊢
  obtain ⟨_, hget, hjust⟩ := hinformed _ _ _ hnoted
  cases hget.symm.trans hentry
  rw [Except.ok.injEq]
  constructor
  · rintro rfl
    exact excludes_of_justifies hinformed hnumbered hjust
  · intro hexcludes
    exact hexcludes.eq_tombstone hinformed hjust

/-- In a well-formed program every function with a body can be traced, whatever was traced before,
unless it was made the tombstone; and as long as there are ids, only what the filter keeps out
is. -/
theorem entry_traced_unless_excluded (hp : t.casting.program.WellFormed) {r : Roster}
    (hr : t.casting.Enrolled r) {before : List Decl}
    (hbefore : ∀ e ∈ before, t.casting.program.Declares e)
    (hentry : t.casting.program.Declares entry) (hbody : entry.body?.isSome = true) :
    ((t.trace entry (t.traceAll before { roster := r })).1 = .ok () ↔
      (t.casting.intern (.decl entry) (t.traceAll before { roster := r }).roster).1 ≠
        .ok .tombstone) ∧
    ((t.trace entry (t.traceAll before { roster := r })).2.roster.size < UInt64.size →
      ((t.trace entry (t.traceAll before { roster := r })).1 = .ok () ↔
        ¬ t.casting.Excludes entry [])) := by
  have henrolled := traceAll_enrolled (s := { roster := r }) hr hbefore
  have hiff := trace_eq_ok_iff hp henrolled.reached.sound hentry.mem hbody
  refine ⟨hiff, fun hsize => hiff.trans (not_congr ?_)⟩
  have hgrown := (trace_enrolled henrolled hentry).2 hbody
  exact intern_eq_tombstone_iff hp henrolled hentry (Nat.lt_of_le_of_lt hgrown.size_le hsize)

theorem entry_traced_unless_excluded_sample :
    Sample.program.WellFormed ∧ Sample.tracer.casting.Enrolled {} ∧
    Sample.program.Declares Sample.run ∧
    (Sample.tracer.trace Sample.run (Sample.tracer.traceAll [Sample.run] {})).1 = .ok () ∧
    ¬ Sample.tracer.casting.Excludes Sample.run [] := by
  have h := entry_traced_unless_excluded (t := Sample.tracer) Sample.wellFormed .empty
    (List.forall_mem_singleton.2 Sample.run_declared) Sample.run_declared rfl
  have hok := h.1.2 (by decide +kernel)
  exact ⟨Sample.wellFormed, .empty, Sample.run_declared, hok, (h.2 (by decide +kernel)).1 hok⟩

end Tracer

end Lifeline
