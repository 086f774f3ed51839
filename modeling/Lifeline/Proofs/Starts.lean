import Lifeline.Proofs.Appearance
import Lifeline.Proofs.WellFormed

namespace Lifeline

inductive Fault.OfDrawing : Fault → Prop
  | unknownDecl (id : DeclId) : OfDrawing (.malformed (.unknownDecl id))
  | notCallable (id : DeclId) (name : String) : OfDrawing (.malformed (.notCallable id name))
  | notRecord (id : DeclId) : OfDrawing (.malformed (.notRecord id))
  | endlessScope (id : DeclId) : OfDrawing (.malformed (.endlessScope id))
  | ownerNotRecord (owner : DeclId) (method : String) :
    OfDrawing (.malformed (.ownerNotRecord owner method))
  | endlessOrigin (id : DeclId) : OfDrawing (.malformed (.endlessOrigin id))
  | undefinedEntry (selector : String) : OfDrawing (.malformed (.undefinedEntry selector))
  | missingEntry (cause : MissingEntry) : OfDrawing (.missingEntry cause)
  | pattern (text : String) : OfDrawing (.pattern text)

theorem Naming.faults_ofDrawing : Naming.Faults Fault.OfDrawing :=
  ⟨.unknownDecl, .notRecord, .endlessScope, .ownerNotRecord⟩

namespace Casting

theorem faults_ofDrawing (c : Casting) : c.Faults (fun _ => True) Fault.OfDrawing := by
  have hnaming := Naming.faults_ofDrawing
  have hrefers (d : Decl) : c.Refers Fault.OfDrawing (fun _ => True) d :=
    ⟨fun o _ => hnaming.decl _ o, fun o _ => hnaming.decl _ o, fun _ _ => hnaming.recordNameAt _ d,
      fun _ args _ => hnaming.callableNames args⟩
  have hfunction (id : DeclId) : Ends Fault.OfDrawing (fun _ => True) (c.program.function id) := by
    refine (hnaming.decl _ id).bind fun d => ?_
    cases d.function? with
    | none => exact .notCallable id d.name
    | some g => trivial
  refine ⟨fun id _ f _ hf => (hfunction id).of_error hf,
    fun id f _ hf => (hnaming.decl _ id).of_error hf, ?_⟩
  intro d _ args r f hr hf
  exact (internAt_grows_of hrefers .endlessOrigin _ hr).result.outcome.of_error hf

end Casting

namespace Tracer

variable {t : Tracer} {entry : Decl} {entries : List Decl} {s : Trace} {r : Roster}

theorem trace_tombstone (hentry : t.casting.program.Traceable entry)
    (h : t.casting.intern (.decl entry) s.roster = (.ok .tombstone, r)) :
    (t.trace entry s).1 = .error (.missingEntry (.excluded entry.name)) := by
  obtain ⟨f, body, hfun, hbody⟩ := hentry.exists_body
  have hcast :
      Visit.cast (t.casting.intern (.decl entry)) s = (.ok .tombstone, { s with roster := r }) := by
    simp only [Visit.cast, h]
  rw [trace, traceWith_eq hfun hbody, Agree.run_bind, hcast]
  dsimp only
  rw [proceed_tombstone rfl]

theorem trace_draws (hr : s.roster.Sound) (hentry : t.casting.program.Traceable entry) :
    s.roster.Grows Fault.OfDrawing (fun _ _ => True) (t.trace entry s).1
      (t.trace entry s).2.roster := by
  let L := CallLaw.ofFaults t.mentions_all t.casting.faults_ofDrawing
  have htraced :=
    Law.trace_traced (L := L.toLaw) hr (Law.admits_of_mem hentry.declared) fun _ _ _ => trivial
  obtain ⟨hgrown, hsound⟩ := htraced.roster hr
  refine ⟨hgrown, hsound, ?_⟩
  have htombstone {r : Roster} := trace_tombstone (r := r) (s := s) hentry
  generalize (t.trace entry s).1 = result, (t.trace entry s).2 = s' at htraced htombstone
  cases htraced with
  | refused h => simpa [Decl.hasBody, h] using hentry.hasBody
  | failed _ _ _ hfault => exact hfault
  | excluded h _ _ =>
    rw [htombstone h]
    exact .missingEntry _
  | unentered _ => trivial
  | visited _ hpost => exact hpost.outcome

theorem forM_draws (hr : s.roster.Sound)
    (hentries : ∀ d ∈ entries, t.casting.program.Traceable d) :
    s.roster.Grows Fault.OfDrawing (fun _ _ => True) ((entries.forM t.trace : Visit Unit) s).1
      ((entries.forM t.trace : Visit Unit) s).2.roster := by
  induction entries generalizing s with
  | nil => exact ⟨.refl _, hr, trivial⟩
  | cons entry rest ih =>
    obtain ⟨hentry, hrest⟩ := List.forall_mem_cons.1 hentries
    have htrace := trace_draws hr hentry
    rw [forM_cons_run, Agree.run_bind]
    rcases hrun : t.trace entry s with ⟨f | _, mid⟩
    · rw [hrun] at htrace
      exact htrace
    · rw [hrun] at htrace
      have hlater := ih htrace.sound hrest
      exact ⟨htrace.grown.trans hlater.grown, hlater.sound, hlater.outcome⟩

theorem interaction_draws (hr : r.Sound)
    (hentries : ∀ d ∈ entries, t.casting.program.Traceable d) :
    Agree (t.interaction entries) (t.interaction entries) r
      (r.Grows Fault.OfDrawing fun _ _ => True) := by
  have hrun := forM_draws (s := { roster := r }) hr hentries
  refine ⟨rfl, ?_⟩
  rcases hforM : (entries.forM t.trace : Visit Unit) { roster := r } with ⟨f | x, s⟩
  · rw [hforM] at hrun
    rw [interaction_error hforM]
    exact ⟨hrun.grown, hrun.sound, hrun.outcome⟩
  · rw [hforM] at hrun
    rw [interaction_ok hforM]
    exact ⟨hrun.grown, hrun.sound, trivial⟩

theorem chainsFrom_draws (hr : r.Sound) (target : Option String)
    (hentry : t.casting.program.Traceable entry) :
    Agree (t.chainsFrom target entry) (t.chainsFrom target entry) r
      (r.Grows Fault.OfDrawing fun _ _ => True) := by
  refine Casting.grows_bind (interaction_draws hr (by simpa using hentry)) ?_
  intro i r' hr' _
  refine .get_bind ?_
  cases target with
  | none => exact Casting.grows_pure hr' trivial
  | some selector => exact Casting.grows_pure hr' trivial

theorem mapM_chainsFrom_draws (hr : r.Sound) (target : Option String)
    (hentries : ∀ d ∈ entries, t.casting.program.Traceable d) :
    Agree (entries.mapM (t.chainsFrom target)) (entries.mapM (t.chainsFrom target)) r
      (r.Grows Fault.OfDrawing fun _ _ => True) := by
  induction entries generalizing r with
  | nil => exact Casting.grows_pure hr trivial
  | cons entry rest ih =>
    obtain ⟨hentry, hrest⟩ := List.forall_mem_cons.1 hentries
    rw [List.mapM_cons]
    refine Casting.grows_bind (chainsFrom_draws hr target hentry) ?_
    intro first r' hr' _
    refine Casting.grows_bind (ih hr' hrest) ?_
    intro others r'' hr'' _
    exact Casting.grows_pure hr'' trivial

theorem interactions_ends (hr : r.Sound) (layout : Layout) (target : Option String)
    (hentries : ∀ d ∈ entries, t.casting.program.Traceable d) :
    Ends Fault.OfDrawing (fun _ => True) (t.interactions layout target entries r).1 := by
  have hgrows :
    Agree (t.interactions layout target entries) (t.interactions layout target entries) r
      (r.Grows Fault.OfDrawing fun _ _ => True) := by
    cases layout with
    | merged =>
      have hmerged :
          Agree (t.merged entries) (t.merged entries) r
            (r.Grows Fault.OfDrawing fun _ _ => True) := by
        refine Casting.grows_bind (interaction_draws hr hentries) ?_
        intro i r' hr' _
        exact .get_bind (Casting.grows_pure hr' trivial)
      exact Casting.grows_bind hmerged fun _ _ hr' _ => Casting.grows_pure hr' trivial
    | chains =>
      refine Casting.grows_bind (mapM_chainsFrom_draws hr target hentries) ?_
      intro chains r' hr' _
      exact Casting.grows_pure hr' trivial
  exact hgrows.result.outcome

end Tracer

namespace Program

variable {p : Program} {name : String} {s : DiagramSettings} {root : Option Path} {fault : Fault}

theorem named_ends (p : Program) (selector : String) :
    Ends Fault.OfDrawing (fun _ => True) (p.named selector) := by
  refine .filterM (fun d => ?_) p.decls
  unfold isNamed
  cases d.function? with
  | none => trivial
  | some f => exact (Naming.faults_ofDrawing.callableNames d.templateArgs).bind fun _ => trivial

theorem selected_ends (p : Program) (spec : EntrySpec) :
    Ends Fault.OfDrawing (fun _ => True) (p.selected spec) := by
  cases spec with
  | function selector =>
    refine (p.named_ends selector).bind fun named => ?_
    split
    · exact .missingEntry _
    · dsimp only
      split
      · exact .undefinedEntry selector
      · trivial
  | file path =>
    simp only [selected, rootsIn]
    split
    · exact .missingEntry _
    · trivial

theorem callersReaching_ends (p : Program) (selector : String) :
    Ends Fault.OfDrawing (fun _ => True) (p.callersReaching selector) := by
  have hends := p.named_ends selector
  cases hnamed : p.named selector with
  | error f =>
    rw [hnamed] at hends
    simpa only [callersReaching, hnamed, bind, Except.bind] using hends
  | ok named =>
    rw [callersReaching_eq_pick hnamed, pickCallers]
    split
    · exact .missingEntry _
    · split
      · exact .missingEntry _
      · trivial

theorem startsOf_ends (p : Program) (s : DiagramSettings) :
    Ends Fault.OfDrawing (fun _ => True) (p.startsOf s) := by
  unfold startsOf
  split
  · exact p.callersReaching_ends _
  · exact (Ends.mapM p.selected_ends _).bind fun _ => trivial

theorem ofRules_ends (included excluded : FilterRules) (root : Option Path) :
    Ends Fault.OfDrawing (fun _ => True) (Filter.ofRules included excluded root) := by
  have hready (rules : FilterRules) : Ends Fault.OfDrawing (fun _ => True) rules.ready := by
    refine (Ends.mapM (fun text => ?_) _).bind fun _ => trivial
    unfold FilterRules.readElement
    split
    · trivial
    · exact .pattern text
  exact (hready included).bind fun _ => (hready excluded).bind fun _ => trivial

theorem drawPlain_ends (p : Program) (name : String) (s : DiagramSettings) (root : Option Path) :
    Ends Fault.OfDrawing (fun _ => True) (p.drawPlain name s root) := by
  refine (ofRules_ends _ _ root).bind fun filter => ?_
  have hstarts := p.startsOf_ends s
  cases hentries : p.startsOf s with
  | error f =>
    rw [hentries] at hstarts
    exact hstarts
  | ok entries =>
    have hrun :=
      Tracer.interactions_ends (t := p.tracerFor s filter) .empty s.effectiveLayout s.target
      (startsOf_traceable hentries)
    simp only [bind, Except.bind]
    rcases hresult : (p.tracerFor s filter).interactions s.effectiveLayout s.target
      entries {} with ⟨f | is, last⟩
    · rw [hresult] at hrun
      simp only [tracerFor] at hresult
      rw [hresult]
      exact hrun
    · simp only [tracerFor] at hresult
      rw [hresult]
      trivial

theorem draw_eq_error (h : p.draw name s root = .error fault) :
    ∃ cause, fault = .diagram name cause ∧ cause.OfDrawing := by
  have hplain := p.drawPlain_ends name s root
  rw [draw] at h
  split at h
  · cases h
  · rename_i f hf
    rw [hf] at hplain
    cases h
    refine ⟨f, ?_, hplain⟩
    cases hplain <;> rfl

/-- A diagram starts at different functions of the program, each with a body. They are the functions
that its specifications ask for, one specification after the other and each time in the order of the
program, without those that were there before; and a specification that asks for nothing makes it
fail. But it never fails because one of the functions cannot be traced. -/
theorem starts_traced {units : List TranslationUnit} (hp : ofUnits units = p)
    (s : DiagramSettings) :
    (∀ entries, p.startsOf s = .ok entries →
      (entries.map (·.id)).Nodup ∧
      (∀ d ∈ entries, d ∈ p.decls ∧ ∃ f body, d.function? = some f ∧ f.body = some body) ∧
      (s.startFrom ≠ [] →
        ∃ found, List.Forall₂ p.Gives s.startFrom found ∧ entries ⊆ found.flatten ∧
        entries.map (·.id) = (found.flatten.map (·.id)).eraseDups)) ∧
    (∀ spec ∈ s.startFrom, (∀ d, ¬ p.Chooses spec d) → ∃ fault, p.startsOf s = .error fault) ∧
    (p.Nameable → s.startFrom ≠ [] → (∀ spec ∈ s.startFrom, ∃ d, p.Chooses spec d) →
      ∃ entries, p.startsOf s = .ok entries) ∧
    ∀ name root fault, p.draw name s root = .error fault → ∃ cause, fault = .diagram name cause ∧
      ∀ entry, cause ≠ .malformed (.entryNotCallable entry) ∧
        cause ≠ .malformed (.entryWithoutBody entry) := by
  refine ⟨fun entries h => ⟨startsOf_nodup hp h, ?_, fun hsome => ?_⟩,
    fun spec hspec hnone => ?_, ?_, ?_⟩
  · intro d hd
    have htraceable := startsOf_traceable h d hd
    exact ⟨htraceable.declared, htraceable.exists_body⟩
  · rw [startsOf_of_ne_nil hsome] at h
    obtain ⟨found, hfound, rfl⟩ := entryPoints_eq_ok h
    exact ⟨found, hfound, fun _ => mem_of_mem_distinctBy, map_id_distinctBy _⟩
  · rw [startsOf_of_ne_nil (List.ne_nil_of_mem hspec)]
    cases h : p.entryPoints s.startFrom with
    | error fault => exact ⟨fault, rfl⟩
    | ok entries =>
      obtain ⟨found, hfound, -⟩ := entryPoints_eq_ok h
      obtain ⟨_, -, hgives⟩ := exists_of_forall₂ hfound hspec
      obtain ⟨d, hd⟩ := hgives.any
      exact absurd hd (hnone d)
  · intro hnames hsome hchosen
    rw [startsOf_of_ne_nil hsome]
    exact hnames.entryPoints_ok hchosen
  · intro name root fault h
    obtain ⟨cause, rfl, hcause⟩ := draw_eq_error h
    refine ⟨cause, rfl, fun entry => ⟨?_, ?_⟩⟩ <;>
    · rintro rfl
      cases hcause

end Program

namespace Sample

def overlapping : DiagramSettings :=
  { startFrom := [.function "step", .function "run", .function " step "] }

def lacking : DiagramSettings :=
  { startFrom := [.function "run", .function "halt"] }

theorem nameable : program.Nameable := by
  intro d hd f hf
  refine Naming.callableNames_ok wellFormed hd ?_ _
  cases hkind : d.kind with
  | record info => simp [Decl.function?, hkind] at hf
  | function g => simpa [Decl.function?, hkind] using hf

theorem chooses_overlapping : ∀ spec ∈ overlapping.startFrom, ∃ d, program.Chooses spec d := by
  simp only [overlapping, List.forall_mem_cons, Program.Chooses]
  refine ⟨⟨step, ?_⟩, ⟨run, ?_⟩, ⟨step, ?_⟩, by simp⟩ <;>
    exact ⟨by simp [program], rfl, by decide +kernel⟩

theorem not_chooses_halt (d : Decl) : ¬ program.Chooses (.function "halt") d := by
  have hnone : ∀ d ∈ program.decls, program.isNamed "halt" d ≠ .ok true := by decide +kernel
  exact fun h => hnone d h.1 h.2.2

end Sample

theorem Program.starts_traced_sample :
    ofUnits [⟨⟨"a.cc"⟩, Sample.program.decls⟩] = Sample.program ∧ Sample.program.Nameable ∧
    (∀ spec ∈ Sample.overlapping.startFrom, ∃ d, Sample.program.Chooses spec d) ∧
    (∃ entries, Sample.program.startsOf Sample.overlapping = .ok entries ∧
      entries.map (·.id) = [2, 1] ∧
      ∀ d ∈ entries, d ∈ Sample.program.decls ∧
        ∃ f body, d.function? = some f ∧ f.body = some body) ∧
    (∀ d, ¬ Sample.program.Chooses (.function "halt") d) ∧
    (∃ fault, Sample.program.startsOf Sample.lacking = .error fault) ∧
    ∃ fault, Sample.program.draw "steps" Sample.lacking none = .error fault ∧
      ∃ cause, fault = .diagram "steps" cause ∧
        ∀ entry, cause ≠ .malformed (.entryNotCallable entry) ∧
          cause ≠ .malformed (.entryWithoutBody entry) := by
  have hunits : ofUnits [⟨⟨"a.cc"⟩, Sample.program.decls⟩] = Sample.program := rfl
  have hok := starts_traced hunits Sample.overlapping
  have hfails := starts_traced hunits Sample.lacking
  refine ⟨hunits, Sample.nameable, Sample.chooses_overlapping, ?_, Sample.not_chooses_halt,
    hfails.2.1 _ (by simp [Sample.lacking]) Sample.not_chooses_halt, ?_⟩
  · obtain ⟨entries, hentries⟩ :=
      hok.2.2.1 Sample.nameable (by simp [Sample.overlapping]) Sample.chooses_overlapping
    refine ⟨entries, hentries, ?_, (hok.1 entries hentries).2.1⟩
    have hids :
        (Sample.program.startsOf Sample.overlapping).toOption.map (·.map (·.id)) = some [2, 1] := by
      decide +kernel
    rw [hentries] at hids
    exact Option.some.inj hids
  · refine ⟨.diagram "steps" (.missingEntry (.noMatch "halt")), ?_,
      hfails.2.2.2 "steps" none _ ?_⟩ <;> rfl

end Lifeline
