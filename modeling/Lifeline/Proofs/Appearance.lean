import Lifeline.Proofs.Admission
import Lifeline.Proofs.Resumption
import Lifeline.Proofs.Selection
import Lifeline.Proofs.Trails

namespace Lifeline

namespace Interaction

variable {s c : Interaction} {path next cs : List Message} {m : Message} {r : Roster}

theorem mem_of_mem_pathsFrom (hnext : next ∈ pathsFrom path cs) (hm : m ∈ next) :
    m ∈ path ∨ m ∈ cs := by
  induction cs generalizing path with
  | nil => simp [pathsFrom] at hnext
  | cons first rest ih =>
    have hstep : ∀ m ∈ path.take first.depth ++ [first], m ∈ path ∨ m ∈ first :: rest := by
      intro m hm
      rcases List.mem_append.1 hm with hm | hm
      · exact .inl (List.mem_of_mem_take hm)
      · exact .inr (by simp [List.mem_singleton.1 hm])
    rw [pathsFrom, List.mem_cons] at hnext
    rcases hnext with rfl | hnext
    · exact hstep m hm
    · rcases ih hnext with hm | hm
      · exact hstep m hm
      · exact .inr (List.mem_cons_of_mem _ hm)

theorem mentions_subset_of_mem_chains {targets : List ParticipantId} (hc : c ∈ s.chains targets) :
    c.mentions ⊆ s.mentions := by
  obtain ⟨i, hi, rfl⟩ := List.mem_mapIdx.1 hc
  have hpath := (List.mem_filter.1 (mem_of_mem_distinctBy (List.getElem_mem hi))).1
  refine List.append_subset.2 ⟨List.subset_append_left _ _, ?_⟩
  intro id hid
  obtain ⟨m, hm, hid⟩ := List.mem_flatMap.1 hid
  have hcall : m ∈ s.calls := by simpa using mem_of_mem_pathsFrom hpath (by simpa using hm)
  exact List.mem_append_right _ (List.mem_flatMap.2 ⟨m, (List.mem_filter.1 hcall).1, hid⟩)

theorem Seen.relabel (h : s.Seen r) (label : String) : { s with label }.Seen r :=
  h

end Interaction

namespace Tracer

variable {t : Tracer} {r last : Roster} {entries : List Decl} {is : List Interaction}

theorem traceAll_of_forM_ok {s s' : Trace} {x : Unit}
    (h : (entries.forM t.trace : Visit Unit) s = (.ok x, s')) : t.traceAll entries s = s' := by
  induction entries generalizing s with
  | nil =>
    cases h
    rfl
  | cons entry rest ih =>
    rw [forM_cons_run, Agree.run_bind] at h
    rcases htrace : t.trace entry s with ⟨f | _, mid⟩
    · rw [htrace] at h
      cases h
    · rw [htrace] at h
      have hrest := ih h
      rwa [traceAll, List.foldl_cons, htrace]

theorem interaction_hires (hr : t.casting.Drawn r)
    (hentries : ∀ e ∈ entries, t.casting.program.Declares e) {i : Interaction}
    (h : t.interaction entries r = (.ok i, last)) : t.casting.Hires r last ∧ i.Seen last := by
  have htraced := traceAll_hires hr hentries
  rcases hrun : (entries.forM t.trace : Visit Unit) { roster := r } with ⟨f | _, s⟩
  · rw [interaction_error hrun] at h
    cases h
  · rw [interaction_ok hrun] at h
    cases h
    rwa [traceAll_of_forM_ok hrun] at htraced

theorem chainsFrom_hires (hr : t.casting.Drawn r) {entry : Decl}
    (hentry : t.casting.program.Declares entry) {target : Option String}
    (h : t.chainsFrom target entry r = (.ok is, last)) :
    t.casting.Hires r last ∧ ∀ i ∈ is, i.Seen last := by
  obtain ⟨s, mid, hs, h⟩ := Casting.bind_eq_ok h
  obtain ⟨hhires, hseen⟩ := interaction_hires hr (by simpa using hentry) hs
  obtain ⟨_, _, hget, h⟩ := Casting.bind_eq_ok h
  cases hget
  cases target with
  | none =>
    cases h
    exact ⟨hhires, by simpa using hseen.relabel _⟩
  | some selector =>
    cases h
    refine ⟨hhires, fun c hc id hid => ?_⟩
    exact hseen.relabel _ id (Interaction.mentions_subset_of_mem_chains hc hid)

theorem mapM_chainsFrom_hires (hr : t.casting.Drawn r)
    (hentries : ∀ e ∈ entries, t.casting.program.Declares e) {target : Option String}
    {chains : List (List Interaction)}
    (h : (entries.mapM (t.chainsFrom target) : Cast _) r = (.ok chains, last)) :
    t.casting.Hires r last ∧ ∀ i ∈ chains.flatten, i.Seen last := by
  induction entries generalizing r chains with
  | nil =>
    cases h
    exact ⟨.refl _ _, by simp⟩
  | cons entry rest ih =>
    obtain ⟨hentry, hrest⟩ := List.forall_mem_cons.1 hentries
    rw [List.mapM_cons] at h
    obtain ⟨first, mid, hfirst, h⟩ := Casting.bind_eq_ok h
    obtain ⟨others, _, hothers, h⟩ := Casting.bind_eq_ok h
    cases h
    obtain ⟨hhires, hseen⟩ := chainsFrom_hires hr hentry hfirst
    obtain ⟨hhires', hseen'⟩ := ih (hr.trans hhires.changes) hrest hothers
    refine ⟨hhires.trans hhires', fun i hi => ?_⟩
    rw [List.flatten_cons, List.mem_append] at hi
    rcases hi with hi | hi
    · exact (hseen i hi).mono hhires'.grown
    · exact hseen' i hi

theorem interactions_hires (hr : t.casting.Drawn r)
    (hentries : ∀ e ∈ entries, t.casting.program.Declares e) {layout : Layout}
    {target : Option String} (h : t.interactions layout target entries r = (.ok is, last)) :
    t.casting.Hires r last ∧ ∀ i ∈ is, i.Seen last := by
  cases layout with
  | merged =>
    obtain ⟨s, mid, hs, h⟩ := Casting.bind_eq_ok h
    cases h
    obtain ⟨i, mid, hi, h⟩ := Casting.bind_eq_ok hs
    obtain ⟨_, _, hget, h⟩ := Casting.bind_eq_ok h
    cases hget
    cases h
    obtain ⟨hhires, hseen⟩ := interaction_hires hr hentries hi
    exact ⟨hhires, by simpa using hseen.relabel _⟩
  | chains =>
    obtain ⟨chains, mid, hchains, h⟩ := Casting.bind_eq_ok h
    cases h
    exact mapM_chainsFrom_hires hr hentries hchains

end Tracer

namespace Program

variable {p : Program} {d : Decl} {entries : List Decl} {name : String} {s : DiagramSettings}
  {root : Option Path}

theorem declares_of_mem {units : List TranslationUnit} (hp : ofUnits units = p)
    (hd : d ∈ p.decls) : p.Declares d := by
  obtain ⟨e, he⟩ : ∃ e, p.get? d.id = some e :=
    Option.isSome_iff_exists.1 (List.find?_isSome.2 ⟨d, hd, by simp⟩)
  obtain ⟨hmem, hid⟩ := mem_of_get? he
  rwa [List.inj_on_of_nodup_map (hp ▸ nodup_ofUnits units) hmem hd hid] at he

def tracerFor (p : Program) (s : DiagramSettings) (filter : Filter) : Tracer where
  casting := { program := p, filter, mergeFiles := s.mergeFiles }
  options := s.traceOptions

def rosterOf (p : Program) (s : DiagramSettings) (root : Option Path) : Roster :=
  (Filter.ofRules s.included s.excluded root).toOption.elim {} fun filter =>
    (p.startsOf s).toOption.elim {} fun entries =>
      ((p.tracerFor s filter).interactions s.effectiveLayout s.target entries {}).2

theorem draw_eq_ok {drawing : Drawing} (h : p.draw name s root = .ok drawing) :
    ∃ filter entries is, p.startsOf s = .ok entries ∧
      (p.tracerFor s filter).interactions s.effectiveLayout s.target entries {} =
        (.ok is, p.rosterOf s root) ∧
      drawing.diagram = .assemble name (p.rosterOf s root) is := by
  have hplain : p.drawPlain name s root = .ok drawing := by
    rw [draw] at h
    split at h
    · cases h
      assumption
    · cases h
  obtain ⟨filter, hfilter, h⟩ := ok_of_bind hplain
  obtain ⟨entries, hentries, h⟩ := ok_of_bind h
  have hroster : p.rosterOf s root =
      ((p.tracerFor s filter).interactions s.effectiveLayout s.target entries {}).2 := by
    simp only [rosterOf, hfilter, hentries, Except.toOption, Option.elim_some]
  rcases hrun : (p.tracerFor s filter).interactions s.effectiveLayout s.target
    entries {} with ⟨f | is, last⟩
  · simp only [tracerFor] at hrun
    simp only [hrun] at h
    cases h
  · rw [hrun] at hroster
    simp only [tracerFor] at hrun
    simp only [hrun] at h
    cases h
    exact ⟨filter, entries, is, hentries, by rw [hroster]; exact hrun, by rw [hroster]⟩

/-- The lifelines of a diagram are listed in the order in which they are first brought along by
those that are mentioned. This is the order in which they appear if, and only if, whenever one
appears, no other one is ahead of it. -/
theorem lifelines_as_brought {units : List TranslationUnit} (hp : ofUnits units = p)
    {drawing : Drawing} (h : p.draw name s root = .ok drawing)
    (hsize : (p.rosterOf s root).size < UInt64.size) :
    (∃ trail, IsTrail drawing.diagram.participants trail) ∧
    ∀ trail, IsTrail drawing.diagram.participants trail →
      drawing.diagram.lifelines.map (·.id) =
        distinctBy id ((drawing.diagram.mentions.flatMap trail).filter
          fun id => drawing.diagram.used.contains id) ∧
      (drawing.diagram.lifelines.map (·.id) = distinctBy id drawing.diagram.used ↔
        drawing.diagram.InTime trail) := by
  obtain ⟨filter, entries, is, hentries, hrun, hdiagram⟩ := draw_eq_ok h
  have hdeclared : ∀ e ∈ entries, p.Declares e :=
    fun e he => declares_of_mem hp (startsOf_subset hentries he)
  obtain ⟨hhires, hseen⟩ :=
    Tracer.interactions_hires (t := p.tracerFor s filter) .refl hdeclared hrun
  have hr : (p.rosterOf s root).Coherent := Casting.Drawn.coherent hhires.changes hsize
  have hmentions : ∀ i ∈ is, ∀ id ∈ i.mentions, (p.rosterOf s root).uses id = true :=
    fun i hi id hid => (Roster.isVisible_iff.1 (hseen i hi id hid)).2
  rw [hdiagram]
  refine ⟨Roster.exists_isTrail hr (Diagram.assemble_collects name is hr).listed.registered,
    fun trail htrail => ?_⟩
  have hlifelines := Diagram.map_lifelines hr hmentions htrail
  refine ⟨hlifelines, ?_⟩
  rw [hlifelines]
  exact Diagram.inTime_iff fun m => Diagram.trail_eq_cons hr hmentions htrail

end Program

namespace Sample

def stepping (calls : List Expr) : Program :=
  ⟨[function 1 "run" none (.block (calls.map .expr)), function 2 "step" none (.block []),
    function 3 "log" none (.block [])]⟩

def fromRun : DiagramSettings :=
  { startFrom := [.function "run"] }

def shortTrail (d : Diagram) (id : ParticipantId) : List ParticipantId :=
  (d.participant? id).elim [] fun p => p.id :: p.instantiatedFrom.toList

def orderly : Program :=
  stepping [call 2 ["int"], call 2 [], call 3 []]

def disorderly : Program :=
  stepping [call 2 ["int"], call 3 [], call 2 []]

end Sample

namespace Program

theorem lifelines_as_brought_sample :
    ofUnits [⟨⟨"a.cc"⟩, Sample.orderly.decls⟩] = Sample.orderly ∧
    (Sample.orderly.rosterOf Sample.fromRun none).size = 4 ∧
    ∃ drawing, Sample.orderly.draw "steps" Sample.fromRun none = .ok drawing ∧
      drawing.diagram.lifelines.map (·.fullName) = ["run()", "step<int>()", "step()", "log()"] ∧
      drawing.diagram.lifelines.map (·.id) = distinctBy id drawing.diagram.used := by
  have hunits : ofUnits [⟨⟨"a.cc"⟩, Sample.orderly.decls⟩] = Sample.orderly := rfl
  -- Both at once, so that each name is hashed once.
  have hdrawn : (Sample.orderly.rosterOf Sample.fromRun none).size = 4 ∧
      (Sample.orderly.draw "steps" Sample.fromRun none).toOption.any (fun d =>
        decide (IsTrail d.diagram.participants (Sample.shortTrail d.diagram) ∧
          d.diagram.InTime (Sample.shortTrail d.diagram) ∧
          d.diagram.lifelines.map (·.fullName) = ["run()", "step<int>()", "step()", "log()"])) =
          true := by
    decide +kernel
  obtain ⟨hsize, hdrawn⟩ := hdrawn
  refine ⟨hunits, hsize, ?_⟩
  cases h : Sample.orderly.draw "steps" Sample.fromRun none with
  | error f =>
    rw [h] at hdrawn
    cases hdrawn
  | ok drawing =>
    rw [h] at hdrawn
    obtain ⟨htrail, hin, hnames⟩ := of_decide_eq_true hdrawn
    exact ⟨drawing, rfl, hnames,
      (((lifelines_as_brought hunits h (by rw [hsize]; decide)).2 _ htrail).2).2 hin⟩

/-- A template that is called later is listed with its instance, before what is called in
between. -/
theorem template_overtakes :
    (Sample.disorderly.draw "steps" Sample.fromRun none).toOption.map (fun drawing =>
        (drawing.diagram.lifelines.map (·.fullName),
          ((distinctBy id drawing.diagram.used).filterMap drawing.diagram.participant?).map
            (·.fullName))) =
      some (["run()", "step<int>()", "step()", "log()"],
          ["run()", "step<int>()", "log()", "step()"]) := by
  decide +kernel

end Program

end Lifeline
