import Lifeline.Proofs.Callers
import Lifeline.Proofs.Merging
import Lifeline.Proofs.Worklist

namespace Lifeline

theorem exists_filterM_ok {test : α → Except ε Bool} {l : List α}
    (h : ∀ a ∈ l, ∃ keep, test a = .ok keep) : ∃ kept, l.filterM test = .ok kept := by
  have haux : ∀ acc, ∃ kept, l.filterAuxM test acc = .ok kept := by
    induction l with
    | nil => exact fun acc => ⟨acc, rfl⟩
    | cons a rest ih =>
      intro acc
      obtain ⟨⟨keep, ha⟩, hrest⟩ := List.forall_mem_cons.mp h
      obtain ⟨kept, hkept⟩ := ih hrest (bif keep then a :: acc else acc)
      exact ⟨kept, by simpa [List.filterAuxM, ha, bind, Except.bind] using hkept⟩
  obtain ⟨kept, hkept⟩ := haux []
  exact ⟨kept.reverse, by simp [List.filterM, hkept, bind, Except.bind, pure, Except.pure]⟩

namespace Program

variable {p : Program} {selector : String} {d : Decl} {entries : List Decl}

theorem rootsOrAll_sublist (isRoot : Decl → Bool) (candidates : List Decl) :
    (rootsOrAll isRoot candidates).Sublist candidates := by
  simp only [rootsOrAll]
  split
  · exact .refl _
  · exact List.filter_sublist

/-- Every function has a name. -/
def Nameable (p : Program) : Prop :=
  ∀ d ∈ p.decls, ∀ f, d.function? = some f →
    ∃ names, Naming.callableNames p d f d.templateArgs = .ok names

theorem Nameable.named (h : p.Nameable) (selector : String) :
    ∃ targets, p.named selector = .ok targets ∧
      ∀ id, id ∈ targets.map (·.id) ↔ p.Names selector id := by
  have htests : ∀ d ∈ p.decls, ∃ keep, p.isNamed selector d = .ok keep := by
    intro d hd
    cases hf : d.function? with
    | none => exact ⟨false, by simp [isNamed, hf]⟩
    | some f =>
      obtain ⟨names, hnames⟩ := h d hd f hf
      refine ⟨Naming.selects selector names.qualifiedName names.fullName, ?_⟩
      simp only [isNamed, hf, hnames, bind, Except.bind, pure, Except.pure]
  obtain ⟨targets, htargets⟩ := exists_filterM_ok htests
  refine ⟨targets, htargets, ?_⟩
  intro id
  simp [Names, mem_filterM_ok htargets, and_comm, and_left_comm]

def candidates (p : Program) (targets found : List DeclId) : List Decl :=
  p.decls.filter fun d => found.contains d.id && !targets.contains d.id && p.canStart d

def pickCallers (p : Program) (selector : String) (g : CallGraph) (targets found : List DeclId) :
    Except Fault (List Decl) :=
  if targets.isEmpty then .error (.missingEntry (.noMatch selector))
  else if (p.candidates targets found).isEmpty then .error (.missingEntry (.noCallers selector))
  else .ok (rootsOrAll (fun d => !g.isCalled d.id) (p.candidates targets found))

variable {g g' : CallGraph} {targets targets' found found' : List DeclId}

theorem callersReaching_eq_pick {named : List Decl} (h : p.named selector = .ok named) :
    p.callersReaching selector = p.pickCallers selector p.callGraph (named.map (·.id))
      (p.callGraph.reaching (named.map (·.id))) := by
  simp only [callersReaching, h, bind, Except.bind, pickCallers, candidates, pure,
    Except.pure, throw, throwThe, MonadExceptOf.throw]
  rfl

/-- The order in which targets, callers and calls are listed makes no difference, nor do
repetitions. -/
theorem pickCallers_congr (hg : ∀ a b, g.Calls a b ↔ g'.Calls a b)
    (htargets : ∀ id, id ∈ targets ↔ id ∈ targets') (hfound : ∀ id, id ∈ found ↔ id ∈ found') :
    p.pickCallers selector g targets found = p.pickCallers selector g' targets' found' := by
  have hempty : targets.isEmpty = targets'.isEmpty := by
    rw [Bool.eq_iff_iff]
    simp only [List.isEmpty_iff, List.eq_nil_iff_forall_not_mem, htargets]
  have hroots : (fun d : Decl => !g.isCalled d.id) = fun d => !g'.isCalled d.id := by
    funext d
    congr 1
    rw [Bool.eq_iff_iff]
    simp only [CallGraph.isCalled_iff, hg]
  have hcandidates : p.candidates targets found = p.candidates targets' found' := by
    apply List.filter_congr
    intro d _
    rw [Bool.eq_iff_iff]
    simp only [Bool.and_eq_true, Bool.not_eq_true', ← Bool.not_eq_true,
      List.contains_iff_mem, hfound, htargets]
  rw [pickCallers, pickCallers, hempty, hcandidates, hroots]

theorem mem_candidates (htargets : ∀ id, id ∈ targets ↔ p.Names selector id)
    (hfound : ∀ id, id ∈ found ↔ ∃ t ∈ targets, p.callGraph.Reaches id t) :
    d ∈ p.candidates targets found ↔ p.IsCaller selector d := by
  simp only [candidates, List.mem_filter, Bool.and_eq_true, List.contains_iff_mem, hfound,
    htargets, Bool.not_eq_true', ← Bool.not_eq_true]
  exact ⟨fun h => ⟨h.1, h.2.2, h.2.1.2, h.2.1.1⟩, fun h => ⟨h.1, ⟨h.4, h.3⟩, h.2⟩⟩

theorem pickCallers_noMatch (htargets : ∀ id, id ∈ targets ↔ p.Names selector id)
    (hnone : ∀ id, ¬ p.Names selector id) :
    p.pickCallers selector g targets found = .error (.missingEntry (.noMatch selector)) := by
  have hempty : targets = [] := List.eq_nil_iff_forall_not_mem.mpr fun id =>
    mt (htargets id).mp (hnone id)
  rw [pickCallers, if_pos (List.isEmpty_iff.mpr hempty)]

theorem pickCallers_noCallers (htargets : ∀ id, id ∈ targets ↔ p.Names selector id)
    (hfound : ∀ id, id ∈ found ↔ ∃ t ∈ targets, p.callGraph.Reaches id t)
    (hsome : ∃ id, p.Names selector id) (hnone : ∀ d, ¬ p.IsCaller selector d) :
    p.pickCallers selector g targets found = .error (.missingEntry (.noCallers selector)) := by
  obtain ⟨id, hid⟩ := hsome
  have htarget : targets ≠ [] := List.ne_nil_of_mem ((htargets id).mpr hid)
  have hempty : p.candidates targets found = [] :=
    List.eq_nil_iff_forall_not_mem.mpr fun d => mt (mem_candidates htargets hfound).mp (hnone d)
  rw [pickCallers, if_neg (mt List.isEmpty_iff.mp htarget), if_pos (List.isEmpty_iff.mpr hempty)]

theorem pickCallers_ok (htargets : ∀ id, id ∈ targets ↔ p.Names selector id)
    (hfound : ∀ id, id ∈ found ↔ ∃ t ∈ targets, p.callGraph.Reaches id t)
    (hsome : ∃ d, p.IsCaller selector d) :
    p.pickCallers selector g targets found =
      .ok (rootsOrAll (fun d => !g.isCalled d.id) (p.candidates targets found)) := by
  obtain ⟨d, hd⟩ := hsome
  obtain ⟨t, ht, -⟩ := hd.reaches
  have htarget : targets ≠ [] := List.ne_nil_of_mem ((htargets t).mpr ht)
  have hcandidate : p.candidates targets found ≠ [] :=
    List.ne_nil_of_mem ((mem_candidates htargets hfound).mpr hd)
  rw [pickCallers, if_neg (mt List.isEmpty_iff.mp htarget),
    if_neg (mt List.isEmpty_iff.mp hcandidate)]

theorem Nameable.pickCallers_eq (h : p.Nameable) (hg : ∀ a b, g.Calls a b ↔ p.callGraph.Calls a b)
    (htargets : ∀ id, id ∈ targets ↔ p.Names selector id)
    (hfound : CallGraph.Search.Finds g targets found) :
    p.pickCallers selector g targets found = p.callersReaching selector := by
  obtain ⟨named, hnamed, hids⟩ := h.named selector
  have hcalls : g.Calls = p.callGraph.Calls := by
    funext a b
    exact propext (hg a b)
  rw [callersReaching_eq_pick hnamed]
  apply pickCallers_congr hg
  · intro id
    rw [htargets, hids]
  · intro id
    simp only [hfound.mem_iff, CallGraph.mem_reaching, CallGraph.Reaches, hcalls, htargets, hids]

/-- In the order of the program and each once, the callers that nothing calls, or all of them if
each is called. -/
structure Outermost (p : Program) (selector : String) (entries : List Decl) : Prop where
  order : entries.Sublist p.decls
  distinct : (entries.map (·.id)).Nodup
  mem : ∀ d, d ∈ entries ↔ p.IsCaller selector d ∧
    ((∀ a, ¬ p.callGraph.Calls a d.id) ∨ ∀ c, p.IsCaller selector c → ∃ a, p.callGraph.Calls a c.id)

theorem outermost_of_ok {units : List TranslationUnit} (hp : ofUnits units = p)
    (h : p.callersReaching selector = .ok entries) (horder : entries.Sublist p.decls) :
    p.Outermost selector entries where
  order := horder
  distinct := (hp ▸ nodup_ofUnits units).sublist (horder.map _)
  mem d := by
    simp only [mem_callersReaching h, ← Bool.not_eq_true, CallGraph.isCalled_iff, not_exists]

/-- The search for callers fails if there is no target or no caller, and gives the outermost callers
otherwise. It comes to an end also where calls run in circles, and neither the order in which it
goes through targets and callers nor the way in which calls are listed makes a difference. -/
theorem callers_outermost {units : List TranslationUnit} (hp : ofUnits units = p)
    (hnames : p.Nameable) (selector : String) :
    ((∀ id, ¬ p.Names selector id) →
      p.callersReaching selector = .error (.missingEntry (.noMatch selector))) ∧
    ((∃ id, p.Names selector id) → (∀ d, ¬ p.IsCaller selector d) →
      p.callersReaching selector = .error (.missingEntry (.noCallers selector))) ∧
    ((∃ d, p.IsCaller selector d) → ∃ entries, p.callersReaching selector = .ok entries ∧
      p.Outermost selector entries) ∧
    ∀ g : CallGraph, (∀ a b, g.Calls a b ↔ p.callGraph.Calls a b) →
      WellFounded (fun s' s => CallGraph.Search.Step g s s') ∧
      ∀ targets, (∀ id, id ∈ targets ↔ p.Names selector id) →
        (∃ found, CallGraph.Search.Finds g targets found) ∧
        ∀ found, CallGraph.Search.Finds g targets found →
          p.pickCallers selector g targets found = p.callersReaching selector := by
  obtain ⟨named, hnamed, hids⟩ := hnames.named selector
  have hpick := callersReaching_eq_pick hnamed
  refine ⟨?_, ?_, ?_, ?_⟩
  · intro hnone
    exact hpick.trans (pickCallers_noMatch hids hnone)
  · intro hsome hnone
    exact hpick.trans (pickCallers_noCallers hids (fun _ => CallGraph.mem_reaching) hsome hnone)
  · intro hsome
    have hok := hpick.trans (pickCallers_ok hids (fun _ => CallGraph.mem_reaching) hsome)
    exact ⟨_, hok, outermost_of_ok hp hok ((rootsOrAll_sublist _ _).trans List.filter_sublist)⟩
  · intro g hg
    refine ⟨CallGraph.Search.step_wellFounded g, ?_⟩
    intro targets htargets
    refine ⟨CallGraph.Search.exists_finds g targets, ?_⟩
    intro found hfound
    exact hnames.pickCallers_eq hg htargets hfound

end Program

namespace Sample

theorem ways_nameable : ways.Nameable := by
  intro d hd f hf
  simp only [ways, List.mem_cons, List.not_mem_nil, or_false] at hd
  rcases hd with rfl | rfl | rfl | rfl <;> cases hf <;> exact ⟨_, rfl⟩

end Sample

theorem Program.callers_outermost_sample :
    ofUnits [⟨⟨"a.cc"⟩, [Sample.inner, Sample.outer, Sample.middle, Sample.looping]⟩] =
      Sample.ways ∧
    Sample.ways.Nameable ∧ Sample.ways.IsCaller "inner" Sample.looping ∧
    ∃ entries, Sample.ways.callersReaching "inner" = .ok entries ∧
        Sample.ways.Outermost "inner" entries := by
  have hunits : ofUnits [⟨⟨"a.cc"⟩, [Sample.inner, Sample.outer, Sample.middle, Sample.looping]⟩] =
    Sample.ways := rfl
  refine ⟨hunits, Sample.ways_nameable, Sample.isCaller_looping, ?_⟩
  exact (callers_outermost hunits Sample.ways_nameable "inner").2.2.1 ⟨_, Sample.isCaller_looping⟩

namespace Program

variable {p : Program} {file : Path} {d : Decl} {entries : List Decl}

structure IsDefined (p : Program) (file : Path) (d : Decl) : Prop where
  declared : d ∈ p.decls
  canStart : p.canStart d = true
  located : isIn file d = true

def IsCalled (p : Program) (d : Decl) : Prop :=
  ∃ e ∈ p.decls, d.id ∈ e.callees

def CalledElsewhere (p : Program) (d : Decl) : Prop :=
  ∃ e ∈ p.decls, e.id ≠ d.id ∧ d.id ∈ e.callees

instance (p : Program) (d : Decl) : Decidable (p.CalledElsewhere d) :=
  inferInstanceAs (Decidable (∃ e ∈ p.decls, e.id ≠ d.id ∧ d.id ∈ e.callees))

/-- In the order of the program, the functions of the file for which `called` does not hold, or all
if there are none. -/
def Picks (p : Program) (file : Path) (called : Decl → Prop) (entries : List Decl) : Prop :=
  entries.Sublist p.decls ∧ ∀ d, d ∈ entries ↔
    p.IsDefined file d ∧ (¬ called d ∨ ∀ c, p.IsDefined file c → called c)

def OnlyCallsItself (p : Program) (d : Decl) : Prop :=
  d.id ∈ d.callees ∧ ¬ p.CalledElsewhere d

theorem isCalled_iff {units : List TranslationUnit} (hp : ofUnits units = p) (hd : d ∈ p.decls) :
    p.IsCalled d ↔ d.id ∈ d.callees ∨ p.CalledElsewhere d := by
  constructor
  · intro h
    obtain ⟨e, he, hcallee⟩ := h
    by_cases hid : e.id = d.id
    · have hed : e = d := List.inj_on_of_nodup_map (hp ▸ nodup_ofUnits units) he hd hid
      exact .inl (hed ▸ hcallee)
    · exact .inr ⟨e, he, hid, hcallee⟩
  · intro h
    rcases h with hself | ⟨e, he, -, hcallee⟩
    · exact ⟨d, hd, hself⟩
    · exact ⟨e, he, hcallee⟩

theorem mem_defined :
    d ∈ p.decls.filter (fun d => p.canStart d && isIn file d) ↔ p.IsDefined file d := by
  simp only [List.mem_filter, Bool.and_eq_true]
  exact ⟨fun h => ⟨h.1, h.2.1, h.2.2⟩, fun h => ⟨h.1, h.2, h.3⟩⟩

theorem rootsIn_eq_error (hnone : ∀ d, ¬ p.IsDefined file d) :
    p.rootsIn file = .error (.missingEntry (.emptyFile file)) := by
  have hempty := List.eq_nil_iff_forall_not_mem.mpr fun d => mt mem_defined.mp (hnone d)
  simp only [rootsIn, hempty]
  rfl

theorem rootsIn_eq_ok (hsome : ∃ d, p.IsDefined file d) :
    ∃ entries, p.rootsIn file = .ok entries ∧ p.Picks file p.IsCalled entries := by
  obtain ⟨d, hd⟩ := hsome
  have hdefined := List.ne_nil_of_mem (mem_defined.mpr hd)
  refine ⟨rootsOrAll (fun d => !p.called.contains d.id)
    (p.decls.filter fun d => p.canStart d && isIn file d), ?_,
    (rootsOrAll_sublist _ _).trans List.filter_sublist, ?_⟩
  · rw [rootsIn, if_neg (mt List.isEmpty_iff.mp hdefined)]
    rfl
  · intro d
    have hcalled : ∀ c : Decl, p.called.contains c.id = true ↔ p.IsCalled c := by
      simp [called, IsCalled]
    simp only [mem_rootsOrAll, mem_defined, Bool.not_eq_true', Bool.not_eq_false',
      ← hcalled, Bool.not_eq_true]

theorem entryPoints_file_eq {units : List TranslationUnit} (hp : ofUnits units = p)
    (horder : entries.Sublist p.decls) (h : p.rootsIn file = .ok entries) :
    p.entryPoints [.file file] = .ok entries := by
  have hdistinct : entries.Pairwise fun a b => a.id ≠ b.id :=
    List.pairwise_map.mp ((hp ▸ nodup_ofUnits units).sublist (horder.map _))
  have hselected : [EntrySpec.file file].mapM p.selected = .ok [entries] := by
    simp [selected, h, bind, Except.bind, pure, Except.pure]
  simp only [entryPoints, hselected, bind, Except.bind, pure, Except.pure,
    List.flatten_cons, List.flatten_nil, List.append_nil, distinctBy_eq_self hdistinct]

theorem picks_elsewhere_iff {units : List TranslationUnit} (hp : ofUnits units = p)
    (h : p.Picks file p.IsCalled entries) :
    p.Picks file p.CalledElsewhere entries ↔
      (∀ d, p.IsDefined file d → ¬ p.OnlyCallsItself d) ∨
      ∀ d, p.IsDefined file d → p.OnlyCallsItself d := by
  have hcalled :
      ∀ d, p.IsDefined file d → (p.IsCalled d ↔ d.id ∈ d.callees ∨ p.CalledElsewhere d) :=
    fun d hd => isCalled_iff hp hd.declared
  constructor
  · intro helsewhere
    by_contra hmixed
    simp only [not_or, not_forall, not_not] at hmixed
    obtain ⟨⟨a, ha, haself, haelse⟩, b, hb, hbself⟩ := hmixed
    -- Only itself calls `a`, so it is picked, which means that all are called and picked. Then
    -- nothing else calls `b`.
    have hall : ∀ c, p.IsDefined file c → p.IsCalled c := by
      obtain ⟨-, hun | hall⟩ := (h.2 a).mp ((helsewhere.2 a).mpr ⟨ha, .inl haelse⟩)
      · exact absurd ((hcalled a ha).mpr (.inl haself)) hun
      · exact hall
    obtain ⟨-, hbelse | hallelse⟩ := (helsewhere.2 b).mp ((h.2 b).mpr ⟨hb, .inr hall⟩)
    · exact hbself ⟨((hcalled b hb).mp (hall b hb)).resolve_right hbelse, hbelse⟩
    · exact haelse (hallelse a ha)
  · intro hpure
    refine ⟨h.1, ?_⟩
    intro d
    rw [h.2]
    apply and_congr_right
    intro hd
    rcases hpure with hnone | hself
    · have hiff : ∀ c, p.IsDefined file c → (p.IsCalled c ↔ p.CalledElsewhere c) := by
        intro c hc
        rw [hcalled c hc]
        have := hnone c hc
        simp only [OnlyCallsItself] at this
        tauto
      rw [hiff d hd]
      exact or_congr_right (forall_congr' fun c => imp_congr_right fun hc => hiff c hc)
    · have hall : ∀ c, p.IsDefined file c → p.IsCalled c :=
        fun c hc => (hcalled c hc).mpr (.inl (hself c hc).1)
      exact ⟨fun _ => .inl (hself d hd).2, fun _ => .inr hall⟩

/-- For a file the entry points are the functions of the file that no body calls, or all if each of
them is called. That is to say those that no other body calls, unless some of the functions are
called by themselves only and others are not. -/
theorem file_entries_uncalled {units : List TranslationUnit} (hp : ofUnits units = p)
    (file : Path) :
    ((∀ d, ¬ p.IsDefined file d) →
      p.entryPoints [.file file] = .error (.missingEntry (.emptyFile file))) ∧
    ((∃ d, p.IsDefined file d) → ∃ entries, p.entryPoints [.file file] = .ok entries ∧
      p.Picks file p.IsCalled entries ∧
      (p.Picks file p.CalledElsewhere entries ↔
        (∀ d, p.IsDefined file d → ¬ p.OnlyCallsItself d) ∨
        ∀ d, p.IsDefined file d → p.OnlyCallsItself d)) := by
  constructor
  · intro hnone
    simp [entryPoints, selected, rootsIn_eq_error hnone, bind, Except.bind]
  · intro hsome
    obtain ⟨entries, hentries, hpicks⟩ := rootsIn_eq_ok hsome
    exact ⟨entries, entryPoints_file_eq hp hpicks.1 hentries, hpicks, picks_elsewhere_iff hp hpicks⟩

end Program

namespace Sample

def located (d : Decl) : Decl :=
  { d with location := some ⟨⟨"a.cc"⟩, 1, 1⟩ }

def file : Program :=
  ⟨[located middle, located inner, located looping]⟩

theorem ofUnits_file :
    Program.ofUnits [⟨⟨"a.cc"⟩, [located middle, located inner, located looping]⟩] = file := rfl

theorem isIn_located (d : Decl) : Program.isIn ⟨"a.cc"⟩ (located d) = true := by
  simp [located, Program.isIn, Path.endsWith]

theorem isDefined_looping : file.IsDefined ⟨"a.cc"⟩ (located looping) where
  declared := by simp [file]
  canStart := by decide +kernel
  located := isIn_located looping

end Sample

theorem Program.file_entries_uncalled_sample :
    ofUnits [⟨⟨"a.cc"⟩, [Sample.located Sample.middle, Sample.located Sample.inner,
      Sample.located Sample.looping]⟩] = Sample.file ∧
    Sample.file.IsDefined ⟨"a.cc"⟩ (Sample.located Sample.looping) ∧
    ∃ entries, Sample.file.entryPoints [.file ⟨"a.cc"⟩] = .ok entries ∧
      Sample.file.Picks ⟨"a.cc"⟩ Sample.file.IsCalled entries := by
  obtain ⟨entries, hentries, hpicks, -⟩ :=
    (file_entries_uncalled Sample.ofUnits_file ⟨"a.cc"⟩).2 ⟨_, Sample.isDefined_looping⟩
  exact ⟨Sample.ofUnits_file, Sample.isDefined_looping, entries, hentries, hpicks⟩

/-- Of two functions that no other body calls, the one that calls itself is no entry point. -/
theorem Program.self_call_hides_root :
    Sample.file.entryPoints [.file ⟨"a.cc"⟩] = .ok [Sample.located Sample.middle] ∧
    Sample.file.IsDefined ⟨"a.cc"⟩ (Sample.located Sample.looping) ∧
    ¬ Sample.file.CalledElsewhere (Sample.located Sample.middle) ∧
    ¬ Sample.file.CalledElsewhere (Sample.located Sample.looping) ∧
    ¬ Sample.file.Picks ⟨"a.cc"⟩ Sample.file.CalledElsewhere [Sample.located Sample.middle] := by
  have hdefined : Sample.file.decls.filter (fun d => Sample.file.canStart d && isIn ⟨"a.cc"⟩ d) =
      Sample.file.decls := by
    simp only [Sample.file, List.filter_cons, Sample.isIn_located]
    rfl
  have hroots : Sample.file.rootsIn ⟨"a.cc"⟩ = .ok [Sample.located Sample.middle] := by
    simp only [rootsIn, hdefined]
    rfl
  have hlooping : ¬ Sample.file.CalledElsewhere (Sample.located Sample.looping) := by decide +kernel
  refine ⟨?_, Sample.isDefined_looping, by decide +kernel, hlooping, ?_⟩
  · simp only [entryPoints, List.mapM_cons, List.mapM_nil, selected, hroots]
    rfl
  · intro hpicks
    have hmem :=
      (hpicks.2 (Sample.located Sample.looping)).mpr ⟨Sample.isDefined_looping, .inl hlooping⟩
    have hid := congrArg Decl.id (List.mem_singleton.mp hmem)
    revert hid
    decide +kernel

end Lifeline
