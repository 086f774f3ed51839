import Lifeline.Proofs.Bodies
import Lifeline.Proofs.Exclusion
import Lifeline.Proofs.Nesting

namespace Lifeline

namespace Casting

variable {c : Casting} {d : Decl} {args : List String} {r : Roster} {id : ParticipantId}
variable {I : Decl → List String → Cast ParticipantId}

abbrev Buries (v : Cast ParticipantId) (r : Roster) : Prop :=
  Agree v v r fun result _ => result = .ok .tombstone

theorem draw_of_rejects (h : c.Rejects d args) : Buries (c.draw I d args) r := by
  obtain ⟨names, hnames, hfilter⟩ := h
  unfold draw
  refine .lift_bind ?_ ?_
  · intro names' hnames'
    cases hnames.symm.trans hnames'
    exact .ite (fun _ => .pure rfl) fun hadmitted => absurd hfilter (by simpa using hadmitted)
  · intro f hf
    cases hnames.symm.trans hf

theorem draw_of_owner {names : Naming.CallableNames} {o : DeclId} {e : Decl}
    (hnames : c.names d args = .ok names) (ho : names.owner = some o)
    (he : c.program.get? o = some e) (hI : Buries (I e []) r) :
    Buries (c.draw I d args) r := by
  have howner : Agree (c.owner? I d names) (c.owner? I d names) r fun result _ => result =
      .ok (some .tombstone) := by
    unfold owner?
    rw [ho]
    refine .lift_bind ?_ ?_
    · intro e' he'
      cases he.symm.trans (Program.decl_eq_ok_iff.1 he')
      refine hI.bind ?_ ?_
      · rintro id r' ⟨rfl⟩
        exact .pure rfl
      · rintro f r' ⟨⟩
    · intro f hf
      cases (Program.decl_eq_ok_iff.2 he).symm.trans hf
  unfold draw
  refine .lift_bind ?_ ?_
  · intro names' hnames'
    cases hnames.symm.trans hnames'
    refine .ite (fun _ => .pure rfl) fun _ => howner.bind ?_ ?_
    · rintro owner r' ⟨rfl⟩
      exact .ite (fun _ => .pure rfl) fun hseen => absurd rfl hseen
    · rintro f r' ⟨⟩
  · intro f hf
    cases hnames.symm.trans hf

theorem internAt_of_draw {room : Nat} (hd : c.program.Declares d) (hr : c.Drawn r)
    (h : c.Excludes d args) (hdraw : Buries (c.draw (c.internAt room) d args) r) :
    Buries (c.internAt (room + 1) d args) r := by
  refine .get_bind ?_
  cases hknown : r.remembered? d.id args with
  | some id =>
    -- Nothing but the tombstone can have been noted.
    obtain ⟨_, hget, hjust⟩ := hr.informed _ _ _ (Roster.notes_of_remembered? hknown)
    cases hget.symm.trans hd
    rw [h.eq_tombstone hr.informed hjust]
    exact .pure rfl
  | none =>
    dsimp only
    rw [internNew_eq_draw]
    refine hdraw.bind ?_ ?_
    · intro id r' hid
      exact ⟨rfl, hid⟩
    · rintro f r' ⟨⟩

theorem Excludes.internDecl (hd : c.program.Declares d) (hr : c.Drawn r) (h : c.Excludes d args) :
    Buries (c.internDecl d args) r := by
  refine internAt_of_draw hd hr h ?_
  cases h with
  | self hrejects => exact draw_of_rejects hrejects
  | owner hnames ho he hrejects =>
    refine draw_of_owner hnames ho he ?_
    exact internAt_of_draw (Program.declares_of_get? he).1 hr (.self hrejects)
      (draw_of_rejects hrejects)

theorem excludes_of_internDecl (hd : c.program.Declares d)
    (hhidden : (c.internDecl d args {}).1 = .ok .tombstone)
    (hsize : (c.internDecl d args {}).2.size < UInt64.size) : c.Excludes d args := by
  have hdoes :
      c.Does (fun _ => True) _ _ {} (c.internDecl d args {}).1 (c.internDecl d args {}).2 :=
    (internAt_does .refl hd _).result
  have hnoted := hdoes.outcome
  rw [hhidden] at hnoted
  have hinformed := Drawn.informed hdoes.rel
  have hnumbered : (c.internDecl d args {}).2.Numbered :=
    (c.internDecl_grows .empty d args).result.grown.numbered hsize
      (by simp [Roster.Numbered, Roster.uses])
  obtain ⟨_, hget, hjust⟩ := hinformed _ _ _ hnoted
  cases hget.symm.trans hd
  exact excludes_of_justifies hinformed hnumbered hjust

/-- On an empty roster an entity becomes the tombstone, and not for want of ids. -/
structure Hides (c : Casting) (e : Entity) : Prop where
  hidden : (c.intern e {}).1 = .ok .tombstone
  size : (c.intern e {}).2.size < UInt64.size

structure Conceals (c : Casting) (d : Decl) : Prop where
  plain : c.Hides (.decl d)
  called : ∀ args ∈ c.program.callArgs, c.Hides (.instantiation d args)

/-- The same declarations, or such that differ in their bodies and are kept out. -/
def Alike (c : Casting) (d d' : Decl) : Prop :=
  d = d' ∨ d.bodiless = d'.bodiless ∧ c.Conceals d

def Varies (c : Casting) (p : Program) : Prop :=
  List.Forall₂ c.Alike c.program.decls p.decls

variable {p : Program} {d' : Decl}

theorem Alike.bodiless (h : c.Alike d d') : d.bodiless = d'.bodiless := by
  rcases h with rfl | ⟨hbodiless, -⟩
  · rfl
  · exact hbodiless

theorem Alike.id_eq (h : c.Alike d d') : d.id = d'.id :=
  show d.bodiless.id = d'.bodiless.id from congrArg Decl.id h.bodiless

theorem Varies.bodiless (h : c.Varies p) : c.program.bodiless = p.bodiless := by
  have hmap : c.program.decls.map Decl.bodiless = p.decls.map Decl.bodiless := by
    unfold Varies at h
    generalize c.program.decls = ds, p.decls = ds' at h ⊢
    induction h with
    | nil => rfl
    | cons halike _ ih => rw [List.map_cons, List.map_cons, halike.bodiless, ih]
  simp only [Program.bodiless, hmap]

theorem Varies.get? (h : c.Varies p) (id : DeclId) :
    c.program.get? id = none ∧ p.get? id = none ∨
      ∃ d d', c.program.get? id = some d ∧ p.get? id = some d' ∧ c.Alike d d' := by
  unfold Program.get?
  unfold Varies at h
  generalize c.program.decls = ds, p.decls = ds' at h ⊢
  induction h with
  | nil => exact .inl ⟨rfl, rfl⟩
  | @cons d d' _ _ halike _ ih =>
    rw [List.find?_cons, List.find?_cons, halike.id_eq]
    cases d'.id == id with
    | true => exact .inr ⟨d, d', rfl, rfl, halike⟩
    | false => exact ih

theorem Varies.internDecl (h : c.Varies p) (hd : c.program.Declares d) (hd' : p.Declares d')
    (halike : c.Alike d d') : c.internDecl d args = { c with program := p }.internDecl d' args :=
  internDecl_congr (bodiless_congr h.bodiless) hd hd' halike.bodiless

theorem Conceals.buries (h : c.Conceals d) (hd : c.program.Declares d) (hr : c.Drawn r)
    (hargs : args ∈ [] :: c.program.callArgs) :
    Buries (c.intern (if args.isEmpty then .decl d else .instantiation d args)) r := by
  by_cases hempty : args = []
  · subst hempty
    exact (excludes_of_internDecl hd h.plain.hidden h.plain.size).internDecl hd hr
  · have hcalled := h.called args ((List.mem_cons.1 hargs).resolve_left hempty)
    rw [if_neg (by simpa using hempty)]
    exact (excludes_of_internDecl hd hcalled.hidden hcalled.size).internDecl hd hr

theorem target_congr {c' : Casting} {e e' : Entity} {function function' : Option Function}
    (hsame : c.intern e r = c'.intern e' r)
    (hfunction : function = function' ∨ Buries (c.intern e) r) (certainty : Certainty)
    (captured : Option Bindings) :
    c.target certainty e function captured r = c'.target certainty e' function' captured r := by
  unfold target
  rw [Agree.run_bind, Agree.run_bind, ← hsame]
  rcases hfunction with rfl | hburied
  · rfl
  · have hresult := hburied.result
    rcases hrun : c.intern e r with ⟨result, r'⟩
    rw [hrun] at hresult
    cases hresult
    rfl

theorem call_congr (hp : c.program.bodiless = p.bodiless) {id : DeclId} (args : List String)
    (hid : ∀ d d', c.program.get? id = some d → p.get? id = some d' → d.function?.isSome = true →
      d = d' ∨ Buries (c.intern (if args.isEmpty then .decl d else .instantiation d args)) r)
    (certainty : Certainty) (captured : Option Bindings) :
    ((liftM (c.program.function id) : Cast (Decl × Function)) >>= fun df =>
      c.target certainty (if args.isEmpty then .decl df.1 else .instantiation df.1 args) (some df.2)
        captured) r =
    ((liftM (p.function id) : Cast (Decl × Function)) >>=
      fun df => { c with program := p }.target certainty
      (if args.isEmpty then .decl df.1 else .instantiation df.1 args) (some df.2) captured) r := by
  rcases Program.function_congr hp id with ⟨f, hf, hf'⟩ | ⟨d, f, d', f', hf, hf', hsame⟩
  · rw [hf, hf', Agree.run_lift_error, Agree.run_lift_error]
  · rw [hf, hf', Agree.run_lift_ok, Agree.run_lift_ok]
    obtain ⟨hd, rfl, hfun⟩ := function_eq_ok hf
    obtain ⟨hd', heq, hfun'⟩ := function_eq_ok hf'
    refine target_congr (congrFun (intern_congr (bodiless_congr hp) hd hd' hsame) r)
      ?_ certainty captured
    rcases hid d d' hd (heq ▸ hd') (by simp [hfun]) with rfl | hburied
    · exact .inl (hfun.symm.trans hfun')
    · exact .inr hburied

theorem twin_congr {P : Mention → Prop} (hp : c.program.bodiless = p.bodiless)
    (hP : ∀ id args d d', P (.function id args) → c.program.get? id = some d → p.get? id = some d' →
      d.function?.isSome = true →
        d = d' ∨ Buries (c.intern (if args.isEmpty then .decl d else .instantiation d args)) r) :
    c.Twin { c with program := p } P r where
  decl id args dispatch captured hid :=
    call_congr hp args (fun d d' => hP id args d d' hid) (certaintyOf dispatch) captured
  template _ id _ hid := call_congr hp [] (fun d d' => hP id [] d d' hid) .approximate none
  cls id _ := by
    unfold resolveConstruct Program.decl
    rcases Program.get?_congr hp id with ⟨hd, hd'⟩ | ⟨d, d', hd, hd', hsame⟩
    · simp only [hd, hd', Agree.run_lift_error]
    · simp only [hd, hd', Agree.run_lift_ok]
      have hintern : c.intern (.decl d) = { c with program := p }.intern (.decl d') :=
        internDecl_congr (bodiless_congr hp) (Program.declares_of_get? hd).1
          (Program.declares_of_get? hd').1 hsame
      exact target_congr (congrFun hintern r) (.inl rfl) .exact none
  state _ := rfl
  external _ := rfl

theorem Varies.twin (h : c.Varies p) (hr : c.Drawn r) :
    c.Twin { c with program := p } c.program.ArgsOccur r := by
  refine twin_congr h.bodiless ?_
  intro id args d d' hargs hd hd' _
  rcases h.get? id with ⟨hnone, -⟩ | ⟨e, e', he, he', halike⟩
  · cases hnone.symm.trans hd
  · cases he.symm.trans hd
    cases he'.symm.trans hd'
    rcases halike with rfl | ⟨-, hconceals⟩
    · exact .inl rfl
    · exact .inr (hconceals.buries (Program.declares_of_get? hd).1 hr hargs)

theorem Varies.declares (h : c.Varies p) (hd : c.program.Declares d)
    (hshown : (c.intern (.decl d) {}).1 ≠ .ok .tombstone) : p.Declares d := by
  rcases h.get? d.id with ⟨hnone, -⟩ | ⟨_, d', hget, hd', halike⟩
  · cases hnone.symm.trans hd
  · cases hget.symm.trans hd
    rcases halike with rfl | ⟨-, hconceals⟩
    · exact hd'
    · exact absurd hconceals.plain.hidden hshown

end Casting

open Casting

def Tracer.drawing (t : Tracer) : CallLaw t where
  inv _ r _ := t.casting.Drawn r
  rel _ r _ r' _ := t.casting.Drawn r → t.casting.Drawn r'
  mention := t.casting.program.ArgsOccur
  fault _ := True
  refl _ h := h
  trans h h' hr := h' (h hr)
  keeps h hrel := hrel h
  program := t.mentions_argsOccur
  faults := t.faults_argsOccur
  step := by
    rintro _ _ _ _ _ _ (rfl | ⟨e, he, -, rfl⟩) _ hr
    · exact hr
    · exact hr.trans (intern_drawn hr he).result.rel
  send _ _ _ _ _ h := h
  answer _ _ _ _ _ h := h
  call h _ _ _ _ := h
  ofCall _ _ _ _ _ h := h
  inline h _ _ := h
  ofInline _ _ _ h := h

namespace Tracer

variable {t : Tracer} {s : Trace} {entry : Decl}

theorem traceWith_enterAt (hentry : entry ∈ t.casting.program.decls) (hr : s.roster.Sound)
    {room : Nat} (hroom : t.casting.program.pathBound ≤ room) :
    t.traceWith (t.enterAt room) entry s = t.trace entry s := by
  have hbound : ∀ a s, t.nesting.toLaw.Pre a s → a.path.depth ≤ t.casting.program.pathBound :=
    fun a s h =>
      Place.Nested.depth_le (show a.place.Nested t.casting s.roster s.interaction from h.inv)
  have hok : ∀ a s, t.nesting.toLaw.Pre a s → (fun _ => true : Activation → Bool) a = true :=
    fun _ _ _ => rfl
  have hagree {E E' : Enter} (hE : t.nesting.toLaw.Enters E E' 1) :
      t.traceWith E entry s = t.traceWith E' entry s :=
    (Law.traceWith_agree hE hr (Law.admits_of_mem hentry) fun p r => nesting_start hentry).eq
  have hroomy := hagree (Law.enterWithin_enters hok (t.enterAt 0) room 1)
  rw [← hroomy, trace]
  exact hagree (Law.enterWithin_enters_of_bound hok hbound _ _ (by omega) (by omega))

/-- Bodies of functions that are kept out make no difference: tracing comes to the same result, the
same messages and the same roster. -/
theorem trace_eq_of_varies {p : Program} (h : t.casting.Varies p) (hr : t.casting.Enrolled s.roster)
    (hentry : t.casting.program.Declares entry)
    (hshown : (t.casting.intern (.decl entry) {}).1 ≠ .ok .tombstone) :
    (t.recast { t.casting with program := p }).trace entry s = t.trace entry s := by
  have hentry' := h.declares hentry hshown
  have hsound := hr.reached.sound
  -- The two programs have bounds of their own, so both are traced with room enough for either.
  obtain ⟨room, hroom, hroom'⟩ : ∃ room, t.casting.program.pathBound ≤ room ∧ p.pathBound ≤ room :=
    ⟨max t.casting.program.pathBound p.pathBound, Nat.le_max_left _ _, Nat.le_max_right _ _⟩
  rw [← traceWith_enterAt hentry.mem hsound hroom,
    ← traceWith_enterAt (t := t.recast { t.casting with program := p }) hentry'.mem hsound hroom']
  have htwin : t.drawing.toLaw.Twin { t.casting with program := p } :=
    fun a s hpre => h.twin hpre.inv
  have hsame :
      t.casting.intern (.decl entry) = { t.casting with program := p }.intern (.decl entry) :=
    h.internDecl hentry hentry' (.inl rfl)
  refine (Law.traceWith_twin (L := t.drawing.toLaw) (congrFun hsame s.roster)
    (Law.enterAt_enters htwin room 1) hsound (Law.admits_of_mem hentry.mem) ?_).eq.symm
  intro q r hbegins
  have hinterned := (intern_drawn hr.drawn (e := .decl entry) hentry).result.rel
  rw [hbegins.interned] at hinterned
  exact hr.drawn.trans hinterned

end Tracer

namespace Sample

def secret (body : Stmt) : Decl :=
  { function 2 "step" none body with annotations := ["uml\x7bskip\x7d"] }

def discreet (body : Stmt) : Program :=
  ⟨[run, secret body, worker, work]⟩

def discreetTracer (body : Stmt) : Tracer :=
  tracer.recast { tracer.casting with program := discreet body }

theorem discreet_varies :
    (discreetTracer (.expr (call 4 ["char"]))).casting.Varies (discreet .skip) := by
  have hargs : (discreet (.expr (call 4 ["char"]))).callArgs = [["int"], ["char"]] := by
    decide +kernel
  refine .cons (.inl rfl) (.cons (.inr ⟨rfl, ⟨by decide +kernel, by decide +kernel⟩, ?_⟩) ?_)
  · show ∀ args ∈ (discreet (.expr (call 4 ["char"]))).callArgs, _
    rw [hargs]
    simp only [List.forall_mem_cons]
    exact ⟨⟨by decide +kernel, by decide +kernel⟩, ⟨by decide +kernel, by decide +kernel⟩, by simp⟩
  · exact .cons (.inl rfl) (.cons (.inl rfl) .nil)

end Sample

theorem Tracer.trace_eq_of_varies_sample :
    (Sample.discreetTracer (.expr (Sample.call 4 ["char"]))).casting.Varies
      (Sample.discreet .skip) ∧
    (Sample.discreetTracer .skip).trace Sample.run {} =
      (Sample.discreetTracer (.expr (Sample.call 4 ["char"]))).trace Sample.run {} := by
  have hrecast :
    Sample.discreetTracer .skip = (Sample.discreetTracer (.expr (Sample.call 4 ["char"]))).recast
      { (Sample.discreetTracer (.expr (Sample.call 4 ["char"]))).casting with
        program := Sample.discreet .skip } := rfl
  have hentry : (Sample.discreet (.expr (Sample.call 4 ["char"]))).Declares Sample.run := rfl
  rw [hrecast]
  exact ⟨Sample.discreet_varies,
    trace_eq_of_varies Sample.discreet_varies .empty hentry (by decide +kernel)⟩

end Lifeline
