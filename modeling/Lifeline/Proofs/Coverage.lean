import Lifeline.Proofs.Asides
import Lifeline.Proofs.Noninterference
import Lifeline.Proofs.Reachability

/-! How far tracing gets. The call graph counts the callees of a body and the closures that stand in
it, but no awaiter, no template of a dependent name and no class that is constructed. Where none of
those is a function that cannot be reached otherwise, calls go no farther than the graph. -/

namespace Lifeline

namespace Program

def isFunction (p : Program) (id : DeclId) : Bool :=
  ((p.get? id).bind (·.function?)).isSome

/-- The lambdas in the body of a function are closures that stand in this function. -/
def LambdasPlaced (p : Program) : Prop :=
  ∀ d, p.Declares d → ∀ id, .lambda id ∈ d.asides →
    ∃ operator info, p.get? id = some operator ∧
      p.closure? operator = some info ∧ info.parent = some d.id

def Below (p : Program) (entry id : DeclId) : Prop :=
  id = entry ∨ p.callGraph.Reaches entry id

/-- A function that code below the entry awaits, takes for the template of a dependent name or
constructs like a class is reached from the entry in some other way. -/
def Accounts (p : Program) (entry : DeclId) : Prop :=
  ∀ d, p.Declares d → p.Below entry d.id → ∀ id, .awaiter id ∈ d.asides ∨
    .template id ∈ d.asides ∨ .cls id ∈ d.asides →
    p.isFunction id = true → p.callGraph.Reaches entry id

def Reachable (p : Program) (entry : DeclId) : Mention → Prop
  | .function id _ => p.isFunction id = true → p.callGraph.Reaches entry id
  | .declaration id => p.isFunction id = true → p.callGraph.Reaches entry id

/-- Whom a call below the entry goes to: a function that the entry reaches, a class, or something
that is not declared. -/
inductive Receives (p : Program) (entry : DeclId) (r : Roster) (id : ParticipantId) : Prop
  | function {d : Decl} {args : List String} : p.Declares d → d.function?.isSome = true →
    p.callGraph.Reaches entry d.id → r.remembered? d.id args = some id → Receives p entry r id
  | cls {d : Decl} {args : List String} : p.Declares d → d.function? = none →
    r.remembered? d.id args = some id → Receives p entry r id
  | undeclared {kind : ParticipantKind} : kind = .coroutineState ∨
    kind = .external → r.Seats kind id → Receives p entry r id

/-- The programs differ in bodies only, and not in those of these functions. -/
structure AgreesOn (p p' : Program) (live : DeclId → Prop) : Prop where
  bodiless : p.bodiless = p'.bodiless
  get? : ∀ id, live id → p.get? id = p'.get? id

variable {p p' p'' : Program} {d : Decl} {entry id : DeclId} {live : DeclId → Prop}

theorem isFunction_iff :
    p.isFunction id = true ↔ ∃ d f, p.get? id = some d ∧ d.function? = some f := by
  simp only [isFunction, Option.isSome_iff_exists, Option.bind_eq_some_iff]
  exact exists_comm

theorem isFunction_bodiless : p.bodiless.isFunction id = p.isFunction id := by
  rw [isFunction, isFunction, get?_bodiless]
  cases p.get? id <;> simp

theorem Below.reaches (h : p.Below entry d.id) (hcalls : p.callGraph.Calls d.id id) :
    p.callGraph.Reaches entry id := by
  cases h with
  | inl heq => exact .single (heq ▸ hcalls)
  | inr hreaches => exact .tail hreaches hcalls

theorem mentions_reachable (hplaced : p.LambdasPlaced) (hasides : p.Accounts entry)
    (hd : p.Declares d) (hbelow : p.Below entry d.id) :
    Stmt.MentionsOption (p.Reachable entry) d.body? := by
  apply Stmt.mentionsOption_of_allows
  constructor
  · intro id hid args _
    exact hbelow.reaches (calls_iff.mpr ⟨d, hd.mem, .inl ⟨rfl, hid⟩⟩)
  · intro x hx
    cases x with
    | lambda id =>
      intro _
      obtain ⟨operator, info, hget, hclosure, hparent⟩ := hplaced d hd id hx
      obtain ⟨hdeclares, rfl⟩ := declares_of_get? hget
      exact hbelow.reaches
        (calls_iff.mpr ⟨operator, hdeclares.mem, .inr ⟨rfl, info, hclosure, hparent⟩⟩)
    | awaiter id => exact hasides d hd hbelow id (.inl hx)
    | template id => exact hasides d hd hbelow id (.inr (.inl hx))
    | cls id => exact hasides d hd hbelow id (.inr (.inr hx))

namespace AgreesOn

theorem symm (h : p.AgreesOn p' live) : p'.AgreesOn p live :=
  ⟨h.bodiless.symm, fun id hid => (h.get? id hid).symm⟩

theorem trans (h : p.AgreesOn p' live) (h' : p'.AgreesOn p'' live) : p.AgreesOn p'' live :=
  ⟨h.bodiless.trans h'.bodiless, fun id hid => (h.get? id hid).trans (h'.get? id hid)⟩

theorem declares (h : p.AgreesOn p' live) (hd : p.Declares d) (hlive : live d.id) : p'.Declares d :=
  (h.get? d.id hlive).symm.trans hd

theorem isFunction (h : p.AgreesOn p' live) : p.isFunction id = p'.isFunction id := by
  rw [← isFunction_bodiless, h.bodiless, isFunction_bodiless]

end AgreesOn

open Classical in
noncomputable def keeping (p : Program) (live : DeclId → Prop) : Program :=
  ⟨p.decls.map fun d => if p.Declares d ∧ live d.id then d else d.bodiless⟩

theorem keeping_agreesOn : p.AgreesOn (p.keeping live) live := by
  classical
  constructor
  · simp only [bodiless, keeping, List.map_map, Program.mk.injEq]
    apply List.map_congr_left
    intro d _
    simp only [Function.comp_apply]
    split
    · rfl
    · rw [Decl.bodiless_bodiless]
  · intro id hlive
    have hid (d : Decl) : (if p.Declares d ∧ live d.id then d else d.bodiless).id = d.id := by
      split <;> rfl
    simp only [get?, keeping, List.find?_map, Function.comp_def, hid]
    cases hd : p.decls.find? (·.id == id) with
    | none => rfl
    | some d =>
      obtain ⟨hdeclares, rfl⟩ := declares_of_get? hd
      rw [Option.map_some, if_pos ⟨hdeclares, hlive⟩]

theorem body?_of_mem_keeping (h : d ∈ (p.keeping live).decls) :
    d.body? = none ∨ p.Declares d ∧ live d.id := by
  classical
  obtain ⟨e, -, rfl⟩ := List.mem_map.mp h
  split
  case isTrue hlive => exact .inr hlive
  case isFalse => exact .inl e.body?_bodiless

end Program

namespace Casting

variable {c : Casting} {p : Program} {P : Mention → Prop} {live : DeclId → Prop} {r r' : Roster}
  {id : ParticipantId}

theorem Meant.mono (h : c.Meant P r id) (hr : r.Extends r') : c.Meant P r' id := by
  cases h with
  | function hd hmention hid => exact .function hd hmention (hr.known _ _ _ hid)
  | declaration hd hmention hid => exact .declaration hd hmention (hr.known _ _ _ hid)
  | undeclared hkind hid => exact .undeclared hkind (hr.seats hid)

theorem twin_of_agreesOn (h : c.program.AgreesOn p live)
    (hP : ∀ o args, P (.function o args) → c.program.isFunction o = true → live o) :
    c.Twin { c with program := p } P r := by
  apply twin_congr h.bodiless
  intro o args d d' ho hd hd' hf
  have hlive := h.get? o (hP o args ho (by simpa [Program.isFunction, hd] using hf))
  rw [hd, hd', Option.some.injEq] at hlive
  exact .inl hlive

def Addresses (c : Casting) (P : Mention → Prop) (r' : Roster) (i i' : Interaction) : Prop :=
  ∃ new, i'.calls = i.calls ++ new ∧ ∀ m ∈ new, c.Meant P r' m.receiver

namespace Addresses

variable {i i' i'' : Interaction} {m : Message}

theorem refl (i : Interaction) : c.Addresses P r i i :=
  ⟨[], (List.append_nil _).symm, by simp⟩

theorem trans (h : c.Addresses P r i i') (hr : r.Extends r') (h' : c.Addresses P r' i' i'') :
    c.Addresses P r' i i'' := by
  obtain ⟨new, hcalls, hnew⟩ := h
  obtain ⟨more, hcalls', hmore⟩ := h'
  refine ⟨new ++ more, by rw [hcalls', hcalls, List.append_assoc], ?_⟩
  intro m hm
  cases List.mem_append.mp hm with
  | inl hm => exact (hnew m hm).mono hr
  | inr hm => exact hmore m hm

theorem send (hm : m.kind ≠ .response) (hmeant : c.Meant P r m.receiver) :
    c.Addresses P r i (i.push m) :=
  ⟨[m], Interaction.calls_push (by simpa [Message.isResponse] using hm), by simpa using hmeant⟩

theorem answer (hm : m.kind = .response) : c.Addresses P r i (i.push m) :=
  ⟨[], by rw [Interaction.calls_push_response (by simp [Message.isResponse, hm]), List.append_nil],
    by simp⟩

end Addresses

end Casting

def CallLaw.ofMentions {t : Tracer} {P : Mention → Prop}
    (program : ∀ d ∈ t.casting.program.decls, Stmt.MentionsOption P d.body?) : CallLaw t where
  inv _ _ _ := True
  rel _ r i r' i' := r.Extends r' ∧ t.casting.Addresses P r' i i'
  mention := P
  fault _ := True
  refl _ := ⟨.refl _, .refl _⟩
  trans h h' := ⟨h.1.trans h'.1, h.2.trans h'.1 h'.2⟩
  keeps _ _ := trivial
  program := program
  faults := t.casting.faults_any P
  step _ _ _ hr := ⟨hr, .refl _⟩
  send _ _ hm _ hmeant := ⟨.refl _, .send hm.kind hmeant⟩
  answer _ _ hm _ _ := ⟨.refl _, .answer hm.kind⟩
  call _ _ _ _ _ := trivial
  ofCall := by
    intro a r i m target path r' i' _ _ hm hreceiver hf h
    obtain ⟨f, -, hlands⟩ := hf.lands
    exact ⟨h.1, (Casting.Addresses.send hm.kind (hreceiver ▸ hlands.meant)).trans h.1 h.2⟩
  inline _ _ _ := trivial
  ofInline _ _ _ h := h

namespace Tracer

variable {t : Tracer} {s : Trace} {entry : Decl} {P : Mention → Prop}

theorem trace_addresses (program : ∀ d ∈ t.casting.program.decls, Stmt.MentionsOption P d.body?)
    (hentry : entry ∈ t.casting.program.decls) (hr : s.roster.Sound) :
    t.casting.Addresses P (t.trace entry s).2.roster s.interaction
      (t.trace entry s).2.interaction := by
  have htraced :=
    Law.trace_traced (L := (CallLaw.ofMentions program).toLaw) hr (Law.admits_of_mem hentry)
    fun _ _ _ => trivial
  generalize (t.trace entry s).1 = result, (t.trace entry s).2 = s' at htraced
  cases htraced with
  | refused _ => exact .refl _
  | failed _ _ _ _ => exact .refl _
  | excluded _ _ _ => exact .refl _
  | unentered _ => exact .refl _
  | visited _ hpost => exact hpost.rel.2

theorem trace_eq_of_agreesOn {p : Program} {live : DeclId → Prop}
    (h : t.casting.program.AgreesOn p live)
    (program : ∀ d ∈ t.casting.program.decls, Stmt.MentionsOption P d.body?)
    (hP : ∀ o args, P (.function o args) → t.casting.program.isFunction o = true → live o)
    (hentry : t.casting.program.Declares entry) (hlive : live entry.id) (hr : s.roster.Sound) :
    (t.recast { t.casting with program := p }).trace entry s = t.trace entry s := by
  let L := (CallLaw.ofMentions program).toLaw
  have hentry' : p.Declares entry := h.declares hentry hlive
  -- Each program has room of its own, so both are traced with room enough for either.
  obtain ⟨room, hroom, hroom'⟩ : ∃ room, t.casting.program.pathBound ≤ room ∧ p.pathBound ≤ room :=
    ⟨max t.casting.program.pathBound p.pathBound, Nat.le_max_left _ _, Nat.le_max_right _ _⟩
  rw [← traceWith_enterAt hentry.mem hr hroom,
    ← traceWith_enterAt (t := t.recast { t.casting with program := p }) hentry'.mem hr hroom']
  have htwin : L.Twin { t.casting with program := p } := fun _ _ _ => Casting.twin_of_agreesOn h hP
  have hintern :
      t.casting.intern (.decl entry) = { t.casting with program := p }.intern (.decl entry) :=
    Casting.internDecl_congr (Casting.bodiless_congr h.bodiless) hentry hentry' rfl
  exact (Law.traceWith_twin (congrFun hintern s.roster) (Law.enterAt_enters htwin room 1) hr
    (Law.admits_of_mem hentry.mem) fun _ _ _ => trivial).eq.symm

end Tracer

namespace Program

variable {c : Casting} {p : Program} {entry : DeclId} {r : Roster} {id : ParticipantId}
  {live : DeclId → Prop}

theorem receives_of_declares (hp : c.program.AgreesOn p live) {d : Decl} {args : List String}
    (hd : c.program.Declares d) (hreach : p.isFunction d.id = true → p.callGraph.Reaches entry d.id)
    (hid : r.remembered? d.id args = some id) : p.Receives entry r id := by
  obtain ⟨hnone, -⟩ | ⟨_, d', -, hd', -⟩ := get?_congr hp.bodiless d.id
  · cases hnone.symm.trans hd
  obtain ⟨hdeclares, heq⟩ := declares_of_get? hd'
  rw [← heq] at hreach hid hd'
  cases hf : d'.function? with
  | none => exact .cls hdeclares hf hid
  | some f =>
    exact .function hdeclares (by simp [hf]) (hreach (isFunction_iff.mpr ⟨d', f, hd', hf⟩)) hid

theorem receives_of_meant (hp : c.program.AgreesOn p live) (h : c.Meant (p.Reachable entry) r id) :
    p.Receives entry r id := by
  cases h with
  | function hd hreach hid => exact receives_of_declares hp hd hreach hid
  | declaration hd hreach hid => exact receives_of_declares hp hd hreach hid
  | undeclared hkind hid => exact .undeclared hkind hid

theorem not_receives {o : DeclId} (ho : p.isFunction o = true)
    (hreach : ¬ p.callGraph.Reaches entry o) (hknown : ∀ x ∈ r.known, x.2 = id → x.1.1 = o)
    (hkind : ∀ x ∈ r.participants, x.id = id → x.kind ≠ .coroutineState ∧ x.kind ≠ .external) :
    ¬ p.Receives entry r id := by
  intro h
  cases h with
  | function _ _ hreaches hid =>
    have hd := hknown _ (Roster.notes_of_remembered? hid) rfl
    exact hreach (hd ▸ hreaches)
  | @cls d _ hdeclares hf hid =>
    have hd : d.id = o := hknown _ (Roster.notes_of_remembered? hid) rfl
    rw [← hd, isFunction, show p.get? d.id = some d from hdeclares, Option.bind_some, hf] at ho
    cases ho
  | undeclared hundeclared hseats =>
    obtain ⟨x, hx, hxid, rfl⟩ := hseats
    obtain ⟨hstate, hexternal⟩ := hkind x hx hxid
    cases hundeclared with
    | inl h => exact hstate h
    | inr h => exact hexternal h

end Program

namespace Tracer

variable {t : Tracer} {s : Trace} {entry : Decl}

/-- Calls that come of an entry go to functions that the call graph reaches from it, if to functions
at all. What other functions do makes no difference. -/
theorem calls_follow_callGraph (hplaced : t.casting.program.LambdasPlaced)
    (hasides : t.casting.program.Accounts entry.id) (hentry : t.casting.program.Declares entry)
    (hr : t.casting.Reached s.roster) :
    (∃ new, (t.trace entry s).2.interaction.calls = s.interaction.calls ++ new ∧
      ∀ m ∈ new, t.casting.program.Receives entry.id (t.trace entry s).2.roster m.receiver) ∧
    ∀ p, t.casting.program.AgreesOn p (t.casting.program.Below entry.id) →
      (t.recast { t.casting with program := p }).trace entry s = t.trace entry s := by
  let live := t.casting.program.Below entry.id
  let P := t.casting.program.Reachable entry.id
  -- All is traced in the program that has no other bodies, since the law asks for what every body
  -- mentions.
  let t₀ := t.recast { t.casting with program := t.casting.program.keeping live }
  have hkeeps : t.casting.program.AgreesOn t₀.casting.program live := Program.keeping_agreesOn
  have hentry₀ : t₀.casting.program.Declares entry := hkeeps.declares hentry (.inl rfl)
  have program : ∀ d ∈ t₀.casting.program.decls, Stmt.MentionsOption P d.body? := by
    intro d hd
    cases Program.body?_of_mem_keeping hd with
    | inl hnone => simp only [hnone, Stmt.MentionsOption]
    | inr hlive => exact Program.mentions_reachable hplaced hasides hlive.1 hlive.2
  have hP : ∀ o args, P (.function o args) → t₀.casting.program.isFunction o = true → live o := by
    intro o args hreach ho
    rw [← hkeeps.isFunction] at ho
    exact .inr (hreach ho)
  have hsame (p : Program) (hp : t.casting.program.AgreesOn p live) :
      (t.recast { t.casting with program := p }).trace entry s = t₀.trace entry s :=
    trace_eq_of_agreesOn (t := t₀) (hkeeps.symm.trans hp) program hP hentry₀ (.inl rfl) hr.sound
  have hself : t.trace entry s = t₀.trace entry s := hsame t.casting.program ⟨rfl, fun _ _ => rfl⟩
  constructor
  · obtain ⟨new, hcalls, hnew⟩ := trace_addresses program hentry₀.mem hr.sound
    rw [hself]
    exact ⟨new, hcalls, fun m hm => Program.receives_of_meant hkeeps.symm (hnew m hm)⟩
  · intro p hp
    rw [hself]
    exact hsame p hp

end Tracer

namespace Sample

def nook : Decl where
  id := 21
  name := ""
  namespaceName := ""
  location := none
  templateArgs := []
  instantiatedFrom := none
  annotations := []
  kind := .record { isStruct := false, isLambda := true, parent := some 23 }

def nookCall : Decl :=
  function 22 "operator()" (some 21) (.expr (call 24 []))

def host : Decl :=
  function 23 "host" none
    (.block [.declare "f" (some (.lambda 22 none)), .expr (.call (.var "f") none [] none none),
    .expr (.coAwait (call 24 []) (some 24) none)])

def guest : Decl :=
  function 24 "guest" none .skip

def waiting : Decl :=
  function 25 "waiting" none (.expr (.coAwait (.var "task") (some 24) none))

def guessing : Decl :=
  function 26 "guessing" none (.expr (.call (.unresolved "guest" (some 24)) none [] none none))

def hosting : Tracer :=
  tracer.recast { tracer.casting with
    program := ⟨[nook, nookCall, host, guest, waiting, guessing]⟩ }

theorem hosting_asides : ∀ d ∈ hosting.casting.program.decls, ∀ x ∈ d.asides,
    (d.id = 23 ∧ x = .lambda 22) ∨ x = .awaiter 24 ∨ x = .template 24 := by
  decide +kernel

theorem hosting_placed : hosting.casting.program.LambdasPlaced := by
  intro d hd id hid
  have hplace := hosting_asides d hd.mem _ hid
  simp only [Aside.lambda.injEq, reduceCtorEq, or_false] at hplace
  obtain ⟨hhost, rfl⟩ := hplace
  exact ⟨nookCall, _, rfl, rfl, hhost ▸ rfl⟩

end Sample

theorem Tracer.calls_follow_callGraph_sample :
    Sample.hosting.casting.program.LambdasPlaced ∧
      Sample.hosting.casting.program.Accounts Sample.host.id ∧
    Sample.hosting.casting.program.Declares Sample.host ∧ Sample.hosting.casting.Reached {} ∧
    (∃ new, (Sample.hosting.trace Sample.host {}).2.interaction.calls =
      ({} : Interaction).calls ++ new ∧
      ∀ m ∈ new, Sample.hosting.casting.program.Receives Sample.host.id
        (Sample.hosting.trace Sample.host {}).2.roster m.receiver) ∧
    ∀ p, Sample.hosting.casting.program.AgreesOn p
      (Sample.hosting.casting.program.Below Sample.host.id) →
      (Sample.hosting.recast { Sample.hosting.casting with program := p }).trace Sample.host {} =
        Sample.hosting.trace Sample.host {} := by
  have hasides : Sample.hosting.casting.program.Accounts Sample.host.id := by
    have hguest : Sample.hosting.casting.program.callGraph.Reaches 23 24 := by decide +kernel
    intro d hd _ id hid _
    have hid : id = 24 := by
      rcases hid with hid | hid | hid <;> simpa using Sample.hosting_asides d hd.mem _ hid
    exact hid ▸ hguest
  have hhost : Sample.hosting.casting.program.Declares Sample.host := rfl
  exact ⟨Sample.hosting_placed, hasides, hhost, .empty,
    calls_follow_callGraph (t := Sample.hosting) (s := {})
      Sample.hosting_placed hasides hhost .empty⟩

/-- An awaiter is called, and so is the template of a dependent name, though the call graph does not
lead there. -/
theorem Tracer.calls_leave_callGraph :
    Sample.hosting.casting.program.LambdasPlaced ∧
    (∃ m ∈ (Sample.hosting.trace Sample.waiting {}).2.interaction.calls,
      ¬ Sample.hosting.casting.program.Receives Sample.waiting.id
        (Sample.hosting.trace Sample.waiting {}).2.roster m.receiver) ∧
    ∃ m ∈ (Sample.hosting.trace Sample.guessing {}).2.interaction.calls,
      ¬ Sample.hosting.casting.program.Receives Sample.guessing.id
        (Sample.hosting.trace Sample.guessing {}).2.roster m.receiver := by
  have hcalled {calls : List Message} {R : ParticipantId → Prop}
      (hsent : ⟨2⟩ ∈ calls.map (·.receiver)) (hR : ¬ R ⟨2⟩) :
      ∃ m ∈ calls, ¬ R m.receiver := by
    obtain ⟨m, hm, hreceiver⟩ := List.mem_map.mp hsent
    exact ⟨m, hm, hreceiver ▸ hR⟩
  refine ⟨Sample.hosting_placed, hcalled (by decide +kernel) ?_, hcalled (by decide +kernel) ?_⟩
  · exact Program.not_receives (o := 24) (by decide +kernel) (by decide +kernel)
      (by decide +kernel) (by decide +kernel)
  · exact Program.not_receives (o := 24) (by decide +kernel) (by decide +kernel)
      (by decide +kernel) (by decide +kernel)

end Lifeline
