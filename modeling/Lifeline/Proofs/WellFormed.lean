import Mathlib.Data.List.Chain
import Lifeline.Proofs.Law.Calls
import Lifeline.Proofs.ScopeChains

namespace Lifeline

namespace Program

def Resolves (p : Program) : Mention → Prop
  | .function id _ => ∃ d f, p.get? id = some d ∧ d.kind = .function f
  | .declaration id => ∃ d, p.get? id = some d

def ScopeWithin (p : Program) (steps : Nat) (d : Decl) : Prop :=
  ∀ chain, (d :: chain).IsChain p.ScopedIn → chain.length ≤ steps

structure WellFormed (p : Program) : Prop where
  mentions : ∀ d ∈ p.decls, Stmt.MentionsOption p.Resolves d.body?
  parent : ∀ d ∈ p.decls, ∀ info, d.kind = .record info →
    ∀ id, info.parent = some id → ∃ e, p.get? id = some e
  origin : ∀ d ∈ p.decls, ∀ id, d.instantiatedFrom = some id → ∃ e, p.get? id = some e
  owner : ∀ d ∈ p.decls, ∀ id, d.owner? = some id →
    ∃ e info, p.get? id = some e ∧ e.kind = .record info
  acyclic : p.Acyclic
  scopes : ∀ d ∈ p.decls, p.ScopeWithin 64 d

variable {p : Program} {d e : Decl} {n : Nat}

theorem scopeWithin_iff :
    p.ScopeWithin n d ↔ ∀ e, p.ScopedIn d e → ∃ m, n = m + 1 ∧ p.ScopeWithin m e := by
  constructor
  · intro h e he
    have hchain {chain : List Decl} (hc : (e :: chain).IsChain p.ScopedIn) : chain.length + 1 ≤ n :=
      h (e :: chain) (List.isChain_cons_cons.2 ⟨he, hc⟩)
    have hpos := hchain (List.isChain_singleton e)
    refine ⟨n - 1, by omega, fun chain hc => ?_⟩
    have := hchain hc
    omega
  · intro h chain hchain
    cases chain with
    | nil => exact Nat.zero_le n
    | cons e chain =>
      obtain ⟨he, hrest⟩ := List.isChain_cons_cons.1 hchain
      obtain ⟨m, rfl, hm⟩ := h e he
      exact Nat.succ_le_succ (hm chain hrest)

end Program

namespace Naming

variable {p : Program} {d : Decl} {f : Function} {room steps : Nat}

theorem scoped_of_wellFormed (hp : p.WellFormed) (hd : d ∈ p.decls) (hsteps : p.ScopeWithin steps d)
    (hroom : steps < room) : Scoped p room d := by
  induction room generalizing d steps with
  | zero => exact absurd hroom (Nat.not_lt_zero _)
  | succ room ih =>
    refine scoped_iff.mpr ⟨fun _ => Nat.succ_pos room, fun id hid => ?_⟩
    obtain ⟨e, hget, hrecord⟩ : ∃ e, p.get? id = some e ∧
        (d.isRecord = false → e.isRecord = true) := by
      cases hkind : d.kind with
      | record info =>
        obtain ⟨e, hget⟩ := hp.parent d hd info hkind id (by simpa [Decl.scope?, hkind] using hid)
        exact ⟨e, hget, by simp [Decl.isRecord_of_kind hkind]⟩
      | function f =>
        obtain ⟨e, info, hget, hinfo⟩ :=
          hp.owner d hd id (by simpa [Decl.owner?, Decl.function?, Decl.scope?, hkind] using hid)
        exact ⟨e, hget, fun _ => Decl.isRecord_of_kind hinfo⟩
    obtain ⟨above, rfl, habove⟩ := Program.scopeWithin_iff.1 hsteps e ⟨id, hid, hget⟩
    exact ⟨e, hget, hrecord, ih (Program.mem_of_get? hget).1 habove (by omega)⟩

theorem recordName_ok (hp : p.WellFormed) {info : RecordInfo} (hd : d ∈ p.decls)
    (hkind : d.kind = .record info) : ∃ name, recordName p d = .ok name :=
  recordName_ok_iff.mpr ⟨Decl.isRecord_of_kind hkind,
    scoped_of_wellFormed hp hd (hp.scopes d hd) (Nat.lt_succ_self _)⟩

theorem callableNames_ok (hp : p.WellFormed) (hd : d ∈ p.decls) (hkind : d.kind = .function f)
    (args : List String) : ∃ names, callableNames p d f args = .ok names :=
  (callableNames_ok_iff hkind args).mpr
    (scoped_of_wellFormed hp hd (hp.scopes d hd) (Nat.lt_succ_self _))

end Naming

namespace Casting

variable {c : Casting} {d : Decl} {r : Roster}

theorem refers_of_wellFormed (hp : c.program.WellFormed) (hd : d ∈ c.program.decls) :
    c.Refers (fun _ => False) (fun _ => True) d := by
  have hdecl {id : DeclId} {e : Decl} (he : c.program.get? id = some e) :
      Ends (fun _ => False) (fun _ => True) (c.program.decl id) := by
    rw [Program.decl_eq_ok_iff.2 he]
    trivial
  refine ⟨fun o ho => ?_, fun o ho => ?_, fun info hkind => ?_, fun f args hkind => ?_⟩
  · obtain ⟨e, -, he, -⟩ := hp.owner d hd o ho
    exact hdecl he
  · obtain ⟨e, he⟩ := hp.origin d hd o ho
    exact hdecl he
  · obtain ⟨name, hname⟩ := Naming.recordName_ok hp hd hkind
    rw [hname]
    trivial
  · obtain ⟨names, hnames⟩ := Naming.callableNames_ok hp hd hkind args
    rw [hnames]
    trivial

theorem internDecl_ok (hp : c.program.WellFormed) (hd : d ∈ c.program.decls) (hr : r.Sound)
    (args : List String) : ∃ id, (c.internDecl d args r).1 = .ok id := by
  have hgrows : r.Grows (fun _ => False) (fun id r' => r'.remembered? d.id args = some id)
      (c.internDecl d args r).1 (c.internDecl d args r).2 := by
    rw [internDecl, internAt_eq_internFrom]
    refine (internFrom_agree hp.acyclic (fun e he => refers_of_wellFormed hp he) _ ?_ hd hr).result
    exact fun d _ => throw (.malformed (.endlessOrigin d.id))
  have houtcome := hgrows.outcome
  cases hres : (c.internDecl d args r).1 with
  | ok id => exact ⟨id, rfl⟩
  | error f =>
    rw [hres] at houtcome
    exact houtcome.elim

theorem faults_of_wellFormed (hp : c.program.WellFormed) :
    c.Faults c.program.Resolves fun _ => False := by
  refine ⟨fun id args f h hf => ?_, fun id f h hf => ?_, fun d hd args r f hr hf => ?_⟩
  · obtain ⟨d, g, hget, hkind⟩ := h
    simp only [Program.function, Program.decl_eq_ok_iff.2 hget, bind, Except.bind,
      Decl.function?, hkind] at hf
    cases hf
  · obtain ⟨d, hget⟩ := h
    rw [Program.decl_eq_ok_iff.2 hget] at hf
    cases hf
  · obtain ⟨id, hid⟩ := internDecl_ok hp hd hr args
    rw [hid] at hf
    cases hf

end Casting

theorem Tracer.trace_eq_ok_iff {t : Tracer} {s : Trace} {entry : Decl}
    (hp : t.casting.program.WellFormed) (hr : s.roster.Sound)
    (hentry : entry ∈ t.casting.program.decls) (hbody : entry.body?.isSome = true) :
    (t.trace entry s).1 = .ok () ↔
      (t.casting.intern (.decl entry) s.roster).1 ≠ .ok .tombstone := by
  let L := CallLaw.ofFaults (t := t) hp.mentions (Casting.faults_of_wellFormed hp)
  have htraced := Law.trace_traced (L := L.toLaw) hr (Law.admits_of_mem hentry) fun _ _ _ => trivial
  have hseen {p : ParticipantId} {r : Roster} (h : Law.Begins t entry s p r) :
      (t.casting.intern (.decl entry) s.roster).1 ≠ .ok .tombstone := by
    rw [h.interned]
    rintro ⟨rfl⟩
    exact (Roster.isVisible_iff.1 h.visible).1 rfl
  generalize (t.trace entry s).1 = result, (t.trace entry s).2 = s' at htraced
  cases htraced with
  | refused h => simp [h] at hbody
  | failed _ _ _ hfault => exact hfault.elim
  | excluded h _ _ => simp [h]
  | unentered hbegins => exact ⟨fun _ => hseen hbegins, fun _ => rfl⟩
  | visited hbegins hpost =>
    cases result with
    | ok _ => exact ⟨fun _ => hseen hbegins, fun _ => rfl⟩
    | error f => exact (hpost.outcome : False).elim

namespace Sample

theorem run_declared : program.Declares run := rfl

theorem wellFormed : program.WellFormed := by
  have hcalls : program.Resolves (.function 1 []) ∧ program.Resolves (.function 2 ["int"]) ∧
      program.Resolves (.function 4 []) := ⟨⟨_, _, rfl, rfl⟩, ⟨_, _, rfl, rfl⟩, ⟨_, _, rfl, rfl⟩⟩
  have hdecls {P : Decl → Prop} :
      (∀ d ∈ program.decls, P d) ↔ P run ∧ P step ∧ P worker ∧ P work := by
    simp [program]
  have houter {d : Decl} {n : Nat} (h : d.scope? = none) : program.ScopeWithin n d := by
    refine Program.scopeWithin_iff.2 ?_
    rintro e ⟨id, hid, -⟩
    cases h.symm.trans hid
  refine ⟨hdecls.2 ?_, hdecls.2 ?_, hdecls.2 ?_, hdecls.2 ?_, acyclic, hdecls.2 ?_⟩
  · simp [run, step, worker, work, function, call, Decl.body?, Decl.function?,
      Stmt.MentionsOption, Stmt.Mentions,
      Expr.Mentions, Expr.MentionsOption, Expr.MentionsList, Callee.Mentions, hcalls]
  · simp [run, step, worker, work, function]
  · simp [run, step, worker, work, function]
  · simp only [run, step, worker, work, function, Decl.owner?, Decl.function?,
      Option.bind_some, Option.bind_none]
    refine ⟨by simp, by simp, by simp, ?_⟩
    rintro id ⟨rfl⟩
    exact ⟨worker, _, rfl, rfl⟩
  · refine ⟨houter rfl, houter rfl, houter rfl, Program.scopeWithin_iff.2 ?_⟩
    rintro e ⟨id, ⟨rfl⟩, he⟩
    obtain rfl : worker = e := Option.some.inj he
    exact ⟨63, rfl, houter rfl⟩

end Sample

end Lifeline
