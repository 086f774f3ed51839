import Lifeline.Proofs.Law.Visit

namespace Lifeline

namespace Tracer

/-- Visits bodies like `enterAt`, as long as the activation is as it should be. What happens when it
is not, and what happens when there is no more room, is left open. -/
def enterWithin (t : Tracer) (ok : Activation → Bool) (otherwise last : Enter) :
    (room : Nat) → Enter
  | 0 => last
  | room + 1 => fun a f body operation =>
    if ok a then t.visitBody (t.enterWithin ok otherwise last room) a f body operation
    else otherwise a f body operation

def start (t : Tracer) (r : Roster) (p : ParticipantId) : Activation :=
  { path := { maxDepth := t.options.maxDepth, calls := [(p, r.operation p)] }, caller := p }

end Tracer

def Trace.begin (s : Trace) (r : Roster) (p : ParticipantId) : Trace :=
  { s with
    roster :=
      r, interaction := { s.interaction with entryPoints := s.interaction.entryPoints ++ [p] } }

namespace Law

open Tracer

variable {t : Tracer} {L : Law t} {c : Casting}

theorem enterAt_enters (hc : L.Twin c) (room depth : Nat) :
    L.Enters (t.enterAt room) ((t.recast c).enterAt room) depth := by
  induction room generalizing depth with
  | zero => exact fun _ _ _ _ _ _ => .pure trivial
  | succ room ih =>
    exact fun a f body operation _ hbody => visitBody_obeys hc (ih _) hbody f operation

theorem enterWithin_succ {ok : Activation → Bool} (hok : ∀ a s, L.Pre a s → ok a = true)
    {otherwise last : Enter} {room room' depth : Nat}
    (h : L.Enters (t.enterWithin ok otherwise last room) (t.enterAt room') (depth + 1)) :
    L.Enters (t.enterWithin ok otherwise last (room + 1)) (t.enterAt (room' + 1)) depth := by
  rintro a f body operation rfl hbody s hs
  simp only [enterWithin, hok a s hs, if_true]
  exact visitBody_obeys L.twin_self h hbody f operation s hs

theorem enterWithin_enters {ok : Activation → Bool} (hok : ∀ a s, L.Pre a s → ok a = true)
    (otherwise : Enter) (room depth : Nat) :
    L.Enters (t.enterWithin ok otherwise (t.enterAt 0) room) (t.enterAt room) depth := by
  induction room generalizing depth with
  | zero => exact enterAt_enters L.twin_self 0 depth
  | succ room ih => exact enterWithin_succ hok (ih (depth + 1))

/-- If the law bounds the calls on the path, then the room is never used up. -/
theorem enterWithin_enters_of_bound {ok : Activation → Bool} {bound : Nat}
    (hok : ∀ a s, L.Pre a s → ok a = true) (hbound : ∀ a s, L.Pre a s → a.path.depth ≤ bound)
    (otherwise last : Enter) {room room' depth : Nat} (hroom : bound < depth + room)
    (hroom' : bound < depth + room') :
    L.Enters (t.enterWithin ok otherwise last room) (t.enterAt room') depth := by
  induction room generalizing room' depth with
  | zero =>
    rintro a f body operation rfl - s h
    exact absurd (hbound a s h) (by omega)
  | succ room ih =>
    cases room' with
    | zero =>
      rintro a f body operation rfl - s h
      exact absurd (hbound a s h) (by omega)
    | succ room' => exact enterWithin_succ hok (ih (by omega) (by omega))

structure Admits (L : Law t) (entry : Decl) : Prop where
  body : Stmt.MentionsOption L.mention entry.body?
  interning : ∀ r f, r.Sound → (t.casting.intern (.decl entry) r).1 = .error f → L.fault f

theorem admits_of_mem {entry : Decl} (h : entry ∈ t.casting.program.decls) : L.Admits entry :=
  ⟨L.program entry h, fun r f hr hf => L.faults.interning entry h [] r f hr hf⟩

structure Begins (t : Tracer) (entry : Decl) (s : Trace) (p : ParticipantId)
    (r : Roster) : Prop where
  interned : t.casting.intern (.decl entry) s.roster = (.ok p, r)
  visible : r.isVisible p = true
  grown : s.roster.Extends r
  sound : r.Sound
  known : r.remembered? entry.id [] = some p
  body : entry.body?.isSome = true

inductive Traced (L : Law t) (entry : Decl) (s : Trace) : Except Fault Unit → Trace → Prop
  | refused {f : Fault} : entry.body? = none → Traced L entry s (.error f) s
  | failed {f : Fault} {r : Roster} :
    t.casting.intern (.decl entry) s.roster = (.error f, r) →
      s.roster.Extends r → r.Sound → L.fault f →
    Traced L entry s (.error f) { s with roster := r }
  | excluded {f : Fault} {r : Roster} :
    t.casting.intern (.decl entry) s.roster = (.ok .tombstone, r) → s.roster.Extends r → r.Sound →
    Traced L entry s (.error f) { s with roster := r }
  | unentered {p : ParticipantId} {r : Roster} : Begins t entry s p r →
    Traced L entry s (.ok ()) (s.begin r p)
  | visited {p : ParticipantId} {r : Roster} {result : Except Fault Unit} {s' : Trace} :
    Begins t entry s p r →
    L.Post (t.start r p) { s.begin r p with scopes := .empty } (fun _ => True) result s' →
    Traced L entry s result { s' with scopes := s.scopes }

theorem traceWith_twin {E E' : Enter} {entry : Decl} {s : Trace}
    (hsame : t.casting.intern (.decl entry) s.roster = c.intern (.decl entry) s.roster)
    (hE : L.Enters E E' 1) (hr : s.roster.Sound) (hentry : L.Admits entry)
    (hstart : ∀ p r, Begins t entry s p r → L.inv (t.start r p) (s.begin r p)) :
    Agree (t.traceWith E entry) ((t.recast c).traceWith E' entry) s (L.Traced entry s) := by
  unfold traceWith
  cases hfun : entry.function? with
  | none => exact .throw (.refused (by simp [Decl.body?, hfun]))
  | some f =>
    dsimp only
    cases hf : f.body with
    | none => exact .throw (.refused (by simp [Decl.body?, hfun, hf]))
    | some body =>
      have hbody : entry.body? = some body := by simp [Decl.body?, hfun, hf]
      have hgrows := (t.casting.internDecl_grows hr entry []).result
      obtain ⟨result, r, hrun⟩ : ∃ result r, t.casting.intern (.decl entry) s.roster =
        (result, r) := ⟨_, _, rfl⟩
      rw [show t.casting.internDecl entry [] s.roster = (result, r) from hrun] at hgrows
      have hcast :
          Visit.cast (t.casting.intern (.decl entry)) s = (result, { s with roster := r }) := by
        simp only [Visit.cast, hrun]
      have hcast' : Visit.cast (c.intern (.decl entry)) s = (result, { s with roster := r }) := by
        simp only [Visit.cast, ← hsame, hrun]
      cases result with
      | error e =>
        exact .both_fail hcast hcast'
          (.failed hrun hgrows.grown hgrows.sound (hentry.interning s.roster e hr (by rw [hrun])))
      | ok p =>
        refine .both_then hcast hcast' (.ite (fun hp => ?_) (fun hp => ?_))
        · have hp : p = .tombstone := by simpa [ParticipantId.isTombstone] using hp
          exact .throw (.excluded (hp ▸ hrun) hgrows.grown hgrows.sound)
        · have hbegins : Begins t entry s p r := by
            refine ⟨hrun, ?_, hgrows.grown, hgrows.sound, hgrows.outcome, by simp [hbody]⟩
            exact hgrows.sound entry.id [] p hgrows.outcome
              (by simpa [ParticipantId.isTombstone] using hp)
          refine .modify_bind (.get_bind ?_)
          dsimp only
          cases henter :
            ({ maxDepth := t.options.maxDepth } : CallPath).enter (p, r.operation p) with
          | recursive => exact .pure (.unentered hbegins)
          | tooDeep => exact .pure (.unentered hbegins)
          | entered path =>
            obtain ⟨-, rfl⟩ := CallPath.enter_eq_entered henter
            have hmentions : body.Mentions L.mention := by
              have := hentry.body
              rw [hbody] at this
              simpa only [Stmt.MentionsOption] using this
            have hpre : L.Pre (t.start r p) { s.begin r p with scopes := .empty } :=
              ⟨hgrows.sound, ⟨hbegins.visible, by simp [start], by simp [start, CallPath.depth]⟩,
                .empty, L.scopes (hstart p r hbegins)⟩
            refine Visit.agree_withScopes (hE _ f body _ rfl hmentions _ hpre) ?_
            intro result s' hs'
            exact .visited hbegins hs'

theorem traceWith_agree {E E' : Enter} {entry : Decl} {s : Trace} (hE : L.Enters E E' 1)
    (hr : s.roster.Sound) (hentry : L.Admits entry)
    (hstart : ∀ p r, Begins t entry s p r → L.inv (t.start r p) (s.begin r p)) :
    Agree (t.traceWith E entry) (t.traceWith E' entry) s (L.Traced entry s) :=
  traceWith_twin rfl hE hr hentry hstart

theorem Traced.roster {entry : Decl} {s s' : Trace} {result : Except Fault Unit}
    (h : L.Traced entry s result s') (hr : s.roster.Sound) :
    s.roster.Extends s'.roster ∧ s'.roster.Sound := by
  cases h with
  | refused _ => exact ⟨.refl _, hr⟩
  | failed _ hgrown hsound _ => exact ⟨hgrown, hsound⟩
  | excluded _ hgrown hsound => exact ⟨hgrown, hsound⟩
  | unentered hbegins => exact ⟨hbegins.grown, hbegins.sound⟩
  | visited hbegins hpost => exact ⟨hbegins.grown.trans hpost.grown, hpost.sound⟩

theorem trace_traced {entry : Decl} {s : Trace} (hr : s.roster.Sound) (hentry : L.Admits entry)
    (hstart : ∀ p r, Begins t entry s p r → L.inv (t.start r p) (s.begin r p)) :
    L.Traced entry s (t.trace entry s).1 (t.trace entry s).2 :=
  (traceWith_agree (enterAt_enters L.twin_self _ 1) hr hentry hstart).result

end Law

namespace Tracer

variable {t : Tracer}

theorem traceAll_induction {Q : Trace → Prop} {entries : List Decl} {s : Trace} (h : Q s)
    (step : ∀ entry ∈ entries, ∀ s, Q s → Q (t.trace entry s).2) : Q (t.traceAll entries s) := by
  induction entries generalizing s with
  | nil => exact h
  | cons entry rest ih =>
    obtain ⟨hentry, hrest⟩ := List.forall_mem_cons.1 step
    exact ih (hentry s h) hrest

theorem traceAll_append (before after : List Decl) (s : Trace) :
    t.traceAll (before ++ after) s = t.traceAll after (t.traceAll before s) :=
  List.foldl_append

end Tracer

namespace Casting

variable {c : Casting} {r : Roster}

theorem intern_grows (hr : r.Sound) (e : Entity) :
    Agree (c.intern e) (c.intern e) r (r.Grows (fun _ => True) Roster.Shows) := by
  cases e with
  | decl d => exact shows_of_remembered (internDecl_grows hr d [])
  | instantiation d args => exact shows_of_remembered (internDecl_grows hr d _)
  | external name => exact internExternal_grows hr name
  | coroutineState p =>
    simp only [intern, internCoroutineState]
    refine .get_bind ?_
    cases r.get? p with
    | none => exact .throw ⟨.refl r, hr, trivial⟩
    | some base => exact insert_grows hr _

inductive Reached (c : Casting) : Roster → Prop
  | empty : Reached c {}
  | intern {r : Roster} (h : Reached c r) (e : Entity) : Reached c (c.intern e r).2

theorem Reached.sound (h : c.Reached r) : r.Sound := by
  induction h with
  | empty => exact .empty
  | intern _ e ih => exact (intern_grows ih e).result.sound

end Casting

namespace Sample

def call (id : DeclId) (args : List String) : Expr :=
  .call (.decl id args .static) none [] none none

def function (id : DeclId) (name : String) (owner : Option DeclId) (body : Stmt) : Decl where
  id := id
  name := name
  namespaceName := ""
  location := none
  templateArgs := []
  instantiatedFrom := none
  annotations := []
  kind := .function {
    owner, params := [], returnType := "void", isStatic := false, isConst := false,
    isVirtual := false,
    isConstructor := false, isDestructor := false, isOperator := false, isCoroutine := false,
    body := some body }

def worker : Decl where
  id := 3
  name := "Worker"
  namespaceName := ""
  location := none
  templateArgs := []
  instantiatedFrom := none
  annotations := []
  kind := .record { isStruct := false, isLambda := false, parent := none }

def run : Decl :=
  function 1 "run" none
    (.ifElse (call 4 []) (.expr (call 2 ["int"])) (some (.expr (call 1 []))) false none)

def step : Decl :=
  function 2 "step" none (.whileLoop (call 4 []) (.expr (call 1 [])) none)

def work : Decl :=
  function 4 "work" (some 3) (.expr (call 2 ["int"]))

def program : Program :=
  ⟨[run, step, worker, work]⟩

def tracer : Tracer where
  casting := { program, filter := .everything, mergeFiles := false, seed := fun _ => 1 }
  options := {}

theorem run_mem : run ∈ program.decls := List.mem_cons_self

theorem acyclic : program.Acyclic := by
  refine .of_rank (fun id => if id = 3 then 0 else 1) ?_
  rintro a b ⟨d, hd, rfl, h⟩
  simp only [program, List.mem_cons, List.not_mem_nil, or_false] at hd
  rcases hd with rfl | rfl | rfl | rfl <;> simp [run, step, worker, work, function,
    Decl.owner?, Decl.function?] at h
  subst h
  decide

end Sample

end Lifeline
