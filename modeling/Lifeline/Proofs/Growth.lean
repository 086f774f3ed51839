import Lifeline.Proofs.Interning
import Lifeline.Resolution

namespace Lifeline

namespace Cast

def Adds (v : Cast α) : Prop :=
  ∀ r : Roster, r.Extends (v r).2

variable {v : Cast α} {k : α → Cast β}

theorem Adds.of_eq (h : ∀ r, (v r).2 = r) : Adds v := by
  intro r
  rw [h r]
  exact .refl r

theorem Adds.pure (x : α) : Adds (Pure.pure x) :=
  .of_eq fun _ => rfl

theorem Adds.bind (hv : Adds v) (hk : ∀ x, Adds (k x)) : Adds (v >>= k) := by
  intro r
  have hfirst := hv r
  rw [Agree.run_bind]
  rcases hrun : v r with ⟨f | x, mid⟩
  · rw [hrun] at hfirst
    exact hfirst
  · rw [hrun] at hfirst
    exact hfirst.trans (hk x mid)

theorem Adds.lift (x : Except Fault α) (hk : ∀ a, Adds (k a)) :
    Adds ((liftM x : Cast α) >>= k) := by
  refine Adds.bind (.of_eq fun _ => ?_) hk
  cases x <;> rfl

theorem Adds.get_bind {k : Roster → Cast β} (h : ∀ r : Roster, r.Extends (k r r).2) :
    Adds (get >>= k) :=
  h

theorem Adds.ite {c : Prop} [Decidable c] {w : Cast α} (hv : Adds v) (hw : Adds w) :
    Adds (if c then v else w) := by
  split
  · exact hv
  · exact hw

end Cast

namespace Casting

open Cast

variable {c : Casting}

theorem insert_adds (p : Participant) : Adds (c.insert p) :=
  fun _ => Roster.insert_extends c.seed p

theorem internAt_adds (room : Nat) (d : Decl) (args : List String) :
    Adds (c.internAt room d args) :=
  fun r => (c.internAt_grown room d args r).1

theorem intern_adds (e : Entity) : Adds (c.intern e) := by
  cases e with
  | decl d => exact internAt_adds _ d []
  | instantiation d args => exact internAt_adds _ d _
  | external name =>
    exact .ite (.pure _) (insert_adds _)
  | coroutineState p =>
    refine .get_bind fun r => ?_
    cases r.get? p with
    | none => exact .refl r
    | some base => exact insert_adds _ r

theorem target_adds (certainty : Certainty) (e : Entity) (f : Option Function)
    (captured : Option Bindings) : Adds (c.target certainty e f captured) :=
  (intern_adds e).bind fun _ => .ite (.pure _) (.get_bind .refl)

theorem resolveDecl_adds (id : DeclId) (args : List String) (dispatch : Dispatch)
    (captured : Option Bindings) : Adds (c.resolveDecl id args dispatch captured) :=
  .lift _ fun _ => target_adds _ _ _ _

theorem resolveValue_adds (value : Value) (name : String) : Adds (c.resolveValue value name) := by
  cases value with
  | lambda operator captured => exact resolveDecl_adds _ _ _ _
  | function decl => exact resolveDecl_adds _ _ _ _
  | unknown => exact .pure _

theorem resolveCallee_adds (callee : Callee) (scopes : Scopes) :
    Adds (c.resolveCallee callee scopes) := by
  unfold resolveCallee
  split
  · exact resolveDecl_adds _ _ _ _
  · split
    · exact resolveValue_adds _ _
    · exact .pure _
  · exact .lift _ fun _ => target_adds _ _ _ _
  · exact .pure _
  · exact .pure _

theorem resolveConstruct_adds (cls : DeclId) (ctor : Option DeclId) :
    Adds (c.resolveConstruct cls ctor) := by
  cases ctor with
  | some ctor => exact resolveDecl_adds _ _ _ _
  | none => exact .lift _ fun _ => target_adds _ _ _ _

theorem resolveAwaiter_adds (awaiter : Option DeclId) (coroutine : ParticipantId) :
    Adds (c.resolveAwaiter awaiter coroutine) := by
  cases awaiter with
  | some awaiter => exact resolveDecl_adds _ _ _ _
  | none => exact (intern_adds _).bind fun _ => .pure _

end Casting

end Lifeline
