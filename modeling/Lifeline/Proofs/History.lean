import Lifeline.Proofs.Representation

namespace Lifeline

theorem not_endless_ok (x : α) : ¬ Endless (.ok x : Except Fault α) := by
  rintro ⟨_, h⟩
  cases h

theorem not_endless_bind {x : Except Fault α} {k : α → Except Fault β} (h : ¬ Endless x)
    (hk : ∀ a, x = .ok a → ¬ Endless (k a)) : ¬ Endless (x >>= k) := by
  cases x with
  | ok a => exact hk a rfl
  | error f =>
    rintro ⟨id, hid⟩
    cases hid
    exact h ⟨id, rfl⟩

theorem Program.decl_not_endless (p : Program) (id : DeclId) : ¬ Endless (p.decl id) := by
  unfold decl
  rintro ⟨_, h⟩
  split at h <;> cases h

namespace Naming

variable {p : Program} {d : Decl}

theorem callableNamesWith_not_endless {recordName : Decl → Except Fault String}
    (hname : ∀ e, ¬ Endless (recordName e)) (f : Function) (args : List String) :
    ¬ Endless (callableNamesWith recordName p d f args) := by
  unfold callableNamesWith
  cases f.owner with
  | none => exact not_endless_ok _
  | some o =>
    refine not_endless_bind (p.decl_not_endless o) ?_
    intro owner _
    cases owner.record? with
    | none =>
      rintro ⟨_, h⟩
      cases h
    | some info =>
      refine not_endless_bind (hname owner) ?_
      intro name _
      dsimp only
      split <;> exact not_endless_ok _

theorem recordNameAt_not_endless (room : Nat) (d : Decl) : ¬ Endless (recordNameAt p room d) := by
  induction room using Nat.strongRecOn generalizing d with
  | ind room ih =>
    cases room with
    | zero =>
      rintro ⟨_, h⟩
      cases h
    | succ room =>
      unfold recordNameAt
      cases d.record? with
      | none =>
        rintro ⟨_, h⟩
        cases h
      | some info =>
        dsimp only
        cases info.parent with
        | none => exact not_endless_ok _
        | some parentId =>
          refine not_endless_bind (p.decl_not_endless parentId) ?_
          intro parent _
          cases parent.kind with
          | record _ =>
            exact not_endless_bind (ih room (by omega) parent) fun _ _ => not_endless_ok _
          | function f =>
            refine not_endless_bind (callableNamesWith_not_endless ?_ f _)
              fun _ _ => not_endless_ok _
            intro e
            cases room with
            | zero =>
              rintro ⟨_, h⟩
              cases h
            | succ room => exact ih room (by omega) e

end Naming

namespace Casting

variable {c : Casting} {d : Decl} {args : List String} {r : Roster}

theorem names_not_endless : ¬ Endless (c.names d args) := by
  unfold names
  cases d.kind with
  | record info =>
    exact not_endless_bind (Naming.recordNameAt_not_endless _ d) fun _ _ => not_endless_ok _
  | function f => exact Naming.callableNamesWith_not_endless (Naming.recordNameAt_not_endless _) f _

variable {J : Decl → Except Fault ParticipantId}

theorem judgeOwner_not_endless {names : Naming.CallableNames} (hnames : c.names d args = .ok names)
    (hJ : ∀ o e, d.owner? = some o → c.program.get? o = some e → ¬ Endless (J e)) :
    ¬ Endless (c.judgeOwner J d names) := by
  cases ho : names.owner with
  | none =>
    obtain ⟨owner, howner, -⟩ := judgeOwner_of_none (c := c) (J := J) (d := d) ho
    rw [howner]
    exact not_endless_ok owner
  | some o =>
    unfold judgeOwner
    rw [ho]
    refine not_endless_bind (c.program.decl_not_endless o) ?_
    intro e he
    have howner := (names_owner hnames ho).1
    exact not_endless_bind (hJ o e howner (Program.decl_eq_ok_iff.1 he)) fun _ _ => not_endless_ok _

theorem judgeTemplate_not_endless
    (hJ : ∀ o e, d.template? args = some o → c.program.get? o = some e → ¬ Endless (J e)) :
    ¬ Endless (c.judgeTemplate J d args) := by
  unfold judgeTemplate
  cases ho : d.template? args with
  | none => exact not_endless_ok _
  | some o =>
    refine not_endless_bind (c.program.decl_not_endless o) ?_
    intro e he
    exact not_endless_bind (hJ o e ho (Program.decl_eq_ok_iff.1 he)) fun _ _ => not_endless_ok _

theorem judgeOnce_not_endless
    (hJ : ∀ o e, d.owner? = some o ∨ d.template? args = some o →
      c.program.get? o = some e → ¬ Endless (J e)) :
    ¬ Endless (c.judgeOnce J d args) := by
  unfold judgeOnce
  refine not_endless_bind names_not_endless ?_
  intro names hnames
  split
  · exact not_endless_ok _
  · refine not_endless_bind (judgeOwner_not_endless hnames fun o e ho => hJ o e (.inl ho)) ?_
    intro owner _
    split
    · exact not_endless_ok _
    · refine not_endless_bind (judgeTemplate_not_endless fun o e ho => hJ o e (.inr ho)) ?_
      intro _ _
      exact not_endless_ok _

theorem judgeAt_not_endless (hp : c.program.Acyclic) {room : Nat} (hd : d ∈ c.program.decls)
    (hfits : c.program.Fits room d.id) : ¬ Endless (c.judgeAt room d []) := by
  induction room generalizing d with
  | zero => exact absurd hfits.pos (Nat.lt_irrefl 0)
  | succ room ih =>
    refine judgeOnce_not_endless ?_
    intro o e ho he
    obtain ⟨hmem, rfl⟩ := Program.mem_of_get? he
    refine ih hmem (hfits.next hp hd (ho.imp_right fun htemplate => ?_))
    unfold Decl.template? at htemplate
    cases hkind : d.kind <;> simpa [hkind] using htemplate

theorem judgeDecl_not_endless (hp : c.program.Acyclic) :
    ¬ Endless (c.judgeAt (c.program.size + 2) d args) := by
  refine judgeOnce_not_endless ?_
  intro o e _ he
  exact judgeAt_not_endless hp (Program.mem_of_get? he).1 (c.program.fits_start e.id)

theorem judge_not_endless (hp : c.program.Acyclic) (e : Entity) : ¬ Endless (c.judge r e) := by
  cases e with
  | decl d => exact judgeDecl_not_endless hp
  | instantiation d args => exact judgeDecl_not_endless hp
  | coroutineState p =>
    rintro ⟨_, h⟩
    rw [judge] at h
    split at h <;> cases h
  | external name =>
    rw [judge]
    split <;> exact not_endless_ok _

theorem intern_eq_judge (hp : c.program.Acyclic) (hr : c.Drawn r) {e : Entity}
    (he : e.Within c.program) (hdistinct : c.Distinct (c.intern e r).2) :
    (c.intern e r).1 = c.judge r e := by
  rcases (intern_drawn hr he).result.told trivial hdistinct with hendless | hcomes
  · exact absurd hendless (judge_not_endless hp e)
  · exact hcomes.symm

/-- Whatever was interned before, also in vain, an entity that is no state of a coroutine is
interned with the same outcome, as long as different keys have different ids. -/
theorem intern_outcome_eq (hp : c.program.Acyclic) {es es' : List Entity}
    (hes : ∀ e ∈ es, e.Within c.program) (hes' : ∀ e ∈ es', e.Within c.program) {e : Entity}
    (he : e.Within c.program) (hstate : ∀ p, e ≠ .coroutineState p)
    (hdistinct : c.Distinct (c.intern e (c.internAll es {})).2)
    (hdistinct' : c.Distinct (c.intern e (c.internAll es' {})).2) :
    (c.intern e (c.internAll es {})).1 = (c.intern e (c.internAll es' {})).1 := by
  rw [intern_eq_judge hp (internAll_drawn hes) he hdistinct,
    intern_eq_judge hp (internAll_drawn hes') he hdistinct']
  cases e with
  | coroutineState p => exact absurd rfl (hstate p)
  | decl d => rfl
  | instantiation d args => rfl
  | external name => rfl

end Casting

def Sample.casting : Casting :=
  { tracer.casting with seed := fun key => .ofNat key.length }

theorem Casting.intern_outcome_eq_sample : Sample.program.Acyclic ∧
    Sample.casting.Distinct (Sample.casting.intern (.decl Sample.work) {}).2 ∧
    Sample.casting.Distinct
      (Sample.casting.intern (.decl Sample.work) (Sample.casting.internAll Sample.entities {})).2 ∧
    (Sample.casting.intern (.decl Sample.work) {}).1 =
      (Sample.casting.intern (.decl Sample.work)
        (Sample.casting.internAll Sample.entities {})).1 := by
  have hfresh : Sample.casting.Distinct (Sample.casting.intern (.decl Sample.work) {}).2 := by
    unfold Distinct
    decide +kernel
  have hlater : Sample.casting.Distinct
      (Sample.casting.intern (.decl Sample.work)
        (Sample.casting.internAll Sample.entities {})).2 := by
    unfold Distinct
    decide +kernel
  exact ⟨Sample.acyclic, hfresh, hlater, intern_outcome_eq (c := Sample.casting) Sample.acyclic
    (List.forall_mem_nil _) Sample.entities_within
      (show Sample.program.Declares Sample.work from rfl) (by simp)
    hfresh hlater⟩

end Lifeline
