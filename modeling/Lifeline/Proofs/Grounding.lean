import Lifeline.Proofs.Consistency

/-! Interning that has succeeded once. What an entity was interned as is what it comes to on every
roster, whether or not there are declarations that are their own origin: a chain of owners and
templates that was once followed to its end does not go round in a circle. -/

namespace Lifeline

def Yields (x y : Except Fault α) : Prop :=
  ∀ a, x = .ok a → y = .ok a

namespace Yields

variable {x y : Except Fault α} {k l : α → Except Fault β}

theorem refl (x : Except Fault α) : Yields x x :=
  fun _ h => h

theorem bind (h : Yields x y) (hk : ∀ a, x = .ok a → Yields (k a) (l a)) :
    Yields (x >>= k) (y >>= l) := by
  intro b hb
  cases x with
  | error f => cases hb
  | ok a =>
    rw [h a rfl]
    exact hk a rfl b hb

end Yields

namespace Casting

variable {c : Casting} {d : Decl} {args : List String} {r r' : Roster} {id : ParticipantId}
variable {J J' : Decl → Except Fault ParticipantId}

section Rules

variable (hJ : ∀ e, c.program.Declares e → Yields (J e) (J' e))

include hJ

theorem decl_bind_yields (o : DeclId) (k : ParticipantId → Except Fault α) :
    Yields (c.program.decl o >>= fun e => J e >>= k)
      (c.program.decl o >>= fun e => J' e >>= k) := by
  refine .bind (.refl _) fun e he => ?_
  obtain ⟨hdeclares, -⟩ := Program.declares_of_get? (Program.decl_eq_ok_iff.1 he)
  exact .bind (hJ e hdeclares) fun _ _ => .refl _

theorem judgeOwner_yields (names : Naming.CallableNames) :
    Yields (c.judgeOwner J d names) (c.judgeOwner J' d names) := by
  unfold judgeOwner
  cases names.owner with
  | none => exact .refl _
  | some o => exact decl_bind_yields hJ o _

theorem judgeTemplate_yields : Yields (c.judgeTemplate J d args) (c.judgeTemplate J' d args) := by
  unfold judgeTemplate
  cases d.template? args with
  | none => exact .refl _
  | some o => exact decl_bind_yields hJ o _

theorem judgeOnce_yields : Yields (c.judgeOnce J d args) (c.judgeOnce J' d args) := by
  unfold judgeOnce
  refine .bind (.refl _) fun names _ => ?_
  split
  · exact .refl _
  · refine .bind (judgeOwner_yields hJ names) fun owner _ => ?_
    split
    · exact .refl _
    · exact .bind (judgeTemplate_yields hJ) fun _ _ => .refl _

end Rules

theorem judgeAt_yields (room : Nat) (d : Decl) (args : List String) :
    Yields (c.judgeAt room d args) (c.judgeAt (room + 1) d args) := by
  induction room generalizing d args with
  | zero =>
    intro id h
    cases h
  | succ room ih => exact judgeOnce_yields fun e _ => ih e []

structure Passed (c : Casting) (room : Nat) (passed : List DeclId) : Prop where
  nodup : passed.Nodup
  declared : ∀ o ∈ passed, ∃ d, c.program.get? o = some d ∧ ∀ id, c.judgeAt room d [] ≠ .ok id

theorem Passed.less {room : Nat} {passed : List DeclId} (h : c.Passed (room + 1) passed) :
    c.Passed room passed := by
  refine ⟨h.nodup, fun o ho => ?_⟩
  obtain ⟨d, hd, hnot⟩ := h.declared o ho
  exact ⟨d, hd, fun id hid => hnot id (judgeAt_yields room d [] id hid)⟩

theorem Passed.length_le {room : Nat} {passed : List DeclId} (h : c.Passed room passed) :
    passed.length ≤ c.program.size := by
  have hlen : passed.length ≤ (c.program.decls.map (·.id)).length := by
    refine h.nodup.length_le_of_subset fun o ho => ?_
    obtain ⟨d, hd, -⟩ := h.declared o ho
    obtain ⟨hmem, rfl⟩ := Program.mem_of_get? hd
    exact List.mem_map_of_mem hmem
  rwa [List.length_map] at hlen

/-- Whatever room it took, a declaration can be judged with as much room as there are declarations
left. -/
theorem judgeAt_of_passed {taken : Nat} {passed : List DeclId} (hpassed : c.Passed taken passed)
    (hd : c.program.Declares d) (h : c.judgeAt taken d [] = .ok id) {room : Nat}
    (hroom : c.program.size < passed.length + room) : c.judgeAt room d [] = .ok id := by
  induction taken generalizing d id passed room with
  | zero => cases h
  | succ taken ih =>
    by_cases hless : ∃ id', c.judgeAt taken d [] = .ok id'
    · obtain ⟨id', hid'⟩ := hless
      cases h.symm.trans (judgeAt_yields taken d [] id' hid')
      exact ih hpassed.less hd hid' hroom
    · -- The declaration takes all of this room, unlike any that it leads to.
      have hpassed' : c.Passed taken (d.id :: passed) := by
        refine ⟨List.nodup_cons.2 ⟨fun hmem => ?_, hpassed.nodup⟩,
          List.forall_mem_cons.2 ⟨?_, hpassed.less.declared⟩⟩
        · obtain ⟨_, hget, hnot⟩ := hpassed.declared d.id hmem
          cases hget.symm.trans hd
          exact hnot id h
        · exact ⟨d, hd, fun id' hid' => hless ⟨id', hid'⟩⟩
      have hlength := hpassed'.length_le
      rw [List.length_cons] at hlength
      obtain ⟨room, rfl⟩ : ∃ less, room = less + 1 := ⟨room - 1, by omega⟩
      refine judgeOnce_yields (fun e he id' hid' => ih hpassed' he hid' ?_) id h
      rw [List.length_cons]
      omega

theorem judgeAt_of_ok {taken : Nat} (hd : c.program.Declares d)
    (h : c.judgeAt taken d [] = .ok id) : c.judgeAt (c.program.size + 1) d [] = .ok id :=
  judgeAt_of_passed ⟨List.nodup_nil, List.forall_mem_nil _⟩ hd h (by simp)

theorem judgeOnce_of_recalled
    (hJ : ∀ o id, r.Notes o [] id → ∃ e, c.program.decl o = .ok e ∧ J e = .ok id)
    (hids : ∀ q ∈ r.participants, q.id = c.idOf q.key) (h : c.Justifies r d args id) :
    c.judgeOnce J d args = .ok id := by
  -- Failures do not matter here, so none of them has to be for want of room.
  let J₀ (e : Decl) : Except Fault ParticipantId :=
    match J e with
    | .ok id => .ok id
    | .error _ => .error (.malformed (.unknownDecl e.id))
  have hyields (e : Decl) : Yields (J₀ e) (J e) := by
    intro id hid
    cases hrun : J e with
    | ok id' => simpa [J₀, hrun] using hid
    | error f => simp [J₀, hrun] at hid
  have hrecalls : c.Recalls J₀ r := by
    intro o id hid
    obtain ⟨e, he, hrun⟩ := hJ o id hid
    exact ⟨e, he, .inr (by simp [J₀, hrun])⟩
  have hends (e : Decl) : ¬ Endless (J₀ e) := by
    rintro ⟨_, hid⟩
    cases hrun : J e <;> simp [J₀, hrun] at hid
  refine judgeOnce_yields (fun e _ => hyields e) id ?_
  rcases judgeOnce_of_justifies hrecalls hids h with hendless | heq
  · exact absurd hendless (judgeOnce_not_endless fun _ e _ _ => hends e)
  · exact heq

theorem judgeAt_eq_of_notes (hr : c.Drawn r) (hdistinct : c.Distinct r) (hd : c.program.Declares d)
    (h : r.Notes d.id args id) : c.judgeAt (c.program.size + 2) d args = .ok id := by
  induction hr generalizing d args id with
  | refl => cases h
  | @tail mid last hmid hstep ih =>
    have hdistinct' : c.Distinct mid := hdistinct.of_keptIn hstep.kept
    cases hstep with
    | join _ =>
      rw [Roster.Notes, Roster.insert_known] at h
      exact ih hdistinct' hd h
    | @note d' args' id' hd' hjust =>
      rcases List.mem_cons.1 h with heq | hold
      · obtain ⟨⟨hid, rfl⟩, rfl⟩ : (d.id = d'.id ∧ args = args') ∧ id = id' := by simpa using heq
        rw [Program.Declares, hid] at hd
        cases hd.symm.trans hd'
        refine judgeOnce_of_recalled ?_ (fun q hq => Drawn.id_eq hmid hdistinct' hq) hjust
        intro o id hid
        obtain ⟨e, he, -⟩ := Drawn.informed hmid o [] id hid
        obtain ⟨hdeclares, rfl⟩ := Program.declares_of_get? he
        exact ⟨e, Program.decl_eq_ok_iff.2 he,
          judgeAt_of_ok hdeclares (ih hdistinct' hdeclares hid)⟩
      · exact ih hdistinct' hd hold

theorem internDecl_judged (hr : c.Drawn r) (hd : c.program.Declares d)
    (hdistinct : c.Distinct (c.internDecl d args r).2) (h : (c.internDecl d args r).1 = .ok id) :
    c.judgeAt (c.program.size + 2) d args = .ok id := by
  have hdoes :
    c.Does (fun _ => True) (c.judgeAt (c.program.size + 2) d args)
      (fun id r' => r'.Notes d.id args id) r
      (c.internDecl d args r).1 (c.internDecl d args r).2 := (internAt_does hr hd _).result
  have hnoted := hdoes.outcome
  rw [h] at hnoted
  exact judgeAt_eq_of_notes (hr.trans hdoes.rel) hdistinct hd hnoted

theorem judge_of_intern (hr : c.Drawn r) {e : Entity} (he : e.Within c.program)
    (hdistinct : c.Distinct (c.intern e r).2) (h : (c.intern e r).1 = .ok id) :
    c.judge r e = .ok id := by
  have htold := (intern_drawn hr he).result.told trivial hdistinct
  rw [h] at htold
  cases e with
  | decl d => exact internDecl_judged hr he hdistinct h
  | instantiation d args => exact internDecl_judged hr he hdistinct h
  | coroutineState p =>
    refine htold.resolve_left ?_
    rintro ⟨_, hid⟩
    rw [judge] at hid
    split at hid <;> cases hid
  | external name =>
    refine htold.resolve_left ?_
    rw [judge]
    split <;> exact not_endless_ok _

theorem Consistent.intern_ok (h : c.Consistent r r') {e : Entity} (hwithin : e.Within c.program)
    (he : ∀ p, e = .coroutineState p → r.isVisible p = true ∧ r'.isVisible p = true)
    (hok : (c.intern e r).1 = .ok id) : c.Interned e (c.intern e r) (c.intern e r') := by
  refine h.interned hwithin he fun hseparates => ?_
  have hjudged := judge_of_intern h.left hwithin hseparates.left hok
  have htold := (intern_drawn h.right hwithin).result.told trivial hseparates.right
  rw [← h.judge_eq he, hjudged] at htold
  rw [hok]
  exact (htold.resolve_left (not_endless_ok _)).symm

end Casting

end Lifeline
