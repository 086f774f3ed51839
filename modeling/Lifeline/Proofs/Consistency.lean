import Lifeline.Proofs.History

namespace Lifeline

namespace Casting

variable {c : Casting} {r r' q q' : Roster} {id : ParticipantId}

/-- Different keys on any of two rosters go with different ids. -/
def Separates (c : Casting) (r r' : Roster) : Prop :=
  ∀ x ∈ r.participants ++ r'.participants, ∀ y ∈ r.participants ++ r'.participants,
    c.idOf x.key = c.idOf y.key → x.key = y.key

theorem Separates.left (h : c.Separates r r') : c.Distinct r :=
  fun x hx y hy => h x (Array.mem_append_left _ hx) y (Array.mem_append_left _ hy)

theorem Separates.right (h : c.Separates r r') : c.Distinct r' :=
  fun x hx y hy => h x (Array.mem_append_right _ hx) y (Array.mem_append_right _ hy)

theorem Separates.of_extends (h : c.Separates q q') (hr : r.Extends q) (hr' : r'.Extends q') :
    c.Separates r r' := by
  have hmem {x : Participant} (hx : x ∈ r.participants ++ r'.participants) :
      x ∈ q.participants ++ q'.participants := by
    rw [Array.mem_append, ← Array.mem_toList_iff, ← Array.mem_toList_iff] at hx ⊢
    exact hx.imp (hr.participants.subset ·) (hr'.participants.subset ·)
  exact fun x hx y hy => h x (hmem hx) y (hmem hy)

/-- Two rosters on which nobody is mistaken for somebody else. -/
structure Consistent (c : Casting) (r r' : Roster) : Prop where
  left : c.Drawn r
  right : c.Drawn r'
  separates : c.Separates r r'

theorem Consistent.get? (h : c.Consistent r r') (hid : r.isVisible id = true)
    (hid' : r'.isVisible id = true) :
    ∃ x y, r.get? id = some x ∧ r'.get? id = some y ∧ y.kind = x.kind ∧
      y.fullName = x.fullName := by
  obtain ⟨x, hx⟩ := Roster.exists_of_isVisible hid
  obtain ⟨y, hy⟩ := Roster.exists_of_isVisible hid'
  refine ⟨x, y, hx, hy, Participant.keyOf_inj.1 ?_⟩
  obtain ⟨hxmem, hxid⟩ := Roster.mem_of_get? hx
  obtain ⟨hymem, hyid⟩ := Roster.mem_of_get? hy
  refine h.separates y (Array.mem_append_right _ hymem) x (Array.mem_append_left _ hxmem) ?_
  rw [← h.left.id_eq h.separates.left hxmem, ← h.right.id_eq h.separates.right hymem, hxid, hyid]

theorem Consistent.judge_eq (h : c.Consistent r r') {e : Entity}
    (he : ∀ p, e = .coroutineState p → r.isVisible p = true ∧ r'.isVisible p = true) :
    c.judge r e = c.judge r' e := by
  cases e with
  | coroutineState p =>
    obtain ⟨hp, hp'⟩ := he p rfl
    obtain ⟨x, y, hx, hy, -, hname⟩ := h.get? hp hp'
    simp only [judge, hx, hy, Participant.key, stateDraft, draft, stateName, hname]
  | decl d => rfl
  | instantiation d args => rfl
  | external name => rfl

theorem judge_state_ne (hid : r.isVisible id = true) :
    ¬ Comes (c.judge r (.coroutineState id)) (.ok .tombstone) := by
  obtain ⟨x, hx⟩ := Roster.exists_of_isVisible hid
  simp only [judge, hx]
  rintro (hendless | heq)
  · exact not_endless_ok _ hendless
  · exact c.idOf_ne_tombstone _ (Except.ok.inj heq)

inductive Interned (c : Casting) (e : Entity) :
    Except Fault ParticipantId × Roster → Except Fault ParticipantId × Roster → Prop
  | lost {x y : Except Fault ParticipantId} {q q' : Roster} : ¬ c.Separates q q' →
    Interned c e (x, q) (y, q')
  | failed {f : Fault} {q q' : Roster} : c.Consistent q q' →
    Interned c e (.error f, q) (.error f, q')
  | excluded {q q' : Roster} : c.Consistent q q' → (∀ p, e ≠ .coroutineState p) →
    Interned c e (.ok .tombstone, q) (.ok .tombstone, q')
  | seen {p : ParticipantId} {q q' : Roster} : c.Consistent q q' →
    q.isVisible p = true → q'.isVisible p = true → Interned c e (.ok p, q) (.ok p, q')

theorem Consistent.interned (h : c.Consistent r r') {e : Entity} (hwithin : e.Within c.program)
    (he : ∀ p, e = .coroutineState p → r.isVisible p = true ∧ r'.isVisible p = true)
    (heq : c.Separates (c.intern e r).2 (c.intern e r').2 → (c.intern e r').1 = (c.intern e r).1) :
    c.Interned e (c.intern e r) (c.intern e r') := by
  have hdoes := (intern_drawn h.left hwithin).result
  have hdoes' := (intern_drawn h.right hwithin).result
  have hseen := (intern_grows (c := c) h.left.sound e).result.outcome
  have hseen' := (intern_grows (c := c) h.right.sound e).result.outcome
  generalize c.intern e r = x, c.intern e r' = y at *
  by_cases hseparates : c.Separates x.2 y.2
  · have hnow : c.Consistent x.2 y.2 :=
      ⟨h.left.trans hdoes.rel, h.right.trans hdoes'.rel, hseparates⟩
    rcases x with ⟨f | p, q⟩ <;> rcases y with ⟨f' | p', q'⟩ <;> cases heq hseparates
    · exact .failed hnow
    · by_cases hid : p = .tombstone
      · subst hid
        refine .excluded hnow ?_
        rintro p rfl
        exact judge_state_ne (he p rfl).1 (hdoes.told trivial hseparates.left)
      · exact .seen hnow (hseen hid) (hseen' hid)
  · exact .lost hseparates

theorem Consistent.intern (hp : c.program.Acyclic) (h : c.Consistent r r') {e : Entity}
    (hwithin : e.Within c.program)
    (he : ∀ p, e = .coroutineState p → r.isVisible p = true ∧ r'.isVisible p = true) :
    c.Interned e (c.intern e r) (c.intern e r') := by
  refine h.interned hwithin he fun hseparates => ?_
  rw [intern_eq_judge hp h.left hwithin hseparates.left,
    intern_eq_judge hp h.right hwithin hseparates.right, h.judge_eq he]

end Casting

end Lifeline
