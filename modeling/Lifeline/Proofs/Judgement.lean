import Lifeline.Proofs.Provenance

/-! What interning comes to, said without a roster. As long as different keys have different ids,
interning gives what is said here, whatever the roster remembers. -/

namespace Lifeline

def Endless (x : Except Fault α) : Prop :=
  ∃ id, x = .error (.malformed (.endlessOrigin id))

/-- One computation comes to the other, unless it fails for want of room. -/
def Comes (x y : Except Fault α) : Prop :=
  Endless x ∨ x = y

namespace Comes

variable {x y : Except Fault α} {k : α → Except Fault β}

theorem refl (x : Except Fault α) : Comes x x := .inr rfl

theorem bind {a : α} {y : Except Fault β} (h : Comes x (.ok a)) (hk : Comes (k a) y) :
    Comes (x >>= k) y := by
  rcases h with ⟨id, rfl⟩ | rfl
  · exact .inl ⟨id, rfl⟩
  · exact hk

theorem bind_error {f : Fault} (h : Comes x (.error f)) : Comes (x >>= k) (.error f) := by
  rcases h with ⟨id, rfl⟩ | rfl
  · exact .inl ⟨id, rfl⟩
  · exact .refl _

end Comes

namespace Casting

def idOf (c : Casting) (key : String) : ParticipantId :=
  if c.seed key = 0 then ⟨1⟩ else ⟨c.seed key⟩

/-- Different keys on the roster go with different ids. -/
def Distinct (c : Casting) (r : Roster) : Prop :=
  ∀ p ∈ r.participants, ∀ q ∈ r.participants, c.idOf p.key = c.idOf q.key → p.key = q.key

def judgeOwner (c : Casting) (judge : Decl → Except Fault ParticipantId) (d : Decl)
    (names : Naming.CallableNames) : Except Fault (Option ParticipantId) := do
  match names.owner with
  | some o => return some (← judge (← c.program.decl o))
  | none =>
    match d.location with
    | some l =>
      if names.kind == .function && c.mergeFiles then return some (c.idOf (fileDraft l.file).key)
      else return none
    | none => return none

def judgeTemplate (c : Casting) (judge : Decl → Except Fault ParticipantId) (d : Decl)
    (args : List String) : Except Fault (Option ParticipantId) := do
  match d.template? args with
  | none => return none
  | some o =>
    let id ← judge (← c.program.decl o)
    return if id = .tombstone then none else some id

def judgeOnce (c : Casting) (judge : Decl → Except Fault ParticipantId) (d : Decl)
    (args : List String) : Except Fault ParticipantId := do
  let names ← c.names d args
  if !c.filter (c.candidate d names) then return .tombstone
  let owner ← c.judgeOwner judge d names
  if owner == some .tombstone then return .tombstone
  let _ ← c.judgeTemplate judge d args
  return c.idOf (Participant.keyOf names.kind names.fullName)

/-- The participant of a declaration with call-site arguments, with as much room as `internAt`. -/
def judgeAt (c : Casting) : (room : Nat) → Decl → List String → Except Fault ParticipantId
  | 0, d, _ => .error (.malformed (.endlessOrigin d.id))
  | room + 1, d, args => c.judgeOnce (c.judgeAt room · []) d args

variable {c : Casting} {r r' : Roster} {d : Decl} {args : List String} {q : Participant}
  {id : ParticipantId}
variable {names : Naming.CallableNames} {J : Decl → Except Fault ParticipantId}

theorem idOf_ne_tombstone (c : Casting) (key : String) : c.idOf key ≠ .tombstone := by
  unfold idOf
  split
  case isTrue => decide
  case isFalse h => simpa [ParticipantId.tombstone] using h

theorem Distinct.of_keptIn (h : c.Distinct r') (hr : r.KeptIn r') : c.Distinct r :=
  fun p hp q hq => h p (hr.mem hp) q (hr.mem hq)

theorem freeId_eq_idOf {key : String} (hfree : r.uses (c.idOf key) = false) :
    r.freeId (r.size + 2) (c.seed key) = c.idOf key := by
  have hid : r.IsFree (c.idOf key) := ⟨c.idOf_ne_tombstone key, hfree⟩
  by_cases hzero : c.seed key = 0
  · -- The search starts at the tombstone and passes it.
    have htombstone : ¬ r.IsFree ⟨c.seed key⟩ := fun h => h.1 (congrArg ParticipantId.mk hzero)
    rw [idOf, if_pos hzero] at hid ⊢
    rw [Roster.freeId_of_not_isFree htombstone, hzero, UInt64.zero_add, Roster.freeId_of_isFree hid]
  · rw [idOf, if_neg hzero] at hid ⊢
    exact Roster.freeId_of_isFree hid _

theorem Drawn.id_eq (h : c.Drawn r) (hdistinct : c.Distinct r) (hq : q ∈ r.participants) :
    q.id = c.idOf q.key := by
  induction h generalizing q with
  | refl => simp at hq
  | @tail mid last _ hstep ih =>
    have hbefore {q : Participant} (hq : q ∈ mid.participants) : q.id = c.idOf q.key :=
      ih (hdistinct.of_keptIn hstep.kept) hq
    rcases hstep.participants with heq | ⟨p, id, -, hnew, hid, heq⟩
    · rw [heq] at hq
      exact hbefore hq
    · rw [Distinct, heq] at hdistinct
      rw [heq] at hq
      rcases Array.mem_push.1 hq with hold | rfl
      · exact hbefore hold
      · -- Whoever had this id already would have the same key.
        refine hid.trans (freeId_eq_idOf (Bool.eq_false_iff.2 fun hused => ?_))
        obtain ⟨q, hq, hqid⟩ := Roster.uses_iff.1 hused
        rw [Array.mem_toList_iff] at hq
        refine hnew q hq
          (hdistinct q (Array.mem_push_of_mem _ hq) { p with id } Array.mem_push_self ?_)
        rw [← hbefore hq, hqid]
        rfl

def Recalls (c : Casting) (J : Decl → Except Fault ParticipantId) (r : Roster) : Prop :=
  ∀ o id, r.Notes o [] id → ∃ e, c.program.decl o = .ok e ∧ Comes (J e) (.ok id)

theorem judgeOwner_of_none (ho : names.owner = none) :
    ∃ owner, c.judgeOwner J d names = .ok owner ∧ owner ≠ some .tombstone := by
  unfold judgeOwner
  rw [ho]
  cases d.location with
  | none => exact ⟨none, rfl, by simp⟩
  | some l =>
    dsimp only
    split
    · exact ⟨_, rfl, mt Option.some.inj (c.idOf_ne_tombstone _)⟩
    · exact ⟨none, rfl, by simp⟩

theorem judgeOwner_of_drawnOn (hJ : c.Recalls J r)
    (hids : ∀ q ∈ r.participants, q.id = c.idOf q.key) {owner : Option ParticipantId}
    (h : r.DrawnOn names owner) :
    ∃ x, Comes (c.judgeOwner J d names) (.ok x) ∧
      (x = some .tombstone ↔ owner = some .tombstone) := by
  have hnone (ho : names.owner = none) (hseen : owner ≠ some .tombstone) :
      ∃ x, Comes (c.judgeOwner J d names) (.ok x) ∧
        (x = some .tombstone ↔ owner = some .tombstone) := by
    obtain ⟨x, hx, hxseen⟩ := judgeOwner_of_none (c := c) (J := J) (d := d) ho
    exact ⟨x, .inr hx, iff_of_false hxseen hseen⟩
  cases h with
  | own ho => exact hnone ho (by simp)
  | @cls o id ho hknown =>
    obtain ⟨e, he, hcomes⟩ := hJ o id hknown
    refine ⟨some id, ?_, .rfl⟩
    unfold judgeOwner
    rw [ho]
    exact .bind (.inr he) (hcomes.bind (.refl _))
  | @file q ho _ hq _ =>
    refine hnone ho (mt Option.some.inj ?_)
    rw [hids q hq]
    exact c.idOf_ne_tombstone _

theorem judgeTemplate_of_origin (hJ : c.Recalls J r) {origin : Option ParticipantId}
    (h : r.Origin (d.template? args) origin) : ∃ x, Comes (c.judgeTemplate J d args) (.ok x) := by
  unfold judgeTemplate
  generalize d.template? args = template at h ⊢
  cases h with
  | none => exact ⟨none, .refl _⟩
  | hidden hknown =>
    obtain ⟨e, he, hcomes⟩ := hJ _ _ hknown
    exact ⟨_, .bind (.inr he) (hcomes.bind (.refl _))⟩
  | seen hknown _ =>
    obtain ⟨e, he, hcomes⟩ := hJ _ _ hknown
    exact ⟨_, .bind (.inr he) (hcomes.bind (.refl _))⟩

theorem judgeOnce_of_justifies (hJ : c.Recalls J r)
    (hids : ∀ q ∈ r.participants, q.id = c.idOf q.key) (h : c.Justifies r d args id) :
    Comes (c.judgeOnce J d args) (.ok id) := by
  unfold judgeOnce
  cases h with
  | refused hnames hfilter =>
    refine .bind (.inr hnames) ?_
    rw [if_pos (by simpa using hfilter)]
    exact .refl _
  | ownerHidden hnames howner =>
    refine .bind (.inr hnames) ?_
    split
    · exact .refl _
    · obtain ⟨owner, hcomes, hhidden⟩ := judgeOwner_of_drawnOn (d := d) hJ hids howner
      refine hcomes.bind ?_
      rw [if_pos (by simpa using hhidden)]
      exact .refl _
  | @drawn p q hdraws hq hkey =>
    cases hdraws with
    | mk haccepts howner hseen horigin =>
      refine .bind (.inr haccepts.named) ?_
      rw [if_neg (by simpa using haccepts.admitted)]
      obtain ⟨owner, hcomes, hhidden⟩ := judgeOwner_of_drawnOn (d := d) hJ hids howner
      refine hcomes.bind ?_
      rw [if_neg (by simpa using mt hhidden.1 hseen)]
      obtain ⟨_, horigin⟩ := judgeTemplate_of_origin hJ horigin
      refine horigin.bind ?_
      rw [hids q hq, hkey]
      exact .refl _

/-- What was noted is what would be found again. -/
theorem judgeAt_of_notes (hr : c.Drawn r) (hdistinct : c.Distinct r) (hd : c.program.Declares d)
    (room : Nat) (h : r.Notes d.id args id) : Comes (c.judgeAt room d args) (.ok id) := by
  induction room generalizing d args id with
  | zero => exact .inl ⟨d.id, rfl⟩
  | succ room ih =>
    have hinformed := hr.informed
    -- A note rests on other notes, and those are judged with less room.
    have hJ : c.Recalls (c.judgeAt room · []) r := by
      intro o id hid
      obtain ⟨e, he, -⟩ := hinformed o [] id hid
      obtain ⟨hdeclares, rfl⟩ := Program.declares_of_get? he
      exact ⟨e, Program.decl_eq_ok_iff.2 he, ih hdeclares hid⟩
    obtain ⟨_, hget, hjust⟩ := hinformed d.id args id h
    cases hget.symm.trans hd
    exact judgeOnce_of_justifies hJ (fun q hq => hr.id_eq hdistinct hq) hjust

end Casting

end Lifeline
