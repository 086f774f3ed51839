import Lifeline.Proofs.Resolution

namespace Lifeline

namespace Casting

def changing (c : Casting) (S : Participant → Prop) : InternLaw c where
  inv := c.Drawn
  rel := c.Changes S
  fault _ := True
  about := c.program.Declares
  told := True
  refl := .refl
  trans := Changes.trans
  keeps := Drawn.trans
  kept := Changes.kept
  sound := Changes.sound
  file file _ := .single (.join (.file file))
  join hr hd hdraws := .single (.join (.decl hd (hdraws hr.sound)))
  note hr hd _ h hjust := h.tail (.note hd (hjust hr.sound))
  drawn _ h := h
  declared _ h := h

abbrev Does (c : Casting) (S : Participant → Prop) (spec : Except Fault α) (ok : α → Roster → Prop)
    (r : Roster) : Except Fault α → Roster → Prop :=
  (c.changing S).Post spec ok r

/-- The participant that an entity is drawn as. Only the state of a coroutine needs the roster. -/
def judge (c : Casting) (r : Roster) : Entity → Except Fault ParticipantId
  | .decl d => c.judgeAt (c.program.size + 2) d []
  | .instantiation d args =>
    c.judgeAt (c.program.size + 2) d (if d.templateArgs.isEmpty then args else [])
  | .coroutineState coroutine =>
    match r.get? coroutine with
    | none => .error (.malformed (.unknownCoroutine coroutine))
    | some base => .ok (c.idOf (stateDraft base).key)
  | .external name =>
    if !c.filter (externalCandidate name) then .ok .tombstone
    else .ok (c.idOf (externalDraft name).key)

def identity (c : Casting) (r : Roster) : Entity → Except Fault (ParticipantKind × String)
  | .decl d => do
    let names ← c.names d []
    return (names.kind, names.fullName)
  | .instantiation d args => do
    let names ← c.names d (if d.templateArgs.isEmpty then args else [])
    return (names.kind, names.fullName)
  | .coroutineState coroutine =>
    match r.get? coroutine with
    | none => .error (.malformed (.unknownCoroutine coroutine))
    | some base => .ok (.coroutineState, stateName base)
  | .external name => .ok (.external, name)

/-- The id of somebody on the roster with this kind and full name, or the tombstone. -/
def Depicts (x : Except Fault (ParticipantKind × String)) (id : ParticipantId)
    (r : Roster) : Prop :=
  id ≠ .tombstone → ∃ q ∈ r.participants, q.id = id ∧ x = .ok (q.kind, q.fullName)

variable {c : Casting} {S : Participant → Prop} {r : Roster} {d : Decl} {args : List String}
  {p : Participant}

theorem internAt_does (hr : c.Drawn r) (hd : c.program.Declares d) (room : Nat) :
    Agree (c.internAt room d args) (c.internAt room d args) r
      (c.Does S (c.judgeAt room d args) (fun id r' => r'.Notes d.id args id) r) := by
  have hrefers (e : Decl) : c.Refers (fun _ => True) c.program.Declares e :=
    (Refers.of_true c e).imp fun _ _ _ he =>
      (Program.declares_of_get? (Program.decl_eq_ok_iff.1 he)).1
  refine ((c.changing S).internAt_agree (fun e _ => hrefers e) (fun _ => trivial) hd hr room).mono
    ?_
  rintro (f | id) r' ⟨hchanges, houtcome, htold⟩
  · exact ⟨hchanges, trivial, htold⟩
  · exact ⟨hchanges, Roster.notes_of_remembered? houtcome, htold⟩

theorem insert_depicts (hr : c.Drawn r) (hjoins : c.Joins S r p) :
    Agree (c.insert p) (c.insert p) r
      (c.Does S (.ok (c.idOf p.key)) (Depicts (.ok (p.kind, p.fullName))) r) := by
  refine (InternLaw.post_insert (L := c.changing S) hr (.single (.join hjoins))).mono ?_
  rintro (f | id) r' ⟨hchanges, houtcome, htold⟩
  · exact ⟨hchanges, trivial, htold⟩
  · obtain ⟨q, hq, hid, hkey⟩ := houtcome
    obtain ⟨hkind, hname⟩ := Participant.keyOf_inj.1 hkey
    exact ⟨hchanges, fun _ => ⟨q, hq, hid, by rw [hkind, hname]⟩, htold⟩

theorem internDecl_depicts (hr : c.Drawn r) (hd : c.program.Declares d) :
    Agree (c.internDecl d args) (c.internDecl d args) r
      (c.Does S (c.judgeAt (c.program.size + 2) d args) (Depicts do
        let names ← c.names d args
        return (names.kind, names.fullName)) r) := by
  refine (internAt_does (S := S) hr hd _).mono ?_
  rintro (f | id) r' ⟨hchanges, houtcome, htold⟩
  · exact ⟨hchanges, trivial, htold⟩
  · refine ⟨hchanges, fun hne => ?_, htold⟩
    obtain ⟨_, names, hget, haccepts, q, hq, hid, hkind, hname⟩ :=
      (hr.trans hchanges).informed.seen houtcome hne
    cases hget.symm.trans hd
    refine ⟨q, hq, hid, ?_⟩
    rw [haccepts.named, hkind, hname]
    rfl

theorem internExternal_eq (name : String) : c.internExternal name =
    if !c.filter (externalCandidate name) then pure .tombstone
    else c.insert (externalDraft name) := rfl

theorem intern_does (hr : c.Drawn r) {e : Entity} (he : e.Within c.program)
    (hS : ∀ p base, e = .coroutineState p → r.get? p = some base → S base) :
    Agree (c.intern e) (c.intern e) r (c.Does S (c.judge r e) (Depicts (c.identity r e)) r) := by
  cases e with
  | decl d => exact internDecl_depicts hr he
  | instantiation d args => exact internDecl_depicts hr he
  | coroutineState p =>
    simp only [judge, identity]
    refine .get_bind ?_
    cases hbase : r.get? p with
    | none => exact .throw ⟨.refl, trivial, fun _ _ => .refl _⟩
    | some base =>
      exact insert_depicts hr (.state (Roster.mem_of_get? hbase).1 (hS p base rfl hbase))
  | external name =>
    rw [intern, internExternal_eq]
    simp only [judge]
    split
    · exact .pure ⟨.refl, fun hne => absurd rfl hne, fun _ _ => .refl _⟩
    case isFalse hadmitted => exact insert_depicts hr (.external (by simpa using hadmitted))

theorem intern_drawn (hr : c.Drawn r) {e : Entity} (he : e.Within c.program) :
    Agree (c.intern e) (c.intern e) r
      (c.Does (fun _ => True) (c.judge r e) (Depicts (c.identity r e)) r) :=
  intern_does hr he fun _ _ _ _ => trivial

/-- The rosters that interning what is in the program leads to. -/
inductive Enrolled (c : Casting) : Roster → Prop
  | empty : Enrolled c {}
  | intern {r : Roster} {e : Entity} : Enrolled c r → e.Within c.program →
    Enrolled c (c.intern e r).2

theorem Enrolled.drawn (h : c.Enrolled r) : c.Drawn r := by
  induction h with
  | empty => exact .refl
  | intern _ he ih => exact ih.trans (intern_drawn ih he).result.rel

end Casting

end Lifeline
