import Lifeline.Proofs.Depiction

namespace Lifeline

theorem find?_filter_of_imp {p f : α → Bool} {xs : List α} (h : ∀ x ∈ xs, f x = true → p x = true) :
    (xs.filter p).find? f = xs.find? f := by
  induction xs with
  | nil => rfl
  | cons x xs ih =>
    obtain ⟨hx, hxs⟩ := List.forall_mem_cons.1 h
    cases hp : p x with
    | true => simp [hp, List.find?_cons, ih hxs]
    | false =>
      have hf : f x = false := Bool.eq_false_iff.2 fun hf => Bool.eq_false_iff.1 hp (hx hf)
      simp [hp, hf, ih hxs]

namespace Roster

variable {r r' : Roster} {id : ParticipantId} {p : Participant}

def internal (r : Roster) : Roster :=
  { r with participants := r.participants.filter (·.kind != .external) }

def isExternal (r : Roster) (id : ParticipantId) : Bool :=
  (r.get? id).any (·.kind == .external)

def Hosts (r : Roster) (id : ParticipantId) : Prop :=
  ∃ q ∈ r.participants, q.id = id ∧ q.kind ≠ .external

theorem mem_internal : p ∈ r.internal.participants ↔ p ∈ r.participants ∧ p.kind ≠ .external := by
  simp [internal]

theorem find?_internal {f : Participant → Bool}
    (h : ∀ q ∈ r.participants, f q = true → q.kind ≠ .external) :
    r.internal.participants.find? f = r.participants.find? f := by
  unfold internal
  rw [← Array.find?_toList, ← Array.find?_toList, Array.toList_filter]
  refine find?_filter_of_imp fun q hq hf => ?_
  simpa using h q (Array.mem_toList_iff.1 hq) hf

theorem internal_push (hp : p.kind ≠ .external) :
    { r with participants := r.participants.push p }.internal =
      { r.internal with participants := r.internal.participants.push p } := by
  simp [internal, hp]

theorem internal_push_external (hp : p.kind = .external) :
    { r with participants := r.participants.push p }.internal = r.internal := by
  simp [internal, hp]

theorem Hosts.mono (h : r.Hosts id) (hr : r.KeptIn r') : r'.Hosts id := by
  obtain ⟨q, hq, hid, hkind⟩ := h
  exact ⟨q, hr.mem hq, hid, hkind⟩

end Roster

namespace Casting

/-- Nobody is mistaken for somebody else, and no declaration for what is known by name only. -/
structure Clear (c : Casting) (r : Roster) : Prop where
  distinct : c.Distinct r
  ids : ∀ q ∈ r.participants, q.id = c.idOf q.key
  notes : ∀ o args id, r.Notes o args id → id = .tombstone ∨ r.Hosts id

variable {c : Casting} {r r' : Roster} {d : Decl} {args : List String} {p q : Participant}
  {id : ParticipantId}

theorem names_kind_ne_external {names : Naming.CallableNames} (h : c.names d args = .ok names) :
    names.kind ≠ .external := by
  cases names_cases h with
  | record _ hkind _ =>
    rw [hkind]
    split <;> simp
  | function _ hkind _ => simp [hkind]
  | closure _ hkind _ => simp [hkind]
  | method _ hkind _ _ _ _ _ => simp [hkind]

theorem Drawn.clear (h : c.Drawn r) (hdistinct : c.Distinct r) : c.Clear r := by
  refine ⟨hdistinct, fun q hq => h.id_eq hdistinct hq, fun o args id hid => ?_⟩
  by_cases hne : id = .tombstone
  · exact .inl hne
  · obtain ⟨_, names, -, haccepts, q, hq, hqid, hkind, -⟩ := h.informed.seen hid hne
    exact .inr ⟨q, hq, hqid, hkind ▸ names_kind_ne_external haccepts.named⟩

theorem Clear.kind_eq (h : c.Clear r) (hp : p ∈ r.participants) (hq : q ∈ r.participants)
    (hid : p.id = q.id) : p.kind = q.kind := by
  have hkey := h.distinct p hp q hq (by rw [← h.ids p hp, ← h.ids q hq, hid])
  exact (Participant.keyOf_inj.1 hkey).1

theorem Clear.get?_internal (h : c.Clear r) (hid : r.Hosts id) :
    r.internal.get? id = r.get? id := by
  obtain ⟨p, hp, hpid, hkind⟩ := hid
  refine Roster.find?_internal fun q hq hqid => ?_
  rw [h.kind_eq hq hp ((eq_of_beq hqid).trans hpid.symm)]
  exact hkind

theorem Distinct.of_extends (h : c.Distinct r') (hr : r.Extends r') : c.Distinct r := by
  have hmem {p : Participant} (hp : p ∈ r.participants) : p ∈ r'.participants :=
    Array.mem_toList_iff.1 (hr.participants.subset (Array.mem_toList_iff.2 hp))
  exact fun p hp q hq => h p (hmem hp) q (hmem hq)

theorem hosts_of_isVisible (h : r.internal.isVisible id = true) : r.Hosts id := by
  obtain ⟨q, hq, hid⟩ := Roster.uses_iff.1 (Roster.isVisible_iff.1 h).2
  obtain ⟨hmem, hkind⟩ := Roster.mem_internal.1 (Array.mem_toList_iff.1 hq)
  exact ⟨q, hmem, hid, hkind⟩

theorem Clear.isVisible_internal (h : c.Clear r) (hid : r.Hosts id) :
    r.internal.isVisible id = true := by
  obtain ⟨q, hq, rfl, hkind⟩ := hid
  refine Roster.isVisible_iff.2 ⟨?_, Roster.uses_of_mem (Roster.mem_internal.2 ⟨hq, hkind⟩)⟩
  rw [h.ids q hq]
  exact c.idOf_ne_tombstone q.key

theorem Clear.isVisible (h : c.Clear r) (hid : r.Hosts id) : r.isVisible id = true := by
  obtain ⟨q, hq, rfl, hkind⟩ := hid
  refine Roster.isVisible_iff.2 ⟨?_, Roster.uses_of_mem hq⟩
  rw [h.ids q hq]
  exact c.idOf_ne_tombstone q.key

theorem Clear.isExternal_eq_false (h : c.Clear r) (hid : r.Hosts id) : r.isExternal id = false := by
  obtain ⟨p, hp, hpid, hkind⟩ := hid
  unfold Roster.isExternal
  cases hget : r.get? id with
  | none => rfl
  | some q =>
    obtain ⟨hq, hqid⟩ := Roster.mem_of_get? hget
    simpa [h.kind_eq hq hp (hqid.trans hpid.symm)] using hkind

theorem Clear.sound_internal (h : c.Clear r) : r.internal.Sound := by
  intro o args id hid hne
  rcases h.notes o args id (Roster.notes_of_remembered? hid) with htombstone | hhosts
  · exact absurd htombstone hne
  · exact h.isVisible_internal hhosts

theorem Clear.sound (h : c.Clear r) : r.Sound := by
  intro o args id hid hne
  rcases h.notes o args id (Roster.notes_of_remembered? hid) with htombstone | hhosts
  · exact absurd htombstone hne
  · exact h.isVisible hhosts

theorem Clear.remember (h : c.Clear r) (hid : id = .tombstone ∨ r.Hosts id) (o : DeclId)
    (args : List String) : c.Clear (r.remember o args id) := by
  refine ⟨h.distinct, h.ids, fun o' args' id' hnoted => ?_⟩
  rcases List.mem_cons.1 hnoted with heq | hold
  · cases heq
    exact hid
  · exact h.notes o' args' id' hold

end Casting

def Cast.Keeps (v : Cast α) : Prop :=
  ∀ r : Roster, r.KeptIn (v r).2

namespace Cast

variable {v : Cast α} {k : α → Cast β}

theorem Keeps.pure (x : α) : Keeps (Pure.pure x : Cast α) :=
  fun r => .refl r

theorem Keeps.bind (hv : Keeps v) (hk : ∀ x, Keeps (k x)) : Keeps (v >>= k) := by
  intro r
  have hr := hv r
  rw [Agree.run_bind]
  rcases hrun : v r with ⟨f | x, r'⟩ <;> rw [hrun] at hr
  · exact hr
  · exact hr.trans (hk x r')

theorem Keeps.lift_bind {x : Except Fault α} (hk : ∀ a, x = .ok a → Keeps (k a)) :
    Keeps ((liftM x : Cast α) >>= k) := by
  intro r
  cases x with
  | error f => exact .refl r
  | ok a => exact hk a rfl r

theorem Keeps.get_bind {k : Roster → Cast β} (hk : ∀ r, Keeps (k r)) : Keeps (get >>= k) :=
  fun r => hk r r

theorem Keeps.ite {p : Prop} [Decidable p] {w : Cast α} (hv : Keeps v) (hw : Keeps w) :
    Keeps (if p then v else w) := by
  split
  · exact hv
  · exact hw

end Cast

namespace Casting

open Cast

variable {c : Casting} {d : Decl} {args : List String} {I : Decl → List String → Cast ParticipantId}

theorem insert_keeps (p : Participant) : Keeps (c.insert p) :=
  fun r => r.insert_keptIn c.seed p

theorem remember_keeps (o : DeclId) (args : List String) (id : ParticipantId) :
    Keeps (do modify (·.remember o args id); return id) :=
  fun r => r.remember_keptIn o args id

theorem internAt_keeps (room : Nat) (d : Decl) (args : List String) :
    Keeps (c.internAt room d args) :=
  fun r => (c.internAt_grown room d args r).2

theorem internTemplate_keeps (hI : ∀ e, Keeps (I e [])) : Keeps (c.internTemplate I d args) := by
  unfold internTemplate
  cases c.template? d args with
  | none => exact .pure _
  | some e => exact .lift_bind fun x _ => .bind (hI x) fun _ => .get_bind fun _ => .pure _

/-- The action does the same where those known by name only are missing, as long as different keys
have different ids. -/
def Mirrors (c : Casting) (ok : α → Roster → Prop) (v : Cast α) (r : Roster) : Prop :=
  c.Distinct (v r).2 →
    c.Clear (v r).2 ∧ Ends (fun _ => True) (ok · (v r).2) (v r).1 ∧
      v r.internal = ((v r).1, (v r).2.internal)

variable {r r' : Roster} {p : Participant} {id : ParticipantId} {v : Cast α} {k : α → Cast β}
variable {ok : α → Roster → Prop} {after : β → Roster → Prop}

theorem mirrors_pure {x : α} (hr : c.Clear r) (h : ok x r) : c.Mirrors ok (pure x) r :=
  fun _ => ⟨hr, h, rfl⟩

theorem mirrors_bind (hv : c.Mirrors ok v r) (hk : ∀ x, Keeps (k x))
    (next : ∀ x r', c.Clear r' → ok x r' → c.Mirrors after (k x) r') :
    c.Mirrors after (v >>= k) r := by
  unfold Mirrors at hv ⊢
  rw [Agree.run_bind, Agree.run_bind]
  rcases hrun : v r with ⟨f | x, r'⟩ <;> rw [hrun] at hv
  · intro hdistinct
    obtain ⟨hclear, -, heq⟩ := hv hdistinct
    rw [heq]
    exact ⟨hclear, trivial, rfl⟩
  · intro hdistinct
    obtain ⟨hclear, hok, heq⟩ := hv (hdistinct.of_keptIn (hk x r'))
    rw [heq]
    exact next x r' hclear hok hdistinct

theorem mirrors_lift_bind {x : Except Fault α} (hr : c.Clear r)
    (next : ∀ a, x = .ok a → c.Mirrors after (k a) r) :
    c.Mirrors after ((liftM x : Cast α) >>= k) r := by
  cases x with
  | error f => exact fun _ => ⟨hr, trivial, rfl⟩
  | ok a => exact next a rfl

theorem mirrors_ite {q : Prop} [Decidable q] {w : Cast α} (yes : q → c.Mirrors ok v r)
    (no : ¬q → c.Mirrors ok w r) : c.Mirrors ok (if q then v else w) r := by
  split
  · exact yes ‹_›
  · exact no ‹_›

theorem Mirrors.imp {weaker : α → Roster → Prop} (h : c.Mirrors ok v r)
    (imp : ∀ x r', ok x r' → weaker x r') : c.Mirrors weaker v r := by
  intro hdistinct
  obtain ⟨hclear, hok, heq⟩ := h hdistinct
  refine ⟨hclear, ?_, heq⟩
  generalize (v r).1 = result, (v r).2 = r' at hok
  cases result with
  | error f => trivial
  | ok x => exact imp x r' hok

theorem Mirrors.of_eq {w : Cast α} (h : c.Mirrors ok w r) (hr : v r = w r)
    (hinternal : v r.internal = w r.internal) : c.Mirrors ok v r := by
  unfold Mirrors
  rw [hr, hinternal]
  exact h

theorem insert_free (hr : c.Clear r) (hnew : ∀ q ∈ r.participants, q.key ≠ p.key)
    {id : ParticipantId}
    (hdistinct : c.Distinct { r with participants := r.participants.push { p with id } }) :
    r.uses (c.idOf p.key) = false := by
  refine Bool.eq_false_iff.2 fun hused => ?_
  obtain ⟨q, hq, hqid⟩ := Roster.uses_iff.1 hused
  rw [Array.mem_toList_iff] at hq
  refine hnew q hq (hdistinct q (Array.mem_push_of_mem _ hq) { p with id } Array.mem_push_self ?_)
  rw [← hr.ids q hq, hqid]
  rfl

theorem Clear.insert (hr : c.Clear r) (hdistinct : c.Distinct (r.insert c.seed p).2) :
    c.Clear (r.insert c.seed p).2 := by
  refine ⟨hdistinct, ?_, ?_⟩
  · rcases r.insert_cases c.seed p with ⟨q, -, -, heq⟩ | ⟨hnew, id, hid, heq⟩
    · rw [heq]
      exact hr.ids
    · rw [heq] at hdistinct ⊢
      intro q hq
      rcases Array.mem_push.1 hq with hold | rfl
      · exact hr.ids q hold
      · exact hid.trans (freeId_eq_idOf (insert_free hr hnew hdistinct))
  · intro o args id hid
    rw [Roster.Notes, Roster.insert_known] at hid
    exact (hr.notes o args id hid).imp_right fun hhosts => hhosts.mono (r.insert_keptIn c.seed p)

theorem insert_internal (hr : c.Clear r) (hp : p.kind ≠ .external)
    (hdistinct : c.Distinct (r.insert c.seed p).2) :
    r.internal.insert c.seed p = ((r.insert c.seed p).1, (r.insert c.seed p).2.internal) := by
  have hfind :
      r.internal.participants.find? (·.key == p.key) = r.participants.find? (·.key == p.key) := by
    refine Roster.find?_internal fun q _ hkey => ?_
    rw [(Participant.keyOf_inj.1 (eq_of_beq hkey)).1]
    exact hp
  unfold Roster.insert at hdistinct ⊢
  rw [hfind]
  cases hnew : r.participants.find? (·.key == p.key) with
  | some q => rfl
  | none =>
    rw [hnew] at hdistinct
    have hfree := insert_free hr (by simpa using hnew) hdistinct
    have hfree' : r.internal.uses (c.idOf p.key) = false := by
      refine Bool.eq_false_iff.2 fun hused => Bool.eq_false_iff.1 hfree ?_
      obtain ⟨q, hq, hqid⟩ := Roster.uses_iff.1 hused
      exact hqid ▸ Roster.uses_of_mem (Roster.mem_internal.1 (Array.mem_toList_iff.1 hq)).1
    dsimp only
    rw [freeId_eq_idOf hfree, freeId_eq_idOf hfree',
      Roster.internal_push (p := { p with id := c.idOf p.key }) hp]

theorem insert_mirrors (hr : c.Clear r) (hp : p.kind ≠ .external) :
    c.Mirrors (fun id r' => r'.Hosts id) (c.insert p) r := by
  intro hdistinct
  refine ⟨hr.insert hdistinct, ?_, ?_⟩
  · obtain ⟨q, hq, hid, hkey⟩ := r.insert_mem c.seed p
    exact ⟨q, hq, hid, (Participant.keyOf_inj.1 hkey).1 ▸ hp⟩
  · have heq := insert_internal hr hp hdistinct
    show (Except.ok (r.internal.insert c.seed p).1, (r.internal.insert c.seed p).2) = _
    rw [heq]
    rfl

theorem visible?_mirrors (hr : c.Clear r) (hid : id = .tombstone ∨ r.Hosts id) :
    c.Mirrors (fun _ _ => True) (visible? id) r := by
  intro _
  have hvisible : r.internal.visible? id = r.visible? id := by
    rcases hid with rfl | hhosts
    · rfl
    · rw [Roster.visible?, Roster.visible?, hr.isVisible hhosts, hr.isVisible_internal hhosts]
  refine ⟨hr, trivial, ?_⟩
  show (Except.ok (r.internal.visible? id), r.internal) = (Except.ok (r.visible? id), r.internal)
  rw [hvisible]

section Rules

variable (hI : ∀ e, Keeps (I e []))
variable (hmirrors : ∀ e r, c.program.Declares e → c.Clear r →
  c.Mirrors (fun id r' => id = .tombstone ∨ r'.Hosts id) (I e []) r)

include hmirrors

theorem owner?_mirrors (hr : c.Clear r) (names : Naming.CallableNames) :
    c.Mirrors (fun _ _ => True) (c.owner? I d names) r := by
  unfold owner?
  cases names.owner with
  | some o =>
    refine mirrors_lift_bind hr fun e he => ?_
    have hdeclares := (Program.declares_of_get? (Program.decl_eq_ok_iff.1 he)).1
    exact mirrors_bind (hmirrors e r hdeclares hr) (fun _ => .pure _) fun _ _ hr' _ =>
      mirrors_pure hr' trivial
  | none =>
    cases d.location with
    | none => exact mirrors_pure hr trivial
    | some l =>
      refine mirrors_ite (fun _ => ?_) fun _ => mirrors_pure hr trivial
      exact mirrors_bind (insert_mirrors hr (by simp [draft])) (fun _ => .pure _)
        fun _ _ hr' _ => mirrors_pure hr' trivial

theorem internTemplate_mirrors (hd : c.program.Declares d) (hr : c.Clear r) :
    c.Mirrors (fun _ _ => True) (c.internTemplate I d args) r := by
  unfold internTemplate
  rw [template?_eq hd]
  cases d.template? args with
  | none => exact mirrors_pure hr trivial
  | some o =>
    refine mirrors_lift_bind hr fun e he => ?_
    have hdeclares := (Program.declares_of_get? (Program.decl_eq_ok_iff.1 he)).1
    exact mirrors_bind (hmirrors e r hdeclares hr) (fun _ => .get_bind fun _ => .pure _)
      fun _ _ hr' hid => visible?_mirrors hr' hid

include hI

theorem draw_mirrors (hd : c.program.Declares d) (hr : c.Clear r) :
    c.Mirrors (fun id r' => id = .tombstone ∨ r'.Hosts id) (c.draw I d args) r := by
  unfold draw
  refine mirrors_lift_bind hr fun names hnames => ?_
  refine mirrors_ite (fun _ => mirrors_pure hr (.inl rfl)) fun _ => ?_
  refine mirrors_bind (owner?_mirrors hmirrors hr names) (fun _ => ?_) fun owner r₁ hr₁ _ => ?_
  · exact .ite (.pure _) (.bind (internTemplate_keeps hI) fun _ => insert_keeps _)
  · refine mirrors_ite (fun _ => mirrors_pure hr₁ (.inl rfl)) fun _ => ?_
    refine mirrors_bind (internTemplate_mirrors hmirrors hd hr₁) (fun _ => insert_keeps _)
      fun origin r₂ hr₂ _ => ?_
    exact (insert_mirrors hr₂ (names_kind_ne_external hnames)).imp fun _ _ => .inr

end Rules

theorem internAt_known {room : Nat} (h : r.remembered? d.id args = some id) :
    c.internAt (room + 1) d args r = (.ok id, r) := by
  have hget : (get : Cast Roster) r = (.ok r, r) := rfl
  simp only [internAt, internOnce, Agree.run_bind, hget, h]
  rfl

theorem internAt_new {room : Nat} (h : r.remembered? d.id args = none) :
    c.internAt (room + 1) d args r =
      (c.draw (c.internAt room) d args >>= fun id => do modify (·.remember d.id args id); return id)
        r := by
  have hget : (get : Cast Roster) r = (.ok r, r) := rfl
  rw [internAt, internOnce, Agree.run_bind, hget]
  simp only [h, internNew_eq_draw]

theorem internAt_mirrors (hd : c.program.Declares d) (hr : c.Clear r) (room : Nat) :
    c.Mirrors (fun id r' => id = .tombstone ∨ r'.Hosts id) (c.internAt room d args) r := by
  induction room generalizing d args r with
  | zero => exact fun _ => ⟨hr, trivial, rfl⟩
  | succ room ih =>
    cases hknown : r.remembered? d.id args with
    | some id =>
      have hid := hr.notes _ _ _ (Roster.notes_of_remembered? hknown)
      exact (mirrors_pure hr hid).of_eq (internAt_known hknown) (internAt_known hknown)
    | none =>
      have hdraw :
          c.Mirrors (fun id r' => id = .tombstone ∨ r'.Hosts id)
            (c.draw (c.internAt room) d args) r :=
        draw_mirrors (fun e => internAt_keeps room e []) (fun e r he hr => ih he hr) hd hr
      refine Mirrors.of_eq (mirrors_bind hdraw (remember_keeps d.id args) ?_) (internAt_new hknown)
        (internAt_new hknown)
      intro id r' hr' hid _
      exact ⟨hr'.remember hid d.id args, hid, rfl⟩

theorem intern_state (h : r.get? id = some p) :
    c.intern (.coroutineState id) r = c.insert (stateDraft p) r := by
  have hget : (get : Cast Roster) r = (.ok r, r) := rfl
  rw [intern, internCoroutineState, Agree.run_bind, hget]
  simp only [h]
  rfl

/-- All but those known by name only are interned as if these were not there. -/
theorem intern_mirrors (hr : c.Clear r) {e : Entity} (he : e.Within c.program)
    (hknown : ∀ name, e ≠ .external name) (hstate : ∀ p, e = .coroutineState p → r.Hosts p) :
    c.Mirrors (fun id r' => (id = .tombstone ∧ ∀ p, e ≠ .coroutineState p) ∨ r'.Hosts id)
      (c.intern e) r := by
  cases e with
  | decl d => exact (internAt_mirrors he hr _).imp fun _ _ => .imp_left fun hid => ⟨hid, by simp⟩
  | instantiation d args =>
    exact (internAt_mirrors he hr _).imp fun _ _ => .imp_left fun hid => ⟨hid, by simp⟩
  | external name => exact absurd rfl (hknown name)
  | coroutineState p =>
    have hhosts := hstate p rfl
    obtain ⟨base, hbase⟩ := Roster.exists_of_isVisible (hr.isVisible hhosts)
    have hinsert := insert_mirrors (p := stateDraft base) hr (by simp [stateDraft, draft])
    exact (hinsert.imp fun _ _ => .inr).of_eq (intern_state hbase)
      (intern_state ((hr.get?_internal hhosts).trans hbase))

theorem intern_external (hr : c.Clear r) (name : String)
    (hdistinct : c.Distinct (c.intern (.external name) r).2) :
    ∃ id r', c.intern (.external name) r = (.ok id, r') ∧ c.Clear r' ∧ r'.internal = r.internal ∧
      (id ≠ .tombstone → r'.isExternal id = true) := by
  rw [intern, internExternal_eq] at hdistinct ⊢
  cases hadmitted : c.filter (externalCandidate name) with
  | false =>
    refine ⟨.tombstone, r, ?_, hr, rfl, fun hne => absurd rfl hne⟩
    simp only [Bool.not_false, if_true]
    rfl
  | true =>
    simp only [hadmitted, Bool.not_true, Bool.false_eq_true, if_false] at hdistinct ⊢
    have hclear := hr.insert (p := externalDraft name) hdistinct
    refine ⟨(r.insert c.seed (externalDraft name)).1, (r.insert c.seed (externalDraft name)).2,
      rfl, hclear, ?_, fun _ => ?_⟩
    · rcases r.insert_cases c.seed (externalDraft name) with ⟨q, -, -, heq⟩ | ⟨-, id, -, heq⟩
      · rw [heq]
      · rw [heq]
        exact Roster.internal_push_external rfl
    · obtain ⟨q, hq, hid, hkey⟩ := r.insert_mem c.seed (externalDraft name)
      have hseen := Roster.get?_isSome_iff.2 (Roster.uses_of_mem hq)
      obtain ⟨x, hx⟩ := Option.isSome_iff_exists.1 hseen
      obtain ⟨hxmem, hxid⟩ := Roster.mem_of_get? hx
      have hkind : x.kind = .external :=
        (hclear.kind_eq hxmem hq hxid).trans (Participant.keyOf_inj.1 hkey).1
      rw [Roster.isExternal, ← hid, hx]
      simp [hkind]

end Casting

end Lifeline
