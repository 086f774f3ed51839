import Lifeline.Proofs.Judgement

/-! Laws of interning. A law says what relates the roster before interning to the roster after it.
It is given by what it makes of the two things that interning does: participants join, and what
became of declarations is noted. That it then holds however far interning goes along owners and
templates is shown once for all laws. -/

namespace Lifeline

structure InternLaw (c : Casting) where
  inv : Roster → Prop
  rel : Roster → Roster → Prop
  fault : Fault → Prop
  /-- The declarations that are interned. -/
  about : Decl → Prop
  /-- Whether all rosters are such as interning leads to, and all declarations are the program's. -/
  told : Prop
  refl : ∀ {r}, rel r r
  trans : ∀ {r r' r''}, rel r r' → rel r' r'' → rel r r''
  keeps : ∀ {r r'}, inv r → rel r r' → inv r'
  kept : ∀ {r r'}, rel r r' → r.KeptIn r'
  sound : ∀ {r r'}, rel r r' → r.Sound → r'.Sound
  file : ∀ {r} file, inv r → rel r (r.insert c.seed (Casting.fileDraft file)).2
  join : ∀ {r d args p}, inv r → about d → (r.Sound → c.Draws r d args p) →
    rel r (r.insert c.seed p).2
  note : ∀ {r r' d args id}, inv r → about d → r.remembered? d.id args = none → rel r r' →
    (r.Sound → c.Justifies r' d args id) → rel r (r'.remember d.id args id)
  drawn : ∀ {r}, told → inv r → c.Drawn r
  declared : ∀ {d}, told → about d → c.program.Declares d

namespace Casting

/-- The faults that a declaration's names and references can end in, and where the references
lead. -/
structure Refers (c : Casting) (fault : Fault → Prop) (P : Decl → Prop) (d : Decl) : Prop where
  owner : ∀ o, d.owner? = some o → Ends fault P (c.program.decl o)
  origin : ∀ o, d.instantiatedFrom = some o → Ends fault P (c.program.decl o)
  record : ∀ r, d.kind = .record r → Ends fault (fun _ => True) (Naming.recordName c.program d)
  callable : ∀ f args, d.kind = .function f →
    Ends fault (fun _ => True) (Naming.callableNames c.program d f args)

variable {c : Casting} {fault : Fault → Prop} {P Q : Decl → Prop} {d : Decl}

theorem Refers.names (h : c.Refers fault P d) (args : List String) :
    Ends fault (fun _ => True) (c.names d args) := by
  unfold Casting.names
  cases hkind : d.kind with
  | record info => exact (h.record info hkind).bind fun _ => trivial
  | function f => exact h.callable f _ hkind

theorem Refers.template (h : c.Refers fault P d) {args : List String} (hself : args ≠ [] → P d)
    {e : Except Fault Decl} (he : c.template? d args = some e) : Ends fault P e := by
  rcases c.template?_cases d args with ⟨-, htemplate⟩ | ⟨hargs, -, htemplate⟩
  · rw [htemplate, Option.map_eq_some_iff] at he
    obtain ⟨o, ho, rfl⟩ := he
    exact h.origin o ho
  · cases htemplate.symm.trans he
    exact hself hargs

theorem Refers.imp (h : c.Refers fault P d)
    (hq : ∀ o e, d.owner? = some o ∨ d.instantiatedFrom = some o → c.program.decl o = .ok e → Q e) :
    c.Refers fault Q d := by
  refine ⟨fun o ho => ?_, fun o ho => ?_, h.record, h.callable⟩
  · have hend := h.owner o ho
    cases hdecl : c.program.decl o with
    | ok e => exact hq o e (.inl ho) hdecl
    | error f =>
      rw [hdecl] at hend
      exact hend
  · have hend := h.origin o ho
    cases hdecl : c.program.decl o with
    | ok e => exact hq o e (.inr ho) hdecl
    | error f =>
      rw [hdecl] at hend
      exact hend

theorem ends_true (x : Except Fault α) : Ends (fun _ => True) (fun _ => True) x := by
  cases x <;> trivial

theorem Refers.of_true (c : Casting) (d : Decl) : c.Refers (fun _ => True) (fun _ => True) d :=
  ⟨fun _ _ => ends_true _, fun _ _ => ends_true _, fun _ _ => ends_true _, fun _ _ _ => ends_true _⟩

end Casting

namespace InternLaw

open Casting

variable {c : Casting}

/-- How the roster changed, how this ended, and that it ended as it should if different keys have
different ids. -/
structure Post (L : InternLaw c) (spec : Except Fault α) (ok : α → Roster → Prop) (r : Roster)
    (result : Except Fault α) (r' : Roster) : Prop where
  rel : L.rel r r'
  outcome : Ends L.fault (ok · r') result
  told : L.told → c.Distinct r' → Comes spec result

variable {L : InternLaw c} {r : Roster} {d : Decl} {args : List String}
  {names : Naming.CallableNames}

section Rules

theorem post_pure {x : α} {ok : α → Roster → Prop} (h : ok x r) :
    Agree (pure x) (pure x : Cast α) r (L.Post (pure x) ok r) :=
  .pure ⟨L.refl, h, fun _ _ => .refl _⟩

theorem post_bind {v w : Cast α} {k l : α → Cast β} {spec : Except Fault α} {K : α → Except Fault β}
    {ok : α → Roster → Prop} {after : β → Roster → Prop} (hr : L.inv r)
    (h : Agree v w r (L.Post spec ok r))
    (next : ∀ x r', L.inv r' → L.rel r r' → ok x r' →
      Agree (k x) (l x) r' (L.Post (K x) after r')) :
    Agree (v >>= k) (w >>= l) r (L.Post (spec >>= K) after r) := by
  refine h.bind ?_ ?_
  · intro x r' hx
    refine (next x r' (L.keeps hr hx.rel) hx.rel hx.outcome).mono ?_
    intro result r'' hres
    refine ⟨L.trans hx.rel hres.rel, hres.outcome, fun ht hdistinct => ?_⟩
    exact (hx.told ht (hdistinct.of_keptIn (L.kept hres.rel))).bind (hres.told ht hdistinct)
  · intro f r' hf
    exact ⟨hf.rel, hf.outcome, fun ht hdistinct => (hf.told ht hdistinct).bind_error⟩

theorem post_lift_bind {x : Except Fault α} {k l : α → Cast β} {K : α → Except Fault β}
    {ok : α → Prop} {after : β → Roster → Prop} (hx : Ends L.fault ok x)
    (next : ∀ a, x = .ok a → ok a → Agree (k a) (l a) r (L.Post (K a) after r)) :
    Agree ((liftM x : Cast α) >>= k) ((liftM x : Cast α) >>= l) r (L.Post (x >>= K) after r) := by
  refine .lift_bind ?_ ?_
  · rintro a rfl
    exact next a rfl hx
  · rintro f rfl
    exact ⟨L.refl, hx, fun _ _ => .refl _⟩

theorem post_ite {p : Prop} [Decidable p] {v v' w w' : Cast α} {spec spec' : Except Fault α}
    {ok : α → Roster → Prop} (yes : p → Agree v v' r (L.Post spec ok r))
    (no : ¬p → Agree w w' r (L.Post spec' ok r)) :
    Agree (if p then v else w) (if p then v' else w') r
      (L.Post (if p then spec else spec') ok r) := by
  by_cases h : p
  · simp only [if_pos h]
    exact yes h
  · simp only [if_neg h]
    exact no h

theorem post_insert (hr : L.inv r) {p : Participant} (h : L.rel r (r.insert c.seed p).2) :
    Agree (c.insert p) (c.insert p) r
      (L.Post (.ok (c.idOf p.key))
        (fun id r' => ∃ q ∈ r'.participants, q.id = id ∧ q.key = p.key) r) := by
  obtain ⟨q, hq, hid, hkey⟩ := r.insert_mem c.seed p
  refine ⟨rfl, h, ⟨q, hq, hid, hkey⟩, fun ht hdistinct => .inr ?_⟩
  show Except.ok (c.idOf p.key) = .ok (r.insert c.seed p).1
  rw [← hid, ← hkey, (L.drawn ht (L.keeps hr h)).id_eq hdistinct hq]

end Rules

/-- Interning any of these declarations does the same in both ways, and that is as the law says. -/
def Interns (L : InternLaw c) (I I' : Decl → List String → Cast ParticipantId)
    (J : Decl → Except Fault ParticipantId) (P : Decl → Prop) : Prop :=
  ∀ e r, P e → L.inv r →
    Agree (I e []) (I' e []) r (L.Post (J e) (fun id r' => r'.remembered? e.id [] = some id) r)

variable {I I' : Decl → List String → Cast ParticipantId} {J : Decl → Except Fault ParticipantId}
  {P : Decl → Prop}

theorem owner?_agree (hI : L.Interns I I' J P) (hd : c.Refers L.fault P d) (hr : L.inv r)
    (hnames : c.names d args = .ok names) :
    Agree (c.owner? I d names) (c.owner? I' d names) r
      (L.Post (c.judgeOwner J d names) (fun owner r' => r'.DrawnOn names owner) r) := by
  unfold owner? judgeOwner
  cases ho : names.owner with
  | some o =>
    refine post_lift_bind (hd.owner o (names_owner hnames ho).1) ?_
    intro e he hP
    obtain ⟨-, rfl⟩ := Program.declares_of_get? (Program.decl_eq_ok_iff.1 he)
    refine post_bind hr (hI e r hP hr) ?_
    intro id r' _ _ hknown
    exact post_pure (.cls ho (Roster.notes_of_remembered? hknown))
  | none =>
    cases d.location with
    | none => exact post_pure (.own ho)
    | some l =>
      refine post_ite (fun hmerge => ?_) (fun _ => post_pure (.own ho))
      refine post_bind (K := fun id => pure (some id)) hr (post_insert hr (L.file l.file hr)) ?_
      rintro id r' _ _ ⟨q, hq, rfl, hkey⟩
      exact post_pure (.file ho (by simp_all) hq (Participant.keyOf_inj.1 hkey).1)

theorem visible?_agree (hr : L.inv r) {o : DeclId} {id : ParticipantId}
    (hknown : r.remembered? o [] = some id) :
    Agree (visible? id) (visible? id) r
      (L.Post (pure (if id = .tombstone then none else some id))
        (fun origin r' => r'.Sound → r'.Origin (some o) origin) r) := by
  have hnotes := Roster.notes_of_remembered? hknown
  by_cases hid : id = .tombstone
  · subst hid
    exact .pure ⟨L.refl, fun _ => .hidden hnotes, fun _ _ => .refl _⟩
  · have hvisible (hsound : r.Sound) : r.visible? id = some id := by
      rw [Roster.visible?, if_pos (hsound o [] id hknown hid)]
    show Agree (pure (r.visible? id)) (pure (r.visible? id) : Cast _) r _
    refine .pure ⟨L.refl, fun hsound => ?_, fun ht _ => ?_⟩
    · rw [hvisible hsound]
      exact .seen hnotes hid
    · rw [hvisible (L.drawn ht hr).sound, if_neg hid]
      exact .refl _

theorem internTemplate_agree (hI : L.Interns I I' J P) (hd : c.Refers L.fault P d)
    (hself : args ≠ [] → P d) (habout : L.about d) (hr : L.inv r) :
    Agree (c.internTemplate I d args) (c.internTemplate I' d args) r
      (L.Post (c.judgeTemplate J d args)
        (fun origin r' => r'.Sound → r'.Origin (d.template? args) origin) r) := by
  have hfollow {e : Except Fault Decl} {o : DeclId} (he : Ends L.fault P e)
      (ho : ∀ x, e = .ok x → x.id = o) :
      Agree ((liftM e : Cast Decl) >>= fun x => I x [] >>= visible?)
        (liftM e >>= fun x => I' x [] >>= visible?) r
        (L.Post (e >>= fun x => J x >>= fun id => pure (if id = .tombstone then none else some id))
          (fun origin r' => r'.Sound → r'.Origin (some o) origin) r) := by
    refine post_lift_bind he ?_
    intro x hx hP
    obtain rfl := ho x hx
    refine post_bind hr (hI x r hP hr) ?_
    intro id r' hr' _ hknown
    exact visible?_agree hr' hknown
  unfold internTemplate judgeTemplate
  rcases c.template?_cases d args with ⟨ho, he⟩ | ⟨hargs, ho, he⟩
  · rw [ho, he]
    cases horigin : d.instantiatedFrom with
    | none => exact post_pure fun _ => .none
    | some o =>
      refine hfollow (hd.origin o horigin) fun x hx => ?_
      exact (Program.declares_of_get? (Program.decl_eq_ok_iff.1 hx)).2
  · rw [ho, he]
    refine (hfollow (e := .ok d) (o := d.id) (hself hargs)
      fun x hx => by rw [Except.ok.inj hx]).mono ?_
    intro result r' h
    refine ⟨h.rel, h.outcome, fun ht hdistinct => ?_⟩
    dsimp only
    rw [Program.decl_eq_ok_iff.2 (L.declared ht habout)]
    exact h.told ht hdistinct

theorem draw_agree (hI : L.Interns I I' J P) (hd : c.Refers L.fault P d) (hself : args ≠ [] → P d)
    (habout : L.about d) (hr : L.inv r) :
    Agree (c.draw I d args) (c.draw I' d args) r
      (L.Post (c.judgeOnce J d args) (fun id r' => r.Sound → c.Justifies r' d args id) r) := by
  unfold draw judgeOnce
  refine post_lift_bind (hd.names args) ?_
  intro names hnames _
  refine post_ite (fun hrefused => ?_) fun hadmitted => ?_
  · exact post_pure fun _ => .refused hnames (by simpa using hrefused)
  · refine post_bind hr (owner?_agree hI hd hr hnames) ?_
    intro owner r₁ hr₁ hrel₁ howner
    refine post_ite (fun hhidden => ?_) fun hshown => ?_
    · exact post_pure fun _ => .ownerHidden hnames (by simpa [eq_of_beq hhidden] using howner)
    · refine post_bind hr₁ (internTemplate_agree hI hd hself habout hr₁) ?_
      intro origin r₂ hr₂ hrel₂ horigin
      have hdraws (hsound : r₂.Sound) : c.Draws r₂ d args (portrait d names owner origin) :=
        .mk ⟨hnames, by simpa using hadmitted⟩ (howner.mono (L.kept hrel₂))
          (by simpa using hshown) (horigin hsound)
      refine (post_insert hr₂ (L.join hr₂ habout hdraws)).mono ?_
      rintro (f | id) r₃ ⟨hrel₃, houtcome, htold⟩
      · exact ⟨hrel₃, houtcome, htold⟩
      · obtain ⟨q, hq, rfl, hkey⟩ := houtcome
        refine ⟨hrel₃, fun hsound => ?_, htold⟩
        have hsound₂ := L.sound hrel₂ (L.sound hrel₁ hsound)
        exact .drawn ((hdraws hsound₂).mono (L.kept hrel₃)) hq hkey

theorem internOnce_agree (hI : L.Interns I I' J P) (hd : c.Refers L.fault P d)
    (hself : args ≠ [] → P d) (habout : L.about d) (hr : L.inv r)
    (hrecall : ∀ id, L.told → c.Distinct r → r.Notes d.id args id →
      Comes (c.judgeOnce J d args) (.ok id)) :
    Agree (c.internOnce I d args) (c.internOnce I' d args) r
      (L.Post (c.judgeOnce J d args) (fun id r' => r'.remembered? d.id args = some id) r) := by
  unfold internOnce
  refine .get_bind ?_
  cases hknown : r.remembered? d.id args with
  | some id =>
    have hnoted := Roster.notes_of_remembered? hknown
    exact .pure ⟨L.refl, hknown, fun ht hdistinct => hrecall id ht hdistinct hnoted⟩
  | none =>
    dsimp only
    rw [internNew_eq_draw]
    refine (draw_agree hI hd hself habout hr).bind ?_ ?_
    · intro id r' h
      exact ⟨rfl, L.note hr habout hknown h.rel h.outcome,
        Roster.remembered?_remember d.id args id, h.told⟩
    · intro f r' h
      exact ⟨h.rel, h.outcome, h.told⟩

/-- A law holds however far interning goes along owners and templates. -/
theorem internAt_agree (L : InternLaw c) (hrefers : ∀ d, L.about d → c.Refers L.fault L.about d)
    (hend : ∀ id, L.fault (.malformed (.endlessOrigin id))) (habout : L.about d) (hr : L.inv r)
    (room : Nat) :
    Agree (c.internAt room d args) (c.internAt room d args) r
      (L.Post (c.judgeAt room d args) (fun id r' => r'.remembered? d.id args = some id) r) := by
  induction room generalizing d args r with
  | zero => exact .throw ⟨L.refl, hend d.id, fun _ _ => .refl _⟩
  | succ room ih =>
    have hI : L.Interns (c.internAt room) (c.internAt room) (c.judgeAt room · []) L.about :=
      fun e r he hr => ih he hr
    refine internOnce_agree hI (hrefers d habout) (fun _ => habout) habout hr ?_
    intro id ht hdistinct hnoted
    exact judgeAt_of_notes (L.drawn ht hr) hdistinct (L.declared ht habout) (room + 1) hnoted

end InternLaw

structure Roster.Grows (fault : Fault → Prop) (ok : α → Roster → Prop) (r : Roster)
    (result : Except Fault α) (r' : Roster) : Prop where
  grown : r.Extends r'
  sound : r'.Sound
  outcome : Ends fault (ok · r') result

def Roster.Shows (id : ParticipantId) (r : Roster) : Prop :=
  id ≠ .tombstone → r.isVisible id = true

namespace Casting

variable {c : Casting} {fault : Fault → Prop} {d : Decl} {r : Roster} {args : List String}

theorem grows_pure {x : α} {ok : α → Roster → Prop} (hr : r.Sound) (h : ok x r) :
    Agree (pure x) (pure x : Cast α) r (r.Grows fault ok) :=
  .pure ⟨.refl r, hr, h⟩

theorem grows_bind {v w : Cast α} {k l : α → Cast β} {ok : α → Roster → Prop}
    {after : β → Roster → Prop} (h : Agree v w r (r.Grows fault ok))
    (next : ∀ x r', r'.Sound → ok x r' → Agree (k x) (l x) r' (r'.Grows fault after)) :
    Agree (v >>= k) (w >>= l) r (r.Grows fault after) := by
  refine h.bind ?_ ?_
  · intro x r' hx
    refine (next x r' hx.sound hx.outcome).mono ?_
    intro res r'' hres
    exact ⟨hx.grown.trans hres.grown, hres.sound, hres.outcome⟩
  · intro f r' hf
    exact ⟨hf.grown, hf.sound, hf.outcome⟩

theorem bind_eq_ok {v : Cast α} {k : α → Cast β} {y : β} {r' : Roster}
    (h : (v >>= k) r = (.ok y, r')) : ∃ x mid, v r = (.ok x, mid) ∧ k x mid = (.ok y, r') := by
  rw [Agree.run_bind] at h
  rcases hv : v r with ⟨f | x, mid⟩
  · rw [hv] at h
    cases h
  · rw [hv] at h
    exact ⟨x, mid, rfl, h⟩

theorem insert_grows (hr : r.Sound) (p : Participant) :
    Agree (c.insert p) (c.insert p) r (r.Grows fault Roster.Shows) :=
  ⟨rfl, Roster.insert_extends c.seed p, hr.insert c.seed p,
    fun hid => Roster.isVisible_iff.2 ⟨hid, Roster.insert_uses c.seed p⟩⟩

theorem shows_of_remembered {v w : Cast ParticipantId}
    (h : Agree v w r (r.Grows fault fun id r' => r'.remembered? d.id args = some id)) :
    Agree v w r (r.Grows fault Roster.Shows) := by
  refine h.mono ?_
  rintro (f | id) r' hres
  · exact ⟨hres.grown, hres.sound, hres.outcome⟩
  · exact ⟨hres.grown, hres.sound, hres.sound d.id args id hres.outcome⟩

/-- Rosters only grow, whatever they hold. -/
def growing (c : Casting) (fault : Fault → Prop) : InternLaw c where
  inv _ := True
  rel r r' := r.Extends r' ∧ r.KeptIn r' ∧ (r.Sound → r'.Sound)
  fault := fault
  about _ := True
  told := False
  refl := ⟨.refl _, .refl _, id⟩
  trans h h' := ⟨h.1.trans h'.1, h.2.1.trans h'.2.1, h'.2.2 ∘ h.2.2⟩
  keeps _ _ := trivial
  kept h := h.2.1
  sound h := h.2.2
  file _ _ := ⟨Roster.insert_extends _ _, Roster.insert_keptIn _ _ _, fun hr => hr.insert _ _⟩
  join _ _ _ := ⟨Roster.insert_extends _ _, Roster.insert_keptIn _ _ _, fun hr => hr.insert _ _⟩
  note _ _ hnew h hjust := ⟨h.1.remember hnew _, h.2.1.trans (Roster.remember_keptIn _ _ _ _),
    fun hr => (h.2.2 hr).remember (hjust hr).isVisible⟩
  drawn := False.elim
  declared := False.elim

theorem grows_of_agree {v w : Cast α} {spec : Except Fault α} {ok : α → Roster → Prop}
    (hr : r.Sound) (h : Agree v w r ((c.growing fault).Post spec ok r)) :
    Agree v w r (r.Grows fault ok) :=
  h.mono fun _ _ hpost => ⟨hpost.rel.1, hpost.rel.2.2 hr, hpost.outcome⟩

theorem internAt_grows_of (hrefers : ∀ d, c.Refers fault (fun _ => True) d)
    (hend : ∀ id, fault (.malformed (.endlessOrigin id))) (room : Nat) (hr : r.Sound) :
    Agree (c.internAt room d args) (c.internAt room d args) r
      (r.Grows fault fun id r' => r'.remembered? d.id args = some id) :=
  grows_of_agree hr
    ((c.growing fault).internAt_agree (fun d _ => hrefers d) hend trivial trivial room)

theorem internAt_grows (room : Nat) (hr : r.Sound) :
    Agree (c.internAt room d args) (c.internAt room d args) r
      (r.Grows (fun _ => True) fun id r' => r'.remembered? d.id args = some id) :=
  internAt_grows_of (.of_true c) (fun _ => trivial) room hr

theorem internAt_grown (c : Casting) (room : Nat) (d : Decl) (args : List String) (r : Roster) :
    r.Extends (c.internAt room d args r).2 ∧ r.KeptIn (c.internAt room d args r).2 := by
  have hagree : Agree (c.internAt room d args) (c.internAt room d args) r _ :=
    (c.growing fun _ => True).internAt_agree (fun d _ => .of_true c d)
      (fun _ => trivial) trivial trivial room
  exact ⟨hagree.result.rel.1, hagree.result.rel.2.1⟩

end Casting

end Lifeline
