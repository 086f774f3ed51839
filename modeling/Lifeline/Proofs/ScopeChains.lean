import Lifeline.Proofs.Names

/-! When naming succeeds. A record is named within the function or record around it, and a method
within its owner, so a name goes up a chain of scopes. It is found if the chain is sound and ends
before its records get too far away; and then it is the one name that the rules of naming give,
which do not count how far they have gone. -/

namespace Lifeline

def BlamesProgram (x : Except Fault α) : Prop :=
  ∀ f, x = .error f → ∃ cause, f = .malformed cause

theorem blamesProgram_iff {x : Except Fault α} :
    BlamesProgram x ↔ Ends (fun f => ∃ cause, f = .malformed cause) (fun _ => True) x := by
  cases x <;> simp [BlamesProgram, Ends]

def Decl.scope? (d : Decl) : Option DeclId :=
  match d.kind with
  | .record info => info.parent
  | .function f => f.owner

def Program.ScopedIn (p : Program) (d e : Decl) : Prop :=
  ∃ id, d.scope? = some id ∧ p.get? id = some e

def Decl.isRecord (d : Decl) : Bool :=
  d.record?.isSome

theorem Decl.isRecord_of_kind {d : Decl} {info : RecordInfo} (hkind : d.kind = .record info) :
    d.isRecord = true := by
  simp [isRecord, record?, hkind]

theorem Decl.not_isRecord_of_kind {d : Decl} {f : Function} (hkind : d.kind = .function f) :
    d.isRecord = false := by
  simp [isRecord, record?, hkind]

theorem Decl.exists_kind_of_isRecord {d : Decl} (h : d.isRecord = true) :
    ∃ info, d.kind = .record info := by
  cases hkind : d.kind with
  | record info => exact ⟨info, rfl⟩
  | function f => simp [not_isRecord_of_kind hkind] at h

namespace Naming

variable {p : Program} {d : Decl} {f : Function}

/-- Declarations, each of which stands in the next, up to one that stands in nothing. Methods belong
to records. -/
inductive ScopeChain (p : Program) : List Decl → Prop
  | last {d : Decl} (houter : d.scope? = none) : ScopeChain p [d]
  | cons {d e : Decl} {rest : List Decl} (hscope : p.ScopedIn d e)
    (howner : d.isRecord = false → e.isRecord = true)
      (hrest : ScopeChain p (e :: rest)) : ScopeChain p (d :: e :: rest)

def Scoped (p : Program) (room : Nat) (d : Decl) : Prop :=
  ∃ outer, ScopeChain p (d :: outer) ∧ ∀ k e, (d :: outer)[k]? = some e →
    e.isRecord = true → k < room

theorem scoped_iff {room : Nat} :
    Scoped p room d ↔ (d.isRecord = true → 0 < room) ∧ ∀ id, d.scope? = some id →
      ∃ e, p.get? id = some e ∧ (d.isRecord = false → e.isRecord = true) ∧
      Scoped p (room - 1) e := by
  constructor
  · rintro ⟨outer, hchain, hroom⟩
    refine ⟨fun hd => hroom 0 d rfl hd, ?_⟩
    intro id hid
    cases hchain with
    | last houter => simp [houter] at hid
    | cons hscope howner hrest =>
      obtain ⟨_, hid', hget⟩ := hscope
      cases hid.symm.trans hid'
      refine ⟨_, hget, howner, _, hrest, ?_⟩
      intro k e hk he
      have := hroom (k + 1) e hk he
      omega
  · rintro ⟨hd, hrest⟩
    cases houter : d.scope? with
    | none =>
      refine ⟨[], .last houter, ?_⟩
      intro k e hk he
      cases k with
      | zero =>
        cases hk
        exact hd he
      | succ k => cases hk
    | some id =>
      obtain ⟨e, hget, howner, outer, hchain, hroom⟩ := hrest id houter
      refine ⟨e :: outer, .cons ⟨id, houter, hget⟩ howner hchain, ?_⟩
      intro k e' hk he'
      cases k with
      | zero =>
        cases hk
        exact hd he'
      | succ k =>
        have := hroom k e' hk he'
        omega

theorem not_scoped_zero (h : d.isRecord = true) : ¬ Scoped p 0 d :=
  fun hscoped => absurd ((scoped_iff.mp hscoped).1 h) (Nat.lt_irrefl 0)

/-! Success and failure. -/

theorem exists_bind_pure {x : Except Fault α} {g : α → β} :
    (∃ b, (do let a ← x; return g a) = Except.ok b) ↔ ∃ a, x = .ok a := by
  cases x with
  | ok a => exact ⟨fun _ => ⟨a, rfl⟩, fun _ => ⟨g a, rfl⟩⟩
  | error f => simp [bind, Except.bind]

theorem callableNamesWith_ok_iff {recordName : Decl → Except Fault String} {args : List String} :
    (∃ names, callableNamesWith recordName p d f args = .ok names) ↔
      ∀ o, f.owner = some o →
        ∃ e, p.get? o = some e ∧ e.isRecord = true ∧ ∃ name, recordName e = .ok name := by
  unfold callableNamesWith
  cases howner : f.owner with
  | none => simp [pure, Except.pure]
  | some o =>
    cases hget : p.get? o with
    | none => simp [Program.decl, hget, bind, Except.bind]
    | some e =>
      cases hinfo : e.record? with
      | none =>
        simp [Program.decl, hget, hinfo, bind, Except.bind, Decl.isRecord, throw,
          throwThe, MonadExceptOf.throw]
      | some info =>
        cases hname : recordName e with
        | error fault => simp [Program.decl, hget, hinfo, bind, Except.bind, hname]
        | ok name =>
          cases hlambda : info.isLambda <;>
            simp [Program.decl, hget, hinfo, bind, Except.bind, hname, hlambda, pure,
              Except.pure, Decl.isRecord]

def scopeNameAt (p : Program) (room : Nat) (d : Decl) : Except Fault String :=
  match d.kind with
  | .record _ => recordNameAt p room d
  | .function f => do
    let names ← callableNamesWith (ownerNameAt p room) p d f d.templateArgs
    return names.fullName

theorem scopeNameAt_record {info : RecordInfo} (hkind : d.kind = .record info) (room : Nat) :
    scopeNameAt p room d = recordNameAt p room d := by
  simp only [scopeNameAt, hkind]

theorem scopeNameAt_function (hkind : d.kind = .function f) (room : Nat) :
    scopeNameAt p room d = do
      let names ← callableNamesWith (ownerNameAt p room) p d f d.templateArgs
      return names.fullName := by
  simp only [scopeNameAt, hkind]

theorem enclosing_some (room : Nat) (space : String) (id : DeclId) :
    enclosing p room space (some id) = p.decl id >>= scopeNameAt p room :=
  rfl

theorem enclosing_ok_iff {room : Nat} {space : String} {parent : Option DeclId} :
    (∃ scope, enclosing p room space parent = .ok scope) ↔
      ∀ id, parent = some id →
        ∃ e, p.get? id = some e ∧ ∃ name, scopeNameAt p room e = .ok name := by
  cases parent with
  | none => simp [enclosing, pure, Except.pure]
  | some id =>
    rw [enclosing_some]
    cases hget : p.get? id <;> simp [Program.decl, hget, bind, Except.bind]

theorem scopeNameAt_ok_iff (room : Nat) (d : Decl) :
    (∃ name, scopeNameAt p room d = .ok name) ↔ Scoped p room d := by
  induction room using Nat.strongRecOn generalizing d with
  | ind room ih =>
    rw [scoped_iff]
    cases hkind : d.kind with
    | record info =>
      have houter : d.scope? = info.parent := by simp only [Decl.scope?, hkind]
      rw [scopeNameAt_record hkind]
      cases room with
      | zero => simp [recordNameAt, endless, Decl.isRecord_of_kind hkind]
      | succ room =>
        rw [recordNameAt_succ hkind, exists_bind_pure, enclosing_ok_iff]
        simp [houter, Decl.isRecord_of_kind hkind, ih room (Nat.lt_succ_self room)]
    | function f =>
      have houter : d.scope? = f.owner := by simp only [Decl.scope?, hkind]
      -- One position further out stands a record, whose name there is room for if there is any.
      have howner : ∀ e, e.isRecord = true →
          ((∃ name, ownerNameAt p room e = .ok name) ↔ Scoped p (room - 1) e) := by
        intro e he
        obtain ⟨info, hinfo⟩ := Decl.exists_kind_of_isRecord he
        cases room with
        | zero => simp [ownerNameAt, endless, not_scoped_zero he]
        | succ room =>
          rw [Nat.add_sub_cancel, ← ih room (Nat.lt_succ_self room), scopeNameAt_record hinfo]
          rfl
      rw [scopeNameAt_function hkind, exists_bind_pure, callableNamesWith_ok_iff, houter]
      have hd := Decl.not_isRecord_of_kind hkind
      constructor
      · intro h
        refine ⟨by simp [hd], fun o ho => ?_⟩
        obtain ⟨e, hget, he, hname⟩ := h o ho
        exact ⟨e, hget, fun _ => he, (howner e he).mp hname⟩
      · rintro ⟨-, h⟩ o ho
        obtain ⟨e, hget, he, hscoped⟩ := h o ho
        exact ⟨e, hget, he hd, (howner e (he hd)).mpr hscoped⟩

theorem recordNameAt_ok {room : Nat} {name : String} (h : recordNameAt p room d = .ok name) :
    ∃ info room' scope, d.kind = .record info ∧ room = room' + 1 ∧
      enclosing p room' d.namespaceName info.parent = .ok scope ∧
      joinScope scope (localName d info) = name := by
  cases room with
  | zero => cases h
  | succ room =>
    cases hkind : d.kind with
    | function f =>
      unfold recordNameAt at h
      simp only [Decl.record?, hkind] at h
      cases h
    | record info =>
      rw [recordNameAt_succ hkind] at h
      obtain ⟨scope, hscope, h⟩ := ok_of_bind h
      exact ⟨info, room, scope, rfl, rfl, hscope, Except.ok.inj h⟩

theorem recordName_ok_iff :
    (∃ name, recordName p d = .ok name) ↔ d.isRecord = true ∧ Scoped p (maxScopeDepth + 1) d := by
  rw [← scopeNameAt_ok_iff]
  cases hkind : d.kind with
  | record info => simp [Decl.isRecord_of_kind hkind, scopeNameAt_record hkind, recordName]
  | function f =>
    have hfails : ∀ name, recordName p d ≠ .ok name := by
      intro name h
      obtain ⟨info, -, -, hinfo, -⟩ := recordNameAt_ok h
      cases hkind.symm.trans hinfo
    simp [Decl.not_isRecord_of_kind hkind, hfails]

theorem callableNames_ok_iff (hkind : d.kind = .function f) (args : List String) :
    (∃ names, callableNames p d f args = .ok names) ↔ Scoped p (maxScopeDepth + 1) d := by
  rw [← scopeNameAt_ok_iff, scopeNameAt_function hkind, exists_bind_pure, callableNamesWith_ok_iff]
  exact callableNamesWith_ok_iff

structure Faults (fault : Fault → Prop) : Prop where
  unknownDecl : ∀ id, fault (.malformed (.unknownDecl id))
  notRecord : ∀ id, fault (.malformed (.notRecord id))
  endlessScope : ∀ id, fault (.malformed (.endlessScope id))
  ownerNotRecord : ∀ owner method, fault (.malformed (.ownerNotRecord owner method))

namespace Faults

variable {fault : Fault → Prop}

theorem decl (hfault : Faults fault) (p : Program) (id : DeclId) :
    Ends fault (fun _ => True) (p.decl id) := by
  unfold Program.decl
  cases p.get? id with
  | none => exact hfault.unknownDecl id
  | some d => trivial

theorem callableNamesWith (hfault : Faults fault) {recordName : Decl → Except Fault String}
    (h : ∀ e, Ends fault (fun _ => True) (recordName e)) (args : List String) :
    Ends fault (fun _ => True) (Naming.callableNamesWith recordName p d f args) := by
  unfold Naming.callableNamesWith
  cases f.owner with
  | none => trivial
  | some o =>
    refine (hfault.decl p o).bind fun owner => ?_
    cases owner.record? with
    | none => exact hfault.ownerNotRecord o d.name
    | some info =>
      refine (h owner).bind fun name => ?_
      cases info.isLambda <;> trivial

theorem recordNameAt (hfault : Faults fault) (room : Nat) (d : Decl) :
    Ends fault (fun _ => True) (Naming.recordNameAt p room d) := by
  induction room using Nat.strongRecOn generalizing d with
  | ind room ih =>
    cases room with
    | zero => exact hfault.endlessScope d.id
    | succ room =>
      cases hkind : d.kind with
      | function f =>
        unfold Naming.recordNameAt
        simp only [Decl.record?, hkind]
        exact hfault.notRecord d.id
      | record info =>
        rw [recordNameAt_succ hkind]
        refine .bind ?_ fun _ => trivial
        cases info.parent with
        | none => trivial
        | some id =>
          rw [enclosing_some]
          refine (hfault.decl p id).bind fun parent => ?_
          cases hparent : parent.kind with
          | record outer =>
            rw [scopeNameAt_record hparent]
            exact ih room (Nat.lt_succ_self room) parent
          | function f =>
            rw [scopeNameAt_function hparent]
            refine (hfault.callableNamesWith (fun e => ?_) _).bind fun _ => trivial
            cases room with
            | zero => exact hfault.endlessScope e.id
            | succ room => exact ih room (by omega) e

theorem callableNames (hfault : Faults fault) (args : List String) :
    Ends fault (fun _ => True) (Naming.callableNames p d f args) :=
  hfault.callableNamesWith (hfault.recordNameAt _) args

end Faults

theorem faults_malformed : Faults fun f => ∃ cause, f = .malformed cause :=
  ⟨fun _ => ⟨_, rfl⟩, fun _ => ⟨_, rfl⟩, fun _ => ⟨_, rfl⟩, fun _ _ => ⟨_, rfl⟩⟩

theorem callableNamesWith_blames {recordName : Decl → Except Fault String}
    (h : ∀ e, BlamesProgram (recordName e)) (args : List String) :
    BlamesProgram (callableNamesWith recordName p d f args) :=
  blamesProgram_iff.2 (faults_malformed.callableNamesWith (fun e => blamesProgram_iff.1 (h e)) args)

theorem recordNameAt_blames (room : Nat) (d : Decl) : BlamesProgram (recordNameAt p room d) :=
  blamesProgram_iff.2 (faults_malformed.recordNameAt room d)

/-! The same recursion without a limit. -/

mutual

/-- How records are named, however far out their scopes go. -/
inductive RecordNamed (p : Program) : Decl → String → Prop
  | outermost {d : Decl} {info : RecordInfo} (hkind : d.kind = .record info)
    (hparent : info.parent = none) :
      RecordNamed p d (joinScope d.namespaceName (localName d info))
  | inRecord {d e : Decl} {info : RecordInfo} {id : DeclId} {scope : String}
    (hkind : d.kind = .record info)
      (hparent : info.parent = some id) (hget : p.get? id = some e)
        (hscope : RecordNamed p e scope) :
      RecordNamed p d (joinScope scope (localName d info))
  | inFunction {d e : Decl} {info : RecordInfo} {id : DeclId} {f : Function} {names : CallableNames}
      (hkind : d.kind = .record info) (hparent : info.parent = some id) (hget : p.get? id = some e)
      (hf : e.kind = .function f) (hnames : CallableNamed p e f e.templateArgs names) :
      RecordNamed p d (joinScope names.fullName (localName d info))

inductive CallableNamed (p : Program) : Decl → Function → List String → CallableNames → Prop
  | free {d : Decl} {f : Function} {args : List String} (howner : f.owner = none) :
      CallableNamed p d f args {
        kind := .function
        qualifiedName := joinScope d.namespaceName (templated d.name args)
        fullName := joinScope d.namespaceName (templated d.name args) ++ signature f
        operation := templated d.name args ++ signature f
        namespaceName := d.namespaceName
        owner := none }
  | closure {d e : Decl} {f : Function} {args : List String} {o : DeclId}
    {info : RecordInfo} {name : String}
      (howner : f.owner = some o) (hget : p.get? o = some e) (hkind : e.kind = .record info)
      (hlambda : info.isLambda = true) (hname : RecordNamed p e name) :
      CallableNamed p d f args {
        kind := .lambda
        qualifiedName := name
        fullName := name
        operation := templated d.name args ++ signature f
        namespaceName := if d.namespaceName.isEmpty then e.namespaceName else d.namespaceName
        owner := none }
  | method {d e : Decl} {f : Function} {args : List String} {o : DeclId}
    {info : RecordInfo} {name : String}
      (howner : f.owner = some o) (hget : p.get? o = some e) (hkind : e.kind = .record info)
      (hlambda : info.isLambda = false) (hname : RecordNamed p e name) :
      CallableNamed p d f args {
        kind := .method
        qualifiedName := joinScope name (templated d.name args)
        fullName := joinScope name (templated d.name args) ++ signature f
        operation := templated d.name args ++ signature f
        namespaceName := if d.namespaceName.isEmpty then e.namespaceName else d.namespaceName
        owner := some o }

end

theorem callableNamed_of_ok {recordName : Decl → Except Fault String} {args : List String}
    {names : CallableNames} (hname : ∀ e name, recordName e = .ok name → RecordNamed p e name)
    (h : callableNamesWith recordName p d f args = .ok names) : CallableNamed p d f args names := by
  unfold callableNamesWith at h
  cases howner : f.owner with
  | none =>
    simp only [howner] at h
    cases h
    exact .free howner
  | some o =>
    simp only [howner] at h
    obtain ⟨e, hget, h⟩ := ok_of_bind h
    cases hkind : e.kind with
    | function g =>
      simp only [Decl.record?, hkind] at h
      cases h
    | record info =>
      simp only [Decl.record?, hkind] at h
      obtain ⟨name, hn, h⟩ := ok_of_bind h
      cases hlambda : info.isLambda with
      | true =>
        rw [hlambda] at h
        cases h
        exact .closure howner (Program.decl_eq_ok_iff.mp hget) hkind hlambda (hname e name hn)
      | false =>
        rw [hlambda] at h
        cases h
        exact .method howner (Program.decl_eq_ok_iff.mp hget) hkind hlambda (hname e name hn)

theorem recordNamed_of_ok {room : Nat} {name : String} (h : recordNameAt p room d = .ok name) :
    RecordNamed p d name := by
  induction room using Nat.strongRecOn generalizing d name with
  | ind room ih =>
    obtain ⟨info, room, scope, hkind, rfl, hscope, rfl⟩ := recordNameAt_ok h
    cases hparent : info.parent with
    | none =>
      rw [hparent] at hscope
      cases hscope
      exact .outermost hkind hparent
    | some id =>
      rw [hparent, enclosing_some] at hscope
      obtain ⟨parent, hget, hscope⟩ := ok_of_bind hscope
      cases hkind' : parent.kind with
      | record outer =>
        rw [scopeNameAt_record hkind'] at hscope
        exact .inRecord hkind hparent (Program.decl_eq_ok_iff.mp hget)
          (ih room (Nat.lt_succ_self room) hscope)
      | function f =>
        rw [scopeNameAt_function hkind'] at hscope
        obtain ⟨names, hnames, hscope⟩ := ok_of_bind hscope
        cases hscope
        have howner : ∀ e name, ownerNameAt p room e = .ok name → RecordNamed p e name := by
          intro e name he
          cases room with
          | zero => cases he
          | succ room => exact ih room (by omega) he
        exact .inFunction hkind hparent (Program.decl_eq_ok_iff.mp hget) hkind'
          (callableNamed_of_ok howner hnames)

mutual

theorem RecordNamed.exists_room {d : Decl} {name : String} :
    RecordNamed p d name → ∃ room, recordNameAt p room d = .ok name
  | .outermost hkind hparent => by
    refine ⟨1, ?_⟩
    rw [recordNameAt_succ hkind, hparent]
    rfl
  | .inRecord hkind hparent hget hscope => by
    obtain ⟨room, hroom⟩ := hscope.exists_room
    obtain ⟨outer, -, -, houter, -⟩ := recordNameAt_ok hroom
    refine ⟨room + 1, ?_⟩
    rw [recordNameAt_succ hkind, hparent, enclosing_some, Program.decl_eq_ok_iff.mpr hget]
    simp only [bind, Except.bind, scopeNameAt_record houter, hroom]
    rfl
  | .inFunction hkind hparent hget hf hnames => by
    obtain ⟨room, hroom⟩ := hnames.exists_room
    refine ⟨room + 2, ?_⟩
    rw [recordNameAt_succ hkind, hparent, enclosing_some, Program.decl_eq_ok_iff.mpr hget]
    simp only [bind, Except.bind, scopeNameAt_function hf, ownerNameAt, hroom]
    rfl

theorem CallableNamed.exists_room {d : Decl} {f : Function} {args : List String}
    {names : CallableNames} :
    CallableNamed p d f args names →
      ∃ room, callableNamesWith (recordNameAt p room) p d f args = .ok names
  | .free howner => by
    refine ⟨0, ?_⟩
    simp only [callableNamesWith, howner]
    rfl
  | .closure howner hget hkind hlambda hname => by
    obtain ⟨room, hroom⟩ := hname.exists_room
    refine ⟨room, ?_⟩
    simp only [callableNamesWith, howner, Program.decl_eq_ok_iff.mpr hget, bind,
      Except.bind, Decl.record?, hkind, hroom, hlambda]
    rfl
  | .method howner hget hkind hlambda hname => by
    obtain ⟨room, hroom⟩ := hname.exists_room
    refine ⟨room, ?_⟩
    simp only [callableNamesWith, howner, Program.decl_eq_ok_iff.mpr hget, bind,
      Except.bind, Decl.record?, hkind, hroom, hlambda]
    rfl

end

theorem recordNamed_iff_eq {room : Nat} {name name' : String}
    (h : recordNameAt p room d = .ok name) : RecordNamed p d name' ↔ name' = name := by
  constructor
  · intro hnamed
    obtain ⟨room', h'⟩ := hnamed.exists_room
    have hmore := recordNameAt_mono (Nat.le_max_left room room') d name h
    have hmore' := recordNameAt_mono (Nat.le_max_right room room') d name' h'
    exact Except.ok.inj (hmore'.symm.trans hmore)
  · rintro rfl
    exact recordNamed_of_ok h

theorem callableNamed_iff_eq {room : Nat} {args : List String} {names names' : CallableNames}
    (h : callableNamesWith (recordNameAt p room) p d f args = .ok names) :
    CallableNamed p d f args names' ↔ names' = names := by
  constructor
  · intro hnamed
    obtain ⟨room', h'⟩ := hnamed.exists_room
    have hmore :=
      callableNamesWith_mono args (recordNameAt_mono (Nat.le_max_left room room')) names h
    have hmore' :=
      callableNamesWith_mono args (recordNameAt_mono (Nat.le_max_right room room')) names' h'
    exact Except.ok.inj (hmore'.symm.trans hmore)
  · rintro rfl
    exact callableNamed_of_ok (fun e name => recordNamed_of_ok) h

/-- The chain of scopes from a declaration ends, and no record on it stands further out than at
position 64. -/
def InScope (p : Program) (d : Decl) : Prop :=
  ∃ outer, ScopeChain p (d :: outer) ∧ ∀ k e, (d :: outer)[k]? = some e → e.isRecord = true → k ≤ 64

theorem scoped_iff_inScope : Scoped p (maxScopeDepth + 1) d ↔ InScope p d := by
  simp only [InScope, Scoped, maxScopeDepth, Nat.lt_succ_iff]

/-- Records and callables have names exactly if their scopes are sound and end soon enough, whatever
cycles there are. The names are the only ones they have by the rules, which set no limit; where
there is none, the program is to blame. -/
theorem named_iff_inScope (p : Program) (d : Decl) :
    (((∃ name, recordName p d = .ok name) ↔ d.isRecord = true ∧ InScope p d) ∧
      (∀ name, recordName p d = .ok name → ∀ name', RecordNamed p d name' ↔ name' = name) ∧
      BlamesProgram (recordName p d)) ∧
    ∀ f args, d.kind = .function f →
      ((∃ names, callableNames p d f args = .ok names) ↔ InScope p d) ∧
        (∀ names, callableNames p d f args = .ok names →
          ∀ names', CallableNamed p d f args names' ↔ names' = names) ∧
        BlamesProgram (callableNames p d f args) := by
  simp only [← scoped_iff_inScope]
  refine ⟨⟨recordName_ok_iff, fun name h name' => recordNamed_iff_eq h, recordNameAt_blames _ d⟩,
    ?_⟩
  intro f args hkind
  refine ⟨callableNames_ok_iff hkind args, fun names h names' => callableNamed_iff_eq h, ?_⟩
  exact callableNamesWith_blames (recordNameAt_blames _) args

end Naming

namespace Sample

def nameOnly (id : Nat) (kind : DeclKind) : Decl where
  id := .ofNat id
  name := "n"
  namespaceName := ""
  location := none
  templateArgs := []
  instantiatedFrom := none
  annotations := []
  kind := kind

def plain (owner : Option DeclId) : Function where
  owner := owner
  params := []
  returnType := "void"
  isStatic := false
  isConst := false
  isVirtual := false
  isConstructor := false
  isDestructor := false
  isOperator := false
  isCoroutine := false
  body := none

def inTower : Decl :=
  nameOnly 0 (.function (plain (some 1)))

def tower (height : Nat) : Program :=
  ⟨inTower ::
    (List.range height).map (fun i =>
      nameOnly (i + 1)
        (.record { isStruct := false, isLambda := false, parent := some (.ofNat (i + 2)) })) ++
    [nameOnly (height + 1) (.function (plain none))]⟩

end Sample

/-- A record may stand at position 64 and a function behind it, but not another record. -/
theorem Naming.named_iff_inScope_tower :
    Sample.inTower.kind = .function (Sample.plain (some 1)) ∧
      (∃ names, callableNames (Sample.tower 64) Sample.inTower
        (Sample.plain (some 1)) [] = .ok names) ∧
      InScope (Sample.tower 64) Sample.inTower ∧ ¬ InScope (Sample.tower 65) Sample.inTower := by
  have hnamed (height : Nat) :=
    ((named_iff_inScope (Sample.tower height) Sample.inTower).2 (Sample.plain (some 1)) [] rfl).1
  have hlow :
      (callableNames (Sample.tower 64) Sample.inTower (Sample.plain (some 1)) []).toBool =
        true := by
    decide +kernel
  have hhigh :
      (callableNames (Sample.tower 65) Sample.inTower (Sample.plain (some 1)) []).toBool =
        false := by
    decide +kernel
  have hnames : ∃ names, callableNames (Sample.tower 64) Sample.inTower (Sample.plain (some 1))
      [] = .ok names := by
    cases h : callableNames (Sample.tower 64) Sample.inTower (Sample.plain (some 1)) [] with
    | ok names => exact ⟨names, rfl⟩
    | error f => simp [h, Except.toBool] at hlow
  refine ⟨rfl, hnames, (hnamed 64).mp hnames, fun hscope => ?_⟩
  obtain ⟨names, h⟩ := (hnamed 65).mpr hscope
  simp [h, Except.toBool] at hhigh

end Lifeline
