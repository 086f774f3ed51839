import Lifeline.Proofs.Roster

namespace Lifeline

namespace Program

variable {p : Program} {id : DeclId} {d : Decl}

theorem decl_eq_ok_iff : p.decl id = .ok d ↔ p.get? id = some d := by
  unfold decl
  split <;> simp_all

theorem mem_of_get? (h : p.get? id = some d) : d ∈ p.decls ∧ d.id = id := by
  unfold get? at h
  exact ⟨List.mem_of_find?_eq_some h, by simpa using List.find?_some h⟩

/-- The number of the declaration stands for it. -/
def Declares (p : Program) (d : Decl) : Prop :=
  p.get? d.id = some d

theorem Declares.mem (h : p.Declares d) : d ∈ p.decls :=
  (mem_of_get? h).1

theorem declares_of_get? (h : p.get? id = some d) : p.Declares d ∧ d.id = id := by
  obtain ⟨-, rfl⟩ := mem_of_get? h
  exact ⟨h, rfl⟩

end Program

def Decl.owner? (d : Decl) : Option DeclId :=
  d.function?.bind (·.owner)

def Decl.template? (d : Decl) (args : List String) : Option DeclId :=
  match d.kind with
  | .record _ => d.instantiatedFrom
  | .function _ => if args.isEmpty then d.instantiatedFrom else some d.id

def ParticipantKind.isCallable : ParticipantKind → Bool
  | .function => true
  | .method => true
  | .lambda => true
  | .cls => false
  | .coroutineState => false
  | .file => false
  | .external => false

namespace Casting

def recordNames (d : Decl) (info : RecordInfo) (name : String) : Naming.CallableNames where
  kind := if info.isLambda then .lambda else .cls
  qualifiedName := name
  fullName := name
  operation := Naming.templated d.name d.templateArgs ++ "()"
  namespaceName := d.namespaceName
  owner := none

def names (c : Casting) (d : Decl) (args : List String) : Except Fault Naming.CallableNames :=
  match d.kind with
  | .record info => do return recordNames d info (← Naming.recordName c.program d)
  | .function f =>
    Naming.callableNames c.program d f (if args.isEmpty then d.templateArgs else args)

def candidate (c : Casting) (d : Decl) (names : Naming.CallableNames) : Candidate where
  kind := names.kind
  qualifiedName := names.qualifiedName
  namespaceName := names.namespaceName
  file := d.location.map (·.file)
  annotations := d.annotations ++ ((d.owner?.bind c.program.get?).map (·.annotations)).getD []

def portrait (d : Decl) (names : Naming.CallableNames) (owner origin : Option ParticipantId) :
    Participant :=
  { draft names.kind names.qualifiedName names.fullName names.operation names.namespaceName with
    location := d.location, owner, instantiatedFrom := origin,
    returnType := d.function?.map (·.returnType), isStatic := d.function?.any (·.isStatic) }

/-- The declaration of the template. Call-site arguments make an instance of the declaration
itself. -/
def template? (c : Casting) (d : Decl) (args : List String) : Option (Except Fault Decl) :=
  match d.kind with
  | .record _ => d.instantiatedFrom.map c.program.decl
  | .function _ => if args.isEmpty then d.instantiatedFrom.map c.program.decl else some (.ok d)

def internTemplate (c : Casting) (intern : Decl → List String → Cast ParticipantId) (d : Decl)
    (args : List String) : Cast (Option ParticipantId) := do
  match c.template? d args with
  | none => return none
  | some e => visible? (← intern (← e) [])

def draw (c : Casting) (intern : Decl → List String → Cast ParticipantId) (d : Decl)
    (args : List String) : Cast ParticipantId := do
  let names ← c.names d args
  if !c.filter (c.candidate d names) then return .tombstone
  let owner ← c.owner? intern d names
  if owner == some .tombstone then return .tombstone
  let origin ← c.internTemplate intern d args
  c.insert (portrait d names owner origin)

variable {c : Casting} {d : Decl} {args : List String} {names : Naming.CallableNames}
variable {I : Decl → List String → Cast ParticipantId}

theorem owner?_eq {f : Function} (h : d.kind = .function f) : d.owner? = f.owner := by
  simp [Decl.owner?, Decl.function?, h]

theorem template?_cases (c : Casting) (d : Decl) (args : List String) :
    (d.template? args = d.instantiatedFrom ∧
      c.template? d args = d.instantiatedFrom.map c.program.decl) ∨
    args ≠ [] ∧ d.template? args = some d.id ∧ c.template? d args = some (.ok d) := by
  unfold Decl.template? Casting.template?
  cases d.kind with
  | record info => exact .inl ⟨rfl, rfl⟩
  | function f =>
    cases args with
    | nil => exact .inl ⟨rfl, rfl⟩
    | cons x rest => exact .inr ⟨by simp, rfl, rfl⟩

theorem template?_eq (hd : c.program.Declares d) :
    c.template? d args = (d.template? args).map c.program.decl := by
  rcases c.template?_cases d args with ⟨ho, he⟩ | ⟨-, ho, he⟩
  · rw [ho, he]
  · rw [ho, he, Option.map_some, Program.decl_eq_ok_iff.2 hd]

theorem owner?_record {info : RecordInfo} {name : String} :
    c.owner? I d (recordNames d info name) = pure none := by
  unfold owner?
  cases d.location with
  | none => rfl
  | some l => cases h : info.isLambda <;> simp [recordNames, h]

theorem candidate_record {info : RecordInfo} {name : String} (hkind : d.kind = .record info) :
    c.candidate d (recordNames d info name) = {
      kind := if info.isLambda then .lambda else .cls, qualifiedName := name,
      namespaceName := d.namespaceName,
      file := d.location.map (·.file), annotations := d.annotations } := by
  simp [candidate, recordNames, Decl.owner?, Decl.function?, hkind]

theorem internTemplate_record {info : RecordInfo} (hkind : d.kind = .record info) :
    c.internTemplate I d args = c.origin? I d := by
  unfold internTemplate origin? Casting.template?
  rw [hkind]
  cases d.instantiatedFrom <;> rfl

theorem internRecord_eq_draw {info : RecordInfo} (hkind : d.kind = .record info) :
    c.internRecord I d info = c.draw I d args := by
  unfold internRecord draw names
  simp only [hkind]
  cases Naming.recordName c.program d with
  | error f => rfl
  | ok name =>
    funext r
    show (if !c.filter _ then pure .tombstone else _ : Cast ParticipantId) r =
      (if !c.filter (c.candidate d (recordNames d info name)) then pure .tombstone
        else _ : Cast ParticipantId) r
    rw [candidate_record hkind, owner?_record, internTemplate_record hkind]
    simp [portrait, recordNames, Decl.function?, hkind]
    rfl

theorem callableNames_cases {p : Program} {f : Function}
    (h : Naming.callableNames p d f args = .ok names) :
    (f.owner = none ∧ names.kind = .function ∧ names.owner = none) ∨
    ∃ o e info, f.owner = some o ∧ p.get? o = some e ∧ e.kind = .record info ∧
      (info.isLambda = true ∧ names.kind = .lambda ∧ names.owner = none ∨
        info.isLambda = false ∧ names.kind = .method ∧ names.owner = some o) := by
  unfold Naming.callableNames Naming.callableNamesWith at h
  cases ho : f.owner with
  | none =>
    simp only [ho] at h
    cases h
    exact .inl ⟨rfl, rfl, rfl⟩
  | some o =>
    simp only [ho, bind, Except.bind] at h
    cases hdecl : p.decl o with
    | error e =>
      rw [hdecl] at h
      cases h
    | ok e =>
      simp only [hdecl] at h
      cases hkind : e.kind with
      | function g =>
        simp only [Decl.record?, hkind] at h
        cases h
      | record info =>
        simp only [Decl.record?, hkind] at h
        cases hname : Naming.recordNameAt p Naming.maxScopeDepth e with
        | error f =>
          rw [hname] at h
          cases h
        | ok name =>
          rw [hname] at h
          refine .inr ⟨o, e, info, rfl, Program.decl_eq_ok_iff.1 hdecl, hkind, ?_⟩
          cases hlambda : info.isLambda with
          | true =>
            simp only [hlambda, if_true] at h
            cases h
            exact .inl ⟨rfl, rfl, rfl⟩
          | false =>
            simp only [hlambda, Bool.false_eq_true, if_false] at h
            cases h
            exact .inr ⟨rfl, rfl, rfl⟩

theorem ownerAnnotations_eq_pure {f : Function} (hkind : d.kind = .function f)
    (h : Naming.callableNames c.program d f args = .ok names) :
    c.ownerAnnotations f = pure (((d.owner?.bind c.program.get?).map (·.annotations)).getD []) := by
  unfold ownerAnnotations
  rw [owner?_eq hkind]
  rcases callableNames_cases h with ⟨ho, -⟩ | ⟨o, e, info, ho, he, -⟩
  · rw [ho]
    rfl
  · rw [ho]
    dsimp only
    rw [Program.decl_eq_ok_iff.2 he, Option.bind_some, he]
    rfl

theorem internTemplate_callable {f : Function} (hkind : d.kind = .function f) :
    c.internTemplate I d args = c.primary? I d args := by
  unfold internTemplate primary? Casting.template?
  rw [hkind]
  cases args with
  | nil =>
    unfold origin?
    cases d.instantiatedFrom <;> rfl
  | cons x rest => rfl

theorem internCallable_eq_draw {f : Function} (hkind : d.kind = .function f) :
    c.internCallable I d f args = c.draw I d args := by
  unfold internCallable draw names
  simp only [hkind]
  cases hnames :
    Naming.callableNames c.program d f (if args.isEmpty then d.templateArgs else args) with
  | error f => rfl
  | ok names =>
    rw [ownerAnnotations_eq_pure hkind hnames, internTemplate_callable hkind]
    simp [portrait, candidate, Decl.function?, hkind]

theorem internNew_eq_draw (c : Casting) : c.internNew = c.draw := by
  funext I d args
  unfold internNew
  cases hkind : d.kind with
  | record info => exact internRecord_eq_draw hkind
  | function f => exact internCallable_eq_draw hkind

inductive Named (c : Casting) (d : Decl) (names : Naming.CallableNames) : Prop
  | record {info : RecordInfo} : d.kind = .record info →
    names.kind = (if info.isLambda then .lambda else .cls) → names.owner = none → Named c d names
  | function {f : Function} : d.kind = .function f → names.kind = .function →
    names.owner = none → Named c d names
  | closure {f : Function} : d.kind = .function f → names.kind = .lambda →
    names.owner = none → Named c d names
  | method {f : Function} {o : DeclId} {e : Decl} {info : RecordInfo} :
    d.kind = .function f → names.kind = .method → names.owner = some o → d.owner? = some o →
    c.program.get? o = some e → e.kind = .record info → info.isLambda = false → Named c d names

theorem names_cases (h : c.names d args = .ok names) : c.Named d names := by
  unfold Casting.names at h
  cases hkind : d.kind with
  | record info =>
    simp only [hkind] at h
    cases hname : Naming.recordName c.program d with
    | error f =>
      rw [hname] at h
      cases h
    | ok name =>
      rw [hname] at h
      cases h
      exact .record hkind rfl rfl
  | function f =>
    simp only [hkind] at h
    rcases callableNames_cases h with ⟨-, hk, ho⟩
      | ⟨o, e, info, hf, he, hrecord, ⟨-, hk, ho⟩ | ⟨hlambda, hk, ho⟩⟩
    · exact .function hkind hk ho
    · exact .closure hkind hk ho
    · exact .method hkind hk ho ((owner?_eq hkind).trans hf) he hrecord hlambda

theorem names_owner {o : DeclId} (h : c.names d args = .ok names) (ho : names.owner = some o) :
    d.owner? = some o ∧ names.kind = .method ∧
      ∃ f e info, d.kind = .function f ∧ c.program.get? o = some e ∧ e.kind = .record info ∧
        info.isLambda = false := by
  cases names_cases h with
  | record _ _ hnone => cases ho.symm.trans hnone
  | function _ _ hnone => cases ho.symm.trans hnone
  | closure _ _ hnone => cases ho.symm.trans hnone
  | method hkind hk ho' howner he hrecord hlambda =>
    cases ho.symm.trans ho'
    exact ⟨howner, hk, _, _, _, hkind, he, hrecord, hlambda⟩

end Casting

end Lifeline
