import Lifeline.Proofs.Portrait

namespace Lifeline

def Function.bodiless (f : Function) : Function :=
  { f with body := none }

def Decl.bodiless (d : Decl) : Decl :=
  { d with kind := match d.kind with
    | .record info => .record info
    | .function f => .function f.bodiless }

def Program.bodiless (p : Program) : Program :=
  ⟨p.decls.map Decl.bodiless⟩

def Casting.bodiless (c : Casting) : Casting :=
  { c with program := c.program.bodiless }

namespace Decl

variable (d : Decl)

@[simp] theorem record?_bodiless : d.bodiless.record? = d.record? := by
  unfold record? bodiless
  cases d.kind <;> rfl

@[simp] theorem function?_bodiless : d.bodiless.function? = d.function?.map Function.bodiless := by
  unfold function? bodiless
  cases d.kind <;> rfl

@[simp] theorem owner?_bodiless : d.bodiless.owner? = d.owner? := by
  unfold owner?
  rw [function?_bodiless]
  cases d.function? <;> rfl

@[simp] theorem template?_bodiless (args : List String) :
    d.bodiless.template? args = d.template? args := by
  unfold template? bodiless
  cases d.kind <;> rfl

theorem kind_bodiless_of_record {info : RecordInfo} (h : d.kind = .record info) :
    d.bodiless.kind = .record info := by
  simp only [bodiless, h]

theorem kind_bodiless_of_function {f : Function} (h : d.kind = .function f) :
    d.bodiless.kind = .function f.bodiless := by
  simp only [bodiless, h]

@[simp] theorem bodiless_bodiless : d.bodiless.bodiless = d.bodiless := by
  unfold bodiless
  cases d.kind <;> rfl

theorem body?_bodiless : d.bodiless.body? = none := by
  rw [body?, function?_bodiless]
  cases d.function? <;> rfl

variable {d}

theorem function?_eq_none_iff_of_bodiless {e : Decl} (h : d.bodiless = e.bodiless) :
    d.function? = none ↔ e.function? = none := by
  have hfunction := congrArg Decl.function? h
  rw [function?_bodiless, function?_bodiless] at hfunction
  rw [← Option.map_eq_none_iff (f := Function.bodiless), hfunction, Option.map_eq_none_iff]

end Decl

namespace Program

variable {p : Program} {d : Decl} {id : DeclId}

theorem get?_bodiless : p.bodiless.get? id = (p.get? id).map Decl.bodiless := by
  simp only [get?, bodiless, List.find?_map]
  rfl

theorem decl_bodiless : p.bodiless.decl id = (p.decl id).map Decl.bodiless := by
  unfold decl
  rw [get?_bodiless]
  cases p.get? id <;> rfl

theorem Declares.bodiless (h : p.Declares d) : p.bodiless.Declares d.bodiless := by
  show p.bodiless.get? d.id = some d.bodiless
  rw [get?_bodiless, h]
  rfl

theorem size_bodiless : p.bodiless.size = p.size := by
  simp [size, bodiless]

variable {p' : Program}

theorem get?_congr (h : p.bodiless = p'.bodiless) (id : DeclId) :
    p.get? id = none ∧ p'.get? id = none ∨
      ∃ d d', p.get? id = some d ∧ p'.get? id = some d' ∧ d.bodiless = d'.bodiless := by
  have hmap : (p.get? id).map Decl.bodiless = (p'.get? id).map Decl.bodiless := by
    rw [← get?_bodiless, ← get?_bodiless, h]
  cases hd : p.get? id with
  | none =>
    rw [hd, Option.map_none, eq_comm, Option.map_eq_none_iff] at hmap
    exact .inl ⟨rfl, hmap⟩
  | some d =>
    rw [hd, Option.map_some, eq_comm, Option.map_eq_some_iff] at hmap
    obtain ⟨d', hd', heq⟩ := hmap
    exact .inr ⟨d, d', rfl, hd', heq.symm⟩

theorem function_congr (h : p.bodiless = p'.bodiless) (id : DeclId) :
    (∃ fault, p.function id = .error fault ∧ p'.function id = .error fault) ∨
      ∃ d f d' f', p.function id = .ok (d, f) ∧ p'.function id = .ok (d', f') ∧
      d.bodiless = d'.bodiless := by
  unfold function decl
  rcases get?_congr h id with ⟨hd, hd'⟩ | ⟨d, d', hd, hd', hsame⟩
  · rw [hd, hd']
    exact .inl ⟨_, rfl, rfl⟩
  · rw [hd, hd']
    simp only [bind, Except.bind]
    have hnone := Decl.function?_eq_none_iff_of_bodiless hsame
    cases hf : d.function? with
    | none =>
      have hname : d.name = d'.name := show d.bodiless.name =
        d'.bodiless.name from congrArg Decl.name hsame
      rw [hnone.1 hf, hname]
      exact .inl ⟨_, rfl, rfl⟩
    | some f =>
      cases hf' : d'.function? with
      | none => cases hf.symm.trans (hnone.2 hf')
      | some f' => exact .inr ⟨d, f, d', f', rfl, rfl, hsame⟩

end Program

namespace Naming

variable {p : Program} {d : Decl} {f : Function} {args : List String}

theorem callableNamesWith_bodiless {recordName recordName' : Decl → Except Fault String}
    (hname : ∀ e, recordName' e.bodiless = recordName e) :
    callableNamesWith recordName' p.bodiless d.bodiless f.bodiless args =
      callableNamesWith recordName p d f args := by
  unfold callableNamesWith
  rw [show f.bodiless.owner = f.owner from rfl]
  cases f.owner with
  | none => rfl
  | some o =>
    dsimp only
    rw [Program.decl_bodiless]
    cases p.decl o with
    | error e => rfl
    | ok owner =>
      simp only [Except.map, bind, Except.bind, Decl.record?_bodiless, hname]
      rfl

theorem recordNameAt_bodiless (room : Nat) (d : Decl) :
    recordNameAt p.bodiless room d.bodiless = recordNameAt p room d := by
  induction room using Nat.strongRecOn generalizing d with
  | ind room ih =>
    cases room with
    | zero => rfl
    | succ room =>
      unfold recordNameAt
      rw [Decl.record?_bodiless]
      cases d.record? with
      | none => rfl
      | some info =>
        dsimp only
        cases info.parent with
        | none => rfl
        | some parentId =>
          dsimp only
          rw [Program.decl_bodiless]
          cases p.decl parentId with
          | error e => rfl
          | ok parent =>
            simp only [Except.map, bind, Except.bind]
            cases hkind : parent.kind with
            | record _ =>
              simp only [parent.kind_bodiless_of_record hkind, ih room (Nat.lt_succ_self room)]
              rfl
            | function f =>
              simp only [parent.kind_bodiless_of_function hkind]
              cases room with
              | zero =>
                rw [callableNamesWith_bodiless fun e => (rfl : endless e.bodiless = endless e)]
                rfl
              | succ room =>
                rw [callableNamesWith_bodiless (ih room (by omega))]
                rfl

end Naming

namespace Casting

variable {c : Casting} {d : Decl} {args : List String} {names : Naming.CallableNames}
variable {I I' : Decl → List String → Cast ParticipantId}

theorem names_bodiless : c.bodiless.names d.bodiless args = c.names d args := by
  unfold Casting.names
  cases hkind : d.kind with
  | record info =>
    simp only [d.kind_bodiless_of_record hkind]
    rw [Naming.recordName, show c.bodiless.program = c.program.bodiless from rfl,
      Naming.recordNameAt_bodiless]
    rfl
  | function f =>
    simp only [d.kind_bodiless_of_function hkind]
    exact Naming.callableNamesWith_bodiless (Naming.recordNameAt_bodiless _)

theorem candidate_bodiless : c.bodiless.candidate d.bodiless names = c.candidate d names := by
  unfold candidate
  rw [Decl.owner?_bodiless]
  cases d.owner? with
  | none => rfl
  | some o =>
    simp only [Option.bind_some, show c.bodiless.program = c.program.bodiless from rfl,
      Program.get?_bodiless]
    cases c.program.get? o <;> rfl

theorem portrait_bodiless {owner origin : Option ParticipantId} :
    portrait d.bodiless names owner origin = portrait d names owner origin := by
  unfold portrait
  rw [Decl.function?_bodiless]
  cases d.function? <;> rfl

def Bodiless (c : Casting) (I I' : Decl → List String → Cast ParticipantId) : Prop :=
  ∀ e, c.program.Declares e → I' e.bodiless [] = I e []

theorem decl_bind_bodiless (hI : c.Bodiless I I') (o : DeclId) (k : ParticipantId → Cast α) :
    ((liftM (c.bodiless.program.decl o) : Cast Decl) >>= fun e => I' e [] >>= k) =
      ((liftM (c.program.decl o) : Cast Decl) >>= fun e => I e [] >>= k) := by
  rw [show c.bodiless.program = c.program.bodiless from rfl, Program.decl_bodiless]
  cases he : c.program.decl o with
  | error f => rfl
  | ok e =>
    show (I' e.bodiless [] >>= k) = (I e [] >>= k)
    rw [hI e (Program.declares_of_get? (Program.decl_eq_ok_iff.1 he)).1]

theorem owner?_bodiless (hI : c.Bodiless I I') :
    c.bodiless.owner? I' d.bodiless names = c.owner? I d names := by
  unfold owner?
  cases names.owner with
  | some o => exact decl_bind_bodiless hI o _
  | none => rfl

theorem internTemplate_bodiless (hI : c.Bodiless I I') (hd : c.program.Declares d) :
    c.bodiless.internTemplate I' d.bodiless args = c.internTemplate I d args := by
  unfold internTemplate
  rw [template?_eq hd, template?_eq (show c.bodiless.program.Declares d.bodiless from hd.bodiless),
    Decl.template?_bodiless]
  cases d.template? args with
  | none => rfl
  | some o => exact decl_bind_bodiless hI o _

theorem draw_bodiless (hI : c.Bodiless I I') (hd : c.program.Declares d) :
    c.bodiless.draw I' d.bodiless args = c.draw I d args := by
  unfold draw
  simp only [names_bodiless, candidate_bodiless, owner?_bodiless hI,
    internTemplate_bodiless hI hd, portrait_bodiless]
  rfl

theorem internAt_bodiless (hd : c.program.Declares d) (room : Nat) :
    c.bodiless.internAt room d.bodiless args = c.internAt room d args := by
  induction room generalizing d args with
  | zero => rfl
  | succ room ih =>
    have hI : c.Bodiless (c.internAt room) (c.bodiless.internAt room) := fun e he => ih he
    simp only [internAt, internOnce, internNew_eq_draw, draw_bodiless hI hd]
    rfl

theorem internDecl_bodiless (hd : c.program.Declares d) :
    c.bodiless.internDecl d.bodiless args = c.internDecl d args := by
  unfold internDecl
  rw [show c.bodiless.program.size = c.program.size from Program.size_bodiless]
  exact internAt_bodiless hd _

theorem internDecl_congr {c' : Casting} {d' : Decl} (hc : c.bodiless = c'.bodiless)
    (hd : c.program.Declares d) (hd' : c'.program.Declares d') (h : d.bodiless = d'.bodiless) :
    c.internDecl d args = c'.internDecl d' args := by
  rw [← internDecl_bodiless hd, ← internDecl_bodiless hd', hc, h]

theorem bodiless_congr {p : Program} (h : c.program.bodiless = p.bodiless) :
    c.bodiless = { c with program := p }.bodiless :=
  congrArg (fun q => { c with program := q }) h

theorem intern_congr {c' : Casting} {d' : Decl} (hc : c.bodiless = c'.bodiless)
    (hd : c.program.Declares d) (hd' : c'.program.Declares d') (h : d.bodiless = d'.bodiless) :
    c.intern (if args.isEmpty then .decl d else .instantiation d args) =
      c'.intern (if args.isEmpty then .decl d' else .instantiation d' args) := by
  cases args with
  | nil => exact internDecl_congr hc hd hd' h
  | cons x rest =>
    have htemplate : d.templateArgs = d'.templateArgs :=
      show d.bodiless.templateArgs = d'.bodiless.templateArgs from congrArg Decl.templateArgs h
    simp only [List.isEmpty_cons, Bool.false_eq_true, if_false, intern, htemplate]
    exact internDecl_congr hc hd hd' h

end Casting

end Lifeline
