import Lifeline.Proofs.Names
import Lifeline.Proofs.Representation

namespace Lifeline

def Entity.declared? : Entity → Option (Decl × List String)
  | .decl d => some (d, [])
  | .instantiation d args => some (d, if d.templateArgs.isEmpty then args else [])
  | .coroutineState _ => none
  | .external _ => none

inductive Entity.Depicts (d : Decl) (info : RecordInfo) (e : Entity) : Prop
  | record {args : List String} : e.declared? = some (d, args) → Depicts d info e
  | operator {o : Decl} {args : List String} {f : Function} : info.isLambda = true →
    e.declared? = some (o, args) → o.kind = .function f → f.owner = some d.id → Depicts d info e

namespace Casting

variable {c : Casting} {es : List Entity} {e e' : Entity} {id id' : ParticipantId} {d d' : Decl}
  {args args' : List String}

/-- At some time, interning one entity after the other came to an entity and gave this id. -/
def InternedAs (c : Casting) (es : List Entity) (e : Entity) (id : ParticipantId) : Prop :=
  ∃ before after, es = before ++ e :: after ∧ (c.intern e (c.internAll before {})).1 = .ok id

theorem identity_of_declared? (h : e.declared? = some (d, args)) (r : Roster) :
    c.identity r e = do
      let names ← c.names d args
      return (names.kind, names.fullName) := by
  cases e with
  | decl _ =>
    cases h
    rfl
  | instantiation _ _ =>
    cases h
    rfl
  | coroutineState _ => cases h
  | external _ => cases h

theorem InternedAs.named (h : c.InternedAs es e id) (hes : ∀ e ∈ es, e.Within c.program)
    (hid : id ≠ .tombstone) (he : e.declared? = some (d, args)) :
    ∃ names, c.names d args = .ok names ∧
      ∃ q ∈ (c.internAll es {}).participants, q.id = id ∧ q.fullName = names.fullName := by
  obtain ⟨before, after, rfl, hok⟩ := h
  obtain ⟨q, hq, hqid, hidentity⟩ := internAll_depicts hes hok hid
  rw [identity_of_declared? he] at hidentity
  obtain ⟨names, hnames, heq⟩ := ok_of_bind hidentity
  exact ⟨names, hnames, q, hq, hqid, (Prod.mk.inj (Except.ok.inj heq)).2.symm⟩

theorem InternedAs.ne_of_names (h : c.InternedAs es e id) (h' : c.InternedAs es e' id')
    (hes : ∀ e ∈ es, e.Within c.program) (hsize : (c.internAll es {}).size < UInt64.size)
    (hid : id ≠ .tombstone) (hid' : id' ≠ .tombstone) (he : e.declared? = some (d, args))
    (he' : e'.declared? = some (d', args'))
    (hnames : ∀ names names', c.names d args = .ok names → c.names d' args' = .ok names' →
      names.fullName ≠ names'.fullName) : id ≠ id' := by
  rintro rfl
  obtain ⟨names, hn, q, hq, hqid, hname⟩ := h.named hes hid he
  obtain ⟨names', hn', q', hq', hqid', hname'⟩ := h'.named hes hid' he'
  have hsame := (internAll_drawn hes).eq_of_id hsize hq hq' (hqid.trans hqid'.symm)
  refine hnames names names' hn hn' ?_
  rw [← hname, ← hname', hsame]

theorem names_primary {f : Function} (hkind : d.kind = .function f) (hprimary : d.templateArgs = [])
    (args : List String) : c.names d args = Naming.callableNames c.program d f args := by
  simp only [names, hkind, hprimary]
  cases args <;> rfl

/-- A function or method that is a template becomes a different participant for each list of
template arguments, and a different one without any, whatever else is interned before, after or in
between. -/
theorem instances_apart (hes : ∀ e ∈ es, e.Within c.program)
    (hsize : (c.internAll es {}).size < UInt64.size) {f : Function} (hkind : d.kind = .function f)
    (hprimary : d.templateArgs = []) (hplain : Naming.IsPlain c.program f)
    (hargs : args ≠ [] ∧ ∀ a ∈ args, Naming.IsProper a)
    (hargs' : args' ≠ [] ∧ ∀ a ∈ args', Naming.IsProper a) (hne : args ≠ args')
    (h : c.InternedAs es (.instantiation d args) id)
    (h' : c.InternedAs es (.instantiation d args') id') (hid : id ≠ .tombstone)
    (hid' : id' ≠ .tombstone) :
    id ≠ id' ∧ ∀ plain, c.InternedAs es (.decl d) plain → plain ≠ .tombstone →
      id ≠ plain ∧ id' ≠ plain := by
  have hdeclared (args : List String) :
      (Entity.instantiation d args).declared? = some (d, args) := by
    simp [Entity.declared?, hprimary]
  have hnames {args args' : List String} (hargs : ∀ a ∈ args, Naming.IsProper a)
      (hargs' : ∀ a ∈ args', Naming.IsProper a) (hne : args ≠ args')
      (names names' : Naming.CallableNames)
      (hn : c.names d args = .ok names) (hn' : c.names d args' = .ok names') :
      names.fullName ≠ names'.fullName := by
    rw [names_primary hkind hprimary] at hn hn'
    exact mt (Naming.fullName_inj hplain hargs hargs' hn hn') hne
  have hnone : ∀ a ∈ ([] : List String), Naming.IsProper a := List.forall_mem_nil _
  refine ⟨?_, fun plain hp hseen => ⟨?_, ?_⟩⟩
  · exact h.ne_of_names h' hes hsize hid hid' (hdeclared args) (hdeclared args')
      (hnames hargs.2 hargs'.2 hne)
  · exact h.ne_of_names hp hes hsize hid hseen (hdeclared args) rfl (hnames hargs.2 hnone hargs.1)
  · exact h'.ne_of_names hp hes hsize hid' hseen (hdeclared args') rfl
      (hnames hargs'.2 hnone hargs'.1)

end Casting

def Sample.instances : List Entity :=
  [.instantiation step ["int"], .decl step,
    .instantiation step ["std::pair<int,int>", "f(int,char)"]]

theorem Sample.instances_within : ∀ e ∈ instances, e.Within program := by
  simp only [instances, List.forall_mem_cons]
  exact ⟨rfl, rfl, rfl, List.forall_mem_nil _⟩

theorem Casting.instances_apart_sample :
    (∀ e ∈ Sample.instances, e.Within Sample.program) ∧
    (∀ a ∈ ["std::pair<int,int>", "f(int,char)"], Naming.IsProper a) ∧
    Sample.tracer.casting.InternedAs Sample.instances (.instantiation Sample.step ["int"]) ⟨2⟩ ∧
    Sample.tracer.casting.InternedAs Sample.instances
      (.instantiation Sample.step ["std::pair<int,int>", "f(int,char)"]) ⟨3⟩ ∧
    Sample.tracer.casting.InternedAs Sample.instances (.decl Sample.step) ⟨1⟩ ∧
    (⟨2⟩ : ParticipantId) ≠ ⟨3⟩ ∧ (⟨2⟩ : ParticipantId) ≠ ⟨1⟩ ∧ (⟨3⟩ : ParticipantId) ≠ ⟨1⟩ := by
  have hint : ∀ a ∈ ["int"], Naming.IsProper a := by decide +kernel
  have hpair : ∀ a ∈ ["std::pair<int,int>", "f(int,char)"], Naming.IsProper a := by decide +kernel
  have hfirst :
      Sample.tracer.casting.InternedAs Sample.instances (.instantiation Sample.step ["int"]) ⟨2⟩ :=
    ⟨[], _, rfl, by decide +kernel⟩
  have hlast : Sample.tracer.casting.InternedAs Sample.instances
      (.instantiation Sample.step ["std::pair<int,int>", "f(int,char)"]) ⟨3⟩ :=
    ⟨[_, _], [], rfl, by decide +kernel⟩
  have hplain : Sample.tracer.casting.InternedAs Sample.instances (.decl Sample.step) ⟨1⟩ :=
    ⟨[_], _, rfl, by decide +kernel⟩
  obtain ⟨hne, hprimary⟩ :=
    instances_apart Sample.instances_within (by decide +kernel) (d := Sample.step) rfl rfl
      (by intro o e info ho; cases ho) ⟨by decide, hint⟩ ⟨by decide, hpair⟩
        (by decide) hfirst hlast (by decide)
    (by decide)
  exact ⟨Sample.instances_within, hpair, hfirst, hlast, hplain, hne,
    hprimary ⟨1⟩ hplain (by decide)⟩

section

variable {c : Casting} {e : Entity} {d d' : Decl} {info info' : RecordInfo}

theorem Entity.Depicts.named (h : e.Depicts d info) (hd : c.program.Declares d)
    (hkind : d.kind = .record info) :
    ∃ o args, e.declared? = some (o, args) ∧ ∀ names, c.names o args = .ok names →
      ∃ room, Naming.recordNameAt c.program room d = .ok names.fullName := by
  cases h with
  | @record args he =>
    refine ⟨d, args, he, fun names hnames => ⟨Naming.maxScopeDepth + 1, ?_⟩⟩
    simp only [Casting.names, hkind] at hnames
    obtain ⟨name, hname, heq⟩ := ok_of_bind hnames
    cases heq
    exact hname
  | @operator o args f hlambda he ho howner =>
    refine ⟨o, args, he, fun names hnames => ⟨Naming.maxScopeDepth, ?_⟩⟩
    simp only [Casting.names, ho, Naming.callableNames, Naming.callableNamesWith, howner] at hnames
    obtain ⟨owner, hget, hnames⟩ := ok_of_bind hnames
    cases (Program.decl_eq_ok_iff.1 hget).symm.trans hd
    simp only [Decl.record?, hkind] at hnames
    obtain ⟨name, hname, heq⟩ := ok_of_bind hnames
    simp only [hlambda, if_true] at heq
    cases heq
    exact hname

/-- Closures and records without a name that stand in one scope have different names if their lines
or columns differ, and then they become different participants, whatever else is interned. -/
theorem Casting.positions_tell_apart (hd : c.program.Declares d) (hd' : c.program.Declares d')
    (hkind : d.kind = .record info) (hkind' : d'.kind = .record info')
    (hnameless : Naming.IsNameless d info) (hnameless' : Naming.IsNameless d' info')
    (hparent : info.parent = info'.parent)
    (hspace : info.parent = none → d.namespaceName = d'.namespaceName) {l l' : Location}
    (hl : d.location = some l) (hl' : d'.location = some l')
    (hne : l.line ≠ l'.line ∨ l.column ≠ l'.column) :
    (∀ name name', Naming.recordName c.program d = .ok name →
      Naming.recordName c.program d' = .ok name' → name ≠ name') ∧
    ∀ es : List Entity, (∀ e ∈ es, e.Within c.program) → (c.internAll es {}).size < UInt64.size →
      ∀ e e', e.Depicts d info → e'.Depicts d' info' →
      ∀ id id', c.InternedAs es e id → c.InternedAs es e' id' →
        id ≠ .tombstone → id' ≠ .tombstone → id ≠ id' := by
  have hnames :
    ∀ {room room' : Nat} {name name' : String}, Naming.recordNameAt c.program room d = .ok name →
      Naming.recordNameAt c.program room' d' = .ok name' → name ≠ name' :=
    Naming.recordNameAt_ne hkind hkind' hnameless hnameless' hparent hspace hl hl' hne
  refine ⟨fun _ _ => hnames, ?_⟩
  intro es hes hsize e e' he he' id id' hid hid' hseen hseen'
  obtain ⟨o, args, hdeclared, hnamed⟩ := he.named hd hkind
  obtain ⟨o', args', hdeclared', hnamed'⟩ := he'.named hd' hkind'
  refine hid.ne_of_names hid' hes hsize hseen hseen' hdeclared hdeclared' ?_
  intro names names' hn hn'
  obtain ⟨_, hname⟩ := hnamed names hn
  obtain ⟨_, hname'⟩ := hnamed' names' hn'
  exact hnames hname hname'

end

namespace Sample

def lambdaAt (id : DeclId) (file : String) (line column : UInt32) : Decl where
  id := id
  name := ""
  namespaceName := ""
  location := some ⟨⟨file⟩, line, column⟩
  templateArgs := []
  instantiatedFrom := none
  annotations := []
  kind := .record { isStruct := false, isLambda := true, parent := none }

def scattered : Casting :=
  { tracer.casting with program :=
      ⟨[lambdaAt 1 "a.cc" 3 5, lambdaAt 2 "b.cc" 3 5, lambdaAt 3 "a.cc" 3 6,
        function 4 "operator()" (some 3) .skip]⟩ }

def lambdas : List Entity :=
  [.decl (lambdaAt 1 "a.cc" 3 5), .decl (function 4 "operator()" (some 3) .skip)]

end Sample

theorem Casting.positions_tell_apart_sample :
    Naming.recordName Sample.scattered.program (Sample.lambdaAt 1 "a.cc" 3 5) = .ok "lambda@3:5" ∧
    Naming.recordName Sample.scattered.program (Sample.lambdaAt 3 "a.cc" 3 6) = .ok "lambda@3:6" ∧
    "lambda@3:5" ≠ "lambda@3:6" ∧
    Sample.scattered.InternedAs Sample.lambdas (.decl (Sample.lambdaAt 1 "a.cc" 3 5)) ⟨1⟩ ∧
    Sample.scattered.InternedAs Sample.lambdas
      (.decl (Sample.function 4 "operator()" (some 3) .skip)) ⟨2⟩ ∧
    (⟨1⟩ : ParticipantId) ≠ ⟨2⟩ := by
  have hdeclared : Sample.scattered.program.Declares (Sample.lambdaAt 1 "a.cc" 3 5) := rfl
  have hdeclared' : Sample.scattered.program.Declares (Sample.lambdaAt 3 "a.cc" 3 6) := rfl
  obtain ⟨hnames, hids⟩ :=
    positions_tell_apart hdeclared hdeclared' rfl rfl (.inl rfl) (.inl rfl) rfl (fun _ => rfl)
    rfl rfl (.inr (by decide))
  have hname : Naming.recordName Sample.scattered.program (Sample.lambdaAt 1 "a.cc" 3 5) =
      .ok "lambda@3:5" := by
    decide +kernel
  have hname' : Naming.recordName Sample.scattered.program (Sample.lambdaAt 3 "a.cc" 3 6) =
      .ok "lambda@3:6" := by
    decide +kernel
  have hwithin : ∀ e ∈ Sample.lambdas, e.Within Sample.scattered.program := by
    simp only [Sample.lambdas, List.forall_mem_cons]
    exact ⟨rfl, rfl, List.forall_mem_nil _⟩
  have hfirst :
      Sample.scattered.InternedAs Sample.lambdas (.decl (Sample.lambdaAt 1 "a.cc" 3 5)) ⟨1⟩ :=
    ⟨[], _, rfl, by decide +kernel⟩
  have hsecond : Sample.scattered.InternedAs Sample.lambdas
      (.decl (Sample.function 4 "operator()" (some 3) .skip)) ⟨2⟩ :=
    ⟨[_], [], rfl, by decide +kernel⟩
  exact ⟨hname, hname', hnames _ _ hname hname', hfirst, hsecond,
    hids Sample.lambdas hwithin (by decide +kernel) _ _ (.record rfl) (.operator rfl rfl rfl rfl)
      _ _ hfirst hsecond
        (by decide) (by decide)⟩

/-- The file is no part of the name, so closures at the same line and column of two files become one
participant. -/
theorem Casting.files_not_told_apart :
    (Sample.lambdaAt 1 "a.cc" 3 5).location ≠ (Sample.lambdaAt 2 "b.cc" 3 5).location ∧
    Naming.recordName Sample.scattered.program (Sample.lambdaAt 1 "a.cc" 3 5) = .ok "lambda@3:5" ∧
    Naming.recordName Sample.scattered.program (Sample.lambdaAt 2 "b.cc" 3 5) = .ok "lambda@3:5" ∧
    Sample.scattered.InternedAs [.decl (Sample.lambdaAt 1 "a.cc" 3 5),
      .decl (Sample.lambdaAt 2 "b.cc" 3 5)] (.decl (Sample.lambdaAt 1 "a.cc" 3 5)) ⟨1⟩ ∧
    Sample.scattered.InternedAs [.decl (Sample.lambdaAt 1 "a.cc" 3 5),
      .decl (Sample.lambdaAt 2 "b.cc" 3 5)] (.decl (Sample.lambdaAt 2 "b.cc" 3 5)) ⟨1⟩ := by
  refine ⟨by decide +kernel, by decide +kernel, by decide +kernel,
    ⟨[], _, rfl, ?_⟩, ⟨[_], [], rfl, ?_⟩⟩
  · decide +kernel
  · decide +kernel

end Lifeline
