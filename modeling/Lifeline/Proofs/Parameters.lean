import Lifeline.Proofs.Law.Run

namespace Lifeline

namespace Bindings

@[simp] theorem get?_nil (name : String) : get? [] name = none := rfl

@[simp] theorem get?_cons (name : String) (value : Value) (rest : Bindings) (other : String) :
    get? ((name, value) :: rest) other = if other = name then some value else rest.get? other := by
  simp only [get?, List.lookup_cons]
  by_cases h : other = name
  · simp [h]
  · have hne : (other == name) = false := by simpa using h
    simp [h, hne]

theorem get?_set (b : Bindings) (name : String) (value : Value) (other : String) :
    (b.set name value).get? other = if other = name then some value else b.get? other := by
  induction b with
  | nil => simp [set]
  | cons binding rest ih =>
    obtain ⟨n, v⟩ := binding
    by_cases hn : n = name
    · by_cases h : other = name <;> simp [set, hn, h]
    · rw [set, if_neg hn, get?_cons, get?_cons, ih]
      by_cases h : other = name
      · simp [h, Ne.symm hn]
      · simp [h]

end Bindings

def Value.callable? (arg : Option Value) : Option Value :=
  arg.filter (·.isCallable)

namespace Scopes

variable {s : Scopes} {params : List Param} {args : List Value} {p : Param} {name : String}

theorem get?_bind (s : Scopes) (name : String) (value : Value) (other : String) :
    (s.bind name value).get? other = if other = name then some value else s.get? other := by
  simp only [get?, toList, bind, List.findSome?_cons, Bindings.get?_set]
  by_cases h : other = name <;> simp [h]

theorem get?_bindParam (s : Scopes) (hname : p.name ≠ "") (value : Value) (other : String) :
    (s.bindParam p value).get? other =
      if other = p.name then (Value.callable? (some value)).or (s.get? other)
      else s.get? other := by
  have hempty : p.name.isEmpty = false := by simpa using hname
  cases hvalue : value.isCallable with
  | true =>
    simp only [bindParam, hempty, hvalue, Bool.not_false, Bool.and_self, if_true,
      get?_bind, Value.callable?, Option.filter_some, Option.some_or]
  | false => simp [bindParam, hvalue, Value.callable?, Option.filter_some]

def bindParams (s : Scopes) : List Param → List Value → Scopes
  | p :: params, value :: args => (s.bindParam p value).bindParams params args
  | _, _ => s

def ofCaptured (captured : Option Bindings) : Scopes :=
  captured.elim empty ofCaptures

theorem forBody_eq (captured : Option Bindings) (params : List Param) (args : List Value) :
    forBody captured params args = (ofCaptured captured).bindParams params args := by
  have hfold : ∀ (params : List Param) (args : List Value) (s : Scopes),
      (params.zip args).foldl (fun s x => s.bindParam x.1 x.2) s = s.bindParams params args := by
    intro params
    induction params with
    | nil => simp [bindParams]
    | cons p params ih =>
      intro args s
      cases args with
      | nil => simp [bindParams]
      | cons value args => exact ih args _
  cases captured <;> exact hfold params args _

theorem get?_ofCaptured (captured : Option Bindings) (name : String) :
    (ofCaptured captured).get? name = captured.bind (·.get? name) := by
  cases captured with
  | none => rfl
  | some c =>
    cases h : c.get? name <;> simp [ofCaptured, ofCaptures, get?, toList, List.findSome?_cons, h]

theorem get?_bindParam_of_ne (s : Scopes) (h : name ≠ p.name) (value : Value) :
    (s.bindParam p value).get? name = s.get? name := by
  unfold bindParam
  split
  · rw [get?_bind, if_neg h]
  · rfl

theorem get?_bindParams_of_notMem (h : name ∉ params.map (·.name)) :
    (s.bindParams params args).get? name = s.get? name := by
  induction params generalizing s args with
  | nil => rfl
  | cons p params ih =>
    cases args with
    | nil => rfl
    | cons value args =>
      simp only [List.map_cons, List.mem_cons, not_or] at h
      rw [bindParams, ih h.2, get?_bindParam_of_ne s h.1]

theorem get?_bindParams (hnamed : ∀ p ∈ params, p.name ≠ "") (hnames : (params.map (·.name)).Nodup)
    {i : Nat} (hp : params[i]? = some p) :
    (s.bindParams params args).get? p.name = (Value.callable? args[i]?).or (s.get? p.name) := by
  induction params generalizing s args i with
  | nil => simp at hp
  | cons first params ih =>
    cases args with
    | nil => rfl
    | cons value args =>
      obtain ⟨hfirst, hrest⟩ := List.forall_mem_cons.1 hnamed
      obtain ⟨hnew, hdistinct⟩ := List.nodup_cons.1 hnames
      rw [bindParams]
      cases i with
      | zero =>
        cases hp
        rw [get?_bindParams_of_notMem hnew, get?_bindParam s hfirst, if_pos rfl]
        rfl
      | succ i =>
        have hother : p.name ≠ first.name := by
          intro heq
          exact hnew (List.mem_map.2 ⟨p, List.mem_of_getElem? hp, heq⟩)
        rw [ih hrest hdistinct hp, get?_bindParam_of_ne s hother]
        rfl

end Scopes

theorem Value.callable?_or (x y : Option Value) :
    Value.callable? ((Value.callable? x).or y) = (Value.callable? x).or (Value.callable? y) := by
  cases x with
  | none => rfl
  | some v => cases h : v.isCallable <;> simp [Value.callable?, Option.filter_some, h]

namespace Tracer

/-- When the body of a callee starts, a parameter stands for its argument if that is known to be
callable, and for what was captured under its name if not. So a parameter never stands for a
callable that was captured if, and only if, none was captured under the name of a parameter that got
no callable. -/
theorem params_stand_for_args {target : Target} {f : Function} {body : Stmt}
    (hf : target.function = some f) (hbody : f.body = some body)
    (hnamed : ∀ p ∈ f.params, p.name ≠ "") (hnames : (f.params.map (·.name)).Nodup)
    (args : List Value) :
    ∃ scopes : Scopes,
      (∀ (enter : Enter) (a : Activation) (inlined : Bool) (path : CallPath),
        a.path.enter (target.participant, target.operation) = .entered path →
        descend enter a target args inlined = (do
          Visit.withScopes scopes
            (enter (a.calling path target.participant inlined) f body target.operation)
          return .visited)) ∧
      (∀ (i : Nat) (p : Param), f.params[i]? = some p →
        scopes.get? p.name = (Value.callable? args[i]?).or (target.captured.bind (·.get? p.name))) ∧
      ((∀ (i : Nat) (p : Param), f.params[i]? = some p →
          Value.callable? (scopes.get? p.name) = Value.callable? args[i]?) ↔
        ∀ (i : Nat) (p : Param), f.params[i]? = some p → Value.callable? args[i]? = none →
          Value.callable? (target.captured.bind (·.get? p.name)) = none) := by
  have hget : ∀ (i : Nat) (p : Param), f.params[i]? = some p →
      (Scopes.forBody target.captured f.params args).get? p.name =
        (Value.callable? args[i]?).or (target.captured.bind (·.get? p.name)) := by
    intro i p hp
    rw [Scopes.forBody_eq, Scopes.get?_bindParams hnamed hnames hp, Scopes.get?_ofCaptured]
  refine ⟨.forBody target.captured f.params args, ?_, hget, ?_⟩
  · intro enter a inlined path hpath
    simp only [descend, hf, hbody, hpath]
  · refine forall₃_congr fun i p hp => ?_
    rw [hget i p hp, Value.callable?_or]
    cases Value.callable? args[i]? <;> simp

end Tracer

namespace Sample

def stored : Decl :=
  function 2 "stored" none .skip

def applierType : Decl where
  id := 3
  name := ""
  namespaceName := ""
  location := none
  templateArgs := []
  instantiatedFrom := none
  annotations := []
  kind := .record { isStruct := false, isLambda := true, parent := some 1 }

def callVar (name : String) (args : List Expr) : Stmt :=
  .expr (.call (.var name) none args none none)

def applying : Function where
  owner := some 3
  params := [⟨"cb", "auto"⟩, ⟨"next", "auto"⟩]
  returnType := "void"
  isStatic := false
  isConst := true
  isVirtual := false
  isConstructor := false
  isDestructor := false
  isOperator := true
  isCoroutine := false
  body := some (.block [callVar "cb" [], callVar "next" []])

def applier : Decl :=
  { applierType with id := 4, name := "operator()", kind := .function applying }

def shadowing : Decl :=
  function 1 "run" none
    (.block [.declare "cb" (some (.declRef 2)), .declare "next" (some (.declRef 2)),
    .declare "apply" (some (.lambda 4 none)), callVar "apply" [.other []]])

def shadowingTracer : Tracer :=
  { tracer with
    casting := { tracer.casting with program := ⟨[shadowing, stored, applierType, applier]⟩ } }

def applyTarget : Target where
  participant := ⟨2⟩
  function := some applying
  operation := "operator()(auto,auto) const"
  captured := some [("cb", .function 2), ("next", .function 2)]

end Sample

namespace Tracer

theorem params_stand_for_args_sample : (∀ p ∈ Sample.applying.params, p.name ≠ "") ∧
    (Sample.applying.params.map (·.name)).Nodup ∧
    ∃ scopes : Scopes,
      (∀ (enter : Enter) (a : Activation) (inlined : Bool) (path : CallPath),
        a.path.enter (⟨2⟩, "operator()(auto,auto) const") = .entered path →
        descend enter a Sample.applyTarget [.function 5] inlined = (do
          Visit.withScopes scopes (enter (a.calling path ⟨2⟩ inlined) Sample.applying
            (.block [Sample.callVar "cb" [], Sample.callVar "next" []])
              "operator()(auto,auto) const")
          return .visited)) ∧
      scopes.get? "cb" = some (.function 5) ∧ scopes.get? "next" = some (.function 2) := by
  have hnamed : ∀ p ∈ Sample.applying.params, p.name ≠ "" := by decide
  have hnames : (Sample.applying.params.map (·.name)).Nodup := by decide
  have hfunction : Sample.applyTarget.function = some Sample.applying := rfl
  obtain ⟨scopes, hdescend, hget, -⟩ :=
    params_stand_for_args hfunction rfl hnamed hnames [.function 5]
  exact ⟨hnamed, hnames, scopes, hdescend, hget 0 ⟨"cb", "auto"⟩ rfl, hget 1 ⟨"next", "auto"⟩ rfl⟩

/-- Neither an argument of which nothing is known nor a missing one hides what the closure captured,
and so the body of the closure calls what its parameters do not stand for. -/
theorem captured_shows_through :
    ((Scopes.forBody Sample.applyTarget.captured Sample.applying.params [.unknown]).get? "cb" =
        some (.function 2) ∧
      (Scopes.forBody Sample.applyTarget.captured Sample.applying.params [.unknown]).get? "next" =
        some (.function 2)) ∧
    (Sample.shadowingTracer.trace Sample.shadowing {}).2.interaction.messages.toList.map
      (·.operation) = ["operator()(auto,auto) const", "stored()", "stored()"] :=
  ⟨⟨rfl, rfl⟩, by decide +kernel⟩

end Tracer

end Lifeline
