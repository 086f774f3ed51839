import Lifeline.Proofs.Parameters

/-! Scopes as lexical scoping has them. A closure sees what was in sight where it was made. Between
the opening of a scope and its end the scopes below change only by assignments to names that were
not bound since, and each of these goes to the nearest declaration.

The scopes are described by what each level holds under each name; level nought is the innermost. -/

namespace Lifeline

namespace Bindings

def Proper (b : Bindings) : Prop :=
  (b.map (·.1)).Nodup

theorem names_set (b : Bindings) (name : String) (value : Value) :
    (b.set name value).map (·.1) =
      if name ∈ b.map (·.1) then b.map (·.1) else b.map (·.1) ++ [name] := by
  induction b with
  | nil => simp [set]
  | cons binding rest ih =>
    obtain ⟨n, v⟩ := binding
    by_cases hn : n = name
    · simp [set, hn]
    · simp only [set, if_neg hn, List.map_cons, ih, List.mem_cons, Ne.symm hn, false_or]
      split <;> rfl

theorem Proper.set {b : Bindings} (h : b.Proper) (name : String) (value : Value) :
    (b.set name value).Proper := by
  unfold Proper
  rw [names_set]
  split
  · exact h
  · exact List.nodup_append.2 ⟨h, List.nodup_singleton _, by grind⟩

theorem get?_eq_none {b : Bindings} {name : String} (h : name ∉ b.map (·.1)) :
    b.get? name = none := by
  induction b with
  | nil => rfl
  | cons binding rest ih =>
    simp only [List.map_cons, List.mem_cons, not_or] at h
    rw [get?_cons, if_neg h.1, ih h.2]

def laidOver (b flat : Bindings) : Bindings :=
  b.foldl (fun flat x => flat.set x.1 x.2) flat

theorem Proper.laidOver {flat : Bindings} (h : flat.Proper) (b : Bindings) :
    (b.laidOver flat).Proper := by
  induction b generalizing flat with
  | nil => exact h
  | cons binding rest ih => exact ih (h.set binding.1 binding.2)

theorem get?_laidOver {b : Bindings} (hb : b.Proper) (flat : Bindings) (name : String) :
    (b.laidOver flat).get? name = (b.get? name).or (flat.get? name) := by
  induction b generalizing flat with
  | nil => rfl
  | cons binding rest ih =>
    obtain ⟨hnew, hrest⟩ := List.nodup_cons.1 hb
    calc get? (laidOver (binding :: rest) flat) name
        = (get? rest name).or (get? (flat.set binding.1 binding.2) name) :=
        ih hrest (flat.set binding.1 binding.2)
      _ = (get? (binding :: rest) name).or (get? flat name) := by
        rw [get?_set, get?_cons]
        by_cases h : name = binding.1
        · subst h
          rw [get?_eq_none hnew]
          simp
        · simp [h]

end Bindings

inductive ScopeStep
  | push
  | pop
  | bind (name : String) (value : Value)
  | assign (name : String) (value : Value)

namespace ScopeStep

def on (s : Scopes) : ScopeStep → Scopes
  | .push => s.push
  | .pop => s.pop
  | .bind name value => s.bind name value
  | .assign name value => s.assign name value

/-- Whether `depth` open scopes and all that are opened by the steps are closed by them, and no
others. -/
def closes : (depth : Nat) → List ScopeStep → Bool
  | depth, [] => depth == 0
  | depth, .push :: rest => closes (depth + 1) rest
  | 0, .pop :: _ => false
  | depth + 1, .pop :: rest => closes depth rest
  | depth, .bind _ _ :: rest => closes depth rest
  | depth, .assign _ _ :: rest => closes depth rest

def Balanced (steps : List ScopeStep) : Prop :=
  closes 0 steps = true

def track : List (List String) → ScopeStep → List (List String)
  | opened, .push => [] :: opened
  | opened, .pop => opened.tail
  | [], .bind _ _ => []
  | names :: opened, .bind name _ => (name :: names) :: opened
  | opened, .assign _ _ => opened

def outward (opened : List (List String)) : List ScopeStep → List (String × Value)
  | [] => []
  | .assign name value :: rest =>
    if opened.any (·.contains name) then outward opened rest
    else (name, value) :: outward opened rest
  | step :: rest => outward (track opened step) rest

/-- The last value that steps in a scope of their own assign to a name while it is not bound
there. -/
def lastOutward (steps : List ScopeStep) (name : String) : Option Value :=
  Bindings.get? (outward [[]] steps).reverse name

end ScopeStep

namespace Scopes

variable {s : Scopes} {name : String} {value : Value}

def run (s : Scopes) (steps : List ScopeStep) : Scopes :=
  steps.foldl ScopeStep.on s

inductive Reachable : Scopes → Prop
  | empty : Reachable .empty
  | ofCaptures {captured : Bindings} (h : captured.Proper) : Reachable (.ofCaptures captured)
  | step {s : Scopes} (h : Reachable s) (step : ScopeStep) : Reachable (step.on s)

def at? (s : Scopes) (level : Nat) (name : String) : Option Value :=
  s.toList[level]?.bind (·.get? name)

def nearest? (s : Scopes) (name : String) : Option Nat :=
  s.toList.findIdx? fun b => (b.get? name).isSome

theorem assignIn?_eq (name : String) (value : Value) (bs : List Bindings) :
    assignIn? name value bs =
      (bs.findIdx? fun b => (b.get? name).isSome).map fun level =>
      bs.modify level (·.set name value) := by
  induction bs with
  | nil => rfl
  | cons b rest ih =>
    rw [assignIn?, List.findIdx?_cons]
    by_cases hb : (b.get? name).isSome
    · simp [hb]
    · rw [if_neg hb, if_neg hb, ih, Option.map_map, Option.map_map]
      rfl

theorem toList_bind (s : Scopes) (name : String) (value : Value) :
    (s.bind name value).toList = s.toList.modify 0 (·.set name value) := rfl

theorem toList_assign (s : Scopes) (name : String) (value : Value) :
    (s.assign name value).toList =
      s.toList.modify ((s.nearest? name).getD 0) (·.set name value) := by
  rw [assign, assignIn?_eq, nearest?]
  cases h : s.toList.findIdx? fun b => (b.get? name).isSome with
  | none => rfl
  | some level => cases level <;> rfl

theorem depth_pop (h : 1 < s.depth) : s.pop.depth + 1 = s.depth := by
  obtain ⟨inner, outer⟩ := s
  cases outer with
  | nil => simp [depth, toList] at h
  | cons b rest => rfl

/-! What each step does to each level. -/

@[simp] theorem at?_push_zero (s : Scopes) (name : String) : s.push.at? 0 name = none := rfl

@[simp] theorem at?_push_succ (s : Scopes) (level : Nat) (name : String) :
    s.push.at? (level + 1) name = s.at? level name := rfl

theorem at?_pop (h : 1 < s.depth) (level : Nat) (name : String) :
    s.pop.at? level name = s.at? (level + 1) name := by
  obtain ⟨inner, outer⟩ := s
  cases outer with
  | nil => simp [depth, toList] at h
  | cons b rest => rfl

theorem at?_modify {s' : Scopes} {target : Nat}
    (h : s'.toList = s.toList.modify target (·.set name value)) (htarget : target < s.depth)
    (level : Nat) (other : String) :
    s'.at? level other =
      if level = target ∧ other = name then some value else s.at? level other := by
  rw [at?, at?, h, List.getElem?_modify]
  by_cases hlevel : target = level
  · subst hlevel
    obtain ⟨b, hb⟩ : ∃ b, s.toList[target]? = some b := ⟨_, List.getElem?_eq_getElem htarget⟩
    simp [hb, Bindings.get?_set]
  · simp [hlevel, Ne.symm hlevel]

theorem depth_pos (s : Scopes) : 0 < s.depth :=
  Nat.succ_pos _

theorem at?_bind (s : Scopes) (name : String) (value : Value) (level : Nat) (other : String) :
    (s.bind name value).at? level other =
      if level = 0 ∧ other = name then some value else s.at? level other :=
  at?_modify (toList_bind s name value) s.depth_pos level other

theorem at?_assign (s : Scopes) (name : String) (value : Value) (level : Nat) (other : String) :
    (s.assign name value).at? level other =
      if level = (s.nearest? name).getD 0 ∧ other = name then some value
      else s.at? level other := by
  refine at?_modify (toList_assign s name value) ?_ level other
  cases h : s.nearest? name with
  | none => exact s.depth_pos
  | some target => exact (List.findIdx?_eq_some_iff_getElem.1 h).1

theorem nearest?_eq_some {level : Nat} :
    s.nearest? name = some level ↔
      (s.at? level name).isSome ∧ ∀ l < level, s.at? l name = none := by
  simp only [nearest?, at?, List.findIdx?_eq_some_iff_getElem]
  constructor
  · rintro ⟨hlevel, hfound, hbefore⟩
    refine ⟨by simpa [hlevel] using hfound, fun l hl => ?_⟩
    simpa [Nat.lt_trans hl hlevel] using hbefore l hl
  · rintro ⟨hfound, hbefore⟩
    have hlevel : level < s.toList.length := by
      by_contra hout
      simp [List.getElem?_eq_none (Nat.le_of_not_lt hout)] at hfound
    refine ⟨hlevel, by simpa [hlevel] using hfound, fun l hl => ?_⟩
    simpa [Nat.lt_trans hl hlevel] using hbefore l hl

theorem nearest?_eq_none : s.nearest? name = none ↔ ∀ level, s.at? level name = none := by
  simp only [nearest?, at?, List.findIdx?_eq_none_iff, Option.bind_eq_none_iff]
  constructor
  · intro h level b hb
    simpa using h b (List.mem_of_getElem? hb)
  · intro h b hb
    obtain ⟨level, hlevel⟩ := List.mem_iff_getElem?.1 hb
    simp [h level b hlevel]

theorem get?_eq_none : s.get? name = none ↔ ∀ level, s.at? level name = none := by
  simp only [get?, at?, List.findSome?_eq_none_iff, Option.bind_eq_none_iff]
  constructor
  · exact fun h level b hb => h b (List.mem_of_getElem? hb)
  · intro h b hb
    obtain ⟨level, hlevel⟩ := List.mem_iff_getElem?.1 hb
    exact h level b hlevel

/-- Below the scopes opened since, the old scopes `s` stand as they were, apart from what was
assigned to them. -/
structure Within (s : Scopes) (opened : List (List String)) (written : List (String × Value))
    (r : Scopes) : Prop where
  depth : r.depth = opened.length + s.depth
  below : ∀ level name, r.at? (opened.length + level) name =
    if s.nearest? name = some level then (Bindings.get? written.reverse name).or (s.at? level name)
    else s.at? level name
  bound : ∀ level names, opened[level]? = some names → ∀ name ∈ names, (r.at? level name).isSome
  declared : ∀ level names, opened[level]? = some names → ∀ name, (r.at? level name).isSome →
    name ∈ names ∨ s.nearest? name = none

namespace Within

variable {opened : List (List String)} {names : List String} {written : List (String × Value)}
  {r : Scopes}

theorem start (s : Scopes) : Within s [[]] [] s.push where
  depth := Nat.add_comm _ _
  below level name := by
    rw [List.length_singleton, Nat.add_comm, at?_push_succ]
    simp
  bound level names h := by
    cases level <;> simp_all
  declared level names h name hname := by
    cases level <;> simp_all

theorem push (h : Within s opened written r) : Within s ([] :: opened) written r.push where
  depth := by
    have := h.depth
    simp only [Scopes.depth, Scopes.push, toList, List.length_cons] at *
    omega
  below level name := by
    rw [List.length_cons, Nat.add_right_comm, at?_push_succ, h.below]
  bound level names hnames name hname := by
    cases level with
    | zero => simp_all
    | succ level => exact h.bound level names hnames name hname
  declared level names hnames name hname := by
    cases level with
    | zero => simp at hname
    | succ level => exact h.declared level names hnames name hname

theorem pop (h : Within s (names :: opened) written r) (hopened : opened ≠ []) :
    Within s opened written r.pop := by
  have hlength : 0 < opened.length := List.length_pos_iff.2 hopened
  have hdeep : 1 < r.depth := by
    rw [h.depth, List.length_cons]
    omega
  refine ⟨?_, ?_, ?_, ?_⟩
  · have := h.depth
    have := depth_pop hdeep
    simp only [List.length_cons] at *
    omega
  · intro level name
    rw [at?_pop hdeep, Nat.add_right_comm]
    exact h.below level name
  · intro level names hnames name hname
    rw [at?_pop hdeep]
    exact h.bound (level + 1) names hnames name hname
  · intro level names hnames name hname
    rw [at?_pop hdeep] at hname
    exact h.declared (level + 1) names hnames name hname

theorem bind (h : Within s (names :: opened) written r) (name : String) (value : Value) :
    Within s ((name :: names) :: opened) written (r.bind name value) where
  depth := h.depth
  below level other := by
    rw [at?_bind, if_neg (by simp)]
    exact h.below level other
  bound level names' hnames other hother := by
    rw [at?_bind]
    split
    · rfl
    · cases level with
      | succ level => exact h.bound (level + 1) names' hnames other hother
      | zero =>
        cases hnames
        have hold : other ∈ names := by simp_all
        exact h.bound 0 names rfl other hold
  declared level names' hnames other hother := by
    rw [at?_bind] at hother
    cases level with
    | succ level => exact h.declared (level + 1) names' hnames other (by simpa using hother)
    | zero =>
      cases hnames
      by_cases heq : other = name
      · exact .inl (heq ▸ List.mem_cons_self)
      · rw [if_neg (by simp [heq])] at hother
        exact (h.declared 0 names rfl other hother).imp_left (List.mem_cons_of_mem name)

theorem isSome_below (h : Within s opened written r) (level : Nat) (name : String) :
    (r.at? (opened.length + level) name).isSome = (s.at? level name).isSome := by
  rw [h.below]
  split
  case isTrue hnearest =>
    obtain ⟨hfound, -⟩ := nearest?_eq_some.1 hnearest
    simp [hfound]
  case isFalse => rfl

theorem nearest?_eq_none_of_not_seen (h : Within s opened written r)
    (hname : r.nearest? name = none) : s.nearest? name = none := by
  refine nearest?_eq_none.2 fun level => ?_
  have hsame := h.isSome_below level name
  rw [nearest?_eq_none.1 hname] at hsame
  simpa using hsame.symm

theorem isSome_assign {level : Nat} {other : String} (h : (r.at? level other).isSome) :
    ((r.assign name value).at? level other).isSome := by
  rw [at?_assign]
  split
  · rfl
  · exact h

theorem target_of_bound (h : Within s opened written r)
    (hname : opened.any (·.contains name) = true) : (r.nearest? name).getD 0 < opened.length := by
  obtain ⟨names, hnames, hmem⟩ := List.any_eq_true.1 hname
  obtain ⟨level, hlevel⟩ := List.mem_iff_getElem?.1 hnames
  have hseen := h.bound level names hlevel name (by simpa using hmem)
  have hinside : level < opened.length := (List.getElem?_eq_some_iff.1 hlevel).1
  cases hnearest : r.nearest? name with
  | none =>
    rw [nearest?_eq_none.1 hnearest] at hseen
    cases hseen
  | some target =>
    have hle : target ≤ level := by
      by_contra hlt
      rw [(nearest?_eq_some.1 hnearest).2 level (Nat.lt_of_not_le hlt)] at hseen
      cases hseen
    exact Nat.lt_of_le_of_lt hle hinside

theorem target_of_below (h : Within s opened written r)
    (hname : opened.any (·.contains name) = false) {level : Nat}
    (hnearest : s.nearest? name = some level) : r.nearest? name = some (opened.length + level) := by
  obtain ⟨hfound, hbefore⟩ := nearest?_eq_some.1 hnearest
  refine nearest?_eq_some.2 ⟨by rw [h.isSome_below, hfound], fun l hl => ?_⟩
  by_cases hinside : l < opened.length
  · have hnames : opened[l]? = some opened[l] := List.getElem?_eq_getElem hinside
    have hnot : name ∉ opened[l] := by
      simpa using List.any_eq_false.1 hname _ (List.getElem_mem hinside)
    have hunseen : ¬ (r.at? l name).isSome := by
      intro hseen
      rcases h.declared l _ hnames name hseen with hmem | hnone
      · exact hnot hmem
      · simp [hnearest] at hnone
    simpa using hunseen
  · obtain ⟨deeper, rfl⟩ := Nat.exists_eq_add_of_le (Nat.le_of_not_lt hinside)
    have hsame := h.isSome_below deeper name
    rw [hbefore deeper (by omega)] at hsame
    simpa using hsame

theorem target_of_new (h : Within s opened written r) (hopened : opened ≠ [])
    (hnearest : s.nearest? name = none) : (r.nearest? name).getD 0 < opened.length := by
  cases hseen : r.nearest? name with
  | none => exact List.length_pos_iff.2 hopened
  | some target =>
    by_contra hout
    obtain ⟨level, hlevel⟩ := Nat.exists_eq_add_of_le (Nat.le_of_not_lt hout)
    have hfound := (nearest?_eq_some.1 hseen).1
    simp only [Option.getD_some] at hlevel
    rw [hlevel, h.isSome_below, nearest?_eq_none.1 hnearest] at hfound
    cases hfound

theorem assign_of_below (h : Within s opened written r) {written' : List (String × Value)}
    (hbelow : ∀ level other, (r.assign name value).at? (opened.length + level) other =
      if s.nearest? other = some level then (Bindings.get? written'.reverse other).or
        (s.at? level other)
      else s.at? level other) : Within s opened written' (r.assign name value) where
  depth := by
    rw [← h.depth, Scopes.depth, toList_assign, List.length_modify]
    rfl
  below := hbelow
  bound level names hnames other hother := isSome_assign (h.bound level names hnames other hother)
  declared level names hnames other hother := by
    rw [at?_assign] at hother
    split at hother
    case isFalse => exact h.declared level names hnames other hother
    case isTrue heq =>
      obtain ⟨hlevel, rfl⟩ := heq
      cases hseen : r.nearest? other with
      | none => exact .inr (h.nearest?_eq_none_of_not_seen hseen)
      | some target =>
        rw [hseen, Option.getD_some] at hlevel
        subst hlevel
        exact h.declared level names hnames other (nearest?_eq_some.1 hseen).1

theorem assign_bound (h : Within s opened written r) (hname : opened.any (·.contains name) = true)
    (value : Value) : Within s opened written (r.assign name value) := by
  apply h.assign_of_below
  intro level other
  have htarget := h.target_of_bound hname
  rw [at?_assign, if_neg (by omega), h.below]

theorem assign_outward (h : Within s opened written r) (hopened : opened ≠ [])
    (hname : opened.any (·.contains name) = false) (value : Value) :
    Within s opened (written ++ [(name, value)]) (r.assign name value) := by
  apply h.assign_of_below
  intro level other
  have hlast : Bindings.get? (written ++ [(name, value)]).reverse other =
      if other = name then some value else Bindings.get? written.reverse other := by
    rw [List.reverse_append, List.reverse_singleton, List.singleton_append, Bindings.get?_cons]
  rw [at?_assign, hlast, h.below]
  cases hnearest : s.nearest? name with
  | none =>
    have htarget := h.target_of_new hopened hnearest
    rw [if_neg (by omega)]
    by_cases heq : other = name
    · simp [heq, hnearest]
    · simp [heq]
  | some deeper =>
    rw [h.target_of_below hname hnearest, Option.getD_some]
    by_cases heq : other = name
    · subst heq
      by_cases hlevel : level = deeper
      · simp [hlevel, hnearest]
      · simp [hlevel, hnearest, Ne.symm hlevel]
    · simp [heq]

open ScopeStep (closes outward)

/-- The induction is on the steps. At their end only the scope around them all is still open. -/
theorem run (h : Within s opened written r) (hopened : opened ≠ []) {steps : List ScopeStep}
    (hsteps : closes (opened.length - 1) steps = true) :
    ∃ names, Within s [names] (written ++ outward opened steps) (r.run steps) := by
  induction steps generalizing opened written r with
  | nil =>
    obtain ⟨names, opened, rfl⟩ := List.exists_cons_of_ne_nil hopened
    have hlast : opened = [] := by simpa [closes] using hsteps
    subst hlast
    exact ⟨names, by simpa [outward, Scopes.run] using h⟩
  | cons step steps ih =>
    cases step with
    | push =>
      refine ih h.push (List.cons_ne_nil _ _) ?_
      obtain ⟨names, opened, rfl⟩ := List.exists_cons_of_ne_nil hopened
      exact hsteps
    | pop =>
      obtain ⟨names, opened, rfl⟩ := List.exists_cons_of_ne_nil hopened
      cases opened with
      | nil => cases hsteps
      | cons names' opened => exact ih (h.pop (List.cons_ne_nil _ _)) (List.cons_ne_nil _ _) hsteps
    | bind name value =>
      obtain ⟨names, opened, rfl⟩ := List.exists_cons_of_ne_nil hopened
      exact ih (h.bind name value) (List.cons_ne_nil _ _) hsteps
    | assign name value =>
      rw [outward]
      split
      case isTrue hname => exact ih (h.assign_bound hname value) hopened hsteps
      case isFalse hname =>
        rw [List.append_cons]
        exact ih (h.assign_outward hopened (by simpa using hname) value) hopened hsteps

end Within

theorem at?_scoped (s : Scopes) {steps : List ScopeStep} (h : ScopeStep.Balanced steps) :
    ((s.push.run steps).pop).depth = s.depth ∧
    ∀ level name, ((s.push.run steps).pop).at? level name =
      if s.nearest? name = some level then (ScopeStep.lastOutward steps name).or (s.at? level name)
      else s.at? level name := by
  obtain ⟨names, hrun⟩ := (Within.start s).run (by simp) h
  have hdepth := hrun.depth
  have hdeep : 1 < (s.push.run steps).depth := by
    have := s.depth_pos
    rw [hdepth, List.length_singleton]
    omega
  refine ⟨?_, fun level name => ?_⟩
  · have := depth_pop hdeep
    rw [List.length_singleton] at hdepth
    omega
  · rw [at?_pop hdeep, Nat.add_comm]
    exact hrun.below level name

/-! What is in sight. -/

theorem proper_modify {s' : Scopes} {target : Nat} (h : ∀ b ∈ s.toList, b.Proper)
    (heq : s'.toList = s.toList.modify target (·.set name value)) : ∀ b ∈ s'.toList, b.Proper := by
  intro b hb
  rw [heq] at hb
  obtain ⟨level, hlevel⟩ := List.mem_iff_getElem?.1 hb
  rw [List.getElem?_modify] at hlevel
  split at hlevel
  · obtain ⟨old, hold, rfl⟩ := Option.map_eq_some_iff.1 hlevel
    exact (h old (List.mem_of_getElem? hold)).set name value
  · exact h b (List.mem_of_getElem? (by simpa using hlevel))

theorem Reachable.proper (h : s.Reachable) : ∀ b ∈ s.toList, b.Proper := by
  induction h with
  | empty => simp [Scopes.empty, toList, Bindings.Proper]
  | ofCaptures h => simpa [Scopes.ofCaptures, toList, Bindings.Proper] using h
  | step h step ih =>
    cases step with
    | push => exact List.forall_mem_cons.2 ⟨List.nodup_nil, ih⟩
    | pop =>
      rename_i s
      obtain ⟨inner, outer⟩ := s
      cases outer with
      | nil => exact ih
      | cons b rest => exact (List.forall_mem_cons.1 ih).2
    | bind name value => exact proper_modify ih (toList_bind _ name value)
    | assign name value => exact proper_modify ih (toList_assign _ name value)

theorem snapshot_eq (s : Scopes) : s.snapshot = s.toList.foldr Bindings.laidOver [] := rfl

theorem proper_snapshot (s : Scopes) : s.snapshot.Proper := by
  rw [snapshot_eq]
  induction s.toList with
  | nil => exact List.nodup_nil
  | cons b rest ih => exact ih.laidOver b

theorem Reachable.get?_snapshot (h : s.Reachable) (name : String) :
    s.snapshot.get? name = s.get? name := by
  have hproper := h.proper
  rw [snapshot_eq, Scopes.get?]
  generalize s.toList = bs at hproper
  induction bs with
  | nil => rfl
  | cons b rest ih =>
    obtain ⟨hb, hrest⟩ := List.forall_mem_cons.1 hproper
    rw [List.foldr_cons, Bindings.get?_laidOver hb, ih hrest, List.findSome?_cons]
    cases b.get? name <;> rfl

theorem get?_forBody (captured : Bindings) {params : List Param} (args : List Value)
    (h : name ∉ params.map (·.name)) :
    (forBody (some captured) params args).get? name = captured.get? name := by
  rw [forBody_eq, get?_bindParams_of_notMem h, get?_ofCaptured]
  rfl

/-- Scopes are lexical. All that is in sight, and nothing else, is in a snapshot, and so in sight of
the body of a closure made there, but for the parameters. Steps in a scope of their own leave the
scopes below as they were, except that the nearest declaration of a name holds the last value
assigned to it while it was not bound inside. -/
theorem scopes_lexical (hs : s.Reachable) :
    (∀ name, s.snapshot.get? name = s.get? name) ∧
    ((ofCaptures s.snapshot).Reachable ∧ ∀ name, (ofCaptures s.snapshot).get? name = s.get? name) ∧
    (∀ (t : Tracer) (enter : Enter) (a : Activation) (operator : DeclId)
      (location : Option Location) (trace : Trace), trace.scopes = s →
      ∃ captured, t.visitExpr enter a (.lambda operator location) trace =
        (.ok (.lambda operator captured), trace) ∧
          ∀ params args name, name ∉ params.map (·.name) →
            (forBody (some captured) params args).get? name = s.get? name) ∧
    ∀ steps, ScopeStep.Balanced steps →
      ((s.push.run steps).pop).depth = s.depth ∧
      (∀ level name, ((s.push.run steps).pop).at? level name =
        if s.nearest? name = some level then
          (ScopeStep.lastOutward steps name).or (s.at? level name)
        else s.at? level name) ∧
      ∀ name, s.get? name = none → ((s.push.run steps).pop).get? name = none := by
  refine ⟨hs.get?_snapshot, ⟨.ofCaptures s.proper_snapshot, fun name => ?_⟩, ?_, ?_⟩
  · exact (get?_ofCaptured (some s.snapshot) name).trans (hs.get?_snapshot name)
  · rintro t enter a operator location trace rfl
    refine ⟨trace.scopes.snapshot, rfl, fun params args name hname => ?_⟩
    rw [get?_forBody _ _ hname, hs.get?_snapshot]
  · intro steps hsteps
    obtain ⟨hdepth, hlevels⟩ := s.at?_scoped hsteps
    refine ⟨hdepth, hlevels, fun name hname => get?_eq_none.2 fun level => ?_⟩
    have hnone := get?_eq_none.1 hname
    rw [hlevels, nearest?_eq_none.2 hnone, hnone]
    rfl

end Scopes

namespace Sample

def bodyScopes : Scopes :=
  (Scopes.ofCaptures [("outer", .function 1)]).bind "local" (.function 2)

def scopedSteps : List ScopeStep :=
  [.bind "local" .unknown, .assign "local" (.function 3), .push, .bind "outer" .unknown,
    .assign "outer" (.function 4),
    .pop, .assign "outer" (.function 5), .assign "new" (.function 6), .assign "outer" (.function 7)]

end Sample

namespace Scopes

theorem scopes_lexical_sample :
    Sample.bodyScopes.Reachable ∧ ScopeStep.Balanced Sample.scopedSteps ∧
    Sample.bodyScopes.snapshot.get? "outer" = some (.function 1) ∧
    ((Sample.bodyScopes.push.run Sample.scopedSteps).pop).at? 0 "local" = some (.function 2) ∧
    ((Sample.bodyScopes.push.run Sample.scopedSteps).pop).at? 1 "outer" = some (.function 7) ∧
    ((Sample.bodyScopes.push.run Sample.scopedSteps).pop).get? "new" = none := by
  have hcaptured : Bindings.Proper [("outer", .function 1)] := List.nodup_singleton _
  have hreachable : Sample.bodyScopes.Reachable :=
    .step (.ofCaptures hcaptured) (.bind "local" (.function 2))
  have hbalanced : ScopeStep.Balanced Sample.scopedSteps := rfl
  obtain ⟨hsnapshot, -, -, hscoped⟩ := scopes_lexical hreachable
  obtain ⟨-, hlevels, hnew⟩ := hscoped _ hbalanced
  refine ⟨hreachable, hbalanced, ?_, ?_, ?_, ?_⟩
  · rw [hsnapshot]
    rfl
  · rw [hlevels]
    rfl
  · rw [hlevels]
    rfl
  · exact hnew "new" rfl

end Scopes

end Lifeline
