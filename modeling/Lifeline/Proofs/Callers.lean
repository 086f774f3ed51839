import Lifeline.EntryPoint
import Lifeline.Proofs.Law.Run
import Lifeline.Proofs.Reachability

namespace Lifeline

section

variable {test : α → Except ε Bool} {l kept : List α} {a : α}

theorem filterAuxM_eq_ok {acc : List α} (h : l.filterAuxM test acc = .ok kept) :
    kept = (l.filter fun a => (test a).toOption == some true).reverse ++ acc := by
  induction l generalizing acc with
  | nil =>
    cases h
    simp
  | cons b rest ih =>
    cases hb : test b with
    | error e => simp [List.filterAuxM, hb, bind, Except.bind] at h
    | ok keep =>
      simp only [List.filterAuxM, hb, bind, Except.bind] at h
      rw [ih h]
      cases keep <;> simp [hb, Except.toOption]

theorem filterM_eq_ok (h : l.filterM test = .ok kept) :
    kept = l.filter fun a => (test a).toOption == some true := by
  cases hl : l.filterAuxM test [] with
  | error e => simp [List.filterM, hl, bind, Except.bind] at h
  | ok found =>
    simp only [List.filterM, hl, bind, Except.bind, pure, Except.pure, Except.ok.injEq] at h
    rw [← h, filterAuxM_eq_ok hl]
    simp

theorem mem_filterM_ok (h : l.filterM test = .ok kept) : a ∈ kept ↔ a ∈ l ∧ test a = .ok true := by
  rw [filterM_eq_ok h, List.mem_filter]
  cases test a <;> simp [Except.toOption]

end

namespace Program

variable {p : Program} {selector : String} {c d : Decl} {entries : List Decl} {id : DeclId}

def Names (p : Program) (selector : String) (id : DeclId) : Prop :=
  ∃ t ∈ p.decls, t.id = id ∧ p.isNamed selector t = .ok true

instance (p : Program) (selector : String) (id : DeclId) : Decidable (p.Names selector id) :=
  inferInstanceAs (Decidable (∃ t ∈ p.decls, t.id = id ∧ p.isNamed selector t = .ok true))

structure IsCaller (p : Program) (selector : String) (d : Decl) : Prop where
  declared : d ∈ p.decls
  canStart : p.canStart d = true
  unnamed : ¬ p.Names selector d.id
  reaches : ∃ t, p.Names selector t ∧ p.callGraph.Reaches d.id t

def Covers (p : Program) (entries : List Decl) (d : Decl) : Prop :=
  d ∈ entries ∨ ∃ e ∈ entries, p.callGraph.Reaches e.id d.id

theorem mem_rootsOrAll {isRoot : Decl → Bool} {candidates : List Decl} :
    d ∈ rootsOrAll isRoot candidates ↔
      d ∈ candidates ∧ (isRoot d = true ∨ ∀ c ∈ candidates, isRoot c = false) := by
  simp only [rootsOrAll]
  split
  case isTrue hnone =>
    have hnone : ∀ c ∈ candidates, isRoot c = false := by simpa [List.filter_eq_nil_iff] using hnone
    exact ⟨fun h => ⟨h, .inr hnone⟩, And.left⟩
  case isFalse hsome =>
    have hsome : ¬ ∀ c ∈ candidates, isRoot c = false := by
      simpa [List.filter_eq_nil_iff] using hsome
    simp [hsome]

/-- The candidates among which the search picks are just the callers, in the order of the
program. -/
theorem callersReaching_eq_ok (h : p.callersReaching selector = .ok entries) :
    ∃ candidates, candidates.Sublist p.decls ∧ (∀ d, d ∈ candidates ↔ p.IsCaller selector d) ∧
      entries = rootsOrAll (fun d => !p.callGraph.isCalled d.id) candidates := by
  cases hnamed : p.named selector with
  | error e => simp [callersReaching, hnamed, bind, Except.bind] at h
  | ok targets =>
    have hids : ∀ id, id ∈ targets.map (·.id) ↔ p.Names selector id := by
      intro id
      simp [Names, mem_filterM_ok hnamed, and_comm, and_left_comm]
    simp only [callersReaching, hnamed, bind, Except.bind] at h
    split at h
    · simp [throw, throwThe, MonadExceptOf.throw] at h
    · simp only [pure, Except.pure] at h
      split at h
      · simp [throw, throwThe, MonadExceptOf.throw] at h
      · cases h
        refine ⟨_, List.filter_sublist, fun d => ?_, rfl⟩
        simp only [List.mem_filter, Bool.and_eq_true, List.contains_iff_mem,
          CallGraph.mem_reaching, hids, Bool.not_eq_true', ← Bool.not_eq_true]
        exact ⟨fun h => ⟨h.1, h.2.2, h.2.1.2, h.2.1.1⟩, fun h => ⟨h.1, ⟨h.4, h.3⟩, h.2⟩⟩

theorem mem_callersReaching (h : p.callersReaching selector = .ok entries) :
    d ∈ entries ↔ p.IsCaller selector d ∧
      (p.callGraph.isCalled d.id = false ∨ ∀ c, p.IsCaller selector c →
        p.callGraph.isCalled c.id = true) := by
  obtain ⟨candidates, -, hcandidates, rfl⟩ := callersReaching_eq_ok h
  simp [mem_rootsOrAll, hcandidates]

/-- Nothing at or above the function is part of a cycle, none of those above goes by the selector,
and the closures among them stand in functions with a body. -/
structure Rooted (p : Program) (selector : String) (d : Decl) : Prop where
  acyclic : ∀ a, a = d.id ∨ p.callGraph.Reaches a d.id → ¬ p.callGraph.Reaches a a
  unnamed : ∀ a, p.callGraph.Reaches a d.id → ¬ p.Names selector a
  closures : ∀ o ∈ p.decls, o.id = d.id ∨ p.callGraph.Reaches o.id d.id →
    ∀ info, p.closure? o = some info →
    ∃ parent ∈ p.decls, info.parent = some parent.id ∧ parent.hasBody = true

theorem hasBody_of_mem_callees (h : id ∈ d.callees) : d.hasBody = true := by
  simp only [Decl.callees, Decl.hasBody] at *
  cases hb : d.body? with
  | none => simp [hb, Stmt.calleesOption] at h
  | some body => rfl

theorem Rooted.isCaller (hr : p.Rooted selector d) (hd : p.IsCaller selector d) {a b : DeclId}
    (hab : p.callGraph.Calls a b) (hb : b = d.id ∨ p.callGraph.Reaches b d.id)
    (ha : p.callGraph.isCalled a = false) :
    ∃ root, p.IsCaller selector root ∧ root.id = a := by
  have habove : p.callGraph.Reaches a d.id := by
    rcases hb with rfl | hb
    · exact .single hab
    · exact .head hab hb
  obtain ⟨root, hroot, rfl, hbody⟩ : ∃ root ∈ p.decls, root.id = a ∧ root.hasBody = true := by
    obtain ⟨o, ho, ⟨rfl, hcallee⟩ | ⟨rfl, info, hclosure, hparent⟩⟩ := calls_iff.mp hab
    · exact ⟨o, ho, rfl, hasBody_of_mem_callees hcallee⟩
    · obtain ⟨parent, hmem, hid, hbody⟩ := hr.closures o ho hb info hclosure
      exact ⟨parent, hmem, Option.some.inj (hid.symm.trans hparent), hbody⟩
  have hplain : p.closure? root = none := by
    -- A closure would be called by the function in which it stands.
    cases hclosure : p.closure? root with
    | none => rfl
    | some info =>
      obtain ⟨parent, -, hid, -⟩ := hr.closures root hroot (.inr habove) info hclosure
      have : p.callGraph.Calls parent.id root.id :=
        calls_iff.mpr ⟨root, hroot, .inr ⟨rfl, info, hclosure, hid⟩⟩
      simp [CallGraph.isCalled_iff.mpr ⟨_, this⟩] at ha
  obtain ⟨t, ht, hdt⟩ := hd.reaches
  exact ⟨root, ⟨hroot, by simp [canStart, hbody, isClosureOperator, hplain],
    hr.unnamed _ habove, t, ht, habove.trans hdt⟩, rfl⟩

theorem Rooted.exists_root (hr : p.Rooted selector d) (hd : p.IsCaller selector d) :
    ∃ root, p.IsCaller selector root ∧ p.callGraph.isCalled root.id = false ∧
      (root = d ∨ p.callGraph.Reaches root.id d.id) := by
  obtain ⟨a, ha, huncalled⟩ := CallGraph.exists_uncalled hr.acyclic
  rcases ha with rfl | ha
  · exact ⟨d, hd, huncalled, .inl rfl⟩
  · obtain ⟨b, hab, hb⟩ := Relation.TransGen.head'_iff.mp ha
    have hb : b = d.id ∨ p.callGraph.Reaches b d.id := by
      rcases Relation.reflTransGen_iff_eq_or_transGen.mp hb with rfl | hb
      · exact .inl rfl
      · exact .inr hb
    obtain ⟨root, hroot, rfl⟩ := hr.isCaller hd hab hb huncalled
    exact ⟨root, hroot, huncalled, .inr ha⟩

/-- A caller is lost just if some callers are not called but none of those at or above it. -/
theorem callers_covered_iff (h : p.callersReaching selector = .ok entries)
    (hd : p.IsCaller selector d) :
    (p.Covers entries d ↔
      (∀ c, p.IsCaller selector c → p.callGraph.isCalled c.id = true) ∨
        ∃ root, p.IsCaller selector root ∧ p.callGraph.isCalled root.id = false ∧
          (root = d ∨ p.callGraph.Reaches root.id d.id)) ∧
    (p.Rooted selector d → p.Covers entries d) := by
  have hiff : p.Covers entries d ↔
      (∀ c, p.IsCaller selector c → p.callGraph.isCalled c.id = true) ∨
        ∃ root, p.IsCaller selector root ∧ p.callGraph.isCalled root.id = false ∧
          (root = d ∨ p.callGraph.Reaches root.id d.id) := by
    simp only [Covers, mem_callersReaching h]
    constructor
    · intro hcovers
      rcases hcovers with ⟨-, huncalled | hall⟩ | ⟨e, ⟨he, huncalled | hall⟩, hed⟩
      · exact .inr ⟨d, hd, huncalled, .inl rfl⟩
      · exact .inl hall
      · exact .inr ⟨e, he, huncalled, .inr hed⟩
      · exact .inl hall
    · intro hroots
      rcases hroots with hall | ⟨root, hroot, huncalled, rfl | habove⟩
      · exact .inl ⟨hd, .inr hall⟩
      · exact .inl ⟨hd, .inl huncalled⟩
      · exact .inr ⟨root, ⟨hroot, .inl huncalled⟩, habove⟩
  exact ⟨hiff, fun hr => hiff.mpr (.inr (hr.exists_root hd))⟩

end Program

namespace Sample

def inner : Decl :=
  function 5 "inner" none (.block [])

def outer : Decl :=
  function 6 "outer" none (.expr (call 7 []))

def middle : Decl :=
  function 7 "middle" none (.expr (call 5 []))

def looping : Decl :=
  function 8 "looping" none (.block [.expr (call 8 []), .expr (call 5 [])])

def ways : Program :=
  ⟨[inner, outer, middle, looping]⟩

theorem callersReaching_inner : ways.callersReaching "inner" = .ok [outer] := by
  rfl

theorem isCaller_middle : ways.IsCaller "inner" middle where
  declared := by simp [ways]
  canStart := by decide +kernel
  unnamed := by decide +kernel
  reaches := ⟨5, by decide +kernel, by decide +kernel⟩

theorem isCaller_looping : ways.IsCaller "inner" looping where
  declared := by simp [ways]
  canStart := by decide +kernel
  unnamed := by decide +kernel
  reaches := ⟨5, by decide +kernel, by decide +kernel⟩

theorem rooted_middle : ways.Rooted "inner" middle := by
  have habove : ∀ a, ways.callGraph.Reaches a middle.id → a = 6 := by
    intro a ha
    have hmem : a ∈ ways.callGraph.reaching [7] := CallGraph.mem_reaching.mpr ⟨7, by simp, ha⟩
    rw [show ways.callGraph.reaching [7] = [6] by decide +kernel] at hmem
    exact List.mem_singleton.mp hmem
  constructor
  · intro a ha
    rcases ha with rfl | ha
    · decide +kernel
    · rw [habove a ha]
      decide +kernel
  · intro a ha
    rw [habove a ha]
    decide +kernel
  · intro o ho _ info hclosure
    simp only [ways, List.mem_cons, List.not_mem_nil, or_false] at ho
    rcases ho with rfl | rfl | rfl | rfl <;>
      simp [Program.closure?, inner, outer, middle, looping, function, Decl.function?] at hclosure

end Sample

theorem Program.callers_covered_iff_sample :
    Sample.ways.callersReaching "inner" = .ok [Sample.outer] ∧
      Sample.ways.IsCaller "inner" Sample.middle ∧
      Sample.ways.Rooted "inner" Sample.middle ∧ Sample.ways.Covers [Sample.outer] Sample.middle :=
  ⟨Sample.callersReaching_inner, Sample.isCaller_middle, Sample.rooted_middle,
    (Program.callers_covered_iff Sample.callersReaching_inner Sample.isCaller_middle).2
      Sample.rooted_middle⟩

/-- The diagram starts at one caller only and does not account for the one that calls itself. -/
theorem Program.recursive_caller_lost :
    Sample.ways.callersReaching "inner" = .ok [Sample.outer] ∧
      Sample.ways.IsCaller "inner" Sample.looping ∧
      ¬ Sample.ways.Covers [Sample.outer] Sample.looping := by
  refine ⟨Sample.callersReaching_inner, Sample.isCaller_looping, ?_⟩
  intro hcovers
  rcases hcovers with hmem | ⟨e, he, hreaches⟩
  · have hid := congrArg Decl.id (List.mem_singleton.mp hmem)
    revert hid
    decide +kernel
  · rw [List.mem_singleton.mp he] at hreaches
    revert hreaches
    decide +kernel

end Lifeline
