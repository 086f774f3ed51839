import Lifeline.CallGraph
import Lifeline.Proofs.Origin
import Mathlib.Data.Fintype.Card
import Mathlib.Data.Fintype.EquivFin
import Mathlib.Order.WellFounded

namespace Lifeline

namespace CallGraph

variable {g : CallGraph} {ids reached : List DeclId} {rounds : Nat} {a b c : DeclId}

def Calls (g : CallGraph) (a b : DeclId) : Prop :=
  (a, b) ∈ g.edges

def Reaches (g : CallGraph) : DeclId → DeclId → Prop :=
  Relation.TransGen g.Calls

theorem mem_callers : a ∈ g.callers ids ↔ ∃ b ∈ ids, g.Calls a b := by
  simp [callers, Calls, and_comm]

theorem isCalled_iff : g.isCalled b = true ↔ ∃ a, g.Calls a b := by
  simp [isCalled, Calls]

theorem mem_close_of_mem (h : a ∈ reached) : a ∈ g.close rounds reached := by
  induction rounds generalizing reached with
  | zero => exact h
  | succ rounds ih =>
    simp only [close]
    split
    · exact h
    · exact ih (List.mem_append_left _ h)

theorem reaches_of_mem_close (h : ∀ a ∈ reached, ∃ b ∈ ids, g.Reaches a b)
    (ha : a ∈ g.close rounds reached) : ∃ b ∈ ids, g.Reaches a b := by
  induction rounds generalizing reached with
  | zero => exact h a ha
  | succ rounds ih =>
    simp only [close] at ha
    split at ha
    · exact h a ha
    · apply ih _ ha
      intro c hc
      rcases List.mem_append.mp hc with hc | hc
      · exact h c hc
      · obtain ⟨b, hb, hcb⟩ := mem_callers.mp (List.mem_of_mem_filter hc)
        obtain ⟨target, ht, hbt⟩ := h b hb
        exact ⟨target, ht, .head hcb hbt⟩

def pending (g : CallGraph) (reached : List DeclId) : List (DeclId × DeclId) :=
  g.edges.filter fun e => !reached.contains e.1

theorem length_pending_append_lt {fresh : List DeclId} (ha : a ∈ fresh) (hr : a ∉ reached)
    (hab : g.Calls a b) : (g.pending (reached ++ fresh)).length < (g.pending reached).length := by
  have hsub : (g.pending (reached ++ fresh)).Sublist (g.pending reached) := by
    apply List.monotone_filter_right
    intro e he
    simp only [List.contains_append, Bool.not_or, Bool.and_eq_true] at he
    exact he.1
  apply Nat.lt_of_le_of_ne hsub.length_le
  intro heq
  have hmem : (a, b) ∈ g.pending (reached ++ fresh) := by
    rw [hsub.eq_of_length heq]
    exact List.mem_filter.mpr ⟨hab, by simpa using hr⟩
  simp [pending, ha] at hmem

/-- With a round for every pending edge the search ends only when no caller is missing. -/
theorem mem_close_of_calls (hrounds : (g.pending reached).length ≤ rounds) (hab : g.Calls a b)
    (hb : b ∈ g.close rounds reached) : a ∈ g.close rounds reached := by
  induction rounds generalizing reached with
  | zero =>
    by_contra ha
    have : (a, b) ∈ g.pending reached := List.mem_filter.mpr ⟨hab, by simpa [close] using ha⟩
    simp [List.length_eq_zero_iff.mp (Nat.le_zero.mp hrounds)] at this
  | succ rounds ih =>
    simp only [close] at hb ⊢
    split at hb
    case isTrue hnone =>
      rw [if_pos hnone]
      by_contra ha
      have : a ∈ (g.callers reached).filter fun id => !reached.contains id :=
        List.mem_filter.mpr ⟨mem_callers.mpr ⟨b, hb, hab⟩, by simpa using ha⟩
      rw [List.isEmpty_iff.mp hnone] at this
      exact List.not_mem_nil this
    case isFalse hsome =>
      rw [if_neg hsome]
      apply ih _ hb
      obtain ⟨c, hc⟩ := List.exists_mem_of_ne_nil _ (mt List.isEmpty_iff.mpr hsome)
      obtain ⟨hcalls, hnew⟩ := List.mem_filter.mp hc
      obtain ⟨d, -, hcd⟩ := mem_callers.mp hcalls
      exact Nat.le_of_lt_succ
        (Nat.lt_of_lt_of_le (length_pending_append_lt hc (by simpa using hnew) hcd) hrounds)

theorem mem_reaching : a ∈ g.reaching ids ↔ ∃ b ∈ ids, g.Reaches a b := by
  constructor
  · intro h
    apply reaches_of_mem_close _ h
    intro c hc
    obtain ⟨b, hb, hcb⟩ := mem_callers.mp hc
    exact ⟨b, hb, .single hcb⟩
  · intro h
    obtain ⟨b, hb, hab⟩ := h
    induction hab using Relation.TransGen.head_induction_on with
    | single hab => exact mem_close_of_mem (mem_callers.mpr ⟨b, hb, hab⟩)
    | head hac _ ih => exact mem_close_of_calls (List.length_filter_le _ _) hac ih

instance (g : CallGraph) (a b : DeclId) : Decidable (g.Reaches a b) :=
  decidable_of_iff (a ∈ g.reaching [b]) (by simp [mem_reaching])

theorem exists_uncalled (hacyclic : ∀ a, a = b ∨ g.Reaches a b → ¬ g.Reaches a a) :
    ∃ a, (a = b ∨ g.Reaches a b) ∧ g.isCalled a = false := by
  -- The relation is restricted to what stands above `b`, since there may be cycles elsewhere.
  let r : DeclId → DeclId → Prop := fun x y => g.Reaches x y ∧ (y = b ∨ g.Reaches y b)
  have : IsTrans DeclId r := ⟨fun _ _ _ hxy hyz => ⟨hxy.1.trans hyz.1, hyz.2⟩⟩
  have : Std.Irrefl r := ⟨fun x hx => hacyclic x hx.2 hx.1⟩
  have : Finite DeclId := Finite.of_injective UInt64.toFin fun _ _ => UInt64.toFin_inj.mp
  have hwf : WellFounded r := Finite.wellFounded_of_trans_of_irrefl r
  obtain ⟨a, ha, hmin⟩ := hwf.has_min {a | a = b ∨ g.Reaches a b} ⟨b, .inl rfl⟩
  refine ⟨a, ha, Bool.eq_false_iff.mpr ?_⟩
  intro hcalled
  obtain ⟨c, hca⟩ := isCalled_iff.mp hcalled
  apply hmin c _ ⟨.single hca, ha⟩
  rcases ha with rfl | ha
  · exact .inr (.single hca)
  · exact .inr (.head hca ha)

end CallGraph

namespace Program

variable {p : Program} {a b : DeclId}

theorem calls_iff : p.callGraph.Calls a b ↔ ∃ d ∈ p.decls,
    a = d.id ∧ b ∈ d.callees ∨
      b = d.id ∧ ∃ info, p.closure? d = some info ∧ info.parent = some a := by
  simp only [CallGraph.Calls, callGraph, edgesOf, List.mem_flatMap, List.mem_append,
    List.mem_map, Prod.mk.injEq, Option.mem_toList, Option.bind_eq_some_iff]
  grind

end Program

end Lifeline
