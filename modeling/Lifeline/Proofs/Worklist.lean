import Lifeline.Proofs.Reachability
import Mathlib.Data.List.Dedup

namespace Lifeline.CallGraph

structure Search where
  queue : List DeclId
  found : List DeclId

namespace Search

inductive Step (g : CallGraph) : Search → Search → Prop
  | visit (front back found fresh : List DeclId) (id : DeclId)
    (hfresh : ∀ a, a ∈ fresh ↔ g.Calls a id ∧ a ∉ found)
    (hnodup : fresh.Nodup) :
    Step g ⟨front ++ id :: back, found⟩ ⟨front ++ back ++ fresh, found ++ fresh⟩

def Finds (g : CallGraph) (ids found : List DeclId) : Prop :=
  Relation.ReflTransGen (Step g) ⟨ids, []⟩ ⟨[], found⟩

variable {g : CallGraph} {ids found fresh : List DeclId} {s s' : Search} {a : DeclId}

def room (g : CallGraph) (s : Search) : Nat :=
  s.queue.length + (g.pending s.found).length

theorem length_pending_append (hfresh : ∀ a ∈ fresh, a ∉ found ∧ ∃ b, g.Calls a b)
    (hnodup : fresh.Nodup) :
    (g.pending (found ++ fresh)).length + fresh.length ≤ (g.pending found).length := by
  induction fresh generalizing found with
  | nil => simp
  | cons a rest ih =>
    obtain ⟨ha, hrest⟩ := List.forall_mem_cons.mp hfresh
    obtain ⟨hnew, b, hab⟩ := ha
    obtain ⟨hother, hnodup⟩ := List.nodup_cons.mp hnodup
    have hfirst := length_pending_append_lt (List.mem_singleton_self a) hnew hab
    have hlater := @ih (found ++ [a]) (fun c hc => ⟨by grind, (hrest c hc).2⟩) hnodup
    rw [List.append_assoc, List.singleton_append] at hlater
    rw [List.length_cons]
    omega

theorem Step.room_lt (h : Step g s s') : s'.room g < s.room g := by
  cases h with
  | visit front back found fresh id hfresh hnodup =>
    have hpending :
        (g.pending (found ++ fresh)).length + fresh.length ≤ (g.pending found).length := by
      apply length_pending_append _ hnodup
      intro a ha
      obtain ⟨hcalls, hnew⟩ := (hfresh a).mp ha
      exact ⟨hnew, id, hcalls⟩
    simp only [room, List.length_append, List.length_cons]
    omega

theorem step_wellFounded (g : CallGraph) : WellFounded fun s' s => Step g s s' :=
  Subrelation.wf Step.room_lt (measure (room g)).wf

theorem exists_step (hs : s.queue ≠ []) : ∃ s', Step g s s' := by
  obtain ⟨queue, found⟩ := s
  cases queue with
  | nil => exact absurd rfl hs
  | cons id back =>
    refine ⟨_,
      .visit [] back found ((g.callers [id]).filter (· ∉ found)).dedup id ?_ (List.nodup_dedup _)⟩
    simp [mem_callers]

theorem exists_finds (g : CallGraph) (ids : List DeclId) : ∃ found, Finds g ids found := by
  have hends : ∀ s : Search, ∃ found, Relation.ReflTransGen (Step g) s ⟨[], found⟩ := by
    intro s
    induction s using (step_wellFounded g).induction with
    | _ s ih =>
      by_cases hs : s.queue = []
      · obtain ⟨queue, found⟩ := s
        cases hs
        exact ⟨found, .refl⟩
      · obtain ⟨s', hstep⟩ := exists_step (g := g) hs
        obtain ⟨found, hrest⟩ := ih s' hstep
        exact ⟨found, .head hstep hrest⟩
  exact hends ⟨ids, []⟩

/-- What is found reaches one of those that the search began with, and the callers of whatever is
known and no longer in the queue are found. -/
structure Inv (g : CallGraph) (ids : List DeclId) (s : Search) : Prop where
  sound : ∀ a ∈ s.found, ∃ b ∈ ids, g.Reaches a b
  queued : ∀ a ∈ s.queue, a ∈ ids ∨ a ∈ s.found
  closed : ∀ b, b ∈ ids ∨ b ∈ s.found → b ∉ s.queue → ∀ a, g.Calls a b → a ∈ s.found

theorem Inv.start (g : CallGraph) (ids : List DeclId) : Inv g ids ⟨ids, []⟩ where
  sound := by simp
  queued a ha := .inl ha
  closed b hb hdone := by simp_all

theorem Inv.step (h : Inv g ids s) (hstep : Step g s s') : Inv g ids s' := by
  cases hstep with
  | visit front back found fresh id hfresh hnodup =>
    constructor
    · intro a ha
      rcases List.mem_append.mp ha with ha | ha
      · exact h.sound a ha
      · have hcalls := ((hfresh a).mp ha).1
        rcases h.queued id (by simp) with hid | hid
        · exact ⟨id, hid, .single hcalls⟩
        · obtain ⟨b, hb, hreaches⟩ := h.sound id hid
          exact ⟨b, hb, .head hcalls hreaches⟩
    · intro a ha
      have hqueued := h.queued a
      simp only [List.mem_append, List.mem_cons] at ha hqueued ⊢
      tauto
    · intro b hb hdone a hab
      simp only [List.mem_append, not_or] at hb hdone ⊢
      -- What has left the queue is what was looked at just now, or had left it before.
      by_cases hid : b = id
      · subst hid
        by_cases ha : a ∈ found
        · exact .inl ha
        · exact .inr ((hfresh a).mpr ⟨hab, ha⟩)
      · apply Or.inl
        apply h.closed b _ _ a hab
        · tauto
        · simp only [List.mem_append, List.mem_cons]
          tauto

/-- Every search finds all that reach one of those that it began with, and nothing else. -/
theorem Finds.mem_iff (h : Finds g ids found) : a ∈ found ↔ ∃ b ∈ ids, g.Reaches a b := by
  have hinv : Inv g ids ⟨[], found⟩ := by
    have hrun : ∀ s, Relation.ReflTransGen (Step g) ⟨ids, []⟩ s → Inv g ids s := by
      intro s hs
      induction hs with
      | refl => exact .start g ids
      | tail _ hstep ih => exact ih.step hstep
    exact hrun _ h
  constructor
  · exact hinv.sound a
  · intro hreaches
    obtain ⟨b, hb, hab⟩ := hreaches
    induction hab using Relation.TransGen.head_induction_on with
    | single hab => exact hinv.closed _ (.inl hb) List.not_mem_nil _ hab
    | head hac _ ih => exact hinv.closed _ (.inr ih) List.not_mem_nil _ hac

end Search

end Lifeline.CallGraph
