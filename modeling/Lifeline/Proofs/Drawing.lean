import Lifeline.Diagram.Basic
import Lifeline.Proofs.ContextTree

namespace Lifeline

def Fragment.opened? : Fragment → Option Frame
  | .opening f => some f
  | .alternative _ => none
  | .closing _ => none

def DrawStep.opened? : DrawStep → Option Frame
  | .fragment f => f.opened?
  | .message _ => none

namespace Fragment

def openings (prev next : Context) : List Frame :=
  (between prev next).filterMap opened?

variable {f g : Frame} {fs gs prev next : Context}

theorem openings_nil : openings [] next = next := by
  simp [openings, between, Context.sharedLength, cross, Function.comp_def, opened?]

theorem openings_to_nil : openings prev [] = [] := by
  cases prev <;> simp [openings, between, Context.sharedLength, cross, opened?]

theorem openings_cons_self : openings (f :: fs) (f :: gs) = openings fs gs := by
  simp [openings, between, Context.sharedLength]

theorem openings_cons (h : f ≠ g) :
    openings (f :: fs) (g :: gs) = if g.isAlternativeOf f then gs else g :: gs := by
  simp only [openings, between, Context.sharedLength, if_neg h, List.drop_zero, cross]
  split <;> simp [List.filterMap_cons, opened?, Function.comp_def]

theorem isAlternativeOf_of_ne (h : Context.Precedes (f :: fs) (g :: gs)) (hfg : f ≠ g)
    {e e' : Frame} (he : e ∈ f :: fs) (he' : e' ∈ g :: gs) (hblock : e.block = e'.block) :
    e' = g ∧ g.isAlternativeOf f = true := by
  obtain ⟨outer, inner, hx⟩ := List.append_of_mem he
  obtain ⟨outer', inner', hz⟩ := List.append_of_mem he'
  obtain ⟨rfl, horder⟩ := h outer e inner outer' e' inner' hx hz hblock
  rcases Context.cons_eq_append hx with ⟨rfl, rfl⟩ | ⟨rest, rfl, -⟩
  · obtain ⟨rfl, -⟩ := List.cons.inj hz
    exact ⟨rfl, (horder.resolve_left hfg).isAlternativeOf⟩
  · exact absurd (List.cons.inj hz).1.symm hfg

theorem openings_fresh (hincreasing : (next.map Frame.block).Pairwise (· < ·))
    (h : prev.Precedes next) :
    (openings prev next).Sublist next ∧
      ∀ e ∈ prev, ∀ g ∈ openings prev next, e.block ≠ g.block := by
  induction prev generalizing next with
  | nil => exact ⟨by rw [openings_nil], by simp⟩
  | cons f fs ih =>
    cases next with
    | nil => simp [openings_to_nil]
    | cons g gs =>
      obtain ⟨hinner, hrest⟩ := List.pairwise_cons.1 hincreasing
      by_cases hfg : f = g
      · subst hfg
        obtain ⟨hsub, hfresh⟩ := ih hrest h.tail
        rw [openings_cons_self]
        refine ⟨hsub.cons _, List.forall_mem_cons.2 ⟨fun e he => ?_, hfresh⟩⟩
        exact Nat.ne_of_lt (hinner _ (List.mem_map_of_mem (hsub.subset he)))
      · rw [openings_cons hfg]
        split
        next halternative =>
          refine ⟨List.sublist_cons_self _ _, fun e he e' he' hblock => ?_⟩
          obtain ⟨rfl, -⟩ := isAlternativeOf_of_ne h hfg he (List.mem_cons_of_mem _ he') hblock
          exact Nat.lt_irrefl _ (hinner _ (List.mem_map_of_mem he'))
        next halternative =>
          refine ⟨.refl _, fun e he e' he' hblock => halternative ?_⟩
          exact (isAlternativeOf_of_ne h hfg he he' hblock).2

end Fragment

namespace Interaction

def openingsFrom (context : Context) (ms : List Message) : List Frame :=
  (stepsFrom context ms).filterMap DrawStep.opened?

theorem filterMap_opened?_fragment (fs : List Fragment) :
    (fs.map DrawStep.fragment).filterMap DrawStep.opened? = fs.filterMap Fragment.opened? := by
  simp [List.filterMap_map, Function.comp_def, DrawStep.opened?]

theorem openingsFrom_nil (context : Context) : openingsFrom context [] = [] := by
  rw [openingsFrom, stepsFrom, filterMap_opened?_fragment]
  exact Fragment.openings_to_nil

theorem openingsFrom_cons (context : Context) (m : Message) (ms : List Message) :
    openingsFrom context (m :: ms) =
      Fragment.openings context m.context ++ openingsFrom m.context ms := by
  rw [openingsFrom, stepsFrom, List.filterMap_append, filterMap_opened?_fragment]
  rfl

theorem openingsFrom_fresh {prev : Context} {ms : List Message}
    (h : Context.Coherent (prev :: ms.map (·.context))) :
    ((openingsFrom prev ms).map Frame.block).Nodup ∧
      ∀ g ∈ openingsFrom prev ms, (∃ m ∈ ms, g ∈ m.context) ∧ ∀ e ∈ prev, e.block ≠ g.block := by
  induction ms generalizing prev with
  | nil => simp [openingsFrom_nil]
  | cons m ms ih =>
    rw [List.map_cons] at h
    have hordered := (List.pairwise_cons.1 h.ordered).1
    have hspans := (List.pairwise_cons.1 (List.triplewise_cons.1 h.contiguous).1).1
    have hincreasing := h.increasing m.context (by simp)
    obtain ⟨hsub, hfresh⟩ := Fragment.openings_fresh hincreasing (hordered m.context (by simp))
    obtain ⟨hnodup, hrest⟩ := ih (h.sublist (List.sublist_cons_self _ _))
    rw [openingsFrom_cons]
    refine ⟨?_, List.forall_mem_append.2 ⟨fun g hg => ?_, fun g hg => ?_⟩⟩
    · rw [List.map_append, List.nodup_append]
      refine ⟨(hincreasing.imp Nat.ne_of_lt).sublist (hsub.map _), hnodup, ?_⟩
      refine List.forall_mem_map.2 fun f hf => List.forall_mem_map.2 fun g hg => ?_
      exact (hrest g hg).2 f (hsub.subset hf)
    · exact ⟨⟨m, by simp, hsub.subset hg⟩, fun e he => hfresh e he g hg⟩
    · obtain ⟨⟨n, hn, hgn⟩, hopen⟩ := hrest g hg
      refine ⟨⟨n, List.mem_cons_of_mem _ hn, hgn⟩, fun e he hblock => ?_⟩
      -- A statement that is open before and after the message is open at it.
      have hnc := List.mem_map_of_mem (f := (·.context)) hn
      obtain ⟨outer, inner, hx⟩ := List.append_of_mem he
      obtain ⟨outer', inner', hz⟩ := List.append_of_mem hgn
      obtain ⟨rfl, -⟩ :=
        hordered _ (List.mem_cons_of_mem _ hnc) outer e inner outer' g inner' hx hz hblock
      obtain ⟨k, inner'', hm, hk⟩ := hspans _ hnc _ e inner g inner' hx hz hblock
      exact hopen k (Context.mem_of_eq hm) (hk.trans hblock)

end Interaction

namespace Tracer

variable {t : Tracer}

/-- The contexts of messages form a tree, also of only some of the messages, and every statement is
drawn as one fragment. -/
theorem contexts_form_tree {r : Roster} (hr : t.casting.Reached r) (entries : List Decl)
    {ms : List Message}
    (hms : ms.Sublist (t.traceAll entries { roster := r }).interaction.messages.toList) :
    Context.WellNested (ms.map (·.context)) ∧
      (((Interaction.stepsFrom [] ms).filterMap DrawStep.opened?).map Frame.block).Nodup := by
  have htree :=
    (Context.Tree.message 0).append (t.traceAll_tree (s := { roster := r }) hr.sound rfl entries)
  have hcoherent : Context.Coherent ([] :: ms.map (·.context)) :=
    htree.toCoherent.sublist ((hms.map _).cons_cons _)
  exact ⟨(hcoherent.sublist (List.sublist_cons_self _ _)).wellNested,
    (Interaction.openingsFrom_fresh hcoherent).1⟩

theorem contexts_form_tree_sample : Sample.tracer.casting.Reached {} ∧
    (Sample.tracer.traceAll [Sample.run, Sample.run] {}).interaction.messages.toList.map
        (fun m => m.context.map Frame.block) =
      [[0], [0], [0, 1], [0, 1], [0], [0, 2], [0, 2], [0, 2], [0],
        [3], [3], [3, 4], [3, 4], [3], [3, 5], [3, 5], [3, 5], [3]] ∧
    ((Sample.tracer.traceAll [Sample.run, Sample.run]
      {}).interaction.messages.toList.drop 3).Sublist
      (Sample.tracer.traceAll [Sample.run, Sample.run] {}).interaction.messages.toList ∧
    Context.WellNested
      (((Sample.tracer.traceAll [Sample.run, Sample.run] {}).interaction.messages.toList.drop 3).map
        (·.context)) :=
  ⟨.empty, by decide +kernel, List.drop_sublist _ _,
    (contexts_form_tree (t := Sample.tracer) .empty _ (List.drop_sublist 3 _)).1⟩

end Tracer

end Lifeline
