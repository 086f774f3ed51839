import Mathlib.Data.List.Nodup
import Mathlib.Data.List.Triplewise
import Lifeline.Proofs.Law.Calls

namespace Lifeline

namespace Frame

def branching? : Frame → Option (BranchKind × Nat)
  | .branch _ kind _ total _ => some (kind, total)
  | .loop _ _ _ => none
  | .handler _ _ _ => none
  | .coroutine _ _ => none

variable {f g : Frame}

theorem Precedes.index_lt (h : f.Precedes g) : f.index < g.index := by
  cases h <;> assumption

theorem Precedes.branching? (h : f.Precedes g) : f.branching? = g.branching? := by
  cases h <;> rfl

theorem Precedes.isAlternativeOf (h : f.Precedes g) : g.isAlternativeOf f = true := by
  cases h <;> simp [Frame.isAlternativeOf] <;> omega

end Frame

namespace Context

def Precedes (x z : Context) : Prop :=
  ∀ outer f inner outer' g inner', x = outer ++ f :: inner →
    z = outer' ++ g :: inner' → f.block = g.block → outer' = outer ∧ (f = g ∨ f.Precedes g)

def Spans (x y z : Context) : Prop :=
  ∀ outer f inner g inner', x = outer ++ f :: inner → z = outer ++ g :: inner' → f.block = g.block →
    ∃ h inner'', y = outer ++ h :: inner'' ∧ h.block = f.block

structure WellNested (cs : List Context) : Prop where
  increasing : ∀ c ∈ cs, (c.map Frame.block).Pairwise (· < ·)
  /-- From the first to the last context in a statement all are in it, inside the same frames, and
  go through its alternatives in order. -/
  together : ∀ before x between z after, cs = before ++ x :: (between ++ z :: after) →
    ∀ outer f inner outer' g inner', x = outer ++ f :: inner →
    z = outer' ++ g :: inner' → f.block = g.block →
      outer' = outer ∧ f.index ≤ g.index ∧ ∀ y ∈ between, ∃ h inner'', y = outer ++ h :: inner'' ∧
        h.block = f.block ∧ f.index ≤ h.index ∧ h.index ≤ g.index
  determined : ∀ x ∈ cs, ∀ z ∈ cs, ∀ f ∈ x, ∀ g ∈ z, f.block = g.block → f.index = g.index → f = g
  alike : ∀ x ∈ cs, ∀ z ∈ cs, ∀ f ∈ x, ∀ g ∈ z, f.block = g.block → f.branching? = g.branching?
  proper : ∀ c ∈ cs, ∀ f ∈ c, f.Proper

/-- Statements are numbered from the outside in, and each is a stretch of contexts that goes through
its alternatives in order. -/
structure Coherent (cs : List Context) : Prop where
  increasing : ∀ c ∈ cs, (c.map Frame.block).Pairwise (· < ·)
  proper : ∀ c ∈ cs, ∀ f ∈ c, f.Proper
  ordered : cs.Pairwise Precedes
  contiguous : cs.Triplewise Spans

theorem triplewise_sublist {p : α → α → α → Prop} {xs ys : List α} (h : ys.Triplewise p)
    (hsub : xs.Sublist ys) : xs.Triplewise p := by
  induction hsub with
  | slnil => exact .nil
  | cons _ _ ih => exact ih (List.triplewise_cons.1 h).2
  | cons_cons _ hsub ih =>
    obtain ⟨hhead, htail⟩ := List.triplewise_cons.1 h
    exact List.triplewise_cons.2 ⟨hhead.sublist hsub, ih htail⟩

namespace Coherent

variable {cs ds : List Context}

theorem sublist (h : Coherent ds) (hsub : cs.Sublist ds) : Coherent cs :=
  ⟨fun c hc => h.increasing c (hsub.subset hc), fun c hc => h.proper c (hsub.subset hc),
    h.ordered.sublist hsub, triplewise_sublist h.contiguous hsub⟩

theorem comparable (h : Coherent cs) {x z : Context} (hx : x ∈ cs) (hz : z ∈ cs) :
    ∀ f ∈ x, ∀ g ∈ z, f.block = g.block → f = g ∨ f.Precedes g ∨ g.Precedes f := by
  have hordered {x z : Context} (h : x.Precedes z) :
      ∀ f ∈ x, ∀ g ∈ z, f.block = g.block → f = g ∨ f.Precedes g := by
    intro f hf g hg hblock
    obtain ⟨outer, inner, hx⟩ := List.append_of_mem hf
    obtain ⟨outer', inner', hz⟩ := List.append_of_mem hg
    exact (h outer f inner outer' g inner' hx hz hblock).2
  -- Contexts come in this order or in the other, or are the same.
  refine List.Pairwise.forall_of_forall_of_flip
    (R := fun x z => ∀ f ∈ x, ∀ g ∈ z, f.block = g.block → f = g ∨ f.Precedes g ∨ g.Precedes f)
      ?_ ?_ ?_ hx hz
  · intro x hx f hf g hg hblock
    have hnodup : (x.map Frame.block).Nodup := (h.increasing x hx).imp Nat.ne_of_lt
    exact .inl (List.inj_on_of_nodup_map hnodup hf hg hblock)
  · refine h.ordered.imp fun {x z} hxz f hf g hg hblock => ?_
    exact (hordered hxz f hf g hg hblock).imp_right .inl
  · refine h.ordered.imp fun {x z} hxz f hf g hg hblock => ?_
    exact (hordered hxz g hg f hf hblock.symm).imp Eq.symm .inr

theorem wellNested (h : Coherent cs) : WellNested cs := by
  refine ⟨h.increasing, ?_, ?_, ?_, h.proper⟩
  · rintro before x between z after rfl outer f inner outer' g inner' hx hz hblock
    have hle {f g : Frame} (h : f = g ∨ f.Precedes g) : f.index ≤ g.index :=
      h.elim (fun h => h ▸ Nat.le_refl _) fun h => Nat.le_of_lt h.index_lt
    obtain ⟨-, hordered, -⟩ := List.pairwise_append.1 h.ordered
    obtain ⟨hxs, hordered⟩ := List.pairwise_cons.1 hordered
    obtain ⟨-, -, hbetween⟩ := List.pairwise_append.1 hordered
    obtain ⟨-, hcontiguous, -⟩ := List.triplewise_append.1 h.contiguous
    obtain ⟨-, -, hspans⟩ := List.pairwise_append.1 (List.triplewise_cons.1 hcontiguous).1
    obtain ⟨rfl, hfg⟩ := hxs z (by simp) outer f inner outer' g inner' hx hz hblock
    refine ⟨rfl, hle hfg, fun y hy => ?_⟩
    obtain ⟨k, inner'', hyk, hk⟩ := hspans y hy z (by simp) _ f inner g inner' hx hz hblock
    obtain ⟨-, hfk⟩ := hxs y (by simp [hy]) _ f inner _ k inner'' hx hyk hk.symm
    obtain ⟨-, hkg⟩ := hbetween y hy z (by simp) _ k inner'' _ g inner' hyk hz (hk.trans hblock)
    exact ⟨k, inner'', hyk, hk, hle hfk, hle hkg⟩
  · intro x hx z hz f hf g hg hblock hindex
    rcases h.comparable hx hz f hf g hg hblock with heq | hfg | hgf
    · exact heq
    · exact absurd hindex (Nat.ne_of_lt hfg.index_lt)
    · exact absurd hindex (Nat.ne_of_gt hgf.index_lt)
  · intro x hx z hz f hf g hg hblock
    rcases h.comparable hx hz f hf g hg hblock with rfl | hfg | hgf
    · rfl
    · exact hfg.branching?
    · exact hgf.branching?.symm

end Coherent

structure Tree (lo hi : Nat) (cs : List Context) : Prop extends Coherent cs where
  le : lo ≤ hi
  bounds : ∀ c ∈ cs, ∀ f ∈ c, lo ≤ f.block ∧ f.block < hi

variable {lo mid hi : Nat} {cs ds : List Context} {x y z : Context}

theorem Tree.none (n : Nat) : Tree n n [] :=
  ⟨⟨by simp, by simp, .nil, .nil⟩, Nat.le_refl n, by simp⟩

theorem Tree.message (n : Nat) : Tree n n [[]] :=
  ⟨⟨by simp, by simp, List.pairwise_singleton _ _, List.triplewise_singleton _ _⟩,
    Nat.le_refl n, by simp⟩

theorem mem_of_eq {outer inner : Context} {f : Frame} (h : x = outer ++ f :: inner) : f ∈ x := by
  simp [h]

theorem Precedes.of_apart (h : ∀ f ∈ x, ∀ g ∈ z, f.block ≠ g.block) : x.Precedes z := by
  intro outer f inner outer' g inner' hx hz hblock
  exact absurd hblock (h f (mem_of_eq hx) g (mem_of_eq hz))

theorem Spans.of_apart (h : ∀ f ∈ x, ∀ g ∈ z, f.block ≠ g.block) : x.Spans y z := by
  intro outer f inner g inner' hx hz hblock
  exact absurd hblock (h f (mem_of_eq hx) g (mem_of_eq hz))

theorem Tree.append (h : Tree lo mid cs) (h' : Tree mid hi ds) : Tree lo hi (cs ++ ds) := by
  have apart : ∀ x ∈ cs, ∀ z ∈ ds, ∀ f ∈ x, ∀ g ∈ z, f.block ≠ g.block := by
    intro x hx z hz f hf g hg
    have hf := (h.bounds x hx f hf).2
    have hg := (h'.bounds z hz g hg).1
    omega
  refine ⟨⟨?_, ?_, ?_, ?_⟩, Nat.le_trans h.le h'.le, ?_⟩
  · exact List.forall_mem_append.2 ⟨h.increasing, h'.increasing⟩
  · exact List.forall_mem_append.2 ⟨h.proper, h'.proper⟩
  · exact List.pairwise_append.2 ⟨h.ordered, h'.ordered,
      fun x hx z hz => .of_apart (apart x hx z hz)⟩
  · refine List.triplewise_append.2 ⟨h.contiguous, h'.contiguous, fun x hx => ?_, fun z hz => ?_⟩
    · exact List.pairwise_of_forall_mem_list fun y _ z hz => .of_apart (apart x hx z hz)
    · exact List.pairwise_of_forall_mem_list fun x hx y _ => .of_apart (apart x hx z hz)
  · intro c hc f hf
    have hle := h.le
    have hle' := h'.le
    rcases List.mem_append.1 hc with hc | hc
    · have := h.bounds c hc f hf
      omega
    · have := h'.bounds c hc f hf
      omega

theorem cons_eq_append {f e : Frame} {outer inner : Context} (h : f :: x = outer ++ e :: inner) :
    outer = [] ∧ e = f ∨ ∃ rest, outer = f :: rest ∧ x = rest ++ e :: inner := by
  rcases List.cons_eq_append_iff.1 h with ⟨houter, heq⟩ | ⟨rest, houter, heq⟩
  · exact .inl ⟨houter, (List.cons.inj heq).1⟩
  · exact .inr ⟨rest, houter, heq⟩

theorem Precedes.cons {f g : Frame} (hx : ∀ e ∈ x, f.block < e.block)
    (hz : ∀ e ∈ z, g.block < e.block) (hfg : f.block = g.block) (hhead : f = g ∨ f.Precedes g)
    (hinside : ∀ outer e inner outer' e' inner', x = outer ++ e :: inner →
      z = outer' ++ e' :: inner' →
      e.block = e'.block → g :: outer' = f :: outer ∧ (e = e' ∨ e.Precedes e')) :
    Precedes (f :: x) (g :: z) := by
  intro outer e inner outer' e' inner' hxe hze hblock
  rcases cons_eq_append hxe with ⟨rfl, rfl⟩ | ⟨rest, rfl, hxin⟩ <;>
    rcases cons_eq_append hze with ⟨rfl, rfl⟩ | ⟨rest', rfl, hzin⟩
  · exact ⟨rfl, hhead⟩
  · have := hz e' (mem_of_eq hzin)
    omega
  · have := hx e (mem_of_eq hxin)
    omega
  · exact hinside rest e inner rest' e' inner' hxin hzin hblock

theorem Precedes.tail {f : Frame} (h : Precedes (f :: x) (f :: z)) : x.Precedes z := by
  intro outer e inner outer' e' inner' hx hz hblock
  obtain ⟨houter, horder⟩ :=
    h (f :: outer) e inner (f :: outer') e' inner' (by rw [hx]; rfl) (by rw [hz]; rfl) hblock
  exact ⟨(List.cons.inj houter).2, horder⟩

theorem Spans.cons {f g h : Frame} (hh : h.block = f.block)
    (hinside : ∀ outer e inner e' inner', f = g → x = outer ++ e :: inner →
      z = outer ++ e' :: inner' →
      e.block = e'.block →
        ∃ e'' inner'', h :: y = f :: outer ++ e'' :: inner'' ∧ e''.block = e.block) :
    Spans (f :: x) (h :: y) (g :: z) := by
  intro outer e inner e' inner' hxe hze hblock
  rcases cons_eq_append hxe with ⟨rfl, rfl⟩ | ⟨rest, rfl, hxin⟩
  · exact ⟨h, y, rfl, hh⟩
  · rcases cons_eq_append hze with ⟨hnil, -⟩ | ⟨rest', heq, hzin⟩
    · cases hnil
    · obtain ⟨rfl, rfl⟩ := List.cons.inj heq
      exact hinside rest e inner e' inner' rfl hxin hzin hblock

theorem Tree.cons {block : Nat} {f : Frame} (h : Tree lo hi cs) (hblock : f.block = block)
    (hlt : block < lo) (hf : f.Proper) : Tree block hi (cs.map (f :: ·)) := by
  have hinner : ∀ c ∈ cs, ∀ e ∈ c, f.block < e.block := by
    intro c hc e he
    have := (h.bounds c hc e he).1
    omega
  refine ⟨⟨?_, ?_, ?_, ?_⟩, Nat.le_trans (Nat.le_of_lt hlt) h.le, ?_⟩
  · refine List.forall_mem_map.2 fun c hc => ?_
    rw [List.map_cons, List.pairwise_cons]
    exact ⟨List.forall_mem_map.2 (hinner c hc), h.increasing c hc⟩
  · exact List.forall_mem_map.2 fun c hc => List.forall_mem_cons.2 ⟨hf, h.proper c hc⟩
  · refine List.pairwise_map.2 (h.ordered.imp_of_mem fun {x z} hx hz hxz => ?_)
    refine .cons (hinner x hx) (hinner z hz) rfl (.inl rfl) ?_
    intro outer e inner outer' e' inner' hxe hze heq
    obtain ⟨rfl, horder⟩ := hxz outer e inner outer' e' inner' hxe hze heq
    exact ⟨rfl, horder⟩
  · refine List.triplewise_map.2 (h.contiguous.imp fun hspans => .cons rfl ?_)
    intro outer e inner e' inner' _ hxe hze heq
    obtain ⟨e'', inner'', rfl, hblock⟩ := hspans outer e inner e' inner' hxe hze heq
    exact ⟨e'', inner'', rfl, hblock⟩
  · refine List.forall_mem_map.2 fun c hc => List.forall_mem_cons.2 ⟨?_, fun e he => ?_⟩
    · have := h.le
      omega
    · have := h.bounds c hc e he
      omega

structure Parts (block hi : Nat) (fs : List Frame) (cs : List Context) :
    Prop extends Tree block hi cs where
  lt : block < hi
  heads : ∀ c ∈ cs, ∃ f ∈ fs, ∃ inner, c = f :: inner

theorem Parts.none (block : Nat) : Parts block (block + 1) [] [] :=
  ⟨⟨⟨by simp, by simp, .nil, .nil⟩, Nat.le_succ _, by simp⟩, Nat.lt_succ_self _, by simp⟩

theorem Parts.earlier {block : Nat} {fs : List Frame} {f : Frame} (h : Parts block mid fs cs)
    (hf : Alternatives block (fs ++ [f])) :
    ∀ c ∈ cs, ∃ g inner, c = g :: inner ∧ g.block = f.block ∧
      g.Precedes f ∧ ∀ e ∈ inner, g.block < e.block ∧ e.block < mid := by
  intro c hc
  obtain ⟨g, hg, inner, rfl⟩ := h.heads c hc
  have hincreasing := List.pairwise_cons.1 (h.increasing _ hc)
  refine ⟨g, inner, rfl, ?_, ?_, fun e he => ⟨?_, (h.bounds _ hc e (by simp [he])).2⟩⟩
  · rw [hf.block g (List.mem_append_left _ hg), hf.block f (by simp)]
  · exact (List.pairwise_append.1 hf.ordered).2.2 g hg f (by simp)
  · exact hincreasing.1 e.block (List.mem_map_of_mem he)

theorem Parts.next {block : Nat} {fs : List Frame} {f : Frame} (h : Parts block mid fs cs)
    (hf : Alternatives block (fs ++ [f])) (hds : Tree mid hi ds) :
    Parts block hi (fs ++ [f]) (cs ++ ds.map (f :: ·)) := by
  have hblock : f.block = block := hf.block f (by simp)
  have hmap : Tree block hi (ds.map (f :: ·)) := hds.cons hblock h.lt (hf.proper f (by simp))
  have hhead := h.earlier hf
  have hinner : ∀ c ∈ ds, ∀ e ∈ c, mid ≤ e.block := fun c hc e he => (hds.bounds c hc e he).1
  refine ⟨⟨⟨?_, ?_, ?_, ?_⟩, hmap.le, ?_⟩, Nat.lt_of_lt_of_le h.lt hds.le, ?_⟩
  · exact List.forall_mem_append.2 ⟨h.increasing, hmap.increasing⟩
  · exact List.forall_mem_append.2 ⟨h.proper, hmap.proper⟩
  · refine List.pairwise_append.2 ⟨h.ordered, hmap.ordered,
      fun x hx => List.forall_mem_map.2 fun z hz => ?_⟩
    obtain ⟨g, inner, rfl, hgf, hprecedes, hbounds⟩ := hhead x hx
    refine .cons (fun e he => (hbounds e he).1) (fun e he => ?_) hgf (.inr hprecedes) ?_
    · have := hinner z hz e he
      have := h.lt
      omega
    · intro outer e _ outer' e' _ hxe hze heq
      have := (hbounds e (mem_of_eq hxe)).2
      have := hinner z hz e' (mem_of_eq hze)
      omega
  · -- Past the first frame, contexts from before and from this alternative have no statement in
    -- common.
    have hspans {g k : Frame} {x y z : Context} (hx : ∀ e ∈ x, e.block < mid) (hz : z ∈ ds)
        (hk : k.block = g.block) : Spans (g :: x) (k :: y) (f :: z) := by
      refine .cons hk ?_
      intro outer e _ e' _ _ hxe hze heq
      have := hx e (mem_of_eq hxe)
      have := hinner z hz e' (mem_of_eq hze)
      omega
    refine List.triplewise_append.2 ⟨h.contiguous, hmap.contiguous, fun x hx => ?_,
      List.forall_mem_map.2 ?_⟩
    · obtain ⟨g, inner, rfl, hgf, -, hbounds⟩ := hhead x hx
      refine List.pairwise_map.2 (List.pairwise_of_forall_mem_list fun y _ z hz => ?_)
      exact hspans (fun e he => (hbounds e he).2) hz hgf.symm
    · intro z hz
      refine List.pairwise_of_forall_mem_list fun x hx y hy => ?_
      obtain ⟨g, inner, rfl, hgf, -, hbounds⟩ := hhead x hx
      obtain ⟨k, inner', rfl, hkf, -, -⟩ := hhead y hy
      exact hspans (fun e he => (hbounds e he).2) hz (hkf.trans hgf.symm)
  · refine List.forall_mem_append.2 ⟨fun c hc e he => ?_, hmap.bounds⟩
    have := h.bounds c hc e he
    have := hds.le
    omega
  · refine List.forall_mem_append.2 ⟨fun c hc => ?_, List.forall_mem_map.2 fun c _ => ?_⟩
    · obtain ⟨g, hg, inner, rfl⟩ := h.heads c hc
      exact ⟨g, List.mem_append_left _ hg, inner, rfl⟩
    · exact ⟨f, by simp, c, rfl⟩

end Context

def Trace.contexts (s : Trace) : List Context :=
  s.interaction.messages.toList.map (·.context)

def Trace.Branches (context : Context) (s s' : Trace) : Prop :=
  ∃ cs, s'.contexts = s.contexts ++ cs.map (context ++ ·) ∧ Context.Tree s.blocks s'.blocks cs

namespace Trace.Branches

variable {context : Context} {s s' s'' : Trace} {fs : List Frame}

theorem refl (context : Context) (s : Trace) : Branches context s s :=
  ⟨[], (List.append_nil _).symm, .none _⟩

theorem trans (h : Branches context s s') (h' : Branches context s' s'') :
    Branches context s s'' := by
  obtain ⟨cs, hcs, htree⟩ := h
  obtain ⟨ds, hds, htree'⟩ := h'
  exact ⟨cs ++ ds, by rw [hds, hcs, List.map_append, List.append_assoc], htree.append htree'⟩

theorem push {m : Message} (hm : m.context = context) : Branches context s (s.push m) := by
  refine ⟨[[]], ?_, .message _⟩
  simp [contexts, Trace.push, Interaction.push, hm]

theorem parts (hf : Alternatives s.blocks fs)
    (h : Steps (fun f => Branches (context ++ [f])) fs { s with blocks := s.blocks + 1 } s') :
    ∃ cs, s'.contexts = s.contexts ++ cs.map (context ++ ·) ∧
      Context.Parts s.blocks s'.blocks fs cs := by
  generalize hstart : { s with blocks := s.blocks + 1 } = start at h
  -- The visits are taken from the first on, so what comes next is the last frame.
  induction h with
  | none =>
    subst hstart
    exact ⟨[], (List.append_nil _).symm, .none _⟩
  | @next fs f start s' s'' _ hlast ih =>
    obtain ⟨cs, hcs, hparts⟩ := ih hf.init hstart
    obtain ⟨ds, hds, htree⟩ := hlast
    refine ⟨cs ++ ds.map (f :: ·), ?_, hparts.next hf htree⟩
    rw [hds, hcs, List.map_append, List.append_assoc, List.map_map]
    simp [Function.comp_def]

end Trace.Branches

def Tracer.branching (t : Tracer) : Law t where
  inv _ _ := True
  rel a s s' := s.Branches a.context s'
  mention _ := True
  fault _ := True
  refl _ := .refl _ _
  trans h h' := h.trans h'
  keeps _ _ := trivial
  program := t.mentions_all
  faults := t.faults_all
  step _ _ _ _ := .refl _ _
  scopes h := h
  rescope _ _ := .refl _ _
  ofScope _ h := h
  condition h := h
  ofCondition _ h := h
  alternative _ _ _ := trivial
  ofAlternatives := by
    intro a s s' fs _ hf h
    obtain ⟨cs, hcs, hparts⟩ := Trace.Branches.parts hf h
    exact ⟨cs, hcs, hparts.toTree⟩
  send _ _ hm _ _ := .push hm.context
  answer _ _ hm _ _ := .push hm.context
  call _ _ _ _ _ := trivial
  ofCall _ _ hm _ _ h := (Trace.Branches.push hm.context).trans h
  inline _ _ _ := trivial
  ofInline _ _ _ h := h

theorem Tracer.traceAll_tree {t : Tracer} {s : Trace} (hr : s.roster.Sound) (hs : s.contexts = [])
    (entries : List Decl) :
    Context.Tree s.blocks (t.traceAll entries s).blocks (t.traceAll entries s).contexts := by
  suffices h : Trace.Branches [] s (t.traceAll entries s) ∧ (t.traceAll entries s).roster.Sound by
    obtain ⟨⟨cs, hcs, htree⟩, -⟩ := h
    simpa [hcs, hs] using htree
  refine traceAll_induction (Q := fun s' => Trace.Branches [] s s' ∧ s'.roster.Sound)
    ⟨.refl _ _, hr⟩ ?_
  rintro entry - s' ⟨hbranches, hr⟩
  have hadmits : t.branching.Admits entry := ⟨Stmt.mentions_all _, fun _ _ _ _ => trivial⟩
  have htraced := Law.trace_traced hr hadmits fun _ _ _ => trivial
  refine ⟨hbranches.trans ?_, (htraced.roster hr).2⟩
  generalize (t.trace entry s').1 = result, (t.trace entry s').2 = s'' at htraced
  cases htraced with
  | refused _ => exact .refl _ _
  | failed _ _ _ _ => exact .refl _ _
  | excluded _ _ _ => exact .refl _ _
  | unentered _ => exact .refl _ _
  | visited _ hpost => exact hpost.rel

end Lifeline
