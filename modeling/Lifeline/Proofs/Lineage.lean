import Lifeline.Proofs.CallTree
import Mathlib.Data.List.Chain

namespace Lifeline

theorem filter_lt_eq_take {f : α → Nat} {l : List α} {start size : Nat}
    (h : l.map f = List.range' start size) (bound : Nat) :
    (l.filter fun a => f a < bound) = l.take (bound - start) := by
  induction l generalizing start size with
  | nil => simp
  | cons a rest ih =>
    cases size with
    | zero => simp at h
    | succ size =>
      obtain ⟨ha, hrest⟩ := List.cons.inj h
      have hrest := ih hrest
      by_cases hbound : start < bound
      · rw [List.filter_cons_of_pos (by simpa [ha] using hbound), hrest,
          show bound - start = bound - (start + 1) + 1 by omega, List.take_succ_cons]
      · rw [List.filter_cons_of_neg (by simpa [ha] using hbound), hrest,
          show bound - start = 0 by omega, show bound - (start + 1) = 0 by omega]
        simp

namespace Interaction

/-- The calls that lead to the last of these calls, which are those with only deeper ones after
them. -/
def lineage : List Message → List Message
  | [] => []
  | m :: rest => if ∀ n ∈ rest, m.depth < n.depth then m :: lineage rest else lineage rest

def nextLevel (cs : List Message) : Nat :=
  (cs.getLast?.map (·.depth + 1)).getD 0

structure Descends (cs : List Message) : Prop where
  first : ∀ m ∈ cs.head?, m.depth = 0
  next : cs.IsChain fun a b => b.depth ≤ a.depth + 1

variable {cs : List Message} {m : Message}

@[simp] theorem nextLevel_concat (cs : List Message) (m : Message) :
    nextLevel (cs ++ [m]) = m.depth + 1 := by
  simp [nextLevel]

theorem descends_concat : Descends (cs ++ [m]) ↔ Descends cs ∧ m.depth ≤ nextLevel cs := by
  constructor
  · intro h
    refine ⟨⟨?_, (List.isChain_append.mp h.next).1⟩, ?_⟩
    · intro c hc
      exact h.first c (List.mem_head?_append_of_mem_head? hc)
    · cases hlast : cs.getLast? with
      | none =>
        obtain rfl := List.getLast?_eq_none_iff.mp hlast
        exact Nat.le_of_eq (h.first m rfl)
      | some c => simpa [nextLevel, hlast] using (List.isChain_append.mp h.next).2.2 c hlast m rfl
  · intro h
    obtain ⟨h, hm⟩ := h
    constructor
    · intro c hc
      cases cs with
      | nil =>
        cases hc
        simpa [nextLevel] using hm
      | cons first rest => exact h.first c hc
    · refine List.isChain_append.mpr ⟨h.next, List.isChain_singleton m, ?_⟩
      intro a ha b hb
      cases hb
      simpa [nextLevel, Option.mem_def.mp ha] using hm

theorem lineage_concat (cs : List Message) (m : Message) :
    lineage (cs ++ [m]) = (lineage cs).filter (fun c => c.depth < m.depth) ++ [m] := by
  induction cs with
  | nil => simp [lineage]
  | cons c rest ih =>
    simp only [List.cons_append, lineage, ih, List.forall_mem_append, List.forall_mem_singleton]
    by_cases hrest : ∀ n ∈ rest, c.depth < n.depth
    · rw [if_pos hrest]
      by_cases hm : c.depth < m.depth
      · rw [if_pos ⟨hrest, hm⟩, List.filter_cons_of_pos (by simpa using hm), List.cons_append]
      · rw [if_neg (fun h => hm h.2), List.filter_cons_of_neg (by simpa using hm)]
    · rw [if_neg hrest, if_neg (fun h => hrest h.1)]

theorem levels_lineage (h : Descends cs) :
    (lineage cs).map (·.depth) = List.range (nextLevel cs) := by
  -- From the end, since the last call decides which of those before it are kept.
  induction cs using List.reverseRecOn with
  | nil => rfl
  | append_singleton cs m ih =>
    obtain ⟨h, hm⟩ := descends_concat.mp h
    have hlevels := (ih h).trans List.range_eq_range'
    have htake := filter_lt_eq_take hlevels m.depth
    rw [lineage_concat, htake, List.map_append, List.map_take, ih h, List.take_range,
      nextLevel_concat, List.range_succ, Nat.sub_zero, Nat.min_eq_left hm]
    rfl

theorem filter_lineage (h : Descends cs) (bound : Nat) :
    ((lineage cs).filter fun c => c.depth < bound) = (lineage cs).take bound :=
  filter_lt_eq_take ((levels_lineage h).trans List.range_eq_range') bound

/-- The stack of calls is the lineage of the last one. -/
theorem opened_eq_lineage (h : Descends cs) : opened [] cs = lineage cs := by
  induction cs using List.reverseRecOn with
  | nil => rfl
  | append_singleton cs m ih =>
    obtain ⟨h, -⟩ := descends_concat.mp h
    rw [opened_append, ih h, lineage_concat, filter_lineage h]
    rfl

theorem pathsFrom_eq_map (path cs : List Message) :
    pathsFrom path cs = (List.range cs.length).map fun i => opened path (cs.take (i + 1)) := by
  induction cs generalizing path with
  | nil => rfl
  | cons m rest ih =>
    rw [pathsFrom, ih, List.length_cons, List.range_succ_eq_map, List.map_cons, List.map_map]
    rfl

def lineageAt (s : Interaction) (i : Nat) : List Message :=
  lineage (s.calls.take (i + 1))

def Arrives (s : Interaction) (targets : List ParticipantId) (i : Nat) : Prop :=
  ∃ m, s.calls[i]? = some m ∧ m.receiver ∈ targets

def ArrivesFirst (s : Interaction) (targets : List ParticipantId) (i : Nat) : Prop :=
  s.Arrives targets i ∧ ∀ j < i, s.Arrives targets j → route (s.lineageAt j) ≠ route (s.lineageAt i)

variable {s : Interaction} {targets : List ParticipantId} {i : Nat}

theorem Arrives.lt (h : s.Arrives targets i) : i < s.calls.length := by
  obtain ⟨m, hm, -⟩ := h
  exact (List.getElem?_eq_some_iff.mp hm).1

theorem Descends.take (h : Descends cs) (n : Nat) : Descends (cs.take n) where
  first := by
    intro m hm
    cases n with
    | zero => simp at hm
    | succ n =>
      apply h.first
      simpa [List.head?_take] using hm
  next := h.next.take n

theorem paths_eq_lineages (h : Descends s.calls) :
    s.paths = (List.range s.calls.length).map s.lineageAt := by
  rw [paths, pathsFrom_eq_map]
  apply List.map_congr_left
  intro i _
  exact opened_eq_lineage (h.take (i + 1))

theorem getLast?_lineageAt {m : Message} (h : s.calls[i]? = some m) :
    (s.lineageAt i).getLast? = some m := by
  rw [lineageAt, List.take_add_one, h]
  simp [lineage_concat]

theorem endsIn_lineageAt (hi : i < s.calls.length) :
    endsIn targets (s.lineageAt i) = true ↔ s.Arrives targets i := by
  have hm : s.calls[i]? = some s.calls[i] := List.getElem?_eq_getElem hi
  simp [endsIn, getLast?_lineageAt hm, Arrives, hm]

def firstArrivals (s : Interaction) (targets : List ParticipantId) : List Nat :=
  distinctBy (fun i => route (s.lineageAt i))
    ((List.range s.calls.length).filter fun i => endsIn targets (s.lineageAt i))

theorem pathsInto_eq_map (h : Descends s.calls) :
    s.pathsInto targets = (s.firstArrivals targets).map s.lineageAt := by
  rw [pathsInto, paths_eq_lineages h, List.filter_map, distinctBy_map]
  rfl

theorem firstArrivals_increase (s : Interaction) (targets : List ParticipantId) :
    (s.firstArrivals targets).Pairwise (· < ·) :=
  (List.pairwise_lt_range.filter _).sublist (distinctBy_sublist _ _)

theorem mem_firstArrivals : i ∈ s.firstArrivals targets ↔ s.ArrivesFirst targets i := by
  have harrivals :
    ∀ j, j ∈ (List.range s.calls.length).filter (fun i => endsIn targets (s.lineageAt i)) ↔
      s.Arrives targets j := by
    intro j
    rw [List.mem_filter, List.mem_range]
    constructor
    · intro h
      exact (endsIn_lineageAt h.1).mp h.2
    · intro h
      exact ⟨h.lt, (endsIn_lineageAt h.lt).mpr h⟩
  rw [firstArrivals, mem_distinctBy_of_sorted (List.pairwise_lt_range.filter _), harrivals]
  simp only [harrivals, ArrivesFirst]
  grind

theorem chains_eq_mapIdx (h : Descends s.calls) :
    s.chains targets = (s.firstArrivals targets).mapIdx fun k i =>
      { label :=
          if 2 ≤ (s.firstArrivals targets).length then s.label ++ " #" ++ toString (k + 1)
          else s.label
        entryPoints := s.entryPoints
        messages := (s.lineageAt i).toArray } := by
  rw [chains, pathsInto_eq_map h]
  apply List.ext_getElem
  · simp
  · intro k hk hk'
    simp only [List.getElem_mapIdx, List.getElem_map, List.length_map, chainLabel]
    rfl

/-- The law of calls: each is made by an entry point, on the outermost level, or by the receiver of
a call one level up since which there was none above its own level. -/
def FollowsCalls (entryPoints : List ParticipantId) (cs : List Message) : Prop :=
  ∀ before m after, cs = before ++ m :: after →
    m.depth = 0 ∧ m.sender ∈ entryPoints ∨ CalledFrom before m.depth m.sender

/-- A way through calls: it starts at an entry point, each call is made by the receiver of the one
before it, and levels count up from zero. -/
structure Leads (entryPoints : List ParticipantId) (path : List Message) : Prop where
  start : ∀ m ∈ path.head?, m.sender ∈ entryPoints
  linked : path.IsChain fun a b => a.receiver = b.sender
  levels : path.map (·.depth) = List.range path.length

variable {entryPoints : List ParticipantId}

theorem FollowsCalls.prefix {more : List Message} (h : FollowsCalls entryPoints (cs ++ more)) :
    FollowsCalls entryPoints cs := by
  intro before m after hcs
  apply h before m (after ++ more)
  rw [hcs, List.append_assoc, List.cons_append]

theorem FollowsCalls.last (h : FollowsCalls entryPoints (cs ++ [m])) :
    m.depth = 0 ∧ m.sender ∈ entryPoints ∨ CalledFrom cs m.depth m.sender :=
  h cs m [] rfl

theorem le_nextLevel_of_calledFrom {depth : Nat} {sender : ParticipantId}
    (h : CalledFrom cs depth sender) : depth ≤ nextLevel cs := by
  obtain ⟨earlier, c, since, rfl, hc, -, hsince⟩ := h
  cases since using List.reverseRecOn with
  | nil => simp [hc]
  | append_singleton since last =>
    have hlast := hsince last (by simp)
    have hcs : earlier ++ c :: (since ++ [last]) = (earlier ++ c :: since) ++ [last] := by simp
    rw [hcs, nextLevel_concat]
    omega

theorem FollowsCalls.descends (h : FollowsCalls entryPoints cs) : Descends cs := by
  induction cs using List.reverseRecOn with
  | nil => exact ⟨by simp, .nil⟩
  | append_singleton cs m ih =>
    refine descends_concat.mpr ⟨ih h.prefix, ?_⟩
    rcases h.last with ⟨hdepth, -⟩ | hcalled
    · omega
    · exact le_nextLevel_of_calledFrom hcalled

theorem filter_lineage_append {since : List Message} {depth : Nat}
    (h : ∀ m ∈ since, depth ≤ m.depth) :
    ((lineage (cs ++ since)).filter fun c => c.depth < depth) =
      (lineage cs).filter fun c => c.depth < depth := by
  induction since using List.reverseRecOn with
  | nil => rw [List.append_nil]
  | append_singleton since m ih =>
    obtain ⟨hsince, hm⟩ := List.forall_mem_append.mp h
    have hm := hm m (List.mem_singleton_self m)
    rw [← List.append_assoc, lineage_concat, List.filter_append, List.filter_filter, ← ih hsince,
      List.filter_cons_of_neg (by simpa using hm), List.filter_nil, List.append_nil]
    apply List.filter_congr
    intro c _
    simp only [Bool.and_eq_left_iff_imp, decide_eq_true_iff]
    omega

theorem filter_lineage_of_calledFrom {depth : Nat} {sender : ParticipantId}
    (h : CalledFrom cs depth sender) :
    ∃ front c, ((lineage cs).filter fun c => c.depth < depth) =
      front ++ [c] ∧ c.receiver = sender := by
  obtain ⟨earlier, c, since, rfl, hc, hsender, hsince⟩ := h
  have hcs : earlier ++ c :: since = (earlier ++ [c]) ++ since := by simp
  have hkept : c.depth < depth := by omega
  rw [hcs, filter_lineage_append hsince, lineage_concat, List.filter_append,
    List.filter_cons_of_pos (by simpa using hkept), List.filter_nil]
  exact ⟨_, c, rfl, hsender⟩

theorem Leads.take {path : List Message} (h : Leads entryPoints path) (n : Nat) :
    Leads entryPoints (path.take n) where
  start := by
    intro m hm
    apply h.start
    rw [List.head?_take] at hm
    exact (Option.ite_none_left_eq_some.mp hm).2
  linked := h.linked.take n
  levels := by rw [List.map_take, h.levels, List.take_range, List.length_take]

theorem Leads.singleton (hdepth : m.depth = 0) (hsender : m.sender ∈ entryPoints) :
    Leads entryPoints [m] where
  start := by simpa using hsender
  linked := List.isChain_singleton m
  levels := by simp [hdepth]

theorem Leads.concat {front : List Message} {c : Message} (h : Leads entryPoints (front ++ [c]))
    (hsender : c.receiver = m.sender) (hdepth : m.depth = (front ++ [c]).length) :
    Leads entryPoints (front ++ [c] ++ [m]) where
  start := by
    intro first hfirst
    apply h.start
    rwa [List.head?_append_of_ne_nil _ (by simp)] at hfirst
  linked := by
    refine List.isChain_append.mpr ⟨h.linked, List.isChain_singleton m, ?_⟩
    intro a ha b hb
    rw [List.getLast?_concat] at ha
    cases ha
    cases hb
    exact hsender
  levels := by
    have hlength : (front ++ [c] ++ [m]).length = (front ++ [c]).length + 1 := List.length_append
    rw [List.map_append, h.levels, hlength, List.range_succ, ← hdepth]
    rfl

theorem FollowsCalls.leads (h : FollowsCalls entryPoints cs) : Leads entryPoints (lineage cs) := by
  induction cs using List.reverseRecOn with
  | nil => exact ⟨by simp [lineage], .nil, rfl⟩
  | append_singleton cs m ih =>
    rw [lineage_concat]
    rcases h.last with ⟨hdepth, hsender⟩ | hcalled
    · rw [hdepth, List.filter_eq_nil_iff.mpr (by simp)]
      exact .singleton hdepth hsender
    · obtain ⟨front, c, hfront, hc⟩ := filter_lineage_of_calledFrom hcalled
      obtain ⟨hcs, hm⟩ := descends_concat.mp h.descends
      have htake := filter_lineage hcs m.depth
      have hlength := congrArg List.length (levels_lineage hcs)
      rw [List.length_map, List.length_range] at hlength
      rw [hfront]
      apply Leads.concat _ hc
      · rw [← hfront, htake, List.length_take, hlength, Nat.min_eq_left hm]
      · rw [← hfront, htake]
        exact (ih h.prefix).take m.depth

end Interaction

namespace Tracer

variable {t : Tracer} {s : Trace}

theorem trace_entryPoints (hr : s.roster.Sound) (entry : Decl) :
    s.interaction.entryPoints ⊆ (t.trace entry s).2.interaction.entryPoints := by
  have htraced := Law.trace_traced hr (placing_admits (t := t) entry) fun p r => placing_start
  generalize (t.trace entry s).1 = result, (t.trace entry s).2 = s' at htraced
  cases htraced with
  | refused _ => exact List.Subset.refl _
  | failed _ _ _ _ => exact List.Subset.refl _
  | excluded _ _ _ => exact List.Subset.refl _
  | unentered _ => exact List.subset_append_left _ _
  | visited _ hpost =>
    obtain ⟨new, hnew⟩ := hpost.rel
    rw [hnew.entryPoints]
    exact List.subset_append_left _ _

theorem traceAll_entryPoints (hr : s.roster.Sound) (entries : List Decl) :
    s.interaction.entryPoints ⊆ (t.traceAll entries s).interaction.entryPoints := by
  refine (traceAll_induction (Q := fun s' => s'.roster.Sound ∧
    s.interaction.entryPoints ⊆ s'.interaction.entryPoints) ⟨hr, List.Subset.refl _⟩ ?_).2
  intro entry _ s' h
  exact ⟨sound_traceAll h.1 [entry], List.Subset.trans h.2 (trace_entryPoints h.1 entry)⟩

theorem traceAll_followsCalls {r : Roster} (hr : t.casting.Reached r) (entries : List Decl) :
    Interaction.FollowsCalls (t.traceAll entries { roster := r }).interaction.entryPoints
      (t.traceAll entries { roster := r }).interaction.calls := by
  intro before m after hcalls
  refine (traceAll_places hr.sound rfl entries hcalls).imp_left ?_
  intro hsent
  obtain ⟨hdepth, done, entry, rest, rfl, -, -, hentry⟩ := hsent
  refine ⟨hdepth, ?_⟩
  rw [show done ++ entry :: rest = (done ++ [entry]) ++ rest by simp, traceAll_append]
  apply traceAll_entryPoints (sound_traceAll hr.sound _)
  simp [hentry]

end Tracer

namespace Interaction

variable {s : Interaction}

/-- Of each route from the calls to a target there is one chain, with the calls that take it first,
in the order in which this happens. Where the calls follow one another, a chain is a way from an
entry point to a target. -/
theorem chains_are_first_lineages (h : Descends s.calls) (targets : List ParticipantId) :
    ∃ firsts : List Nat, firsts.Pairwise (· < ·) ∧ (∀ i, i ∈ firsts ↔ s.ArrivesFirst targets i) ∧
      (s.chains targets = firsts.mapIdx fun k i =>
        { label := if 2 ≤ firsts.length then s.label ++ " #" ++ toString (k + 1) else s.label
          entryPoints := s.entryPoints
          messages := (s.lineageAt i).toArray }) ∧
      (FollowsCalls s.entryPoints s.calls → ∀ c ∈ s.chains targets,
        Leads s.entryPoints c.messages.toList ∧ ∃ last, c.messages.back? = some last ∧
        last.receiver ∈ targets) := by
  refine ⟨s.firstArrivals targets, firstArrivals_increase s targets, fun i => mem_firstArrivals,
    chains_eq_mapIdx h, ?_⟩
  intro hfollows c hc
  rw [chains_eq_mapIdx h, List.mem_mapIdx] at hc
  obtain ⟨k, hk, rfl⟩ := hc
  obtain ⟨⟨m, hm, htarget⟩, -⟩ := mem_firstArrivals.mp (List.getElem_mem hk)
  constructor
  · rw [← List.take_append_drop ((s.firstArrivals targets)[k] + 1) s.calls] at hfollows
    exact hfollows.prefix.leads
  · exact ⟨m, by simpa using getLast?_lineageAt hm, htarget⟩

end Interaction

def Sample.rounds : Interaction :=
  (Sample.tracer.traceAll [Sample.run, Sample.run] {}).interaction

theorem Interaction.chains_are_first_lineages_sample :
    Descends Sample.rounds.calls ∧ FollowsCalls Sample.rounds.entryPoints Sample.rounds.calls ∧
    (Sample.rounds.chains [⟨3⟩]).map (fun c => (c.label, c.messages.toList.map (·.sender.value))) =
      [(" #1", [1]), (" #2", [1, 3, 5]), (" #3", [1, 5])] ∧
    ∀ c ∈ Sample.rounds.chains [⟨3⟩], Leads Sample.rounds.entryPoints c.messages.toList := by
  have hfollows := Tracer.traceAll_followsCalls (t := Sample.tracer) .empty [Sample.run, Sample.run]
  refine ⟨hfollows.descends, hfollows, by decide +kernel, ?_⟩
  obtain ⟨-, -, -, -, hleads⟩ := chains_are_first_lineages hfollows.descends [⟨3⟩]
  intro c hc
  exact (hleads hfollows c hc).1

end Lifeline
