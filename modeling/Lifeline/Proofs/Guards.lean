import Lifeline.Frame
import Lifeline.Proofs.Law.Dispatch
import Mathlib.Data.List.Induction

/-! Stacks that are left through guards. A guard keeps the mark at which its entry stands, and
dropping it cuts the stack off there, whatever has been dropped and entered in between. No order of
drops lets a guard reach what was entered before it. -/

namespace Lifeline

inductive GuardStep (α : Type)
  | enter (item : α)
  /-- Guards are counted in the order in which they are given out. -/
  | drop (guard : Nat)

/-- A kind of stack. Entering gives the mark for the guard, unless it is refused. -/
structure Guarded (σ α : Type) where
  items : σ → List α
  enter? : σ → α → Option (Nat × σ)
  leave : σ → Nat → σ

structure GuardedStack (σ α : Type) where
  stack : σ
  entered : List α := []
  marks : List Nat := []
  held : List Nat := []

namespace Guarded

variable {σ α : Type} {G : Guarded σ α} {s : GuardedStack σ α} {start : σ}
  {steps : List (GuardStep α)} {present : List Nat}

def act (G : Guarded σ α) (s : GuardedStack σ α) : GuardStep α → GuardedStack σ α
  | .enter item =>
    match G.enter? s.stack item with
    | some (mark, stack) =>
      ⟨stack, s.entered ++ [item], s.marks ++ [mark], s.held ++ [s.entered.length]⟩
    | none => s
  | .drop guard =>
    match s.marks[guard]? with
    | some mark => { s with stack := G.leave s.stack mark, held := s.held.erase guard }
    | none => s

def run (G : Guarded σ α) (start : σ) (steps : List (GuardStep α)) : GuardedStack σ α :=
  steps.foldl G.act { stack := start }

/-- Each drop is of the guard that was given out last of those not dropped yet. -/
def LastInFirstOut (G : Guarded σ α) (start : σ) (steps : List (GuardStep α)) : Prop :=
  ∀ before guard, before ++ [.drop guard] <+: steps →
    (G.run start before).held.getLast? = some guard

/-- `present` tells which entries are on the stack after any steps. -/
structure Accounts (G : Guarded σ α) (start : σ)
    (present : List (GuardStep α) → List Nat) : Prop where
  empty : present [] = []
  items : ∀ steps, (G.items (G.run start steps).stack).map some =
    (present steps).map fun guard => (G.run start steps).entered[guard]?
  ordered : ∀ steps, (present steps).Pairwise (· < ·)
  entered : ∀ steps item, (G.enter? (G.run start steps).stack item).isSome →
    present (steps ++ [.enter item]) = present steps ++ [(G.run start steps).entered.length]
  refused : ∀ steps item, G.enter? (G.run start steps).stack item = none →
    present (steps ++ [.enter item]) = present steps
  dropped : ∀ steps guard, guard < (G.run start steps).entered.length →
    present (steps ++ [.drop guard]) <+: present steps ∧ guard ∉ present (steps ++ [.drop guard]) ∧
    ∀ earlier ∈ present steps, earlier < guard → earlier ∈ present (steps ++ [.drop guard])
  lastFirst : ∀ steps guard, G.LastInFirstOut start (steps ++ [.drop guard]) →
    present steps = present (steps ++ [.drop guard]) ++ [guard]

structure Lawful (G : Guarded σ α) : Prop where
  enter : ∀ {s item mark s'}, G.enter? s item = some (mark, s') →
    mark = (G.items s).length ∧ G.items s' = G.items s ++ [item]
  leave : ∀ s mark, G.items (G.leave s mark) = (G.items s).take mark

def presentAfter (G : Guarded σ α) (s : GuardedStack σ α) (present : List Nat) :
    GuardStep α → List Nat
  | .enter item => if (G.enter? s.stack item).isSome then present ++ [s.entered.length] else present
  | .drop guard => s.marks[guard]?.elim present present.take

structure Kept (G : Guarded σ α) (s : GuardedStack σ α) (present : List Nat) : Prop where
  items : (G.items s.stack).map some = present.map fun guard => s.entered[guard]?
  marks : s.marks.length = s.entered.length
  known : ∀ guard ∈ present, guard < s.entered.length
  ordered : present.Pairwise (· < ·)
  places : ∀ guard mark : Nat, s.marks[guard]? = some mark →
    ∀ place other : Nat, present[place]? = some other →
    (other < guard → place < mark) ∧ (other = guard → place = mark)

theorem getElem?_concat {β : Type} {l : List β} {a b : β} {i : Nat} (h : (l ++ [a])[i]? = some b) :
    l[i]? = some b ∨ i = l.length ∧ b = a := by
  grind

theorem Kept.depth (h : G.Kept s present) : (G.items s.stack).length = present.length := by
  simpa using congrArg List.length h.items

theorem Kept.enter (hG : G.Lawful) (h : G.Kept s present) (item : α) :
    G.Kept (G.act s (.enter item)) (G.presentAfter s present (.enter item)) := by
  cases henter : G.enter? s.stack item with
  | none => simpa [act, presentAfter, henter] using h
  | some result =>
    obtain ⟨mark, stack⟩ := result
    obtain ⟨rfl, hitems⟩ := hG.enter henter
    simp only [act, presentAfter, henter, Option.isSome_some, if_true]
    refine ⟨?_, ?_, ?_, ?_, ?_⟩
    · have hold : (present.map fun guard => (s.entered ++ [item])[guard]?) =
          present.map fun guard => s.entered[guard]? :=
        List.map_congr_left fun guard hguard => List.getElem?_append_left (h.known guard hguard)
      simp [hitems, h.items, hold]
    · simp [h.marks]
    · intro guard hguard
      rcases List.mem_append.1 hguard with hguard | hguard
      · simpa using Nat.lt_succ_of_lt (h.known guard hguard)
      · simp [List.mem_singleton.1 hguard]
    · refine List.pairwise_append.2 ⟨h.ordered, List.pairwise_singleton _ _, ?_⟩
      intro guard hguard new hnew
      rw [List.mem_singleton.1 hnew]
      exact h.known guard hguard
    · intro guard mark hmark place other hother
      rw [h.depth] at hmark
      rcases getElem?_concat hmark with hmark
        | ⟨rfl, rfl⟩ <;> rcases getElem?_concat hother with hother | ⟨rfl, rfl⟩
      · exact h.places guard mark hmark place other hother
      · have hguard := (List.getElem?_eq_some_iff.1 hmark).1
        rw [h.marks] at hguard
        omega
      · have hplace := (List.getElem?_eq_some_iff.1 hother).1
        have hknown := h.known other (List.mem_of_getElem? hother)
        rw [h.marks]
        omega
      · rw [h.marks]
        omega

theorem Kept.drop (hG : G.Lawful) (h : G.Kept s present) (guard : Nat) :
    G.Kept (G.act s (.drop guard)) (G.presentAfter s present (.drop guard)) := by
  cases hmark : s.marks[guard]? with
  | none => simpa only [act, presentAfter, hmark, Option.elim_none] using h
  | some mark =>
    simp only [act, presentAfter, hmark, Option.elim_some]
    refine ⟨?_, h.marks, ?_, ?_, ?_⟩
    · simp only [hG.leave, List.map_take, h.items]
    · exact fun other hother => h.known other (List.mem_of_mem_take hother)
    · exact h.ordered.sublist (List.take_sublist mark present)
    · intro other mark' hmark' place entry hentry
      rw [List.getElem?_take] at hentry
      split at hentry
      · exact h.places other mark' hmark' place entry hentry
      · cases hentry

theorem Kept.step (hG : G.Lawful) (h : G.Kept s present) (step : GuardStep α) :
    G.Kept (G.act s step) (G.presentAfter s present step) := by
  cases step with
  | enter item => exact h.enter hG item
  | drop guard => exact h.drop hG guard

def presentIn (G : Guarded σ α) (start : σ) (steps : List (GuardStep α)) : List Nat :=
  (steps.foldl (fun x step => (G.act x.1 step, G.presentAfter x.1 x.2 step))
    (({ stack := start } : GuardedStack σ α), ([] : List Nat))).2

theorem presentIn_concat (steps : List (GuardStep α)) (step : GuardStep α) :
    G.presentIn start (steps ++ [step]) =
      G.presentAfter (G.run start steps) (G.presentIn start steps) step := by
  have hrun : ∀ (steps : List (GuardStep α)) (s : GuardedStack σ α) (present : List Nat),
      (steps.foldl (fun x step => (G.act x.1 step, G.presentAfter x.1 x.2 step)) (s, present)).1 =
        steps.foldl G.act s := by
    intro steps
    induction steps with
    | nil => exact fun _ _ => rfl
    | cons step rest ih => exact fun s present => ih _ _
  rw [presentIn, List.foldl_append, run, ← hrun steps _ []]
  rfl

theorem run_concat (steps : List (GuardStep α)) (step : GuardStep α) :
    G.run start (steps ++ [step]) = G.act (G.run start steps) step := by
  rw [run, List.foldl_append]
  rfl

theorem kept_run (hG : G.Lawful) (hstart : G.items start = []) (steps : List (GuardStep α)) :
    G.Kept (G.run start steps) (G.presentIn start steps) := by
  induction steps using List.reverseRecOn with
  | nil =>
    exact ⟨by simp [run, presentIn, hstart], rfl, by simp [presentIn],
      List.Pairwise.nil, by simp [run]⟩
  | append_singleton steps step ih =>
    rw [run_concat, presentIn_concat]
    exact ih.step hG step

theorem Kept.notMem_take {guard mark : Nat} (h : G.Kept s present)
    (hmark : s.marks[guard]? = some mark) : guard ∉ present.take mark := by
  intro hmem
  obtain ⟨place, hplace⟩ := List.mem_iff_getElem?.1 hmem
  rw [List.getElem?_take] at hplace
  split at hplace
  case isTrue hlt =>
    have heq := (h.places guard mark hmark place guard hplace).2 rfl
    omega
  case isFalse => cases hplace

theorem Kept.mem_take {guard mark earlier : Nat} (h : G.Kept s present)
    (hmark : s.marks[guard]? = some mark) (hearlier : earlier ∈ present) (hlt : earlier < guard) :
    earlier ∈ present.take mark := by
  obtain ⟨place, hplace⟩ := List.mem_iff_getElem?.1 hearlier
  have hbefore := (h.places guard mark hmark place earlier hplace).1 hlt
  exact List.mem_of_getElem? (by rw [List.getElem?_take, if_pos hbefore, hplace])

theorem Kept.take_of_last {guard mark : Nat} {rest : List Nat} (h : G.Kept s (rest ++ [guard]))
    (hmark : s.marks[guard]? = some mark) : (rest ++ [guard]).take mark = rest := by
  have hplace := (h.places guard mark hmark rest.length guard (by simp)).2 rfl
  rw [← hplace, List.take_left]

theorem Kept.exists_mark {guard : Nat} (h : G.Kept s present) (hguard : guard < s.entered.length) :
    ∃ mark, s.marks[guard]? = some mark :=
  ⟨_, List.getElem?_eq_getElem (h.marks ▸ hguard)⟩

theorem held_eq_presentIn (hG : G.Lawful) (hstart : G.items start = [])
    (h : G.LastInFirstOut start steps) : (G.run start steps).held = G.presentIn start steps := by
  induction steps using List.reverseRecOn with
  | nil => rfl
  | append_singleton steps step ih =>
    have hheld :=
      ih fun before guard hbefore => h before guard (hbefore.trans (List.prefix_append _ _))
    have hkept := kept_run hG hstart steps
    rw [run_concat, presentIn_concat]
    cases step with
    | enter item =>
      cases henter : G.enter? (G.run start steps).stack item <;> simp [act,
        presentAfter, henter, hheld]
    | drop guard =>
      have hlast := h steps guard List.prefix_rfl
      rw [hheld] at hlast
      obtain ⟨rest, hrest⟩ := List.getLast?_eq_some_iff.1 hlast
      obtain ⟨mark, hmark⟩ := hkept.exists_mark (hkept.known guard (by simp [hrest]))
      have hnew : guard ∉ rest := by
        intro hmem
        have hlt :=
          (List.pairwise_append.1 (hrest ▸ hkept.ordered)).2.2 guard hmem guard List.mem_cons_self
        exact Nat.lt_irrefl guard hlt
      rw [hrest] at hkept
      simp only [act, presentAfter, hmark, Option.elim_some, hheld, hrest, hkept.take_of_last hmark]
      rw [List.erase_append_right _ hnew]
      simp

theorem accounts (hG : G.Lawful) (hstart : G.items start = []) :
    G.Accounts start (G.presentIn start) where
  empty := rfl
  items steps := (kept_run hG hstart steps).items
  ordered steps := (kept_run hG hstart steps).ordered
  entered steps item h := by rw [presentIn_concat, presentAfter, if_pos h]
  refused steps item h := by simp [presentIn_concat, presentAfter, h]
  dropped steps guard hguard := by
    have hkept := kept_run hG hstart steps
    obtain ⟨mark, hmark⟩ := hkept.exists_mark hguard
    rw [presentIn_concat, presentAfter, hmark, Option.elim_some]
    exact ⟨List.take_prefix _ _, hkept.notMem_take hmark, fun earlier => hkept.mem_take hmark⟩
  lastFirst steps guard h := by
    have hkept := kept_run hG hstart steps
    have hlast := h steps guard List.prefix_rfl
    rw [held_eq_presentIn hG hstart fun before guard hbefore => h before guard
      (hbefore.trans (List.prefix_append _ _))] at hlast
    obtain ⟨rest, hrest⟩ := List.getLast?_eq_some_iff.1 hlast
    obtain ⟨mark, hmark⟩ := hkept.exists_mark (hkept.known guard (by simp [hrest]))
    rw [hrest] at hkept
    rw [presentIn_concat, presentAfter, hmark, Option.elim_some, hrest, hkept.take_of_last hmark]

end Guarded

def FrameStack.guarded : Guarded FrameStack Frame where
  items := FrameStack.frames
  enter? s f := some (s.enter f)
  leave := FrameStack.leave

theorem FrameStack.lawful : FrameStack.guarded.Lawful where
  enter h := by
    cases h
    exact ⟨rfl, rfl⟩
  leave _ _ := rfl

namespace CallPath

variable {p q : CallPath} {c : Call}

def guarded : Guarded CallPath Call where
  items := CallPath.calls
  enter? p c := match p.enter c with
    | .entered q => some (p.depth, q)
    | .recursive => none
    | .tooDeep => none
  leave := CallPath.leave

theorem enter?_eq_some {mark : Nat} (h : guarded.enter? p c = some (mark, q)) :
    p.enter c = .entered q ∧ mark = p.depth := by
  simp only [guarded] at h
  split at h
  case h_1 heq =>
    cases h
    exact ⟨heq, rfl⟩
  case h_2 => cases h
  case h_3 => cases h

theorem lawful : guarded.Lawful where
  enter h := by
    obtain ⟨henter, rfl⟩ := enter?_eq_some h
    obtain ⟨-, rfl⟩ := enter_eq_entered henter
    exact ⟨rfl, rfl⟩
  leave _ _ := rfl

theorem isFull_iff : p.isFull = true ↔ ∃ max, p.maxDepth = some max ∧ max ≤ p.depth := by
  unfold isFull
  split
  case h_1 max heq => simp [heq]
  case h_2 heq => simp [heq]

theorem enter_eq (p : CallPath) (c : Call) : p.enter c =
    if c ∈ p.calls then .recursive else if p.isFull then .tooDeep
    else .entered { p with calls := p.calls ++ [c] } := by
  simp [enter, contains]

structure Within (limit : Option Nat) (p : CallPath) : Prop where
  maxDepth : p.maxDepth = limit
  nodup : p.calls.Nodup
  bounded : ∀ max, limit = some max → p.depth ≤ max

namespace Within

variable {limit : Option Nat}

theorem enter (h : p.Within limit) (henter : p.enter c = .entered q) : q.Within limit := by
  obtain ⟨hnew, rfl⟩ := enter_eq_entered henter
  have hroom : ¬ p.isFull := by
    intro hfull
    rw [enter_eq, if_neg hnew, if_pos hfull] at henter
    cases henter
  refine ⟨h.maxDepth, List.nodup_append.2 ⟨h.nodup, List.nodup_singleton _, by grind⟩,
    fun max hmax => ?_⟩
  have hlt : p.depth < max := by
    by_contra hle
    exact hroom (isFull_iff.2 ⟨max, h.maxDepth.trans hmax, Nat.le_of_not_lt hle⟩)
  simpa [depth] using Nat.succ_le_of_lt hlt

theorem leave (h : p.Within limit) (mark : Nat) : (p.leave mark).Within limit := by
  have hsublist : (p.calls.take mark).Sublist p.calls := List.take_sublist mark p.calls
  exact ⟨h.maxDepth, h.nodup.sublist hsublist,
    fun max hmax => Nat.le_trans hsublist.length_le (h.bounded max hmax)⟩

theorem run (limit : Option Nat) (steps : List (GuardStep Call)) :
    ((guarded.run { maxDepth := limit } steps).stack).Within limit := by
  induction steps using List.reverseRecOn with
  | nil => exact ⟨rfl, List.nodup_nil, fun max _ => Nat.zero_le max⟩
  | append_singleton steps step ih =>
    rw [Guarded.run_concat]
    cases step with
    | enter c =>
      rw [Guarded.act]
      split
      case h_1 heq => exact ih.enter (enter?_eq_some heq).1
      case h_2 => exact ih
    | drop guard =>
      rw [Guarded.act]
      split
      case h_1 mark _ => exact ih.leave mark
      case h_2 => exact ih

theorem answers (h : p.Within limit) (c : Call) :
    (p.enter c = .recursive ↔ c ∈ p.calls) ∧
    (p.enter c = .tooDeep ↔ c ∉ p.calls ∧ ∃ max, limit = some max ∧ max ≤ p.depth) ∧
    (p.enter c = .entered { p with calls := p.calls ++ [c] } ↔
      c ∉ p.calls ∧ ∀ max, limit = some max → p.depth < max) := by
  have hfull : p.isFull = true ↔ ∃ max, limit = some max ∧ max ≤ p.depth := by
    rw [isFull_iff, h.maxDepth]
  have hroom : p.isFull = false ↔ ∀ max, limit = some max → p.depth < max := by
    rw [← Bool.not_eq_true, hfull]
    simp
  rw [enter_eq, ← hfull, ← hroom]
  by_cases hc : c ∈ p.calls
  · simp [hc]
  · cases hp : p.isFull <;> simp [hc]

end Within

end CallPath

/-- In whatever order guards are dropped, the entries of a stack stand in the order in which they
were entered, and a drop takes away its own entry and none from before it. Dropped last in, first
out, each takes away its own entry alone. On a path of calls, moreover, no call ever stands twice,
the limit is never exceeded, and entering is refused for these two reasons only, recursion first. -/
theorem guards_safe :
    (∃ present, FrameStack.guarded.Accounts {} present) ∧
    ∀ limit : Option Nat,
      (∃ present, CallPath.guarded.Accounts { maxDepth := limit } present) ∧
      ∀ (steps : List (GuardStep Call)) (p : CallPath),
      (CallPath.guarded.run { maxDepth := limit } steps).stack = p →
        p.calls.Nodup ∧ (∀ max, limit = some max → p.depth ≤ max) ∧
        ∀ c : Call, (p.enter c = .recursive ↔ c ∈ p.calls) ∧
          (p.enter c = .tooDeep ↔ c ∉ p.calls ∧ ∃ max, limit = some max ∧ max ≤ p.depth) ∧
          (p.enter c = .entered { p with calls := p.calls ++ [c] } ↔
            c ∉ p.calls ∧ ∀ max, limit = some max → p.depth < max) := by
  refine ⟨⟨_, Guarded.accounts FrameStack.lawful rfl⟩,
    fun limit => ⟨⟨_, Guarded.accounts CallPath.lawful rfl⟩, ?_⟩⟩
  rintro steps p rfl
  have hwithin := CallPath.Within.run limit steps
  exact ⟨hwithin.nodup, hwithin.bounded, hwithin.answers⟩

end Lifeline
