import Mathlib.Order.Monotone.Defs
import Lifeline.Proofs.Deepening
import Lifeline.Proofs.Isolation

/-! Traces that are cut off at some depth, beside traces that are not. What is not visited takes no
block numbers, so from there on the blocks of the two are numbered differently, though in the same
order. -/

namespace Lifeline

def Frame.rename (φ : Nat → Nat) : Frame → Frame
  | .branch block kind index total label => .branch (φ block) kind index total label
  | .loop block kind label => .loop (φ block) kind label
  | .handler block index label => .handler (φ block) index label
  | .coroutine block label => .coroutine (φ block) label

def Message.rename (φ : Nat → Nat) (m : Message) : Message :=
  { m with context := m.context.map (Frame.rename φ) }

def Interaction.rename (φ : Nat → Nat) (i : Interaction) : Interaction :=
  { i with messages := i.messages.map (Message.rename φ) }

def Trace.rename (φ : Nat → Nat) (s : Trace) : Trace :=
  { s with blocks := φ s.blocks, interaction := s.interaction.rename φ }

def Trace.shallow (n : Nat) (s : Trace) : Trace :=
  { s with interaction := s.interaction.shallow n }

def Activation.uncut (φ : Nat → Nat) (b : Activation) : Activation :=
  { b with path := { b.path with maxDepth := none }, context := b.context.map (Frame.rename φ) }

section Rename

variable {φ ψ : Nat → Nat}

theorem Frame.rename_congr {f : Frame} (h : ψ f.block = φ f.block) : f.rename ψ = f.rename φ := by
  cases f <;> simp_all [rename, block]

theorem Context.Counted.rename_congr {c : Context} {s : Trace} (h : c.Counted s)
    (heq : ∀ i < s.blocks, ψ i = φ i) : c.map (Frame.rename ψ) = c.map (Frame.rename φ) :=
  List.map_congr_left fun f hf => Frame.rename_congr (heq f.block (h f hf))

theorem Interaction.rename_congr {i : Interaction} {s : Trace}
    (h : ∀ m ∈ i.messages, m.context.Counted s) (heq : ∀ i < s.blocks, ψ i = φ i) :
    i.rename ψ = i.rename φ := by
  unfold rename
  congr 1
  refine Array.map_congr_left fun m hm => ?_
  unfold Message.rename
  rw [(h m hm).rename_congr heq]

theorem Trace.rename_push (s : Trace) (m : Message) :
    (s.push m).rename φ = (s.rename φ).push (m.rename φ) := by
  simp [Trace.rename, Interaction.rename, Trace.push, Interaction.push]

theorem Trace.shallow_push {n : Nat} {m : Message} (h : m.depth < n) (s : Trace) :
    (s.push m).shallow n = (s.shallow n).push m := by
  simp only [Trace.shallow, Trace.push, Interaction.shallow_push h]

theorem Activation.uncut_congr {b : Activation} {s : Trace} (h : b.context.Counted s)
    (heq : ∀ i < s.blocks, ψ i = φ i) : b.uncut ψ = b.uncut φ := by
  unfold uncut
  rw [h.rename_congr heq]

theorem Activation.uncut_enter (b : Activation) (g : Frame) :
    (b.enter g).uncut φ = (b.uncut φ).enter (g.rename φ) := by
  simp [Activation.uncut, Activation.enter]

theorem Frame.Twins.rename {t u : Tracer} {wording : String → String → Prop} {m n : Nat}
    {f g : Frame} (h : Frame.Twins t u wording m n f g)
    (htext : u.options.conditionText = t.options.conditionText) (hφ : φ n = m) :
    (g.rename φ).unworded = f.unworded := by
  cases h <;> simp [Frame.rename, Frame.unworded, Tracer.caption, htext, hφ]

theorem Frame.Twins.block_eq_right {t u : Tracer} {wording : String → String → Prop} {m n : Nat}
    {f g : Frame} (h : Frame.Twins t u wording m n f g) : g.block = n := by
  cases h <;> rfl

end Rename

/-- The second trace is what is left of the first one if it is cut off at this depth. -/
structure Trace.Cuts (c : Casting) (n : Nat) (φ : Nat → Nat) (s s' : Trace) : Prop where
  alike : Trace.Alike c (s.shallow n) (s'.rename φ)
  mono : StrictMono φ
  /-- The next blocks of the two correspond. -/
  level : ∀ k, φ (s'.blocks + k) = s.blocks + k
  counted : ∀ m ∈ s'.interaction.messages, m.context.Counted s'

structure Activation.Cuts (n : Nat) (φ : Nat → Nat) (a b : Activation) (s s' : Trace) : Prop where
  alike : a.Alike (b.uncut φ) s.roster s'.roster
  bound : b.path.maxDepth = some n
  shallow : b.path.depth ≤ n
  plain : a.inlined = 0
  live : a.Live s.roster
  counted : b.context.Counted s'

namespace Trace.Cuts

variable {c : Casting} {n : Nat} {φ : Nat → Nat} {s s' s₁ : Trace}

theorem rosters (h : Cuts c n φ s s') : c.Consistent s.roster s'.roster :=
  h.alike.rosters

theorem rescope (h : Cuts c n φ s s') (x x' : Scopes) :
    Cuts c n φ { s with scopes := x } { s' with scopes := x' } :=
  ⟨h.alike.rescope x x', h.mono, h.level, h.counted⟩

theorem opened (h : Cuts c n φ s s') : Cuts c n φ s.opened s'.opened := by
  have halike : Trace.Alike c (s.opened.shallow n) (s'.opened.rename φ) :=
    { h.alike with blocks := h.level 1 }
  refine ⟨halike, h.mono, fun k => ?_, fun m hm => (h.counted m hm).mono (Nat.le_succ _)⟩
  show φ (s'.blocks + 1 + k) = s.blocks + 1 + k
  rw [Nat.add_assoc, Nat.add_assoc, h.level]

theorem recast (h : Cuts c n φ s s') {r r' : Roster} (hc : c.Consistent r r')
    (hr : s.roster.Extends r) (hr' : s'.roster.Extends r') :
    Cuts c n φ { s with roster := r } { s' with roster := r' } :=
  ⟨h.alike.recast hc hr hr', h.mono, h.level, h.counted⟩

theorem begin (h : Cuts c n φ s s') {r r' : Roster} (hc : c.Consistent r r')
    (hr : s.roster.Extends r) (hr' : s'.roster.Extends r') {p : ParticipantId}
    (hp : r.isVisible p = true) (hp' : r'.isVisible p = true) :
    Cuts c n φ (s.begin r p) (s'.begin r' p) :=
  ⟨h.alike.begin hc hr hr' hp hp', h.mono, h.level, h.counted⟩

theorem push (h : Cuts c n φ s s') {m m' : Message} (hm : (m'.rename φ).unworded = m.unworded)
    (hdepth : m.depth < n) (hcounted : m'.context.Counted s') :
    Cuts c n φ (s.push m) (s'.push m') := by
  refine ⟨?_, h.mono, h.level, ?_⟩
  · rw [Trace.shallow_push hdepth, Trace.rename_push]
    exact h.alike.push hm
  · intro m₁ hm₁
    rcases Array.mem_push.1 hm₁ with hold | rfl
    · exact h.counted m₁ hold
    · exact hcounted

theorem deepened (h : Cuts c n φ s s') (hdeep : s.Deepens c n s₁) (hr : s.roster.Extends s₁.roster)
    (hseparates : c.Separates s₁.roster s'.roster) :
    ∃ ψ, Cuts c n ψ s₁ s' ∧ ∀ i < s'.blocks, ψ i = φ i := by
  let ψ (i : Nat) : Nat := if i < s'.blocks then φ i else φ i + (s₁.blocks - s.blocks)
  have hold : ∀ i < s'.blocks, ψ i = φ i := fun i hi => if_pos hi
  have hblocks := hdeep.blocks
  have hlevel (k : Nat) : ψ (s'.blocks + k) = s₁.blocks + k := by
    have hk : ψ (s'.blocks + k) = φ (s'.blocks + k) + (s₁.blocks - s.blocks) := if_neg (by omega)
    rw [hk, h.level]
    omega
  have hmono : StrictMono ψ := by
    intro i j hij
    have hφ := h.mono hij
    simp only [ψ]
    split <;> split <;> omega
  have hshallow : s₁.interaction.shallow n = s.interaction.shallow n := hdeep.shallow
  have halike : Trace.Alike c (s₁.shallow n) (s'.rename ψ) := by
    refine ⟨⟨hdeep.drawn h.rosters.left, h.rosters.right, hseparates⟩, hlevel 0, ?_, fun p hp => ?_⟩
    · simp only [Trace.shallow, Trace.rename, hshallow, Interaction.rename_congr h.counted hold]
      exact h.alike.interaction
    · have hentries := congrArg Interaction.entryPoints hshallow
      simp only [Interaction.shallow] at hentries
      obtain ⟨hseen, hseen'⟩ := h.alike.entries p (hentries ▸ hp)
      exact ⟨hr.isVisible hseen, hseen'⟩
  exact ⟨ψ, ⟨halike, hmono, hlevel, h.counted⟩, hold⟩

theorem start (c : Casting) (n : Nat) : Cuts c n id {} {} := by
  have hseparates : c.Separates {} {} := by simp [Casting.Separates]
  have hsame : (rename id {}).interaction.unworded = (shallow n {}).interaction.unworded := by
    simp [rename, shallow, Interaction.rename, Interaction.shallow]
  exact ⟨⟨⟨.refl, .refl, hseparates⟩, rfl, hsame, List.forall_mem_nil _⟩, fun _ _ h => h,
    fun k => rfl, by simp⟩

end Trace.Cuts

namespace Activation.Cuts

variable {n : Nat} {φ ψ : Nat → Nat} {a b : Activation} {s s' s₁ s₁' : Trace}

theorem caller (h : a.Cuts n φ b s s') : b.caller = a.caller := by
  have hcaller : (b.uncut φ).caller = a.caller := h.alike.caller
  exact hcaller

theorem returnTo (h : a.Cuts n φ b s s') : b.returnTo = a.returnTo := by
  have hreturn : (b.uncut φ).returnTo = a.returnTo := h.alike.returnTo
  exact hreturn

theorem path_depth (h : a.Cuts n φ b s s') : b.path.depth = a.path.depth := by
  have hpath := congrArg CallPath.depth h.alike.unworded_path
  simpa [CallPath.unworded, CallPath.depth, uncut] using hpath

theorem depth_lt (h : a.Cuts n φ b s s') (hn : 1 ≤ n) : a.depth < n := by
  have hdepth := h.path_depth
  have hshallow := h.shallow
  unfold Activation.depth
  omega

theorem lt_of_not_full (h : a.Cuts n φ b s s') (hless : b.path.isFull = false) :
    b.path.depth < n := by
  rw [CallPath.isFull, h.bound] at hless
  simpa using hless

theorem depth_of_full (h : a.Cuts n φ b s s') (hfull : b.path.isFull = true) :
    a.path.depth = n := by
  rw [CallPath.isFull, h.bound] at hfull
  rw [← h.path_depth]
  exact Nat.le_antisymm h.shallow (by simpa using hfull)

theorem mono (h : a.Cuts n φ b s s') (hr : s.roster.Extends s₁.roster)
    (hr' : s'.roster.Extends s₁'.roster) (hblocks : s'.blocks ≤ s₁'.blocks)
    (heq : ∀ i < s'.blocks, ψ i = φ i) : a.Cuts n ψ b s₁ s₁' where
  alike := by
    rw [uncut_congr h.counted heq]
    exact h.alike.mono hr hr'
  bound := h.bound
  shallow := h.shallow
  plain := h.plain
  live := h.live.mono hr
  counted := h.counted.mono hblocks

theorem inCondition (h : a.Cuts n φ b s s') : a.inCondition.Cuts n φ b.inCondition s s' where
  alike := h.alike.inCondition
  bound := h.bound
  shallow := h.shallow
  plain := h.plain
  live := ⟨h.live.caller, h.live.returnTo, h.live.entered⟩
  counted := h.counted

theorem enter (h : a.Cuts n φ b s s') {f g : Frame} (hfg : (g.rename φ).unworded = f.unworded)
    (hg : g.block < s'.blocks) : (a.enter f).Cuts n φ (b.enter g) s s' where
  alike := by
    rw [uncut_enter]
    exact h.alike.enter hfg
  bound := h.bound
  shallow := h.shallow
  plain := h.plain
  live := ⟨h.live.caller, h.live.returnTo, h.live.entered⟩
  counted := by
    intro f' hf'
    rcases List.mem_append.1 hf' with hold | hnew
    · exact h.counted f' hold
    · rwa [List.mem_singleton.1 hnew]

theorem contains_eq (h : a.Cuts n φ b s s') (id : ParticipantId) :
    b.path.contains (id, s'.roster.operation id) = a.path.contains (id, s.roster.operation id) := by
  have hright : (b.uncut φ).path.contains (id, s'.roster.operation id) =
      (b.uncut φ).path.unworded.contains (id, "") :=
    h.alike.path'.contains id
  rw [h.alike.path.contains, ← h.alike.unworded_path]
  exact hright

theorem not_full (h : a.Cuts n φ b s s') : a.path.isFull = false := by
  have hbound := congrArg CallPath.maxDepth h.alike.unworded_path
  simp only [CallPath.unworded, uncut] at hbound
  rw [CallPath.isFull, ← hbound]

theorem calling (h : a.Cuts n φ b s s') {p : ParticipantId} (hp : s.roster.isVisible p = true)
    (hp' : s'.roster.isVisible p = true) (hless : b.path.depth < n) {path path' : CallPath}
    (henter : a.path.enter (p, s.roster.operation p) = .entered path)
    (henter' : b.path.enter (p, s'.roster.operation p) = .entered path') :
    (a.calling path p false).Cuts n φ (b.calling path' p false) s s' := by
  have hlive := h.live.calling hp henter false
  obtain ⟨-, rfl⟩ := CallPath.enter_eq_entered henter
  obtain ⟨-, rfl⟩ := CallPath.enter_eq_entered henter'
  have hpath := h.alike.path
  have hpath' := h.alike.path'
  have hsame := h.alike.unworded_path
  refine ⟨h.alike.calling ?_ ?_ ?_ hp hp' false, h.bound, ?_, h.plain, hlive, h.counted⟩
  · simpa [CallPath.Worded, or_imp, forall_and, hp] using hpath
  · simpa [CallPath.Worded, or_imp, forall_and, hp', uncut, Activation.calling] using hpath'
  · simpa [CallPath.unworded, uncut, Activation.calling] using hsame
  · simpa [CallPath.depth, Activation.calling] using Nat.succ_le_of_lt hless

theorem enter_twins (h : a.Cuts n φ b s s') (p : ParticipantId) (hless : b.path.isFull = false) :
    CallPath.Entry.Twins
      (fun path path' => a.path.enter (p, s.roster.operation p) = .entered path ∧
        b.path.enter (p, s'.roster.operation p) = .entered path')
      (a.path.enter (p, s.roster.operation p)) (b.path.enter (p, s'.roster.operation p)) := by
  unfold CallPath.enter
  rw [h.contains_eq, h.not_full, hless]
  split
  · exact .recursive
  · exact .entered ⟨rfl, rfl⟩

end Activation.Cuts

end Lifeline
