import Lifeline.Proofs.Restoration
import Lifeline.Proofs.Resumption

namespace Lifeline

namespace Walker

structure Idle (t : Tracer) (x : Walker) : Prop where
  frames : x.stack.frames = []
  path : x.path = { maxDepth := t.options.maxDepth }
  inlined : x.inlined = 0

def recorded (x : Walker) : Trace :=
  { x.trace with scopes := .empty }

structure Tells (t : Tracer) (walk : Except Fault Unit × Walker)
    (trace : Except Fault Unit × Trace) : Prop where
  result : walk.1 = trace.1
  recorded : walk.2.recorded = trace.2
  idle : walk.2.Idle t

theorem idle_new (t : Tracer) (r : Roster) : (t.newWalker r).Idle t :=
  ⟨rfl, rfl, rfl⟩

theorem recorded_new (t : Tracer) (r : Roster) : (t.newWalker r).recorded = { roster := r } := rfl

end Walker

namespace Tracer

variable {t : Tracer} {E : Walk.Enter} {E' : Enter} {x : Walker} {p : ParticipantId} {entry : Decl}
variable {f : Function} {body : Stmt}

theorem inEntry_tells (hE : Walk.Enters E E') (hx : x.Idle t) (p : ParticipantId)
    (operation : String) :
    Walker.Tells t
      (Walk.inEntry { maxDepth := t.options.maxDepth, calls := [(p, x.roster.operation p)] } p
        (E f body operation) x)
      (Visit.withScopes .empty (E' (t.start x.roster p) f body operation) x.recorded) := by
  have hstarts : { x with
      path := { maxDepth := t.options.maxDepth, calls := [(p, x.roster.operation p)] },
        scopes := .empty,
      caller := p, returnTo := none, scope := .normal } =
          Walker.of (t.start x.roster p) x.recorded := by
    obtain ⟨⟨frames, blocks⟩, path, scopes, caller, returnTo, scope, inlined,
      roster, interaction⟩ := x
    obtain ⟨rfl, rfl, rfl⟩ := hx
    rfl
  have hdepth : x.path.depth = 0 := by
    rw [hx.path]
    rfl
  have hruns := (hE f body operation).does (t.start x.roster p) x.recorded
  unfold Walk.inEntry
  rw [hstarts, hruns, hdepth]
  exact ⟨rfl, rfl, rfl, rfl, rfl⟩

theorem walkFrom_eq (hfun : entry.function? = some f) (hbody : f.body = some body) :
    t.walkFrom E entry =
      Walk.cast (t.casting.intern (.decl entry)) >>= walkProceed E entry f body := by
  unfold walkFrom
  rw [hfun]
  dsimp only
  rw [hbody]

theorem walkProceed_tombstone (hp : p.isTombstone = true) (x : Walker) :
    walkProceed E entry f body p x = (.error (.missingEntry (.excluded entry.name)), x) := by
  unfold walkProceed
  rw [hp]
  rfl

theorem walkProceed_eq (hx : x.Idle t) (hp : p.isTombstone = false) :
    walkProceed E entry f body p x =
      if ({ maxDepth := t.options.maxDepth } : CallPath).isFull then (.ok (), x.begin p)
      else Walk.inEntry { maxDepth := t.options.maxDepth, calls := [(p, x.roster.operation p)] } p
        (E f body (x.roster.operation p)) (x.begin p) := by
  have henter : (x.begin p).path.enter (p, x.roster.operation p) =
      if ({ maxDepth := t.options.maxDepth } : CallPath).isFull then .tooDeep
      else .entered { maxDepth := t.options.maxDepth, calls := [(p, x.roster.operation p)] } := by
    show x.path.enter (p, x.roster.operation p) = _
    rw [hx.path]
    rfl
  have hbegun : (modify (·.begin p) : Walk PUnit) x = (.ok ⟨⟩, x.begin p) := rfl
  unfold walkProceed
  rw [hp, if_neg Bool.false_ne_true]
  dsimp only
  rw [Agree.run_bind, hbegun]
  dsimp only
  rw [Walk.get_bind_apply, show (x.begin p).roster = x.roster from rfl, henter]
  cases ({ maxDepth := t.options.maxDepth } : CallPath).isFull <;> rfl

theorem walkProceed_tells (hE : Walk.Enters E E') (hx : x.Idle t) (p : ParticipantId) :
    Walker.Tells t (walkProceed E entry f body p x)
      (t.proceed E' entry f body p x.recorded) := by
  cases hp : p.isTombstone with
  | true =>
    rw [proceed_tombstone hp, walkProceed_tombstone hp]
    exact ⟨rfl, rfl, hx⟩
  | false =>
    have hbegin : (x.begin p).Idle t := ⟨hx.frames, hx.path, hx.inlined⟩
    rw [proceed_eq hp, walkProceed_eq hx hp]
    cases ({ maxDepth := t.options.maxDepth } : CallPath).isFull with
    | true => exact ⟨rfl, rfl, hbegin⟩
    | false => exact inEntry_tells hE hbegin p _

theorem walkFrom_tells (hE : Walk.Enters E E') (hx : x.Idle t) (entry : Decl) :
    Walker.Tells t (t.walkFrom E entry x) (t.traceWith E' entry x.recorded) := by
  cases hfun : entry.function? with
  | none =>
    rw [walkFrom, traceWith, hfun]
    exact ⟨rfl, rfl, hx⟩
  | some f =>
    cases hbody : f.body with
    | none =>
      rw [walkFrom, traceWith, hfun]
      dsimp only
      rw [hbody]
      exact ⟨rfl, rfl, hx⟩
    | some body =>
      rw [walkFrom_eq hfun hbody, traceWith_eq hfun hbody, Agree.run_bind, Agree.run_bind]
      have hcast : Walk.cast (t.casting.intern (.decl entry)) x =
          ((t.casting.intern (.decl entry) x.roster).1,
            { x with roster := (t.casting.intern (.decl entry) x.roster).2 }) := rfl
      have hcast' : Visit.cast (t.casting.intern (.decl entry)) x.recorded =
          ((t.casting.intern (.decl entry) x.roster).1,
            { x.recorded with roster := (t.casting.intern (.decl entry) x.roster).2 }) := rfl
      rw [hcast, hcast']
      rcases t.casting.intern (.decl entry) x.roster with ⟨fault | p, r⟩
      · exact ⟨rfl, rfl, hx.frames, hx.path, hx.inlined⟩
      · exact walkProceed_tells (x := { x with roster := r }) hE ⟨hx.frames, hx.path, hx.inlined⟩ p

theorem walkEntry_tells (hx : x.Idle t) (entry : Decl) :
    Walker.Tells t (t.walkEntry entry x) (t.trace entry x.recorded) :=
  walkFrom_tells (t.walkInto_enters _) hx entry

theorem walkAll_idle (hx : x.Idle t) (entries : List Decl) :
    (t.walkAll entries x).Idle t ∧
      (t.walkAll entries x).recorded = t.traceAll entries x.recorded := by
  induction entries generalizing x with
  | nil => exact ⟨hx, rfl⟩
  | cons entry rest ih =>
    have hfirst := walkEntry_tells hx entry
    obtain ⟨hidle, hrecorded⟩ := ih hfirst.idle
    refine ⟨hidle, hrecorded.trans ?_⟩
    rw [hfirst.recorded]
    rfl

theorem forM_tells (hx : x.Idle t) (entries : List Decl) :
    Walker.Tells t ((entries.forM t.walkEntry : Walk Unit) x)
      ((entries.forM t.trace : Visit Unit) x.recorded) := by
  induction entries generalizing x with
  | nil => exact ⟨rfl, rfl, hx⟩
  | cons entry rest ih =>
    have hforM :
        (entry :: rest).forM t.walkEntry = t.walkEntry entry >>= fun _ => rest.forM t.walkEntry :=
      rfl
    have hfirst := walkEntry_tells hx entry
    rw [hforM, forM_cons_run, Agree.run_bind, Agree.run_bind]
    generalize t.walkEntry entry x = walk at hfirst
    generalize t.trace entry x.recorded = trace at hfirst
    obtain ⟨result, y⟩ := walk
    obtain ⟨result', s⟩ := trace
    obtain ⟨rfl, rfl, hy⟩ := hfirst
    cases result with
    | error fault => exact ⟨rfl, rfl, hy⟩
    | ok => exact ih hy

theorem walked_eq (t : Tracer) (entries : List Decl) (r : Roster) :
    t.walked entries r = t.interaction entries r := by
  have hall := forM_tells (Walker.idle_new t r) entries
  rw [Walker.recorded_new] at hall
  unfold walked interaction
  generalize (entries.forM t.walkEntry : Walk Unit) (t.newWalker r) = walk at hall
  generalize (entries.forM t.trace : Visit Unit) { roster := r } = trace at hall
  obtain ⟨result, y⟩ := walk
  obtain ⟨result', s⟩ := trace
  obtain ⟨rfl, rfl, -⟩ := hall
  cases result <;> rfl

end Tracer

/-- A walk that goes on from `x` ends as one on a walker of its own does, with the same roster. It
adds the same entry points and messages, with blocks counted from where the count of `x` stands. -/
structure Walker.GoesOn (t : Tracer) (x : Walker)
    (fresh after : Except Fault Unit × Walker) : Prop where
  result : after.1 = fresh.1
  roster : after.2.roster = fresh.2.roster
  entryPoints : after.2.interaction.entryPoints =
    x.interaction.entryPoints ++ fresh.2.interaction.entryPoints
  messages : after.2.interaction.messages =
    x.interaction.messages ++ fresh.2.interaction.messages.map (Message.shift x.stack.blocks)
  blocks : after.2.stack.blocks = x.stack.blocks + fresh.2.stack.blocks
  idle : after.2.Idle t

namespace Tracer

variable {t : Tracer} {x : Walker}

theorem walkEntry_goesOn (hx : x.Idle t) (entry : Decl) :
    x.GoesOn t (t.walkEntry entry (t.newWalker x.roster)) (t.walkEntry entry x) := by
  have hfresh := walkEntry_tells (Walker.idle_new t x.roster) entry
  have hafter := walkEntry_tells hx entry
  have hresume := (trace_resume (t := t) (s := x.recorded) rfl entry).1
  have hroster : x.recorded.roster = x.roster := rfl
  rw [Walker.recorded_new] at hfresh
  rw [hresume, hroster] at hafter
  have hrecorded := hafter.recorded
  rw [← hfresh.recorded] at hrecorded
  refine ⟨hafter.result.trans hfresh.result.symm, congrArg Trace.roster hrecorded,
    ?_, ?_, ?_, hafter.idle⟩
  · exact congrArg (fun s : Trace => s.interaction.entryPoints) hrecorded
  · exact congrArg (fun s : Trace => s.interaction.messages) hrecorded
  · exact congrArg Trace.blocks hrecorded

/-- From wherever it was left idle, a walker does what a trace does and is idle again. So after any
entry points, also ones that failed, it goes on as a walker of its own would, and the entry points
of one interaction stand side by side. -/
theorem trace_goes_on (t : Tracer) (r : Roster) :
    (∀ x : Walker, x.Idle t → ∀ entry,
      Walker.Tells t (t.walkEntry entry x) (t.trace entry x.recorded)) ∧
    (∀ before entry, (t.walkAll before (t.newWalker r)).GoesOn t
      (t.walkEntry entry (t.newWalker (t.walkAll before (t.newWalker r)).roster))
      (t.walkEntry entry (t.walkAll before (t.newWalker r)))) ∧
    ∀ entries, t.walked entries r = t.interaction entries r ∧
      (∀ s ∈ t.apart entries r, ∀ m ∈ s.interaction.messages, ∀ f ∈ m.context, f.block < s.blocks) ∧
      ∀ target,
        (t.interactions .merged target entries r).2 = (t.interactions .chains none entries r).2 ∧
        Merges (t.apart entries r) (t.interactions .chains none entries r).1
          (t.interactions .merged target entries r).1 := by
  refine ⟨fun x hx entry => walkEntry_tells hx entry, fun before entry => ?_, fun entries => ?_⟩
  · exact walkEntry_goesOn (walkAll_idle (Walker.idle_new t r) before).1 entry
  · exact ⟨t.walked_eq entries r, apart_counted entries r, interactions_merge r entries⟩

end Tracer

def Sample.stumble : Decl :=
  function 5 "stumble" none failing

def Sample.stumbled : Walker :=
  tracer.walkAll [stumble] (tracer.newWalker {})

theorem Tracer.trace_goes_on_sample :
    (Sample.tracer.walkEntry Sample.stumble (Sample.tracer.newWalker {})).1 =
      .error (.malformed (.unknownDecl 9)) ∧
    Sample.stumbled.interaction.size ≠ 0 ∧ Sample.stumbled.stack.blocks ≠ 0 ∧
    Sample.stumbled.Idle Sample.tracer ∧
    Walker.Tells Sample.tracer (Sample.tracer.walkEntry Sample.run Sample.stumbled)
      (Sample.tracer.trace Sample.run Sample.stumbled.recorded) ∧
    Sample.stumbled.GoesOn Sample.tracer
      (Sample.tracer.walkEntry Sample.run (Sample.tracer.newWalker Sample.stumbled.roster))
      (Sample.tracer.walkEntry Sample.run Sample.stumbled) := by
  obtain ⟨htells, hgoes, -⟩ := trace_goes_on Sample.tracer {}
  have hidle : Sample.stumbled.Idle Sample.tracer := (hgoes [] Sample.stumble).idle
  exact ⟨by decide +kernel, by decide +kernel, by decide +kernel, hidle,
    htells Sample.stumbled hidle Sample.run, hgoes [Sample.stumble] Sample.run⟩

end Lifeline
