import Mathlib.Control.Lawful
import Lifeline.Dump
import Lifeline.Files.Volume

namespace Lifeline.Files

def Looks (x : StateM Volume α) : Prop :=
  ∀ v, (x v).2 = v

namespace Looks

theorem pure (a : α) : Looks (Pure.pure a) :=
  fun _ => rfl

theorem bind {x : StateM Volume α} {k : α → StateM Volume β} (hx : Looks x)
    (hk : ∀ a, Looks (k a)) : Looks (x >>= k) := by
  intro v
  have hboth := hk (x v).1 (x v).2
  exact hboth.trans (hx v)

theorem mapM {f : α → StateM Volume β} (hf : ∀ a, Looks (f a)) (l : List α) : Looks (l.mapM f) := by
  induction l with
  | nil => exact .pure _
  | cons a rest ih =>
    rw [List.mapM_cons]
    exact .bind (hf a) fun _ => .bind ih fun _ => .pure _

theorem lift {x : StateM Volume α} (hx : Looks x) :
    Looks (liftM x : ExceptT Fault (StateM Volume) α).run :=
  .bind hx fun _ => .pure _

theorem except {x : ExceptT Fault (StateM Volume) α} {k : α → ExceptT Fault (StateM Volume) β}
    (hx : Looks x.run) (hk : ∀ a, Looks (k a).run) : Looks (x >>= k).run := by
  rw [ExceptT.run_bind]
  refine .bind hx fun result => ?_
  cases result with
  | ok a => exact hk a
  | error f => exact .pure _

theorem exceptMapM {f : α → ExceptT Fault (StateM Volume) β} (hf : ∀ a, Looks (f a).run)
    (l : List α) : Looks (l.mapM f).run := by
  induction l with
  | nil => exact .pure _
  | cons a rest ih =>
    rw [List.mapM_cons]
    exact .except (hf a) fun _ => .except ih fun _ => .pure _

end Looks

theorem looks_kind? (p : Path) : Looks (kind? p) :=
  fun _ => rfl

theorem looks_read (p : Path) : Looks (read p) :=
  fun _ => rfl

theorem looks_list (p : Path) : Looks (list p) :=
  fun _ => rfl

theorem looks_absolute? (p : Path) : Looks (absolute? p) := by
  refine .bind (fun _ => rfl : Looks get) fun v => ?_
  cases v.locate p <;> exact .pure _

theorem looks_exists? (p : Path) : Looks (exists? p) :=
  .bind (looks_kind? p) fun _ => .pure _

theorem looks_readRules (file : Path) : Looks (readRules file) := by
  refine .bind (looks_read file) fun result => ?_
  cases result <;> exact .pure _

theorem looks_firstLine? (file : Path) : Looks (firstLine? file) := by
  refine .bind (looks_read file) fun result => ?_
  cases result <;> exact .pure _

theorem looks_controlDir? (dir : Path) : Looks (controlDir? dir) := by
  refine .bind (looks_kind? _) fun kind => ?_
  split
  · exact .pure _
  · refine .bind (looks_firstLine? _) fun line => ?_
    split
    · exact .pure _
    · refine .bind (looks_firstLine? _) fun line => ?_
      split <;> exact .pure _

theorem looks_readUntracked (dir : Path) : Looks (readUntracked dir) := by
  refine .bind (looks_controlDir? dir) fun place => ?_
  cases place with
  | none => exact .pure _
  | some place => exact looks_readRules _

theorem looks_hasControl (dir : Path) : Looks (hasControl dir) :=
  .bind (.mapM (fun _ => looks_exists? _) _) fun _ => .pure _

theorem looks_readLevel (dir : Path) (home : RuleHome) : Looks (readLevel dir home) :=
  .bind (looks_readRules _) fun _ => .bind (looks_readRules _) fun _ =>
    .bind (looks_readUntracked _) fun _ =>
    .bind (looks_hasControl _) fun _ => .pure _

theorem looks_levelsAbove (dir : Path) : Looks (levelsAbove dir) := by
  refine .bind (looks_absolute? dir) fun place => ?_
  cases place with
  | none => exact .pure _
  | some place => exact .mapM (fun _ => looks_readLevel _ _) _

theorem looks_dumpsAt {inside : Found → ExceptT Fault (StateM Volume) (List Path)}
    (hinside : ∀ found, Looks (inside found).run) (levels : List IgnoreLevel) (found : Found) :
    Looks (dumpsAt inside levels found).run := by
  unfold dumpsAt
  split
  · exact .pure _
  · split
    · exact hinside found
    · refine .except (.lift (looks_kind? _)) fun there => ?_
      split <;> exact .pure _

theorem looks_dumpsIn (room : Nat) (levels : List IgnoreLevel) (dir : Found) :
    Looks (dumpsIn room levels dir).run := by
  induction room generalizing levels dir with
  | zero => exact .pure _
  | succ room ih =>
    unfold dumpsIn
    refine .except (.lift (looks_list dir.path)) fun listing => ?_
    cases listing with
    | error cause => exact .pure _
    | ok entries =>
      refine .except (.lift (looks_readLevel _ _)) fun level => ?_
      exact .except (.exceptMapM (fun entry => looks_dumpsAt (ih _) _ _) _) fun _ => .pure _

theorem looks_dumpsBelow (root : Path) : Looks (dumpsBelow root).run := by
  unfold dumpsBelow
  split
  · exact .pure _
  · refine .except (.lift (looks_kind? root)) fun kind => ?_
    split
    · refine .except (.lift (looks_list root)) fun listing => ?_
      cases listing <;> exact .pure _
    · exact .except (.lift (looks_levelsAbove root)) fun _ => .except (looks_dumpsIn _ _ _) fun _ =>
        .pure _
    · exact .pure _
    · exact .pure _

end Lifeline.Files

namespace Lifeline.Volume

variable (v : Volume)

def source (p : Path) : Source :=
  match (v.read p).bind Files.decode with
  | .ok text => .ok { path := p, text }
  | .error cause => .error (.io cause)

def dumpPaths (p : Path) : Except Fault (List Path) :=
  if v.kind? p = some .directory then
    ((Files.dumpsBelow p : ExceptT Fault (StateM Volume) (List Path)).run v).1
  else .ok [p]

def sourcesAt (p : Path) : List Source :=
  match v.dumpPaths p with
  | .ok files => files.map v.source
  | .error f => [.error f]

variable {v}

theorem bind_eq {x : StateM Volume α} {a : α} (h : x v = (a, v)) (k : α → StateM Volume β) :
    (x >>= k) v = k a v := by
  have hbind : (x >>= k) v = k (x v).1 (x v).2 := rfl
  rw [hbind, h]

theorem mapM_eq {f : α → StateM Volume β} {g : α → β} (h : ∀ a, f a v = (g a, v)) (l : List α) :
    l.mapM f v = (l.map g, v) := by
  induction l with
  | nil => rfl
  | cons a rest ih =>
    rw [List.mapM_cons, bind_eq (h a), bind_eq ih]
    rfl

theorem source_eq (p : Path) : (Files.source p : StateM Volume Source) v = (v.source p, v) := by
  have hread : (Files.readText p : StateM Volume _) v = ((v.read p).bind Files.decode, v) := rfl
  rw [Files.source, bind_eq hread, source]
  cases (v.read p).bind Files.decode <;> rfl

theorem sourcesAt_eq (p : Path) :
    (Files.sourcesAt p : StateM Volume (List Source)) v = (v.sourcesAt p, v) := by
  have hisDir : (Files.isDir p : StateM Volume Bool) v = (v.kind? p == some .directory, v) := rfl
  rw [Files.sourcesAt, bind_eq hisDir, sourcesAt, dumpPaths]
  by_cases hdir : v.kind? p = some .directory
  · have hbelow : (Files.dumpsBelow p : ExceptT Fault (StateM Volume) (List Path)).run v =
        (((Files.dumpsBelow p : ExceptT Fault (StateM Volume) (List Path)).run v).1, v) :=
      Prod.ext rfl (Files.looks_dumpsBelow p v)
    rw [if_pos (by simp [hdir]), if_pos hdir, Files.sourcesBelow, bind_eq hbelow]
    cases ((Files.dumpsBelow p : ExceptT Fault (StateM Volume) (List Path)).run v).1 with
    | ok files => exact mapM_eq source_eq files
    | error f => rfl
  · rw [if_neg (by simp [hdir]), if_neg hdir, bind_eq (source_eq p)]
    rfl

theorem sources_eq (paths : List Path) :
    (Files.sources paths : StateM Volume (List Source)) v = (paths.flatMap v.sourcesAt, v) := by
  rw [Files.sources, bind_eq (mapM_eq sourcesAt_eq paths), List.flatMap]
  rfl

end Lifeline.Volume
