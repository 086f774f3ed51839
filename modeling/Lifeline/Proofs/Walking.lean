import Mathlib.Data.List.Nodup
import Mathlib.Logic.Relation
import Lifeline.Proofs.Looking

namespace Lifeline

namespace Path

variable {a b c : Component} {as bs cs : List Component}

theorem Component.le_total (a b : Component) : a.le b = true ∨ b.le a = true := by
  cases a <;> cases b <;> simp [le, rank, String.le_total]

theorem Component.le_trans (hab : a.le b = true) (hbc : b.le c = true) : a.le c = true := by
  cases a <;> cases b <;> cases c <;> simp_all [le, rank]
  exact String.le_trans hab hbc

theorem Component.le_antisymm (hab : a.le b = true) (hba : b.le a = true) : a = b := by
  cases a <;> cases b <;> simp_all [le, rank]
  exact String.le_antisymm hab hba

theorem leComponents_cons :
    leComponents (a :: as) (b :: bs) = true ↔
      a = b ∧ leComponents as bs = true ∨ a ≠ b ∧ a.le b = true := by
  by_cases h : a = b <;> simp [leComponents, h]

theorem leComponents_total (as bs : List Component) :
    leComponents as bs = true ∨ leComponents bs as = true := by
  induction as generalizing bs with
  | nil => exact .inl rfl
  | cons a as ih =>
    cases bs with
    | nil => exact .inr rfl
    | cons b bs =>
      rw [leComponents_cons, leComponents_cons]
      by_cases hab : a = b
      · subst hab
        simpa using ih bs
      · simpa [hab, Ne.symm hab] using Component.le_total a b

theorem leComponents_trans (hab : leComponents as bs = true) (hbc : leComponents bs cs = true) :
    leComponents as cs = true := by
  induction as generalizing bs cs with
  | nil => rfl
  | cons a as ih =>
    cases bs with
    | nil => cases hab
    | cons b bs =>
      cases cs with
      | nil => cases hbc
      | cons c cs =>
        rw [leComponents_cons] at hab hbc ⊢
        rcases hab with ⟨rfl, hab⟩ | ⟨hne, hab⟩ <;> rcases hbc with ⟨rfl, hbc⟩ | ⟨hne', hbc⟩
        · exact .inl ⟨rfl, ih hab hbc⟩
        · exact .inr ⟨hne', hbc⟩
        · exact .inr ⟨hne, hab⟩
        · refine .inr ⟨?_, Component.le_trans hab hbc⟩
          rintro rfl
          exact hne (Component.le_antisymm hab hbc)

theorem leComponents_antisymm (hab : leComponents as bs = true) (hba : leComponents bs as = true) :
    as = bs := by
  induction as generalizing bs with
  | nil =>
    cases bs with
    | nil => rfl
    | cons b bs => cases hba
  | cons a as ih =>
    cases bs with
    | nil => cases hab
    | cons b bs =>
      rw [leComponents_cons] at hab hba
      rcases hab with ⟨rfl, hab⟩ | ⟨hne, hab⟩
      · rcases hba with ⟨-, hba⟩ | ⟨hne, -⟩
        · rw [ih hab hba]
        · exact absurd rfl hne
      · rcases hba with ⟨heq, -⟩ | ⟨-, hba⟩
        · exact absurd heq.symm hne
        · exact absurd (Component.le_antisymm hab hba) hne

theorem pairwise_mergeSort_le {paths : List Path} (h : (paths.map components).Nodup) :
    (paths.mergeSort le).Pairwise fun p q => q.le p = false := by
  have hsorted : (paths.mergeSort le).Pairwise fun p q => p.le q = true := by
    apply List.pairwise_mergeSort
    · intro p q r hpq hqr
      exact leComponents_trans hpq hqr
    · intro p q
      simpa [Path.le] using leComponents_total p.components q.components
  have hnodup : (paths.mergeSort le).Pairwise fun p q => p.components ≠ q.components := by
    have hperm := (List.mergeSort_perm paths le).map components
    exact List.pairwise_map.mp (hperm.nodup_iff.mpr h)
  refine hsorted.imp₂ ?_ hnodup
  intro p q hle hne
  by_contra hge
  exact hne (leComponents_antisymm hle (by simpa [Path.le] using hge))

structure IsPlain (name : String) : Prop where
  ne_empty : name ≠ ""
  ne_current : name ≠ "."
  ne_parent : name ≠ ".."
  noSlash : '/' ∉ name.toList

theorem isPlain_iff {name : String} :
    IsPlain name ↔ name ≠ "" ∧ name ≠ "." ∧ name ≠ ".." ∧ '/' ∉ name.toList :=
  ⟨fun h => ⟨h.1, h.2, h.3, h.4⟩, fun h => ⟨h.1, h.2.1, h.2.2.1, h.2.2.2⟩⟩

instance (name : String) : Decidable (IsPlain name) :=
  decidable_of_iff _ isPlain_iff.symm

variable {dir : Path} {name : String}

theorem exists_text_join (hdir : dir.text ≠ "") (hname : IsPlain name) :
    ∃ front, (dir.join ⟨name⟩).text = front ++ "/" ++ name ∧
      (dir.text = front ++ "/" ∨ dir.text = front) := by
  have habsolute : name.startsWith "/" = false := by
    rw [String.startsWith_string_eq_false_iff]
    rintro ⟨rest, hrest⟩
    exact hname.noSlash (hrest ▸ List.mem_cons_self)
  cases hends : dir.text.endsWith "/" with
  | true =>
    obtain ⟨front, hfront⟩ : ['/'] <:+ dir.text.toList := by
      simpa using String.Slice.endsWith_string_iff.mp hends
    have hdir' : dir.text = String.ofList front ++ "/" := String.ext (by simpa using hfront.symm)
    exact ⟨.ofList front, by simp [join, habsolute, hends, ← hdir'], .inl hdir'⟩
  | false => exact ⟨dir.text, by simp [join, habsolute, hends, hdir], .inr rfl⟩

theorem Component.ofSegment_of_isPlain (hname : IsPlain name) : ofSegment name = .name name := by
  unfold ofSegment
  split
  · exact absurd rfl hname.ne_current
  · exact absurd rfl hname.ne_parent
  · rfl

theorem components_join (hdir : dir.text ≠ "") (hname : IsPlain name) :
    (dir.join ⟨name⟩).components = dir.components ++ [.name name] := by
  obtain ⟨front, hjoin, htext⟩ := exists_text_join hdir hname
  obtain ⟨first, rest, hfront⟩ :=
    List.exists_cons_of_ne_nil (List.splitOn_ne_nil '/' front.toList)
  have hwhole : ['/'].intercalate (front.toList.splitOn '/') = front.toList :=
    List.intercalate_splitOn _
  have hsegments : (dir.join ⟨name⟩).segments =
      String.ofList first :: (rest.map String.ofList ++ [name]) := by
    simp [segments, hjoin, List.splitOn_append_cons_self, List.splitOn_eq_singleton hname.noSlash,
      hfront]
  have hlast : Component.ofSegment name = .name name := Component.ofSegment_of_isPlain hname
  rcases htext with htext | htext
  · have hdirSegments : dir.segments = String.ofList first :: (rest.map String.ofList ++ [""]) := by
      simp [segments, htext, List.splitOn_append_cons_self, hfront]
    simp only [components, hsegments, hdirSegments]
    split <;> simp [hname.ne_empty, hname.ne_current, hlast]
  · have hdirSegments : dir.segments = String.ofList first :: rest.map String.ofList := by
      simp [segments, htext, hfront]
    simp only [components, hsegments, hdirSegments]
    split
    case isTrue hfirst =>
      have hrest : rest ≠ [] := by
        rintro rfl
        rw [hfront] at hwhole
        simp_all
      simp [hname.ne_empty, hname.ne_current, hlast, hrest]
    case isFalse => simp [hname.ne_empty, hname.ne_current, hlast]

theorem lt_utf8ByteSize_join (hdir : dir.text ≠ "") (hname : IsPlain name) :
    dir.text.utf8ByteSize < (dir.join ⟨name⟩).text.utf8ByteSize := by
  obtain ⟨front, hjoin, htext⟩ := exists_text_join hdir hname
  have hsize : name.utf8ByteSize ≠ 0 := by simpa using hname.ne_empty
  have hslash : "/".utf8ByteSize = 1 := rfl
  rw [hjoin, String.utf8ByteSize_append, String.utf8ByteSize_append]
  rcases htext with htext | htext
  · rw [htext, String.utf8ByteSize_append]
    omega
  · rw [htext]
    omega

end Path

namespace Entry

mutual

def isPlain : Entry → Bool
  | .file _ => true
  | .dir entries => isPlainIn entries

def isPlainIn : List (String × Entry) → Bool
  | [] => true
  | (name, e) :: rest =>
    decide (Path.IsPlain name) && !(rest.map (·.1)).contains name && e.isPlain && isPlainIn rest

end

theorem isPlainIn_cons {name : String} {e : Entry} {rest : List (String × Entry)} :
    isPlainIn ((name, e) :: rest) = true ↔
      (Path.IsPlain name ∧ name ∉ rest.map (·.1)) ∧ e.isPlain = true ∧ isPlainIn rest = true := by
  simp [isPlainIn, and_assoc]

theorem plain_of_isPlainIn {entries : List (String × Entry)} (h : isPlainIn entries = true) :
    (∀ entry ∈ entries, Path.IsPlain entry.1 ∧ entry.2.isPlain = true) ∧
      (entries.map (·.1)).Nodup := by
  induction entries with
  | nil => simp
  | cons entry rest ih =>
    obtain ⟨name, e⟩ := entry
    obtain ⟨⟨hname, hfresh⟩, he, hrest⟩ := isPlainIn_cons.mp h
    obtain ⟨hall, hnodup⟩ := ih hrest
    exact ⟨List.forall_mem_cons.mpr ⟨⟨hname, he⟩, hall⟩, List.nodup_cons.mpr ⟨hfresh, hnodup⟩⟩

theorem isPlain_of_get? {e found : Entry} {place : List String} (he : e.isPlain = true)
    (h : e.get? place = some found) : found.isPlain = true := by
  induction place generalizing e with
  | nil =>
    cases h
    exact he
  | cons name place ih =>
    cases e with
    | file content => cases h
    | dir entries =>
      obtain ⟨next, hnext, hfound⟩ := Option.bind_eq_some_iff.mp h
      obtain ⟨before, after, hentries, -⟩ := List.lookup_eq_some_iff.mp hnext
      have hmem : (name, next) ∈ entries := by simp [hentries]
      exact ih ((plain_of_isPlainIn he).1 _ hmem).2 hfound

end Entry

namespace Files

variable {v : Volume}

theorem run_bind_of_looks {x : ExceptT Fault (StateM Volume) α} (hx : Looks x.run)
    (k : α → ExceptT Fault (StateM Volume) β) :
    ((x >>= k).run v).1 = (x.run v).1 >>= fun a => ((k a).run v).1 := by
  have hrun : x.run v = ((x.run v).1, v) := Prod.ext rfl (hx v)
  rw [ExceptT.run_bind, Volume.bind_eq hrun]
  cases (x.run v).1 <;> rfl

theorem run_mapM_of_looks {f : α → ExceptT Fault (StateM Volume) β} (hf : ∀ a, Looks (f a).run)
    (l : List α) : ((l.mapM f).run v).1 = l.mapM fun a => ((f a).run v).1 := by
  induction l with
  | nil => rfl
  | cons a rest ih =>
    rw [List.mapM_cons, List.mapM_cons, run_bind_of_looks (hf a), ← ih]
    congr 1
    funext b
    rw [run_bind_of_looks (Looks.exceptMapM hf rest)]
    rfl

end Files

structure Stop where
  levels : List IgnoreLevel
  found : Found

namespace Volume

section

variable (v : Volume)

def level (dir : Path) (home : RuleHome) : IgnoreLevel :=
  ((Files.readLevel dir home : StateM Volume IgnoreLevel) v).1

def levelsAbove (dir : Path) : List IgnoreLevel :=
  ((Files.levelsAbove dir : StateM Volume (List IgnoreLevel)) v).1

def enter (s : Stop) (entry : String × EntryKind) : Stop where
  levels := v.level s.found.path (.walked s.found.path) :: s.levels
  found := Files.entryOf s.found entry

inductive Leads : Stop → Stop → Prop
  | entry {s : Stop} {entries : List (String × EntryKind)} {entry : String × EntryKind}
    (hdir : s.found.isDir = true) (hlist : v.list s.found.path = .ok entries)
    (hentry : entry ∈ entries)
    (hkept : IgnoreLevel.leavesOut (v.enter s entry).levels (v.enter s entry).found = false) :
    Leads s (v.enter s entry)

structure IsDump (t : Stop) : Prop where
  isDir : t.found.isDir = false
  json : t.found.path.extension? = some "json"
  file : v.kind? t.found.path = some .file

inductive Bars : Stop → Fault → Prop
  | intro {t : Stop} {cause : IoFault} (hdir : t.found.isDir = true)
    (hlist : v.list t.found.path = .error cause) : Bars t (.walk t.found.path cause)

inductive Explores (stops : Stop → Prop) : Except Fault (List Path) → Prop
  | files {files : List Path}
    (hmem : ∀ f, f ∈ files ↔ ∃ t, stops t ∧ v.IsDump t ∧ t.found.path = f)
    (hopen : ∀ t f, stops t → ¬ v.Bars t f) (hnodup : (files.map Path.components).Nodup) :
    Explores stops (.ok files)
  | fault {t : Stop} {f : Fault} (ht : stops t) (hf : v.Bars t f) : Explores stops (.error f)

end

variable {v : Volume}

namespace Explores

variable {stops : Stop → Prop}

theorem none (h : ∀ t, ¬ stops t) : v.Explores stops (.ok []) :=
  .files (by simp [h]) (fun t _ ht => absurd ht (h t)) .nil

theorem congr {stops' : Stop → Prop} {result : Except Fault (List Path)}
    (h : v.Explores stops result) (hiff : ∀ t, stops t ↔ stops' t) : v.Explores stops' result := by
  have heq : stops = stops' := funext fun t => propext (hiff t)
  exact heq ▸ h

theorem one {t : Stop} (ht : v.IsDump t) : v.Explores (· = t) (.ok [t.found.path]) := by
  refine .files ?_ ?_ (List.nodup_singleton _)
  · intro f
    constructor
    · intro hf
      exact ⟨t, rfl, ht, (List.mem_singleton.mp hf).symm⟩
    · rintro ⟨_, rfl, -, rfl⟩
      exact List.mem_singleton_self _
  · rintro _ f rfl ⟨hdir, -⟩
    exact Bool.false_ne_true (ht.isDir.symm.trans hdir)

theorem pass {result : Except Fault (List Path)} (h : v.Explores stops result) (s : Stop)
    (hdump : ¬ v.IsDump s) (hopen : ∀ f, ¬ v.Bars s f) :
    v.Explores (fun t => t = s ∨ stops t) result := by
  cases h with
  | files hmem hopen' hnodup =>
    refine .files ?_ ?_ hnodup
    · intro f
      rw [hmem]
      constructor
      · rintro ⟨t, ht, hrest⟩
        exact ⟨t, .inr ht, hrest⟩
      · rintro ⟨t, rfl | ht, hrest⟩
        · exact absurd hrest.1 hdump
        · exact ⟨t, ht, hrest⟩
    · rintro t f (rfl | ht)
      · exact hopen f
      · exact hopen' t f ht
  | fault ht hf => exact .fault (.inr ht) hf

theorem mapM {g : α → Except Fault (List Path)} {part : α → Stop → Prop} {l : List α}
    (h : ∀ a ∈ l, v.Explores (part a) (g a))
    (hapart : l.Pairwise fun a b => ∀ t t', part a t → part b t' →
      t.found.path.components ≠ t'.found.path.components) :
    v.Explores (fun t => ∃ a ∈ l, part a t) (List.flatten <$> l.mapM g) := by
  induction l with
  | nil => exact .none (by simp)
  | cons a rest ih =>
    obtain ⟨ha, hrest⟩ := List.forall_mem_cons.mp h
    obtain ⟨hapart, hapart'⟩ := List.pairwise_cons.mp hapart
    have hrest := ih hrest hapart'
    rw [List.mapM_cons]
    generalize g a = first at ha
    cases ha with
    | fault ht hf => exact .fault ⟨a, List.mem_cons_self, ht⟩ hf
    | @files files hmem hopen hnodup =>
      generalize rest.mapM g = others at hrest
      cases others with
      | error f =>
        have hrest : v.Explores (fun t => ∃ a ∈ rest, part a t) (.error f) := hrest
        cases hrest with
        | fault ht hf =>
          obtain ⟨b, hb, ht⟩ := ht
          exact .fault ⟨b, List.mem_cons_of_mem a hb, ht⟩ hf
      | ok more =>
        have hrest : v.Explores (fun t => ∃ a ∈ rest, part a t) (.ok more.flatten) := hrest
        cases hrest with
        | files hmem' hopen' hnodup' =>
          have hfiles : v.Explores (fun t => ∃ b ∈ a :: rest, part b t)
              (.ok (files ++ more.flatten)) := by
            refine .files ?_ ?_ ?_
            · intro f
              rw [List.mem_append, hmem, hmem']
              simp [or_and_right, exists_or]
            · intro t f ht
              simp only [List.mem_cons, exists_eq_or_imp] at ht
              rcases ht with ht | ht
              · exact hopen t f ht
              · exact hopen' t f ht
            · rw [List.map_append]
              refine hnodup.append hnodup' ?_
              intro c hc hc'
              obtain ⟨p, hp, rfl⟩ := List.mem_map.mp hc
              obtain ⟨q, hq, heq⟩ := List.mem_map.mp hc'
              obtain ⟨t, ht, -, rfl⟩ := (hmem p).mp hp
              obtain ⟨t', ⟨b, hb, ht'⟩, -, rfl⟩ := (hmem' q).mp hq
              exact hapart b hb t t' ht ht' heq.symm
          exact hfiles

theorem sort {files : List Path} (h : v.Explores stops (.ok files)) :
    v.Explores stops (.ok (files.mergeSort Path.le)) ∧
      (files.mergeSort Path.le).Pairwise fun f g => g.le f = false := by
  cases h with
  | files hmem hopen hnodup =>
    have hperm := (List.mergeSort_perm files Path.le).map Path.components
    refine ⟨.files ?_ hopen (hperm.nodup_iff.mpr hnodup), Path.pairwise_mergeSort_le hnodup⟩
    intro f
    rw [List.mem_mergeSort, hmem]

end Explores

theorem text_of_check {p : Path} (h : p.check = .ok ()) :
    p.text ≠ "" ∧ p.text.utf8ByteSize < Path.maxBytes := by
  unfold Path.check at h
  split at h
  · cases h
  · split at h
    · cases h
    · split at h
      · cases h
      · exact ⟨‹_›, by omega⟩

theorem of_at? {p : Path} {e : Entry} (h : v.at? p = .ok e) :
    p.check = .ok () ∧ ∃ place, v.root.get? place = some e := by
  unfold at? at h
  cases hplace : v.locate p with
  | error cause => simp [hplace, bind, Except.bind] at h
  | ok place =>
    constructor
    · unfold locate at hplace
      cases hcheck : p.check with
      | ok => rfl
      | error cause => simp [hcheck, bind, Except.bind] at hplace
    · refine ⟨place, ?_⟩
      cases hget : v.root.get? place <;>
        simp_all [bind, Except.bind, pure, Except.pure, throw, throwThe, MonadExceptOf.throw]

theorem exists_at?_of_kind? {p : Path} {kind : EntryKind} (h : v.kind? p = some kind) :
    ∃ e, v.at? p = .ok e := by
  unfold kind? at h
  cases hat : v.at? p with
  | ok e => exact ⟨e, rfl⟩
  | error cause => simp [hat] at h

theorem of_list {p : Path} {entries : List (String × EntryKind)} (h : v.list p = .ok entries) :
    ∃ inside, v.at? p = .ok (.dir inside) ∧
      entries = inside.map fun entry => (entry.1, entry.2.kind) := by
  unfold list at h
  cases hat : v.at? p with
  | error cause => simp [hat, bind, Except.bind] at h
  | ok e =>
    cases e with
    | file content =>
      simp [hat, bind, Except.bind, throw, throwThe, MonadExceptOf.throw] at h
    | dir inside =>
      rw [hat] at h
      cases h
      exact ⟨inside, rfl, rfl⟩

theorem plain_of_list (hv : v.root.isPlain = true) {p : Path} {entries : List (String × EntryKind)}
    (h : v.list p = .ok entries) :
    (∀ entry ∈ entries, Path.IsPlain entry.1) ∧ entries.Pairwise fun e e' => e.1 ≠ e'.1 := by
  obtain ⟨inside, hat, rfl⟩ := of_list h
  obtain ⟨-, place, hplace⟩ := of_at? hat
  have hinside : Entry.isPlainIn inside = true := Entry.isPlain_of_get? hv hplace
  obtain ⟨hplain, hnodup⟩ := Entry.plain_of_isPlainIn hinside
  constructor
  · intro entry hentry
    obtain ⟨e, he, rfl⟩ := List.mem_map.mp hentry
    exact (hplain e he).1
  · rw [List.pairwise_map]
    exact List.pairwise_map.mp hnodup

variable (v) in
def dumpsFrom (room : Nat) (s : Stop) : Except Fault (List Path) :=
  ((Files.dumpsIn room s.levels s.found : ExceptT Fault (StateM Volume) (List Path)).run v).1

variable (v) in
def dumpsAt (room : Nat) (t : Stop) : Except Fault (List Path) :=
  ((Files.dumpsAt (Files.dumpsIn room t.levels) t.levels t.found :
    ExceptT Fault (StateM Volume) (List Path)).run v).1

variable {room : Nat} {s t : Stop}

theorem dumpsFrom_of_error {cause : IoFault} (h : v.list s.found.path = .error cause) :
    v.dumpsFrom (room + 1) s = .error (.walk s.found.path cause) := by
  unfold dumpsFrom Files.dumpsIn
  have hlist : ((liftM (Files.list s.found.path : StateM Volume _) :
      ExceptT Fault (StateM Volume) _).run v).1 = .ok (v.list s.found.path) := rfl
  rw [Files.run_bind_of_looks (.lift (Files.looks_list _)), hlist, h]
  rfl

theorem dumpsFrom_of_ok {entries : List (String × EntryKind)}
    (h : v.list s.found.path = .ok entries) :
    v.dumpsFrom (room + 1) s =
      List.flatten <$> entries.mapM fun entry => v.dumpsAt room (v.enter s entry) := by
  have hlooks : ∀ levels entry, Files.Looks
      (Files.dumpsAt (Files.dumpsIn room levels) levels (Files.entryOf s.found entry)).run :=
    fun levels entry => Files.looks_dumpsAt (Files.looks_dumpsIn room levels) _ _
  unfold dumpsFrom Files.dumpsIn
  have hlist : ((liftM (Files.list s.found.path : StateM Volume _) :
      ExceptT Fault (StateM Volume) _).run v).1 = .ok (v.list s.found.path) := rfl
  rw [Files.run_bind_of_looks (.lift (Files.looks_list _)), hlist, h]
  refine (Files.run_bind_of_looks (.lift (Files.looks_readLevel _ _)) _).trans ?_
  refine (Files.run_bind_of_looks (.exceptMapM (hlooks _) _) _).trans ?_
  rw [Files.run_mapM_of_looks (hlooks _)]
  exact bind_pure_comp ..

theorem dumpsAt_of_not_isDir (hkept : IgnoreLevel.leavesOut t.levels t.found = false)
    (hdir : t.found.isDir = false) :
    v.dumpsAt room t =
      if Files.isDump t.found.path && v.kind? t.found.path == some .file then .ok [t.found.path]
      else .ok [] := by
  unfold dumpsAt Files.dumpsAt
  rw [hkept, hdir, if_neg Bool.false_ne_true, if_neg Bool.false_ne_true,
    Files.run_bind_of_looks (.lift (Files.looks_kind? _))]
  have hkind : ((liftM (Files.kind? t.found.path : StateM Volume _) :
      ExceptT Fault (StateM Volume) _).run v).1 = .ok (v.kind? t.found.path) := rfl
  rw [hkind]
  dsimp only [bind, Except.bind]
  split <;> rfl

open Relation

theorem explores_of_not_isDir (hkept : IgnoreLevel.leavesOut t.levels t.found = false)
    (hdir : t.found.isDir = false) : v.Explores (· = t) (v.dumpsAt room t) := by
  rw [dumpsAt_of_not_isDir hkept hdir]
  have hdump : v.IsDump t ↔
      (Files.isDump t.found.path && v.kind? t.found.path == some .file) = true := by
    simp only [Files.isDump, Bool.and_eq_true, beq_iff_eq]
    exact ⟨fun h => ⟨h.json, h.file⟩, fun h => ⟨hdir, h.1, h.2⟩⟩
  split
  case isTrue h => exact .one (hdump.mpr h)
  case isFalse h =>
    have hnone : v.Explores (fun t' => t' = t ∨ False) (.ok []) := by
      refine (Explores.none fun _ => id).pass t (mt hdump.mp h) ?_
      rintro f ⟨hdir', -⟩
      exact Bool.false_ne_true (hdir.symm.trans hdir')
    exact hnone.congr (by simp)

theorem explores_dumpsAt (h : t.found.isDir = true →
      v.Explores (ReflTransGen v.Leads t) (v.dumpsFrom room t)) :
    v.Explores
      (fun t' => IgnoreLevel.leavesOut t.levels t.found = false ∧ ReflTransGen v.Leads t t')
      (v.dumpsAt room t) := by
  cases hkept : IgnoreLevel.leavesOut t.levels t.found with
  | true =>
    unfold dumpsAt Files.dumpsAt
    rw [hkept]
    exact .none (by simp)
  | false =>
    cases hdir : t.found.isDir with
    | true =>
      have hat : v.dumpsAt room t = v.dumpsFrom room t := by
        unfold dumpsAt Files.dumpsAt
        rw [hkept, hdir]
        rfl
      rw [hat]
      exact (h hdir).congr (by simp)
    | false =>
      refine (explores_of_not_isDir hkept hdir).congr fun t' => ?_
      constructor
      · rintro rfl
        exact ⟨rfl, .refl⟩
      · rintro ⟨-, hreach⟩
        rcases hreach.cases_head with rfl | ⟨next, ⟨hdir', -, -, -⟩, -⟩
        · rfl
        · exact absurd (hdir.symm.trans hdir') Bool.false_ne_true

theorem components_enter (hv : v.root.isPlain = true) {entries : List (String × EntryKind)}
    (hlist : v.list s.found.path = .ok entries) {entry : String × EntryKind}
    (hentry : entry ∈ entries) :
    (v.enter s entry).found.path.components = s.found.path.components ++ [.name entry.1] := by
  obtain ⟨inside, hat, -⟩ := of_list hlist
  have hcheck := text_of_check (of_at? hat).1
  exact Path.components_join hcheck.1 ((plain_of_list hv hlist).1 entry hentry)

theorem prefix_of_reaches (hv : v.root.isPlain = true) (h : ReflTransGen v.Leads s t) :
    s.found.path.components <+: t.found.path.components := by
  induction h with
  | refl => exact List.prefix_rfl
  | tail _ hleads ih =>
    obtain ⟨-, hlist, hentry, -⟩ := hleads
    rw [components_enter hv hlist hentry]
    exact ih.trans (List.prefix_append _ _)

theorem name_eq_of_reaches (hv : v.root.isPlain = true) {entries : List (String × EntryKind)}
    (hlist : v.list s.found.path = .ok entries) {a b : String × EntryKind} (ha : a ∈ entries)
    (hb : b ∈ entries) {t t' : Stop} (ht : ReflTransGen v.Leads (v.enter s a) t)
    (ht' : ReflTransGen v.Leads (v.enter s b) t')
    (hsame : t.found.path.components = t'.found.path.components) : a.1 = b.1 := by
  have hfront := prefix_of_reaches hv ht
  have hfront' := prefix_of_reaches hv ht'
  rw [components_enter hv hlist ha] at hfront
  rw [components_enter hv hlist hb, ← hsame] at hfront'
  have heq := (List.prefix_of_prefix_length_le hfront hfront' (by simp)).eq_of_length (by simp)
  simpa using heq

/-- There is room for all directories, for each is found under a longer path than the last. -/
theorem explores_dumpsFrom (hv : v.root.isPlain = true) (hroom : 0 < room)
    (hbytes : Path.maxBytes < room + s.found.path.text.utf8ByteSize) (hdir : s.found.isDir = true) :
    v.Explores (ReflTransGen v.Leads s) (v.dumpsFrom room s) := by
  induction room generalizing s with
  | zero => omega
  | succ room ih =>
    cases hlist : v.list s.found.path with
    | error cause =>
      rw [dumpsFrom_of_error hlist]
      exact .fault .refl (.intro hdir hlist)
    | ok entries =>
      obtain ⟨inside, hat, -⟩ := of_list hlist
      obtain ⟨htext, hsize⟩ := text_of_check (of_at? hat).1
      obtain ⟨hplain, hnames⟩ := plain_of_list hv hlist
      have hparts : v.Explores
          (fun t => ∃ entry ∈ entries, IgnoreLevel.leavesOut (v.enter s entry).levels
            (v.enter s entry).found = false ∧ ReflTransGen v.Leads (v.enter s entry) t)
          (v.dumpsFrom (room + 1) s) := by
        rw [dumpsFrom_of_ok hlist]
        refine .mapM ?_ ?_
        · intro entry hentry
          have hlonger := Path.lt_utf8ByteSize_join htext (hplain entry hentry)
          refine explores_dumpsAt fun hdir => ih (by omega) ?_ hdir
          show Path.maxBytes < room + (s.found.path.join ⟨entry.1⟩).text.utf8ByteSize
          omega
        · refine hnames.imp_of_mem ?_
          rintro a b ha hb hne t t' ⟨-, ht⟩ ⟨-, ht'⟩ hsame
          exact hne (name_eq_of_reaches hv hlist ha hb ht ht' hsame)
      refine (hparts.pass s ?_ ?_).congr fun t => ?_
      · rintro ⟨hdir', -, -⟩
        exact Bool.false_ne_true (hdir'.symm.trans hdir)
      · rintro f ⟨-, hlist'⟩
        cases hlist.symm.trans hlist'
      · rw [ReflTransGen.cases_head_iff]
        constructor
        · rintro (rfl | ⟨entry, hentry, hkept, hreach⟩)
          · exact .inl rfl
          · exact .inr ⟨_, .entry hdir hlist hentry hkept, hreach⟩
        · rintro (rfl | ⟨next, ⟨-, hlist', hentry, hkept⟩, hreach⟩)
          · exact .inl rfl
          · cases hlist.symm.trans hlist'
            exact .inr ⟨_, hentry, hkept, hreach⟩

section

variable (v : Volume)

def start (root : Path) : Stop where
  levels := v.levelsAbove root
  found := { path := root, names := [], isDir := true }

/-- A walk that starts in a directory comes here. A hyphen stands for what is typed in, where there
is nothing to walk through. -/
def Reaches (root : Path) (t : Stop) : Prop :=
  root.components ≠ [.name "-"] ∧ ReflTransGen v.Leads (v.start root) t

/-- The files that a path stands for: the dumps that a walk finds below a directory, in the order of
their paths, or whatever is there. -/
inductive StandsFor : Path → Except Fault (List Path) → Prop
  | itself {p : Path} (hp : v.kind? p ≠ some .directory) : StandsFor p (.ok [p])
  | dumps {p : Path} {files : List Path} (hp : v.kind? p = some .directory)
    (hfiles : v.Explores (v.Reaches p) (.ok files))
    (hsorted : files.Pairwise fun f g => g.le f = false) : StandsFor p (.ok files)
  | fault {p : Path} {f : Fault} (hp : v.kind? p = some .directory)
    (hf : v.Explores (v.Reaches p) (.error f)) : StandsFor p (.error f)

end

theorem StandsFor.unique {p : Path} {files : List Path} {result : Except Fault (List Path)}
    (h : v.StandsFor p (.ok files)) (h' : v.StandsFor p result) : result = .ok files := by
  cases h with
  | itself hp =>
    cases h' with
    | itself => rfl
    | dumps hp' => exact absurd hp' hp
    | fault hp' => exact absurd hp' hp
  | dumps hp hfiles hsorted =>
    obtain ⟨hmem, hopen, hnodup⟩ := hfiles
    cases h' with
    | itself hp' => exact absurd hp hp'
    | fault _ hf =>
      cases hf with
      | fault ht hbars => exact absurd hbars (hopen _ _ ht)
    | @dumps files' _ hfiles' hsorted' =>
      obtain ⟨hmem', -, hnodup'⟩ := hfiles'
      have hperm : files'.Perm files :=
        (List.perm_ext_iff_of_nodup hnodup'.of_map hnodup.of_map).mpr fun f =>
          (hmem' f).trans (hmem f).symm
      rw [hperm.eq_of_pairwise ?_ hsorted' hsorted]
      intro f g _ _ hfg hgf
      rcases Path.leComponents_total f.components g.components with h | h
      · exact absurd (hgf.symm.trans h) Bool.false_ne_true
      · exact absurd (hfg.symm.trans h) Bool.false_ne_true

theorem dumpsBelow_eq {root : Path} (hdir : v.kind? root = some .directory)
    (hroot : root.components ≠ [.name "-"]) :
    ((Files.dumpsBelow root : ExceptT Fault (StateM Volume) (List Path)).run v).1 =
      (·.mergeSort Path.le) <$> v.dumpsFrom Path.maxBytes (v.start root) := by
  have htyped : Files.isTypedIn root = false := by simpa [Files.isTypedIn] using hroot
  have hkind : ((liftM (Files.kind? root : StateM Volume _) :
      ExceptT Fault (StateM Volume) _).run v).1 = .ok (v.kind? root) := rfl
  unfold Files.dumpsBelow
  rw [htyped, if_neg Bool.false_ne_true, Files.run_bind_of_looks (.lift (Files.looks_kind? _)),
    hkind, hdir]
  refine (Files.run_bind_of_looks (.lift (Files.looks_levelsAbove _)) _).trans ?_
  refine (Files.run_bind_of_looks (Files.looks_dumpsIn _ _ _) _).trans ?_
  exact bind_pure_comp ..

theorem standsFor_dumpPaths (hv : v.root.isPlain = true) (p : Path) :
    v.StandsFor p (v.dumpPaths p) := by
  unfold dumpPaths
  by_cases hdir : v.kind? p = some .directory
  · rw [if_pos hdir]
    by_cases hp : p.components = [.name "-"]
    · have hnone : ((Files.dumpsBelow p : ExceptT Fault (StateM Volume) (List Path)).run v).1 =
          .ok [] := by
        unfold Files.dumpsBelow
        rw [if_pos (by simp [Files.isTypedIn, hp])]
        rfl
      rw [hnone]
      exact .dumps hdir (.none fun t ht => ht.1 hp) .nil
    · have htext : p.text.utf8ByteSize ≠ 0 := by
        obtain ⟨e, hat⟩ := exists_at?_of_kind? hdir
        simpa using (text_of_check (of_at? hat).1).1
      have hfound : v.Explores (ReflTransGen v.Leads (v.start p))
          (v.dumpsFrom Path.maxBytes (v.start p)) := by
        refine explores_dumpsFrom hv (by decide) ?_ rfl
        show Path.maxBytes < Path.maxBytes + p.text.utf8ByteSize
        omega
      have hfound : v.Explores (v.Reaches p) (v.dumpsFrom Path.maxBytes (v.start p)) :=
        hfound.congr fun t => (and_iff_right hp).symm
      rw [dumpsBelow_eq hdir hp]
      generalize v.dumpsFrom Path.maxBytes _ = result at hfound
      cases result with
      | error f => exact .fault hdir hfound
      | ok files => exact .dumps hdir hfound.sort.1 hfound.sort.2
  · rw [if_neg hdir]
    exact .itself hdir

end Volume

end Lifeline
