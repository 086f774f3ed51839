import Mathlib
import Lifeline.Proofs.Merging
import Lifeline.Proofs.Walking

/-! Loading dumps on one shelf. Texts that were seen before are passed over, which makes no
difference to the program: what they hold was merged before. But a text counts as seen as soon as it
was looked at, even if it turned out to hold no unit; so a broken text is reported once, and then
passed over. -/

namespace Lifeline

namespace Dump

def decode (d : Dump) : Except Fault TranslationUnit :=
  if d.isOversized then .error (.oversized d.path) else d.unit

theorem unit_of_text_eq {d e : Dump} {u : TranslationUnit} (h : d.text = e.text)
    (hu : d.unit = .ok u) : e.unit = .ok u := by
  unfold unit at hu ⊢
  rw [← h]
  cases hj : (Json.parse? maxNesting d.text).bind TranslationUnit.ofJson? with
  | none => simp [hj] at hu
  | some u' => simpa [hj] using hu

end Dump

/-- Among these dumps different texts have different digests. -/
def Collisionless (dumps : Dump → Prop) : Prop :=
  ∀ d e, dumps d → dumps e → d.digest = e.digest → d.text = e.text

namespace Shelf

variable {s : Shelf} {d : Dump}

theorem load_of_oversized (h : d.isOversized = true) (s : Shelf) :
    s.load d = (.error (.oversized d.path), s) := by
  rw [load, if_pos h]

theorem load_of_seen (hsize : d.isOversized = false) (h : d.digest ∈ s.seen) :
    s.load d = (.ok none, s) := by
  simp [load, hsize, h]

theorem load_of_unseen (hsize : d.isOversized = false) (h : d.digest ∉ s.seen) :
    s.load d = (d.unit.map some, { seen := d.digest :: s.seen }) := by
  simp [load, hsize, h]

theorem loadAll_cons (s : Shelf) (source : Source) (rest : List Source) :
    (s.loadAll (source :: rest)).1 = do
      let unit ← (s.loadSource source).1
      let units ← ((s.loadSource source).2.loadAll rest).1
      return unit.toList ++ units := by
  rw [loadAll]
  rcases s.loadSource source with ⟨_ | unit, s'⟩
  · rfl
  · rcases hrest : s'.loadAll rest with ⟨_ | units, s''⟩ <;> simp [hrest, bind,
      Except.bind, pure, Except.pure]

def Holds (s : Shelf) (ds : List Decl) (sources : List Source) : Prop :=
  ∀ d, .ok d ∈ sources → d.digest ∈ s.seen → ∃ u, d.unit = .ok u ∧ u.decls ⊆ ds

theorem Holds.add {ds : List Decl} {rest : List Source} {u : TranslationUnit}
    (h : s.Holds ds (.ok d :: rest)) (hdigest : Collisionless (.ok · ∈ .ok d :: rest))
    (hu : d.unit = .ok u) :
    Holds { seen := d.digest :: s.seen } (ds ++ u.decls) rest := by
  intro e he hseen
  have he' := List.mem_cons_of_mem (.ok d : Source) he
  rcases List.mem_cons.mp hseen with hsame | hseen
  · exact ⟨u, Dump.unit_of_text_eq (hdigest d e List.mem_cons_self he' hsame.symm) hu,
      List.subset_append_right _ _⟩
  · obtain ⟨u', hu', hsub⟩ := h e he' hseen
    exact ⟨u', hu', List.subset_append_of_subset_left _ hsub⟩

def merged (ds : List Decl) (units : List TranslationUnit) : Program :=
  .ofDecls (ds ++ units.flatMap (·.decls))

theorem merged_cons (ds : List Decl) (u : TranslationUnit) (units : List TranslationUnit) :
    merged ds (u :: units) = merged (ds ++ u.decls) units := by
  simp only [merged, List.flatMap_cons, List.append_assoc]

theorem merged_append_of_subset {ds more : List Decl} (h : more ⊆ ds) :
    merged (ds ++ more) = merged ds := by
  funext units
  simp only [merged, Program.ofDecls_append, Program.ofDecls_append_of_subset h]

theorem map_merged_cons (ds : List Decl) (u : TranslationUnit)
    (x : Except Fault (List TranslationUnit)) :
    merged ds <$> (do let units ← x; return u :: units) = merged (ds ++ u.decls) <$> x := by
  rw [bind_pure_comp, Functor.map_map]
  simp only [merged_cons]

theorem loadAll_merged {ds : List Decl} {sources : List Source} (hholds : s.Holds ds sources)
    (hdigest : Collisionless (.ok · ∈ sources)) :
    merged ds <$> (s.loadAll sources).1 = merged ds <$> sources.mapM (· >>= Dump.decode) := by
  induction sources generalizing s ds with
  | nil => rfl
  | cons source rest ih =>
    have hdigest' : Collisionless (.ok · ∈ rest) :=
      fun d e hd he => hdigest d e (List.mem_cons_of_mem _ hd) (List.mem_cons_of_mem _ he)
    rw [loadAll_cons, List.mapM_cons]
    cases source with
    | error f => rfl
    | ok d =>
      have hdecode : ((.ok d : Source) >>= Dump.decode) = d.decode := rfl
      rw [hdecode, Dump.decode, loadSource]
      cases hsize : d.isOversized with
      | true =>
        rw [load_of_oversized hsize]
        rfl
      | false =>
        by_cases hseen : d.digest ∈ s.seen
        · obtain ⟨u, hu, hsub⟩ := hholds d List.mem_cons_self hseen
          have hrest := ih (fun d hd => hholds d (List.mem_cons_of_mem _ hd)) hdigest'
          rw [load_of_seen hsize hseen, hu]
          calc merged ds <$> (do let units ← (s.loadAll rest).1; return [] ++ units)
            _ = merged ds <$> (s.loadAll rest).1 := by simp only [List.nil_append, bind_pure]
            _ = merged ds <$> rest.mapM (· >>= Dump.decode) := hrest
            _ = merged (ds ++ u.decls) <$> rest.mapM (· >>= Dump.decode) := by
              rw [merged_append_of_subset hsub]
            _ = merged ds <$> (do let units ← rest.mapM (· >>= Dump.decode); return u :: units) :=
              (map_merged_cons ds u _).symm
        · rw [load_of_unseen hsize hseen]
          cases hu : d.unit with
          | error f => rfl
          | ok u =>
            have hrest := ih (hholds.add hdigest hu) hdigest'
            exact (map_merged_cons ds u _).trans (hrest.trans (map_merged_cons ds u _).symm)

theorem loadAll_empty {sources : List Source} (hdigest : Collisionless (.ok · ∈ sources)) :
    Program.ofUnits <$> (loadAll {} sources).1 =
      Program.ofUnits <$> sources.mapM (· >>= Dump.decode) := by
  have hmerged : Program.ofUnits = merged [] := rfl
  rw [hmerged]
  exact loadAll_merged (fun _ _ hseen => absurd hseen List.not_mem_nil) hdigest

end Shelf

namespace Volume

section

variable (v : Volume)

def unitsIn (files : List Path) : Except Fault (List TranslationUnit) :=
  files.mapM fun file => v.source file >>= Dump.decode

def Holds (paths : List Path) (d : Dump) : Prop :=
  ∃ p ∈ paths, ∃ files, v.StandsFor p (.ok files) ∧ ∃ file ∈ files, v.source file = .ok d

theorem mapM_sourcesAt (p : Path) :
    (v.sourcesAt p).mapM (· >>= Dump.decode) = v.dumpPaths p >>= v.unitsIn := by
  unfold sourcesAt unitsIn
  cases v.dumpPaths p with
  | ok files => exact List.mapM_map
  | error f => rfl

theorem mapM_sources (paths : List Path) :
    (paths.flatMap v.sourcesAt).mapM (· >>= Dump.decode) =
      List.flatten <$> (paths.map v.dumpPaths).mapM (· >>= v.unitsIn) := by
  induction paths with
  | nil => rfl
  | cons p rest ih =>
    rw [List.flatMap_cons, List.mapM_append, List.map_cons, List.mapM_cons, mapM_sourcesAt, ih]
    cases v.dumpPaths p >>= v.unitsIn with
    | error f => rfl
    | ok units => cases (rest.map v.dumpPaths).mapM (· >>= v.unitsIn) <;> rfl

end

variable {v : Volume}

theorem holds_of_mem_sourcesAt (hv : v.root.isPlain = true) {paths : List Path} {d : Dump}
    (h : .ok d ∈ paths.flatMap v.sourcesAt) : v.Holds paths d := by
  obtain ⟨p, hp, hd⟩ := List.mem_flatMap.mp h
  have hstands := standsFor_dumpPaths hv p
  unfold sourcesAt at hd
  cases hfiles : v.dumpPaths p with
  | error f => simp [hfiles] at hd
  | ok files =>
    rw [hfiles] at hd hstands
    obtain ⟨file, hfile, hsource⟩ := List.mem_map.mp hd
    exact ⟨p, hp, files, hstands, file, hfile, hsource⟩

end Volume

/-- Loading what is at some paths, files or directories, gives the program of all units in the files
they stand for, each taken as often as it is there, or else a fault that stands in the way; and the
files stay as they are. -/
theorem Shelf.loadPaths_transparent (v : Volume) (hv : v.root.isPlain = true) (paths : List Path)
    (hdigest : Collisionless (v.Holds paths)) :
    let loaded := (Shelf.loadPaths {} paths : StateM Volume (Except Fault Program × Shelf)) v
    loaded.2 = v ∧ ∃ found, List.Forall₂ v.StandsFor paths found ∧
      loaded.1.1 =
        (fun units => Program.ofUnits units.flatten) <$> found.mapM (· >>= v.unitsIn) := by
  intro loaded
  have hloaded : loaded =
      (((loadAll {} (paths.flatMap v.sourcesAt)).1.map Program.ofUnits,
        (loadAll {} (paths.flatMap v.sourcesAt)).2), v) :=
    Volume.bind_eq (Volume.sources_eq paths) _
  have hdigest : Collisionless (.ok · ∈ paths.flatMap v.sourcesAt) := fun d e hd he =>
    hdigest d e (Volume.holds_of_mem_sourcesAt hv hd) (Volume.holds_of_mem_sourcesAt hv he)
  rw [hloaded]
  refine ⟨rfl, paths.map v.dumpPaths, ?_, ?_⟩
  · rw [List.forall₂_map_right_iff, List.forall₂_same]
    exact fun p _ => Volume.standsFor_dumpPaths hv p
  · calc Program.ofUnits <$> (loadAll {} (paths.flatMap v.sourcesAt)).1
      _ = Program.ofUnits <$> (paths.flatMap v.sourcesAt).mapM (· >>= Dump.decode) :=
        loadAll_empty hdigest
      _ = Program.ofUnits <$> List.flatten <$>
          (paths.map v.dumpPaths).mapM (· >>= v.unitsIn) := by rw [Volume.mapM_sources]
      _ = (fun units => Program.ofUnits units.flatten) <$>
          (paths.map v.dumpPaths).mapM (· >>= v.unitsIn) := Functor.map_map _ _ _

namespace Entry

theorem mem_filesIn {name : String} {e : Entry} {entries : List (String × Entry)}
    {place : List String} {content : ByteArray} (he : (name, e) ∈ entries)
    (h : (place, content) ∈ e.files) : (name :: place, content) ∈ filesIn entries := by
  induction entries with
  | nil => cases he
  | cons entry rest ih =>
    obtain ⟨first, e'⟩ := entry
    rw [filesIn, List.mem_append]
    rcases List.mem_cons.mp he with heq | he
    · cases heq
      exact .inl (List.mem_map.mpr ⟨_, h, rfl⟩)
    · exact .inr (ih he)

theorem mem_files_of_get? {e : Entry} {place : List String} {content : ByteArray}
    (h : e.get? place = some (.file content)) : (place, content) ∈ e.files := by
  induction place generalizing e with
  | nil =>
    cases h
    exact List.mem_singleton_self _
  | cons name place ih =>
    cases e with
    | file content => cases h
    | dir entries =>
      obtain ⟨next, hnext, hfound⟩ := Option.bind_eq_some_iff.mp h
      obtain ⟨before, after, hentries, -⟩ := List.lookup_eq_some_iff.mp hnext
      exact mem_filesIn (by simp [hentries]) (ih hfound)

end Entry

theorem Volume.exists_place_of_source {v : Volume} {p : Path} {d : Dump}
    (h : v.source p = .ok d) : ∃ place, (place, d.text.toUTF8) ∈ v.root.files := by
  unfold source at h
  cases hread : v.read p with
  | error cause => simp [hread, Except.bind] at h
  | ok content =>
    obtain ⟨place, hplace⟩ : ∃ place, v.root.get? place = some (.file content) := by
      unfold read at hread
      cases hat : v.at? p with
      | error cause => simp [hat, bind, Except.bind] at hread
      | ok e =>
        cases e with
        | dir entries =>
          simp [hat, bind, Except.bind, throw, throwThe, MonadExceptOf.throw] at hread
        | file found =>
          rw [hat] at hread
          cases hread
          exact (of_at? hat).2
    refine ⟨place, ?_⟩
    have htext : d.text.toUTF8 = content := by
      by_cases hvalid : content.IsValidUTF8
      · rw [hread] at h
        simp [Except.bind, Files.decode, String.fromUTF8?, hvalid] at h
        subst h
        rfl
      · simp [hread, Except.bind, Files.decode, String.fromUTF8?, hvalid] at h
    rw [htext]
    exact Entry.mem_files_of_get? hplace

namespace Sample

def declaring : String :=
  "\x7b\"file\":\"\",\"decls\":[\x7b\"id\":1,\"kind\":\"method\"\x7d]\x7d"

def defining : String :=
  "[\"\",[\x7b\"id\":1,\"kind\":\"method\",\"body\":\x7b\"kind\":\"null\"\x7d\x7d]]"

def desk : Volume where
  root := .dir [("a", .file declaring.toUTF8),
    ("d", .dir [("z.json", .file defining.toUTF8), ("z.txt", .file defining.toUTF8),
      ("sub", .dir [("b.json", .file declaring.toUTF8)])])]

theorem isPlain_desk : desk.root.isPlain = true := by
  decide +kernel

theorem standsFor_desk : desk.StandsFor ⟨"d"⟩ (.ok [⟨"d/sub/b.json"⟩, ⟨"d/z.json"⟩]) := by
  have hkind : desk.kind? ⟨"d"⟩ = some .directory := by decide +kernel
  have hfound : (desk.dumpsFrom Path.maxBytes (desk.start ⟨"d"⟩)).toOption =
      some [⟨"d/z.json"⟩, ⟨"d/sub/b.json"⟩] := by decide +kernel
  have hle : Path.le ⟨"d/z.json"⟩ ⟨"d/sub/b.json"⟩ = false := by decide +kernel
  have hstands := Volume.standsFor_dumpPaths isPlain_desk ⟨"d"⟩
  rw [Volume.dumpPaths, if_pos hkind, Volume.dumpsBelow_eq hkind (by decide +kernel)] at hstands
  generalize desk.dumpsFrom Path.maxBytes (desk.start ⟨"d"⟩) = result at hfound hstands
  cases result with
  | error f => cases hfound
  | ok files =>
    cases hfound
    simpa [List.mergeSort, List.MergeSort.Internal.splitInTwo, hle] using hstands

theorem collisionless_desk (paths : List Path) : Collisionless (desk.Holds paths) := by
  have hdigest : Sha256.digest declaring.toUTF8 ≠ Sha256.digest defining.toUTF8 := by
    decide +kernel
  have htext (d : Dump) (hd : desk.Holds paths d) :
      d.text.toUTF8 = declaring.toUTF8 ∨ d.text.toUTF8 = defining.toUTF8 := by
    obtain ⟨p, -, files, -, file, -, hsource⟩ := hd
    obtain ⟨place, hplace⟩ := Volume.exists_place_of_source hsource
    have hcontents : ∀ file ∈ desk.root.files,
        file.2 = declaring.toUTF8 ∨ file.2 = defining.toUTF8 := by
      simp [desk, Entry.files, Entry.filesIn]
    exact hcontents _ hplace
  intro d e hd he heq
  unfold Dump.digest at heq
  apply String.toByteArray_inj.mp
  rcases htext d hd with hd | hd <;> rcases htext e he with he | he <;> rw [hd, he] at heq
  · exact hd.trans he.symm
  · exact absurd heq hdigest
  · exact absurd heq.symm hdigest
  · exact hd.trans he.symm

end Sample

/-- The declaration gives way to the definition, and its copy changes nothing. The dumps in the
directory are taken in order, which is not the order of the listing. -/
theorem Shelf.loadPaths_transparent_desk :
    Sample.desk.root.isPlain = true ∧ Collisionless (Sample.desk.Holds [⟨"a"⟩, ⟨"d"⟩]) ∧
      Sample.desk.StandsFor ⟨"d"⟩ (.ok [⟨"d/sub/b.json"⟩, ⟨"d/z.json"⟩]) ∧
      ((Shelf.loadPaths {} [⟨"a"⟩, ⟨"d"⟩] : StateM Volume (Except Fault Program × Shelf))
        Sample.desk).1.1 =
        (fun units => Program.ofUnits units.flatten) <$>
          [.ok [⟨"a"⟩], .ok [⟨"d/sub/b.json"⟩, ⟨"d/z.json"⟩]].mapM
            (· >>= Sample.desk.unitsIn) := by
  have hdesk := Sample.collisionless_desk [⟨"a"⟩, ⟨"d"⟩]
  have hfile : Sample.desk.StandsFor ⟨"a"⟩ (.ok [⟨"a"⟩]) := .itself (by decide +kernel)
  obtain ⟨-, found, hfound, hloaded⟩ := loadPaths_transparent _ Sample.isPlain_desk _ hdesk
  obtain ⟨first, rest, ha, hrest, rfl⟩ := List.forall₂_cons_left_iff.mp hfound
  obtain ⟨second, _, hd, hnil, rfl⟩ := List.forall₂_cons_left_iff.mp hrest
  obtain rfl := List.forall₂_nil_left_iff.mp hnil
  obtain rfl := hfile.unique ha
  obtain rfl := Sample.standsFor_desk.unique hd
  exact ⟨Sample.isPlain_desk, hdesk, Sample.standsFor_desk, hloaded⟩

/-! Texts that were refused. -/

theorem Dump.eq_unreadable_of_unit {d : Dump} {f : Fault} (h : d.unit = .error f) :
    f = .malformed (.unreadable d.path) := by
  unfold unit at h
  cases hj : (Json.parse? maxNesting d.text).bind TranslationUnit.ofJson? with
  | none => simpa [hj, eq_comm] using h
  | some u => simp [hj] at h

namespace Shelf

variable {s : Shelf} {past : List Source} {d : Dump} {digest : Sha256}

def IsNew (s : Shelf) (d : Dump) : Prop :=
  d.isOversized = false ∧ d.digest ∉ s.seen

theorem load_of_isNew (h : s.IsNew d) :
    s.load d = (d.unit.map some, { seen := d.digest :: s.seen }) :=
  load_of_unseen h.1 h.2

theorem load_eq_none_iff : (s.load d).1 = .ok none ↔ d.isOversized = false ∧ d.digest ∈ s.seen := by
  cases hsize : d.isOversized with
  | true => simp [load_of_oversized hsize]
  | false =>
    by_cases hseen : d.digest ∈ s.seen
    · simp [load_of_seen hsize hseen, hseen]
    · cases hu : d.unit <;> simp [load_of_unseen hsize hseen, hseen, hu, Except.map]

theorem load_eq_iff {result : Except Fault (Option TranslationUnit)} (hnone : result ≠ .ok none)
    (hsize : result ≠ .error (.oversized d.path)) :
    (s.load d).1 = result ↔ s.IsNew d ∧ d.unit.map some = result := by
  by_cases hnew : s.IsNew d
  · simp [load_of_isNew hnew, hnew]
  · simp only [hnew, false_and, iff_false]
    cases hover : d.isOversized with
    | true => simpa [load_of_oversized hover] using hsize.symm
    | false =>
      have hseen : d.digest ∈ s.seen := by simpa [IsNew, hover] using hnew
      simpa [load_of_seen hover hseen] using hnone.symm

theorem mem_seen_load :
    digest ∈ (s.load d).2.seen ↔ digest ∈ s.seen ∨ s.IsNew d ∧ digest = d.digest := by
  cases hsize : d.isOversized with
  | true => simp [load_of_oversized hsize, IsNew, hsize]
  | false =>
    by_cases hseen : d.digest ∈ s.seen
    · simp [load_of_seen hsize hseen, IsNew, hseen]
    · simp [load_of_unseen hsize hseen, IsNew, hsize, hseen, or_comm]

def after (past : List Source) : Shelf :=
  past.foldl (fun s source => (s.loadSource source).2) {}

theorem after_concat (past : List Source) (source : Source) :
    after (past ++ [source]) = ((after past).loadSource source).2 := by
  rw [after, List.foldl_concat]
  rfl

def Gave (past : List Source) (d : Dump) (result : Except Fault (Option TranslationUnit)) : Prop :=
  ∃ earlier later, past = earlier ++ .ok d :: later ∧ ((after earlier).load d).1 = result

def Loaded (past : List Source) (digest : Sha256) : Prop :=
  ∃ d u, Gave past d (.ok (some u)) ∧ d.digest = digest

def Refused (past : List Source) (digest : Sha256) : Prop :=
  ∃ d, Gave past d (.error (.malformed (.unreadable d.path))) ∧ d.digest = digest

theorem not_gave_nil {result : Except Fault (Option TranslationUnit)} : ¬ Gave [] d result := by
  rintro ⟨earlier, later, h, -⟩
  simp at h

theorem gave_concat {source : Source} {result : Except Fault (Option TranslationUnit)} :
    Gave (past ++ [source]) d result ↔ Gave past d result ∨
      source = .ok d ∧ ((after past).load d).1 = result := by
  constructor
  · rintro ⟨earlier, later, h, hresult⟩
    rcases List.eq_nil_or_concat later with rfl | ⟨later, last, rfl⟩
    · obtain ⟨rfl, hsource⟩ := List.append_inj' h rfl
      exact .inr ⟨by simpa using hsource, hresult⟩
    · rw [List.concat_eq_append, ← List.cons_append, ← List.append_assoc] at h
      obtain ⟨rfl, -⟩ := List.append_inj' h rfl
      exact .inl ⟨earlier, later, rfl, hresult⟩
  · rintro (⟨earlier, later, rfl, hresult⟩ | ⟨rfl, hresult⟩)
    · exact ⟨earlier, later ++ [source], by simp, hresult⟩
    · exact ⟨past, [], rfl, hresult⟩

theorem loaded_concat (past : List Source) (source : Source) :
    Loaded (past ++ [source]) digest ↔
      Loaded past digest ∨
        ∃ d u, source = .ok d ∧ (after past).IsNew d ∧ d.unit = .ok u ∧ d.digest = digest := by
  have hresult (d : Dump) (u : TranslationUnit) :
      d.unit.map some = .ok (some u) ↔ d.unit = .ok u := by
    cases d.unit <;> simp [Except.map]
  simp [Loaded, gave_concat, load_eq_iff, hresult, or_and_right, exists_or, and_assoc]

theorem refused_concat (past : List Source) (source : Source) :
    Refused (past ++ [source]) digest ↔
      Refused past digest ∨
        ∃ d f, source = .ok d ∧ (after past).IsNew d ∧ d.unit = .error f ∧ d.digest = digest := by
  have hresult (d : Dump) :
      d.unit.map some = .error (.malformed (.unreadable d.path)) ↔ ∃ f, d.unit = .error f := by
    cases hu : d.unit with
    | ok u => simp [Except.map]
    | error f => simp [Except.map, Dump.eq_unreadable_of_unit hu]
  simp [Refused, gave_concat, load_eq_iff, hresult, or_and_right, exists_or, and_assoc]

theorem mem_seen_after : digest ∈ (after past).seen ↔ Loaded past digest ∨ Refused past digest := by
  induction past using List.reverseRecOn with
  | nil => simp [after, Loaded, Refused, not_gave_nil]
  | append_singleton past source ih =>
    rw [after_concat, loaded_concat, refused_concat]
    cases source with
    | error f => simpa [loadSource] using ih
    | ok d =>
      rw [loadSource, mem_seen_load, ih]
      cases hu : d.unit <;> simp [hu, eq_comm, or_assoc, or_comm, or_left_comm]

theorem not_refused_of_loaded (h : Loaded past digest) : ¬ Refused past digest := by
  induction past using List.reverseRecOn with
  | nil => simp [Refused, not_gave_nil]
  | append_singleton past source ih =>
    rw [loaded_concat] at h
    rw [refused_concat]
    rintro (hrefused | ⟨d, f, rfl, hnew, hu, rfl⟩)
    · rcases h with h | ⟨d, u, rfl, hnew, hu, rfl⟩
      · exact ih h hrefused
      · exact hnew.2 (mem_seen_after.mpr (.inr hrefused))
    · rcases h with h | ⟨d', u, hd, -, hu', -⟩
      · exact hnew.2 (mem_seen_after.mpr (.inl h))
      · cases hd
        cases hu.symm.trans hu'

/-- What a call gives if it depends only on what was loaded before. -/
def Heeds (past : List Source) (d : Dump) (result : Except Fault (Option TranslationUnit)) : Prop :=
  d.isOversized = true ∧ result = .error (.oversized d.path) ∨
    d.isOversized = false ∧
      (Loaded past d.digest ∧ result = .ok none ∨ ¬ Loaded past d.digest ∧ result = d.unit.map some)

theorem heeds_iff :
    Heeds past d ((after past).load d).1 ↔ d.isOversized = true ∨ ¬ Refused past d.digest := by
  have hunit : (Except.ok none : Except Fault (Option TranslationUnit)) ≠ d.unit.map some := by
    cases d.unit <;> simp [Except.map]
  cases hsize : d.isOversized with
  | true => simp [Heeds, load_of_oversized hsize, hsize]
  | false =>
    by_cases hseen : d.digest ∈ (after past).seen
    · simp only [Heeds, load_of_seen hsize hseen, hsize, hunit, Bool.false_eq_true,
        false_and, false_or, true_and, and_false, or_false, and_true]
      exact ⟨not_refused_of_loaded, (mem_seen_after.mp hseen).resolve_right⟩
    · obtain ⟨hloaded, hrefused⟩ := not_or.mp (mt mem_seen_after.mpr hseen)
      simp [Heeds, load_of_unseen hsize hseen, hsize, hloaded, hrefused]

theorem load_fails_unchanged_iff {f : Fault} :
    (s.load d).1 = .error f ∧ (s.load d).2 = s ↔ d.isOversized = true ∧ f = .oversized d.path := by
  cases hsize : d.isOversized with
  | true => simp [load_of_oversized hsize, eq_comm]
  | false =>
    by_cases hseen : d.digest ∈ s.seen
    · simp [load_of_seen hsize hseen]
    · have hmore : ({ seen := d.digest :: s.seen } : Shelf) ≠ s := fun h => by
        simpa using congrArg (fun s : Shelf => s.seen.length) h
      simp [load_of_unseen hsize hseen, hmore]

/-- What a call gives depends only on what was loaded before, except for texts that were refused
before: they count as seen, so that a call passes over them as if they had been loaded. -/
theorem refused_pass_for_loaded (past : List Source) (d : Dump) :
    (Heeds past d ((after past).load d).1 ↔ d.isOversized = true ∨ ¬ Refused past d.digest) ∧
      (((after past).load d).1 = .ok none ↔
        d.isOversized = false ∧ (Loaded past d.digest ∨ Refused past d.digest)) ∧
      ∀ (s : Shelf) (f : Fault),
        (s.load d).1 = .error f ∧ (s.load d).2 = s ↔
          d.isOversized = true ∧ f = .oversized d.path := by
  refine ⟨heeds_iff, ?_, fun s f => load_fails_unchanged_iff⟩
  rw [load_eq_none_iff, mem_seen_after]

end Shelf

def Sample.broken : Dump where
  path := ⟨"broken.json"⟩
  text := "\x7b \"file\": 3 \x7d"

/-- The second time nothing is said against a broken text. -/
theorem Shelf.broken_passed_over :
    Sample.broken.unit = .error (.malformed (.unreadable ⟨"broken.json"⟩)) ∧
      ((after [.ok Sample.broken]).load Sample.broken).1 = .ok none ∧
      ¬ Heeds [.ok Sample.broken] Sample.broken
        ((after [.ok Sample.broken]).load Sample.broken).1 := by
  have hunit : Sample.broken.unit = .error (.malformed (.unreadable ⟨"broken.json"⟩)) := by
    have hnone :
        ((Json.parse? Dump.maxNesting Sample.broken.text).bind TranslationUnit.ofJson?).isNone =
          true := by
      decide +kernel
    rw [Dump.unit, Option.isNone_iff_eq_none.mp hnone]
    rfl
  have hsize : Sample.broken.isOversized = false := by decide +kernel
  have hrefused : Refused [.ok Sample.broken] Sample.broken.digest := by
    refine ⟨Sample.broken, ⟨[], [], rfl, ?_⟩, rfl⟩
    have hnew : (after []).IsNew Sample.broken := ⟨hsize, List.not_mem_nil⟩
    rw [load_of_isNew hnew, hunit]
    rfl
  refine ⟨hunit, load_eq_none_iff.mpr ⟨hsize, mem_seen_after.mpr (.inr hrefused)⟩, ?_⟩
  rw [heeds_iff]
  simp [hsize, hrefused]

end Lifeline
