import Lifeline.Settings.Text
import Lifeline.Proofs.RoundTrip
import Lifeline.Proofs.Toml.Documents

namespace Lifeline

open Json (Manner optionalField listField)

namespace Json

variable {names : List String} {fields : List (String × Json)}

theorem hasRepeat_eq_false_iff : hasRepeat names = false ↔ names.Nodup := by
  induction names with
  | nil => simp [hasRepeat]
  | cons k rest ih => simp [hasRepeat, ih]

theorem recordIn?_obj (manner : Manner) (hnames : (fields.map (·.1)).Sublist names)
    (hdistinct : hasRepeat names = false) :
    (Json.obj fields).recordIn? manner names = some fields := by
  have hknown : fields.filter (fun f => names.contains f.1) = fields := by
    apply List.filter_eq_self.mpr
    intro f hf
    simpa using hnames.subset (List.mem_map_of_mem hf)
  have honce : hasRepeat (fields.map (·.1)) = false :=
    hasRepeat_eq_false_iff.mpr (hnames.nodup (hasRepeat_eq_false_iff.mp hdistinct))
  simp only [recordIn?, hknown, honce]
  rfl

theorem recordIn?_own (manner : Manner) (hnames : fields.map (·.1) = names)
    (hdistinct : hasRepeat names = false) :
    (Json.obj fields).recordIn? manner names = some fields :=
  recordIn?_obj manner (hnames ▸ List.Sublist.refl _) hdistinct

section Names

variable {α : Type} {name : String} {write : α → Json}

theorem optionalField_names (o : Option α) :
    ((optionalField name write o).map (·.1)).Sublist [name] := by
  cases o <;> simp [optionalField]

theorem listField_names (l : List α) : ((listField name write l).map (·.1)).Sublist [name] := by
  cases l <;> simp [listField]

theorem filterField_names (r : FilterRules) : ((r.field name).map (·.1)).Sublist [name] := by
  by_cases h : r.isEmpty = true <;> simp [FilterRules.field, h]

end Names

theorem word64?_num (n : UInt64) : word64? (.num n.toNat) = some n := by
  simp [word64?, UInt64.toNat_lt_size]

end Json

namespace Record

variable {name key : String} {α : Type}

@[simp] theorem get?_nil : get? [] name = none := rfl

@[simp] theorem get?_append (r rest : Record) :
    get? (r ++ rest) name = (get? r name).or (get? rest name) := by
  simp [get?, List.lookup_append]

@[simp] theorem get?_optionalField (write : α → Json) (o : Option α) :
    get? (optionalField key write o) name = if name == key then o.map write else none := by
  cases o <;> simp [optionalField]

@[simp] theorem get?_listField (write : α → Json) (l : List α) :
    get? (listField key write l) name =
      if name == key && !l.isEmpty then some (.arr (l.map write)) else none := by
  cases l <;> simp [listField]

@[simp] theorem get?_filterField (r : FilterRules) :
    get? (r.field key) name = if name == key && !r.isEmpty then some r.toJson else none := by
  by_cases h : r.isEmpty = true <;> simp [FilterRules.field, h]

end Record

section Defaults

variable {α : Type} {read : Json → Option α} {write : α → Json}

theorem elim_option (hread : ∀ a, read (write a) = some a) (hwrite : ∀ a, write a ≠ .null)
    (o : Option α) : (o.map write).elim (some none) (Json.option? read) = some o := by
  cases o with
  | none => rfl
  | some a => simp [Json.option?_of_ne_null (hwrite a), hread]

theorem elim_list (hread : ∀ a, read (write a) = some a) (l : List α) :
    (if l = [] then none else some (Json.arr (l.map write))).elim (some []) (Json.list? read) =
      some l := by
  split
  · next h => simp [h]
  · exact Json.list?_map hread l

end Defaults

@[simp] theorem Layout.read?_word (manner : Manner) (l : Layout) :
    Layout.read? manner (.str l.word) = some l := by
  cases l <;> rfl

@[simp] theorem UnresolvedPolicy.read?_word (manner : Manner) (p : UnresolvedPolicy) :
    UnresolvedPolicy.read? manner (.str p.word) = some p := by
  cases p <;> rfl

@[simp] theorem Format.read?_word (manner : Manner) (f : Format) :
    Format.read? manner (.str f.word) = some f := by
  cases f <;> rfl

@[simp] theorem EntrySpec.ofJson?_toJson (e : EntrySpec) : EntrySpec.ofJson? e.toJson = some e := by
  cases e <;> rfl

def FilterRules.fields (r : FilterRules) : List (String × Json) :=
  listField "namespaces" .str r.namespaces ++ listField "paths" Path.toJson r.paths ++
    listField "elements" .str r.elements

theorem FilterRules.toJson_eq (r : FilterRules) : r.toJson = .obj r.fields := rfl

theorem FilterRules.fields_names (r : FilterRules) :
    (r.fields.map (·.1)).Sublist ["namespaces", "paths", "elements"] := by
  simp only [fields, List.map_append]
  exact ((Json.listField_names _).append (Json.listField_names _)).append (Json.listField_names _)

theorem FilterRules.read?_toJson (manner : Manner) (r : FilterRules) :
    FilterRules.read? manner r.toJson = some r := by
  rw [FilterRules.read?, FilterRules.toJson_eq, Json.recordIn?_obj manner r.fields_names rfl]
  simp [fields, elim_list Json.str?_str, elim_list Path.ofJson?_toJson]

theorem FilterRules.elim_field (manner : Manner) (r : FilterRules) :
    (if r.isEmpty = false then some r.toJson else none).elim (some {}) (FilterRules.read? manner) =
      some r := by
  cases h : r.isEmpty with
  | false => exact r.read?_toJson manner
  | true =>
    obtain ⟨namespaces, paths, elements⟩ := r
    simp_all [FilterRules.isEmpty]

namespace DiagramSettings

def scalars (s : DiagramSettings) : List (String × Json) :=
  [("mode", Json.str s.layout.word)] ++ optionalField "to" Json.str s.target ++
    [("generate_return_messages", Json.bool s.returnMessages),
      ("generate_condition_text", Json.bool s.conditionText),
      ("generate_message_comments", Json.bool s.comments),
      ("combine_free_functions_into_file_participants", Json.bool s.mergeFiles),
      ("inline_lambda_messages", Json.bool s.inlineLambdas),
      ("unresolved_calls", Json.str s.unresolved.word)] ++
    optionalField "max_depth" (fun n : UInt64 => Json.num n.toNat) s.maxDepth

def filters (s : DiagramSettings) : List (String × Json) :=
  s.included.field "include" ++ s.excluded.field "exclude"

def fields (s : DiagramSettings) : List (String × Json) :=
  s.scalars ++ ([("start_from", .arr (s.startFrom.map EntrySpec.toJson))] ++ s.filters)

theorem toJson_eq (s : DiagramSettings) : s.toJson = .obj s.fields := by
  simp [toJson, fields, scalars, filters]

theorem fields_names (s : DiagramSettings) : (s.fields.map (·.1)).Sublist
    ["mode", "to", "generate_return_messages", "generate_condition_text",
      "generate_message_comments",
      "combine_free_functions_into_file_participants", "inline_lambda_messages", "unresolved_calls",
      "max_depth", "start_from", "include", "exclude"] := by
  simp only [fields, scalars, filters, List.map_append]
  exact ((((List.Sublist.refl ["mode"]).append (Json.optionalField_names _)).append
    (List.Sublist.refl _)).append (Json.optionalField_names _)).append
    ((List.Sublist.refl ["start_from"]).append
      ((Json.filterField_names _).append (Json.filterField_names _)))

theorem read?_toJson (manner : Manner) (s : DiagramSettings) : read? manner s.toJson = some s := by
  have hlayout :
      Record.defaulted s.fields "mode" (Layout.read? manner) .merged = some s.layout := by
    simp [fields, scalars]
  have htarget : Record.optional s.fields "to" Json.str? = some s.target := by
    simp [fields, scalars, filters, elim_option Json.str?_str]
  have hreturns : Record.defaulted s.fields "generate_return_messages" Json.bool? false =
      some s.returnMessages := by
    simp [fields, scalars]
  have hconditions :
      Record.defaulted s.fields "generate_condition_text" Json.bool? true =
        some s.conditionText := by
    simp [fields, scalars]
  have hcomments :
      Record.defaulted s.fields "generate_message_comments" Json.bool? false = some s.comments := by
    simp [fields, scalars]
  have hmerges :
    Record.defaulted s.fields "combine_free_functions_into_file_participants" Json.bool? false =
      some s.mergeFiles := by
    simp [fields, scalars]
  have hlambdas :
      Record.defaulted s.fields "inline_lambda_messages" Json.bool? false =
        some s.inlineLambdas := by
    simp [fields, scalars]
  have hunresolved :
    Record.defaulted s.fields "unresolved_calls" (UnresolvedPolicy.read? manner) .elide =
      some s.unresolved := by
    simp [fields, scalars]
  have hdepth : Record.optional s.fields "max_depth" Json.word64? = some s.maxDepth := by
    simp [fields, scalars, filters, elim_option Json.word64?_num]
  have hstart : Record.defaulted s.fields "start_from" (Json.list? EntrySpec.ofJson?) [] =
      some s.startFrom := by
    simp [fields, scalars, Json.list?_map EntrySpec.ofJson?_toJson]
  have hincluded :
      Record.defaulted s.fields "include" (FilterRules.read? manner) {} = some s.included := by
    simp [fields, scalars, filters, FilterRules.elim_field]
  have hexcluded :
      Record.defaulted s.fields "exclude" (FilterRules.read? manner) {} = some s.excluded := by
    simp [fields, scalars, filters, FilterRules.elim_field]
  rw [read?, toJson_eq, Json.recordIn?_obj manner s.fields_names rfl, Option.bind_eq_bind,
    Option.bind_some, hlayout,
    htarget, hreturns, hconditions, hcomments, hmerges, hlambdas, hunresolved, hdepth, hstart,
    hincluded, hexcluded]
  rfl

end DiagramSettings

namespace ProjectSettings

def fields (s : ProjectSettings) : List (String × Json) :=
  [("name", .str s.name), ("ast_paths", .arr (s.dumps.map Path.toJson)),
    ("output_dir", s.outputDir.toJson)] ++ optionalField "root" Path.toJson s.root

theorem toJson_eq (s : ProjectSettings) : s.toJson = .obj s.fields := rfl

theorem fields_names (s : ProjectSettings) :
    (s.fields.map (·.1)).Sublist ["name", "ast_paths", "output_dir", "root"] := by
  rw [fields, List.map_append]
  exact (List.Sublist.refl ["name", "ast_paths", "output_dir"]).append (Json.optionalField_names _)

theorem read?_toJson (manner : Manner) (s : ProjectSettings) : read? manner s.toJson = some s := by
  have hroot : ∀ p : Path, p.toJson ≠ .null := fun p => by simp [Path.toJson]
  rw [read?, toJson_eq, Json.recordIn?_obj manner s.fields_names rfl]
  simp [fields, Json.list?_map Path.ofJson?_toJson, elim_option Path.ofJson?_toJson hroot]

end ProjectSettings

namespace Settings

variable {name : String} {d : DiagramSettings} {diagrams : List (String × DiagramSettings)}

def Ordered (s : Settings) : Prop :=
  (s.diagrams.map Prod.fst).Pairwise (· < ·)

theorem insertDiagram_last (h : ∀ other ∈ diagrams, other.1 < name) :
    insertDiagram name d diagrams = diagrams ++ [(name, d)] := by
  induction diagrams with
  | nil => rfl
  | cons other rest ih =>
    have hlt : other.1 < name := h other (by simp)
    have hne : name ≠ other.1 := by
      rintro rfl
      exact String.lt_irrefl _ hlt
    simp [insertDiagram, String.lt_asymm hlt, hne, ih fun o ho => h o (by simp [ho])]

theorem foldl_insertDiagram {done : List (String × DiagramSettings)}
    (h : ((done ++ diagrams).map Prod.fst).Pairwise (· < ·)) :
    diagrams.foldl (fun all x => insertDiagram x.1 x.2 all) done = done ++ diagrams := by
  induction diagrams generalizing done with
  | nil => simp
  | cons first rest ih =>
    have hbefore : ∀ other ∈ done, other.1 < first.1 := by
      intro other hother
      rw [List.map_append, List.pairwise_append] at h
      exact h.2.2 other.1 (List.mem_map_of_mem hother) first.1 List.mem_cons_self
    rw [List.foldl_cons, insertDiagram_last hbefore, ih (by simpa using h), List.append_assoc]
    rfl

theorem diagramsToJson_eq (diagrams : List (String × DiagramSettings)) :
    diagramsToJson diagrams = .obj (diagrams.map fun x => (x.1, x.2.toJson)) := rfl

theorem readDiagrams?_obj (manner : Manner) (fields : List (String × Json)) :
    readDiagrams? manner (.obj fields) =
      (fields.mapM fun (f : String × Json) => do
        return (f.1, ← DiagramSettings.read? manner f.2)).map fun found =>
          List.foldl (fun all (x : String × DiagramSettings) => insertDiagram x.1 x.2 all) []
            found := by
  rw [Option.map_eq_bind]
  rfl

theorem readDiagrams?_toJson (manner : Manner) (h : (diagrams.map Prod.fst).Pairwise (· < ·)) :
    readDiagrams? manner (diagramsToJson diagrams) = some diagrams := by
  have hread : (diagrams.map fun x => (x.1, x.2.toJson)).mapM
      (fun f => do return (f.1, ← DiagramSettings.read? manner f.2)) = some diagrams := by
    clear h
    induction diagrams with
    | nil => rfl
    | cons first rest ih => simp_all [DiagramSettings.read?_toJson]
  have hfold := foldl_insertDiagram (show (([] ++ diagrams).map Prod.fst).Pairwise (· < ·) from h)
  rw [diagramsToJson_eq, readDiagrams?_obj, hread, Option.map_some, hfold, List.nil_append]

theorem read?_toJson (manner : Manner) (s : Settings) (h : s.Ordered) :
    read? manner s.toJson = some s := by
  have hformats : readFormats? manner (formatsToJson s.formats) = some s.formats := by
    rw [readFormats?, formatsToJson, Json.recordIn?_own manner (show _ = ["formats"] from rfl) rfl]
    simp [Json.list?_map (Format.read?_word manner)]
  rw [read?, toJson,
    Json.recordIn?_own manner (show _ = ["project", "output", "diagrams"] from rfl) rfl]
  simp [ProjectSettings.read?_toJson, hformats, readDiagrams?_toJson manner h]

end Settings

open Toml (Holds Documented Headed documented_append)

variable {α : Type} {write : α → Json} {name : String} {room : Nat} {f : String × Json}

theorem mem_optionalField {o : Option α} (h : f ∈ optionalField name write o) :
    ∃ a, o = some a ∧ f = (name, write a) := by
  cases o <;> simp_all [optionalField]

theorem mem_listField {l : List α} (h : f ∈ listField name write l) :
    f = (name, .arr (l.map write)) := by
  cases l <;> simp_all [listField]

theorem mem_filterField {r : FilterRules} (h : f ∈ r.field name) : f = (name, .obj r.fields) := by
  rw [← r.toJson_eq]
  cases hr : r.isEmpty <;> simp_all [FilterRules.field]

theorem mem_optionalField_names {o : Option α} {key : String} :
    key ∈ (optionalField name write o).map Prod.fst ↔ key = name ∧ o ≠ none := by
  cases o <;> simp [optionalField]

theorem mem_filterField_names {r : FilterRules} {key : String} :
    key ∈ (r.field name).map Prod.fst ↔ key = name ∧ r ≠ {} := by
  have hempty : r.isEmpty = true ↔ r = {} := by
    cases r
    simp [FilterRules.isEmpty, and_assoc]
  by_cases h : r.isEmpty = true <;> simp [FilterRules.field, h, ← hempty]

theorem holds_path (p : Path) : Holds room p.toJson := .str p.text

theorem holds_list (hwrite : ∀ a, Holds 78 (write a)) (l : List α) :
    Holds Toml.maxDepth (.arr (l.map write)) := by
  apply Holds.arr
  intro j hj
  obtain ⟨a, -, rfl⟩ := List.mem_map.mp hj
  exact hwrite a

theorem documented_of_holds {fields : List (String × Json)} {names : List String}
    (hnames : (fields.map (·.1)).Sublist names) (hdistinct : names.Nodup)
    (h : ∀ f ∈ fields, Holds Toml.maxDepth f.2) : Documented (room + 1) fields := by
  have hintro := @Documented.intro room fields [] (by simpa using hnames.nodup hdistinct) h
    (by simp) (by simp) (by simp)
  simpa using hintro

theorem EntrySpec.documented (e : EntrySpec) :
    ∃ fields, e.toJson = .obj fields ∧ Documented (room + 1) fields := by
  cases e with
  | function selector =>
    exact ⟨_, rfl,
      documented_of_holds (List.Sublist.refl _) (by simp) (by simpa using Holds.str selector)⟩
  | file path =>
    exact ⟨_, rfl,
      documented_of_holds (List.Sublist.refl _) (by simp) (by simpa using holds_path path)⟩

theorem FilterRules.documented (r : FilterRules) : Documented (room + 1) r.fields := by
  refine documented_of_holds r.fields_names (by decide) fun f hf => ?_
  simp only [fields, List.mem_append] at hf
  rcases hf with (hf | hf) | hf
  · exact mem_listField hf ▸ holds_list Holds.str _
  · exact mem_listField hf ▸ holds_list holds_path _
  · exact mem_listField hf ▸ holds_list Holds.str _

namespace DiagramSettings

theorem holds_scalars (s : DiagramSettings) (hdepth : ∀ n, s.maxDepth = some n → n.toNat < 2 ^ 63) :
    ∀ f ∈ s.scalars, Holds Toml.maxDepth f.2 := by
  intro f hf
  simp only [scalars, List.mem_append, List.mem_cons, List.not_mem_nil, or_false] at hf
  rcases hf with ((rfl | hf) | rfl | rfl | rfl | rfl | rfl | rfl) | hf
  · exact .str _
  · obtain ⟨t, -, rfl⟩ := mem_optionalField hf
    exact .str t
  · exact .bool _
  · exact .bool _
  · exact .bool _
  · exact .bool _
  · exact .bool _
  · exact .str _
  · obtain ⟨n, hn, rfl⟩ := mem_optionalField hf
    exact .num (Nat.le_of_lt_succ (hdepth n hn))

theorem headed_filters (s : DiagramSettings) : ∀ f ∈ s.filters, Headed (room + 1) f.2 := by
  intro f hf
  simp only [filters, List.mem_append] at hf
  rcases hf with hf | hf
  · exact .inl ⟨_, congrArg Prod.snd (mem_filterField hf), s.included.documented⟩
  · exact .inl ⟨_, congrArg Prod.snd (mem_filterField hf), s.excluded.documented⟩

theorem left_out (s : DiagramSettings) :
    ("to" ∈ s.fields.map Prod.fst ↔ s.target ≠ none) ∧
      ("max_depth" ∈ s.fields.map Prod.fst ↔ s.maxDepth ≠ none) ∧
      ("include" ∈ s.fields.map Prod.fst ↔ s.included ≠ {}) ∧
      ("exclude" ∈ s.fields.map Prod.fst ↔ s.excluded ≠ {}) := by
  refine ⟨?_, ?_, ?_, ?_⟩ <;>
    simp only [fields, scalars, filters, List.map_append, List.mem_append, mem_optionalField_names,
      mem_filterField_names] <;> simp

theorem documented (s : DiagramSettings) (hdepth : ∀ n, s.maxDepth = some n → n.toNat < 2 ^ 63) :
    Documented (room + 2) s.fields := by
  have hnames : (s.fields.map Prod.fst).Nodup := s.fields_names.nodup (by decide)
  have hscalars := s.holds_scalars hdepth
  have hfilters : ∀ f ∈ s.filters, Headed (room + 1) f.2 := s.headed_filters
  unfold fields at hnames ⊢
  cases hstart : s.startFrom with
  | nil =>
    rw [hstart, ← List.append_assoc] at hnames
    rw [← List.append_assoc]
    refine documented_append hnames (fun f hf => ?_) hfilters
    rcases List.mem_append.mp hf with hf | hf
    · exact hscalars f hf
    · obtain rfl := List.mem_singleton.mp hf
      exact holds_list (fun e : EntrySpec => Holds.str "") []
  | cons e rest =>
    rw [hstart] at hnames
    refine documented_append hnames hscalars fun f hf => ?_
    rcases List.mem_append.mp hf with hf | hf
    · obtain rfl := List.mem_singleton.mp hf
      refine .inr ⟨_, rfl, by simp, fun i hi => ?_⟩
      obtain ⟨e, -, rfl⟩ := List.mem_map.mp hi
      exact e.documented
    · exact hfilters f hf

end DiagramSettings

theorem ProjectSettings.documented (s : ProjectSettings) : Documented (room + 1) s.fields := by
  refine documented_of_holds s.fields_names (by decide) fun f hf => ?_
  simp only [fields, List.mem_append, List.mem_cons, List.not_mem_nil, or_false] at hf
  rcases hf with (rfl | rfl | rfl) | hf
  · exact .str _
  · exact holds_list holds_path _
  · exact holds_path _
  · obtain ⟨p, -, rfl⟩ := mem_optionalField hf
    exact holds_path p

namespace Settings

def Writable (s : Settings) : Prop :=
  ∀ x ∈ s.diagrams, ∀ n, x.2.maxDepth = some n → n.toNat < 2 ^ 63

theorem documented_diagrams (s : Settings) (hordered : s.Ordered) (hwritable : s.Writable) :
    Documented (room + 3) (s.diagrams.map fun x => (x.1, x.2.toJson)) := by
  have hnames : ((s.diagrams.map fun x => (x.1, x.2.toJson)).map Prod.fst).Nodup := by
    rw [List.map_map]
    refine List.Pairwise.imp ?_ hordered
    rintro a b hlt rfl
    exact String.lt_irrefl a hlt
  refine @documented_append _ [] _ hnames (by simp) fun f hf => ?_
  obtain ⟨x, hx, rfl⟩ := List.mem_map.mp hf
  exact .inl ⟨_, x.2.toJson_eq, x.2.documented (hwritable x hx)⟩

theorem documented_formats (formats : List Format) :
    Documented (room + 1) [("formats", .arr (formats.map fun f => .str f.word))] :=
  documented_of_holds (List.Sublist.refl _) (by simp)
    (by simpa using holds_list (fun f : Format => Holds.str f.word) formats)

theorem documented (s : Settings) (hordered : s.Ordered) (hwritable : s.Writable) :
    Documented 4 [("project", s.project.toJson), ("output", formatsToJson s.formats),
      ("diagrams", diagramsToJson s.diagrams)] := by
  refine @documented_append _ [] _ (by simp) (by simp) fun f hf => ?_
  simp only [List.mem_cons, List.not_mem_nil, or_false] at hf
  rcases hf with rfl | rfl | rfl
  · exact .inl ⟨_, rfl, s.project.documented⟩
  · exact .inl ⟨_, rfl, documented_formats s.formats⟩
  · exact .inl ⟨_, rfl, s.documented_diagrams hordered hwritable⟩

theorem toText_ofText (s : Settings) (hordered : s.Ordered) (hwritable : s.Writable) :
    ∃ text, s.toText = .ok text ∧ Toml.parse? text = some s.toJson ∧ ofText text = s.validate := by
  obtain ⟨text, hprint, hparse⟩ := (s.documented hordered hwritable).parse?_print? (by decide)
  rw [← toJson] at hprint hparse
  refine ⟨text, by rw [toText, hprint], hparse, ?_⟩
  rw [ofText, hparse, Option.bind_some, s.read?_toJson manner hordered]

theorem fault?_eq_none_iff {s : Settings} :
    s.fault? = none ↔ ∀ x ∈ s.diagrams, x.2.fault? x.1 = none :=
  List.findSome?_eq_none_iff

theorem Ordered.split {s : Settings} (h : s.Ordered)
    {before after : List (String × DiagramSettings)} {x : String × DiagramSettings}
    (hsplit : s.diagrams = before ++ x :: after) :
    (∀ y ∈ before, y.1 < x.1) ∧ ∀ y ∈ after, x.1 < y.1 := by
  rw [Ordered, hsplit, List.map_append, List.map_cons, List.pairwise_append,
    List.pairwise_cons] at h
  refine ⟨fun y hy => ?_, fun y hy => ?_⟩
  · exact h.2.2 y.1 (List.mem_map_of_mem hy) x.1 List.mem_cons_self
  · exact h.2.1.1 y.1 (List.mem_map_of_mem hy)

theorem fault?_eq_some_iff {s : Settings} (hordered : s.Ordered) {cause : BadSettings} :
    s.fault? = some cause ↔ ∃ x ∈ s.diagrams, x.2.fault? x.1 = some cause ∧
      ∀ other ∈ s.diagrams, other.1 < x.1 → other.2.fault? other.1 = none := by
  constructor
  · intro h
    obtain ⟨before, x, after, hsplit, hx, hbefore⟩ := List.findSome?_eq_some_iff.mp h
    refine ⟨x, by simp [hsplit], hx, fun other hother hlt => ?_⟩
    rw [hsplit, List.mem_append, List.mem_cons] at hother
    rcases hother with hother | rfl | hother
    · exact hbefore other hother
    · exact absurd hlt (String.lt_irrefl _)
    · exact absurd hlt (String.lt_asymm ((hordered.split hsplit).2 other hother))
  · rintro ⟨x, hx, hfault, hsmaller⟩
    obtain ⟨before, after, hsplit⟩ := List.append_of_mem hx
    refine List.findSome?_eq_some_iff.mpr ⟨before, x, after, hsplit, hfault, fun y hy => ?_⟩
    exact hsmaller y (by simp [hsplit, hy]) ((hordered.split hsplit).1 y hy)

end Settings

namespace Sample

def savedSettings : Settings where
  project :=
    { name := "A 'quoted' \"name\"", dumps := [⟨"build/ast"⟩, ⟨"more\\ast"⟩],
      outputDir := ⟨"docs"⟩, root := none }
  formats := [.plantUml]
  diagrams := [
    ("a chain",
      { layout := .chains, target := some "app::run", maxDepth := some 3,
        included := { namespaces := ["app"] } }),
    ("flat", { startFrom := [.function "main", .file ⟨"src/main.cpp"⟩], maxDepth := some 0 }),
    ("nothing", {})]

end Sample

namespace Settings

end Settings

end Lifeline
