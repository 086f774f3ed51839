import Lifeline.Proofs.Toml.Lines

/-! A tree of tables is read back from the document that is written for it.

Both ways go by the lines of the document, section by section. Written are the texts of these lines
with a blank line between sections. Read, each line changes the table at some path, so that a table
is built up inside whatever has been built around it. -/

namespace Lifeline.Toml

open Text Text.Reader

variable {room : Nat} {path : List Key} {key : Key} {j : Json}
  {fields entries tables : List (String × Json)}

/-! ### The lines of a document -/

def entriesOf (fields : List (String × Json)) : List (String × Json) :=
  fields.filter fun f => !hasHeader f.2

def Line.ofField (f : String × Json) : Line :=
  .entry [] f.1 f.2

def entryLines (fields : List (String × Json)) : List Line :=
  (entriesOf fields).map Line.ofField

def ownLines (path : List Key) (key : Key) (fields : List (String × Json)) : List (List Line) :=
  if (entriesOf fields).isEmpty && !fields.isEmpty then []
  else [.header path key :: entryLines fields]

mutual

def outline (path : List Key) (key : Key) : Json → List (List Line)
  | .obj fields => ownLines path key fields ++ outlineFields (path ++ [key]) fields
  | .arr items => outlineItems path key items
  | _ => []

def outlineFields (path : List Key) : List (String × Json) → List (List Line)
  | [] => []
  | (k, j) :: rest => (if hasHeader j then outline path k j else []) ++ outlineFields path rest

def outlineItems (path : List Key) (key : Key) : List Json → List (List Line)
  | [] => []
  | .obj fields :: rest =>
    (.arrayHeader path key :: entryLines fields) :: outlineFields (path ++ [key]) fields ++
      outlineItems path key rest
  | _ :: rest => outlineItems path key rest

end

/-! ### Writing -/

def Section.ofLines? : List Line → Option Section
  | [] => none
  | line :: lines => do return ⟨← line.print?, ← lines.mapM Line.print?⟩

theorem Section.ofLines?_header (path : List Key) (key : Key) (lines : List Line) :
    Section.ofLines? (.header path key :: lines) =
      (lines.mapM Line.print?).map fun texts =>
      ⟨"[" ++ printPath (path ++ [key]) ++ "]", texts⟩ := by
  simp [Section.ofLines?, Line.print?, Option.map_eq_bind]

theorem Section.ofLines?_arrayHeader (path : List Key) (key : Key) (lines : List Line) :
    Section.ofLines? (.arrayHeader path key :: lines) =
      (lines.mapM Line.print?).map fun texts =>
      ⟨"[[" ++ printPath (path ++ [key]) ++ "]]", texts⟩ := by
  simp [Section.ofLines?, Line.print?, Option.map_eq_bind]

theorem entryLines?_eq (fields : List (String × Json)) :
    entryLines? fields = (entryLines fields).mapM Line.print? := by
  rw [entryLines, List.mapM_map]
  rfl

theorem ownSection?_eq (path : List Key) (key : Key) (fields : List (String × Json)) :
    ownSection? (path ++ [key]) fields = (ownLines path key fields).mapM Section.ofLines? := by
  simp only [ownSection?, ownLines, entryLines?_eq]
  cases hentries : entriesOf fields with
  | nil => cases fields <;> simp [entryLines, hentries, Section.ofLines?_header]
  | cons f rest =>
    have hlines : entryLines fields = Line.ofField f :: rest.map Line.ofField := by
      simp [entryLines, hentries]
    rw [hlines, List.mapM_cons]
    cases h : (Line.ofField f).print? <;> cases hrest : (rest.map Line.ofField).mapM Line.print? <;>
      simp [Section.ofLines?_header, h, hrest]

mutual

theorem sections?_eq (path : List Key) (key : Key) :
    (j : Json) → sections? (path ++ [key]) j = (outline path key j).mapM Section.ofLines?
  | .obj fields => by
    simp [sections?, outline, ownSection?_eq, sectionsOfFields?_eq (path ++ [key]) fields]
  | .arr items => by simp [sections?, outline, sectionsOfItems?_eq path key items]
  | .null | .bool _ | .num _ | .literal _ | .str _ | .unusable => by simp [sections?, outline]

theorem sectionsOfFields?_eq (path : List Key) :
    (fields : List (String × Json)) →
      sectionsOfFields? path fields = (outlineFields path fields).mapM Section.ofLines?
  | [] => rfl
  | (k, j) :: rest => by
    have hj := sections?_eq path k j
    have hrest := sectionsOfFields?_eq path rest
    by_cases h : hasHeader j = true <;> simp [sectionsOfFields?, outlineFields, h, hj, hrest]

theorem sectionsOfItems?_eq (path : List Key) (key : Key) :
    (items : List Json) →
      sectionsOfItems? (path ++ [key]) items = (outlineItems path key items).mapM Section.ofLines?
  | [] => rfl
  | .obj fields :: rest => by
    have hfields := sectionsOfFields?_eq (path ++ [key]) fields
    have hrest := sectionsOfItems?_eq path key rest
    cases h : (entryLines fields).mapM Line.print? <;>
      simp [sectionsOfItems?, outlineItems, entryLines?_eq,
        Section.ofLines?_arrayHeader, h, hfields, hrest, Option.bind_assoc]
  | .null :: rest | .bool _ :: rest | .num _ :: rest | .literal _ :: rest
  | .str _ :: rest | .arr _ :: rest
  | .unusable :: rest => by
    simpa [sectionsOfItems?, outlineItems] using sectionsOfItems?_eq path key rest

end

/-! ### Trees of tables -/

theorem Holds.hasHeader_eq_false (h : Holds room j) : hasHeader j = false := by
  cases h with
  | bool | num | str => rfl
  | @arr room items hitems =>
    cases items with
    | nil => rfl
    | cons j rest =>
      have hj := hitems j (by simp)
      cases hj <;> rfl

/-- The fields of a table that a document can hold: values, then tables and arrays of tables, nested
no deeper than there is room, and each name once. -/
inductive Documented : Nat → List (String × Json) → Prop
  | intro {room : Nat} {entries tables : List (String × Json)}
    (hnames : ((entries ++ tables).map Prod.fst).Nodup)
    (hentries : ∀ f ∈ entries, Holds maxDepth f.2)
    (htables : ∀ f ∈ tables, hasHeader f.2 = true)
    (hobj : ∀ key fields, (key, .obj fields) ∈ tables → Documented room fields)
    (harr : ∀ key items fields, (key, .arr items) ∈ tables →
      .obj fields ∈ items → Documented room fields) :
    Documented (room + 1) (entries ++ tables)

section Parts

variable (hentries : ∀ f ∈ entries, Holds maxDepth f.2)
  (htables : ∀ f ∈ tables, hasHeader f.2 = true)
include hentries htables

theorem entriesOf_append : entriesOf (entries ++ tables) = entries := by
  have hkept : entries.filter (fun f => !hasHeader f.2) = entries := by
    apply List.filter_eq_self.mpr
    intro f hf
    simp [(hentries f hf).hasHeader_eq_false]
  have hdropped : tables.filter (fun f => !hasHeader f.2) = [] := by
    apply List.filter_eq_nil_iff.mpr
    intro f hf
    simp [htables f hf]
  rw [entriesOf, List.filter_append, hkept, hdropped, List.append_nil]

theorem outlineFields_append (path : List Key) :
    outlineFields path (entries ++ tables) = tables.flatMap fun f => outline path f.1 f.2 := by
  induction entries with
  | nil =>
    induction tables with
    | nil => rfl
    | cons f rest ih =>
      simp [outlineFields, htables f (by simp), ← ih fun g hg => htables g (by simp [hg])]
  | cons f rest ih =>
    simp [outlineFields, (hentries f (by simp)).hasHeader_eq_false,
      ih fun g hg => hentries g (by simp [hg])]

end Parts

theorem hasHeader_cases (h : hasHeader j = true) :
    (∃ fields, j = .obj fields) ∨
      ∃ items, j = .arr items ∧ items ≠ [] ∧ ∀ i ∈ items, ∃ fields, i = .obj fields := by
  cases j with
  | obj fields => exact .inl ⟨fields, rfl⟩
  | arr items =>
    simp only [hasHeader, Bool.and_eq_true, Bool.not_eq_true', List.isEmpty_eq_false_iff,
      List.all_eq_true] at h
    refine .inr ⟨items, rfl, h.1, fun i hi => ?_⟩
    have htable := h.2 i hi
    cases i with
    | obj fields => exact ⟨fields, rfl⟩
    | _ => cases htable
  | _ => cases h

def Headed (room : Nat) (j : Json) : Prop :=
  (∃ fields, j = .obj fields ∧ Documented room fields) ∨
    ∃ items, j = .arr items ∧ items ≠ [] ∧
      ∀ i ∈ items, ∃ fields, i = .obj fields ∧ Documented room fields

theorem Headed.hasHeader (h : Headed room j) : hasHeader j = true := by
  rcases h with ⟨fields, rfl, -⟩ | ⟨items, rfl, hne, hitems⟩
  · rfl
  · simp only [Toml.hasHeader, Bool.and_eq_true, Bool.not_eq_true',
      List.isEmpty_eq_false_iff, List.all_eq_true]
    refine ⟨hne, fun i hi => ?_⟩
    obtain ⟨fields, rfl, -⟩ := hitems i hi
    rfl

theorem documented_append (hnames : ((entries ++ tables).map Prod.fst).Nodup)
    (hentries : ∀ f ∈ entries, Holds maxDepth f.2) (htables : ∀ f ∈ tables, Headed room f.2) :
    Documented (room + 1) (entries ++ tables) := by
  refine .intro hnames hentries (fun f hf => (htables f hf).hasHeader) ?_ ?_
  · intro key fields hf
    rcases htables _ hf with ⟨_, ⟨⟩, hfields⟩ | ⟨_, ⟨⟩, _⟩
    exact hfields
  · intro key items fields hf hfields
    rcases htables _ hf with ⟨_, ⟨⟩, _⟩ | ⟨_, ⟨⟩, -, hitems⟩
    obtain ⟨_, ⟨⟩, hdocumented⟩ := hitems _ hfields
    exact hdocumented

/-! ### Every line can be written -/

def Sound (part : List Line) : Prop :=
  part ≠ [] ∧ ∀ line ∈ part, line.Written

theorem Documented.entryLines_written (h : Documented room fields) :
    ∀ line ∈ entryLines fields, line.Written := by
  cases h with
  | @intro room entries tables hnames hentries htables hobj harr =>
    intro line hline
    rw [entryLines, entriesOf_append hentries htables] at hline
    obtain ⟨f, hf, rfl⟩ := List.mem_map.mp hline
    exact .entry f.1 (hentries f hf)

theorem outlineItems_sound {items : List Json} (hpath : path.length < maxDepth)
    (hitems : ∀ i ∈ items, ∃ fields, i = .obj fields)
    (hentries : ∀ fields, .obj fields ∈ items → ∀ line ∈ entryLines fields, line.Written)
    (hinner : ∀ fields, .obj fields ∈ items →
      ∀ part ∈ outlineFields (path ++ [key]) fields, Sound part) :
    ∀ part ∈ outlineItems path key items, Sound part := by
  induction items with
  | nil => simp [outlineItems]
  | cons i rest ih =>
    obtain ⟨fields, rfl⟩ := hitems i (by simp)
    intro part hpart
    simp only [outlineItems, List.cons_append, List.mem_cons, List.mem_append] at hpart
    rcases hpart with rfl | hpart | hpart
    · refine ⟨by simp, fun line hline => ?_⟩
      rcases List.mem_cons.mp hline with rfl | hline
      · exact .arrayHeader key hpath
      · exact hentries fields (by simp) line hline
    · exact hinner fields (by simp) part hpart
    · exact ih (fun i hi => hitems i (by simp [hi])) (fun f hf => hentries f (by simp [hf]))
        (fun f hf => hinner f (by simp [hf])) part hpart

theorem Documented.outlineFields_sound (h : Documented room fields)
    (hroom : path.length + room ≤ maxDepth) : ∀ part ∈ outlineFields path fields, Sound part := by
  induction h generalizing path with
  | @intro room entries tables hnames hentries htables hobj harr ihobj iharr =>
    have hinner (key : Key) : (path ++ [key]).length + room ≤ maxDepth := by
      rw [List.length_append, List.length_singleton]
      omega
    intro part hpart
    rw [outlineFields_append hentries htables] at hpart
    obtain ⟨⟨key, j⟩, hf, hpart⟩ := List.mem_flatMap.mp hpart
    rcases hasHeader_cases (htables (key, j) hf) with ⟨fields, rfl⟩ | ⟨items, rfl, -, hitems⟩
    · simp only [outline, List.mem_append] at hpart
      rcases hpart with hown | hpart
      · simp only [ownLines] at hown
        split at hown
        · cases hown
        · obtain rfl := List.mem_singleton.mp hown
          refine ⟨by simp, fun line hline => ?_⟩
          rcases List.mem_cons.mp hline with rfl | hline
          · exact .header key (by omega)
          · exact (hobj key fields hf).entryLines_written line hline
      · exact ihobj key fields hf (hinner key) part hpart
    · simp only [outline] at hpart
      exact outlineItems_sound (by omega) hitems
        (fun fields hfields => (harr key items fields hf hfields).entryLines_written)
        (fun fields hfields => iharr key items fields hf hfields (hinner key)) part hpart

/-! ### Reading the lines back -/

def rowsOf : List (List Line) → List (Option Line)
  | [] => []
  | [part] => part.map some
  | part :: rest => part.map some ++ none :: rowsOf rest

theorem flatMap_toList_rowsOf (parts : List (List Line)) :
    (rowsOf parts).flatMap Option.toList = parts.flatten := by
  have hpart (part : List Line) : (part.map some).flatMap Option.toList = part := by
    induction part with
    | nil => rfl
    | cons line rest ih => simpa using ih
  induction parts with
  | nil => rfl
  | cons part rest ih =>
    cases rest with
    | nil => simpa [rowsOf] using hpart part
    | cons next rest => simp_all [rowsOf]

theorem mapM_print?_spelled {part : List Line} (h : ∀ line ∈ part, line.Written) :
    ∃ texts, part.mapM Line.print? = some texts ∧ List.Forall₂ Spelled part texts := by
  induction part with
  | nil => exact ⟨[], rfl, .nil⟩
  | cons line rest ih =>
    obtain ⟨t, ht, hspelled⟩ := (h line (by simp)).printed
    obtain ⟨texts, htexts, hrest⟩ := ih fun l hl => h l (by simp [hl])
    exact ⟨t :: texts, by simp [ht, htexts], .cons hspelled hrest⟩

theorem mapM_ofLines?_spelled {parts : List (List Line)} (h : ∀ part ∈ parts, Sound part) :
    ∃ sections, parts.mapM Section.ofLines? = some sections ∧
      List.Forall₂ (fun part (s : Section) => List.Forall₂ Spelled part (s.header :: s.lines))
        parts sections := by
  induction parts with
  | nil => exact ⟨[], rfl, .nil⟩
  | cons part rest ih =>
    obtain ⟨hne, hwritten⟩ := h part (by simp)
    obtain ⟨sections, hsections, hrest⟩ := ih fun p hp => h p (by simp [hp])
    obtain ⟨texts, htexts, hspelled⟩ := mapM_print?_spelled hwritten
    cases hspelled with
    | nil => exact absurd rfl hne
    | @cons line t lines texts hline hlines =>
      obtain ⟨u, hu, us, hus, hcons⟩ : ∃ u, line.print? = some u ∧
          ∃ us, lines.mapM Line.print? = some us ∧ u :: us = t :: texts := by
        simpa [List.mapM_cons, Option.bind_eq_some_iff] using htexts
      obtain ⟨rfl, rfl⟩ := List.cons_eq_cons.mp hcons
      exact ⟨⟨u, us⟩ :: sections, by simp [Section.ofLines?, hu, hus, hsections],
        .cons (.cons hline hlines) hrest⟩

def blocksText (blocks : List (List String)) : String :=
  "\n".intercalate (blocks.map fun texts => String.join (texts.map (· ++ "\n")))

theorem toList_block (texts : List String) :
    (String.join (texts.map (· ++ "\n"))).toList = texts.flatMap fun t => t.toList ++ ['\n'] := by
  simp [List.flatMap_map]

theorem rowsOf_spelled {parts : List (List Line)} {blocks : List (List String)}
    (h : List.Forall₂ (List.Forall₂ Spelled) parts blocks) :
    ∃ texts, List.Forall₂ RowSpelled (rowsOf parts) texts ∧
      (blocksText blocks).toList = texts.flatMap fun t => t.toList ++ ['\n'] := by
  have hpart {part : List Line} {texts : List String} (h : List.Forall₂ Spelled part texts) :
      List.Forall₂ RowSpelled (part.map some) texts := by
    rw [List.forall₂_map_left_iff]
    exact h.imp fun _ _ h => .line h
  induction h with
  | nil => exact ⟨[], .nil, rfl⟩
  | @cons part texts parts blocks hfirst hrest ih =>
    cases hrest with
    | nil => exact ⟨texts, hpart hfirst, by simp [blocksText, ← toList_block]⟩
    | @cons next block parts blocks hnext hrest =>
      obtain ⟨more, hmore, htext⟩ := ih
      refine ⟨texts ++ "" :: more, List.rel_append (hpart hfirst) (.cons .blank hmore), ?_⟩
      have hsplit : blocksText (texts :: block :: blocks) =
          String.join (texts.map (· ++ "\n")) ++ "\n" ++ blocksText (block :: blocks) := by
        simp only [blocksText, List.map_cons, String.intercalate_cons_cons]
      simp only [hsplit, String.toList_append, htext, toList_block]
      simp

theorem readLines_mark (fuel : Nat) (acc : List Line) (cs : List Char) :
    readLines fuel acc ('\ufeff' :: cs) = none := by
  cases fuel with
  | zero => rfl
  | succ fuel =>
    have hblanks : blanks ('\ufeff' :: cs) = some ((), '\ufeff' :: cs) :=
      blanks_of_solid cs (by decide)
    have hkey : takeWhile isBare ('\ufeff' :: cs) = some ([], '\ufeff' :: cs) := rfl
    have hsimple : readSimpleKey fuel ('\ufeff' :: cs) = none := by
      simp [readSimpleKey, takeWhile1, hkey]
    have hpath : readKey fuel ('\ufeff' :: cs) = none := by
      rw [readKey, maxDepth, readKeys, bind_apply, hsimple]
      rfl
    simp [readLines, readLine, hblanks, readEntry, hpath]

theorem parse?_blocksText {parts : List (List Line)} {blocks : List (List String)}
    (h : List.Forall₂ (List.Forall₂ Spelled) parts blocks) :
    parse? (blocksText blocks) = ofLines? parts.flatten := by
  obtain ⟨texts, hrows, htext⟩ := rowsOf_spelled h
  have hread (fuel : Nat) (hfuel : (blocksText blocks).toList.length + 1 < fuel) :
      readLines fuel [] (blocksText blocks).toList = some (parts.flatten, []) := by
    rw [htext] at hfuel ⊢
    rw [readLines_rows hrows [] hfuel, flatMap_toList_rowsOf]
    rfl
  have hmark : ∀ cs, (blocksText blocks).toList ≠ '\ufeff' :: cs := by
    intro cs hcs
    have h := hread ((blocksText blocks).toList.length + 2) (by omega)
    rw [hcs, readLines_mark] at h
    cases h
  simp [parse?, run?, StateT.run, hread _ (Nat.lt_succ_self _)]

/-! ### Building the tree -/

namespace Fields

variable {done inner state : Fields} {node old : Node} {context : Fields → Fields} {origin : Origin}
  {closed : List Fields}

theorem lookup_absent (h : key ∉ done.map Prod.fst) : done.lookup key = none := by
  rw [List.lookup_eq_none_iff]
  intro f hf
  simp only [bne_iff_ne]
  rintro rfl
  exact h (List.mem_map_of_mem hf)

theorem lookup_last (h : key ∉ done.map Prod.fst) :
    (done ++ [(key, node)]).lookup key = some node := by
  simp [List.lookup_append, lookup_absent h]

theorem put_absent (h : key ∉ done.map Prod.fst) : put key node done = done ++ [(key, node)] := by
  induction done with
  | nil => rfl
  | cons f rest ih =>
    simp only [List.map_cons, List.mem_cons, not_or] at h
    simp [put, h.1, eq_comm, ih h.2]

theorem put_last (h : key ∉ done.map Prod.fst) :
    put key node (done ++ [(key, old)]) = done ++ [(key, node)] := by
  induction done with
  | nil => simp [put]
  | cons f rest ih =>
    simp only [List.map_cons, List.mem_cons, not_or] at h
    simp [put, h.1, eq_comm, ih h.2]

theorem within_append (change : Fields → Option Fields) (path : List Key) (key : Key)
    (fields : Fields) :
    within change (path ++ [key]) fields = within (within change [key]) path fields := by
  induction path generalizing fields with
  | nil => rfl
  | cons k path ih =>
    simp only [List.cons_append, within, ih]

/-- The document is `state`, and whatever is done at the path is done with `inner` inside of
`context`. -/
def At (path : List Key) (context : Fields → Fields) (inner state : Fields) : Prop :=
  ∀ change, within change path state = (change inner).map context

def Focus (path : List Key) (context : Fields → Fields) : Prop :=
  ∀ inner, At path context inner (context inner)

theorem focus_nil : Focus [] id := by
  intro inner change
  simp [within]

theorem Focus.intoTable (h : Focus path context) (hkey : key ∉ done.map Prod.fst) :
    Focus (path ++ [key]) fun inner => context (done ++ [(key, Node.table origin inner)]) := by
  intro inner change
  rw [within_append, h]
  simp [within, lookup_last hkey, put_last hkey, Function.comp_def]

theorem Focus.intoTables (h : Focus path context) (closed : List Fields)
    (hkey : key ∉ done.map Prod.fst) :
    Focus (path ++ [key]) fun inner => context (done ++ [(key, Node.tables closed inner)]) := by
  intro inner change
  rw [within_append, h]
  simp [within, lookup_last hkey, put_last hkey, Function.comp_def]

theorem At.intoNew (h : At path context done state) (hkey : key ∉ done.map Prod.fst) :
    At (path ++ [key]) (fun inner => context (done ++ [(key, Node.table .inner inner)]))
      [] state := by
  intro change
  rw [within_append, h]
  simp [within, lookup_absent hkey, put_absent hkey, Function.comp_def]

end Fields

open Fields

variable {done inner state : Fields} {context : Fields → Fields} {position : List Key}

@[simp] theorem toJsonFields_append (nodes more : Fields) :
    Node.toJsonFields (nodes ++ more) = Node.toJsonFields nodes ++ Node.toJsonFields more := by
  induction nodes with
  | nil => rfl
  | cons f rest ih => simp [Node.toJsonFields, ih]

@[simp] theorem toJsonTables_append (closed more : List Fields) :
    Node.toJsonTables (closed ++ more) = Node.toJsonTables closed ++ Node.toJsonTables more := by
  induction closed with
  | nil => rfl
  | cons f rest ih => simp [Node.toJsonTables, ih]

theorem map_fst_toJsonFields (nodes : Fields) :
    (Node.toJsonFields nodes).map Prod.fst = nodes.map Prod.fst := by
  induction nodes with
  | nil => rfl
  | cons f rest ih => simp [Node.toJsonFields, ih]

theorem add_header (hat : At path context done state) (hkey : key ∉ done.map Prod.fst) :
    Document.add ⟨state, position⟩ (.header path key) =
      some ⟨context (done ++ [(key, Node.table .header [])]), path ++ [key]⟩ := by
  simp [Document.add, hat _, openTable, lookup_absent hkey, put_absent hkey]

theorem add_arrayHeader (hat : At path context done state) (hkey : key ∉ done.map Prod.fst) :
    Document.add ⟨state, position⟩ (.arrayHeader path key) =
      some ⟨context (done ++ [(key, Node.tables [] [])]), path ++ [key]⟩ := by
  simp [Document.add, hat _, openNext, lookup_absent hkey, put_absent hkey]

theorem add_arrayHeader_next {closed : List Fields} {last : Fields} (hfocus : Focus path context)
    (hkey : key ∉ done.map Prod.fst) :
    Document.add ⟨context (done ++ [(key, Node.tables closed last)]), position⟩
        (.arrayHeader path key) =
      some ⟨context (done ++ [(key, Node.tables (closed ++ [last]) [])]), path ++ [key]⟩ := by
  simp [Document.add, hfocus _ _, openNext, lookup_last hkey, put_last hkey]

def leaves (entries : List (String × Json)) : Fields :=
  entries.map fun f => (f.1, .leaf f.2)

theorem toJsonFields_leaves (entries : List (String × Json)) :
    Node.toJsonFields (leaves entries) = entries := by
  induction entries with
  | nil => rfl
  | cons f rest ih => simpa [leaves, Node.toJsonFields, Node.toJson] using ih

theorem foldlM_entries (hfocus : Focus path context)
    (hnames : (done.map Prod.fst ++ entries.map Prod.fst).Nodup) :
    (entries.map Line.ofField).foldlM Document.add ⟨context done, path⟩ =
      some ⟨context (done ++ leaves entries), path⟩ := by
  induction entries generalizing done with
  | nil => simp [leaves]
  | cons f rest ih =>
    have hkey : f.1 ∉ done.map Prod.fst :=
      fun h => (List.nodup_append.mp hnames).2.2 f.1 h f.1 (by simp) rfl
    have hstep : Document.add ⟨context done, path⟩ (Line.ofField f) =
        some ⟨context (done ++ [(f.1, Node.leaf f.2)]), path⟩ := by
      simp [Document.add, Line.ofField, hfocus _ _, Fields.insert, insertNew,
        lookup_absent hkey, put_absent hkey]
    have hrest := @ih (done ++ [(f.1, Node.leaf f.2)]) (by simpa using hnames)
    rw [List.map_cons, List.foldlM_cons, hstep]
    simpa [leaves] using hrest

def Adds (path : List Key) (context : Fields → Fields) (f : String × Json) : Prop :=
  ∀ {done state : Fields} (position : List Key), At path context done state →
    f.1 ∉ done.map Prod.fst →
    ∃ node place, (outline path f.1 f.2).flatten.foldlM Document.add ⟨state, position⟩ =
      some ⟨context (done ++ [(f.1, node)]), place⟩ ∧ node.toJson = f.2

theorem foldlM_tables (hfocus : Focus path context) (hadds : ∀ f ∈ tables, Adds path context f)
    (hnames : (done.map Prod.fst ++ tables.map Prod.fst).Nodup) (position : List Key) :
    ∃ nodes place, (tables.flatMap fun f => outline path f.1 f.2).flatten.foldlM Document.add
      ⟨context done, position⟩ =
      some ⟨context (done ++ nodes), place⟩ ∧ Node.toJsonFields nodes = tables := by
  induction tables generalizing done position with
  | nil => exact ⟨[], position, by simp, rfl⟩
  | cons f rest ih =>
    have hkey : f.1 ∉ done.map Prod.fst :=
      fun h => (List.nodup_append.mp hnames).2.2 f.1 h f.1 (by simp) rfl
    obtain ⟨node, place, hfirst, hnode⟩ := hadds f (by simp) position (hfocus done) hkey
    obtain ⟨nodes, last, hrest, hnodes⟩ :=
      @ih (done ++ [(f.1, node)]) (fun g hg => hadds g (by simp [hg])) (by simpa using hnames) place
    refine ⟨(f.1, node) :: nodes, last, ?_, by simp [Node.toJsonFields, hnode, hnodes]⟩
    simp [List.foldlM_append, hfirst, hrest]

def Builds (fields : List (String × Json)) : Prop :=
  ∀ {path : List Key} {context : Fields → Fields}, Focus path context →
    ∃ nodes place, (entryLines fields ++ (outlineFields path fields).flatten).foldlM Document.add
      ⟨context [], path⟩ =
        some ⟨context nodes, place⟩ ∧ Node.toJsonFields nodes = fields

def BuildsBare (fields : List (String × Json)) : Prop :=
  ∀ {path : List Key} {context : Fields → Fields} {state : Fields} (position : List Key),
    Focus path context → At path context [] state → entriesOf fields = [] → fields ≠ [] →
    ∃ nodes place, (outlineFields path fields).flatten.foldlM Document.add ⟨state, position⟩ =
      some ⟨context nodes, place⟩ ∧ Node.toJsonFields nodes = fields

theorem adds_obj (hfocus : Focus path context) (hbuilds : Builds fields)
    (hbare : BuildsBare fields) : Adds path context (key, .obj fields) := by
  intro done state position hat hkey
  by_cases hown : (entriesOf fields).isEmpty && !fields.isEmpty
  · simp only [Bool.and_eq_true, List.isEmpty_iff, Bool.not_eq_true',
      List.isEmpty_eq_false_iff] at hown
    obtain ⟨nodes, place, hfold, hnodes⟩ :=
      hbare position (hfocus.intoTable hkey) (hat.intoNew hkey) hown.1 hown.2
    refine ⟨.table .inner nodes, place, ?_, by simp [Node.toJson, hnodes]⟩
    simpa [outline, ownLines, hown] using hfold
  · obtain ⟨nodes, place, hfold, hnodes⟩ := hbuilds (hfocus.intoTable hkey)
    refine ⟨.table .header nodes, place, ?_, by simp [Node.toJson, hnodes]⟩
    simp only [outline, ownLines, hown]
    simpa [add_header hat hkey, List.foldlM_append] using hfold

theorem flatten_outlineItems (path : List Key) (key : Key) (fields : List (String × Json))
    (rest : List Json) :
    (outlineItems path key (.obj fields :: rest)).flatten = .arrayHeader path key ::
      ((entryLines fields ++ (outlineFields (path ++ [key]) fields).flatten) ++
        (outlineItems path key rest).flatten) := by
  simp [outlineItems]

theorem foldlM_items {items : List Json} (closed : List Fields) (last : Fields)
    (hfocus : Focus path context) (hkey : key ∉ done.map Prod.fst)
    (hitems : ∀ i ∈ items, ∃ fields, i = .obj fields ∧ Builds fields) (position : List Key) :
    ∃ closed' last' place, (outlineItems path key items).flatten.foldlM Document.add
        ⟨context (done ++ [(key, Node.tables closed last)]), position⟩ =
          some ⟨context (done ++ [(key, Node.tables closed' last')]), place⟩ ∧
      Node.toJson (.tables closed' last') =
        .arr (Node.toJsonTables closed ++ .obj (Node.toJsonFields last) :: items) := by
  induction items generalizing closed last position with
  | nil => exact ⟨closed, last, position, by simp [outlineItems], by simp [Node.toJson]⟩
  | cons i rest ih =>
    obtain ⟨fields, rfl, hbuilds⟩ := hitems i (by simp)
    obtain ⟨nodes, place, hfold, hnodes⟩ := hbuilds (hfocus.intoTables (closed ++ [last]) hkey)
    obtain ⟨closed', last', final, hrest, hjson⟩ :=
      ih (closed ++ [last]) nodes (fun i hi => hitems i (by simp [hi])) place
    refine ⟨closed', last', final, ?_, by simp [hjson, hnodes, Node.toJsonTables]⟩
    rw [flatten_outlineItems, List.foldlM_cons, add_arrayHeader_next hfocus hkey,
      Option.bind_eq_bind, Option.bind_some, List.foldlM_append, hfold]
    exact hrest

theorem adds_arr {items : List Json} (hfocus : Focus path context) (hne : items ≠ [])
    (hitems : ∀ i ∈ items, ∃ fields, i = .obj fields ∧ Builds fields) :
    Adds path context (key, .arr items) := by
  intro done state position hat hkey
  cases items with
  | nil => exact absurd rfl hne
  | cons i rest =>
    obtain ⟨fields, rfl, hbuilds⟩ := hitems i (by simp)
    have hothers : ∀ i ∈ rest, ∃ fields, i = .obj fields ∧ Builds fields :=
      fun i hi => hitems i (by simp [hi])
    obtain ⟨nodes, place, hfold, hnodes⟩ := hbuilds (hfocus.intoTables [] hkey)
    obtain ⟨closed, last, final, hrest, hjson⟩ := foldlM_items [] nodes hfocus hkey hothers place
    refine ⟨.tables closed last, final, ?_, by simp [hjson, hnodes, Node.toJsonTables]⟩
    rw [outline, flatten_outlineItems, List.foldlM_cons, add_arrayHeader hat hkey,
      Option.bind_eq_bind, Option.bind_some, List.foldlM_append, hfold]
    exact hrest

/-- A documented table is built up from its lines, with a header or without. -/
theorem Documented.builds (h : Documented room fields) : Builds fields ∧ BuildsBare fields := by
  induction h with
  | @intro room entries tables hnames hentries htables hobj harr ihobj iharr =>
    have hadds {path : List Key} {context : Fields → Fields} (hfocus : Focus path context) :
        ∀ f ∈ tables, Adds path context f := by
      rintro ⟨key, j⟩ hf
      rcases hasHeader_cases (htables (key, j) hf) with ⟨fields, rfl⟩ | ⟨items, rfl, hne, hitems⟩
      · exact adds_obj hfocus (ihobj key fields hf).1 (ihobj key fields hf).2
      · apply adds_arr hfocus hne
        intro i hi
        obtain ⟨fields, rfl⟩ := hitems i hi
        exact ⟨fields, rfl, (iharr key items fields hf hi).1⟩
    rw [List.map_append] at hnames
    constructor
    · intro path context hfocus
      have hleaves := @foldlM_entries path entries [] context hfocus
        (by simpa using (List.nodup_append.mp hnames).1)
      obtain ⟨nodes, place, hfold, hnodes⟩ :=
        @foldlM_tables path tables (leaves entries) context hfocus (hadds hfocus)
        (by rwa [← map_fst_toJsonFields, toJsonFields_leaves]) path
      refine ⟨leaves entries ++ nodes, place, ?_, by simp [toJsonFields_leaves, hnodes]⟩
      rw [entryLines, entriesOf_append hentries htables, outlineFields_append hentries htables,
        List.foldlM_append, hleaves]
      exact hfold
    · intro path context state position hfocus hat hempty hne
      rw [entriesOf_append hentries htables] at hempty
      subst hempty
      cases tables with
      | nil => exact absurd rfl hne
      | cons f rest =>
        obtain ⟨node, place, hfirst, hnode⟩ := hadds hfocus f (by simp) position hat (by simp)
        obtain ⟨nodes, final, hrest, hnodes⟩ :=
          @foldlM_tables path rest [(f.1, node)] context hfocus
          (fun g hg => hadds hfocus g (by simp [hg])) (by simpa using hnames) place
        refine ⟨(f.1, node) :: nodes, final, ?_, by simp [Node.toJsonFields, hnode, hnodes]⟩
        rw [outlineFields_append hentries htables, List.flatMap_cons, List.flatten_append,
          List.foldlM_append, hfirst]
        exact hrest

theorem Documented.ofLines?_eq (h : Documented room fields) :
    ofLines? (entryLines fields ++ (outlineFields [] fields).flatten) = some (.obj fields) := by
  obtain ⟨nodes, place, hfold, hnodes⟩ := h.builds.1 focus_nil
  rw [ofLines?]
  simp only [id] at hfold
  simp [hfold, hnodes]

theorem Documented.parse?_print? (h : Documented room fields) (hroom : room ≤ maxDepth) :
    ∃ text, print? (.obj fields) = some text ∧ parse? text = some (.obj fields) := by
  obtain ⟨texts, htexts, hentries⟩ := mapM_print?_spelled h.entryLines_written
  have hsound : ∀ part ∈ outlineFields [] fields, Sound part :=
    h.outlineFields_sound (by simpa using hroom)
  obtain ⟨sections, hsections, hparts⟩ := mapM_ofLines?_spelled hsound
  have hblocks : List.Forall₂ (List.Forall₂ Spelled) (outlineFields [] fields)
      (sections.map fun s => s.header :: s.lines) := by
    rwa [List.forall₂_map_right_iff]
  have hbodies : sections.map Section.print =
      (sections.map fun s => s.header :: s.lines).map fun texts =>
      String.join (texts.map (· ++ "\n")) := by
    rw [List.map_map]
    rfl
  have hprint : print? (.obj fields) = some ("\n".intercalate
      ((if texts.isEmpty then [] else [String.join (texts.map (· ++ "\n"))]) ++
        sections.map Section.print)) := by
    simp only [print?, entryLines?_eq, htexts, sectionsOfFields?_eq, hsections]
    rfl
  have hlines := h.ofLines?_eq
  refine ⟨_, hprint, ?_⟩
  rw [hbodies]
  generalize entryLines fields = lines at hentries hlines
  cases hentries with
  | nil => exact (parse?_blocksText hblocks).trans hlines
  | cons hline hrest => exact (parse?_blocksText (.cons (.cons hline hrest) hblocks)).trans hlines

end Lifeline.Toml
