import Lifeline.Diagram.Mermaid
import Lifeline.Proofs.Fragments
import Lifeline.Proofs.Aliases

namespace Lifeline

namespace Text

structure LineEnds (isEnd : Char → Bool) : Prop where
  newline : isEnd '\n' = true
  white : ∀ c, isEnd c = true → isWhite c = true
  blank : isEnd ' ' = false

def OneLine (isEnd : Char → Bool) (s : String) : Prop :=
  ∀ c ∈ s.toList, isEnd c = false

def splitLines (isEnd : Char → Bool) (s : String) : List String :=
  (s.toList.splitOnP isEnd).map String.ofList

variable {isEnd : Char → Bool} {s t : String}

@[simp] theorem oneLine_append : OneLine isEnd (s ++ t) ↔ OneLine isEnd s ∧ OneLine isEnd t := by
  simp [OneLine, or_imp, forall_and]

theorem splitLines_eq_singleton (h : OneLine isEnd s) : splitLines isEnd s = [s] := by
  simp [splitLines, List.splitOnP_eq_singleton h]

theorem notMem_of_mem_splitOnP {text piece : List Char} (h : piece ∈ text.splitOnP isEnd) :
    ∀ c ∈ piece, isEnd c = false := by
  induction text generalizing piece with
  | nil => simp_all
  | cons c rest ih =>
    rw [List.splitOnP_cons_eq_if_modifyHead] at h
    split at h
    · rcases List.mem_cons.1 h with rfl | h
      · simp
      · exact ih h
    case isFalse hc =>
      obtain ⟨first, others, heq⟩ := List.exists_cons_of_ne_nil (List.splitOnP_ne_nil isEnd rest)
      rw [heq] at h ih
      rcases List.mem_cons.1 h with rfl | h
      · exact List.forall_mem_cons.2 ⟨by simpa using hc, ih List.mem_cons_self⟩
      · exact ih (List.mem_cons_of_mem _ h)

theorem oneLine_of_mem_splitLines (h : t ∈ splitLines isEnd s) : OneLine isEnd t := by
  obtain ⟨piece, hpiece, rfl⟩ := List.mem_map.1 h
  simpa [OneLine] using notMem_of_mem_splitOnP hpiece

theorem splitLines_unlines (hend : isEnd '\n' = true) (lines : List String) :
    splitLines isEnd (unlines lines) = lines.flatMap (splitLines isEnd) ++ [""] := by
  induction lines with
  | nil => rfl
  | cons line rest ih =>
    have htext :
        (unlines (line :: rest)).toList = line.toList ++ '\n' :: (unlines rest).toList := by
      simp [unlines]
    rw [splitLines, htext, List.splitOnP_append_cons _ _ hend, List.map_append, List.flatMap_cons,
      List.append_assoc, ← ih]
    rfl

theorem exists_of_mem_hex {width n : Nat} {c : Char} (h : c ∈ (hex width n).toList) :
    ∃ k < 16, c = hexDigit k := by
  rw [hex, String.toList_ofList] at h
  induction width generalizing n with
  | zero => simp [hexDigits] at h
  | succ width ih =>
    rw [hexDigits] at h
    rcases List.mem_append.1 h with h | h
    · exact ih h
    · exact ⟨n % 16, Nat.mod_lt _ (by decide), List.mem_singleton.1 h⟩

namespace LineEnds

variable (h : LineEnds isEnd)

include h

theorem not_of_not_white {c : Char} (hc : isWhite c = false) : isEnd c = false := by
  by_contra hend
  simp [h.white c (by simpa using hend)] at hc

theorem oneLine_of_all (hs : s.toList.all (fun c => c == ' ' || !isWhite c) = true) :
    OneLine isEnd s := by
  intro c hc
  have hplain := List.all_eq_true.1 hs c hc
  rcases Bool.or_eq_true_iff.1 hplain with hblank | hwhite
  · rw [eq_of_beq hblank]
    exact h.blank
  · exact h.not_of_not_white (by simpa using hwhite)

end LineEnds

theorem oneLine_intercalate {separator : String} {parts : List String}
    (hseparator : OneLine isEnd separator) (hparts : ∀ part ∈ parts, OneLine isEnd part) :
    OneLine isEnd (separator.intercalate parts) := by
  induction parts with
  | nil => simp [OneLine]
  | cons part rest ih =>
    obtain ⟨hpart, hrest⟩ := List.forall_mem_cons.1 hparts
    by_cases hnil : rest = []
    · simpa [hnil] using hpart
    · rw [String.intercalate_cons_of_ne_nil hnil]
      simp [hpart, hseparator, ih hrest]

theorem not_white_of_mem_words {text : List Char} :
    ∀ word ∈ words text, ∀ c ∈ word, isWhite c = false := by
  have hfold : (∀ c ∈ (text.foldr wordStep ([], [])).1, isWhite c = false) ∧
      ∀ word ∈ (text.foldr wordStep ([], [])).2, ∀ c ∈ word, isWhite c = false := by
    induction text with
    | nil => simp
    | cons c rest ih =>
      rw [List.foldr_cons]
      obtain ⟨hword, hwords⟩ := ih
      generalize rest.foldr wordStep ([], []) = state at hword hwords
      obtain ⟨word, words⟩ := state
      simp only [wordStep]
      split
      · refine ⟨by simp, ?_⟩
        split
        · exact hwords
        · exact List.forall_mem_cons.2 ⟨hword, hwords⟩
      case isFalse hc => exact ⟨List.forall_mem_cons.2 ⟨by simpa using hc, hword⟩, hwords⟩
  unfold words
  split
  case h_1 word words heq =>
    rw [heq] at hfold
    split
    · exact hfold.2
    · exact List.forall_mem_cons.2 hfold

theorem LineEnds.oneLine_singleLine (h : LineEnds isEnd) (s : String) :
    OneLine isEnd (singleLine s) := by
  refine oneLine_intercalate (h.oneLine_of_all rfl) fun part hpart => ?_
  obtain ⟨word, hword, rfl⟩ := List.mem_map.1 hpart
  intro c hc
  rw [String.toList_ofList] at hc
  exact h.not_of_not_white (not_white_of_mem_words word hword c hc)

end Text

open Text (LineEnds OneLine splitLines)

/-- Names, operations and headings stand on one line each; captions and notes are any text. -/
structure Diagram.Tidy (isEnd : Char → Bool) (d : Diagram) : Prop where
  names : ∀ p ∈ d.participants, OneLine isEnd p.fullName
  operations : ∀ s ∈ d.interactions, ∀ m ∈ s.messages.toList, OneLine isEnd m.operation
  labels : ∀ s ∈ d.interactions, OneLine isEnd s.label

def Message.shownNote? (m : Message) : Option String :=
  if m.isResponse then none else m.note

namespace Mermaid

variable {isEnd : Char → Bool} {d : Diagram} {s t : String}

inductive Statement
  | lifeline (p : Participant)
  | box
  | heading (s : Interaction)
  | fragment (f : Fragment)
  | message (m : Message)
  | note (m : Message) (text : String)
  | boxEnd

def stepStatements : DrawStep → List Statement
  | .fragment f => [.fragment f]
  | .message m => .message m :: m.shownNote?.toList.map (.note m)

def interactionStatements (d : Diagram) (s : Interaction) : List Statement :=
  let body := s.steps.flatMap stepStatements
  if d.interactions.length > 1 then [.box, .heading s] ++ body ++ [.boxEnd] else body

def statements (d : Diagram) : List Statement :=
  d.lifelines.map .lifeline ++ d.interactions.flatMap (interactionStatements d)

def messageText (d : Diagram) (m : Message) : String :=
  let sender := (d.lifeline m.sender).alias
  let receiver := (d.lifeline m.receiver).alias
  if m.isResponse then
    sender ++ "-->>" ++ receiver ++ ": " ++
      (if m.operation = "void" then "" else escape m.operation)
  else sender ++ arrow m ++ receiver ++ ": " ++ label m

def Statement.text (d : Diagram) : Statement → String
  | .lifeline p => declaration p
  | .box => "rect rgb(250, 250, 250)"
  | .heading s => "Note over " ++ headingAlias d s ++ ": " ++ escape s.label
  | .fragment f => fragmentLine f
  | .message m => messageText d m
  | .note m text =>
    "Note right of " ++ (d.lifeline m.receiver).alias ++ ": " ++ escape (Text.noteText text)
  | .boxEnd => "end"

def Statement.line (d : Diagram) (s : Statement) : String :=
  "    " ++ s.text d

theorem messageLines_eq (d : Diagram) (m : Message) :
    messageLines d m = (stepStatements (.message m)).map (Statement.text d) := by
  obtain ⟨sender, receiver, operation, kind, context, depth, scope, certainty, location,
    returnType, note⟩ := m
  cases kind <;> cases note <;> rfl

theorem stepLines_eq (d : Diagram) (step : DrawStep) :
    stepLines d step = (stepStatements step).map (Statement.text d) := by
  cases step with
  | fragment f => rfl
  | message m => exact messageLines_eq d m

theorem interactionLines_eq (d : Diagram) (s : Interaction) :
    interactionLines d s = (interactionStatements d s).map (Statement.text d) := by
  have hbody :
      s.steps.flatMap (stepLines d) = (s.steps.flatMap stepStatements).map (Statement.text d) := by
    rw [List.map_flatMap]
    exact List.flatMap_congr fun step _ => stepLines_eq d step
  unfold interactionLines interactionStatements
  split
  · simp only [List.map_append, hbody]
    rfl
  · exact hbody

theorem lines_eq (d : Diagram) :
    lines d = "sequenceDiagram" :: (statements d).map (Statement.line d) := by
  have hinteractions : d.interactions.flatMap (interactionLines d) =
      (d.interactions.flatMap (interactionStatements d)).map (Statement.text d) := by
    rw [List.map_flatMap]
    exact List.flatMap_congr fun s _ => interactionLines_eq d s
  have hlifelines :
      d.lifelines.map declaration =
        (d.lifelines.map Statement.lifeline).map (Statement.text d) := by
    rw [List.map_map]
    rfl
  rw [lines, hinteractions, hlifelines, ← List.map_append, List.map_map]
  rfl

theorem escape_append (s t : String) : escape (s ++ t) = escape s ++ escape t := by
  simp [escape]

theorem escape_eq_self (hs : ∀ c ∈ s.toList, c ≠ '#' ∧ c ≠ ';') : escape s = s := by
  have hchars : s.toList.flatMap escapeChar = s.toList := by
    conv_rhs => rw [← List.flatMap_singleton' s.toList]
    refine List.flatMap_congr fun c hc => ?_
    obtain ⟨hnumber, hsemicolon⟩ := hs c hc
    unfold escapeChar
    split
    · exact absurd rfl hnumber
    · exact absurd rfl hsemicolon
    · rfl
  rw [escape, hchars, String.ofList_toList]

theorem oneLine_escape (h : LineEnds isEnd) : OneLine isEnd (escape s) ↔ OneLine isEnd s := by
  have hchar : ∀ c, (∀ e ∈ escapeChar c, isEnd e = false) ↔ isEnd c = false := by
    intro c
    have hmarks : isEnd '#' = false ∧ isEnd ';' = false ∧ isEnd '3' = false ∧
        isEnd '5' = false ∧ isEnd '9' = false :=
      ⟨h.not_of_not_white rfl, h.not_of_not_white rfl, h.not_of_not_white rfl,
        h.not_of_not_white rfl, h.not_of_not_white rfl⟩
    unfold escapeChar
    split <;> simp [hmarks]
  simp only [OneLine, escape, String.toList_ofList, List.mem_flatMap]
  constructor
  · exact fun hs c hc => (hchar c).1 fun e he => hs e ⟨c, hc, he⟩
  · rintro hs e ⟨c, hc, he⟩
    exact (hchar c).2 (hs c hc) e he

/-- The escaped form of some text: in it semicolons only end entities. -/
def IsEscaped (s : String) : Prop :=
  ∃ t, s = escape t

theorem IsEscaped.append (hs : IsEscaped s) (ht : IsEscaped t) : IsEscaped (s ++ t) := by
  obtain ⟨s, rfl⟩ := hs
  obtain ⟨t, rfl⟩ := ht
  exact ⟨s ++ t, (escape_append s t).symm⟩

structure Clean (isEnd : Char → Bool) (s : String) : Prop where
  oneLine : OneLine isEnd s
  escaped : IsEscaped s

def isPlain (c : Char) : Bool :=
  (c == ' ' || !Text.isWhite c) && c != '#' && c != ';'

namespace Clean

theorem append (hs : Clean isEnd s) (ht : Clean isEnd t) : Clean isEnd (s ++ t) :=
  ⟨Text.oneLine_append.2 ⟨hs.oneLine, ht.oneLine⟩, hs.escaped.append ht.escaped⟩

theorem escape (h : LineEnds isEnd) (hs : OneLine isEnd s) : Clean isEnd (Mermaid.escape s) :=
  ⟨(oneLine_escape h).2 hs, s, rfl⟩

theorem plain (h : LineEnds isEnd) (hs : s.toList.all isPlain = true) : Clean isEnd s := by
  have hchars : ∀ c ∈ s.toList, ((c == ' ' || !Text.isWhite c) = true ∧ c ≠ '#') ∧ c ≠ ';' := by
    simpa [isPlain] using hs
  refine ⟨h.oneLine_of_all (List.all_eq_true.2 fun c hc => (hchars c hc).1.1), s,
    (escape_eq_self fun c hc => ?_).symm⟩
  exact ⟨(hchars c hc).1.2, (hchars c hc).2⟩

theorem «alias» (h : LineEnds isEnd) (id : ParticipantId) : Clean isEnd id.alias := by
  have hdigit : ∀ k < 16, isPlain (Text.hexDigit k) = true := by decide
  refine append (plain h rfl) (plain h (List.all_eq_true.2 fun c hc => ?_))
  obtain ⟨k, hk, rfl⟩ := Text.exists_of_mem_hex hc
  exact hdigit k hk

theorem headingAlias (h : LineEnds isEnd) (s : Interaction) :
    Clean isEnd (Mermaid.headingAlias d s) := by
  unfold Mermaid.headingAlias
  split
  · exact Clean.alias h _
  · cases d.lifelines.head? with
    | none => exact plain h rfl
    | some p => exact Clean.alias h p.id

theorem caption (h : LineEnds isEnd) (f : Frame) {fallback : String}
    (hfallback : OneLine isEnd fallback) :
    Clean isEnd (Mermaid.escape (f.caption?.getD fallback)) := by
  refine Clean.escape h ?_
  cases hcaption : f.caption? with
  | none => exact hfallback
  | some text =>
    obtain ⟨hlabel, -⟩ := Option.filter_eq_some_iff.1 hcaption
    obtain ⟨label, -, rfl⟩ := Option.map_eq_some_iff.1 hlabel
    exact h.oneLine_singleLine label

theorem opening (h : LineEnds isEnd) (f : Frame) :
    Clean isEnd (Mermaid.opening f).1 ∧ Clean isEnd (Mermaid.opening f).2 := by
  cases f <;> simp only [Mermaid.opening] <;> exact ⟨plain h rfl, plain h rfl⟩

theorem alternative (h : LineEnds isEnd) (f : Frame) : Clean isEnd (Mermaid.alternative f) := by
  cases f <;> simp only [Mermaid.alternative] <;> exact plain h rfl

theorem fragmentLine (h : LineEnds isEnd) (f : Fragment) :
    Clean isEnd (Mermaid.fragmentLine f) := by
  cases f with
  | opening f =>
    obtain ⟨hkeyword, hfallback⟩ := opening h f
    exact (hkeyword.append (plain h rfl)).append (caption h f hfallback.oneLine)
  | «alternative» f =>
    exact ((alternative h f).append (plain h rfl)).append (caption h f (plain h rfl).oneLine)
  | closing f =>
    simp only [Mermaid.fragmentLine]
    exact plain h rfl

theorem label (h : LineEnds isEnd) {m : Message} (hm : OneLine isEnd m.operation) :
    Clean isEnd (Mermaid.label m) := by
  have hoperation := Clean.escape h hm
  unfold Mermaid.label
  dsimp only
  split <;> split
  · exact ((plain h rfl).append ((plain h rfl).append hoperation)).append (plain h rfl)
  · exact ((plain h rfl).append hoperation).append (plain h rfl)
  · exact (plain h rfl).append hoperation
  · exact hoperation

theorem messageText (h : LineEnds isEnd) {m : Message} (hm : OneLine isEnd m.operation) :
    Clean isEnd (Mermaid.messageText d m) := by
  unfold Mermaid.messageText
  dsimp only
  split
  · have hanswer :
        Clean isEnd (if m.operation = "void" then "" else Mermaid.escape m.operation) := by
      split
      · exact plain h rfl
      · exact Clean.escape h hm
    exact ((((Clean.alias h _).append (plain h rfl)).append (Clean.alias h _)).append
      (plain h rfl)).append hanswer
  · have harrow : Clean isEnd (arrow m) := by
      unfold arrow
      split <;> exact plain h rfl
    exact ((((Clean.alias h _).append harrow).append (Clean.alias h _)).append (plain h rfl)).append
      (label h hm)

theorem declaration (h : LineEnds isEnd) {p : Participant} (hp : OneLine isEnd p.fullName) :
    Clean isEnd (Mermaid.declaration p) := by
  have hkeyword : Clean isEnd (keyword p.kind) := by
    unfold keyword
    split <;> exact plain h rfl
  exact (((hkeyword.append (plain h rfl)).append (Clean.alias h _)).append (plain h rfl)).append
    (Clean.escape h hp)

end Clean

section

variable {x : Statement}

def Shows (d : Diagram) (m : Message) (text : String) : Prop :=
  ∃ s ∈ d.interactions, m ∈ s.messages.toList ∧ m.shownNote? = some text

theorem mem_steps {s : Interaction} {m : Message} :
    .message m ∈ s.steps ↔ m ∈ s.messages.toList := by
  rw [← (Interaction.drawnBy_steps s).messages, List.mem_filterMap]
  constructor
  · exact fun h => ⟨_, h, rfl⟩
  · rintro ⟨step, hstep, hm⟩
    cases step with
    | fragment f => cases hm
    | message n =>
      cases hm
      exact hstep

theorem mem_stepStatements {s : Interaction} : x ∈ s.steps.flatMap stepStatements ↔
    (∃ f, .fragment f ∈ s.steps ∧ x = .fragment f) ∨
    ∃ m ∈ s.messages.toList, x = .message m ∨
      ∃ text, m.shownNote? = some text ∧ x = .note m text := by
  rw [List.mem_flatMap]
  constructor
  · rintro ⟨step, hstep, hx⟩
    cases step with
    | fragment f => exact .inl ⟨f, hstep, List.mem_singleton.1 hx⟩
    | message m =>
      exact .inr ⟨m, mem_steps.1 hstep, by simpa [stepStatements, eq_comm, and_comm] using hx⟩
  · rintro (⟨f, hf, rfl⟩ | ⟨m, hm, hx⟩)
    · exact ⟨_, hf, List.mem_singleton_self _⟩
    · exact ⟨_, mem_steps.2 hm, by simpa [stepStatements, eq_comm, and_comm] using hx⟩

theorem note_mem_statements {m : Message} {text : String} :
    .note m text ∈ statements d ↔ Shows d m text := by
  have hbody : ∀ s : Interaction, .note m text ∈ interactionStatements d s ↔
      m ∈ s.messages.toList ∧ m.shownNote? = some text := by
    intro s
    have hsteps : .note m text ∈ s.steps.flatMap stepStatements ↔
        m ∈ s.messages.toList ∧ m.shownNote? = some text := by
      rw [mem_stepStatements]
      simp
    unfold interactionStatements
    dsimp only
    split
    · rw [List.mem_append, List.mem_append, hsteps]
      simp
    · exact hsteps
  simp [statements, Shows, List.mem_flatMap, hbody]

theorem clean_text (h : LineEnds isEnd) (hd : d.Tidy isEnd) (hx : x ∈ statements d) :
    Clean isEnd (x.text d) ∨ ∃ m text, x = .note m text := by
  rcases List.mem_append.1 hx with hx | hx
  · obtain ⟨p, hp, rfl⟩ := List.mem_map.1 hx
    exact .inl (.declaration h (hd.names p (List.mem_filter.1 hp).1))
  · obtain ⟨s, hs, hx⟩ := List.mem_flatMap.1 hx
    have hbody :
        x ∈ s.steps.flatMap stepStatements →
          Clean isEnd (x.text d) ∨ ∃ m text, x = .note m text := by
      intro hx
      rcases mem_stepStatements.1 hx with ⟨f, -, rfl⟩ | ⟨m, hm, rfl | ⟨text, -, rfl⟩⟩
      · exact .inl (.fragmentLine h f)
      · exact .inl (.messageText h (hd.operations s hs m hm))
      · exact .inr ⟨m, text, rfl⟩
    unfold interactionStatements at hx
    dsimp only at hx
    split at hx
    · simp only [List.mem_append, List.mem_cons, List.not_mem_nil, or_false] at hx
      have hbox : Clean isEnd "rect rgb(250, 250, 250)" := .plain h rfl
      have hboxEnd : Clean isEnd "end" := .plain h rfl
      rcases hx with ((rfl | rfl) | hx) | rfl
      · exact .inl hbox
      · refine .inl
          ((((Clean.plain h rfl).append (.headingAlias h s)).append (.plain h rfl)).append ?_)
        exact .escape h (hd.labels s hs)
      · exact hbody hx
      · exact .inl hboxEnd
    · exact hbody hx

theorem text_note (d : Diagram) (m : Message) (text : String) : Statement.text d (.note m text) =
    "Note right of " ++ (d.lifeline m.receiver).alias ++ ": " ++ escape (Text.noteText text) := rfl

theorem clean_beforeNote (h : LineEnds isEnd) (id : ParticipantId) :
    Clean isEnd ("Note right of " ++ id.alias ++ ": ") :=
  ((Clean.plain h rfl).append (.alias h id)).append (.plain h rfl)

theorem isEscaped_note (h : LineEnds isEnd) (m : Message) (text : String) :
    IsEscaped (Statement.text d (.note m text)) := by
  rw [text_note]
  exact (clean_beforeNote h _).escaped.append ⟨_, rfl⟩

theorem oneLine_note (h : LineEnds isEnd) (m : Message) (text : String) :
    OneLine isEnd (Statement.text d (.note m text)) ↔ OneLine isEnd (Text.noteText text) := by
  rw [text_note, Text.oneLine_append, oneLine_escape h]
  exact and_iff_right (clean_beforeNote h _).oneLine

theorem oneLine_line (h : LineEnds isEnd) :
    OneLine isEnd (x.line d) ↔ OneLine isEnd (x.text d) := by
  have hindent : Clean isEnd "    " := .plain h rfl
  simp [Statement.line, hindent.oneLine]

theorem isEscaped_line (hx : IsEscaped (x.text d)) : IsEscaped (x.line d) :=
  IsEscaped.append ⟨"    ", rfl⟩ hx

end

/-- A diagram as text is its header and its statements in order, and every statement is an escaped
text. A statement that is no note is one line, so no caption ends a statement or starts another. A
note has as many lines as its text. So each statement is one line if, and only if, no note that is
shown has a line end inside. -/
theorem notes_break_lines (h : LineEnds isEnd) (hd : d.Tidy isEnd) :
    splitLines isEnd (render d) =
      ["sequenceDiagram"] ++ (statements d).flatMap (fun x => splitLines isEnd (x.line d)) ++ [""] ∧
    (∀ x ∈ statements d, IsEscaped (x.line d) ∧
      (splitLines isEnd (x.line d) = [x.line d] ∨ ∃ m text, x = .note m text)) ∧
    (splitLines isEnd (render d) =
      ["sequenceDiagram"] ++ (statements d).map (Statement.line d) ++ [""] ↔
      ∀ s ∈ d.interactions, ∀ m ∈ s.messages.toList, ∀ text, m.shownNote? = some text →
        OneLine isEnd (Text.noteText text)) := by
  have hheader : Clean isEnd "sequenceDiagram" := .plain h rfl
  have hsplit : splitLines isEnd (render d) =
      ["sequenceDiagram"] ++ (statements d).flatMap (fun x => splitLines isEnd (x.line d)) ++
      [""] := by
    rw [render, lines_eq, Text.splitLines_unlines h.newline, List.flatMap_cons,
      Text.splitLines_eq_singleton hheader.oneLine, List.flatMap_map]
  have hclean : ∀ x ∈ statements d, OneLine isEnd (x.line d) ∨ ∃ m text, x = .note m text :=
    fun x hx =>
    (clean_text h hd hx).imp_left fun hx => (oneLine_line h).2 hx.oneLine
  refine ⟨hsplit, fun x hx => ⟨?_, (hclean x hx).imp_left Text.splitLines_eq_singleton⟩, ?_, ?_⟩
  · rcases clean_text h hd hx with hx | ⟨m, text, rfl⟩
    · exact isEscaped_line hx.escaped
    · exact isEscaped_line (isEscaped_note h m text)
  · -- every line of the text is free of line ends, so a note that is a line of it is
    intro heq s hs m hm text htext
    have hmem : Statement.line d (.note m text) ∈ splitLines isEnd (render d) := by
      rw [heq]
      have hnote : .note m text ∈ statements d := note_mem_statements.2 ⟨s, hs, hm, htext⟩
      simp [List.mem_map_of_mem hnote]
    exact (oneLine_note h m text).1 ((oneLine_line h).1 (Text.oneLine_of_mem_splitLines hmem))
  · intro hnotes
    have hone : ∀ x ∈ statements d, splitLines isEnd (x.line d) = [x.line d] := by
      intro x hx
      rcases hclean x hx with hx | ⟨m, text, rfl⟩
      · exact Text.splitLines_eq_singleton hx
      · obtain ⟨s, hs, hm, htext⟩ := note_mem_statements.1 hx
        exact Text.splitLines_eq_singleton
          ((oneLine_line h).2 ((oneLine_note h m text).2 (hnotes s hs m hm text htext)))
    rw [hsplit, List.flatMap_congr hone, List.map_eq_flatMap]

end Mermaid

namespace Sample

def actor (id : ParticipantId) (name : String) : Participant where
  id
  kind := .function
  qualifiedName := name
  fullName := name ++ "()"
  operation := name ++ "()"
  namespaceName := ""
  location := none
  owner := none
  instantiatedFrom := none
  returnType := none
  isStatic := false

def notedCall (note : String) : Message where
  sender := ⟨1⟩
  receiver := ⟨2⟩
  operation := "step()"
  kind := .call
  context := [.loop 0 .whileLoop (some "more &&\n  !done")]
  depth := 0
  scope := .normal
  certainty := .exact
  location := none
  returnType := none
  note := some note

def notedDiagram (note : String) : Diagram where
  name := "noted"
  participants := [actor ⟨1⟩ "run", actor ⟨2⟩ "step"]
  interactions := [{ label := "run()", entryPoints := [⟨1⟩], messages := #[notedCall note] }]

end Sample

namespace Mermaid

theorem lineEnds_newline : LineEnds (· == '\n') where
  newline := rfl
  white c hc := by
    rw [eq_of_beq hc]
    rfl
  blank := rfl

theorem tidy_noted (note : String) : (Sample.notedDiagram note).Tidy (· == '\n') := by
  have hrun : OneLine (· == '\n') "run()" := lineEnds_newline.oneLine_of_all rfl
  have hstep : OneLine (· == '\n') "step()" := lineEnds_newline.oneLine_of_all rfl
  refine ⟨List.forall_mem_cons.2 ⟨hrun, List.forall_mem_singleton.2 hstep⟩, ?_,
    List.forall_mem_singleton.2 hrun⟩
  exact List.forall_mem_singleton.2 (List.forall_mem_singleton.2 hstep)

theorem notes_break_lines_sample :
    LineEnds (· == '\n') ∧ (Sample.notedDiagram "once; or twice").Tidy (· == '\n') ∧
    splitLines (· == '\n') (render (Sample.notedDiagram "once; or twice")) =
      ["sequenceDiagram", "    participant P_0000000000000001 as run()",
        "    participant P_0000000000000002 as step()",
        "    loop more && !done", "    P_0000000000000001->>P_0000000000000002: step()",
        "    Note right of P_0000000000000002: once#59; or twice", "    end", ""] := by
  refine ⟨lineEnds_newline, tidy_noted _, ?_⟩
  obtain ⟨-, -, hlines⟩ := notes_break_lines lineEnds_newline (tidy_noted "once; or twice")
  rw [hlines.2]
  · decide +kernel
  · intro s hs m hm text htext
    cases List.mem_singleton.1 hs
    cases List.mem_singleton.1 hm
    cases htext
    exact lineEnds_newline.oneLine_of_all (by decide +kernel)

/-- The second line of a note stands as a statement of its own, and here it closes the loop. -/
theorem note_closes_loop :
    LineEnds (· == '\n') ∧ (Sample.notedDiagram "retry once\nend").Tidy (· == '\n') ∧
    splitLines (· == '\n') (render (Sample.notedDiagram "retry once\nend")) =
      ["sequenceDiagram", "    participant P_0000000000000001 as run()",
        "    participant P_0000000000000002 as step()",
        "    loop more && !done", "    P_0000000000000001->>P_0000000000000002: step()",
        "    Note right of P_0000000000000002: retry once", "end", "    end", ""] ∧
    (splitLines (· == '\n') (render (Sample.notedDiagram "retry once\nend"))).length ≠
      1 + (statements (Sample.notedDiagram "retry once\nend")).length + 1 := by
  have hlines : splitLines (· == '\n') (render (Sample.notedDiagram "retry once\nend")) =
      ["sequenceDiagram", "    participant P_0000000000000001 as run()",
        "    participant P_0000000000000002 as step()",
        "    loop more && !done", "    P_0000000000000001->>P_0000000000000002: step()",
        "    Note right of P_0000000000000002: retry once", "end", "    end", ""] := by
    rw [render, Text.splitLines_unlines rfl]
    decide +kernel
  refine ⟨lineEnds_newline, tidy_noted _, hlines, ?_⟩
  rw [hlines]
  decide

end Mermaid

end Lifeline
