import Lifeline.Diagram.Mermaid
import Lifeline.Diagram.PlantUml
import Lifeline.Proofs.Assembly
import Mathlib.Algebra.Group.Nat.Defs

/-! The aliases in written diagrams. A line is made of text and aliases, where an alias is either
declared or used. What is used stands for the lifeline of somebody that is mentioned, and these are
the lifelines that are declared. -/

namespace Lifeline

namespace Text

theorem hexDigit_inj {a b : Nat} (ha : a < 16) (hb : b < 16)
    (h : hexDigit a = hexDigit b) : a = b := by
  have hall : ∀ a < 16, ∀ b < 16, hexDigit a = hexDigit b → a = b := by decide
  exact hall a ha b hb h

theorem hexDigits_inj {width n m : Nat} (hn : n < 16 ^ width) (hm : m < 16 ^ width)
    (h : hexDigits width n = hexDigits width m) : n = m := by
  induction width generalizing n m with
  | zero => omega
  | succ width ih =>
    simp only [hexDigits] at h
    obtain ⟨hhigh, hlow⟩ := List.append_inj' h rfl
    have hlow : n % 16 = m % 16 := by
      apply hexDigit_inj (Nat.mod_lt _ (by decide)) (Nat.mod_lt _ (by decide))
      simpa using hlow
    have hhigh : n / 16 = m / 16 := by
      apply ih _ _ hhigh
      · rw [Nat.pow_succ] at hn
        omega
      · rw [Nat.pow_succ] at hm
        omega
    omega

end Text

theorem ParticipantId.alias_injective : Function.Injective ParticipantId.alias := by
  intro a b h
  have hdigits : Text.hexDigits 16 a.value.toNat = Text.hexDigits 16 b.value.toNat := by
    have htext := congrArg String.toList h
    simpa [ParticipantId.alias, ParticipantId.hex, Text.hex] using htext
  have hvalue := Text.hexDigits_inj a.value.toNat_lt b.value.toNat_lt hdigits
  cases a
  cases b
  simpa using UInt64.toNat_inj.mp hvalue

inductive Token
  | text (s : String)
  | declares (name : String)
  | uses (name : String)

namespace Token

def write : Token → String
  | .text s => s
  | .declares name => name
  | .uses name => name

def declares? : Token → Option String
  | .declares name => some name
  | _ => none

def uses? : Token → Option String
  | .uses name => some name
  | _ => none

def line : List Token → String
  | [] => ""
  | token :: rest => token.write ++ line rest

def declared (lines : List (List Token)) : List String :=
  lines.flatten.filterMap declares?

def used (lines : List (List Token)) : List String :=
  lines.flatten.filterMap uses?

end Token

def DrawStep.tokens (fragmentLine : Fragment → String)
    (messageTokens : Message → List (List Token)) : DrawStep → List (List Token)
  | .fragment f => [[.text (fragmentLine f)]]
  | .message m => messageTokens m

namespace PlantUml

def declarationTokens (p : Participant) : List Token :=
  [.text (keyword p.kind ++ " \"" ++ p.fullName ++ "\" as "), .declares p.id.alias]

def messageTokens (d : Diagram) (m : Message) : List (List Token) :=
  let ends (between : String) :=
    [.uses (d.lifeline m.sender).alias, .text between, .uses (d.lifeline m.receiver).alias]
  if m.isResponse then
    if m.operation = "" || m.operation = "void" then [ends " --> "]
    else [ends " --> " ++ [.text (" : //" ++ m.operation ++ "//")]]
  else
    let note := m.note.elim [] fun note =>
      [[.text "note right"], [.text (Text.noteText note)], [.text "end note"]]
    (ends (" " ++ arrow m ++ " ") ++ [.text (" : " ++ label d m)]) :: note

def interactionTokens (d : Diagram) (index : Nat) (s : Interaction) : List (List Token) :=
  (heading d index s).map ([.text ·]) ++ s.steps.flatMap
    (DrawStep.tokens fragmentLine (messageTokens d))

def tokens (d : Diagram) : List (List Token) :=
  [[.text "@startuml"], [.text ("title " ++ d.name)]] ++ d.lifelines.map declarationTokens ++
    (d.interactions.mapIdx (interactionTokens d)).flatten ++ [[.text "@enduml"]]

end PlantUml

namespace Mermaid

def declarationTokens (p : Participant) : List Token :=
  [.text (keyword p.kind ++ " "), .declares p.id.alias, .text (" as " ++ escape p.fullName)]

def messageTokens (d : Diagram) (m : Message) : List (List Token) :=
  let sender := Token.uses (d.lifeline m.sender).alias
  let receiver := Token.uses (d.lifeline m.receiver).alias
  if m.isResponse then
    [[sender, .text "-->>", receiver,
      .text (": " ++ (if m.operation = "void" then "" else escape m.operation))]]
  else
    let note := m.note.elim [] fun note =>
      [[.text "Note right of ", receiver, .text (": " ++ escape (Text.noteText note))]]
    [sender, .text (arrow m), receiver, .text (": " ++ label m)] :: note

def interactionTokens (d : Diagram) (s : Interaction) : List (List Token) :=
  let body := s.steps.flatMap (DrawStep.tokens fragmentLine (messageTokens d))
  if d.interactions.length > 1 then
    [[.text "rect rgb(250, 250, 250)"],
      [.text "Note over ", .uses (headingAlias d s), .text (": " ++ escape s.label)]] ++ body ++
      [[.text "end"]]
  else body

def tokens (d : Diagram) : List (List Token) :=
  [.text "sequenceDiagram"] ::
    (d.lifelines.map declarationTokens ++ d.interactions.flatMap (interactionTokens d)).map
      (.text "    " :: ·)

end Mermaid

namespace PlantUml

theorem map_line_messageTokens (d : Diagram) (m : Message) :
    (messageTokens d m).map Token.line = messageLines d m := by
  simp only [messageTokens, messageLines]
  split
  · split <;> simp [Token.line, Token.write, String.append_assoc]
  · cases m.note <;> simp [Token.line, Token.write, String.append_assoc]

theorem map_line_steps (d : Diagram) (step : DrawStep) :
    (step.tokens fragmentLine (messageTokens d)).map Token.line = stepLines d step := by
  cases step with
  | fragment f => simp [DrawStep.tokens, stepLines, Token.line, Token.write]
  | message m => exact map_line_messageTokens d m

theorem map_line_interactionTokens (d : Diagram) (index : Nat) (s : Interaction) :
    (interactionTokens d index s).map Token.line = interactionLines d index s := by
  simp [interactionTokens, interactionLines, List.map_flatMap, map_line_steps,
    Function.comp_def, Token.line, Token.write]

theorem map_line_tokens (d : Diagram) : (tokens d).map Token.line = lines d := by
  have hbody : (d.interactions.mapIdx (interactionTokens d)).map (List.map Token.line) =
      d.interactions.mapIdx (interactionLines d) := by
    apply List.ext_getElem <;> simp [map_line_interactionTokens]
  simp [tokens, lines, List.map_flatten, hbody, declarationTokens, declaration, Function.comp_def,
    Token.line, Token.write, String.append_assoc]

end PlantUml

namespace Mermaid

theorem map_line_messageTokens (d : Diagram) (m : Message) :
    (messageTokens d m).map Token.line = messageLines d m := by
  simp only [messageTokens, messageLines]
  split
  · simp [Token.line, Token.write, String.append_assoc]
  · cases m.note <;> simp [Token.line, Token.write, String.append_assoc]

theorem map_line_steps (d : Diagram) (step : DrawStep) :
    (step.tokens fragmentLine (messageTokens d)).map Token.line = stepLines d step := by
  cases step with
  | fragment f => simp [DrawStep.tokens, stepLines, Token.line, Token.write]
  | message m => exact map_line_messageTokens d m

theorem map_line_interactionTokens (d : Diagram) (s : Interaction) :
    (interactionTokens d s).map Token.line = interactionLines d s := by
  simp only [interactionTokens, interactionLines]
  split <;>
    simp [List.map_flatMap, map_line_steps, Token.line, Token.write, String.append_assoc]

theorem map_line_tokens (d : Diagram) : (tokens d).map Token.line = lines d := by
  simp [tokens, lines, declarationTokens, declaration, Function.comp_def, Token.line,
    Token.write, List.map_flatMap, ← map_line_interactionTokens, String.append_assoc]

end Mermaid

namespace Token

variable {ls ls' : List (List Token)} {name : String}

theorem mem_used : name ∈ used ls ↔ ∃ l ∈ ls, .uses name ∈ l := by
  have huses : ∀ t : Token, t.uses? = some name ↔ t = .uses name := by
    intro t
    cases t <;> simp [uses?]
  simp [used, List.mem_filterMap, huses]

theorem declared_append : declared (ls ++ ls') = declared ls ++ declared ls' := by
  simp [declared]

theorem declared_eq_nil (h : ∀ l ∈ ls, ∀ name, .declares name ∉ l) : declared ls = [] := by
  apply List.filterMap_eq_nil_iff.mpr
  intro t ht
  obtain ⟨l, hl, ht⟩ := List.mem_flatten.mp ht
  cases t with
  | text s => rfl
  | uses name => rfl
  | declares name => exact absurd ht (h l hl name)

/-- The lines are what the tokens spell, and every alias that is used is declared once. -/
structure Spells (tokens : List (List Token)) (lines : List String) : Prop where
  lines : tokens.map line = lines
  declared : ∀ name ∈ used tokens, (declared tokens).count name = 1

end Token

theorem Interaction.mem_of_mem_stepsFrom {m : Message} {context : Context} {ms : List Message}
    (h : .message m ∈ stepsFrom context ms) : m ∈ ms := by
  induction ms generalizing context with
  | nil => simp [stepsFrom] at h
  | cons first rest ih =>
    simp only [stepsFrom, List.mem_append, List.mem_map, List.mem_cons, DrawStep.message.injEq,
      reduceCtorEq, and_false, exists_false, false_or] at h
    rcases h with rfl | h
    · exact List.mem_cons_self
    · exact List.mem_cons_of_mem _ (ih h)

def Token.Mentioned (d : Diagram) : Token → Prop
  | .text _ => True
  | .declares _ => False
  | .uses name => ∃ s ∈ d.interactions, ∃ id ∈ s.mentions, name = (d.lifeline id).alias

section

variable {d : Diagram} {s : Interaction} {m : Message} {id : ParticipantId}

@[simp] theorem Token.mentioned_text (text : String) : (Token.text text).Mentioned d := trivial

theorem Token.mentioned_uses (hs : s ∈ d.interactions) (hid : id ∈ s.mentions) :
    (Token.uses (d.lifeline id).alias).Mentioned d :=
  ⟨s, hs, id, hid, rfl⟩

theorem Interaction.sender_mem_mentions (hm : m ∈ s.messages.toList) : m.sender ∈ s.mentions :=
  List.mem_append_right _ (List.mem_flatMap.mpr ⟨m, hm, by simp⟩)

theorem Interaction.receiver_mem_mentions (hm : m ∈ s.messages.toList) : m.receiver ∈ s.mentions :=
  List.mem_append_right _ (List.mem_flatMap.mpr ⟨m, hm, by simp⟩)

theorem Interaction.mentioned_steps (fragmentLine : Fragment → String)
    {messageTokens : Message → List (List Token)}
    (h : ∀ m ∈ s.messages.toList, ∀ l ∈ messageTokens m, ∀ t ∈ l, t.Mentioned d) :
    ∀ l ∈ s.steps.flatMap (DrawStep.tokens fragmentLine messageTokens), ∀ t ∈ l, t.Mentioned d := by
  intro l hl
  obtain ⟨step, hstep, hl⟩ := List.mem_flatMap.mp hl
  cases step with
  | fragment f =>
    simp only [DrawStep.tokens, List.mem_singleton] at hl
    simp [hl]
  | message m => exact h m (mem_of_mem_stepsFrom hstep) l hl

theorem Diagram.Closed.count_declared {r : Roster} (hd : d.Closed r)
    {declare : Participant → List Token}
    (hdeclare : ∀ p, (declare p).filterMap Token.declares? = [p.id.alias])
    (huses : ∀ p name, .uses name ∉ declare p) {before after : List (List Token)}
    (hbefore : ∀ l ∈ before, ∀ t ∈ l, t.Mentioned d)
    (hafter : ∀ l ∈ after, ∀ t ∈ l, t.Mentioned d) :
    ∀ name ∈ Token.used (before ++ d.lifelines.map declare ++ after),
      (Token.declared (before ++ d.lifelines.map declare ++ after)).count name = 1 := by
  have hnone :
      ∀ {ls : List (List Token)}, (∀ l ∈ ls, ∀ t ∈ l, t.Mentioned d) → Token.declared ls = [] :=
    fun hls => Token.declared_eq_nil fun l hl name hmem => hls l hl _ hmem
  have hdeclared :
      Token.declared (d.lifelines.map declare) = (d.lifelines.map (·.id)).map (·.alias) := by
    simp only [Token.declared, List.filterMap_flatten, List.map_map, Function.comp_def, hdeclare]
    rw [← List.flatMap_def, List.map_eq_flatMap]
  intro name hname
  have hmentioned : (Token.uses name).Mentioned d := by
    obtain ⟨l, hl, hmem⟩ := Token.mem_used.mp hname
    simp only [List.mem_append, List.mem_map] at hl
    rcases hl with (hl | ⟨p, -, rfl⟩) | hl
    · exact hbefore l hl _ hmem
    · exact absurd hmem (huses p name)
    · exact hafter l hl _ hmem
  obtain ⟨s, hs, id, hid, rfl⟩ := hmentioned
  rw [Token.declared_append, Token.declared_append, hnone hbefore, hnone hafter,
    hdeclared, List.nil_append, List.append_nil]
  apply List.count_eq_one_of_mem
  · exact hd.lifelines.map ParticipantId.alias_injective
  · exact List.mem_map_of_mem (hd.drawn s hs id hid)

end

namespace PlantUml

variable {d : Diagram} {s : Interaction} {m : Message}

theorem mentioned_messageTokens (hs : s ∈ d.interactions) (hm : m ∈ s.messages.toList) :
    ∀ l ∈ messageTokens d m, ∀ t ∈ l, t.Mentioned d := by
  have hsender := Token.mentioned_uses hs (Interaction.sender_mem_mentions hm)
  have hreceiver := Token.mentioned_uses hs (Interaction.receiver_mem_mentions hm)
  simp only [messageTokens]
  split
  · split <;> simp [hsender, hreceiver]
  · cases m.note <;> simp [hsender, hreceiver]

theorem mentioned_interactionTokens (hs : s ∈ d.interactions) (index : Nat) :
    ∀ l ∈ interactionTokens d index s, ∀ t ∈ l, t.Mentioned d := by
  intro l hl
  simp only [interactionTokens, List.mem_append, List.mem_map] at hl
  rcases hl with ⟨text, -, rfl⟩ | hl
  · simp
  · exact Interaction.mentioned_steps _ (fun m hm => mentioned_messageTokens hs hm) l hl

theorem count_declared {r : Roster} (hd : d.Closed r) :
    ∀ name ∈ Token.used (tokens d), (Token.declared (tokens d)).count name = 1 := by
  have htokens :
    tokens d =
      [[.text "@startuml"], [.text ("title " ++ d.name)]] ++ d.lifelines.map declarationTokens ++
      ((d.interactions.mapIdx (interactionTokens d)).flatten ++ [[.text "@enduml"]]) := by
    simp [tokens]
  rw [htokens]
  apply hd.count_declared
  · exact fun _ => rfl
  · simp [declarationTokens]
  · simp
  · intro l hl
    simp only [List.mem_append, List.mem_flatten, List.mem_mapIdx, List.mem_singleton] at hl
    rcases hl with ⟨ls, ⟨index, hindex, rfl⟩, hl⟩ | rfl
    · exact mentioned_interactionTokens (List.getElem_mem hindex) index l hl
    · simp

end PlantUml

namespace Mermaid

variable {d : Diagram} {s : Interaction} {m : Message}

theorem mentioned_messageTokens (hs : s ∈ d.interactions) (hm : m ∈ s.messages.toList) :
    ∀ l ∈ messageTokens d m, ∀ t ∈ l, t.Mentioned d := by
  have hsender := Token.mentioned_uses hs (Interaction.sender_mem_mentions hm)
  have hreceiver := Token.mentioned_uses hs (Interaction.receiver_mem_mentions hm)
  simp only [messageTokens]
  split
  · simp [hsender, hreceiver]
  · cases m.note <;> simp [hsender, hreceiver]

theorem mentioned_interactionTokens (hs : s ∈ d.interactions)
    (hentry : 1 < d.interactions.length → s.entryPoints ≠ []) :
    ∀ l ∈ interactionTokens d s, ∀ t ∈ l, t.Mentioned d := by
  have hbody := Interaction.mentioned_steps fragmentLine (fun m hm => mentioned_messageTokens hs hm)
  simp only [interactionTokens]
  split
  case isTrue hmany =>
    have hheading : (Token.uses (headingAlias d s)).Mentioned d := by
      cases hfirst : s.entryPoints with
      | nil => exact absurd hfirst (hentry hmany)
      | cons id rest =>
        have hid : id ∈ s.mentions := List.mem_append_left _ (by simp [hfirst])
        simpa [headingAlias, hfirst] using Token.mentioned_uses hs hid
    intro l hl
    simp only [List.mem_append, List.mem_cons, List.not_mem_nil, or_false] at hl
    rcases hl with ((rfl | rfl) | hl) | rfl
    · simp
    · simp [hheading]
    · exact hbody l hl
    · simp
  case isFalse => exact hbody

theorem count_declared {r : Roster} (hd : d.Closed r)
    (hentries : 1 < d.interactions.length → ∀ s ∈ d.interactions, s.entryPoints ≠ []) :
    ∀ name ∈ Token.used (tokens d), (Token.declared (tokens d)).count name = 1 := by
  have htokens : tokens d = [[.text "sequenceDiagram"]] ++
      d.lifelines.map (fun p => .text "    " :: declarationTokens p) ++
      (d.interactions.flatMap (interactionTokens d)).map (.text "    " :: ·) := by
    simp [tokens, Function.comp_def]
  rw [htokens]
  apply hd.count_declared
  · exact fun _ => rfl
  · simp [declarationTokens]
  · simp
  · intro l hl
    obtain ⟨rest, hrest, rfl⟩ := List.mem_map.mp hl
    obtain ⟨s, hs, hrest⟩ := List.mem_flatMap.mp hrest
    have hmentioned := mentioned_interactionTokens hs (fun hmany => hentries hmany s hs) rest hrest
    simpa using hmentioned

end Mermaid

/-- Diagrams of interactions between registered participants are closed, and collecting their
participants never runs out of room. The texts made of them declare every alias that they use, and
declare it once. -/
theorem Diagram.assembled_closed {c : Casting} {es : List Entity}
    (hes : ∀ e ∈ es, e.Within c.program) {r : Roster} (hr : c.internAll es {} = r)
    (hsize : r.size < UInt64.size) {interactions : List Interaction}
    (hmentions : ∀ s ∈ interactions, ∀ id ∈ s.mentions, r.uses id = true)
    (hentries : 1 < interactions.length → ∀ s ∈ interactions, s.entryPoints ≠ []) {name : String}
    {d : Diagram} (hd : assemble name r interactions = d) :
    (∀ otherwise, d.participants = (interactions.flatMap (·.participants)).foldl
      (fun ps id => collectOr otherwise r (r.size + 1) id ps) []) ∧
    d.Closed r ∧
    Token.Spells (PlantUml.tokens d) (PlantUml.lines d) ∧
    Token.Spells (Mermaid.tokens d) (Mermaid.lines d) ∧
    ∀ p ∈ d.lifelines, ∀ q ∈ d.lifelines, p.id.alias = q.id.alias → p = q := by
  subst hr hd
  have hcoherent := (Casting.internAll_drawn hes).coherent hsize
  have hclosed := closed_assemble name hcoherent hmentions
  refine ⟨?_, hclosed, ⟨PlantUml.map_line_tokens _, PlantUml.count_declared hclosed⟩,
    ⟨Mermaid.map_line_tokens _, Mermaid.count_declared hclosed hentries⟩, ?_⟩
  · intro otherwise
    simp only [assemble, collect_eq_collectOr]
    congr 1
    funext ps id
    exact collectOr_congr _ _ hcoherent (rank_lt_room _ id)
  · intro p hp q hq halias
    exact List.inj_on_of_nodup_map hclosed.lifelines hp hq (ParticipantId.alias_injective halias)

namespace Sample

def message (sender receiver : ParticipantId) (note : Option String) : Message where
  sender := sender
  receiver := receiver
  operation := "step()"
  kind := .call
  context := []
  depth := 0
  scope := .normal
  certainty := .exact
  location := none
  returnType := none
  note := note

def exchange : List Interaction :=
  [{ entryPoints := [⟨2⟩], messages := #[message ⟨2⟩ ⟨5⟩ (some "twice"), message ⟨5⟩ ⟨3⟩ none] },
    { entryPoints := [⟨4⟩] }]

end Sample

theorem Diagram.assembled_closed_sample :
    (∀ e ∈ Sample.entities, e.Within Sample.program) ∧
    (∀ s ∈ Sample.exchange, ∀ id ∈ s.mentions,
      (Sample.tracer.casting.internAll Sample.entities {}).uses id = true) ∧
    (assemble "sample" (Sample.tracer.casting.internAll Sample.entities {})
      Sample.exchange).participants.map (·.id.value) = [1, 2, 5, 4, 3] ∧
    (assemble "sample" (Sample.tracer.casting.internAll Sample.entities {}) Sample.exchange).Closed
      (Sample.tracer.casting.internAll Sample.entities {}) := by
  have hmentions : ∀ s ∈ Sample.exchange, ∀ id ∈ s.mentions,
      (Sample.tracer.casting.internAll Sample.entities {}).uses id = true := by
    decide +kernel
  refine ⟨Sample.entities_within, hmentions, by decide +kernel, ?_⟩
  exact (assembled_closed Sample.entities_within rfl (by decide +kernel) hmentions
    (by decide +kernel) rfl).2.1

end Lifeline
