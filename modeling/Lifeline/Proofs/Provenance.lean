import Lifeline.Proofs.Portrait

/-! The steps by which interning changes a roster: participants join it, and what became of
declarations is remembered. Whatever these steps keep up holds of every roster, however its
interning went. -/

namespace Lifeline

namespace Roster

variable {r r' r'' : Roster} {p q : Participant}

def Notes (r : Roster) (o : DeclId) (args : List String) (id : ParticipantId) : Prop :=
  ((o, args), id) ∈ r.known

theorem notes_of_remembered? {o : DeclId} {args : List String} {id : ParticipantId}
    (h : r.remembered? o args = some id) : r.Notes o args id := by
  obtain ⟨_, _, hknown, -⟩ := List.lookup_eq_some_iff.1 h
  simp [Notes, hknown]

/-- Nobody has left, and no note is lost. -/
structure KeptIn (r r' : Roster) : Prop where
  participants : r.participants.toList <+: r'.participants.toList
  known : r.known ⊆ r'.known

namespace KeptIn

theorem refl (r : Roster) : r.KeptIn r :=
  ⟨List.prefix_rfl, List.Subset.refl _⟩

theorem trans (h : r.KeptIn r') (h' : r'.KeptIn r'') : r.KeptIn r'' :=
  ⟨h.participants.trans h'.participants, List.Subset.trans h.known h'.known⟩

theorem mem (h : r.KeptIn r') (hq : q ∈ r.participants) : q ∈ r'.participants := by
  rw [← Array.mem_toList_iff] at hq ⊢
  exact h.participants.subset hq

theorem getElem? (h : r.KeptIn r') {i : Nat} (hq : r.participants[i]? = some q) :
    r'.participants[i]? = some q := by
  obtain ⟨more, heq⟩ := h.participants
  rw [← Array.getElem?_toList] at hq ⊢
  rw [← heq, List.getElem?_append_left (List.getElem?_eq_some_iff.1 hq).1, hq]

theorem notes (h : r.KeptIn r') {o : DeclId} {args : List String} {id : ParticipantId}
    (hid : r.Notes o args id) : r'.Notes o args id :=
  h.known hid

theorem size_le (h : r.KeptIn r') : r.size ≤ r'.size := by
  simpa [size] using h.participants.length_le

end KeptIn

theorem insert_keptIn (r : Roster) (seed : String → UInt64) (p : Participant) :
    r.KeptIn (r.insert seed p).2 := by
  refine ⟨(insert_extends seed p).participants, ?_⟩
  rw [insert_known]
  exact List.Subset.refl _

theorem remember_keptIn (r : Roster) (o : DeclId) (args : List String) (id : ParticipantId) :
    r.KeptIn (r.remember o args id) :=
  ⟨List.prefix_rfl, List.subset_cons_self _ _⟩

theorem uses_of_mem (h : q ∈ r.participants) : r.uses q.id = true :=
  uses_iff.2 ⟨q, Array.mem_toList_iff.2 h, rfl⟩

theorem mem_of_get? {id : ParticipantId} (h : r.get? id = some q) :
    q ∈ r.participants ∧ q.id = id :=
  ⟨Array.mem_of_find?_eq_some h, by simpa using Array.find?_some h⟩

inductive Origin (r : Roster) : Option DeclId → Option ParticipantId → Prop
  | none : Origin r none none
  | hidden {o : DeclId} : r.Notes o [] .tombstone → Origin r (some o) none
  | seen {o : DeclId} {id : ParticipantId} : r.Notes o [] id → id ≠ .tombstone →
    Origin r (some o) (some id)

/-- Whose lifeline a declaration is drawn on. -/
inductive DrawnOn (r : Roster) (names : Naming.CallableNames) : Option ParticipantId → Prop
  | own : names.owner = none → DrawnOn r names none
  | cls {o : DeclId} {id : ParticipantId} : names.owner = some o →
    r.Notes o [] id → DrawnOn r names (some id)
  | file {q : Participant} : names.owner = none → names.kind = .function →
    q ∈ r.participants → q.kind = .file → DrawnOn r names (some q.id)

theorem Origin.mono {o : Option DeclId} {origin : Option ParticipantId} (h : r.Origin o origin)
    (hr : r.KeptIn r') : r'.Origin o origin := by
  cases h with
  | none => exact .none
  | hidden ho => exact .hidden (hr.notes ho)
  | seen ho hid => exact .seen (hr.notes ho) hid

theorem DrawnOn.mono {names : Naming.CallableNames} {owner : Option ParticipantId}
    (h : r.DrawnOn names owner) (hr : r.KeptIn r') : r'.DrawnOn names owner := by
  cases h with
  | own ho => exact .own ho
  | cls ho hknown => exact .cls ho (hr.notes hknown)
  | file ho hk hq hfile => exact .file ho hk (hr.mem hq) hfile

end Roster

namespace Casting

structure Admits (c : Casting) (d : Decl) (args : List String)
    (names : Naming.CallableNames) : Prop where
  named : c.names d args = .ok names
  admitted : c.filter (c.candidate d names) = true

structure Accepts (c : Casting) (d : Decl) (args : List String)
    (names : Naming.CallableNames) : Prop extends c.Admits d args names where
  declared : c.program.Declares d

inductive Draws (c : Casting) (r : Roster) (d : Decl) (args : List String) : Participant → Prop
  | mk {names : Naming.CallableNames} {owner origin : Option ParticipantId} :
    c.Admits d args names →
    r.DrawnOn names owner → owner ≠ some .tombstone → r.Origin (d.template? args) origin →
    Draws c r d args (portrait d names owner origin)

/-- Why a declaration with call-site arguments may be remembered as this. -/
inductive Justifies (c : Casting) (r : Roster) (d : Decl) (args : List String) :
    ParticipantId → Prop
  | refused {names : Naming.CallableNames} : c.names d args = .ok names →
    c.filter (c.candidate d names) = false → Justifies c r d args .tombstone
  | ownerHidden {names : Naming.CallableNames} : c.names d args = .ok names →
    r.DrawnOn names (some .tombstone) → Justifies c r d args .tombstone
  | drawn {p q : Participant} : c.Draws r d args p → q ∈ r.participants →
    q.key = p.key → Justifies c r d args q.id

def splitScope (name : String) : String × String :=
  match Text.splitLast? "::".toList name.toList with
  | some (before, after) => (String.ofList before, String.ofList after)
  | none => ("", name)

def externalCandidate (name : String) : Candidate where
  kind := .external
  qualifiedName := name
  namespaceName := (splitScope name).1
  file := none
  annotations := []

def externalDraft (name : String) : Participant :=
  draft .external name name ((splitScope name).2 ++ "()") (splitScope name).1

def stateName (coroutine : Participant) : String :=
  coroutine.fullName ++ "::<coroutine state>"

def stateDraft (coroutine : Participant) : Participant :=
  { draft .coroutineState (stateName coroutine) (stateName coroutine)
    "co_await" coroutine.namespaceName with
    location := coroutine.location }

def fileDraft (file : Path) : Participant :=
  draft .file file.text file.text "" ""

/-- Who may join a roster, before an id is given. `S` says of whom there may be a coroutine
state. -/
inductive Joins (c : Casting) (S : Participant → Prop) (r : Roster) : Participant → Prop
  | decl {d : Decl} {args : List String} {p : Participant} :
    c.program.Declares d → c.Draws r d args p → Joins c S r p
  | file (file : Path) : Joins c S r (fileDraft file)
  | state {coroutine : Participant} : coroutine ∈ r.participants → S coroutine →
    Joins c S r (stateDraft coroutine)
  | external {name : String} : c.filter (externalCandidate name) = true →
    Joins c S r (externalDraft name)

inductive Change (c : Casting) (S : Participant → Prop) : Roster → Roster → Prop
  | join {r : Roster} {p : Participant} : c.Joins S r p → Change c S r (r.insert c.seed p).2
  | note {r : Roster} {d : Decl} {args : List String} {id : ParticipantId} : c.program.Declares d →
    c.Justifies r d args id → Change c S r (r.remember d.id args id)

inductive Changes (c : Casting) (S : Participant → Prop) (r : Roster) : Roster → Prop
  | refl : Changes c S r r
  | tail {mid last : Roster} : Changes c S r mid → c.Change S mid last → Changes c S r last

/-- Whatever is noted is noted of a declaration, and with reason. -/
def Informed (c : Casting) (r : Roster) : Prop :=
  ∀ o args id, r.Notes o args id → ∃ d, c.program.get? o = some d ∧ c.Justifies r d args id

variable {c : Casting} {S T : Participant → Prop} {r r' r'' : Roster} {d : Decl}
  {args : List String} {p : Participant}
variable {id : ParticipantId}

theorem Draws.mono (h : c.Draws r d args p) (hr : r.KeptIn r') : c.Draws r' d args p := by
  cases h with
  | mk hadmits howner hseen horigin => exact .mk hadmits (howner.mono hr) hseen (horigin.mono hr)

theorem Justifies.mono (h : c.Justifies r d args id) (hr : r.KeptIn r') :
    c.Justifies r' d args id := by
  cases h with
  | refused hnames hfilter => exact .refused hnames hfilter
  | ownerHidden hnames howner => exact .ownerHidden hnames (howner.mono hr)
  | drawn hdraws hq hkey => exact .drawn (hdraws.mono hr) (hr.mem hq) hkey

theorem Justifies.isVisible (h : c.Justifies r d args id) (hne : id ≠ .tombstone) :
    r.isVisible id = true := by
  cases h with
  | refused _ _ => exact absurd rfl hne
  | ownerHidden _ _ => exact absurd rfl hne
  | drawn _ hq _ => exact Roster.isVisible_iff.2 ⟨hne, Roster.uses_of_mem hq⟩

theorem Joins.id_eq (h : c.Joins S r p) : p.id = .tombstone := by
  cases h with
  | decl _ hdraws =>
    cases hdraws
    rfl
  | file _ => rfl
  | state _ _ => rfl
  | external _ => rfl

theorem Joins.imp (h : c.Joins S r p) (imp : ∀ q, S q → T q) : c.Joins T r p := by
  cases h with
  | decl hd hdraws => exact .decl hd hdraws
  | file file => exact .file file
  | state hmem hS => exact .state hmem (imp _ hS)
  | external hfilter => exact .external hfilter

theorem Change.kept (h : c.Change S r r') : r.KeptIn r' := by
  cases h with
  | join _ => exact r.insert_keptIn _ _
  | note _ _ => exact r.remember_keptIn _ _ _

theorem Change.participants (h : c.Change S r r') :
    r'.participants = r.participants ∨
    ∃ p id, c.Joins S r p ∧ (∀ q ∈ r.participants, q.key ≠ p.key) ∧
      id = r.freeId (r.size + 2) (c.seed p.key) ∧
        r'.participants = r.participants.push { p with id } := by
  cases h with
  | note _ _ => exact .inl rfl
  | @join p hjoins =>
    rcases r.insert_cases c.seed p with ⟨_, -, -, heq⟩ | ⟨hnew, id, hid, heq⟩
    · exact .inl (by rw [heq])
    · exact .inr ⟨p, id, hjoins, hnew, hid, by rw [heq]⟩

theorem Changes.single (h : c.Change S r r') : c.Changes S r r' :=
  .tail .refl h

theorem Changes.trans (h : c.Changes S r r') (h' : c.Changes S r' r'') : c.Changes S r r'' := by
  induction h' with
  | refl => exact h
  | tail _ hstep ih => exact ih.tail hstep

theorem Changes.imp (h : c.Changes S r r') (imp : ∀ q, S q → T q) : c.Changes T r r' := by
  induction h with
  | refl => exact .refl
  | tail _ hstep ih =>
    refine ih.tail ?_
    cases hstep with
    | join hjoins => exact .join (hjoins.imp imp)
    | note hd hjust => exact .note hd hjust

theorem Changes.kept (h : c.Changes S r r') : r.KeptIn r' := by
  induction h with
  | refl => exact .refl r
  | tail _ hstep ih => exact ih.trans hstep.kept

theorem Changes.sound (h : c.Changes S r r') (hr : r.Sound) : r'.Sound := by
  induction h with
  | refl => exact hr
  | tail _ hstep ih =>
    cases hstep with
    | join _ => exact ih.insert _ _
    | note _ hjust => exact ih.remember hjust.isVisible

theorem Informed.empty : c.Informed {} := by
  intro o args id h
  cases h

theorem Change.informed (h : c.Change S r r') (hr : c.Informed r) : c.Informed r' := by
  intro o args id hid
  have hold (hid : r.Notes o args id) :
      ∃ d, c.program.get? o = some d ∧ c.Justifies r' d args id := by
    obtain ⟨d, hd, hjust⟩ := hr o args id hid
    exact ⟨d, hd, hjust.mono h.kept⟩
  cases h with
  | join _ =>
    rw [Roster.Notes, Roster.insert_known] at hid
    exact hold hid
  | @note d args' id' hd hjust =>
    rcases List.mem_cons.1 hid with heq | hid
    · cases heq
      exact ⟨d, hd, hjust.mono (r.remember_keptIn _ _ _)⟩
    · exact hold hid

theorem Changes.informed (h : c.Changes S r r') (hr : c.Informed r) : c.Informed r' := by
  induction h with
  | refl => exact hr
  | tail _ hstep ih => exact hstep.informed ih

theorem Informed.seen {o : DeclId} (h : c.Informed r) (hid : r.Notes o args id)
    (hne : id ≠ .tombstone) :
    ∃ d names, c.program.get? o = some d ∧ c.Accepts d args names ∧
      ∃ q ∈ r.participants, q.id = id ∧ q.kind = names.kind ∧ q.fullName = names.fullName := by
  obtain ⟨d, hd, hjust⟩ := h o args id hid
  cases hjust with
  | refused _ _ => exact absurd rfl hne
  | ownerHidden _ _ => exact absurd rfl hne
  | @drawn p q hdraws hq hkey =>
    cases hdraws with
    | @mk names _ _ hadmits _ _ _ =>
      obtain ⟨hdeclares, -⟩ := Program.declares_of_get? hd
      exact ⟨d, names, hd, ⟨hadmits, hdeclares⟩, q, hq, rfl, Participant.keyOf_inj.1 hkey⟩

theorem Informed.owner {names : Naming.CallableNames} {o : DeclId} (hr : c.Informed r)
    (hnames : c.names d args = .ok names) (ho : names.owner = some o) (hid : r.Notes o [] id)
    (hne : id ≠ .tombstone) :
    d.owner? = some o ∧ ∃ e names, c.program.get? o = some e ∧ c.Accepts e [] names ∧
      ∃ q ∈ r.participants, q.id = id ∧ q.kind = .cls ∧ q.fullName = names.fullName := by
  obtain ⟨e, names', he, haccepts, q, hq, hqid, hkind, hname⟩ := hr.seen hid hne
  obtain ⟨howner, -, f, _, info, -, he', hrecord, hlambda⟩ := names_owner hnames ho
  cases he.symm.trans he'
  refine ⟨howner, e, names', he, haccepts, q, hq, hqid, hkind.trans ?_, hname⟩
  cases names_cases haccepts.named with
  | record hrecord' hk _ =>
    cases hrecord.symm.trans hrecord'
    simpa [hlambda] using hk
  | function hfunction _ _ => cases hrecord.symm.trans hfunction
  | closure hfunction _ _ => cases hrecord.symm.trans hfunction
  | method hfunction _ _ _ _ _ _ => cases hrecord.symm.trans hfunction

theorem Joins.owner (hr : c.Informed r) (h : c.Joins S r p) (ho : p.owner = some id) :
    ∃ q ∈ r.participants, q.id = id ∧ (q.kind = .cls ∨ q.kind = .file) := by
  cases h with
  | decl _ hdraws =>
    cases hdraws with
    | @mk _ owner _ hadmits howner hseen _ =>
      cases (show owner = some id from ho)
      cases howner with
      | cls hn hid =>
        obtain ⟨-, _, _, -, -, q, hq, hqid, hcls, -⟩ :=
          hr.owner hadmits.named hn hid (mt (congrArg some) hseen)
        exact ⟨q, hq, hqid, .inl hcls⟩
      | file _ _ hq hfile => exact ⟨_, hq, rfl, .inr hfile⟩
  | file _ => cases ho
  | state _ _ => cases ho
  | external _ => cases ho

theorem Joins.origin (hr : c.Informed r) (h : c.Joins S r p) (ho : p.instantiatedFrom = some id) :
    ∃ q ∈ r.participants, q.id = id := by
  cases h with
  | @decl d args _ _ hdraws =>
    cases hdraws with
    | @mk _ _ origin _ _ _ horigin =>
      cases (show origin = some id from ho)
      generalize d.template? args = template at horigin
      cases horigin with
      | seen hid hne =>
        obtain ⟨_, _, -, -, q, hq, hqid, -⟩ := hr.seen hid hne
        exact ⟨q, hq, hqid⟩
  | file _ => cases ho
  | state _ _ => cases ho
  | external _ => cases ho

theorem Joins.owner_eq_none (h : c.Joins S r p) (hk : p.kind = .cls ∨ p.kind = .file) :
    p.owner = none := by
  cases h with
  | decl _ hdraws =>
    cases hdraws with
    | @mk names owner _ hadmits howner _ _ =>
      replace hk : names.kind = .cls ∨ names.kind = .file := hk
      show owner = none
      cases howner with
      | own _ => rfl
      | cls hn _ => simp [(names_owner hadmits.named hn).2.1] at hk
      | file _ hk' _ _ => simp [hk'] at hk
  | file _ => rfl
  | state _ _ => rfl
  | external _ => rfl

/-- Whoever is on the roster was there before, or joined it. -/
theorem Changes.joined {q : Participant} {i : Nat} (h : c.Changes S r r')
    (hq : r'.participants[i]? = some q) :
    r.participants[i]? = some q ∨ ∃ mid, c.Changes S r mid ∧ mid.KeptIn r' ∧ mid.size = i ∧
      c.Joins S mid { q with id := .tombstone } := by
  induction h with
  | refl => exact .inl hq
  | @tail mid last h hstep ih =>
    have hgrown := hstep.kept
    have hbefore (hq : mid.participants[i]? = some q) : r.participants[i]? = some q ∨
        ∃ mid, c.Changes S r mid ∧ mid.KeptIn last ∧ mid.size = i ∧
        c.Joins S mid { q with id := .tombstone } := by
      rcases ih hq with hold | ⟨m, hm, hkept, hsize, hjoins⟩
      · exact .inl hold
      · exact .inr ⟨m, hm, hkept.trans hgrown, hsize, hjoins⟩
    rcases hstep.participants with heq | ⟨p, id, hjoins, -, -, heq⟩
    · rw [heq] at hq
      exact hbefore hq
    · rw [heq, Array.getElem?_push] at hq
      by_cases hi : i = mid.participants.size
      · rw [if_pos hi, Option.some.injEq] at hq
        refine .inr ⟨mid, h, hgrown, hi.symm, ?_⟩
        rw [← hq]
        exact hjoins.id_eq ▸ hjoins
      · rw [if_neg hi] at hq
        exact hbefore hq

abbrev Drawn (c : Casting) (r : Roster) : Prop :=
  c.Changes (fun _ => True) {} r

theorem Drawn.trans (h : c.Drawn r) (h' : c.Changes S r r') : c.Drawn r' :=
  Changes.trans h (h'.imp fun _ _ => trivial)

theorem Drawn.informed (h : c.Drawn r) : c.Informed r :=
  Changes.informed h .empty

theorem Drawn.sound (h : c.Drawn r) : r.Sound :=
  Changes.sound h .empty

theorem Changes.mem (h : c.Changes S r r') (hp : p ∈ r'.participants) :
    p ∈ r.participants ∨
      ∃ mid, c.Changes S r mid ∧ mid.KeptIn r' ∧ c.Joins S mid { p with id := .tombstone } := by
  obtain ⟨i, hi⟩ := Array.mem_iff_getElem?.1 hp
  rcases h.joined hi with hold | ⟨mid, hmid, hkept, -, hjoins⟩
  · exact .inl (Array.mem_of_getElem? hold)
  · exact .inr ⟨mid, hmid, hkept, hjoins⟩

theorem Drawn.mem (h : c.Drawn r) (hp : p ∈ r.participants) :
    ∃ mid, c.Drawn mid ∧ mid.KeptIn r ∧
      c.Joins (fun _ => True) mid { p with id := .tombstone } := by
  rcases Changes.mem h hp with hnone | hjoined
  · simp at hnone
  · exact hjoined

end Casting

end Lifeline
