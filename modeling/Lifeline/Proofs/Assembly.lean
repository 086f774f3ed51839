import Lifeline.Diagram.Basic
import Lifeline.Proofs.Representation

/-! How a diagram gets its participants. Each is put after its owner and before its template. What a
participant refers to was registered before it, so going from one to the other comes to an end and
does not come back. -/

namespace Lifeline

namespace Roster

variable {r : Roster} {p : Participant} {a b id : ParticipantId}

def Refers (r : Roster) (a b : ParticipantId) : Prop :=
  ∃ p ∈ r.participants, p.id = a ∧ (p.owner = some b ∨ p.instantiatedFrom = some b)

def rank (r : Roster) (id : ParticipantId) : Nat :=
  (r.participants.toList.map (·.id)).idxOf id

theorem Coherent.rank_eq (hr : r.Coherent) {i : Nat} (hp : r.participants[i]? = some p) :
    r.rank p.id = i := by
  obtain ⟨hi, rfl⟩ := Array.getElem?_eq_some_iff.1 hp
  have h := hr.ids.idxOf_getElem i (by simpa using hi)
  simpa [rank] using h

theorem Coherent.rank_lt (hr : r.Coherent) (h : r.Refers a b) : r.rank b < r.rank a := by
  obtain ⟨p, hp, rfl, href⟩ := h
  obtain ⟨i, hi⟩ := Array.mem_iff_getElem?.1 hp
  obtain ⟨j, q, hj, hq, rfl⟩ := hr.earlier i p hi b href
  rw [hr.rank_eq hi, hr.rank_eq hq]
  exact hj

theorem Coherent.eq_of_id (hr : r.Coherent) {q : Participant} (hp : p ∈ r.participants)
    (hq : q ∈ r.participants) (hid : p.id = q.id) : p = q := by
  have h := (hr.get?_eq q.id p).2 ⟨hp, hid⟩
  rw [(hr.get?_eq q.id q).2 ⟨hq, rfl⟩] at h
  exact (Option.some.inj h).symm

theorem Coherent.uses_of_refers (hr : r.Coherent) (h : r.Refers a b) : r.uses b = true := by
  obtain ⟨p, hp, rfl, href⟩ := h
  obtain ⟨i, hi⟩ := Array.mem_iff_getElem?.1 hp
  obtain ⟨j, q, -, hq, rfl⟩ := hr.earlier i p hi b href
  exact uses_of_mem (Array.mem_of_getElem? hq)

theorem rank_le_size (r : Roster) (id : ParticipantId) : r.rank id ≤ r.size := by
  have h := List.idxOf_le_length (a := id) (l := r.participants.toList.map (·.id))
  simpa [rank, size] using h

theorem Coherent.rank_le (hr : r.Coherent) (h : Relation.ReflTransGen r.Refers a b) :
    r.rank b ≤ r.rank a := by
  induction h with
  | refl => exact Nat.le_refl _
  | tail _ hstep ih => exact Nat.le_trans (Nat.le_of_lt (hr.rank_lt hstep)) ih

structure Listed (r : Roster) (ps : List Participant) : Prop where
  registered : ∀ p ∈ ps, p ∈ r.participants
  ids : (ps.map (·.id)).Nodup
  owners : ∀ before p after, ps = before ++ p :: after →
    ∀ id, p.owner = some id → ∃ q ∈ before, q.id = id

theorem Listed.nil : r.Listed [] where
  registered := by simp
  ids := List.nodup_nil
  owners := by simp

theorem Listed.concat {ps : List Participant} (h : r.Listed ps) (hp : p ∈ r.participants)
    (hnew : ∀ q ∈ ps, q.id ≠ p.id) (howner : ∀ id, p.owner = some id → ∃ q ∈ ps, q.id = id) :
    r.Listed (ps ++ [p]) where
  registered := by
    intro q hq
    rcases List.mem_append.mp hq with hq | hq
    · exact h.registered q hq
    · rw [List.mem_singleton.mp hq]
      exact hp
  ids := by
    rw [List.map_append, List.map_singleton, ← List.concat_eq_append]
    apply h.ids.concat
    intro hmem
    obtain ⟨q, hq, hid⟩ := List.mem_map.mp hmem
    exact hnew q hq hid
  owners := by
    intro before q after heq id hq
    rcases List.eq_nil_or_concat after with rfl | ⟨rest, last, rfl⟩
    · obtain ⟨rfl, hlast⟩ := List.append_inj' heq rfl
      obtain ⟨rfl, -⟩ := List.cons.inj hlast
      exact howner id hq
    · rw [List.concat_eq_append, ← List.cons_append, ← List.append_assoc] at heq
      exact h.owners before q rest (List.append_inj' heq rfl).1 id hq

/-- What going through ids makes of a list: all that they lead to is added, and nothing else. -/
structure Collects (r : Roster) (ids : List ParticipantId) (ps ps' : List Participant) : Prop where
  listed : r.Listed ps'
  kept : ∀ p ∈ ps, p ∈ ps'
  has : ∀ id ∈ ids, r.uses id = true → ∃ q ∈ ps', q.id = id
  origin : ∀ p ∈ ps', p ∈ ps ∨ ∃ id ∈ ids, Relation.ReflTransGen r.Refers id p.id
  closed : ∀ p ∈ ps', p ∈ ps ∨ ∀ id, p.owner = some id ∨
    p.instantiatedFrom = some id → ∃ q ∈ ps', q.id = id

namespace Collects

variable {ids ids' : List ParticipantId} {ps ps' ps'' : List Participant}

theorem nil (h : r.Listed ps) : r.Collects [] ps ps where
  listed := h
  kept _ hp := hp
  has := by simp
  origin _ hp := .inl hp
  closed _ hp := .inl hp

theorem append (h : r.Collects ids ps ps') (h' : r.Collects ids' ps' ps'') :
    r.Collects (ids ++ ids') ps ps'' where
  listed := h'.listed
  kept p hp := h'.kept p (h.kept p hp)
  has := by
    intro id hid huses
    rcases List.mem_append.mp hid with hid | hid
    · obtain ⟨q, hq, hqid⟩ := h.has id hid huses
      exact ⟨q, h'.kept q hq, hqid⟩
    · exact h'.has id hid huses
  origin := by
    intro p hp
    rcases h'.origin p hp with hp | ⟨id, hid, hreach⟩
    · rcases h.origin p hp with hp | ⟨id, hid, hreach⟩
      · exact .inl hp
      · exact .inr ⟨id, List.mem_append_left _ hid, hreach⟩
    · exact .inr ⟨id, List.mem_append_right _ hid, hreach⟩
  closed := by
    intro p hp
    rcases h'.closed p hp with hp | hclosed
    · rcases h.closed p hp with hp | hclosed
      · exact .inl hp
      · refine .inr fun id href => ?_
        obtain ⟨q, hq, hqid⟩ := hclosed id href
        exact ⟨q, h'.kept q hq, hqid⟩
    · exact .inr hclosed

theorem skip (h : r.Listed ps) (hid : r.uses id = true → ∃ q ∈ ps, q.id = id) :
    r.Collects [id] ps ps where
  listed := h
  kept _ hp := hp
  has := by simpa using hid
  origin _ hp := .inl hp
  closed _ hp := .inl hp

theorem add (hr : r.Coherent) (hp : p ∈ r.participants) (hnew : ∀ q ∈ ps, q.id ≠ p.id)
    (howner : r.Collects p.owner.toList ps ps')
    (htemplate : r.Listed (ps' ++ [p]) → r.Collects p.instantiatedFrom.toList (ps' ++ [p]) ps'') :
    r.Collects [p.id] ps ps'' := by
  have hrefers : ∀ id, p.owner = some id ∨ p.instantiatedFrom = some id → r.Refers p.id id :=
    fun id href => ⟨p, hp, rfl, href⟩
  have hfresh : ∀ q ∈ ps', q.id ≠ p.id := by
    intro q hq hid
    rcases howner.origin q hq with hq | ⟨o, ho, hreach⟩
    · exact hnew q hq hid
    · have hlt := hr.rank_lt (hrefers o (.inl (Option.mem_toList.mp ho)))
      have hle := hr.rank_le hreach
      rw [hid] at hle
      exact absurd hle (Nat.not_le.mpr hlt)
  have howns : ∀ id, p.owner = some id → ∃ q ∈ ps', q.id = id := by
    intro id hid
    exact howner.has id (Option.mem_toList.mpr hid) (hr.uses_of_refers (hrefers id (.inl hid)))
  have hafter := htemplate (howner.listed.concat hp hfresh howns)
  have hkept : ∀ q ∈ ps', q ∈ ps'' := fun q hq => hafter.kept q (List.mem_append_left _ hq)
  have hmem : p ∈ ps'' := hafter.kept p (by simp)
  constructor
  case listed => exact hafter.listed
  case kept => exact fun q hq => hkept q (howner.kept q hq)
  case has => simpa using fun _ => ⟨p, hmem, rfl⟩
  case origin =>
    intro q hq
    rcases hafter.origin q hq with hq | ⟨t, ht, hreach⟩
    · rcases List.mem_append.mp hq with hq | hq
      · rcases howner.origin q hq with hq | ⟨o, ho, hreach⟩
        · exact .inl hq
        · exact .inr ⟨p.id, by simp, .head (hrefers o (.inl (Option.mem_toList.mp ho))) hreach⟩
      · rw [List.mem_singleton.mp hq]
        exact .inr ⟨p.id, by simp, .refl⟩
    · exact .inr ⟨p.id, by simp, .head (hrefers t (.inr (Option.mem_toList.mp ht))) hreach⟩
  case closed =>
    intro q hq
    rcases hafter.closed q hq with hq | hclosed
    · rcases List.mem_append.mp hq with hq | hq
      · rcases howner.closed q hq with hq | hclosed
        · exact .inl hq
        · refine .inr fun id href => ?_
          obtain ⟨x, hx, hxid⟩ := hclosed id href
          exact ⟨x, hkept x hx, hxid⟩
      · rw [List.mem_singleton.mp hq]
        refine .inr fun id href => ?_
        rcases href with ho | ht
        · obtain ⟨x, hx, hxid⟩ := howns id ho
          exact ⟨x, hkept x hx, hxid⟩
        · exact hafter.has id (Option.mem_toList.mpr ht) (hr.uses_of_refers (hrefers id (.inr ht)))
    · exact .inr hclosed

end Collects

end Roster

namespace Diagram

variable {r : Roster} {p : Participant} {id : ParticipantId} {ps : List Participant} {room : Nat}

def collectOr (otherwise : List Participant → List Participant) (r : Roster) :
    (room : Nat) → ParticipantId → List Participant → List Participant
  | 0, _, ps => otherwise ps
  | room + 1, id, ps =>
    if ps.any (·.id == id) then ps
    else (r.get? id).elim ps fun p =>
      let withOwner := p.owner.elim ps fun owner => collectOr otherwise r room owner ps
      p.instantiatedFrom.elim (withOwner ++ [p]) fun template =>
        collectOr otherwise r room template (withOwner ++ [p])

theorem collect_eq_collectOr : collect r room id ps = collectOr (fun ps => ps) r room id ps := by
  induction room generalizing id ps with
  | zero => rfl
  | succ room ih =>
    simp only [collect, collectOr, ih]
    cases r.get? id with
    | none => simp
    | some p => cases ho : p.owner <;> cases ht : p.instantiatedFrom <;> simp [ho, ht]

/-- Room for all that were registered before a participant is enough for it. -/
theorem collectOr_congr (f g : List Participant → List Participant) (hr : r.Coherent)
    (hroom : r.rank id < room) : collectOr f r room id ps = collectOr g r room id ps := by
  induction room generalizing id ps with
  | zero => exact absurd hroom (Nat.not_lt_zero _)
  | succ room ih =>
    have hany :
      ∀ {o : Option ParticipantId} {ps : List Participant}, (∀ a, o = some a → r.Refers id a) →
        (o.elim ps fun a => collectOr f r room a ps) =
          o.elim ps fun a => collectOr g r room a ps := by
      intro o ps ho
      cases o with
      | none => rfl
      | some a => exact ih (Nat.lt_of_lt_of_le (hr.rank_lt (ho a rfl)) (Nat.le_of_lt_succ hroom))
    simp only [collectOr]
    cases hp : r.get? id with
    | none => rfl
    | some p =>
      obtain ⟨hmem, rfl⟩ := Roster.mem_of_get? hp
      have howner := @hany p.owner ps fun a ha => ⟨p, hmem, rfl, .inl ha⟩
      have htemplate := fun qs => @hany p.instantiatedFrom qs fun a ha => ⟨p, hmem, rfl, .inr ha⟩
      simp only [Option.elim_some, howner]
      cases ht : p.instantiatedFrom with
      | none => rfl
      | some t =>
        simp only [ht, Option.elim_some] at htemplate
        simp only [Option.elim_some, htemplate]

theorem collectOr_collects (otherwise : List Participant → List Participant) (hr : r.Coherent)
    (hroom : r.rank id < room) (hps : r.Listed ps) :
    r.Collects [id] ps (collectOr otherwise r room id ps) := by
  induction room generalizing id ps with
  | zero => exact absurd hroom (Nat.not_lt_zero _)
  | succ room ih =>
    have hany :
      ∀ {o : Option ParticipantId} {ps : List Participant}, (∀ a, o = some a → r.Refers id a) →
        r.Listed ps →
        r.Collects o.toList ps (o.elim ps fun a => collectOr otherwise r room a ps) := by
      intro o ps ho hps
      cases o with
      | none => exact .nil hps
      | some a =>
        exact ih (Nat.lt_of_lt_of_le (hr.rank_lt (ho a rfl)) (Nat.le_of_lt_succ hroom)) hps
    simp only [collectOr]
    split
    case isTrue hpresent =>
      apply Roster.Collects.skip hps
      simpa using fun _ => hpresent
    case isFalse hnew =>
      cases hp : r.get? id with
      | none =>
        apply Roster.Collects.skip hps
        intro huses
        rw [← Roster.get?_isSome_iff, hp] at huses
        simp at huses
      | some p =>
        obtain ⟨hmem, rfl⟩ := Roster.mem_of_get? hp
        have howner := hany (o := p.owner) (fun a ha => ⟨p, hmem, rfl, .inl ha⟩) hps
        apply Roster.Collects.add hr hmem _ howner
        · intro hlisted
          have h := hany (o := p.instantiatedFrom) (fun a ha => ⟨p, hmem, rfl, .inr ha⟩) hlisted
          cases ht : p.instantiatedFrom <;> simpa [ht] using h
        · simpa using hnew

theorem rank_lt_room (r : Roster) (id : ParticipantId) : r.rank id < r.size + 1 :=
  Nat.lt_succ_of_le (r.rank_le_size id)

theorem foldl_collects (hr : r.Coherent) (ids : List ParticipantId) (hps : r.Listed ps) :
    r.Collects ids ps (ids.foldl (fun ps id => collect r (r.size + 1) id ps) ps) := by
  induction ids generalizing ps with
  | nil => exact .nil hps
  | cons id rest ih =>
    have hfirst : r.Collects [id] ps (collect r (r.size + 1) id ps) := by
      rw [collect_eq_collectOr]
      exact collectOr_collects _ hr (rank_lt_room r id) hps
    exact hfirst.append (ih hfirst.listed)

/-- A diagram in which everybody is declared that it takes to draw its interactions. -/
structure Closed (d : Diagram) (r : Roster) : Prop where
  ids : (d.participants.map (·.id)).Nodup
  mem_iff : ∀ p, p ∈ d.participants ↔ p ∈ r.participants ∧
    ∃ s ∈ d.interactions, ∃ id ∈ s.mentions, Relation.ReflTransGen r.Refers id p.id
  owners : ∀ before p after, d.participants = before ++ p :: after →
    ∀ id, p.owner = some id → ∃ q ∈ before, q.id = id
  lifelines : (d.lifelines.map (·.id)).Nodup
  lifelines_iff : ∀ id, id ∈ d.lifelines.map (·.id) ↔
    ∃ s ∈ d.interactions, ∃ m ∈ s.mentions, ∃ p, r.get? m = some p ∧ p.owner.getD p.id = id
  drawn : ∀ s ∈ d.interactions, ∀ m ∈ s.mentions, d.lifeline m ∈ d.lifelines.map (·.id)

variable {interactions : List Interaction} {name : String}

@[simp] theorem interactions_assemble :
    (assemble name r interactions).interactions = interactions := rfl

theorem mem_lifelines {d : Diagram} : p ∈ d.lifelines ↔ p ∈ d.participants ∧
    ∃ s ∈ d.interactions, ∃ m ∈ s.mentions, d.lifeline m = p.id := by
  simp only [lifelines, used, List.mem_filter, List.contains_iff_mem,
    List.mem_map, List.mem_flatMap]
  grind

theorem assemble_collects (name : String) (interactions : List Interaction) (hr : r.Coherent) :
    r.Collects (interactions.flatMap (·.participants)) []
      (assemble name r interactions).participants :=
  foldl_collects hr _ .nil

theorem mem_of_reach {ids : List ParticipantId} (hr : r.Coherent) (h : r.Collects ids [] ps)
    (hid : id ∈ ids) (hp : p ∈ r.participants) (hreach : Relation.ReflTransGen r.Refers id p.id) :
    p ∈ ps := by
  obtain ⟨q, hq, hqid⟩ : ∃ q ∈ ps, q.id = p.id := by
    have huses : r.uses p.id = true := Roster.uses_of_mem hp
    generalize p.id = b at hreach huses
    induction hreach with
    | refl => exact h.has id hid huses
    | tail _ hstep ih =>
      obtain ⟨x, hx, rfl, href⟩ := hstep
      obtain ⟨y, hy, hyid⟩ := ih (Roster.uses_of_mem hx)
      obtain rfl := hr.eq_of_id (h.listed.registered y hy) hx hyid
      rcases h.closed y hy with hnone | hclosed
      · simp at hnone
      · exact hclosed _ href
  rw [hr.eq_of_id hp (h.listed.registered q hq) hqid.symm]
  exact hq

theorem mem_assemble (hr : r.Coherent) :
    p ∈ (assemble name r interactions).participants ↔ p ∈ r.participants ∧
    ∃ s ∈ interactions, ∃ id ∈ s.mentions, Relation.ReflTransGen r.Refers id p.id := by
  have h := assemble_collects name interactions hr
  constructor
  · intro hp
    rcases h.origin p hp with hnone | ⟨id, hid, hreach⟩
    · simp at hnone
    · obtain ⟨s, hs, hid⟩ := List.mem_flatMap.mp hid
      exact ⟨h.listed.registered p hp, s, hs, id, mem_distinctBy_id.mp hid, hreach⟩
  · intro hp
    obtain ⟨hp, s, hs, id, hid, hreach⟩ := hp
    exact mem_of_reach hr h (List.mem_flatMap.mpr ⟨s, hs, mem_distinctBy_id.mpr hid⟩) hp hreach

section

variable (name) (hr : r.Coherent) {s : Interaction} {m : ParticipantId} (hs : s ∈ interactions)
  (hm : m ∈ s.mentions) (hp : r.get? m = some p)
include hr hs hm hp

theorem lifeline_assemble : (assemble name r interactions).lifeline m = p.owner.getD p.id := by
  obtain ⟨hmem, rfl⟩ := Roster.mem_of_get? hp
  have hlisted := (assemble_collects name interactions hr).listed
  have hfound : (assemble name r interactions).participant? p.id = some p := by
    simp only [participant?]
    cases hfind : List.find? (·.id == p.id) (assemble name r interactions).participants with
    | none =>
      have hnot :=
        List.find?_eq_none.mp hfind p (mem_assemble hr |>.mpr ⟨hmem, s, hs, p.id, hm, .refl⟩)
      simp at hnot
    | some q =>
      have hq := hlisted.registered q (List.mem_of_find?_eq_some hfind)
      rw [hr.eq_of_id hq hmem (by simpa using List.find?_some hfind)]
  simp [lifeline, hfound, Participant.lifeline]

theorem exists_lifeline :
    ∃ q ∈ (assemble name r interactions).participants, q.id = p.owner.getD p.id := by
  obtain ⟨hmem, rfl⟩ := Roster.mem_of_get? hp
  cases ho : p.owner with
  | none => exact ⟨p, (mem_assemble hr).mpr ⟨hmem, s, hs, p.id, hm, .refl⟩, rfl⟩
  | some o =>
    have hrefers : r.Refers p.id o := ⟨p, hmem, rfl, .inl ho⟩
    obtain ⟨q, hget⟩ :=
      Option.isSome_iff_exists.mp (Roster.get?_isSome_iff.mpr (hr.uses_of_refers hrefers))
    obtain ⟨hq, rfl⟩ := Roster.mem_of_get? hget
    exact ⟨q, (mem_assemble hr).mpr ⟨hq, s, hs, p.id, hm, .single hrefers⟩, rfl⟩

end

theorem closed_assemble (name : String) (hr : r.Coherent)
    (hmentions : ∀ s ∈ interactions, ∀ id ∈ s.mentions, r.uses id = true) :
    (assemble name r interactions).Closed r := by
  have hlisted := (assemble_collects name interactions hr).listed
  have hget : ∀ s ∈ interactions, ∀ m ∈ s.mentions, ∃ p, r.get? m = some p := fun s hs m hm =>
    Option.isSome_iff_exists.mp (Roster.get?_isSome_iff.mpr (hmentions s hs m hm))
  have hdrawn : ∀ s ∈ interactions, ∀ m ∈ s.mentions, ∀ p, r.get? m = some p →
      p.owner.getD p.id ∈ (assemble name r interactions).lifelines.map (·.id) := by
    intro s hs m hm p hp
    obtain ⟨q, hq, hqid⟩ := exists_lifeline name hr hs hm hp
    refine List.mem_map.mpr ⟨q, mem_lifelines.mpr ⟨hq, s, hs, m, hm, ?_⟩, hqid⟩
    rw [lifeline_assemble name hr hs hm hp, hqid]
  constructor
  case ids => exact hlisted.ids
  case mem_iff => exact fun p => mem_assemble hr
  case owners => exact hlisted.owners
  case lifelines => exact (List.filter_sublist.map _).nodup hlisted.ids
  case lifelines_iff =>
    intro id
    constructor
    · intro hid
      obtain ⟨q, hq, rfl⟩ := List.mem_map.mp hid
      obtain ⟨-, s, hs, m, hm, hline⟩ := mem_lifelines.mp hq
      rw [interactions_assemble] at hs
      obtain ⟨p, hp⟩ := hget s hs m hm
      exact ⟨s, hs, m, hm, p, hp, by rw [← hline, lifeline_assemble name hr hs hm hp]⟩
    · intro hid
      obtain ⟨s, hs, m, hm, p, hp, rfl⟩ := hid
      exact hdrawn s hs m hm p hp
  case drawn =>
    intro s hs m hm
    rw [interactions_assemble] at hs
    obtain ⟨p, hp⟩ := hget s hs m hm
    rw [lifeline_assemble name hr hs hm hp]
    exact hdrawn s hs m hm p hp

end Diagram

end Lifeline
