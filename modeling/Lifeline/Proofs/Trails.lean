import Mathlib.Data.List.Infix
import Mathlib.Data.List.Perm.Subperm
import Lifeline.Proofs.Assembly

/-! The order in which a diagram lists its participants. Whoever is mentioned brings along its owner
before it and its template after it, with all that these bring along themselves, and everybody
stands where they were first brought along. A lifeline may so be listed before others that are drawn
on earlier. -/

namespace Lifeline

open Relation (ReflTransGen)

def Participant.along (p : Participant) (trail : ParticipantId → List ParticipantId) :
    List ParticipantId :=
  p.owner.elim [] trail ++ p.id :: p.instantiatedFrom.elim [] trail

def IsTrail (ps : List Participant) (trail : ParticipantId → List ParticipantId) : Prop :=
  ∀ p ∈ ps, trail p.id = p.along trail

instance (ps : List Participant) (trail : ParticipantId → List ParticipantId) :
    Decidable (IsTrail ps trail) :=
  inferInstanceAs (Decidable (∀ p ∈ ps, _))

namespace Participant

variable {p : Participant} {trail trail' : ParticipantId → List ParticipantId}

theorem mem_along {b : ParticipantId} : b ∈ p.along trail ↔
    b = p.id ∨ ∃ id, (p.owner = some id ∨ p.instantiatedFrom = some id) ∧ b ∈ trail id := by
  cases ho : p.owner <;> cases ht : p.instantiatedFrom <;> simp [along, ho, ht,
    or_comm, or_left_comm]

theorem along_congr
    (h : ∀ id, p.owner = some id ∨ p.instantiatedFrom = some id → trail id = trail' id) :
    p.along trail = p.along trail' := by
  cases ho : p.owner <;> cases ht : p.instantiatedFrom <;> simp [along, ho, ht, h]

end Participant

namespace Roster

variable {r : Roster} {ids : List ParticipantId} {ps qs : List Participant} {p : Participant}
  {a b id : ParticipantId} {trail : ParticipantId → List ParticipantId}

theorem Collects.exists_of_refers (h : r.Collects ids [] qs) (hp : p ∈ qs)
    (hid : p.owner = some id ∨ p.instantiatedFrom = some id) : ∃ q ∈ qs, q.id = id := by
  rcases h.closed p hp with hnone | hclosed
  · simp at hnone
  · exact hclosed id hid

theorem mem_trail (hr : r.Coherent) (hqs : r.Collects ids [] qs) (htrail : IsTrail qs trail)
    (hp : p ∈ qs) : b ∈ trail p.id ↔ ReflTransGen r.Refers p.id b := by
  constructor
  · intro hb
    induction hn : r.rank p.id using Nat.strong_induction_on generalizing p with
    | _ n ih =>
      subst hn
      rw [htrail p hp, Participant.mem_along] at hb
      rcases hb with rfl | ⟨id, href, hb⟩
      · exact .refl
      · obtain ⟨q, hq, rfl⟩ := hqs.exists_of_refers hp href
        have hpq : r.Refers p.id q.id := ⟨p, hqs.listed.registered p hp, rfl, href⟩
        exact .head hpq (ih _ (hr.rank_lt hpq) hq hb rfl)
  · intro hreach
    generalize ha : p.id = a at hreach
    induction hreach using ReflTransGen.head_induction_on generalizing p with
    | refl =>
      rw [← ha, htrail p hp, Participant.mem_along]
      exact .inl rfl
    | head hstep _ ih =>
      obtain ⟨q, hq, rfl, href⟩ := hstep
      obtain rfl := hr.eq_of_id (hqs.listed.registered p hp) hq ha
      obtain ⟨x, hx, rfl⟩ := hqs.exists_of_refers hp href
      rw [htrail p hp, Participant.mem_along]
      exact .inr ⟨x.id, href, ih hx rfl⟩

def trailAt (r : Roster) : (room : Nat) → ParticipantId → List ParticipantId
  | 0, _ => []
  | room + 1, id => (r.get? id).elim [] fun p => p.along (r.trailAt room)

theorem trailAt_succ (hr : r.Coherent) (hp : p ∈ r.participants) (room : Nat) :
    r.trailAt (room + 1) p.id = p.along (r.trailAt room) := by
  rw [trailAt, (hr.get?_eq p.id p).2 ⟨hp, rfl⟩, Option.elim_some]

theorem trailAt_eq (hr : r.Coherent) {room room' : Nat} (hroom : r.rank id < room)
    (hroom' : r.rank id < room') : r.trailAt room id = r.trailAt room' id := by
  induction room generalizing room' id with
  | zero => exact absurd hroom (Nat.not_lt_zero _)
  | succ room ih =>
    obtain ⟨room', rfl⟩ := Nat.exists_eq_succ_of_ne_zero (Nat.ne_zero_of_lt hroom')
    cases hp : r.get? id with
    | none => simp only [trailAt, hp, Option.elim_none]
    | some p =>
      obtain ⟨hmem, rfl⟩ := mem_of_get? hp
      rw [trailAt_succ hr hmem, trailAt_succ hr hmem]
      apply Participant.along_congr
      intro a href
      have hlt : r.rank a < r.rank p.id := hr.rank_lt ⟨p, hmem, rfl, href⟩
      exact ih (by omega) (by omega)

theorem exists_isTrail (hr : r.Coherent) (hqs : ∀ p ∈ qs, p ∈ r.participants) :
    ∃ trail, IsTrail qs trail := by
  refine ⟨fun id => r.trailAt (r.rank id + 1) id, fun p hp => ?_⟩
  have hmem := hqs p hp
  refine (trailAt_succ hr hmem _).trans (Participant.along_congr fun a href => ?_)
  exact trailAt_eq hr (hr.rank_lt ⟨p, hmem, rfl, href⟩) (Nat.lt_succ_self _)

def Full (r : Roster) (ps : List Participant) (id : ParticipantId) : Prop :=
  ∀ a, ReflTransGen r.Refers id a → a ∈ ps.map (·.id) →
    ∀ b, ReflTransGen r.Refers a b → b ∈ ps.map (·.id)

theorem Full.of_refers (h : r.Full ps a) (hab : r.Refers a b) : r.Full ps b :=
  fun c hc => h c (.head hab hc)

theorem Full.concat (hr : r.Coherent) (h : r.Full ps p.id) (hp : r.Refers p.id id)
    {ps' : List Participant} {owner : Option ParticipantId}
    (hps' : ∀ a, a ∈ ps'.map (·.id) ↔ a ∈ ps.map (·.id) ∨
      ∃ o, owner = some o ∧ ReflTransGen r.Refers o a) :
    r.Full (ps' ++ [p]) id := by
  intro a ha hmem b hab
  rw [List.map_append, List.mem_append] at hmem ⊢
  rcases hmem with hmem | hmem
  · left
    rw [hps'] at hmem ⊢
    rcases hmem with hmem | ⟨o, ho, hoa⟩
    · exact .inl (h a (.head hp ha) hmem b hab)
    · exact .inr ⟨o, ho, hoa.trans hab⟩
  · have hle := hr.rank_le ha
    rw [List.mem_singleton.1 hmem] at hle
    exact absurd (hr.rank_lt hp) (Nat.not_lt.2 hle)

end Roster

namespace Diagram

variable {r : Roster} {ids : List ParticipantId} {ps qs : List Participant} {p : Participant}
  {trail : ParticipantId → List ParticipantId} {room : Nat}

/-- A participant that is not there yet is put between what its owner and what its template bring
along. -/
theorem map_add (hr : r.Coherent) (hqs : r.Collects ids [] qs) (htrail : IsTrail qs trail)
    (hp : p ∈ qs) (hnew : p.id ∉ ps.map (·.id)) (hfull : r.Full ps p.id)
    {ps' ps'' : List Participant}
    (howner : ps'.map (·.id) = distinctBy id (ps.map (·.id) ++ p.owner.elim [] trail))
    (htemplate : ((ps' ++ [p]).map (·.id)).Nodup →
      (∀ a, p.instantiatedFrom = some a → r.Full (ps' ++ [p]) a) →
      ps''.map (·.id) =
        distinctBy id ((ps' ++ [p]).map (·.id) ++ p.instantiatedFrom.elim [] trail)) :
    ps''.map (·.id) = distinctBy id (ps.map (·.id) ++ trail p.id) := by
  have hrefers : ∀ a, p.owner = some a ∨ p.instantiatedFrom = some a → r.Refers p.id a :=
    fun a href => ⟨p, hqs.listed.registered p hp, rfl, href⟩
  have hps' : ∀ a, a ∈ ps'.map (·.id) ↔ a ∈ ps.map (·.id) ∨
      ∃ o, p.owner = some o ∧ ReflTransGen r.Refers o a := by
    intro a
    rw [howner, mem_distinctBy_id, List.mem_append]
    cases ho : p.owner with
    | none => simp
    | some o =>
      obtain ⟨q, hq, rfl⟩ := hqs.exists_of_refers hp (.inl ho)
      simpa using or_congr_right (Roster.mem_trail hr hqs htrail hq)
  have hlater : p.id ∉ ps'.map (·.id) := by
    rw [hps']
    rintro (hthere | ⟨o, ho, hback⟩)
    · exact hnew hthere
    · exact absurd (hr.rank_lt (hrefers o (.inl ho))) (Nat.not_lt.2 (hr.rank_le hback))
  have hnodup : ((ps' ++ [p]).map (·.id)).Nodup := by
    rw [List.map_append, List.map_singleton, ← List.concat_eq_append]
    exact List.Nodup.concat hlater (howner ▸ nodup_distinctBy _)
  rw [htemplate hnodup fun a ha => hfull.concat hr (hrefers a (.inr ha)) hps',
    List.map_append, howner, htrail p hp,
    Participant.along, ← List.append_assoc, List.append_assoc (distinctBy _ _)]
  exact distinctBy_append_congr (distinctBy_distinctBy _) rfl

theorem map_collect (hr : r.Coherent) (hqs : r.Collects ids [] qs) (htrail : IsTrail qs trail)
    (hp : p ∈ qs) (hroom : r.rank p.id < room) (hps : (ps.map (·.id)).Nodup)
    (hfull : r.Full ps p.id) :
    (collect r room p.id ps).map (·.id) = distinctBy id (ps.map (·.id) ++ trail p.id) := by
  rw [collect_eq_collectOr]
  induction room generalizing p ps with
  | zero => exact absurd hroom (Nat.not_lt_zero _)
  | succ room ih =>
    have hmem := hqs.listed.registered p hp
    have hrefers : ∀ a, p.owner = some a ∨ p.instantiatedFrom = some a → r.Refers p.id a :=
      fun a href => ⟨p, hmem, rfl, href⟩
    have hany : ∀ (o : Option ParticipantId) (ps : List Participant),
        (∀ a, o = some a → p.owner = some a ∨ p.instantiatedFrom = some a) → (ps.map (·.id)).Nodup →
        (∀ a, o = some a → r.Full ps a) →
        (o.elim ps fun a => collectOr (fun ps => ps) r room a ps).map (·.id) =
          distinctBy id (ps.map (·.id) ++ o.elim [] trail) := by
      intro o ps ho hps hfull
      cases o with
      | none => rw [Option.elim_none, Option.elim_none, List.append_nil, distinctBy_of_nodup hps]
      | some a =>
        obtain ⟨q, hq, rfl⟩ := hqs.exists_of_refers hp (ho a rfl)
        have hlt := hr.rank_lt (hrefers q.id (ho q.id rfl))
        exact ih hq (Nat.lt_of_lt_of_le hlt (Nat.le_of_lt_succ hroom)) hps (hfull q.id rfl)
    rw [collectOr]
    split
    case isTrue hpresent =>
      have hthere : p.id ∈ ps.map (·.id) := by simpa using hpresent
      rw [distinctBy_append_of_subset, distinctBy_of_nodup hps]
      exact fun b hb => hfull p.id .refl hthere b ((Roster.mem_trail hr hqs htrail hp).1 hb)
    case isFalse hnew =>
      rw [(hr.get?_eq p.id p).2 ⟨hmem, rfl⟩, Option.elim_some]
      have howner := hany p.owner ps (fun a => .inl) hps fun a ha =>
        hfull.of_refers (hrefers a (.inl ha))
      exact map_add hr hqs htrail hp (by simpa using hnew) hfull howner
        (hany p.instantiatedFrom _ fun a => .inr)

theorem foldl_collect (hr : r.Coherent) (hqs : r.Collects ids [] qs) (htrail : IsTrail qs trail)
    {ms : List ParticipantId} (hms : ∀ m ∈ ms, ∃ q ∈ qs, q.id = m) (hps : (ps.map (·.id)).Nodup)
    (hfull : ∀ m, r.Full ps m) :
    (ms.foldl (fun ps id => collect r (r.size + 1) id ps) ps).map (·.id) =
      distinctBy id (ps.map (·.id) ++ ms.flatMap trail) := by
  induction ms generalizing ps with
  | nil => simp [distinctBy_of_nodup hps]
  | cons m rest ih =>
    obtain ⟨⟨q, hq, rfl⟩, hrest⟩ := List.forall_mem_cons.1 hms
    have hfirst := map_collect hr hqs htrail hq (rank_lt_room r q.id) hps (hfull q.id)
    have hmem : ∀ a, a ∈ (collect r (r.size + 1) q.id ps).map (·.id) ↔
        a ∈ ps.map (·.id) ∨ ReflTransGen r.Refers q.id a := by
      intro a
      rw [hfirst, mem_distinctBy_id, List.mem_append, Roster.mem_trail hr hqs htrail hq]
    rw [List.foldl_cons, ih hrest (hfirst ▸ nodup_distinctBy _), hfirst,
      List.flatMap_cons, ← List.append_assoc]
    · exact distinctBy_append_congr (distinctBy_distinctBy _) rfl
    · intro m a _ ha b hab
      rw [hmem] at ha ⊢
      exact ha.imp (fun ha => hfull a a .refl ha b hab) fun ha => ha.trans hab

def mentions (d : Diagram) : List ParticipantId :=
  d.interactions.flatMap (·.mentions)

section

variable {interactions : List Interaction} {name : String} (hr : r.Coherent)
  (hmentions : ∀ s ∈ interactions, ∀ id ∈ s.mentions, r.uses id = true)
  (htrail : IsTrail (assemble name r interactions).participants trail)
include hr hmentions htrail

theorem map_participants :
    (assemble name r interactions).participants.map (·.id) =
      distinctBy id ((assemble name r interactions).mentions.flatMap trail) := by
  have hqs := assemble_collects name interactions hr
  have hms : ∀ m ∈ interactions.flatMap (·.participants),
      ∃ q ∈ (assemble name r interactions).participants, q.id = m := by
    intro m hm
    obtain ⟨s, hs, hmem⟩ := List.mem_flatMap.1 hm
    exact hqs.has m hm (hmentions s hs m (mem_distinctBy_id.1 hmem))
  have hnone : ∀ m, r.Full [] m := by simp [Roster.Full]
  calc (assemble name r interactions).participants.map (·.id)
    _ = distinctBy id ((interactions.flatMap (·.participants)).flatMap trail) :=
      foldl_collect hr hqs htrail hms List.nodup_nil hnone
    _ = distinctBy id (interactions.flatMap fun s => s.participants.flatMap trail) := by
      rw [List.flatMap_assoc]
    _ = distinctBy id (interactions.flatMap fun s => s.mentions.flatMap trail) :=
      distinctBy_flatMap_congr
        (fun s : Interaction => distinctBy_flatMap_distinctBy trail s.mentions) _
    _ = distinctBy id ((assemble name r interactions).mentions.flatMap trail) := by
      rw [mentions, List.flatMap_assoc, interactions_assemble]

theorem map_lifelines :
    (assemble name r interactions).lifelines.map (·.id) =
      distinctBy id (((assemble name r interactions).mentions.flatMap trail).filter
        fun id => (assemble name r interactions).used.contains id) := by
  rw [← distinctBy_filter, ← map_participants hr hmentions htrail, List.filter_map]
  rfl

theorem trail_eq_cons {m : ParticipantId} (hm : m ∈ (assemble name r interactions).mentions) :
    ∃ rest, trail m = (assemble name r interactions).lifeline m :: rest := by
  obtain ⟨s, hs, hm⟩ := List.mem_flatMap.1 hm
  rw [interactions_assemble] at hs
  obtain ⟨p, hp⟩ := Option.isSome_iff_exists.1 (Roster.get?_isSome_iff.2 (hmentions s hs m hm))
  rw [lifeline_assemble name hr hs hm hp]
  obtain ⟨hmem, rfl⟩ := Roster.mem_of_get? hp
  have hpart : p ∈ (assemble name r interactions).participants :=
    (mem_assemble hr).2 ⟨hmem, s, hs, p.id, hm, .refl⟩
  rw [htrail p hpart, Participant.along]
  cases ho : p.owner with
  | none => exact ⟨_, rfl⟩
  | some o =>
    have hqs := assemble_collects name interactions hr
    obtain ⟨q, hq, rfl⟩ := hqs.exists_of_refers hpart (.inl ho)
    have howner := (hr.owner p hmem q (hqs.listed.registered q hq) ho).2
    refine ⟨q.instantiatedFrom.elim [] trail ++ p.id :: p.instantiatedFrom.elim [] trail, ?_⟩
    rw [Option.elim_some, htrail q hq, Participant.along, howner]
    simp

end

section

variable {d : Diagram} {n : Nat}

def appeared (d : Diagram) (n : Nat) : List ParticipantId :=
  (d.mentions.take n).map d.lifeline

def brought (d : Diagram) (trail : ParticipantId → List ParticipantId) (n : Nat) :
    List ParticipantId :=
  ((d.mentions.take n).flatMap trail).filter fun id => d.used.contains id

def ahead (d : Diagram) (trail : ParticipantId → List ParticipantId) (n : Nat) :
    List ParticipantId :=
  (d.brought trail n).filter fun id => !(d.appeared n).contains id

/-- Whenever a lifeline appears, it is the first of those that are ahead, or none is. -/
def InTime (d : Diagram) (trail : ParticipantId → List ParticipantId) : Prop :=
  ∀ n, (h : n < d.mentions.length) → d.lifeline d.mentions[n] ∉ d.appeared n →
    ∀ id ∈ (d.ahead trail n).head?, id = d.lifeline d.mentions[n]

instance (d : Diagram) (trail : ParticipantId → List ParticipantId) : Decidable (d.InTime trail) :=
  inferInstanceAs (Decidable (∀ n, (h : n < d.mentions.length) → _ → _))

theorem appeared_succ (h : n < d.mentions.length) :
    d.appeared (n + 1) = d.appeared n ++ [d.lifeline d.mentions[n]] := by
  rw [appeared, List.take_succ_eq_append_getElem h, List.map_append]
  rfl

theorem brought_succ (h : n < d.mentions.length) : d.brought trail (n + 1) =
    d.brought trail n ++ (trail d.mentions[n]).filter fun id => d.used.contains id := by
  rw [brought, List.take_succ_eq_append_getElem h, List.flatMap_append, List.filter_append]
  simp [brought]

theorem appeared_mono {n' : Nat} (h : n ≤ n') : d.appeared n <+: d.appeared n' :=
  (List.take_prefix_take_left h).map _

theorem brought_mono {n' : Nat} (h : n ≤ n') : d.brought trail n <+: d.brought trail n' :=
  ((List.take_prefix_take_left h).flatMap trail).filter _

theorem appeared_subset_brought (htrail : ∀ m ∈ d.mentions, ∃ rest, trail m = d.lifeline m :: rest)
    (n : Nat) : d.appeared n ⊆ d.brought trail n := by
  intro a ha
  obtain ⟨m, hm, rfl⟩ := List.mem_map.1 ha
  have hmem := List.mem_of_mem_take hm
  obtain ⟨rest, hrest⟩ := htrail m hmem
  have hused : d.lifeline m ∈ d.used := List.mem_map_of_mem hmem
  exact List.mem_filter.2 ⟨List.mem_flatMap.2 ⟨m, hm, by simp [hrest]⟩, by simpa using hused⟩

theorem appeared_length (d : Diagram) : d.appeared d.mentions.length = d.used := by
  rw [appeared, List.take_length]
  rfl

theorem distinctBy_appeared_succ (h : n < d.mentions.length)
    (hnew : d.lifeline d.mentions[n] ∉ d.appeared n) :
    distinctBy id (d.appeared (n + 1)) =
      distinctBy id (d.appeared n) ++ [d.lifeline d.mentions[n]] := by
  rw [appeared_succ h, distinctBy_append]
  simp [distinctBy, hnew]

theorem head?_ahead {late : List ParticipantId}
    (h : distinctBy id (d.brought trail n) = distinctBy id (d.appeared n) ++ late) :
    (d.ahead trail n).head? = late.head? := by
  have hnodup := h ▸ nodup_distinctBy (d.brought trail n)
  have hlate : ∀ a ∈ late, a ∉ d.appeared n := by
    intro a ha happeared
    exact (List.disjoint_of_nodup_append hnodup) (mem_distinctBy_id.2 happeared) ha
  rw [← head?_distinctBy id, ahead, ← distinctBy_filter, h, List.filter_append,
    List.filter_eq_nil_iff.2, List.nil_append, List.filter_eq_self.2]
  · simpa using hlate
  · intro a ha
    simpa using mem_distinctBy_id.1 ha

theorem prefix_succ (htrail : ∀ m ∈ d.mentions, ∃ rest, trail m = d.lifeline m :: rest)
    (hin : d.InTime trail) (h : n < d.mentions.length)
    (hn : distinctBy id (d.appeared n) <+: distinctBy id (d.brought trail n)) :
    distinctBy id (d.appeared (n + 1)) <+: distinctBy id (d.brought trail (n + 1)) := by
  obtain ⟨late, hlate⟩ := hn
  rw [brought_succ h, distinctBy_append, ← hlate, List.append_assoc]
  by_cases hnew : d.lifeline d.mentions[n] ∈ d.appeared n
  · rw [appeared_succ h, distinctBy_append_of_subset (by simpa using hnew)]
    exact List.prefix_append _ _
  · rw [distinctBy_appeared_succ h hnew]
    refine (List.prefix_append_right_inj _).2 ?_
    cases late with
    | cons first more =>
      obtain rfl : first = d.lifeline d.mentions[n] :=
        hin n h hnew first (by simp [head?_ahead hlate.symm])
      exact ⟨_, rfl⟩
    | nil =>
      -- Nothing is ahead, so the lifeline that appears is the first that its mention brings along.
      obtain ⟨rest, hrest⟩ := htrail d.mentions[n] (List.getElem_mem h)
      have hused : d.lifeline d.mentions[n] ∈ d.used := List.mem_map_of_mem (List.getElem_mem h)
      have hfresh : d.lifeline d.mentions[n] ∉ d.brought trail n := by
        rw [← mem_distinctBy_id, ← hlate, List.append_nil, mem_distinctBy_id]
        exact hnew
      rw [hrest, List.filter_cons_of_pos (by simpa using hused), distinctBy,
        List.filter_cons_of_pos (by simpa using hfresh)]
      exact ⟨_, rfl⟩

theorem inTime_iff (htrail : ∀ m ∈ d.mentions, ∃ rest, trail m = d.lifeline m :: rest) :
    distinctBy id ((d.mentions.flatMap trail).filter fun id => d.used.contains id) =
      distinctBy id d.used ↔ d.InTime trail := by
  have hall : d.brought trail d.mentions.length =
      (d.mentions.flatMap trail).filter fun id => d.used.contains id := by
    rw [brought, List.take_length]
  rw [← hall, ← appeared_length]
  constructor
  · intro heq n h hnew next hnext
    -- Both lists begin as the whole does, so what comes after those that have appeared is the same
    -- in both.
    have hbrought :
        distinctBy id (d.brought trail n) <+: distinctBy id (d.appeared d.mentions.length) :=
      heq ▸ distinctBy_mono (brought_mono (Nat.le_of_lt h))
    have happeared : distinctBy id (d.appeared n) ++ [d.lifeline d.mentions[n]] <+:
        distinctBy id (d.appeared d.mentions.length) := by
      rw [← distinctBy_appeared_succ h hnew]
      exact distinctBy_mono (appeared_mono h)
    have hsubset : distinctBy id (d.appeared n) ⊆ distinctBy id (d.brought trail n) := by
      intro a ha
      exact mem_distinctBy_id.2 (appeared_subset_brought htrail n (mem_distinctBy_id.1 ha))
    obtain ⟨late, hlate⟩ :=
      List.prefix_of_prefix_length_le ((List.prefix_append _ _).trans happeared) hbrought
      ((nodup_distinctBy _).subperm hsubset).length_le
    rw [head?_ahead hlate.symm] at hnext
    cases late with
    | nil => simp at hnext
    | cons first more =>
      obtain rfl : first = next := by simpa using hnext
      have hlisted :
          distinctBy id (d.appeared n) ++ [first] <+: distinctBy id
            (d.appeared d.mentions.length) :=
        List.IsPrefix.trans ⟨more, by rw [← hlate, List.append_assoc]; rfl⟩ hbrought
      have hsame := List.prefix_of_prefix_length_le hlisted happeared (by simp)
      simpa using (List.prefix_append_right_inj _).1 hsame
  · intro hin
    have hbegins :
        ∀ n ≤ d.mentions.length, distinctBy id (d.appeared n) <+: distinctBy id
          (d.brought trail n) := by
      intro n hn
      induction n with
      | zero => exact List.nil_prefix
      | succ n ih => exact prefix_succ htrail hin hn (ih (Nat.le_of_succ_le hn))
    have hsubset : distinctBy id (d.brought trail d.mentions.length) ⊆
        distinctBy id (d.appeared d.mentions.length) := by
      intro a ha
      rw [mem_distinctBy_id, brought, List.mem_filter] at ha
      rw [mem_distinctBy_id, appeared_length]
      simpa using ha.2
    have hle := ((nodup_distinctBy _).subperm hsubset).length_le
    exact ((hbegins _ (Nat.le_refl _)).eq_of_length_le hle).symm

end

end Diagram

end Lifeline
