import Lifeline.Proofs.Exclusion

namespace Lifeline

structure Roster.Coherent (r : Roster) : Prop where
  id_ne : ∀ p ∈ r.participants, p.id ≠ .tombstone
  ids : (r.participants.toList.map (·.id)).Nodup
  key_eq : ∀ p ∈ r.participants, p.key = p.kind.tag ++ ":" ++ p.fullName
  keys : (r.participants.toList.map (·.key)).Nodup
  get?_eq : ∀ id p, r.get? id = some p ↔ p ∈ r.participants ∧ p.id = id
  earlier : ∀ (i : Nat) (p : Participant), r.participants[i]? = some p →
    ∀ id, p.owner = some id ∨ p.instantiatedFrom = some id →
      ∃ (j : Nat) (q : Participant), j < i ∧ r.participants[j]? = some q ∧ q.id = id
  owner : ∀ p ∈ r.participants, ∀ q ∈ r.participants, p.owner = some q.id →
    (q.kind = .cls ∨ q.kind = .file) ∧ q.owner = none
  lifeline : ∀ p ∈ r.participants, ∃ q ∈ r.participants, q.id = p.lifeline ∧ q.lifeline = p.lifeline

namespace Casting

variable {c : Casting} {S : Participant → Prop} {r r' : Roster} {p q : Participant}
  {id : ParticipantId}

theorem Drawn.ids_nodup (h : c.Drawn r) (hsize : r.size < UInt64.size) :
    (.tombstone :: r.participants.toList.map (·.id)).Nodup := by
  induction h with
  | refl => simp
  | @tail mid last _ hstep ih =>
    have hbefore := ih (Nat.lt_of_le_of_lt hstep.kept.size_le hsize)
    rcases hstep.participants with heq | ⟨p, id, -, -, hid, heq⟩
    · rw [heq]
      exact hbefore
    · rw [Roster.size, heq] at hsize
      obtain ⟨hne, hunused⟩ :=
        mid.freeId_isFree_of_size (by simpa [Roster.size] using hsize) (c.seed p.key)
      rw [← hid] at hne hunused
      have hnew : id ∉ ParticipantId.tombstone :: mid.participants.toList.map (·.id) := by
        rw [List.mem_cons, List.mem_map, ← Roster.uses_iff, hunused]
        simpa using hne
      simpa [heq] using hbefore.concat hnew

theorem Drawn.keys_nodup (h : c.Drawn r) : (r.participants.toList.map (·.key)).Nodup := by
  induction h with
  | refl => simp
  | @tail mid last _ hstep ih =>
    rcases hstep.participants with heq | ⟨p, id, -, hnew, -, heq⟩
    · rw [heq]
      exact ih
    · have hnew : { p with id }.key ∉ mid.participants.toList.map (·.key) := by
        rw [List.mem_map]
        rintro ⟨q, hq, hkey⟩
        exact hnew q (Array.mem_toList_iff.1 hq) hkey
      simpa [heq] using ih.concat hnew

/-- Interns one entity after the other, also when one fails. -/
def internAll (c : Casting) (es : List Entity) (r : Roster) : Roster :=
  es.foldl (fun r e => (c.intern e r).2) r

theorem internAll_changes (hr : c.Drawn r) {es : List Entity} (hes : ∀ e ∈ es, e.Within c.program) :
    c.Changes (fun _ => True) r (c.internAll es r) := by
  induction es generalizing r with
  | nil => exact .refl
  | cons e es ih =>
    obtain ⟨he, hes⟩ := List.forall_mem_cons.1 hes
    have hstep := (intern_drawn hr he).result.rel
    exact hstep.trans (ih (hr.trans hstep) hes)

theorem internAll_append (es es' : List Entity) :
    c.internAll (es ++ es') r = c.internAll es' (c.internAll es r) :=
  List.foldl_append

theorem Drawn.refers_earlier (h : c.Drawn r) {i : Nat} (hp : r.participants[i]? = some p)
    (hid : p.owner = some id ∨ p.instantiatedFrom = some id) :
    ∃ (j : Nat) (q : Participant), j < i ∧ r.participants[j]? = some q ∧ q.id = id := by
  rcases Changes.joined h hp with hnone | ⟨mid, hmid, hkept, rfl, hjoins⟩
  · simp at hnone
  · have hinformed := Drawn.informed hmid
    obtain ⟨q, hq, hqid⟩ : ∃ q ∈ mid.participants, q.id = id := by
      rcases hid with howner | horigin
      · obtain ⟨q, hq, hqid, -⟩ := hjoins.owner hinformed howner
        exact ⟨q, hq, hqid⟩
      · exact hjoins.origin hinformed horigin
    obtain ⟨j, hj⟩ := Array.mem_iff_getElem?.1 hq
    exact ⟨j, q, (Array.getElem?_eq_some_iff.1 hj).1, hkept.getElem? hj, hqid⟩

theorem Drawn.owner (h : c.Drawn r) (hp : p ∈ r.participants) (ho : p.owner = some id) :
    ∃ q ∈ r.participants, q.id = id ∧ (q.kind = .cls ∨ q.kind = .file) ∧ q.owner = none := by
  obtain ⟨mid, hmid, hkept, hjoins⟩ := h.mem hp
  obtain ⟨q, hq, hqid, hkind⟩ := hjoins.owner hmid.informed ho
  obtain ⟨_, -, -, hjoins⟩ := hmid.mem hq
  exact ⟨q, hkept.mem hq, hqid, hkind, hjoins.owner_eq_none hkind⟩

theorem Drawn.eq_of_id (h : c.Drawn r) (hsize : r.size < UInt64.size) (hp : p ∈ r.participants)
    (hq : q ∈ r.participants) (hid : p.id = q.id) : p = q :=
  List.inj_on_of_nodup_map (List.nodup_cons.1 (h.ids_nodup hsize)).2 (Array.mem_toList_iff.2 hp)
    (Array.mem_toList_iff.2 hq) hid

theorem Drawn.eq_of_key (h : c.Drawn r) (hp : p ∈ r.participants) (hq : q ∈ r.participants)
    (hkey : p.key = q.key) : p = q :=
  List.inj_on_of_nodup_map h.keys_nodup (Array.mem_toList_iff.2 hp) (Array.mem_toList_iff.2 hq) hkey

theorem Drawn.get?_id (h : c.Drawn r) (hsize : r.size < UInt64.size) (hp : p ∈ r.participants) :
    r.get? p.id = some p := by
  obtain ⟨q, hq⟩ := Option.isSome_iff_exists.1 (Roster.get?_isSome_iff.2 (Roster.uses_of_mem hp))
  obtain ⟨hmem, hid⟩ := Roster.mem_of_get? hq
  rw [hq, h.eq_of_id hsize hmem hp hid]

theorem Drawn.coherent (h : c.Drawn r) (hsize : r.size < UInt64.size) : r.Coherent where
  id_ne p hp hid := by
    refine (List.nodup_cons.1 (h.ids_nodup hsize)).1 ?_
    rw [← hid]
    exact List.mem_map_of_mem (Array.mem_toList_iff.2 hp)
  ids := (List.nodup_cons.1 (h.ids_nodup hsize)).2
  key_eq _ _ := rfl
  keys := h.keys_nodup
  get?_eq id p := by
    refine ⟨Roster.mem_of_get?, ?_⟩
    rintro ⟨hp, rfl⟩
    exact h.get?_id hsize hp
  earlier _ _ hp _ hid := h.refers_earlier hp hid
  owner p hp q hq ho := by
    obtain ⟨q', hq', hid, hkind⟩ := h.owner hp ho
    rw [← h.eq_of_id hsize hq' hq hid]
    exact hkind
  lifeline p hp := by
    unfold Participant.lifeline
    cases ho : p.owner with
    | none => exact ⟨p, hp, rfl, by rw [ho]⟩
    | some id =>
      obtain ⟨q, hq, hid, -, hnone⟩ := h.owner hp ho
      exact ⟨q, hq, hid, by simpa [hnone] using hid⟩

theorem internAll_drawn {es : List Entity} (hes : ∀ e ∈ es, e.Within c.program) :
    c.Drawn (c.internAll es {}) :=
  internAll_changes .refl hes

theorem internAll_keptIn {es es' : List Entity} (hes : ∀ e ∈ es ++ es', e.Within c.program) :
    (c.internAll es {}).KeptIn (c.internAll (es ++ es') {}) := by
  obtain ⟨hes, hes'⟩ := List.forall_mem_append.1 hes
  rw [internAll_append]
  exact (internAll_changes (internAll_drawn hes) hes').kept

theorem internAll_depicts {es es' : List Entity} {e : Entity}
    (hes : ∀ x ∈ es ++ e :: es', x.Within c.program)
    (hid : (c.intern e (c.internAll es {})).1 = .ok id) (hne : id ≠ .tombstone) :
    ∃ q ∈ (c.internAll (es ++ e :: es') {}).participants, q.id = id ∧
      c.identity (c.internAll es {}) e = .ok (q.kind, q.fullName) := by
  obtain ⟨hbefore, hrest⟩ := List.forall_mem_append.1 hes
  obtain ⟨he, hafter⟩ := List.forall_mem_cons.1 hrest
  have hdrawn := internAll_drawn hbefore
  have hdoes := (intern_drawn hdrawn he).result
  have houtcome := hdoes.outcome
  rw [hid] at houtcome
  obtain ⟨q, hq, hqid, hidentity⟩ := houtcome hne
  have hkept := (internAll_changes (hdrawn.trans hdoes.rel) hafter).kept
  rw [internAll_append]
  exact ⟨q, hkept.mem hq, hqid, hidentity⟩

/-- Whatever was interned, also in vain, participants are represented coherently. Nobody is changed
or removed later, and entities become the same participant if they have the same kind and full
name. -/
theorem internAll_coherent (c : Casting) {es : List Entity} (hes : ∀ e ∈ es, e.Within c.program)
    (hsize : (c.internAll es {}).size < UInt64.size) :
    (c.internAll es {}).Coherent ∧
    (∀ before after, es = before ++ after →
      (c.internAll before {}).participants.toList <+: (c.internAll es {}).participants.toList) ∧
    ∀ before e between e' after, es = before ++ e :: between ++ e' :: after → ∀ id id',
      (c.intern e (c.internAll before {})).1 = .ok id → id ≠ .tombstone →
      (c.intern e' (c.internAll (before ++ e :: between) {})).1 = .ok id' → id' ≠ .tombstone →
      (id = id' ↔ c.identity (c.internAll before {}) e =
        c.identity (c.internAll (before ++ e :: between) {}) e') := by
  have hdrawn := internAll_drawn hes
  refine ⟨hdrawn.coherent hsize, ?_, ?_⟩
  · rintro before after rfl
    exact (internAll_keptIn hes).participants
  · rintro before e between e' after heq id id' hid hne hid' hne'
    obtain ⟨q', hq', rfl, hidentity'⟩ := internAll_depicts (heq ▸ hes) hid' hne'
    have heq' : es = before ++ e :: (between ++ e' :: after) := by simpa using heq
    obtain ⟨q, hq, rfl, hidentity⟩ := internAll_depicts (heq' ▸ hes) hid hne
    rw [← heq'] at hq
    rw [← heq] at hq'
    rw [hidentity, hidentity', Except.ok.injEq, Prod.mk.injEq, ← Participant.keyOf_inj]
    refine ⟨fun hsame => ?_, fun hsame => ?_⟩
    · exact congrArg Participant.key (hdrawn.eq_of_id hsize hq hq' hsame)
    · exact congrArg Participant.id (hdrawn.eq_of_key hq hq' hsame)

end Casting

def Sample.entities : List Entity :=
  [.coroutineState ⟨2⟩, .decl work, .external "puts", .instantiation step ["int"],
    .coroutineState ⟨2⟩, .decl work]

theorem Sample.entities_within : ∀ e ∈ entities, e.Within program := by
  simp only [entities, List.forall_mem_cons]
  exact ⟨trivial, rfl, trivial, rfl, trivial, rfl, by simp⟩

theorem Casting.internAll_coherent_sample : (∀ e ∈ Sample.entities, e.Within Sample.program) ∧
    (Sample.tracer.casting.internAll Sample.entities {}).size = 6 ∧
    (Sample.tracer.casting.internAll Sample.entities {}).Coherent ∧
    Sample.tracer.casting.identity (Sample.tracer.casting.internAll [.coroutineState ⟨2⟩] {})
      (.decl Sample.work) =
        Sample.tracer.casting.identity (Sample.tracer.casting.internAll (Sample.entities.take 5) {})
          (.decl Sample.work) := by
  have h := Sample.tracer.casting.internAll_coherent Sample.entities_within (by decide +kernel)
  refine ⟨Sample.entities_within, by decide +kernel, h.1, ?_⟩
  exact (h.2.2 [.coroutineState ⟨2⟩] (.decl Sample.work) _ (.decl Sample.work) [] rfl
    ⟨2⟩ ⟨2⟩ (by decide +kernel) (by decide) (by decide +kernel) (by decide)).1 rfl

end Lifeline
