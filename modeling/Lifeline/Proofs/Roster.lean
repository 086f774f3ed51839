import Mathlib.Data.Finset.Card
import Lifeline.Roster
import Lifeline.Proofs.Agreement

namespace Lifeline

theorem Participant.keyOf_inj {kind kind' : ParticipantKind} {name name' : String} :
    keyOf kind name = keyOf kind' name' ↔ kind = kind' ∧ name = name' := by
  -- No tag has a colon, so keys with different tags differ before the first one.
  cases kind <;> cases kind' <;> simp [keyOf, ParticipantKind.tag,
    ParticipantKind.word, String.ext_iff]

namespace Roster

def Numbered (r : Roster) : Prop :=
  r.uses .tombstone = false

/-- Nobody leaves, nothing remembered is forgotten, and nobody is given the tombstone for lack of
ids. -/
structure Extends (r r' : Roster) : Prop where
  participants : r.participants.toList <+: r'.participants.toList
  known : ∀ id args p, r.remembered? id args = some p → r'.remembered? id args = some p
  numbered : r'.size < UInt64.size → r.Numbered → r'.Numbered

/-- Whatever a declaration is remembered as can be seen, unless the filter keeps it out. -/
def Sound (r : Roster) : Prop :=
  ∀ id args p, r.remembered? id args = some p → p ≠ .tombstone → r.isVisible p

variable {r r' r'' : Roster} {id : ParticipantId} {p : Participant}

theorem uses_iff : r.uses id = true ↔ ∃ p ∈ r.participants.toList, p.id = id := by
  simp [uses, ← Array.any_toList]

theorem isVisible_iff : r.isVisible id = true ↔ id ≠ .tombstone ∧ r.uses id = true := by
  simp [isVisible, ParticipantId.isTombstone]

theorem get?_isSome_iff : (r.get? id).isSome = true ↔ r.uses id = true := by
  rw [get?, ← Array.find?_toList, List.find?_isSome, uses_iff]
  simp

theorem exists_of_isVisible (h : r.isVisible id = true) : ∃ p, r.get? id = some p :=
  Option.isSome_iff_exists.1 (get?_isSome_iff.2 (isVisible_iff.1 h).2)

theorem isTombstone_of_isVisible (h : r.isVisible id = true) : id.isTombstone = false := by
  simpa [ParticipantId.isTombstone] using (isVisible_iff.1 h).1

def IsFree (r : Roster) (id : ParticipantId) : Prop :=
  id ≠ .tombstone ∧ r.uses id = false

theorem isFree_iff {n : UInt64} : r.IsFree ⟨n⟩ ↔ (n == 0 || r.uses ⟨n⟩) = false := by
  simp [IsFree, ParticipantId.tombstone]

theorem freeId_of_isFree {n : UInt64} (h : r.IsFree ⟨n⟩) (tries : Nat) :
    r.freeId tries n = ⟨n⟩ := by
  cases tries with
  | zero => rfl
  | succ tries => rw [freeId, isFree_iff.1 h, if_neg Bool.false_ne_true]

theorem freeId_of_not_isFree {n : UInt64} (h : ¬ r.IsFree ⟨n⟩) (tries : Nat) :
    r.freeId (tries + 1) n = r.freeId tries (n + 1) := by
  rw [freeId, if_pos (Bool.of_not_eq_false (mt isFree_iff.2 h))]

theorem next_add (n : UInt64) (k : Nat) : n + 1 + .ofNat k = n + .ofNat (k + 1) := by
  rw [UInt64.add_assoc, UInt64.add_comm 1, UInt64.ofNat_add]
  rfl

theorem freeId_isFree {tries k : Nat} {n : UInt64} (hk : k < tries) (h : r.IsFree ⟨n + .ofNat k⟩) :
    r.IsFree (r.freeId tries n) := by
  induction tries generalizing n k with
  | zero => omega
  | succ tries ih =>
    by_cases hn : r.IsFree ⟨n⟩
    · rwa [freeId_of_isFree hn]
    · rw [freeId_of_not_isFree hn]
      cases k with
      | zero => exact absurd (by simpa using h) hn
      | succ k => exact ih (k := k) (by omega) (by rwa [next_add])

def taken (r : Roster) : Finset ParticipantId :=
  (r.participants.toList.map (·.id)).toFinset

theorem mem_taken : id ∈ r.taken ↔ r.uses id = true := by
  simp [taken, uses_iff]

theorem card_taken_le (r : Roster) : r.taken.card ≤ r.size := by
  simpa [taken, size] using (r.participants.toList.map (·.id)).toFinset_card_le

theorem not_isFree_iff : ¬ r.IsFree id ↔ id ∈ Insert.insert .tombstone r.taken := by
  rw [Finset.mem_insert, mem_taken, IsFree, not_and_or, not_not, Bool.not_eq_false]

/-- A row of ids none of which is free is no longer than there are ids in use and the tombstone,
unless it goes round more than once. -/
theorem row_le_card_taken {n : UInt64} {k : Nat} (hk : k ≤ UInt64.size)
    (hrow : ∀ j < k, ¬ r.IsFree ⟨n + .ofNat j⟩) : k ≤ r.taken.card + 1 := by
  have hsubset :
      ∀ j ∈ Finset.range k, ⟨n + .ofNat j⟩ ∈ Insert.insert ParticipantId.tombstone r.taken :=
    fun j hj => not_isFree_iff.1 (hrow j (Finset.mem_range.1 hj))
  have hdistinct : Set.InjOn (fun j => (⟨n + .ofNat j⟩ : ParticipantId)) (Finset.range k) := by
    intro i hi j hj heq
    have hoffset : UInt64.ofNat i = UInt64.ofNat j :=
      (UInt64.add_right_inj n).1 (ParticipantId.mk.inj heq)
    rw [UInt64.ofNat_eq_iff_mod_eq_toNat, UInt64.toNat_ofNat'] at hoffset
    simp only [Finset.coe_range, Set.mem_Iio, UInt64.size] at hi hj hk
    omega
  calc
    k = (Finset.range k).card := (Finset.card_range k).symm
    _ ≤ (Insert.insert ParticipantId.tombstone r.taken).card :=
      Finset.card_le_card_of_injOn _ hsubset hdistinct
    _ ≤ r.taken.card + 1 := Finset.card_insert_le _ _

theorem exists_isFree (hr : r.taken.card + 1 < UInt64.size) (n : UInt64) :
    ∃ k < r.taken.card + 2, r.IsFree ⟨n + .ofNat k⟩ := by
  by_contra hnone
  have hle : r.taken.card + 2 ≤ r.taken.card + 1 :=
    row_le_card_taken (n := n) hr fun j hj hfree => hnone ⟨j, hj, hfree⟩
  omega

theorem freeId_isFree_of_size (r : Roster) (hr : r.size + 1 < UInt64.size) (n : UInt64) :
    r.IsFree (r.freeId (r.size + 2) n) := by
  have hle := r.card_taken_le
  obtain ⟨k, hk, hfree⟩ := exists_isFree (r := r) (by omega) n
  exact freeId_isFree (by omega) hfree

namespace Extends

theorem refl (r : Roster) : r.Extends r :=
  ⟨List.prefix_rfl, fun _ _ _ h => h, fun _ h => h⟩

theorem size_le (h : r.Extends r') : r.size ≤ r'.size := by
  simpa [size] using h.participants.length_le

theorem trans (h : r.Extends r') (h' : r'.Extends r'') : r.Extends r'' :=
  ⟨h.participants.trans h'.participants,
    fun id args p hp => h'.known id args p (h.known id args p hp),
    fun hsize hr => h'.numbered hsize (h.numbered (Nat.lt_of_le_of_lt h'.size_le hsize) hr)⟩

theorem uses (h : r.Extends r') (hu : r.uses id = true) : r'.uses id = true := by
  obtain ⟨p, hp, hid⟩ := uses_iff.1 hu
  exact uses_iff.2 ⟨p, h.participants.subset hp, hid⟩

theorem isVisible (h : r.Extends r') (hv : r.isVisible id = true) : r'.isVisible id = true := by
  obtain ⟨hid, hu⟩ := isVisible_iff.1 hv
  exact isVisible_iff.2 ⟨hid, h.uses hu⟩

theorem get? (h : r.Extends r') (hp : r.get? id = some p) : r'.get? id = some p := by
  obtain ⟨more, heq⟩ := h.participants
  rw [Roster.get?, ← Array.find?_toList] at hp ⊢
  rw [← heq, List.find?_append, hp]
  rfl

theorem operation (h : r.Extends r') (hv : r.isVisible id = true) :
    r'.operation id = r.operation id := by
  obtain ⟨p, hp⟩ := exists_of_isVisible hv
  simp only [Roster.operation, hp, h.get? hp]

end Extends

theorem Numbered.ne_tombstone (h : r.Numbered) (hid : r.uses id = true) : id ≠ .tombstone := by
  rintro rfl
  exact Bool.eq_false_iff.1 h hid

theorem Sound.empty : ({} : Roster).Sound := by
  intro id args p h
  simp [remembered?] at h

@[simp] theorem isVisible_remember (d : DeclId) (args : List String) (q : ParticipantId) :
    (r.remember d args q).isVisible id = r.isVisible id := rfl

theorem remembered?_remember (d : DeclId) (args : List String) (q : ParticipantId) :
    (r.remember d args q).remembered? d args = some q := by
  simp [remember, remembered?]

theorem remembered?_remember_of_ne {d e : DeclId} {args args' : List String} (q : ParticipantId)
    (h : (e, args') ≠ (d, args)) :
    (r.remember d args q).remembered? e args' = r.remembered? e args' := by
  have hne : ((e, args') == (d, args)) = false := by simpa using h
  simp [remember, remembered?, List.lookup_cons, hne]

theorem Extends.remember (h : r.Extends r') {d : DeclId} {args : List String}
    (hnew : r.remembered? d args = none) (q : ParticipantId) :
    r.Extends (r'.remember d args q) := by
  refine ⟨h.participants, ?_, h.numbered⟩
  intro e args' p hp
  by_cases heq : (e, args') = (d, args)
  · obtain ⟨rfl, rfl⟩ := Prod.mk.inj heq
    rw [hnew] at hp
    cases hp
  · rw [remembered?_remember_of_ne q heq]
    exact h.known e args' p hp

theorem Sound.remember (h : r.Sound) {d : DeclId} {args : List String} {q : ParticipantId}
    (hq : q ≠ .tombstone → r.isVisible q) : (r.remember d args q).Sound := by
  intro e args' p hp hne
  rw [isVisible_remember]
  by_cases heq : (e, args') = (d, args)
  · obtain ⟨rfl, rfl⟩ := Prod.mk.inj heq
    rw [remembered?_remember] at hp
    cases hp
    exact hq hne
  · rw [remembered?_remember_of_ne q heq] at hp
    exact h e args' p hp hne

theorem insert_extends (seed : String → UInt64) (p : Participant) :
    r.Extends (r.insert seed p).2 := by
  unfold insert
  split
  · exact .refl r
  · refine ⟨by simp, fun _ _ _ h => h, fun hsize hr => ?_⟩
    have hfree := r.freeId_isFree_of_size (by simpa [size] using hsize) (seed p.key)
    simp only [Numbered, uses, Array.any_push, Bool.or_eq_false_iff, beq_eq_false_iff_ne]
    exact ⟨hr, hfree.1⟩

theorem insert_uses (seed : String → UInt64) (p : Participant) :
    (r.insert seed p).2.uses (r.insert seed p).1 = true := by
  unfold insert
  split
  case h_1 q hq => exact uses_iff.2 ⟨q, by simpa using Array.mem_of_find?_eq_some hq, rfl⟩
  case h_2 => simp [uses_iff]

theorem insert_known (seed : String → UInt64) (p : Participant) :
    (r.insert seed p).2.known = r.known := by
  unfold insert
  split <;> rfl

theorem Sound.insert (h : r.Sound) (seed : String → UInt64) (p : Participant) :
    (r.insert seed p).2.Sound := by
  intro id args q hq hne
  rw [remembered?, insert_known] at hq
  exact (insert_extends seed p).isVisible (h id args q hq hne)

theorem insert_cases (r : Roster) (seed : String → UInt64) (p : Participant) :
    (∃ q ∈ r.participants, q.key = p.key ∧ r.insert seed p = (q.id, r)) ∨
    (∀ q ∈ r.participants, q.key ≠ p.key) ∧ ∃ id, id = r.freeId (r.size + 2) (seed p.key) ∧
      r.insert seed p = (id, { r with participants := r.participants.push { p with id } }) := by
  unfold insert
  cases h : r.participants.find? (·.key == p.key) with
  | some q => exact .inl ⟨q, Array.mem_of_find?_eq_some h, by simpa using Array.find?_some h, rfl⟩
  | none =>
    refine .inr ⟨?_, _, rfl, rfl⟩
    simpa using h

theorem insert_mem (r : Roster) (seed : String → UInt64) (p : Participant) :
    ∃ q ∈ (r.insert seed p).2.participants, q.id = (r.insert seed p).1 ∧ q.key = p.key := by
  rcases r.insert_cases seed p with ⟨q, hq, hkey, heq⟩ | ⟨-, id, -, heq⟩
  · rw [heq]
    exact ⟨q, hq, rfl, hkey⟩
  · rw [heq]
    exact ⟨_, Array.mem_push_self, rfl, rfl⟩

def Seats (r : Roster) (kind : ParticipantKind) (id : ParticipantId) : Prop :=
  ∃ p ∈ r.participants, p.id = id ∧ p.kind = kind

theorem Extends.seats {kind : ParticipantKind} (h : r.Extends r') (hid : r.Seats kind id) :
    r'.Seats kind id := by
  obtain ⟨p, hp, hpid, hkind⟩ := hid
  rw [← Array.mem_toList_iff] at hp
  exact ⟨p, Array.mem_toList_iff.1 (h.participants.subset hp), hpid, hkind⟩

theorem insert_seats (r : Roster) (seed : String → UInt64) (p : Participant) :
    (r.insert seed p).2.Seats p.kind (r.insert seed p).1 := by
  obtain ⟨q, hq, hid, hkey⟩ := r.insert_mem seed p
  exact ⟨q, hq, hid, (Participant.keyOf_inj.1 hkey).1⟩

end Roster

end Lifeline
