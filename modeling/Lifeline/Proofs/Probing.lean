import Lifeline.Proofs.Roster

namespace Lifeline

namespace ParticipantId

def ahead (id : ParticipantId) (n : UInt64) : Nat :=
  (id.value - n).toNat

theorem ahead_lt (id : ParticipantId) (n : UInt64) : id.ahead n < UInt64.size :=
  UInt64.toNat_lt_size _

theorem add_ahead (id : ParticipantId) (n : UInt64) :
    (⟨n + .ofNat (id.ahead n)⟩ : ParticipantId) = id := by
  rw [ahead, UInt64.ofNat_toNat, UInt64.add_comm, UInt64.sub_add_cancel]

theorem ahead_add {n : UInt64} {k : Nat} (hk : k < UInt64.size) : ahead ⟨n + .ofNat k⟩ n = k := by
  rw [ahead, UInt64.add_comm, UInt64.add_sub_cancel, UInt64.toNat_ofNat_of_lt' hk]

end ParticipantId

namespace Roster

/-- The search from a number, with no bound on the tries, passes so many ids and ends with the one
that comes next. -/
inductive Settles (r : Roster) : (start : UInt64) → (passed : Nat) → ParticipantId → Prop
  | here {n : UInt64} (hfree : r.IsFree ⟨n⟩) : r.Settles n 0 ⟨n⟩
  | next {n : UInt64} {k : Nat} {id : ParticipantId} (hpassed : ¬ r.IsFree ⟨n⟩)
    (hrest : r.Settles (n + 1) k id) :
    r.Settles n (k + 1) id

structure FirstFree (r : Roster) (n : UInt64) (id : ParticipantId) : Prop where
  free : r.IsFree id
  first : ∀ other, r.IsFree other → id.ahead n ≤ other.ahead n

variable {r : Roster} {n : UInt64} {k : Nat} {id other : ParticipantId}

theorem freeId_eq_iff {tries : Nat} :
    r.freeId tries n = id ∧ r.IsFree id ↔ ∃ k ≤ tries, r.Settles n k id := by
  constructor
  · rintro ⟨rfl, hfree⟩
    induction tries generalizing n with
    | zero => exact ⟨0, Nat.le_refl 0, .here hfree⟩
    | succ tries ih =>
      by_cases hn : r.IsFree ⟨n⟩
      · rw [freeId_of_isFree hn]
        exact ⟨0, Nat.zero_le _, .here hn⟩
      · rw [freeId_of_not_isFree hn] at hfree ⊢
        obtain ⟨k, hk, hrest⟩ := ih hfree
        exact ⟨k + 1, Nat.succ_le_succ hk, .next hn hrest⟩
  · rintro ⟨k, hk, hsettles⟩
    induction hsettles generalizing tries with
    | here hfree => exact ⟨freeId_of_isFree hfree tries, hfree⟩
    | next hpassed _ ih =>
      obtain ⟨tries, rfl⟩ : ∃ fewer, tries = fewer + 1 := Nat.exists_eq_add_one.2 (by omega)
      rw [freeId_of_not_isFree hpassed]
      exact ih (Nat.le_of_succ_le_succ hk)

theorem Settles.isFree (h : r.Settles n k id) : r.IsFree id :=
  (freeId_eq_iff.2 ⟨k, Nat.le_refl k, h⟩).2

theorem exists_settles_iff : (∃ k id, r.Settles n k id) ↔ ∃ id, r.IsFree id := by
  constructor
  · rintro ⟨k, id, hsettles⟩
    exact ⟨id, hsettles.isFree⟩
  · rintro ⟨id, hfree⟩
    -- With enough tries to come to this id, the search ends there at the latest.
    rw [← id.add_ahead n] at hfree
    have hend := freeId_isFree (Nat.lt_succ_self _) hfree
    obtain ⟨k, -, hsettles⟩ := freeId_eq_iff.1 ⟨rfl, hend⟩
    exact ⟨k, _, hsettles⟩

namespace Settles

theorem eq_add (h : r.Settles n k id) : id = ⟨n + .ofNat k⟩ := by
  induction h with
  | here => simp
  | next _ _ ih => rw [ih, next_add]

theorem not_isFree_of_lt (h : r.Settles n k id) {j : Nat} (hj : j < k) :
    ¬ r.IsFree ⟨n + .ofNat j⟩ := by
  induction h generalizing j with
  | here => omega
  | next hpassed _ ih =>
    cases j with
    | zero => simpa using hpassed
    | succ j =>
      rw [← next_add]
      exact ih (Nat.lt_of_succ_lt_succ hj)

theorem le_ahead (h : r.Settles n k id) (hother : r.IsFree other) : k ≤ other.ahead n := by
  by_contra hlt
  refine h.not_isFree_of_lt (Nat.lt_of_not_le hlt) ?_
  rwa [other.add_ahead]

theorem eq_ahead (h : r.Settles n k id) : k = id.ahead n := by
  have hk : k < UInt64.size := Nat.lt_of_le_of_lt (h.le_ahead h.isFree) (id.ahead_lt n)
  rw [h.eq_add, ParticipantId.ahead_add hk]

theorem firstFree (h : r.Settles n k id) : r.FirstFree n id where
  free := h.isFree
  first _ hother := h.eq_ahead ▸ h.le_ahead hother

theorem le_card_taken (h : r.Settles n k id) : k ≤ r.taken.card + 1 := by
  refine row_le_card_taken (n := n) ?_ fun j hj => h.not_isFree_of_lt hj
  rw [h.eq_ahead]
  exact Nat.le_of_lt (id.ahead_lt n)

end Settles

/-- Whatever number is made from a key, as long as not all ids are in use, the search from there
ends: with the first free id, past no more ids than are in use and the tombstone. Whoever joins with
this key is given that id. -/
theorem search_settles_first (hroom : r.taken.card < UInt64.size - 1) (seed : String → UInt64)
    (key : String) :
    ∃ id, r.Settles (seed key) (id.ahead (seed key)) id ∧ id.ahead (seed key) ≤ r.taken.card + 1 ∧
      r.FirstFree (seed key) id ∧ r.freeId (r.size + 2) (seed key) = id ∧
      ∀ p : Participant, p.key = key → (∀ q ∈ r.participants, q.key ≠ key) →
        r.insert seed p = (id, { r with participants := r.participants.push { p with id } }) := by
  obtain ⟨_, -, hfree⟩ := exists_isFree (Nat.add_lt_of_lt_sub hroom) (seed key)
  obtain ⟨k, id, hsettles⟩ := (exists_settles_iff (n := seed key)).2 ⟨_, hfree⟩
  have hsteps : id.ahead (seed key) ≤ r.taken.card + 1 := hsettles.eq_ahead ▸ hsettles.le_card_taken
  have hid : r.freeId (r.size + 2) (seed key) = id := by
    have hpassed := hsettles.le_card_taken
    have htaken := r.card_taken_le
    exact (freeId_eq_iff.2 ⟨k, by omega, hsettles⟩).1
  refine ⟨id, hsettles.eq_ahead ▸ hsettles, hsteps, hsettles.firstFree, hid, ?_⟩
  rintro p rfl hnew
  rcases r.insert_cases seed p with ⟨q, hq, hkey, -⟩ | ⟨-, given, hgiven, heq⟩
  · exact absurd hkey (hnew q hq)
  · rw [heq, hgiven, hid]

end Roster

def Sample.wrapped : Roster where
  participants := #[{ Casting.draft .file "a.cpp" "a.cpp" "" "" with id := ⟨0xffffffffffffffff⟩ },
    { Casting.draft .file "b.cpp" "b.cpp" "" "" with id := ⟨1⟩ }]

theorem Roster.search_settles_first_wrapped : Sample.wrapped.taken.card < UInt64.size - 1 ∧
    Sample.wrapped.Settles 0xffffffffffffffff 3 ⟨2⟩ ∧ 3 ≤ Sample.wrapped.taken.card + 1 ∧
    Sample.wrapped.FirstFree 0xffffffffffffffff ⟨2⟩ ∧
    (Sample.wrapped.insert (fun _ => 0xffffffffffffffff)
      (Casting.draft .file "c.cpp" "c.cpp" "" "")).1 = ⟨2⟩ := by
  have hroom : Sample.wrapped.taken.card < UInt64.size - 1 :=
    Nat.lt_of_le_of_lt Sample.wrapped.card_taken_le (by decide)
  obtain ⟨id, hsettles, hsteps, hfirst, hid, hinsert⟩ :=
    search_settles_first hroom (fun _ => 0xffffffffffffffff) "file:c.cpp"
  obtain rfl : id = ⟨2⟩ := hid.symm.trans (by decide +kernel)
  refine ⟨hroom, hsettles, hsteps, hfirst, ?_⟩
  rw [hinsert _ (by decide) (by decide)]

end Lifeline
