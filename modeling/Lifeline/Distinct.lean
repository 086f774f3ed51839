namespace Lifeline

def distinctBy [BEq β] (key : α → β) : List α → List α
  | [] => []
  | a :: rest => a :: (distinctBy key rest).filter fun b => key b != key a

theorem mem_of_mem_distinctBy [BEq β] {key : α → β} {a : α} {l : List α}
    (h : a ∈ distinctBy key l) : a ∈ l := by
  induction l with
  | nil => exact h
  | cons b rest ih =>
    rcases List.mem_cons.mp h with rfl | h
    · exact List.mem_cons_self
    · exact List.mem_cons_of_mem _ (ih (List.mem_filter.mp h).1)

theorem distinctBy_sublist [BEq β] (key : α → β) (l : List α) : (distinctBy key l).Sublist l := by
  induction l with
  | nil => exact .refl _
  | cons a rest ih => exact (List.filter_sublist.trans ih).cons_cons a

theorem head?_distinctBy [BEq β] (key : α → β) (l : List α) :
    (distinctBy key l).head? = l.head? := by
  cases l <;> rfl

theorem distinctBy_map [BEq γ] (key : β → γ) (f : α → β) (l : List α) :
    distinctBy key (l.map f) = (distinctBy (key ∘ f) l).map f := by
  induction l with
  | nil => rfl
  | cons a rest ih => simp [distinctBy, ih, List.filter_map, Function.comp_def]

section

variable [BEq β] [LawfulBEq β]

theorem exists_mem_distinctBy (key : α → β) {a : α} {l : List α} (h : a ∈ l) :
    ∃ b ∈ distinctBy key l, key b = key a := by
  induction l with
  | nil => simp at h
  | cons b rest ih =>
    by_cases hb : key a = key b
    · exact ⟨b, List.mem_cons_self, hb.symm⟩
    · have ha : a ∈ rest := by
        rcases List.mem_cons.mp h with rfl | ha
        · exact absurd rfl hb
        · exact ha
      obtain ⟨c, hc, hk⟩ := ih ha
      refine ⟨c, List.mem_cons_of_mem _ (List.mem_filter.mpr ⟨hc, ?_⟩), hk⟩
      simpa [hk] using hb

@[simp] theorem mem_distinctBy_id {a : β} {l : List β} : a ∈ distinctBy id l ↔ a ∈ l := by
  refine ⟨mem_of_mem_distinctBy, fun h => ?_⟩
  obtain ⟨b, hb, rfl⟩ := exists_mem_distinctBy id h
  exact hb

theorem mem_distinctBy_of_sorted {key : Nat → β} {l : List Nat} (h : l.Pairwise (· < ·)) {i : Nat} :
    i ∈ distinctBy key l ↔ i ∈ l ∧ ∀ j ∈ l, j < i → key j ≠ key i := by
  induction l with
  | nil => simp [distinctBy]
  | cons a rest ih =>
    obtain ⟨ha, hrest⟩ := List.pairwise_cons.mp h
    have hmem :
        i ∈ distinctBy key (a :: rest) ↔ i = a ∨ i ∈ distinctBy key rest ∧ key i ≠ key a := by
      simp [distinctBy]
    rw [hmem, ih hrest]
    constructor
    · intro hi
      rcases hi with rfl | ⟨⟨hi, hfirst⟩, hkey⟩
      · refine ⟨List.mem_cons_self, ?_⟩
        intro j hj hji
        rcases List.mem_cons.mp hj with rfl | hj
        · exact absurd hji (Nat.lt_irrefl _)
        · exact absurd (ha j hj) (Nat.lt_asymm hji)
      · exact ⟨List.mem_cons_of_mem _ hi, List.forall_mem_cons.mpr ⟨fun _ => hkey.symm, hfirst⟩⟩
    · intro hi
      obtain ⟨hi, hfirst⟩ := hi
      rcases List.mem_cons.mp hi with rfl | hi
      · exact .inl rfl
      · obtain ⟨hfirst, hlater⟩ := List.forall_mem_cons.mp hfirst
        exact .inr ⟨⟨hi, hlater⟩, (hfirst (ha i hi)).symm⟩

theorem distinctBy_eq_self {key : α → β} {l : List α} (h : l.Pairwise fun a b => key a ≠ key b) :
    distinctBy key l = l := by
  induction l with
  | nil => rfl
  | cons a rest ih =>
    obtain ⟨ha, hrest⟩ := List.pairwise_cons.mp h
    rw [distinctBy, ih hrest, List.filter_eq_self.mpr]
    intro b hb
    simpa using (ha b hb).symm

theorem distinctBy_of_nodup {l : List β} (h : l.Nodup) : distinctBy id l = l :=
  distinctBy_eq_self h

theorem nodup_distinctBy (l : List β) : (distinctBy id l).Nodup := by
  induction l with
  | nil => exact List.nodup_nil
  | cons a rest ih => exact List.nodup_cons.mpr ⟨by simp, ih.sublist List.filter_sublist⟩

theorem distinctBy_append (l l' : List β) :
    distinctBy id (l ++ l') =
      distinctBy id l ++ (distinctBy id l').filter fun b => !l.contains b := by
  induction l with
  | nil => simp [distinctBy, List.filter_eq_self.mpr]
  | cons a rest ih =>
    simp only [List.cons_append, distinctBy, ih, List.filter_append, List.filter_filter]
    congr 3
    funext b
    simp [bne]

theorem distinctBy_mono {l l' : List β} (h : l <+: l') : distinctBy id l <+: distinctBy id l' := by
  obtain ⟨more, rfl⟩ := h
  rw [distinctBy_append]
  exact List.prefix_append _ _

theorem distinctBy_filter (keep : β → Bool) (l : List β) :
    (distinctBy id l).filter keep = distinctBy id (l.filter keep) := by
  induction l with
  | nil => rfl
  | cons a rest ih =>
    have hrest : ((distinctBy id rest).filter fun b => b != a).filter keep =
        (distinctBy id (rest.filter keep)).filter fun b => b != a := by
      rw [← ih, List.filter_filter, List.filter_filter]
      simp only [Bool.and_comm]
    by_cases ha : keep a = true
    · rw [List.filter_cons_of_pos ha, distinctBy, distinctBy, List.filter_cons_of_pos ha]
      exact congrArg _ hrest
    · -- Whatever is kept is not the first item, so taking that out again changes nothing.
      have hne : ∀ b ∈ distinctBy id (rest.filter keep), (b != a) = true := by
        intro b hb
        rw [mem_distinctBy_id, List.mem_filter] at hb
        have hba : b ≠ a := fun h => ha (h ▸ hb.2)
        simpa using hba
      rw [List.filter_cons_of_neg ha, distinctBy, List.filter_cons_of_neg ha]
      exact hrest.trans (List.filter_eq_self.mpr hne)

theorem distinctBy_append_of_subset {l l' : List β} (h : l' ⊆ l) :
    distinctBy id (l ++ l') = distinctBy id l := by
  rw [distinctBy_append, List.filter_eq_nil_iff.mpr, List.append_nil]
  intro b hb
  simpa using h (mem_distinctBy_id.mp hb)

@[simp] theorem distinctBy_distinctBy (l : List β) :
    distinctBy id (distinctBy id l) = distinctBy id l :=
  distinctBy_of_nodup (nodup_distinctBy l)

theorem distinctBy_append_congr {k k' l l' : List β} (hk : distinctBy id k = distinctBy id k')
    (hl : distinctBy id l = distinctBy id l') :
    distinctBy id (k ++ l) = distinctBy id (k' ++ l') := by
  have hmem : ∀ b, b ∈ k ↔ b ∈ k' := fun b => by rw [← mem_distinctBy_id, hk, mem_distinctBy_id]
  rw [distinctBy_append, distinctBy_append, hk, hl]
  congr 2
  funext b
  rw [Bool.eq_iff_iff]
  simp [hmem]

theorem distinctBy_flatMap_congr {f g : α → List β}
    (h : ∀ a, distinctBy id (f a) = distinctBy id (g a)) (l : List α) :
    distinctBy id (l.flatMap f) = distinctBy id (l.flatMap g) := by
  induction l with
  | nil => rfl
  | cons a rest ih => exact distinctBy_append_congr (h a) ih

theorem distinctBy_flatMap_distinctBy [BEq α] [LawfulBEq α] (f : α → List β) (l : List α) :
    distinctBy id ((distinctBy id l).flatMap f) = distinctBy id (l.flatMap f) := by
  induction l with
  | nil => rfl
  | cons a rest ih =>
    -- What the first item brings along need not be brought along again.
    have hdrop :
        ∀ {g : α → List β}, g a = [] →
          ∀ k : List α, (k.filter (· != a)).flatMap g = k.flatMap g := by
      intro g hg k
      induction k with
      | nil => rfl
      | cons b k ih => by_cases hb : b = a <;> simp [hb, hg, ih]
    have hfresh : ∀ k : List α, (distinctBy id (k.flatMap f)).filter (fun b => !(f a).contains b) =
        distinctBy id (k.flatMap fun x => (f x).filter fun b => !(f a).contains b) := by
      intro k
      rw [distinctBy_filter, List.filter_flatMap]
    rw [distinctBy, List.flatMap_cons, List.flatMap_cons, distinctBy_append,
      distinctBy_append, hfresh]
    simp only [id]
    rw [hdrop (by simp), ← hfresh, ih]

end

end Lifeline
