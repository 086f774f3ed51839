import Lifeline.Diagram.Draw
import Lifeline.Proofs.EntryPoints
import Lifeline.Proofs.Names
import Mathlib.Data.List.Forall2

namespace Lifeline

theorem mapM_eq_ok_iff {g : α → Except Fault β} {l : List α} {found : List β} :
    l.mapM g = .ok found ↔ List.Forall₂ (fun a b => g a = .ok b) l found := by
  induction l generalizing found with
  | nil => cases found <;> simp [pure, Except.pure]
  | cons a rest ih =>
    rw [List.mapM_cons]
    constructor
    · intro h
      obtain ⟨first, hfirst, h⟩ := ok_of_bind h
      obtain ⟨others, hothers, h⟩ := ok_of_bind h
      cases h
      exact .cons hfirst (ih.1 hothers)
    · intro h
      cases h with
      | cons hfirst hothers =>
        rw [hfirst, ih.2 hothers]
        rfl

theorem exists_of_forall₂ {R : α → β → Prop} {l : List α} {l' : List β} (h : List.Forall₂ R l l')
    {a : α} (ha : a ∈ l) : ∃ b ∈ l', R a b := by
  induction h with
  | nil => cases ha
  | cons hfirst _ ih =>
    rcases List.mem_cons.1 ha with rfl | ha
    · exact ⟨_, List.mem_cons_self, hfirst⟩
    · obtain ⟨b, hb, hab⟩ := ih ha
      exact ⟨b, List.mem_cons_of_mem _ hb, hab⟩

theorem distinctBy_eq_eraseDups [BEq β] [LawfulBEq β] : ∀ l : List β, distinctBy id l = l.eraseDups
  | [] => rfl
  | a :: rest => by
    rw [distinctBy, distinctBy_filter, List.eraseDups_cons,
      ← distinctBy_eq_eraseDups (rest.filter fun b => !b == a)]
    rfl
termination_by l => l.length
decreasing_by exact Nat.lt_succ_of_le (List.length_filter_le _ _)

namespace Program

variable {p : Program} {selector : String} {spec : EntrySpec} {d : Decl} {found entries : List Decl}
variable {s : DiagramSettings}

structure Traceable (p : Program) (d : Decl) : Prop where
  declared : d ∈ p.decls
  hasBody : d.hasBody = true

def Chooses (p : Program) : EntrySpec → Decl → Prop
  | .function selector, d => d ∈ p.decls ∧ d.hasBody = true ∧ p.isNamed selector d = .ok true
  | .file path, d => p.IsDefined path d ∧ (¬ p.IsCalled d ∨ ∀ c, p.IsDefined path c → p.IsCalled c)

structure Gives (p : Program) (spec : EntrySpec) (found : List Decl) : Prop where
  order : found.Sublist p.decls
  mem : ∀ d, d ∈ found ↔ p.Chooses spec d
  any : ∃ d, p.Chooses spec d

theorem Traceable.exists_body (h : p.Traceable d) :
    ∃ f body, d.function? = some f ∧ f.body = some body := by
  obtain ⟨body, hbody⟩ := Option.isSome_iff_exists.1 h.hasBody
  obtain ⟨f, hf, hbody⟩ := Option.bind_eq_some_iff.1 hbody
  exact ⟨f, body, hf, hbody⟩

theorem traceable_of_canStart (hd : d ∈ p.decls) (h : p.canStart d = true) : p.Traceable d :=
  ⟨hd, (Bool.and_eq_true_iff.1 h).1⟩

theorem Chooses.traceable (h : p.Chooses spec d) : p.Traceable d := by
  cases spec with
  | function selector => exact ⟨h.1, h.2.1⟩
  | file path => exact traceable_of_canStart h.1.declared h.1.canStart

theorem definedNamed_gives (h : p.definedNamed selector = .ok found) :
    p.Gives (.function selector) found := by
  obtain ⟨named, hnamed, h⟩ := ok_of_bind h
  split at h
  · cases h
  · dsimp only at h
    split at h
    · cases h
    · rename_i hsome
      cases h
      have hmem (d : Decl) : d ∈ named.filter (·.hasBody) ↔ p.Chooses (.function selector) d := by
        rw [List.mem_filter, mem_filterM_ok hnamed, Chooses]
        exact ⟨fun h => ⟨h.1.1, h.2, h.1.2⟩, fun h => ⟨⟨h.1, h.2.2⟩, h.2.1⟩⟩
      obtain ⟨d, hd⟩ := List.exists_mem_of_ne_nil _ (mt List.isEmpty_iff.2 hsome)
      refine ⟨?_, hmem, d, (hmem d).1 hd⟩
      rw [filterM_eq_ok hnamed]
      exact List.filter_sublist.trans List.filter_sublist

theorem exists_chooses_file {path : Path} (h : ∃ d, p.IsDefined path d) :
    ∃ d, p.Chooses (.file path) d := by
  by_cases hall : ∀ c, p.IsDefined path c → p.IsCalled c
  · obtain ⟨d, hd⟩ := h
    exact ⟨d, hd, .inr hall⟩
  · simp only [not_forall] at hall
    obtain ⟨c, hc, hcalled⟩ := hall
    exact ⟨c, hc, .inl hcalled⟩

theorem selected_gives (h : p.selected spec = .ok found) : p.Gives spec found := by
  cases spec with
  | function selector => exact definedNamed_gives h
  | file path =>
    by_cases hsome : ∃ d, p.IsDefined path d
    · obtain ⟨_, hroots, horder, hmem⟩ := rootsIn_eq_ok hsome
      cases hroots.symm.trans h
      exact ⟨horder, hmem, exists_chooses_file hsome⟩
    · simp only [not_exists] at hsome
      cases (rootsIn_eq_error hsome).symm.trans h

theorem Nameable.selected_ok (hp : p.Nameable) (h : ∃ d, p.Chooses spec d) :
    ∃ found, p.selected spec = .ok found := by
  obtain ⟨d, hd⟩ := h
  cases spec with
  | file path =>
    obtain ⟨found, hfound, -⟩ := rootsIn_eq_ok ⟨d, hd.1⟩
    exact ⟨found, hfound⟩
  | function selector =>
    obtain ⟨named, hnamed, -⟩ := hp.named selector
    have hmem : d ∈ named := (mem_filterM_ok hnamed).2 ⟨hd.1, hd.2.2⟩
    have hdefined : d ∈ named.filter (·.hasBody) := List.mem_filter.2 ⟨hmem, hd.2.1⟩
    refine ⟨named.filter (·.hasBody), ?_⟩
    simp only [selected, definedNamed, hnamed, bind, Except.bind, List.isEmpty_iff,
      List.ne_nil_of_mem hmem, List.ne_nil_of_mem hdefined, if_false]
    rfl

theorem startsOf_of_ne_nil (h : s.startFrom ≠ []) : p.startsOf s = p.entryPoints s.startFrom := by
  unfold startsOf
  split
  · contradiction
  · rfl

theorem entryPoints_eq_ok {specs : List EntrySpec} (h : p.entryPoints specs = .ok entries) :
    ∃ found, List.Forall₂ p.Gives specs found ∧ entries = distinctBy Decl.id found.flatten := by
  obtain ⟨found, hfound, h⟩ := ok_of_bind h
  cases h
  exact ⟨found, (mapM_eq_ok_iff.1 hfound).imp fun _ _ => selected_gives, rfl⟩

theorem Nameable.entryPoints_ok (hp : p.Nameable) {specs : List EntrySpec}
    (h : ∀ spec ∈ specs, ∃ d, p.Chooses spec d) : ∃ entries, p.entryPoints specs = .ok entries := by
  obtain ⟨found, hfound⟩ : ∃ found, specs.mapM p.selected = .ok found := by
    induction specs with
    | nil => exact ⟨[], rfl⟩
    | cons spec rest ih =>
      obtain ⟨hspec, hrest⟩ := List.forall_mem_cons.1 h
      obtain ⟨first, hfirst⟩ := hp.selected_ok hspec
      obtain ⟨others, hothers⟩ := ih hrest
      exact ⟨first :: others, mapM_eq_ok_iff.2 (.cons hfirst (mapM_eq_ok_iff.1 hothers))⟩
  exact ⟨distinctBy Decl.id found.flatten, by rw [entryPoints, hfound]; rfl⟩

theorem map_id_distinctBy (l : List Decl) :
    (distinctBy Decl.id l).map (·.id) = (l.map (·.id)).eraseDups := by
  rw [← distinctBy_eq_eraseDups, distinctBy_map]
  rfl

theorem startsOf_traceable (h : p.startsOf s = .ok entries) : ∀ d ∈ entries, p.Traceable d := by
  intro d hd
  simp only [startsOf] at h
  split at h
  · have hcaller := ((mem_callersReaching h).1 hd).1
    exact traceable_of_canStart hcaller.declared hcaller.canStart
  · obtain ⟨found, hfound, rfl⟩ := entryPoints_eq_ok h
    obtain ⟨es, hes, hd⟩ := List.mem_flatten.1 (mem_of_mem_distinctBy hd)
    obtain ⟨spec, -, hgives⟩ := exists_of_forall₂ hfound.flip hes
    exact ((hgives.mem d).1 hd).traceable

theorem startsOf_subset (h : p.startsOf s = .ok entries) : entries ⊆ p.decls :=
  fun d hd => (startsOf_traceable h d hd).declared

theorem startsOf_nodup {units : List TranslationUnit} (hp : ofUnits units = p)
    (h : p.startsOf s = .ok entries) : (entries.map (·.id)).Nodup := by
  simp only [startsOf] at h
  split at h
  · obtain ⟨candidates, horder, -, rfl⟩ := callersReaching_eq_ok h
    exact (hp ▸ nodup_ofUnits units).sublist (((rootsOrAll_sublist _ _).trans horder).map _)
  · obtain ⟨found, -, rfl⟩ := entryPoints_eq_ok h
    rw [map_id_distinctBy, ← distinctBy_eq_eraseDups]
    exact nodup_distinctBy _

end Program

end Lifeline
