import Lifeline.Proofs.Merging
import Lifeline.Proofs.Representation
import Std.Data.HashMap

/-!
Maps beside the lists. A program and a roster are searched from the front. Kept with maps that say
where each id and each key stands, they give the same answers.
-/

namespace Lifeline

structure Indexed (κ α : Type) [BEq κ] [Hashable κ] where
  items : List α := []
  positions : Std.HashMap κ Nat := {}

namespace Indexed

variable {κ α : Type} [BEq κ] [Hashable κ]

def get? (x : Indexed κ α) (k : κ) : Option α :=
  x.positions[k]?.bind (x.items[·]?)

def push (x : Indexed κ α) (k : κ) (a : α) : Indexed κ α where
  items := x.items ++ [a]
  positions := x.positions.insert k x.items.length

def Locates (key : α → κ) (x : Indexed κ α) : Prop :=
  ∀ k i, x.positions[k]? = some i ↔ ∃ a, x.items[i]? = some a ∧ key a = k

theorem locates_empty (key : α → κ) : Locates key {} := by
  simp [Locates]

variable {key : α → κ} {x : Indexed κ α} {a b : α} {i : Nat}

theorem Locates.nodup (h : Locates key x) : (x.items.map key).Nodup := by
  rw [List.nodup_iff_getElem?_ne_getElem?]
  intro i j hij hj heq
  rw [List.getElem?_map, List.getElem?_map] at heq
  rw [List.length_map] at hj
  have hi := (h (key x.items[j]) i).mpr ⟨x.items[i], by simp, by simpa [hj, hij.trans hj] using heq⟩
  have hj := (h (key x.items[j]) j).mpr ⟨x.items[j], by simp, rfl⟩
  simp [hi] at hj
  omega

theorem Locates.set (h : Locates key x) (hb : x.items[i]? = some b) (hkey : key a = key b) :
    Locates key { x with items := x.items.set i a } := by
  intro k j
  rw [h k j]
  by_cases hij : i = j
  · subst hij
    obtain ⟨hi, rfl⟩ := List.getElem?_eq_some_iff.mp hb
    simp [hi, hkey]
  · simp [List.getElem?_set_ne hij]

variable [LawfulBEq κ]

theorem Locates.get?_eq (h : Locates key x) (k : κ) : x.get? k = x.items.find? (key · == k) := by
  cases hfind : x.items.find? (key · == k) with
  | none =>
    have hnone : x.positions[k]? = none := by
      rw [Option.eq_none_iff_forall_ne_some]
      intro i hi
      obtain ⟨a, ha, hkey⟩ := (h k i).mp hi
      simpa [hkey] using List.find?_eq_none.mp hfind a (List.mem_of_getElem? ha)
    simp [get?, hnone]
  | some a =>
    obtain ⟨i, hi⟩ := List.getElem?_of_mem (List.mem_of_find?_eq_some hfind)
    have hkey : key a = k := by simpa using List.find?_some hfind
    have hpos : x.positions[k]? = some i := (h k i).mpr ⟨a, hi, hkey⟩
    simp [get?, hpos, hi]

theorem Locates.contains_eq (h : Locates key x) (k : κ) :
    x.positions.contains k = x.items.any (key · == k) := by
  rw [Std.HashMap.contains_eq_isSome_getElem?, Bool.eq_iff_iff, Option.isSome_iff_exists,
    List.any_eq_true]
  constructor
  · rintro ⟨i, hi⟩
    obtain ⟨a, ha, hkey⟩ := (h k i).mp hi
    exact ⟨a, List.mem_of_getElem? ha, by simp [hkey]⟩
  · rintro ⟨a, ha, hkey⟩
    obtain ⟨i, hi⟩ := List.getElem?_of_mem ha
    exact ⟨i, (h k i).mpr ⟨a, hi, by simpa using hkey⟩⟩

theorem getElem?_concat_eq_some {l : List α} :
    (l ++ [a])[i]? = some b ↔ l[i]? = some b ∨ i = l.length ∧ a = b := by
  rcases Nat.lt_trichotomy i l.length with h | h | h
  · simp [List.getElem?_append_left h, Nat.ne_of_lt h]
  · simp [h]
  · have hlength : (l ++ [a]).length ≤ i := by
      rw [List.length_append]
      exact h
    rw [List.getElem?_eq_none hlength, List.getElem?_eq_none (Nat.le_of_lt h)]
    simp [Nat.ne_of_gt h]

theorem Locates.push (h : Locates key x) (hnew : ∀ b ∈ x.items, key b ≠ key a) :
    Locates key (x.push (key a) a) := by
  intro k i
  simp only [Indexed.push, Std.HashMap.getElem?_insert, getElem?_concat_eq_some]
  by_cases hk : key a = k
  · subst hk
    rw [if_pos (by simp)]
    constructor
    · rintro ⟨⟩
      exact ⟨a, .inr ⟨rfl, rfl⟩, rfl⟩
    · rintro ⟨b, hb | ⟨rfl, -⟩, hkey⟩
      · exact absurd hkey (hnew b (List.mem_of_getElem? hb))
      · rfl
  · rw [if_neg (by simpa using hk), h k i]
    constructor
    · rintro ⟨b, hb, hkey⟩
      exact ⟨b, .inl hb, hkey⟩
    · rintro ⟨b, hb | ⟨-, rfl⟩, hkey⟩
      · exact ⟨b, hb, hkey⟩
      · exact absurd hkey hk

end Indexed

namespace Program

def insertAt (x : Indexed DeclId Decl) (d : Decl) : Indexed DeclId Decl :=
  match x.positions[d.id]? with
  | some i => { x with items := x.items.modify i (·.orBody d) }
  | none => x.push d.id d

def indexOf (units : List TranslationUnit) : Indexed DeclId Decl :=
  (units.flatMap (·.decls)).foldl insertAt {}

variable {d e : Decl} {ds : List Decl} {i : Nat}

theorem insertDecl_of_forall_ne (h : ∀ e ∈ ds, e.id ≠ d.id) : insertDecl d ds = ds ++ [d] := by
  induction ds with
  | nil => rfl
  | cons e rest ih =>
    obtain ⟨he, hrest⟩ := List.forall_mem_cons.mp h
    rw [insertDecl_cons_of_ne he, ih hrest, List.cons_append]

theorem insertDecl_of_getElem? (hnodup : (ds.map (·.id)).Nodup) (hi : ds[i]? = some e)
    (he : e.id = d.id) : insertDecl d ds = ds.set i (e.orBody d) := by
  induction ds generalizing i with
  | nil => cases hi
  | cons first rest ih =>
    cases i with
    | zero =>
      cases hi
      rw [insertDecl_cons_of_eq he, List.set_cons_zero]
    | succ i =>
      obtain ⟨hfirst, hnodup⟩ := List.nodup_cons.mp hnodup
      have hne : first.id ≠ d.id := fun h =>
        hfirst (List.mem_map.mpr ⟨e, List.mem_of_getElem? hi, he.trans h.symm⟩)
      rw [insertDecl_cons_of_ne hne, ih hnodup hi, List.set_cons_succ]

theorem insertAt_spec {x : Indexed DeclId Decl} (h : x.Locates (·.id)) (d : Decl) :
    (insertAt x d).Locates (·.id) ∧ (insertAt x d).items = insertDecl d x.items := by
  unfold insertAt
  cases hpos : x.positions[d.id]? with
  | some i =>
    obtain ⟨e, hi, he⟩ := (h d.id i).mp hpos
    have hmodify : x.items.modify i (·.orBody d) = x.items.set i (e.orBody d) := by
      rw [List.modify_eq_set_getElem?, hi]
      rfl
    dsimp only
    rw [hmodify, insertDecl_of_getElem? h.nodup hi he]
    exact ⟨h.set hi ((Decl.id_orBody he).trans he.symm), rfl⟩
  | none =>
    have hnew : ∀ e ∈ x.items, e.id ≠ d.id := by
      intro e he heq
      obtain ⟨i, hi⟩ := List.getElem?_of_mem he
      simp [(h d.id i).mpr ⟨e, hi, heq⟩] at hpos
    exact ⟨h.push hnew, (insertDecl_of_forall_ne hnew).symm⟩

theorem get?_indexOf (units : List TranslationUnit) (id : DeclId) :
    (indexOf units).items = (ofUnits units).decls ∧
      (indexOf units).get? id = (ofUnits units).get? id := by
  have hall : ∀ ds : List Decl, (ds.foldl insertAt {}).Locates (·.id) ∧
      (ds.foldl insertAt {}).items = (ds.foldl insert empty).decls := by
    intro ds
    induction ds using List.reverseRecOn with
    | nil => exact ⟨Indexed.locates_empty _, rfl⟩
    | append_singleton ds d ih =>
      rw [List.foldl_concat, List.foldl_concat, insert, ← ih.2]
      exact insertAt_spec ih.1 d
  obtain ⟨hlocates, hitems⟩ := hall (units.flatMap (·.decls))
  refine ⟨hitems, ?_⟩
  rw [indexOf, hlocates.get?_eq, hitems]
  rfl

end Program

instance : Hashable ParticipantId where
  hash id := hash id.value

/-- Participants with the keys they were registered under, and the ids of the keys. -/
structure Registry where
  seats : Indexed ParticipantId (String × Participant) := {}
  ids : Std.HashMap String ParticipantId := {}

namespace Registry

def freeId (x : Registry) : (tries : Nat) → UInt64 → ParticipantId
  | 0, n => ⟨n⟩
  | tries + 1, n =>
    if n == 0 || x.seats.positions.contains ⟨n⟩ then x.freeId tries (n + 1) else ⟨n⟩

def insert (x : Registry) (seed : String → UInt64) (p : Participant) : ParticipantId × Registry :=
  match x.ids[p.key]? with
  | some id => (id, x)
  | none =>
    let id := x.freeId (x.seats.items.length + 2) (seed p.key)
    (id, { seats := x.seats.push id (p.key, { p with id }), ids := x.ids.insert p.key id })

structure Keeps (x : Registry) (r : Roster) : Prop where
  items : x.seats.items = r.participants.toList.map fun p => (p.key, p)
  located : x.seats.Locates (·.2.id)
  ids : ∀ key, x.ids[key]? = (r.participants.find? (·.key == key)).map (·.id)

theorem keeps_empty : Keeps {} {} where
  items := rfl
  located := Indexed.locates_empty _
  ids := by simp

variable {x : Registry} {r : Roster}

theorem Keeps.uses_eq (h : x.Keeps r) (id : ParticipantId) :
    x.seats.positions.contains id = r.uses id := by
  rw [h.located.contains_eq, h.items, List.any_map, Roster.uses, ← Array.any_toList]
  rfl

theorem Keeps.get?_eq (h : x.Keeps r) (id : ParticipantId) :
    x.seats.get? id = (r.get? id).map fun p => (p.key, p) := by
  rw [h.located.get?_eq, h.items, List.find?_map, Roster.get?, ← Array.find?_toList]
  rfl

theorem Keeps.freeId_eq (h : x.Keeps r) (tries : Nat) (n : UInt64) :
    x.freeId tries n = r.freeId tries n := by
  induction tries generalizing n with
  | zero => rfl
  | succ tries ih => rw [freeId, Roster.freeId, h.uses_eq, ih]

theorem Keeps.size_eq (h : x.Keeps r) : x.seats.items.length = r.size := by
  rw [h.items, List.length_map, Array.length_toList, Roster.size]

theorem Keeps.insert (h : x.Keeps r) (hr : r.size + 1 < UInt64.size) (seed : String → UInt64)
    (p : Participant) :
    (x.insert seed p).1 = (r.insert seed p).1 ∧ (x.insert seed p).2.Keeps (r.insert seed p).2 := by
  unfold Registry.insert Roster.insert
  rw [h.ids]
  cases hfind : r.participants.find? (·.key == p.key) with
  | some q => exact ⟨rfl, h⟩
  | none =>
    have hfree := r.freeId_isFree_of_size hr (seed p.key)
    dsimp only [Option.map_none]
    rw [h.size_eq, h.freeId_eq]
    generalize r.freeId (r.size + 2) (seed p.key) = id at hfree
    have hkey : ({ p with id } : Participant).key = p.key := rfl
    refine ⟨rfl, ?_, ?_, ?_⟩
    · simp [Indexed.push, h.items, hkey]
    · refine h.located.push (a := (p.key, { p with id })) ?_
      rw [h.items]
      intro seat hseat heq
      obtain ⟨q, hq, rfl⟩ := List.mem_map.mp hseat
      have huses : r.uses id = true := Roster.uses_iff.mpr ⟨q, hq, heq⟩
      exact Bool.false_ne_true (hfree.2.symm.trans huses)
    · intro key
      rw [Std.HashMap.getElem?_insert, h.ids, Array.find?_push, hkey]
      by_cases heq : p.key = key
      · subst heq
        simp [hfind]
      · simp [heq]

theorem Keeps.congr {r' : Roster} (h : x.Keeps r) (heq : r'.participants = r.participants) :
    x.Keeps r' where
  items := by rw [heq, h.items]
  located := h.located
  ids key := by rw [heq, h.ids]

end Registry

theorem Casting.Drawn.exists_registry {c : Casting} {r : Roster} (h : c.Drawn r)
    (hsize : r.size < UInt64.size) :
    ∃ ps : List Participant,
      (ps.foldl (fun x p => (x.insert c.seed p).2) ({} : Registry)).Keeps r := by
  induction h with
  | refl => exact ⟨[], Registry.keeps_empty⟩
  | @tail mid last _ hstep ih =>
    obtain ⟨ps, hps⟩ := ih (Nat.lt_of_le_of_lt hstep.kept.size_le hsize)
    rcases hstep.participants with heq | ⟨p, id, -, hnew, hid, heq⟩
    · exact ⟨ps, hps.congr heq⟩
    · rw [Roster.size, heq, Array.size_push] at hsize
      have hinsert : mid.insert c.seed p =
          (id, { mid with participants := mid.participants.push { p with id } }) := by
        rcases mid.insert_cases c.seed p with ⟨q, hq, hkey, -⟩ | ⟨-, id', hid', hinsert⟩
        · exact absurd hkey (hnew q hq)
        · rw [hinsert, hid', ← hid]
      have hkeeps := (hps.insert hsize c.seed p).2
      rw [hinsert] at hkeeps
      refine ⟨ps ++ [p], ?_⟩
      rw [List.foldl_concat]
      exact hkeeps.congr heq

end Lifeline
