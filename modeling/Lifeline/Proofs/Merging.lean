import Mathlib.Data.List.Induction
import Mathlib.Data.List.Nodup
import Lifeline.Distinct
import Lifeline.Proofs.Origin

namespace Lifeline

def Decl.orBody (e d : Decl) : Decl :=
  if !e.hasBody && d.hasBody then d else e

theorem Decl.id_orBody {e d : Decl} (h : e.id = d.id) : (e.orBody d).id = d.id := by
  unfold orBody
  split
  · rfl
  · exact h

namespace Program

def ofDecls (ds : List Decl) : Program :=
  ds.foldl insert empty

theorem ofDecls_append (ds more : List Decl) :
    ofDecls (ds ++ more) = more.foldl insert (ofDecls ds) :=
  List.foldl_append

theorem ofDecls_concat (ds : List Decl) (d : Decl) : ofDecls (ds ++ [d]) = (ofDecls ds).insert d :=
  ofDecls_append ds [d]

/-- The first copy with a body, or the first one if none has a body. -/
def kept (ds : List Decl) (i : DeclId) : Option Decl :=
  let copies := ds.filter (·.id == i)
  (copies.find? (·.hasBody)).or copies.head?

theorem kept_concat (ds : List Decl) (d : Decl) (i : DeclId) :
    kept (ds ++ [d]) i =
      if d.id = i then some ((kept ds i).elim d (·.orBody d)) else kept ds i := by
  by_cases hid : d.id = i
  · rw [if_pos hid]
    simp only [kept, List.filter_append, List.filter_cons, hid, beq_self_eq_true,
      if_true, List.filter_nil, List.find?_append, List.head?_append]
    cases hbody : (ds.filter (·.id == i)).find? (·.hasBody) with
    | some e =>
      have he : e.hasBody = true := List.find?_some hbody
      simp [Decl.orBody, he]
    | none =>
      cases hfirst : (ds.filter (·.id == i)).head? with
      | none => cases hd : d.hasBody <;> simp [hd]
      | some e =>
        have he : e.hasBody = false := by
          simpa using List.find?_eq_none.mp hbody e (List.mem_of_head? hfirst)
        cases hd : d.hasBody <;> simp [Decl.orBody, he, hd]
  · rw [if_neg hid]
    simp [kept, hid]

theorem insertDecl_cons_of_eq {e d : Decl} (h : e.id = d.id) (rest : List Decl) :
    insertDecl d (e :: rest) = e.orBody d :: rest := by
  rw [insertDecl, if_pos h, Decl.orBody]

theorem insertDecl_cons_of_ne {e d : Decl} (h : e.id ≠ d.id) (rest : List Decl) :
    insertDecl d (e :: rest) = e :: insertDecl d rest := by
  rw [insertDecl, if_neg h]

theorem get?_insert (p : Program) (d : Decl) (i : DeclId) :
    (p.insert d).get? i = if d.id = i then some ((p.get? i).elim d (·.orBody d)) else p.get? i := by
  simp only [insert, get?]
  induction p.decls with
  | nil => by_cases hid : d.id = i <;> simp [insertDecl, hid]
  | cons e rest ih =>
    by_cases he : e.id = d.id
    · rw [insertDecl_cons_of_eq he]
      by_cases hid : d.id = i
      · rw [List.find?_cons_of_pos (by simp [Decl.id_orBody he, hid]),
          List.find?_cons_of_pos (by simp [he, hid]), if_pos hid, Option.elim_some]
      · rw [List.find?_cons_of_neg (by simp [Decl.id_orBody he, hid]),
          List.find?_cons_of_neg (by simp [he, hid]), if_neg hid]
    · rw [insertDecl_cons_of_ne he]
      by_cases hei : e.id = i
      · have hid : d.id ≠ i := fun h => he (hei.trans h.symm)
        rw [List.find?_cons_of_pos (by simp [hei]),
          List.find?_cons_of_pos (by simp [hei]), if_neg hid]
      · rw [List.find?_cons_of_neg (by simp [hei]), List.find?_cons_of_neg (by simp [hei]), ih]

theorem get?_ofDecls (ds : List Decl) (i : DeclId) : (ofDecls ds).get? i = kept ds i := by
  induction ds using List.reverseRecOn with
  | nil => rfl
  | append_singleton ds d ih => rw [ofDecls_concat, get?_insert, kept_concat, ih]

theorem map_id_insertDecl (d : Decl) (ds : List Decl) :
    (insertDecl d ds).map (·.id) =
      if d.id ∈ ds.map (·.id) then ds.map (·.id) else ds.map (·.id) ++ [d.id] := by
  induction ds with
  | nil => rfl
  | cons e rest ih =>
    by_cases he : e.id = d.id
    · simp [insertDecl_cons_of_eq he, Decl.id_orBody he, he]
    · have hne : d.id ≠ e.id := fun h => he h.symm
      rw [insertDecl_cons_of_ne he, List.map_cons, ih]
      by_cases hd : d.id ∈ rest.map (·.id) <;> simp [hd, hne]

theorem map_id_ofDecls (ds : List Decl) :
    (ofDecls ds).decls.map (·.id) = distinctBy id (ds.map (·.id)) := by
  induction ds using List.reverseRecOn with
  | nil => rfl
  | append_singleton ds d ih =>
    rw [ofDecls_concat, insert, map_id_insertDecl, ih, List.map_append, distinctBy_append]
    simp only [mem_distinctBy_id]
    by_cases hd : d.id ∈ ds.map (·.id) <;> simp only [hd, if_true, if_false, distinctBy,
      List.map_cons, List.map_nil,
      List.filter_cons, List.filter_nil, List.contains_eq_mem, decide_true, decide_false,
      Bool.not_true, Bool.not_false, Bool.false_eq_true, List.append_nil]

theorem nodup_ofDecls (ds : List Decl) : ((ofDecls ds).decls.map (·.id)).Nodup :=
  map_id_ofDecls ds ▸ nodup_distinctBy _

theorem nodup_ofUnits (units : List TranslationUnit) : ((ofUnits units).decls.map (·.id)).Nodup :=
  nodup_ofDecls _

theorem decls_eq_filterMap {p : Program} (h : (p.decls.map (·.id)).Nodup) :
    p.decls = (p.decls.map (·.id)).filterMap p.get? := by
  have hfind : ∀ d ∈ p.decls, p.get? d.id = some d := by
    intro d hd
    obtain ⟨e, he⟩ : ∃ e, p.get? d.id = some e :=
      Option.isSome_iff_exists.mp (by simpa [get?] using ⟨d, hd, rfl⟩)
    obtain ⟨hmem, hid⟩ := mem_of_get? he
    rw [he, List.inj_on_of_nodup_map h hmem hd hid]
  rw [List.filterMap_map]
  exact (List.filterMap_some.symm.trans (List.filterMap_congr fun d hd => (hfind d hd).symm))

theorem decls_ofDecls (ds : List Decl) :
    (ofDecls ds).decls = (distinctBy id (ds.map (·.id))).filterMap (kept ds) := by
  have hget : (ofDecls ds).get? = kept ds := funext (get?_ofDecls ds)
  rw [decls_eq_filterMap (nodup_ofDecls ds), map_id_ofDecls, hget]

theorem find?_append_of_subset {l l' : List α} (h : l' ⊆ l) (test : α → Bool) :
    (l ++ l').find? test = l.find? test := by
  rw [List.find?_append]
  cases hl : l.find? test with
  | some a => rfl
  | none =>
    have hnone : l'.find? test = none :=
      List.find?_eq_none.mpr fun a ha => List.find?_eq_none.mp hl a (h ha)
    rw [hnone, Option.or_none]

theorem kept_append_of_subset {ds more : List Decl} (h : more ⊆ ds) (i : DeclId) :
    kept (ds ++ more) i = kept ds i := by
  have hcopies : more.filter (·.id == i) ⊆ ds.filter (·.id == i) := List.filter_subset _ h
  have hhead (l : List Decl) : l.head? = l.find? fun _ => true := by cases l <;> rfl
  simp only [kept, List.filter_append, hhead, find?_append_of_subset hcopies]

theorem ofDecls_append_of_subset {ds more : List Decl} (h : more ⊆ ds) :
    ofDecls (ds ++ more) = ofDecls ds := by
  have hids : distinctBy id ((ds ++ more).map (·.id)) = distinctBy id (ds.map (·.id)) := by
    rw [List.map_append, distinctBy_append_of_subset (List.map_subset _ h)]
  have hkept : kept (ds ++ more) = kept ds := funext (kept_append_of_subset h)
  have hdecls : (ofDecls (ds ++ more)).decls = (ofDecls ds).decls := by
    rw [decls_ofDecls, decls_ofDecls, hids, hkept]
  exact congrArg Program.mk hdecls

theorem decl_eq_elim (p : Program) (i : DeclId) :
    p.decl i = (p.get? i).elim (.error (.malformed (.unknownDecl i))) .ok := by
  unfold decl
  cases p.get? i <;> rfl

theorem function_eq_elim (p : Program) (i : DeclId) :
    p.function i = (p.get? i).elim (.error (.malformed (.unknownDecl i))) fun d =>
      d.function?.elim (.error (.malformed (.notCallable i d.name))) fun f => .ok (d, f) := by
  unfold function
  rw [decl_eq_elim]
  cases p.get? i with
  | none => rfl
  | some d =>
    simp only [Option.elim_some, bind, Except.bind]
    cases d.function? <;> rfl

/-- Of the copies of a declaration, whichever units they come from, the first with a body is kept,
or else the first, in the place of the first; and that copy is what is found under the id. -/
theorem first_definitions_kept (units : List TranslationUnit) (more : List Decl) :
    let ds := units.flatMap (·.decls) ++ more
    let p := more.foldl insert (ofUnits units)
    p.decls.map (·.id) = distinctBy id (ds.map (·.id)) ∧
      p.decls = (distinctBy id (ds.map (·.id))).filterMap (kept ds) ∧
      ∀ i, p.get? i = kept ds i ∧
        p.decl i = (kept ds i).elim (.error (.malformed (.unknownDecl i))) .ok ∧
        p.function i = (kept ds i).elim (.error (.malformed (.unknownDecl i))) fun d =>
          d.function?.elim (.error (.malformed (.notCallable i d.name))) fun f => .ok (d, f) := by
  intro ds p
  have hp : p = ofDecls ds := (ofDecls_append _ more).symm
  rw [hp]
  refine ⟨map_id_ofDecls ds, decls_ofDecls ds, fun i => ?_⟩
  rw [decl_eq_elim, function_eq_elim, get?_ofDecls]
  exact ⟨rfl, rfl, rfl⟩

end Program

end Lifeline
