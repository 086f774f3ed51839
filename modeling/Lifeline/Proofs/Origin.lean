import Lifeline.Proofs.Interning

namespace Lifeline

namespace Program

def Leads (p : Program) (a b : DeclId) : Prop :=
  ∃ d ∈ p.decls, d.id = a ∧ (d.owner? = some b ∨ d.instantiatedFrom = some b)

def Acyclic (p : Program) : Prop :=
  ∀ id, ¬ Relation.TransGen p.Leads id id

variable {p : Program} {id : DeclId} {d : Decl}

theorem Acyclic.of_rank (rank : DeclId → Nat) (h : ∀ a b, p.Leads a b → rank b < rank a) :
    p.Acyclic := by
  intro id hid
  have hlt : ∀ {a b}, Relation.TransGen p.Leads a b → rank b < rank a := by
    intro a b hab
    induction hab with
    | single hlead => exact h _ _ hlead
    | tail _ hlead ih => exact Nat.lt_trans (h _ _ hlead) ih
  exact Nat.lt_irrefl _ (hlt hid)

/-- Together with declarations that were passed on the way here, the room is more than the program
has declarations. -/
def Fits (p : Program) (room : Nat) (id : DeclId) : Prop :=
  ∃ passed : List DeclId, passed.Nodup ∧
    (∀ x ∈ passed, x ∈ p.decls.map (·.id) ∧ Relation.TransGen p.Leads x id) ∧
    p.size < passed.length + room

theorem fits_start (p : Program) (id : DeclId) : p.Fits (p.size + 1) id :=
  ⟨[], List.nodup_nil, by simp, by simp⟩

theorem Fits.pos {room : Nat} (h : p.Fits room id) : 0 < room := by
  obtain ⟨passed, hnodup, hpassed, hsize⟩ := h
  have hlen : passed.length ≤ (p.decls.map (·.id)).length :=
    hnodup.length_le_of_subset fun x hx => (hpassed x hx).1
  rw [List.length_map, ← size] at hlen
  omega

theorem Fits.next {room : Nat} (hp : p.Acyclic) (h : p.Fits (room + 1) d.id) (hd : d ∈ p.decls)
    {o : DeclId} (ho : d.owner? = some o ∨ d.instantiatedFrom = some o) : p.Fits room o := by
  obtain ⟨passed, hnodup, hpassed, hsize⟩ := h
  have hlead : p.Leads d.id o := ⟨d, hd, rfl, ho⟩
  refine ⟨d.id :: passed, ?_, ?_, ?_⟩
  · refine List.nodup_cons.2 ⟨?_, hnodup⟩
    intro hmem
    exact hp d.id (hpassed d.id hmem).2
  · intro x hx
    rcases List.mem_cons.1 hx with rfl | hx
    · exact ⟨List.mem_map_of_mem hd, .single hlead⟩
    · exact ⟨(hpassed x hx).1, (hpassed x hx).2.tail hlead⟩
  · rw [List.length_cons]
    omega

end Program

namespace Casting

/-- Interns like `internAt`; what happens when the room is used up is left open. -/
def internFrom (c : Casting) (otherwise : Decl → List String → Cast ParticipantId) :
    (room : Nat) → Decl → List String → Cast ParticipantId
  | 0 => otherwise
  | room + 1 => c.internOnce (c.internFrom otherwise room)

variable {c : Casting} {fault : Fault → Prop} {d : Decl} {r : Roster} {args : List String}

theorem internAt_eq_internFrom (c : Casting) (room : Nat) :
    c.internAt room = c.internFrom (fun d _ => throw (.malformed (.endlessOrigin d.id))) room := by
  induction room with
  | zero => rfl
  | succ room ih =>
    funext d args
    rw [internAt, ih]
    rfl

theorem internOnce_fits (hp : c.program.Acyclic)
    (hrefs : ∀ d ∈ c.program.decls, c.Refers fault (fun _ => True) d)
    {I I' : Decl → List String → Cast ParticipantId} {m n : Nat} (hd : d ∈ c.program.decls)
    (hm : c.program.Fits (m + 1) d.id) (hn : c.program.Fits (n + 1) d.id)
    (hself : args ≠ [] → c.program.Fits m d.id ∧ c.program.Fits n d.id)
    (hI : (c.growing fault).Interns I I' (c.judgeAt m · [])
      fun e => e ∈ c.program.decls ∧ c.program.Fits m e.id ∧ c.program.Fits n e.id) :
    Agree (c.internOnce I d args) (c.internOnce I' d args) r
      ((c.growing fault).Post (c.judgeAt (m + 1) d args)
        (fun id r' => r'.remembered? d.id args = some id) r) := by
  refine InternLaw.internOnce_agree hI ((hrefs d hd).imp ?_) (fun hargs => ⟨hd, hself hargs⟩)
    trivial trivial fun _ htold => htold.elim
  intro o e ho he
  obtain ⟨hmem, rfl⟩ := Program.mem_of_get? (Program.decl_eq_ok_iff.1 he)
  exact ⟨hmem, hm.next hp hd ho, hn.next hp hd ho⟩

theorem internFrom_fits (hp : c.program.Acyclic)
    (hrefs : ∀ d ∈ c.program.decls, c.Refers fault (fun _ => True) d)
    (otherwise otherwise' : Decl → List String → Cast ParticipantId) {m n : Nat}
    (hd : d ∈ c.program.decls) (hm : c.program.Fits m d.id) (hn : c.program.Fits n d.id) :
    Agree (c.internFrom otherwise m d []) (c.internFrom otherwise' n d []) r
      ((c.growing fault).Post (c.judgeAt m d [])
      (fun id r' => r'.remembered? d.id [] = some id) r) := by
  induction m generalizing n d r with
  | zero => exact absurd hm.pos (Nat.lt_irrefl 0)
  | succ m ih =>
    cases n with
    | zero => exact absurd hn.pos (Nat.lt_irrefl 0)
    | succ n =>
      refine internOnce_fits hp hrefs hd hm hn (fun h => absurd rfl h) ?_
      rintro e r ⟨he, hem, hen⟩ -
      exact ih he hem hen

/-- With as much room as `internDecl` gives, interning never comes to the end of it. -/
theorem internFrom_agree (hp : c.program.Acyclic)
    (hrefs : ∀ d ∈ c.program.decls, c.Refers fault (fun _ => True) d)
    (otherwise otherwise' : Decl → List String → Cast ParticipantId) (hd : d ∈ c.program.decls)
    (hr : r.Sound) :
    Agree (c.internFrom otherwise (c.program.size + 2) d args)
      (c.internFrom otherwise' (c.program.size + 2) d args) r
      (r.Grows fault fun id r' => r'.remembered? d.id args = some id) := by
  have hfits := c.program.fits_start d.id
  have hmore : c.program.Fits (c.program.size + 1 + 1) d.id := by
    obtain ⟨passed, hnodup, hpassed, hsize⟩ := hfits
    exact ⟨passed, hnodup, hpassed, by omega⟩
  refine grows_of_agree hr (internOnce_fits hp hrefs hd hmore hmore (fun _ => ⟨hfits, hfits⟩) ?_)
  rintro e r ⟨he, hem, hen⟩ -
  exact internFrom_fits hp hrefs otherwise otherwise' he hem hen

end Casting

end Lifeline
