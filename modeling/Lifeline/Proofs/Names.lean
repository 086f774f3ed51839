import Lifeline.Proofs.Origin

/-! What can be read back from the text of a name. A list of template arguments can, as long as
commas within an argument stand in brackets; and of what has no name of its own, the line and the
column. -/

namespace Lifeline

theorem ok_of_bind {x : Except Fault α} {k : α → Except Fault β} {b : β} (h : (x >>= k) = .ok b) :
    ∃ a, x = .ok a ∧ k a = .ok b := by
  cases x with
  | ok a => exact ⟨a, rfl, h⟩
  | error f => cases h

def Approximates (x y : Except Fault α) : Prop :=
  ∀ a, x = .ok a → y = .ok a

theorem Approximates.refl (x : Except Fault α) : Approximates x x :=
  fun _ h => h

theorem Approximates.bind {x y : Except Fault α} {k l : α → Except Fault β} (h : Approximates x y)
    (hk : ∀ a, Approximates (k a) (l a)) : Approximates (x >>= k) (y >>= l) := by
  intro b hb
  obtain ⟨a, ha, hb⟩ := ok_of_bind hb
  rw [h a ha]
  exact hk a b hb

namespace Naming

variable {p : Program} {d d' : Decl} {f : Function}

theorem joinScope_inj {scope name name' : String} :
    joinScope scope name = joinScope scope name' ↔ name = name' := by
  unfold joinScope
  split
  · rfl
  · rw [String.append_right_inj]

/-! Template arguments. -/

def bracket (c : Char) : Int :=
  if ['<', '(', '[', '{'].contains c then 1 else if ['>', ')', ']', '}'].contains c then -1 else 0

def nesting : List Char → Int
  | [] => 0
  | c :: cs => bracket c + nesting cs

/-- No bracket is closed before one is opened, none is left open, and commas only stand within
brackets. -/
def IsProper (arg : String) : Prop :=
  nesting arg.toList = 0 ∧ (∀ n ≤ arg.toList.length, 0 ≤ nesting (arg.toList.take n)) ∧
    ∀ n < arg.toList.length, arg.toList[n]? = some ',' → 0 < nesting (arg.toList.take n)

instance (arg : String) : Decidable (IsProper arg) :=
  inferInstanceAs (Decidable (_ ∧ _ ∧ _))

theorem IsProper.ne_append {a b : String} (ha : IsProper a) (hb : IsProper b) (rest : List Char) :
    b.toList ≠ a.toList ++ ',' :: rest := by
  intro h
  have hcomma := hb.2.2 a.toList.length (by simp [h]) (by simp [h])
  rw [h, List.take_left, ha.1] at hcomma
  exact absurd hcomma (Int.lt_irrefl 0)

/-- Where a proper argument ends does not depend on what follows the comma. -/
theorem IsProper.append_inj {a b : String} (ha : IsProper a) (hb : IsProper b) {s t : List Char}
    (h : a.toList ++ ',' :: s = b.toList ++ ',' :: t) : a = b ∧ s = t := by
  have hlonger {a b : String} (ha : IsProper a) (hb : IsProper b) {s t more : List Char}
      (hb' : b.toList = a.toList ++ more) (hs : ',' :: s = more ++ ',' :: t) : more = [] := by
    cases more with
    | nil => rfl
    | cons c more =>
      obtain ⟨rfl, -⟩ := List.cons.inj hs
      exact absurd hb' (ha.ne_append hb more)
  rcases List.append_eq_append_iff.1 h with ⟨more, hb', hs⟩ | ⟨more, ha', ht⟩
  · obtain rfl := hlonger ha hb hb' hs
    simpa [String.ext_iff, eq_comm] using And.intro hb' hs
  · obtain rfl := hlonger hb ha ha' ht
    simpa [String.ext_iff, eq_comm] using And.intro ha' ht

theorem toList_join (a b : String) (args : List String) :
    (",".intercalate (a :: b :: args)).toList =
      a.toList ++ ',' :: (",".intercalate (b :: args)).toList := by
  simp only [String.intercalate_cons_cons, String.toList_append, List.append_assoc]
  rfl

theorem join_inj {args args' : List String} (hargs : ∀ a ∈ args, IsProper a)
    (hargs' : ∀ a ∈ args', IsProper a) (hne : args ≠ []) (hne' : args' ≠ [])
    (h : ",".intercalate args = ",".intercalate args') : args = args' := by
  have htext := congrArg String.toList h
  induction args generalizing args' with
  | nil => exact absurd rfl hne
  | cons a rest ih =>
    obtain ⟨ha, hrest⟩ := List.forall_mem_cons.1 hargs
    cases args' with
    | nil => exact absurd rfl hne'
    | cons b rest' =>
      obtain ⟨hb, hrest'⟩ := List.forall_mem_cons.1 hargs'
      -- Both lists end here, or both go on after a comma.
      cases rest with
      | nil =>
        cases rest' with
        | nil => simpa using h
        | cons b' more' =>
          rw [String.intercalate_singleton, toList_join] at htext
          exact absurd htext (hb.ne_append ha _)
      | cons a' more =>
        cases rest' with
        | nil =>
          rw [String.intercalate_singleton, toList_join] at htext
          exact absurd htext.symm (ha.ne_append hb _)
        | cons b' more' =>
          rw [toList_join, toList_join] at htext
          obtain ⟨rfl, hlater⟩ := ha.append_inj hb htext
          rw [ih hrest hrest' (by simp) (by simp) (String.toList_inj.1 hlater) hlater]

theorem templated_cons (name a : String) (args : List String) :
    templated name (a :: args) = name ++ ("<" ++ ",".intercalate (a :: args) ++ ">") := by
  simp [templated, String.append_assoc]

theorem templated_inj {name : String} {args args' : List String} (hargs : ∀ a ∈ args, IsProper a)
    (hargs' : ∀ a ∈ args', IsProper a) :
    templated name args = templated name args' ↔ args = args' := by
  refine ⟨fun h => ?_, fun h => h ▸ rfl⟩
  have hplain {a : String} {args : List String} :
      templated name (a :: args) ≠ templated name [] := by
    intro h
    have htext := congrArg String.toList h
    simp [templated] at htext
  cases args with
  | nil =>
    cases args' with
    | nil => rfl
    | cons b rest' => exact absurd h.symm hplain
  | cons a rest =>
    cases args' with
    | nil => exact absurd h hplain
    | cons b rest' =>
      rw [templated_cons, templated_cons, String.append_right_inj, String.append_left_inj,
        String.append_right_inj] at h
      exact join_inj hargs hargs' (by simp) (by simp) h

def scopeOf (p : Program) (d : Decl) (f : Function) : Except Fault String :=
  match f.owner with
  | none => .ok d.namespaceName
  | some o => p.decl o >>= recordNameAt p maxScopeDepth

def IsPlain (p : Program) (f : Function) : Prop :=
  ∀ o e info, f.owner = some o → p.get? o = some e → e.kind = .record info → info.isLambda = false

theorem plainNames_eq {args : List String} {names : CallableNames} (hf : IsPlain p f)
    (h : callableNames p d f args = .ok names) :
    ∃ scope, scopeOf p d f = .ok scope ∧
      names.qualifiedName = joinScope scope (templated d.name args) ∧
      names.fullName = names.qualifiedName ++ signature f := by
  unfold callableNames callableNamesWith at h
  unfold scopeOf
  cases ho : f.owner with
  | none =>
    simp only [ho] at h
    cases h
    exact ⟨_, rfl, rfl, rfl⟩
  | some o =>
    simp only [ho] at h ⊢
    obtain ⟨e, he, h⟩ := ok_of_bind h
    cases hkind : e.kind with
    | function g =>
      simp only [Decl.record?, hkind] at h
      cases h
    | record info =>
      simp only [Decl.record?, hkind] at h
      obtain ⟨scope, hscope, h⟩ := ok_of_bind h
      simp only [hf o e info ho (Program.decl_eq_ok_iff.1 he) hkind,
        Bool.false_eq_true, if_false] at h
      cases h
      exact ⟨scope, by rw [he]; exact hscope, rfl, rfl⟩

theorem fullName_eq {args : List String} {names : CallableNames} (hf : IsPlain p f)
    (h : callableNames p d f args = .ok names) :
    ∃ scope, scopeOf p d f = .ok scope ∧
      names.fullName = joinScope scope (templated d.name args) ++ signature f := by
  obtain ⟨scope, hscope, hname, hfull⟩ := plainNames_eq hf h
  exact ⟨scope, hscope, hname ▸ hfull⟩

theorem fullName_inj {args args' : List String} {names names' : CallableNames} (hf : IsPlain p f)
    (hargs : ∀ a ∈ args, IsProper a) (hargs' : ∀ a ∈ args', IsProper a)
    (h : callableNames p d f args = .ok names) (h' : callableNames p d f args' = .ok names')
    (hname : names.fullName = names'.fullName) : args = args' := by
  obtain ⟨scope, hscope, hfull⟩ := fullName_eq hf h
  obtain ⟨scope', hscope', hfull'⟩ := fullName_eq hf h'
  cases hscope.symm.trans hscope'
  rw [hfull, hfull', String.append_left_inj, joinScope_inj] at hname
  exact (templated_inj hargs hargs').1 hname

/-! Lines and columns. -/

theorem toDigits_inj {n m : Nat} (h : Nat.toDigits 10 n = Nat.toDigits 10 m) : n = m := by
  have hvalue := congrArg (Nat.ofDigitChars 10 · 0) h
  simpa using hvalue

theorem toList_position {l : Location} (hl : d.location = some l) :
    (position d).toList =
      Nat.toDigits 10 l.line.toNat ++ ':' :: Nat.toDigits 10 l.column.toNat := by
  have hposition : position d = l.line.toNat.repr ++ ":" ++ l.column.toNat.repr := by
    rw [position, hl]
    rfl
  simp [hposition]

theorem position_inj {l l' : Location} (hl : d.location = some l) (hl' : d'.location = some l')
    (h : position d = position d') : l.line = l'.line ∧ l.column = l'.column := by
  have htext := congrArg String.toList h
  rw [toList_position hl, toList_position hl'] at htext
  have hcolon : ∀ n, ':' ∉ Nat.toDigits 10 n := by
    intro n hmem
    exact absurd (Nat.isDigit_of_mem_toDigits (by decide) (by decide) hmem) (by decide)
  obtain ⟨hline, -, hcolumn⟩ := (List.append_cons_inj_of_notMem (hcolon _) (hcolon _)).1 htext
  exact ⟨UInt32.toNat_inj.1 (toDigits_inj hline), UInt32.toNat_inj.1 (toDigits_inj hcolumn)⟩

def IsNameless (d : Decl) (info : RecordInfo) : Prop :=
  info.isLambda = true ∨ d.name = ""

theorem position_of_localName {info info' : RecordInfo} (hd : IsNameless d info)
    (hd' : IsNameless d' info') (h : localName d info = localName d' info') :
    position d = position d' := by
  have htext := congrArg String.toList h
  cases hlambda : info.isLambda with
  | true =>
    cases hlambda' : info'.isLambda with
    | true => simpa [localName, hlambda, hlambda'] using h
    | false =>
      have hname' : d'.name = "" := hd'.resolve_left (by simp [hlambda'])
      simp [localName, hlambda, hlambda', hname'] at htext
  | false =>
    have hname : d.name = "" := hd.resolve_left (by simp [hlambda])
    cases hlambda' : info'.isLambda with
    | true => simp [localName, hlambda, hlambda', hname] at htext
    | false =>
      have hname' : d'.name = "" := hd'.resolve_left (by simp [hlambda'])
      simpa [localName, hlambda, hlambda', hname, hname'] using h

/-! Records within one scope. -/

theorem callableNamesWith_mono {recordName recordName' : Decl → Except Fault String}
    (args : List String) (hname : ∀ e, Approximates (recordName e) (recordName' e)) :
    Approximates (callableNamesWith recordName p d f args)
      (callableNamesWith recordName' p d f args) := by
  unfold callableNamesWith
  cases f.owner with
  | none => exact .refl _
  | some o =>
    refine .bind (.refl _) fun owner => ?_
    cases owner.record? with
    | none => exact .refl _
    | some info => exact .bind (hname owner) fun _ => .refl _

def ownerNameAt (p : Program) : Nat → Decl → Except Fault String
  | 0 => endless
  | room + 1 => recordNameAt p room

def enclosing (p : Program) (room : Nat) (space : String) : Option DeclId → Except Fault String
  | none => pure space
  | some parentId => do
    let parent ← p.decl parentId
    match parent.kind with
    | .record _ => recordNameAt p room parent
    | .function f => do
      let names ← callableNamesWith (ownerNameAt p room) p parent f parent.templateArgs
      return names.fullName

theorem recordNameAt_succ {info : RecordInfo} (hkind : d.kind = .record info) (room : Nat) :
    recordNameAt p (room + 1) d = do
      let scope ← enclosing p room d.namespaceName info.parent
      return joinScope scope (localName d info) := by
  unfold recordNameAt enclosing
  simp only [Decl.record?, hkind]
  cases info.parent with
  | none => rfl
  | some parentId =>
    simp only [bind_assoc]
    refine bind_congr fun parent => ?_
    cases parent.kind with
    | record _ => rfl
    | function f => cases room <;> simp only [bind_assoc, ownerNameAt]

theorem recordNameAt_mono {room room' : Nat} (hroom : room ≤ room') (d : Decl) :
    Approximates (recordNameAt p room d) (recordNameAt p room' d) := by
  induction room using Nat.strongRecOn generalizing d room' with
  | ind room ih =>
    cases room with
    | zero =>
      intro name h
      cases h
    | succ room =>
      obtain ⟨room', rfl⟩ : ∃ k, room' = k + 1 := ⟨room' - 1, by omega⟩
      cases hkind : d.kind with
      | function f =>
        intro name h
        unfold recordNameAt at h
        simp only [Decl.record?, hkind] at h
        cases h
      | record info =>
        rw [recordNameAt_succ hkind, recordNameAt_succ hkind]
        refine .bind ?_ fun _ => .refl _
        cases info.parent with
        | none => exact .refl _
        | some parentId =>
          refine .bind (.refl _) fun parent => ?_
          cases parent.kind with
          | record _ => exact ih room (Nat.lt_succ_self room) (by omega) parent
          | function f =>
            refine .bind (callableNamesWith_mono _ fun e => ?_) fun _ => .refl _
            cases room with
            | zero =>
              intro name h
              cases h
            | succ room =>
              obtain ⟨k, rfl⟩ : ∃ k, room' = k + 1 := ⟨room' - 1, by omega⟩
              exact ih room (by omega) (by omega) e

theorem recordNameAt_ne {info info' : RecordInfo} (hkind : d.kind = .record info)
    (hkind' : d'.kind = .record info') (hd : IsNameless d info) (hd' : IsNameless d' info')
    (hparent : info.parent = info'.parent)
    (hspace : info.parent = none → d.namespaceName = d'.namespaceName) {l l' : Location}
    (hl : d.location = some l) (hl' : d'.location = some l')
    (hne : l.line ≠ l'.line ∨ l.column ≠ l'.column) {room room' : Nat} {name name' : String}
    (h : recordNameAt p room d = .ok name) (h' : recordNameAt p room' d' = .ok name') :
    name ≠ name' := by
  rintro rfl
  have hmore := recordNameAt_mono (show room ≤ room + room' + 1 by omega) d name h
  have hmore' := recordNameAt_mono (show room' ≤ room + room' + 1 by omega) d' name h'
  rw [recordNameAt_succ hkind] at hmore
  rw [recordNameAt_succ hkind', ← hparent] at hmore'
  have hscope : enclosing p (room + room') d.namespaceName info.parent =
      enclosing p (room + room') d'.namespaceName info.parent := by
    cases hp : info.parent with
    | none => rw [hspace hp]
    | some parentId => rfl
  obtain ⟨scope, hs, hname⟩ := ok_of_bind hmore
  obtain ⟨_, hs', hname'⟩ := ok_of_bind hmore'
  cases hs.symm.trans (hscope.trans hs')
  have hlocal : localName d info = localName d' info' :=
    joinScope_inj.1 (Except.ok.inj (hname.trans hname'.symm))
  obtain ⟨hline, hcolumn⟩ := position_inj hl hl' (position_of_localName hd hd' hlocal)
  exact hne.elim (absurd hline) (absurd hcolumn)

end Naming

end Lifeline
