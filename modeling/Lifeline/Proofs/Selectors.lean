import Lifeline.EntryPoint
import Lifeline.Proofs.Law.Run
import Lifeline.Proofs.Names
import Mathlib.Data.List.DropRight
import Mathlib.Data.List.Infix

/-! Selectors, and what is taken off the end of a name for them. That is told from the brackets
alone: from the end of the name back to where the last bracket was opened. Template arguments come
off again in this way, but so does whatever else stands in brackets at the end of a name. -/

namespace Lifeline

namespace Text

theorem length_trimChars_le (cs : List Char) : (trimChars cs).length ≤ cs.length := by
  simp only [trimChars, List.length_reverse]
  refine (List.dropWhile_suffix _).length_le.trans ?_
  rw [List.length_reverse]
  exact (List.dropWhile_suffix _).length_le

theorem length_trim_le (s : String) : (trim s).toList.length ≤ s.toList.length := by
  simpa [trim] using length_trimChars_le s.toList

theorem trimChars_trimChars (cs : List Char) : trimChars (trimChars cs) = trimChars cs := by
  have hfront : (trimChars cs).dropWhile isWhite = trimChars cs := by
    rcases hempty : trimChars cs with _ | ⟨c, rest⟩
    · rfl
    · -- The first character is also the first of those from which only the end was dropped.
      have hsuffix : (trimChars cs).reverse <:+ (cs.dropWhile isWhite).reverse := by
        simpa [trimChars] using List.dropWhile_suffix isWhite
      obtain ⟨more, hmore⟩ := List.reverse_suffix.mp hsuffix
      have hhead : (cs.dropWhile isWhite).head? = some c := by rw [← hmore, hempty]; rfl
      have hwhite := List.head?_dropWhile_not isWhite cs
      rw [hhead] at hwhite
      rw [List.dropWhile_cons_of_neg (by simpa using hwhite)]
  rw [trimChars, hfront, trimChars, List.reverse_reverse, List.dropWhile_idempotent]

theorem trim_trim (s : String) : trim (trim s) = trim s := by
  simp [trim, trimChars_trimChars]

end Text

namespace Naming

structure Balanced (cs : List Char) : Prop where
  opened : ∀ start, start <+: cs → start.count '>' ≤ start.count '<'
  closed : cs.count '>' = cs.count '<'

theorem balanced_iff {cs : List Char} : Balanced cs ↔
    (∀ start ∈ cs.inits, start.count '>' ≤ start.count '<') ∧ cs.count '>' = cs.count '<' := by
  simp only [List.mem_inits]
  exact ⟨fun h => ⟨h.opened, h.closed⟩, fun h => ⟨h.1, h.2⟩⟩

instance (cs : List Char) : Decidable (Balanced cs) :=
  decidable_of_iff _ balanced_iff.symm

theorem Balanced.reverse_iff {cs : List Char} : Balanced cs.reverse ↔
    (∀ start, start <+: cs → start.count '<' ≤ start.count '>') ∧ cs.count '<' = cs.count '>' := by
  constructor
  · intro h
    have htotal : cs.count '<' = cs.count '>' := by simpa using h.closed.symm
    refine ⟨?_, htotal⟩
    rintro start ⟨rest, rfl⟩
    have hrest := h.opened rest.reverse (by simp)
    simp only [List.count_append, List.count_reverse] at htotal hrest
    omega
  · rintro ⟨hstart, htotal⟩
    refine ⟨?_, by simpa using htotal.symm⟩
    rintro last ⟨rest, hrest⟩
    obtain rfl : cs = rest.reverse ++ last.reverse := by
      rw [← List.reverse_append, hrest, List.reverse_reverse]
    have hrest := hstart rest.reverse (List.prefix_append _ _)
    simp only [List.count_append, List.count_reverse] at htotal hrest
    omega

theorem forall_prefix_cons {P : List Char → Prop} {c : Char} {cs : List Char} :
    (∀ start, start <+: c :: cs → P start) ↔ P [] ∧ ∀ start, start <+: cs → P (c :: start) := by
  simp only [List.prefix_cons_iff]
  constructor
  · exact fun h => ⟨h [] (.inl rfl), fun start hstart => h _ (.inr ⟨start, rfl, hstart⟩)⟩
  · rintro ⟨hnil, hcons⟩ _ (rfl | ⟨start, rfl, hstart⟩)
    · exact hnil
    · exact hcons start hstart

/-- With so many brackets still to be opened, there are some left all through the text, and one at
its end. -/
structure Awaits (depth : Nat) (read : List Char) : Prop where
  left : ∀ start, start <+: read → start.count '<' < depth + start.count '>'
  one : read.count '<' + 1 = depth + read.count '>'

namespace Awaits

variable {depth : Nat} {c : Char} {cs : List Char}

theorem iff_and : Awaits depth cs ↔
    (∀ start, start <+: cs → start.count '<' < depth + start.count '>') ∧
    cs.count '<' + 1 = depth + cs.count '>' :=
  ⟨fun h => ⟨h.left, h.one⟩, fun h => ⟨h.1, h.2⟩⟩

theorem nil_iff : Awaits depth [] ↔ depth = 1 := by
  simp only [iff_and, List.prefix_nil, forall_eq, List.count_nil]
  omega

theorem close_iff (hdepth : 0 < depth) : Awaits depth ('>' :: cs) ↔ Awaits (depth + 1) cs := by
  simp only [iff_and, forall_prefix_cons, List.count_nil, Nat.add_zero, hdepth, true_and]
  refine and_congr (forall₂_congr fun start _ => ?_) ?_ <;> simp <;> omega

theorem open_iff : Awaits depth ('<' :: cs) ↔ 1 < depth ∧ Awaits (depth - 1) cs := by
  simp only [iff_and, forall_prefix_cons, List.count_nil, Nat.add_zero]
  constructor
  · rintro ⟨⟨-, hleft⟩, hone⟩
    have hdepth : 1 < depth := by simpa using hleft [] List.nil_prefix
    refine ⟨hdepth, fun start hstart => ?_, ?_⟩
    · have := hleft start hstart
      simp at this
      omega
    · simp at hone
      omega
  · rintro ⟨hdepth, hleft, hone⟩
    refine ⟨⟨by omega, fun start hstart => ?_⟩, ?_⟩
    · have := hleft start hstart
      simp
      omega
    · simp
      omega

theorem other_iff (hdepth : 0 < depth) (hclose : c ≠ '>') (hopen : c ≠ '<') :
    Awaits depth (c :: cs) ↔ Awaits depth cs := by
  simp [iff_and, forall_prefix_cons, hdepth, hclose, hopen]

end Awaits

/-- The search ends at the first bracket that opens the last of those still to be opened. -/
theorem beforeOpening_eq_some_iff {depth : Nat} (hdepth : 0 < depth) {cs rest : List Char} :
    beforeOpening depth cs = some rest ↔
      ∃ inside, cs = inside ++ '<' :: rest ∧ Awaits depth inside := by
  induction cs generalizing depth with
  | nil => simp [beforeOpening]
  | cons c cs ih =>
    -- Either the first character is the bracket, or it is read and the search goes on behind it.
    have hfirst : (∃ inside, c :: cs = inside ++ '<' :: rest ∧ Awaits depth inside) ↔
        (c = '<' ∧ cs = rest ∧ depth = 1) ∨
          ∃ inside, cs = inside ++ '<' :: rest ∧ Awaits depth (c :: inside) := by
      constructor
      · rintro ⟨_ | ⟨b, inside⟩, heq, hinside⟩ <;> obtain ⟨rfl, rfl⟩ := List.cons.inj heq
        · exact .inl ⟨rfl, rfl, Awaits.nil_iff.mp hinside⟩
        · exact .inr ⟨inside, rfl, hinside⟩
      · rintro (⟨rfl, rfl, hlast⟩ | ⟨inside, rfl, hinside⟩)
        · exact ⟨[], rfl, Awaits.nil_iff.mpr hlast⟩
        · exact ⟨c :: inside, rfl, hinside⟩
    rw [hfirst, beforeOpening]
    by_cases hclose : c = '>'
    · subst hclose
      simp [ih (Nat.succ_pos depth), Awaits.close_iff hdepth]
    · by_cases hopen : c = '<'
      · subst hopen
        by_cases hlast : depth = 1
        · simp [hlast, Awaits.open_iff]
        · have hmore : 1 < depth := by omega
          simp [hlast, ih (Nat.sub_pos_of_lt hmore), Awaits.open_iff, hmore]
      · simp [hclose, hopen, ih hdepth, Awaits.other_iff hdepth hclose hopen]

def IsStem (stem name : String) : Prop :=
  ∃ inside, Balanced inside ∧ name.toList = stem.toList ++ '<' :: inside ++ ['>']

theorem isStem_iff {stem name : String} : IsStem stem name ↔
    ∃ cs, name.toList.reverse = '>' :: cs ∧ beforeOpening 1 cs = some stem.toList.reverse := by
  have hbalanced (inside : List Char) : Balanced inside.reverse ↔ Awaits 1 inside := by
    simp only [Balanced.reverse_iff, Awaits.iff_and, Nat.add_comm 1, Nat.lt_succ_iff, Nat.succ_inj]
  constructor
  · rintro ⟨inside, hinside, hname⟩
    refine ⟨inside.reverse ++ '<' :: stem.toList.reverse, by simp [hname], ?_⟩
    refine (beforeOpening_eq_some_iff Nat.one_pos).mpr ⟨inside.reverse, rfl, ?_⟩
    exact (hbalanced inside.reverse).mp (by simpa using hinside)
  · rintro ⟨cs, hcs, hrun⟩
    obtain ⟨inside, rfl, hinside⟩ := (beforeOpening_eq_some_iff Nat.one_pos).mp hrun
    refine ⟨inside.reverse, (hbalanced inside).mpr hinside, ?_⟩
    rw [← List.reverse_inj, hcs]
    simp

theorem IsStem.length_lt {stem name : String} (h : IsStem stem name) :
    stem.toList.length < name.toList.length := by
  obtain ⟨inside, -, hname⟩ := h
  simp [hname]

theorem strip_of_isStem {stem name : String} (h : IsStem stem name) :
    stripTemplateArgs name = stem := by
  obtain ⟨cs, hcs, hrun⟩ := isStem_iff.mp h
  have hrun' : beforeOpening 0 ('>' :: cs) = some stem.toList.reverse := by
    simpa [beforeOpening] using hrun
  simp [stripTemplateArgs, hcs, hrun']

theorem strip_of_not_isStem {name : String} (h : ∀ stem, ¬ IsStem stem name) :
    stripTemplateArgs name = name := by
  unfold stripTemplateArgs
  rcases hcs : name.toList.reverse with _ | ⟨c, cs⟩
  · rfl
  · by_cases hc : c = '>'
    · subst hc
      cases hrun : beforeOpening 0 ('>' :: cs) with
      | none => simp [hrun]
      | some rest =>
        refine absurd (isStem_iff.mpr ⟨cs, hcs, ?_⟩) (h (String.ofList rest.reverse))
        simpa [beforeOpening] using hrun
    · simp [hc]

theorem strip_eq_iff {stem name : String} (hne : stem ≠ name) :
    stripTemplateArgs name = stem ↔ IsStem stem name := by
  refine ⟨fun h => ?_, strip_of_isStem⟩
  by_contra hnot
  refine hne (h.symm.trans (strip_of_not_isStem fun other hother => hnot ?_))
  rwa [← h, strip_of_isStem hother]

theorem strip_shortens (name : String) : (stripTemplateArgs name).toList <+: name.toList := by
  by_cases h : ∃ stem, IsStem stem name
  · obtain ⟨stem, hstem⟩ := h
    obtain ⟨inside, -, hname⟩ := id hstem
    rw [strip_of_isStem hstem, hname, List.append_assoc]
    exact List.prefix_append _ _
  · rw [strip_of_not_isStem (not_exists.mp h)]

/-- The search for the opening bracket, character by character from the end of a name that ends in a
closing one. The counter is a number that could go below zero; `rest` is what was not read yet. -/
inductive Scanning (name : String) : (counter : Int) → (rest : List Char) → Prop
  | start : name.toList.reverse.head? = some '>' → Scanning name 0 name.toList.reverse
  | close {n : Int} {rest : List Char} : Scanning name n ('>' :: rest) → Scanning name (n + 1) rest
  | opened {n : Int} {rest : List Char} : Scanning name n ('<' :: rest) → n - 1 ≠ 0 →
    Scanning name (n - 1) rest
  | other {n : Int} {c : Char} {rest : List Char} : c ≠ '>' → c ≠ '<' →
    Scanning name n (c :: rest) → Scanning name n rest

theorem Scanning.counts {name : String} {n : Int} {rest : List Char} (h : Scanning name n rest) :
    (n = 0 ∧ rest.head? = some '>' ∨ 0 < n) ∧
      beforeOpening 0 name.toList.reverse = beforeOpening n.toNat rest := by
  induction h with
  | start hlast => exact ⟨.inl ⟨rfl, hlast⟩, rfl⟩
  | @close n rest _ ih =>
    have hn : (n + 1).toNat = n.toNat + 1 := by omega
    refine ⟨.inr (by omega), ih.2.trans ?_⟩
    simp [beforeOpening, hn]
  | @opened n rest _ hn ih =>
    have hpos : 0 < n := by simpa using ih.1
    have hn' : n.toNat ≠ 1 := by omega
    have hpred : (n - 1).toNat = n.toNat - 1 := by omega
    refine ⟨.inr (by omega), ih.2.trans ?_⟩
    simp [beforeOpening, hn', hpred]
  | @other n c rest hclose hopen _ ih =>
    refine ⟨.inr (by simpa [hclose] using ih.1), ih.2.trans ?_⟩
    simp [beforeOpening, hclose, hopen]

theorem isStem_templated (stem : String) {args : List String} (hargs : args ≠ [])
    (h : Balanced (",".intercalate args).toList) : IsStem stem (templated stem args) := by
  refine ⟨_, h, ?_⟩
  simp [templated, hargs]

theorem joinScope_templated (scope name : String) (args : List String) :
    joinScope scope (templated name args) = templated (joinScope scope name) args := by
  unfold joinScope templated
  split <;> split <;> simp [String.append_assoc]

theorem selects_iff {selector qualifiedName fullName : String} :
    selects selector qualifiedName fullName = true ↔
    Text.trim selector = qualifiedName ∨ Text.trim selector = fullName ∨
        IsStem (Text.trim selector) qualifiedName := by
  simp only [selects, Bool.or_eq_true, beq_iff_eq, or_assoc]
  by_cases hsame : Text.trim selector = qualifiedName
  · simp [hsame]
  · simp only [hsame, false_or, ← strip_eq_iff hsame, eq_comm]

/-- Template arguments whose brackets match come off again, whatever the name and the scope before
it. So the name without them selects all instances, unless there is white space around it, which a
selector cannot have. Of any text whatsoever a beginning is left, and the counter that looks for the
end of it does not go below zero: it is above zero wherever it is about to be decreased. -/
theorem strip_undoes_templated :
    (∀ (scope name : String) (args : List String), args ≠ [] →
      Balanced (",".intercalate args).toList → stripTemplateArgs (templated name args) = name ∧
      stripTemplateArgs (joinScope scope (templated name args)) = joinScope scope name ∧
      (∀ selector fullName, Text.trim selector = joinScope scope name →
        selects selector (joinScope scope (templated name args)) fullName = true) ∧
      ∀ suffix, selects (joinScope scope name) (joinScope scope (templated name args))
          (joinScope scope (templated name args) ++ suffix) = true ↔
        Text.trim (joinScope scope name) = joinScope scope name) ∧
    ∀ name : String, (stripTemplateArgs name).toList <+: name.toList ∧
      ∀ n rest, Scanning name n rest → 0 ≤ n ∧ (rest.head? = some '<' → 0 ≤ n - 1) ∧
        beforeOpening 0 name.toList.reverse = beforeOpening n.toNat rest := by
  refine ⟨fun scope name args hargs hbalanced => ?_,
    fun name => ⟨strip_shortens name, fun n rest h => ?_⟩⟩
  · rw [joinScope_templated]
    have hstem := isStem_templated (joinScope scope name) hargs hbalanced
    refine ⟨strip_of_isStem (isStem_templated name hargs hbalanced),
      strip_of_isStem hstem, ?_, fun suffix => ?_⟩
    · intro selector fullName hselector
      rw [selects_iff, hselector]
      exact .inr (.inr hstem)
    · rw [selects_iff]
      have hshort := (Text.length_trim_le (joinScope scope name)).trans_lt hstem.length_lt
      constructor
      · rintro (heq | heq | htrimmed)
        · rw [heq] at hshort
          exact absurd hshort (Nat.lt_irrefl _)
        · rw [heq, String.toList_append, List.length_append] at hshort
          omega
        · exact (strip_of_isStem htrimmed).symm.trans (strip_of_isStem hstem)
      · intro htrimmed
        rw [htrimmed]
        exact .inr (.inr hstem)
  · obtain ⟨hn, hrun⟩ := h.counts
    refine ⟨by omega, fun hopen => ?_, hrun⟩
    rcases hn with ⟨-, hclose⟩ | hn
    · simp [hopen] at hclose
    · omega

theorem strip_undoes_templated_sample :
    ["B<int>", "C"] ≠ [] ∧ Balanced (",".intercalate ["B<int>", "C"]).toList ∧
    selects " ns::A " (joinScope "ns" (templated "A" ["B<int>", "C"])) "" = true := by
  have hargs : ["B<int>", "C"] ≠ [] := by simp
  have hbalanced : Balanced (",".intercalate ["B<int>", "C"]).toList := by decide +kernel
  refine ⟨hargs, hbalanced, ?_⟩
  exact (strip_undoes_templated.1 "ns" "A" ["B<int>", "C"] hargs hbalanced).2.2.1 " ns::A " ""
    (by decide +kernel)

/-- A name with white space around it is what is left of its instances, but as a selector it does
not select them. -/
theorem padded_name_selects_nothing :
    Balanced (",".intercalate ["int"]).toList ∧ stripTemplateArgs (templated " f" ["int"]) = " f" ∧
    selects " f" (templated " f" ["int"]) (templated " f" ["int"] ++ "()") = false := by
  decide +kernel

theorem IsStem.getLast? {stem scope name : String} (h : IsStem stem (joinScope scope name)) :
    name.toList.getLast? = some '>' := by
  obtain ⟨inside, -, hname⟩ := h
  have hlast : (joinScope scope name).toList.getLast? = some '>' := by
    rw [hname, List.getLast?_concat]
  unfold joinScope at hlast
  split at hlast
  · exact hlast
  · rw [String.toList_append, List.getLast?_append] at hlast
    cases hown : name.toList.getLast? with
    | none =>
      rw [hown, String.toList_append] at hlast
      simp at hlast
    | some c => rwa [hown] at hlast

theorem Balanced.append {cs ds : List Char} (hc : Balanced cs) (hd : Balanced ds) :
    Balanced (cs ++ ds) := by
  refine ⟨?_, by simp [hc.closed, hd.closed]⟩
  rintro start ⟨rest, hrest⟩
  rcases List.append_eq_append_iff.mp hrest with ⟨more, rfl, -⟩ | ⟨more, rfl, rfl⟩
  · exact hc.opened start (List.prefix_append _ _)
  · have := hd.opened more (List.prefix_append _ _)
    simpa [hc.closed] using this

theorem isStem_joinScope_iff {stem scope name : String} (hscope : Balanced scope.toList) :
    IsStem stem (joinScope scope name) ↔ ∃ own, IsStem own name ∧ stem = joinScope scope own := by
  constructor
  · intro h
    obtain ⟨own, hown⟩ := List.getLast?_eq_some_iff.mp h.getLast?
    by_cases hempty : scope.isEmpty = true
    · simp only [joinScope, hempty, if_true] at h ⊢
      exact ⟨stem, h, rfl⟩
    simp only [joinScope, hempty, Bool.false_eq_true, if_false] at h ⊢
    obtain ⟨inside, hinside, hname⟩ := h
    have houter : Balanced (scope ++ "::").toList := by
      rw [String.toList_append]
      exact hscope.append (by decide)
    rw [String.toList_append, List.append_assoc, List.cons_append] at hname
    rcases List.append_eq_append_iff.mp hname with ⟨rest, hstem, hrest⟩
      | ⟨before, houtside, hbefore⟩
    · exact ⟨String.ofList rest, ⟨inside, hinside, by simpa using hrest⟩,
        String.ext (by simpa using hstem)⟩
    · rcases before with _ | ⟨c, before⟩
      · exact ⟨"", ⟨inside, hinside, by simpa using hbefore.symm⟩,
          String.ext (by simpa using houtside.symm)⟩
      · -- The bracket would be opened in the scope, and something would have to close it there.
        rw [List.cons_append, List.cons.injEq] at hbefore
        obtain ⟨rfl, hbefore⟩ := hbefore
        rw [hown, ← List.append_assoc, List.append_left_inj] at hbefore
        have hstem := houter.opened stem.toList ⟨_, houtside.symm⟩
        have hmore := hinside.opened before ⟨_, hbefore.symm⟩
        have htotal := houter.closed
        rw [houtside] at htotal
        simp at htotal
        omega
  · rintro ⟨own, ⟨inside, hinside, hname⟩, rfl⟩
    refine ⟨inside, hinside, ?_⟩
    unfold joinScope
    split <;> simp [hname]

/-- A function without template arguments is selected by its qualified name, its full name, and what
is left of its qualified name when brackets at its end are taken off. So it is selected by its names
alone iff there are no such brackets, unless the rest cannot be written as a selector. There are
none where the name does not end in a closing bracket; otherwise, as long as brackets match in the
scope, they are those of the name itself. -/
theorem selected_by_names_or_stem {p : Program} {d : Decl} {f : Function} {names : CallableNames}
    (hf : d.function? = some f) (hargs : d.templateArgs = []) (hplain : IsPlain p f)
    (hnames : callableNames p d f d.templateArgs = .ok names) :
    (∀ selector, p.isNamed selector d = .ok true ↔ Text.trim selector = names.qualifiedName ∨
      Text.trim selector = names.fullName ∨ IsStem (Text.trim selector) names.qualifiedName) ∧
    ((∀ selector, p.isNamed selector d = .ok true →
        Text.trim selector = names.qualifiedName ∨ Text.trim selector = names.fullName) ↔
      ∀ stem, IsStem stem names.qualifiedName → Text.trim stem ≠ stem) ∧
    (∀ stem, IsStem stem names.qualifiedName → d.name.toList.getLast? = some '>') ∧
    ∀ scope, scopeOf p d f = .ok scope → Balanced scope.toList →
      ∀ stem, IsStem stem names.qualifiedName ↔
        ∃ own, IsStem own d.name ∧ stem = joinScope scope own := by
  obtain ⟨scope, hscope, hqualified, hfull⟩ := plainNames_eq hplain hnames
  have hname : names.qualifiedName = joinScope scope d.name := by
    simp [hqualified, hargs, templated]
  have hselected (selector : String) :
    p.isNamed selector d = .ok true ↔ Text.trim selector = names.qualifiedName ∨
      Text.trim selector = names.fullName ∨ IsStem (Text.trim selector) names.qualifiedName := by
    simp only [Program.isNamed, hf, hnames, bind, Except.bind, pure, Except.pure,
      Except.ok.injEq, selects_iff]
  refine ⟨hselected, ⟨fun h stem hstem htrimmed => ?_, fun h selector hselector => ?_⟩,
    fun stem hstem => ?_, ?_⟩
  · -- The stem is shorter than both names.
    have hlt := hstem.length_lt
    have hstem' := h stem ((hselected stem).mpr (.inr (.inr (htrimmed.symm ▸ hstem))))
    rw [htrimmed] at hstem'
    rcases hstem' with rfl | rfl
    · exact Nat.lt_irrefl _ hlt
    · rw [hfull, String.toList_append, List.length_append] at hlt
      omega
  · rcases (hselected selector).mp hselector with hqualified | hfull | hstem
    · exact .inl hqualified
    · exact .inr hfull
    · exact absurd (Text.trim_trim selector) (h _ hstem)
  · rw [hname] at hstem
    exact hstem.getLast?
  · intro scope' hscope' hbalanced stem
    cases hscope.symm.trans hscope'
    rw [hname]
    exact isStem_joinScope_iff hbalanced

end Naming

namespace Sample

def pointer : Decl :=
  { worker with name := "Ptr", templateArgs := ["int"] }

def access : Decl :=
  function 4 "operator->" (some 3) .skip

def pointers : Program :=
  ⟨[pointer, access]⟩

theorem isPlain_access {f : Function} (h : access.function? = some f) :
    Naming.IsPlain pointers f := by
  cases h
  rintro _ e info ⟨rfl⟩ he hkind
  obtain rfl : pointer = e := Option.some.inj he
  cases hkind
  rfl

def compare : Decl :=
  function 1 "operator<=>" none .skip

def convert : Decl :=
  function 4 "operator std::vector<int>" (some 3) .skip

end Sample

namespace Naming

theorem selected_by_names_or_stem_sample :
    ∃ f names, Sample.access.function? = some f ∧ Sample.access.templateArgs = [] ∧
      IsPlain Sample.pointers f ∧
      callableNames Sample.pointers Sample.access f Sample.access.templateArgs = .ok names ∧
      names.qualifiedName = "Ptr<int>::operator->" ∧ names.fullName = "Ptr<int>::operator->()" ∧
      ∀ selector, Sample.pointers.isNamed selector Sample.access = .ok true →
        Text.trim selector = names.qualifiedName ∨ Text.trim selector = names.fullName := by
  obtain ⟨-, hnames, -, hscope⟩ :=
    selected_by_names_or_stem (p := Sample.pointers) (d := Sample.access) rfl rfl
    (Sample.isPlain_access rfl) rfl
  refine ⟨_, _, rfl, rfl, Sample.isPlain_access rfl, rfl, by decide +kernel,
    by decide +kernel, hnames.mpr ?_⟩
  -- No bracket is opened in the name of the operator.
  intro stem hstem
  obtain ⟨own, ⟨inside, -, hown⟩, -⟩ := (hscope "Ptr<int>" rfl (by decide +kernel) stem).mp hstem
  have hopened : '<' ∈ Sample.access.name.toList := by simp [hown]
  exact absurd hopened (by decide +kernel)

/-- What is taken off need not be template arguments: three-way comparison goes by the name of all
operators, and a conversion to an instance by that of a conversion to the template. -/
theorem brackets_pass_for_arguments :
    (∃ f names, Sample.compare.function? = some f ∧ Sample.compare.templateArgs = [] ∧
      callableNames ⟨[Sample.compare]⟩ Sample.compare f [] = .ok names ∧ names.kind = .function ∧
      names.qualifiedName = "operator<=>" ∧ names.fullName = "operator<=>()" ∧
      (Program.mk [Sample.compare]).isNamed "operator" Sample.compare = .ok true) ∧
    ∃ f names, Sample.convert.function? = some f ∧ Sample.convert.templateArgs = [] ∧
      callableNames ⟨[Sample.worker, Sample.convert]⟩ Sample.convert f [] = .ok names ∧
      names.kind = .method ∧
      names.qualifiedName = "Worker::operator std::vector<int>" ∧
      names.fullName = "Worker::operator std::vector<int>()" ∧
      (Program.mk [Sample.worker, Sample.convert]).isNamed "Worker::operator std::vector"
        Sample.convert = .ok true := by
  constructor
  · exact ⟨_, _, rfl, rfl, rfl, rfl, by decide +kernel, by decide +kernel, by decide +kernel⟩
  · exact ⟨_, _, rfl, rfl, rfl, rfl, by decide +kernel, by decide +kernel, by decide +kernel⟩

end Naming

end Lifeline
