import Lifeline.Toml.Printer
import Mathlib.Data.List.Forall2
import Mathlib.Data.List.Infix

/-! Strings and keys are read back in whatever form they were written.

Every character is spelled on its own: as it stands, by an escape or, over several lines, by a line
end. A reader that takes one spelling at a time gives back the characters, as long as it does not
see the closing delimiter too early. -/

namespace Lifeline

namespace Text.Reader

variable {α β : Type} {cs xs rest : List Char} {p : Char → Bool}

@[simp] theorem bind_apply (r : Reader α) (next : α → Reader β) (cs : List Char) :
    (r >>= next) cs = (r cs).bind fun read => next read.1 read.2 := rfl

@[simp] theorem map_apply (r : Reader α) (f : α → β) (cs : List Char) :
    (f <$> r) cs = (r cs).map fun read => (f read.1, read.2) := by
  simp only [Functor.map, StateT.map]
  cases r cs <;> rfl

@[simp] theorem pure_apply (a : α) (cs : List Char) : (pure a : Reader α) cs = some (a, cs) := rfl

@[simp] theorem failure_apply (cs : List Char) : (failure : Reader α) cs = none := rfl

@[simp] theorem liftM_apply (o : Option α) (cs : List Char) :
    (liftM o : Reader α) cs = o.map (·, cs) := by
  cases o <;> rfl

@[simp] theorem peek?_apply (cs : List Char) : peek? cs = some (cs.head?, cs) := rfl

@[simp] theorem atEnd_apply (cs : List Char) : atEnd cs = some (cs.isEmpty, cs) := rfl

@[simp] theorem any_cons (c : Char) (cs : List Char) : any (c :: cs) = some (c, cs) := rfl

@[simp] theorem satisfy_cons (c : Char) (cs : List Char) :
    satisfy p (c :: cs) = if p c then some (c, cs) else none := rfl

@[simp] theorem char_cons (c d : Char) (cs : List Char) :
    char c (d :: cs) = if d = c then some ((), cs) else none := by
  by_cases h : d = c <;> simp [char, h]

theorem tryText_apply (t : String) (cs : List Char) :
    tryText t cs =
      if t.toList <+: cs then some (true, cs.drop t.toList.length) else some (false, cs) := by
  rw [String.length_toList]
  simp [tryText]

theorem takeWhile_append (hxs : xs.all p = true) (hrest : rest.head?.any p = false) :
    takeWhile p (xs ++ rest) = some (xs, rest) := by
  have hstop : rest.takeWhile p = [] ∧ rest.dropWhile p = rest := by
    cases rest with
    | nil => exact ⟨rfl, rfl⟩
    | cons c cs => simp_all
  have hall : ∀ x ∈ xs, p x = true := by simpa using hxs
  simp [takeWhile, List.takeWhile_append_of_pos hall, List.dropWhile_append_of_pos hall, hstop]

theorem skipWhile_of_head (hrest : rest.head?.any p = false) :
    skipWhile p rest = some ((), rest) := by
  cases rest with
  | nil => rfl
  | cons c cs => simp_all [skipWhile]

end Text.Reader

namespace Toml

open Text Text.Reader

variable {s : String} {c quote : Char} {t cs acc rest : List Char} {fuel : Nat}
  {escapes long : Bool}

@[simp] theorem newline_cons (cs : List Char) : newline ('\n' :: cs) = some ((), cs) := by
  simp [newline, tryText_apply]

theorem newline_of_ne (hfeed : c ≠ '\n') (hreturn : c ≠ '\r') : newline (c :: cs) = none := by
  simp [newline, text, tryText_apply, hfeed.symm, hreturn.symm]

theorem attempt_newline_of_ne (hfeed : c ≠ '\n') (hreturn : c ≠ '\r') :
    attempt newline (c :: cs) = some (none, c :: cs) := by
  simp [attempt, newline_of_ne hfeed hreturn]

/-! ### Spellings -/

structure Escape (c : Char) (t : List Char) : Prop where
  reads : ∀ rest, readEscape (t ++ rest) = some (c, rest)
  solid : ∀ rest, attempt (do blanks; newline) (t ++ rest) = some (none, t ++ rest)

theorem readHexDigits_append (rest : List Char) (ht : t.all isHexDigit = true) :
    readHexDigits t.length (t ++ rest) = some (t, rest) := by
  induction t with
  | nil => rfl
  | cons d t ih =>
    simp only [List.all_cons, Bool.and_eq_true] at ht
    simp [readHexDigits, ht.1, ih ht.2]

theorem hexUpper_spells : ∀ n < 0x80, n < 0x20 ∨ n = 0x7f → (hexUpper n).toList.length = 4 ∧
    (hexUpper n).toList.all isHexDigit ∧ number 16 (hexUpper n).toList = n := by
  decide +kernel

theorem escape_of_lead (hlead : c ≠ ' ' ∧ c ≠ '\t' ∧ c ≠ '\n' ∧ c ≠ '\r')
    (hreads : ∀ rest, readEscape (c :: t ++ rest) = some (d, rest)) : Escape d (c :: t) := by
  refine ⟨hreads, fun rest => ?_⟩
  have hblanks : blanks (c :: (t ++ rest)) = some ((), c :: (t ++ rest)) := by
    apply skipWhile_of_head
    simp [isBlank, hlead]
  simp [attempt, hblanks, newline_of_ne hlead.2.2.1 hlead.2.2.2]

theorem escape_unicode (hc : c.toNat < 0x20 ∨ c.toNat = 0x7f) :
    Escape c ('u' :: (hexUpper c.toNat).toList) := by
  apply escape_of_lead (by decide)
  intro rest
  obtain ⟨hlength, hdigits, hnumber⟩ := hexUpper_spells c.toNat (by omega) hc
  have hread := readHexDigits_append rest hdigits
  rw [hlength] at hread
  have hvalid : c.toNat.isValidChar := Or.inl (by omega)
  simp [readEscape, hread, hnumber, scalar?, hvalid]

/-- How a character may stand in a string: with escapes or without, on one line or `long`. -/
inductive Spells (escapes long : Bool) : Char → List Char → Prop
  | plain {c : Char} (hplain : isPlain c = true) (hslash : escapes = true → c ≠ '\\') :
    Spells escapes long c [c]
  | lineEnd (hlong : long = true) : Spells escapes long '\n' ['\n']
  | escape {c : Char} {t : List Char} (hescapes : escapes = true) (h : Escape c t) :
    Spells escapes long c ('\\' :: t)

theorem spells_escaped_quote : Spells true long '"' "\\\"".toList :=
  .escape rfl (escape_of_lead (by decide) fun _ => rfl)

theorem escapeChar_spells (long : Bool) (c : Char) :
    Spells true long c (escapeChar long c).toList := by
  have hescape : ∀ lead code : Char, (lead ≠ ' ' ∧ lead ≠ '\t' ∧ lead ≠ '\n' ∧ lead ≠ '\r') →
      (∀ rest, readEscape (lead :: rest) = some (code, rest)) →
      Spells true long code ['\\', lead] :=
    fun _ _ hlead hreads => .escape rfl (escape_of_lead hlead hreads)
  by_cases hback : c = '\x08'
  · subst hback
    cases long <;> exact hescape 'b' '\x08' (by decide) fun _ => rfl
  by_cases htab : c = '\t'
  · subst htab
    cases long <;> exact hescape 't' '\t' (by decide) fun _ => rfl
  by_cases hline : c = '\n'
  · subst hline
    cases long
    · exact hescape 'n' '\n' (by decide) fun _ => rfl
    · exact .lineEnd rfl
  by_cases hpage : c = '\x0c'
  · subst hpage
    cases long <;> exact hescape 'f' '\x0c' (by decide) fun _ => rfl
  by_cases hreturn : c = '\r'
  · subst hreturn
    cases long <;> exact hescape 'r' '\r' (by decide) fun _ => rfl
  by_cases hslash : c = '\\'
  · subst hslash
    cases long <;> exact hescape '\\' '\\' (by decide) fun _ => rfl
  by_cases hcontrol : c.toNat < 0x20 ∨ c.toNat = 0x7f
  · have hspells : Spells true long c ('\\' :: 'u' :: (hexUpper c.toNat).toList) :=
      .escape rfl (escape_unicode hcontrol)
    simpa [escapeChar, hback, htab, hline, hpage, hreturn, hslash, hcontrol] using hspells
  · have hplain : isPlain c = true := by
      rw [not_or, Nat.not_lt] at hcontrol
      simp [isPlain, hcontrol]
    have hspells : Spells true long c [c] := .plain hplain fun _ => hslash
    simpa [escapeChar, hback, htab, hline, hpage, hreturn, hslash, hcontrol] using hspells

theorem Spells.lead_ne (h : Spells escapes long c t) (hc : c ≠ quote) (hslash : quote ≠ '\\') :
    ∃ d u, t = d :: u ∧ d ≠ quote := by
  cases h with
  | plain => exact ⟨_, [], rfl, hc⟩
  | lineEnd => exact ⟨_, [], rfl, hc⟩
  | escape => exact ⟨_, _, rfl, hslash.symm⟩

theorem Spells.length_pos (h : Spells escapes long c t) : 0 < t.length := by
  cases h <;> simp

theorem escapeFrom_spells (quotes : Nat) (cs : List Char) :
    List.Forall₂ (Spells true long) cs ((escapeFrom long quotes cs).map String.toList) := by
  induction cs generalizing quotes with
  | nil => exact .nil
  | cons c cs ih =>
    simp only [escapeFrom]
    split_ifs with hc hraw
    · subst hc
      exact .cons (.plain rfl (by decide)) (ih _)
    · subst hc
      exact .cons spells_escaped_quote (ih _)
    · exact .cons (escapeChar_spells long c) (ih _)

/-! ### Strings on one line -/

theorem readBasic_step (h : Spells true false c t) (hquote : t.head? ≠ some '"') :
    readBasic (fuel + 1) acc (t ++ rest) = readBasic fuel (c :: acc) rest := by
  cases h with
  | plain hplain hslash =>
    have hc : c ≠ '"' := by simpa using hquote
    simp [readBasic, hc, hslash rfl, hplain]
  | lineEnd hlong => cases hlong
  | escape _ h => simp [readBasic, h.reads]

theorem readBasic_spelled {es : List (List Char)} (hspells : List.Forall₂ (Spells true false) cs es)
    (hquote : ∀ e ∈ es, e.head? ≠ some '"') (hfuel : es.flatten.length < fuel) :
    readBasic fuel acc (es.flatten ++ '"' :: rest) = some (acc.reverse ++ cs, rest) := by
  obtain ⟨fuel, rfl⟩ : ∃ n, fuel = n + 1 := ⟨fuel - 1, by omega⟩
  induction hspells generalizing fuel acc with
  | nil => simp [readBasic]
  | cons hc _ ih =>
    have hpos := hc.length_pos
    rw [List.flatten_cons, List.length_append] at hfuel
    obtain ⟨fuel, rfl⟩ : ∃ n, fuel = n + 1 := ⟨fuel - 1, by omega⟩
    rw [List.flatten_cons, List.append_assoc, readBasic_step hc (hquote _ (by simp)),
      ih (fun e he => hquote e (by simp [he])) fuel (by omega)]
    simp

theorem escapeFrom_lead_ne (quotes : Nat) (cs : List Char) :
    ∀ e ∈ (escapeFrom false quotes cs).map String.toList, e.head? ≠ some '"' := by
  induction cs generalizing quotes with
  | nil => simp [escapeFrom]
  | cons c cs ih =>
    simp only [escapeFrom, Bool.false_and, Bool.false_eq_true, if_false]
    split_ifs with hc
    · simpa using ih 0
    · obtain ⟨d, u, hlead, hd⟩ := (escapeChar_spells false c).lead_ne hc (by decide)
      simpa [hlead, hd] using ih 0

theorem toList_basic (s : String) :
    (basic s).toList =
      '"' :: (((escapeFrom false 0 s.toList).map String.toList).flatten ++ ['"']) := by
  simp [basic, List.flatMap_def]

theorem readBasic_escapeFrom (rest : List Char) (hfuel : (basic s).length ≤ fuel) :
    readBasic fuel [] (((escapeFrom false 0 s.toList).map String.toList).flatten ++ '"' :: rest) =
      some (s.toList, rest) := by
  rw [← String.length_toList, toList_basic] at hfuel
  simp only [List.length_cons, List.length_append, List.length_nil] at hfuel
  rw [readBasic_spelled (escapeFrom_spells 0 s.toList) (escapeFrom_lead_ne 0 s.toList) (by omega)]
  rfl

theorem readLiteral_append (h : ∀ c ∈ t, isPlain c = true ∧ c ≠ '\'') :
    readLiteral (t ++ '\'' :: rest) = some (t, rest) := by
  have htake :
      takeWhile (fun c => isPlain c && c != '\'') (t ++ '\'' :: rest) = some (t, '\'' :: rest) := by
    apply takeWhile_append
    · simpa using h
    · rfl
  simp [readLiteral, htake]

/-! ### Strings over several lines

The closing delimiter is three quotes. The quotes right before it are taken together with it, so a
string has to be read up to the run of quotes at its end, and no three quotes may come up before. -/

theorem readLong_step (h : Spells escapes true c t)
    (htriple : ¬ [quote, quote, quote] <+: t ++ rest) :
    readLong quote escapes (fuel + 1) acc (t ++ rest) =
      readLong quote escapes fuel (c :: acc) rest := by
  have hopen :
      tryText (String.ofList [quote, quote, quote]) (t ++ rest) = some (false, t ++ rest) := by
    rw [tryText_apply, if_neg (by simpa using htriple)]
  rw [readLong, bind_apply, hopen]
  cases h with
  | plain hplain hslash =>
    have hfeed : c ≠ '\n' := by rintro rfl; cases hplain
    have hreturn : c ≠ '\r' := by rintro rfl; cases hplain
    have hescape : ¬ (escapes = true ∧ c = '\\') := fun h => hslash h.1 h.2
    simp [attempt_newline_of_ne hfeed hreturn, hescape, hplain]
  | lineEnd => simp [attempt]
  | @escape c t hescapes h =>
    have hline : attempt newline ('\\' :: (t ++ rest)) = some (none, '\\' :: (t ++ rest)) :=
      attempt_newline_of_ne (by decide) (by decide)
    simp [hline, hescapes, h.solid, h.reads]

theorem readLong_close (more : Nat) (hmore : more ≤ 2) (hrest : rest.head? ≠ some quote) :
    readLong quote escapes (fuel + 1) acc
      (List.replicate more quote ++ quote :: quote :: quote :: rest) =
      some (acc.reverse ++ List.replicate more quote, rest) := by
  have hshift : List.replicate more quote ++ quote :: quote :: quote :: rest =
      quote :: quote :: quote :: (List.replicate more quote ++ rest) := by
    induction more with
    | zero => rfl
    | succ more ih => simp [List.replicate_succ, ih (by omega)]
  have htake : takeWhile (· == quote) (List.replicate more quote ++ rest) =
      some (List.replicate more quote, rest) := by
    apply takeWhile_append
    · simp
    · cases rest <;> simp_all
  simp [readLong, tryText_apply, hshift, htake, hmore]

theorem triple_cases (l : List Char) (q : Char) :
    (∃ k ≤ 2, l = List.replicate k q) ∨ [q, q, q] <+: l ∨ ∀ more, ¬ [q, q, q] <+: l ++ more := by
  rcases l with _ | ⟨a, _ | ⟨b, _ | ⟨c, l⟩⟩⟩
  · exact .inl ⟨0, by decide, rfl⟩
  · by_cases ha : q = a
    · exact .inl ⟨1, by decide, by simp [ha]⟩
    · simp [ha]
  · by_cases hab : q = a ∧ q = b
    · exact .inl ⟨2, by decide, by simp [← hab.1, ← hab.2, List.replicate]⟩
    · refine .inr (.inr fun more h => hab ?_)
      simp only [List.cons_append, List.cons_prefix_cons] at h
      exact ⟨h.1, h.2.1⟩
  · by_cases habc : q = a ∧ q = b ∧ q = c
    · exact .inr (.inl (by simp [← habc.1, ← habc.2.1, ← habc.2.2]))
    · refine .inr (.inr fun more h => habc ?_)
      simp only [List.cons_append, List.cons_prefix_cons] at h
      exact ⟨h.1, h.2.1, h.2.2.1⟩

theorem spells_run {es : List (List Char)} (hquote : quote = '"' ∨ quote = '\'')
    (hspells : List.Forall₂ (Spells escapes true) cs es) (hrun : ∀ x ∈ es.flatten, x = quote) :
    cs = es.flatten := by
  induction hspells with
  | nil => rfl
  | cons hc _ ih =>
    have htail := ih fun x hx => hrun x (List.mem_append_right _ hx)
    cases hc with
    | plain => simp [← htail]
    | lineEnd =>
      have hline : '\n' = quote := hrun _ (by simp)
      rcases hquote with rfl | rfl <;> simp at hline
    | escape =>
      have hslash : '\\' = quote := hrun _ (by simp)
      rcases hquote with rfl | rfl <;> simp at hslash

theorem readLong_spelled {es : List (List Char)} (acc : List Char)
    (hquote : quote = '"' ∨ quote = '\'') (hspells : List.Forall₂ (Spells escapes true) cs es)
    (htriple : ∀ es', es' <:+ es → ¬ [quote, quote, quote] <+: es'.flatten)
    (hrest : rest.head? ≠ some quote) (hfuel : es.flatten.length < fuel) :
    readLong quote escapes fuel acc (es.flatten ++ quote :: quote :: quote :: rest) =
      some (acc.reverse ++ cs, rest) := by
  obtain ⟨fuel, rfl⟩ : ∃ n, fuel = n + 1 := ⟨fuel - 1, by omega⟩
  induction hspells generalizing fuel acc with
  | nil => simpa using readLong_close 0 (by decide) hrest
  | @cons c e cs es hc hcs ih =>
    rcases triple_cases (e :: es).flatten quote with ⟨k, hk, hrun⟩ | hsome | hnone
    · have hchars := spells_run hquote (.cons hc hcs) fun x hx =>
        List.eq_of_mem_replicate (hrun ▸ hx)
      rw [hrun, readLong_close k hk hrest, hchars, hrun]
    · exact absurd hsome (htriple _ List.suffix_rfl)
    · have hpos := hc.length_pos
      rw [List.flatten_cons, List.length_append] at hfuel
      obtain ⟨fuel, rfl⟩ : ∃ n, fuel = n + 1 := ⟨fuel - 1, by omega⟩
      have hnone := hnone (quote :: quote :: quote :: rest)
      rw [List.flatten_cons, List.append_assoc] at hnone ⊢
      have htail : ∀ es', es' <:+ es → ¬ [quote, quote, quote] <+: es'.flatten :=
        fun es' hes => htriple es' (hes.trans (List.suffix_cons e es))
      rw [readLong_step hc hnone, ih (c :: acc) htail fuel (by omega)]
      simp

theorem escapeFrom_lead (quotes : Nat) (hquotes : quotes ≤ 2) (cs : List Char) :
    ¬ List.replicate (3 - quotes) '"' <+:
      ((escapeFrom true quotes cs).map String.toList).flatten := by
  induction cs generalizing quotes with
  | nil =>
    obtain ⟨n, hn⟩ : ∃ n, 3 - quotes = n + 1 := ⟨2 - quotes, by omega⟩
    simp [escapeFrom, hn, List.replicate_succ]
  | cons c cs ih =>
    obtain ⟨n, hn⟩ : ∃ n, 3 - quotes = n + 1 := ⟨2 - quotes, by omega⟩
    simp only [escapeFrom, Bool.true_and, decide_eq_true_eq]
    split_ifs with hc hraw
    · have hih := ih (quotes + 1) (by omega)
      rw [show 3 - (quotes + 1) = n by omega] at hih
      simpa [hn, List.replicate_succ] using hih
    · simp [hn, List.replicate_succ]
    · obtain ⟨d, u, hlead, hd⟩ := (escapeChar_spells true c).lead_ne hc (by decide)
      simp [hn, List.replicate_succ, hlead, hd.symm]

theorem escapeFrom_triple {quotes : Nat} (hquotes : quotes ≤ 2) (cs : List Char) :
    ∀ es, es <:+ (escapeFrom true quotes cs).map String.toList →
      ¬ ['"', '"', '"'] <+: es.flatten := by
  have hlead : ∀ (quotes : Nat) (cs : List Char), quotes ≤ 2 →
      ¬ ['"', '"', '"'] <+: ((escapeFrom true quotes cs).map String.toList).flatten := by
    intro quotes cs hquotes h
    have hpart : List.replicate (3 - quotes) '"' <+: List.replicate 3 '"' :=
      ⟨List.replicate quotes '"',
        by rw [List.replicate_append_replicate, Nat.sub_add_cancel (by omega)]⟩
    exact escapeFrom_lead quotes hquotes cs (hpart.trans h)
  induction cs generalizing quotes with
  | nil => intro es hes; simp_all [escapeFrom]
  | cons c cs ih =>
    intro es hes
    have hwhole := hlead quotes (c :: cs) hquotes
    simp only [escapeFrom, Bool.true_and, decide_eq_true_eq] at hes hwhole
    split_ifs at hes hwhole with hc hraw
    · rcases List.suffix_cons_iff.mp hes with rfl | hes
      · exact hwhole
      · exact ih (by omega) es hes
    · rcases List.suffix_cons_iff.mp hes with rfl | hes
      · exact hwhole
      · exact ih (by omega) es hes
    · rcases List.suffix_cons_iff.mp hes with rfl | hes
      · exact hwhole
      · exact ih (by omega) es hes

def countRun (c : Char) (seen : Nat × Nat) (d : Char) : Nat × Nat :=
  if d = c then (max seen.1 (seen.2 + 1), seen.2 + 1) else (seen.1, 0)

theorem longestRun_eq (c : Char) (cs : List Char) :
    longestRun c cs = (cs.foldl (countRun c) (0, 0)).1 := rfl

theorem le_foldl_countRun (c : Char) (cs : List Char) (seen : Nat × Nat) :
    seen.1 ≤ (cs.foldl (countRun c) seen).1 := by
  induction cs generalizing seen with
  | nil => exact Nat.le_refl _
  | cons d cs ih =>
    have hstep : seen.1 ≤ (countRun c seen d).1 := by
      unfold countRun
      split
      · exact Nat.le_max_left _ _
      · exact Nat.le_refl _
    exact hstep.trans (ih _)

theorem foldl_countRun_le (cs : List Char) {seen : Nat × Nat} (hseen : seen.2 ≤ seen.1) :
    (cs.foldl (countRun c) seen).2 ≤ (cs.foldl (countRun c) seen).1 := by
  induction cs generalizing seen with
  | nil => exact hseen
  | cons d cs ih =>
    apply ih
    unfold countRun
    split
    · exact Nat.le_max_right _ _
    · exact Nat.zero_le _

theorem foldl_countRun_replicate (run : Nat) (seen : Nat × Nat) :
    ((List.replicate run c).foldl (countRun c) seen).2 = seen.2 + run := by
  induction run generalizing seen with
  | zero => rfl
  | succ run ih =>
    have hnext : (countRun c seen c).2 = seen.2 + 1 := by simp [countRun]
    rw [List.replicate_succ, List.foldl_cons, ih, hnext]
    omega

theorem le_longestRun {run : Nat} (h : List.replicate run c <:+: cs) : run ≤ longestRun c cs := by
  obtain ⟨before, after, rfl⟩ := h
  have hend : (((before ++ List.replicate run c).foldl (countRun c) (0, 0))).2 ≤
      ((before ++ List.replicate run c).foldl (countRun c) (0, 0)).1 :=
      foldl_countRun_le _ (Nat.zero_le 0)
  rw [List.foldl_append, foldl_countRun_replicate] at hend
  have hafter :=
    le_foldl_countRun c after
      ((List.replicate run c).foldl (countRun c) (before.foldl (countRun c) (0, 0)))
  rw [longestRun_eq, List.foldl_append, List.foldl_append]
  omega

theorem not_mem_of_longestRun (h : longestRun c cs = 0) : c ∉ cs := by
  intro hc
  obtain ⟨before, after, rfl⟩ := List.append_of_mem hc
  have hrun : 1 ≤ longestRun c (before ++ c :: after) := le_longestRun ⟨before, after, by simp⟩
  omega

/-! ### Any string -/

def Closed (rest : List Char) : Prop :=
  rest.head? ≠ some '"' ∧ rest.head? ≠ some '\''

theorem not_isPrefix_of_head_ne (h : rest.head? ≠ some quote) : ¬ [quote] <+: rest := by
  rintro ⟨more, rfl⟩
  exact h rfl

theorem isPlain_of_not_isControl (hcontrol : isControl c = false) (hline : c ≠ '\n') :
    isPlain c = true := by
  simp only [isControl, isPlain, Bool.or_eq_false_iff, Bool.and_eq_false_iff,
    decide_eq_false_iff_not, Nat.not_lt, bne_eq_false_iff_eq, beq_eq_false_iff_ne] at *
  simp only [Bool.or_eq_true, beq_iff_eq, Bool.and_eq_true, decide_eq_true_eq, bne_iff_ne]
  tauto

theorem escapeFrom_opens (cs : List Char) (hrest : Closed rest) :
    ¬ ['"', '"'] <+: ((escapeFrom false 0 cs).map String.toList).flatten ++ '"' :: rest := by
  cases cs with
  | nil => simpa [escapeFrom] using not_isPrefix_of_head_ne hrest.1
  | cons c cs =>
    simp only [escapeFrom, Bool.false_and, Bool.false_eq_true, if_false]
    split_ifs with hc
    · simp
    · obtain ⟨d, u, hlead, hd⟩ := (escapeChar_spells false c).lead_ne hc (by decide)
      simp [hlead, hd.symm]

theorem readString_basic (hrest : Closed rest) (hfuel : (basic s).length ≤ fuel) :
    readString fuel ((basic s).toList ++ rest) = some (s, rest) := by
  have hopens := escapeFrom_opens s.toList hrest
  have hread := readBasic_escapeFrom rest hfuel
  simp [readString, toList_basic, tryText_apply, hopens, hread]

theorem readString_literal (hplain : ∀ c ∈ s.toList, isPlain c = true ∧ c ≠ '\'')
    (hrest : Closed rest) : readString fuel ((literal s).toList ++ rest) = some (s, rest) := by
  have hopens : ¬ ['\'', '\''] <+: s.toList ++ '\'' :: rest := by
    cases hs : s.toList with
    | nil => simpa using not_isPrefix_of_head_ne hrest.2
    | cons c cs =>
      have hc : c ≠ '\'' := (hplain c (by simp [hs])).2
      simp [hc.symm]
  simp [readString, literal, tryText_apply, hopens, readLiteral_append hplain]

theorem readLong_opened {es : List (List Char)} (fuel : Nat) (hquote : quote = '"' ∨ quote = '\'')
    (hspells : List.Forall₂ (Spells escapes true) cs es)
    (htriple : ∀ es', es' <:+ es → ¬ [quote, quote, quote] <+: es'.flatten)
    (hrest : rest.head? ≠ some quote) (hfuel : es.flatten.length < fuel) :
    ((attempt newline
      ((if '\n' ∈ cs then ['\n'] else []) ++ (es.flatten ++ quote :: quote :: quote :: rest))).bind
      fun opened => (readLong quote escapes fuel [] opened.2).map fun read =>
      (String.ofList read.1, read.2)) =
      some (String.ofList cs, rest) := by
  have hread := readLong_spelled [] hquote hspells htriple hrest hfuel
  split_ifs with hline
  · simp [attempt, hread]
  · have hstay : attempt newline (es.flatten ++ quote :: quote :: quote :: rest) =
        some (none, es.flatten ++ quote :: quote :: quote :: rest) := by
      cases hspells with
      | nil => rcases hquote with rfl | rfl <;> exact attempt_newline_of_ne (by decide) (by decide)
      | cons hc _ =>
        cases hc with
        | plain hplain =>
          exact attempt_newline_of_ne (by rintro rfl; cases hplain) (by rintro rfl; cases hplain)
        | lineEnd => simp at hline
        | escape => exact attempt_newline_of_ne (by decide) (by decide)
    simp [hstay, hread]

theorem readString_longBasic (hrest : Closed rest) (hfuel : (longBasic s).length ≤ fuel) :
    readString fuel ((longBasic s).toList ++ rest) = some (s, rest) := by
  have htext :
    (longBasic s).toList = '"' :: '"' :: '"' :: ((if '\n' ∈ s.toList then ['\n'] else []) ++
      (((escapeFrom true 0 s.toList).map String.toList).flatten ++ ['"', '"', '"'])) := by
    simp only [longBasic, opened, List.contains_iff_mem]
    split_ifs <;> simp [List.flatMap_def]
  rw [← String.length_toList, htext] at hfuel
  simp only [List.length_cons, List.length_append, List.length_nil] at hfuel
  have hread := readLong_opened fuel (.inl rfl) (escapeFrom_spells 0 s.toList)
    (escapeFrom_triple (by decide) s.toList) hrest.1 (by omega)
  simp [readString, htext, tryText_apply, hread]

theorem readString_longLiteral (hplain : ∀ c ∈ s.toList, c ≠ '\n' → isPlain c = true)
    (hruns : longestRun '\'' s.toList ≤ 2) (hrest : Closed rest)
    (hfuel : (longLiteral s).length ≤ fuel) :
    readString fuel ((longLiteral s).toList ++ rest) = some (s, rest) := by
  have htext :
    (longLiteral s).toList = '\'' :: '\'' :: '\'' :: ((if '\n' ∈ s.toList then ['\n'] else []) ++
      ((s.toList.map ([·])).flatten ++ ['\'', '\'', '\''])) := by
    simp only [longLiteral, opened, List.contains_iff_mem]
    split_ifs <;> simp [← List.flatMap_def]
  have hspells : List.Forall₂ (Spells false true) s.toList (s.toList.map ([·])) := by
    simp only [List.forall₂_map_right_iff, List.forall₂_same]
    intro c hc
    by_cases hline : c = '\n'
    · exact hline ▸ .lineEnd rfl
    · exact .plain (hplain c hc hline) (by simp)
  have htriple : ∀ es, es <:+ s.toList.map ([·]) → ¬ ['\'', '\'', '\''] <+: es.flatten := by
    intro es hes hthree
    obtain ⟨t, ht, rfl⟩ := List.suffix_map_iff.mp hes
    rw [← List.flatMap_def, List.flatMap_singleton'] at hthree
    have hrun : 3 ≤ longestRun '\'' s.toList := le_longestRun (hthree.isInfix.trans ht.isInfix)
    omega
  rw [← String.length_toList, htext] at hfuel
  simp only [List.length_cons, List.length_append, List.length_nil] at hfuel
  have hread := readLong_opened fuel (.inr rfl) hspells htriple hrest.2 (by omega)
  simp [readString, htext, tryText_apply, hread]

theorem readString_quote (hrest : Closed rest) (hfuel : (Toml.quote s).length ≤ fuel) :
    readString fuel ((Toml.quote s).toList ++ rest) = some (s, rest) := by
  have hplain (hcontrol : s.toList.any isControl = false) :
      ∀ c ∈ s.toList, c ≠ '\n' → isPlain c = true := by
    intro c hc
    exact isPlain_of_not_isControl (by simpa using List.any_eq_false.mp hcontrol c hc)
  unfold Toml.quote at hfuel ⊢
  simp only [Bool.and_eq_true, Bool.not_eq_true', decide_eq_true_eq] at hfuel ⊢
  split_ifs at hfuel ⊢ with hbasic hliteral hlong hlongLiteral hline
  · exact readString_basic hrest hfuel
  · apply readString_literal _ hrest
    intro c hc
    have hnewline : c ≠ '\n' := by rintro rfl; simp_all
    have hsingle : c ≠ '\'' := by rintro rfl; exact not_mem_of_longestRun hliteral.1.2 hc
    exact ⟨hplain hliteral.1.1 c hc hnewline, hsingle⟩
  · exact readString_longBasic hrest hfuel
  · exact readString_longLiteral (hplain hlongLiteral.1) hlongLiteral.2 hrest hfuel
  · exact readString_longBasic hrest hfuel
  · exact readString_basic hrest hfuel

/-! ### Keys -/

theorem readSimpleKey_bare {d : Char} {u : List Char} (hbare : (d :: u).all isBare = true)
    (hrest : rest.head?.any isBare = false) :
    readSimpleKey fuel (d :: u ++ rest) = some (String.ofList (d :: u), rest) := by
  have hdouble : d ≠ '"' := by rintro rfl; simp [show isBare '"' = false by decide] at hbare
  have hsingle : d ≠ '\'' := by rintro rfl; simp [show isBare '\'' = false by decide] at hbare
  have htake := takeWhile_append hbare hrest
  simp only [List.cons_append] at htake
  simp [readSimpleKey, takeWhile1, htake, hdouble, hsingle]

theorem readSimpleKey_literal {key : Key} (hplain : ∀ c ∈ key.toList, isPlain c = true ∧ c ≠ '\'') :
    readSimpleKey fuel ((literal key).toList ++ rest) = some (key, rest) := by
  simp [readSimpleKey, literal, readLiteral_append hplain]

theorem readSimpleKey_basic {key : Key} (hfuel : (basic key).length ≤ fuel) :
    readSimpleKey fuel ((basic key).toList ++ rest) = some (key, rest) := by
  simp [readSimpleKey, toList_basic, readBasic_escapeFrom rest hfuel]

theorem readSimpleKey_printKey {key : Key} (hrest : rest.head?.any isBare = false)
    (hfuel : (printKey key).length ≤ fuel) :
    readSimpleKey fuel ((printKey key).toList ++ rest) = some (key, rest) := by
  unfold printKey at hfuel ⊢
  simp only [Bool.and_eq_true, Bool.not_eq_true'] at hfuel ⊢
  split_ifs at hfuel ⊢ with hbare hbasic hliteral
  · cases hkey : key.toList with
    | nil => simp [hkey] at hbare
    | cons d u =>
      rw [readSimpleKey_bare (hkey ▸ hbare.2) hrest, ← hkey, String.ofList_toList]
  · exact readSimpleKey_basic hfuel
  · apply readSimpleKey_literal
    intro c hc
    have hcontrol : isControl c = false ∧ c ≠ '\n' := by
      simpa using List.any_eq_false.mp hliteral.1 c hc
    have hsingle : c ≠ '\'' := by rintro rfl; simp_all
    exact ⟨isPlain_of_not_isControl hcontrol.1 hcontrol.2, hsingle⟩
  · exact readSimpleKey_basic hfuel

def isKeyLead (c : Char) : Bool :=
  isBare c || c == '"' || c == '\''

theorem printKey_lead (key : Key) : ∃ c u, (printKey key).toList = c :: u ∧ isKeyLead c = true := by
  unfold printKey
  simp only [Bool.and_eq_true, Bool.not_eq_true']
  split_ifs with hbare hbasic hliteral
  · cases hkey : key.toList with
    | nil => simp [hkey] at hbare
    | cons d u =>
      simp only [hkey, List.all_cons, Bool.and_eq_true] at hbare
      exact ⟨d, u, rfl, by simp [isKeyLead, hbare.2.1]⟩
  · exact ⟨'"', _, toList_basic key, by decide⟩
  · exact ⟨'\'', key.toList ++ ['\''], by simp [literal], by decide⟩
  · exact ⟨'"', _, toList_basic key, by decide⟩

end Toml

end Lifeline
