import Lifeline.Proofs.Toml.Strings
import Mathlib.Tactic.IntervalCases

namespace Lifeline.Toml

open Text Text.Reader

variable {c d sep : Char} {t u cs ds rest : List Char} {s : String} {n fuel room : Nat} {j : Json}

def Delimited (rest : List Char) : Prop :=
  ∃ c u, rest = c :: u ∧ (c = '\n' ∨ c = ',' ∨ c = ']')

theorem Delimited.closed (h : Delimited rest) : Closed rest := by
  obtain ⟨c, u, rfl, rfl | rfl | rfl⟩ := h <;> simp [Closed]

theorem Delimited.head (h : Delimited rest) {p : Char → Bool}
    (hp : p '\n' = false ∧ p ',' = false ∧ p ']' = false) : rest.head?.any p = false := by
  obtain ⟨c, u, rfl, rfl | rfl | rfl⟩ := h <;> simp [hp]

theorem ne_of_class {p : Char → Bool} (hd : p d = true) (hc : p c = false) : d ≠ c := by
  rintro rfl
  simp [hd] at hc

theorem readFixed_digits {count : Nat} (hrest : rest.head?.any isDigit = false)
    (h : readFixed count (ds ++ rest) = some (t, u)) : ∃ more, u = ds.drop more ++ rest := by
  induction count generalizing ds t with
  | zero =>
    simp only [readFixed, pure_apply, Option.some.injEq, Prod.mk.injEq] at h
    exact ⟨0, h.2.symm⟩
  | succ count ih =>
    cases ds with
    | nil =>
      cases rest with
      | nil => simp [readFixed, satisfy] at h
      | cons c rest => simp_all [readFixed]
    | cons d ds =>
      simp only [readFixed, List.cons_append, bind_apply, satisfy_cons, pure_apply,
        Option.bind_eq_some_iff, Option.ite_none_right_eq_some, Option.some.injEq] at h
      obtain ⟨_, ⟨-, rfl⟩, ⟨v, w⟩, hv, ⟨⟩⟩ := h
      obtain ⟨more, rfl⟩ := ih hv
      exact ⟨more + 1, rfl⟩

theorem char_digits (hds : ∀ d ∈ ds, isDigit d = true) (hsep : isDigit sep = false)
    (hrest : rest.head? ≠ some sep) : char sep (ds ++ rest) = none := by
  cases ds with
  | nil =>
    cases rest with
    | nil => rfl
    | cons c rest => simp_all
  | cons d ds => simp [ne_of_class (hds d (by simp)) hsep]

theorem readWithin_digits {count low high : Nat} (hrest : rest.head?.any isDigit = false)
    (h : readWithin count low high (ds ++ rest) = some (t, u)) :
    ∃ more, u = ds.drop more ++ rest := by
  simp only [readWithin, bind_apply, Option.bind_eq_some_iff] at h
  obtain ⟨⟨v, w⟩, hfixed, hwithin⟩ := h
  obtain ⟨more, rfl⟩ := readFixed_digits hrest hfixed
  refine ⟨more, ?_⟩
  split at hwithin
  · cases hwithin
    rfl
  · cases hwithin

theorem readMoment_digits (hds : ∀ d ∈ ds, isDigit d = true) (hrest : Delimited rest) :
    readMoment (ds ++ rest) = none := by
  have hstop : rest.head?.any isDigit = false := hrest.head (by decide)
  have hdash : rest.head? ≠ some '-' := by obtain ⟨c, u, rfl, rfl | rfl | rfl⟩ := hrest <;> simp
  have hcolon : rest.head? ≠ some ':' := by obtain ⟨c, u, rfl, rfl | rfl | rfl⟩ := hrest <;> simp
  have hsep (more : Nat) {mark : Char} (hmark : isDigit mark = false)
      (hnext : rest.head? ≠ some mark) :
      char mark (ds.drop more ++ rest) = none :=
    char_digits (fun d hd => hds d (List.mem_of_mem_drop hd)) hmark hnext
  have hdate : readDate (ds ++ rest) = none := by
    rw [readDate, bind_apply]
    cases h : readFixed 4 (ds ++ rest) with
    | none => rfl
    | some read =>
      obtain ⟨more, hmore⟩ := readFixed_digits hstop h
      rw [Option.bind_some, bind_apply, hmore, hsep more (by decide) hdash]
      rfl
  have htime : readTime (ds ++ rest) = none := by
    rw [readTime, bind_apply]
    cases h : readWithin 2 0 23 (ds ++ rest) with
    | none => rfl
    | some read =>
      obtain ⟨more, hmore⟩ := readWithin_digits hstop h
      rw [Option.bind_some, bind_apply, hmore, hsep more (by decide) hcolon]
      rfl
  simp [readMoment, attempt, hdate, htime]

theorem digit?_of_isDigit (hd : isDigit d = true) : digit? 10 d = some (d.toNat - 48) := by
  have hlow : d.toNat - 48 < 10 := by
    simp only [isDigit, Bool.and_eq_true, decide_eq_true_eq, Char.le_def,
      UInt32.le_iff_toNat_le] at hd
    have hnine : d.toNat ≤ 57 := hd.2
    omega
  simp only [isDigit] at hd
  simp [digit?, hd, Option.filter, hlow]

theorem number_eq_ofDigitChars (hds : ∀ d ∈ ds, isDigit d = true) :
    number 10 ds = Nat.ofDigitChars 10 ds 0 := by
  have hfold : ∀ start, ds.foldl (fun n c => n * 10 + (digit? 10 c).getD 0) start =
      Nat.ofDigitChars 10 ds start := by
    induction ds with
    | nil => intro start; rfl
    | cons d ds ih =>
      intro start
      rw [List.foldl_cons, Nat.ofDigitChars_cons, ih fun d hd => hds d (by simp [hd]),
        digit?_of_isDigit (hds d (by simp))]
      simp [Nat.mul_comm]
  exact hfold 0

theorem isDigit_of_mem_toDigits (hd : d ∈ Nat.toDigits 10 n) : isDigit d = true := by
  have h := Nat.isDigit_of_mem_toDigits (by decide) (by decide) hd
  simpa [Char.isDigit, isDigit, Char.le_def, and_comm] using h

theorem toDigits_lead (n : Nat) :
    Nat.toDigits 10 n = ['0'] ∨ (Nat.toDigits 10 n).head? ≠ some '0' := by
  by_cases hn : n = 0
  · exact .inl (hn ▸ Nat.toDigits_zero 10)
  · right
    induction n using Nat.strongRecOn with
    | _ n ih =>
      by_cases hsmall : n < 10
      · have hdigit : ∀ k < 10, k ≠ 0 → Nat.digitChar k ≠ '0' := by decide
        simpa [Nat.toDigits_of_lt_base hsmall] using hdigit n hsmall hn
      · rw [Nat.toDigits_of_base_le (by decide) (by omega),
          List.head?_append_of_ne_nil _ Nat.toDigits_ne_nil]
        exact ih (n / 10) (by omega) (by omega)

section Digits

variable (hds : ∀ d ∈ ds, isDigit d = true) (hne : ds ≠ []) (hrest : Delimited rest)
include hds hne

theorem tryText_digits (c : Char) (t : List Char) (hc : isDigit c = false) :
    tryText (String.ofList (c :: t)) (ds ++ rest) = some (false, ds ++ rest) := by
  cases ds with
  | nil => exact absurd rfl hne
  | cons d ds =>
    have hd := ne_of_class (hds d (by simp)) hc
    rw [tryText_apply, String.toList_ofList, if_neg (by simp [hd.symm])]

theorem readSign_digits : readSign (ds ++ rest) = some ([], ds ++ rest) := by
  have hminus : tryText "-" (ds ++ rest) = _ := tryText_digits hds hne '-' [] (by decide)
  have hplus : tryText "+" (ds ++ rest) = _ := tryText_digits hds hne '+' [] (by decide)
  simp [readSign, hminus, hplus]

omit hds in
theorem zero_not_isPrefix (hlead : ds.head? ≠ some '0') : ¬ ['0'] <+: ds ++ rest := by
  apply not_isPrefix_of_head_ne
  rwa [List.head?_append_of_ne_nil _ hne]

include hrest

theorem readWhole_digits (hlead : ds = ['0'] ∨ ds.head? ≠ some '0') (hfuel : 0 < fuel) :
    readWhole fuel (ds ++ rest) = some (ds, rest) := by
  rcases hlead with rfl | hlead
  · simp [readWhole, tryText_apply]
  · obtain ⟨fuel, rfl⟩ : ∃ n, fuel = n + 1 := ⟨fuel - 1, by omega⟩
    have hzero : ¬ ['0'] <+: ds ++ rest := zero_not_isPrefix hne hlead
    have htake : takeWhile isDigit (ds ++ rest) = some (ds, rest) :=
      takeWhile_append (by simpa using hds) (hrest.head (by decide))
    have hscore : ¬ ['_'] <+: rest := by
      obtain ⟨c, u, rfl, rfl | rfl | rfl⟩ := hrest <;> simp
    simp [readWhole, readDigits, takeWhile1, tryText_apply, hzero, htake, hne, hscore]

theorem readFloat_digits (hlead : ds = ['0'] ∨ ds.head? ≠ some '0') (hfuel : 0 < fuel) :
    readFloat fuel (ds ++ rest) = none := by
  have hinf : tryText "inf" (ds ++ rest) = _ :=
    tryText_digits hds hne 'i' ['n', 'f'] (by decide)
  have hnan : tryText "nan" (ds ++ rest) = _ :=
    tryText_digits hds hne 'n' ['a', 'n'] (by decide)
  have hfraction : readFraction fuel rest = some ([], rest) := by
    obtain ⟨c, u, rfl, rfl | rfl | rfl⟩ := hrest <;> simp [readFraction, tryText_apply]
  have hexponent : readExponent fuel rest = some ([], rest) := by
    obtain ⟨c, u, rfl, rfl | rfl | rfl⟩ := hrest <;> simp [readExponent]
  simp [readFloat, readSign_digits hds hne, hinf, hnan,
    readWhole_digits hds hne hrest hlead hfuel, hfraction, hexponent]

theorem readInteger_digits (hlead : ds = ['0'] ∨ ds.head? ≠ some '0') (hfuel : 0 < fuel)
    (hmax : number 10 ds ≤ maxInteger) :
    readInteger fuel (ds ++ rest) = some (.num (number 10 ds), rest) := by
  have hbase (mark : Char) (hmark : mark ≠ '\n' ∧ mark ≠ ',' ∧ mark ≠ ']') :
      ¬ ['0', mark] <+: ds ++ rest := by
    rcases hlead with rfl | hlead
    · have hnext : ¬ [mark] <+: rest := by
        apply not_isPrefix_of_head_ne
        obtain ⟨c, u, rfl, rfl | rfl | rfl⟩ := hrest <;> simp [hmark, eq_comm]
      simpa using hnext
    · exact fun h => zero_not_isPrefix hne hlead ((List.prefix_append ['0'] [mark]).trans h)
  simp [readInteger, tryText_apply, hbase 'x' (by decide), hbase 'o' (by decide),
    hbase 'b' (by decide),
    readSign_digits hds hne, readWhole_digits hds hne hrest hlead hfuel, hmax]

end Digits

theorem readNumber_repr (hrest : Delimited rest) (hn : n ≤ maxInteger) (hfuel : 0 < fuel) :
    readNumber fuel ((Nat.repr n).toList ++ rest) = some (.num n, rest) := by
  have hds : ∀ d ∈ Nat.toDigits 10 n, isDigit d = true := fun d hd => isDigit_of_mem_toDigits hd
  have hvalue : number 10 (Nat.toDigits 10 n) = n := by
    rw [number_eq_ofDigitChars hds, Nat.ofDigitChars_ten_toDigits]
  have hmoment := readMoment_digits hds hrest
  have hfloat := readFloat_digits hds Nat.toDigits_ne_nil hrest (toDigits_lead n) hfuel
  have hinteger := readInteger_digits hds Nat.toDigits_ne_nil hrest (toDigits_lead n) hfuel
    (by rwa [hvalue])
  rw [hvalue] at hinteger
  simp [readNumber, Nat.toList_repr, attempt, hmoment, hfloat, hinteger]

def isSolid (c : Char) : Bool :=
  !isBlank c && c != '#' && c != '\n' && c != '\r'

theorem blanks_of_solid (cs : List Char) (hc : isSolid c = true) :
    blanks (c :: cs) = some ((), c :: cs) := by
  apply skipWhile_of_head
  simp_all [isSolid]

theorem skipVoid_solid (fuel : Nat) (cs : List Char) (hc : isSolid c = true) :
    skipVoid (fuel + 1) (c :: cs) = some ((), c :: cs) := by
  have hblanks := blanks_of_solid cs hc
  simp only [isSolid, Bool.and_eq_true, bne_iff_ne] at hc
  simp [skipVoid, hblanks, comment, tryText_apply, hc.1.1.2.symm, attempt_newline_of_ne hc.1.2 hc.2]

theorem skipVoid_newline (cs : List Char) :
    skipVoid (fuel + 1) ('\n' :: cs) = skipVoid fuel cs := by
  have hblanks : blanks ('\n' :: cs) = some ((), '\n' :: cs) := skipWhile_of_head rfl
  simp [skipVoid, hblanks, comment, tryText_apply, attempt]

theorem skipVoid_indented (hc : isSolid c = true) :
    skipVoid (fuel + 2) ('\n' :: ' ' :: ' ' :: ' ' :: ' ' :: c :: cs) = some ((), c :: cs) := by
  have hblanks : blanks (' ' :: ' ' :: ' ' :: ' ' :: c :: cs) = blanks (c :: cs) := by
    simp [blanks, skipWhile, isBlank]
  rw [skipVoid_newline, ← skipVoid_solid fuel cs hc]
  simp [skipVoid, hblanks]

/-- The values that a document holds as they are, nested no deeper than there is room. -/
inductive Holds : Nat → Json → Prop
  | bool {room : Nat} (b : Bool) : Holds room (.bool b)
  | num {room n : Nat} (hn : n ≤ maxInteger) : Holds room (.num n)
  | str {room : Nat} (s : String) : Holds room (.str s)
  | arr {room : Nat} {items : List Json} (hitems : ∀ j ∈ items, Holds room j) :
    Holds (room + 1) (.arr items)

structure Reads (room : Nat) (j : Json) (t : String) : Prop where
  lead : ∃ c u, t.toList = c :: u ∧ isSolid c = true ∧ c ≠ ']'
  reads : ∀ {fuel : Nat} {rest : List Char}, Delimited rest → t.length < fuel →
    readValue fuel room (t.toList ++ rest) = some (j, rest)

theorem reads_bool (b : Bool) : Reads room (.bool b) (if b then "true" else "false") := by
  constructor
  · cases b
    · exact ⟨'f', _, rfl, by decide⟩
    · exact ⟨'t', _, rfl, by decide⟩
  · intro fuel rest _ hfuel
    obtain ⟨fuel, rfl⟩ : ∃ n, fuel = n + 1 := ⟨fuel - 1, by omega⟩
    cases b <;> simp [readValue, text, tryText_apply]

theorem isSolid_of_isDigit (hd : isDigit d = true) : isSolid d = true := by
  have hne : d ≠ ' ' ∧ d ≠ '\t' ∧ d ≠ '#' ∧ d ≠ '\n' ∧ d ≠ '\r' := by
    refine ⟨?_, ?_, ?_, ?_, ?_⟩ <;> exact ne_of_class hd (by decide)
  simp [isSolid, isBlank, hne]

theorem readValue_digit (hd : isDigit d = true) :
    readValue (fuel + 1) room (d :: cs) = readNumber fuel (d :: cs) := by
  have hne : d ≠ '"' ∧ d ≠ '\'' ∧ d ≠ 't' ∧ d ≠ 'f' ∧ d ≠ '[' ∧ d ≠ '\x7b' := by
    refine ⟨?_, ?_, ?_, ?_, ?_, ?_⟩ <;> exact ne_of_class hd (by decide)
  simp [readValue, hne]

theorem reads_num (hn : n ≤ maxInteger) : Reads room (.num n) (Nat.repr n) := by
  obtain ⟨d, u, htext⟩ := List.exists_cons_of_ne_nil (@Nat.toDigits_ne_nil n 10)
  have hd : isDigit d = true := @isDigit_of_mem_toDigits d n (by simp [htext])
  constructor
  · exact ⟨d, u, by rw [Nat.toList_repr, htext], isSolid_of_isDigit hd, ne_of_class hd (by decide)⟩
  · intro fuel rest hrest hfuel
    obtain ⟨fuel, rfl⟩ : ∃ n, fuel = n + 1 := ⟨fuel - 1, by omega⟩
    have hpos : 0 < fuel := by
      rw [← String.length_toList, Nat.toList_repr, htext] at hfuel
      simp at hfuel
      omega
    have hread := readNumber_repr hrest hn hpos
    rw [Nat.toList_repr, htext] at hread ⊢
    rw [List.cons_append, readValue_digit hd, ← List.cons_append, hread]

theorem quote_lead (s : String) : ∃ c u, (quote s).toList = c :: u ∧ (c = '"' ∨ c = '\'') := by
  unfold quote
  dsimp only
  split_ifs
  · exact ⟨'"', _, toList_basic s, .inl rfl⟩
  · exact ⟨'\'', s.toList ++ ['\''], by simp [literal], .inr rfl⟩
  · exact ⟨'"', _, by simp [longBasic, opened]; rfl, .inl rfl⟩
  · exact ⟨'\'', _, by simp [longLiteral, opened]; rfl, .inr rfl⟩
  · exact ⟨'"', _, by simp [longBasic, opened]; rfl, .inl rfl⟩
  · exact ⟨'"', _, toList_basic s, .inl rfl⟩

theorem reads_str (s : String) : Reads room (.str s) (quote s) := by
  obtain ⟨c, u, htext, hc⟩ := quote_lead s
  constructor
  · exact ⟨c, u, htext, by rcases hc with rfl | rfl <;> decide⟩
  · intro fuel rest hrest hfuel
    obtain ⟨fuel, rfl⟩ : ∃ n, fuel = n + 1 := ⟨fuel - 1, by omega⟩
    have hread := readString_quote hrest.closed (Nat.lt_succ_iff.mp hfuel)
    rw [htext] at hread ⊢
    rcases hc with rfl | rfl <;> simp_all [readValue]

def itemLine (t : String) : List Char :=
  '\n' :: ' ' :: ' ' :: ' ' :: ' ' :: (t.toList ++ [','])

theorem readItems_itemLines {depth : Nat} {items : List Json} {texts : List String} (fuel : Nat)
    (rest : List Char) (acc : List Json) (hitems : List.Forall₂ (Reads room) items texts)
    (hdepth : ∀ t ∈ texts, t.length < depth) (hfuel : (texts.flatMap itemLine).length + 2 < fuel) :
    readItems (readValue depth room) fuel acc (texts.flatMap itemLine ++ '\n' :: ']' :: rest) =
      some (acc.reverse ++ items, rest) := by
  obtain ⟨fuel, rfl⟩ : ∃ n, fuel = n + 3 := ⟨fuel - 3, by omega⟩
  induction hitems generalizing fuel acc with
  | nil =>
    have hvoid : skipVoid (fuel + 2) ('\n' :: ']' :: rest) = some ((), ']' :: rest) := by
      rw [skipVoid_newline, skipVoid_solid fuel rest (by decide)]
    simp [readItems, hvoid, tryText_apply]
  | @cons j t items texts hj _ ih =>
    obtain ⟨c, u, htext, hc, hbracket⟩ := hj.lead
    simp only [List.flatMap_cons, List.length_append, itemLine, List.length_cons] at hfuel
    obtain ⟨fuel, rfl⟩ : ∃ n, fuel = n + 1 := ⟨fuel - 1, by omega⟩
    have hvalue := @hj.reads depth (',' :: (texts.flatMap itemLine ++ '\n' :: ']' :: rest))
      ⟨',', _, rfl, .inr (.inl rfl)⟩ (hdepth t (by simp))
    have hcomma (cs : List Char) : skipVoid (fuel + 3) (',' :: cs) = some ((), ',' :: cs) :=
      skipVoid_solid (fuel + 2) cs (by decide)
    have htail := ih (j :: acc) (fun t ht => hdepth t (by simp [ht])) fuel (by omega)
    simp only [htext, List.cons_append] at hvalue
    rw [readItems]
    simp only [List.flatMap_cons, itemLine, htext, List.cons_append, List.append_assoc,
      bind_apply, skipVoid_indented hc]
    simp [tryText_apply, hbracket.symm, hvalue, hcomma, htail]

theorem length_lt_of_mem_itemLines {texts : List String} {t : String} (ht : t ∈ texts) :
    t.length < (texts.flatMap itemLine).length := by
  obtain ⟨before, after, rfl⟩ := List.append_of_mem ht
  simp only [List.flatMap_append, List.flatMap_cons, List.length_append, itemLine, List.length_cons,
    String.length_toList]
  omega

theorem readValue_open (cs : List Char) : readValue (fuel + 1) (room + 1) ('[' :: cs) =
    (readItems (readValue fuel room) fuel [] cs).map fun read => (.arr read.1, read.2) := by
  simp [readValue]

theorem reads_empty : Reads (room + 1) (.arr []) "[]" := by
  refine ⟨⟨'[', [']'], rfl, by decide⟩, fun {fuel rest} _ hfuel => ?_⟩
  obtain ⟨fuel, rfl⟩ : ∃ n, fuel = n + 3 := ⟨fuel - 3, by have : "[]".length = 2 := rfl; omega⟩
  have hvoid := @skipVoid_solid ']' fuel rest (by decide)
  simp [readValue_open, readItems, hvoid, tryText_apply]

theorem reads_single {t : String} (hj : Reads room j t) :
    Reads (room + 1) (.arr [j]) ("[" ++ t ++ "]") := by
  refine ⟨⟨'[', t.toList ++ [']'], by simp, by decide⟩, fun {fuel rest} _ hfuel => ?_⟩
  obtain ⟨c, u, htext, hc, hbracket⟩ := hj.lead
  have hlength : ("[" ++ t ++ "]").length = t.length + 2 := by
    rw [← String.length_toList]
    simp [String.length_toList]
  obtain ⟨fuel, rfl⟩ : ∃ n, fuel = n + 3 := ⟨fuel - 3, by omega⟩
  have hvalue := @hj.reads (fuel + 2) (']' :: rest) ⟨']', _, rfl, .inr (.inr rfl)⟩ (by omega)
  have hvoid := @skipVoid_solid ']' fuel rest (by decide)
  have hlead := skipVoid_solid fuel (u ++ ']' :: rest) hc
  simp only [htext, List.cons_append] at hvalue
  simp [htext, readValue_open, readItems, hlead, hvalue, hvoid, hbracket.symm, tryText_apply]

theorem reads_lines {items : List Json} {texts : List String}
    (hitems : List.Forall₂ (Reads room) items texts) :
    Reads (room + 1) (.arr items)
      (String.ofList ('[' :: (texts.flatMap itemLine ++ ['\n', ']']))) := by
  refine ⟨⟨'[', _, String.toList_ofList, by decide⟩, fun {fuel rest} _ hfuel => ?_⟩
  rw [← String.length_toList, String.toList_ofList] at hfuel
  simp only [List.length_cons, List.length_append, List.length_nil] at hfuel
  obtain ⟨fuel, rfl⟩ : ∃ n, fuel = n + 1 := ⟨fuel - 1, by omega⟩
  have hdepth : ∀ t ∈ texts, t.length < fuel := fun t ht => by
    have := length_lt_of_mem_itemLines ht
    omega
  have hread := readItems_itemLines fuel rest [] hitems hdepth (by omega)
  rw [String.toList_ofList, List.cons_append, readValue_open, List.append_assoc]
  simp [hread]

theorem reads_arr {items : List Json} {texts : List String}
    (hitems : List.Forall₂ (Reads room) items texts) :
    Reads (room + 1) (.arr items) (printItems texts) := by
  cases hitems with
  | nil => exact reads_empty
  | @cons j t items texts hj hitems =>
    cases hitems with
    | nil => exact reads_single hj
    | @cons k v items texts hk hitems =>
      have htext : printItems (t :: v :: texts) =
          String.ofList ('[' :: ((t :: v :: texts).flatMap itemLine ++ ['\n', ']'])) := by
        apply String.toList_injective
        simp [printItems, itemLine, List.flatMap_map]
        rfl
      rw [htext]
      exact reads_lines (.cons hj (.cons hk hitems))

theorem Holds.printed (h : Holds room j) : ∃ t, printValue? j = some t ∧ Reads room j t := by
  induction h with
  | bool b => exact ⟨_, rfl, reads_bool b⟩
  | num hn => exact ⟨_, by simp [printValue?, hn], reads_num hn⟩
  | str s => exact ⟨_, rfl, reads_str s⟩
  | @arr room items hitems ih =>
    have hprinted :
        ∃ texts, printValues? items = some texts ∧ List.Forall₂ (Reads room) items texts := by
      clear hitems
      induction items with
      | nil => exact ⟨[], rfl, .nil⟩
      | cons j items ihitems =>
        obtain ⟨t, ht, hreads⟩ := ih j (by simp)
        obtain ⟨texts, htexts, hitems⟩ := ihitems fun j hj => ih j (by simp [hj])
        exact ⟨t :: texts, by simp [printValues?, ht, htexts], .cons hreads hitems⟩
    obtain ⟨texts, htexts, hitems⟩ := hprinted
    exact ⟨printItems texts, by simp [printValue?, htexts], reads_arr hitems⟩

theorem isSolid_of_isKeyLead (hc : isKeyLead c = true) : isSolid c = true := by
  have hne : c ≠ ' ' ∧ c ≠ '\t' ∧ c ≠ '#' ∧ c ≠ '\n' ∧ c ≠ '\r' := by
    refine ⟨?_, ?_, ?_, ?_, ?_⟩ <;> exact ne_of_class hc (by decide)
  simp [isSolid, isBlank, hne]

theorem printPath_lead (path : List Key) (key : Key) :
    ∃ c u, (printPath (path ++ [key])).toList = c :: u ∧ isKeyLead c = true := by
  cases path with
  | nil => simpa [printPath] using printKey_lead key
  | cons k path =>
    obtain ⟨c, u, hkey, hc⟩ := printKey_lead k
    exact ⟨c, _, by simp [printPath, String.intercalate_cons_of_ne_nil, hkey]; rfl, hc⟩

theorem readKeys_printPath {path : List Key} {key : Key} {after : List Char}
    (hroom : path.length < room) (hfuel : (printPath (path ++ [key])).length ≤ fuel)
    (hrest : rest.head?.any isBare = false) (hblanks : blanks rest = some ((), after))
    (hdot : ¬ ['.'] <+: after) :
    readKeys fuel room ((printPath (path ++ [key])).toList ++ rest) =
      some ((path, key), after) := by
  obtain ⟨room, rfl⟩ : ∃ n, room = n + 1 := ⟨room - 1, by omega⟩
  induction path generalizing room with
  | nil =>
    have hkey : printPath ([] ++ [key]) = printKey key := by simp [printPath]
    rw [hkey] at hfuel ⊢
    simp [readKeys, readSimpleKey_printKey hrest hfuel, hblanks, tryText_apply, hdot]
  | cons k path ih =>
    have hpath :
        printPath (k :: path ++ [key]) = printKey k ++ "." ++ printPath (path ++ [key]) := by
      simp [printPath, String.intercalate_cons_of_ne_nil]
    obtain ⟨c, u, htext, hc⟩ := printPath_lead path key
    simp only [List.length_cons] at hroom
    obtain ⟨room, rfl⟩ : ∃ n, room = n + 1 := ⟨room - 1, by omega⟩
    have hlength : (printPath (k :: path ++ [key])).length =
        (printKey k).length + 1 + (printPath (path ++ [key])).length := by
      rw [hpath, String.length_append, String.length_append]
      rfl
    have hfirst := @readSimpleKey_printKey ('.' :: ((printPath (path ++ [key])).toList ++ rest))
      fuel k rfl (by omega)
    have hnext := ih (by omega) room (by omega)
    have hgap : blanks ((printPath (path ++ [key])).toList ++ rest) =
        some ((), (printPath (path ++ [key])).toList ++ rest) := by
      rw [htext]
      exact blanks_of_solid _ (isSolid_of_isKeyLead hc)
    have hstay (cs : List Char) : blanks ('.' :: cs) = some ((), '.' :: cs) :=
      blanks_of_solid cs (by decide)
    rw [hpath, readKeys]
    simp [hfirst, hstay, tryText_apply, hgap, hnext]

def Line.print? : Line → Option String
  | .header path key => some ("[" ++ printPath (path ++ [key]) ++ "]")
  | .arrayHeader path key => some ("[[" ++ printPath (path ++ [key]) ++ "]]")
  | .entry [] key value => printEntry? key value
  | .entry (_ :: _) _ _ => none

inductive Line.Written : Line → Prop
  | header {path : List Key} (key : Key) (hpath : path.length < maxDepth) :
    Written (.header path key)
  | arrayHeader {path : List Key} (key : Key) (hpath : path.length < maxDepth) :
    Written (.arrayHeader path key)
  | entry (key : Key) {value : Json} (hvalue : Holds maxDepth value) : Written (.entry [] key value)

def Spelled (line : Line) (t : String) : Prop :=
  ∀ {fuel : Nat} (rest : List Char), t.length < fuel →
    readLine fuel (t.toList ++ '\n' :: rest) = some (some line, '\n' :: rest)

theorem readKey_bracketed {path : List Key} (key : Key) (rest : List Char)
    (hpath : path.length < maxDepth) (hfuel : (printPath (path ++ [key])).length ≤ fuel) :
    ∃ c u, (printPath (path ++ [key])).toList = c :: u ∧ c ≠ '[' ∧
      blanks (c :: (u ++ ']' :: rest)) = some ((), c :: (u ++ ']' :: rest)) ∧
      readKey fuel (c :: (u ++ ']' :: rest)) = some ((path, key), ']' :: rest) := by
  obtain ⟨c, u, htext, hc⟩ := printPath_lead path key
  have hclose : blanks (']' :: rest) = some ((), ']' :: rest) := blanks_of_solid rest (by decide)
  have hkey := readKeys_printPath hpath hfuel rfl hclose (by simp)
  rw [htext] at hkey
  exact ⟨c, u, htext, ne_of_class hc (by decide), blanks_of_solid _ (isSolid_of_isKeyLead hc), hkey⟩

theorem spelled_header {path : List Key} (key : Key) (hpath : path.length < maxDepth) :
    Spelled (.header path key) ("[" ++ printPath (path ++ [key]) ++ "]") := by
  intro fuel rest hfuel
  rw [String.length_append, String.length_append] at hfuel
  obtain ⟨c, u, htext, hbracket, hgap, hkey⟩ :=
    @readKey_bracketed fuel path key ('\n' :: rest) hpath (by omega)
  have hopen (cs : List Char) : blanks ('[' :: cs) = some ((), '[' :: cs) :=
    blanks_of_solid cs (by decide)
  simp [readLine, hopen, htext, tryText_apply, hbracket.symm, hgap, hkey]

theorem spelled_arrayHeader {path : List Key} (key : Key) (hpath : path.length < maxDepth) :
    Spelled (.arrayHeader path key) ("[[" ++ printPath (path ++ [key]) ++ "]]") := by
  intro fuel rest hfuel
  rw [String.length_append, String.length_append] at hfuel
  obtain ⟨c, u, htext, -, hgap, hkey⟩ :=
    @readKey_bracketed fuel path key (']' :: '\n' :: rest) hpath (by omega)
  have hopen (cs : List Char) : blanks ('[' :: cs) = some ((), '[' :: cs) :=
    blanks_of_solid cs (by decide)
  simp [readLine, hopen, htext, tryText_apply, hgap, hkey, text]

theorem spelled_entry (key : Key) {value : Json} {t : String} (hvalue : Reads maxDepth value t) :
    Spelled (.entry [] key value) (printKey key ++ " = " ++ t) := by
  intro fuel rest hfuel
  have hsep : " = ".length = 3 := rfl
  rw [String.length_append, String.length_append, hsep] at hfuel
  obtain ⟨c, u, hkeyText, hc⟩ := printKey_lead key
  obtain ⟨d, v, htext, hd, -⟩ := hvalue.lead
  have hblanks : blanks (' ' :: '=' :: ' ' :: (t.toList ++ '\n' :: rest)) =
      some ((), '=' :: ' ' :: (t.toList ++ '\n' :: rest)) := by
    simp [blanks, skipWhile, isBlank]
  have hkey := @readKeys_printPath (' ' :: '=' :: ' ' :: (t.toList ++ '\n' :: rest)) fuel maxDepth
    [] key _ (by decide) (by simp [printPath]; omega) rfl hblanks (by simp)
  have hgap : blanks (' ' :: d :: (v ++ '\n' :: rest)) = some ((), d :: (v ++ '\n' :: rest)) := by
    have hstay := blanks_of_solid (v ++ '\n' :: rest) hd
    simpa [blanks, skipWhile, isBlank] using hstay
  have hread := @hvalue.reads fuel ('\n' :: rest) ⟨'\n', rest, rfl, .inl rfl⟩ (by omega)
  have hstart := blanks_of_solid (u ++ ' ' :: '=' :: ' ' :: (t.toList ++ '\n' :: rest))
    (isSolid_of_isKeyLead hc)
  have hne : c ≠ '#' ∧ c ≠ '\n' ∧ c ≠ '\r' ∧ c ≠ '[' := by
    refine ⟨?_, ?_, ?_, ?_⟩ <;> exact ne_of_class hc (by decide)
  have hpath : printPath ([] ++ [key]) = printKey key := by simp [printPath]
  rw [hpath, hkeyText] at hkey
  simp only [htext, List.cons_append] at hkey hread hstart
  simp [readLine, readEntry, readKey, hkeyText, htext, hstart, hne, hkey, hgap, hread]

theorem Line.Written.printed {line : Line} (h : line.Written) :
    ∃ t, line.print? = some t ∧ Spelled line t := by
  cases h with
  | header key hpath => exact ⟨_, rfl, spelled_header key hpath⟩
  | arrayHeader key hpath => exact ⟨_, rfl, spelled_arrayHeader key hpath⟩
  | entry key hvalue =>
    obtain ⟨t, ht, hreads⟩ := hvalue.printed
    exact ⟨_, by simp [Line.print?, printEntry?, ht], spelled_entry key hreads⟩

inductive RowSpelled : Option Line → String → Prop
  | blank : RowSpelled none ""
  | line {line : Line} {t : String} (h : Spelled line t) : RowSpelled (some line) t

theorem RowSpelled.reads {row : Option Line} {t : String} (h : RowSpelled row t) (rest : List Char)
    (hfuel : t.length < fuel) :
    readLine fuel (t.toList ++ '\n' :: rest) = some (row, '\n' :: rest) := by
  cases h with
  | blank =>
    have hblanks : blanks ('\n' :: rest) = some ((), '\n' :: rest) := skipWhile_of_head rfl
    simp [readLine, hblanks]
  | line h => exact h rest hfuel

theorem readLines_rows {rows : List (Option Line)} {texts : List String}
    (hrows : List.Forall₂ RowSpelled rows texts) (acc : List Line)
    (hfuel : (texts.flatMap fun t => t.toList ++ ['\n']).length + 1 < fuel) :
    readLines fuel acc (texts.flatMap fun t => t.toList ++ ['\n']) =
      some (acc.reverse ++ rows.flatMap Option.toList, []) := by
  obtain ⟨fuel, rfl⟩ : ∃ n, fuel = n + 1 := ⟨fuel - 1, by omega⟩
  induction hrows generalizing fuel acc with
  | nil => simp [readLines, readLine, blanks, comment, skipWhile, tryText_apply]
  | @cons row t rows texts hrow _ ih =>
    simp only [List.flatMap_cons, List.length_append, String.length_toList, List.length_cons,
      List.length_nil] at hfuel
    have hline :=
      hrow.reads (texts.flatMap fun t => t.toList ++ ['\n']) (show t.length < fuel by omega)
    have hblanks (cs : List Char) : blanks ('\n' :: cs) = some ((), '\n' :: cs) :=
      skipWhile_of_head rfl
    obtain ⟨fuel, rfl⟩ : ∃ n, fuel = n + 1 := ⟨fuel - 1, by omega⟩
    have htail := ih (row.toList ++ acc) fuel (by omega)
    rw [readLines]
    simp [hline, hblanks, comment, tryText_apply, htail]
    cases row <;> simp

end Lifeline.Toml
