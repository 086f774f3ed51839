import Lifeline.Pattern.Form
import Lifeline.Text.White

namespace Lifeline.Pattern

structure Cursor where
  rest : List Char
  spaced : Bool := false
  names : List String := []

abbrev Scan := StateT Cursor Option

def peek? : Scan (Option Char) := do
  return (← get).rest.head?

def here : Scan Char := do
  match ← peek? with
  | some c => return c
  | none => failure

def bump : Scan Unit :=
  modify fun c => { c with rest := c.rest.drop 1 }

def bumpIf (text : String) : Scan Bool := do
  if text.toList.isPrefixOf (← get).rest then
    modify fun c => { c with rest := c.rest.drop text.length }
    return true
  else return false

def expect (c : Char) : Scan Unit := do
  if (← here) == c then bump else failure

def takeWhile (p : Char → Bool) : Scan (List Char) := do
  let taken := (← get).rest.takeWhile p
  modify fun c => { c with rest := c.rest.drop taken.length }
  return taken

def dropSpace : (inComment : Bool) → List Char → List Char
  | _, [] => []
  | true, c :: rest => if c == '\n' then dropSpace false rest else dropSpace true rest
  | false, c :: rest =>
    if c == '#' then dropSpace true rest
    else if Text.isWhite c then dropSpace false rest
    else c :: rest

def skipSpace : Scan Unit :=
  modify fun c => if c.spaced then { c with rest := dropSpace false c.rest } else c

def bumpSpace : Scan Unit := do
  bump
  skipSpace

def takeSpaced (p : Char → Bool) : (n : Nat) → Scan (List Char)
  | 0 => return []
  | n + 1 => do
    match ← peek? with
    | some c =>
      if p c then
        bumpSpace
        return c :: (← takeSpaced p n)
      else return []
    | none => return []

def takeAllSpaced (p : Char → Bool) : Scan (List Char) := do
  takeSpaced p (← get).rest.length

def firstSolid? : (inComment : Bool) → List Char → Option Char
  | _, [] => none
  | inComment, c :: rest =>
    if Text.isWhite c then firstSolid? inComment rest
    else if c == '#' && !inComment then firstSolid? true rest
    else some c

def second? : Scan (Option Char) := do
  let cursor ← get
  let after := cursor.rest.drop 1
  return if cursor.spaced then (firstSolid? false after).or after.head? else after.head?

def isMeta (c : Char) : Bool :=
  "\\.+*?()|[]\x7b\x7d^$#&-~".toList.contains c

def isEscapable (c : Char) : Bool :=
  isMeta c || (c.toNat < 0x80 && !c.isAlphanum && c != '<' && c != '>')

inductive Atom
  | literal (l : Literal)
  | letter (l : Letter) (negated : Bool)
  | property (p : PropertyForm) (negated : Bool)
  | anchor (a : AnchorForm)

def readHex (width : Nat) : Scan Atom := do
  bumpSpace
  if (← here) == '\x7b' then
    bumpSpace
    let digits ← takeAllSpaced Text.isHexDigit
    if (← here) != '\x7d' || digits.isEmpty then failure
    bumpSpace
    return .literal { char := ← liftM (Text.scalar? (Text.number 16 digits)) }
  else
    let digits ← takeSpaced Text.isHexDigit width
    if digits.length < width then failure
    return .literal { char := ← liftM (Text.scalar? (Text.number 16 digits)), asByte := width == 2 }

def splitFirst? (sep : String) (text : String) : Option (String × String) :=
  match text.splitOn sep with
  | first :: second :: rest => some (first, sep.intercalate (second :: rest))
  | _ => none

def PropertyForm.ofText (text : String) : PropertyForm :=
  match (splitFirst? "!=" text).or ((splitFirst? ":" text).or (splitFirst? "=" text)) with
  | some (property, value) => .valued property value
  | none => .named text

def readProperty (negated : Bool) : Scan Atom := do
  bumpSpace
  match ← here with
  | '\x7b' =>
    bumpSpace
    let name ← takeAllSpaced (· != '\x7d')
    expect '\x7d'
    return .property (.ofText (String.ofList name)) negated
  | '\\' => failure
  | c =>
    bump
    return .property (.named c.toString) negated

def isPlaceChar (c : Char) : Bool :=
  c.isAlpha || c == '-'

def WordPlace.ofName? : String → Option WordPlace
  | "start" => some .start
  | "end" => some .stop
  | "start-half" => some .halfStart
  | "end-half" => some .halfStop
  | _ => none

def readBorder : Scan Atom := do
  let cursor ← get
  if (← peek?) != some '\x7b' then return .anchor (.word .border)
  bumpSpace
  if isPlaceChar (← here) then
    let name ← takeAllSpaced isPlaceChar
    expect '\x7d'
    return .anchor (.word (← liftM (WordPlace.ofName? (String.ofList name))))
  else
    set cursor
    return .anchor (.word .border)

def readEscape : Scan Atom := do
  bump
  let c ← here
  match c with
  | 'x' => readHex 2
  | 'u' => readHex 4
  | 'U' => readHex 8
  | 'p' => readProperty false
  | 'P' => readProperty true
  | _ =>
    bump
    match c with
    | 'd' => return .letter .digit false
    | 'D' => return .letter .digit true
    | 's' => return .letter .white false
    | 'S' => return .letter .white true
    | 'w' => return .letter .word false
    | 'W' => return .letter .word true
    | 'a' => return .literal ⟨'\x07', false⟩
    | 'f' => return .literal ⟨'\x0c', false⟩
    | 't' => return .literal ⟨'\t', false⟩
    | 'n' => return .literal ⟨'\n', false⟩
    | 'r' => return .literal ⟨'\r', false⟩
    | 'v' => return .literal ⟨'\x0b', false⟩
    | 'A' => return .anchor .textStart
    | 'z' => return .anchor .textEnd
    | 'b' => readBorder
    | 'B' => return .anchor (.word .noBorder)
    | '<' => return .anchor (.word .start)
    | '>' => return .anchor (.word .stop)
    | c => if isEscapable c then return .literal ⟨c, false⟩ else failure

def readClassAtom : Scan Atom := do
  match ← here with
  | '\\' => readEscape
  | c =>
    bump
    return .literal ⟨c, false⟩

def readClassItem : Scan ClassForm := do
  let first ← readClassAtom
  skipSpace
  if (← here) == '-' && (← second?) != some ']' && (← second?) != some '-' then
    bumpSpace
    match first, ← readClassAtom with
    | .literal lo, .literal hi => if lo.char ≤ hi.char then return .range lo hi else failure
    | _, _ => failure
  else
    match first with
    | .literal l => return .literal l
    | .letter l negated => return .letter l negated
    | .property p negated => return .property p negated
    | .anchor _ => failure

def asciiClass? : String → Option CharSet
  | "alnum" => some (.ofRanges [(0x30, 0x39), (0x41, 0x5a), (0x61, 0x7a)])
  | "alpha" => some (.ofRanges [(0x41, 0x5a), (0x61, 0x7a)])
  | "ascii" => some (.range 0 0x7f)
  | "blank" => some (.ofRanges [(0x09, 0x09), (0x20, 0x20)])
  | "cntrl" => some (.ofRanges [(0x00, 0x1f), (0x7f, 0x7f)])
  | "digit" => some (.range 0x30 0x39)
  | "graph" => some (.range 0x21 0x7e)
  | "lower" => some (.range 0x61 0x7a)
  | "print" => some (.range 0x20 0x7e)
  | "punct" => some (.ofRanges [(0x21, 0x2f), (0x3a, 0x40), (0x5b, 0x60), (0x7b, 0x7e)])
  | "space" => some (.ofRanges [(0x09, 0x0d), (0x20, 0x20)])
  | "upper" => some (.range 0x41 0x5a)
  | "word" => some asciiWord
  | "xdigit" => some (.ofRanges [(0x30, 0x39), (0x41, 0x46), (0x61, 0x66)])
  | _ => none

def readAsciiClass? : Scan (Option ClassForm) := do
  let cursor ← get
  let back : Scan (Option ClassForm) := do
    set cursor
    return none
  if !(← bumpIf "[:") then back
  else
    let negated ← bumpIf "^"
    let name ← takeWhile (· != ':')
    if !(← bumpIf ":]") then back
    else
      match asciiClass? (String.ofList name) with
      | none => back
      | some s => return some (.ascii s negated)

def readClassStart : Scan (Bool × List ClassForm) := do
  bumpSpace
  let negated := (← here) == '^'
  if negated then bumpSpace
  let hyphens ← takeAllSpaced (· == '-')
  if hyphens.isEmpty && (← here) == ']' then
    bumpSpace
    return (negated, [.literal ⟨']', false⟩])
  else return (negated, hyphens.map fun c => .literal ⟨c, false⟩)

def joinOperands (left : Option (ClassForm × SetOp)) (items : List ClassForm) : ClassForm :=
  match left with
  | none => .ofItems items.reverse
  | some (l, op) => .combined op l (.ofItems items.reverse)

def readClassRest : (fuel : Nat) → Option (ClassForm × SetOp) → List ClassForm → Scan ClassForm
  | 0, _, _ => failure
  | fuel + 1, left, items => do
    skipSpace
    let c ← here
    if c == '[' then
      match ← readAsciiClass? with
      | some cls => readClassRest fuel left (cls :: items)
      | none =>
        let (negated, first) ← readClassStart
        let inner ← readClassRest fuel none first.reverse
        readClassRest fuel left (.bracket negated inner :: items)
    else if c == ']' then
      bump
      return joinOperands left items
    else if ← bumpIf "&&" then readClassRest fuel (some (joinOperands left items, .inter)) []
    else if ← bumpIf "--" then readClassRest fuel (some (joinOperands left items, .diff)) []
    else if ← bumpIf "~~" then readClassRest fuel (some (joinOperands left items, .symmDiff)) []
    else readClassRest fuel left ((← readClassItem) :: items)

def readClass (fuel : Nat) : Scan Form := do
  let (negated, first) ← readClassStart
  return .bracket negated (← readClassRest fuel none first.reverse)

def readCount : Scan Nat := do
  let _ ← takeWhile Text.isWhite
  let digits ← takeAllSpaced Text.isDigit
  let _ ← takeWhile Text.isWhite
  skipSpace
  let n := Text.number 10 digits
  if digits.isEmpty || n ≥ UInt32.size then failure
  return n

def readBounds : Scan (Nat × Option Nat) := do
  bumpSpace
  let min ← readCount
  if (← here) == ',' then
    bumpSpace
    if (← here) == '\x7d' then return (min, none)
    let max ← readCount
    if (← here) == '\x7d' && min ≤ max then return (min, some max) else failure
  else if (← here) == '\x7d' then return (min, some min)
  else failure

def readSwitches : (fuel : Nat) → (on : Bool) → (seen : List Char) → Scan (Switches × List Char)
  | 0, _, _ => failure
  | fuel + 1, on, seen => do
    let c ← here
    if c == ':' || c == ')' then
      if seen.head? == some '-' then failure else return ([], seen)
    else if seen.contains c then failure
    else
      bump
      if c == '-' then readSwitches fuel false (c :: seen)
      else
        let switch ← liftM (Switch.ofLetter? c)
        let (rest, seen) ← readSwitches fuel on (c :: seen)
        return ((switch, on) :: rest, seen)

def isNameStart (c : Char) : Bool :=
  c == '_' || Unicode.letters.contains c.toNat

def isNameChar (c : Char) : Bool :=
  c == '_' || c == '.' || c == '[' || c == ']' || Unicode.lettersAndNumbers.contains c.toNat

def readGroupName : Scan Unit := do
  let name ← takeWhile (· != '>')
  expect '>'
  let text := String.ofList name
  if (← get).names.contains text then failure
  match name with
  | [] => failure
  | c :: rest =>
    if isNameStart c && rest.all isNameChar then
      modify fun s => { s with names := text :: s.names }
    else failure

def lookaround (rest : List Char) : Bool :=
  ["?=", "?!", "?<=", "?<!"].any fun t => t.toList.isPrefixOf rest

def Switches.spaced (changes : Switches) (before : Bool) : Bool :=
  (changes.lookup .spaced).getD before

inductive Opening
  | group (captures : Bool) (changes : Switches)
  | switches (changes : Switches)

def readOpening (fuel : Nat) : Scan Opening := do
  bumpSpace
  if lookaround (← get).rest then failure
  if ← bumpIf "?P<" then readGroupName; return .group true []
  else if ← bumpIf "?<" then readGroupName; return .group true []
  else if ← bumpIf "?" then
    let (changes, seen) ← readSwitches fuel true []
    if (← here) == ')' then
      bump
      if seen.isEmpty then failure else return .switches changes
    else
      bump
      return .group false changes
  else return .group true []

def repeatLast (min : Nat) (max : Option Nat) : List Form → Scan (List Form)
  | [] => failure
  | .switches _ :: _ => failure
  | f :: rest => do
    let _ ← bumpIf "?"
    return .rep f min max :: rest

def Form.ofAtom : Atom → Form
  | .literal l => .literal l
  | .letter l negated => .letter l negated
  | .property p negated => .property p negated
  | .anchor a => .anchor a

def readBranches : (fuel : Nat) → List Form → List Form → Scan Form
  | 0, _, _ => failure
  | fuel + 1, branches, items => do
    let finished := Form.ofBranches (Form.ofItems items.reverse :: branches).reverse
    skipSpace
    match ← peek? with
    | none => return finished
    | some ')' => return finished
    | some '|' =>
      bump
      readBranches fuel (Form.ofItems items.reverse :: branches) []
    | some '(' =>
      let outside := (← get).spaced
      match ← readOpening fuel with
      | .switches changes =>
        modify fun s => { s with spaced := changes.spaced outside }
        readBranches fuel branches (.switches changes :: items)
      | .group captures changes =>
        modify fun s => { s with spaced := changes.spaced outside }
        let inner ← readBranches fuel [] []
        expect ')'
        modify fun s => { s with spaced := outside }
        readBranches fuel branches (.group captures changes inner :: items)
    | some '*' => bump; readBranches fuel branches (← repeatLast 0 none items)
    | some '+' => bump; readBranches fuel branches (← repeatLast 1 none items)
    | some '?' => bump; readBranches fuel branches (← repeatLast 0 (some 1) items)
    | some '\x7b' =>
      let (min, max) ← readBounds
      bumpSpace
      readBranches fuel branches (← repeatLast min max items)
    | some '[' => readBranches fuel branches ((← readClass fuel) :: items)
    | some '\\' => readBranches fuel branches (Form.ofAtom (← readEscape) :: items)
    | some '.' => bump; readBranches fuel branches (.dot :: items)
    | some '^' => bump; readBranches fuel branches (.anchor .lineStart :: items)
    | some '$' => bump; readBranches fuel branches (.anchor .lineEnd :: items)
    | some c => bump; readBranches fuel branches (.literal ⟨c, false⟩ :: items)

def maxDepth : Nat := 250

def Form.parse? (text : String) : Option Form := do
  let cs := text.toList
  let (form, cursor) ← (readBranches (cs.length + 1) [] []).run { rest := cs }
  if cursor.rest.isEmpty && form.depth ≤ maxDepth then some form else none

end Lifeline.Pattern
