import Lifeline.Json.Number

namespace Lifeline.Json

open Text Text.Reader

def isBlank (c : Char) : Bool :=
  c == ' ' || c == '\t' || c == '\n' || c == '\r'

def blanks : Reader Unit :=
  skipWhile isBlank

structure Spelling where
  chars : List Char := []
  high : Option Nat := none
  broken : Bool := false

namespace Spelling

def isHigh (unit : Nat) : Bool :=
  0xd800 ≤ unit && unit ≤ 0xdbff

def isLow (unit : Nat) : Bool :=
  0xdc00 ≤ unit && unit ≤ 0xdfff

def addScalar (s : Spelling) (n : Nat) : Spelling :=
  match scalar? n with
  | some c => { s with chars := c :: s.chars, high := none }
  | none => { s with broken := true }

def add (s : Spelling) (unit : Nat) : Spelling :=
  match s.high with
  | some high =>
    if isLow unit then s.addScalar (0x10000 + (high - 0xd800) * 0x400 + (unit - 0xdc00))
    else { s with broken := true }
  | none => if isHigh unit then { s with high := some unit } else s.addScalar unit

def text? (s : Spelling) : Option String :=
  if s.broken || s.high.isSome then none else some (String.ofList s.chars.reverse)

end Spelling

def readUnit : Reader Nat := do
  let cs := [← satisfy isHexDigit, ← satisfy isHexDigit, ← satisfy isHexDigit, ← satisfy isHexDigit]
  return number 16 cs

def readEscape : Reader Nat := do
  match ← any with
  | '"' => return 0x22
  | '\\' => return 0x5c
  | '/' => return 0x2f
  | 'b' => return 0x08
  | 'f' => return 0x0c
  | 'n' => return 0x0a
  | 'r' => return 0x0d
  | 't' => return 0x09
  | 'u' => readUnit
  | _ => failure

def readChars : (fuel : Nat) → Spelling → Reader Spelling
  | 0, _ => failure
  | fuel + 1, s => do
    let c ← any
    if c == '"' then return s
    else if c == '\\' then readChars fuel (s.add (← readEscape))
    else if c.toNat < 0x20 then failure
    else readChars fuel (s.add c.toNat)

def readString (fuel : Nat) : Reader (Option String) := do
  char '"'
  return (← readChars fuel {}).text?

def readScalar (fuel : Nat) : Reader Json := do
  match ← peek? with
  | some '"' => return ((← readString fuel).map Json.str).getD .unusable
  | some 't' => text "true"; return .bool true
  | some 'f' => text "false"; return .bool false
  | some 'n' => text "null"; return .null
  | _ => readNumber

def readKey (fuel : Nat) : Reader (Option String) := do
  blanks
  let key ← readString fuel
  blanks
  char ':'
  return key

mutual

/-- Passes over a value and what is left of the containers around it, given how they close, the
innermost first. -/
def skipValue : (fuel : Nat) → List Char → Reader Unit
  | 0, _ => failure
  | fuel + 1, closing => do
    blanks
    match ← peek? with
    | some '{' =>
      let _ ← any
      blanks
      if (← peek?) == some '}' then skipRest fuel ('}' :: closing)
      else
        let _ ← readKey fuel
        skipValue fuel ('}' :: closing)
    | some '[' =>
      let _ ← any
      blanks
      if (← peek?) == some ']' then skipRest fuel (']' :: closing)
      else skipValue fuel (']' :: closing)
    | _ =>
      let _ ← readScalar fuel
      skipRest fuel closing

def skipRest : (fuel : Nat) → List Char → Reader Unit
  | _, [] => return ()
  | 0, _ => failure
  | fuel + 1, close :: closing => do
    blanks
    if ← tryText "," then
      if close == '}' then let _ ← readKey fuel
      skipValue fuel (close :: closing)
    else
      char close
      skipRest fuel closing

end

def skip : Reader Unit := do
  skipValue (2 * (← get).length + 1) []

def readItems (close : Char) (item : Reader α) : (fuel : Nat) → (acc : List α) → Reader (List α)
  | 0, _ => failure
  | fuel + 1, acc => do
    let a ← item
    blanks
    if ← tryText "," then readItems close item fuel (a :: acc)
    else
      char close
      return (a :: acc).reverse

def readContainer (close : Char) (item : Reader α) (fuel : Nat) : Reader (List α) := do
  let _ ← any
  blanks
  if (← peek?) == some close then
    let _ ← any
    return []
  else readItems close item fuel []

def ofFields (fields : List (Option String × Json)) : Json :=
  match fields.mapM fun (key, j) => key.map fun k => (k, j) with
  | some fields => .obj fields
  | none => .unusable

/-- `room` is how many more containers may be opened; what lies deeper is unusable. -/
def readValue : (fuel room : Nat) → Reader Json
  | 0, _ => failure
  | fuel + 1, 0 => do
    blanks
    match ← peek? with
    | some '{' | some '[' =>
      skip
      return .unusable
    | _ => readScalar fuel
  | fuel + 1, room + 1 => do
    blanks
    match ← peek? with
    | some '{' =>
      let field : Reader (Option String × Json) := do return (← readKey fuel, ← readValue fuel room)
      return ofFields (← readContainer '}' field fuel)
    | some '[' => return .arr (← readContainer ']' (readValue fuel room) fuel)
    | _ => readScalar fuel

def parse? (room : Nat) (s : String) : Option Json :=
  let cs := s.toList
  let whole : Reader Json := do
    let j ← readValue (cs.length + 1) room
    blanks
    return j
  whole.run? cs

end Lifeline.Json
