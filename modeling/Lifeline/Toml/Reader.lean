import Lifeline.Toml.Table
import Lifeline.Toml.Scalar

namespace Lifeline.Toml

open Text Text.Reader

def maxDepth : Nat := 79

def isBare (c : Char) : Bool :=
  ('A' ≤ c && c ≤ 'Z') || ('a' ≤ c && c ≤ 'z') || isDigit c || c == '_' || c == '-'

def readSimpleKey (fuel : Nat) : Reader Key := do
  match ← peek? with
  | some '"' =>
    let _ ← any
    return String.ofList (← readBasic fuel [])
  | some '\'' =>
    let _ ← any
    return String.ofList (← readLiteral)
  | _ => return String.ofList (← takeWhile1 isBare)

def readKeys (fuel : Nat) : (room : Nat) → Reader (List Key × Key)
  | 0 => failure
  | room + 1 => do
    let key ← readSimpleKey fuel
    blanks
    if ← tryText "." then
      blanks
      let (path, last) ← readKeys fuel room
      return (key :: path, last)
    else return ([], key)

def readKey (fuel : Nat) : Reader (List Key × Key) :=
  readKeys fuel maxDepth

def skipVoid : (fuel : Nat) → Reader Unit
  | 0 => failure
  | fuel + 1 => do
    blanks
    comment
    match ← attempt newline with
    | some _ => skipVoid fuel
    | none => return ()

def readItems (value : Reader Json) : (fuel : Nat) → (acc : List Json) → Reader (List Json)
  | 0, _ => failure
  | fuel + 1, acc => do
    skipVoid fuel
    if ← tryText "]" then return acc.reverse
    else
      let j ← value
      skipVoid fuel
      if ← tryText "," then readItems value fuel (j :: acc)
      else
        char ']'
        return (j :: acc).reverse

def readEntry (fuel : Nat) (value : Reader Json) : Reader (List Key × Key × Json) := do
  let (path, key) ← readKey fuel
  char '='
  blanks
  return (path, key, ← value)

def readEntries (value : Reader Json) :
    (fuel : Nat) → (acc : List (List Key × Key × Json)) → Reader (List (List Key × Key × Json))
  | 0, _ => failure
  | fuel + 1, acc => do
    blanks
    let e ← readEntry fuel value
    blanks
    if ← tryText "," then readEntries value fuel (e :: acc)
    else
      char '}'
      return (e :: acc).reverse

def readValue : (fuel room : Nat) → Reader Json
  | 0, _ => failure
  | fuel + 1, room => do
    match ← peek? with
    | some '"' | some '\'' => return .str (← readString fuel)
    | some 't' => text "true"; return .bool true
    | some 'f' => text "false"; return .bool false
    | some '[' =>
      let _ ← any
      match room with
      | 0 => failure
      | room + 1 => return .arr (← readItems (readValue fuel room) fuel [])
    | some '{' =>
      let _ ← any
      match room with
      | 0 => failure
      | room + 1 =>
        blanks
        if ← tryText "\x7d" then return .obj []
        else liftM (ofEntries? (← readEntries (readValue fuel room) fuel []))
    | _ => readNumber fuel

def readLine (fuel : Nat) : Reader (Option Line) := do
  blanks
  match ← peek? with
  | none | some '#' | some '\n' | some '\r' => return none
  | some '[' =>
    let _ ← any
    if ← tryText "[" then
      blanks
      let (path, key) ← readKey fuel
      text "]]"
      return some (.arrayHeader path key)
    else
      blanks
      let (path, key) ← readKey fuel
      char ']'
      return some (.header path key)
  | some _ =>
    let (path, key, value) ← readEntry fuel (readValue fuel maxDepth)
    return some (.entry path key value)

def readLines : (fuel : Nat) → (acc : List Line) → Reader (List Line)
  | 0, _ => failure
  | fuel + 1, acc => do
    let acc := (← readLine fuel).toList ++ acc
    blanks
    comment
    if ← atEnd then return acc.reverse
    else
      newline
      readLines fuel acc

def parse? (s : String) : Option Json := do
  let cs := match s.toList with
    | '\ufeff' :: rest => rest
    | cs => cs
  ofLines? (← (readLines (cs.length + 2) []).run? cs)

end Lifeline.Toml
