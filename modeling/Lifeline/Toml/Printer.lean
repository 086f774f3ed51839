import Lifeline.Json.Basic
import Lifeline.Text.Hex
import Lifeline.Toml.Reader

namespace Lifeline.Toml

def longestRun (c : Char) (cs : List Char) : Nat :=
  (cs.foldl (fun (longest, run) d =>
    if d = c then (max longest (run + 1), run + 1) else (longest, 0)) (0, 0)).1

def isControl (c : Char) : Bool :=
  (c.toNat < 0x20 && c != '\t' && c != '\n') || c.toNat == 0x7f

def hexUpper (n : Nat) : String :=
  (Text.hex 4 n).toUpper

def escapeChar (long : Bool) (c : Char) : String :=
  if c == '\x08' then "\\b"
  else if c == '\t' then "\\t"
  else if c == '\n' then (if long then "\n" else "\\n")
  else if c == '\x0c' then "\\f"
  else if c == '\r' then "\\r"
  else if c == '\\' then "\\\\"
  else if c.toNat < 0x20 || c.toNat == 0x7f then "\\u" ++ hexUpper c.toNat
  else c.toString

def escapeFrom (long : Bool) : (quotes : Nat) → List Char → List String
  | _, [] => []
  | quotes, c :: rest =>
    if c = '"' then
      if long && quotes < 2 then "\"" :: escapeFrom long (quotes + 1) rest
      else "\\\"" :: escapeFrom long 0 rest
    else escapeChar long c :: escapeFrom long 0 rest

def basic (s : String) : String :=
  "\"" ++ String.join (escapeFrom false 0 s.toList) ++ "\""

def opened (delimiter : String) (s : String) : String :=
  delimiter ++ if s.toList.contains '\n' then "\n" else ""

def longBasic (s : String) : String :=
  opened "\"\"\"" s ++ String.join (escapeFrom true 0 s.toList) ++ "\"\"\""

def literal (s : String) : String :=
  "'" ++ s ++ "'"

def longLiteral (s : String) : String :=
  opened "'''" s ++ s ++ "'''"

/-- The first form in which nothing needs to be escaped: basic, literal, and both again over several
lines. If there is none, everything is escaped. -/
def quote (s : String) : String :=
  let cs := s.toList
  let hasControl := cs.any isControl
  let hasBackslash := cs.contains '\\'
  let hasNewline := cs.contains '\n'
  let doubles := longestRun '"' cs
  let singles := longestRun '\'' cs
  if !hasControl && !hasBackslash && doubles = 0 && !hasNewline then basic s
  else if !hasControl && singles = 0 && !hasNewline then literal s
  else if !hasControl && !hasBackslash && doubles ≤ 2 then longBasic s
  else if !hasControl && singles ≤ 2 then longLiteral s
  else if hasNewline then longBasic s
  else basic s

def printKey (key : Key) : String :=
  let cs := key.toList
  let hasControl := cs.any fun c => isControl c || c == '\n'
  if !cs.isEmpty && cs.all isBare then key
  else if !hasControl && !cs.contains '"' && !cs.contains '\\' then basic key
  else if !hasControl && !cs.contains '\'' then literal key
  else basic key

def printItems : List String → String
  | [] => "[]"
  | [item] => "[" ++ item ++ "]"
  | items => "[" ++ String.join (items.map fun item => "\n    " ++ item ++ ",") ++ "\n]"

def printEntries (entries : List String) : String :=
  if entries.isEmpty then "\x7b\x7d" else "\x7b " ++ ", ".intercalate entries ++ " \x7d"

mutual

def printValue? : Json → Option String
  | .null => none
  | .bool b => some (if b then "true" else "false")
  | .num n => if n ≤ maxInteger then some (Nat.repr n) else none
  | .literal t => some t
  | .str s => some (quote s)
  | .arr items => (printValues? items).map printItems
  | .obj fields => (printPairs? fields).map printEntries
  | .unusable => none

def printValues? : List Json → Option (List String)
  | [] => some []
  | j :: rest => do return (← printValue? j) :: (← printValues? rest)

def printPairs? : List (String × Json) → Option (List String)
  | [] => some []
  | (k, j) :: rest => do return (printKey k ++ " = " ++ (← printValue? j)) :: (← printPairs? rest)

end

def isTable : Json → Bool
  | .obj _ => true
  | _ => false

def hasHeader : Json → Bool
  | .obj _ => true
  | .arr items => !items.isEmpty && items.all isTable
  | _ => false

structure Section where
  header : String
  lines : List String

def printEntry? (key : Key) (j : Json) : Option String := do
  return printKey key ++ " = " ++ (← printValue? j)

def printPath (path : List Key) : String :=
  ".".intercalate (path.map printKey)

def entryLines? (fields : List (String × Json)) : Option (List String) :=
  (fields.filter fun f => !hasHeader f.2).mapM fun (k, j) => printEntry? k j

def ownSection? (path : List Key) (fields : List (String × Json)) : Option (List Section) := do
  let lines ← entryLines? fields
  if lines.isEmpty && !fields.isEmpty then return []
  else return [⟨"[" ++ printPath path ++ "]", lines⟩]

mutual

def sections? (path : List Key) : Json → Option (List Section)
  | .obj fields => do return (← ownSection? path fields) ++ (← sectionsOfFields? path fields)
  | .arr items => sectionsOfItems? path items
  | _ => some []

def sectionsOfFields? (path : List Key) : List (String × Json) → Option (List Section)
  | [] => some []
  | (k, j) :: rest => do
    let here ← if hasHeader j then sections? (path ++ [k]) j else some []
    return here ++ (← sectionsOfFields? path rest)

def sectionsOfItems? (path : List Key) : List Json → Option (List Section)
  | [] => some []
  | .obj fields :: rest => do
    let own : Section := ⟨"[[" ++ printPath path ++ "]]", ← entryLines? fields⟩
    return own :: (← sectionsOfFields? path fields) ++ (← sectionsOfItems? path rest)
  | _ :: rest => sectionsOfItems? path rest

end

def Section.print (s : Section) : String :=
  String.join ((s.header :: s.lines).map (· ++ "\n"))

def print? : Json → Option String
  | .obj fields => do
    let top ← entryLines? fields
    let sections ← sectionsOfFields? [] fields
    let head := if top.isEmpty then [] else [String.join (top.map (· ++ "\n"))]
    return "\n".intercalate (head ++ sections.map Section.print)
  | _ => none

end Lifeline.Toml
