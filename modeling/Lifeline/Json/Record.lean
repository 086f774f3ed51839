import Lifeline.Json.Basic

/-! Reading records out of value trees.

A record is an object, or an array of its fields in order from which defaulted fields at the end may
be missing. Fields that the record does not have are ignored; a field of it given twice is not
accepted. Where values come from decides what else may pass. -/

namespace Lifeline

abbrev Record := List (String × Json)

namespace Json

def hasRepeat : List String → Bool
  | [] => false
  | k :: rest => rest.contains k || hasRepeat rest

/-- What is let pass. -/
structure Manner where
  extraItems : Bool
  behindWord : Json → Bool

def isNull : Json → Bool
  | .null => true
  | _ => false

def strict : Manner where
  extraItems := false
  behindWord := isNull

def recordIn? (manner : Manner) (names : List String) : Json → Option Record
  | .obj fields =>
    let known := fields.filter fun f => names.contains f.1
    if hasRepeat (known.map (·.1)) then none else some known
  | .arr items =>
    if manner.extraItems || items.length ≤ names.length then some (names.zip items) else none
  | _ => none

def record? (names : List String) (j : Json) : Option Record :=
  j.recordIn? strict names

def choice? (words : List String) : Json → Option String
  | .str s => some s
  | .num n => words[n]?
  | _ => none

/-- The alternative a tagged record names, and the record without its tag. In array form the tag
comes first. -/
def tagged? (tag : String) (words : List String) : Json → Option (String × Json)
  | .obj fields =>
    match fields.filter fun f => f.1 == tag with
    | [(_, t)] => do
      let word ← t.choice? words
      return (word, .obj (fields.filter fun f => f.1 != tag))
    | _ => none
  | .arr (t :: rest) => do
    let word ← t.choice? words
    return (word, .arr rest)
  | _ => none

def str? : Json → Option String
  | .str s => some s
  | _ => none

def bool? : Json → Option Bool
  | .bool b => some b
  | _ => none

def nat? : Json → Option Nat
  | .num n => some n
  | _ => none

def word64? : Json → Option UInt64
  | .num n => if n < UInt64.size then some (.ofNat n) else none
  | _ => none

def word32? : Json → Option UInt32
  | .num n => if n < UInt32.size then some (.ofNat n) else none
  | _ => none

def arr? : Json → Option (List Json)
  | .arr items => some items
  | _ => none

def list? (read : Json → Option α) (j : Json) : Option (List α) := do
  (← j.arr?).mapM read

def option? (read : Json → Option α) : Json → Option (Option α)
  | .null => some none
  | j => (read j).map some

def wordIn? (manner : Manner) : Json → Option String
  | .str s => some s
  | .obj [(s, j)] => if manner.behindWord j then some s else none
  | _ => none

def ofOption (write : α → Json) : Option α → Json
  | none => .null
  | some a => write a

def optionalField (name : String) (write : α → Json) : Option α → List (String × Json)
  | none => []
  | some a => [(name, write a)]

def listField (name : String) (write : α → Json) (l : List α) : List (String × Json) :=
  if l.isEmpty then [] else [(name, .arr (l.map write))]

end Json

namespace Record

def get? (r : Record) (name : String) : Option Json :=
  r.lookup name

def required (r : Record) (name : String) (read : Json → Option α) : Option α := do
  read (← r.get? name)

def defaulted (r : Record) (name : String) (read : Json → Option α) (value : α) : Option α :=
  match r.get? name with
  | none => some value
  | some j => read j

def optional (r : Record) (name : String) (read : Json → Option α) : Option (Option α) :=
  r.defaulted name (Json.option? read) none

end Record

end Lifeline
