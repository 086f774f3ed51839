namespace Lifeline

inductive Json
  | null
  | bool (b : Bool)
  | num (n : Nat)
  | literal (text : String)
  | str (s : String)
  | arr (items : List Json)
  | obj (fields : List (String × Json))
  /-- What stands for a value that cannot be taken in. -/
  | unusable
  deriving Inhabited

namespace Json

mutual

def height : Json → Nat
  | .arr items => heightItems items + 1
  | .obj fields => heightFields fields + 1
  | _ => 1

def heightItems : List Json → Nat
  | [] => 0
  | j :: rest => max j.height (heightItems rest)

def heightFields : List (String × Json) → Nat
  | [] => 0
  | (_, j) :: rest => max j.height (heightFields rest)

end

mutual

def isUsable : Json → Bool
  | .arr items => usableItems items
  | .obj fields => usableFields fields
  | .unusable => false
  | _ => true

def usableItems : List Json → Bool
  | [] => true
  | j :: rest => j.isUsable && usableItems rest

def usableFields : List (String × Json) → Bool
  | [] => true
  | (_, j) :: rest => j.isUsable && usableFields rest

end

end Json

end Lifeline
