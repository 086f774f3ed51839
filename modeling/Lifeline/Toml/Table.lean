import Lifeline.Json.Basic

/-! Tables under construction, and which of their parts may still be added to.

A line of a document opens a table, opens one more table of an array, or gives a key of the open
table a value. No table is opened twice, dotted keys add only to what dotted keys have made, and
values never change. -/

namespace Lifeline.Toml

abbrev Key := String

inductive Line
  | header (path : List Key) (key : Key)
  | arrayHeader (path : List Key) (key : Key)
  | entry (path : List Key) (key : Key) (value : Json)

/-- What a table owes its existence to. -/
inductive Origin
  | header
  | inner
  | dotted
  deriving DecidableEq, Repr

inductive Node
  | leaf (value : Json)
  | table (origin : Origin) (fields : List (Key × Node))
  | tables (closed : List (List (Key × Node))) (last : List (Key × Node))

abbrev Fields := List (Key × Node)

namespace Fields

def put (key : Key) (node : Node) : Fields → Fields
  | [] => [(key, node)]
  | (k, n) :: rest => if k = key then (k, node) :: rest else (k, n) :: put key node rest

def within (change : Fields → Option Fields) : List Key → Fields → Option Fields
  | [], fields => change fields
  | k :: path, fields =>
    match fields.lookup k with
    | none => (within change path []).map fun inner => fields.put k (.table .inner inner)
    | some (.leaf _) => none
    | some (.table origin inner) => (within change path inner).map fun inner =>
      fields.put k (.table origin inner)
    | some (.tables closed last) => (within change path last).map fun last =>
      fields.put k (.tables closed last)

def openTable (key : Key) (fields : Fields) : Option Fields :=
  match fields.lookup key with
  | none => some (fields.put key (.table .header []))
  | some (.table .inner inner) => some (fields.put key (.table .header inner))
  | some _ => none

def openNext (key : Key) (fields : Fields) : Option Fields :=
  match fields.lookup key with
  | none => some (fields.put key (.tables [] []))
  | some (.tables closed last) => some (fields.put key (.tables (closed ++ [last]) []))
  | some _ => none

def insertNew (key : Key) (value : Json) (fields : Fields) : Option Fields :=
  match fields.lookup key with
  | none => some (fields.put key (.leaf value))
  | some _ => none

/-- Gives a dotted key a value. `ours` tells whether a dotted key has made the table, as it has to
be for the table that gets the value. -/
def insertDotted (key : Key) (value : Json) : (ours : Bool) → List Key → Fields → Option Fields
  | ours, [], fields => if ours then insertNew key value fields else none
  | _, k :: path, fields =>
    match fields.lookup k with
    | none => (insertDotted key value true path []).map fun inner =>
      fields.put k (.table .dotted inner)
    | some (.leaf _) => none
    | some (.table .header _) => none
    | some (.table origin inner) =>
      (insertDotted key value (origin = .dotted) path inner).map fun inner =>
        fields.put k (.table origin inner)
    | some (.tables closed last) =>
      (insertDotted key value false path last).map fun last => fields.put k (.tables closed last)

def insert (path : List Key) (key : Key) (value : Json) (fields : Fields) : Option Fields :=
  if path.isEmpty then insertNew key value fields else insertDotted key value false path fields

end Fields

mutual

def Node.toJson : Node → Json
  | .leaf value => value
  | .table _ fields => .obj (Node.toJsonFields fields)
  | .tables closed last => .arr (Node.toJsonTables closed ++ [.obj (Node.toJsonFields last)])

def Node.toJsonFields : List (Key × Node) → List (String × Json)
  | [] => []
  | (k, n) :: rest => (k, n.toJson) :: Node.toJsonFields rest

def Node.toJsonTables : List (List (Key × Node)) → List Json
  | [] => []
  | fields :: rest => .obj (Node.toJsonFields fields) :: Node.toJsonTables rest

end

structure Document where
  fields : Fields := []
  position : List Key := []

def Document.add (d : Document) : Line → Option Document
  | .header path key =>
    (Fields.within (Fields.openTable key) path d.fields).map fun fields => ⟨fields, path ++ [key]⟩
  | .arrayHeader path key =>
    (Fields.within (Fields.openNext key) path d.fields).map fun fields => ⟨fields, path ++ [key]⟩
  | .entry path key value =>
    (Fields.within (Fields.insert path key value) d.position d.fields).map
      fun fields => ⟨fields, d.position⟩

def ofLines? (lines : List Line) : Option Json := do
  let d ← lines.foldlM Document.add {}
  return .obj (Node.toJsonFields d.fields)

def ofEntries? (entries : List (List Key × Key × Json)) : Option Json := do
  let fields ← entries.foldlM (fun fields (path, key, value) => Fields.insert path key value fields)
    []
  return .obj (Node.toJsonFields fields)

end Lifeline.Toml
