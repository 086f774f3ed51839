import Lifeline.Path
import Lifeline.Json.Record

namespace Lifeline

structure Location where
  file : Path
  line : UInt32
  column : UInt32
  deriving DecidableEq, Repr

namespace Path

def ofJson? (j : Json) : Option Path :=
  j.str?.map Path.mk

def toJson (p : Path) : Json :=
  .str p.text

end Path

namespace Location

def same (a b : Location) : Bool :=
  a.file.same b.file && a.line == b.line && a.column == b.column

def toJson (l : Location) : Json :=
  .obj [("file", l.file.toJson), ("line", .num l.line.toNat), ("column", .num l.column.toNat)]

def ofJson? (j : Json) : Option Location := do
  let r ← j.record? ["file", "line", "column"]
  return {
    file := ← r.defaulted "file" Path.ofJson? ⟨""⟩
    line := ← r.required "line" Json.word32?
    column := ← r.defaulted "column" Json.word32? 0 }

end Location

end Lifeline
