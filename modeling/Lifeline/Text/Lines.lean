namespace Lifeline.Text

def addByte (b : UInt8) : List (List UInt8) → List (List UInt8)
  | [] => [[b]]
  | line :: rest => if b = 0x0a then [] :: line :: rest else (b :: line) :: rest

/-- The lines of some bytes. Only a line that is followed by another one loses a carriage return at
its end. -/
def byteLines (bytes : List UInt8) : List (List UInt8) :=
  let lines := bytes.foldr addByte [[]]
  lines.dropLast.map (fun l => if l.getLast? = some 0x0d then l.dropLast else l) ++
    lines.getLast?.toList

def decodeLines : List (List UInt8) → List (List Char)
  | [] => []
  | line :: rest =>
    match String.fromUTF8? ⟨line.toArray⟩ with
    | some text => text.toList :: decodeLines rest
    | none => []

def textLines (bytes : ByteArray) : List (List Char) :=
  decodeLines (byteLines bytes.toList)

def firstLine? (bytes : ByteArray) : Option (List Char) :=
  if bytes.isEmpty then none else (textLines bytes).head?

end Lifeline.Text
