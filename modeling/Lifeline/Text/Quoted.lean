import Lifeline.Text.Invisible

namespace Lifeline.Text

def escapeVisibly (quotes : List Char) (c : Char) : String :=
  if c == '\x00' then "\\0"
  else if c == '\t' then "\\t"
  else if c == '\n' then "\\n"
  else if c == '\r' then "\\r"
  else if c == '\\' || quotes.contains c then "\\" ++ c.toString
  else if isInvisible c then "\\u\x7b" ++ String.ofList (Nat.toDigits 16 c.toNat) ++ "\x7d"
  else c.toString

def quoted (s : String) : String :=
  "\"" ++ String.join (s.toList.map (escapeVisibly ['"'])) ++ "\""

def quotedPath (s : String) : String :=
  "\"" ++ String.join (s.toList.map (escapeVisibly ['"', '\''])) ++ "\""

end Lifeline.Text
