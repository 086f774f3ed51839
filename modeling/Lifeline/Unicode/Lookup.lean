import Lifeline.Unicode.Age
import Lifeline.Unicode.Category
import Lifeline.Unicode.Property
import Lifeline.Unicode.Script
import Lifeline.Unicode.ScriptExtension
import Lifeline.Unicode.Segment

namespace Lifeline.Unicode

def isJoint (c : Char) : Bool :=
  c == ' ' || c == '_' || c == '-'

def plainName (name : String) : String :=
  let cs := name.toList
  let hasIs := (cs.take 2).map Char.toLower == ['i', 's']
  let rest := ((if hasIs then cs.drop 2 else cs).filter fun c => !isJoint c && c.toNat < 0x80).map
    Char.toLower
  if hasIs && rest == ['c'] then "isc" else String.ofList rest

def categorySet (names : List String) : CharSet :=
  .unions (names.filterMap (find? categories))

def categoryGroup? : String → Option CharSet
  | "l" | "letter" => some (categorySet ["lu", "ll", "lt", "lm", "lo"])
  | "lc" | "casedletter" => some (categorySet ["lu", "ll", "lt"])
  | "m" | "mark" | "combiningmark" => some (categorySet ["mn", "mc", "me"])
  | "n" | "number" => some (categorySet ["nd", "nl", "no"])
  | "p" | "punctuation" | "punct" => some (categorySet ["pc", "pd", "ps", "pe", "pi", "pf", "po"])
  | "s" | "symbol" => some (categorySet ["sm", "sc", "sk", "so"])
  | "z" | "separator" => some (categorySet ["zs", "zl", "zp"])
  | "c" | "other" => some (categorySet ["cc", "cf", "co", "cn"])
  | "any" => some .all
  | "ascii" => some (.range 0 0x7f)
  | "assigned" => some (categorySet ["cn"]).compl
  | _ => none

def category? (name : String) : Option CharSet :=
  (categoryGroup? name).or (find? categories name)

def age? (name : String) : Option CharSet :=
  let later := ages.dropWhile fun s => !s.names.contains name
  if later.isEmpty then none
  else some (.unions ((ages.take (ages.length - later.length + 1)).map NamedSet.set))

def named? (name : String) : Option CharSet :=
  let name := plainName name
  (find? properties name).or ((category? name).or (find? scripts name))

def valued? (property value : String) : Option CharSet :=
  let value := plainName value
  match plainName property with
  | "gc" | "generalcategory" => category? value
  | "sc" | "script" => find? scripts value
  | "scx" | "scriptextensions" => find? scriptExtensions value
  | "age" => age? value
  | "gcb" | "graphemeclusterbreak" => find? graphemeBreaks value
  | "sb" | "sentencebreak" => find? sentenceBreaks value
  | "wb" | "wordbreak" => find? wordBreaks value
  | _ => none

def propertySet (name : String) : CharSet :=
  (find? properties name).getD .none

def digits : CharSet :=
  categorySet ["nd"]

def white : CharSet :=
  propertySet "whitespace"

def wordChars : CharSet :=
  .unions [propertySet "alphabetic", categorySet ["mn", "mc", "me", "nd", "pc"],
    propertySet "joincontrol"]

def newLetters : CharSet :=
  .ofRanges [(0x88f, 0x88f), (0xc5c, 0xc5c), (0xcdc, 0xcdc), (0xa7ce, 0xa7cf),
    (0xa7d2, 0xa7d2), (0xa7d4, 0xa7d4),
    (0xa7f1, 0xa7f1), (0x10940, 0x10959), (0x10ec5, 0x10ec7), (0x10efa, 0x10efb),
    (0x11b60, 0x11b67),
    (0x11db0, 0x11ddb), (0x16ea0, 0x16eb8), (0x16ebb, 0x16ed3), (0x16ff2, 0x16ff6),
    (0x187f8, 0x187ff),
    (0x18d09, 0x18d1e), (0x18d80, 0x18df2), (0x1e6c0, 0x1e6de), (0x1e6e0, 0x1e6f5),
    (0x1e6fe, 0x1e6ff),
    (0x2b73a, 0x2b73f), (0x2cea2, 0x2cead), (0x323b0, 0x33479)]

def newDigits : CharSet :=
  .range 0x11de0 0x11de9

def letters : CharSet :=
  .unions [propertySet "alphabetic", newLetters]

def lettersAndNumbers : CharSet :=
  .unions [letters, categorySet ["nd", "nl", "no"], newDigits]

end Lifeline.Unicode
