import Lifeline.Files.Glob
import Lifeline.Path
import Lifeline.Text.Lines
import Lifeline.Text.White

namespace Lifeline

structure IgnoreRule where
  pattern : Pattern
  readmits : Bool
  onlyDirs : Bool

namespace IgnoreRule

def trimRight (cs : List Char) : List Char :=
  (cs.reverse.dropWhile Text.isWhite).reverse

def endsWith (tail cs : List Char) : Bool :=
  tail.isSuffixOf cs

def split (cs : List Char) : Bool × Bool × List Char :=
  match cs with
  | '\\' :: '!' :: rest => (false, false, '!' :: rest)
  | '\\' :: '#' :: rest => (false, false, '#' :: rest)
  | '!' :: '/' :: rest => (true, true, rest)
  | '!' :: rest => (true, false, rest)
  | '/' :: rest => (false, true, rest)
  | _ => (false, false, cs)

def splitDir (cs : List Char) : Bool × List Char :=
  match cs.reverse with
  | '/' :: '\\' :: rest => (true, rest.reverse)
  | '/' :: rest => (true, rest.reverse)
  | _ => (false, cs)

def spread (bound : Bool) (cs : List Char) : List Char :=
  let double := ['*', '*', '/']
  if bound || cs.contains '/' || cs == ['*', '*'] then cs else double ++ cs

def strictlyInside (cs : List Char) : List Char :=
  if endsWith ['/', '*', '*'] cs then cs ++ ['/', '*'] else cs

def ofLine? (line : List Char) : Option IgnoreRule := do
  let trimmed := if endsWith ['\\', ' '] line then line else trimRight line
  if line.head? == some '#' || trimmed.isEmpty then none
  else
    let (readmits, bound, rest) := split trimmed
    let (onlyDirs, rest) := splitDir rest
    return { pattern := ← Glob.pattern? (strictlyInside (spread bound rest)), readmits, onlyDirs }

def applies (r : IgnoreRule) (path : String) (isDir : Bool) : Bool :=
  (isDir || !r.onlyDirs) && r.pattern.isByteMatch path

end IgnoreRule

/-- What rules say about an entry. -/
inductive Verdict
  | leftOut
  | letIn
  deriving DecidableEq, Repr

abbrev IgnoreRules := List IgnoreRule

namespace IgnoreRules

def dropMarks : List (List Char) → List (List Char)
  | [] => []
  | first :: rest => first.dropWhile (· == '\ufeff') :: rest

def ofBytes (bytes : ByteArray) : IgnoreRules :=
  (dropMarks (Text.textLines bytes)).filterMap IgnoreRule.ofLine?

def verdict? (rules : IgnoreRules) (path : String) (isDir : Bool) : Option Verdict :=
  (rules.reverse.find? (·.applies path isDir)).map fun r => if r.readmits then .letIn else .leftOut

end IgnoreRules

/-- An entry that is come across on a walk. -/
structure Found where
  path : Path
  names : List String
  isDir : Bool

inductive RuleHome
  | walked (dir : Path)
  | above (names : List String)

namespace RuleHome

def dropDot : List Char → List Char
  | '.' :: '/' :: rest => rest
  | cs => cs

def dropSlash : List Char → List Char
  | '/' :: rest => rest
  | cs => cs

/-- What is left of a path behind a directory. Both are taken as they are spelled, without a `./` in
front or two of them in front of the path. -/
def behind (dir path : Path) : String :=
  let root := dropDot dir.text.toList
  let cs := dropDot (dropDot path.text.toList)
  let isHere := Path.components ⟨String.ofList root⟩ == [.current]
  if isHere || !cs.contains '/' || !root.isPrefixOf cs then String.ofList cs
  else String.ofList (dropSlash (cs.drop root.length))

def pathOf (found : Found) : RuleHome → String
  | .walked dir => behind dir found.path
  | .above names => "/".intercalate (names ++ found.names)

end RuleHome

structure IgnoreLevel where
  home : RuleHome
  plain : IgnoreRules
  /-- Rules of version control, and its private ones. -/
  tracked : IgnoreRules
  untracked : IgnoreRules
  /-- Version control starts here. -/
  isTop : Bool

namespace IgnoreLevel

/-- The levels up to the one where version control starts. None count if it does not start
anywhere. -/
def upToTop : List IgnoreLevel → List IgnoreLevel
  | [] => []
  | l :: rest => if l.isTop then [l] else l :: upToTop rest

def controlled (levels : List IgnoreLevel) : List IgnoreLevel :=
  if levels.any (·.isTop) then upToTop levels else []

def verdict? (levels : List IgnoreLevel) (found : Found) : Option Verdict :=
  let ask (rules : IgnoreLevel → IgnoreRules) (l : IgnoreLevel) :=
    (rules l).verdict? (l.home.pathOf found) found.isDir
  (levels.findSome? (ask plain)).or <|
    ((controlled levels).findSome? (ask tracked)).or <|
      (controlled levels).findSome? (ask untracked)

def leavesOut (levels : List IgnoreLevel) (found : Found) : Bool :=
  verdict? levels found == some .leftOut

end IgnoreLevel

end Lifeline
