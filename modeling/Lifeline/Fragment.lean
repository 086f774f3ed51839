import Lifeline.Frame
import Lifeline.Text.White
import Lifeline.Text.Search

namespace Lifeline

inductive Fragment
  | opening (f : Frame)
  | alternative (f : Frame)
  | closing (f : Frame)
  deriving DecidableEq, Repr

namespace Fragment

def cross : Context → Context → List Fragment
  | f :: fs, g :: gs =>
    if g.isAlternativeOf f then fs.reverse.map closing ++ alternative g :: gs.map opening
    else (f :: fs).reverse.map closing ++ (g :: gs).map opening
  | fs, gs => fs.reverse.map closing ++ gs.map opening

/-- What is crossed from one context to another: innermost fragments close first, and what both
share stays open. -/
def between (prev next : Context) : List Fragment :=
  let shared := prev.sharedLength next
  cross (prev.drop shared) (next.drop shared)

end Fragment

def Frame.caption? (f : Frame) : Option String :=
  (f.label.map Text.singleLine).filter fun l => !l.isEmpty && l != "else"

def Text.noteText (comment : String) : String :=
  trim (dropStart "uml\x7bnote\x7d" (dropStart "\\" (trim comment)))

end Lifeline
