namespace Lifeline.Text

def isWhite (c : Char) : Bool :=
  let n := c.toNat
  (0x09 ≤ n && n ≤ 0x0d) || n == 0x20 || n == 0x85 || n == 0xa0 || n == 0x1680 ||
    (0x2000 ≤ n && n ≤ 0x200a) || n == 0x2028 || n == 0x2029 || n == 0x202f || n == 0x205f ||
    n == 0x3000

def trimChars (cs : List Char) : List Char :=
  ((cs.dropWhile isWhite).reverse.dropWhile isWhite).reverse

def trim (s : String) : String :=
  String.ofList (trimChars s.toList)

def wordStep (c : Char) : List Char × List (List Char) → List Char × List (List Char)
  | (w, ws) =>
    if isWhite c then ([], if w.isEmpty then ws else w :: ws) else (c :: w, ws)

def words (cs : List Char) : List (List Char) :=
  match cs.foldr wordStep ([], []) with
  | (w, ws) => if w.isEmpty then ws else w :: ws

def singleLine (s : String) : String :=
  " ".intercalate ((words s.toList).map String.ofList)

@[simp] theorem words_nil : words [] = [] := rfl

end Lifeline.Text
