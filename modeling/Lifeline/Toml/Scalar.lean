import Lifeline.Json.Basic
import Lifeline.Text.Double

namespace Lifeline.Toml

open Text Text.Reader

def isBlank (c : Char) : Bool :=
  c == ' ' || c == '\t'

def blanks : Reader Unit :=
  skipWhile isBlank

def isPlain (c : Char) : Bool :=
  c == '\t' || (0x20 ≤ c.toNat && c.toNat != 0x7f)

def newline : Reader Unit := do
  if ← tryText "\n" then return () else text "\r\n"

def comment : Reader Unit := do
  if ← tryText "#" then skipWhile isPlain

def readHexDigits : (count : Nat) → Reader (List Char)
  | 0 => return []
  | count + 1 => do return (← satisfy isHexDigit) :: (← readHexDigits count)

def readEscape : Reader Char := do
  match ← any with
  | '"' => return '"'
  | '\\' => return '\\'
  | 'b' => return '\x08'
  | 'f' => return '\x0c'
  | 'n' => return '\n'
  | 'r' => return '\r'
  | 't' => return '\t'
  | 'u' => liftM (scalar? (number 16 (← readHexDigits 4)))
  | 'U' => liftM (scalar? (number 16 (← readHexDigits 8)))
  | _ => failure

def readBasic : (fuel : Nat) → (acc : List Char) → Reader (List Char)
  | 0, _ => failure
  | fuel + 1, acc => do
    let c ← any
    if c == '"' then return acc.reverse
    else if c == '\\' then readBasic fuel ((← readEscape) :: acc)
    else if isPlain c then readBasic fuel (c :: acc)
    else failure

def readLiteral : Reader (List Char) := do
  let cs ← takeWhile fun c => isPlain c && c != '\''
  char '\''
  return cs

def skipBlankLines : (fuel : Nat) → Reader Unit
  | 0 => failure
  | fuel + 1 => do
    blanks
    match ← attempt newline with
    | some _ => skipBlankLines fuel
    | none => return ()

/-- The rest of a multi-line string. The delimiter is three of `quote`; up to two more right before
it belong to the string. A line end counts as one character, however it is written. -/
def readLong (quote : Char) (escapes : Bool) : (fuel : Nat) → (acc : List Char) → Reader (List Char)
  | 0, _ => failure
  | fuel + 1, acc => do
    if ← tryText (String.ofList [quote, quote, quote]) then
      let more ← takeWhile (· == quote)
      if more.length ≤ 2 then return acc.reverse ++ more else failure
    else if (← attempt newline).isSome then readLong quote escapes fuel ('\n' :: acc)
    else
      let c ← any
      if escapes && c == '\\' then
        match ← attempt (do blanks; newline) with
        | some _ =>
          skipBlankLines fuel
          readLong quote escapes fuel acc
        | none => readLong quote escapes fuel ((← readEscape) :: acc)
      else if isPlain c then readLong quote escapes fuel (c :: acc)
      else failure

def readString (fuel : Nat) : Reader String := do
  if ← tryText "\"\"\"" then
    let _ ← attempt newline
    return String.ofList (← readLong '"' true fuel [])
  else if ← tryText "'''" then
    let _ ← attempt newline
    return String.ofList (← readLong '\'' false fuel [])
  else if ← tryText "\"" then return String.ofList (← readBasic fuel [])
  else
    char '\''
    return String.ofList (← readLiteral)

def readDigits (isDigit : Char → Bool) : (fuel : Nat) → Reader (List Char)
  | 0 => failure
  | fuel + 1 => do
    let cs ← takeWhile1 isDigit
    if ← tryText "_" then return cs ++ (← readDigits isDigit fuel) else return cs

def readSign : Reader (List Char) := do
  if ← tryText "-" then return ['-']
  else
    let _ ← tryText "+"
    return []

def readWhole (fuel : Nat) : Reader (List Char) := do
  if ← tryText "0" then return ['0'] else readDigits isDigit fuel

def readFraction (fuel : Nat) : Reader (List Char) := do
  if ← tryText "." then return '.' :: (← readDigits isDigit fuel) else return []

def readExponent (fuel : Nat) : Reader (List Char) := do
  match ← peek? with
  | some 'e' | some 'E' =>
    let _ ← any
    return 'e' :: (← readSign) ++ (← readDigits isDigit fuel)
  | _ => return []

def isInfinite (whole fraction exponent : List Char) : Bool :=
  let digits := fraction.drop 1
  Double.isInfinite (number 10 (whole ++ digits))
    (Double.exponentOf (exponent.drop 1) - digits.length)

def readFloat (fuel : Nat) : Reader Json := do
  let sign ← readSign
  if ← tryText "inf" then return .literal (String.ofList (sign ++ "inf".toList))
  else if ← tryText "nan" then return .literal (String.ofList (sign ++ "nan".toList))
  else
    let whole ← readWhole fuel
    let fraction ← readFraction fuel
    let exponent ← readExponent fuel
    if fraction.isEmpty && exponent.isEmpty then failure
    if sign.isEmpty && isInfinite whole fraction exponent then failure
    return .literal (String.ofList (sign ++ whole ++ fraction ++ exponent))

def maxInteger : Nat := 0x7fffffffffffffff

def readBased (base : Nat) (fuel : Nat) : Reader Json := do
  let n := number base (← readDigits (fun c => (digit? base c).isSome) fuel)
  if n ≤ maxInteger then return .num n else failure

def readInteger (fuel : Nat) : Reader Json := do
  if ← tryText "0x" then readBased 16 fuel
  else if ← tryText "0o" then readBased 8 fuel
  else if ← tryText "0b" then readBased 2 fuel
  else
    let sign ← readSign
    let n := number 10 (← readWhole fuel)
    if sign.isEmpty || n == 0 then
      if n ≤ maxInteger then return .num n else failure
    else if n ≤ maxInteger + 1 then return .literal ("-" ++ Nat.repr n)
    else failure

def readFixed : (count : Nat) → Reader (List Char)
  | 0 => return []
  | count + 1 => do return (← satisfy isDigit) :: (← readFixed count)

def readWithin (count low high : Nat) : Reader (List Char) := do
  let cs ← readFixed count
  let n := number 10 cs
  if low ≤ n && n ≤ high then return cs else failure

def isLeapYear (year : Nat) : Bool :=
  year % 4 == 0 && (year % 100 != 0 || year % 400 == 0)

def daysIn (year month : Nat) : Nat :=
  if month == 2 then (if isLeapYear year then 29 else 28)
  else if month == 4 || month == 6 || month == 9 || month == 11 then 30
  else 31

def readDate : Reader (List Char) := do
  let year ← readFixed 4
  char '-'
  let month ← readWithin 2 1 12
  char '-'
  let day ← readWithin 2 1 (daysIn (number 10 year) (number 10 month))
  return year ++ '-' :: month ++ '-' :: day

def readTime : Reader (List Char) := do
  let hour ← readWithin 2 0 23
  char ':'
  let minute ← readWithin 2 0 59
  char ':'
  let second ← readWithin 2 0 60
  let fraction ← if ← tryText "." then do pure ('.' :: (← takeWhile1 isDigit)) else pure []
  return hour ++ ':' :: minute ++ ':' :: second ++ fraction

def readOffset : Reader (List Char) := do
  match ← any with
  | 'Z' | 'z' => return ['Z']
  | c =>
    if c == '+' || c == '-' then
      let hour ← readWithin 2 0 23
      char ':'
      let minute ← readWithin 2 0 59
      return c :: hour ++ ':' :: minute
    else failure

def readTimeOfDay : Reader (List Char) := do
  let _ ← satisfy fun c => c == 'T' || c == 't' || c == ' '
  let time ← readTime
  let offset ← attempt readOffset
  return 'T' :: time ++ offset.getD []

def ofMoment (cs : List Char) : Json :=
  .obj [("moment", .str (String.ofList cs))]

def readMoment : Reader Json := do
  match ← attempt readDate with
  | some date =>
    let time ← attempt readTimeOfDay
    return ofMoment (date ++ time.getD [])
  | none => return ofMoment (← readTime)

def readNumber (fuel : Nat) : Reader Json := do
  match ← attempt readMoment with
  | some j => return j
  | none =>
    match ← attempt (readFloat fuel) with
    | some j => return j
    | none => readInteger fuel

end Lifeline.Toml
