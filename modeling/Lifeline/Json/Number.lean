import Lifeline.Json.Basic
import Lifeline.Text.Double

namespace Lifeline.Json

open Text Text.Reader

structure Written where
  minus : Bool
  whole : List Char
  fraction : List Char
  exponent : List Char

namespace Written

/-- Digits are taken in as long as the significand has 64 bits. Further digits in front of the point
only count. -/
def takeWhole : List Char → Nat × Nat :=
  List.foldl (fun (significand, left) c =>
    let next := significand * 10 + (digit? 10 c).getD 0
    if left > 0 || next ≥ UInt64.size then (significand, left + 1) else (next, 0)) (0, 0)

def takeFraction (significand : Nat) : List Char → Nat × Nat
  | [] => (significand, 0)
  | c :: rest =>
    let next := significand * 10 + (digit? 10 c).getD 0
    if next ≥ UInt64.size then (significand, 0)
    else
      let (all, taken) := takeFraction next rest
      (all, taken + 1)

def isInfinite (w : Written) : Bool :=
  let (whole, left) := takeWhole w.whole
  let (significand, taken) := takeFraction whole w.fraction
  Double.productIsInfinite significand (left - taken + Double.exponentOf w.exponent)

def text (w : Written) : String :=
  let part (mark : Char) (cs : List Char) := if cs.isEmpty then [] else mark :: cs
  String.ofList
    ((if w.minus then ['-'] else []) ++ w.whole ++ part '.' w.fraction ++ part 'e' w.exponent)

def toJson (w : Written) : Json :=
  if w.isInfinite then .unusable
  else if !w.minus && w.fraction.isEmpty && w.exponent.isEmpty then .num (number 10 w.whole)
  else .literal w.text

end Written

def readFraction : Reader (List Char) := do
  if ← tryText "." then takeWhile1 isDigit else return []

def readExponent : Reader (List Char) := do
  match ← peek? with
  | some 'e' | some 'E' =>
    let _ ← any
    let sign ← takeWhile fun c => c == '+' || c == '-'
    if sign.length ≤ 1 then return sign ++ (← takeWhile1 isDigit) else failure
  | _ => return []

def readWritten : Reader Written := do
  let minus ← tryText "-"
  let whole ← takeWhile1 isDigit
  if whole.length > 1 && whole.head? == some '0' then failure
  return { minus, whole, fraction := ← readFraction, exponent := ← readExponent }

def readNumber : Reader Json := do
  return (← readWritten).toJson

end Lifeline.Json
