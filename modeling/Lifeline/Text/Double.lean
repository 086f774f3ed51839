import Lifeline.Text.Reader

namespace Lifeline.Double

def bound : Nat := (1 <<< 1024) - (1 <<< 970)

def nearest (n : Nat) : Nat :=
  let unit := 1 <<< (n.log2 + 1 - 53)
  let (q, r) := (n / unit, n % unit)
  (if 2 * r > unit || (2 * r == unit && q % 2 == 1) then q + 1 else q) * unit

def maxExponent : Nat := 308

def productIsInfinite (significand : Nat) (exponent : Int) : Bool :=
  match exponent with
  | .ofNat e =>
    significand != 0 && (e > maxExponent || nearest significand * nearest (Nat.pow 10 e) ≥ bound)
  | .negSucc _ => false

def places (significand : Nat) (exponent : Int) : Int :=
  (Nat.toDigits 10 significand).length + exponent

/-- Whether the double nearest to a number is infinite. Far from the bound, counting places is
enough. -/
def isInfinite (significand : Nat) (exponent : Int) : Bool :=
  if significand = 0 then false
  else if places significand exponent > maxExponent + 1 then true
  else if places significand exponent < maxExponent then false
  else
    match exponent with
    | .ofNat e => significand * Nat.pow 10 e ≥ bound
    | .negSucc e => significand ≥ bound * Nat.pow 10 (e + 1)

def exponentOf : List Char → Int
  | '-' :: digits => -(Text.number 10 digits : Int)
  | '+' :: digits => Text.number 10 digits
  | digits => Text.number 10 digits

end Lifeline.Double
