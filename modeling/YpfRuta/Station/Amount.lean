/-
  How `str::parse` reads an `f32` in a command, for decimal numerals: the amount is the
  exact number the text denotes. `inf` and `nan` are no numbers.
-/
import YpfRuta.Station.Simulator

namespace YpfRuta.Station

/-- Whether the text is negative, and what follows its sign. -/
def takeSign : List Char → Bool × List Char
  | '+' :: text => (false, text)
  | '-' :: text => (true, text)
  | text => (false, text)

def digitsValue (digits : List Char) : Nat :=
  digits.foldl (fun value c => value * 10 + (c.toNat - '0'.toNat)) 0

/-- The exponent that ends a numeral, if there is one. -/
def parseExponent : List Char → Option Int
  | [] => some 0
  | c :: text =>
    let (negative, digits) := takeSign text
    if (c = 'e' ∨ c = 'E') ∧ digits ≠ [] ∧ digits.all Char.isDigit then
      some (if negative then -(digitsValue digits : Int) else digitsValue digits)
    else none

/-- `value * 10 ^ exponent`. -/
def scale (value : Nat) (exponent : Int) : Amount :=
  if 0 ≤ exponent then ((value * 10 ^ exponent.toNat : Nat) : Amount)
  else (value : Amount) / ((10 ^ (-exponent).toNat : Nat) : Amount)

/-- The digits behind a decimal point, and what follows them. -/
def takeFraction : List Char → List Char × List Char
  | '.' :: text => (text.takeWhile Char.isDigit, text.dropWhile Char.isDigit)
  | text => ([], text)

/-- Digits on at least one side of the point, between an optional sign and an optional
    exponent. -/
def parseAmount (text : String) : Option Amount :=
  let (negative, text) := takeSign text.toList
  let whole := text.takeWhile Char.isDigit
  let (fraction, text) := takeFraction (text.dropWhile Char.isDigit)
  if whole = [] ∧ fraction = [] then none
  else (parseExponent text).map fun exponent =>
    let value := scale (digitsValue (whole ++ fraction)) (exponent - fraction.length)
    if negative then -value else value

/-- Exact amounts as they are typed. -/
@[reducible] def amountFromStr : FromStr Amount := ⟨parseAmount⟩

end YpfRuta.Station
