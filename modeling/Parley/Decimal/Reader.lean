import Parley.Decimal.Digit

/-!
# Reading decimals

A number is an optional sign and either digits with an optional point among or around them and an
optional exponent, or a word for infinity or for not a number, in any case. It stands for the
double nearest to it.
-/
namespace Parley.Decimal

/-- Parts a text into its sign, true for minus, and the rest. -/
def sign : List Char → Bool × List Char
  | '-' :: rest => (true, rest)
  | '+' :: rest => (false, rest)
  | text => (false, text)

/-- The value of an exponent, which may be missing. -/
def exponent? : List Char → Option Int
  | [] => some 0
  | c :: rest =>
    let (negative, digits) := sign rest
    if (c = 'e' || c = 'E') && !digits.isEmpty && digits.all isDigit then
      some (if negative then -(value digits : Int) else value digits)
    else none

/-- The double nearest to `digits * 10 ^ exponent`. Where the number of digits shows that the result
is zero or infinite, the power is not computed. -/
def nearest (digits : Nat) (exponent : Int) : Float :=
  let magnitude := (Nat.toDigits 10 digits).length + exponent
  if digits = 0 || magnitude < -330 then 0
  else if 310 < magnitude then 1 / 0
  else Float.ofScientific digits (exponent < 0) exponent.natAbs

/-- The number without a sign that a text spells. -/
def magnitude? (text : List Char) : Option Float :=
  let whole := text.takeWhile isDigit
  let rest := text.dropWhile isDigit
  let (fraction, rest) :=
    match rest with
    | '.' :: rest => (rest.takeWhile isDigit, rest.dropWhile isDigit)
    | rest => ([], rest)
  if whole.isEmpty && fraction.isEmpty then none
  else (exponent? rest).map fun exponent =>
    nearest (value (whole ++ fraction)) (exponent - fraction.length)

/-- The number that a text spells. -/
def read? (text : List Char) : Option Float :=
  let (negative, rest) := sign text
  let word := String.ofList (rest.map Char.toLower)
  let number? :=
    if word = "inf" || word = "infinity" then some (1 / 0)
    else if word = "nan" then some (0 / 0)
    else magnitude? rest
  number?.map fun x => if negative then -x else x

end Parley.Decimal
