/-!
# The shortest decimal of a binary fraction

A positive binary fraction is `mantissa * 2 ^ exponent`. The numbers that round to it lie between
the midpoints to its neighbours, ends included exactly if the mantissa is even. Of the decimals
among them the one with the fewest digits is chosen, of two such the nearer one, and the greater
one if both are equally near. It is written positionally, without an exponent and without a point
for a whole number.
-/
namespace Parley.Decimal

/-- The fraction `mantissa * 2 ^ exponent`. The neighbour below a binade's first fraction is only
half as far as the one above. -/
structure Binary where
  mantissa : Nat
  exponent : Int
  firstOfBinade : Bool
  deriving DecidableEq

/-- The number `digits * 10 ^ exponent`. -/
structure Digits where
  digits : Nat
  exponent : Int
  deriving DecidableEq

/-- The multiple of `10 ^ k` that is nearest to a fraction among those that round to it, if there is
one. All numbers are brought to whole multiples of one quarter of the last binary place. -/
def onGrid? (x : Binary) (k : Int) : Option Nat :=
  let scale := Nat.pow 2 x.exponent.toNat * Nat.pow 10 (-k).toNat
  let unit := 4 * Nat.pow 2 (-x.exponent).toNat * Nat.pow 10 k.toNat
  let value := 4 * x.mantissa * scale
  let low := (4 * x.mantissa - if x.firstOfBinade then 1 else 2) * scale
  let high := (4 * x.mantissa + 2) * scale
  let rounds (n : Nat) : Bool :=
    if x.mantissa % 2 = 0 then low ≤ n * unit && n * unit ≤ high
    else low < n * unit && n * unit < high
  let below := value / unit
  match rounds below, rounds (below + 1) with
  | true, true => some (if 2 * (value - below * unit) < unit then below else below + 1)
  | true, false => some below
  | false, true => some (below + 1)
  | false, false => none

/-- Tries the grids from `10 ^ k` downwards. -/
def firstGrid (x : Binary) : (tries : Nat) → (k : Int) → Digits
  | 0, k => ⟨0, k⟩
  | tries + 1, k =>
    match onGrid? x k with
    | some digits => ⟨digits, k⟩
    | none => firstGrid x tries (k - 1)

/-- The shortest decimal of a positive fraction below `2 ^ 1024` with an exponent from -1074 on. -/
def shortestDigits (x : Binary) : Digits := firstGrid x 660 309

def Digits.text (d : Digits) : String :=
  let written := Nat.toDigits 10 d.digits
  let places := (-d.exponent).toNat
  if places = 0 then String.ofList (written ++ List.replicate d.exponent.toNat '0')
  else
    let padded := List.replicate (places + 1 - written.length) '0' ++ written
    let whole := padded.length - places
    String.ofList (padded.take whole ++ '.' :: padded.drop whole)

/-- How many values the fraction field of a double has. -/
def fractionCount : Nat := 0x10000000000000

/-- How many values its exponent field has; the last one marks infinities and what is no number. -/
def exponentCount : Nat := 0x800

/-- The positive finite number with these fields of the double format. -/
def Binary.ofFields (biased fraction : Nat) : Binary :=
  if biased = 0 then ⟨fraction, -1074, false⟩
  else ⟨fractionCount + fraction, (biased : Int) - 1075, fraction = 0 && biased ≠ 1⟩

/-- The decimal that a program prints for a number: the shortest that reads back as the same one. -/
def shortest (x : Float) : String :=
  let bits := x.toBits.toNat
  let biased := bits / fractionCount % exponentCount
  let fraction := bits % fractionCount
  let sign := if bits / fractionCount < exponentCount then "" else "-"
  if biased + 1 = exponentCount then if fraction = 0 then sign ++ "inf" else "NaN"
  else if biased = 0 && fraction = 0 then sign ++ "0"
  else sign ++ (shortestDigits (.ofFields biased fraction)).text

end Parley.Decimal
