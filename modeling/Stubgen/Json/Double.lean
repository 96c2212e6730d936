import Stubgen.Json.Basic

/-!
# Fractions as doubles

A number of JSON that is no whole number of 64 bits is taken as a double.  A
double is written with the fewest digits that read back as the same double; of
the candidates with that many digits the one nearest to it is taken.
-/

namespace Stubgen.Json

/-- A finite positive double, as `mantissa · 2 ^ exponent`. -/
structure Double where
  mantissa : Nat
  exponent : Int
  deriving DecidableEq, Repr

structure Numeral where
  digits : Nat
  exponent : Int
  deriving DecidableEq, Repr

namespace Double

/-- The double of a positive finite `Float`. -/
def ofFloat (f : Float) : Double :=
  let bits : Nat := f.toBits.toNat % Nat.pow 2 63
  let exponent : Nat := bits / Nat.pow 2 52
  let fraction : Nat := bits % Nat.pow 2 52
  if exponent = 0 then ⟨fraction, -1074⟩
  else ⟨fraction + Nat.pow 2 52, (exponent : Int) - 1075⟩

/-- Four times a numerator of the double over `denominator`. -/
def fourfold (d : Double) : Nat := 4 * d.mantissa * Nat.pow 2 d.exponent.toNat

def denominator (d : Double) : Nat := Nat.pow 2 (-d.exponent).toNat

/-- How far below the double the numbers reach that read back as it, in the
units of `fourfold`.  Below a power of two the doubles lie twice as close. -/
def reachBelow (d : Double) : Nat :=
  (if d.mantissa = Nat.pow 2 52 ∧ d.exponent ≠ -1074 then 1 else 2) *
    Nat.pow 2 d.exponent.toNat

def reachAbove (d : Double) : Nat := 2 * Nat.pow 2 d.exponent.toNat

/-- Whether a numeral reads back as the double.  The ends of the interval do if
the mantissa is even. -/
def isReadFrom (d : Double) (n : Numeral) : Bool :=
  let value := 4 * n.digits * Nat.pow 10 n.exponent.toNat * d.denominator
  let scale := Nat.pow 10 (-n.exponent).toNat
  let low := (d.fourfold - d.reachBelow) * scale
  let high := (d.fourfold + d.reachAbove) * scale
  if d.mantissa % 2 = 0 then low ≤ value && value ≤ high
  else low < value && value < high

/-- The numeral with unit `10 ^ exponent` just below the double, and by how much
it is below, in parts of `2 · 10 ^ exponent` counted over the second number. -/
def below (d : Double) (exponent : Int) : Numeral × Nat × Nat :=
  let top := d.fourfold * Nat.pow 10 (-exponent).toNat
  let bottom := 4 * d.denominator * Nat.pow 10 exponent.toNat
  (⟨top / bottom, exponent⟩, 2 * (top % bottom), bottom)

/-- The nearest numeral with a unit that reads back as the double, if one
does. -/
def numeralAt? (d : Double) (exponent : Int) : Option Numeral :=
  let (floor, rest, unit) := d.below exponent
  let ceiling : Numeral := ⟨floor.digits + 1, exponent⟩
  let (first, second) :=
    if rest < unit || (rest = unit && floor.digits % 2 = 0) then
      (floor, ceiling)
    else (ceiling, floor)
  if 0 < first.digits && d.isReadFrom first then some first
  else if 0 < second.digits && d.isReadFrom second then some second
  else none

/-- The numeral with the largest unit that reads back as the double, from a unit
downwards. -/
def shortestFrom (d : Double) : (steps : Nat) → (exponent : Int) → Numeral
  | 0, exponent => (d.below exponent).1
  | steps + 1, exponent =>
    (d.numeralAt? exponent).getD (shortestFrom d steps (exponent - 1))

/-- The shortest numeral that reads back as the double. -/
def shortest (d : Double) : Numeral := shortestFrom d 640 309

end Double

/-- The text of a numeral: positional up to sixteen places before the point and
five behind it, else with an exponent. -/
def Numeral.text (n : Numeral) : Text :=
  let digits := Text.ofNat n.digits
  let length : Int := digits.length
  let point := length + n.exponent
  if 0 ≤ n.exponent ∧ point ≤ 16 then
    digits ++ List.replicate n.exponent.toNat '0' ++ ".0".toList
  else if 0 < point ∧ point ≤ 16 then
    digits.take point.toNat ++ '.' :: digits.drop point.toNat
  else if -5 < point ∧ point ≤ 0 then
    "0.".toList ++ List.replicate (-point).toNat '0' ++ digits
  else
    let exponent := 'e' :: integerText (point - 1)
    if digits.length = 1 then digits ++ exponent
    else digits.take 1 ++ '.' :: digits.drop 1 ++ exponent

namespace Number

/-- The largest digits that a fraction is read with. -/
def maxDigits : Nat := Nat.pow 2 64 - 1

/-- Drops digits at the end until the rest is small enough. -/
def limitDigits (digits : Nat) (exponent : Int) : Nat × Int :=
  if h : maxDigits < digits then
    have : digits / 10 < digits :=
      Nat.div_lt_self (by simp [maxDigits] at h; omega) (by decide)
    limitDigits (digits / 10) (exponent + 1)
  else (digits, exponent)
termination_by digits

def powerOfTen (k : Nat) : Float := Float.ofScientific 1 false k

/-- A double divided by a power of ten, in steps of the largest power that is a
double. -/
def divideByPower (f : Float) (k : Nat) : Float :=
  if k ≤ 308 then f / powerOfTen k
  else if f == 0.0 then f
  else divideByPower (f / powerOfTen 308) (k - 308)
termination_by k

/-- The double of a fraction; `none` if it is too large. -/
def toFloat? (digits : Nat) (exponent : Int) : Option Float :=
  let (digits, exponent) := limitDigits digits exponent
  let f := (UInt64.ofNat digits).toFloat
  match exponent with
  | .ofNat k =>
    if f == 0.0 then some f
    else if 308 < k then none
    else if (f * powerOfTen k).isInf then none
    else some (f * powerOfTen k)
  | .negSucc k => some (divideByPower f (k + 1))

/-- The text of a fraction; `none` if it is too large. -/
def fractionText? (negative : Bool) (digits : Nat) (exponent : Int) :
    Option Text :=
  (toFloat? digits exponent).map fun f =>
    (if negative then ['-'] else []) ++
      if f == 0.0 then "0.0".toList else (Double.ofFloat f).shortest.text

/-- What kind of number a number is, and its text; `none` if it is too large. -/
def describe? : Number → Option Text
  | integer value =>
    if -Int.pow 2 63 ≤ value ∧ value < Int.pow 2 64 then
      some ("integer `".toList ++ integerText value ++ ['`'])
    else
      (fractionText? (value < 0) value.natAbs 0).map fun t =>
        "floating point `".toList ++ t ++ ['`']
  | decimal negative digits exponent =>
    (fractionText? negative digits exponent).map fun t =>
      "floating point `".toList ++ t ++ ['`']

end Number
end Stubgen.Json
