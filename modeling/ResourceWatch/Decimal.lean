/-!
Floating-point numbers of 64 bits, kept as their bit pattern so that two of them can be compared by
equality, and the reading of a decimal significand with an exponent.

The shortest decimal text that reads back as a given double: among the decimals that round to the
number, one with the fewest digits, and of those the nearest. The search runs over the number of
digits in exact arithmetic; the two neighbours of the value on each decimal grid are the only
candidates, because when any point of the grid rounds to the number one of these two does.
-/

namespace ResourceWatch.Decimal

structure Double where
  bits : UInt64
  deriving DecidableEq, Repr, Inhabited

namespace Double

def ofFloat (value : Float) : Double := ⟨value.toBits⟩

def toFloat (double : Double) : Float := Float.ofBits double.bits

def tenTo (exponent : Nat) : Float :=
  OfScientific.ofScientific 1 false exponent

def shrink (value : Float) (places : Nat) : Float :=
  if places ≤ 308 then value / tenTo places
  else if value == 0.0 then value
  else shrink (value / tenTo 308) (places - 308)
termination_by places

/-- The number `significand · 10 ^ exponent`: the significand is rounded to a double first and then
multiplied or divided by the power of ten, each step rounding once. Nothing when it is too large. -/
def ofScaled? (negative : Bool) (significand : Nat) (exponent : Int) : Option Double :=
  let start := Float.ofNat significand
  let magnitude? : Option Float :=
    match exponent with
    | .ofNat places =>
        if places ≤ 308 then
          let value := start * tenTo places
          if value.isInf then none else some value
        else if start == 0.0 then some start else none
    | .negSucc places => some (shrink start (places + 1))
  magnitude?.map fun value => ofFloat (if negative then -value else value)

def infinity (negative : Bool) : Double :=
  ⟨if negative then 0xFFF0000000000000 else 0x7FF0000000000000⟩

def nan : Double := ⟨0x7FF8000000000000⟩

/-- The number nearest to `significand · 10 ^ exponent`, infinity when it is beyond all of them. Far
beyond them, and far below them, the power of ten is not computed. -/
def nearest (negative : Bool) (significand : Nat) (exponent : Int) : Double :=
  let lead := (Nat.toDigits 10 significand).length + exponent
  if significand = 0 ∨ lead < -400 then ofFloat (if negative then -0.0 else 0.0)
  else if 400 < lead then infinity negative
  else
    let value : Float := OfScientific.ofScientific significand (exponent < 0) exponent.natAbs
    ofFloat (if negative then -value else value)

def isInfinite (double : Double) : Bool := double.toFloat.isInf

end Double

/-- A positive finite double with the ends of the interval of reals that round to it, all as
multiples of one fraction `scale / unit`; the ends belong to the interval when the significand is
even. -/
structure Rounding where
  value : Nat
  low : Nat
  high : Nat
  closed : Bool
  scale : Nat
  unit : Nat

def fractionCount : Nat := 4503599627370496

def Rounding.ofFields (exponent fraction : Nat) : Rounding :=
  let significand := if exponent = 0 then fraction else fraction + fractionCount
  let power : Int := (if exponent = 0 then -1074 else (exponent : Int) - 1075) - 2
  let below := if fraction = 0 ∧ 1 < exponent then 1 else 2
  { value := 4 * significand
    low := 4 * significand - below
    high := 4 * significand + 2
    closed := significand % 2 == 0
    scale := Nat.pow 2 power.toNat
    unit := Nat.pow 2 (-power).toNat }

def digitCount (value : Nat) : Nat := (Nat.toDigits 10 value).length

def leadingExponent (top bottom : Nat) : Int :=
  let guess : Int := (digitCount top : Int) - digitCount bottom
  let reaches := bottom * Nat.pow 10 guess.toNat ≤ top * Nat.pow 10 (-guess).toNat
  if reaches then guess else guess - 1

structure Digits where
  significand : Nat
  exponent : Int
  deriving DecidableEq, Repr

namespace Rounding

def admits (interval : Rounding) (point : Nat) (exponent : Int) : Bool :=
  let scaled := point * Nat.pow 10 exponent.toNat * interval.unit
  let weight := interval.scale * Nat.pow 10 (-exponent).toNat
  if interval.closed then
    interval.low * weight ≤ scaled && scaled ≤ interval.high * weight
  else interval.low * weight < scaled && scaled < interval.high * weight

/-- The point of the decimal grid that rounds to the double, the nearer when two do, an exact tie
going to the even one. -/
def onGrid? (interval : Rounding) (exponent : Int) : Option Nat :=
  let top := interval.value * interval.scale * Nat.pow 10 (-exponent).toNat
  let bottom := interval.unit * Nat.pow 10 exponent.toNat
  let under := top / bottom
  let rest := top % bottom
  -- Of two points that round to the double the nearer one counts, and of two as near the even one.
  let nearerUnder := 2 * rest < bottom || (2 * rest == bottom && under % 2 == 0)
  match interval.admits under exponent, interval.admits (under + 1) exponent with
  | true, true => some (if nearerUnder then under else under + 1)
  | true, false => some under
  | false, true => some (under + 1)
  | false, false => none

def search (interval : Rounding) (lead : Int) : Nat → Nat → Digits
  | 0, tried =>
      let exponent := lead - tried
      ⟨interval.value * interval.scale * Nat.pow 10 (-exponent).toNat
        / (interval.unit * Nat.pow 10 exponent.toNat), exponent⟩
  | more + 1, tried =>
      let exponent := lead - tried
      match interval.onGrid? exponent with
      | some point => if point = 0 then interval.search lead more (tried + 1) else ⟨point, exponent⟩
      | none => interval.search lead more (tried + 1)

def shortest (interval : Rounding) : Digits :=
  interval.search (leadingExponent (interval.value * interval.scale) interval.unit) 17 0

end Rounding

def Digits.reduced : Nat → Digits → Digits
  | 0, digits => digits
  | more + 1, digits =>
      if digits.significand % 10 = 0 ∧ digits.significand ≠ 0 then
        reduced more ⟨digits.significand / 10, digits.exponent + 1⟩
      else digits

/-- Positional notation below ten quadrillion and above a hundred-thousandth, always with a digit
on both sides of the point; scientific notation with a signed exponent beyond. -/
def Digits.text (digits : Digits) : String :=
  let chars := Nat.toDigits 10 digits.significand
  let count : Int := chars.length
  let point := count + digits.exponent
  if 0 ≤ digits.exponent ∧ point ≤ 16 then
    String.ofList (chars ++ List.replicate digits.exponent.toNat '0') ++ ".0"
  else if 0 < point ∧ point ≤ 16 then
    String.ofList (chars.take point.toNat) ++ "." ++ String.ofList (chars.drop point.toNat)
  else if -5 < point ∧ point ≤ 0 then
    "0." ++ String.ofList (List.replicate (-point).toNat '0' ++ chars)
  else
    let magnitude := (point - 1).natAbs
    let sign := if point - 1 < 0 then "-" else "+"
    let fraction := match chars with
      | [] => ""
      | [single] => String.ofList [single]
      | first :: rest => String.ofList (first :: '.' :: rest)
    fraction ++ "e" ++ sign ++ toString magnitude

def Double.text (double : Double) : String :=
  let raw := double.bits.toNat
  let exponent := raw / fractionCount % 2048
  let fraction := raw % fractionCount
  let sign := if raw / 9223372036854775808 = 1 then "-" else ""
  if exponent = 0 ∧ fraction = 0 then sign ++ "0.0"
  else sign ++ ((Rounding.ofFields exponent fraction).shortest.reduced 20).text

end ResourceWatch.Decimal
