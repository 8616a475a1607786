/-!
# Binary floating-point numbers

A number of the 64-bit binary format is kept as its bits, so that equality is decidable and nothing
about it hides behind the arithmetic of the machine. Reading a decimal gives the nearest such
number, a tie going to the one with an even significand, all in exact arithmetic on natural numbers.
-/

namespace ScriptVet.Decimal

/-- A number of the 64-bit binary floating-point format. -/
structure Double where
  bits : UInt64
  deriving Repr, DecidableEq, Inhabited

namespace Double

/-- The bits of the sign. -/
def signBit : Nat := Nat.pow 2 63

/-- The bits of infinity; a number that rounds to this or more is infinite. -/
def infinityBits : Nat := 0x7FF * Nat.pow 2 52

/-- The number with the given sign and the given other bits. -/
def ofMagnitude (negative : Bool) (magnitude : Nat) : Double :=
  ⟨UInt64.ofNat ((if negative then signBit else 0) + magnitude)⟩

/-- The bits without the sign. -/
def magnitude (x : Double) : Nat :=
  x.bits.toNat % signBit

/-- The sign is set; also zero and the numbers that are none have one. -/
def isNegative (x : Double) : Bool :=
  signBit ≤ x.bits.toNat

def infinity (negative : Bool) : Double :=
  ofMagnitude negative infinityBits

/-- The bits that stand for no number. -/
def notANumber : Double :=
  ofMagnitude false (infinityBits + Nat.pow 2 51)

def isNotANumber (x : Double) : Bool :=
  infinityBits < x.magnitude

def isInfinite (x : Double) : Bool :=
  x.magnitude == infinityBits

def isFinite (x : Double) : Bool :=
  x.magnitude < infinityBits

/-- A finite number without its sign is a significand times a power of two; this is the
significand. -/
def significand (x : Double) : Nat :=
  let fraction := x.magnitude % Nat.pow 2 52
  if x.magnitude < Nat.pow 2 52 then fraction else Nat.pow 2 52 + fraction

/-- The exponent of the power of two, raised by 1074 so that it is never negative. -/
def raisedExponent (x : Double) : Nat :=
  x.magnitude / Nat.pow 2 52 - 1

/-- The quotient rounded to the nearest natural number, a tie to the even one. -/
def roundQuotient (num den : Nat) : Nat :=
  let q := num / den
  let twice := 2 * (num % den)
  if twice < den || (twice == den && q % 2 == 0) then q else q + 1

/-- How many doublings lead from one to the last power of two that is at most the quotient; negative
for a quotient below one. -/
def floorLog2 (num den : Nat) : Int :=
  let guess : Int := num.log2 - den.log2
  let reached :=
    if 0 ≤ guess then den * Nat.pow 2 guess.toNat ≤ num else den ≤ num * Nat.pow 2 (-guess).toNat
  if reached then guess else guess - 1

/-- The number nearest to a quotient of positive numbers. -/
def ofQuotient (negative : Bool) (num den : Nat) : Double :=
  let raised := (floorLog2 num den + 1022).toNat
  let significand :=
    if 1074 ≤ raised then roundQuotient num (den * Nat.pow 2 (raised - 1074))
    else roundQuotient (num * Nat.pow 2 (1074 - raised)) den
  ofMagnitude negative (min (raised * Nat.pow 2 52 + significand) infinityBits)

/-- The number nearest to digits times a power of ten. Decimals beyond the range of the format need
no arithmetic. -/
def ofDecimal (negative : Bool) (digits : Nat) (exponent : Int) : Double :=
  if digits = 0 then ofMagnitude negative 0
  else
    let places : Int := (Nat.toDigits 10 digits).length
    if 310 < places + exponent then infinity negative
    else if places + exponent < -330 then ofMagnitude negative 0
    else if 0 ≤ exponent then ofQuotient negative (digits * Nat.pow 10 exponent.toNat) 1
    else ofQuotient negative digits (Nat.pow 10 (-exponent).toNat)

/-- The integer that a finite number equals, if it does. -/
def toInt? (x : Double) : Option Int :=
  if !x.isFinite then none
  else
    let size? :=
      if 1074 ≤ x.raisedExponent then some (x.significand * Nat.pow 2 (x.raisedExponent - 1074))
      else
        let unit := Nat.pow 2 (1074 - x.raisedExponent)
        if x.significand % unit = 0 then some (x.significand / unit) else none
    size?.map fun size => if x.isNegative then -(size : Int) else size

end Double

end ScriptVet.Decimal
