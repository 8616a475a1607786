import ScriptVet.Decimal.Double

/-!
# Shortest decimals

The text of a floating-point number has the fewest digits that read back as the number, and of
those the digits nearest to it, a tie going to the even ones. Which numbers read back is a question
about an interval: every decimal between the midpoints to the two neighbours does, and so do the
midpoints themselves if the significand is even. The search tries one digit, then two, up to
seventeen, and for each looks at the two decimals of that many digits that enclose the number.

How the digits are laid out is a decision of each format and is given by a `Layout`.
-/

namespace ScriptVet.Decimal

/-- A positive decimal: an integer times a power of ten. -/
structure Scientific where
  digits : Nat
  exponent : Int
  deriving Repr, DecidableEq

/-- The decimals that read back as a number, scaled to integers over a common denominator: those
between `low` and `high`, the ends included if `closed`. -/
structure Interval where
  low : Nat
  value : Nat
  high : Nat
  denominator : Nat
  closed : Bool

/-- The interval of a positive finite number. The lower neighbour of a power of two is half as far
away as the upper one. -/
def Double.interval (x : Double) : Interval :=
  let m := x.significand
  let below := if m = Nat.pow 2 52 && 0 < x.raisedExponent then 1 else 2
  let up := Nat.pow 2 (x.raisedExponent - 1074)
  let down := Nat.pow 2 (1074 - x.raisedExponent)
  ⟨(4 * m - below) * up, 4 * m * up, (4 * m + 2) * up, 4 * down, m % 2 == 0⟩

/-- The decimal `digits * 10 ^ exponent`, as a quotient. -/
def Scientific.toQuotient (d : Scientific) : Nat × Nat :=
  (d.digits * Nat.pow 10 d.exponent.toNat, Nat.pow 10 (-d.exponent).toNat)

/-- The decimal reads back. -/
def Interval.accepts (i : Interval) (d : Scientific) : Bool :=
  let (num, den) := d.toQuotient
  let here := num * i.denominator
  if i.closed then i.low * den ≤ here && here ≤ i.high * den
  else i.low * den < here && here < i.high * den

/-- How far the decimal is from the number, over the product of the denominators. -/
def Interval.distance (i : Interval) (d : Scientific) : Nat :=
  let (num, den) := d.toQuotient
  let here := num * i.denominator
  let there := i.value * den
  (here - there) + (there - here)

/-- How many decimal digits a number has. -/
def digitCount (n : Nat) : Nat :=
  (Nat.toDigits 10 n).length

/-- The exponent of the first digit of a positive quotient. -/
def leadingExponent (num den : Nat) : Int :=
  if den ≤ num then digitCount (num / den) - 1
  else -(digitCount ((den + num - 1) / num - 1) : Int)

/-- The greatest decimal with a given exponent that is at most the number. -/
def Interval.floorAt (i : Interval) (exponent : Int) : Scientific :=
  ⟨i.value * Nat.pow 10 (-exponent).toNat / (i.denominator * Nat.pow 10 exponent.toNat), exponent⟩

/-- The second decimal is to be preferred: it is nearer to the number, or just as near and the first
one is odd. -/
def Interval.prefersSecond (i : Interval) (first second : Scientific) : Bool :=
  let toFirst := i.distance first
  let toSecond := i.distance second
  toSecond < toFirst || (toSecond == toFirst && first.digits % 2 == 1)

/-- The better of the two decimals around the number with a given exponent that read back. -/
def Interval.bestAt? (i : Interval) (exponent : Int) : Option Scientific :=
  let floor := i.floorAt exponent
  let ceil : Scientific := ⟨floor.digits + 1, exponent⟩
  match i.accepts floor, i.accepts ceil with
  | false, false => none
  | true, false => some floor
  | false, true => some ceil
  | true, true => some (if i.prefersSecond floor ceil then ceil else floor)

/-- Tries `fuel` more counts of digits, starting with the given exponent of the last digit. -/
def Interval.search (i : Interval) : Nat → Int → Scientific
  | 0, exponent => i.floorAt exponent
  | fuel + 1, exponent => (i.bestAt? exponent).getD (i.search fuel (exponent - 1))

/-- The shortest decimal of a positive finite number. -/
def Double.shortest (x : Double) : Scientific :=
  let i := x.interval
  i.search 17 (leadingExponent i.value i.denominator)

/-- How the digits of a number are laid out. The number is written out in full if the exponent of
its first digit lies between the bounds, and otherwise as one digit, a fraction and an exponent. -/
structure Layout where
  lowest : Int
  highest : Int
  /-- The least count of digits in an exponent. -/
  exponentPlaces : Nat
  deriving Repr

/-- The layout of numbers in messages and indented documents. -/
def Layout.plain : Layout := ⟨-4, 15, 2⟩

/-- The layout of numbers in compact documents. -/
def Layout.compact : Layout := ⟨-5, 15, 1⟩

/-- Digits padded with zeros on the left. -/
def padLeft (places : Nat) (digits : List Char) : List Char :=
  List.replicate (places - digits.length) '0' ++ digits

/-- An exponent with its sign. -/
def Layout.exponentText (layout : Layout) (exponent : Int) : List Char :=
  let sign := if exponent < 0 then '-' else '+'
  'e' :: sign :: padLeft layout.exponentPlaces (Nat.toDigits 10 exponent.natAbs)

/-- The digits written out in full, with at least one digit on either side of the point. -/
def positional (digits : List Char) (leading : Int) : List Char :=
  if leading < 0 then
    '0' :: '.' :: (List.replicate (-leading - 1).toNat '0' ++ digits)
  else
    let whole := leading.toNat + 1
    let fraction := digits.drop whole
    (digits.take whole ++ List.replicate (whole - digits.length) '0') ++
      '.' :: (if fraction.isEmpty then ['0'] else fraction)

/-- A positive decimal without trailing zeros, laid out. -/
def Layout.decimalText (layout : Layout) (d : Scientific) : List Char :=
  let all := Nat.toDigits 10 d.digits
  let leading : Int := d.exponent + all.length - 1
  let digits := (all.reverse.dropWhile (· == '0')).reverse
  if layout.lowest ≤ leading && leading ≤ layout.highest then positional digits leading
  else
    match digits with
    | [] => []
    | [c] => c :: layout.exponentText leading
    | c :: rest => c :: '.' :: (rest ++ layout.exponentText leading)

/-- The text of a finite number. -/
def Layout.finiteText (layout : Layout) (x : Double) : List Char :=
  let sign := if x.isNegative then ['-'] else []
  sign ++ (if x.magnitude = 0 then ['0', '.', '0'] else layout.decimalText x.shortest)

end ScriptVet.Decimal
