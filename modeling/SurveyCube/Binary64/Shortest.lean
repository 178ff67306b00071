import SurveyCube.Binary64.Basic

/-!
# The shortest decimal text of a double

A double is written with the fewest significant digits that read back as the
same double, and among those with the digits nearest to it.  The text is
positional, with at least one decimal, when the leading digit stands between
`10 ^ -5` and `10 ^ 15`; otherwise one digit stands before the point and the
exponent always has a sign.
-/

namespace SurveyCube.Binary64

/-- The numbers that round to a positive magnitude, as three numerators over a
common denominator: the lower end, the number itself and the upper end. -/
structure Interval where
  low : Nat
  value : Nat
  high : Nat
  denominator : Nat
  /-- The ends round to the magnitude as well. -/
  closed : Bool

/-- The interval of a positive magnitude.  Below a power of two the doubles
are twice as dense. -/
def Interval.ofMagnitude (magnitude : Nat) : Interval :=
  let m := significand magnitude
  let (up, down) := ratio 1 (exponent magnitude - 2)
  let gap := if magnitude % 2 ^ 52 = 0 ∧ 2 ^ 53 ≤ magnitude then 1 else 2
  { low := (4 * m - gap) * up
    value := 4 * m * up
    high := (4 * m + 2) * up
    denominator := down
    closed := m % 2 = 0 }

/-- The decimal `c * 10 ^ k` lies in the interval. -/
def Interval.holds (interval : Interval) (c : Nat) (k : Int) : Bool :=
  let (num, den) := if 0 ≤ k then (c * 10 ^ k.toNat, 1) else (c, 10 ^ (-k).toNat)
  let num := num * interval.denominator
  if interval.closed then
    interval.low * den ≤ num ∧ num ≤ interval.high * den
  else
    interval.low * den < num ∧ num < interval.high * den

/-- The decimal exponent of the leading digit of a positive magnitude. -/
def leadingExponent (interval : Interval) : Int :=
  let scaled := interval.value * 10 ^ 400 / interval.denominator
  ((Nat.toDigits 10 scaled).length : Int) - 401

/-- The neighbour on the grid of multiples of `10 ^ k` that lies in the
interval, the nearer one if both do. -/
def Interval.onGrid? (interval : Interval) (k : Int) : Option Nat :=
  let (num, den) :=
    if 0 ≤ k then (interval.value, interval.denominator * 10 ^ k.toNat)
    else (interval.value * 10 ^ (-k).toNat, interval.denominator)
  let c := num / den
  match interval.holds c k, interval.holds (c + 1) k with
  | true, true => some (roundDiv num den)
  | true, false => some c
  | false, true => some (c + 1)
  | false, false => none

/-- The shortest decimal `c * 10 ^ k` that reads back as a positive
magnitude.  Seventeen digits always suffice. -/
def shortest (magnitude : Nat) : Nat × Int :=
  let interval := Interval.ofMagnitude magnitude
  let leading := leadingExponent interval
  let found := (List.range 17).findSome? fun (further : Nat) =>
    let k := leading - (further : Int)
    (interval.onGrid? k).map fun c => (c, k)
  found.getD (0, 0)

/-- The digits of a decimal without trailing zeros, and the exponent of the
last digit that is left. -/
def trimmed (c : Nat) (k : Int) : List Char × Int :=
  let digits := Nat.toDigits 10 c
  let zeros := (digits.reverse.takeWhile (· = '0')).length
  (digits.take (digits.length - zeros), k + zeros)

def layout (digits : List Char) (k : Int) : List Char :=
  let leading : Int := k + digits.length - 1
  if leading < -5 ∨ 16 ≤ leading then
    let mantissa := match digits with
      | [] => []
      | [digit] => [digit]
      | digit :: rest => digit :: '.' :: rest
    let mark := if leading < 0 then ['e', '-'] else ['e', '+']
    mantissa ++ mark ++ Nat.toDigits 10 leading.natAbs
  else if 0 ≤ k then
    digits ++ List.replicate k.toNat '0' ++ ['.', '0']
  else if leading < 0 then
    ['0', '.'] ++ List.replicate (-leading - 1).toNat '0' ++ digits
  else
    digits.take (leading.toNat + 1) ++ '.' :: digits.drop (leading.toNat + 1)

/-- The text of a finite double.  The sign of zero is kept. -/
def text (x : Binary64) : String :=
  let sign := if x.isNegative then ['-'] else []
  if x.magnitude = 0 then
    String.ofList (sign ++ ['0', '.', '0'])
  else
    let (c, k) := shortest x.magnitude
    let (digits, k) := trimmed c k
    String.ofList (sign ++ layout digits k)

end SurveyCube.Binary64
