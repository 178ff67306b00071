import SurveyCube.Binary64.Basic

/-!
# Sizes in bytes

A size below one kilobyte is shown exactly.  A larger one is shown in the
greatest unit that it reaches, with two decimals; it is taken as a double
first, and the decimals are those of the double, a half going to the even
neighbour.
-/

namespace SurveyCube.Text

/-- The units of size, each 1024 times the one before. -/
def sizeUnits : List String :=
  ["B", "KB", "MB", "GB", "TB", "PB"]

/-- The position of the greatest unit that a quotient reaches. -/
def sizeUnit (num den : Nat) : Nat :=
  ((List.range sizeUnits.length).filter fun k => den * 1024 ^ k ≤ num).getLastD 0

def twoDigits (n : Nat) : String :=
  if n < 10 then s!"0{n}" else s!"{n}"

def byteSize (size : Nat) : String :=
  let magnitude := Binary64.ofNat size
  let (num, den) := Binary64.ratio (Binary64.significand magnitude) (Binary64.exponent magnitude)
  let k := sizeUnit num den
  let unit := sizeUnits[k]?.getD ""
  if k = 0 then
    s!"{size} {unit}"
  else
    let hundredths := Binary64.roundDiv (num * 100) (den * 1024 ^ k)
    s!"{hundredths / 100}.{twoDigits (hundredths % 100)} {unit}"

end SurveyCube.Text
