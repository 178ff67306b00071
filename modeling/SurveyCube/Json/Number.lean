import SurveyCube.Datum.Basic
import SurveyCube.Text.Decimal

/-!
# Numbers in documents

A numeral without point and exponent that fits a machine word, signed or not,
is an integer; every other numeral is a double, also the negative zero.

A double is found in two steps.  The digits are gathered into one machine word,
where those that no longer fit only move the exponent; then the word is scaled
by one power of ten, or by two if the exponent is far below zero.  Every step
rounds once, so the result may differ from the nearest double in its last bit.
A numeral beyond the doubles is well formed but unreadable.
-/

namespace SurveyCube.Json

structure Numeral where
  negative : Bool
  whole : Bytes
  fraction : Option Bytes
  /-- The exponent's sign, true for a minus, and its digits. -/
  exponent : Option (Bool × Bytes)
  deriving DecidableEq, Repr

def digits (bytes : Bytes) : Bytes × Bytes :=
  (bytes.takeWhile Decimal.isDigit, bytes.dropWhile Decimal.isDigit)

def someDigits? (bytes : Bytes) : Option (Bytes × Bytes) :=
  let (found, rest) := digits bytes
  if found.isEmpty then none else some (found, rest)

/-- The digits before the point.  A zero stands alone. -/
def whole? (bytes : Bytes) : Option (Bytes × Bytes) :=
  match someDigits? bytes with
  | some (48 :: _ :: _, _) => none
  | found => found

def fraction? : Bytes → Option (Option Bytes × Bytes)
  | 46 :: rest => (someDigits? rest).map fun (found, rest) => (some found, rest)
  | rest => some (none, rest)

/-- The sign of an exponent, true for a minus. -/
def exponentSign : Bytes → Bool × Bytes
  | 45 :: rest => (true, rest)
  | 43 :: rest => (false, rest)
  | rest => (false, rest)

def exponent? : Bytes → Option (Option (Bool × Bytes) × Bytes)
  | 69 :: rest | 101 :: rest =>
      let (negative, rest) := exponentSign rest
      (someDigits? rest).map fun (found, rest) => (some (negative, found), rest)
  | rest => some (none, rest)

def numeral? (bytes : Bytes) : Option (Numeral × Bytes) := do
  let (negative, rest) := match bytes with
    | 45 :: rest => (true, rest)
    | rest => (false, rest)
  let (whole, rest) ← whole? rest
  let (fraction, rest) ← fraction? rest
  let (exponent, rest) ← exponent? rest
  return ({ negative, whole, fraction, exponent }, rest)

def wordSize : Nat := 2 ^ 64

/-- Append digits to a word while the result fits a word, and return the digits
that are left. -/
def gather (word : Nat) : Bytes → Nat × Bytes
  | [] => (word, [])
  | digit :: rest =>
      let next := word * 10 + Decimal.digitValue digit
      if next < wordSize then gather next rest else (word, digit :: rest)

def powerOfTen (k : Nat) : Nat :=
  Binary64.ofNat (10 ^ k)

/-- The magnitude of a word scaled by a power of ten, if it is finite. -/
def scale? (word : Nat) (k : Int) : Option Nat :=
  let start := Binary64.ofNat word
  if 308 < k then
    if word = 0 then some 0 else none
  else if 0 ≤ k then
    let scaled := Binary64.mul start (powerOfTen k.toNat)
    if scaled < Binary64.infinite then some scaled else none
  else if -308 ≤ k then
    some (Binary64.div start (powerOfTen (-k).toNat))
  else if -616 ≤ k then
    some (Binary64.div (Binary64.div start (powerOfTen 308)) (powerOfTen (-(k + 308)).toNat))
  else
    some 0

/-- The greatest exponent that is not counted as beyond all doubles. -/
def maxExponent : Nat := 2 ^ 31 - 1

namespace Numeral

/-- The magnitude of the double that a numeral denotes, if it is finite. -/
def magnitude? (numeral : Numeral) : Option Nat :=
  let (word, unused) := gather 0 numeral.whole
  let fraction := numeral.fraction.getD []
  let (word, dropped) := gather word fraction
  let start : Int := (unused.length : Int) - (fraction.length - dropped.length : Nat)
  match numeral.exponent with
  | none => scale? word start
  | some (negative, digits) =>
      let exponent := Decimal.value digits
      if maxExponent < exponent then
        if word = 0 ∨ negative then some 0 else none
      else
        scale? word (if negative then start - exponent else start + exponent)

def toReal (numeral : Numeral) : Datum :=
  match numeral.magnitude? with
  | some magnitude => .real (Binary64.ofMagnitude numeral.negative magnitude)
  | none => .unreadable

def toDatum (numeral : Numeral) : Datum :=
  match numeral.fraction, numeral.exponent with
  | none, none =>
      let n := Decimal.value numeral.whole
      if numeral.negative then
        if 0 < n ∧ n ≤ 2 ^ 63 then .int (-(n : Int)) else numeral.toReal
      else if n < wordSize then .int n else numeral.toReal
  | _, _ => numeral.toReal

end Numeral

end SurveyCube.Json
