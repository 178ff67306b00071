/-!
# Timestamps

A point in time is counted from the beginning of 1970 and written as in
RFC 3339, in universal time.  The fraction of a second has no, three, six or
nine digits, as few as are exact.  A year outside the four digits carries its
sign.  A leap second is a second of its own: its nanoseconds run past one
thousand million, and it is written as second 60.
-/

namespace SurveyCube

structure Timestamp where
  /-- The seconds since the beginning of 1970. -/
  seconds : Int
  /-- The nanoseconds since then. -/
  nanos : Nat
  deriving DecidableEq, Repr

namespace Timestamp

/-- A number with at least so many digits. -/
def padded (width n : Nat) : String :=
  let digits := Nat.toDigits 10 n
  String.ofList (List.replicate (width - digits.length) '0' ++ digits)

structure Date where
  year : Int
  month : Nat
  day : Nat
  deriving DecidableEq, Repr

/-- The date so many days after the beginning of 1970.  Years are counted from
March, so that the leap day is the last day of a year, in eras of 400 years. -/
def Date.ofDays (days : Int) : Date :=
  let shifted := days + 719468
  let era := shifted.fdiv 146097
  let dayOfEra := (shifted.fmod 146097).toNat
  let yearOfEra :=
    (dayOfEra - dayOfEra / 1460 + dayOfEra / 36524 - dayOfEra / 146096) / 365
  let dayOfYear := dayOfEra - (365 * yearOfEra + yearOfEra / 4 - yearOfEra / 100)
  let marchMonth := (5 * dayOfYear + 2) / 153
  let day := dayOfYear - (153 * marchMonth + 2) / 5 + 1
  let month := if marchMonth < 10 then marchMonth + 3 else marchMonth - 9
  let year : Int := (yearOfEra : Int) + era * 400
  { year := if month ≤ 2 then year + 1 else year, month, day }

/-- A year with four digits, or with its sign if it does not fit in four. -/
def yearText (year : Int) : String :=
  if 0 ≤ year ∧ year ≤ 9999 then padded 4 year.toNat
  else (if year < 0 then "-" else "+") ++ padded 4 year.natAbs

def Date.text (date : Date) : String :=
  s!"{yearText date.year}-{padded 2 date.month}-{padded 2 date.day}"

/-- The fraction of a second, with its point. -/
def fractionText (nanos : Nat) : String :=
  if nanos = 0 then ""
  else if nanos % 1000000 = 0 then "." ++ padded 3 (nanos / 1000000)
  else if nanos % 1000 = 0 then "." ++ padded 6 (nanos / 1000)
  else "." ++ padded 9 nanos

def secondsPerDay : Int := 86400

def nanosPerSecond : Nat := 1000000000

def text (stamp : Timestamp) : String :=
  let date := Date.ofDays (stamp.seconds.fdiv secondsPerDay)
  let secondOfDay := (stamp.seconds.fmod secondsPerDay).toNat
  let hour := padded 2 (secondOfDay / 3600)
  let minute := padded 2 (secondOfDay / 60 % 60)
  let second := padded 2 (secondOfDay % 60 + stamp.nanos / nanosPerSecond)
  let fraction := fractionText (stamp.nanos % nanosPerSecond)
  s!"{date.text}T{hour}:{minute}:{second}{fraction}+00:00"

end Timestamp

end SurveyCube
