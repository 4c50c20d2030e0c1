import HostAccess.Calendar
import HostAccess.Text.Blank
import HostAccess.Text.Decimal

/-! # Instants

A point in time is a minute of the UTC calendar and the nanoseconds elapsed in it. A minute that
ends with a leap second has sixty-one seconds, so that second is an ordinary value, and a move to
another time zone, which is by whole minutes, leaves the part within the minute alone.

Instants are written in RFC 3339 form in UTC, with the fewest of 0, 3, 6 or 9 fraction digits that
lose nothing. They are read from the same form with any offset, and leniently: white space between
the parts, numbers without their leading zeros, and a blank in place of the `T` are understood. -/
namespace HostAccess

open Text

/-- The first minute of the year -262143. -/
def earliestMinute : Int := -138910020480

/-- The last minute of the year 262142. -/
def latestMinute : Int := 136837781279

/-- A minute counted from the start of 1970, and the nanoseconds elapsed in it. -/
structure Instant where
  minute : Int
  nanos : Nat
  afterEarliest : earliestMinute ≤ minute
  beforeLatest : minute ≤ latestMinute
  withinMinute : nanos < 61000000000
deriving DecidableEq

namespace Instant

def at? (minute : Int) (nanos : Nat) : Option Instant :=
  if h : earliestMinute ≤ minute ∧ minute ≤ latestMinute ∧ nanos < 61000000000 then
    some ⟨minute, nanos, h.1, h.2.1, h.2.2⟩
  else
    none

def epoch : Instant := ⟨0, 0, by decide, by decide, by decide⟩

def atMost (a b : Instant) : Bool :=
  decide (a.minute < b.minute) || (a.minute == b.minute && decide (a.nanos ≤ b.nanos))

instance : LT Instant := ⟨fun a b => b.atMost a = false⟩

instance (a b : Instant) : Decidable (a < b) := inferInstanceAs (Decidable (b.atMost a = false))

/-! ## Writing -/

/-- The year: four digits, and a sign and as many digits as needed outside of 0 to 9999. -/
def yearChars (year : Int) : List Char :=
  if 0 ≤ year ∧ year ≤ 9999 then padded 4 year.toNat
  else
    let size := year.natAbs
    (if year < 0 then '-' else '+') ::
      padded (if size < 10000 then 4 else if size < 100000 then 5 else 6) size

def fractionChars (nanos : Nat) : List Char :=
  if nanos = 0 then []
  else if nanos % 1000000 = 0 then '.' :: padded 3 (nanos / 1000000)
  else if nanos % 1000 = 0 then '.' :: padded 6 (nanos / 1000)
  else '.' :: padded 9 nanos

def chars (i : Instant) : List Char :=
  let date := CivilDate.ofDays (i.minute / 1440)
  let minuteOfDay := (i.minute % 1440).toNat
  yearChars date.year ++ ['-'] ++ padded 2 date.month ++ ['-'] ++ padded 2 date.day ++ ['T'] ++
    padded 2 (minuteOfDay / 60) ++ [':'] ++ padded 2 (minuteOfDay % 60) ++ [':'] ++
    padded 2 (i.nanos / 1000000000) ++ fractionChars (i.nanos % 1000000000) ++ ['Z']

def text (i : Instant) : String := String.ofList i.chars

/-! ## Reading -/

def component? (most : Nat) (cs : List Char) : Option (Nat × List Char) :=
  number? most (skipBlanks cs)

def mark? (mark : Char) (cs : List Char) : Option (List Char) :=
  match skipBlanks cs with
  | c :: rest => if c = mark then some rest else none
  | [] => none

/-- A year of up to four digits, or of any length behind a sign. -/
def year? (cs : List Char) : Option (Int × List Char) :=
  match skipBlanks cs with
  | '-' :: rest => (number? rest.length rest).map fun (n, rest) => (-(n : Int), rest)
  | '+' :: rest => (number? rest.length rest).map fun (n, rest) => ((n : Int), rest)
  | cs => (number? 4 cs).map fun (n, rest) => ((n : Int), rest)

/-- The nanoseconds of a fraction, of which nine digits count; none without a point. -/
def fraction? (cs : List Char) : Option (Nat × List Char) :=
  match cs with
  | '.' :: rest =>
    let digits := rest.takeWhile isDigit
    if digits.isEmpty then none
    else
      -- Further digits are read and have no weight.
      let counted := digits.take 9
      some (digitsValue counted * Nat.pow 10 (9 - counted.length), rest.drop digits.length)
  | cs => some (0, cs)

/-- The distance of a zone from UTC in minutes: `Z`, `UTC`, or a sign with hours and minutes, which
a colon or white space may separate. -/
def offset? (cs : List Char) : Option (Int × List Char) :=
  match cs with
  | 'Z' :: rest => some (0, rest)
  | 'z' :: rest => some (0, rest)
  | u :: t :: c :: rest =>
    if u.toLower = 'u' ∧ t.toLower = 't' ∧ c.toLower = 'c' then some (0, rest)
    else
      let sign? : Option Int :=
        if u = '+' then some 1 else if u = '-' ∨ u = '\u2212' then some (-1) else none
      match sign?, isDigit t && isDigit c,
          rest.dropWhile fun x => x == ':' || isBlank x with
      | some sign, true, m :: n :: rest =>
        if isDigit m ∧ m ≤ '5' ∧ isDigit n then
          some (sign * (digitsValue [t, c] * 60 + digitsValue [m, n] : Nat), rest)
        else none
      | _, _, _ => none
  | _ => none

def separator? (cs : List Char) : Option (List Char) :=
  match cs with
  | c :: rest => if c = 'T' ∨ c = 't' ∨ c = ' ' then some rest else none
  | [] => none

/-- The minute, counted from the start of 1970, of a date and a time of day at an offset. -/
def minuteOf (date : CivilDate) (hour minute : Nat) (offset : Int) : Int :=
  date.toDays * 1440 + hour * 60 + minute - offset

/-- Whether a calendar has this local minute, before the move to UTC. -/
def hasLocal (year : Int) : Bool := decide (-262143 ≤ year) && decide (year ≤ 262142)

def ofChars? (cs : List Char) : Option Instant := do
  let (year, cs) ← year? cs
  let cs ← mark? '-' cs
  let (month, cs) ← component? 2 cs
  let cs ← mark? '-' cs
  let (day, cs) ← component? 2 cs
  let cs ← separator? cs
  let (hour, cs) ← component? 2 cs
  let cs ← mark? ':' cs
  let (minute, cs) ← component? 2 cs
  let cs ← mark? ':' cs
  let (second, cs) ← component? 2 cs
  let (fraction, cs) ← fraction? cs
  let (offset, cs) ← offset? (skipBlanks cs)
  let date : CivilDate := ⟨year, month, day⟩
  if skipBlanks cs = [] ∧ hasLocal year ∧ date.Exists ∧ hour < 24 ∧ minute < 60 ∧ second ≤ 60 ∧
      -1440 < offset ∧ offset < 1440 then
    at? (minuteOf date hour minute offset) (second * 1000000000 + fraction)
  else
    none

def parse? (s : String) : Option Instant := ofChars? s.toList

end Instant

end HostAccess
