import HotelBooking.Text.Blank
import HotelBooking.Text.Digits
import HotelBooking.Time.Instant

/-!
# Instants as text

`Instant.toText` writes an instant as `2030-03-01T09:00:00Z`: in UTC, with three, six or nine digits
of a fraction if it is not a whole second, and with a sign before years outside 0 to 9999. A leap
second is the second 60 of its minute.

`Instant.ofText?` also reads other offsets and a looser form: blanks between the parts, numbers that
are not filled up with zeros, a space or a small letter between date and time, `utc` for the offset.
Digits of the fraction beyond the ninth are dropped.
-/

namespace HotelBooking

open Text

namespace Date

/-- A year outside 0 to 9999 has a sign. -/
def yearText (y : Int) : List Char :=
  if 0 ≤ y ∧ y ≤ 9999 then padded 4 y.toNat
  else (if y < 0 then '-' else '+') :: padded 4 y.natAbs

def toText (d : Date) : List Char :=
  yearText d.year ++ '-' :: padded 2 d.month ++ '-' :: padded 2 d.day

end Date

namespace Instant

/-- The fraction of a second, with as few digits of three, six or nine as are exact. -/
def fractionText (nanos : Nat) : List Char :=
  if nanos = 0 then []
  else if nanos % 1000000 = 0 then '.' :: padded 3 (nanos / 1000000)
  else if nanos % 1000 = 0 then '.' :: padded 6 (nanos / 1000)
  else '.' :: padded 9 nanos

/-- The time of day. -/
def timeText (t : Instant) : List Char :=
  let second := t.secondOfDay % 60 + t.nano / nanosPerSecond
  padded 2 (t.secondOfDay / 3600) ++ ':' :: padded 2 (t.secondOfDay / 60 % 60) ++ ':' :: padded 2 second
    ++ fractionText (t.nano % nanosPerSecond)

def toText (t : Instant) : String :=
  String.ofList ((Date.ofDayNumber t.day).toText ++ 'T' :: t.timeText ++ ['Z'])

/-- A number of at most `width` digits after any blanks. -/
def readNumber (width : Nat) (cs : List Char) : Option (Nat × List Char) :=
  match takeDigits width (skipBlanks cs) with
  | ([], _) => none
  | (ds, rest) => some (value ds, rest)

/-- A year: at most four digits, or any number of them after a sign. -/
def readYear (cs : List Char) : Option (Int × List Char) :=
  match skipBlanks cs with
  | '-' :: rest =>
    match spanDigits rest with
    | ([], _) => none
    | (ds, rest) => some (-(value ds : Int), rest)
  | '+' :: rest =>
    match spanDigits rest with
    | ([], _) => none
    | (ds, rest) => some (value ds, rest)
  | cs => (readNumber 4 cs).map fun (n, rest) => ((n : Int), rest)

/-- The character `c` after any blanks. -/
def readMark (c : Char) (cs : List Char) : Option (List Char) :=
  match skipBlanks cs with
  | d :: rest => if d = c then some rest else none
  | [] => none

def readDate (cs : List Char) : Option (Date × List Char) := do
  let (year, cs) ← readYear cs
  let cs ← readMark '-' cs
  let (month, cs) ← readNumber 2 cs
  let cs ← readMark '-' cs
  let (day, cs) ← readNumber 2 cs
  return (⟨year, month, day⟩, cs)

def readSeparator : List Char → Option (List Char)
  | c :: rest => if c = 'T' ∨ c = 't' ∨ c = ' ' then some rest else none
  | [] => none

/-- The fraction of a second in nanoseconds; there is none unless a point is next. -/
def readFraction : List Char → Option (Nat × List Char)
  | '.' :: rest =>
    match spanDigits rest with
    | ([], _) => none
    | (ds, rest) => some (value ((ds ++ List.replicate 9 '0').take 9), rest)
  | cs => some (0, cs)

/-- The time of day: the seconds since midnight and the nanoseconds since the last of them began, which
for the second 60 are those of the second 59 and one second more. -/
def readTime (cs : List Char) : Option ((Nat × Nat) × List Char) := do
  let (hour, cs) ← readNumber 2 cs
  let cs ← readMark ':' cs
  let (minute, cs) ← readNumber 2 cs
  let cs ← readMark ':' cs
  let (second, cs) ← readNumber 2 cs
  let (nano, cs) ← readFraction cs
  if hour < 24 ∧ minute < 60 ∧ second ≤ 60 then
    return (((hour * 60 + minute) * 60 + min second 59, second / 60 * nanosPerSecond + nano), cs)
  else none

def readTwoDigits : List Char → Option (Nat × List Char)
  | a :: b :: rest => if a.isDigit ∧ b.isDigit then some (value [a, b], rest) else none
  | _ => none

/-- The hours and minutes of an offset, in seconds; colons and blanks may stand between them. -/
def readOffsetSize (cs : List Char) : Option (Nat × List Char) := do
  let (hours, cs) ← readTwoDigits cs
  let (minutes, cs) ← readTwoDigits (cs.dropWhile fun c => c = ':' || isBlank c)
  if hours < 24 ∧ minutes < 60 then return (hours * 3600 + minutes * 60, cs) else none

/-- An offset from UTC in seconds: `Z`, `utc` in any case, or a signed size. -/
def readOffset (cs : List Char) : Option (Int × List Char) :=
  match skipBlanks cs with
  | c :: rest =>
    if c = 'Z' ∨ c = 'z' then some (0, rest)
    else if c = '+' then (readOffsetSize rest).map fun (n, r) => ((n : Int), r)
    else if c = '-' ∨ c = '−' then (readOffsetSize rest).map fun (n, r) => (-(n : Int), r)
    else
      match c :: rest with
      | u :: t :: c :: rest =>
        if u.toLower = 'u' ∧ t.toLower = 't' ∧ c.toLower = 'c' then some (0, rest) else none
      | _ => none
  | [] => none

/-- Both the local time and its instant have to be representable. -/
def ofText? (s : String) : Option Instant := do
  let (date, cs) ← readDate s.toList
  let cs ← readSeparator cs
  let ((second, nano), cs) ← readTime cs
  let (offset, cs) ← readOffset cs
  if date.Valid ∧ skipBlanks cs = [] then
    let localTime ← ofSecond? (date.dayNumber * secondsPerDay + second) nano
    ofSecond? (localTime.second - offset) localTime.nano
  else none

end Instant
end HotelBooking
