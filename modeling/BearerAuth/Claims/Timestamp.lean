import BearerAuth.Claims.Error
import BearerAuth.Json.Value
import BearerAuth.Text.Blank

/-!
# Timestamps

A timestamp is given as an instant, as Unix seconds, or as Unix seconds in text. Each form becomes
an instant at a whole second between the years 1 and 9999.
-/

namespace BearerAuth

namespace Calendar

/-- The leap days before a year, counted from the year 1. -/
def leapDays (year : Int) : Int :=
  (year - 1) / 4 - (year - 1) / 100 + (year - 1) / 400

/-- The Unix second at which a year of the Gregorian calendar begins. The calendar is also counted
back to the years before it was in use. -/
def yearStart (year : Int) : Int :=
  86400 * (365 * (year - 1970) + leapDays year - leapDays 1970)

end Calendar

/-- A point in time. Nanoseconds reach 1999999999, so that a leap second has a place. -/
structure Instant where
  /-- Whole seconds since the start of 1970, rounded towards the past. -/
  seconds : Int
  /-- Nanoseconds since that second. -/
  nanoseconds : Nat
  deriving DecidableEq, Repr

namespace Instant

def ofSeconds (seconds : Int) : Instant :=
  ⟨seconds, 0⟩

/-- The instant at a whole second, if dates reach its year. -/
def ofSeconds? (seconds : Int) : Option Instant :=
  if Calendar.yearStart (-262143) ≤ seconds ∧ seconds < Calendar.yearStart 262143 then
    some (ofSeconds seconds)
  else none

/-- The instant without its fraction of a second. A leap second is kept apart from the second
before it. -/
def truncated (t : Instant) : Instant :=
  ⟨t.seconds, t.nanoseconds - t.nanoseconds % 1000000000⟩

end Instant

/-- The forms in which a timestamp may be given. -/
inductive TimestampInput where
  | zoned (t : Instant)
  /-- A calendar date and time without a zone, counted as universal time. -/
  | unzoned (t : Instant)
  | seconds (n : Int)
  /-- Unix seconds in text. -/
  | text (s : String)
  deriving DecidableEq, Repr

namespace Claims

/-- The first second of the year 1. -/
def minTimestamp : Int := -62135596800

/-- The last second of the year 9999. -/
def maxTimestamp : Int := 253402300799

/-- Tells the form of a claim value: an integer of 64 bits or a string. -/
def timestampInput : Json → Except ClaimsError TimestampInput
  | .num (.int n) =>
    if n ≤ Number.maxInt64 then .ok (.seconds n) else .error (.invalidTimestampValue n)
  | .str s => .ok (.text s)
  | _ => .error .expectedTimestamp

/-- The Unix seconds of a timestamp. Blanks around a text do not count. -/
def timestampSeconds : TimestampInput → Except ClaimsError Int
  | .zoned t | .unzoned t => .ok t.truncated.seconds
  | .seconds n => .ok n
  | .text s =>
    match Number.int64? (Text.trimmed s.toList) with
    | some n => .ok n
    | none => .error (.invalidTimestampString s)

/-- The instant of Unix seconds, within the bounds. -/
def boundedInstant (n : Int) : Except ClaimsError Instant :=
  if minTimestamp ≤ n ∧ n ≤ maxTimestamp then
    match Instant.ofSeconds? n with
    | some t => .ok t
    | none => .error (.invalidTimestampValue n)
  else .error (.invalidTimestampValue n)

def timestamp (input : TimestampInput) : Except ClaimsError Instant :=
  timestampSeconds input >>= boundedInstant

end Claims

end BearerAuth
