/-! Dates and times of day, as seconds since the start of 1970. -/
namespace AgentRelay.Certificate

structure Moment where
  year : Nat
  month : Nat
  day : Nat
  hour : Nat
  minute : Nat
  second : Nat
deriving DecidableEq, Repr

def isLeapYear (year : Nat) : Bool :=
  year % 4 = 0 && (year % 100 ≠ 0 || year % 400 = 0)

def daysInMonth (year month : Nat) : Nat :=
  match month with
  | 2 => if isLeapYear year then 29 else 28
  | 4 | 6 | 9 | 11 => 30
  | _ => 31

namespace Moment

def isValid (m : Moment) : Bool :=
  1 ≤ m.month && m.month ≤ 12 && 1 ≤ m.day && m.day ≤ daysInMonth m.year m.month &&
    m.hour ≤ 23 && m.minute ≤ 59 && m.second ≤ 59

/-- Days before the first of January of a year, from the year zero on. -/
def daysBeforeYear (year : Nat) : Nat :=
  365 * year + (year + 3) / 4 - (year + 99) / 100 + (year + 399) / 400

/-- Days of a year before the first of a month. -/
def daysBeforeMonth (year month : Nat) : Nat :=
  (List.range (month - 1)).foldl (fun days i => days + daysInMonth year (i + 1)) 0

def seconds (m : Moment) : Int :=
  let days : Int := (daysBeforeYear m.year + daysBeforeMonth m.year m.month + m.day : Nat) -
    (daysBeforeYear 1970 + 1 : Nat)
  days * 86400 + (m.hour * 3600 + m.minute * 60 + m.second : Nat)

end Moment

/-! ### Written times -/

def digit? (b : UInt8) : Option Nat :=
  if 48 ≤ b.toNat ∧ b.toNat ≤ 57 then some (b.toNat - 48) else none

/-- A number of two digits, and what follows it. -/
def twoDigits? : List UInt8 → Option (Nat × List UInt8)
  | a :: b :: rest => do return ((← digit? a) * 10 + (← digit? b), rest)
  | _ => none

/-- The distance from universal time in seconds. The sign belongs to the hours: a distance of less
than an hour counts forwards. -/
def zone? : List UInt8 → Option Int
  | [90] => some 0
  | sign :: rest => do
    let (hours, rest) ← twoDigits? rest
    let (minutes, rest) ← twoDigits? rest
    let offset : Int := (hours * 3600 + minutes * 60 : Nat)
    if rest ≠ [] ∨ 25 < hours ∨ 59 < minutes then none
    else if sign = 43 then some offset
    else if sign = 45 then some (if hours = 0 then offset else -offset)
    else none
  | [] => none

/-- A number of two digits, or zero when fewer than two bytes remain. -/
def twoDigitsOrNone? (bytes : List UInt8) : Option (Nat × List UInt8) :=
  if bytes.length < 2 then some (0, bytes) else twoDigits? bytes

def settle? (m : Moment) (zone : Int) : Option Int :=
  if m.isValid then some (m.seconds - zone) else none

/-- A time with a year of two digits, which lies from 1950 to 2049. -/
def shortTime? (bytes : List UInt8) : Option Int := do
  let (year, bytes) ← twoDigits? bytes
  let (month, bytes) ← twoDigits? bytes
  let (day, bytes) ← twoDigits? bytes
  let (hour, bytes) ← twoDigits? bytes
  let (minute, bytes) ← twoDigits? bytes
  let (second, bytes) ← twoDigitsOrNone? bytes
  let year := if 50 ≤ year then 1900 + year else 2000 + year
  settle? ⟨year, month, day, hour, minute, second⟩ (← zone? bytes)

/-- A point and up to three digits of a second; they do not count. -/
def dropFraction? : List UInt8 → Option (List UInt8)
  | 46 :: rest =>
    let digits := rest.takeWhile fun b => (digit? b).isSome
    if 3 < digits.length then none else some (rest.drop digits.length)
  | bytes => some bytes

/-- A time with a year of four digits, in universal time. -/
def longTime? (bytes : List UInt8) : Option Int := do
  let (century, bytes) ← twoDigits? bytes
  let (year, bytes) ← twoDigits? bytes
  let (month, bytes) ← twoDigits? bytes
  let (day, bytes) ← twoDigits? bytes
  let (hour, bytes) ← twoDigits? bytes
  let (minute, bytes) ← twoDigits? bytes
  let (second, bytes) ← twoDigitsOrNone? bytes
  let bytes ← dropFraction? bytes
  if bytes ≠ [90] then none
  else settle? ⟨century * 100 + year, month, day, hour, minute, second⟩ 0

end AgentRelay.Certificate
