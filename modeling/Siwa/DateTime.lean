import Mathlib.Algebra.BigOperators.Group.List
import Siwa.PyStr

/-! # `datetime` and `datetime.fromisoformat`

The time-window stage of `verify_siwa` parses `expiration_time` and
`not_before` with `datetime.fromisoformat`, drops the offset with
`.replace(tzinfo=None)`, and compares the result with `datetime.utcnow()`.
A naive `datetime` is `NaiveDateTime`, which carries the ranges the
constructor enforces; naive values compare field by field, year first, which
is the order of `NaiveDateTime.key`. The parser accepts the format
`fromisoformat` has in the Python versions the model follows (see `Siwa.PyStr`),
`YYYY-MM-DD[*HH[:MM[:SS[.fff[fff]]]][+HH:MM[:SS[.ffffff]]]]` with `*` any
single character and ASCII digits; Python 3.11 accepts more strings. Error
texts are Python's, with the offending value quoted as in `intError`. -/

namespace Siwa.DateTime
open Siwa.PyStr

def isLeap (y : Nat) : Bool := y % 4 == 0 && (y % 100 != 0 || y % 400 == 0)

def daysInMonth (y m : Nat) : Nat :=
  match m with
  | 2 => if isLeap y then 29 else 28
  | 4 | 6 | 9 | 11 => 30
  | _ => 31

/-- A naive `datetime`, in the ranges its constructor enforces. -/
structure NaiveDateTime where
  year : Nat
  month : Nat
  day : Nat
  hour : Nat
  minute : Nat
  second : Nat
  microsecond : Nat
  valid : 1 ≤ year ∧ year ≤ 9999 ∧ 1 ≤ month ∧ month ≤ 12 ∧ 1 ≤ day ∧
    day ≤ daysInMonth year month ∧ hour < 24 ∧ minute < 60 ∧ second < 60 ∧ microsecond < 1000000
deriving DecidableEq

/-- The field-by-field order as one number: each field is below its weight. -/
def NaiveDateTime.key (d : NaiveDateTime) : Nat :=
  (((((d.year * 13 + d.month) * 32 + d.day) * 24 + d.hour) * 60 + d.minute) * 60 + d.second) *
    1000000 + d.microsecond

instance : LT NaiveDateTime := ⟨fun a b => a.key < b.key⟩
instance : LE NaiveDateTime := ⟨fun a b => a.key ≤ b.key⟩
instance (a b : NaiveDateTime) : Decidable (a < b) := inferInstanceAs (Decidable (a.key < b.key))
instance (a b : NaiveDateTime) : Decidable (a ≤ b) := inferInstanceAs (Decidable (a.key ≤ b.key))

theorem NaiveDateTime.not_lt {a b : NaiveDateTime} : ¬a < b ↔ b ≤ a := Nat.not_lt

/-- `date.toordinal()`: the day number, 0001-01-01 being day 1. -/
def toordinal (y m d : Nat) : Nat :=
  (y - 1) * 365 + (y - 1) / 4 - (y - 1) / 100 + (y - 1) / 400 +
    ((List.range (m - 1)).map fun i => daysInMonth y (i + 1)).sum + d

/-- Microseconds from 0001-01-01T00:00 to the wall-clock time `d`. -/
def NaiveDateTime.micros (d : NaiveDateTime) : Nat :=
  (((toordinal d.year d.month d.day * 24 + d.hour) * 60 + d.minute) * 60 + d.second) * 1000000 +
    d.microsecond

/-- What `fromisoformat` returns: the wall-clock fields and the UTC offset in
microseconds, `none` for a naive value. -/
structure IsoDateTime where
  naive : NaiveDateTime
  utcoffset : Option Int
deriving DecidableEq

/-- The instant a value denotes, in microseconds on the UTC time line (its
wall-clock time minus its offset); a naive value is read as UTC. -/
def IsoDateTime.instant (t : IsoDateTime) : Int := t.naive.micros - t.utcoffset.getD 0

/-! ## The parser -/

/-- Exactly `n` ASCII digits as a number, after `acc`, and the text after them. -/
def readDigits : Nat → Nat → Str → Option (Nat × Str)
  | 0, acc, s => some (acc, s)
  | _ + 1, _, [] => none
  | n + 1, acc, c :: s => (digitValue c).bind fun v => readDigits n (acc * 10 + v) s

def expect (c : Char) : Str → Option Str
  | [] => none
  | d :: s => if d = c then some s else none

/-- `.fff` or `.ffffff` after the seconds, in microseconds. -/
def readFraction (s : Str) : Option (Nat × Str) :=
  (readDigits 6 0 s).or ((readDigits 3 0 s).map fun r => (r.1 * 1000, r.2))

/-- `HH[:MM[:SS[.fff[fff]]]]`: hour, minute, second, microsecond. -/
def readTime (s : Str) : Option ((Nat × Nat × Nat × Nat) × Str) := do
  let (h, s) ← readDigits 2 0 s
  let some s := expect ':' s | pure ((h, 0, 0, 0), s)
  let (m, s) ← readDigits 2 0 s
  let some s := expect ':' s | pure ((h, m, 0, 0), s)
  let (sec, s) ← readDigits 2 0 s
  let some s := expect '.' s | pure ((h, m, sec, 0), s)
  let (us, s) ← readFraction s
  pure ((h, m, sec, us), s)

/-- `+HH:MM[:SS[.ffffff]]` or its `-` form, in microseconds east of UTC. -/
def readOffset : Str → Option (Int × Str)
  | [] => none
  | c :: s =>
    if c = '+' ∨ c = '-' then do
      let (h, s) ← readDigits 2 0 s
      let s ← expect ':' s
      let (m, s) ← readDigits 2 0 s
      let (sec, us, s) ← match expect ':' s with
        | none => pure (0, 0, s)
        | some s => do
          let (sec, s) ← readDigits 2 0 s
          match expect '.' s with
          | none => pure (sec, 0, s)
          | some s => do
            let (us, s) ← readDigits 6 0 s
            pure (sec, us, s)
      let total : Int := (((h * 60 + m) * 60 + sec) * 1000000 + us : Nat)
      pure (if c = '-' then -total else total, s)
    else none

/-- The fields of an accepted string, before the range checks: date, time
and offset. -/
def readIso (s : Str) : Option ((Nat × Nat × Nat) × (Nat × Nat × Nat × Nat) × Option Int) := do
  let (y, s) ← readDigits 4 0 s
  let s ← expect '-' s
  let (mo, s) ← readDigits 2 0 s
  let s ← expect '-' s
  let (d, s) ← readDigits 2 0 s
  match s with
  | [] => pure ((y, mo, d), (0, 0, 0, 0), none)
  | _ :: s =>
    let (t, s) ← readTime s
    if s = [] then pure ((y, mo, d), t, none)
    else
      let (off, s) ← readOffset s
      if s = [] then pure ((y, mo, d), t, some off) else none

/-- The first range the `datetime` constructor rejects, by its message. -/
def rangeError (y mo d h mi sec : Nat) : Option Str :=
  if ¬(1 ≤ y ∧ y ≤ 9999) then some ("year ".toList ++ pyStr y ++ " is out of range".toList)
  else if ¬(1 ≤ mo ∧ mo ≤ 12) then some "month must be in 1..12".toList
  else if ¬(1 ≤ d ∧ d ≤ daysInMonth y mo) then some "day is out of range for month".toList
  else if ¬h < 24 then some "hour must be in 0..23".toList
  else if ¬mi < 60 then some "minute must be in 0..59".toList
  else if ¬sec < 60 then some "second must be in 0..59".toList
  else none

/-- `datetime.fromisoformat(s)`. The offset is checked first, as the
`timezone` is built before the `datetime`. -/
def fromIsoFormat (s : Str) : Except PyException IsoDateTime :=
  match readIso s with
  | none => .error (.valueError ("Invalid isoformat string: '".toList ++ s ++ ['\'']))
  | some ((y, mo, d), (h, mi, sec, us), off) =>
    if off.any (fun o => 86400000000 ≤ o.natAbs) then
      .error (.valueError ("offset must be a timedelta strictly between " ++
        "-timedelta(hours=24) and timedelta(hours=24).").toList)
    else match rangeError y mo d h mi sec with
      | some msg => .error (.valueError msg)
      | none =>
        if hv : 1 ≤ y ∧ y ≤ 9999 ∧ 1 ≤ mo ∧ mo ≤ 12 ∧ 1 ≤ d ∧ d ≤ daysInMonth y mo ∧ h < 24 ∧
            mi < 60 ∧ sec < 60 ∧ us < 1000000 then
          .ok ⟨⟨y, mo, d, h, mi, sec, us, hv⟩, off⟩
        else .error (.valueError "microsecond must be in 0..999999".toList)

/-- `value.replace("Z", "+00:00")`. -/
def replaceZ (value : Str) : Str :=
  value.flatMap fun c => if c = 'Z' then "+00:00".toList else [c]

/-! ## The time line

The order `verify_siwa` uses on naive values, field by field, is the order of
the time line `micros` measures. -/

end Siwa.DateTime
