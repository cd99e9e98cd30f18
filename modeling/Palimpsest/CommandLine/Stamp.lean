import Palimpsest.Receipt.Basic

/-!
# Stamps of runs

A run is stamped with the time in seconds, written as a date and a time of day
in universal time, and with a random identifier. Years are counted from March,
so that the leap day is the last day of a year and every month has a fixed
place in it.
-/

namespace Palimpsest.Stamp

/-- A number with a zero before it when it has one digit only. -/
def twoDigits (n : Nat) : String :=
  (if n < 10 then "0" else "") ++ toString n

/-- A year, a month and a day. -/
structure Date where
  year : Nat
  month : Nat
  day : Nat
  deriving DecidableEq, Repr

/-- The date so many days after the first of January 1970. Days are first
counted from the first of March of the year zero, in cycles of 400 years. -/
def Date.ofDays (days : Nat) : Date :=
  let shifted := days + 719468
  let cycle := shifted / 146097
  let dayOfCycle := shifted % 146097
  let yearOfCycle :=
    (dayOfCycle - dayOfCycle / 1460 + dayOfCycle / 36524 - dayOfCycle / 146096) / 365
  let dayOfYear := dayOfCycle - (365 * yearOfCycle + yearOfCycle / 4 - yearOfCycle / 100)
  let marchMonth := (5 * dayOfYear + 2) / 153
  let month := if marchMonth < 10 then marchMonth + 3 else marchMonth - 9
  { year := 400 * cycle + yearOfCycle + (if month ≤ 2 then 1 else 0)
    month := month
    day := dayOfYear - (153 * marchMonth + 2) / 5 + 1 }

-- The first day of all, a leap day, and a day of summer.
example :
    Date.ofDays 0 = ⟨1970, 1, 1⟩ ∧ Date.ofDays 19782 = ⟨2024, 2, 29⟩ ∧
      Date.ofDays 20650 = ⟨2026, 7, 16⟩ := by
  decide

/-- The time so many seconds after the start of 1970. -/
def timeText (seconds : Nat) : String :=
  let date := Date.ofDays (seconds / 86400)
  let clock := seconds % 86400
  toString date.year ++ "-" ++ twoDigits date.month ++ "-" ++ twoDigits date.day ++ "T" ++
    twoDigits (clock / 3600) ++ ":" ++ twoDigits (clock / 60 % 60) ++ ":" ++
    twoDigits (clock % 60) ++ "Z"

/-- The identifier of sixteen random bytes: the version and the variant take
fixed places among them. -/
def identifier (bytes : List UInt8) : String :=
  let marked := bytes.zipIdx.map fun (byte, index) =>
    if index = 6 then byte % 16 + 0x40 else if index = 8 then byte % 64 + 0x80 else byte
  let digits := marked.flatMap fun byte => Text.hexDigits 2 byte.toNat
  "-".intercalate
    ([digits.take 8, (digits.drop 8).take 4, (digits.drop 12).take 4, (digits.drop 16).take 4,
      digits.drop 20].map String.ofList)

/-- The stamp for a time and sixteen random bytes. -/
def ofClock (seconds : Nat) (bytes : List UInt8) : Stamp :=
  ⟨timeText seconds, identifier bytes⟩

end Palimpsest.Stamp
