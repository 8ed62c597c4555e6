import Mathlib.Data.Int.Init

/-!
# Instants

Instants and durations are integers: nanoseconds since the Unix epoch and
nanoseconds.
-/

namespace ProxiPort

abbrev Time := Int

def second : Int := 1000000000

def minute : Int := 60 * second

/-- The zero value of `time.Time`, the first of January of the year one. -/
def Time.zero : Time := -62135596800 * second

def Time.unix (time : Time) : Int := Int.fdiv time second

/-- The year, month and day in UTC; years are counted from March in between, so
that a leap day comes last. -/
def Time.date (time : Time) : Int × Int × Int :=
  let days := Int.fdiv time.unix 86400 + 719468
  let era := Int.fdiv days 146097
  let dayOfEra := days - era * 146097
  let yearOfEra := (dayOfEra - dayOfEra / 1460 + dayOfEra / 36524 - dayOfEra / 146096) / 365
  let dayOfYear := dayOfEra - (365 * yearOfEra + yearOfEra / 4 - yearOfEra / 100)
  let shifted := (5 * dayOfYear + 2) / 153
  let day := dayOfYear - (153 * shifted + 2) / 5 + 1
  let month := if shifted < 10 then shifted + 3 else shifted - 9
  (yearOfEra + era * 400 + if month ≤ 2 then 1 else 0, month, day)

example : Time.date (951782400 * second) = (2000, 2, 29) := by decide

def Time.clock (time : Time) : Int × Int × Int :=
  let seconds := Int.fmod time.unix 86400
  (seconds / 3600, seconds / 60 % 60, seconds % 60)

/-- A number with leading zeros, as `time.Format` writes it. -/
def Time.digits (width : Nat) (value : Int) : String :=
  let text := (Nat.repr value.natAbs).toList
  String.ofList ((if value < 0 then ['-'] else []) ++
    List.replicate (width - text.length) '0' ++ text)

end ProxiPort
