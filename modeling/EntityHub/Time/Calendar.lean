import EntityHub.Time.Instant
/-!
# Calendar and clock text

An instant is written as date and time of day in UTC. The year has four digits, or a sign and at
least four digits outside the years 0 to 9999; a fraction has three, six or nine digits. A length
of time is written in the largest unit in which it is at least one.
-/

namespace EntityHub

/-- A day of the proleptic Gregorian calendar. -/
structure Day where
  year : Int
  month : Nat
  day : Nat
deriving DecidableEq, Repr

/-- The day that many days after the first of January 1970. Years are counted from the first of
March, so the leap day is the last of its year, and 400 years are a cycle of 146097 days. -/
def Day.ofNumber (n : Int) : Day :=
  let shifted := n + 719468
  let cycle := shifted.fdiv 146097
  let dayOfCycle := (shifted.fmod 146097).toNat
  let yearOfCycle :=
    (dayOfCycle - dayOfCycle / 1460 + dayOfCycle / 36524 - dayOfCycle / 146096) / 365
  let dayOfYear := dayOfCycle - (365 * yearOfCycle + yearOfCycle / 4 - yearOfCycle / 100)
  let monthFromMarch := (5 * dayOfYear + 2) / 153
  let day := dayOfYear - (153 * monthFromMarch + 2) / 5 + 1
  let month := if monthFromMarch < 10 then monthFromMarch + 3 else monthFromMarch - 9
  let year := yearOfCycle + cycle * 400 + (if month ≤ 2 then 1 else 0)
  ⟨year, month, day⟩

example : Day.ofNumber 0 = ⟨1970, 1, 1⟩ := by decide

example : Day.ofNumber (-719528) = ⟨0, 1, 1⟩ := by decide

/-- A number with zeros in front up to the given width. -/
def padded (width n : Nat) : String :=
  let l := Nat.toDigits 10 n
  .ofList (List.replicate (width - l.length) '0' ++ l)

/-- The digits of a fraction of nanoseconds without the zeros at its end. -/
def fractionDigits (width n : Nat) : String :=
  .ofList (((padded width n).toList.reverse.dropWhile (· = '0')).reverse)

/-- The text of a year. -/
def yearText (y : Int) : String :=
  if 0 ≤ y ∧ y ≤ 9999 then padded 4 y.toNat
  else (if y < 0 then "-" else "+") ++ padded 4 y.natAbs

/-- The text of an instant. -/
def Instant.text (t : Instant) : String :=
  let d := Day.ofNumber (t.seconds.fdiv 86400)
  let s := (t.seconds.fmod 86400).toNat
  let n := t.subsecond
  let fraction :=
    if n = 0 then ""
    else if n % 1000000 = 0 then "." ++ padded 3 (n / 1000000)
    else if n % 1000 = 0 then "." ++ padded 6 (n / 1000)
    else "." ++ padded 9 n
  yearText d.year ++ "-" ++ padded 2 d.month ++ "-" ++ padded 2 d.day ++ "T" ++
    padded 2 (s / 3600) ++ ":" ++ padded 2 (s / 60 % 60) ++ ":" ++ padded 2 (s % 60) ++
    fraction ++ "Z"

/-- A length of time, in nanoseconds. -/
@[ext] structure Duration where
  nanos : Nat
deriving DecidableEq, Repr

namespace Duration

/-- The duration of that many seconds. -/
def ofSeconds (n : Nat) : Duration := ⟨n * 1000000000⟩

/-- The duration of that many milliseconds. -/
def ofMillis (n : Nat) : Duration := ⟨n * 1000000⟩

/-- The text of a duration: whole units, a fraction if there is one, and the unit. -/
def text (d : Duration) : String :=
  if 1000000000 ≤ d.nanos then inUnit 1000000000 9 "s"
  else if 1000000 ≤ d.nanos then inUnit 1000000 6 "ms"
  else if 1000 ≤ d.nanos then inUnit 1000 3 "µs"
  else toString d.nanos ++ "ns"
where
  /-- The text in a unit of that many nanoseconds, whose fractions have at most `width` digits. -/
  inUnit (size width : Nat) (unit : String) : String :=
    let fraction :=
      if d.nanos % size = 0 then "" else "." ++ fractionDigits width (d.nanos % size)
    toString (d.nanos / size) ++ fraction ++ unit

/-- The span of a duration, or the longest span if it is longer. -/
def toSpan (d : Duration) : Span := (Span.ofNanos? d.nanos).getD .longest

end Duration

end EntityHub
