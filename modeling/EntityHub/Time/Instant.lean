/-!
# Instants and spans

An instant is a point of the proleptic Gregorian calendar, to the nanosecond, from the year
-262143 to the year 262142. A span is a signed length of time of at most `2 ^ 63 - 1` milliseconds
either way. Adding a span to an instant may lead out of the calendar (`Instant.add?`); the fields
of both types are exact, so nothing overflows before that.
-/

namespace EntityHub

/-- The nanoseconds of a second. -/
def nanosPerSecond : Int := 1000000000

/-- The first instant of the calendar, in nanoseconds from the start of 1970. -/
def firstNano : Int := -8334601228800 * nanosPerSecond

/-- The last instant of the calendar, in nanoseconds from the start of 1970. -/
def lastNano : Int := 8210266876800 * nanosPerSecond - 1

/-- The length of the longest span, in nanoseconds. -/
def longestSpan : Int := 0x7FFFFFFFFFFFFFFF * 1000000

/-- A point in time, in nanoseconds from the start of 1970. -/
@[ext] structure Instant where
  nanos : Int
  first_le : firstNano ≤ nanos
  le_last : nanos ≤ lastNano
deriving DecidableEq

/-- A signed length of time, in nanoseconds. -/
@[ext] structure Span where
  nanos : Int
  neg_longest_le : -longestSpan ≤ nanos
  le_longest : nanos ≤ longestSpan
deriving DecidableEq

namespace Span

/-- The span of that many nanoseconds, if there is one. -/
def ofNanos? (n : Int) : Option Span :=
  if h : -longestSpan ≤ n ∧ n ≤ longestSpan then some ⟨n, h.1, h.2⟩ else none

/-- The span of that many seconds, if there is one. -/
def ofSeconds? (n : Int) : Option Span := ofNanos? (n * nanosPerSecond)

/-- The longest span. -/
def longest : Span := ⟨longestSpan, by decide, by decide⟩

end Span

namespace Instant

instance : LT Instant := ⟨fun a b => a.nanos < b.nanos⟩

instance : LE Instant := ⟨fun a b => a.nanos ≤ b.nanos⟩

instance (a b : Instant) : Decidable (a < b) := inferInstanceAs (Decidable (a.nanos < b.nanos))

instance (a b : Instant) : Decidable (a ≤ b) := inferInstanceAs (Decidable (a.nanos ≤ b.nanos))

/-- The instant that many nanoseconds from the start of 1970, if the calendar has it. -/
def ofNanos? (n : Int) : Option Instant :=
  if h : firstNano ≤ n ∧ n ≤ lastNano then some ⟨n, h.1, h.2⟩ else none

/-- The last instant. -/
def last : Instant := ⟨lastNano, by decide, by decide⟩

/-- The start of 1970. -/
def epoch : Instant := ⟨0, by decide, by decide⟩

/-- The instant a span later, if the calendar has it. -/
def add? (t : Instant) (d : Span) : Option Instant := ofNanos? (t.nanos + d.nanos)

/-- The whole seconds from the start of 1970, rounded toward the past. -/
def seconds (t : Instant) : Int := t.nanos.fdiv nanosPerSecond

/-- The nanoseconds after the last whole second. -/
def subsecond (t : Instant) : Nat := (t.nanos.fmod nanosPerSecond).toNat

theorem lt_iff {a b : Instant} : a < b ↔ a.nanos < b.nanos := Iff.rfl

theorem le_iff {a b : Instant} : a ≤ b ↔ a.nanos ≤ b.nanos := Iff.rfl

theorem ofNanos?_eq_some_iff {n : Int} {t : Instant} : ofNanos? n = some t ↔ t.nanos = n := by
  have h₁ := t.first_le
  have h₂ := t.le_last
  simp only [ofNanos?]
  split
  · simp only [Option.some.injEq, Instant.ext_iff]; omega
  · simp only [reduceCtorEq, false_iff]; omega

end Instant

end EntityHub
