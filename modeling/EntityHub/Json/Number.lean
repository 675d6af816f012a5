import EntityHub.Double.Reading
import EntityHub.Double.Shortest
/-!
# JSON numbers

A number text without fraction and exponent is held as an integer if it fits 64 bits, signed
when it is negative and unsigned otherwise. Every other number is held as a double, and so is
`-0`. A number too large for a double cannot be held.
-/

namespace EntityHub.Json

/-- A number as it is held. -/
inductive Number where
  | integer (n : Int) (inRange : -0x8000000000000000 ≤ n ∧ n < 0x10000000000000000)
  /-- A finite double, by its bits. -/
  | double (bits : UInt64)
deriving DecidableEq

/-- The parts of a number text. Digits are given by their values. -/
structure NumberText where
  negative : Bool
  whole : List Nat
  fraction : List Nat := []
  /-- The exponent, if one is written. -/
  exponent : Option Int := none
  /-- A decimal point is written. -/
  point : Bool := false

namespace NumberText

/-- The largest significand that is carried. -/
def maxSignificand : Nat := 0xFFFFFFFFFFFFFFFF

/-- The value of a list of digits. -/
def value (digits : List Nat) : Nat := digits.foldl (fun n d => n * 10 + d) 0

/-- A significand and the power of ten it stands for. -/
structure Scaled where
  significand : Nat
  exponent : Int
  /-- A digit did not fit, and the digits after it are dropped too. -/
  full : Bool := false

/-- Takes the next digit before the point. A dropped digit counts as a power of ten. -/
def Scaled.pushWhole (s : Scaled) (digit : Nat) : Scaled :=
  let n := s.significand * 10 + digit
  if s.full || maxSignificand < n then { s with full := true, exponent := s.exponent + 1 }
  else { s with significand := n }

/-- Takes the next digit after the point. A dropped digit counts for nothing. -/
def Scaled.pushFraction (s : Scaled) (digit : Nat) : Scaled :=
  let n := s.significand * 10 + digit
  if s.full || maxSignificand < n then { s with full := true }
  else { s with significand := n, exponent := s.exponent - 1 }

/-- The significand and power of ten of a number text. -/
def scaled (t : NumberText) : Scaled :=
  let w := t.whole.foldl Scaled.pushWhole ⟨0, 0, false⟩
  let f := t.fraction.foldl Scaled.pushFraction { w with full := false }
  { f with exponent := f.exponent + t.exponent.getD 0 }

/-- The number as a double, unless it is too large for one. -/
def double? (t : NumberText) : Option Number :=
  let s := t.scaled
  (Double.ofDecimal? (.ofNat s.significand) s.exponent).map fun f =>
    .double (if t.negative then -f else f).toBits

/-- The number that a text stands for, unless it is too large. -/
def number? (t : NumberText) : Option Number :=
  if t.point ∨ t.exponent.isSome then t.double?
  else
    let n : Int := value t.whole
    if t.negative then
      if h : 0 < n ∧ n ≤ 0x8000000000000000 then some (.integer (-n) (by omega)) else t.double?
    else if h : 0 ≤ n ∧ n < 0x10000000000000000 then some (.integer n (by omega)) else t.double?

end NumberText

namespace Number

/-- The digits of a positive decimal without zeros at the end, and its exponent. -/
def significant (d : Double.Decimal) : List Char × Int :=
  let digits := Nat.toDigits 10 d.digits
  let kept := (digits.reverse.dropWhile (· = '0')).reverse
  (kept, d.exponent + (digits.length - kept.length))

/-- The text of a finite double: positional from `1e-5` up to below `1e16`, with at least one
digit on each side of the point, and otherwise with an exponent, which has a sign. -/
def doubleText (bits : UInt64) : String :=
  let sign := if Double.isNegative bits then "-" else ""
  let d := Double.Dyadic.ofBits bits
  if d.mantissa = 0 then sign ++ "0.0"
  else
    let (digits, k) := significant d.shortest
    let point := digits.length + k
    let zeros (n : Int) : List Char := List.replicate n.toNat '0'
    let text : List Char :=
      if 0 ≤ k ∧ point ≤ 16 then digits ++ zeros k ++ ['.', '0']
      else if 0 < point ∧ point ≤ 16 then
        digits.take point.toNat ++ '.' :: digits.drop point.toNat
      else if -5 < point ∧ point ≤ 0 then '0' :: '.' :: zeros (-point) ++ digits
      else
        let mark := if 0 < point then ['e', '+'] else ['e']
        let exponent := mark ++ (toString (point - 1)).toList
        match digits with
        | [c] => c :: exponent
        | c :: rest => c :: '.' :: rest ++ exponent
        | [] => exponent
    sign ++ .ofList text

/-- The text of a number. -/
def text : Number → String
  | .integer n _ => toString n
  | .double bits => doubleText bits

end Number

end EntityHub.Json
