namespace AlarmScheduler

inductive Binary64 where
  | nan
  | infinite (negative : Bool)
  | finite (negative : Bool) (mantissa : Nat) (exponent : Int)
  deriving DecidableEq, Repr

namespace Binary64

def leastExponent : Int := -1074

def greatestExponent : Int := 971

def nearest (num den : Nat) : Nat :=
  let q := num / den
  let twice := 2 * (num % den)
  if twice < den then q
  else if den < twice then q + 1
  else if q % 2 = 0 then q
  else q + 1

def scaled (num den : Nat) (q : Int) : Nat × Nat :=
  if q < 0 then (num * Nat.pow 2 q.natAbs, den) else (num, den * Nat.pow 2 q.natAbs)

def exponentOf (num den : Nat) : Int :=
  let q : Int := (num.log2 : Int) - den.log2 - 53
  let (n, d) := scaled num den q
  max leastExponent (if n / d < Nat.pow 2 53 then q else q + 1)

def ofRatio (negative : Bool) (num den : Nat) : Binary64 :=
  let q := exponentOf num den
  let (n, d) := scaled num den q
  let m := nearest n d
  let (m, q) := if m = Nat.pow 2 53 then (Nat.pow 2 52, q + 1) else (m, q)
  if greatestExponent < q then infinite negative else finite negative m q

/-- A number 400 places away from one is out of all bounds, whatever its digits. -/
def ofDecimal (negative : Bool) (digits : Nat) (exponent : Int) : Binary64 :=
  let places : Int := (Nat.toDigits 10 digits).length + exponent
  if digits = 0 ∨ places < -400 then finite negative 0 leastExponent
  else if 400 < places then infinite negative
  else if exponent < 0 then ofRatio negative digits (Nat.pow 10 exponent.natAbs)
  else ofRatio negative (digits * Nat.pow 10 exponent.natAbs) 1

end Binary64

end AlarmScheduler

namespace AlarmScheduler.Binary64

/-- The numbers that round to one binary number: from halfway down to halfway up, with both ends
where the span is closed. -/
structure Span where
  low : Nat
  value : Nat
  high : Nat
  den : Nat
  closed : Bool
  deriving DecidableEq, Repr

def Span.of (m : Nat) (q : Int) : Span :=
  let down := if m = Nat.pow 2 52 ∧ leastExponent < q then 1 else 2
  let (unit, den) := scaled 1 1 (2 - q)
  { low := (4 * m - down) * unit, value := 4 * m * unit, high := (4 * m + 2) * unit,
    den := den, closed := m % 2 == 0 }

structure Digits where
  digits : Nat
  exponent : Int
  deriving DecidableEq, Repr

namespace Span

def holds (s : Span) (num den : Nat) : Bool :=
  if s.closed then s.low * den ≤ num * s.den && num * s.den ≤ s.high * den
  else s.low * den < num * s.den && num * s.den < s.high * den

/-- Tries the two points of the grid of `10 ^ k` next to the number, the nearer one first. -/
def pointOn? (s : Span) (k : Int) : Option Digits :=
  let up := if k < 0 then 1 else Nat.pow 10 k.natAbs
  let down := if k < 0 then Nat.pow 10 k.natAbs else 1
  let below := s.value * down / (s.den * up)
  let left := s.value * down - below * (s.den * up)
  let nearer := if 2 * left < s.den * up then below else below + 1
  let farther := if 2 * left < s.den * up then below + 1 else below
  if s.holds (nearer * up) down then some ⟨nearer, k⟩
  else if s.holds (farther * up) down then some ⟨farther, k⟩
  else none

def search (s : Span) : Nat → Digits
  | 0 => ⟨0, 0⟩
  | n + 1 => (s.pointOn? ((n : Int) - 400)).getD (s.search n)

end Span

def shortest (m : Nat) (q : Int) : Digits :=
  if m = 0 then ⟨0, 0⟩ else (Span.of m q).search 711

def Digits.positional (d : Digits) : List Char :=
  let digits := Nat.toDigits 10 d.digits
  if 0 ≤ d.exponent then digits ++ List.replicate d.exponent.natAbs '0' ++ ['.', '0']
  else
    let places := d.exponent.natAbs
    let padded := List.replicate (places + 1 - digits.length) '0' ++ digits
    padded.take (padded.length - places) ++ '.' :: padded.drop (padded.length - places)

def sign (negative : Bool) : String := if negative then "-" else ""

def text : Binary64 → String
  | nan => "NaN"
  | infinite negative => sign negative ++ "inf"
  | finite negative m q => sign negative ++ String.ofList (shortest m q).positional

end AlarmScheduler.Binary64
