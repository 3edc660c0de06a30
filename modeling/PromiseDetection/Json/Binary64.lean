/-!
Floating-point numbers of 64 bits, as far as JSON texts need them.

A finite number is a significand below `2 ^ 53` times a power of two. A fraction is rounded to the
nearest number, and to the one with the even significand where two are equally near. A number that
is too great has no nearest one.
-/

namespace PromiseDetection.Json

/-- The finite numbers that are not negative. -/
structure Binary64 where
  significand : Nat
  exponent : Int
  short : significand < Nat.pow 2 53
  small : exponent ≤ 971
  deriving DecidableEq

namespace Binary64

def zero : Binary64 := { significand := 0, exponent := 0, short := by decide, small := by decide }

instance : Inhabited Binary64 := ⟨zero⟩

def leastExponent : Int := -1074

/-- A quotient as a whole number, the even one of two that are equally near. -/
def roundedQuotient (numerator denominator : Nat) : Nat :=
  let quotient := numerator / denominator
  let rest := 2 * (numerator % denominator)
  if rest < denominator ∨ (rest = denominator ∧ quotient % 2 = 0) then quotient else quotient + 1

def scaledDown (numerator denominator : Nat) (exponent : Int) : Nat × Nat :=
  (numerator * Nat.pow 2 (-exponent).toNat, denominator * Nat.pow 2 exponent.toNat)

/-- The exponent of the number next to a fraction: its significand fills 53 bits, unless the number
is very close to zero. -/
def exponentOf (numerator denominator : Nat) : Int :=
  let guess : Int := numerator.log2 - denominator.log2 - 53
  let (above, below) := scaledDown numerator denominator guess
  max leastExponent (if above / below < Nat.pow 2 53 then guess else guess + 1)

def nearest? (numerator denominator : Nat) : Option Binary64 :=
  let exponent := exponentOf numerator denominator
  let (above, below) := scaledDown numerator denominator exponent
  let rounded := roundedQuotient above below
  if rounded = 0 then some zero
  else
    let (significand, exponent) :=
      if rounded = Nat.pow 2 53 then (Nat.pow 2 52, exponent + 1) else (rounded, exponent)
    if bounds : significand < Nat.pow 2 53 ∧ exponent ≤ 971 then
      some { significand, exponent, short := bounds.1, small := bounds.2 }
    else none

def numerator (value : Binary64) : Nat := value.significand * Nat.pow 2 value.exponent.toNat

def denominator (value : Binary64) : Nat := Nat.pow 2 (-value.exponent).toNat

def times? (value other : Binary64) : Option Binary64 :=
  nearest? (value.numerator * other.numerator) (value.denominator * other.denominator)

def over? (value other : Binary64) : Option Binary64 :=
  nearest? (value.numerator * other.denominator) (value.denominator * other.numerator)

def ofNat? (value : Nat) : Option Binary64 := nearest? value 1

def greatestPower : Nat := 308

/-- Multiplies by a power of ten. Each step is rounded by itself, and a step changes the exponent by
no more than the greatest power. -/
def shift? (value : Binary64) (exponent : Int) : Option Binary64 := do
  if exponent.natAbs ≤ greatestPower then
    let power ← ofNat? (Nat.pow 10 exponent.natAbs)
    if 0 ≤ exponent then value.times? power else value.over? power
  else if value.significand = 0 then return value
  else if 0 ≤ exponent then none
  else
    let power ← ofNat? (Nat.pow 10 greatestPower)
    (← value.over? power).shift? (exponent + greatestPower)
termination_by exponent.natAbs
decreasing_by simp only [greatestPower] at *; omega

/-- The digits before the point of a fraction, or the zeros behind it, as a negative number. -/
def places (numerator denominator : Nat) : Int :=
  let isWritten (zeros : Nat) : Bool := denominator ≤ numerator * Nat.pow 10 (zeros + 1)
  if denominator ≤ numerator then (Nat.toDigits 10 (numerator / denominator)).length
  else -((List.range 325).findIdx isWritten : Int)

def reads (value : Binary64) (digits : Nat) (exponent : Int) : Bool :=
  nearest? (digits * Nat.pow 10 exponent.toNat) (Nat.pow 10 (-exponent).toNat) = some value

/-- The digits next to a number, the nearest ones first, if their last one has this exponent. -/
def neighbours (value : Binary64) (exponent : Int) : List Nat :=
  let above := value.numerator * Nat.pow 10 (-exponent).toNat
  let below := value.denominator * Nat.pow 10 exponent.toNat
  let near := roundedQuotient above below
  if near = above / below then [near, near + 1] else [near, above / below]

/-- Digits and the exponent of the last one, such that a number is read from them: as few digits as
possible, and of those the ones that come nearest. -/
def shortest (value : Binary64) : Nat × Int :=
  let exponents := (List.range 17).map fun (more : Nat) =>
    places value.numerator value.denominator - (more + 1)
  let found? := exponents.findSome? fun exponent =>
    ((value.neighbours exponent).find? fun digits => value.reads digits exponent).map fun digits =>
      (digits, exponent)
  found?.getD (value.significand, 0)

end Binary64

end PromiseDetection.Json
