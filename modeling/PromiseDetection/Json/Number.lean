import PromiseDetection.Json.Binary64

/-!
Numbers as they stand in JSON texts.

A number without fraction and exponent that fits into 64 bits is whole; every other number is a
floating-point number. Its digits are taken as long as they make up a whole number of 64 bits, and
then shifted by the power of ten that is left.
-/

namespace PromiseDetection.Json

inductive Number where
  | whole (value : Int)
  | float (negative : Bool) (size : Binary64)
  deriving DecidableEq

namespace Number

/-- Appends digits to a whole number as long as 64 bits hold it. The digits that are left are only
counted. -/
def gather (value : Nat) : List Nat → Nat × Nat
  | [] => (value, 0)
  | digit :: rest =>
    if value * 10 + digit < Nat.pow 2 64 then gather (value * 10 + digit) rest
    else (value, rest.length + 1)

/-- The number with these digits before and after the point and with this exponent, unless it is out
of range. -/
def ofParts? (negative : Bool) (before : List Nat) (after? : Option (List Nat))
    (exponent? : Option Int) : Option Number := do
  let (value, left) := gather 0 before
  let isWhole := after?.isNone && exponent?.isNone && left = 0
  if isWhole && !negative then return .whole value
  else if isWhole && 0 < value && value ≤ Nat.pow 2 63 then return .whole (-value)
  else
    let after := after?.getD []
    let (value, unread) := gather value after
    let exponent := exponent?.getD 0 + left - (after.length - unread : Nat)
    return .float negative (← (← Binary64.ofNat? value).shift? exponent)

end Number

end PromiseDetection.Json
