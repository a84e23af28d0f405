import Parley.Decimal.Shortest

/-!
# Writing floating numbers

How the shortest decimal of a number is laid out is a choice, and `Notation` is that choice as data:
where positional writing ends, whether a whole number keeps a fraction, how wide an exponent is, and
the words for the numbers that are not finite. `plain` is the one that the library writes.
-/

namespace Parley.Decimal

/-- The layout of a floating number. -/
structure Layout where
  /-- The first digit's power of ten from which, and below which, digits are written positionally. -/
  least : Int
  most : Int
  /-- What follows the digits of a whole number written positionally. -/
  wholeTail : String
  /-- The least count of digits of an exponent, which always has a sign. -/
  exponentDigits : Nat
  infinity : String
  notANumber : String

/-- Positional from `0.0001` up to below `10 ^ 16`, whole numbers with `.0`, exponents with a sign and
two digits. -/
def plain : Layout := ⟨-4, 16, ".0", 2, "inf", "nan"⟩

namespace Layout

/-- `n` zeros. -/
def zeros (n : Nat) : String := String.ofList (List.replicate n '0')

/-- Writes a positive decimal. -/
def positive (l : Layout) (s : Scientific) : String :=
  let digits := Nat.toDigits 10 s.digits
  let count := digits.length
  let lead : Int := s.exponent + count - 1
  if l.least ≤ lead ∧ lead < l.most then
    if 0 ≤ s.exponent then
      String.ofList digits ++ zeros s.exponent.toNat ++ l.wholeTail
    else if 0 ≤ lead then
      let cut := (lead + 1).toNat
      String.ofList (digits.take cut) ++ "." ++ String.ofList (digits.drop cut)
    else "0." ++ zeros (-lead - 1).toNat ++ String.ofList digits
  else
    let tail := digits.drop 1
    let mantissa := String.ofList (digits.take 1) ++
      (if tail.isEmpty then "" else "." ++ String.ofList tail)
    let size := Nat.repr lead.natAbs
    mantissa ++ "e" ++ (if lead < 0 then "-" else "+") ++
      zeros (l.exponentDigits - size.length) ++ size

/-- Writes a floating number. -/
def write (l : Layout) (x : Float) : String :=
  let sign : Bool → String := fun negative => if negative then "-" else ""
  match parts x with
  | .notANumber => l.notANumber
  | .infinite negative => sign negative ++ l.infinity
  | .finite b =>
    sign b.negative ++
      (if b.magnitude = 0 then "0" ++ l.wholeTail else l.positive (shortest b.magnitude b.exponent))

end Layout

end Parley.Decimal
