/-!
# The shortest decimal of a floating number

A finite floating number is `m · 2 ^ q` for whole `m` and `q`. Every real between the midpoints to its
two neighbours is read back as that number (the midpoints too when `m` is even), so it may be
written by any decimal in that interval. The one written here has as few digits as possible, and is
the nearest of those.

For a given count of digits the decimals form a grid, and if a point of the grid lies in the interval
then so does one of the two grid points around the number. It is therefore enough to test these two
for one digit, two digits, and so on; seventeen always suffice.
-/

namespace Parley.Decimal

/-- A finite floating number, exactly: `magnitude · 2 ^ exponent`, negated if `negative`. -/
structure Binary where
  negative : Bool
  magnitude : Nat
  exponent : Int
  deriving DecidableEq

/-- What a floating number is. -/
inductive Parts where
  | finite (b : Binary)
  | infinite (negative : Bool)
  | notANumber
  deriving DecidableEq

/-- A power of two. -/
def twoPow (k : Nat) : Nat := Nat.pow 2 k

/-- A power of ten. -/
def tenPow (k : Nat) : Nat := Nat.pow 10 k

/-- Reads the fields of the number's 64 bits. -/
def parts (x : Float) : Parts :=
  let bits := x.toBits.toNat
  let negative := decide (bits / twoPow 63 = 1)
  let biased : Nat := bits / twoPow 52 % twoPow 11
  let fraction : Nat := bits % twoPow 52
  if biased = 2047 then
    if fraction = 0 then .infinite negative else .notANumber
  else if biased = 0 then .finite ⟨negative, fraction, -1074⟩
  else .finite ⟨negative, fraction + twoPow 52, (biased : Int) - 1075⟩

/-- The whole number that a floating number is, if it is one. -/
def whole? (x : Float) : Option Int :=
  match parts x with
  | .finite b =>
    let signed : Nat → Int := fun n => if b.negative then -(n : Int) else n
    if 0 ≤ b.exponent then some (signed (b.magnitude * twoPow b.exponent.toNat))
    else
      let den := twoPow (-b.exponent).toNat
      if b.magnitude % den = 0 then some (signed (b.magnitude / den)) else none
  | _ => none

/-- A positive decimal `digits · 10 ^ exponent`, with no zero at the end of `digits`. -/
structure Scientific where
  digits : Nat
  exponent : Int
  deriving DecidableEq, Repr

/-- The count of decimal digits of a number. -/
def length (n : Nat) : Nat :=
  (Nat.toDigits 10 n).length

/-- Moves the zeros at the end of the digits into the exponent, at most `fuel` of them. -/
def strip : Nat → Scientific → Scientific
  | 0, s => s
  | fuel + 1, s =>
    if s.digits % 10 = 0 ∧ s.digits ≠ 0 then strip fuel ⟨s.digits / 10, s.exponent + 1⟩ else s

/-- The interval of reals read back as a number, over a common denominator. -/
structure Interval where
  low : Nat
  value : Nat
  high : Nat
  den : Nat
  closed : Bool

/-- The interval of `m · 2 ^ q`. Below a power of two the lower neighbour is half as far away. -/
def interval (m : Nat) (q : Int) : Interval :=
  let below := if m = twoPow 52 ∧ -1074 < q then 1 else 2
  let scale := if 2 ≤ q then twoPow (q - 2).toNat else 1
  let den := if 2 ≤ q then 1 else twoPow (2 - q).toNat
  ⟨(4 * m - below) * scale, 4 * m * scale, (4 * m + 2) * scale, den, m % 2 == 0⟩

/-- Whether the point `p / d` lies in the interval. -/
def Interval.holds (i : Interval) (p d : Nat) : Bool :=
  let low := i.low * d
  let high := i.high * d
  let point := p * i.den
  if i.closed then decide (low ≤ point ∧ point ≤ high) else decide (low < point ∧ point < high)

/-- The power of ten of the first digit of the interval's number. -/
def Interval.leading (i : Interval) : Int :=
  if i.den ≤ i.value then (length (i.value / i.den) : Int) - 1
  else -(length (i.den / i.value) : Int)

/-- The decimal with `count` digits that is read back as the number, if there is one: the nearer of
the two around the number, the even one when they are equally near. -/
def Interval.withDigits? (i : Interval) (count : Nat) : Option Scientific :=
  let e := i.leading - (count : Int) + 1
  let up := if 0 ≤ e then tenPow e.toNat else 1
  let down := if 0 ≤ e then 1 else tenPow (-e).toNat
  -- the grid points are `d * up / down`
  let d := i.value * down / (i.den * up)
  let rest := i.value * down - d * (i.den * up)
  let below := i.holds (d * up) down && d != 0
  let above := i.holds ((d + 1) * up) down
  if below && above then
    if 2 * rest < i.den * up ∨ (2 * rest = i.den * up ∧ d % 2 = 0) then some ⟨d, e⟩
    else some ⟨d + 1, e⟩
  else if below then some ⟨d, e⟩
  else if above then some ⟨d + 1, e⟩
  else none

/-- The shortest decimal of a positive `m · 2 ^ q`. -/
def shortest (m : Nat) (q : Int) : Scientific :=
  let i := interval m q
  match (List.range 17).findSome? fun n => i.withDigits? (n + 1) with
  | some s => strip 17 s
  | none => ⟨0, 0⟩

end Parley.Decimal
