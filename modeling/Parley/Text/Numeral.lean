import Parley.Text.Blank
import Parley.Text.Case

/-!
# Numbers and truth values written as text

Forms and environment variables bring numbers as text, so the readers here are generous: white space
around a number, a sign, single underscores between digits and leading zeros are all accepted, a whole
number may carry a fraction of zeros, and a floating one may be written in any of the usual ways.
-/

namespace Parley.Text

/-- The value of decimal digits, if there is at least one and nothing else. -/
def digits? (cs : List Char) : Option Nat :=
  if cs.isEmpty || !cs.all Char.isDigit then none
  else some (cs.foldl (fun n c => n * 10 + (c.toNat - 48)) 0)

/-- Whether two underscores follow one another. -/
def hasDoubleUnderscore : List Char → Bool
  | a :: b :: rest => (a == '_' && b == '_') || hasDoubleUnderscore (b :: rest)
  | _ => false

/-- Takes out underscores, if each of them stands alone inside the text. -/
def dropUnderscores? (cs : List Char) : Option (List Char) :=
  if cs.head? == some '_' || cs.getLast? == some '_' || hasDoubleUnderscore cs then none
  else some (cs.filter (· != '_'))

/-- Splits off a sign: whether it is a minus, and the rest. -/
def sign : List Char → Bool × List Char
  | '-' :: rest => (true, rest)
  | '+' :: rest => (false, rest)
  | cs => (false, cs)

/-- Takes off a decimal point followed by zeros only. -/
def dropZeroFraction (cs : List Char) : List Char :=
  let tail := cs.dropWhile (· != '.')
  if !tail.isEmpty && (tail.drop 1).all (· == '0') then cs.takeWhile (· != '.') else cs

/-- Reads a whole number. -/
def whole? (s : String) : Option Int :=
  let body := sign (trimChars isSpacing s.toList)
  match dropUnderscores? (dropZeroFraction body.2) with
  | none => none
  | some cs => (digits? cs).map fun n => if body.1 then -(n : Int) else (n : Int)

/-- The floating number `digits · 10 ^ exponent`, correctly rounded. Beyond the exponents below, the
result is zero or infinite whatever the digits are. -/
def scaled (digits : Nat) (exponent : Int) : Float :=
  let size : Int := (Nat.toDigits 10 digits).length
  if digits = 0 then 0.0
  else if 400 < size + exponent then Float.ofBits 0x7FF0000000000000
  else if size + exponent < -400 then 0.0
  else if 0 ≤ exponent then Float.ofScientific digits false exponent.toNat
  else Float.ofScientific digits true (-exponent).toNat

/-- Digits, possibly none. -/
def digitsOrNone? (cs : List Char) : Option Nat :=
  if cs.isEmpty then some 0 else digits? cs

/-- Reads an unsigned decimal: digits, a point, digits, and an exponent, of which the point with what
follows and the exponent may be missing, and the digits on one side of the point. -/
def decimal? (cs : List Char) : Option Float :=
  let isMark : Char → Bool := fun c => c == 'e' || c == 'E'
  let mantissa := cs.takeWhile fun c => !isMark c
  let tail := cs.dropWhile fun c => !isMark c
  let before := mantissa.takeWhile (· != '.')
  let after := (mantissa.dropWhile (· != '.')).drop 1
  if before.isEmpty && after.isEmpty then none
  else
    let power? : Option Int :=
      if tail.isEmpty then some 0
      else
        let signed := sign (tail.drop 1)
        (digits? signed.2).map fun n => if signed.1 then -(n : Int) else (n : Int)
    match digitsOrNone? before, digitsOrNone? after, power? with
    | some _, some _, some power =>
      (digits? (before ++ after)).map fun n => scaled n (power - after.length)
    | _, _, _ => none

/-- Reads an unsigned floating number, or one of the words for those that are not finite. -/
def unsigned? (cs : List Char) : Option Float :=
  let word := String.ofList (cs.map Char.toLower)
  if word == "inf" || word == "infinity" then some (Float.ofBits 0x7FF0000000000000)
  else if word == "nan" then some (Float.ofBits 0x7FF8000000000000)
  else decimal? cs

/-- Reads a floating number. -/
def floating? (s : String) : Option Float :=
  let cs := trimChars isSpacing s.toList
  let read : List Char → Option Float := fun cs =>
    let body := sign cs
    (unsigned? body.2).map fun x => if body.1 then -x else x
  match read cs with
  | some x => some x
  | none => (dropUnderscores? cs).bind read

/-- The words for true. -/
def trueWords : List String := ["1", "t", "true", "y", "yes", "on"]

/-- The words for false. -/
def falseWords : List String := ["0", "f", "false", "n", "no", "off"]

/-- Reads a truth value, in any case. -/
def truth? (s : String) : Option Bool :=
  let word := lower s
  if trueWords.contains word then some true
  else if falseWords.contains word then some false
  else none

end Parley.Text
