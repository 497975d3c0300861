import ScoreLexer.Text.Basic
import ScoreLexer.Text.WordChar

namespace ScoreLexer

structure Decimal where
  negative : Bool
  digits : Nat
  exponent : Int
deriving DecidableEq, Repr

namespace Decimal

def ofDigits (text : Text) : Nat := text.foldl (fun n c => 10 * n + (c.toNat - '0'.toNat)) 0

def exponent? : Text → Option Int
  | '-' :: digits => magnitude? digits |>.map fun n => -(n : Int)
  | '+' :: digits => magnitude? digits |>.map Int.ofNat
  | digits => magnitude? digits |>.map Int.ofNat
where
  magnitude? (digits : Text) : Option Nat :=
    if !digits.isEmpty && digits.all Text.isAsciiDigit then some (ofDigits digits) else none

-- A number without its sign: digits, optionally a point and digits, optionally an exponent. At
-- least one digit stands beside the point.
def unsigned? (negative : Bool) (text : Text) : Option Decimal :=
  let whole := text.takeWhile Text.isAsciiDigit
  let afterWhole := text.dropWhile Text.isAsciiDigit
  let (places, tail) := match afterWhole with
    | '.' :: more => (more.takeWhile Text.isAsciiDigit, more.dropWhile Text.isAsciiDigit)
    | _ => ([], afterWhole)
  if whole.isEmpty && places.isEmpty then none
  else
    let digits := ofDigits (whole ++ places)
    match tail with
    | [] => some ⟨negative, digits, -places.length⟩
    | c :: power =>
        if c == 'e' || c == 'E' then
          (exponent? power).map fun e => ⟨negative, digits, e - places.length⟩
        else none

-- The number of decimal digits of a number, 0 for 0.
def width (n : Nat) : Nat := if n = 0 then 0 else (Nat.toDigits 10 n).length

-- The floating-point number nearest to the decimal. Powers far outside the range of such
-- numbers are settled without computing them.
def toFloat (decimal : Decimal) : Float :=
  let size := (width decimal.digits : Int) + decimal.exponent
  let magnitude : Float :=
    if decimal.digits = 0 || size < -400 then 0.0
    else if 400 < size then 1.0 / 0.0
    else match decimal.exponent with
      | .ofNat e => Float.ofScientific decimal.digits false e
      | .negSucc e => Float.ofScientific decimal.digits true (e + 1)
  if decimal.negative then -magnitude else magnitude

end Decimal

-- The floating-point number a text spells: a decimal number, an infinity or no number, the
-- last two in any case, after an optional sign.
def readFloat? (text : Text) : Option Float :=
  let (negative, body) := match text with
    | '-' :: more => (true, more)
    | '+' :: more => (false, more)
    | _ => (false, text)
  let lowered := body.map Char.toLower
  if lowered == "inf".toList || lowered == "infinity".toList then
    some (if negative then -(1.0 / 0.0) else 1.0 / 0.0)
  else if lowered == "nan".toList then some (0.0 / 0.0)
  else (Decimal.unsigned? negative body).map Decimal.toFloat

end ScoreLexer
