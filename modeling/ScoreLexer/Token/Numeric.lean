import ScoreLexer.Decimal.Basic

namespace ScoreLexer

inductive NumericValue where
  | decimal (value : Float)
  | fraction (numerator : Int) (denominator : Nat)

namespace NumericValue

-- The greatest denominator, and the bounds of a numerator.
def maxUnsigned : Nat := 0xFFFFFFFFFFFFFFFF
def maxSigned : Nat := 0x7FFFFFFFFFFFFFFF

-- The number spelled by the digits of a text, all else skipped, cut off at the greatest
-- denominator after every digit.
def saturatingDigits (text : Text) : Nat :=
  (text.filter Text.isAsciiDigit).foldl
    (fun n c => min (min (10 * n) maxUnsigned + (c.toNat - '0'.toNat)) maxUnsigned) 0

def signedDigits : Text → Int
  | '-' :: digits =>
      let n := saturatingDigits digits
      if n ≤ maxSigned then -(n : Int) else -(maxSigned : Int) - 1
  | digits =>
      let n := saturatingDigits digits
      if n ≤ maxSigned then n else maxSigned

-- Any text has a value: one that is no decimal number is worth its digits before the first point.
def wholePart (text : Text) : Float :=
  let value := Float.ofNat (saturatingDigits (text.takeWhile (· != '.')))
  if text.head? == some '-' then -value else value

def parse (text : Text) : NumericValue :=
  match Text.splitOnce? '/' text with
  | some (numerator, denominator) =>
      .fraction (signedDigits numerator) (saturatingDigits denominator)
  | none => .decimal ((readFloat? text).getD (wholePart text))

-- A fraction over zero is no number.
def toFloat : NumericValue → Float
  | .decimal value => value
  | .fraction numerator denominator =>
      if denominator = 0 then 0.0 / 0.0 else Float.ofInt numerator / Float.ofNat denominator

end NumericValue

end ScoreLexer
